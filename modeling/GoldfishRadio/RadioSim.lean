import GoldfishRadio.Base64
import GoldfishRadio.AtResponse.Basic

/-!
# Byte walks of `RadioSim`

`parseAuthData` reads the length-prefixed RAND and AUTN of an authentication request, and
`convertUsimToSim` turns a USIM FCP template into a SIM `GET RESPONSE`. Every `v[i]` goes
through `readAt`, which stops with `.error i` at the first index past the end. For AKA,
`parseAuthData` reads the AUTN length at `1 + randLen` unchecked, and the TLV walk of
`convertUsimToSim` reads its length byte and fixed offsets unchecked.
-/

namespace GoldfishRadio

namespace RadioSim

open Base64

/-- `v[i]` on a `std::vector<uint8_t>`: the element, or `.error i` for an index at or
past the end. -/
def readAt (v : List UInt8) (i : Nat) : Except Nat UInt8 :=
  match v[i]? with
  | some x => .ok x
  | none => .error i

/-- `std::vector(&v[lo], &v[hi])`: the elements from `lo` up to `hi`, read in order. -/
def readRange (v : List UInt8) (lo hi : Nat) : Except Nat (List UInt8) :=
  (List.range' lo (hi - lo)).mapM (readAt v)

@[simp] theorem ok_bind {α β : Type} (a : α) (f : α → Except Nat β) : (Except.ok a >>= f) = f a :=
  rfl

@[simp] theorem error_bind {α β : Type} (i : Nat) (f : α → Except Nat β) :
    (Except.error i >>= f : Except Nat β) = .error i := rfl

theorem readAt_of_lt {v : List UInt8} {i : Nat} (h : i < v.length) : readAt v i = .ok v[i] := by
  simp [readAt, List.getElem?_eq_getElem h]

theorem readAt_of_le {v : List UInt8} {i : Nat} (h : v.length ≤ i) : readAt v i = .error i := by
  simp [readAt, List.getElem?_eq_none h]

theorem readRange_of_le {v : List UInt8} {lo hi : Nat} (h : hi ≤ v.length) :
    readRange v lo hi = .ok ((v.drop lo).take (hi - lo)) := by
  unfold readRange
  generalize hn : hi - lo = n
  induction n generalizing lo with
  | zero => simp [List.range']; rfl
  | succ n ih =>
    have hlo : lo < v.length := by omega
    simp only [List.range', List.mapM_cons, readAt_of_lt hlo, @ih (lo + 1) (by omega),
      List.drop_eq_getElem_cons hlo, List.take_succ_cons]
    rfl

/-- `AuthContext::SIM`. -/
def kSIM : Int := 128

/-- `AuthContext::AKA`. -/
def kAKA : Int := 129

/-- `parseAuthData`: `authData64 = base64([randLen][rand][authLen][auth])`. The context is
the caller's `int` cast to `AuthContext`; any other value gets `REQUEST_NOT_SUPPORTED`
once both fields are read. -/
def parseAuthData (authContext : Int) (authData64 : List Char) :
    Except Nat (RadioError × List UInt8 × List UInt8) :=
  match base64decode authData64 with
  | none => .ok (.INVALID_ARGUMENTS, [], [])
  | some authData =>
    if authData.length = 0 then .ok (.INVALID_ARGUMENTS, [], [])
    else readAt authData 0 >>= fun randLen =>
      if authData.length < 1 + randLen.toNat then .ok (.INVALID_ARGUMENTS, [], [])
      else readRange authData 1 (1 + randLen.toNat) >>= fun rand =>
        if authContext = kSIM then .ok (.NONE, rand, [])
        else readAt authData (1 + randLen.toNat) >>= fun authLen =>
          if authData.length < 1 + randLen.toNat + 1 + authLen.toNat then
            .ok (.INVALID_ARGUMENTS, [], [])
          else readRange authData (1 + randLen.toNat + 1) (1 + randLen.toNat + 1 + authLen.toNat)
              >>= fun auth =>
            if authContext = kAKA then .ok (.NONE, rand, auth)
            else .ok (.REQUEST_NOT_SUPPORTED, [], [])

/- A decoded buffer is `[randLen] ++ rest`. Either `rest` is shorter than `randLen`
(`INVALID_ARGUMENTS`), or it is RAND followed by `more`: for SIM that is the end; for
any other context `more` is empty, where the AUTN length is read one past the end, or it
is `[authLen] ++ auth`. -/

section
variable {s : List Char} {r : UInt8}

theorem parseAuthData_rand {rand more : List UInt8} (authContext : Int)
    (hd : base64decode s = some (r :: (rand ++ more))) (hr : rand.length = r.toNat) :
    parseAuthData authContext s =
      if authContext = kSIM then .ok (.NONE, rand, [])
      else readAt (r :: (rand ++ more)) (1 + r.toNat) >>= fun authLen =>
        if (r :: (rand ++ more)).length < 1 + r.toNat + 1 + authLen.toNat then
          .ok (.INVALID_ARGUMENTS, [], [])
        else readRange (r :: (rand ++ more)) (1 + r.toNat + 1)
            (1 + r.toNat + 1 + authLen.toNat) >>= fun auth =>
          if authContext = kAKA then .ok (.NONE, rand, auth)
          else .ok (.REQUEST_NOT_SUPPORTED, [], []) := by
  have h0 : 0 < (r :: (rand ++ more)).length := by simp
  have hrand : readRange (r :: (rand ++ more)) 1 (1 + r.toNat) = .ok rand := by
    rw [readRange_of_le (by simp; omega)]
    simp [← hr]
  simp only [parseAuthData, hd, readAt_of_lt h0, ok_bind, List.getElem_cons_zero, hrand,
    List.length_cons, List.length_append]
  rw [if_neg (by omega), if_neg (by omega)]

theorem parseAuthData_sim {rand more : List UInt8}
    (hd : base64decode s = some (r :: (rand ++ more))) (hr : rand.length = r.toNat) :
    parseAuthData kSIM s = .ok (.NONE, rand, []) := by
  rw [parseAuthData_rand kSIM hd hr, if_pos rfl]

/-- The read past the end: with nothing after RAND, any context but SIM reads the AUTN
length at index `1 + randLen`, the size of the buffer. -/
theorem parseAuthData_reads_past_end {rand : List UInt8} {authContext : Int}
    (hd : base64decode s = some (r :: rand)) (hr : rand.length = r.toNat)
    (hctx : authContext ≠ kSIM) : parseAuthData authContext s = .error (1 + r.toNat) := by
  have hd' : base64decode s = some (r :: (rand ++ [])) := by simpa using hd
  rw [parseAuthData_rand authContext hd' hr, if_neg hctx,
    readAt_of_le (by simp; omega), error_bind]

theorem parseAuthData_auth {rand auth : List UInt8} {a : UInt8} {authContext : Int}
    (hd : base64decode s = some (r :: (rand ++ a :: auth))) (hr : rand.length = r.toNat)
    (hctx : authContext ≠ kSIM) :
    parseAuthData authContext s =
      if auth.length < a.toNat then .ok (.INVALID_ARGUMENTS, [], [])
      else if authContext = kAKA then .ok (.NONE, rand, auth.take a.toNat)
      else .ok (.REQUEST_NOT_SUPPORTED, [], []) := by
  have hget : (r :: (rand ++ a :: auth))[1 + r.toNat]? = some a := by
    rw [Nat.add_comm, List.getElem?_cons_succ, List.getElem?_append_right (by omega), ← hr,
      Nat.sub_self, List.getElem?_cons_zero]
  rw [parseAuthData_rand authContext hd hr, if_neg hctx]
  simp only [readAt, hget, ok_bind, List.length_cons, List.length_append]
  by_cases hfit : auth.length < a.toNat
  · rw [if_pos (by omega), if_pos hfit]
  · rw [if_neg (by omega), if_neg hfit, readRange_of_le (by simp; omega)]
    have hdrop : (r :: (rand ++ a :: auth)).drop (1 + r.toNat + 1) = auth := by
      rw [show 1 + r.toNat + 1 = (rand ++ [a]).length + 1 by simp; omega, List.drop_succ_cons,
        show rand ++ a :: auth = (rand ++ [a]) ++ auth by simp, List.drop_left]
    simp only [hdrop, ok_bind, Nat.add_sub_cancel_left]

/-- `AgAA` decodes to `[2, 0, 0]`, a RAND of two bytes and nothing after it, and for AKA
`parseAuthData` reads index 3 of that three-byte buffer. -/
theorem parseAuthData_aka_reads_index_three :
    base64decode "AgAA".toList = some [2, 0, 0] ∧ parseAuthData kAKA "AgAA".toList = .error 3 :=
  ⟨by decide, @parseAuthData_reads_past_end "AgAA".toList 2 [0, 0] kAKA (by decide) rfl (by decide)⟩

end

/-- `USIM_FILE_DES_TAG`. -/
def usimFileDesTag : UInt8 := 0x82

/-- `USIM_FILE_SIZE_TAG`. -/
def usimFileSizeTag : UInt8 := 0x80

/-- `SIM_TYPE_EF`. -/
def simTypeEf : UInt8 := 4

/-- `USIM_TYPE_FILE_DES_LEN`. -/
def usimTypeFileDesLen : UInt8 := 5

/-- The first loop: the first index from `i` on that holds `USIM_FILE_DES_TAG`, `none`
(`return false`) when the end comes first. -/
def findFileDes (bytesUSIM : List UInt8) (i : Nat) : Except Nat (Option Nat) :=
  readAt bytesUSIM i >>= fun x =>
    if x = usimFileDesTag then .ok (some i)
    else if i + 1 ≥ bytesUSIM.length then .ok none
    else findFileDes bytesUSIM (i + 1)
termination_by bytesUSIM.length - i

/-- The second loop, a TLV walk from `desIndex`: at a tag other than `USIM_FILE_SIZE_TAG`
it skips `bytesUSIM[i + 1] + 2` bytes; `none` (`return false`) once it is past the
end. -/
def findFileSize (bytesUSIM : List UInt8) (i : Nat) : Except Nat (Option Nat) :=
  readAt bytesUSIM i >>= fun x =>
    if x = usimFileSizeTag then .ok (some i)
    else readAt bytesUSIM (i + 1) >>= fun len =>
      if i + (len.toNat + 2) ≥ bytesUSIM.length then .ok none
      else findFileSize bytesUSIM (i + (len.toNat + 2))
termination_by bytesUSIM.length - i

/-- The `switch` on the file structure `bytesUSIM[desIndex + 2] & 0x07`: the values of
`SIM_RESPONSE_DATA_STRUCTURE` and `SIM_RESPONSE_DATA_RECORD_LENGTH`, or `none` (`return
false`). A linear fixed file is checked at the fixed offsets 2 and 3 and its record
length read at offset 7, whatever `desIndex` is. -/
def efStructure (bytesUSIM : List UInt8) (desIndex : Nat) : Except Nat (Option (UInt8 × UInt8)) :=
  readAt bytesUSIM (desIndex + 2) >>= fun flag =>
    match (flag &&& 0x07).toNat with
    | 1 => .ok (some (0, 0))
    | 2 =>
      readAt bytesUSIM 2 >>= fun tag =>
        if usimFileDesTag ≠ tag then .ok none
        else readAt bytesUSIM 3 >>= fun len =>
          if usimTypeFileDesLen ≠ len then .ok none
          else readAt bytesUSIM 7 >>= fun recordLength => .ok (some (1, recordLength))
    | 6 => readAt bytesUSIM 7 >>= fun recordLength => .ok (some (3, recordLength))
    | _ => .ok none

/-- `bytesSIM`, the 15 bytes of the SIM response: the file size at 2 and 3, the file type
at 6, the structure at 13 and the record length at 14. -/
def simResponse (size1 size2 struct recordLength : UInt8) : List UInt8 :=
  [0, 0, size1, size2, 0, 0, simTypeEf, 0, 0, 0, 0, 0, 0, struct, recordLength]

/-- `convertUsimToSim`: `some hexSIM` where it returns `true`, `none` where it returns
`false`. -/
def convertUsimToSim (bytesUSIM : List UInt8) : Except Nat (Option (List Char)) :=
  findFileDes bytesUSIM 0 >>= fun
  | none => .ok none
  | some desIndex => findFileSize bytesUSIM desIndex >>= fun
    | none => .ok none
    | some sizeIndex => efStructure bytesUSIM desIndex >>= fun
      | none => .ok none
      | some (struct, recordLength) =>
        readAt bytesUSIM (sizeIndex + 2) >>= fun size1 =>
          readAt bytesUSIM (sizeIndex + 3) >>= fun size2 =>
            .ok (some (bin2hex (simResponse size1 size2 struct recordLength)))

section
variable {bytesUSIM : List UInt8} {i : Nat} {x : UInt8}

theorem findFileDes_of_getElem? (hx : bytesUSIM[i]? = some x) :
    findFileDes bytesUSIM i =
      if x = usimFileDesTag then .ok (some i)
      else if i + 1 ≥ bytesUSIM.length then .ok none
      else findFileDes bytesUSIM (i + 1) := by
  rw [findFileDes]; simp [readAt, hx]

theorem findFileSize_of_getElem? (hx : bytesUSIM[i]? = some x) :
    findFileSize bytesUSIM i =
      if x = usimFileSizeTag then .ok (some i)
      else readAt bytesUSIM (i + 1) >>= fun len =>
        if i + (len.toNat + 2) ≥ bytesUSIM.length then .ok none
        else findFileSize bytesUSIM (i + (len.toNat + 2)) := by
  rw [findFileSize]; simp [readAt, hx]

end

/-- `[0x62, 0x82]` passes the caller's check `bytes.front() == 0x62`. The first scan
finds the tag at index 1; the TLV walk starts there and reads its length byte at index
2, past the end of the two bytes. -/
theorem convertUsimToSim_reads_past_end :
    [0x62, 0x82].head? = some (0x62 : UInt8) ∧ convertUsimToSim [0x62, 0x82] = .error 2 := by
  refine ⟨rfl, ?_⟩
  rw [convertUsimToSim, findFileDes_of_getElem? (show [(0x62 : UInt8), 0x82][0]? = some 0x62 from rfl),
    if_neg (by decide), if_neg (by decide),
    findFileDes_of_getElem? (show [(0x62 : UInt8), 0x82][0 + 1]? = some 0x82 from rfl),
    if_pos (show (0x82 : UInt8) = usimFileDesTag from rfl), ok_bind]
  dsimp only
  rw [findFileSize_of_getElem? (show [(0x62 : UInt8), 0x82][1]? = some 0x82 from rfl),
    if_neg (by decide), readAt_of_le (by decide), error_bind, error_bind]

end RadioSim

end GoldfishRadio
