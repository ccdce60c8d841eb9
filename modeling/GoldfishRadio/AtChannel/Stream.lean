import GoldfishRadio.AtChannel.Messages

/-!
# The reader over a stream of messages

The channel hands the modem's messages to the reader in reads of any size. When every
read ends where the message in progress is `Pending`, and every read that brings no bytes
comes between messages, the reader broadcasts the response of every message once, in
order, as if the stream had arrived in one read. The proof is one induction over the
reads, each an application of `receiveResponsesImpl` (`receiveResponsesImpl_messages`).
-/

namespace GoldfishRadio

namespace AtChannel

open AtResponse

variable {kUnknown : Int}

/-- Of the stream made of the messages `bs`, the bytes before position `n` that do not make
up a whole message. -/
def unfinished : List (List Char) → Nat → List Char
  | [], _ => []
  | b :: bs, n => if b.length ≤ n then unfinished bs (n - b.length) else b.take n

/-- How many of the messages `bs` lie whole in the first `n` bytes of their stream. -/
def complete : List (List Char) → Nat → Nat
  | [], _ => 0
  | b :: bs, n => if b.length ≤ n then complete bs (n - b.length) + 1 else 0

theorem take_flatten (bs : List (List Char)) (n : Nat) :
    bs.flatten.take n = (bs.take (complete bs n)).flatten ++ unfinished bs n := by
  induction bs generalizing n with
  | nil => simp [unfinished, complete]
  | cons b bs ih =>
    by_cases h : b.length ≤ n
    · rw [List.flatten_cons, List.take_append_eq_append_take, List.take_of_length_le h, ih,
        complete, unfinished, if_pos h, if_pos h, List.take_succ_cons, List.flatten_cons,
        List.append_assoc]
    · rw [List.flatten_cons, List.take_append_of_le_length (by omega), complete, unfinished,
        if_neg h, if_neg h]
      rfl

theorem complete_mono (bs : List (List Char)) {n n' : Nat} (h : n ≤ n') :
    complete bs n ≤ complete bs n' := by
  induction bs generalizing n n' with
  | nil => exact le_rfl
  | cons b bs ih =>
    unfold complete
    by_cases hb : b.length ≤ n
    · rw [if_pos hb, if_pos (hb.trans h)]
      exact Nat.succ_le_succ (ih (Nat.sub_le_sub_right h _))
    · rw [if_neg hb]
      exact Nat.zero_le _

theorem complete_zero (bs : List (List Char)) (h : ∀ b ∈ bs, b ≠ []) :
    complete bs 0 = 0 ∧ unfinished bs 0 = [] := by
  cases bs with
  | nil => exact ⟨rfl, rfl⟩
  | cons b bs =>
    have hb : ¬ b.length ≤ 0 := by
      have := List.length_pos.mpr (h b (.head _)); omega
    simp [complete, unfinished, hb]

theorem complete_length (bs : List (List Char)) :
    complete bs bs.flatten.length = bs.length ∧ unfinished bs bs.flatten.length = [] := by
  induction bs with
  | nil => exact ⟨rfl, rfl⟩
  | cons b bs ih =>
    simp only [complete, unfinished, List.flatten_cons, List.length_append,
      if_pos (Nat.le_add_right b.length bs.flatten.length), Nat.add_sub_cancel_left, ih,
      List.length_cons, and_self]

/-- **One read on the stream.** The unfinished bytes at `n` and the next `n' - n` bytes of
the stream are the messages that become whole between `n` and `n'`, then the unfinished
bytes at `n'`. -/
theorem unfinished_append (bs : List (List Char)) {n n' : Nat} (h : n ≤ n') :
    unfinished bs n ++ (bs.flatten.drop n).take (n' - n) =
      ((bs.drop (complete bs n)).take (complete bs n' - complete bs n)).flatten ++
        unfinished bs n' := by
  have hc := complete_mono bs h
  have key := take_flatten bs n'
  rw [show n' = n + (n' - n) by omega, List.take_add, take_flatten bs n,
    ← show n' = n + (n' - n) by omega, show complete bs n' = complete bs n +
      (complete bs n' - complete bs n) by omega, List.take_add, List.flatten_append,
    List.append_assoc, List.append_assoc] at key
  exact List.append_cancel_left key

theorem receiveResponsesImpl_frame {s : List Char} {r : Option AtResponse} {n fuel : Nat}
    (h : receiveOneResponse kUnknown s = (r, some (n + 1))) (u : Unconsumed)
    {ok : Bool} {u' : Unconsumed} {out : List AtResponse}
    (hrest : receiveResponsesImpl kUnknown fuel (s.drop (n + 1)) u = (ok, u', out)) :
    receiveResponsesImpl kUnknown (fuel + 1) s u = (ok, u', r.toList ++ out) := by
  cases s with
  | nil => cases h
  | cons c s => simp only [receiveResponsesImpl, h, hrest]

/-- **`receiveResponsesImpl` on whole messages and a pending rest.** It broadcasts the
response of each message in order and keeps the rest in `unconsumed`. -/
theorem receiveResponsesImpl_messages (ms : List (Message kUnknown)) {q : List Char}
    (hq : Pending kUnknown q) {fuel : Nat}
    (hfuel : ((ms.map Message.bytes).flatten ++ q).length ≤ fuel) (u : Unconsumed) :
    ∃ u', receiveResponsesImpl kUnknown fuel ((ms.map Message.bytes).flatten ++ q) u =
      (true, u', ms.filterMap Message.response) ∧ u'.data = q := by
  induction ms generalizing fuel with
  | nil =>
    cases q with
    | nil => exact ⟨u.clear, by cases fuel <;> rfl, rfl⟩
    | cons x q =>
      obtain ⟨f, rfl⟩ : ∃ f, fuel = f + 1 := ⟨fuel - 1, by simp at hfuel; omega⟩
      refine ⟨u.assign (x :: q), ?_, rfl⟩
      simp only [List.map_nil, List.flatten_nil, List.nil_append, receiveResponsesImpl,
        show receiveOneResponse kUnknown (x :: q) = (none, some 0) from hq]
      rfl
  | cons m ms ih =>
    obtain ⟨n, hn⟩ : ∃ n, m.bytes.length = n + 1 :=
      ⟨m.bytes.length - 1, by have := List.length_pos.mpr m.bytes_ne_nil; omega⟩
    obtain ⟨f, rfl⟩ : ∃ f, fuel = f + 1 := ⟨fuel - 1, by simp at hfuel; omega⟩
    have hs : ((m :: ms).map Message.bytes).flatten ++ q =
        m.bytes ++ ((ms.map Message.bytes).flatten ++ q) := by simp
    rw [hs, List.length_append] at hfuel
    obtain ⟨u', hu', hq'⟩ := @ih f (by omega)
    have hrest : receiveResponsesImpl kUnknown f
        ((m.bytes ++ ((ms.map Message.bytes).flatten ++ q)).drop (n + 1)) u =
        (true, u', ms.filterMap Message.response) := by
      rw [← hn, List.drop_left]; exact hu'
    refine ⟨u', ?_, hq'⟩
    rw [hs, receiveResponsesImpl_frame ((m.frame _).trans (by rw [hn])) u hrest]
    cases hr : m.response <;> simp [List.filterMap_cons, hr]

/-- What a read that finds bytes left over hands on: those bytes, then the bytes read; the
`'\x00'` padding of the first `resize` is cut off again by the second. -/
theorem readInto_resize_data (u : Unconsumed) (c : List Char) {M : Nat}
    (hM : u.data.length ≤ M) :
    (((u.resize M).readInto u.data.length c).resize (u.data.length + c.length)).data =
      u.data ++ c := by
  have hD : ((u.resize M).readInto u.data.length c).data =
      u.data ++ c ++ (u.resize M).data.drop (u.data.length + c.length) := by
    show (u.data.take M ++ _).take u.data.length ++ c ++ _ = _
    rw [List.take_of_length_le hM, List.take_left]
  show List.take _ _ ++ List.replicate _ _ = _
  rw [hD, show u.data.length + c.length = (u.data ++ c).length by simp, List.take_left]
  simp

theorem receiveResponses_bytes (u : Unconsumed) {c : List Char} (hc : c ≠ []) :
    ∃ u2, receiveResponses kUnknown u (.bytes c) =
      receiveResponsesImpl kUnknown (u.data ++ c).length (u.data ++ c) u2 := by
  obtain ⟨x, c, rfl⟩ := List.exists_cons_of_ne_nil hc
  unfold receiveResponses
  split
  · rename_i h
    rw [List.length_eq_zero.mp h]
    exact ⟨u, rfl⟩
  · refine ⟨((u.resize (max (u.data.length + 1024) u.capacity)).readInto u.data.length
      (x :: c)).resize (u.data.length + (x :: c).length), ?_⟩
    dsimp only
    rw [readInto_resize_data u _ (by omega)]

/-- What a read hands to `receiveResponsesImpl`: its bytes, none for `EINTR` or a failure. -/
def ReadOutcome.received : ReadOutcome → List Char
  | .bytes b => b
  | _ => []

/-- Where a read may leave the message in progress, `rest` being the bytes of it read so
far: a read that brings bytes must leave it `Pending`, one that brings none (`EINTR`, end
of file) must come between messages, and no read fails. -/
def ReadOutcome.CutOk (kUnknown : Int) : ReadOutcome → List Char → Prop
  | .bytes [], rest => rest = []
  | .bytes (_ :: _), rest => Pending kUnknown rest
  | .interrupted, rest => rest = []
  | .failed, _ => False

instance (o : ReadOutcome) (rest : List Char) : Decidable (o.CutOk kUnknown rest) :=
  match o with
  | .bytes [] => inferInstanceAs (Decidable (rest = []))
  | .bytes (_ :: _) => inferInstanceAs (Decidable (Pending kUnknown rest))
  | .interrupted => inferInstanceAs (Decidable (rest = []))
  | .failed => inferInstanceAs (Decidable False)

/-- Every read of `os`, the stream of the messages `bs` being at position `n` before them,
leaves the message in progress where `CutOk` allows. -/
def CutsOk (kUnknown : Int) (bs : List (List Char)) : Nat → List ReadOutcome → Prop
  | _, [] => True
  | n, o :: os => o.CutOk kUnknown (unfinished bs (n + o.received.length)) ∧
      CutsOk kUnknown bs (n + o.received.length) os

instance instDecidableCutsOk (bs : List (List Char)) :
    ∀ n os, Decidable (CutsOk kUnknown bs n os)
  | _, [] => isTrue trivial
  | n, o :: os => @instDecidableAnd _ _ inferInstance
      (instDecidableCutsOk bs (n + o.received.length) os)

theorem readingLoop_cons_of_true {u u' : Unconsumed} {o : ReadOutcome} {out : List AtResponse}
    (h : receiveResponses kUnknown u o = (true, u', out)) (os : List ReadOutcome) :
    readingLoop kUnknown u (o :: os) =
      ((readingLoop kUnknown u' os).1, out ++ (readingLoop kUnknown u' os).2) := by
  simp only [readingLoop, h]

theorem receiveResponses_quiet {u : Unconsumed} (hu : u.data = []) {o : ReadOutcome}
    (ho : o = .interrupted ∨ o = .bytes []) : receiveResponses kUnknown u o = (true, u, []) := by
  unfold receiveResponses
  rw [if_pos (by rw [hu]; rfl)]
  rcases ho with rfl | rfl <;> rfl

/-- **A run of reads.** Reads that bring the rest of the stream after `pre`, and cut it
where `CutsOk` allows, broadcast the responses of the messages not yet whole at `pre`, in
order, and leave nothing over. -/
theorem readingLoop_run (ms : List (Message kUnknown)) (os : List ReadOutcome)
    (pre : List Char)
    (hjoin : pre ++ (os.map ReadOutcome.received).flatten = (ms.map Message.bytes).flatten)
    (hcuts : CutsOk kUnknown (ms.map Message.bytes) pre.length os)
    (u : Unconsumed) (hu : u.data = unfinished (ms.map Message.bytes) pre.length) :
    ∃ u', readingLoop kUnknown u os =
      (.reading u', (ms.drop (complete (ms.map Message.bytes) pre.length)).filterMap
        Message.response) ∧ u'.data = [] := by
  induction os generalizing pre u with
  | nil =>
    rw [List.map_nil, List.flatten_nil, List.append_nil] at hjoin
    obtain ⟨hc, hun⟩ := complete_length (ms.map Message.bytes)
    rw [← hjoin] at hc hun
    refine ⟨u, ?_, hu.trans hun⟩
    rw [hc, List.length_map, List.drop_length]
    rfl
  | cons o os ih =>
    obtain ⟨hcut, hcuts⟩ := hcuts
    match o, hcut with
    | .interrupted, hcut =>
      obtain ⟨u', h1, h2⟩ := ih pre (by simpa using hjoin) (by simpa using hcuts) u hu
      refine ⟨u', ?_, h2⟩
      rw [readingLoop_cons_of_true (receiveResponses_quiet (hu.trans (by simpa using hcut))
        (.inl rfl)), h1]
      rfl
    | .bytes [], hcut =>
      obtain ⟨u', h1, h2⟩ := ih pre (by simpa using hjoin) (by simpa using hcuts) u hu
      refine ⟨u', ?_, h2⟩
      rw [readingLoop_cons_of_true (receiveResponses_quiet (hu.trans (by simpa using hcut))
        (.inr rfl)), h1]
      rfl
    | .bytes (x :: c), hcut =>
      have hcut : Pending kUnknown (unfinished (ms.map Message.bytes)
          (pre.length + (x :: c).length)) := hcut
      have hij := complete_mono (ms.map Message.bytes) (Nat.le_add_right pre.length (x :: c).length)
      obtain ⟨i, hi⟩ : ∃ i, complete (ms.map Message.bytes) pre.length = i := ⟨_, rfl⟩
      obtain ⟨j, hj⟩ : ∃ j, complete (ms.map Message.bytes) (pre.length + (x :: c).length) = j :=
        ⟨_, rfl⟩
      rw [hi, hj] at hij
      -- the bytes left over and the bytes read are whole messages, then a pending rest
      have hbuf : u.data ++ x :: c = (((ms.drop i).take (j - i)).map Message.bytes).flatten ++
          unfinished (ms.map Message.bytes) (pre.length + (x :: c).length) := by
        have hstep := unfinished_append (ms.map Message.bytes)
          (Nat.le_add_right pre.length (x :: c).length)
        rw [← hjoin, List.drop_left, Nat.add_sub_cancel_left, List.map_cons, List.flatten_cons,
          ReadOutcome.received, List.take_left, ← hu, hi, hj] at hstep
        rw [hstep, List.map_take, List.map_drop]
      obtain ⟨u2, hr⟩ := @receiveResponses_bytes kUnknown u _ (List.cons_ne_nil x c)
      obtain ⟨u', himpl, hu'⟩ := receiveResponsesImpl_messages ((ms.drop i).take (j - i)) hcut
        le_rfl u2
      rw [hbuf] at hr
      obtain ⟨u'', h1, h2⟩ := ih (pre ++ x :: c) (by simpa [List.append_assoc] using hjoin)
        (by rw [List.length_append]; exact hcuts) u' (by rw [List.length_append]; exact hu')
      rw [List.length_append, hj] at h1
      refine ⟨u'', ?_, h2⟩
      rw [readingLoop_cons_of_true (hr.trans himpl), h1, hi]
      conv_rhs => rw [← List.take_append_drop (j - i) (ms.drop i)]
      rw [List.filterMap_append, List.drop_drop, show i + (j - i) = j by omega]

/-- **The reader delivers the modem's messages.** Let the modem send the messages `ms`,
and let the reads `os` bring exactly their bytes, each read that brings bytes ending where
the message in progress is pending, each read that brings none (`EINTR`, end of file)
coming between two messages, and no read failing. Then from an empty `unconsumed` the
reader broadcasts the response of every message, once each and in the order sent, and is
still in its loop with nothing left over, as when the whole stream arrives in one read. -/
theorem readingLoop_delivers (ms : List (Message kUnknown)) (os : List ReadOutcome)
    (hjoin : (os.map ReadOutcome.received).flatten = (ms.map Message.bytes).flatten)
    (hcuts : CutsOk kUnknown (ms.map Message.bytes) 0 os) :
    ∃ u, readingLoop kUnknown Unconsumed.empty os =
      (.reading u, ms.filterMap Message.response) ∧ u.data = [] := by
  obtain ⟨h0, h0'⟩ := complete_zero (ms.map Message.bytes) (by
    simp only [List.mem_map]; rintro _ ⟨m, -, rfl⟩; exact m.bytes_ne_nil)
  have h := readingLoop_run ms os [] hjoin hcuts Unconsumed.empty h0'.symm
  rwa [List.length_nil, h0, List.drop_zero] at h

/-- `+CFUN: 1`, `OK` and their line feeds, read as `+CFUN`, `: 1\r\n`, an interrupted
read, `O` and `K\r\n`. -/
theorem readingLoop_delivers_cfun_ok :
    let line : TagLine 0 :=
      ⟨⟨'+', "CFUN".toList, .ofCmd .CFUN CFUN.parse false, rfl⟩, ": 1".toList, rfl, .inr rfl,
        by decide⟩
    let ms : List (Message 0) :=
      [line.toMessage, .lf, .token kOKr .OK (.tail _ (.tail _ (.head _))), .lf]
    let os : List ReadOutcome :=
      [.bytes "+CFUN".toList, .bytes ": 1\r\n".toList, .interrupted, .bytes "O".toList,
        .bytes "K\r\n".toList]
    (os.map ReadOutcome.received).flatten = (ms.map Message.bytes).flatten ∧
      CutsOk 0 (ms.map Message.bytes) 0 os ∧
      ∃ u, readingLoop 0 Unconsumed.empty os =
        (.reading u, ms.filterMap Message.response) ∧ u.data = [] :=
  have hjoin : _ := by decide
  have hcuts : _ := by decide
  ⟨hjoin, hcuts, readingLoop_delivers _ _ hjoin hcuts⟩

/-- A read that brings nothing (`EINTR`, end of file) while bytes are left over pads them
with at least 1024 `'\x00'` bytes, the first `resize` of `receiveResponses`. -/
theorem receiveResponses_quiet_pad {u : Unconsumed} (hu : u.data ≠ []) {o : ReadOutcome}
    (ho : o = .interrupted ∨ o = .bytes []) :
    ∃ u', receiveResponses kUnknown u o = (true, u', []) ∧
      ∃ z, 1024 ≤ z ∧ u'.data = u.data ++ List.replicate z '\x00' := by
  have hM : u.data.length ≤ max (u.data.length + 1024) u.capacity := by omega
  refine ⟨u.resize (max (u.data.length + 1024) u.capacity), ?_,
    max (u.data.length + 1024) u.capacity - u.data.length, by omega, ?_⟩
  · unfold receiveResponses
    rw [if_neg (by simpa using hu)]
    rcases ho with rfl | rfl <;> rfl
  · show u.data.take _ ++ _ = _
    rw [List.take_of_length_le hM]

theorem receiveResponsesImpl_fail {s : List Char} {r : Option AtResponse} (fuel : Nat)
    (h : receiveOneResponse kUnknown s = (r, none)) (u : Unconsumed) :
    receiveResponsesImpl kUnknown (fuel + 1) s u = (false, u, r.toList) := by
  cases s with
  | nil => cases h
  | cons c s => simp only [receiveResponsesImpl, h]

/-- **An empty read right after a tag aborts the reader.** Let a read end right after the
sigil and the tag of a reply, where `TagLine.receiveOneResponse_take_line` lets it end, and let
the next read return `EINTR` or end of file. The `'\x00'` padding then stays between the
tag and whatever the read after it brings; `parseCmds` matches no entry on that, and the
reader aborts without broadcasting anything. -/
theorem readingLoop_aborts_after_quiet_read (e : Tagged kUnknown) {u : Unconsumed}
    (hu : u.data = e.sigil :: e.tag) {o : ReadOutcome} (ho : o = .interrupted ∨ o = .bytes [])
    {b : List Char} (hb : b ≠ []) (os : List ReadOutcome) :
    readingLoop kUnknown u (o :: .bytes b :: os) = (.aborted, []) := by
  obtain ⟨u1, h1, z, hz, hd⟩ := @receiveResponses_quiet_pad kUnknown u
    (hu ▸ List.cons_ne_nil _ _) o ho
  obtain ⟨u2, h2⟩ := @receiveResponses_bytes kUnknown u1 b hb
  have hbuf :
      u1.data ++ b = e.sigil :: (e.tag ++ '\x00' :: (List.replicate (z - 1) '\x00' ++ b)) := by
    obtain ⟨y, rfl⟩ : ∃ y, z = y + 1 := ⟨z - 1, by omega⟩
    rw [hd, hu, List.replicate_succ]
    simp
  have hp : parse kUnknown (e.sigil :: (e.tag ++ '\x00' :: (List.replicate (z - 1) '\x00' ++ b))) =
      (-1, none) :=
    parse_stray e.sigil_mem e.tag_spec.1 (by decide) (fun _ hvp => registry_nul hvp) (by decide) _
  have hr := receiveOneResponse_of_parse e.sigil_ne.1 e.sigil_ne.2 hp
  rw [if_neg (by decide)] at hr
  rw [hbuf] at h2
  rw [readingLoop_cons_of_true h1, readingLoop, h2, List.length_cons,
    receiveResponsesImpl_fail _ hr]
  rfl

/-- `+CFUN` left over, an interrupted read, then `: 1\r`: the reader aborts. -/
theorem readingLoop_aborts_cfun_interrupted :
    let e : Tagged 0 := ⟨'+', "CFUN".toList, .ofCmd .CFUN CFUN.parse false, rfl⟩
    let u : Unconsumed := ⟨"+CFUN".toList, 0⟩
    u.data = e.sigil :: e.tag ∧
      (ReadOutcome.interrupted = .interrupted ∨ ReadOutcome.interrupted = .bytes []) ∧
      ": 1\r".toList ≠ [] ∧
      readingLoop 0 u [.interrupted, .bytes ": 1\r".toList] = (.aborted, []) := by
  intro e u
  exact ⟨rfl, .inl rfl, by decide, readingLoop_aborts_after_quiet_read e rfl (.inl rfl)
    (by decide) []⟩

end AtChannel

end GoldfishRadio
