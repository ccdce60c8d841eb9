import GoldfishRadio.AtChannel.Messages
import GoldfishRadio.AtResponse.CallList

/-!
# Short-message notifications on the wire

`+CMT:` and `+CDS:` are read in two stages: a number and `\r`, then the PDU in hex up to
the next `\r`. Written as the modem writes them, each is one message whose record holds
the number and the PDU. A read may end anywhere in the PDU, but not in the header: there
the first stage fails, `parse` answers `-1` and the reader aborts.
-/

namespace GoldfishRadio

namespace AtChannel

open AtResponse Cursor

variable {kUnknown : Int}

theorem cr_not_mem_bin2hex (b : List UInt8) : kCR ∉ bin2hex b := by
  have key : ∀ n : Fin 16, bin2hex1 n ≠ kCR := by decide
  induction b with
  | nil => exact List.not_mem_nil _
  | cons x xs ih =>
    obtain ⟨h, l, rfl⟩ := byte_nibbles x
    obtain ⟨hh, hl, -⟩ := nibbles h l
    simp only [bin2hex, bin2hexImpl, hh, hl, List.mem_cons, not_or] at ih ⊢
    exact ⟨(key h).symm, (key l).symm, ih⟩

theorem readView_eq_none {e : Char} {v : List Char} (h : e ∉ v) : readView e v = none := by
  induction v with
  | nil => rfl
  | cons c cs ih =>
    have hc : c ≠ e := fun hc => h (hc ▸ List.mem_cons_self c cs)
    simp [readView, hc, ih (fun he => h (List.mem_cons_of_mem c he))]

theorem pduParse_wire (T : Cmd) (mk : Int → List UInt8 → Value) {n : Nat} (hn : n < 2 ^ 31)
    (pdu : List UInt8) (t : List Char) :
    pduParse T mk (decimal n ++ kCR :: (bin2hex pdu ++ kCR :: t)) =
      ((((decimal n).length + (bin2hex pdu).length + 2 : Nat) : Int),
        some (make (mk n pdu))) := by
  have h1 : (do let v ← readInt; skip kCR; pure v : Cursor Int)
      (decimal n ++ kCR :: (bin2hex pdu ++ kCR :: t)) =
        some ((n : Int), bin2hex pdu ++ kCR :: t) := by
    rw [bind_readInt_decimal n (by decide), if_pos hn, bind_skip_cons (by decide)]
    rfl
  rw [pduParse, h1]
  dsimp only
  rw [readString, readView_of_not_mem (cr_not_mem_bin2hex pdu)]
  dsimp only
  rw [hex2bin_bin2hex]
  simp only [List.length_append, List.length_cons]
  congr 1
  push_cast
  omega

theorem pduParse_digits (T : Cmd) (mk : Int → List UInt8 → Value) {d : List Char}
    (hd : ∀ c ∈ d, isDigitIn 10 c = true) : (pduParse T mk d).1 = -1 := by
  have hstage : (do let v ← readInt; skip kCR; pure v : Cursor Int) d = none := by
    cases d with
    | nil => rfl
    | cons c d =>
      have hc : c ≠ '-' := fun h => absurd (hd c (.head _)) (by rw [h]; decide)
      obtain ⟨v0, hdp⟩ : ∃ v0, digitsPrefix 10 (c :: d) = some (v0, []) := by
        refine ⟨(c :: d).foldl (fun acc x => acc * 10 + (digitValue 10 x).getD 0) 0, ?_⟩
        rw [digitsPrefix, List.takeWhile_eq_self_iff.mpr hd, List.dropWhile_eq_nil_iff.mpr hd,
          if_neg (List.cons_ne_nil c d)]
      have hr : readInt 10 (c :: d) = inIntRange v0 [] := by
        simp only [readInt, fromChars, List.head?_cons, Option.some.injEq, hc, if_false, hdp,
          Option.some_bind]
      rcases hv : inIntRange v0 [] with _ | ⟨v, r⟩
      · exact bind_of_none (hr.trans hv) _
      · obtain ⟨-, -, rfl⟩ := inIntRange_eq_some.mp hv
        rw [bind_of_some (hr.trans hv) _]
        rfl
  simp only [pduParse, hstage]

theorem pduParse_pending (T : Cmd) (mk : Int → List UInt8 → Value) {n : Nat}
    (hn : n < 2 ^ 31) {h : List Char} (hh : kCR ∉ h) :
    pduParse T mk (decimal n ++ kCR :: h) = (0, none) := by
  have h1 : (do let v ← readInt; skip kCR; pure v : Cursor Int) (decimal n ++ kCR :: h) =
      some ((n : Int), h) := by
    rw [bind_readInt_decimal n (by decide), if_pos hn, bind_skip_cons (by decide)]
    rfl
  rw [pduParse, h1]
  dsimp only
  rw [readString, readView_eq_none hh]

theorem ltrim_blank_decimal (n : Nat) (r : List Char) :
    ltrim (' ' :: (decimal n ++ r)) = decimal n ++ r := by
  obtain ⟨d, ds, hds⟩ := List.exists_cons_of_ne_nil (decimal_ne_nil n)
  obtain ⟨k, rfl⟩ := mem_decimal (hds ▸ List.mem_cons_self d ds)
  simp [ltrim, hds, List.dropWhile, show isBlank ' ' = true from rfl, (digitChar_digit k).2.2]

/-- A short message (`report = false`, `+CMT:`) or a status report (`report = true`,
`+CDS:`) as the modem writes it: the prefix, one blank, the number, `\r`, the PDU in hex,
`\r`. The number is a length the modem writes, below `2 ^ 31`. -/
structure PduMessage where
  report : Bool
  number : Nat
  pdu : List UInt8
  number_lt : number < 2 ^ 31

namespace PduMessage

variable (m : PduMessage)

def lead : List Char := if m.report then kCDS else kCMT

def header : List Char := m.lead ++ ' ' :: (decimal m.number ++ [kCR])

def bytes : List Char := m.header ++ (bin2hex m.pdu ++ [kCR])

/-- The record `CMT::parse` or `CDS::parse` makes. -/
def value : Value :=
  if m.report then .CDS { pdu := m.pdu, pduSize := m.number }
  else .CMT { pdu := m.pdu, something := m.number }

theorem lead_length : m.lead.length = 5 := by unfold lead; split <;> rfl

theorem parse_lead (x : List Char) :
    parse kUnknown (m.lead ++ x) =
      parsePrefixed (m.lead ++ x) 5 (if m.report then CDS.parse else CMT.parse) := by
  cases h : m.report
  · have hl : m.lead = kCMT := by simp [lead, h]
    rw [hl, parse, if_neg (by exact Bool.false_ne_true), if_pos (isPrefixOf_self_append kCMT x)]
    rfl
  · have hl : m.lead = kCDS := by simp [lead, h]
    rw [hl, parse, if_neg (by exact Bool.false_ne_true), if_neg (by exact Bool.false_ne_true),
      if_pos (isPrefixOf_self_append kCDS x)]
    rfl

/-- **A short message on the wire.** The notification is one message whatever follows it,
and its record holds the number and the PDU the modem encoded. -/
theorem parse_bytes (t : List Char) :
    parse kUnknown (m.bytes ++ t) = ((m.bytes.length : Int), some (make m.value)) := by
  have hs : m.bytes ++ t =
      m.lead ++ ' ' :: (decimal m.number ++ kCR :: (bin2hex m.pdu ++ kCR :: t)) := by
    simp [bytes, header]
  rw [hs, parse_lead, parsePrefixed, List.drop_left' m.lead_length, ltrim_blank_decimal]
  have hstage : (if m.report then CDS.parse else CMT.parse)
      (decimal m.number ++ kCR :: (bin2hex m.pdu ++ kCR :: t)) =
      ((((decimal m.number).length + (bin2hex m.pdu).length + 2 : Nat) : Int),
        some (make m.value)) := by
    unfold value
    cases m.report
    · exact pduParse_wire .CMT _ m.number_lt m.pdu t
    · exact pduParse_wire .CDS _ m.number_lt m.pdu t
  rw [hstage]
  dsimp only
  rw [if_pos (by omega)]
  simp only [bytes, header, List.length_append, List.length_cons, m.lead_length,
    List.length_singleton, List.length_nil]
  congr 1
  push_cast
  omega

theorem lead_head : ∃ s, m.lead = '+' :: s := by unfold lead; split <;> exact ⟨_, rfl⟩

/-- The notification as a message. -/
def toMessage : Message kUnknown where
  bytes := m.bytes
  response := some (make m.value)
  bytes_ne_nil := by simp [bytes, header]
  frame t := by
    obtain ⟨s, hs⟩ := m.lead_head
    have h : parse kUnknown (m.bytes ++ t) = _ := m.parse_bytes t
    rw [bytes, header, hs] at h ⊢
    exact receiveOneResponse_of_parse_nat (by decide) (by decide) h

theorem any_cmd_eq (l : List ValueParser) (s : List Char) :
    l.any (fun vp => vp.cmd == s) = (l.map ValueParser.cmd).any (· == s) := by
  induction l with
  | nil => rfl
  | cons vp l ih => simp only [List.any_cons, List.map_cons, ih]

theorem registry_any (kUnknown : Int) (c : Char) (s : List Char) :
    (registry kUnknown c).any (fun vp => vp.cmd == s) =
      (registry 0 c).any (fun vp => vp.cmd == s) := by
  rw [any_cmd_eq, any_cmd_eq, registry_cmds]

theorem ltrim_take_blank_decimal (n i : Nat) :
    ltrim ((' ' :: decimal n).take i) = (decimal n).take (i - 1) := by
  cases i with
  | zero => rfl
  | succ i =>
    rw [List.take_succ_cons, Nat.add_sub_cancel]
    show List.dropWhile isBlank (' ' :: _) = _
    rw [List.dropWhile_cons_of_pos (by rfl)]
    cases hd : (decimal n).take i with
    | nil => rfl
    | cons d ds =>
      obtain ⟨k, rfl⟩ := mem_decimal (List.mem_of_mem_take (hd ▸ List.mem_cons_self d ds))
      rw [List.dropWhile_cons_of_neg (by simp [(digitChar_digit k).2.2])]

theorem bytes_eq :
    m.bytes = m.lead ++ ' ' :: (decimal m.number ++ kCR :: (bin2hex m.pdu ++ [kCR])) := by
  simp [bytes, header]

theorem header_length : m.header.length = (decimal m.number).length + 7 := by
  simp [header, m.lead_length]; omega

theorem parse_take_lead {k : Nat} (h0 : 0 < k) (hk : k ≤ 4) :
    parse kUnknown (m.bytes.take k) = (-1, none) := by
  obtain ⟨j, rfl⟩ : ∃ j, k = j + 1 := ⟨k - 1, by omega⟩
  have key : ∀ j ≤ 3, (registry 0 '+').any (fun vp => vp.cmd == ("CMT".toList.take j)) = false ∧
      (registry 0 '+').any (fun vp => vp.cmd == ("CDS".toList.take j)) = false := by decide
  obtain ⟨M, hM, hfree, hkey⟩ : ∃ M, m.lead = '+' :: (M ++ [':']) ∧ TagFree M ∧
      (registry 0 '+').any (fun vp => vp.cmd == M.take j) = false := by
    unfold lead
    split
    · exact ⟨"CDS".toList, rfl, by decide, (key j (by omega)).2⟩
    · exact ⟨"CMT".toList, rfl, by decide, (key j (by omega)).1⟩
  have hlen : M.length = 3 := by have := m.lead_length; rw [hM] at this; simpa using this
  rw [bytes_eq, hM, List.cons_append, List.take_succ_cons, List.append_assoc,
    List.take_append_of_le_length (by omega),
    parse_undelimited (by decide) fun c hc => hfree c (List.mem_of_mem_take hc),
    registry_any, hkey]
  rfl

theorem parse_take_number {k : Nat} (h5 : 5 ≤ k) (hk : k < m.header.length) :
    parse kUnknown (m.bytes.take k) = (-1, none) := by
  rw [header_length] at hk
  have ht : m.bytes.take k = m.lead ++ (' ' :: decimal m.number).take (k - 5) := by
    rw [bytes_eq, List.take_append_eq_append_take,
      List.take_of_length_le (by rw [m.lead_length]; omega),
      m.lead_length, ← List.cons_append, List.take_append_of_le_length (by simp; omega)]
  have hd : ∀ c ∈ (decimal m.number).take (k - 5 - 1), isDigitIn 10 c = true :=
    fun c hc => isDigitIn_of_mem_decimal (List.mem_of_mem_take hc)
  have hstage : ((if m.report then CDS.parse else CMT.parse)
      ((decimal m.number).take (k - 5 - 1))).1 = -1 := by
    cases m.report
    · exact pduParse_digits .CMT _ hd
    · exact pduParse_digits .CDS _ hd
  rw [ht, parse_lead, parsePrefixed, List.drop_left' m.lead_length, ltrim_take_blank_decimal]
  rcases hp : (if m.report then CDS.parse else CMT.parse) ((decimal m.number).take (k - 5 - 1))
    with ⟨c, r⟩
  rw [hp] at hstage
  simp only at hstage
  subst hstage
  rfl

theorem parse_take_pdu {k : Nat} (hh : m.header.length ≤ k) (hk : k < m.bytes.length) :
    parse kUnknown (m.bytes.take k) = (0, none) := by
  have hb : m.bytes.length = m.header.length + (bin2hex m.pdu).length + 1 := by
    simp [bytes]; omega
  have ht : m.bytes.take k = m.lead ++ ' ' :: (decimal m.number ++ kCR ::
      (bin2hex m.pdu).take (k - m.header.length)) := by
    rw [bytes, List.take_append_eq_append_take, List.take_of_length_le hh,
      List.take_append_of_le_length (by omega)]
    simp [header]
  have hcr : kCR ∉ (bin2hex m.pdu).take (k - m.header.length) :=
    fun h => cr_not_mem_bin2hex m.pdu (List.mem_of_mem_take h)
  have hstage : (if m.report then CDS.parse else CMT.parse)
      (decimal m.number ++ kCR :: (bin2hex m.pdu).take (k - m.header.length)) = (0, none) := by
    cases m.report
    · exact pduParse_pending .CMT _ m.number_lt hcr
    · exact pduParse_pending .CDS _ m.number_lt hcr
  rw [ht, parse_lead, parsePrefixed, List.drop_left' m.lead_length, ltrim_blank_decimal, hstage]
  rfl

/-- **Where a read may end inside a short-message notification.** The first `k` bytes are
kept for the next read exactly when they hold the whole header, through its `\r`. A read
that ends inside the header (in `+CMT:`, in the blank or in the number) makes
`receiveOneResponse` return `nullptr`, and the reader aborts. -/
theorem receiveOneResponse_take_pdu {k : Nat} (h0 : 0 < k) (hk : k < m.bytes.length) :
    receiveOneResponse kUnknown (m.bytes.take k) =
      (none, if m.header.length ≤ k then some 0 else none) := by
  obtain ⟨s, hs⟩ := m.lead_head
  obtain ⟨r, hr⟩ : ∃ r, m.bytes.take k = '+' :: r := by
    obtain ⟨j, rfl⟩ : ∃ j, k = j + 1 := ⟨k - 1, by omega⟩
    exact ⟨_, by rw [bytes_eq, hs, List.cons_append, List.take_succ_cons]⟩
  have hparse : parse kUnknown (m.bytes.take k) =
      if m.header.length ≤ k then (0, none) else (-1, none) := by
    split_ifs with hh
    · exact m.parse_take_pdu hh hk
    · by_cases h4 : k ≤ 4
      · exact m.parse_take_lead h0 h4
      · exact m.parse_take_number (by omega) (by omega)
  rw [hr] at hparse ⊢
  split_ifs at hparse ⊢ <;> rw [receiveOneResponse_of_parse (by decide) (by decide) hparse] <;> rfl

/-- `+CMT: 2\r0102\r` cut before the `\r` of its header: the reader aborts. -/
theorem receiveOneResponse_take_cmt :
    let m : PduMessage := ⟨false, 2, [0x01, 0x02], by decide⟩
    0 < 7 ∧ 7 < m.bytes.length ∧ receiveOneResponse 0 (m.bytes.take 7) = (none, none) := by
  intro m
  have hd : decimal 2 = ['2'] := by rw [← toDigits_ten]; rfl
  have hh : m.header.length = 8 := by simp [m, header, lead_length, hd]
  have hb : 7 < m.bytes.length := by simp [bytes, hh]; omega
  exact ⟨by decide, hb, (receiveOneResponse_take_pdu m (by decide) hb).trans (by rw [hh]; rfl)⟩

end PduMessage

end AtChannel

end GoldfishRadio
