import GoldfishRadio.AtChannel.Reader
import GoldfishRadio.AtResponse.Extension

/-!
# The modem's messages, one at a time

What `receiveOneResponse` makes of each kind of message at the head of the buffer: a bare
`\r` or `\n`, the tokens, a reply line of a single-line entry and the answer block of a
multi-line one. A `Message` is taken off the front of any buffer it starts, with the same
response whatever follows; `Pending` says where a read may end inside it. Inside a reply
line that is from the end of its tag on: before that `parseCmds` answers `-1` and the
reader aborts.
-/

namespace GoldfishRadio

namespace AtChannel

open AtResponse

variable {kUnknown : Int}

/-- Bytes the modem sends as one message: `receiveOneResponse` takes exactly them off the
front of any buffer they start, and the response it broadcasts does not depend on the
bytes after them. -/
structure Message (kUnknown : Int) where
  bytes : List Char
  response : Option AtResponse
  bytes_ne_nil : bytes ≠ []
  frame : ∀ t, receiveOneResponse kUnknown (bytes ++ t) = (response, some bytes.length)

/-- The start of a message that `receiveOneResponse` leaves in place, broadcasting
nothing, for a later read to complete. -/
def Pending (kUnknown : Int) (p : List Char) : Prop :=
  receiveOneResponse kUnknown p = (none, some 0)

instance (p : List Char) : Decidable (Pending kUnknown p) :=
  decidable_of_iff
    ((receiveOneResponse kUnknown p).1.isNone ∧ (receiveOneResponse kUnknown p).2 = some 0)
    (by rw [Pending]; rcases receiveOneResponse kUnknown p with ⟨_ | _, _⟩ <;> simp)

theorem pending_nil : Pending kUnknown [] := rfl

/-- Past a leading `\r` or `\n`, `receiveOneResponse` is `parse` with its count made a
pointer: a negative count is `nullptr`. -/
theorem receiveOneResponse_of_parse {c : Char} (h1 : c ≠ '\r') (h2 : c ≠ '\n') {s : List Char}
    {n : Int} {r : Option AtResponse} (h : parse kUnknown (c :: s) = (n, r)) :
    receiveOneResponse kUnknown (c :: s) = (r, if n ≥ 0 then some n.toNat else none) := by
  unfold receiveOneResponse
  split
  · exact absurd (List.cons.inj ‹_›).1 h1
  · exact absurd (List.cons.inj ‹_›).1 h2
  · rw [h]

theorem receiveOneResponse_of_parse_nat {c : Char} (h1 : c ≠ '\r') (h2 : c ≠ '\n')
    {s : List Char} {n : Nat} {r : Option AtResponse}
    (h : parse kUnknown (c :: s) = ((n : Int), r)) :
    receiveOneResponse kUnknown (c :: s) = (r, some n) := by
  rw [receiveOneResponse_of_parse h1 h2 h, if_pos (Int.ofNat_nonneg n), Int.toNat_ofNat]

theorem isPrefixOf_self_append (l t : List Char) : l.isPrefixOf (l ++ t) = true :=
  List.isPrefixOf_iff_prefix.mpr (List.prefix_append l t)

/-- A bare `\r`: one byte skipped, nothing broadcast. -/
def Message.cr : Message kUnknown := ⟨['\r'], none, List.cons_ne_nil _ _, fun _ => rfl⟩

/-- A bare `\n`, as `\r`. -/
def Message.lf : Message kUnknown := ⟨['\n'], none, List.cons_ne_nil _ _, fun _ => rfl⟩

/-- The tokens `parse` recognises by a prefix test, with the values it makes of them. -/
def tokens : List (List Char × Value) :=
  [(kRING, .RING), (kSmsPrompt, .SmsPrompt), (kOKr, .OK), (kERRORr, .ERROR)]

theorem parse_token {L : List Char} {v : Value} (h : (L, v) ∈ tokens) (t : List Char) :
    parse kUnknown (L ++ t) = ((L.length : Int), some (make v)) := by
  simp only [tokens, List.mem_cons, Prod.mk.injEq, List.mem_singleton, List.not_mem_nil,
    or_false] at h
  rcases h with ⟨rfl, rfl⟩ | ⟨rfl, rfl⟩ | ⟨rfl, rfl⟩ | ⟨rfl, rfl⟩ <;>
  simp only [parse, kRING, kCMT, kCDS, kSmsPrompt, kOKr, kERRORr, String.toList,
    List.cons_append, List.nil_append, List.isPrefixOf, List.head?] <;> rfl

theorem token_head {L : List Char} {v : Value} (h : (L, v) ∈ tokens) :
    ∃ c s, L = c :: s ∧ c ≠ '\r' ∧ c ≠ '\n' := by
  simp only [tokens, List.mem_cons, Prod.mk.injEq, List.mem_singleton, List.not_mem_nil,
    or_false] at h
  rcases h with ⟨rfl, -⟩ | ⟨rfl, -⟩ | ⟨rfl, -⟩ | ⟨rfl, -⟩ <;>
    exact ⟨_, _, rfl, by decide, by decide⟩

/-- A token as a message. -/
def Message.token (L : List Char) (v : Value) (h : (L, v) ∈ tokens) : Message kUnknown where
  bytes := L
  response := some (make v)
  bytes_ne_nil := by
    obtain ⟨c, s, rfl, -⟩ := token_head h
    exact List.cons_ne_nil _ _
  frame t := by
    obtain ⟨c, s, rfl, h1, h2⟩ := token_head h
    exact receiveOneResponse_of_parse_nat h1 h2 (parse_token h t)

/-- The bytes after which `parse` scans a registry. -/
def sigils : List Char := ['+', '%', '^']

/-- The table `parse` scans after the sigil `c`; no table for any other byte. -/
def registry (kUnknown : Int) (c : Char) : List ValueParser :=
  if c = '+' then plusValueParsers kUnknown
  else if c = '%' then percentValueParsers
  else if c = '^' then caretValueParsers
  else []

theorem registry_cmds (kUnknown : Int) (c : Char) :
    (registry kUnknown c).map ValueParser.cmd = (registry 0 c).map ValueParser.cmd := by
  unfold registry; split_ifs <;> rfl

theorem mem_sigils_of_mem_registry {c : Char} {vp : ValueParser} (h : vp ∈ registry kUnknown c) :
    c ∈ sigils := by
  unfold registry at h
  split_ifs at h with h1 h2 h3 <;> simp_all [sigils]

theorem registry_tag {c : Char} {vp : ValueParser} (h : vp ∈ registry kUnknown c) :
    TagFree vp.cmd ∧ vp.cmd ≠ [] ∧ vp.cmd ≠ "CMT".toList ∧ vp.cmd ≠ "CDS".toList := by
  have key : ∀ c ∈ sigils, ∀ cmd ∈ (registry 0 c).map ValueParser.cmd,
      TagFree cmd ∧ cmd ≠ [] ∧ cmd ≠ "CMT".toList ∧ cmd ≠ "CDS".toList := by decide
  exact key c (mem_sigils_of_mem_registry h) _
    (registry_cmds kUnknown c ▸ List.mem_map_of_mem _ h)

theorem delim_prefix_cases {cmd T rest : List Char} {x d : Char} (hT : TagFree T)
    (hx : x = ':' ∨ x = kCR) (h : cmd ++ [x] <+: T ++ d :: rest) :
    (cmd = T ∧ x = d) ∨ d ∈ cmd := by
  have hT' : T ++ [d] <+: T ++ d :: rest := ⟨rest, by simp⟩
  rcases lt_trichotomy cmd.length T.length with hlt | heq | hgt
  · exact (tag_delim_not_within hT hx (List.prefix_refl _)
      (List.prefix_of_prefix_length_le h (List.prefix_append T _) (by simp; omega))).elim
  · have hc : cmd ++ [x] <+: T ++ [d] :=
      List.prefix_of_prefix_length_le h hT' (by simp [heq])
    obtain ⟨h1, h2⟩ := List.append_inj' (hc.eq_of_length (by simp [heq])) rfl
    exact .inl ⟨h1, by simpa using h2⟩
  · exact .inr ((List.prefix_of_prefix_length_le hT' ((List.prefix_append cmd [x]).trans h)
      (by simp; omega)).subset (by simp))

theorem delimited_prefix_eq {cmd T rest : List Char} {x d : Char} (hcmd : TagFree cmd)
    (hT : TagFree T) (hx : x = ':' ∨ x = kCR) (hd : d = ':' ∨ d = kCR)
    (h : cmd ++ [x] <+: T ++ d :: rest) : cmd = T := by
  rcases delim_prefix_cases hT hx h with ⟨h, -⟩ | h
  · exact h
  · obtain ⟨h1, h2⟩ := hcmd d h
    rcases hd with rfl | rfl
    · exact absurd rfl h1
    · exact absurd rfl h2

theorem parseCmdsScan_undelimited (vps : List ValueParser) {s : List Char} (hs : TagFree s)
    (c : Char) (mi : Bool) :
    parseCmdsScan (c :: s) vps mi =
      if mi || vps.any (fun vp => vp.cmd == s) then (0, none) else (-1, none) := by
  induction vps generalizing mi with
  | nil => cases mi <;> rfl
  | cons vp vps ih =>
    have hdrop : (c :: s).drop 1 = s := rfl
    rw [parseCmdsScan, hdrop, List.any_cons]
    by_cases hp : vp.cmd.isPrefixOf s
    · have hpx := List.isPrefixOf_iff_prefix.mp hp
      by_cases hl : s.length ≤ vp.cmd.length
      · have heq : vp.cmd = s := hpx.eq_of_length (le_antisymm hpx.length_le hl)
        rw [if_pos hp, if_pos hl, ih]
        simp [heq]
      · obtain ⟨x, hx⟩ : ∃ x, s[vp.cmd.length]? = some x :=
          ⟨_, List.getElem?_eq_getElem (by omega)⟩
        obtain ⟨hx1, hx2⟩ := hs x (List.getElem?_mem hx)
        have hne : (vp.cmd == s) = false := by
          rw [beq_eq_false_iff_ne]; rintro rfl; exact hl le_rfl
        rw [if_pos hp, if_neg hl, hx, if_neg (by simpa using hx1), if_neg (by simpa using hx2),
          ih, hne, Bool.false_or]
    · have hne : (vp.cmd == s) = false := by
        rw [beq_eq_false_iff_ne]; rintro rfl
        exact hp (List.isPrefixOf_iff_prefix.mpr (List.prefix_refl _))
      rw [if_neg hp, ih, hne, Bool.false_or]

theorem parseCmdsScan_delimited {vps : List ValueParser} (hfree : ∀ vp ∈ vps, TagFree vp.cmd)
    {T : List Char} (hT : TagFree T) {d : Char} (hd : d = ':' ∨ d = kCR) (c : Char)
    (rest : List Char) (mi : Bool) :
    parseCmdsScan (c :: (T ++ d :: rest)) vps mi =
      match vps.find? (fun vp => vp.cmd == T) with
      | some vp => parseCmdsPayload (c :: (T ++ d :: rest)) vp
          (if d = ':' then 1 + T.length + 1 else 1 + T.length)
      | none => if mi then (0, none) else (-1, none) := by
  induction vps with
  | nil => rfl
  | cons vp vps ih =>
    have hf := hfree vp (.head _)
    have hdrop : (c :: (T ++ d :: rest)).drop 1 = T ++ d :: rest := rfl
    rw [parseCmdsScan, hdrop, List.find?_cons]
    by_cases hvp : vp.cmd = T
    · subst hvp
      have hget : (vp.cmd ++ d :: rest)[vp.cmd.length]? = some d := by
        rw [List.getElem?_append_right (Nat.le_refl _), Nat.sub_self, List.getElem?_cons_zero]
      have hp : vp.cmd.isPrefixOf (vp.cmd ++ d :: rest) = true :=
        List.isPrefixOf_iff_prefix.mpr (List.prefix_append _ _)
      rw [if_pos hp, if_neg (by simp), hget, beq_self_eq_true]
      rcases hd with rfl | rfl
      · simp
      · simp [kCR]
    · rw [(beq_eq_false_iff_ne).mpr hvp, ← ih fun v hv => hfree v (.tail _ hv)]
      by_cases hp : vp.cmd.isPrefixOf (T ++ d :: rest)
      · have hpx := List.isPrefixOf_iff_prefix.mp hp
        have hl : ¬ (T ++ d :: rest).length ≤ vp.cmd.length := fun hl => by
          have heq := hpx.eq_of_length (le_antisymm hpx.length_le hl)
          have := hf d (heq ▸ List.mem_append_right T (List.mem_cons_self d rest))
          rcases hd with rfl | rfl <;> simp at this
        have hx : ∀ x, x = ':' ∨ x = kCR → (T ++ d :: rest)[vp.cmd.length]? ≠ some x :=
          fun x hx he => hvp (delimited_prefix_eq hf hT hx hd (prefix_concat hp he))
        rw [if_pos hp, if_neg hl, if_neg (hx _ (.inl rfl)), if_neg (hx _ (.inr rfl))]
      · rw [if_neg hp]

theorem parseCmdsScan_stray {vps : List ValueParser} {s : List Char} (hs : TagFree s)
    {x : Char} (hx : x ≠ ':' ∧ x ≠ kCR) (hcmd : ∀ vp ∈ vps, x ∉ vp.cmd) (c : Char)
    (rest : List Char) (mi : Bool) :
    parseCmdsScan (c :: (s ++ x :: rest)) vps mi = if mi then (0, none) else (-1, none) := by
  induction vps with
  | nil => rfl
  | cons vp vps ih =>
    have hdrop : (c :: (s ++ x :: rest)).drop 1 = s ++ x :: rest := rfl
    rw [parseCmdsScan, hdrop, ← ih fun v hv => hcmd v (.tail _ hv)]
    by_cases hp : vp.cmd.isPrefixOf (s ++ x :: rest)
    · have hpx := List.isPrefixOf_iff_prefix.mp hp
      have hl : ¬ (s ++ x :: rest).length ≤ vp.cmd.length := fun hl => by
        have heq := hpx.eq_of_length (le_antisymm hpx.length_le hl)
        exact hcmd vp (.head _) (heq ▸ List.mem_append_right s (List.mem_cons_self x rest))
      have hy : ∀ y, y = ':' ∨ y = kCR → (s ++ x :: rest)[vp.cmd.length]? ≠ some y :=
        fun y hy he => by
          rcases delim_prefix_cases hs hy (prefix_concat hp he) with ⟨-, rfl⟩ | h
          · exact hy.elim hx.1 hx.2
          · exact hcmd vp (.head _) h
      rw [if_pos hp, if_neg hl, if_neg (hy _ (.inl rfl)), if_neg (hy _ (.inr rfl))]
    · rw [if_neg hp]

theorem registry_nul {c : Char} {vp : ValueParser} (h : vp ∈ registry kUnknown c) :
    '\x00' ∉ vp.cmd := by
  have key : ∀ c ∈ sigils, ∀ cmd ∈ (registry 0 c).map ValueParser.cmd, '\x00' ∉ cmd := by
    decide
  exact key c (mem_sigils_of_mem_registry h) _
    (registry_cmds kUnknown c ▸ List.mem_map_of_mem _ h)

theorem parse_sigil {c : Char} (hc : c ∈ sigils) (s : List Char)
    (hcmt : kCMT.isPrefixOf (c :: s) = false) (hcds : kCDS.isPrefixOf (c :: s) = false) :
    parse kUnknown (c :: s) = parseCmds (c :: s) (registry kUnknown c) := by
  simp only [sigils, List.mem_cons, List.mem_singleton, List.not_mem_nil, or_false] at hc
  have hring : kRING.isPrefixOf (c :: s) = false := by
    rcases hc with rfl | rfl | rfl <;> rfl
  rw [parse, if_neg (by rw [hring]; exact Bool.false_ne_true),
    if_neg (by rw [hcmt]; exact Bool.false_ne_true),
    if_neg (by rw [hcds]; exact Bool.false_ne_true), List.head?_cons]
  rcases hc with rfl | rfl | rfl <;> simp only [registry] <;> rfl

theorem pduPrefix_eq {L : List Char} (hL : L = kCMT ∨ L = kCDS) :
    ∃ M, L = '+' :: (M ++ [':']) ∧ TagFree M ∧ (M = "CMT".toList ∨ M = "CDS".toList) := by
  rcases hL with rfl | rfl
  · exact ⟨"CMT".toList, rfl, by decide, .inl rfl⟩
  · exact ⟨"CDS".toList, rfl, by decide, .inr rfl⟩

theorem pduPrefix_undelimited {L : List Char} (hL : L = kCMT ∨ L = kCDS) (c : Char)
    {s : List Char} (hs : TagFree s) : L.isPrefixOf (c :: s) = false := by
  obtain ⟨M, rfl, -, -⟩ := pduPrefix_eq hL
  rw [Bool.eq_false_iff]
  intro h
  have h' := List.isPrefixOf_iff_prefix.mp h
  have := hs ':' ((List.cons_prefix_cons.mp h').2.subset (by simp))
  exact this.1 rfl

theorem pduPrefix_delimited {L : List Char} (hL : L = kCMT ∨ L = kCDS) (c : Char)
    {T rest : List Char} {d : Char} (hT : TagFree T) (hd : d = ':' ∨ d = kCR)
    (hcmt : T ≠ "CMT".toList) (hcds : T ≠ "CDS".toList) :
    L.isPrefixOf (c :: (T ++ d :: rest)) = false := by
  obtain ⟨M, rfl, hM, hM'⟩ := pduPrefix_eq hL
  rw [Bool.eq_false_iff]
  intro h
  have heq := delimited_prefix_eq hM hT (.inl rfl) hd
    (List.cons_prefix_cons.mp (List.isPrefixOf_iff_prefix.mp h)).2
  rcases hM' with rfl | rfl
  · exact hcmt heq.symm
  · exact hcds heq.symm

theorem pduPrefix_stray {L : List Char} (hL : L = kCMT ∨ L = kCDS) (c : Char)
    {s rest : List Char} (hs : TagFree s) {x : Char} (hx : x ≠ ':')
    (hpdu : x ∉ "CMT".toList ∧ x ∉ "CDS".toList) :
    L.isPrefixOf (c :: (s ++ x :: rest)) = false := by
  obtain ⟨M, rfl, -, hM'⟩ := pduPrefix_eq hL
  rw [Bool.eq_false_iff]
  intro h
  rcases delim_prefix_cases hs (.inl rfl)
    (List.cons_prefix_cons.mp (List.isPrefixOf_iff_prefix.mp h)).2 with ⟨-, h⟩ | h
  · exact hx h.symm
  · rcases hM' with rfl | rfl
    · exact hpdu.1 h
    · exact hpdu.2 h

theorem parse_stray {c : Char} (hc : c ∈ sigils) {s : List Char} (hs : TagFree s) {x : Char}
    (hx : x ≠ ':' ∧ x ≠ kCR) (hreg : ∀ vp ∈ registry kUnknown c, x ∉ vp.cmd)
    (hpdu : x ∉ "CMT".toList ∧ x ∉ "CDS".toList) (rest : List Char) :
    parse kUnknown (c :: (s ++ x :: rest)) = (-1, none) := by
  rw [parse_sigil hc _ (pduPrefix_stray (.inl rfl) c hs hx.1 hpdu)
    (pduPrefix_stray (.inr rfl) c hs hx.1 hpdu), parseCmds, parseCmdsScan_stray hs hx hreg]
  rfl

theorem parse_undelimited {c : Char} (hc : c ∈ sigils) {s : List Char} (hs : TagFree s) :
    parse kUnknown (c :: s) =
      if (registry kUnknown c).any (fun vp => vp.cmd == s) then (0, none) else (-1, none) := by
  rw [parse_sigil hc s (pduPrefix_undelimited (.inl rfl) c hs)
    (pduPrefix_undelimited (.inr rfl) c hs), parseCmds, parseCmdsScan_undelimited _ hs,
    Bool.false_or]

theorem parse_delimited {c : Char} (hc : c ∈ sigils) {T : List Char} (hT : TagFree T)
    (hcmt : T ≠ "CMT".toList) (hcds : T ≠ "CDS".toList) {d : Char} (hd : d = ':' ∨ d = kCR)
    (rest : List Char) :
    parse kUnknown (c :: (T ++ d :: rest)) =
      match (registry kUnknown c).find? (fun vp => vp.cmd == T) with
      | some vp => parseCmdsPayload (c :: (T ++ d :: rest)) vp
          (if d = ':' then 1 + T.length + 1 else 1 + T.length)
      | none => (-1, none) := by
  rw [parse_sigil hc _ (pduPrefix_delimited (.inl rfl) c hT hd hcmt hcds)
    (pduPrefix_delimited (.inr rfl) c hT hd hcmt hcds), parseCmds,
    parseCmdsScan_delimited (fun vp hvp => (registry_tag hvp).1) hT hd]
  rfl

theorem indexOfSub_cr_append {n body : List Char} (h : kCR ∉ body) (z : List Char) :
    indexOfSub (kCR :: n) (body ++ z) = (indexOfSub (kCR :: n) z).map (· + body.length) := by
  induction body with
  | nil => simp
  | cons x body ih =>
    have hx : x ≠ kCR := fun hx => h (hx ▸ List.mem_cons_self x body)
    rw [List.cons_append, indexOfSub,
      if_neg (by simp [List.isPrefixOf, beq_false_of_ne (Ne.symm hx)]),
      ih (fun hm => h (List.mem_cons_of_mem x hm)), Option.map_map]
    simp [Function.comp_def, Nat.add_assoc, Nat.add_comm 1]

theorem indexOfSub_cr_of_not_mem {n body : List Char} (h : kCR ∉ body) :
    indexOfSub (kCR :: n) body = none := by
  simpa using indexOfSub_cr_append (n := n) h []

theorem indexOfSub_self_append (needle z : List Char) :
    indexOfSub needle (needle ++ z) = some 0 := by
  unfold indexOfSub
  rw [if_pos (List.isPrefixOf_iff_prefix.mpr (List.prefix_append _ _))]

theorem parseCmdsPayload_single {vp : ValueParser} (hvp : vp.multiline = false)
    (pre : List Char) {p : List Char} (hp : kCR ∉ p) (t : List Char) :
    parseCmdsPayload (pre ++ p ++ kCR :: t) vp pre.length =
      (((pre.length + p.length + 1 : Nat) : Int), some (vp.parse (ltrim p))) := by
  have hdrop : (pre ++ p ++ kCR :: t).drop pre.length = p ++ kCR :: t := by
    rw [List.append_assoc, List.drop_left]
  have hfind : find (pre ++ p ++ kCR :: t) [kCR] pre.length = some (p.length + pre.length) := by
    have hself := indexOfSub_self_append [kCR] t
    rw [List.singleton_append] at hself
    rw [find, hdrop, indexOfSub_cr_append hp, hself]
    simp
  rw [parseCmdsPayload, hvp, if_neg Bool.false_ne_true, hfind]
  dsimp only
  rw [hdrop, Nat.add_sub_cancel, List.take_left]
  congr 2
  omega

theorem parseCmdsPayload_single_pending {vp : ValueParser} (hvp : vp.multiline = false)
    (pre : List Char) {p : List Char} (hp : kCR ∉ p) :
    parseCmdsPayload (pre ++ p) vp pre.length = (0, none) := by
  rw [parseCmdsPayload, hvp, if_neg Bool.false_ne_true, find, List.drop_left,
    indexOfSub_cr_of_not_mem hp]
  rfl

/-- A tag registered after a sigil, with the entry `parseCmds` reads its payload with: the
first one registered under the tag. -/
structure Tagged (kUnknown : Int) where
  sigil : Char
  tag : List Char
  entry : ValueParser
  registered : (registry kUnknown sigil).find? (fun vp => vp.cmd == tag) = some entry

namespace Tagged

variable (e : Tagged kUnknown)

theorem entry_mem : e.entry ∈ registry kUnknown e.sigil := List.mem_of_find?_eq_some e.registered

theorem entry_cmd : e.entry.cmd = e.tag := by simpa using List.find?_some e.registered

theorem sigil_mem : e.sigil ∈ sigils := mem_sigils_of_mem_registry e.entry_mem

theorem tag_spec :
    TagFree e.tag ∧ e.tag ≠ [] ∧ e.tag ≠ "CMT".toList ∧ e.tag ≠ "CDS".toList :=
  e.entry_cmd ▸ registry_tag e.entry_mem

theorem sigil_ne : e.sigil ≠ '\r' ∧ e.sigil ≠ '\n' := by
  have h := e.sigil_mem
  simp only [sigils, List.mem_cons, List.mem_singleton, List.not_mem_nil, or_false] at h
  rcases h with h | h | h <;> rw [h] <;> decide

theorem any_tag : (registry kUnknown e.sigil).any (fun vp => vp.cmd == e.tag) = true :=
  List.any_eq_true.mpr ⟨e.entry, e.entry_mem, by rw [e.entry_cmd]; exact beq_self_eq_true _⟩

theorem parse_delimited {d : Char} (hd : d = ':' ∨ d = kCR) (rest : List Char) :
    parse kUnknown (e.sigil :: (e.tag ++ d :: rest)) =
      parseCmdsPayload (e.sigil :: (e.tag ++ d :: rest)) e.entry
        (if d = ':' then 1 + e.tag.length + 1 else 1 + e.tag.length) := by
  obtain ⟨hT, -, hcmt, hcds⟩ := e.tag_spec
  rw [AtChannel.parse_delimited e.sigil_mem hT hcmt hcds hd, e.registered]

theorem parse_take_tag (x : List Char) {j : Nat} (hj : j ≤ e.tag.length) :
    parse kUnknown (e.sigil :: (e.tag ++ x).take j) =
      if (registry kUnknown e.sigil).any (fun vp => vp.cmd == e.tag.take j) then (0, none)
      else (-1, none) := by
  rw [List.take_append_of_le_length hj]
  exact parse_undelimited e.sigil_mem fun c hc => e.tag_spec.1 c (List.mem_of_mem_take hc)

/-- Where a read may end inside a message that starts with the sigil and the tag, given
that every cut after the tag is pending. -/
theorem receiveOneResponse_take (x : List Char)
    (hafter : ∀ j, e.tag.length < j → j < e.tag.length + x.length →
      parse kUnknown (e.sigil :: (e.tag ++ x).take j) = (0, none))
    {k : Nat} (h0 : 0 < k) (hk : k < e.tag.length + x.length + 1) :
    receiveOneResponse kUnknown ((e.sigil :: (e.tag ++ x)).take k) =
      (none, if e.tag.length + 1 ≤ k ∨
          (registry kUnknown e.sigil).any (fun vp => vp.cmd == e.tag.take (k - 1)) = true
        then some 0 else none) := by
  obtain ⟨j, rfl⟩ : ∃ j, k = j + 1 := ⟨k - 1, by omega⟩
  rw [List.take_succ_cons, Nat.add_sub_cancel]
  by_cases hj : j ≤ e.tag.length
  · have hiff : (e.tag.length + 1 ≤ j + 1 ∨
        (registry kUnknown e.sigil).any (fun vp => vp.cmd == e.tag.take j) = true) ↔
        (registry kUnknown e.sigil).any (fun vp => vp.cmd == e.tag.take j) = true := by
      refine ⟨fun h => h.elim (fun h => ?_) id, .inr⟩
      rw [show j = e.tag.length by omega, List.take_length]
      exact e.any_tag
    have hp := e.parse_take_tag x hj
    by_cases ha : (registry kUnknown e.sigil).any (fun vp => vp.cmd == e.tag.take j) = true
    · rw [if_pos ha] at hp
      rw [receiveOneResponse_of_parse e.sigil_ne.1 e.sigil_ne.2 hp, if_pos (hiff.mpr ha)]
      rfl
    · rw [if_neg ha] at hp
      rw [receiveOneResponse_of_parse e.sigil_ne.1 e.sigil_ne.2 hp, if_neg (mt hiff.mp ha)]
      rfl
  · rw [receiveOneResponse_of_parse e.sigil_ne.1 e.sigil_ne.2 (hafter j (by omega) (by omega)),
      if_pos (show e.tag.length + 1 ≤ j + 1 ∨ _ from .inl (by omega))]
    rfl

end Tagged

/-- A reply line of a single-line entry: the sigil, the tag, and either nothing or `:` and
a payload before the closing `\r`. -/
structure TagLine (kUnknown : Int) extends Tagged kUnknown where
  body : List Char
  single : entry.multiline = false
  delimited : body = [] ∨ body.head? = some ':'
  cr_not_mem : kCR ∉ body

namespace TagLine

variable (l : TagLine kUnknown)

def bytes : List Char := l.sigil :: (l.tag ++ (l.body ++ [kCR]))

/-- What the entry's parser makes of the payload, its leading blanks trimmed. -/
def response : AtResponse := l.entry.parse (ltrim (l.body.drop 1))

theorem body_eq_colon (h : l.body ≠ []) : ∃ p, l.body = ':' :: p := by
  rcases l.delimited with hb | hb
  · exact absurd hb h
  · cases hc : l.body with
    | nil => exact absurd hc h
    | cons x p => simp only [hc, List.head?_cons, Option.some.injEq] at hb; exact ⟨p, by rw [hb]⟩

/-- The line is one message: `parseCmds` reads it to its `\r` with the first entry
registered under its tag, whatever comes after it. -/
theorem parse_bytes (t : List Char) :
    parse kUnknown (l.bytes ++ t) = ((l.bytes.length : Int), some l.response) := by
  by_cases hb : l.body = []
  · have hs : l.bytes ++ t = l.sigil :: (l.tag ++ kCR :: t) := by simp [bytes, hb]
    have hpay := parseCmdsPayload_single l.single (l.sigil :: l.tag) (List.not_mem_nil kCR) t
    simp only [List.append_nil, List.cons_append, List.length_cons, List.length_nil,
      Nat.add_zero] at hpay
    rw [hs, l.parse_delimited (.inr rfl), if_neg (by decide), Nat.add_comm 1, hpay, response, hb]
    simp [bytes, hb]
  · obtain ⟨p, hp⟩ := l.body_eq_colon hb
    have hcr : kCR ∉ p := fun h => l.cr_not_mem (hp ▸ List.mem_cons_of_mem _ h)
    have hs : l.bytes ++ t = l.sigil :: (l.tag ++ ':' :: (p ++ kCR :: t)) := by simp [bytes, hp]
    have hpay := parseCmdsPayload_single l.single (l.sigil :: (l.tag ++ [':'])) hcr t
    simp only [List.cons_append, List.append_assoc, List.singleton_append, List.length_cons,
      List.length_append, List.length_singleton, List.nil_append, List.length_nil,
      Nat.zero_add] at hpay
    rw [hs, l.parse_delimited (.inl rfl), if_pos rfl, Nat.add_comm 1, hpay, response, hp]
    simp only [bytes, hp, List.length_cons, List.length_append, List.length_singleton,
      List.drop_succ_cons, List.drop_zero, List.length_nil]
    congr 2
    omega

/-- The line as a message. -/
def toMessage : Message kUnknown where
  bytes := l.bytes
  response := some l.response
  bytes_ne_nil := List.cons_ne_nil _ _
  frame t := receiveOneResponse_of_parse_nat l.sigil_ne.1 l.sigil_ne.2 (l.parse_bytes t)

theorem parse_take_payload {j : Nat} (hj : l.tag.length < j)
    (hk : j < l.tag.length + (l.body ++ [kCR]).length) :
    parse kUnknown (l.sigil :: (l.tag ++ (l.body ++ [kCR])).take j) = (0, none) := by
  simp only [List.length_append, List.length_singleton] at hk
  obtain ⟨p, hp⟩ := l.body_eq_colon (by intro h; rw [h] at hk; simp at hk; omega)
  have hbl : l.body.length = p.length + 1 := by rw [hp]; rfl
  have hcr : kCR ∉ p.take (j - l.tag.length - 1) := fun h =>
    l.cr_not_mem (hp ▸ List.mem_cons_of_mem _ (List.mem_of_mem_take h))
  have htake : (l.tag ++ (l.body ++ [kCR])).take j =
      l.tag ++ ':' :: p.take (j - l.tag.length - 1) := by
    rw [List.take_append_eq_append_take, List.take_of_length_le hj.le,
      List.take_append_of_le_length (by omega), hp]
    obtain ⟨i, hi⟩ : ∃ i, j - l.tag.length = i + 1 := ⟨j - l.tag.length - 1, by omega⟩
    rw [hi, List.take_succ_cons, Nat.add_sub_cancel]
  have hpay := parseCmdsPayload_single_pending l.single (l.sigil :: (l.tag ++ [':'])) hcr
  simp only [List.cons_append, List.append_assoc, List.singleton_append, List.length_cons,
    List.length_append, List.length_singleton, List.nil_append, List.length_nil,
    Nat.zero_add] at hpay
  rw [htake, l.parse_delimited (.inl rfl), if_pos rfl, Nat.add_comm 1, hpay]

/-- **Where a read may end inside a reply line.** The first `k` bytes of the line are kept
for the next read exactly when they hold the whole tag, or when what they hold of it is
itself a tag registered after the same sigil. Anywhere else (after the sigil alone, or
inside the tag) `receiveOneResponse` returns `nullptr`, and the reader aborts. Nothing is
broadcast either way. -/
theorem receiveOneResponse_take_line {k : Nat} (h0 : 0 < k) (hk : k < l.bytes.length) :
    receiveOneResponse kUnknown (l.bytes.take k) =
      (none, if l.tag.length + 1 ≤ k ∨
          (registry kUnknown l.sigil).any (fun vp => vp.cmd == l.tag.take (k - 1)) = true
        then some 0 else none) :=
  l.toTagged.receiveOneResponse_take _ (fun _ hj hk => l.parse_take_payload hj hk) h0
    (by simpa [bytes] using hk)

/-- `+CFUN: 1` cut after `+CF`: the reader aborts. -/
theorem receiveOneResponse_take_cfun :
    let l : TagLine 0 :=
      ⟨⟨'+', "CFUN".toList, .ofCmd .CFUN CFUN.parse false, rfl⟩, ": 1".toList, rfl, .inr rfl,
        by decide⟩
    0 < 3 ∧ 3 < l.bytes.length ∧ receiveOneResponse 0 (l.bytes.take 3) = (none, none) :=
  ⟨by decide, by decide, (receiveOneResponse_take_line _ (by decide) (by decide)).trans rfl⟩

end TagLine

theorem krOKr_length : krOKr.length = 4 := rfl

/-- The payload of a multi-line entry runs to the first `\rOK\r`, which the count takes in;
the entry's parser gets the input up to the `\r` that starts it. -/
theorem parseCmdsPayload_multi {vp : ValueParser} (hvp : vp.multiline = true) (pre : List Char)
    {x : List Char} (hx : indexOfSub krOKr (x ++ krOKr) = some x.length) (t : List Char) :
    parseCmdsPayload (pre ++ (x ++ krOKr ++ t)) vp pre.length =
      (((pre.length + x.length + 4 : Nat) : Int), some (vp.parse (pre ++ x ++ [kCR]))) := by
  have hfind : find (pre ++ (x ++ krOKr ++ t)) krOKr pre.length =
      some (x.length + pre.length) := by
    rw [find, List.drop_left, indexOfSub_append t hx]; rfl
  have hs : pre ++ (x ++ krOKr ++ t) = (pre ++ x) ++ (krOKr ++ t) := by simp
  rw [parseCmdsPayload, if_pos hvp, hfind]
  dsimp only
  rw [show x.length + pre.length + 1 = (pre ++ x).length + 1 by simp; omega, hs,
    List.take_append, krOKr_length]
  congr 2
  omega

theorem parseCmdsPayload_multi_pending {vp : ValueParser} (hvp : vp.multiline = true)
    (pre : List Char) {x y : List Char} (hx : indexOfSub krOKr (x ++ krOKr) = some x.length)
    (hy : y <+: x ++ krOKr) (hlt : y.length < x.length + 4) :
    parseCmdsPayload (pre ++ y) vp pre.length = (0, none) := by
  have hnone : indexOfSub krOKr y = none := by
    cases h : indexOfSub krOKr y with
    | none => rfl
    | some i =>
      have hle := indexOfSub_le h
      obtain ⟨r, hr⟩ := hy
      have hi := indexOfSub_append r h
      rw [hr, hx, Option.some.injEq] at hi
      simp only [krOKr] at hle
      exact absurd hi (by simp at hle; omega)
  rw [parseCmdsPayload, if_pos hvp, find, List.drop_left, hnone]
  rfl

/-- The answer block of a multi-line entry: the sigil, the tag, `:`, and the text of the
answer's lines, which holds no `\rOK\r` before the one that ends the block. -/
structure TagBlock (kUnknown : Int) extends Tagged kUnknown where
  text : List Char
  multi : entry.multiline = true
  terminated : indexOfSub krOKr (text ++ krOKr) = some text.length

namespace TagBlock

variable (b : TagBlock kUnknown)

def bytes : List Char := b.sigil :: (b.tag ++ ':' :: (b.text ++ krOKr))

/-- What the entry's parser makes of the block, given up to the `\r` before `OK`. -/
def response : AtResponse := b.entry.parse (b.sigil :: (b.tag ++ ':' :: (b.text ++ [kCR])))

theorem parse_bytes (t : List Char) :
    parse kUnknown (b.bytes ++ t) = ((b.bytes.length : Int), some b.response) := by
  have hpay := parseCmdsPayload_multi b.multi (b.sigil :: (b.tag ++ [':'])) b.terminated t
  simp only [List.cons_append, List.append_assoc, List.singleton_append, List.length_cons,
    List.length_append, List.length_singleton, List.nil_append, List.length_nil,
    Nat.zero_add] at hpay
  have hs : b.bytes ++ t = b.sigil :: (b.tag ++ ':' :: (b.text ++ (krOKr ++ t))) := by
    simp [bytes]
  rw [hs, b.parse_delimited (.inl rfl), if_pos rfl, Nat.add_comm 1, hpay, response]
  simp only [bytes, krOKr_length, List.length_cons, List.length_append]
  congr 2
  omega

/-- The block as a message. -/
def toMessage : Message kUnknown where
  bytes := b.bytes
  response := some b.response
  bytes_ne_nil := List.cons_ne_nil _ _
  frame t := receiveOneResponse_of_parse_nat b.sigil_ne.1 b.sigil_ne.2 (b.parse_bytes t)

theorem parse_take_payload {j : Nat} (hj : b.tag.length < j)
    (hk : j < b.tag.length + (':' :: (b.text ++ krOKr)).length) :
    parse kUnknown (b.sigil :: (b.tag ++ ':' :: (b.text ++ krOKr)).take j) = (0, none) := by
  obtain ⟨i, hi⟩ : ∃ i, j - b.tag.length = i + 1 := ⟨j - b.tag.length - 1, by omega⟩
  have htake : (b.tag ++ ':' :: (b.text ++ krOKr)).take j =
      b.tag ++ ':' :: (b.text ++ krOKr).take i := by
    rw [List.take_append_eq_append_take, List.take_of_length_le hj.le, hi, List.take_succ_cons]
  have hpay := parseCmdsPayload_multi_pending b.multi (b.sigil :: (b.tag ++ [':'])) b.terminated
    (List.take_prefix i _) (by simp [krOKr] at hk ⊢; omega)
  simp only [List.cons_append, List.append_assoc, List.singleton_append, List.length_cons,
    List.length_append, List.length_singleton, List.nil_append, List.length_nil,
    Nat.zero_add] at hpay
  rw [htake, b.parse_delimited (.inl rfl), if_pos rfl, Nat.add_comm 1, hpay]

/-- **Where a read may end inside an answer block**: as in a reply line, anywhere from the
end of the tag on, and inside the tag only where what was read is itself a registered
tag. -/
theorem receiveOneResponse_take_block {k : Nat} (h0 : 0 < k) (hk : k < b.bytes.length) :
    receiveOneResponse kUnknown (b.bytes.take k) =
      (none, if b.tag.length + 1 ≤ k ∨
          (registry kUnknown b.sigil).any (fun vp => vp.cmd == b.tag.take (k - 1)) = true
        then some 0 else none) :=
  b.toTagged.receiveOneResponse_take _ (fun _ hj hk => b.parse_take_payload hj hk) h0
    (by simpa [bytes] using hk)

/-- A `+CLCC` answer cut inside its first line, and inside its `\rOK\r`: kept both times. -/
theorem receiveOneResponse_take_clcc :
    let b : TagBlock 0 :=
      ⟨⟨'+', "CLCC".toList, .ofCmd .CLCC CLCC.parse true, rfl⟩, " 1,0,0,0,0,\"1\",129".toList,
        rfl, by decide⟩
    (0 < 9 ∧ 9 < b.bytes.length ∧ receiveOneResponse 0 (b.bytes.take 9) = (none, some 0)) ∧
      (0 < 27 ∧ 27 < b.bytes.length ∧ receiveOneResponse 0 (b.bytes.take 27) = (none, some 0)) :=
  ⟨⟨by decide, by decide, (receiveOneResponse_take_block _ (by decide) (by decide)).trans rfl⟩,
    ⟨by decide, by decide, (receiveOneResponse_take_block _ (by decide) (by decide)).trans rfl⟩⟩

end TagBlock

end AtChannel

end GoldfishRadio
