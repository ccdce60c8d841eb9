import GoldfishRadio.AtResponse.Parse

/-!
# Extension stability of the line recognizer

Once `AtResponse::parse` has recognised a message, bytes appended after it change neither
the count nor the response, which is what lets `receiveResponsesImpl` parse a growing
buffer again. The argument follows the dispatch: `parse` recognises no proper prefix of a
literal, and no registered tag holds the `:` or `\r` that ends a matched one.
-/

namespace GoldfishRadio

namespace AtResponse

theorem isPrefixOf_append {l s : List Char} (t : List Char) (h : l.isPrefixOf s) :
    l.isPrefixOf (s ++ t) :=
  List.isPrefixOf_iff_prefix.mpr ((List.isPrefixOf_iff_prefix.mp h).trans (List.prefix_append _ _))

theorem prefix_of_prefix_append {l s t : List Char} (h : l <+: s ++ t) (hn : ¬ l <+: s) :
    s <+: l ∧ s.length < l.length := by
  refine ⟨(List.prefix_or_prefix_of_prefix h (List.prefix_append s t)).resolve_left hn, ?_⟩
  by_contra hle
  exact hn (List.prefix_of_prefix_length_le h (List.prefix_append s t) (by omega))

theorem isPrefixOf_append_eq {l s : List Char} (t : List Char)
    (h : ¬ (s <+: l ∧ s.length < l.length)) : l.isPrefixOf (s ++ t) = l.isPrefixOf s := by
  rw [Bool.eq_iff_iff, List.isPrefixOf_iff_prefix, List.isPrefixOf_iff_prefix]
  exact ⟨fun h' => by_contra fun hn => h (prefix_of_prefix_append h' hn),
    fun h' => h'.trans (List.prefix_append _ _)⟩

theorem prefix_concat {l x : List Char} {c : Char} (hp : l.isPrefixOf x)
    (hc : x[l.length]? = some c) : l ++ [c] <+: x := by
  obtain ⟨r, rfl⟩ := List.isPrefixOf_iff_prefix.mp hp
  cases r with
  | nil => simp at hc
  | cons d r =>
    simp only [List.getElem?_append_right (Nat.le_refl _), Nat.sub_self,
      List.getElem?_cons_zero, Option.some.injEq] at hc
    exact ⟨r, by simp [hc]⟩

theorem ltrim_append {s : List Char} (t : List Char) (h : ltrim s ≠ []) :
    ltrim (s ++ t) = ltrim s ++ t := by
  simp only [ltrim, List.dropWhile_append] at h ⊢
  simp [List.isEmpty_iff, h]

theorem indexOfSub_le {needle l : List Char} {i : Nat} (h : indexOfSub needle l = some i) :
    i + needle.length ≤ l.length := by
  induction l generalizing i with
  | nil =>
    rw [indexOfSub] at h
    split at h
    · cases h; rw [Nat.zero_add]; exact (List.isPrefixOf_iff_prefix.mp ‹_›).length_le
    · cases h
  | cons x l ih =>
    rw [indexOfSub] at h
    split at h
    · cases h; rw [Nat.zero_add]; exact (List.isPrefixOf_iff_prefix.mp ‹_›).length_le
    · obtain ⟨j, hj, rfl⟩ := Option.map_eq_some'.mp h
      have := ih hj
      simp only [List.length_cons]; omega

theorem indexOfSub_append {needle l : List Char} {i : Nat} (t : List Char)
    (h : indexOfSub needle l = some i) : indexOfSub needle (l ++ t) = some i := by
  induction l generalizing i with
  | nil =>
    rw [indexOfSub] at h
    split at h
    · unfold indexOfSub; rw [if_pos (isPrefixOf_append t ‹_›)]; exact h
    · cases h
  | cons x l ih =>
    have hp := isPrefixOf_append_eq (l := needle) (s := x :: l) t
      (fun h' => by have := indexOfSub_le h; omega)
    rw [indexOfSub] at h
    rw [List.cons_append, indexOfSub, ← List.cons_append, hp]
    split at h
    · rw [if_pos ‹_›]; exact h
    · rw [if_neg ‹_›]
      obtain ⟨j, hj, rfl⟩ := Option.map_eq_some'.mp h
      simp [ih hj]

theorem find_append {str needle : List Char} {pos e : Nat} (t : List Char) (hn : needle ≠ [])
    (h : find str needle pos = some e) :
    pos ≤ e ∧ e + needle.length ≤ str.length ∧ find (str ++ t) needle pos = some e := by
  obtain ⟨i, hi, rfl⟩ := Option.map_eq_some'.mp h
  have hle := indexOfSub_le hi
  have hlen : 0 < needle.length := List.length_pos.mpr hn
  simp only [List.length_drop] at hle
  refine ⟨by omega, by omega, ?_⟩
  simp [find, List.drop_append_of_le_length (by omega : pos ≤ str.length), indexOfSub_append t hi]

theorem parseCmdsPayload_append {str : List Char} {vp : ValueParser} {n : Nat} (t : List Char)
    (h : 0 < (parseCmdsPayload str vp n).1) :
    (parseCmdsPayload str vp n).1 ≤ str.length ∧
      parseCmdsPayload (str ++ t) vp n = parseCmdsPayload str vp n := by
  unfold parseCmdsPayload at h ⊢
  cases hm : vp.multiline <;> simp only [hm, Bool.false_eq_true, if_true, if_false] at h ⊢
  · split at h
    · rename_i e he
      obtain ⟨hpe, hle, he'⟩ := find_append t (by simp) he
      simp only [List.length_singleton] at hle
      simp only [he', List.drop_append_of_le_length (show n ≤ str.length by omega),
        List.take_append_of_le_length (show e - n ≤ (str.drop n).length by simp; omega)]
      exact ⟨by omega, trivial⟩
    · simp at h
  · split at h
    · rename_i e he
      obtain ⟨-, hle, he'⟩ := find_append t (by simp [krOKr]) he
      have h4 : krOKr.length = 4 := rfl
      simp only [he', List.take_append_of_le_length (show e + 1 ≤ str.length by omega)]
      exact ⟨by simp only [h4] at hle ⊢; omega, trivial⟩
    · simp at h

/-- No byte of the tag can end it. -/
def TagFree (cmd : List Char) : Prop := ∀ c ∈ cmd, c ≠ ':' ∧ c ≠ kCR

instance (cmd : List Char) : Decidable (TagFree cmd) :=
  inferInstanceAs (Decidable (∀ c ∈ cmd, c ≠ ':' ∧ c ≠ kCR))

theorem parseCmdsScan_matched {str : List Char} {vps : List ValueParser} {mi : Bool}
    (h : 0 < (parseCmdsScan str vps mi).1) :
    ∃ vp ∈ vps, ∃ c, (c = ':' ∨ c = kCR) ∧ vp.cmd ++ [c] <+: str.drop 1 := by
  induction vps generalizing mi with
  | nil => cases mi <;> simp [parseCmdsScan] at h
  | cons vp vps ih =>
    simp only [parseCmdsScan] at h
    split_ifs at h with hp hlen hc hr
    · obtain ⟨w, hw, hx⟩ := ih h; exact ⟨w, .tail _ hw, hx⟩
    · exact ⟨vp, .head _, ':', .inl rfl, prefix_concat hp hc⟩
    · exact ⟨vp, .head _, kCR, .inr rfl, prefix_concat hp hr⟩
    · obtain ⟨w, hw, hx⟩ := ih h; exact ⟨w, .tail _ hw, hx⟩
    · obtain ⟨w, hw, hx⟩ := ih h; exact ⟨w, .tail _ hw, hx⟩

theorem tag_delim_not_within {cmd cmd' x : List Char} {c : Char} (hfree : TagFree cmd)
    (hc : c = ':' ∨ c = kCR) (h1 : cmd' ++ [c] <+: x) (h2 : x <+: cmd) : False := by
  have := hfree c ((h1.trans h2).subset (by simp))
  rcases hc with rfl | rfl <;> simp at this

theorem parseCmdsScan_append {str : List Char} {vps : List ValueParser} {mi : Bool}
    (t : List Char) (hfree : ∀ vp ∈ vps, TagFree vp.cmd) (h : 0 < (parseCmdsScan str vps mi).1) :
    (parseCmdsScan str vps mi).1 ≤ str.length ∧
      parseCmdsScan (str ++ t) vps mi = parseCmdsScan str vps mi := by
  have hdrop : (str ++ t).drop 1 = str.drop 1 ++ t := by
    obtain ⟨_, -, _, -, hw⟩ := parseCmdsScan_matched h
    have := hw.length_le
    simp only [List.length_append, List.length_singleton, List.length_drop] at this
    exact List.drop_append_of_le_length (by omega)
  induction vps generalizing mi with
  | nil => cases mi <;> simp [parseCmdsScan] at h
  | cons vp vps ih =>
    have hf := hfree vp (.head _)
    have hfree' : ∀ v ∈ vps, TagFree v.cmd := fun v hv => hfree v (.tail _ hv)
    simp only [parseCmdsScan, hdrop] at h ⊢
    by_cases hp : vp.cmd.isPrefixOf (str.drop 1)
    · have hlen : ¬ (str.drop 1).length ≤ vp.cmd.length := by
        intro hlen
        simp only [hp, hlen, if_true] at h
        obtain ⟨_, -, c, hc, hw⟩ := parseCmdsScan_matched h
        have hpx := List.isPrefixOf_iff_prefix.mp hp
        exact tag_delim_not_within hf hc hw (hpx.eq_of_length (le_antisymm hpx.length_le hlen) ▸
          List.prefix_refl _)
      have hlen' : ¬ (str.drop 1 ++ t).length ≤ vp.cmd.length := by simp at hlen ⊢; omega
      have hget : (str.drop 1 ++ t)[vp.cmd.length]? = (str.drop 1)[vp.cmd.length]? :=
        List.getElem?_append_left (by omega)
      simp only [hp, isPrefixOf_append t hp, hlen, hlen', hget, if_true, if_false] at h ⊢
      split_ifs at h ⊢
      · exact parseCmdsPayload_append t h
      · exact parseCmdsPayload_append t h
      · exact ih hfree' h
    · have hp' : vp.cmd.isPrefixOf (str.drop 1 ++ t) = false := by
        simp only [hp, if_false] at h
        obtain ⟨_, -, c, hc, hw⟩ := parseCmdsScan_matched h
        rw [isPrefixOf_append_eq t fun hx => tag_delim_not_within hf hc hw hx.1]
        exact Bool.eq_false_iff.mpr hp
      simp only [hp, hp', if_false] at h ⊢
      exact ih hfree' h

theorem parseCmdsPayload_fst (str : List Char) {vp vp' : ValueParser} (n : Nat)
    (h : vp.multiline = vp'.multiline) :
    (parseCmdsPayload str vp n).1 = (parseCmdsPayload str vp' n).1 := by
  simp only [parseCmdsPayload, h]
  split <;> split <;> rfl

theorem parseCmdsScan_fst (str : List Char) {vps vps' : List ValueParser} (mi : Bool)
    (h : vps.map (fun vp => (vp.cmd, vp.multiline)) = vps'.map (fun vp => (vp.cmd, vp.multiline))) :
    (parseCmdsScan str vps mi).1 = (parseCmdsScan str vps' mi).1 := by
  induction vps generalizing vps' mi with
  | nil => cases vps' <;> simp_all
  | cons vp vps ih =>
    cases vps' with
    | nil => simp at h
    | cons vp' vps' =>
      simp only [List.map_cons, List.cons.injEq, Prod.mk.injEq] at h
      obtain ⟨⟨hc, hm⟩, ht⟩ := h
      simp only [parseCmdsScan, hc]
      split_ifs <;> first | exact parseCmdsPayload_fst _ _ hm | exact ih _ ht

/-- `kUnknown` only fills fields of `+CSQ` records; the count never depends on it. -/
theorem parse_fst_congr (kUnknown kUnknown' : Int) (s : List Char) :
    (parse kUnknown s).1 = (parse kUnknown' s).1 := by
  unfold parse
  by_cases h1 : kRING.isPrefixOf s = true
  · rw [if_pos h1, if_pos h1]
  rw [if_neg h1, if_neg h1]
  by_cases h2 : kCMT.isPrefixOf s = true
  · rw [if_pos h2, if_pos h2]
  rw [if_neg h2, if_neg h2]
  by_cases h3 : kCDS.isPrefixOf s = true
  · rw [if_pos h3, if_pos h3]
  rw [if_neg h3, if_neg h3]
  split
  · exact parseCmdsScan_fst _ _ rfl
  all_goals rfl

/-- The literals `parse` tests a prefix against. -/
def literals : List (List Char) := [kRING, kCMT, kCDS, kSmsPrompt, kOKr, kERRORr]

theorem parse_fst_nonpos_of_lt_literal (kUnknown : Int) {L s : List Char}
    (hL : L ∈ literals) (hs : s <+: L) (hlt : s.length < L.length) :
    (parse kUnknown s).1 ≤ 0 := by
  have key : ∀ L ∈ literals, ∀ n, n < L.length → (parse 0 (L.take n)).1 ≤ 0 := by decide
  rw [List.prefix_iff_eq_take.mp hs, parse_fst_congr kUnknown 0]
  exact key L hL _ hlt

theorem plusValueParsers_tagFree (kUnknown : Int) :
    ∀ vp ∈ plusValueParsers kUnknown, TagFree vp.cmd := by
  have key : ∀ c ∈ (plusValueParsers 0).map ValueParser.cmd, TagFree c := by decide
  have hmap : (plusValueParsers kUnknown).map ValueParser.cmd =
      (plusValueParsers 0).map ValueParser.cmd := rfl
  exact fun vp hvp => key _ (hmap ▸ List.mem_map_of_mem _ hvp)

theorem percentValueParsers_tagFree : ∀ vp ∈ percentValueParsers, TagFree vp.cmd := by
  decide

theorem caretValueParsers_tagFree : ∀ vp ∈ caretValueParsers, TagFree vp.cmd := by
  decide

theorem pduParse_append {T : Cmd} {mk : Int → List UInt8 → Value} {str : List Char}
    (t : List Char) (h : 0 < (pduParse T mk str).1) :
    (pduParse T mk str).1 ≤ str.length ∧ pduParse T mk (str ++ t) = pduParse T mk str := by
  unfold pduParse at h ⊢
  split at h
  · rename_i v rest h1
    obtain ⟨v', r1, hr, hs⟩ := Cursor.bind_eq_some.mp h1
    obtain ⟨_, r2, hk, hpure⟩ := Cursor.bind_eq_some.mp hs
    cases hpure
    rw [Cursor.skip_eq (by decide) hk] at hr
    have h1' : (do let v ← Cursor.readInt; Cursor.skip kCR; pure v : Cursor Int) (str ++ t) =
        some (v, rest ++ t) :=
      Cursor.bind_eq_some.mpr ⟨v, _, Cursor.readInt_append hr (by decide),
        Cursor.bind_eq_some.mpr ⟨(), _, by simp [Cursor.skip, kCR], rfl⟩⟩
    rw [h1']
    split at h
    · rename_i strPdu rest' h2
      simp only [Cursor.readString, Cursor.readView_append h2]
      split at h
      · simp only [List.length_append]
        exact ⟨by omega, by congr 1; omega⟩
      · simp at h
    · simp at h
  · simp at h

theorem parsePrefixed_append {str : List Char} {n : Nat} {p : List Char → Int × Option AtResponse}
    (t : List Char) (hn : n ≤ str.length) (hnil : (p []).1 ≤ 0)
    (hp : ∀ u, 0 < (p u).1 → (p u).1 ≤ u.length ∧ p (u ++ t) = p u)
    (h : 0 < (parsePrefixed str n p).1) :
    (parsePrefixed str n p).1 ≤ str.length ∧ parsePrefixed (str ++ t) n p = parsePrefixed str n p := by
  unfold parsePrefixed at h ⊢
  rw [List.drop_append_of_le_length hn]
  have hu : ltrim (str.drop n) ≠ [] := by
    intro hu
    rw [hu] at h
    split at h
    rename_i consumed _ hp0
    rw [hp0] at hnil
    split_ifs at h with hc
    · exact absurd hnil (Int.not_le.mpr hc)
    · exact hc h
  rw [ltrim_append t hu]
  rcases hpu : p (ltrim (str.drop n)) with ⟨c, r⟩
  rw [hpu] at h
  simp only at h ⊢
  split_ifs at h with hc
  · obtain ⟨hle, heq⟩ := hp _ (by rw [hpu]; exact hc)
    rw [heq, hpu] at *
    simp only [hc, if_true, List.length_append]
    exact ⟨by simp at hle; omega, by congr 1; omega⟩
  · simp at h; omega

/-- What is shown of each branch of `parse`: when the branch recognised a message in `s`,
the count lies within `s` and the branch gives the same result on the longer input. -/
def Stable (s : List Char) (onLonger onS : ParseResult) : Prop :=
  0 < onS.1 → onS.1 ≤ s.length ∧ onLonger = onS

theorem stable_ite {s : List Char} {c : Prop} [Decidable c] {a a' b b' : ParseResult}
    (ha : c → Stable s a' a) (hb : ¬ c → Stable s b' b) :
    Stable s (if c then a' else b') (if c then a else b) := by
  by_cases hc : c
  · simpa only [if_pos hc] using ha hc
  · simpa only [if_neg hc] using hb hc

/-- Once `parse` recognises a message, bytes that arrive after it change neither the
count nor the response. -/
theorem parse_append_of_pos (kUnknown : Int) (s t : List Char) (h : 0 < (parse kUnknown s).1) :
    (parse kUnknown s).1 ≤ s.length ∧ parse kUnknown (s ++ t) = parse kUnknown s := by
  have lit : ∀ L ∈ literals, L.isPrefixOf (s ++ t) = L.isPrefixOf s := fun L hL =>
    isPrefixOf_append_eq t fun ⟨hp, hlt⟩ =>
      absurd h (Int.not_lt.mpr (parse_fst_nonpos_of_lt_literal kUnknown hL hp hlt))
  simp only [literals, List.mem_cons, List.not_mem_nil, forall_eq_or_imp] at lit
  obtain ⟨hRING, hCMT, hCDS, hSms, hOK, hERR, -⟩ := lit
  have hlen : ∀ L : List Char, L.isPrefixOf s → (L.length : Int) ≤ s.length := fun L hL => by
    have := (List.isPrefixOf_iff_prefix.mp hL).length_le; omega
  have hs : s ≠ [] := by
    rintro rfl
    have : (parse kUnknown []).1 = 0 := rfl
    omega
  revert h
  show Stable s _ _
  unfold parse
  rw [hRING, hCMT, hCDS, List.head?_append_of_ne_nil s hs]
  refine stable_ite (fun h1 _ => ⟨hlen _ h1, rfl⟩) fun _ => stable_ite (fun h2 => ?_) fun _ =>
    stable_ite (fun h3 => ?_) fun _ => ?_
  · exact parsePrefixed_append t (List.isPrefixOf_iff_prefix.mp h2).length_le (by decide)
      fun _ => pduParse_append t
  · exact parsePrefixed_append t (List.isPrefixOf_iff_prefix.mp h3).length_le (by decide)
      fun _ => pduParse_append t
  split
  · exact parseCmdsScan_append t (plusValueParsers_tagFree _)
  · exact parseCmdsScan_append t percentValueParsers_tagFree
  · exact parseCmdsScan_append t caretValueParsers_tagFree
  rw [hSms, hOK, hERR]
  refine stable_ite (fun h4 _ => ⟨hlen _ h4, rfl⟩) fun _ => stable_ite (fun h5 _ => ⟨hlen _ h5, rfl⟩)
    fun _ => stable_ite (fun h6 _ => ⟨hlen _ h6, rfl⟩) fun _ => ?_
  rcases hpos : find s krOKr 0 with _ | pos
  · intro h; simp at h
  · obtain ⟨-, hle, hpos'⟩ := find_append t (by simp [krOKr]) hpos
    have h4 : krOKr.length = 4 := rfl
    simp only [hpos', List.take_append_of_le_length (show pos ≤ s.length by omega)]
    exact fun _ => ⟨by omega, rfl⟩

theorem parse_append_of_pos_cfun :
    0 < (parse 0 "+CFUN: 1\r".toList).1 ∧
      ((parse 0 "+CFUN: 1\r".toList).1 ≤ "+CFUN: 1\r".toList.length ∧
        parse 0 ("+CFUN: 1\r".toList ++ "OK\r".toList) = parse 0 "+CFUN: 1\r".toList) :=
  ⟨by decide, parse_append_of_pos 0 _ _ (by decide)⟩

end AtResponse

end GoldfishRadio
