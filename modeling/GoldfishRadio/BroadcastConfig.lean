import GoldfishRadio.Messaging
import GoldfishRadio.AtResponse.CallList

/-!
# The round trip of a cell broadcast configuration

`setGsmBroadcastConfig` writes `AT+CSCB=<mode>,"<channels>","<languages>"`, and
`getGsmBroadcastConfig` is run here on those same fields. `CSCB::parseIds` reads every
range back, and a single id only when it ends the list (`parseIdsLoop_idList`). No list
comes back as written: the mode is read the other way round from how it was derived.
-/

namespace GoldfishRadio

namespace Messaging

open AtResponse Cursor

theorem toDecimal_natCast (n : Nat) : toDecimal n = decimal n := by
  simp [toDecimal, ← toDigits_ten]
  rfl

theorem toDecimal_negSucc (n : Nat) : toDecimal (Int.negSucc n) = '-' :: decimal (n + 1) := by
  simp [toDecimal, ← toDigits_ten]
  rfl

theorem toDecimal_ne_nil (x : Int) : toDecimal x ≠ [] := by
  rcases x with n | n
  · rw [Int.ofNat_eq_coe, toDecimal_natCast]; exact decimal_ne_nil n
  · rw [toDecimal_negSucc]; exact List.cons_ne_nil _ _

theorem mem_toDecimal {x : Int} {c : Char} (h : c ∈ toDecimal x) : c = '-' ∨ isDigitIn 10 c := by
  rcases x with n | n
  · rw [Int.ofNat_eq_coe, toDecimal_natCast] at h
    exact .inr (isDigitIn_of_mem_decimal h)
  · rw [toDecimal_negSucc, List.mem_cons] at h
    exact h.imp id isDigitIn_of_mem_decimal

/-- What may follow a numeral for `from_chars` to stop there: nothing, or a byte that is not a
digit. -/
def EndsNumeral (r : List Char) : Prop := ∀ c ∈ r.head?, isDigitIn 10 c = false

theorem endsNumeral_cons {c : Char} (hc : isDigitIn 10 c = false) (r : List Char) :
    EndsNumeral (c :: r) := by
  simpa [EndsNumeral] using hc

theorem digitsPrefix_decimal_append (n : Nat) {r : List Char} (hr : EndsNumeral r) :
    digitsPrefix 10 (decimal n ++ r) = some (n, r) := by
  cases r with
  | nil =>
    have hd : ∀ d ∈ decimal n, isDigitIn 10 d = true := fun _ => isDigitIn_of_mem_decimal
    rw [digitsPrefix, List.append_nil, List.takeWhile_eq_self_iff.2 hd,
      List.dropWhile_eq_nil_iff.2 hd, if_neg (decimal_ne_nil n), decimal_value]
  | cons c r => exact digitsPrefix_decimal n (hr c rfl) r

/-- The values of an `int`. -/
def FitsInt (x : Int) : Prop := -2 ^ 31 ≤ x ∧ x < 2 ^ 31

theorem readInt_toDecimal {x : Int} (hx : FitsInt x) {r : List Char} (hr : EndsNumeral r) :
    readInt 10 (toDecimal x ++ r) = some (x, r) := by
  rcases x with n | n
  · obtain ⟨d, ds, hds⟩ := List.exists_cons_of_ne_nil (decimal_ne_nil n)
    have hd : d ≠ '-' := by
      rintro rfl
      exact absurd (isDigitIn_of_mem_decimal (hds ▸ List.mem_cons_self _ _)) (by decide)
    have hp := digitsPrefix_decimal_append n hr
    rw [Int.ofNat_eq_coe, toDecimal_natCast, hds, List.cons_append] at *
    simp only [readInt, fromChars, List.head?_cons, Option.some.injEq, hd, if_false, hp,
      Option.some_bind, inIntRange]
    rw [if_neg (by unfold FitsInt at hx; omega)]
  · rw [toDecimal_negSucc, List.cons_append]
    simp only [readInt, fromChars, List.head?_cons, if_true, List.tail_cons,
      digitsPrefix_decimal_append _ hr, Option.some_bind, inIntRange]
    rw [FitsInt, Int.negSucc_eq] at hx
    rw [if_neg (by omega), Int.negSucc_eq]
    rfl

/-- The service ids of an entry, the items of the channel list. -/
def GsmBroadcastSmsConfigInfo.serviceIds (ci : GsmBroadcastSmsConfigInfo) : Int × Int :=
  (ci.fromServiceId, ci.toServiceId)

/-- The code schemes of an entry, the items of the language list. -/
def GsmBroadcastSmsConfigInfo.codeSchemes (ci : GsmBroadcastSmsConfigInfo) : Int × Int :=
  (ci.fromCodeScheme, ci.toCodeScheme)

/-- A list as the loop of `setGsmBroadcastConfig` leaves it: the items, a comma between
two. -/
def idList : List (Int × Int) → List Char
  | [] => []
  | [p] => idRange p.1 p.2
  | p :: q :: ps => idRange p.1 p.2 ++ ',' :: idList (q :: ps)

theorem idRange_ne_nil (f t : Int) : idRange f t ≠ [] := by
  unfold idRange; split <;> simp [toDecimal_ne_nil]

theorem appendConfig_foldl (a b : List Char) (ha : a ≠ []) (ci : GsmBroadcastSmsConfigInfo)
    (cs : List GsmBroadcastSmsConfigInfo) :
    (ci :: cs).foldl appendConfig (a, b) =
      (a ++ ',' :: idList ((ci :: cs).map (·.serviceIds)),
        b ++ ',' :: idList ((ci :: cs).map (·.codeSchemes))) := by
  induction cs generalizing a b ci with
  | nil => simp [appendConfig, ha, idList, GsmBroadcastSmsConfigInfo.serviceIds,
      GsmBroadcastSmsConfigInfo.codeSchemes]
  | cons c cs ih =>
    rw [List.foldl_cons, appendConfig, if_neg (by simpa using ha), ih _ _ (by simp)]
    simp [idList, GsmBroadcastSmsConfigInfo.serviceIds, GsmBroadcastSmsConfigInfo.codeSchemes]

theorem appendConfig_foldl_nil (ci : GsmBroadcastSmsConfigInfo)
    (cs : List GsmBroadcastSmsConfigInfo) :
    (ci :: cs).foldl appendConfig ([], []) =
      (idList ((ci :: cs).map (·.serviceIds)), idList ((ci :: cs).map (·.codeSchemes))) := by
  cases cs with
  | nil => rfl
  | cons c cs =>
    show (c :: cs).foldl appendConfig (idRange ci.fromServiceId ci.toServiceId,
      idRange ci.fromCodeScheme ci.toCodeScheme) = _
    rw [appendConfig_foldl _ _ (idRange_ne_nil _ _)]
    rfl

theorem parseIdsLoop_comma {fuel : Nat} {s r : List Char} {f : Int}
    (h : readInt 10 s = some (f, ',' :: r)) :
    CSCB.parseIdsLoop (fuel + 1) s = CSCB.parseIdsLoop fuel r := by
  cases s with
  | nil => cases h
  | cons => simp only [CSCB.parseIdsLoop, h]

theorem parseIdsLoop_range {fuel : Nat} {s r1 r2 : List Char} {f t : Int}
    (h1 : readInt 10 s = some (f, '-' :: r1)) (h2 : readInt 10 r1 = some (t, ',' :: r2)) :
    CSCB.parseIdsLoop (fuel + 1) s = (⟨f, t⟩ :: ·) <$> CSCB.parseIdsLoop fuel r2 := by
  cases s with
  | nil => cases h1
  | cons => simp only [CSCB.parseIdsLoop, h1, h2]

theorem parseIdsLoop_last {fuel : Nat} {s : List Char} {f : Int}
    (h : readInt 10 s = some (f, [])) : CSCB.parseIdsLoop (fuel + 1) s = some [⟨f, f⟩] := by
  cases s with
  | nil => cases h
  | cons => simp only [CSCB.parseIdsLoop, h]

theorem parseIdsLoop_range_last {fuel : Nat} {s r1 : List Char} {f t : Int}
    (h1 : readInt 10 s = some (f, '-' :: r1)) (h2 : readInt 10 r1 = some (t, [])) :
    CSCB.parseIdsLoop (fuel + 1) s = some [⟨f, t⟩] := by
  cases s with
  | nil => cases h1
  | cons => simp only [CSCB.parseIdsLoop, h1, h2]

/-- What `parseIds` makes of `idList ids`: every range, and a single id only when it ends
the list. -/
def keptIds : List (Int × Int) → List CSCB.Association
  | [] => []
  | [p] => [⟨p.1, p.2⟩]
  | p :: q :: ps => (if p.1 = p.2 then [] else [⟨p.1, p.2⟩]) ++ keptIds (q :: ps)

theorem length_idList_cons (p : Int × Int) (ps : List (Int × Int)) :
    0 < (idList (p :: ps)).length := by
  cases ps <;> simp [idList, List.length_pos.2 (idRange_ne_nil p.1 p.2)]

/-- **`parseIds` on a written list.** It reads every range back, and a single id only at the
end of the list: the `,` case skips the comma without pushing the id before it. -/
theorem parseIdsLoop_idList (ids : List (Int × Int)) (hfit : ∀ p ∈ ids, FitsInt p.1 ∧ FitsInt p.2)
    (fuel : Nat) (hfuel : (idList ids).length ≤ fuel) :
    CSCB.parseIdsLoop fuel (idList ids) = some (keptIds ids) := by
  induction ids using keptIds.induct generalizing fuel with
  | case1 => cases fuel <;> rfl
  | case2 p =>
    obtain ⟨fuel, rfl⟩ : ∃ k, fuel = k + 1 :=
      ⟨fuel - 1, by have := length_idList_cons p []; omega⟩
    obtain ⟨hf, ht⟩ := hfit p (List.mem_singleton_self p)
    have hend : EndsNumeral [] := nofun
    simp only [idList, idRange, keptIds]
    split
    · rename_i hpt
      rw [parseIdsLoop_last (by simpa using readInt_toDecimal hf hend), hpt]
    · exact parseIdsLoop_range_last (readInt_toDecimal hf (endsNumeral_cons (by decide) _))
        (by simpa using readInt_toDecimal ht hend)
  | case3 p q ps ih =>
    obtain ⟨fuel, rfl⟩ : ∃ k, fuel = k + 1 :=
      ⟨fuel - 1, by have := length_idList_cons p (q :: ps); omega⟩
    obtain ⟨hf, ht⟩ := hfit p (List.mem_cons_self p _)
    have hrest : (idList (q :: ps)).length ≤ fuel := by
      simp only [idList, List.length_append, List.length_cons] at hfuel; omega
    have hcomma : EndsNumeral (',' :: idList (q :: ps)) := endsNumeral_cons (by decide) _
    have htail := ih (fun x hx => hfit x (List.mem_cons_of_mem p hx)) fuel hrest
    simp only [idList, idRange, keptIds]
    split
    · rw [parseIdsLoop_comma (readInt_toDecimal hf hcomma), htail, List.nil_append]
    · rw [List.append_assoc, List.cons_append, parseIdsLoop_range
        (readInt_toDecimal hf (endsNumeral_cons (by decide) _)) (readInt_toDecimal ht hcomma),
        htail]
      rfl

theorem parseIds_idList (ids : List (Int × Int)) (hfit : ∀ p ∈ ids, FitsInt p.1 ∧ FitsInt p.2) :
    CSCB.parseIds (idList ids) = some (keptIds ids) :=
  parseIdsLoop_idList ids hfit _ le_rfl

theorem quote_not_mem_idList (ids : List (Int × Int)) : '"' ∉ idList ids := by
  have hnum : ∀ x : Int, '"' ∉ toDecimal x := fun x h => by
    rcases mem_toDecimal h with h | h
    · exact absurd h (by decide)
    · exact absurd h (by decide)
  have hrange : ∀ p : Int × Int, '"' ∉ idRange p.1 p.2 := fun p => by
    unfold idRange; split <;> simp [hnum]
  induction ids using keptIds.induct with
  | case1 => simp [idList]
  | case2 p => exact hrange p
  | case3 p q ps ih => simp [idList, hrange, ih]

theorem bind_readInt_toDecimal {β : Type} {x : Int} (hx : FitsInt x) {r : List Char}
    (hr : EndsNumeral r) (f : Int → Cursor β) : (readInt 10 >>= f) (toDecimal x ++ r) = f x r :=
  bind_of_some (readInt_toDecimal hx hr) f

theorem bind_readView_of_not_mem {β : Type} {e : Char} {v : List Char} (h : e ∉ v)
    (r : List Char) (f : List Char → Cursor β) : (readView e >>= f) (v ++ e :: r) = f v r :=
  bind_of_some (readView_of_not_mem h r) f

theorem CSCB_parse_idLists {m : Int} (hm : FitsInt m) (svc code : List (Int × Int))
    (hsvc : ∀ p ∈ svc, FitsInt p.1 ∧ FitsInt p.2) (hcode : ∀ p ∈ code, FitsInt p.1 ∧ FitsInt p.2) :
    CSCB.parse
        (toDecimal m ++ ',' :: '"' :: idList svc ++ '"' :: ',' :: '"' :: idList code ++ ['"']) =
      make (.CSCB { serviceId := keptIds svc, codeScheme := keptIds code, mode := m }) := by
  have hcomma :
      EndsNumeral (',' :: '"' :: idList svc ++ '"' :: ',' :: '"' :: idList code ++ ['"']) :=
    endsNumeral_cons (by decide) _
  have hq : ',' ≠ ' ' ∧ '"' ≠ ' ' := by decide
  simp only [CSCB.parse, List.append_assoc, List.cons_append] at hcomma ⊢
  simp only [bind_readInt_toDecimal hm hcomma, bind_skip_cons hq.1, bind_skip_cons hq.2,
    bind_readView_of_not_mem (quote_not_mem_idList _), List.singleton_append,
    bind_of_some (rfl : fullMatch [] = some ((), [])), pure_apply, parseIds_idList svc hsvc,
    parseIds_idList code hcode]

theorem length_keptIds_le (ids : List (Int × Int)) : (keptIds ids).length ≤ ids.length := by
  induction ids using keptIds.induct with
  | case1 => simp [keptIds]
  | case2 p => simp [keptIds]
  | case3 p q ps ih =>
    simp only [keptIds, List.length_append, List.length_cons] at ih ⊢
    split <;> simp <;> omega

theorem length_keptIds_eq_iff (ids : List (Int × Int)) :
    (keptIds ids).length = ids.length ↔ ∀ p ∈ ids.dropLast, p.1 ≠ p.2 := by
  induction ids using keptIds.induct with
  | case1 => simp [keptIds]
  | case2 p => simp [keptIds]
  | case3 p q ps ih =>
    have hle := length_keptIds_le (q :: ps)
    rw [keptIds, List.length_append, List.dropLast_cons₂, List.forall_mem_cons, ← ih]
    simp only [List.length_cons] at hle ⊢
    split <;> rename_i hp
    · simp only [hp, ne_eq, not_true_eq_false, false_and, iff_false, List.length_nil]
      omega
    · simp only [hp, ne_eq, not_false_eq_true, true_and, List.length_singleton]
      omega

theorem keptIds_of_ranges {ids : List (Int × Int)} (h : ∀ p ∈ ids.dropLast, p.1 ≠ p.2) :
    keptIds ids = ids.map fun p => ⟨p.1, p.2⟩ := by
  induction ids using keptIds.induct with
  | case1 => rfl
  | case2 p => rfl
  | case3 p q ps ih =>
    simp only [List.dropLast_cons₂, List.mem_cons, forall_eq_or_imp] at h
    rw [keptIds, if_neg h.1, ih h.2]
    rfl

namespace GsmBroadcastSmsConfigInfo

/-- Every id of the entry fits an `int`, as the `int32_t` fields of the parcelable do. -/
def Fits (ci : GsmBroadcastSmsConfigInfo) : Prop :=
  FitsInt ci.fromServiceId ∧ FitsInt ci.toServiceId ∧ FitsInt ci.fromCodeScheme ∧
    FitsInt ci.toCodeScheme

/-- The entry has a range, not a single id, in both lists. -/
def IsRange (ci : GsmBroadcastSmsConfigInfo) : Prop :=
  ci.fromServiceId ≠ ci.toServiceId ∧ ci.fromCodeScheme ≠ ci.toCodeScheme

instance : DecidablePred Fits := fun ci => by unfold Fits FitsInt; infer_instance

instance : DecidablePred IsRange := fun ci => by unfold IsRange; infer_instance

end GsmBroadcastSmsConfigInfo

/-- What `getGsmBroadcastConfig` reads from a modem that answers `AT+CSCB?` with the fields
of the last `AT+CSCB=` request: the ids `parseIds` keeps from each list, paired in order,
all with the negation of the first entry's `selected`. -/
theorem getGsmBroadcastConfig_payload (ci : GsmBroadcastSmsConfigInfo)
    (cs : List GsmBroadcastSmsConfigInfo) (hfit : ∀ c ∈ ci :: cs, c.Fits) :
    getGsmBroadcastConfig (some (CSCB.parse (broadcastConfigPayload ci cs))) =
      some (.NONE, List.zipWith (fun s c => ⟨s.from, s.to, c.from, c.to, !ci.selected⟩)
        (keptIds ((ci :: cs).map (·.serviceIds))) (keptIds ((ci :: cs).map (·.codeSchemes)))) := by
  have hm : FitsInt (if ci.selected then 0 else 1) := by
    unfold FitsInt; split <;> decide
  have hsvc : ∀ p ∈ (ci :: cs).map (·.serviceIds), FitsInt p.1 ∧ FitsInt p.2 := by
    simp only [List.mem_map]
    rintro _ ⟨c, hc, rfl⟩
    exact ⟨(hfit c hc).1, (hfit c hc).2.1⟩
  have hcode : ∀ p ∈ (ci :: cs).map (·.codeSchemes), FitsInt p.1 ∧ FitsInt p.2 := by
    simp only [List.mem_map]
    rintro _ ⟨c, hc, rfl⟩
    exact ⟨(hfit c hc).2.2.1, (hfit c hc).2.2.2⟩
  rw [broadcastConfigPayload, appendConfig_foldl_nil, CSCB_parse_idLists hm _ _ hsvc hcode]
  cases ci.selected <;> rfl

/-- **The written list never comes back.** For every list `setGsmBroadcastConfig` accepts,
the list `getGsmBroadcastConfig` reads from the fields of its request differs from it: the
first entry at least comes back with `selected` negated. -/
theorem getGsmBroadcastConfig_set_ne (configInfo : List GsmBroadcastSmsConfigInfo)
    (hne : configInfo ≠ []) (hfit : ∀ ci ∈ configInfo, ci.Fits) :
    ∃ request, setGsmBroadcastConfig configInfo = .ok ("AT+CSCB=".toList ++ request) ∧
      getGsmBroadcastConfig (some (CSCB.parse request)) ≠ some (.NONE, configInfo) := by
  obtain ⟨ci, cs, rfl⟩ := List.exists_cons_of_ne_nil hne
  refine ⟨_, rfl, ?_⟩
  rw [getGsmBroadcastConfig_payload ci cs hfit, Ne, Option.some.injEq, Prod.mk.injEq]
  rintro ⟨-, h⟩
  obtain ⟨_, _, _, _, -, -, hci, -⟩ := List.zipWith_eq_cons_iff.1 h
  have hsel := congrArg GsmBroadcastSmsConfigInfo.selected hci
  cases hs : ci.selected <;> simp [hs] at hsel

/-- One selected entry with single ids. -/
theorem getGsmBroadcastConfig_set_ne_single :
    [(⟨1, 1, 0, 0, true⟩ : GsmBroadcastSmsConfigInfo)] ≠ [] ∧
      (∀ ci ∈ [(⟨1, 1, 0, 0, true⟩ : GsmBroadcastSmsConfigInfo)], ci.Fits) ∧
      ∃ request, setGsmBroadcastConfig [⟨1, 1, 0, 0, true⟩] = .ok ("AT+CSCB=".toList ++ request) ∧
        getGsmBroadcastConfig (some (CSCB.parse request)) ≠ some (.NONE, [⟨1, 1, 0, 0, true⟩]) :=
  have hfit : ∀ ci ∈ [(⟨1, 1, 0, 0, true⟩ : GsmBroadcastSmsConfigInfo)], ci.Fits := by decide
  ⟨List.cons_ne_nil _ _, hfit, getGsmBroadcastConfig_set_ne _ (List.cons_ne_nil _ _) hfit⟩

/-- **What the round trip keeps.** The list read back is the written one with every
`selected` set to the negation of the first entry's exactly when every entry but the last
has a range in both lists; otherwise `parseIds` drops a single id and the list comes back
shorter. -/
theorem getGsmBroadcastConfig_set_iff (configInfo : List GsmBroadcastSmsConfigInfo)
    (hne : configInfo ≠ []) (hfit : ∀ ci ∈ configInfo, ci.Fits) :
    ∃ request, setGsmBroadcastConfig configInfo = .ok ("AT+CSCB=".toList ++ request) ∧
      (getGsmBroadcastConfig (some (CSCB.parse request)) =
          some (.NONE, configInfo.map fun ci => { ci with selected := !(configInfo.head hne).selected }) ↔
        ∀ ci ∈ configInfo.dropLast, ci.IsRange) := by
  obtain ⟨ci, cs, rfl⟩ := List.exists_cons_of_ne_nil hne
  refine ⟨_, rfl, ?_⟩
  rw [getGsmBroadcastConfig_payload ci cs hfit, Option.some.injEq, Prod.mk.injEq,
    List.head_cons]
  simp only [true_and, ← List.map_dropLast]
  constructor
  · intro h
    have hlen := congrArg List.length h
    have h1 := length_keptIds_le ((ci :: cs).map (·.serviceIds))
    have h2 := length_keptIds_le ((ci :: cs).map (·.codeSchemes))
    rw [List.length_zipWith, List.length_map] at hlen
    rw [List.length_map] at h1 h2
    have hs := (length_keptIds_eq_iff ((ci :: cs).map (·.serviceIds))).1
      (by rw [List.length_map]; omega)
    have hc := (length_keptIds_eq_iff ((ci :: cs).map (·.codeSchemes))).1
      (by rw [List.length_map]; omega)
    rw [← List.map_dropLast, List.forall_mem_map] at hs hc
    exact fun c hc' => ⟨hs c hc', hc c hc'⟩
  · intro h
    rw [keptIds_of_ranges (by
        rw [← List.map_dropLast, List.forall_mem_map]; exact fun c hc => (h c hc).1),
      keptIds_of_ranges (by
        rw [← List.map_dropLast, List.forall_mem_map]; exact fun c hc => (h c hc).2),
      List.zipWith_map, List.zipWith_map, List.zipWith_same]
    rfl

/-- A range followed by single ids. -/
theorem getGsmBroadcastConfig_set_iff_range_first :
    [(⟨1, 2, 0, 3, false⟩ : GsmBroadcastSmsConfigInfo), ⟨5, 5, 7, 7, false⟩] ≠ [] ∧
      (∀ ci ∈ [(⟨1, 2, 0, 3, false⟩ : GsmBroadcastSmsConfigInfo), ⟨5, 5, 7, 7, false⟩], ci.Fits) ∧
      ∃ request, setGsmBroadcastConfig [⟨1, 2, 0, 3, false⟩, ⟨5, 5, 7, 7, false⟩] =
          .ok ("AT+CSCB=".toList ++ request) ∧
        (getGsmBroadcastConfig (some (CSCB.parse request)) =
            some (.NONE, [⟨1, 2, 0, 3, true⟩, ⟨5, 5, 7, 7, true⟩]) ↔
          ∀ ci ∈ [(⟨1, 2, 0, 3, false⟩ : GsmBroadcastSmsConfigInfo)], ci.IsRange) :=
  have hfit : ∀ ci ∈ [(⟨1, 2, 0, 3, false⟩ : GsmBroadcastSmsConfigInfo), ⟨5, 5, 7, 7, false⟩],
      ci.Fits := by decide
  ⟨List.cons_ne_nil _ _, hfit, getGsmBroadcastConfig_set_iff _ (List.cons_ne_nil _ _) hfit⟩

end Messaging

end GoldfishRadio
