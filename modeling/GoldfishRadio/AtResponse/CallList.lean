import GoldfishRadio.AtResponse.Parse
import Mathlib.Data.Nat.Digits

/-!
# The call list of `+CLCC`

For every list of calls, the modem's answer to `AT+CLCC` is one `CLCC` message, and
`CLCC::parse` reads one `Call` a line, in order. Two things differ from what was written:
the number keeps its quotes, since it is read up to the next comma, and a field of `2^31`
or more makes the whole answer a `ParseError`. The proof reads one line (`line_render`)
and follows the lines by induction (`callList_render`).
-/

namespace GoldfishRadio

/-- The decimal numeral of `n`, most significant digit first. -/
def decimal (n : Nat) : List Char :=
  if n < 10 then [Nat.digitChar n] else decimal (n / 10) ++ [Nat.digitChar (n % 10)]
termination_by n
decreasing_by omega

theorem toDigitsCore_ten (fuel n : Nat) (ds : List Char) (h : n < fuel) :
    Nat.toDigitsCore 10 fuel n ds = decimal n ++ ds := by
  induction fuel generalizing n ds with
  | zero => omega
  | succ fuel ih =>
    rw [Nat.toDigitsCore, decimal]
    by_cases hn : n < 10
    · simp [Nat.div_eq_of_lt hn, Nat.mod_eq_of_lt hn, hn]
    · rw [if_neg (by omega), ih (n / 10) _ (by omega), if_neg hn]
      simp

theorem toDigits_ten (n : Nat) : Nat.toDigits 10 n = decimal n := by
  rw [Nat.toDigits, toDigitsCore_ten _ _ _ (Nat.lt_succ_self n), List.append_nil]

theorem digitChar_digit : ∀ d : Fin 10,
    isDigitIn 10 (Nat.digitChar d) = true ∧ digitValue 10 (Nat.digitChar d) = some d.val ∧
      isBlank (Nat.digitChar d) = false := by
  decide

theorem mem_decimal {n : Nat} {c : Char} (h : c ∈ decimal n) : ∃ d : Fin 10, c = Nat.digitChar d := by
  induction n using decimal.induct with
  | case1 n hn =>
    rw [decimal, if_pos hn, List.mem_singleton] at h
    exact ⟨⟨n, hn⟩, h⟩
  | case2 n hn ih =>
    rw [decimal, if_neg hn, List.mem_append, List.mem_singleton] at h
    exact h.elim ih fun h => ⟨⟨n % 10, Nat.mod_lt _ (by omega)⟩, h⟩

theorem decimal_ne_nil (n : Nat) : decimal n ≠ [] := by
  rw [decimal]
  split <;> simp

theorem isDigitIn_of_mem_decimal {n : Nat} {c : Char} (h : c ∈ decimal n) :
    isDigitIn 10 c = true := by
  obtain ⟨d, rfl⟩ := mem_decimal h
  exact (digitChar_digit d).1

theorem not_mem_decimal {n : Nat} {c : Char} (hc : isDigitIn 10 c = false) : c ∉ decimal n :=
  fun h => by simp [isDigitIn_of_mem_decimal h] at hc

theorem decimal_value (n : Nat) :
    (decimal n).foldl (fun acc d => acc * 10 + (digitValue 10 d).getD 0) 0 = n := by
  induction n using decimal.induct with
  | case1 n hn => simp [decimal, hn, (digitChar_digit ⟨n, hn⟩).2.1]
  | case2 n hn ih =>
    rw [decimal, if_neg hn, List.foldl_append, ih]
    simp only [List.foldl_cons, List.foldl_nil,
      (digitChar_digit ⟨n % 10, Nat.mod_lt _ (by omega)⟩).2.1, Option.getD_some]
    omega

theorem digitsPrefix_decimal (n : Nat) {c : Char} (hc : isDigitIn 10 c = false)
    (r : List Char) : digitsPrefix 10 (decimal n ++ c :: r) = some (n, c :: r) := by
  have hd : ∀ d ∈ decimal n, isDigitIn 10 d = true := fun _ => isDigitIn_of_mem_decimal
  have htw : (decimal n ++ c :: r).takeWhile (isDigitIn 10) = decimal n := by
    rw [List.takeWhile_append_of_pos hd]
    simp [hc]
  have hdw : (decimal n ++ c :: r).dropWhile (isDigitIn 10) = c :: r := by
    rw [List.dropWhile_append_of_pos hd]
    simp [hc]
  rw [digitsPrefix, htw, hdw, if_neg (decimal_ne_nil n), decimal_value]

/-- `operator()(int*)` on a numeral followed by a byte that is not a digit: the value when
it fits an `int`, a failure otherwise. -/
theorem readInt_decimal (n : Nat) {c : Char} (hc : isDigitIn 10 c = false) (r : List Char) :
    Cursor.readInt 10 (decimal n ++ c :: r) = inIntRange n (c :: r) := by
  obtain ⟨d, ds, hds⟩ := List.exists_cons_of_ne_nil (decimal_ne_nil n)
  have hd : d ≠ '-' := by
    rintro rfl
    exact absurd (isDigitIn_of_mem_decimal (hds ▸ List.mem_cons_self _ _)) (by decide)
  have hp := digitsPrefix_decimal n hc r
  rw [hds, List.cons_append] at hp ⊢
  simp [Cursor.readInt, fromChars, hd, hp]

namespace AtResponse

open Cursor

/-- One call as the modem lists it: the fields of a `+CLCC:` line. -/
structure CallLine where
  index : Nat
  dir : Nat
  state : Nat
  mode : Nat
  mpty : Nat
  number : List Char
  type : Nat
  deriving DecidableEq

namespace CallLine

/-- What follows the tag: ` <index>,<dir>,<state>,<mode>,<mpty>,"<number>",<type>`. -/
def fields (c : CallLine) : List Char :=
  ' ' :: decimal c.index ++ ',' :: decimal c.dir ++ ',' :: decimal c.state ++ ',' ::
    decimal c.mode ++ ',' :: decimal c.mpty ++ ',' :: '"' :: c.number ++ '"' :: ',' ::
    decimal c.type

/-- The line `+CLCC: <index>,<dir>,<state>,<mode>,<mpty>,"<number>",<type>\r`. -/
def render (c : CallLine) : List Char := "+CLCC:".toList ++ c.fields ++ [kCR]

/-- A number the line can carry: no `,`, `"` or `\r` in it. -/
def NumberOk (c : CallLine) : Prop := ',' ∉ c.number ∧ '"' ∉ c.number ∧ kCR ∉ c.number

/-- Every integer field fits an `int`. -/
def FitsInt (c : CallLine) : Prop :=
  c.index < 2 ^ 31 ∧ c.dir < 2 ^ 31 ∧ c.state < 2 ^ 31 ∧ c.mode < 2 ^ 31 ∧ c.mpty < 2 ^ 31 ∧
    c.type < 2 ^ 31

instance : DecidablePred NumberOk := fun c => by unfold NumberOk; infer_instance

instance : DecidablePred FitsInt := fun c => by unfold FitsInt; infer_instance

/-- The `voice::Call` the line lists: `isMT`, `isVoice` and `isMpty` decoded from `dir`,
`mode` and `mpty`, and the number as the modem gave it. -/
def call (c : CallLine) : Call :=
  { state := c.state, index := c.index, toa := c.type, isMpty := c.mpty ≠ 0,
    isMT := c.dir ≠ 0, isVoice := c.mode = 0, number := c.number }

/-- The call `CLCC::parse` makes of the line: the number keeps its quotes. -/
def read (c : CallLine) : Call := { c.call with number := '"' :: c.number ++ ['"'] }

end CallLine

/-- The lines of the answer, one per call. -/
def callLines (calls : List CallLine) : List Char := (calls.map CallLine.render).flatten

/-- The modem's answer to `AT+CLCC`: the lines, then `OK`. -/
def callBlock (calls : List CallLine) : List Char := callLines calls ++ kOKr

theorem callBlock_cons (c : CallLine) (cs : List CallLine) :
    callBlock (c :: cs) = "+CLCC:".toList ++ (c.fields ++ kCR :: (callLines cs ++ kOKr)) := by
  simp only [callBlock, callLines, List.map_cons, List.flatten_cons, CallLine.render,
    List.append_assoc, List.singleton_append, List.cons_append, List.nil_append]

theorem length_callLines_cons (c : CallLine) (cs : List CallLine) :
    (callLines (c :: cs)).length = 6 + c.fields.length + (callLines cs).length + 1 := by
  simp only [callLines, List.map_cons, List.flatten_cons, CallLine.render, List.length_append,
    List.length_singleton, show "+CLCC:".toList.length = 6 from rfl]
  omega

theorem cr_not_mem_fields {c : CallLine} (hc : c.NumberOk) : kCR ∉ c.fields := by
  have hcr : ∀ n, kCR ∉ decimal n := fun _ => not_mem_decimal (by decide)
  simp only [CallLine.fields, List.cons_append, List.append_assoc, List.mem_cons,
    List.mem_append, hcr, hc.2.2, false_or, or_false]
  decide

theorem bind_readInt_decimal {β : Type} (n : Nat) {c : Char} (hc : isDigitIn 10 c = false)
    (r : List Char) (f : Int → Cursor β) :
    (readInt 10 >>= f) (decimal n ++ c :: r) = if n < 2 ^ 31 then f n (c :: r) else none := by
  split_ifs with hn
  · exact bind_of_some (by rw [readInt_decimal n hc, inIntRange, if_neg (by omega)]) f
  · exact bind_of_none (by rw [readInt_decimal n hc, inIntRange, if_pos (by omega)]) f

theorem bind_skip_cons {β : Type} {c : Char} (hc : c ≠ ' ') (r : List Char)
    (f : Unit → Cursor β) : (skip c >>= f) (c :: r) = f () r :=
  bind_of_some (by simp [skip, hc]) f

theorem bind_skip_blank {β : Type} (n : Nat) (r : List Char) (f : Unit → Cursor β) :
    (skip ' ' >>= f) (' ' :: (decimal n ++ r)) = f () (decimal n ++ r) := by
  obtain ⟨d, ds, hds⟩ := List.exists_cons_of_ne_nil (decimal_ne_nil n)
  obtain ⟨k, rfl⟩ := mem_decimal (hds ▸ List.mem_cons_self d ds)
  refine bind_of_some ?_ f
  simp [skip, hds, List.dropWhile, show isBlank ' ' = true from rfl, (digitChar_digit k).2.2]

theorem bind_readString_quoted {β : Type} {number : List Char} (h : ',' ∉ number)
    (r : List Char) (f : List Char → Cursor β) :
    (readString ',' >>= f) ('"' :: (number ++ '"' :: ',' :: r)) = f ('"' :: number ++ ['"']) r := by
  refine bind_of_some ?_ f
  have hq : ',' ∉ '"' :: number ++ ['"'] := by simp [h]
  simpa using readView_of_not_mem hq r

/-- **One line.** `CLCC::parse`'s chain reads the call back, with its number in quotes,
and stops after the `\r`; it fails when a field is outside `int`. -/
theorem line_render (c : CallLine) (hc : c.NumberOk) (rest : List Char) :
    CLCC.line (c.render ++ rest) = if c.FitsInt then some (c.read, rest) else none := by
  have hsp : ∀ x ∈ [',', kCR], x ≠ ' ' ∧ isDigitIn 10 x = false := by decide
  simp only [CLCC.line, CallLine.render, CallLine.fields, List.cons_append, List.append_assoc,
    List.singleton_append, bind_of_some (skipStr_self_append _ _), bind_skip_blank,
    bind_readInt_decimal _ (hsp ',' (by simp)).2, bind_readInt_decimal _ (hsp kCR (by simp)).2,
    bind_skip_cons (hsp ',' (by simp)).1, bind_skip_cons (hsp kCR (by simp)).1,
    bind_readString_quoted hc.1, pure_apply, CallLine.FitsInt, ite_and]
  simp [CallLine.read, CallLine.call]

theorem callList_cons_step {fuel : Nat} {s : List Char} (h : s ≠ []) :
    CLCC.callList (fuel + 1) s =
      match CLCC.line s with
      | some (call, rest') => (call :: ·) <$> CLCC.callList fuel rest'
      | none => none := by
  cases s with
  | nil => exact absurd rfl h
  | cons => rfl

theorem callList_render (calls : List CallLine) (hnum : ∀ c ∈ calls, c.NumberOk) (fuel : Nat)
    (hfuel : calls.length ≤ fuel) :
    CLCC.callList fuel (callLines calls) =
      if ∀ c ∈ calls, c.FitsInt then some (calls.map CallLine.read) else none := by
  induction calls generalizing fuel with
  | nil => cases fuel <;> simp [callLines, CLCC.callList]
  | cons c cs ih =>
    obtain ⟨fuel, rfl⟩ : ∃ f, fuel = f + 1 := ⟨fuel - 1, by simp at hfuel; omega⟩
    have hne : c.render ++ callLines cs ≠ [] := by simp [CallLine.render]
    have hcs := ih (fun x hx => hnum x (List.mem_cons_of_mem c hx)) fuel (by simpa using hfuel)
    rw [callLines, List.map_cons, List.flatten_cons, ← callLines, callList_cons_step hne,
      line_render c (hnum c (List.mem_cons_self c cs))]
    by_cases hfit : c.FitsInt
    · by_cases hall : ∀ x ∈ cs, x.FitsInt <;> simp [hfit, hall, hcs]
    · simp [hfit]

theorem length_le_callLines (calls : List CallLine) : calls.length ≤ (callLines calls).length := by
  induction calls with
  | nil => simp
  | cons c cs ih =>
    rw [length_callLines_cons, List.length_cons]
    omega

theorem CLCC_parse_callLines (calls : List CallLine) (hnum : ∀ c ∈ calls, c.NumberOk) :
    CLCC.parse (callLines calls) =
      if ∀ c ∈ calls, c.FitsInt then make (.CLCC ⟨calls.map CallLine.read⟩)
      else makeParseErrorFor .CLCC := by
  rw [CLCC.parse, callList_render calls hnum _ (length_le_callLines calls)]
  split_ifs <;> rfl

theorem krOKr_eq : krOKr = [kCR, 'O', 'K', kCR] := rfl

theorem indexOfSub_of_cr_not_mem {body : List Char} (h : kCR ∉ body) (z : List Char) :
    indexOfSub krOKr (body ++ z) = (indexOfSub krOKr z).map (· + body.length) := by
  induction body with
  | nil => simp
  | cons x body ih =>
    have hx : x ≠ kCR := fun hx => h (hx ▸ List.mem_cons_self x body)
    have hp : krOKr.isPrefixOf (x :: (body ++ z)) = false := by
      rw [krOKr_eq]
      simp only [List.isPrefixOf, beq_false_of_ne (Ne.symm hx), Bool.false_and]
    rw [List.cons_append, indexOfSub, if_neg (by rw [hp]; exact Bool.false_ne_true),
      ih (fun hm => h (List.mem_cons_of_mem x hm)), Option.map_map]
    simp [Function.comp_def, Nat.add_assoc, Nat.add_comm 1]

theorem indexOfSub_cr_callLines (cs : List CallLine) (hnum : ∀ c ∈ cs, c.NumberOk) :
    indexOfSub krOKr (kCR :: (callLines cs ++ kOKr)) = some (callLines cs).length := by
  induction cs with
  | nil => rfl
  | cons c cs ih =>
    have hbody : kCR ∉ "+CLCC:".toList ++ c.fields := by
      rw [List.mem_append, not_or]
      exact ⟨by decide, cr_not_mem_fields (hnum c (List.mem_cons_self c cs))⟩
    have hstep : callLines (c :: cs) ++ kOKr =
        ("+CLCC:".toList ++ c.fields) ++ kCR :: (callLines cs ++ kOKr) := by
      rw [← callBlock, callBlock_cons, List.append_assoc]
    rw [hstep, indexOfSub, if_neg (by exact Bool.false_ne_true), indexOfSub_of_cr_not_mem hbody,
      ih (fun x hx => hnum x (List.mem_cons_of_mem c hx))]
    simp only [Option.map_some', length_callLines_cons, List.length_append,
      show "+CLCC:".toList.length = 6 from rfl, Option.some.injEq]
    omega

theorem parseCmdsScan_cons_of_mismatch {str : List Char} {vp : ValueParser} {vps : List ValueParser}
    {mi : Bool} (h : vp.cmd.isPrefixOf (str.drop 1) = false) :
    parseCmdsScan str (vp :: vps) mi = parseCmdsScan str vps mi := by
  simp only [parseCmdsScan, h, Bool.false_eq_true, if_false]

theorem parse_clcc (kUnknown : Int) (x : List Char) :
    parse kUnknown ("+CLCC:".toList ++ x) =
      parseCmdsPayload ("+CLCC:".toList ++ x) (.ofCmd .CLCC CLCC.parse true) 6 := by
  have hhead : ("+CLCC:".toList ++ x).head? = some '+' := rfl
  rw [parse, if_neg (by exact Bool.false_ne_true), if_neg (by exact Bool.false_ne_true),
    if_neg (by exact Bool.false_ne_true), hhead]
  simp only [parseCmds, plusValueParsers]
  iterate 12 rw [parseCmdsScan_cons_of_mismatch (by exact rfl)]
  have hcmd : (ValueParser.ofCmd .CLCC CLCC.parse true).cmd = ['C', 'L', 'C', 'C'] := rfl
  have hs : "+CLCC:".toList ++ x = '+' :: 'C' :: 'L' :: 'C' :: 'C' :: ':' :: x := rfl
  rw [parseCmdsScan, hcmd, hs]
  simp

/-- **The answer to `AT+CLCC`.** For every non-empty list of calls whose numbers carry no
`,`, `"` or `\r`, `AtResponse::parse` takes the whole answer as one message. It is a
`CLCC` record of the calls in order, each as `CLCC::parse` reads it, when every field
fits an `int`, and the `ParseError` of `CLCC` otherwise. -/
theorem parse_callBlock (kUnknown : Int) {calls : List CallLine} (hne : calls ≠ [])
    (hnum : ∀ c ∈ calls, c.NumberOk) :
    parse kUnknown (callBlock calls) =
      (((callBlock calls).length : Int),
        some (if ∀ c ∈ calls, c.FitsInt then make (.CLCC ⟨calls.map CallLine.read⟩)
          else makeParseErrorFor .CLCC)) := by
  obtain ⟨c, cs, rfl⟩ := List.exists_cons_of_ne_nil hne
  have hfind : find (callBlock (c :: cs)) krOKr 6 = some (6 + c.fields.length + (callLines cs).length) := by
    rw [callBlock_cons, find, List.drop_left' (show "+CLCC:".toList.length = 6 from rfl),
      indexOfSub_of_cr_not_mem (cr_not_mem_fields (hnum c (List.mem_cons_self c cs))),
      indexOfSub_cr_callLines cs fun x hx => hnum x (List.mem_cons_of_mem c hx)]
    simp only [Option.map_some', Option.some.injEq]
    omega
  have hlen := length_callLines_cons c cs
  rw [callBlock_cons, parse_clcc, ← callBlock_cons, parseCmdsPayload,
    if_pos (show (ValueParser.ofCmd .CLCC CLCC.parse true).multiline = true from rfl), hfind]
  dsimp only
  rw [show (ValueParser.ofCmd .CLCC CLCC.parse true).parse = CLCC.parse from rfl, callBlock,
    List.take_left' hlen, CLCC_parse_callLines _ hnum]
  refine Prod.ext ?_ rfl
  simp only [List.length_append, hlen]
  rfl

/-- The answer in the example of the voice section: the one call comes back with the
number `"12345"`, quotes included. -/
theorem clcc_number_keeps_quotes (kUnknown : Int) :
    callBlock [⟨1, 0, 0, 0, 0, "12345".toList, 129⟩] =
        "+CLCC: 1,0,0,0,0,\"12345\",129\rOK\r".toList ∧
      parse kUnknown (callBlock [⟨1, 0, 0, 0, 0, "12345".toList, 129⟩]) =
        (32, some (make (.CLCC ⟨[
          { state := 0, index := 1, toa := 129, isMpty := false, isMT := false,
            isVoice := true, number := "\"12345\"".toList }]⟩))) := by
  have hb : callBlock [⟨1, 0, 0, 0, 0, "12345".toList, 129⟩] =
      "+CLCC: 1,0,0,0,0,\"12345\",129\rOK\r".toList := by
    simp only [callBlock, callLines, List.map_cons, List.map_nil, List.flatten_cons,
      List.flatten_nil, CallLine.render, CallLine.fields, ← toDigits_ten]
    decide
  refine ⟨hb, ?_⟩
  rw [parse_callBlock kUnknown (List.cons_ne_nil _ _) (by decide), hb]
  rfl

end AtResponse

end GoldfishRadio
