import GoldfishRadio.AtResponse.Payload

/-!
# Runs of `Parser` operations

Any finite chain of `Parser` operations, run on the object through `Parser.advance`: the
cursor is failed or a position of the input, never moves backwards, a failure stays and
writes nothing, and `consumed()` is the position or `-1`. The one step fact is
`Op.cursor_suffix`; the run follows by induction on the operations.
-/

namespace GoldfishRadio

/-- A step that leaves a suffix of its input whenever it matches: the cursor moves
forward inside the input. -/
def Cursor.Suffixes {α : Type} (f : Cursor α) : Prop :=
  ∀ r a r', f r = some (a, r') → r' <:+ r

namespace Cursor

theorem Suffixes.bind {α β : Type} {x : Cursor α} {f : α → Cursor β} (hx : Suffixes x)
    (hf : ∀ a, Suffixes (f a)) : Suffixes (x >>= f) := by
  intro r b r' h
  obtain ⟨a, r1, h1, h2⟩ := bind_eq_some.mp h
  exact (hf a r1 b r' h2).trans (hx r a r1 h1)

theorem suffixes_pure {α : Type} (a : α) : Suffixes (pure a : Cursor α) := by
  intro r b r' h
  cases h
  exact List.suffix_refl _

theorem suffixes_skip (c : Char) : Suffixes (skip c) := by
  intro r u r' h
  by_cases hc : c = ' '
  · simp only [skip, hc, if_true, Option.some.injEq, Prod.mk.injEq] at h
    rw [← h.2]
    exact List.dropWhile_suffix _
  · rw [skip_eq hc h]
    exact List.suffix_cons _ _

theorem suffixes_skipStr (s : List Char) : Suffixes (skipStr s) := by
  intro r u r' h
  rw [skipStr_eq h]
  exact List.suffix_append _ _

theorem suffixes_readChar : Suffixes readChar := by
  intro r c r' h
  cases r with
  | nil => cases h
  | cons d ds =>
    cases h
    exact List.suffix_cons _ _

theorem fromChars_suffix {b : Nat} {s r : List Char} {v : Int} (h : fromChars b s = some (v, r)) :
    r <:+ s := by
  unfold fromChars at h
  split at h
  · obtain ⟨⟨m, rest⟩, hd, hr⟩ := Option.bind_eq_some.mp h
    obtain ⟨-, -, rfl⟩ := inIntRange_eq_some.mp hr
    rw [(digitsPrefix_spec hd).2]
    exact (List.dropWhile_suffix _).trans (List.tail_suffix s)
  · obtain ⟨⟨m, rest⟩, hd, hr⟩ := Option.bind_eq_some.mp h
    obtain ⟨-, -, rfl⟩ := inIntRange_eq_some.mp hr
    rw [(digitsPrefix_spec hd).2]
    exact List.dropWhile_suffix _

theorem suffixes_readInt (b : Nat) : Suffixes (readInt b) := by
  intro r v r' h
  cases r with
  | nil => cases h
  | cons c cs => exact fromChars_suffix h

theorem suffixes_readView (e : Char) : Suffixes (readView e) := by
  intro r v r' h
  rw [readView_eq h]
  exact (List.suffix_cons _ _).trans (List.suffix_append _ _)

theorem suffixes_remaining : Suffixes remaining := by
  intro r v r' h
  cases h
  exact List.nil_suffix

end Cursor

namespace Parser

open Cursor

/-- The operations of `Parser` a payload parser chains. -/
inductive Op
  /-- `skip(char)`: over every blank for `' '`, else one byte that must be `c`. -/
  | skip (c : Char)
  /-- `skip(const char*)`. -/
  | skipStr (s : List Char)
  /-- `operator()(char*)`. -/
  | char
  /-- `operator()(int*, base)`. -/
  | int (base : Nat)
  /-- `operator()(std::string_view*, end)`. -/
  | view (endc : Char)
  /-- `operator()(std::string*, end)`. -/
  | string (endc : Char)
  /-- `remaining()`. -/
  | remaining

/-- What an operation writes through its result pointer, or returns for `remaining()`. -/
inductive Written
  | char (c : Char)
  | int (v : Int)
  | text (s : List Char)
  deriving DecidableEq

/-- The cursor step of an operation and what it writes; a `skip` writes nothing. -/
def Op.cursor : Op → Cursor (Option Written)
  | .skip c => do Cursor.skip c; pure none
  | .skipStr s => do Cursor.skipStr s; pure none
  | .char => do let c ← readChar; pure (some (.char c))
  | .int base => do let v ← readInt base; pure (some (.int v))
  | .view endc => do let v ← readView endc; pure (some (.text v))
  | .string endc => do let v ← readString endc; pure (some (.text v))
  | .remaining => do let v ← Cursor.remaining; pure (some (.text v))

theorem Op.cursor_suffix (op : Op) : Suffixes op.cursor := by
  cases op with
  | skip c => exact (suffixes_skip c).bind fun _ => suffixes_pure _
  | skipStr s => exact (suffixes_skipStr s).bind fun _ => suffixes_pure _
  | char => exact suffixes_readChar.bind fun _ => suffixes_pure _
  | int base => exact (suffixes_readInt base).bind fun _ => suffixes_pure _
  | view endc => exact (suffixes_readView endc).bind fun _ => suffixes_pure _
  | string endc => exact (suffixes_readView endc).bind fun _ => suffixes_pure _
  | remaining => exact suffixes_remaining.bind fun _ => suffixes_pure _

/-- One operation on the object. `none` is nothing written; on a failed parser every
operation writes nothing, and `remaining()` returns the empty view. -/
def step (p : Parser) (op : Op) : Parser × Option Written :=
  match p.advance op.cursor with
  | (p', w) => (p', w.join)

/-- A run of operations, with what each one wrote. -/
def run (p : Parser) : List Op → Parser × List (Option Written)
  | [] => (p, [])
  | op :: ops => (((p.step op).1.run ops).1, (p.step op).2 :: ((p.step op).1.run ops).2)

/-- What `advance` can do: nothing on a failed parser; fail; or move the cursor to what
the step left and write its value. -/
theorem advance_cases {α : Type} (p : Parser) (f : Cursor α) :
    (p.mBegin = none ∧ p.advance f = (p, none)) ∨
    (∃ rest, p.mBegin = some rest ∧ f rest = none ∧ p.advance f = ({ p with mBegin := none }, none)) ∨
    (∃ rest a rest', p.mBegin = some rest ∧ f rest = some (a, rest') ∧
      p.advance f = ({ p with mBegin := some rest' }, some a)) := by
  unfold advance
  rcases hb : p.mBegin with _ | rest
  · exact .inl ⟨rfl, rfl⟩
  · rcases hf : f rest with _ | ⟨a, rest'⟩
    · exact .inr (.inl ⟨rest, rfl, hf, by simp [hf]⟩)
    · exact .inr (.inr ⟨rest, a, rest', rfl, hf, by simp [hf]⟩)

theorem step_failed {p : Parser} (h : p.mBegin = none) (op : Op) : p.step op = (p, none) := by
  simp [step, advance, h]

theorem step_immutable (p : Parser) (op : Op) :
    (p.step op).1.mImmutableBegin = p.mImmutableBegin := by
  rcases advance_cases p op.cursor with ⟨-, h⟩ | ⟨_, -, -, h⟩ | ⟨_, _, _, -, -, h⟩ <;>
    simp [step, h]

theorem step_forward {p : Parser} {op : Op} {r' : List Char}
    (h : (p.step op).1.mBegin = some r') : ∃ r, p.mBegin = some r ∧ r' <:+ r := by
  rcases advance_cases p op.cursor with ⟨hb, ha⟩ | ⟨-, -, -, ha⟩ | ⟨r, w, r'', hb, hf, ha⟩
  · simp [step, ha, hb] at h
  · simp [step, ha] at h
  · simp only [step, ha, Option.some.injEq] at h
    exact ⟨r, hb, h ▸ op.cursor_suffix r w r'' hf⟩

theorem run_append (p : Parser) (ops₁ ops₂ : List Op) :
    p.run (ops₁ ++ ops₂) =
      (((p.run ops₁).1.run ops₂).1, (p.run ops₁).2 ++ ((p.run ops₁).1.run ops₂).2) := by
  induction ops₁ generalizing p with
  | nil => rfl
  | cons op ops ih => simp [run, ih]

theorem run_failed {p : Parser} (h : p.mBegin = none) (ops : List Op) :
    p.run ops = (p, ops.map fun _ => none) := by
  induction ops with
  | nil => rfl
  | cons op ops ih => simp [run, step_failed h, ih]

theorem run_immutable (p : Parser) (ops : List Op) :
    (p.run ops).1.mImmutableBegin = p.mImmutableBegin := by
  induction ops generalizing p with
  | nil => rfl
  | cons op ops ih => rw [run, ih, step_immutable]

theorem run_forward {p : Parser} {ops : List Op} {r' : List Char}
    (h : (p.run ops).1.mBegin = some r') : ∃ r, p.mBegin = some r ∧ r' <:+ r := by
  induction ops generalizing p with
  | nil => exact ⟨r', h, List.suffix_refl _⟩
  | cons op ops ih =>
    obtain ⟨r1, h1, hs1⟩ := ih h
    obtain ⟨r, h0, hs0⟩ := step_forward h1
    exact ⟨r, h0, hs1.trans hs0⟩

/-- The parser after the operations `ops` on `s`. -/
def after (s : List Char) (ops : List Op) : Parser := ((init s).run ops).1

theorem after_immutable (s : List Char) (ops : List Op) : (after s ops).mImmutableBegin = s :=
  run_immutable _ _

/-- What holds between two points of a run on `s`: after `ops₁`, and after `ops₁ ++ ops₂`. -/
structure RunInvariant (s : List Char) (ops₁ ops₂ : List Op) : Prop where
  /-- The cursor is failed or a position of `s`: the bytes left are a suffix of `s`. -/
  in_input : ∀ rest, (after s ops₁).mBegin = some rest → rest <:+ s
  /-- It never moves backwards, and a failed cursor stays failed. -/
  forward : ∀ r₂, (after s (ops₁ ++ ops₂)).mBegin = some r₂ →
    ∃ r₁, (after s ops₁).mBegin = some r₁ ∧ r₂ <:+ r₁
  /-- Once an operation has failed, every later one leaves the parser as it is and writes
  nothing. -/
  absorbing : (after s ops₁).mBegin = none →
    (after s ops₁).run ops₂ = (after s ops₁, ops₂.map fun _ => none)
  /-- `consumed()` is `-1` on a failed parser, and otherwise the position in `[0, |s|]`. -/
  consumed : (after s ops₁).mBegin = none ∧ (after s ops₁).consumed = -1 ∨
    ∃ rest, (after s ops₁).mBegin = some rest ∧ rest.length ≤ s.length ∧
      (after s ops₁).consumed = ((s.length - rest.length : Nat) : Int)

theorem runInvariant (s : List Char) (ops₁ ops₂ : List Op) : RunInvariant s ops₁ ops₂ := by
  have hin : ∀ rest, (after s ops₁).mBegin = some rest → rest <:+ s := fun rest h => by
    obtain ⟨r, h0, hs⟩ := run_forward h
    cases h0
    exact hs
  refine ⟨hin, fun r₂ h => ?_, fun h => run_failed h ops₂, ?_⟩
  · rw [after, run_append] at h
    exact run_forward h
  · rcases hb : (after s ops₁).mBegin with _ | rest
    · exact .inl ⟨rfl, by simp [consumed, hb]⟩
    · have hle := (hin rest hb).length_le
      refine .inr ⟨rest, rfl, hle, ?_⟩
      simp only [consumed, hb, after_immutable]
      omega

end Parser

namespace AtResponse

open Cursor

theorem pduParse_consumed (T : Cmd) (mk : Int → List UInt8 → Value) (str : List Char) :
    -1 ≤ (pduParse T mk str).1 ∧ (pduParse T mk str).1 ≤ str.length := by
  unfold pduParse
  split
  · rename_i v rest h1
    split
    · rename_i strPdu rest' h2
      have hs : rest' <:+ str :=
        (suffixes_readView kCR rest strPdu rest' h2).trans
          (((suffixes_readInt 10).bind fun _ => (suffixes_skip kCR).bind fun _ => suffixes_pure _)
            str v rest h1)
      have := hs.length_le
      split <;> constructor <;> omega
    · constructor <;> omega
  · constructor <;> omega

theorem CMT_parse_consumed (str : List Char) :
    -1 ≤ (CMT.parse str).1 ∧ (CMT.parse str).1 ≤ str.length :=
  pduParse_consumed _ _ str

theorem CDS_parse_consumed (str : List Char) :
    -1 ≤ (CDS.parse str).1 ∧ (CDS.parse str).1 ≤ str.length :=
  pduParse_consumed _ _ str

end AtResponse

/-- **The cursor invariant of `Parser`.** Between any two points of any run of
operations on any input, the cursor is failed or a position of the input that never
moves backwards, a failure stays and writes nothing, and `consumed()` is the position or
`-1`; the counts `CMT::parse` and `CDS::parse` report lie between `-1` and the length of
their input. -/
theorem parser_run_invariant (s : List Char) (ops₁ ops₂ : List Parser.Op) :
    Parser.RunInvariant s ops₁ ops₂ ∧
      ∀ str : List Char, (AtResponse.CMT.parse str).1 ≤ str.length ∧
        (AtResponse.CDS.parse str).1 ≤ str.length :=
  ⟨Parser.runInvariant s ops₁ ops₂, fun str =>
    ⟨(AtResponse.CMT_parse_consumed str).2, (AtResponse.CDS_parse_consumed str).2⟩⟩

end GoldfishRadio
