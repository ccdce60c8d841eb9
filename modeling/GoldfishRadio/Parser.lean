import Mathlib.Data.List.Basic
import Mathlib.Algebra.Group.Int

/-!
# The cursor of `Parser`

`Parser` walks a `string_view` with one pointer `mBegin`. A step that does not match sets
it to `nullptr`, and every later step then writes nothing. The pointer is the bytes left
before `mEnd`, `none` for `nullptr`; each operation is a `Cursor` step on them, and the
payload parsers chain `Cursor` steps with `do`.
-/

namespace GoldfishRadio

/-- `c <= ' '` on a `char`, the test of `skip(' ')` and of `ltrim`. `char` is signed on
x86, so the bytes `0x80` to `0xFF` are negative there and pass it too. -/
def isBlank (c : Char) : Bool := c.toNat ≤ 0x20 || 0x80 ≤ c.toNat

/-- `char(-1)`, what `front()` returns when nothing is left. -/
def charMinusOne : Char := Char.ofNat 0xFF

/-- The value of `c` as a digit of `base`, as `std::from_chars` reads it. -/
def digitValue (base : Nat) (c : Char) : Option Nat :=
  let v :=
    if '0' ≤ c ∧ c ≤ '9' then some (c.toNat - '0'.toNat)
    else if 'a' ≤ c ∧ c ≤ 'z' then some (c.toNat - 'a'.toNat + 10)
    else if 'A' ≤ c ∧ c ≤ 'Z' then some (c.toNat - 'A'.toNat + 10)
    else none
  v.filter (· < base)

def isDigitIn (base : Nat) (c : Char) : Bool := (digitValue base c).isSome

/-- The run of digits of `base` at the head of `body`: its value and the bytes after it,
`none` when `body` does not start with a digit. -/
def digitsPrefix (base : Nat) (body : List Char) : Option (Nat × List Char) :=
  if body.takeWhile (isDigitIn base) = [] then none
  else some ((body.takeWhile (isDigitIn base)).foldl
      (fun acc d => acc * base + (digitValue base d).getD 0) 0,
    body.dropWhile (isDigitIn base))

/-- `errc::result_out_of_range` for an `int`. -/
def inIntRange (value : Int) (rest : List Char) : Option (Int × List Char) :=
  if value < -2 ^ 31 ∨ 2 ^ 31 ≤ value then none else some (value, rest)

/-- `std::from_chars` into an `int`: an optional `-`, the longest run of digits, and the
bytes after it. `none` is `errc::invalid_argument` (no digit) or
`errc::result_out_of_range` (a value outside 32 bits). -/
def fromChars (base : Nat) (s : List Char) : Option (Int × List Char) :=
  if s.head? = some '-' then
    (digitsPrefix base s.tail).bind fun (m, rest) => inIntRange (-m) rest
  else (digitsPrefix base s).bind fun (m, rest) => inIntRange m rest

theorem digitsPrefix_spec {b : Nat} {body r : List Char} {m : Nat}
    (h : digitsPrefix b body = some (m, r)) :
    body.takeWhile (isDigitIn b) ≠ [] ∧ r = body.dropWhile (isDigitIn b) := by
  unfold digitsPrefix at h
  split at h
  · cases h
  · cases h; exact ⟨‹_›, rfl⟩

theorem digitsPrefix_append {b : Nat} {body r t : List Char} {m : Nat} {c : Char}
    (h : digitsPrefix b body = some (m, c :: r)) (hc : isDigitIn b c = false) :
    digitsPrefix b (body ++ t) = some (m, c :: r ++ t) := by
  obtain ⟨hne, hr⟩ := digitsPrefix_spec h
  have hsplit := List.takeWhile_append_dropWhile (isDigitIn b) body
  rw [← hr] at hsplit
  have htw : (body ++ t).takeWhile (isDigitIn b) = body.takeWhile (isDigitIn b) := by
    conv_lhs => rw [← hsplit, List.append_assoc]
    rw [List.takeWhile_append_of_pos (fun a ha => List.mem_takeWhile_imp ha)]
    simp [hc]
  have hdw : (body ++ t).dropWhile (isDigitIn b) = c :: r ++ t := by
    conv_lhs => rw [← hsplit, List.append_assoc]
    rw [List.dropWhile_append_of_pos (fun a ha => List.mem_takeWhile_imp ha)]
    simp [hc]
  unfold digitsPrefix at h ⊢
  rw [htw, hdw, if_neg hne]
  rw [if_neg hne] at h
  rw [(Prod.mk.inj (Option.some.inj h)).1]

theorem inIntRange_eq_some {v v' : Int} {r r' : List Char} :
    inIntRange v r = some (v', r') ↔ (-2 ^ 31 ≤ v ∧ v < 2 ^ 31) ∧ v = v' ∧ r = r' := by
  unfold inIntRange
  split <;> simp <;> omega

theorem digitsPrefix_nil (b : Nat) : digitsPrefix b [] = none := rfl

theorem fromChars_append {b : Nat} {s r t : List Char} {v : Int} {c : Char}
    (h : fromChars b s = some (v, c :: r)) (hc : isDigitIn b c = false) :
    fromChars b (s ++ t) = some (v, c :: r ++ t) := by
  cases s with
  | nil => simp [fromChars, digitsPrefix_nil] at h
  | cons x xs =>
    unfold fromChars at h ⊢
    simp only [List.cons_append, List.head?_cons, List.tail_cons] at h ⊢
    split at h <;> rename_i hx <;> simp only [hx, if_true, if_false] <;>
    · obtain ⟨⟨m, r'⟩, hd, hr⟩ := Option.bind_eq_some.mp h
      obtain ⟨hv, rfl, rfl⟩ := inIntRange_eq_some.mp hr
      first
        | rw [digitsPrefix_append hd hc]
        | rw [← List.cons_append, digitsPrefix_append hd hc]
      exact inIntRange_eq_some.mpr ⟨hv, rfl, rfl⟩

/-- One step of the cursor: the value it writes and the bytes left, `none` when it fails. -/
def Cursor (α : Type) : Type := List Char → Option (α × List Char)

namespace Cursor

/-- Sequencing: the second step runs on what the first left, and a failure ends the
chain. -/
@[noinline] def bind {α β : Type} (x : Cursor α) (f : α → Cursor β) : Cursor β := fun r =>
  match x r with
  | some (a, r') => f a r'
  | none => none

instance : Monad Cursor where
  pure a := fun r => some (a, r)
  bind := bind

/-- A step that fails. -/
def fail {α : Type} : Cursor α := fun _ => none

/-- `skip(char)`: `' '` passes over every blank; any other byte must come next. -/
def skip (c : Char) : Cursor Unit := fun rest =>
  if c = ' ' then some ((), rest.dropWhile isBlank)
  else match rest with
    | d :: ds => if d = c then some ((), ds) else none
    | [] => none

/-- `skip(const char*)`: the loop compares byte by byte and fails at the first
difference, or when the input ends before the pattern does. -/
def skipStr : List Char → Cursor Unit
  | [], rest => some ((), rest)
  | _ :: _, [] => none
  | c :: cs, d :: ds => if c = d then skipStr cs ds else none

/-- `operator()(char*)`. -/
def readChar : Cursor Char
  | [] => none
  | c :: cs => some (c, cs)

/-- `operator()(int*, base)`: fails on an empty input before calling `from_chars`. -/
def readInt (base : Nat := 10) : Cursor Int
  | [] => none
  | rest@(_ :: _) => fromChars base rest

/-- `operator()(std::string_view*, end)`: the bytes before the first `end`, which is
consumed too. -/
def readView (endc : Char) : Cursor (List Char)
  | [] => none
  | c :: cs =>
    if c = endc then some ([], cs)
    else (readView endc cs).map fun (v, r) => (c :: v, r)

/-- `operator()(std::string*, end)` copies what the `string_view` overload reads. -/
def readString (endc : Char) : Cursor (List Char) := readView endc

/-- `remaining()`: every byte left; the cursor moves to `mEnd`. -/
def remaining : Cursor (List Char) := fun rest => some (rest, [])

/-- `front()`: the next byte without consuming it, `char(-1)` when nothing is left. -/
def front : Cursor Char := fun rest =>
  some ((match rest with
    | c :: _ => c
    | [] => charMinusOne), rest)

/-- A chain that ends in `fullMatch()`: it goes on only when nothing is left. -/
def fullMatch : Cursor Unit := fun rest => if rest = [] then some ((), rest) else none

/- Every step leaves a suffix of its input, and a step that matched goes on matching, with
the same result, when more bytes follow its input. -/

theorem skip_eq {c : Char} {r r' : List Char} (hc : c ≠ ' ') (h : skip c r = some ((), r')) :
    r = c :: r' := by
  simp only [skip, hc, if_false] at h
  split at h
  · split at h
    · cases h; simp_all
    · cases h
  · cases h

theorem skipStr_eq {s r r' : List Char} (h : skipStr s r = some ((), r')) : r = s ++ r' := by
  induction s generalizing r with
  | nil => cases h; rfl
  | cons c cs ih =>
    cases r with
    | nil => cases h
    | cons d ds =>
      simp only [skipStr] at h
      split at h
      · subst c; simp [ih h]
      · cases h

theorem readView_eq {e : Char} {r v r' : List Char} (h : readView e r = some (v, r')) :
    r = v ++ e :: r' := by
  induction r generalizing v with
  | nil => cases h
  | cons c cs ih =>
    simp only [readView] at h
    split at h
    · cases h; simp_all
    · obtain ⟨⟨v', r''⟩, h', he⟩ := Option.map_eq_some'.mp h
      cases he
      simp [ih h']

theorem readView_append {e : Char} {r v r' t : List Char} (h : readView e r = some (v, r')) :
    readView e (r ++ t) = some (v, r' ++ t) := by
  induction r generalizing v with
  | nil => cases h
  | cons c cs ih =>
    simp only [readView, List.cons_append] at h ⊢
    split at h
    · cases h; simp_all
    · obtain ⟨⟨v', r''⟩, h', he⟩ := Option.map_eq_some'.mp h
      cases he
      simp [ih h', *]

theorem readInt_append {b : Nat} {r r' t : List Char} {v : Int} {c : Char}
    (h : readInt b r = some (v, c :: r')) (hc : isDigitIn b c = false) :
    readInt b (r ++ t) = some (v, c :: r' ++ t) := by
  cases r with
  | nil => cases h
  | cons d ds => exact fromChars_append (s := d :: ds) h hc

theorem bind_eq_some {α β : Type} {x : Cursor α} {f : α → Cursor β} {r r' : List Char}
    {b : β} : (x >>= f) r = some (b, r') ↔ ∃ a r1, x r = some (a, r1) ∧ f a r1 = some (b, r') := by
  show bind x f r = _ ↔ _
  unfold bind
  split <;> rename_i hx
  · constructor
    · intro h
      exact ⟨_, _, hx, h⟩
    · rintro ⟨a', r1', hx', h⟩
      simp_all
  · constructor
    · intro h
      cases h
    · rintro ⟨a', r1', hx', -⟩
      simp_all

theorem bind_of_some {α β : Type} {x : Cursor α} {r r' : List Char} {a : α}
    (h : x r = some (a, r')) (f : α → Cursor β) : (x >>= f) r = f a r' := by
  show bind x f r = _
  simp only [bind, h]

theorem bind_of_none {α β : Type} {x : Cursor α} {r : List Char} (h : x r = none)
    (f : α → Cursor β) : (x >>= f) r = none := by
  show bind x f r = _
  simp only [bind, h]

theorem pure_apply {α : Type} (a : α) (r : List Char) : (pure a : Cursor α) r = some (a, r) :=
  rfl

theorem skipStr_self_append (s r : List Char) : skipStr s (s ++ r) = some ((), r) := by
  induction s with
  | nil => rfl
  | cons c cs ih => simp [skipStr, ih]

theorem readView_of_not_mem {e : Char} {v : List Char} (h : e ∉ v) (r : List Char) :
    readView e (v ++ e :: r) = some (v, r) := by
  induction v with
  | nil => simp [readView]
  | cons c cs ih =>
    have hc : c ≠ e := fun hc => h (hc ▸ List.mem_cons_self c cs)
    simp [readView, hc, ih (fun he => h (List.mem_cons_of_mem c he))]

end Cursor

/-- The parser object: the whole input, and the bytes left from `mBegin` to `mEnd`
(`none` once a step has failed). -/
structure Parser where
  mImmutableBegin : List Char
  mBegin : Option (List Char)
  deriving DecidableEq

namespace Parser

def init (str : List Char) : Parser := ⟨str, some str⟩

def matchSoFar (p : Parser) : Bool := p.mBegin.isSome

def fullMatch (p : Parser) : Bool := p.mBegin == some []

def hasMore (p : Parser) : Bool :=
  match p.mBegin with
  | some (_ :: _) => true
  | _ => false

def front (p : Parser) : Char :=
  match p.mBegin with
  | some (c :: _) => c
  | _ => charMinusOne

/-- One step on the object: on a failed parser nothing happens and nothing is written. -/
def advance {α : Type} (p : Parser) (f : Cursor α) : Parser × Option α :=
  match p.mBegin with
  | none => (p, none)
  | some rest =>
    match f rest with
    | some (a, rest') => ({ p with mBegin := some rest' }, some a)
    | none => ({ p with mBegin := none }, none)

/-- `consumed()`: `mBegin - mImmutableBegin`, or `-1` on a failed parser. -/
def consumed (p : Parser) : Int :=
  match p.mBegin with
  | some rest => (p.mImmutableBegin.length : Int) - rest.length
  | none => -1

end Parser

end GoldfishRadio
