import GoldfishRadio.AtResponse.Parse

/-!
# The reader thread

`AtChannel::readingLoop` calls `receiveResponses` until it returns `false`, then calls
`LOG_ALWAYS_FATAL`. Each call reads once, after the bytes left over in `unconsumed`, and
`receiveResponsesImpl` takes the messages off the front. A read is one `ReadOutcome` and a
run is a list of them; the loop has no exit but the abort.
-/

namespace GoldfishRadio

namespace AtChannel

open AtResponse

/-- `std::vector<char> unconsumed`: its bytes and its capacity. -/
structure Unconsumed where
  data : List Char
  capacity : Nat

namespace Unconsumed

def empty : Unconsumed := ⟨[], 0⟩

/-- The capacity a vector of capacity `cap` has once it must hold `n` elements: libc++
reallocates to twice its capacity, or to `n` if that is more. -/
def grow (cap n : Nat) : Nat := if n ≤ cap then cap else max (2 * cap) n

def assign (u : Unconsumed) (xs : List Char) : Unconsumed := ⟨xs, grow u.capacity xs.length⟩

/-- `resize(n)`: new elements are `'\x00'`. -/
def resize (u : Unconsumed) (n : Nat) : Unconsumed :=
  ⟨u.data.take n ++ List.replicate (n - u.data.length) '\x00', grow u.capacity n⟩

def clear (u : Unconsumed) : Unconsumed := ⟨[], u.capacity⟩

@[simp] theorem resize_length (u : Unconsumed) (n : Nat) : (u.resize n).data.length = n := by
  simp only [resize, List.length_append, List.length_take, List.length_replicate]
  omega

/-- A `::read` of `b` into the elements from `offset` on. -/
def readInto (u : Unconsumed) (offset : Nat) (b : List Char) : Unconsumed :=
  ⟨u.data.take offset ++ b ++ u.data.drop (offset + b.length), u.capacity⟩

end Unconsumed

/-- What one `::read` returned. -/
inductive ReadOutcome
  /-- `bytes.length` bytes; `0` at end of file. -/
  | bytes (b : List Char)
  /-- `-1` with `EINTR`. -/
  | interrupted
  /-- `-1` with any other error, such as `EBADF` on a closed handle. -/
  | failed

/-- `receiveOneResponse` on the bytes from `begin` to `end`: the response it broadcast, if
any, and how far `begin` moves (`none` for `nullptr`). -/
def receiveOneResponse (kUnknown : Int) (s : List Char) : Option AtResponse × Option Nat :=
  match s with
  | '\r' :: _ | '\n' :: _ => (none, some 1)
  | _ =>
    match parse kUnknown s with
    | (consumed, response) => (response, if consumed ≥ 0 then some consumed.toNat else none)

/-- The loop of `receiveResponsesImpl` over the bytes left, with `fuel` at least their
number: whether it succeeded, `unconsumed` after it, and the responses broadcast. -/
def receiveResponsesImpl (kUnknown : Int) :
    Nat → List Char → Unconsumed → Bool × Unconsumed × List AtResponse
  | _, [], u => (true, u.clear, [])
  | 0, _ :: _, u => (true, u, [])
  | fuel + 1, s@(_ :: _), u =>
    match receiveOneResponse kUnknown s with
    | (r, none) => (false, u, r.toList)
    | (r, some 0) => (true, u.assign s, r.toList)
    | (r, some (n + 1)) =>
      match receiveResponsesImpl kUnknown fuel (s.drop (n + 1)) u with
      | (ok, u', out) => (ok, u', r.toList ++ out)

/-- `receiveResponses` with one read. With bytes left over, `unconsumed` is first resized
to `max(size + 1024, capacity)`; the read fills it from `size` on and it is resized back
to the bytes held. The resize stays when the read brings nothing. -/
def receiveResponses (kUnknown : Int) (u : Unconsumed) (o : ReadOutcome) :
    Bool × Unconsumed × List AtResponse :=
  if u.data.length = 0 then
    match o with
    | .bytes [] => (true, u, [])
    | .bytes b => receiveResponsesImpl kUnknown b.length b u
    | .interrupted => (true, u, [])
    | .failed => (false, u, [])
  else
    match o with
    | .bytes [] => (true, u.resize (max (u.data.length + 1024) u.capacity), [])
    | .bytes b =>
      let u2 := ((u.resize (max (u.data.length + 1024) u.capacity)).readInto u.data.length b).resize
        (u.data.length + b.length)
      receiveResponsesImpl kUnknown u2.data.length u2.data u2
    | .interrupted => (true, u.resize (max (u.data.length + 1024) u.capacity), [])
    | .failed => (false, u.resize (max (u.data.length + 1024) u.capacity), [])

/-- Where the reader thread is once the reads run out: still in its loop with
`unconsumed`, or aborted by `LOG_ALWAYS_FATAL`. -/
inductive ReaderState
  | reading (u : Unconsumed)
  | aborted

/-- `readingLoop` over a list of reads, with the responses it broadcast. -/
def readingLoop (kUnknown : Int) : Unconsumed → List ReadOutcome → ReaderState × List AtResponse
  | u, [] => (.reading u, [])
  | u, o :: os =>
    match receiveResponses kUnknown u o with
    | (true, u', out) =>
      match readingLoop kUnknown u' os with
      | (st, rest) => (st, out ++ rest)
    | (false, _, out) => (.aborted, out)

theorem receiveResponses_failed (kUnknown : Int) (u : Unconsumed) :
    (receiveResponses kUnknown u .failed).1 = false := by
  unfold receiveResponses; split <;> rfl

theorem readingLoop_cons_of_false {kUnknown : Int} {u : Unconsumed} {o : ReadOutcome}
    (os : List ReadOutcome) (h : (receiveResponses kUnknown u o).1 = false) :
    (readingLoop kUnknown u (o :: os)).1 = .aborted := by
  rcases hr : receiveResponses kUnknown u o with ⟨ok, u', out⟩
  rw [hr] at h
  subst h
  simp [readingLoop, hr]

/-- A failed read aborts the reader, whatever came before it: the loop only leaves through
`LOG_ALWAYS_FATAL`. -/
theorem readingLoop_aborts_on_failed_read (kUnknown : Int) (u : Unconsumed)
    (os : List ReadOutcome) : (readingLoop kUnknown u (os ++ [.failed])).1 = .aborted := by
  induction os generalizing u with
  | nil => exact readingLoop_cons_of_false [] (receiveResponses_failed kUnknown u)
  | cons o os ih =>
    rcases hr : receiveResponses kUnknown u o with ⟨ok, u', out⟩
    cases ok
    · exact readingLoop_cons_of_false _ (by rw [hr])
    · simp only [List.cons_append, readingLoop, hr]
      exact ih u'

/-- The split line `+` then `CFUN: 1\r` aborts the reader; the same bytes in one read
broadcast the `+CFUN` record. -/
theorem readingLoop_split_line_aborts (kUnknown : Int) :
    (readingLoop kUnknown Unconsumed.empty [.bytes "+".toList, .bytes "CFUN: 1\r".toList]).1 =
      .aborted ∧
    ∃ u r, readingLoop kUnknown Unconsumed.empty [.bytes "+CFUN: 1\r".toList] = (.reading u, [r]) ∧
      holds .CFUN r = true :=
  ⟨rfl, _, _, rfl, rfl⟩

end AtChannel

end GoldfishRadio
