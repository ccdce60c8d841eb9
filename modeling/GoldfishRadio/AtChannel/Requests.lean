import GoldfishRadio.AtChannel.Reader
import Mathlib.Logic.Relation

/-!
# The request worker

`requestLoop` takes the requesters off `mRequesterQueue` in turn and calls each with a
`RequestPipe` to the host channel, which `getHostChannelPipe` opens when it is closed. The
worker is a step relation over `Channel`, with the reader thread beside it. Every reachable
state keeps `QueueInv` and `PipeInv`: requesters are called in the order queued, each once,
with the pipe of the open channel. After a requester returns `false` none is called again:
the next `getHostChannelPipe` joins a reader whose function never returns.
-/

namespace GoldfishRadio

namespace AtChannel

open AtResponse

/-- What one `::write` on the host channel returns: a count of bytes written (the kernel
never writes more than asked), or `-1` with `errno`, which is `EINTR` or another error and
never `0`. -/
inductive WriteOutcome
  | wrote (n : Nat)
  | interrupted
  | failed (errno : Nat) (errno_pos : 0 < errno)

/-- Whether a write failed with an error other than `EINTR`. -/
def WriteOutcome.failing : WriteOutcome → Bool
  | .failed _ _ => true
  | _ => false

/-- The bytes a write wrote. -/
def WriteOutcome.count : WriteOutcome → Nat
  | .wrote n => n
  | _ => 0

/-- The bytes a run of writes wrote between them. -/
def WriteOutcome.total : List WriteOutcome → Nat
  | [] => 0
  | o :: ws => o.count + total ws

/-- `sendRequestImpl` over the outcomes of its writes: the code it returns, the bytes that
reached the channel and the outcomes left for later writes; `none` when the outcomes run
out before the loop returns. -/
def sendRequestImpl : List Char → List WriteOutcome →
    Option (Nat × List Char × List WriteOutcome)
  | [], ws => some (0, [], ws)
  | _ :: _, [] => none
  | data@(_ :: _), .wrote n :: ws =>
    (sendRequestImpl (data.drop n) ws).map fun (err, w, ws') => (err, data.take n ++ w, ws')
  | data@(_ :: _), .interrupted :: ws => sendRequestImpl data ws
  | _ :: _, .failed errno _ :: ws => some (errno, [], ws)

/-- `RequestPipe::operator()`: the request, then `kCR` if the request went through. -/
def RequestPipe.call (request : List Char) (ws : List WriteOutcome) :
    Option (Bool × List Char × List WriteOutcome) :=
  (sendRequestImpl request ws).bind fun (err, w, ws) =>
    if err = 0 then
      (sendRequestImpl [kCR] ws).map fun (err, w', ws) => (err == 0, w ++ w', ws)
    else
      some (err == 0, w, ws)

theorem sendRequestImpl_written {data : List Char} {ws ws' : List WriteOutcome} {err : Nat}
    {w : List Char} (h : sendRequestImpl data ws = some (err, w, ws')) :
    w <+: data ∧ (err = 0 ↔ w = data) := by
  induction data, ws using sendRequestImpl.induct generalizing err w ws' with
  | case1 ws =>
    simp only [sendRequestImpl, Option.some.injEq, Prod.mk.injEq] at h
    obtain ⟨rfl, rfl, -⟩ := h
    simp
  | case2 => simp [sendRequestImpl] at h
  | case3 c cs n ws ih =>
    simp only [sendRequestImpl, Option.map_eq_some', Prod.exists] at h
    obtain ⟨err, w₀, ws₀, h₀, he⟩ := h
    simp only [Prod.mk.injEq] at he
    obtain ⟨rfl, rfl, rfl⟩ := he
    obtain ⟨hp, hi⟩ := ih h₀
    refine ⟨?_, ?_⟩
    · have h := (List.prefix_append_right_inj ((c :: cs).take n)).2 hp
      rwa [List.take_append_drop] at h
    · rw [hi]
      constructor
      · rintro rfl; exact List.take_append_drop n _
      · exact fun h => List.append_cancel_left (h.trans (List.take_append_drop n _).symm)
  | case4 c cs ws ih => exact ih (by simpa only [sendRequestImpl] using h)
  | case5 c cs errno hpos ws =>
    simp only [sendRequestImpl, Option.some.injEq, Prod.mk.injEq] at h
    obtain ⟨rfl, rfl, -⟩ := h
    simp only [List.nil_prefix, true_and]
    exact ⟨fun h => absurd h (Nat.pos_iff_ne_zero.1 hpos), fun h => nomatch h⟩

/-- Writes that never fail and write at least the data between them: `sendRequestImpl`
returns `0` with all the data written. -/
theorem sendRequestImpl_of_count {data : List Char} {ws : List WriteOutcome}
    (hok : ∀ o ∈ ws, o.failing = false) (hcount : data.length ≤ WriteOutcome.total ws) :
    ∃ ws', sendRequestImpl data ws = some (0, data, ws') := by
  induction ws generalizing data with
  | nil =>
    obtain rfl : data = [] := List.eq_nil_of_length_eq_zero (Nat.eq_zero_of_le_zero hcount)
    exact ⟨[], rfl⟩
  | cons o ws ih =>
    have hws : ∀ o ∈ ws, o.failing = false := fun o h => hok o (List.mem_cons_of_mem _ h)
    cases data with
    | nil => exact ⟨_, rfl⟩
    | cons c cs =>
      cases o with
      | wrote n =>
        simp only [WriteOutcome.total, WriteOutcome.count] at hcount
        obtain ⟨ws', h⟩ := @ih ((c :: cs).drop n) hws (by simp only [List.length_drop]; omega)
        exact ⟨ws', by simp only [sendRequestImpl, h, Option.map_some', List.take_append_drop]⟩
      | interrupted =>
        simpa only [sendRequestImpl] using
          ih hws (by simpa only [WriteOutcome.total, WriteOutcome.count, Nat.zero_add] using
            hcount)
      | failed errno hpos => simp [WriteOutcome.failing] at hok

theorem sendRequestImpl_of_count_interrupted :
    (∀ o ∈ [WriteOutcome.interrupted, .wrote 1, .wrote 4], o.failing = false) ∧
      ['A', 'T'].length ≤ WriteOutcome.total [.interrupted, .wrote 1, .wrote 4] ∧
      ∃ ws', sendRequestImpl ['A', 'T'] [.interrupted, .wrote 1, .wrote 4] = some (0, ['A', 'T'], ws') :=
  ⟨by decide, by decide, sendRequestImpl_of_count (by decide) (by decide)⟩

/-- **A request reaches the modem whole and then terminated.** What a `RequestPipe` wrote
is a beginning of the request and its `'\r'`: the `'\r'` only after the whole request,
and the call returns `true` exactly when all of it was written. -/
theorem RequestPipe.call_written {request : List Char} {ws ws' : List WriteOutcome}
    {ok : Bool} {w : List Char} (h : RequestPipe.call request ws = some (ok, w, ws')) :
    w <+: request ++ [kCR] ∧ (ok = true ↔ w = request ++ [kCR]) := by
  simp only [RequestPipe.call, Option.bind_eq_some, Prod.exists] at h
  obtain ⟨err, w₁, ws₁, h₁, h⟩ := h
  obtain ⟨hp₁, hi₁⟩ := sendRequestImpl_written h₁
  by_cases he : err = 0
  · simp only [if_pos he, Option.map_eq_some', Prod.exists, Prod.mk.injEq] at h
    obtain ⟨err₂, w₂, ws₂, h₂, rfl, rfl, -⟩ := h
    obtain ⟨hp₂, hi₂⟩ := sendRequestImpl_written h₂
    rw [hi₁.1 he]
    simpa only [List.prefix_append_right_inj, List.append_right_inj, beq_iff_eq] using
      ⟨hp₂, hi₂⟩
  · simp only [if_neg he, Option.some.injEq, Prod.mk.injEq] at h
    obtain ⟨rfl, rfl, -⟩ := h
    have hlen : w₁.length < (request ++ [kCR]).length := by
      simp only [List.length_append, List.length_singleton]
      exact Nat.lt_succ_of_le hp₁.length_le
    refine ⟨hp₁.trans (List.prefix_append _ _), ?_⟩
    simp only [beq_iff_eq, he, false_iff]
    exact fun heq => absurd (heq ▸ hlen) (Nat.lt_irrefl _)

/-- `AT` goes out in two writes, and the write of its `'\r'` fails with `EPIPE`. -/
theorem call_written_without_cr :
    RequestPipe.call ['A', 'T'] [.wrote 1, .interrupted, .wrote 1, .failed 32 (by decide)] =
      some (false, ['A', 'T'], []) ∧
    (['A', 'T'] <+: ['A', 'T'] ++ [kCR] ∧ (false = true ↔ ['A', 'T'] = ['A', 'T'] ++ [kCR])) := by
  have h : RequestPipe.call ['A', 'T'] [.wrote 1, .interrupted, .wrote 1, .failed 32 (by decide)] =
      some (false, ['A', 'T'], []) := rfl
  exact ⟨h, RequestPipe.call_written h⟩

/-- `mReaderThread`: a thread in `readingLoop` on the channel of that number, with its
`unconsumed` bytes, or one whose function has returned. -/
inductive ReaderThread
  | reading (channel : Nat) (unconsumed : Unconsumed)
  | returned

/-- Where `requestLoop` is. -/
inductive Pc
  /-- In `getRequester`. -/
  | waiting
  /-- In `getHostChannelPipe`, for the requester of that number. -/
  | acquiring (requester : Nat)
  /-- In the requester, with the pipe of that channel. -/
  | calling (requester channel : Nat)
  /-- `requestLoop` has returned. -/
  | stopped

/-- The requester taken off the queue and not called yet. -/
def Pc.pending : Pc → List Nat
  | .acquiring r => [r]
  | _ => []

/-- The request side of an `AtChannel`: `mRequesterQueue` (a requester by its number;
`none` is the empty `Requester`), `mHostChannel` (the number of the channel it holds
open), `mReaderThread` while it is joinable, where `requestLoop` is, how many channels
`mHostChannelFactory` has opened, and whether a `LOG_ALWAYS_FATAL` has fired. -/
structure Channel where
  mRequesterQueue : List (Option Nat)
  mHostChannel : Option Nat
  mReaderThread : Option ReaderThread
  pc : Pc
  opened : Nat
  aborted : Bool
  /-- Every entry queued, in order (ghost). -/
  queued : List (Option Nat)
  /-- Every entry `getRequester` took, in order (ghost). -/
  taken : List (Option Nat)
  /-- Every requester called, with the channel of its pipe (ghost). -/
  called : List (Nat × Nat)

namespace Channel

/-- A new `AtChannel`: nothing queued, no channel open, no reader started. -/
def init : Channel := ⟨[], none, none, .waiting, 0, false, [], [], []⟩

/-- `queueRequester`. -/
def queueRequester (s : Channel) (e : Option Nat) : Channel :=
  { s with mRequesterQueue := s.mRequesterQueue ++ [e], queued := s.queued ++ [e] }

/-- `getRequester` takes the front entry. -/
def getRequester (s : Channel) (e : Option Nat) (q : List (Option Nat)) : Channel :=
  { s with mRequesterQueue := q, taken := s.taken ++ [e] }

/-- `getHostChannelPipe` with the channel closed and no reader to join: it opens the next
channel and starts `readingLoop` on it. -/
def openHostChannel (s : Channel) : Channel :=
  { s with mHostChannel := some s.opened, mReaderThread := some (.reading s.opened .empty),
           opened := s.opened + 1 }

/-- `requestLoop` calls requester `r` with the pipe of channel `g`. -/
def call (s : Channel) (r g : Nat) : Channel :=
  { s with pc := .calling r g, called := s.called ++ [(r, g)] }

/-- The requester returned `ok`; `false` resets `mHostChannel`. -/
def requesterReturned (s : Channel) (ok : Bool) : Channel :=
  { s with pc := .waiting, mHostChannel := if ok then s.mHostChannel else none }

section Steps

variable (kUnknown : Int)

/-- One step of the request worker, of a thread calling `queueRequester`, or of the
reader thread. Once a `LOG_ALWAYS_FATAL` has fired nothing moves. -/
inductive Step : Channel → Channel → Prop
  | queueRequester {s : Channel} (e : Option Nat) (live : s.aborted = false) :
      Step s (s.queueRequester e)
  /-- `getRequester` returns a requester. -/
  | getRequester {s : Channel} {r : Nat} {q : List (Option Nat)} (live : s.aborted = false)
      (hpc : s.pc = .waiting) (hq : s.mRequesterQueue = some r :: q) :
      Step s { s.getRequester (some r) q with pc := .acquiring r }
  /-- `getRequester` returns the empty requester: the loop breaks and resets
  `mHostChannel`. -/
  | stop {s : Channel} {q : List (Option Nat)} (live : s.aborted = false)
      (hpc : s.pc = .waiting) (hq : s.mRequesterQueue = none :: q) :
      Step s { s.getRequester none q with pc := .stopped, mHostChannel := none }
  /-- `getHostChannelPipe` with `mHostChannel` open returns its pipe. -/
  | reuse {s : Channel} {r g : Nat} (live : s.aborted = false) (hpc : s.pc = .acquiring r)
      (hc : s.mHostChannel = some g) :
      Step s (s.call r g)
  /-- `mReaderThread.join()` returns once the thread's function has returned. -/
  | join {s : Channel} {r : Nat} (live : s.aborted = false) (hpc : s.pc = .acquiring r)
      (hc : s.mHostChannel = none) (hj : s.mReaderThread = some .returned) :
      Step s { s with mReaderThread := none }
  /-- The channel opens, its reader starts and the init sequence succeeds; the requester
  is called with the new channel's pipe. -/
  | openHostChannel {s : Channel} {r : Nat} (live : s.aborted = false)
      (hpc : s.pc = .acquiring r) (hc : s.mHostChannel = none) (hj : s.mReaderThread = none) :
      Step s (s.openHostChannel.call r s.opened)
  /-- The factory fails to open the channel or the init sequence returns `false`. -/
  | openFails {s : Channel} {r : Nat} (live : s.aborted = false) (hpc : s.pc = .acquiring r)
      (hc : s.mHostChannel = none) (hj : s.mReaderThread = none) :
      Step s { s with aborted := true }
  | requesterReturns {s : Channel} {r g : Nat} (ok : Bool) (live : s.aborted = false)
      (hpc : s.pc = .calling r g) :
      Step s (s.requesterReturned ok)
  /-- One pass of `readingLoop`: `receiveResponses` over one read returns `true`. -/
  | read {s : Channel} {g : Nat} {u u' : Unconsumed} {o : ReadOutcome} {out : List AtResponse}
      (live : s.aborted = false) (hj : s.mReaderThread = some (.reading g u))
      (hr : receiveResponses kUnknown u o = (true, u', out)) :
      Step s { s with mReaderThread := some (.reading g u') }
  /-- `receiveResponses` returns `false`: `readingLoop` ends in `LOG_ALWAYS_FATAL`. -/
  | readFails {s : Channel} {g : Nat} {u : Unconsumed} {o : ReadOutcome}
      (live : s.aborted = false) (hj : s.mReaderThread = some (.reading g u))
      (hr : (receiveResponses kUnknown u o).1 = false) :
      Step s { s with aborted := true }

/-- The states an `AtChannel` can reach from its construction. -/
def Reachable (s : Channel) : Prop := Relation.ReflTransGen (Step kUnknown) init s

end Steps

theorem reachable_first_call :
    Reachable 0 ({ ((init.queueRequester (some 0)).queueRequester (some 1)).getRequester
      (some 0) [some 1] with pc := .acquiring 0 }.openHostChannel.call 0 0) :=
  (((Relation.ReflTransGen.single
    (Step.queueRequester (some 0) (rfl : init.aborted = false))).tail
    (Step.queueRequester (some 1) rfl)).tail (Step.getRequester rfl rfl rfl)).tail
    (Step.openHostChannel rfl rfl rfl rfl)

/-- The queue discipline: every entry queued is taken or still queued, in order; every
requester taken is called, or is the one being acquired; and the stop is the last entry
taken, after which the loop has returned. -/
structure QueueInv (s : Channel) : Prop where
  fifo : s.queued = s.taken ++ s.mRequesterQueue
  called_taken : s.called.map Prod.fst ++ s.pc.pending = s.taken.filterMap id
  stop_last : none ∈ s.taken → s.pc = .stopped ∧ ∃ t, s.taken = t ++ [none] ∧ none ∉ t

theorem queueInv_init : QueueInv init := ⟨rfl, rfl, nofun⟩

theorem QueueInv.not_stopped {s : Channel} (hi : QueueInv s) (hpc : s.pc ≠ .stopped) :
    none ∉ s.taken := fun h => hpc (hi.stop_last h).1

theorem QueueInv.of_frame {s s' : Channel} (hi : QueueInv s)
    (hq : s'.mRequesterQueue = s.mRequesterQueue)
    (hqd : s'.queued = s.queued) (ht : s'.taken = s.taken)
    (hc : s'.called.map Prod.fst ++ s'.pc.pending = s.called.map Prod.fst ++ s.pc.pending)
    (hs : s.pc = .stopped → s'.pc = .stopped) : QueueInv s' where
  fifo := by rw [hqd, ht, hq]; exact hi.fifo
  called_taken := by rw [hc, ht]; exact hi.called_taken
  stop_last h := by
    rw [ht] at h ⊢
    obtain ⟨hst, ht'⟩ := hi.stop_last h
    exact ⟨hs hst, ht'⟩

theorem step_queueInv {kUnknown : Int} {s s' : Channel} (h : Step kUnknown s s')
    (hi : QueueInv s) : QueueInv s' := by
  cases h with
  | queueRequester e =>
    refine ⟨?_, hi.called_taken, hi.stop_last⟩
    simp only [queueRequester, hi.fifo, List.append_assoc]
  | getRequester live hpc hq =>
    have hnone := hi.not_stopped (by rw [hpc]; nofun)
    refine ⟨?_, ?_, ?_⟩
    · simp only [getRequester, hi.fifo, hq, List.append_assoc, List.singleton_append]
    · simp [getRequester, Pc.pending, ← hi.called_taken, hpc]
    · simp only [getRequester, List.mem_append, List.mem_singleton, reduceCtorEq, or_false]
      exact fun h => absurd h hnone
  | stop live hpc hq =>
    have hnone := hi.not_stopped (by rw [hpc]; nofun)
    refine ⟨?_, ?_, fun _ => ⟨rfl, s.taken, rfl, hnone⟩⟩
    · simp only [getRequester, hi.fifo, hq, List.append_assoc, List.singleton_append]
    · simp [getRequester, Pc.pending, ← hi.called_taken, hpc]
  | reuse live hpc hc | openHostChannel live hpc hc hj =>
    refine hi.of_frame rfl rfl rfl ?_ (fun h => nomatch hpc ▸ h)
    simp [call, Pc.pending, hpc, openHostChannel]
  | requesterReturns ok live hpc =>
    exact hi.of_frame rfl rfl rfl (by simp [requesterReturned, Pc.pending, hpc])
      (fun h => nomatch hpc ▸ h)
  | join | openFails | read | readFails => exact hi.of_frame rfl rfl rfl rfl id

/-- The channel discipline: a requester is called with the pipe of the open channel; the
open channel was opened by this `AtChannel` and has its reader on it; every requester
called got such a channel; and no reader thread's function has returned. -/
structure PipeInv (s : Channel) : Prop where
  calling_open : ∀ r g, s.pc = .calling r g → s.mHostChannel = some g
  open_reading : ∀ g, s.mHostChannel = some g →
    g < s.opened ∧ ∃ u, s.mReaderThread = some (.reading g u)
  called_opened : ∀ p ∈ s.called, p.2 < s.opened
  not_returned : s.mReaderThread ≠ some .returned

theorem pipeInv_init : PipeInv init := ⟨nofun, nofun, nofun, nofun⟩

theorem PipeInv.requesterReturned {s : Channel} (hi : PipeInv s)
    (ok : Bool) : PipeInv (s.requesterReturned ok) where
  calling_open _ _ h := nomatch h
  open_reading g' h := by
    cases ok
    · exact nomatch h
    · exact hi.open_reading g' h
  called_opened := hi.called_opened
  not_returned := hi.not_returned

theorem step_pipeInv {kUnknown : Int} {s s' : Channel} (h : Step kUnknown s s')
    (hi : PipeInv s) : PipeInv s' := by
  cases h with
  | queueRequester | openFails => exact ⟨hi.1, hi.2, hi.3, hi.4⟩
  | getRequester => exact ⟨nofun, hi.2, hi.3, hi.4⟩
  | stop => exact ⟨nofun, nofun, hi.3, hi.4⟩
  | reuse live hpc hc =>
    refine ⟨fun _ _ h => ?_, hi.2, ?_, hi.4⟩
    · cases h; exact hc
    · simp only [call, List.mem_append, List.mem_singleton]
      rintro p (hp | rfl)
      exacts [hi.called_opened p hp, (hi.open_reading _ hc).1]
  | join live hpc hc hj => exact absurd hj hi.not_returned
  | openHostChannel =>
    refine ⟨fun _ _ h => ?_, fun _ h => ?_, ?_, nofun⟩
    · cases h; rfl
    · cases h; exact ⟨Nat.lt_succ_self _, _, rfl⟩
    · simp only [call, openHostChannel, List.mem_append, List.mem_singleton]
      rintro p (hp | rfl)
      · exact Nat.lt_succ_of_lt (hi.called_opened p hp)
      · exact Nat.lt_succ_self _
  | requesterReturns ok live hpc => exact hi.requesterReturned ok
  | read live hj =>
    refine ⟨hi.1, fun g h => ?_, hi.3, nofun⟩
    obtain ⟨hg, u, hu⟩ := hi.open_reading g h
    obtain ⟨rfl, -⟩ := ReaderThread.reading.inj (Option.some.inj (hj.symm.trans hu))
    exact ⟨hg, _, rfl⟩
  | readFails => exact ⟨hi.1, hi.2, hi.3, hi.4⟩

section Runs

variable {kUnknown : Int} {s s' : Channel}

theorem Reachable.queueInv (h : Reachable kUnknown s) : QueueInv s := by
  induction h with
  | refl => exact queueInv_init
  | tail _ hs ih => exact step_queueInv hs ih

/-- **Every requester is called once, in the order queued.** The requesters called, the
one being acquired and those still queued are the requesters queued, in order. -/
theorem called_fifo (h : Reachable kUnknown s) :
    s.called.map Prod.fst ++ s.pc.pending ++ s.mRequesterQueue.filterMap id =
      s.queued.filterMap id := by
  rw [(Reachable.queueInv h).fifo, List.filterMap_append, (Reachable.queueInv h).called_taken]

theorem called_fifo_first_call : ∃ s : Channel, Reachable 0 s ∧ s.pc = .calling 0 0 ∧
    s.called.map Prod.fst ++ s.pc.pending ++ s.mRequesterQueue.filterMap id =
      s.queued.filterMap id :=
  ⟨_, reachable_first_call, rfl, called_fifo reachable_first_call⟩

theorem prefix_before_stop {t x q₁ q₂ : List (Option Nat)} (ht : none ∉ t)
    (h : t ++ x = q₁ ++ none :: q₂) : t <+: q₁ := by
  induction t generalizing q₁ with
  | nil => exact List.nil_prefix
  | cons e t ih =>
    cases q₁ with
    | nil =>
      simp only [List.cons_append, List.nil_append, List.cons.injEq] at h
      exact absurd (h.1 ▸ List.mem_cons_self _ _) ht
    | cons e' q₁ =>
      simp only [List.cons_append, List.cons.injEq] at h
      obtain ⟨rfl, h⟩ := h
      exact (List.prefix_cons_inj e).2 (ih (fun hm => ht (List.mem_cons_of_mem _ hm)) h)

/-- **Nothing queued after the stop is called.** The requesters called, and the one being
acquired, were all queued before the first empty `Requester`. -/
theorem called_before_stop {q₁ q₂ : List (Option Nat)} (h : Reachable kUnknown s)
    (hq : s.queued = q₁ ++ none :: q₂) :
    s.called.map Prod.fst ++ s.pc.pending <+: q₁.filterMap id := by
  have hi := Reachable.queueInv h
  rw [hi.called_taken]
  rw [hi.fifo] at hq
  by_cases hn : none ∈ s.taken
  · obtain ⟨-, t, ht, hnt⟩ := hi.stop_last hn
    rw [ht, List.append_assoc, List.singleton_append] at hq
    rw [ht, List.filterMap_append]
    simpa using (prefix_before_stop hnt hq).filterMap id
  · exact (prefix_before_stop hn hq).filterMap id

/-- Requester `0`, the stop and requester `1` queued; `0` is called and returns `true`,
then the loop takes the stop. -/
theorem called_before_stop_stopped : ∃ s : Channel, Reachable 0 s ∧
    s.queued = [some 0] ++ none :: [some 1] ∧ s.pc = .stopped ∧
    s.called.map Prod.fst ++ s.pc.pending <+: [some 0].filterMap id := by
  have h := show Reachable 0 _ from
    (((((((Relation.ReflTransGen.single
      (Step.queueRequester (some 0) (rfl : init.aborted = false))).tail
      (Step.queueRequester none rfl)).tail (Step.queueRequester (some 1) rfl)).tail
      (Step.getRequester rfl rfl rfl)).tail (Step.openHostChannel rfl rfl rfl rfl)).tail
      (Step.requesterReturns true rfl rfl)).tail (Step.stop rfl rfl rfl))
  exact ⟨_, h, rfl, rfl, called_before_stop h rfl⟩

theorem PipeInv.run (hi : PipeInv s) (hrun : Relation.ReflTransGen (Step kUnknown) s s') :
    PipeInv s' := by
  induction hrun with
  | refl => exact hi
  | tail _ hs ih => exact step_pipeInv hs ih

theorem Reachable.pipeInv (h : Reachable kUnknown s) : PipeInv s := pipeInv_init.run h

/-- **Each requester gets the open channel, with its reader.** A requester being called
writes to the channel `mHostChannel` holds open, which this `AtChannel` opened and ran its
init sequence on, and the reader thread is in `readingLoop` on that channel. -/
theorem called_with_open_channel {r g : Nat} (h : Reachable kUnknown s)
    (hpc : s.pc = .calling r g) :
    s.mHostChannel = some g ∧ g < s.opened ∧ ∃ u, s.mReaderThread = some (.reading g u) := by
  have hi := Reachable.pipeInv h
  have hc := hi.calling_open r g hpc
  exact ⟨hc, hi.open_reading g hc⟩

theorem called_with_open_channel_first_call : ∃ s : Channel, Reachable 0 s ∧
    s.pc = .calling 0 0 ∧ s.mHostChannel = some 0 ∧ 0 < s.opened ∧
      ∃ u, s.mReaderThread = some (.reading 0 u) :=
  ⟨_, reachable_first_call, rfl, called_with_open_channel reachable_first_call rfl⟩

/-- `mHostChannel` closed while `mReaderThread` is still joinable: what a requester that
returns `false` leaves. -/
def Wedged (s : Channel) : Prop := s.mHostChannel = none ∧ s.mReaderThread ≠ none

/-- From a wedged state every step stays wedged and calls no requester: a
`getHostChannelPipe` would have to join the reader first, and the reader's function never
returns. -/
theorem step_wedged (hi : PipeInv s) (hw : Wedged s) (h : Step kUnknown s s') :
    Wedged s' ∧ s'.called = s.called := by
  cases h with
  | queueRequester | getRequester | openFails => exact ⟨hw, rfl⟩
  | stop => exact ⟨⟨rfl, hw.2⟩, rfl⟩
  | reuse live hpc hc => exact absurd (hc.symm.trans hw.1) nofun
  | join live hpc hc hj => exact absurd hj hi.not_returned
  | openHostChannel live hpc hc hj => exact absurd hj hw.2
  | requesterReturns ok => exact ⟨⟨by cases ok <;> simp [requesterReturned, hw.1], hw.2⟩, rfl⟩
  | read => exact ⟨⟨hw.1, nofun⟩, rfl⟩
  | readFails => exact ⟨hw, rfl⟩

theorem wedged_run (hi : PipeInv s) (hw : Wedged s)
    (hrun : Relation.ReflTransGen (Step kUnknown) s s') : Wedged s' ∧ s'.called = s.called := by
  induction hrun with
  | refl => exact ⟨hw, rfl⟩
  | tail hr hs ih =>
    obtain ⟨hw', hc⟩ := ih
    obtain ⟨hw'', hc'⟩ := step_wedged (hi.run hr) hw' hs
    exact ⟨hw'', hc'.trans hc⟩

/-- **After a requester returns `false`, no requester is called again.** The reset closes
the channel while its reader thread stays joinable; the next `getHostChannelPipe` waits in
`mReaderThread.join()` for a `readingLoop` that never returns (or the process aborts), so
every later requester, and the stop, stay queued. -/
theorem no_call_after_failed_requester {r g : Nat} (h : Reachable kUnknown s)
    (hpc : s.pc = .calling r g)
    (hrun : Relation.ReflTransGen (Step kUnknown) (s.requesterReturned false) s') :
    s'.called = s.called := by
  have hi := Reachable.pipeInv h
  obtain ⟨-, -, u, hu⟩ := called_with_open_channel h hpc
  exact (wedged_run (hi.requesterReturned false) ⟨rfl, by rw [requesterReturned, hu]; nofun⟩
    hrun).2

/-- Requester `0` returns `false`; requester `1` is taken and waits for the join. -/
theorem no_call_after_failed_first_call : ∃ s s' : Channel, Reachable 0 s ∧
    s.pc = .calling 0 0 ∧ Step 0 (s.requesterReturned false) s' ∧ s'.pc = .acquiring 1 ∧
      s'.called = s.called :=
  ⟨_, _, reachable_first_call, rfl, Step.getRequester rfl rfl rfl, rfl,
    no_call_after_failed_requester reachable_first_call rfl
      (.single (Step.getRequester rfl rfl rfl))⟩

/-- With channel `g` open, the worker takes the requesters at the front of the queue one
after the other and calls each with the pipe of `g`, each returning `true`. -/
theorem requesters_called_on_open {g : Nat} {rs : List Nat} {q : List (Option Nat)}
    (live : s.aborted = false) (hpc : s.pc = .waiting) (hq : s.mRequesterQueue = rs.map some ++ q)
    (hc : s.mHostChannel = some g) :
    ∃ s', Relation.ReflTransGen (Step kUnknown) s s' ∧ s'.pc = .waiting ∧
      s'.mRequesterQueue = q ∧ s'.called = s.called ++ rs.map (·, g) := by
  induction rs generalizing s with
  | nil => exact ⟨s, .refl, hpc, hq, (List.append_nil _).symm⟩
  | cons r rs ih =>
    let s₁ : Channel :=
      ({ s.getRequester (some r) (rs.map some ++ q) with pc := .acquiring r }.call r g).requesterReturned
        true
    have hrun : Relation.ReflTransGen (Step kUnknown) s s₁ :=
      ((Relation.ReflTransGen.single (Step.getRequester live hpc hq)).tail
        (Step.reuse live rfl hc)).tail (Step.requesterReturns true live rfl)
    obtain ⟨s', hrun', hpc', hq', hcalled⟩ := ih (s := s₁) live rfl rfl hc
    refine ⟨s', hrun.trans hrun', hpc', hq', ?_⟩
    rw [hcalled, List.map_cons, ← List.singleton_append, ← List.append_assoc]
    rfl

/-- **The worker calls every queued requester, in order.** From a waiting worker whose
channel is open, or that has no reader thread to join, the requesters at the front of the
queue are taken and called in turn, all with the pipe of one channel, each returning `true`;
the worker then waits again with the rest of the queue. -/
theorem requesters_called_in_order {rs : List Nat} {q : List (Option Nat)}
    (live : s.aborted = false) (hpc : s.pc = .waiting) (hq : s.mRequesterQueue = rs.map some ++ q)
    (hready : s.mHostChannel ≠ none ∨ s.mReaderThread = none) :
    ∃ s' g, Relation.ReflTransGen (Step kUnknown) s s' ∧ s'.pc = .waiting ∧
      s'.mRequesterQueue = q ∧ s'.called = s.called ++ rs.map (·, g) := by
  cases hc : s.mHostChannel with
  | some g => exact (requesters_called_on_open live hpc hq hc).imp fun _ h => ⟨g, h⟩
  | none =>
    have hj : s.mReaderThread = none := hready.resolve_left (not_not.2 hc)
    cases rs with
    | nil => exact ⟨s, 0, .refl, hpc, hq, (List.append_nil _).symm⟩
    | cons r rs =>
      let s₁ : Channel := ({ s.getRequester (some r) (rs.map some ++ q) with
        pc := .acquiring r }.openHostChannel.call r s.opened).requesterReturned true
      have hrun : Relation.ReflTransGen (Step kUnknown) s s₁ :=
        ((Relation.ReflTransGen.single (Step.getRequester live hpc hq)).tail
          (Step.openHostChannel live rfl hc hj)).tail (Step.requesterReturns true live rfl)
      obtain ⟨s', hrun', hpc', hq', hcalled⟩ :=
        @requesters_called_on_open kUnknown s₁ s.opened _ _ live rfl rfl rfl
      refine ⟨s', s.opened, hrun.trans hrun', hpc', hq', ?_⟩
      rw [hcalled, List.map_cons, ← List.singleton_append, ← List.append_assoc]
      rfl

/-- Two requesters queued on a new `AtChannel`: the first opens channel `0`, and both are
called with it. -/
theorem requesters_called_in_order_two :
    ∃ s' g, Relation.ReflTransGen (Step 0)
        ((init.queueRequester (some 0)).queueRequester (some 1)) s' ∧
      s'.pc = .waiting ∧ s'.mRequesterQueue = [] ∧ s'.called = [] ++ [0, 1].map (·, g) :=
  @requesters_called_in_order 0 _ [0, 1] [] rfl rfl rfl (.inr rfl)

end Runs

end Channel

end AtChannel

end GoldfishRadio
