import Mathlib.Logic.Relation
import Mathlib.Logic.Function.Basic

/-!
# The conversation slot

`AtChannel::Conversation` hands one response from the reader thread to the request
worker: `operator()` arms the slot under `mMtx`, writes the request and waits on the
promise; `send` fulfils the promise with a response the armed filter accepts. Each locked
section, the write and each outcome of `wait_for` is one step. Every run keeps `Inv`, so
no promise is fulfilled twice and at most one slot is armed; a response that `send`
claims between a timeout and the disarm is lost.
-/

namespace GoldfishRadio

namespace AtChannel

variable {Resp : Type}

/-- The shared state of the `std::promise<AtResponsePtr>` in `mSink`: the call whose arm
made it (ghost) and the value `set_value` stored. -/
structure Promise (Resp : Type) where
  owner : Nat
  value : Option Resp

/-- `promise::set_value`; `none` where it throws `promise_already_satisfied`. -/
def Promise.setValue (p : Promise Resp) (r : Resp) : Option (Promise Resp) :=
  match p.value with
  | none => some { p with value := some r }
  | some _ => none

/-- One `Conversation`: `mFilter` points at the filter of the call that armed it (the
call's number is ghost), `mSink` is the promise. -/
structure Conversation (Resp : Type) where
  mFilter : Option (Nat × (Resp → Bool))
  mSink : Promise Resp

/-- Where the request worker is in `Conversation::operator()`: on conversation `conv`,
in the call numbered `call`, with `filter`. -/
inductive Worker (Resp : Type)
  | idle
  | armed (conv call : Nat) (filter : Resp → Bool)
  | waiting (conv call : Nat) (filter : Resp → Bool)
  | timedOut (conv call : Nat) (filter : Resp → Bool)

/-- The call in progress, if any. -/
def Worker.current : Worker Resp → Option (Nat × Nat × (Resp → Bool))
  | .idle => none
  | .armed c n f | .waiting c n f | .timedOut c n f => some (c, n, f)

/-- The ghost trace: an arm, a `send` (with the call whose promise it fulfilled when it
returned `true`), a return. -/
inductive Event (Resp : Type)
  | arm (conv call : Nat) (filter : Resp → Bool)
  | send (conv : Nat) (response : Resp) (claimedFor : Option Nat)
  | ret (call : Nat) (response : Option Resp)

/-- A `send` that fulfilled the promise of call `n`. -/
def Event.claims (n : Nat) : Event Resp → Bool
  | .send _ _ (some m) => m == n
  | _ => false

structure State (Resp : Type) where
  convs : Nat → Conversation Resp
  worker : Worker Resp
  /-- The number of calls made so far (ghost). -/
  calls : Nat
  /-- `set_value` threw. -/
  thrown : Bool
  trace : List (Event Resp)

namespace State

def init : State Resp :=
  ⟨fun _ => ⟨none, ⟨0, none⟩⟩, .idle, 0, false, []⟩

def setConv (s : State Resp) (c : Nat) (cv : Conversation Resp) : State Resp :=
  { s with convs := Function.update s.convs c cv }

@[simp] theorem setConv_convs_self (s : State Resp) (c : Nat) (cv : Conversation Resp) :
    (s.setConv c cv).convs c = cv := by simp [setConv]

@[simp] theorem setConv_convs_ne (s : State Resp) {c c' : Nat} (cv : Conversation Resp)
    (h : c' ≠ c) : (s.setConv c cv).convs c' = s.convs c' := by simp [setConv, h]

@[simp] theorem setConv_worker (s : State Resp) (c : Nat) (cv : Conversation Resp) :
    (s.setConv c cv).worker = s.worker := rfl

@[simp] theorem setConv_calls (s : State Resp) (c : Nat) (cv : Conversation Resp) :
    (s.setConv c cv).calls = s.calls := rfl

@[simp] theorem setConv_thrown (s : State Resp) (c : Nat) (cv : Conversation Resp) :
    (s.setConv c cv).thrown = s.thrown := rfl

@[simp] theorem setConv_trace (s : State Resp) (c : Nat) (cv : Conversation Resp) :
    (s.setConv c cv).trace = s.trace := rfl

/-- The arm of `operator()`: `mFilter = &filter; mSink = decltype(mSink)();`. -/
def arm (s : State Resp) (c : Nat) (f : Resp → Bool) : State Resp :=
  { s.setConv c ⟨some (s.calls, f), ⟨s.calls, none⟩⟩ with
    worker := .armed c s.calls f, calls := s.calls + 1,
    trace := s.trace ++ [.arm c s.calls f] }

/-- A failed write or a timeout: `mFilter = nullptr` under `mMtx`, then `return nullptr`. -/
def disarm (s : State Resp) (c n : Nat) : State Resp :=
  { s.setConv c { s.convs c with mFilter := none } with
    worker := .idle, trace := s.trace ++ [.ret n none] }

/-- `return futureResponse.get()` once the future is ready. -/
def returnValue (s : State Resp) (n : Nat) (v : Resp) : State Resp :=
  { s with worker := .idle, trace := s.trace ++ [.ret n (some v)] }

/-- `Conversation::send` on conversation `c`. -/
def send (s : State Resp) (c : Nat) (r : Resp) : State Resp :=
  match (s.convs c).mFilter with
  | some (n, f) =>
    if f r then
      match (s.convs c).mSink.setValue r with
      | some p => { s.setConv c ⟨none, p⟩ with trace := s.trace ++ [.send c r (some n)] }
      | none =>
        { s.setConv c ⟨none, (s.convs c).mSink⟩ with
          thrown := true, trace := s.trace ++ [.send c r (some n)] }
    else { s with trace := s.trace ++ [.send c r none] }
  | none => { s with trace := s.trace ++ [.send c r none] }

theorem send_eq (s : State Resp) (c : Nat) (r : Resp) :
    ∃ cv thrown claimed, s.send c r =
      { s.setConv c cv with thrown := thrown, trace := s.trace ++ [Event.send c r claimed] } := by
  have hkeep : { s with trace := s.trace ++ [Event.send c r none] } =
      { s.setConv c (s.convs c) with
        thrown := s.thrown, trace := s.trace ++ [Event.send c r none] } := by
    simp [setConv]
  unfold send
  split
  · split
    · split
      · exact ⟨_, _, _, rfl⟩
      · exact ⟨_, _, _, rfl⟩
    · exact ⟨_, _, _, hkeep⟩
  · exact ⟨_, _, _, hkeep⟩

@[simp] theorem send_worker (s : State Resp) (c : Nat) (r : Resp) :
    (s.send c r).worker = s.worker := by
  obtain ⟨_, _, _, h⟩ := send_eq s c r
  rw [h]; rfl

@[simp] theorem send_calls (s : State Resp) (c : Nat) (r : Resp) :
    (s.send c r).calls = s.calls := by
  obtain ⟨_, _, _, h⟩ := send_eq s c r
  rw [h]; rfl

theorem send_trace (s : State Resp) (c : Nat) (r : Resp) :
    ∃ claimed, (s.send c r).trace = s.trace ++ [.send c r claimed] := by
  obtain ⟨_, _, claimed, h⟩ := send_eq s c r
  exact ⟨claimed, by rw [h]⟩

theorem send_convs_ne (s : State Resp) {c c' : Nat} (r : Resp) (hc : c' ≠ c) :
    (s.send c r).convs c' = s.convs c' := by
  obtain ⟨_, _, _, h⟩ := send_eq s c r
  rw [h]; exact setConv_convs_ne s _ hc

/-- The only value `send c r` can put in a promise is `r`, and only in `c`'s. -/
theorem send_sink_value (s : State Resp) (c c' : Nat) (r v : Resp)
    (h : ((s.send c r).convs c').mSink.value = some v) :
    (s.convs c').mSink.value = some v ∨ v = r := by
  rcases eq_or_ne c' c with rfl | hc
  · unfold send at h
    split at h
    · split at h
      · split at h
        · rename_i p hp
          simp only [setConv_convs_self] at h
          unfold Promise.setValue at hp
          split at hp
          · cases hp; simp at h; exact .inr h.symm
          · cases hp
        · simp only [setConv_convs_self] at h; exact .inl h
      · exact .inl h
    · exact .inl h
  · rw [send_convs_ne s r hc] at h; exact .inl h

end State

open State

/-- One step of the request worker in `operator()` or of the reader thread in `send`. -/
inductive Step : State Resp → State Resp → Prop
  | arm {s : State Resp} (c : Nat) (f : Resp → Bool) : s.worker = .idle → Step s (s.arm c f)
  | writeFailed {s : State Resp} {c n : Nat} {f : Resp → Bool} :
      s.worker = .armed c n f → Step s (s.disarm c n)
  | written {s : State Resp} {c n : Nat} {f : Resp → Bool} :
      s.worker = .armed c n f → Step s { s with worker := .waiting c n f }
  | ready {s : State Resp} {c n : Nat} {f : Resp → Bool} {v : Resp} :
      s.worker = .waiting c n f → (s.convs c).mSink.value = some v → Step s (s.returnValue n v)
  | timedOut {s : State Resp} {c n : Nat} {f : Resp → Bool} :
      s.worker = .waiting c n f → (s.convs c).mSink.value = none →
      Step s { s with worker := .timedOut c n f }
  | disarm {s : State Resp} {c n : Nat} {f : Resp → Bool} :
      s.worker = .timedOut c n f → Step s (s.disarm c n)
  | send {s : State Resp} (c : Nat) (r : Resp) : Step s (s.send c r)

/-- The states some interleaving reaches. -/
def Reachable (s : State Resp) : Prop := Relation.ReflTransGen Step State.init s

/-- `r` went through `send` on conversation `c`, fulfilling call `n`'s promise, after call
`n` armed `c` with `f`. -/
def SentAfterArm (tr : List (Event Resp)) (c n : Nat) (f : Resp → Bool) (r : Resp) : Prop :=
  ∃ a b d, tr = a ++ .arm c n f :: b ++ .send c r (some n) :: d

theorem SentAfterArm.append {tr : List (Event Resp)} {c n : Nat} {f : Resp → Bool} {r : Resp}
    (h : SentAfterArm tr c n f r) (e : List (Event Resp)) : SentAfterArm (tr ++ e) c n f r := by
  obtain ⟨a, b, d, rfl⟩ := h
  exact ⟨a, b, d ++ e, by simp⟩

/-- The invariant every run keeps. -/
structure Inv (s : State Resp) : Prop where
  filter_call : ∀ c n f, (s.convs c).mFilter = some (n, f) → s.worker.current = some (c, n, f)
  filter_sink : ∀ c p, (s.convs c).mFilter = some p → (s.convs c).mSink.value = none
  filter_armed : ∀ c n f, (s.convs c).mFilter = some (n, f) →
    ∃ a b, s.trace = a ++ .arm c n f :: b
  filter_unclaimed : ∀ c n f, (s.convs c).mFilter = some (n, f) →
    s.trace.countP (Event.claims n) = 0
  current_owner : ∀ c n f, s.worker.current = some (c, n, f) →
    (s.convs c).mSink.owner = n ∧ n < s.calls
  sink_sent : ∀ c v, (s.convs c).mSink.value = some v →
    ∃ f, f v = true ∧ SentAfterArm s.trace c (s.convs c).mSink.owner f v
  ret_sent : ∀ n v, .ret n (some v) ∈ s.trace → ∃ c f, f v = true ∧ SentAfterArm s.trace c n f v
  claims_le : ∀ n, s.trace.countP (Event.claims n) ≤ 1
  claims_fresh : ∀ n, s.calls ≤ n → s.trace.countP (Event.claims n) = 0
  not_thrown : s.thrown = false

namespace Inv

variable {s : State Resp}

theorem init : Inv (State.init : State Resp) where
  filter_call := by simp [State.init]
  filter_sink := by simp [State.init]
  filter_armed := by simp [State.init]
  filter_unclaimed := by simp [State.init]
  current_owner := by simp [State.init, Worker.current]
  sink_sent := by simp [State.init]
  ret_sent := by simp [State.init]
  claims_le := by simp [State.init]
  claims_fresh := by simp [State.init]
  not_thrown := rfl

theorem filter_none_of_ne (hi : Inv s) {c c' n : Nat} {f : Resp → Bool}
    (hw : s.worker.current = some (c, n, f)) (hc : c' ≠ c) : (s.convs c').mFilter = none := by
  rcases hf : (s.convs c').mFilter with _ | ⟨n', f'⟩
  · rfl
  · have := hi.filter_call c' n' f' hf
    rw [hw] at this
    cases this
    exact absurd rfl hc

theorem filter_none_of_idle (hi : Inv s) (hw : s.worker.current = none) (c : Nat) :
    (s.convs c).mFilter = none := by
  rcases hf : (s.convs c).mFilter with _ | ⟨n, f⟩
  · rfl
  · have := hi.filter_call c n f hf
    rw [hw] at this
    cases this

theorem arm (hi : Inv s) {c : Nat} {f : Resp → Bool} (hw : s.worker = .idle) :
    Inv (s.arm c f) := by
  have hidle : s.worker.current = none := by rw [hw]; rfl
  -- The only armed conversation is `c`, with the new call's number and filter.
  have harmed : ∀ c' n f', ((s.arm c f).convs c').mFilter = some (n, f') →
      c' = c ∧ n = s.calls ∧ f' = f := fun c' n f' h => by
    rcases eq_or_ne c' c with rfl | hc
    · simp only [State.arm, setConv_convs_self, Option.some.injEq, Prod.mk.injEq] at h
      exact ⟨rfl, h.1.symm, h.2.symm⟩
    · simp [State.arm, hc, hi.filter_none_of_idle hidle] at h
  have hcount : ∀ n, (s.trace ++ [Event.arm c s.calls f]).countP (Event.claims n) =
      s.trace.countP (Event.claims n) := fun n => by simp [List.countP_append, Event.claims]
  exact
    { filter_call := fun c' n f' h => by obtain ⟨rfl, rfl, rfl⟩ := harmed c' n f' h; rfl
      filter_sink := fun c' ⟨n, f'⟩ h => by
        obtain ⟨rfl, -, -⟩ := harmed c' n f' h
        simp [State.arm]
      filter_armed := fun c' n f' h => by
        obtain ⟨rfl, rfl, rfl⟩ := harmed c' n f' h
        exact ⟨s.trace, [], rfl⟩
      filter_unclaimed := fun c' n f' h => by
        obtain ⟨rfl, rfl, rfl⟩ := harmed c' n f' h
        simpa [State.arm, hcount] using hi.claims_fresh s.calls (Nat.le_refl _)
      current_owner := fun c' n f' h => by
        simp only [State.arm, Worker.current, Option.some.injEq, Prod.mk.injEq] at h
        obtain ⟨rfl, rfl, rfl⟩ := h
        simp [State.arm]
      sink_sent := fun c' v h => by
        rcases eq_or_ne c' c with rfl | hc
        · simp [State.arm] at h
        · simp only [State.arm, setConv_convs_ne _ _ hc] at h ⊢
          obtain ⟨f', hf', hs⟩ := hi.sink_sent c' v h
          exact ⟨f', hf', hs.append _⟩
      ret_sent := fun n v h => by
        simp only [State.arm, List.mem_append, List.mem_singleton, reduceCtorEq, or_false] at h
        obtain ⟨c', f', hf', hs⟩ := hi.ret_sent n v h
        exact ⟨c', f', hf', hs.append _⟩
      claims_le := fun n => by simpa only [State.arm, hcount] using hi.claims_le n
      claims_fresh := fun n hn => by
        simp only [State.arm, hcount] at hn ⊢
        exact hi.claims_fresh n (by omega)
      not_thrown := hi.not_thrown }

theorem frame {s' : State Resp} (hi : Inv s) (e : List (Event Resp)) (hc : s'.convs = s.convs)
    (ht : s'.trace = s.trace ++ e) (hn : s'.calls = s.calls) (hth : s'.thrown = s.thrown)
    (hw : s'.worker.current = s.worker.current) (he : ∀ n, e.countP (Event.claims n) = 0)
    (hr : ∀ n v, .ret n (some v) ∉ e) : Inv s' where
  filter_call := by rw [hc, hw]; exact hi.filter_call
  filter_sink := by rw [hc]; exact hi.filter_sink
  filter_armed c n f h := by
    rw [hc] at h
    obtain ⟨a, b, hab⟩ := hi.filter_armed c n f h
    exact ⟨a, b ++ e, by simp [ht, hab]⟩
  filter_unclaimed c n f h := by
    rw [hc] at h
    simp [ht, List.countP_append, he, hi.filter_unclaimed c n f h]
  current_owner := by rw [hc, hw, hn]; exact hi.current_owner
  sink_sent c v h := by
    rw [hc] at h ⊢
    obtain ⟨f, hf, hs⟩ := hi.sink_sent c v h
    exact ⟨f, hf, ht ▸ hs.append e⟩
  ret_sent n v h := by
    rw [ht, List.mem_append] at h
    obtain ⟨c, f, hf, hs⟩ := hi.ret_sent n v (h.resolve_right (hr n v))
    exact ⟨c, f, hf, ht ▸ hs.append e⟩
  claims_le n := by simp [ht, List.countP_append, he, hi.claims_le n]
  claims_fresh n h := by simp [ht, List.countP_append, he, hi.claims_fresh n (hn ▸ h)]
  not_thrown := by rw [hth]; exact hi.not_thrown

theorem of_return {s' : State Resp} (hi : Inv s) {n : Nat} {v : Option Resp}
    (hw : s'.worker = .idle) (hf : ∀ c, (s'.convs c).mFilter = none)
    (hs : ∀ c, (s'.convs c).mSink = (s.convs c).mSink) (ht : s'.trace = s.trace ++ [.ret n v])
    (hn : s'.calls = s.calls) (hth : s'.thrown = s.thrown)
    (hv : ∀ r, v = some r → ∃ c f, f r = true ∧ SentAfterArm s.trace c n f r) : Inv s' where
  filter_call c := by simp [hf c]
  filter_sink c := by simp [hf c]
  filter_armed c := by simp [hf c]
  filter_unclaimed c := by simp [hf c]
  current_owner := by simp [hw, Worker.current]
  sink_sent c r h := by
    rw [hs] at h ⊢
    obtain ⟨f, hf, hsa⟩ := hi.sink_sent c r h
    exact ⟨f, hf, ht ▸ hsa.append _⟩
  ret_sent m r h := by
    rw [ht, List.mem_append, List.mem_singleton] at h
    rcases h with h | h
    · obtain ⟨c, f, hf, hsa⟩ := hi.ret_sent m r h
      exact ⟨c, f, hf, ht ▸ hsa.append _⟩
    · cases h
      obtain ⟨c, f, hf, hsa⟩ := hv r rfl
      exact ⟨c, f, hf, ht ▸ hsa.append _⟩
  claims_le m := by simp [ht, List.countP_append, Event.claims, hi.claims_le m]
  claims_fresh m h := by simp [ht, List.countP_append, Event.claims, hi.claims_fresh m (hn ▸ h)]
  not_thrown := by rw [hth]; exact hi.not_thrown

theorem disarm (hi : Inv s) {c n : Nat} {f : Resp → Bool}
    (hw : s.worker.current = some (c, n, f)) : Inv (s.disarm c n) := by
  refine hi.of_return rfl (fun c' => ?_) (fun c' => ?_) rfl rfl rfl (by simp)
  · by_cases hc : c' = c
    · subst hc; simp [State.disarm]
    · simp [State.disarm, hc, hi.filter_none_of_ne hw hc]
  · by_cases hc : c' = c
    · subst hc; simp [State.disarm]
    · simp [State.disarm, hc]

theorem returnValue (hi : Inv s) {c n : Nat} {f : Resp → Bool} {v : Resp}
    (hw : s.worker.current = some (c, n, f)) (hv : (s.convs c).mSink.value = some v) :
    Inv (s.returnValue n v) := by
  refine hi.of_return rfl (fun c' => ?_) (fun _ => rfl) rfl rfl rfl ?_
  · by_cases hc : c' = c
    · subst hc
      rcases hf : (s.convs c').mFilter with _ | p
      · exact hf
      · simp [hi.filter_sink c' p hf] at hv
    · exact hi.filter_none_of_ne hw hc
  · rintro r ⟨⟩
    obtain ⟨f', hf', hsa⟩ := hi.sink_sent c v hv
    rw [(hi.current_owner c n f hw).1] at hsa
    exact ⟨c, f', hf', hsa⟩

theorem send (hi : Inv s) (c : Nat) (r : Resp) : Inv (s.send c r) := by
  unfold State.send
  split
  · rename_i n f hf
    have hw := hi.filter_call c n f hf
    have hempty := hi.filter_sink c _ hf
    split
    · rename_i hr
      rw [Promise.setValue, hempty]
      -- Once `c` is cleared no conversation is armed.
      have hoff : ∀ (p : Promise Resp) c', ((s.setConv c ⟨none, p⟩).convs c').mFilter = none :=
        fun p c' => by
          rcases eq_or_ne c' c with rfl | hc
          · simp
          · simp [hc, hi.filter_none_of_ne hw hc]
      have hcount : ∀ m, (s.trace ++ [Event.send c r (some n)]).countP (Event.claims m) =
          s.trace.countP (Event.claims m) + if n = m then 1 else 0 := fun m => by
        by_cases h : n = m <;> simp [List.countP_append, Event.claims, h]
      exact
        { filter_call := fun c' _ _ h => by simp [hoff] at h
          filter_sink := fun c' _ h => by simp [hoff] at h
          filter_armed := fun c' _ _ h => by simp [hoff] at h
          filter_unclaimed := fun c' _ _ h => by simp [hoff] at h
          current_owner := fun c' m f' h => by
            simp only [setConv_worker] at h
            rcases eq_or_ne c' c with rfl | hc
            · simpa using hi.current_owner c' m f' h
            · simpa [hc] using hi.current_owner c' m f' h
          sink_sent := fun c' v h => by
            rcases eq_or_ne c' c with rfl | hc
            · simp only [setConv_convs_self, Option.some.injEq] at h ⊢
              subst h
              obtain ⟨a, b, hab⟩ := hi.filter_armed c' n f hf
              refine ⟨f, hr, ?_⟩
              rw [(hi.current_owner c' n f hw).1]
              exact ⟨a, b, [], by simp [hab]⟩
            · simp only [setConv_convs_ne _ _ hc, setConv_trace] at h ⊢
              obtain ⟨f', hf', hsa⟩ := hi.sink_sent c' v h
              exact ⟨f', hf', hsa.append _⟩
          ret_sent := fun m v h => by
            simp only [setConv_trace, List.mem_append, List.mem_singleton, reduceCtorEq,
              or_false] at h
            obtain ⟨c', f', hf', hsa⟩ := hi.ret_sent m v h
            exact ⟨c', f', hf', hsa.append _⟩
          claims_le := fun m => by
            simp only [setConv_trace, hcount]
            by_cases h : n = m
            · subst h; simp [hi.filter_unclaimed c n f hf]
            · simpa [h] using hi.claims_le m
          claims_fresh := fun m hm => by
            simp only [setConv_trace, setConv_calls, hcount] at hm ⊢
            have := (hi.current_owner c n f hw).2
            simp [hi.claims_fresh m hm, show n ≠ m by omega]
          not_thrown := hi.not_thrown }
    · exact hi.frame [.send c r none] rfl rfl rfl rfl rfl (by simp [Event.claims]) (by simp)
  · exact hi.frame [.send c r none] rfl rfl rfl rfl rfl (by simp [Event.claims]) (by simp)

theorem step {s' : State Resp} (hi : Inv s) (h : Step s s') : Inv s' := by
  cases h with
  | arm c f hw => exact hi.arm hw
  | writeFailed hw => exact hi.disarm (by rw [hw]; rfl)
  | written hw => exact hi.frame [] rfl (by simp) rfl rfl (by rw [hw]; rfl) (by simp) (by simp)
  | ready hw hv => exact hi.returnValue (by rw [hw]; rfl) hv
  | timedOut hw _ => exact hi.frame [] rfl (by simp) rfl rfl (by rw [hw]; rfl) (by simp) (by simp)
  | disarm hw => exact hi.disarm (by rw [hw]; rfl)
  | send c r => exact hi.send c r

end Inv

theorem reachable_inv {s : State Resp} (h : Reachable s) : Inv s := by
  induction h with
  | refl => exact Inv.init
  | tail _ hstep ih => exact ih.step hstep


/-- Slot safety: `set_value` never throws and fulfils each call's promise at most once; an
armed filter belongs to the call in progress; a returned response passed its call's
filter in a `send` made after the call armed; at most one conversation is armed. -/
structure SlotSafety (s : State Resp) : Prop where
  not_thrown : s.thrown = false
  fulfilled_once : ∀ n, s.trace.countP (Event.claims n) ≤ 1
  filter_in_call : ∀ c n f, (s.convs c).mFilter = some (n, f) → s.worker.current = some (c, n, f)
  returned_sent : ∀ n v, .ret n (some v) ∈ s.trace →
    ∃ c f, f v = true ∧ SentAfterArm s.trace c n f v
  armed_unique : ∀ c c', (s.convs c).mFilter.isSome → (s.convs c').mFilter.isSome → c = c'

/-- Slot safety holds on every interleaving of the request worker's calls with the
reader's `send`s. -/
theorem reachable_slot_safety {s : State Resp} (h : Reachable s) : SlotSafety s := by
  have hi := reachable_inv h
  refine ⟨hi.not_thrown, hi.claims_le, hi.filter_call, hi.ret_sent, fun c c' hc hc' => ?_⟩
  obtain ⟨⟨n, f⟩, hf⟩ := Option.isSome_iff_exists.mp hc
  obtain ⟨⟨n', f'⟩, hf'⟩ := Option.isSome_iff_exists.mp hc'
  have h2 := hi.filter_call c' n' f' hf'
  rw [hi.filter_call c n f hf] at h2
  cases h2
  rfl

/-- A call on conversation `1` whose reply `3` is claimed before the call returns it. -/
def answered : State Nat :=
  let s := ((State.init : State Nat).arm 1 fun r => r == 3)
  ({ s with worker := .waiting 1 0 fun r => r == 3 }.send 1 3).returnValue 0 3

theorem answered_reachable : Reachable answered := by
  let f : Nat → Bool := fun r => r == 3
  let s2 : State Nat := { (State.init : State Nat).arm 1 f with worker := .waiting 1 0 f }
  have h2 : Reachable s2 := (Relation.ReflTransGen.single (Step.arm 1 f rfl)).tail (Step.written rfl)
  exact (h2.tail (Step.send 1 3)).tail (Step.ready rfl rfl)

theorem slot_safety_answered : Reachable answered ∧ SlotSafety answered :=
  ⟨answered_reachable, reachable_slot_safety answered_reachable⟩

/-- The lost response: the call times out, `send` claims `7` before the disarm, and the
call returns `nullptr`. -/
theorem claimed_response_lost :
    ∃ s : State Nat, Reachable s ∧
      s.trace = [.arm 0 0 (fun _ => true), .send 0 7 (some 0), .ret 0 none] := by
  let f : Nat → Bool := fun _ => true
  let s1 := (State.init : State Nat).arm 0 f
  let s2 : State Nat := { s1 with worker := .waiting 0 0 f }
  let s3 : State Nat := { s2 with worker := .timedOut 0 0 f }
  refine ⟨(s3.send 0 7).disarm 0 0, ?_, rfl⟩
  have h3 : Reachable s3 :=
    ((Relation.ReflTransGen.single (Step.arm 0 f rfl)).tail (Step.written rfl)).tail
      (Step.timedOut rfl rfl)
  exact (h3.tail (Step.send 0 7)).tail (Step.disarm rfl)

end AtChannel

end GoldfishRadio
