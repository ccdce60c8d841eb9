import GoldfishRadio.AtResponse.Basic
import Mathlib.Logic.Relation

/-!
# The radio state across the services

`RadioModem`, `RadioNetwork` and `RadioSim` each copy the radio state from the `+CFUN`
records broadcast to their sinks, and `setRadioPowerImpl` returns at once when
`RadioModem`'s copy already reads the state asked for. `mainImpl` adds the sinks only after
every service is registered, so the init sequence's `+CFUN` can reach the reader first and
be lost to the services whose sinks are missing.
-/

namespace GoldfishRadio

namespace RadioPower

open AtResponse

/-- A requester that runs `setRadioPowerImpl`: `setRadioPower`'s, or `requestShutdown`'s
with `powerOn = false`. -/
inductive PowerRequest
  | setRadioPower (powerOn : Bool)
  | requestShutdown
  deriving DecidableEq

def PowerRequest.powerOn : PowerRequest → Bool
  | .setRadioPower powerOn => powerOn
  | .requestShutdown => false

/-- `powerOn ? RadioState::ON : RadioState::OFF`, also `CFUN::parse`'s reading of the level. -/
def radioStateOf (powerOn : Bool) : RadioState := if powerOn then .ON else .OFF

/-- Where the request worker is: before the channel is open, in the init sequence, or in
`setRadioPowerImpl`. -/
inductive Worker
  /-- No requester has run: `mHostChannel` is not open. -/
  | closed
  /-- The init sequence waits for the `OK` after the answer to its `AT+CFUN?`. -/
  | initializing
  | idle
  /-- `AT+CFUN=<n>` is written, `AT+CFUN?` not yet. -/
  | wrote (r : PowerRequest)
  /-- Both are written; `mRadioState` is not yet set. -/
  | queried (r : PowerRequest)
  /-- `mRadioState` is set; `radioStateChanged` is not yet sent. -/
  | updated (r : PowerRequest)
  /-- A write failed: the requester returned `false`, and the worker calls no requester
  again. -/
  | stopped
  deriving DecidableEq

/-- Whether the modem has been asked `AT+CFUN?` since its power was last set. -/
def Worker.reported : Worker → Bool
  | .closed | .wrote _ | .stopped => false
  | _ => true

def Worker.running : Worker → Option PowerRequest
  | .wrote r | .queried r | .updated r => some r
  | _ => none

/-- Where the reader thread is in broadcasting a `+CFUN` record. -/
inductive Reader
  | idle
  /-- `RadioModem`'s sink is done with its locked section, which found the state `changed`;
  its indication and the sinks after it are still to come. -/
  | handled (powerOn : Bool) (changed : Bool)
  deriving DecidableEq

def Reader.inFlight : Reader → List Bool
  | .idle => []
  | .handled powerOn _ => [powerOn]

structure System where
  /-- The level of the last `AT+CFUN=` the modem executed. -/
  power : Bool
  /-- The `+CFUN` levels the modem sent that the reader has not yet broadcast. -/
  reports : List Bool
  /-- The power requesters queued and not yet taken, in order. -/
  requests : List PowerRequest
  worker : Worker
  reader : Reader
  /-- `RadioModem::mRadioState`. -/
  modemState : RadioState
  /-- `RadioNetwork::mRadioState`. -/
  networkState : RadioState
  /-- `RadioSim::mRadioState`. -/
  simState : RadioState
  /-- The `radioStateChanged` indications `RadioModem` sent, in order (ghost). -/
  indications : List RadioState
  /-- The requests answered with success, in order (ghost). -/
  acks : List PowerRequest
  /-- How far `mainImpl` is: `1` once a service is registered, `2` once `RadioModem` is,
  then `3`, `4` and `5` as the sinks of `RadioModem`, `RadioNetwork` and `RadioSim` are
  added. -/
  main : Nat
  /-- Whether a record was broadcast while one of the three sinks was missing (ghost). -/
  lost : Bool

namespace System

/-- The modem at `power`, the services as constructed (`mRadioState = OFF`), the channel
not yet open. -/
def init (power : Bool) : System :=
  ⟨power, [], [], .closed, .idle, .OFF, .OFF, .OFF, [], [], 0, false⟩

/-- The records still to be broadcast: the one in flight, then those not yet read. -/
def pending (s : System) : List Bool := s.reader.inFlight ++ s.reports

end System

open System

/-- One step of `mainImpl`, a service, the worker, the reader or the modem. Each locked
section is one step; so is each write on the channel. -/
inductive Step : System → System → Prop
  /-- `mainImpl` registers a first service, then `RadioModem`, then adds the sinks under
  `mResponseSinksMtx`, which the reader holds through a broadcast. -/
  | main {s : System} (hm : s.main < 5) (hr : 2 ≤ s.main → s.reader = .idle) :
      Step s { s with main := s.main + 1 }
  /-- `setRadioPower` or `requestShutdown` on a binder thread queues its requester. -/
  | queue {s : System} (hm : 2 ≤ s.main) (r : PowerRequest) :
      Step s { s with requests := s.requests ++ [r] }
  /-- The worker takes the first requester of a registered service: `getHostChannelPipe`
  runs the init sequence, and the modem answers its `AT+CFUN?`. -/
  | openChannel {s : System} (hw : s.worker = .closed) (hm : 1 ≤ s.main) :
      Step s { s with reports := s.reports ++ [s.power], worker := .initializing }
  /-- The `OK` after the answer, which the reader reads once it has broadcast the answer. -/
  | initDone {s : System} (hw : s.worker = .initializing) (hr : s.reader = .idle)
      (hq : s.reports = []) : Step s { s with worker := .idle }
  /-- `if (powerOn == (mRadioState == RadioState::ON)) return true;` and the success
  response. -/
  | alreadySet {s : System} {r : PowerRequest} {rest : List PowerRequest}
      (hw : s.worker = .idle) (hq : s.requests = r :: rest)
      (hs : r.powerOn = (s.modemState == .ON)) :
      Step s { s with requests := rest, acks := s.acks ++ [r] }
  /-- `requestPipe(AT+CFUN=<n>)` succeeds; the modem executes the command. -/
  | writePower {s : System} {r : PowerRequest} {rest : List PowerRequest}
      (hw : s.worker = .idle) (hq : s.requests = r :: rest)
      (hs : r.powerOn ≠ (s.modemState == .ON)) :
      Step s { s with requests := rest, power := r.powerOn, worker := .wrote r }
  /-- The write fails before the `'\r'`: the modem executes nothing. -/
  | writePowerFails {s : System} {r : PowerRequest} {rest : List PowerRequest}
      (hw : s.worker = .idle) (hq : s.requests = r :: rest)
      (hs : r.powerOn ≠ (s.modemState == .ON)) :
      Step s { s with requests := rest, worker := .stopped }
  /-- `requestPipe(AT+CFUN?)` succeeds; the modem answers with its power. -/
  | query {s : System} {r : PowerRequest} (hw : s.worker = .wrote r) :
      Step s { s with reports := s.reports ++ [s.power], worker := .queried r }
  | queryFails {s : System} {r : PowerRequest} (hw : s.worker = .wrote r) :
      Step s { s with worker := .stopped }
  /-- `mRadioState = newState;` under `mMtx`. -/
  | update {s : System} {r : PowerRequest} (hw : s.worker = .queried r) :
      Step s { s with modemState := radioStateOf r.powerOn, worker := .updated r }
  /-- `radioStateChanged(newState)` and the success response. -/
  | indicate {s : System} {r : PowerRequest} (hw : s.worker = .updated r) :
      Step s { s with indications := s.indications ++ [radioStateOf r.powerOn],
                      acks := s.acks ++ [r], worker := .idle }
  /-- A requester of another service returns `false`: the worker calls no requester
  again. -/
  | otherFails {s : System} (hw : s.worker = .idle) : Step s { s with worker := .stopped }
  /-- The modem reports its power on its own. -/
  | report {s : System} (hw : s.worker ≠ .closed) :
      Step s { s with reports := s.reports ++ [s.power] }
  /-- The reader takes the next record to `RadioModem`'s sink, whose `handleUnsolicited`
  compares and sets `mRadioState` under `mMtx`. -/
  | handle {s : System} {x : Bool} {rest : List Bool} (hr : s.reader = .idle)
      (hq : s.reports = x :: rest) (hm : 3 ≤ s.main) :
      Step s { s with reports := rest, modemState := radioStateOf x,
                      reader := .handled x (s.modemState != radioStateOf x) }
  /-- The same before `RadioModem`'s sink is added: no sink of the three sees the record. -/
  | handleLost {s : System} {x : Bool} {rest : List Bool} (hr : s.reader = .idle)
      (hq : s.reports = x :: rest) (hm : s.main < 3) :
      Step s { s with reports := rest, reader := .handled x false, lost := true }
  /-- `RadioModem`'s indication when the state changed, then the sinks of `RadioNetwork`
  and `RadioSim`, which only the reader thread touches. -/
  | broadcastRest {s : System} {x changed : Bool} (hr : s.reader = .handled x changed)
      (hm : 5 ≤ s.main) :
      Step s { s with reader := .idle, networkState := radioStateOf x, simState := radioStateOf x,
                      indications := s.indications ++ if changed then [radioStateOf x] else [] }
  /-- The same before `RadioSim`'s sink is added. -/
  | broadcastRestLost {s : System} {x changed : Bool} (hr : s.reader = .handled x changed)
      (hm : s.main < 5) :
      Step s { s with reader := .idle, lost := true,
                      networkState := if 4 ≤ s.main then radioStateOf x else s.networkState,
                      indications := s.indications ++ if changed then [radioStateOf x] else [] }

def Reachable (power : Bool) (s : System) : Prop := Relation.ReflTransGen Step (init power) s

theorem step_main_le {s s' : System} (hm : s.main ≤ 5) (h : Step s s') : s'.main ≤ 5 := by
  cases h with
  | main h _ => exact h
  | _ => exact hm

theorem Reachable.main_le {power : Bool} {s : System} (h : Reachable power s) : s.main ≤ 5 := by
  induction h with
  | refl => exact Nat.zero_le 5
  | tail _ hs ih => exact step_main_le ih hs

/-- The copies of the radio state follow the modem. Once the modem has been asked its power
after the last `AT+CFUN=`, the last record still to be broadcast is the modem's power; if no
record was lost, `RadioModem`'s copy equals the power when no record is left unread, and the
copies of `RadioNetwork` and `RadioSim` when none is left at all. -/
structure Synced (s : System) : Prop where
  running : ∀ r, s.worker.running = some r → s.power = r.powerOn
  last_pending : s.worker.reported → ∀ x, s.pending.getLast? = some x → x = s.power
  modem_state : s.lost = false → s.worker.reported → s.reports = [] →
    s.modemState = radioStateOf s.power
  copies : s.lost = false → s.worker.reported → s.pending = [] →
    s.networkState = radioStateOf s.power ∧ s.simState = radioStateOf s.power

theorem synced_init (power : Bool) : Synced (init power) :=
  ⟨nofun, nofun, fun _ => nofun, fun _ => nofun⟩

theorem getLast?_append_power (l : List Bool) (p : Bool) {x : Bool}
    (hx : (l ++ [p]).getLast? = some x) : x = p := by
  rw [List.getLast?_concat, Option.some.injEq] at hx
  exact hx.symm

/-- A step that appends the modem's power to the reports and moves neither the power nor the
reader: `openChannel`, `query` and `report`. -/
theorem synced_of_report (s : System) {t : System}
    (hrun : ∀ r, t.worker.running = some r → t.power = r.powerOn) (hp : t.power = s.power)
    (hr : t.reader = s.reader) (hq : t.reports = s.reports ++ [s.power]) : Synced t := by
  refine ⟨hrun, fun _ x hx => (getLast?_append_power s.pending s.power ?_).trans hp.symm,
    fun _ _ h => by simp [hq] at h, fun _ _ h => by simp [pending, hq] at h⟩
  simpa only [pending, hr, hq, List.append_assoc] using hx

theorem step_synced {s s' : System} (hi : Synced s) (h : Step s s') : Synced s' := by
  cases h with
  | main | queue | alreadySet => exact ⟨hi.1, hi.2, hi.3, hi.4⟩
  | report => exact synced_of_report s hi.1 rfl rfl rfl
  | openChannel => exact synced_of_report s nofun rfl rfl rfl
  | query hw =>
    exact synced_of_report s (fun r' hr => hi.1 r' (by rw [hw] at *; exact hr)) rfl rfl rfl
  | initDone hw | indicate hw =>
    have hrep : s.worker.reported := by rw [hw]; rfl
    exact ⟨nofun, fun _ => hi.2 hrep, fun hl _ => hi.3 hl hrep, fun hl _ => hi.4 hl hrep⟩
  | writePower hw hq hs =>
    exact ⟨fun r' hr => by cases hr; rfl, nofun, fun _ => nofun, fun _ => nofun⟩
  | writePowerFails | queryFails | otherFails =>
    exact ⟨nofun, nofun, fun _ => nofun, fun _ => nofun⟩
  | @update r hw =>
    have hp := hi.1 r (by rw [hw]; rfl)
    have hrep : s.worker.reported := by rw [hw]; rfl
    exact ⟨fun r' hr => by cases hr; exact hp, fun _ => hi.2 hrep, fun _ _ _ => by rw [hp],
      fun hl _ => hi.4 hl hrep⟩
  | @handle x rest hr hq hm =>
    have hpend : s.pending = [x] ++ rest := by rw [pending, hr, hq]; rfl
    refine ⟨hi.1, fun hrep y hy => hi.2 hrep y (by rw [hpend]; exact hy), fun _ hrep hrest => ?_,
      fun _ _ h => by simp [pending, Reader.inFlight] at h⟩
    rw [hi.2 hrep x (by rw [hpend, show rest = [] from hrest]; rfl)]
  | @handleLost x rest hr hq hm =>
    have hpend : s.pending = [x] ++ rest := by rw [pending, hr, hq]; rfl
    exact ⟨hi.1, fun hrep y hy => hi.2 hrep y (by rw [hpend]; exact hy), nofun, nofun⟩
  | @broadcastRest x changed hr hm =>
    have hpend : s.pending = x :: s.reports := by rw [pending, hr]; rfl
    refine ⟨hi.1, fun hrep y hy => hi.2 hrep y ?_, hi.3, fun _ hrep hnil => ?_⟩
    · rw [hpend, List.getLast?_cons]
      simp only [pending, Reader.inFlight, List.nil_append] at hy
      rw [hy]; rfl
    · simp only [pending, Reader.inFlight, List.nil_append] at hnil
      have hx := hi.2 hrep x (by rw [hpend, hnil]; rfl)
      exact ⟨by rw [hx], by rw [hx]⟩
  | @broadcastRestLost x changed hr hm =>
    have hpend : s.pending = x :: s.reports := by rw [pending, hr]; rfl
    refine ⟨hi.1, fun hrep y hy => hi.2 hrep y ?_, nofun, nofun⟩
    rw [hpend, List.getLast?_cons]
    simp only [pending, Reader.inFlight, List.nil_append] at hy
    rw [hy]; rfl

theorem Synced.run {s s' : System} (hi : Synced s) (h : Relation.ReflTransGen Step s s') :
    Synced s' := by
  induction h with
  | refl => exact hi
  | tail _ hs ih => exact step_synced ih hs

theorem Reachable.synced {power : Bool} {s : System} (h : Reachable power s) : Synced s :=
  (synced_init power).run h

/-- The sinks added before the first requester, and the init sequence run with the modem
off. -/
def afterInit : System := ⟨false, [], [], .idle, .idle, .OFF, .OFF, .OFF, [], [], 5, false⟩

theorem afterInit_reachable : Reachable false afterInit := by
  have h := ((((((((Relation.ReflTransGen.single (Step.main (s := init false) (by decide)
    nofun)).tail (Step.main (by decide) nofun)).tail (Step.main (by decide) fun _ => rfl)).tail
    (Step.main (by decide) fun _ => rfl)).tail (Step.main (by decide) fun _ => rfl)).tail
    (Step.openChannel rfl (by decide))).tail (Step.handle rfl rfl (by decide))).tail
    (Step.broadcastRest rfl le_rfl)).tail (Step.initDone rfl rfl rfl)
  exact h

/-- The reader broadcasts `y` to all three sinks. -/
def System.broadcast (s : System) (y : Bool) : System :=
  { s with
    reader := .idle, modemState := radioStateOf y, networkState := radioStateOf y,
    simState := radioStateOf y,
    indications := s.indications ++ if s.modemState != radioStateOf y then [radioStateOf y] else [] }

def System.broadcastAll (s : System) (l : List Bool) : System := l.foldl System.broadcast s

/-- The `radioStateChanged` indications `RadioModem::handleUnsolicited` sends for the
records `l`, from the state `m`: one for each record that changes the state. -/
def changes : RadioState → List Bool → List RadioState
  | _, [] => []
  | m, y :: l =>
    (if m != radioStateOf y then [radioStateOf y] else []) ++ changes (radioStateOf y) l

theorem changes_of_same {m : RadioState} {l : List Bool} (hl : ∀ y ∈ l, radioStateOf y = m) :
    changes m l = [] := by
  induction l with
  | nil => rfl
  | cons y l ih =>
    have hy := hl y (List.mem_cons_self y l)
    rw [changes, hy, ih fun z hz => hl z (List.mem_cons_of_mem y hz)]
    simp

theorem broadcastAll_frame (s : System) (l : List Bool) :
    (s.broadcastAll l).reports = s.reports ∧ (s.broadcastAll l).worker = s.worker ∧
      (s.broadcastAll l).requests = s.requests ∧ (s.broadcastAll l).power = s.power ∧
      (s.broadcastAll l).acks = s.acks ∧ (s.broadcastAll l).main = s.main := by
  induction l generalizing s with
  | nil => exact ⟨rfl, rfl, rfl, rfl, rfl, rfl⟩
  | cons y l ih => exact ih (s.broadcast y)

theorem broadcastAll_reader {s : System} (hr : s.reader = .idle) (l : List Bool) :
    (s.broadcastAll l).reader = .idle := by
  induction l generalizing s with
  | nil => exact hr
  | cons y l ih => exact ih (s := s.broadcast y) rfl

theorem broadcastAll_indications (s : System) (l : List Bool) :
    (s.broadcastAll l).indications = s.indications ++ changes s.modemState l := by
  induction l generalizing s with
  | nil => exact (List.append_nil _).symm
  | cons y l ih =>
    show (System.broadcastAll (s.broadcast y) l).indications = _
    rw [ih, changes, ← List.append_assoc]
    rfl

theorem broadcastAll_copies (s : System) {l : List Bool} {y : Bool} (hy : l.getLast? = some y) :
    (s.broadcastAll l).modemState = radioStateOf y ∧
      (s.broadcastAll l).networkState = radioStateOf y ∧
      (s.broadcastAll l).simState = radioStateOf y := by
  obtain ⟨l', rfl⟩ := List.getLast?_eq_some_iff.mp hy
  simp only [System.broadcastAll, List.foldl_append, List.foldl_cons, List.foldl_nil]
  exact ⟨rfl, rfl, rfl⟩

theorem broadcastAll_with_reports (s : System) (rs : List Bool) (l : List Bool) :
    ({ s with reports := rs } : System).broadcastAll l = { s.broadcastAll l with reports := rs } := by
  induction l generalizing s with
  | nil => rfl
  | cons y l ih => exact ih (s.broadcast y)

/-- With every sink added, the reader broadcasts the first records in turn. -/
theorem drain (l : List Bool) {rest : List Bool} {s : System} (hr : s.reader = .idle)
    (hq : s.reports = l ++ rest) (hm : 5 ≤ s.main) :
    Relation.ReflTransGen Step s { s.broadcastAll l with reports := rest } := by
  induction l generalizing s with
  | nil =>
    show Relation.ReflTransGen Step s { s with reports := rest }
    rw [List.nil_append] at hq
    rw [← hq]
  | cons y l ih =>
    have h₁ : Relation.ReflTransGen Step s { s.broadcast y with reports := l ++ rest } :=
      (Relation.ReflTransGen.single (Step.handle hr hq (by omega))).tail
        (Step.broadcastRest rfl hm)
    have h₂ := ih (s := { s.broadcast y with reports := l ++ rest }) rfl rfl hm
    rw [broadcastAll_with_reports] at h₂
    exact h₁.trans h₂

theorem addSinks (k : Nat) {s : System} (hr : s.reader = .idle) (hm : s.main + k = 5) :
    Relation.ReflTransGen Step s { s with main := 5 } := by
  induction k generalizing s with
  | zero =>
    show Relation.ReflTransGen Step s { s with main := 5 }
    rw [← hm]
    exact .refl
  | succ k ih =>
    exact Relation.ReflTransGen.head (Step.main (by omega) fun _ => hr)
      (ih (s := { s with main := s.main + 1 }) hr (by simp only; omega))

theorem toAllSinks {s : System} (hr : s.reader = .idle) :
    Relation.ReflTransGen Step s { s with main := max s.main 5 } := by
  by_cases hm : s.main ≤ 5
  · rw [max_eq_right hm]
    exact addSinks (5 - s.main) hr (by omega)
  · show Relation.ReflTransGen Step s { s with main := max s.main 5 }
    rw [max_eq_left (by omega)]

/-- `setRadioPower(true)` and then `setRadioPower(false)` run to their end from a modem
that is off, with the reader behind: the report of the first `AT+CFUN?` is still to be
read. -/
def afterOnOff : System :=
  ⟨false, [true, false], [], .idle, .idle, .OFF, .OFF, .OFF, [.ON, .OFF],
    [.setRadioPower true, .setRadioPower false], 5, false⟩

theorem afterOnOff_reachable : Reachable false afterOnOff := by
  have h := (afterInit_reachable.tail (Step.queue (by decide) (.setRadioPower true))).tail
    (Step.writePower rfl rfl (by decide))
  have h := ((((((h.tail (Step.query rfl)).tail (Step.update rfl)).tail (Step.indicate rfl)).tail
    (Step.queue (by decide) (.setRadioPower false))).tail
    (Step.writePower rfl rfl (by decide))).tail (Step.query rfl)).tail (Step.update rfl)
  have h := h.tail (Step.indicate rfl)
  exact h

/-- **A stale report loses a `setRadioPower`.** From every state where the worker and the
reader are idle and a report the modem sent before its last `AT+CFUN=` is still to be
read, `mainImpl` adds the sinks still missing, the reader broadcasts up to that report,
`setRadioPower` for its value is then answered with success by the early return, and after
the remaining reports the modem and every copy of the radio state settle on the other
value. -/
theorem setRadioPower_lost {power x : Bool} {s : System} (h : Reachable power s)
    (hw : s.worker = .idle) (hr : s.reader = .idle) (hq : s.requests = [])
    (hx : x ∈ s.reports) (hstale : x ≠ s.power) :
    ∃ s', Relation.ReflTransGen Step s s' ∧ s'.acks = s.acks ++ [.setRadioPower x] ∧
      s'.worker = .idle ∧ s'.reader = .idle ∧ s'.reports = [] ∧ s'.power = s.power ∧
      s'.power ≠ x ∧ s'.modemState = radioStateOf s'.power ∧
      s'.networkState = radioStateOf s'.power ∧ s'.simState = radioStateOf s'.power := by
  obtain ⟨l₁, l₂, hsplit⟩ := List.append_of_mem hx
  have hlast : (l₁ ++ x :: l₂).getLast? = some s.power := by
    rw [← hsplit]
    cases hp : s.reports.getLast? with
    | none => simp [List.getLast?_eq_none_iff.mp hp] at hx
    | some p =>
      have := h.synced.last_pending (by rw [hw]; rfl) p (by rw [pending, hr]; exact hp)
      rw [this]
  obtain ⟨y, hy, hyp⟩ : ∃ y, l₂.getLast? = some y ∧ y = s.power := by
    cases hl : l₂.getLast? with
    | none =>
      rw [List.getLast?_eq_none_iff.mp hl, List.getLast?_append_of_ne_nil _ (by simp)] at hlast
      exact absurd (Option.some.inj hlast) hstale
    | some y =>
      rw [List.getLast?_append_of_ne_nil _ (by simp), List.getLast?_cons,
        hl, Option.getD_some] at hlast
      exact ⟨y, rfl, Option.some.inj hlast⟩
  let s₀ : System := { s with main := max s.main 5 }
  have hrun₀ : Relation.ReflTransGen Step s s₀ := toAllSinks hr
  have hm : 5 ≤ s₀.main := le_max_right _ _
  obtain ⟨hq₀, hw₀, hreq₀, hp₀, hack₀, hm₀⟩ := broadcastAll_frame s₀ l₁
  let s₁ : System := { s₀.broadcastAll l₁ with reports := x :: l₂ }
  have hrun₁ : Relation.ReflTransGen Step s₀ s₁ := drain l₁ hr hsplit hm
  have hr₁ : s₁.reader = .idle := broadcastAll_reader (s := s₀) hr l₁
  have hm₁ : 5 ≤ s₁.main := by
    show 5 ≤ (s₀.broadcastAll l₁).main
    rw [hm₀]
    exact hm
  let s₂ : System := { s₁ with
    reports := l₂, modemState := radioStateOf x, requests := [],
    acks := s₁.acks ++ [.setRadioPower x], reader := .idle,
    networkState := radioStateOf x, simState := radioStateOf x,
    indications := s₁.indications ++
      if s₁.modemState != radioStateOf x then [radioStateOf x] else [] }
  have hrun₂ : Relation.ReflTransGen Step s₁ s₂ := by
    have h := (((Relation.ReflTransGen.single (Step.handle hr₁ rfl (by omega))).tail
      (Step.queue (by show 2 ≤ s₁.main; omega) (.setRadioPower x))).tail
      (@Step.alreadySet _ (.setRadioPower x) [] (hw₀.trans hw)
        (by show s₁.requests ++ _ = _; rw [hreq₀, hq]; rfl) (by cases x <;> rfl))).tail
      (Step.broadcastRest rfl hm₁)
    exact h
  have hrun₃ : Relation.ReflTransGen Step s₂ { s₂.broadcastAll l₂ with reports := [] } :=
    drain l₂ rfl (List.append_nil l₂).symm hm₁
  obtain ⟨-, hw₃, -, hp₃, hack₃, -⟩ := broadcastAll_frame s₂ l₂
  obtain ⟨hm', hn', hs'⟩ := broadcastAll_copies s₂ hy
  have hp : (s₂.broadcastAll l₂).power = s.power := hp₃.trans hp₀
  have hy' : radioStateOf y = radioStateOf (s₂.broadcastAll l₂).power := by rw [hp, hyp]
  exact ⟨_, hrun₀.trans (hrun₁.trans (hrun₂.trans hrun₃)),
    hack₃.trans (congrArg (· ++ [PowerRequest.setRadioPower x]) hack₀), hw₃.trans (hw₀.trans hw),
    broadcastAll_reader (s := s₂) rfl l₂, rfl, hp, fun h => hstale (h.symm.trans hp),
    hm'.trans hy', hn'.trans hy', hs'.trans hy'⟩

/-- After `afterOnOff`, the stale `+CFUN: 1` is broadcast and `setRadioPower(true)` is
answered with success by the early return: the radio stays off. -/
theorem setRadioPower_lost_after_on_off :
    Reachable false afterOnOff ∧ afterOnOff.worker = .idle ∧ afterOnOff.reader = .idle ∧
      afterOnOff.requests = [] ∧ true ∈ afterOnOff.reports ∧ true ≠ afterOnOff.power ∧
      ∃ s', Relation.ReflTransGen Step afterOnOff s' ∧
        s'.acks = afterOnOff.acks ++ [.setRadioPower true] ∧ s'.worker = .idle ∧
        s'.reader = .idle ∧ s'.reports = [] ∧ s'.power = afterOnOff.power ∧ s'.power ≠ true ∧
        s'.modemState = radioStateOf s'.power ∧ s'.networkState = radioStateOf s'.power ∧
        s'.simState = radioStateOf s'.power :=
  ⟨afterOnOff_reachable, rfl, rfl, rfl, by decide, by decide,
    setRadioPower_lost afterOnOff_reachable rfl rfl rfl (by decide) (by decide)⟩

/-- **The last `radioStateChanged` can name the state the radio left.** From every state
where the worker and the reader are idle, no requester is queued, and the next report would
change `RadioModem`'s state to `x` while every report after it reads the other level:
`mainImpl` adds the sinks still missing; the reader handles that report and is preempted
before its indication; a `setRadioPower` for the other level runs to its end (writing it,
querying, setting the state and indicating it); then the reader sends its indication of `x`,
and the reports left change nothing. The requester got success, the modem and `RadioModem`
settle on the other level, and the last indication the framework got is `x`. -/
theorem radioStateChanged_stale {x : Bool} {rest : List Bool} {s : System}
    (hw : s.worker = .idle) (hr : s.reader = .idle)
    (hq : s.requests = []) (hrep : s.reports = x :: rest)
    (hchanged : s.modemState ≠ radioStateOf x) (hrest : ∀ y ∈ rest, y ≠ x) :
    ∃ s', Relation.ReflTransGen Step s s' ∧ s'.acks = s.acks ++ [.setRadioPower !x] ∧
      s'.worker = .idle ∧ s'.reader = .idle ∧ s'.reports = [] ∧ s'.power = !x ∧
      s'.modemState = radioStateOf s'.power ∧
      s'.indications.getLast? = some (radioStateOf x) := by
  let s₀ : System := { s with main := max s.main 5 }
  have hrun₀ : Relation.ReflTransGen Step s s₀ := toAllSinks hr
  have hm : 5 ≤ s₀.main := le_max_right _ _
  have hch : (s₀.modemState != radioStateOf x) = true := bne_iff_ne.2 hchanged
  let s₁ : System := { s₀ with
    reports := rest, modemState := radioStateOf x, reader := .handled x true,
    requests := s.requests ++ [.setRadioPower !x] }
  have hrun₁ : Relation.ReflTransGen Step s₀ s₁ := by
    have h₁ := Step.handle (s := s₀) hr hrep (by omega)
    rw [hch] at h₁
    exact (Relation.ReflTransGen.single h₁).tail (Step.queue (by show 2 ≤ s₀.main; omega) _)
  have hq₁ : s₁.requests = [.setRadioPower !x] := by
    show s.requests ++ _ = _
    rw [hq, List.nil_append]
  have hs : (PowerRequest.setRadioPower !x).powerOn ≠ (s₁.modemState == .ON) := by
    show (!x) ≠ (radioStateOf x == .ON)
    cases x <;> decide
  let s₂ : System := { s₁ with
    reports := rest ++ [!x], requests := [], power := !x, worker := .idle, reader := .idle,
    modemState := radioStateOf !x, networkState := radioStateOf x, simState := radioStateOf x,
    indications := s.indications ++ [radioStateOf !x] ++ [radioStateOf x],
    acks := s.acks ++ [.setRadioPower !x] }
  have hrun₂ : Relation.ReflTransGen Step s₁ s₂ := by
    have h := ((((Relation.ReflTransGen.single (Step.writePower (s := s₁) hw hq₁ hs)).tail
      (Step.query rfl)).tail (Step.update rfl)).tail (Step.indicate rfl)).tail
      (Step.broadcastRest rfl hm)
    exact h
  have hrun₃ : Relation.ReflTransGen Step s₂ { s₂.broadcastAll (rest ++ [!x]) with reports := [] } :=
    drain (rest ++ [!x]) rfl (List.append_nil _).symm hm
  have hquiet : ∀ y ∈ rest ++ [!x], radioStateOf y = s₂.modemState := by
    intro y hy
    rcases List.mem_append.1 hy with hy | hy
    · rw [show y = !x by cases x <;> cases y <;> simp_all]
    · rw [List.mem_singleton.1 hy]
  obtain ⟨-, hw₃, -, hp₃, hack₃, -⟩ := broadcastAll_frame s₂ (rest ++ [!x])
  have hm₃ := (broadcastAll_copies s₂ (List.getLast?_concat (l := rest) (a := !x))).1
  refine ⟨_, hrun₀.trans (hrun₁.trans (hrun₂.trans hrun₃)), hack₃, hw₃,
    broadcastAll_reader (s := s₂) rfl _, rfl, hp₃, hm₃.trans (congrArg radioStateOf hp₃.symm), ?_⟩
  show (s₂.broadcastAll (rest ++ [!x])).indications.getLast? = _
  rw [broadcastAll_indications, changes_of_same hquiet, List.append_nil, List.getLast?_concat]

/-- From the sinks added and the init sequence run with the modem off: the modem reports
`OFF` on its own, then `setRadioPower(true)` runs to its end, and the reader is behind. -/
theorem radioStateChanged_stale_after_report :
    let w : System := ⟨true, [false, true], [], .idle, .idle, .ON, .OFF, .OFF, [.ON],
      [.setRadioPower true], 5, false⟩
    Reachable false w ∧ w.worker = .idle ∧ w.reader = .idle ∧ w.requests = [] ∧
      w.reports = false :: [true] ∧ w.modemState ≠ radioStateOf false ∧
      (∀ y ∈ [true], y ≠ false) ∧
      ∃ s', Relation.ReflTransGen Step w s' ∧ s'.acks = w.acks ++ [.setRadioPower !false] ∧
        s'.worker = .idle ∧ s'.reader = .idle ∧ s'.reports = [] ∧ s'.power = !false ∧
        s'.modemState = radioStateOf s'.power ∧
        s'.indications.getLast? = some (radioStateOf false) := by
  intro w
  have hreach : Reachable false w := by
    have h := (((((afterInit_reachable.tail (Step.report nofun)).tail
      (Step.queue (by decide) (.setRadioPower true))).tail
      (Step.writePower rfl rfl (by decide))).tail (Step.query rfl)).tail (Step.update rfl)).tail
      (Step.indicate rfl)
    exact h
  have hrest : ∀ y ∈ [true], y ≠ false := by decide
  exact ⟨hreach, rfl, rfl, rfl, rfl, by decide, hrest,
    radioStateChanged_stale rfl rfl rfl rfl (by decide) hrest⟩

end RadioPower

end GoldfishRadio
