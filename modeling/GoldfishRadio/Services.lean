import GoldfishRadio.AtResponse.Basic

/-!
# The services and their response sinks

`mainImpl` registers ten services and then adds one sink per service; `broadcastResponse`
calls every sink in the order added and erases those that return `false`. Every sink whose
service is alive gets every response, once and in order. The check after
`registerService<RadioSim>` reads `radioNetwork`, so a `RadioSim` that fails to register
leaves the process serving, and `RadioSim` never sees a response.
-/

namespace GoldfishRadio

namespace Services

open AtResponse

/-- The services `mainImpl` registers. -/
inductive Service
  | ImsMedia | RadioConfig | RadioData | RadioIms | RadioMessaging | RadioModem
  | RadioNetwork | RadioSim | RadioVoice | Sap
  deriving DecidableEq

/-- One `registerService<S>` of `mainImpl` and the `if (!…) return EXIT_FAILURE;` after
it: the service it registers and the pointer the check reads. -/
structure Registration where
  service : Service
  checked : Service

/-- A registration whose check reads the pointer it has just made. -/
def Registration.ofService (s : Service) : Registration := ⟨s, s⟩

/-- `mainImpl`'s registrations, in order. The one of `RadioSim` checks `radioNetwork`. -/
def registrations : List Registration :=
  [.ofService .ImsMedia, .ofService .RadioConfig, .ofService .RadioData, .ofService .RadioIms,
   .ofService .RadioMessaging, .ofService .RadioModem, .ofService .RadioNetwork,
   ⟨.RadioSim, .RadioNetwork⟩, .ofService .RadioVoice, .ofService .Sap]

/-- `registerService`: the service's pointer, or `nullptr` when `AServiceManager_addService`
fails (the object it made then goes with its last reference). `added` says which
`AServiceManager_addService` calls succeed. -/
def registerService (added : Service → Bool) (s : Service) : Option Service :=
  if added s then some s else none

/-- What `mainImpl` comes to: `EXIT_FAILURE` from a check, or the binder thread pool
serving, with the channel's sinks over the services' pointers in the order added. -/
inductive MainOutcome
  | exitFailure
  | serving (sinks : List (Option Service))

/-- `mainImpl` from its first `registerService` on: the checks in order, then one
`addResponseSink` per service. -/
def mainImpl (added : Service → Bool) : MainOutcome :=
  if registrations.all fun reg => (registerService added reg.checked).isSome then
    .serving (registrations.map fun reg => registerService added reg.service)
  else
    .exitFailure

/-- The sink `addResponseSink` makes over a service pointer: while its `weak_ptr` locks it
passes the response to the service's `atResponseSink` and returns `true`. A `nullptr` gives
an empty `weak_ptr`, which never locks. `alive` says which service objects exist. -/
def responseSink (alive : Service → Bool) : Option Service → Bool
  | some s => alive s
  | none => false

/-- `broadcastResponse` after `mConversation.send`: `std::remove_if` calls every sink once,
in order, and keeps in order those that returned `true`. Returns the sinks kept and the
services whose `atResponseSink` got the response (ghost). -/
def broadcastResponse (alive : Service → Bool) (sinks : List (Option Service))
    (r : AtResponse) : List (Option Service) × List (Service × AtResponse) :=
  (sinks.filter (responseSink alive), (sinks.filterMap fun p => p.filter alive).map (·, r))

/-- The reader's broadcasts of a list of responses, from the given sinks. -/
def broadcastAll (alive : Service → Bool) :
    List (Option Service) → List AtResponse → List (Option Service) × List (Service × AtResponse)
  | sinks, [] => (sinks, [])
  | sinks, r :: rs =>
    let (kept, got) := broadcastResponse alive sinks r
    let (final, later) := broadcastAll alive kept rs
    (final, got ++ later)

section Broadcast

variable (alive : Service → Bool)

/-- The services whose sinks lock, in the order of the sinks. -/
def liveServices (sinks : List (Option Service)) : List Service :=
  sinks.filterMap fun p => p.filter alive

theorem liveServices_filter (sinks : List (Option Service)) :
    liveServices alive (sinks.filter (responseSink alive)) = liveServices alive sinks := by
  induction sinks with
  | nil => rfl
  | cons p sinks ih =>
    cases p with
    | none => simpa [liveServices, responseSink] using ih
    | some s =>
      by_cases hs : alive s <;>
        simp_all [liveServices, responseSink, List.filter_cons, Option.filter]

/-- **Each response reaches every live sink once, in order.** Over a run of broadcasts the
services' `atResponseSink`s get, response after response, one call per sink that locks,
in the order the sinks were added; and the sinks left are those that lock. -/
theorem broadcastAll_delivers (sinks : List (Option Service)) (rs : List AtResponse) :
    (broadcastAll alive sinks rs).2 =
      rs.flatMap (fun r => (liveServices alive sinks).map (·, r)) ∧
    (rs ≠ [] → (broadcastAll alive sinks rs).1 = sinks.filter (responseSink alive)) := by
  induction rs generalizing sinks with
  | nil => exact ⟨rfl, fun h => absurd rfl h⟩
  | cons r rs ih =>
    obtain ⟨h2, h1⟩ := ih (sinks.filter (responseSink alive))
    refine ⟨?_, fun _ => ?_⟩
    · simp only [broadcastAll, broadcastResponse, h2, liveServices_filter, List.flatMap_cons]
      rfl
    · cases rs with
      | nil => rfl
      | cons r' rs =>
        simp only [broadcastAll, broadcastResponse] at h1 ⊢
        rw [h1 (List.cons_ne_nil _ _)]
        simp only [List.filter_filter, Bool.and_self]

/-- What one service's `atResponseSink` gets from the deliveries of a run. -/
def received (got : List (Service × AtResponse)) (s : Service) : List AtResponse :=
  (got.filter (·.1 == s)).map (·.2)

theorem received_append (a b : List (Service × AtResponse)) (s : Service) :
    received (a ++ b) s = received a s ++ received b s := by
  simp only [received, List.filter_append, List.map_append]

theorem received_map (l : List Service) (r : AtResponse) (s : Service) :
    received (l.map (·, r)) s = List.replicate (l.count s) r := by
  induction l with
  | nil => rfl
  | cons t l ih =>
    by_cases ht : t = s
    · subst ht
      simpa [received, List.count_cons, List.replicate_succ] using ih
    · simpa [received, List.count_cons, ht] using ih

/-- A service gets each response once per live sink over it. -/
theorem received_flatMap (l : List Service) (rs : List AtResponse) (s : Service) :
    received (rs.flatMap fun r => l.map (·, r)) s =
      rs.flatMap fun r => List.replicate (l.count s) r := by
  induction rs with
  | nil => rfl
  | cons r rs ih => rw [List.flatMap_cons, List.flatMap_cons, received_append, ih, received_map]

end Broadcast

@[simp] theorem registerService_isSome (added : Service → Bool) (s : Service) :
    (registerService added s).isSome = added s := by
  unfold registerService; cases added s <;> rfl

/-- The checks of `mainImpl` pass exactly when every service but `RadioSim` registered. -/
theorem registrations_checked_all (added : Service → Bool) :
    (registrations.all fun reg => (registerService added reg.checked).isSome) =
      (added .ImsMedia && (added .RadioConfig && (added .RadioData && (added .RadioIms &&
        (added .RadioMessaging && (added .RadioModem && (added .RadioNetwork &&
        (added .RadioVoice && added .Sap)))))))) := by
  simp only [registrations, Registration.ofService, registerService_isSome, List.all_cons,
    List.all_nil, Bool.and_true, Bool.and_self_left]

theorem registrations_pass_iff (added : Service → Bool) :
    (registrations.all fun reg => (registerService added reg.checked).isSome) = true ↔
      ∀ s, s ≠ .RadioSim → added s = true := by
  rw [registrations_checked_all]
  simp only [Bool.and_eq_true]
  constructor
  · rintro ⟨h1, h2, h3, h4, h5, h6, h7, h8, h9⟩ s hs
    cases s <;> first | assumption | exact absurd rfl hs
  · intro h
    exact ⟨h _ nofun, h _ nofun, h _ nofun, h _ nofun, h _ nofun, h _ nofun, h _ nofun,
      h _ nofun, h _ nofun⟩

/-- **`RadioSim` failing alone leaves the process serving with `RadioSim` deaf.** With every
other registration successful, `mainImpl` serves; its objects live as long as `mainImpl`,
which never leaves the thread pool, so every sink over a service locks. Over every run of
broadcasts, each other service's `atResponseSink` gets every response once and in order,
and `RadioSim`'s gets none: its `nullptr` sink is erased at the first broadcast. -/
theorem radioSim_unregistered_gets_nothing (added : Service → Bool)
    (hothers : ∀ s, s ≠ .RadioSim → added s = true) (hsim : added .RadioSim = false) :
    ∃ sinks, mainImpl added = .serving sinks ∧
      ∀ rs : List AtResponse,
        received (broadcastAll (fun _ => true) sinks rs).2 .RadioSim = [] ∧
        ∀ s, s ≠ .RadioSim → received (broadcastAll (fun _ => true) sinks rs).2 s = rs := by
  have hlive : liveServices (fun _ => true)
      (registrations.map fun reg => registerService added reg.service) =
      [.ImsMedia, .RadioConfig, .RadioData, .RadioIms, .RadioMessaging, .RadioModem,
        .RadioNetwork, .RadioVoice, .Sap] := by
    simp [liveServices, registrations, Registration.ofService, registerService, hsim,
      hothers]
  refine ⟨registrations.map fun reg => registerService added reg.service, ?_, fun rs => ?_⟩
  · rw [mainImpl, if_pos ((registrations_pass_iff added).2 hothers)]
  · rw [(broadcastAll_delivers _ _ rs).1, hlive]
    refine ⟨by rw [received_flatMap]; simp, fun s hs => ?_⟩
    have hc : [Service.ImsMedia, .RadioConfig, .RadioData, .RadioIms, .RadioMessaging,
        .RadioModem, .RadioNetwork, .RadioVoice, .Sap].count s = 1 := by
      cases s <;> first | rfl | exact absurd rfl hs
    rw [received_flatMap, hc]
    exact List.flatMap_singleton' rs

/-- Every registration but `RadioSim`'s succeeds. -/
theorem radioSim_unregistered_alone :
    (∀ s : Service, s ≠ .RadioSim → (s != .RadioSim) = true) ∧
      (Service.RadioSim != .RadioSim) = false ∧
      ∃ sinks, mainImpl (· != .RadioSim) = .serving sinks ∧
        ∀ rs : List AtResponse,
          received (broadcastAll (fun _ => true) sinks rs).2 .RadioSim = [] ∧
          ∀ s, s ≠ .RadioSim → received (broadcastAll (fun _ => true) sinks rs).2 s = rs :=
  have hothers : ∀ s : Service, s ≠ .RadioSim → (s != .RadioSim) = true :=
    fun _ hs => bne_iff_ne.2 hs
  ⟨hothers, rfl, radioSim_unregistered_gets_nothing _ hothers rfl⟩

end Services

end GoldfishRadio
