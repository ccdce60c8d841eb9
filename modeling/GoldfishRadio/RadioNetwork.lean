import GoldfishRadio.RatUtils

/-!
# RadioNetwork's caches

Each `handleUnsolicited` overload updates the members guarded by `mMtx` and sends
indications once `setResponseFunctions` has set `mRadioNetworkIndication`; the request
handlers answer from copies of the members. No function reads `mCgreg` or
`mSecondaryBandwidth`, and `mCtzvTimestamp` is replayed before any `+CTZV` has set it.
-/

namespace GoldfishRadio

namespace RadioNetwork

open AtResponse RatUtils

/-- `RegState::REG_HOME`. -/
def REG_HOME : Int := 1

/-- `CellConnectionStatus::PRIMARY_SERVING` and `SECONDARY_SERVING`. -/
def PRIMARY_SERVING : Int := 1
def SECONDARY_SERVING : Int := 2

/-- `COPS::OperatorInfo::isCurrent`: the state is `State::CURRENT`. -/
def isCurrent (o : COPS.OperatorInfo) : Bool := o.state == 2

/-- `CTEC::getCurrentModemTechnology` as RadioData.cpp defines it: the lowest group bit set
in the first value read as a decimal `int`; none for no value, more than two, `DONE`, a value
`from_chars` does not read whole, or no group bit. -/
def getCurrentModemTechnology (ctec : CTEC) : Option ModemTechnology :=
  match ctec.values with
  | [] => none
  | v :: rest =>
    if 1 < rest.length ∨ (rest = [] ∧ v = "DONE".toList) then none
    else match fromChars 10 v with
      | some (mtech, []) =>
        ((List.range 7).find? fun i => ((mtech % 2 ^ 32).toNat).testBit i).map fun i => ⟨i⟩
      | _ => none

/-- A `CellIdentity`, kept as the arguments its maker takes. -/
inductive CellIdentity
  | gsm (operatorInfo : COPS.OperatorInfo) (areaCode cellId : Int)
  | wcdma (operatorInfo : COPS.OperatorInfo) (areaCode cellId : Int)
  | cdma (operatorInfo : COPS.OperatorInfo)
  | tdscdma (operatorInfo : COPS.OperatorInfo) (areaCode cellId : Int)
  | lte (operatorInfo : COPS.OperatorInfo) (areaCode cellId : Int)
  | nr (operatorInfo : COPS.OperatorInfo) (areaCode : Int)

/-- `getCellIdentityImpl` for a known operator: the identity of the technology's kind,
`INTERNAL_ERR` for `EVDO` and for a value past the enumerators. -/
def getCellIdentityImpl (operatorInfo : COPS.OperatorInfo) (mtech : ModemTechnology)
    (areaCode cellId : Int) : Except RadioError CellIdentity :=
  match mtech.val with
  | 0 => .ok (.gsm operatorInfo areaCode cellId)
  | 1 => .ok (.wcdma operatorInfo areaCode cellId)
  | 2 => .ok (.cdma operatorInfo)
  | 4 => .ok (.tdscdma operatorInfo areaCode cellId)
  | 5 => .ok (.lte operatorInfo areaCode cellId)
  | 6 => .ok (.nr operatorInfo areaCode)
  | _ => .error .INTERNAL_ERR

/-- A `CellInfo`: `registered`, the identity, and the signal strength of `+CSQ`;
`connectionStatus` is always `PRIMARY_SERVING`. -/
structure CellInfo where
  registered : Bool
  cellIdentity : CellIdentity
  signalStrength : CSQ

/-- `buildCellInfo`; its `default` arm is for a tag no identity of the model has. -/
def buildCellInfo (registered : Bool) (cellIdentity : CellIdentity) (signalStrength : CSQ) :
    CellInfo :=
  ⟨registered, cellIdentity, signalStrength⟩

/-- The fields of the `PhysicalChannelConfig` the `CGFPCCFG` overload sends. -/
structure PhysicalChannelConfig where
  status : Int
  rat : RadioTechnology
  downlinkChannelNumber : Int
  uplinkChannelNumber : Int
  cellBandwidthDownlinkKhz : Int
  cellBandwidthUplinkKhz : Int
  physicalCellId : Int
  contextIds : List Int

structure LinkCapacityEstimate where
  downlinkCapacityKbps : Int
  uplinkCapacityKbps : Int
  secondaryDownlinkCapacityKbps : Int
  secondaryUplinkCapacityKbps : Int

/-- The members of `RadioNetwork` that the `handleUnsolicited` overloads and
`setResponseFunctions` read or write. -/
structure Cache where
  mRadioState : RadioState
  mCreg : Registration
  mCgreg : Registration
  mCsq : CSQ
  mCurrentOperator : Option COPS.OperatorInfo
  /-- The class declares `mCurrentModemTech`; the overloads of the source file write and read
  it as the first element of a pair `mCurrentRadio`, whose second element nothing reads. -/
  mCurrentModemTech : Option ModemTechnology
  mCtzv : CTZV
  /-- `none` until a `+CTZV` record writes it: the constructor leaves the `int64_t`
  uninitialized. -/
  mCtzvTimestamp : Option Int
  mPrimaryBandwidth : Int
  mSecondaryBandwidth : Int
  /-- Whether `mRadioNetworkIndication` is set. -/
  indication : Bool
  /-- What `elapsedRealtime()` returns. -/
  now : Int

/-- A `RadioNetwork` as constructed. -/
def Cache.init : Cache := ⟨.OFF, {}, {}, {}, none, none, {}, none, 0, 0, false, 0⟩

/-- The indications of `IRadioNetworkIndication` the caches lead to. -/
inductive Indication
  | networkStateChanged
  | imsNetworkStateChanged
  /-- `currentSignalStrength(csq.toSignalStrength())`, kept as the record. -/
  | currentSignalStrength (csq : CSQ)
  | cellInfoList (cellInfos : List CellInfo)
  | currentPhysicalChannelConfigs (configs : List PhysicalChannelConfig)
  | currentLinkCapacityEstimate (lce : LinkCapacityEstimate)
  /-- `nitzTimeReceived(ctzv.nitzString(), receivedTimeMs, 0)`, kept as the record. -/
  | nitzTimeReceived (ctzv : CTZV) (receivedTimeMs : Option Int)

/-- The pair of indications a change of registration sends. -/
def networkChanged : List Indication := [.networkStateChanged, .imsNetworkStateChanged]

/-- The cells the `CSQ` overload reports: one when the operator and the technology are known
and the technology has an identity. -/
def cellInfos (c : Cache) (csq : CSQ) : List CellInfo :=
  match c.mCurrentOperator, c.mCurrentModemTech with
  | some op, some mtech =>
    match getCellIdentityImpl op mtech c.mCreg.areaCode c.mCreg.cellId with
    | .ok cellIdentity => [buildCellInfo (c.mCreg.state == REG_HOME) cellIdentity csq]
    | .error _ => []
  | _, _ => []

/-- What the `CSQ` overload sends while the radio is on. -/
def csqIndications (c : Cache) (csq : CSQ) : List Indication :=
  .currentSignalStrength csq ::
    if (cellInfos c csq).isEmpty then [] else [.cellInfoList (cellInfos c csq)]

/-- The `CGFPCCFG` overload: the bandwidth goes to `mPrimaryBandwidth` for the primary cell
and to `mSecondaryBandwidth` otherwise. -/
def handleCgfpccfg (c : Cache) (cfg : CGFPCCFG) : Cache × List Indication :=
  let primary := cfg.status == PRIMARY_SERVING
  let primaryBandwidth := if primary then 0 else c.mPrimaryBandwidth
  let secondaryBandwidth := if primary then 0 else cfg.bandwidth
  let config : PhysicalChannelConfig :=
    ⟨cfg.status, currentRadioTechnology ⟨cfg.mtech⟩, 1, 2, cfg.bandwidth, cfg.bandwidth.tdiv 2,
      c.mCreg.cellId, [cfg.contextId]⟩
  let lce : LinkCapacityEstimate :=
    ⟨primaryBandwidth * 3, primaryBandwidth, secondaryBandwidth * 3, secondaryBandwidth⟩
  ({ c with
      mPrimaryBandwidth := if primary then cfg.bandwidth else c.mPrimaryBandwidth
      mSecondaryBandwidth := if primary then c.mSecondaryBandwidth else cfg.bandwidth },
    if c.indication then
      .currentPhysicalChannelConfigs [config] ::
        if cfg.status == SECONDARY_SERVING then [.currentLinkCapacityEstimate lce] else []
    else [])

/-- The `handleUnsolicited` overload of a response's record, with the indications it sends. -/
def handleUnsolicited (c : Cache) (v : Value) : Cache × List Indication :=
  match v with
  | .CFUN cfun => ({ c with mRadioState := cfun.state }, [])
  | .CREG creg =>
    ({ c with mCreg := creg },
      if c.mCreg.state != creg.state && c.indication then networkChanged else [])
  | .CGREG cgreg => ({ c with mCgreg := cgreg }, [])
  | .CSQ csq =>
    ({ c with mCsq := csq },
      if c.mRadioState == .ON && c.indication then csqIndications c csq else [])
  | .COPS cops =>
    ({ c with
        mCurrentOperator := match cops.operators with
          | [op] => if isCurrent op then some op else c.mCurrentOperator
          | _ => c.mCurrentOperator }, [])
  | .CTEC ctec =>
    ({ c with
        mCurrentModemTech :=
          if ctec.values.length = 2 then getCurrentModemTechnology ctec else c.mCurrentModemTech },
      [])
  | .CGFPCCFG cfg => handleCgfpccfg c cfg
  | .CTZV ctzv =>
    ({ c with mCtzv := ctzv, mCtzvTimestamp := some c.now },
      if c.indication then [.nitzTimeReceived ctzv (some c.now)] else [])
  | _ => (c, [])

/-- `setResponseFunctions`: sets the interfaces, then, if the radio is on, replays the
network state, the last signal strength and the last time zone. -/
def setResponseFunctions (c : Cache) : Cache × List Indication :=
  ({ c with indication := true },
    if c.mRadioState == .ON then
      [.networkStateChanged, .currentSignalStrength c.mCsq,
        .nitzTimeReceived c.mCtzv c.mCtzvTimestamp]
    else [])

/-- What reaches the caches: a response the reader passes to `atResponseSink`, the
framework's `setResponseFunctions` on a binder thread, or time passing. A response and
`setResponseFunctions` each take `mMtx` once, so a run is a sequence of these in any
interleaving of the threads. -/
inductive Event
  | response (v : Value)
  | setResponseFunctions
  | elapse (ms : Nat)

def step (c : Cache) : Event → Cache × List Indication
  | .response v => handleUnsolicited c v
  | .setResponseFunctions => setResponseFunctions c
  | .elapse ms => ({ c with now := c.now + ms }, [])

/-- A run of events: the final cache and the indications sent, in order. -/
def run (c : Cache) : List Event → Cache × List Indication
  | [] => (c, [])
  | e :: es => ((run (step c e).1 es).1, (step c e).2 ++ (run (step c e).1 es).2)

/-- What a registration handler copies under `mMtx`: `regState`, `areaCode`, `cellId`. -/
def regStateOf (r : Registration) : Int × Int × Int := (r.state, r.areaCode, r.cellId)

def getVoiceRegistrationState (c : Cache) : Int × Int × Int := regStateOf c.mCreg

/-- `getDataRegistrationState`'s locked section: it reads `mCreg` too. -/
def getDataRegistrationState (c : Cache) : Int × Int × Int := regStateOf c.mCreg

def getBarringInfo (c : Cache) : Int × Int := (c.mCreg.areaCode, c.mCreg.cellId)

/-- `getCellInfoList`'s locked section: the signal, the area code, the cell id and whether
the registration is `REG_HOME`. -/
def getCellInfoList (c : Cache) : CSQ × Int × Int × Bool :=
  (c.mCsq, c.mCreg.areaCode, c.mCreg.cellId, c.mCreg.state == REG_HOME)

def getSignalStrength (c : Cache) : CSQ × RadioError :=
  (c.mCsq, if c.mRadioState == .ON then .NONE else .RADIO_NOT_AVAILABLE)

/-- Everything the request handlers copy under `mMtx`. -/
def lockedReads (c : Cache) :=
  (getVoiceRegistrationState c, getDataRegistrationState c, getBarringInfo c, getCellInfoList c,
    getSignalStrength c)

def Event.isCgreg : Event → Bool
  | .response (.CGREG _) => true
  | _ => false

/-- The cache without the two members nothing reads. -/
def Cache.sansUnread (c : Cache) : Cache := { c with mCgreg := {}, mSecondaryBandwidth := 0 }

theorem lockedReads_sansUnread (c : Cache) : lockedReads c.sansUnread = lockedReads c := rfl

theorem step_sansUnread (c : Cache) (e : Event) :
    (step c.sansUnread e).1.sansUnread = (step c e).1.sansUnread ∧
      (step c.sansUnread e).2 = (step c e).2 := by
  cases e with
  | response v =>
    simp only [step, handleUnsolicited]
    split <;> exact ⟨rfl, rfl⟩
  | _ => exact ⟨rfl, rfl⟩

theorem Event.eq_cgreg {e : Event} (he : e.isCgreg = true) : ∃ g, e = .response (.CGREG g) := by
  unfold Event.isCgreg at he
  split at he
  · exact ⟨_, rfl⟩
  · exact absurd he Bool.noConfusion

theorem step_cgreg (c : Cache) {e : Event} (he : e.isCgreg = true) :
    (step c e).1.sansUnread = c.sansUnread ∧ (step c e).2 = [] := by
  obtain ⟨g, rfl⟩ := Event.eq_cgreg he
  exact ⟨rfl, rfl⟩

theorem step_congr {c d : Cache} (h : c.sansUnread = d.sansUnread) (e : Event) :
    (step c e).1.sansUnread = (step d e).1.sansUnread ∧ (step c e).2 = (step d e).2 := by
  obtain ⟨hc₁, hc₂⟩ := step_sansUnread c e
  obtain ⟨hd₁, hd₂⟩ := step_sansUnread d e
  rw [h] at hc₁ hc₂
  exact ⟨hc₁.symm.trans hd₁, hc₂.symm.trans hd₂⟩

/-- A run, and the same run without its `+CGREG` records from a cache that differs in the
unread members alone, send the same indications and still differ in those members alone. -/
theorem run_filter_cgreg {c d : Cache} (h : c.sansUnread = d.sansUnread) (es : List Event) :
    (run c es).1.sansUnread = (run d (es.filter fun e => !e.isCgreg)).1.sansUnread ∧
      (run c es).2 = (run d (es.filter fun e => !e.isCgreg)).2 := by
  induction es generalizing c d with
  | nil => exact ⟨h, rfl⟩
  | cons e es ih =>
    cases he : e.isCgreg with
    | true =>
      obtain ⟨h₁, h₂⟩ := step_cgreg c he
      rw [List.filter_cons_of_neg (by simp [he]), run, h₂, List.nil_append]
      exact ih (h₁.trans h)
    | false =>
      obtain ⟨h₁, h₂⟩ := step_congr h e
      rw [List.filter_cons_of_pos (by simp [he]), run, run, h₂]
      obtain ⟨ih₁, ih₂⟩ := ih h₁
      exact ⟨ih₁, by rw [ih₂]⟩

/-- **Nothing reads `mCgreg` or `mSecondaryBandwidth`.** Take two caches that differ at most
in those two members, and two runs with the same events once their `+CGREG` records are
dropped. Both runs send the framework the same indications, end in caches that still differ
at most in those members, and give every request handler the same copies under `mMtx`: the
packet-switched registration the modem reports never reaches the framework. -/
theorem cgreg_never_read {c d : Cache} (h : c.sansUnread = d.sansUnread) {es es' : List Event}
    (hes : es.filter (fun e => !e.isCgreg) = es'.filter fun e => !e.isCgreg) :
    (run c es).2 = (run d es').2 ∧ (run c es).1.sansUnread = (run d es').1.sansUnread ∧
      lockedReads (run c es).1 = lockedReads (run d es').1 := by
  obtain ⟨hc₁, hc₂⟩ := run_filter_cgreg h es
  obtain ⟨hd₁, hd₂⟩ := run_filter_cgreg rfl es'
  rw [hes] at hc₁ hc₂
  have hsans : (run c es).1.sansUnread = (run d es').1.sansUnread := hc₁.trans hd₁.symm
  refine ⟨hc₂.trans hd₂.symm, hsans, ?_⟩
  rw [← lockedReads_sansUnread, hsans, lockedReads_sansUnread]

/-- `+CGREG: 5` then `+CFUN: ON`, against `+CFUN: ON` alone from a cache whose `mCgreg` and
`mSecondaryBandwidth` differ. -/
theorem cgreg_never_read_roaming :
    let d : Cache := { Cache.init with mCgreg := { state := 5 }, mSecondaryBandwidth := 20 }
    let es : List Event := [.response (.CGREG { state := 5 }), .response (.CFUN ⟨.ON⟩)]
    let es' : List Event := [.response (.CFUN ⟨.ON⟩)]
    Cache.init.sansUnread = d.sansUnread ∧
      es.filter (fun e => !e.isCgreg) = es'.filter (fun e => !e.isCgreg) ∧
      (run Cache.init es).2 = (run d es').2 ∧
      (run Cache.init es).1.sansUnread = (run d es').1.sansUnread ∧
      lockedReads (run Cache.init es).1 = lockedReads (run d es').1 := by
  intro d es es'
  have h : Cache.init.sansUnread = d.sansUnread := rfl
  have hes : es.filter (fun e => !e.isCgreg) = es'.filter (fun e => !e.isCgreg) := rfl
  exact ⟨h, hes, cgreg_never_read h hes⟩

def Event.isCtzv : Event → Bool
  | .response (.CTZV _) => true
  | _ => false

theorem step_mCtzv (c : Cache) {e : Event} (he : e.isCtzv = false) :
    (step c e).1.mCtzv = c.mCtzv ∧ (step c e).1.mCtzvTimestamp = c.mCtzvTimestamp := by
  cases e with
  | response v => cases v <;> first | exact ⟨rfl, rfl⟩ | exact absurd he Bool.noConfusion
  | _ => exact ⟨rfl, rfl⟩

theorem run_mCtzv (c : Cache) {es : List Event} (hes : ∀ e ∈ es, e.isCtzv = false) :
    (run c es).1.mCtzv = c.mCtzv ∧ (run c es).1.mCtzvTimestamp = c.mCtzvTimestamp := by
  induction es generalizing c with
  | nil => exact ⟨rfl, rfl⟩
  | cons e es ih =>
    obtain ⟨h₁, h₂⟩ := step_mCtzv c (hes e (List.mem_cons_self e es))
    obtain ⟨ih₁, ih₂⟩ := ih (step c e).1 fun e' he' => hes e' (List.mem_cons_of_mem e he')
    exact ⟨ih₁.trans h₁, ih₂.trans h₂⟩

/-- **`setResponseFunctions` can replay a time zone the modem never sent.** Over every run
from a fresh `RadioNetwork` with no `+CTZV` record, if the radio is on when the framework
sets its interfaces, the `nitzTimeReceived` replayed carries the default-constructed `CTZV`
and the `mCtzvTimestamp` the constructor left uninitialized. -/
theorem nitz_replay_uninitialized {es : List Event} (hes : ∀ e ∈ es, e.isCtzv = false)
    (hon : (run Cache.init es).1.mRadioState = .ON) :
    .nitzTimeReceived {} none ∈ (setResponseFunctions (run Cache.init es).1).2 := by
  obtain ⟨h₁, h₂⟩ := run_mCtzv Cache.init hes
  simp only [setResponseFunctions, hon, h₁, h₂]
  exact List.mem_cons_of_mem _ (List.mem_cons_of_mem _ (List.mem_singleton_self _))

/-- The modem reports the radio on and the framework sets its interfaces. -/
theorem nitz_replay_uninitialized_after_cfun :
    (∀ e ∈ [Event.response (.CFUN ⟨.ON⟩)], e.isCtzv = false) ∧
      (run Cache.init [.response (.CFUN ⟨.ON⟩)]).1.mRadioState = .ON ∧
      .nitzTimeReceived {} none ∈
        (setResponseFunctions (run Cache.init [.response (.CFUN ⟨.ON⟩)]).1).2 :=
  have hes : ∀ e ∈ [Event.response (.CFUN ⟨.ON⟩)], e.isCtzv = false := by decide
  have hon : (run Cache.init [.response (.CFUN ⟨.ON⟩)]).1.mRadioState = .ON := rfl
  ⟨hes, hon, nitz_replay_uninitialized hes hon⟩

/-- The registration state a response's record reports, if it is a `+CREG` record. -/
def cregState? : Value → Option Int
  | .CREG creg => some creg.state
  | _ => none

/-- The signal a response's record reports, if it is a `+CSQ` record. -/
def csq? : Value → Option CSQ
  | .CSQ csq => some csq
  | _ => none

/-- The radio state after a response: a `+CFUN` record's, else `r`. -/
def radioStateAfter (r : RadioState) : Value → RadioState
  | .CFUN cfun => cfun.state
  | _ => r

/-- How many times a sequence of registration states moves to another state, from `s`. -/
def stateChanges (s : Int) : List Int → Nat
  | [] => 0
  | t :: ts => (if s = t then 0 else 1) + stateChanges t ts

theorem stateChanges_option_append (s : Int) (o : Option Int) (ts : List Int) :
    stateChanges s (o.toList ++ ts) = stateChanges s o.toList + stateChanges (o.getD s) ts := by
  cases o <;> simp [stateChanges]

/-- The `+CSQ` records of a sequence of responses that arrive while the last `+CFUN` (`r`
before the first) reads `ON`. -/
def signalsWhileOn (r : RadioState) : List Value → List CSQ
  | [] => []
  | v :: vs => (if r = .ON then (csq? v).toList else []) ++ signalsWhileOn (radioStateAfter r v) vs

def Indication.isNetwork : Indication → Bool
  | .networkStateChanged | .imsNetworkStateChanged => true
  | _ => false

def Indication.signal? : Indication → Option CSQ
  | .currentSignalStrength csq => some csq
  | _ => none

/-- What one response does to the members the indications depend on, and what it sends. -/
theorem handleUnsolicited_spec (c : Cache) (hc : c.indication = true) (v : Value) :
    (handleUnsolicited c v).1.indication = true ∧
      (handleUnsolicited c v).1.mCreg.state = (cregState? v).getD c.mCreg.state ∧
      (handleUnsolicited c v).1.mRadioState = radioStateAfter c.mRadioState v ∧
      (handleUnsolicited c v).2.filter Indication.isNetwork =
        (List.replicate (stateChanges c.mCreg.state (cregState? v).toList) networkChanged).flatten ∧
      (handleUnsolicited c v).2.filterMap Indication.signal? =
        if c.mRadioState = .ON then (csq? v).toList else [] := by
  cases v
  case CREG creg =>
    by_cases h : c.mCreg.state = creg.state <;>
      simp [handleUnsolicited, h, hc, cregState?, radioStateAfter, csq?, stateChanges,
        networkChanged, Indication.isNetwork, Indication.signal?]
  case CSQ csq =>
    by_cases h : c.mRadioState = .ON <;>
      simp [handleUnsolicited, h, hc, cregState?, radioStateAfter, csq?, stateChanges,
        csqIndications, Indication.isNetwork, Indication.signal?]
  case CGFPCCFG cfg =>
    refine ⟨hc, rfl, rfl, ?_, ?_⟩ <;> simp only [handleUnsolicited, handleCgfpccfg, hc, if_true] <;>
      split <;> first | rfl | exact (ite_self _).symm
  case CTZV ctzv =>
    refine ⟨hc, rfl, rfl, ?_, ?_⟩ <;> simp only [handleUnsolicited, hc, if_true] <;>
      first | rfl | exact (ite_self _).symm
  all_goals exact ⟨hc, rfl, rfl, rfl, (ite_self _).symm⟩

/-- **The framework hears of every change of registration, once, and of every signal while
the radio is on.** From every cache whose indication interface is set, over every sequence of
responses the reader delivers, the `networkStateChanged` and `imsNetworkStateChanged` pairs
are as many as the changes of state along the `+CREG` records, and the signal strengths sent
are the `+CSQ` records that arrive while the last `+CFUN` reads `ON`. -/
theorem indications_follow_changes (c : Cache) (hc : c.indication = true) (vs : List Value) :
    (run c (vs.map .response)).2.filter Indication.isNetwork =
        (List.replicate (stateChanges c.mCreg.state (vs.filterMap cregState?))
          networkChanged).flatten ∧
      (run c (vs.map .response)).2.filterMap Indication.signal? = signalsWhileOn c.mRadioState vs := by
  induction vs generalizing c with
  | nil => exact ⟨rfl, rfl⟩
  | cons v vs ih =>
    obtain ⟨hi, hcreg, hfun, hnet, hsig⟩ := handleUnsolicited_spec c hc v
    obtain ⟨ih₁, ih₂⟩ := ih _ hi
    have hfm :
        (v :: vs).filterMap cregState? = (cregState? v).toList ++ vs.filterMap cregState? := by
      cases h : cregState? v <;> simp [List.filterMap_cons, h]
    refine ⟨?_, ?_⟩
    · rw [List.map_cons, run, List.filter_append, step, hnet, ih₁, hcreg, hfm,
        stateChanges_option_append, List.replicate_add, List.flatten_append]
    · rw [List.map_cons, run, List.filterMap_append, step, hsig, ih₂, hfun, signalsWhileOn]

/-- After `setResponseFunctions`: a `+CREG` that registers, the radio turned on, a signal
report, the same registration again and a `+CGREG`. -/
theorem indications_follow_changes_after_registration :
    (setResponseFunctions Cache.init).1.indication = true ∧
      (run (setResponseFunctions Cache.init).1 ([.CREG { state := 1 }, .CFUN ⟨.ON⟩, .CSQ {},
          .CREG { state := 1 }, .CGREG { state := 5 }].map .response)).2.filter
          Indication.isNetwork =
        (List.replicate (stateChanges (setResponseFunctions Cache.init).1.mCreg.state
          ([.CREG { state := 1 }, .CFUN ⟨.ON⟩, .CSQ {}, .CREG { state := 1 },
            .CGREG { state := 5 }].filterMap cregState?)) networkChanged).flatten ∧
      (run (setResponseFunctions Cache.init).1 ([.CREG { state := 1 }, .CFUN ⟨.ON⟩, .CSQ {},
          .CREG { state := 1 }, .CGREG { state := 5 }].map .response)).2.filterMap
          Indication.signal? =
        signalsWhileOn (setResponseFunctions Cache.init).1.mRadioState
          [.CREG { state := 1 }, .CFUN ⟨.ON⟩, .CSQ {}, .CREG { state := 1 }, .CGREG { state := 5 }] :=
  ⟨rfl, indications_follow_changes _ rfl _⟩

end RadioNetwork

end GoldfishRadio
