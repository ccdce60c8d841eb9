import GoldfishRadio.Format

/-!
# Radio technologies and the modem's technology groups

`ratUtils` maps `RadioTechnology` bitmasks to the modem's seven technology groups and back.
`setAllowedNetworkTypesBitmap` sends `AT+CTEC=<current>,"<mask>"` and then reports the
technology of the current group, whatever the modem answers.
-/

namespace GoldfishRadio

namespace RatUtils

open AtResponse Messaging

/-- `RadioTechnology` of the radio interface (an AIDL enum, with its values). -/
inductive RadioTechnology
  | UNKNOWN | GPRS | EDGE | UMTS | IS95A | IS95B | ONE_X_RTT | EVDO_0 | EVDO_A | HSDPA | HSUPA
  | HSPA | EVDO_B | EHRPD | LTE | HSPAP | GSM | TD_SCDMA | IWLAN | LTE_CA | NR
  deriving DecidableEq

def RadioTechnology.value : RadioTechnology → Nat
  | .UNKNOWN => 0 | .GPRS => 1 | .EDGE => 2 | .UMTS => 3 | .IS95A => 4 | .IS95B => 5
  | .ONE_X_RTT => 6 | .EVDO_0 => 7 | .EVDO_A => 8 | .HSDPA => 9 | .HSUPA => 10 | .HSPA => 11
  | .EVDO_B => 12 | .EHRPD => 13 | .LTE => 14 | .HSPAP => 15 | .GSM => 16 | .TD_SCDMA => 17
  | .IWLAN => 18 | .LTE_CA => 19 | .NR => 20

def ratbit (r : RadioTechnology) : UInt32 := 1 <<< r.value.toUInt32

/-- `ModemTechnology`, an `enum class` over `int`. `CGFPCCFG::parse` and `RadioModem` cast
integers the modem sends to it, so every `int` is a value of the type. -/
structure ModemTechnology where
  val : Int
  deriving DecidableEq

namespace ModemTechnology

def GSM : ModemTechnology := ⟨0⟩
def WCDMA : ModemTechnology := ⟨1⟩
def CDMA : ModemTechnology := ⟨2⟩
def EVDO : ModemTechnology := ⟨3⟩
def TDSCDMA : ModemTechnology := ⟨4⟩
def LTE : ModemTechnology := ⟨5⟩
def NR : ModemTechnology := ⟨6⟩

end ModemTechnology

def kGSM : UInt32 := ratbit .GSM ||| ratbit .GPRS ||| ratbit .EDGE
def kWCDMA : UInt32 :=
  ratbit .HSUPA ||| ratbit .HSDPA ||| ratbit .HSPA ||| ratbit .HSPAP ||| ratbit .UMTS
def kCDMA : UInt32 := ratbit .IS95A ||| ratbit .IS95B ||| ratbit .ONE_X_RTT
def kEVDO : UInt32 := ratbit .EVDO_0 ||| ratbit .EVDO_A ||| ratbit .EVDO_B ||| ratbit .EHRPD
def kTDSCDMA : UInt32 := ratbit .TD_SCDMA
def kLTE : UInt32 := ratbit .LTE
def kNR : UInt32 := ratbit .NR

/-- `static_cast<size_t>` of an `int`: a negative value wraps past every table's end. -/
def sizeT (v : Int) : Nat := (v % 2 ^ 64).toNat

/-- `supportedRadioTechBitmask`: the group's entry of `kTechsBitmask`, `0` past its end. -/
def supportedRadioTechBitmask (mtech : ModemTechnology) : UInt32 :=
  [kGSM, kWCDMA, kCDMA, kEVDO, kTDSCDMA, kLTE, kNR].getD (sizeT mtech.val) 0

/-- `currentRadioTechnology`: the group's entry of `kCurrentTech`, `EDGE` past its end. -/
def currentRadioTechnology (mtech : ModemTechnology) : RadioTechnology :=
  [RadioTechnology.EDGE, .HSPA, .IS95B, .EVDO_B, .TD_SCDMA, .LTE, .NR].getD (sizeT mtech.val) .EDGE

def modemTechnologyFromRadioTechnologyBitmask (radioTechnologyBitmask : UInt32) :
    ModemTechnology :=
  if radioTechnologyBitmask &&& kNR ≠ 0 then .NR
  else if radioTechnologyBitmask &&& kLTE ≠ 0 then .LTE
  else if radioTechnologyBitmask &&& kTDSCDMA ≠ 0 then .TDSCDMA
  else if radioTechnologyBitmask &&& kEVDO ≠ 0 then .EVDO
  else if radioTechnologyBitmask &&& kCDMA ≠ 0 then .CDMA
  else if radioTechnologyBitmask &&& kWCDMA ≠ 0 then .WCDMA
  else .GSM

/-- The `mtechBit` lambda of `modemTechnologyBitmaskFromRadioTechnologyBitmask`. -/
def mtechBit (mtech : ModemTechnology) : UInt32 := 1 <<< mtech.val.toNat.toUInt32

/-- `modemTechnologyBitmask |= mtechBit(mtech)` when the bitmask touches the group. -/
def orIfTouches (radioTechnologyBitmask group : UInt32) (mtech : ModemTechnology)
    (modemTechnologyBitmask : UInt32) : UInt32 :=
  if radioTechnologyBitmask &&& group ≠ 0 then modemTechnologyBitmask ||| mtechBit mtech
  else modemTechnologyBitmask

/-- `modemTechnologyBitmaskFromRadioTechnologyBitmask`: the groups in the order tested. -/
def modemTechnologyBitmaskFromRadioTechnologyBitmask (radioTechnologyBitmask : UInt32) :
    UInt32 :=
  let b := radioTechnologyBitmask
  orIfTouches b kGSM .GSM <| orIfTouches b kWCDMA .WCDMA <| orIfTouches b kCDMA .CDMA <|
    orIfTouches b kEVDO .EVDO <| orIfTouches b kTDSCDMA .TDSCDMA <| orIfTouches b kLTE .LTE <|
      orIfTouches b kNR .NR 0

/-- Both functions read a bitmask only through the groups it touches. -/
def touches (b : UInt32) : Bool × Bool × Bool × Bool × Bool × Bool × Bool :=
  (b &&& kNR ≠ 0, b &&& kLTE ≠ 0, b &&& kTDSCDMA ≠ 0, b &&& kEVDO ≠ 0, b &&& kCDMA ≠ 0,
    b &&& kWCDMA ≠ 0, b &&& kGSM ≠ 0)

def currentOfTouched : Bool × Bool × Bool × Bool × Bool × Bool × Bool → ModemTechnology
  | (nr, lte, td, evdo, cdma, wcdma, _) =>
    if nr then .NR else if lte then .LTE else if td then .TDSCDMA else if evdo then .EVDO
    else if cdma then .CDMA else if wcdma then .WCDMA else .GSM

def maskOfTouched : Bool × Bool × Bool × Bool × Bool × Bool × Bool → UInt32
  | (nr, lte, td, evdo, cdma, wcdma, gsm) =>
    let orIf (c : Bool) (m : ModemTechnology) (x : UInt32) := if c then x ||| mtechBit m else x
    orIf gsm .GSM <| orIf wcdma .WCDMA <| orIf cdma .CDMA <| orIf evdo .EVDO <|
      orIf td .TDSCDMA <| orIf lte .LTE <| orIf nr .NR 0

theorem modemTechnologyFromRadioTechnologyBitmask_eq (b : UInt32) :
    modemTechnologyFromRadioTechnologyBitmask b = currentOfTouched (touches b) := by
  simp only [modemTechnologyFromRadioTechnologyBitmask, currentOfTouched, touches,
    decide_eq_true_eq]

theorem modemTechnologyBitmaskFromRadioTechnologyBitmask_eq (b : UInt32) :
    modemTechnologyBitmaskFromRadioTechnologyBitmask b = maskOfTouched (touches b) := by
  simp only [modemTechnologyBitmaskFromRadioTechnologyBitmask, orIfTouches, maskOfTouched,
    touches, decide_eq_true_eq]

/-- The current group is the highest bit of the mask, or `GSM` with an empty mask. -/
theorem current_highest_in_mask (b : UInt32) :
    modemTechnologyBitmaskFromRadioTechnologyBitmask b = 0 ∧
        modemTechnologyFromRadioTechnologyBitmask b = .GSM ∨
      modemTechnologyBitmaskFromRadioTechnologyBitmask b &&&
          mtechBit (modemTechnologyFromRadioTechnologyBitmask b) ≠ 0 ∧
        modemTechnologyBitmaskFromRadioTechnologyBitmask b <
          2 * mtechBit (modemTechnologyFromRadioTechnologyBitmask b) := by
  rw [modemTechnologyBitmaskFromRadioTechnologyBitmask_eq,
    modemTechnologyFromRadioTechnologyBitmask_eq]
  generalize touches b = t
  obtain ⟨nr, lte, td, evdo, cdma, wcdma, gsm⟩ := t
  revert nr lte td evdo cdma wcdma gsm
  decide

/-- The request of `setAllowedNetworkTypesBitmap`:
`std::format("AT+CTEC={0:d},\"{1:X}\"", static_cast<int>(currentTech), techBitmask)`. The
AIDL `int32_t` bitmap converts to the `uint32_t` parameter bit for bit. -/
def setAllowedNetworkTypesBitmapRequest (networkTypeBitmap : UInt32) : Option (List Char) :=
  Format.format "AT+CTEC={0:d},\"{1:X}\"".toList
    [.int (modemTechnologyFromRadioTechnologyBitmask networkTypeBitmap).val,
     .int (modemTechnologyBitmaskFromRadioTechnologyBitmask networkTypeBitmap).toNat]

/-- What the requester answers: the status of `setAllowedNetworkTypesBitmapResponse`, the
technology of the `voiceRadioTechChanged` it sends, and what it returns to the request loop. -/
structure Answer where
  status : RadioError
  voiceRadioTechChanged : Option RadioTechnology
  returns : Bool

/-- The requester of `setAllowedNetworkTypesBitmap` once the conversation has returned
`response` to its `AT+CTEC`, with `mRadioNetworkIndication` set or not (`indication`);
`none` where `unexpected` aborts the process. -/
def setAllowedNetworkTypesBitmapRequester (networkTypeBitmap : UInt32)
    (response : Option AtResponse) (indication : Bool) : Option Answer :=
  let currentTech := modemTechnologyFromRadioTechnologyBitmask networkTypeBitmap
  let answer (status : RadioError) : Answer :=
    ⟨status, if indication then some (currentRadioTechnology currentTech) else none,
      status != .INTERNAL_ERR⟩
  match response with
  | none => some (answer .INTERNAL_ERR)
  | some r =>
    if r.isParseError then some (answer .INTERNAL_ERR)
    else match r.value with
      | .CTEC _ => some (answer .NONE)
      | _ => none

theorem holds_ctec {r : AtResponse} (h : holds .CTEC r = true) :
    r.isParseError = true ∨ ∃ ctec, r.value = .CTEC ctec := by
  obtain ⟨v⟩ := r
  cases v <;> first | exact .inl rfl | exact .inr ⟨_, rfl⟩ | exact absurd h Bool.false_ne_true

theorem setAllowedNetworkTypesBitmapRequester_answers (b : UInt32) {response : Option AtResponse}
    (hfilter : ∀ r, response = some r → holds .CTEC r = true) :
    ∃ a, setAllowedNetworkTypesBitmapRequester b response true = some a ∧
      a.voiceRadioTechChanged = some (currentRadioTechnology
        (modemTechnologyFromRadioTechnologyBitmask b)) := by
  unfold setAllowedNetworkTypesBitmapRequester
  rcases response with _ | r
  · exact ⟨_, rfl, rfl⟩
  · rcases holds_ctec (hfilter r rfl) with hp | ⟨ctec, hv⟩
    · simp only [hp, if_true]
      exact ⟨_, rfl, rfl⟩
    · have hp : r.isParseError = false := by simp only [isParseError, hv]
      simp only [hp, hv, Bool.false_eq_true, if_false]
      exact ⟨_, rfl, rfl⟩

/-- LTE and GSM allowed: `AT+CTEC=5,"21"`. -/
example : setAllowedNetworkTypesBitmapRequest (kLTE ||| kGSM) = some "AT+CTEC=5,\"21\"".toList := by
  decide

/-- Only IWLAN allowed: `AT+CTEC=0,"0"`, and the framework is told of EDGE. -/
example : setAllowedNetworkTypesBitmapRequest (ratbit .IWLAN) = some "AT+CTEC=0,\"0\"".toList ∧
    currentRadioTechnology (modemTechnologyFromRadioTechnologyBitmask (ratbit .IWLAN)) = .EDGE := by
  decide

/-- Only EVDO rev. 0 allowed: the framework is told of EVDO rev. B. -/
example : currentRadioTechnology (modemTechnologyFromRadioTechnologyBitmask (ratbit .EVDO_0)) =
    .EVDO_B := by
  decide

/-- Each group's bitmask maps back to the group and to its own bit, and the technology
reported for it lies in it. -/
example : ∀ i : Fin 7,
    modemTechnologyFromRadioTechnologyBitmask (supportedRadioTechBitmask ⟨i⟩) = ⟨i⟩ ∧
      modemTechnologyBitmaskFromRadioTechnologyBitmask (supportedRadioTechBitmask ⟨i⟩) =
        mtechBit ⟨i⟩ ∧
      ratbit (currentRadioTechnology ⟨i⟩) &&& supportedRadioTechBitmask ⟨i⟩ ≠ 0 := by
  decide

/-- Past the tables' ends, on either side: no group bits, and EDGE. -/
example : supportedRadioTechBitmask ⟨7⟩ = 0 ∧ supportedRadioTechBitmask ⟨-1⟩ = 0 ∧
    currentRadioTechnology ⟨7⟩ = .EDGE ∧ currentRadioTechnology ⟨-1⟩ = .EDGE := by
  decide

end RatUtils

end GoldfishRadio
