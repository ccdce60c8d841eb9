import GoldfishRadio.Parser

/-!
# The response variants

`AtResponse` (AtResponse.h) holds one `Value`: a control token, one record per recognised
command, a generic string or `ParseError`. `holds<T>()` accepts the record of `T` and a
`ParseError` whose `cmd` is `T::id()`. Fields cast to an AIDL enum keep their `int`.
-/

namespace GoldfishRadio

/-- The `RadioError` codes that responses and the modelled services produce. -/
inductive RadioError
  | NONE | GENERIC_FAILURE | INTERNAL_ERR | INVALID_ARGUMENTS | NETWORK_REJECT
  | NO_NETWORK_FOUND | NO_SUCH_ELEMENT | OPERATION_NOT_ALLOWED | PASSWORD_INCORRECT
  | RADIO_NOT_AVAILABLE | REQUEST_NOT_SUPPORTED | SIM_ABSENT | SIM_BUSY | SIM_FULL | SIM_PIN2
  | SIM_PUK2
  deriving DecidableEq

/-- `modem::RadioState`. -/
inductive RadioState | OFF | UNAVAILABLE | ON
  deriving DecidableEq

/-- `voice::Call`, the fields `CLCC::parse` sets. -/
structure Call where
  state : Int
  index : Int
  toa : Int
  isMpty : Bool
  isMT : Bool
  isVoice : Bool
  number : List Char
  deriving DecidableEq

/-- `voice::CallForwardInfo`, the fields `CCFCU::parse` sets. -/
structure CallForwardInfo where
  status : Int := 0
  serviceClass : Int := 0
  toa : Int := 0
  number : List Char := []
  timeSeconds : Int := 0
  deriving DecidableEq

/-- `uintN_t(x)`: the value modulo `2^w`. -/
def toUInt (w : Nat) (x : Int) : Int := x % 2 ^ w

/-- `int8_t(x)`: the value modulo `256`, read as two's complement. -/
def toInt8 (x : Int) : Int := Int.bmod x 256

namespace AtResponse

structure CmeError where
  error : RadioError
  deriving DecidableEq

structure CmsError where
  message : List Char
  deriving DecidableEq

structure ParseError where
  cmd : List Char
  deriving DecidableEq

inductive CPIN.State | ABSENT | NOT_READY | READY | PIN | PUK
  deriving DecidableEq

structure CPIN where
  state : CPIN.State
  deriving DecidableEq

structure CPINR where
  remainingRetryTimes : Int := -1
  maxRetryTimes : Int := -1
  deriving DecidableEq

structure CRSM where
  response : List Char := []
  sw1 : Int := -1
  sw2 : Int := -1
  deriving DecidableEq

structure CFUN where
  state : RadioState
  deriving DecidableEq

/-- The one shape of `CREG`, `CGREG` and `CEREG`; `state` defaults to
`NOT_REG_MT_NOT_SEARCHING_OP`, that is `0`. -/
structure Registration where
  areaCode : Int := -1
  cellId : Int := -1
  networkType : Int := -1
  state : Int := 0
  deriving DecidableEq

structure CTEC where
  values : List (List Char) := []
  done : Bool := false
  deriving DecidableEq

structure COPS.OperatorInfo where
  state : Int := 0
  longName : List Char := []
  shortName : List Char := []
  numeric : List Char := []
  deriving DecidableEq

structure COPS where
  operators : List COPS.OperatorInfo := []
  numeric : List Char := []
  networkSelectionMode : Int := 0
  deriving DecidableEq

structure WRMP where
  cdmaRoamingPreference : Int
  deriving DecidableEq

structure CCSS where
  source : Int
  deriving DecidableEq

/-- `INT32_MAX`, the default of every `CSQ` field. -/
def int32Max : Int := 2147483647

structure CSQ where
  gsm_signalStrength : Int := int32Max
  gsm_bitErrorRate : Int := int32Max
  gsm_timingAdvance : Int := int32Max
  cdma_dbm : Int := int32Max
  cdma_ecio : Int := int32Max
  evdo_dbm : Int := int32Max
  evdo_ecio : Int := int32Max
  evdo_signalNoiseRatio : Int := int32Max
  lte_signalStrength : Int := int32Max
  lte_rsrp : Int := int32Max
  lte_rsrq : Int := int32Max
  lte_rssnr : Int := int32Max
  lte_cqi : Int := int32Max
  lte_timingAdvance : Int := int32Max
  lte_cqiTableIndex : Int := int32Max
  tdscdma_signalStrength : Int := int32Max
  tdscdma_bitErrorRate : Int := int32Max
  tdscdma_rscp : Int := int32Max
  wcdma_signalStrength : Int := int32Max
  wcdma_bitErrorRate : Int := int32Max
  wcdma_rscp : Int := int32Max
  wcdma_ecno : Int := int32Max
  nr_ssRsrp : Int := int32Max
  nr_ssRsrq : Int := int32Max
  nr_ssSinr : Int := int32Max
  nr_csiRsrp : Int := int32Max
  nr_csiRsrq : Int := int32Max
  nr_csiSinr : Int := int32Max
  nr_csiCqiTableIndex : Int := int32Max
  nr_timingAdvance : Int := int32Max

structure CLCC where
  calls : List Call
  deriving DecidableEq

structure CCFCU where
  callForwardInfos : List CallForwardInfo
  deriving DecidableEq

structure CCWA where
  serviceClass : Int := -1
  enable : Bool := false
  deriving DecidableEq

structure CGDCONT.PdpContext where
  type : List Char := []
  apn : List Char := []
  addr : List Char := []
  index : Int := -1
  dComp : Int := 0
  hComp : Int := 0
  deriving DecidableEq

structure CGDCONT where
  contexts : List CGDCONT.PdpContext
  deriving DecidableEq

structure CGCONTRDP where
  apn : List Char := []
  localAddr : List Char := []
  gwAddr : List Char := []
  dns1 : List Char := []
  dns2 : List Char := []
  cid : Int := -1
  bearer : Int := -1
  localAddrSize : Int := 0
  deriving DecidableEq

structure CGFPCCFG where
  status : Int
  mtech : Int
  contextId : Int := -1
  bandwidth : Int := -1
  freq : Int := -1
  deriving DecidableEq

structure CUSATD where
  a : Int := 0
  b : Int := 0
  deriving DecidableEq

structure CSCB.Association where
  «from» : Int
  «to» : Int
  deriving DecidableEq

structure CSCB where
  serviceId : List CSCB.Association := []
  codeScheme : List CSCB.Association := []
  mode : Int := -1
  deriving DecidableEq

structure CMT where
  pdu : List UInt8 := []
  something : Int := -1
  deriving DecidableEq

structure CDS where
  pdu : List UInt8 := []
  pduSize : Int := -1
  deriving DecidableEq

structure MBAU where
  kc : List UInt8 := []
  sres : List UInt8 := []
  ck : List UInt8 := []
  ik : List UInt8 := []
  resAuts : List UInt8 := []
  status : Int
  deriving DecidableEq

/-- `hour` is a 7-bit and `isDaylightSaving` a 1-bit field. -/
structure CTZV where
  tzName : List Char := []
  year : Int := 0
  month : Int := 0
  day : Int := 0
  hour : Int := 0
  isDaylightSaving : Int := 0
  minute : Int := 0
  second : Int := 0
  tzOffset15m : Int := 0
  deriving DecidableEq

/-- The alternatives of `AtResponse::Value`, in the order of the `std::variant`.
`RING`, `CLIP`, `CLIR`, `CMUT` and `WSOS` are made by `AtResponse.cpp` but are not
declared in the AtResponse.h under src/; their fields are the ones their parsers set. -/
inductive Value
  | OK
  | ParseError (v : ParseError)
  | ERROR
  | SmsPrompt
  | CmeError (v : CmeError)
  | CmsError (v : CmsError)
  | CPIN (v : CPIN)
  | CPINR (v : CPINR)
  | CRSM (v : CRSM)
  | CFUN (v : CFUN)
  | CREG (v : Registration)
  | CEREG (v : Registration)
  | CGREG (v : Registration)
  | CTEC (v : CTEC)
  | COPS (v : COPS)
  | WRMP (v : WRMP)
  | CCSS (v : CCSS)
  | CSQ (v : CSQ)
  | CLCC (v : CLCC)
  | CCFCU (v : CCFCU)
  | CCWA (v : CCWA)
  | CGDCONT (v : CGDCONT)
  | CGCONTRDP (v : CGCONTRDP)
  | CGFPCCFG (v : CGFPCCFG)
  | CUSATD (v : CUSATD)
  | CUSATP (cmd : List Char)
  | CUSATE (response : List Char)
  | CUSATT (value : Int)
  | CUSATEND
  | CLCK (locked : Bool)
  | CSIM (response : List Char)
  | CGLA (response : List Char)
  | CCHC
  | CSCA (sca : List Char) (tosca : Int)
  | CSCB (v : CSCB)
  | CMGS (messageRef : Int)
  | CMGW (messageRef : Int)
  | CMT (v : CMT)
  | CDS (v : CDS)
  | MBAU (v : MBAU)
  | CTZV (v : CTZV)
  | string (value : List Char)
  | RING
  | CLIP (enable : Bool) (status : Int)
  | CLIR (n m : Int)
  | CMUT («on» : Bool)
  | WSOS (isEmergencyMode : Bool)

end AtResponse

/-- A parsed response: one `Value`, never changed after `make`. -/
structure AtResponse where
  value : AtResponse.Value

/-- The record types with a static `id()`: what `holds<T>()` and the registry range over. -/
inductive Cmd
  | CmeError | CmsError | CPIN | CPINR | CRSM | CFUN | CREG | CEREG | CGREG | CTEC | COPS
  | WRMP | CCSS | CSQ | CLCC | CCFCU | CCWA | CGDCONT | CGCONTRDP | CGFPCCFG | CUSATD
  | CUSATP | CUSATE | CUSATT | CUSATEND | CLCK | CSIM | CGLA | CCHC | CLIP | CLIR | CMUT
  | WSOS | CSCA | CSCB | CMGS | CMGW | CMT | CDS | MBAU | CTZV
  deriving DecidableEq

/-- Modelled from the spec: `id()` of `CLIP`, `CLIR`, `CMUT` and `WSOS`, whose declarations
are missing from the AtResponse.h under src/. The registry matches the tag written right
after the sigil of the reply line (spec 4.1, step 4), here the command's own name. -/
def undeclaredId (name : String) : String := name

/-- `T::id()`, as AtResponse.h declares it. `CPINR` answers `"CPIN"`. -/
def Cmd.id : Cmd → String
  | .CmeError => "CME ERROR" | .CmsError => "CMS ERROR" | .CPIN => "CPIN"
  | .CPINR => "CPIN" | .CRSM => "CRSM" | .CFUN => "CFUN" | .CREG => "CREG"
  | .CEREG => "CEREG" | .CGREG => "CGREG" | .CTEC => "CTEC" | .COPS => "COPS"
  | .WRMP => "WRMP" | .CCSS => "CCSS" | .CSQ => "CSQ" | .CLCC => "CLCC"
  | .CCFCU => "CCFCU" | .CCWA => "CCWA" | .CGDCONT => "CGDCONT"
  | .CGCONTRDP => "CGCONTRDP" | .CGFPCCFG => "CGFPCCFG" | .CUSATD => "CUSATD"
  | .CUSATP => "CUSATP" | .CUSATE => "CUSATE" | .CUSATT => "CUSATT"
  | .CUSATEND => "CUSATEND" | .CLCK => "CLCK" | .CSIM => "CSIM" | .CGLA => "CGLA"
  | .CCHC => "CCHC" | .CLIP => undeclaredId "CLIP" | .CLIR => undeclaredId "CLIR"
  | .CMUT => undeclaredId "CMUT" | .WSOS => undeclaredId "WSOS" | .CSCA => "CSCA"
  | .CSCB => "CSCB" | .CMGS => "CMGS" | .CMGW => "CMGW" | .CMT => "CMT" | .CDS => "CDS"
  | .MBAU => "MBAU" | .CTZV => "CTZV"

namespace AtResponse

/-- The record type of the active alternative, `none` for the control tokens, `RING`,
`ParseError` and the generic string. -/
def Value.cmd? : Value → Option Cmd
  | .CmeError _ => some .CmeError | .CmsError _ => some .CmsError | .CPIN _ => some .CPIN
  | .CPINR _ => some .CPINR | .CRSM _ => some .CRSM | .CFUN _ => some .CFUN
  | .CREG _ => some .CREG | .CEREG _ => some .CEREG | .CGREG _ => some .CGREG
  | .CTEC _ => some .CTEC | .COPS _ => some .COPS | .WRMP _ => some .WRMP
  | .CCSS _ => some .CCSS | .CSQ _ => some .CSQ | .CLCC _ => some .CLCC
  | .CCFCU _ => some .CCFCU | .CCWA _ => some .CCWA | .CGDCONT _ => some .CGDCONT
  | .CGCONTRDP _ => some .CGCONTRDP | .CGFPCCFG _ => some .CGFPCCFG
  | .CUSATD _ => some .CUSATD | .CUSATP _ => some .CUSATP | .CUSATE _ => some .CUSATE
  | .CUSATT _ => some .CUSATT | .CUSATEND => some .CUSATEND | .CLCK _ => some .CLCK
  | .CSIM _ => some .CSIM | .CGLA _ => some .CGLA | .CCHC => some .CCHC
  | .CSCA _ _ => some .CSCA | .CSCB _ => some .CSCB | .CMGS _ => some .CMGS
  | .CMGW _ => some .CMGW | .CMT _ => some .CMT | .CDS _ => some .CDS
  | .MBAU _ => some .MBAU | .CTZV _ => some .CTZV | .CLIP _ _ => some .CLIP
  | .CLIR _ _ => some .CLIR | .CMUT _ => some .CMUT | .WSOS _ => some .WSOS
  | _ => none

/-- `make(v)`: a fresh shared response, never null. -/
def make (v : Value) : AtResponse := ⟨v⟩

/-- `makeParseErrorFor<T>()`. -/
def makeParseErrorFor (T : Cmd) : AtResponse := make (.ParseError ⟨T.id.toList⟩)

/-- `holds<T>()` for a record type `T`. -/
def holds (T : Cmd) (r : AtResponse) : Bool :=
  r.value.cmd? == some T ||
    match r.value with
    | .ParseError e => e.cmd == T.id.toList
    | _ => false

def isOK (r : AtResponse) : Bool :=
  match r.value with
  | .OK => true
  | _ => false

def isERROR (r : AtResponse) : Bool :=
  match r.value with
  | .ERROR => true
  | _ => false

def isParseError (r : AtResponse) : Bool :=
  match r.value with
  | .ParseError _ => true
  | _ => false

/-- `holds<SmsPrompt>()`, a specialisation without the `ParseError` case. -/
def holdsSmsPrompt (r : AtResponse) : Bool :=
  match r.value with
  | .SmsPrompt => true
  | _ => false

/-- `holds<std::string>()`. -/
def holdsString (r : AtResponse) : Bool :=
  match r.value with
  | .string _ => true
  | _ => false

/-- `what()`: the name `CmdIdVisitor` gives the active alternative. -/
def what (r : AtResponse) : String :=
  match r.value with
  | .OK => "OK" | .ERROR => "ERROR" | .RING => "RING" | .SmsPrompt => "SmsPrompt"
  | .ParseError _ => "ParseError" | .string _ => "string"
  | v => ((Value.cmd? v).map Cmd.id).getD ""

end AtResponse

end GoldfishRadio
