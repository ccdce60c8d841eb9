import GoldfishRadio.AtResponse.Basic
import GoldfishRadio.HexBin

/-!
# The payload parsers

The `parse` of every registered command, on the payload slice `AtResponse::parse` cuts
out, returning its record or the `ParseError` of `makeParseErrorFor`. A
`while (parser.hasMore())` loop is a recursion with the payload's length as fuel.
`kUnknown`, used by `CSQ::parse` but declared nowhere under src/, is a parameter.
-/

namespace GoldfishRadio

def kCR : Char := '\r'

/-- `ltrim`: drops the leading bytes `<= 0x20`. -/
def ltrim (s : List Char) : List Char := s.dropWhile isBlank

/-! The `+CME ERROR` codes of atCmds.h. -/

namespace AtCmds

def kCmeErrorOperationNotAllowed : String := "3"
def kCmeErrorOperationNotSupported : String := "4"
def kCmeErrorSimNotInserted : String := "10"
def kCmeErrorSimPinRequired : String := "11"
def kCmeErrorSimPukRequired : String := "12"
def kCmeErrorSimBusy : String := "14"
def kCmeErrorIncorrectPassword : String := "16"
def kCmeErrorMemoryFull : String := "20"
def kCmeErrorInvalidIndex : String := "21"
def kCmeErrorNotFound : String := "22"
def kCmeErrorInvalidCharactersInTextString : String := "27"
def kCmeErrorNoNetworkService : String := "30"
def kCmeErrorNetworkNotAllowedEmergencyCallsOnly : String := "32"
def kCmeErrorInCorrectParameters : String := "50"
def kCmeErrorNetworkNotAttachedDueToMTFunctionalRestrictions : String := "53"
def kCmeErrorFixedDialNumberOnlyAllowed : String := "56"

end AtCmds

namespace AtResponse

open Cursor

/-- The comparisons of `CmeError::parse`, in their order. -/
def cmeErrorTable : List (String × RadioError) :=
  [(AtCmds.kCmeErrorOperationNotAllowed, .OPERATION_NOT_ALLOWED),
   (AtCmds.kCmeErrorOperationNotSupported, .REQUEST_NOT_SUPPORTED),
   (AtCmds.kCmeErrorSimNotInserted, .SIM_ABSENT),
   (AtCmds.kCmeErrorSimPinRequired, .SIM_PIN2),
   (AtCmds.kCmeErrorSimPukRequired, .SIM_PUK2),
   (AtCmds.kCmeErrorSimBusy, .SIM_BUSY),
   (AtCmds.kCmeErrorIncorrectPassword, .PASSWORD_INCORRECT),
   (AtCmds.kCmeErrorMemoryFull, .SIM_FULL),
   (AtCmds.kCmeErrorInvalidIndex, .INVALID_ARGUMENTS),
   (AtCmds.kCmeErrorNotFound, .NO_SUCH_ELEMENT),
   (AtCmds.kCmeErrorInvalidCharactersInTextString, .GENERIC_FAILURE),
   (AtCmds.kCmeErrorNoNetworkService, .NO_NETWORK_FOUND),
   (AtCmds.kCmeErrorNetworkNotAllowedEmergencyCallsOnly, .NETWORK_REJECT),
   (AtCmds.kCmeErrorInCorrectParameters, .INVALID_ARGUMENTS),
   (AtCmds.kCmeErrorNetworkNotAttachedDueToMTFunctionalRestrictions, .NETWORK_REJECT),
   (AtCmds.kCmeErrorFixedDialNumberOnlyAllowed, .GENERIC_FAILURE)]

def CmeError.parse (str : List Char) : AtResponse :=
  make (.CmeError ⟨((cmeErrorTable.find? fun e => e.1.toList = str).map Prod.snd).getD
    .GENERIC_FAILURE⟩)

def CmsError.parse (str : List Char) : AtResponse := make (.CmsError ⟨str⟩)

def CPIN.parse (str : List Char) : AtResponse :=
  if str = "READY".toList then make (.CPIN ⟨.READY⟩)
  else if str = "SIM PIN".toList then make (.CPIN ⟨.PIN⟩)
  else if str = "SIM PUK".toList then make (.CPIN ⟨.PUK⟩)
  else makeParseErrorFor .CPIN

def CPINR.parse (str : List Char) : AtResponse :=
  let chain : Cursor CPINR := do
    let _ ← readView ','
    let remainingRetryTimes ← readInt
    skip ','
    let maxRetryTimes ← readInt
    skip ','
    fullMatch
    pure { remainingRetryTimes, maxRetryTimes }
  match chain str with
  | some (cpinr, _) => make (.CPINR cpinr)
  | none => makeParseErrorFor .CPINR

def CRSM.parse (str : List Char) : AtResponse :=
  let chain : Cursor (Int × Int) := do
    let sw1 ← readInt
    skip ','
    let sw2 ← readInt
    pure (sw1, sw2)
  match chain str with
  | some ((sw1, sw2), []) => make (.CRSM { sw1, sw2 })
  | some ((sw1, sw2), rest@(_ :: _)) =>
    match skip ',' rest with
    | some ((), response) => make (.CRSM { response, sw1, sw2 })
    | none => makeParseErrorFor .CRSM
  | none => makeParseErrorFor .CRSM

def CFUN.parse (str : List Char) : AtResponse :=
  match (do let state ← readInt; fullMatch; pure state : Cursor Int) str with
  | some (state, _) => make (.CFUN ⟨if state ≠ 0 then .ON else .OFF⟩)
  | none => makeParseErrorFor .CFUN

/-- `std::from_chars(..., 16)` into a field that keeps `dflt` when it fails. -/
def hexOr (dflt : Int) (s : List Char) : Int :=
  match fromChars 16 s with
  | some (v, _) => v
  | none => dflt

/-- The `switch` on the number of commas shared by `CREG`, `CGREG` and `CEREG`. -/
def registrationFields (str : List Char) : Option Registration :=
  let chain : Cursor Registration :=
    match str.count ',' with
    | 0 => do
      let state ← readInt; fullMatch
      pure { state }
    | 1 => do
      let _unsolMode ← readInt; skip ','; let state ← readInt; fullMatch
      pure { state }
    | 3 => do
      let state ← readInt; skip ','
      skip '"'; let areaCodeHex ← readView '"'; skip ','
      skip '"'; let cellIdHex ← readView '"'; skip ','
      let networkType ← readInt; fullMatch
      pure { areaCode := hexOr (-1) areaCodeHex, cellId := hexOr (-1) cellIdHex,
             networkType, state }
    | 4 => do
      let _unsolMode ← readInt; skip ','
      let state ← readInt; skip ','
      skip '"'; let areaCodeHex ← readView '"'; skip ','
      skip '"'; let cellIdHex ← readView '"'; skip ','
      let networkType ← readInt; fullMatch
      pure { areaCode := hexOr (-1) areaCodeHex, cellId := hexOr (-1) cellIdHex,
             networkType, state }
    | _ => fail
  (chain str).map Prod.fst

/-- The body of `CREG::parse`, `CGREG::parse` and `CEREG::parse`, which differ only in
the record they make. -/
def registrationParse (T : Cmd) (mk : Registration → Value) (str : List Char) :
    AtResponse :=
  match registrationFields str with
  | some reg => make (mk reg)
  | none => makeParseErrorFor T

def CREG.parse (str : List Char) : AtResponse := registrationParse .CREG .CREG str

def CGREG.parse (str : List Char) : AtResponse := registrationParse .CGREG .CGREG str

def CEREG.parse (str : List Char) : AtResponse := registrationParse .CEREG .CEREG str

/-- The comma-separated fields, kept as text. -/
def CTEC.parse (str : List Char) : AtResponse := make (.CTEC { values := str.splitOn ',' })

/-- One `(state,longName,shortName,numeric)` group of `+COPS: (...),(...)`. -/
def COPS.operator : Cursor COPS.OperatorInfo := do
  skip '('
  let state ← readInt
  skip ','
  let longName ← readString ','
  let shortName ← readString ','
  let numeric ← readString ')'
  pure { state, longName, shortName, numeric }

/-- The `while (parser.matchSoFar())` loop over the groups: it stops after a group that
no `,` follows, ignoring the rest. -/
def COPS.operatorList : Nat → List Char → Option (List COPS.OperatorInfo)
  | 0, _ => none
  | fuel + 1, rest =>
    match COPS.operator rest with
    | some (oi, ',' :: rest') => (oi :: ·) <$> COPS.operatorList fuel rest'
    | some (oi, _) => some [oi]
    | none => none

/-- `OperatorInfo::State::CURRENT`. -/
def COPS.stateCurrent : Int := 2

/-- The other shapes: `selectionMode,2,numeric`, `selectionMode,0,0`, or the three lines
`0,0,long`, `0,1,short`, `0,2,numeric`. -/
def COPS.parseCurrent (rest : List Char) : AtResponse :=
  let chain : Cursor (Int × Int × List Char) := do
    let networkSelectionMode ← readInt; skip ','
    let n ← readInt; skip ','
    let str ← readString kCR
    pure (networkSelectionMode, n, str)
  match chain rest with
  | none => makeParseErrorFor .COPS
  | some ((networkSelectionMode, n, str), rest') =>
    if n = 2 ∧ rest' = [] then make (.COPS { numeric := str, networkSelectionMode })
    else if n ≠ 0 then makeParseErrorFor .COPS
    else if str = "0".toList ∧ rest' = [] then make (.COPS { networkSelectionMode })
    else
      let names : Cursor (List Char × List Char) := do
        skipStr "+COPS:".toList; skip ' '; skipStr "0,1,".toList
        let shortName ← readString kCR
        skipStr "+COPS:".toList; skip ' '; skipStr "0,2,".toList
        let numeric ← readString kCR
        fullMatch
        pure (shortName, numeric)
      match names rest' with
      | some ((shortName, numeric), _) =>
        make (.COPS { operators :=
          [{ state := COPS.stateCurrent, longName := str, shortName, numeric }] })
      | none => makeParseErrorFor .COPS

def COPS.parse (str : List Char) : AtResponse :=
  match (do skipStr "+COPS:".toList; skip ' ' : Cursor Unit) str with
  | some ((), rest@(c :: _)) =>
    if c = '(' then
      match COPS.operatorList rest.length rest with
      | some operators => make (.COPS { operators })
      | none => makeParseErrorFor .COPS
    else COPS.parseCurrent rest
  | _ => makeParseErrorFor .COPS

def WRMP.parse (str : List Char) : AtResponse :=
  match (do let v ← readInt; fullMatch; pure v : Cursor Int) str with
  | some (cdmaRoamingPreference, _) => make (.WRMP ⟨cdmaRoamingPreference⟩)
  | none => makeParseErrorFor .WRMP

def CCSS.parse (str : List Char) : AtResponse :=
  match (do let v ← readInt; fullMatch; pure v : Cursor Int) str with
  | some (source, _) => make (.CCSS ⟨source⟩)
  | none => makeParseErrorFor .CCSS

/-- `kMaxSize`, the most values `CSQ::parse` reads. -/
def CSQ.kMaxSize : Nat := 22

/-- The `for (n = 1; parser.hasMore() && (n < kMaxSize); ++n)` loop: at most `more`
further `,value` items. -/
def CSQ.moreValues : Nat → Cursor (List Int)
  | 0 => pure []
  | more + 1 => fun rest =>
    match rest with
    | [] => some ([], [])
    | _ :: _ => (do
        skip ','
        let v ← readInt
        let vs ← CSQ.moreValues more
        pure (v :: vs)) rest

/-- The `switch (n)` with its fall-throughs, `values[i]` being `v.getD i 0`. -/
def CSQ.ofValues (kUnknown : Int) (v : List Int) : Option CSQ :=
  let at_ (i : Nat) : Int := v.getD i 0
  let c12 : CSQ :=
    { gsm_signalStrength := at_ 0, gsm_bitErrorRate := at_ 1, cdma_dbm := at_ 2,
      cdma_ecio := at_ 3, evdo_dbm := at_ 4, evdo_ecio := at_ 5,
      evdo_signalNoiseRatio := at_ 6, lte_signalStrength := at_ 7, lte_rsrp := at_ 8,
      lte_rsrq := at_ 9, lte_rssnr := at_ 10, lte_cqi := at_ 11 }
  let c13 : CSQ := { c12 with lte_timingAdvance := at_ 12 }
  let c14 : CSQ := { c13 with tdscdma_rscp := at_ 13 }
  let c22 : CSQ :=
    { c14 with
      wcdma_signalStrength := at_ 14,
      wcdma_rscp := if at_ 14 ≠ kUnknown then 42 else int32Max,
      wcdma_ecno := if at_ 14 ≠ kUnknown then 19 else int32Max,
      wcdma_bitErrorRate := at_ 15, nr_ssRsrp := at_ 16, nr_ssRsrq := at_ 17,
      nr_ssSinr := at_ 18, nr_csiRsrp := at_ 19, nr_csiRsrq := at_ 20,
      nr_csiSinr := at_ 21 }
  match v.length with
  | 22 => some c22
  | 14 => some c14
  | 13 => some c13
  | 12 => some c12
  | _ => none

def CSQ.parse (kUnknown : Int) (str : List Char) : AtResponse :=
  let chain : Cursor (List Int) := do
    let v0 ← readInt
    let vs ← CSQ.moreValues (CSQ.kMaxSize - 1)
    fullMatch
    pure (v0 :: vs)
  match chain str with
  | some (values, _) =>
    match CSQ.ofValues kUnknown values with
    | some csq => make (.CSQ csq)
    | none => makeParseErrorFor .CSQ
  | none => makeParseErrorFor .CSQ

/-- One line `+CLCC: <index>,<dir>,<state>,<mode>,<mpty>,<number>,<type>\r`. -/
def CLCC.line : Cursor Call := do
  skipStr "+CLCC:".toList; skip ' '
  let index ← readInt; skip ','
  let dir ← readInt; skip ','
  let state ← readInt; skip ','
  let mode ← readInt; skip ','
  let mpty ← readInt; skip ','
  let number ← readString ','
  let type ← readInt
  skip kCR
  pure { state, index, toa := type, isMpty := mpty ≠ 0, isMT := dir ≠ 0,
         isVoice := mode = 0, number }

/-- The `while (parser.hasMore())` loop over the lines. -/
def CLCC.callList : Nat → List Char → Option (List Call)
  | _, [] => some []
  | 0, _ :: _ => none
  | fuel + 1, rest@(_ :: _) =>
    match CLCC.line rest with
    | some (call, rest') => (call :: ·) <$> CLCC.callList fuel rest'
    | none => none

def CLCC.parse (str : List Char) : AtResponse :=
  match CLCC.callList str.length str with
  | some calls => make (.CLCC ⟨calls⟩)
  | none => makeParseErrorFor .CLCC

/-- One line of `+CCFCU:`; a `,` after the number carries three ignored fields and the
time, `\r` ends the line, anything else fails. -/
def CCFCU.line : Cursor CallForwardInfo := do
  skipStr "+CCFCU:".toList; skip ' '
  let status ← readInt; skip ','
  let serviceClass ← readInt; skip ','
  let _numberType ← readInt; skip ','
  let toa ← readInt; skip ','
  skip '"'; let number ← readString '"'
  let c ← front
  if c = ',' then
    skip ','
    let _ ← readView ','; let _ ← readView ','; let _ ← readView ','
    let timeSeconds ← readInt
    skip kCR
    pure { status, serviceClass, toa, number, timeSeconds }
  else if c = kCR then
    skip kCR
    pure { status, serviceClass, toa, number }
  else fail

def CCFCU.infos : Nat → List Char → Option (List CallForwardInfo)
  | _, [] => some []
  | 0, _ :: _ => none
  | fuel + 1, rest@(_ :: _) =>
    match CCFCU.line rest with
    | some (cfi, rest') => (cfi :: ·) <$> CCFCU.infos fuel rest'
    | none => none

def CCFCU.parse (str : List Char) : AtResponse :=
  match CCFCU.infos str.length str with
  | some callForwardInfos => make (.CCFCU ⟨callForwardInfos⟩)
  | none => makeParseErrorFor .CCFCU

def CCWA.parse (str : List Char) : AtResponse :=
  match (do let mode ← readInt; skip ','; let sc ← readInt; fullMatch; pure (mode, sc) :
      Cursor (Int × Int)) str with
  | some ((mode, serviceClass), _) => make (.CCWA { serviceClass, enable := mode = 1 })
  | none => makeParseErrorFor .CCWA

/-- Both numbers are read into `a`; `b` keeps its `0`. -/
def CUSATD.parse (str : List Char) : AtResponse :=
  match (do let _ ← readInt; skip ','; skip ' '; let a ← readInt; fullMatch; pure a :
      Cursor Int) str with
  | some (a, _) => make (.CUSATD { a })
  | none => makeParseErrorFor .CUSATD

def CUSATP.parse (str : List Char) : AtResponse := make (.CUSATP str)

def CUSATE.parse (str : List Char) : AtResponse := make (.CUSATE str)

def CUSATT.parse (str : List Char) : AtResponse :=
  match (do let v ← readInt; fullMatch; pure v : Cursor Int) str with
  | some (value, _) => make (.CUSATT value)
  | none => makeParseErrorFor .CUSATT

def CUSATEND.parse (_str : List Char) : AtResponse := make .CUSATEND

/-- One line `+CGDCONT: <cid>,"<type>","<apn>",<addr>,<d_comp>,<h_comp>` and the blanks
after it. -/
def CGDCONT.line : Cursor CGDCONT.PdpContext := do
  skipStr "+CGDCONT:".toList; skip ' '
  let index ← readInt; skip ','
  skip '"'; let type ← readString '"'; skip ','
  skip '"'; let apn ← readString '"'; skip ','
  let addr ← readString ','
  let dComp ← readInt; skip ','
  let hComp ← readInt; skip ' '
  pure { type, apn, addr, index, dComp, hComp }

def CGDCONT.contextList : Nat → List Char → Option (List CGDCONT.PdpContext)
  | _, [] => some []
  | 0, _ :: _ => none
  | fuel + 1, rest@(_ :: _) =>
    match CGDCONT.line rest with
    | some (ctx, rest') => (ctx :: ·) <$> CGDCONT.contextList fuel rest'
    | none => none

def CGDCONT.parse (str : List Char) : AtResponse :=
  match CGDCONT.contextList str.length str with
  | some contexts => make (.CGDCONT ⟨contexts⟩)
  | none => makeParseErrorFor .CGDCONT

/-- `localAddr` is `addr/size` or a bare address with size `0`; `dns1` is the rest. -/
def CGCONTRDP.parse (str : List Char) : AtResponse :=
  let chain : Cursor (Int × Int × List Char × List Char × List Char) := do
    let cid ← readInt; skip ','
    let bearer ← readInt; skip ','
    skip '"'; let apn ← readString '"'; skip ','
    let localAddr ← readView ','
    let gwAddr ← readString ','
    pure (cid, bearer, apn, localAddr, gwAddr)
  match chain str with
  | some ((cid, bearer, apn, localAddr, gwAddr), dns1) =>
    let addr : Cursor (List Char × Int) := do
      let a ← readString '/'
      let size ← readInt
      fullMatch
      pure (a, size)
    let (localAddr', localAddrSize) :=
      match addr localAddr with
      | some ((a, size), _) => (a, size)
      | none => (localAddr, 0)
    make (.CGCONTRDP { apn, localAddr := localAddr', gwAddr, dns1, cid, bearer,
                       localAddrSize })
  | none => makeParseErrorFor .CGCONTRDP

def CGFPCCFG.parse (str : List Char) : AtResponse :=
  let chain : Cursor CGFPCCFG := do
    let status ← readInt; skip ','
    let bandwidth ← readInt; skip ','
    let mtech ← readInt; skip ','
    let freq ← readInt; skip ','
    let contextId ← readInt; fullMatch
    pure { status, mtech, contextId, bandwidth, freq }
  match chain str with
  | some (v, _) => make (.CGFPCCFG v)
  | none => makeParseErrorFor .CGFPCCFG

/-- `str.front()` of an empty payload reads the `\r` after the slice, which fails. -/
def CLCK.parse (str : List Char) : AtResponse :=
  match str.head? with
  | some '0' => make (.CLCK false)
  | some '1' => make (.CLCK true)
  | _ => makeParseErrorFor .CLCK

def CSIM.parse (str : List Char) : AtResponse :=
  match (do let len ← readInt; skip ','; pure len : Cursor Int) str with
  | some (len, response) =>
    if len = response.length then make (.CSIM response) else makeParseErrorFor .CSIM
  | none => makeParseErrorFor .CSIM

def CCHC.parse (_str : List Char) : AtResponse := make .CCHC

def CLIP.parse (str : List Char) : AtResponse :=
  match (do let e ← readInt; skip ','; let s ← readInt; fullMatch; pure (e, s) :
      Cursor (Int × Int)) str with
  | some ((enable, status), _) => make (.CLIP (enable ≠ 0) status)
  | none => makeParseErrorFor .CLIP

def CLIR.parse (str : List Char) : AtResponse :=
  match (do let n ← readInt; skip ','; let m ← readInt; fullMatch; pure (n, m) :
      Cursor (Int × Int)) str with
  | some ((n, m), _) => make (.CLIR n m)
  | none => makeParseErrorFor .CLIR

def CMUT.parse (str : List Char) : AtResponse :=
  match (do let v ← readInt; fullMatch; pure v : Cursor Int) str with
  | some (v, _) => make (.CMUT (v ≠ 0))
  | none => makeParseErrorFor .CMUT

def WSOS.parse (str : List Char) : AtResponse :=
  match (do let v ← readInt; fullMatch; pure v : Cursor Int) str with
  | some (isEmergencyMode, _) => make (.WSOS (isEmergencyMode ≠ 0))
  | none => makeParseErrorFor .WSOS

def CSCA.parse (str : List Char) : AtResponse :=
  match (do let sca ← readString ','; let tosca ← readInt; fullMatch; pure (sca, tosca) :
      Cursor (List Char × Int)) str with
  | some ((sca, tosca), _) => make (.CSCA sca tosca)
  | none => makeParseErrorFor .CSCA

/-- The `while (parser.hasMore())` loop of `CSCB::parseIds`. An item `a-b` is pushed; an
item `a` is pushed only when it ends the list: the `,` case skips the comma and pushes
nothing. -/
def CSCB.parseIdsLoop : Nat → List Char → Option (List CSCB.Association)
  | _, [] => some []
  | 0, _ :: _ => none
  | fuel + 1, rest@(_ :: _) =>
    match readInt 10 rest with
    | none => none
    | some (f, []) => some [⟨f, f⟩]
    | some (f, '-' :: rest1) =>
      match readInt 10 rest1 with
      | none => none
      | some (t, []) => some [⟨f, t⟩]
      | some (t, ',' :: rest2) => (⟨f, t⟩ :: ·) <$> CSCB.parseIdsLoop fuel rest2
      | some (_, _ :: _) => none
    | some (_, ',' :: rest1) => CSCB.parseIdsLoop fuel rest1
    | some (_, _ :: _) => none

def CSCB.parseIds (str : List Char) : Option (List CSCB.Association) :=
  CSCB.parseIdsLoop str.length str

def CSCB.parse (str : List Char) : AtResponse :=
  let chain : Cursor (Int × List Char × List Char) := do
    let mode ← readInt; skip ','
    skip '"'; let serviceId ← readView '"'; skip ','
    skip '"'; let codeScheme ← readView '"'
    fullMatch
    pure (mode, serviceId, codeScheme)
  match chain str with
  | some ((mode, serviceId, codeScheme), _) =>
    match CSCB.parseIds serviceId, CSCB.parseIds codeScheme with
    | some serviceId, some codeScheme => make (.CSCB { serviceId, codeScheme, mode })
    | _, _ => makeParseErrorFor .CSCB
  | none => makeParseErrorFor .CSCB

def CMGS.parse (str : List Char) : AtResponse :=
  match (do let v ← readInt; fullMatch; pure v : Cursor Int) str with
  | some (messageRef, _) => make (.CMGS messageRef)
  | none => makeParseErrorFor .CMGS

/-- As `CMGS::parse`, but its failure is the `ParseError` of `CMGS`. -/
def CMGW.parse (str : List Char) : AtResponse :=
  match (do let v ← readInt; fullMatch; pure v : Cursor Int) str with
  | some (messageRef, _) => make (.CMGW messageRef)
  | none => makeParseErrorFor .CMGS

/-- The two stages shared by `CMT::parse` and `CDS::parse`: a number and `\r`, then the
hex PDU up to the next `\r`. `0` when the second `\r` has not arrived, `-1` (with the
`ParseError` of `T`) when the number, the first `\r` or the hex fails. The count is
`parser.consumed()`. -/
def pduParse (T : Cmd) (mk : Int → List UInt8 → Value) (str : List Char) :
    Int × Option AtResponse :=
  match (do let v ← readInt; skip kCR; pure v : Cursor Int) str with
  | some (v, rest) =>
    match readString kCR rest with
    | some (strPdu, rest') =>
      match hex2bin strPdu with
      | some pdu => ((str.length : Int) - rest'.length, some (make (mk v pdu)))
      | none => (-1, some (makeParseErrorFor T))
    | none => (0, none)
  | none => (-1, some (makeParseErrorFor T))

def CMT.parse (str : List Char) : Int × Option AtResponse :=
  pduParse .CMT (fun something pdu => .CMT { pdu, something }) str

def CDS.parse (str : List Char) : Int × Option AtResponse :=
  pduParse .CDS (fun pduSize pdu => .CDS { pdu, pduSize }) str

/-- `<STATUS>[,<KC>,<SRES>][,<CK>,<IK>,<RES/AUTS>]`, chosen by the number of commas; every
present field must be even-length hex. -/
def MBAU.parse (str : List Char) : AtResponse :=
  let fields : Option (Int × List (List Char)) :=
    match str.count ',' with
    | 0 => ((do let s ← readInt; fullMatch; pure (s, [[], [], [], [], []]) :
        Cursor (Int × List (List Char))) str).map Prod.fst
    | 2 => ((do
        let s ← readInt; skip ','; let kc ← readView ','; let sres ← remaining
        pure (s, [kc, sres, [], [], []]) : Cursor (Int × List (List Char))) str).map Prod.fst
    | 5 => ((do
        let s ← readInt; skip ','
        let kc ← readView ','; let sres ← readView ','
        let ck ← readView ','; let ik ← readView ','; let resAuts ← remaining
        pure (s, [kc, sres, ck, ik, resAuts]) : Cursor (Int × List (List Char))) str).map
          Prod.fst
    | _ => none
  match fields with
  | some (status, [kc, sres, ck, ik, resAuts]) =>
    match hex2bin kc, hex2bin sres, hex2bin ck, hex2bin ik, hex2bin resAuts with
    | some kc, some sres, some ck, some ik, some resAuts =>
      make (.MBAU { kc, sres, ck, ik, resAuts, status })
    | _, _, _, _, _ => makeParseErrorFor .MBAU
  | _ => makeParseErrorFor .MBAU

/-- `yy/mm/dd:hh:mm:ss<sign><tz>:<dst>:<name>`, the fields narrowed as the record's
fixed-width fields narrow them. -/
def CTZV.parse (str : List Char) : AtResponse :=
  let chain : Cursor (Int × Int × Int × Int × Int × Int × Char × Int × Char) := do
    skip ' '
    let yy ← readInt; skip '/'
    let month ← readInt; skip '/'
    let day ← readInt; skip ':'
    let hh ← readInt; skip ':'
    let mm ← readInt; skip ':'
    let ss ← readInt
    let tzSign ← readChar
    let tzOffset15m ← readInt; skip ':'
    let daylight ← readChar; skip ':'
    pure (yy, month, day, hh, mm, ss, tzSign, tzOffset15m, daylight)
  match chain str with
  | some ((yy, month, day, hh, mm, ss, tzSign, tzOffset15m, daylight), tzName) =>
    let offset : Option Int :=
      if tzSign = '+' then some tzOffset15m
      else if tzSign = '-' then some (-tzOffset15m)
      else none
    match offset with
    | some off =>
      make (.CTZV { tzName, year := toUInt 16 (yy + 2000), month := toUInt 8 month,
                    day := toUInt 8 day, hour := toUInt 7 (toUInt 8 hh),
                    isDaylightSaving := if daylight ≠ '0' then 1 else 0,
                    minute := toUInt 8 mm, second := toUInt 8 ss,
                    tzOffset15m := toInt8 off })
    | none => makeParseErrorFor .CTZV
  | none => makeParseErrorFor .CTZV

end AtResponse

end GoldfishRadio
