import GoldfishRadio.AtResponse.Payload

/-!
# Cell broadcast configuration

`setGsmBroadcastConfig` writes `AT+CSCB=<mode>,"<channels>","<languages>"` and
`getGsmBroadcastConfig` reads the `+CSCB` record back. The writer sends mode `0` for a
selected list and the reader takes a non-zero mode as selected.
-/

namespace GoldfishRadio

namespace Messaging

open AtResponse

/-- `messaging::GsmBroadcastSmsConfigInfo`, with the fields the two requests read and
write; the parcelable itself is not among the sources. -/
structure GsmBroadcastSmsConfigInfo where
  fromServiceId : Int
  toServiceId : Int
  fromCodeScheme : Int
  toCodeScheme : Int
  selected : Bool
  deriving DecidableEq

/-- `std::to_string` of an `int`. -/
def toDecimal (x : Int) : List Char := (toString x).toList

/-- One item of a list: `std::to_string(from)` when the range has one id, else
`std::format("{0:d}-{1:d}", from, to)`. -/
def idRange (f t : Int) : List Char :=
  if f = t then toDecimal f else toDecimal f ++ '-' :: toDecimal t

/-- One turn of the loop of `setGsmBroadcastConfig` over `(channel, language)`: a comma
before every item but the first, then the two ranges of `ci`. -/
def appendConfig (acc : List Char × List Char) (ci : GsmBroadcastSmsConfigInfo) :
    List Char × List Char :=
  if acc.1.isEmpty then
    (acc.1 ++ idRange ci.fromServiceId ci.toServiceId,
      acc.2 ++ idRange ci.fromCodeScheme ci.toCodeScheme)
  else
    (acc.1 ++ ',' :: idRange ci.fromServiceId ci.toServiceId,
      acc.2 ++ ',' :: idRange ci.fromCodeScheme ci.toCodeScheme)

/-- What follows `AT+CSCB=` in the request: `<mode>,"<channel>","<language>"`, with the
mode taken from the first entry. -/
def broadcastConfigPayload (ci : GsmBroadcastSmsConfigInfo)
    (configInfo : List GsmBroadcastSmsConfigInfo) : List Char :=
  toDecimal (if ci.selected then 0 else 1) ++ ',' :: '"' ::
    ((ci :: configInfo).foldl appendConfig ([], [])).1 ++ '"' :: ',' :: '"' ::
    ((ci :: configInfo).foldl appendConfig ([], [])).2 ++ ['"']

/-- `setGsmBroadcastConfig`: `INVALID_ARGUMENTS` for an empty list, else the request. -/
def setGsmBroadcastConfig : List GsmBroadcastSmsConfigInfo → Except RadioError (List Char)
  | [] => .error .INVALID_ARGUMENTS
  | ci :: configInfo => .ok ("AT+CSCB=".toList ++ broadcastConfigPayload ci configInfo)

/-- The list `getGsmBroadcastConfig` builds from a `+CSCB` record: the `i`-th service
range with the `i`-th code range, as many as the shorter list has, all selected when the
mode is not `0`. -/
def configOfCSCB (cscb : CSCB) : List GsmBroadcastSmsConfigInfo :=
  List.zipWith (fun s c => ⟨s.from, s.to, c.from, c.to, cscb.mode ≠ 0⟩)
    cscb.serviceId cscb.codeScheme

/-- `getGsmBroadcastConfig` on the response of `AT+CSCB?`: `INTERNAL_ERR` with no list
for no response or a parse error, the list for a `+CSCB` record, and `none` where
`unexpected` aborts the process. -/
def getGsmBroadcastConfig (response : Option AtResponse) :
    Option (RadioError × List GsmBroadcastSmsConfigInfo) :=
  match response with
  | none => some (.INTERNAL_ERR, [])
  | some r =>
    if r.isParseError then some (.INTERNAL_ERR, [])
    else match r.value with
      | .CSCB cscb => some (.NONE, configOfCSCB cscb)
      | _ => none

/-- Two lists that do not survive the round trip: a selected list comes back
unselected, and a single service id followed by another item is dropped. -/
theorem broadcastConfig_round_trip_fails :
    setGsmBroadcastConfig [⟨1, 1, 0, 0, true⟩] = .ok "AT+CSCB=0,\"1\",\"0\"".toList ∧
    getGsmBroadcastConfig (some (CSCB.parse "0,\"1\",\"0\"".toList)) =
      some (.NONE, [⟨1, 1, 0, 0, false⟩]) ∧
    setGsmBroadcastConfig [⟨1, 1, 0, 0, false⟩, ⟨2, 2, 0, 0, false⟩] =
      .ok "AT+CSCB=1,\"1,2\",\"0,0\"".toList ∧
    getGsmBroadcastConfig (some (CSCB.parse "1,\"1,2\",\"0,0\"".toList)) =
      some (.NONE, [⟨2, 2, 0, 0, true⟩]) :=
  ⟨rfl, by decide, rfl, by decide⟩

end Messaging

end GoldfishRadio
