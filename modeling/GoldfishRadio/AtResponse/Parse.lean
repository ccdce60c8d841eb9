import GoldfishRadio.AtResponse.Payload

/-!
# The line recognizer

`AtResponse::parse` returns how many bytes the next message took and its response: `0`
while the message may be incomplete, `-1` on input it cannot recognise. The checks run in
the source's order: `RING`, `+CMT:` and `+CDS:`, the registry of the sigil, the literals,
and a generic text ended by `\rOK\r`.
-/

namespace GoldfishRadio

namespace AtResponse

/-- `ParseResult`: the count consumed and the response, `none` for `nullptr`. -/
abbrev ParseResult := Int × Option AtResponse

/-- An entry of a registry table: `CMD(C)` gives `C::id()` and `&C::parse`. -/
structure ValueParser where
  cmd : List Char
  parse : List Char → AtResponse
  multiline : Bool

/-- `{ CMD(T), multiline }`. -/
def ValueParser.ofCmd (T : Cmd) (parse : List Char → AtResponse) (multiline : Bool) :
    ValueParser :=
  ⟨T.id.toList, parse, multiline⟩

/-- `plusValueParsers`, in its order. -/
def plusValueParsers (kUnknown : Int) : List ValueParser :=
  [.ofCmd .CPIN CPIN.parse false, .ofCmd .CPINR CPINR.parse false,
   .ofCmd .CRSM CRSM.parse false, .ofCmd .CFUN CFUN.parse false,
   .ofCmd .CREG CREG.parse false, .ofCmd .CEREG CEREG.parse false,
   .ofCmd .CGREG CGREG.parse false, .ofCmd .CTEC CTEC.parse false,
   .ofCmd .COPS COPS.parse true, .ofCmd .WRMP WRMP.parse false,
   .ofCmd .CCSS CCSS.parse false, .ofCmd .CSQ (CSQ.parse kUnknown) false,
   .ofCmd .CLCC CLCC.parse true, .ofCmd .CCFCU CCFCU.parse true,
   .ofCmd .CCWA CCWA.parse false, .ofCmd .CUSATD CUSATD.parse false,
   .ofCmd .CUSATP CUSATP.parse false, .ofCmd .CUSATE CUSATE.parse false,
   .ofCmd .CUSATT CUSATT.parse false, .ofCmd .CUSATEND CUSATEND.parse false,
   .ofCmd .CGDCONT CGDCONT.parse true, .ofCmd .CGCONTRDP CGCONTRDP.parse false,
   .ofCmd .CLCK CLCK.parse false, .ofCmd .CSIM CSIM.parse false,
   .ofCmd .CCHC CCHC.parse false, .ofCmd .CLIP CLIP.parse false,
   .ofCmd .CLIR CLIR.parse false, .ofCmd .CMUT CMUT.parse false,
   .ofCmd .WSOS WSOS.parse false, .ofCmd .CSCA CSCA.parse false,
   .ofCmd .CSCB CSCB.parse false, .ofCmd .CMGS CMGS.parse false,
   .ofCmd .CMGW CMGW.parse false, .ofCmd .CmeError CmeError.parse false,
   .ofCmd .CmsError CmsError.parse false]

def percentValueParsers : List ValueParser :=
  [.ofCmd .CTZV CTZV.parse false, .ofCmd .CGFPCCFG CGFPCCFG.parse false]

def caretValueParsers : List ValueParser :=
  [.ofCmd .MBAU MBAU.parse false]

def krOKr : List Char := "\rOK\r".toList
def kRING : List Char := "RING\r".toList
def kCMT : List Char := "+CMT:".toList
def kCDS : List Char := "+CDS:".toList
def kSmsPrompt : List Char := "> \r".toList
def kOKr : List Char := "OK\r".toList
def kERRORr : List Char := "ERROR\r".toList

/-- The first index of `l` at which `needle` starts. -/
def indexOfSub (needle : List Char) (l : List Char) : Option Nat :=
  if needle.isPrefixOf l then some 0
  else
    match l with
    | [] => none
    | _ :: t => (indexOfSub needle t).map (· + 1)

/-- `str.find(needle, pos)`, `none` for `npos`. -/
def find (str needle : List Char) (pos : Nat) : Option Nat :=
  (indexOfSub needle (str.drop pos)).map (· + pos)

/-- The payload of the entry that matched, `skipSize` bytes in: up to `\rOK\r` (the lines
kept whole, with one `\r` after the last) for a multi-line entry, up to the first `\r`
and left-trimmed otherwise. `0` while the terminator has not arrived. -/
def parseCmdsPayload (str : List Char) (vp : ValueParser) (skipSize : Nat) : ParseResult :=
  if vp.multiline then
    match find str krOKr skipSize with
    | some payloadEnd =>
      ((payloadEnd + krOKr.length : Nat), some (vp.parse (str.take (payloadEnd + 1))))
    | none => (0, none)
  else
    match find str [kCR] skipSize with
    | some payloadEnd =>
      ((payloadEnd + 1 : Nat),
        some (vp.parse (ltrim ((str.drop skipSize).take (payloadEnd - skipSize)))))
    | none => (0, none)

/-- The first-match scan of `parseCmds` over the entries left, `str1` being the input
after its sigil. -/
def parseCmdsScan (str : List Char) : List ValueParser → Bool → ParseResult
  | [], maybeIncomplete => if maybeIncomplete then (0, none) else (-1, none)
  | vp :: vps, maybeIncomplete =>
    if vp.cmd.isPrefixOf (str.drop 1) then
      if (str.drop 1).length ≤ vp.cmd.length then parseCmdsScan str vps true
      else if (str.drop 1)[vp.cmd.length]? = some ':' then
        parseCmdsPayload str vp (1 + vp.cmd.length + 1)
      else if (str.drop 1)[vp.cmd.length]? = some kCR then
        parseCmdsPayload str vp (1 + vp.cmd.length)
      else parseCmdsScan str vps maybeIncomplete
    else parseCmdsScan str vps maybeIncomplete

def parseCmds (str : List Char) (vps : List ValueParser) : ParseResult :=
  parseCmdsScan str vps false

/-- `CMT::parse` or `CDS::parse` behind its prefix: the blanks after the prefix are
trimmed, and the count is made relative to the whole input again. -/
def parsePrefixed (str : List Char) (prefixLength : Nat)
    (parse : List Char → Int × Option AtResponse) : ParseResult :=
  match parse (ltrim (str.drop prefixLength)) with
  | (consumed, response) =>
    if consumed > 0 then
      (consumed + str.length - (ltrim (str.drop prefixLength)).length, response)
    else (consumed, none)

/-- `AtResponse::parse`. -/
def parse (kUnknown : Int) (str : List Char) : ParseResult :=
  if kRING.isPrefixOf str then (kRING.length, some (make .RING))
  else if kCMT.isPrefixOf str then parsePrefixed str kCMT.length CMT.parse
  else if kCDS.isPrefixOf str then parsePrefixed str kCDS.length CDS.parse
  else
    match str.head? with
    | some '+' => parseCmds str (plusValueParsers kUnknown)
    | some '%' => parseCmds str percentValueParsers
    | some '^' => parseCmds str caretValueParsers
    | _ =>
      if kSmsPrompt.isPrefixOf str then (kSmsPrompt.length, some (make .SmsPrompt))
      else if kOKr.isPrefixOf str then (kOKr.length, some (make .OK))
      else if kERRORr.isPrefixOf str then (kERRORr.length, some (make .ERROR))
      else
        match find str krOKr 0 with
        | some pos => ((pos + krOKr.length : Nat), some (make (.string (str.take pos))))
        | none => (0, none)

/-- Lines that are not routed to their own type: a malformed `+CMGW` reply carries the
`ParseError` of `CMGS`; `+CPIN:` goes to `CPIN`, whose tag `CPINR` shares, so a `CPINR`
filter never accepts it; and the modem's `+CPINR:` reply matches no entry at all. -/
theorem parse_misroutes_cmgw_and_cpinr (kUnknown : Int) :
    (∃ r, parse kUnknown "+CMGW:x\r".toList = (8, some r) ∧
      holds .CMGW r = false ∧ holds .CMGS r = true) ∧
    (∃ r, parse kUnknown "+CPIN:READY\r".toList = (12, some r) ∧ holds .CPINR r = false) ∧
    parse kUnknown "+CPINR: SIM PIN,3,3\r".toList = (-1, none) :=
  ⟨⟨_, rfl, rfl, rfl⟩, ⟨_, rfl, rfl⟩, rfl⟩

end AtResponse

end GoldfishRadio
