import GoldfishRadio.BroadcastConfig

/-!
# The requests `std::format` builds

A format string is copied except for its fields `{[arg-id][:format-spec]}` and the
escapes `{{` and `}}`. `writeSmsToSim` and `sendUssd` pass `printf` conversions
(`"AT+CMGW=%d,%d"`, `"AT+CUSD=1,\"%s\""`): a string without braces has no field, so the
modem gets these constant texts whatever the arguments.
-/

namespace GoldfishRadio

namespace Format

open Messaging

/-- An argument of `std::format`: an integer (`int`, `size_t` or `uint32_t`) or a string. -/
inductive FormatArg
  | int (v : Int)
  | str (s : List Char)

/-- A piece of a format string: a character copied to the output, or the text between the
braces of a replacement field. -/
inductive Piece
  | lit (c : Char)
  | field (body : List Char)

/-- Where the scan of a format string is: in the text, after a `{` or a `}`, or inside a
replacement field whose text so far is kept reversed. -/
inductive ScanState
  | text
  | openBrace
  | closeBrace
  | field (rev : List Char)

/-- The pieces of a format string; `none` where `std::format` throws `format_error` (a lone
`}` or an unterminated field), which for a constant format string is a compile error. -/
def scan : ScanState → List Char → Option (List Piece)
  | .text, [] => some []
  | .text, c :: cs =>
    if c = '{' then scan .openBrace cs
    else if c = '}' then scan .closeBrace cs
    else (.lit c :: ·) <$> scan .text cs
  | .openBrace, c :: cs =>
    if c = '{' then (.lit '{' :: ·) <$> scan .text cs
    else if c = '}' then (.field [] :: ·) <$> scan .text cs
    else scan (.field [c]) cs
  | .closeBrace, c :: cs => if c = '}' then (.lit '}' :: ·) <$> scan .text cs else none
  | .field rev, c :: cs =>
    if c = '}' then (.field rev.reverse :: ·) <$> scan .text cs
    else scan (.field (c :: rev)) cs
  | _, [] => none

/-- The arg-id of a field: absent (the next argument in turn) or a decimal number. -/
def argId (s : List Char) : Option (Option Nat) :=
  if s = [] then some none
  else if s.all Char.isDigit then some (some (s.foldl (fun n d => 10 * n + (d.toNat - 48)) 0))
  else none

/-- `{:X}`: upper-case hexadecimal digits, with a `-` before a negative value. -/
def hexUpper (v : Int) : List Char :=
  (if v < 0 then ['-'] else []) ++ (Nat.toDigits 16 v.natAbs).map Char.toUpper

/-- One argument under a format-spec: the default and `d` print an integer in decimal, the
default and `s` copy a string, `X` prints an integer in hexadecimal; any other pairing is a
`format_error`. -/
def renderArg : List Char → FormatArg → Option (List Char)
  | [], .int v | ['d'], .int v => some (toDecimal v)
  | [], .str s | ['s'], .str s => some s
  | ['X'], .int v => some (hexUpper v)
  | _, _ => none

/-- A field's text split at its first `:` into the arg-id and the format-spec. -/
def fieldParts (body : List Char) : List Char × List Char :=
  (body.takeWhile (· != ':'), (body.dropWhile (· != ':')).drop 1)

/-- The output of the pieces: `next` is the argument a field without arg-id takes. -/
def render (args : List FormatArg) : Nat → List Piece → Option (List Char)
  | _, [] => some []
  | next, .lit c :: ps => (c :: ·) <$> render args next ps
  | next, .field body :: ps => do
    let id? ← argId (fieldParts body).1
    let a ← args[id?.getD next]?
    let out ← renderArg (fieldParts body).2 a
    let rest ← render args (if id?.isNone then next + 1 else next) ps
    pure (out ++ rest)

/-- `std::format(fmt, args...)`. -/
def format (fmt : List Char) (args : List FormatArg) : Option (List Char) :=
  (scan .text fmt).bind (render args 0)

theorem scan_of_no_braces {fmt : List Char} (ho : '{' ∉ fmt) (hc : '}' ∉ fmt) :
    scan .text fmt = some (fmt.map .lit) := by
  induction fmt with
  | nil => rfl
  | cons c cs ih =>
    simp only [List.mem_cons, not_or] at ho hc
    rw [scan, if_neg (Ne.symm ho.1), if_neg (Ne.symm hc.1), ih ho.2 hc.2]
    rfl

theorem render_lits (args : List FormatArg) (next : Nat) (cs : List Char) :
    render args next (cs.map .lit) = some cs := by
  induction cs with
  | nil => rfl
  | cons c cs ih => simp [render, ih]

theorem format_of_no_braces {fmt : List Char} (ho : '{' ∉ fmt) (hc : '}' ∉ fmt)
    (args : List FormatArg) : format fmt args = some fmt := by
  rw [format, scan_of_no_braces ho hc, Option.some_bind, render_lits]

/-- The first request of `writeSmsToSim`:
`std::format("AT+CMGW=%d,%d", smsWriteArgs.pdu.size() / 2, smsWriteArgs.status)`. -/
def writeSmsToSimRequest (pdu : List Char) (status : Int) : Option (List Char) :=
  format "AT+CMGW=%d,%d".toList [.int (pdu.length / 2 : Nat), .int status]

/-- The first request of `sendSmsImpl`: `std::format("AT+CMGS={0:d}", message.pdu.size() / 2)`. -/
def sendSmsImplRequest (pdu : List Char) : Option (List Char) :=
  format "AT+CMGS={0:d}".toList [.int (pdu.length / 2 : Nat)]

/-- The request of `sendUssd`: `std::format("AT+CUSD=1,\"%s\"", ussd)`. -/
def sendUssdRequest (ussd : List Char) : Option (List Char) :=
  format "AT+CUSD=1,\"%s\"".toList [.str ussd]

/-- The request of `sendDtmf`: `std::format("AT+VTS={0:s}", s)`. -/
def sendDtmfRequest (s : List Char) : Option (List Char) :=
  format "AT+VTS={0:s}".toList [.str s]

theorem sendSmsImplRequest_eq (pdu : List Char) :
    sendSmsImplRequest pdu = some ("AT+CMGS=".toList ++ decimal (pdu.length / 2)) := by
  have h : sendSmsImplRequest pdu =
      some ("AT+CMGS=".toList ++ (toDecimal (pdu.length / 2 : Nat) ++ [])) := rfl
  rw [h, List.append_nil, toDecimal_natCast]

theorem sendDtmfRequest_eq (s : List Char) : sendDtmfRequest s = some ("AT+VTS=".toList ++ s) := by
  have h : sendDtmfRequest s = some ("AT+VTS=".toList ++ (s ++ [])) := rfl
  rw [h, List.append_nil]

theorem decimal_injective {a b : Nat} (h : decimal a = decimal b) : a = b := by
  rw [← decimal_value a, h, decimal_value]

/-- **`writeSmsToSim` never sends the PDU length.** Its first request is `AT+CMGW=%d,%d`
whatever the PDU and the status, while `sendSmsImpl`'s `AT+CMGS=<n>` carries half the
length of the PDU: two PDUs give the same `AT+CMGS` request exactly when their lengths
halve to the same number. -/
theorem writeSmsToSimRequest_constant (pdu : List Char) (status : Int) :
    writeSmsToSimRequest pdu status = some "AT+CMGW=%d,%d".toList ∧
      ∀ pdu', sendSmsImplRequest pdu = sendSmsImplRequest pdu' ↔
        pdu.length / 2 = pdu'.length / 2 := by
  refine ⟨format_of_no_braces (by decide) (by decide) _, fun pdu' => ?_⟩
  rw [sendSmsImplRequest_eq, sendSmsImplRequest_eq, Option.some.injEq, List.append_cancel_left_eq]
  exact ⟨decimal_injective, congrArg decimal⟩

/-- **`sendUssd` never sends the USSD string.** Its request is `AT+CUSD=1,"%s"` whatever the
string, while `sendDtmf`'s `AT+VTS=<s>` carries its string: two strings give the same
`AT+VTS` request exactly when they are equal. -/
theorem sendUssdRequest_constant (ussd : List Char) :
    sendUssdRequest ussd = some "AT+CUSD=1,\"%s\"".toList ∧
      ∀ s s', sendDtmfRequest s = sendDtmfRequest s' ↔ s = s' := by
  refine ⟨format_of_no_braces (by decide) (by decide) _, fun s s' => ?_⟩
  rw [sendDtmfRequest_eq, sendDtmfRequest_eq, Option.some.injEq, List.append_cancel_left_eq]

end Format

end GoldfishRadio
