import GoldfishRadio.HexBin
import Mathlib.Data.List.GetD

/-!
# Base64 codec

`base64encode` and `base64decode` wrap `EVP_EncodeBlock` and `EVP_DecodeBlock`, modelled
from their documented behaviour. `EVP_DecodeBlock` writes three bytes for every four
characters, padding included, so decoding an encoding gives the bytes followed by one
zero byte per `=`: the round trip holds exactly when the length is a multiple of three.
-/

namespace GoldfishRadio

namespace Base64

/-- The 64 characters `EVP_EncodeBlock` writes, by value. -/
def alphabet : List Char :=
  "ABCDEFGHIJKLMNOPQRSTUVWXYZabcdefghijklmnopqrstuvwxyz0123456789+/".toList

/-- The character of a six-bit value. -/
def encodeChar (v : Nat) : Char := alphabet.getD v '='

/-- Modelled from the documentation: `EVP_EncodeBlock` writes four characters for each
three bytes, and a last group of one or two bytes as two or three characters followed
by `=` padding. Its return value is the number of characters, the length here. -/
def encodeBlock : List UInt8 → List Char
  | [] => []
  | [a] =>
    let v := a.toNat * 65536
    [encodeChar (v / 262144), encodeChar (v / 4096 % 64), '=', '=']
  | [a, b] =>
    let v := a.toNat * 65536 + b.toNat * 256
    [encodeChar (v / 262144), encodeChar (v / 4096 % 64), encodeChar (v / 64 % 64), '=']
  | a :: b :: c :: rest =>
    let v := a.toNat * 65536 + b.toNat * 256 + c.toNat
    [encodeChar (v / 262144), encodeChar (v / 4096 % 64), encodeChar (v / 64 % 64),
      encodeChar (v % 64)] ++ encodeBlock rest

/-- The six bits of one character as the decoder reads them: `=` reads as `0`, its
place being checked by the quad, and any other byte outside the alphabet is an error. -/
def asciiToBin (c : Char) : Option Nat :=
  if 'A' ≤ c ∧ c ≤ 'Z' then some (c.toNat - 'A'.toNat)
  else if 'a' ≤ c ∧ c ≤ 'z' then some (c.toNat - 'a'.toNat + 26)
  else if '0' ≤ c ∧ c ≤ '9' then some (c.toNat - '0'.toNat + 52)
  else if c = '+' then some 62
  else if c = '/' then some 63
  else if c = '=' then some 0
  else none

/-- One quad of four characters: three bytes, two when only the last is `=`, one when
only the last two are; any other place of `=` is an error. -/
def decodeQuad (c0 c1 c2 c3 : Char) : Option (List UInt8) := do
  let a ← asciiToBin c0
  let b ← asciiToBin c1
  let c ← asciiToBin c2
  let d ← asciiToBin c3
  let v := a * 262144 + b * 4096 + c * 64 + d
  let bytes := [(v / 65536).toUInt8, (v / 256).toUInt8, v.toUInt8]
  match c0 == '=', c1 == '=', c2 == '=', c3 == '=' with
  | false, false, false, false => some bytes
  | false, false, false, true => some (bytes.take 2)
  | false, false, true, true => some (bytes.take 1)
  | _, _, _, _ => none

/-- The quads in order; a quad that ends in padding must be the last one. -/
def decodeQuads : List Char → Option (List UInt8)
  | [] => some []
  | c0 :: c1 :: c2 :: c3 :: rest => do
    let out ← decodeQuad c0 c1 c2 c3
    if out.length ≠ 3 ∧ rest ≠ [] then none
    else (out ++ ·) <$> decodeQuads rest
  | _ => none

/-- Modelled from the documentation: `EVP_DecodeBlock` trims leading blanks and
trailing blanks and line ends, fails (`-1`, here `none`) unless four characters remain
per quad and each quad decodes, and then adds a zero byte for each byte the padding
stands for, so that it writes three bytes per quad. -/
def decodeBlock (src : List Char) : Option (List UInt8) :=
  let src := src.dropWhile fun c => c = ' ' || c = '\t'
  let src := (src.reverse.dropWhile fun c => c = ' ' || c = '\t' || c = '\r' || c = '\n').reverse
  if src.length % 4 = 0 then
    (decodeQuads src).map fun out => out ++ List.replicate ((3 - out.length % 3) % 3) 0
  else none

/-- `base64encode`: the string is sized for the characters and the trailing NUL, and
resized to the count `EVP_EncodeBlock` returns. -/
def base64encode (binaryData : List UInt8) : List Char := encodeBlock binaryData

/-- `base64decode`: `nullopt` on a length that is not a multiple of four or when
`EVP_DecodeBlock` fails, otherwise the bytes it wrote, as many as it returned. -/
def base64decode (encodedData : List Char) : Option (List UInt8) :=
  if encodedData.length % 4 = 0 then decodeBlock encodedData else none

/- Each group of three bytes becomes four alphabet characters that decode to it
(`decodeQuad_full`); a last group of one or two bytes becomes a padded quad that decodes
to it (`decodeQuad_one`, `decodeQuad_two`). The text holds no blank, so the trimming of
`EVP_DecodeBlock` leaves it alone. -/

theorem asciiToBin_encodeChar : ∀ v : Fin 64, asciiToBin (encodeChar v) = some v.val ∧
    (encodeChar v == '=') = false := by decide

theorem toUInt8_eq {n : Nat} {x : UInt8} (h : n % 256 = x.toNat) : n.toUInt8 = x :=
  UInt8.toNat.inj ((toNat_ofNat_byte n).trans h)

theorem asciiToBin_pad : asciiToBin '=' = some 0 := rfl

theorem decodeQuad_full {a b c : UInt8} {v : Nat}
    (hv : v = a.toNat * 65536 + b.toNat * 256 + c.toNat) :
    decodeQuad (encodeChar (v / 262144)) (encodeChar (v / 4096 % 64)) (encodeChar (v / 64 % 64))
      (encodeChar (v % 64)) = some [a, b, c] := by
  have ha : a.toNat < 256 := a.toNat_lt_size
  have hb : b.toNat < 256 := b.toNat_lt_size
  have hc : c.toNat < 256 := c.toNat_lt_size
  obtain ⟨e0, p0⟩ := asciiToBin_encodeChar ⟨v / 262144, by omega⟩
  obtain ⟨e1, p1⟩ := asciiToBin_encodeChar ⟨v / 4096 % 64, by omega⟩
  obtain ⟨e2, p2⟩ := asciiToBin_encodeChar ⟨v / 64 % 64, by omega⟩
  obtain ⟨e3, p3⟩ := asciiToBin_encodeChar ⟨v % 64, by omega⟩
  have hsum : v / 262144 * 262144 + v / 4096 % 64 * 4096 + v / 64 % 64 * 64 + v % 64 = v := by
    omega
  have h1 : (v / 65536).toUInt8 = a := toUInt8_eq (by omega)
  have h2 : (v / 256).toUInt8 = b := toUInt8_eq (by omega)
  have h3 : v.toUInt8 = c := toUInt8_eq (by omega)
  simp only [decodeQuad, e0, e1, e2, e3, p0, p1, p2, p3, Option.bind_eq_bind, Option.some_bind,
    hsum, h1, h2, h3]

theorem decodeQuad_one {a : UInt8} {v : Nat} (hv : v = a.toNat * 65536) :
    decodeQuad (encodeChar (v / 262144)) (encodeChar (v / 4096 % 64)) '=' '=' = some [a] := by
  have ha : a.toNat < 256 := a.toNat_lt_size
  obtain ⟨e0, p0⟩ := asciiToBin_encodeChar ⟨v / 262144, by omega⟩
  obtain ⟨e1, p1⟩ := asciiToBin_encodeChar ⟨v / 4096 % 64, by omega⟩
  have h1 : ((v / 262144 * 262144 + v / 4096 % 64 * 4096 + 0 * 64 + 0) / 65536).toUInt8 = a :=
    toUInt8_eq (by omega)
  simp only [decodeQuad, e0, e1, p0, p1, asciiToBin_pad, Option.bind_eq_bind, Option.some_bind,
    beq_self_eq_true, List.take, h1]

theorem decodeQuad_two {a b : UInt8} {v : Nat} (hv : v = a.toNat * 65536 + b.toNat * 256) :
    decodeQuad (encodeChar (v / 262144)) (encodeChar (v / 4096 % 64)) (encodeChar (v / 64 % 64))
      '=' = some [a, b] := by
  have ha : a.toNat < 256 := a.toNat_lt_size
  have hb : b.toNat < 256 := b.toNat_lt_size
  obtain ⟨e0, p0⟩ := asciiToBin_encodeChar ⟨v / 262144, by omega⟩
  obtain ⟨e1, p1⟩ := asciiToBin_encodeChar ⟨v / 4096 % 64, by omega⟩
  obtain ⟨e2, p2⟩ := asciiToBin_encodeChar ⟨v / 64 % 64, by omega⟩
  have hsum : v / 262144 * 262144 + v / 4096 % 64 * 4096 + v / 64 % 64 * 64 + 0 = v := by omega
  have h1 : (v / 65536).toUInt8 = a := toUInt8_eq (by omega)
  have h2 : (v / 256).toUInt8 = b := toUInt8_eq (by omega)
  simp only [decodeQuad, e0, e1, e2, p0, p1, p2, asciiToBin_pad, Option.bind_eq_bind,
    Option.some_bind, beq_self_eq_true, List.take, hsum, h1, h2]

theorem decodeQuads_encodeBlock (b : List UInt8) : decodeQuads (encodeBlock b) = some b := by
  induction b using encodeBlock.induct with
  | case1 => rfl
  | case2 a => simp only [encodeBlock, decodeQuads, decodeQuad_one rfl]; rfl
  | case3 a b => simp only [encodeBlock, decodeQuads, decodeQuad_two rfl]; rfl
  | case4 a b c rest ih => simp [encodeBlock, decodeQuads, decodeQuad_full rfl, ih]

theorem encodeChar_mem (v : Nat) : encodeChar v ∈ '=' :: alphabet := by
  rw [encodeChar, List.getD_eq_getElem?_getD]
  cases h : alphabet[v]? with
  | none => exact List.mem_cons_self _ _
  | some c => exact List.mem_cons_of_mem _ (List.getElem?_mem h)

theorem encodeBlock_spec (b : List UInt8) :
    (encodeBlock b).length % 4 = 0 ∧ encodeBlock b ⊆ '=' :: alphabet := by
  induction b using encodeBlock.induct with
  | case1 => simp [encodeBlock]
  | case2 a =>
    simp only [encodeBlock, List.cons_subset, encodeChar_mem, List.mem_cons_self, List.nil_subset,
      and_true, List.length_cons, List.length_nil]
  | case3 a b =>
    simp only [encodeBlock, List.cons_subset, encodeChar_mem, List.mem_cons_self, List.nil_subset,
      and_true, List.length_cons, List.length_nil]
  | case4 a b c rest ih =>
    simp only [encodeBlock, List.length_append, List.length_cons, List.cons_append,
      List.cons_subset, encodeChar_mem, List.nil_append, true_and]
    exact ⟨by omega, ih.2⟩

theorem not_blank : ∀ c ∈ '=' :: alphabet, c ∉ [' ', '\t', '\r', '\n'] := by decide

theorem dropWhile_of_forall {p : Char → Bool} {l : List Char} (h : ∀ c ∈ l, p c = false) :
    l.dropWhile p = l := by
  cases l with
  | nil => rfl
  | cons c cs => simp [List.dropWhile, h c (List.mem_cons_self _ _)]

/-- **Decoding an encoding adds the padding's bytes.** `base64decode` returns the bytes
followed by a zero byte for each `=` the encoder wrote. -/
theorem base64decode_base64encode (b : List UInt8) :
    base64decode (base64encode b) = some (b ++ List.replicate ((3 - b.length % 3) % 3) 0) := by
  obtain ⟨hlen, hsub⟩ := encodeBlock_spec b
  have hblank : ∀ c ∈ encodeBlock b, c ≠ ' ' ∧ c ≠ '\t' ∧ c ≠ '\r' ∧ c ≠ '\n' := fun c hc => by
    simpa only [List.mem_cons, List.not_mem_nil, not_or, or_false] using not_blank c (hsub hc)
  have h1 : (encodeBlock b).dropWhile (fun c => c = ' ' || c = '\t') = encodeBlock b :=
    dropWhile_of_forall fun c hc => by simp [(hblank c hc).1, (hblank c hc).2.1]
  have h2 : (encodeBlock b).reverse.dropWhile
      (fun c => c = ' ' || c = '\t' || c = '\r' || c = '\n') = (encodeBlock b).reverse :=
    dropWhile_of_forall fun c hc => by
      obtain ⟨n1, n2, n3, n4⟩ := hblank c (List.mem_reverse.mp hc)
      simp [n1, n2, n3, n4]
  simp only [base64decode, base64encode, decodeBlock, if_pos hlen, h1, h2, List.reverse_reverse,
    decodeQuads_encodeBlock, Option.map_some']

/-- The single byte `0x00` encodes as `AA==` and decodes as three zero bytes. -/
theorem base64_one_byte_comes_back_as_three :
    base64encode [0] = "AA==".toList ∧ base64decode (base64encode [0]) = some [0, 0, 0] :=
  ⟨by decide, base64decode_base64encode [0]⟩

end Base64

end GoldfishRadio
