import Mathlib.Data.List.Basic

/-!
# Hex codec

`hex2bin` refuses only an odd length; a byte that is not a hex digit decodes as `0`.
Decoding what `bin2hex` wrote gives the bytes back, and encoding what `hex2bin` read from
an even-length string of hex digits gives the string in upper case.
-/

namespace GoldfishRadio

/-- `hex2bin1`: the value of one hex digit, `0` for any other byte. -/
def hex2bin1 (c : Char) : UInt8 :=
  if '0' ≤ c ∧ c ≤ '9' then (c.toNat - '0'.toNat).toUInt8
  else if 'a' ≤ c ∧ c ≤ 'f' then (c.toNat - 'a'.toNat + 10).toUInt8
  else if 'A' ≤ c ∧ c ≤ 'F' then (c.toNat - 'A'.toNat + 10).toUInt8
  else 0

/-- `hex2binImpl`: one byte from each pair of digits, high nibble first. -/
def hex2binImpl : List Char → List UInt8
  | a :: b :: rest => ((hex2bin1 a <<< 4) ||| hex2bin1 b) :: hex2binImpl rest
  | _ => []

/-- `hex2bin`: `false` (here `none`) on an odd length, otherwise the decoded bytes. -/
def hex2bin (hex : List Char) : Option (List UInt8) :=
  if hex.length % 2 = 1 then none else some (hex2binImpl hex)

/-- `bin2hex1`: a nibble as an upper-case hex digit. -/
def bin2hex1 (x : Nat) : Char :=
  if x < 10 then Char.ofNat (x + '0'.toNat) else Char.ofNat (x - 10 + 'A'.toNat)

/-- `bin2hexImpl`: two digits per byte, high nibble first. -/
def bin2hexImpl : List UInt8 → List Char
  | [] => []
  | b :: bs => bin2hex1 (b >>> 4).toNat :: bin2hex1 (b &&& 0xF).toNat :: bin2hexImpl bs

def bin2hex (b : List UInt8) : List Char := bin2hexImpl b

/-- The bytes `hex2bin1` reads as digits: `[0-9a-fA-F]`. -/
def hexDigits : List Char := "0123456789abcdefABCDEF".toList

theorem hex2bin1_bin2hex1 : ∀ n : Fin 16, hex2bin1 (bin2hex1 n) = n.val.toUInt8 := by decide

theorem bin2hex1_hex2bin1 : ∀ c ∈ hexDigits,
    (hex2bin1 c).toNat < 16 ∧ bin2hex1 (hex2bin1 c).toNat = c.toUpper := by decide

theorem nibbles : ∀ h l : Fin 16,
    (UInt8.ofNat (16 * h + l) >>> 4).toNat = h ∧ (UInt8.ofNat (16 * h + l) &&& 0xF).toNat = l ∧
      (h.val.toUInt8 <<< 4) ||| l.val.toUInt8 = UInt8.ofNat (16 * h + l) := by decide

theorem ofNat_toNat (x : UInt8) : UInt8.ofNat x.toNat = x :=
  UInt8.toNat.inj (UInt8.toNat_ofNat_of_lt x.toNat_lt_size)

theorem toNat_ofNat_byte (n : Nat) : (UInt8.ofNat n).toNat = n % 256 := BitVec.toNat_ofNat n 8

theorem byte_nibbles (x : UInt8) : ∃ h l : Fin 16, x = UInt8.ofNat (16 * h + l) := by
  have hx : x.toNat < 256 := x.toNat_lt_size
  refine ⟨⟨x.toNat / 16, by omega⟩, ⟨x.toNat % 16, by omega⟩, ?_⟩
  conv_lhs => rw [← ofNat_toNat x]
  congr 1
  show x.toNat = 16 * (x.toNat / 16) + x.toNat % 16
  omega

theorem hex2binImpl_bin2hexImpl (b : List UInt8) : hex2binImpl (bin2hexImpl b) = b := by
  induction b with
  | nil => rfl
  | cons x xs ih =>
    obtain ⟨h, l, rfl⟩ := byte_nibbles x
    obtain ⟨hh, hl, hj⟩ := nibbles h l
    simp only [bin2hexImpl, hex2binImpl, hh, hl, hex2bin1_bin2hex1, hj, ih]

theorem bin2hexImpl_hex2binImpl (h : List Char) (heven : h.length % 2 = 0)
    (hd : ∀ c ∈ h, c ∈ hexDigits) : bin2hexImpl (hex2binImpl h) = h.map Char.toUpper := by
  induction h using hex2binImpl.induct with
  | case1 a b rest ih =>
    obtain ⟨ha, ha'⟩ := bin2hex1_hex2bin1 a (hd a (by simp))
    obtain ⟨hb, hb'⟩ := bin2hex1_hex2bin1 b (hd b (by simp))
    obtain ⟨hh, hl, hj⟩ := nibbles ⟨_, ha⟩ ⟨_, hb⟩
    simp only [ofNat_toNat] at hj
    simp only [hex2binImpl, bin2hexImpl, hj, hh, hl, ha', hb', List.map_cons,
      ih (by simp at heven; omega) fun c hc => hd c (by simp [hc])]
  | case2 x hx =>
    match x, hx with
    | [], _ => rfl
    | [_], _ => simp at heven
    | _ :: _ :: _, hx => exact absurd rfl (hx _ _ _)

theorem length_bin2hex (b : List UInt8) : (bin2hex b).length = 2 * b.length := by
  induction b with
  | nil => rfl
  | cons x xs ih =>
    simp only [bin2hex] at ih ⊢
    simp only [bin2hexImpl, List.length_cons, ih]
    omega

theorem hex2bin_bin2hex (b : List UInt8) : hex2bin (bin2hex b) = some b := by
  rw [hex2bin, if_neg (by rw [length_bin2hex]; omega), bin2hex, hex2binImpl_bin2hexImpl]

/-- **The hex codec round trip.** Every byte sequence comes back from its hex text, and
every even-length string of hex digits comes back from its bytes with its letters in
upper case. -/
theorem hex_round_trip :
    (∀ b : List UInt8, hex2bin (bin2hex b) = some b) ∧
      ∀ h : List Char, h.length % 2 = 0 → (∀ c ∈ h, c ∈ hexDigits) →
        ∃ bin, hex2bin h = some bin ∧ bin2hex bin = h.map Char.toUpper :=
  ⟨hex2bin_bin2hex, fun h heven hd => ⟨_, if_neg (by omega), bin2hexImpl_hex2binImpl h heven hd⟩⟩

theorem hex_round_trip_ab :
    ∃ bin, hex2bin "0a9B".toList = some bin ∧ bin2hex bin = "0A9B".toList :=
  hex_round_trip.2 "0a9B".toList (by decide) (by decide)

end GoldfishRadio
