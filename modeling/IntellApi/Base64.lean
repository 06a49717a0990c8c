import Mathlib.Data.List.Basic

/-!
# Base64

Three bytes are four digits; what is short of three is padded. Decoding reads
back what was encoded (`decode_encode`) and says nothing about other texts.
-/

namespace Base64

def alphabet : List Char := "ABCDEFGHIJKLMNOPQRSTUVWXYZabcdefghijklmnopqrstuvwxyz0123456789+/".toList

def digit (n : Nat) : Char := alphabet.getD n 'A'

def value (c : Char) : Nat := alphabet.idxOf c

def encode : List UInt8 → List Char
  | [] => []
  | [a] => [digit (a.toNat / 4), digit (a.toNat % 4 * 16), '=', '=']
  | [a, b] => [digit (a.toNat / 4), digit (a.toNat % 4 * 16 + b.toNat / 16), digit (b.toNat % 16 * 4), '=']
  | a :: b :: c :: rest =>
    digit (a.toNat / 4) :: digit (a.toNat % 4 * 16 + b.toNat / 16) :: digit (b.toNat % 16 * 4 + c.toNat / 64) ::
      digit (c.toNat % 64) :: encode rest

def decode : List Char → List UInt8
  | w :: x :: y :: z :: rest =>
    let a := UInt8.ofNat (value w * 4 + value x / 16)
    let b := UInt8.ofNat (value x % 16 * 16 + value y / 4)
    let c := UInt8.ofNat (value y % 4 * 64 + value z)
    if y = '=' then [a] else if z = '=' then [a, b] else a :: b :: c :: decode rest
  | _ => []

theorem value_digit_fin : ∀ n : Fin 64, value (digit n) = n ∧ digit n ≠ '=' := by decide +kernel

theorem value_digit {n : Nat} (h : n < 64) : value (digit n) = n := (value_digit_fin ⟨n, h⟩).1

theorem digit_ne_pad {n : Nat} (h : n < 64) : digit n ≠ '=' := (value_digit_fin ⟨n, h⟩).2

theorem ofNat_eq {n : Nat} {a : UInt8} (h : n = a.toNat) : UInt8.ofNat n = a := by
  rw [h, UInt8.ofNat_toNat]

theorem decode_encode (bytes : List UInt8) : decode (encode bytes) = bytes := by
  induction bytes using encode.induct with
  | case1 => rfl
  | case2 a =>
    have ha := a.toNat_lt
    have hw : value (digit (a.toNat / 4)) = a.toNat / 4 := value_digit (by omega)
    have hx : value (digit (a.toNat % 4 * 16)) = a.toNat % 4 * 16 := value_digit (by omega)
    rw [encode, decode, if_pos rfl, hw, hx, ofNat_eq (a := a) (by omega)]
  | case3 a b =>
    have ha := a.toNat_lt
    have hb := b.toNat_lt
    have hw : value (digit (a.toNat / 4)) = a.toNat / 4 := value_digit (by omega)
    have hx : value (digit (a.toNat % 4 * 16 + b.toNat / 16)) = a.toNat % 4 * 16 + b.toNat / 16 :=
      value_digit (by omega)
    have hy : value (digit (b.toNat % 16 * 4)) = b.toNat % 16 * 4 := value_digit (by omega)
    rw [encode, decode, if_neg (digit_ne_pad (by omega)), if_pos rfl, hw, hx, hy, ofNat_eq (a := a) (by omega),
      ofNat_eq (a := b) (by omega)]
  | case4 a b c rest ih =>
    have ha := a.toNat_lt
    have hb := b.toNat_lt
    have hc := c.toNat_lt
    have hw : value (digit (a.toNat / 4)) = a.toNat / 4 := value_digit (by omega)
    have hx : value (digit (a.toNat % 4 * 16 + b.toNat / 16)) = a.toNat % 4 * 16 + b.toNat / 16 :=
      value_digit (by omega)
    have hy : value (digit (b.toNat % 16 * 4 + c.toNat / 64)) = b.toNat % 16 * 4 + c.toNat / 64 :=
      value_digit (by omega)
    have hz : value (digit (c.toNat % 64)) = c.toNat % 64 := value_digit (by omega)
    rw [encode, decode, if_neg (digit_ne_pad (by omega)), if_neg (digit_ne_pad (by omega)), hw, hx, hy, hz, ih,
      ofNat_eq (a := a) (by omega), ofNat_eq (a := b) (by omega), ofNat_eq (a := c) (by omega)]

example : String.ofList (encode [0x4d, 0x61, 0x6e, 0x4d]) = "TWFuTQ==" := by decide +kernel

end Base64
