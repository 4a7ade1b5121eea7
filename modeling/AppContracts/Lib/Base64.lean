/-
Base64: the standard alphabet, with padding.

`Base64.encode` and `Base64.decode` work on characters, three bytes against four
digits. Decoding inverts encoding, so an encoding names one byte string.
-/
import Mathlib.Data.List.Basic

set_option autoImplicit false

namespace AppContracts.Base64

/-! ## Digits -/

/-- The digits in order of their values. -/
def alphabet : List Char :=
  "ABCDEFGHIJKLMNOPQRSTUVWXYZabcdefghijklmnopqrstuvwxyz0123456789+/".toList

/-- The digit of a value below 64. -/
def digit (value : ℕ) : Char := alphabet.getD value 'A'

/-- The value of a digit. -/
def value? (c : Char) : Option ℕ := alphabet.idxOf? c

/-- Each of the sixty-four digits has its own value. -/
theorem value_digit {value : ℕ} (h : value < 64) : value? (digit value) = some value := by
  revert value
  decide +kernel

/-! ## Encoding and decoding -/

/-- `base64.b64encode`. -/
def encode : List UInt8 → List Char
  | [] => []
  | [x] => [digit (x.toNat / 4), digit (x.toNat % 4 * 16), '=', '=']
  | [x, y] =>
    [digit (x.toNat / 4), digit (x.toNat % 4 * 16 + y.toNat / 16), digit (y.toNat % 16 * 4), '=']
  | x :: y :: z :: rest =>
    digit (x.toNat / 4) :: digit (x.toNat % 4 * 16 + y.toNat / 16) ::
      digit (y.toNat % 16 * 4 + z.toNat / 64) :: digit (z.toNat % 64) :: encode rest

/-- The first byte of a group of digits with values `a` and `b`. -/
def first (a b : ℕ) : UInt8 := UInt8.ofNat (a * 4 + b / 16)

/-- The second byte of a group. -/
def second (b c : ℕ) : UInt8 := UInt8.ofNat (b % 16 * 16 + c / 4)

/-- The third byte of a group. -/
def third (c d : ℕ) : UInt8 := UInt8.ofNat (c % 4 * 64 + d)

/-- `base64.b64decode(.., validate=True)`, `none` when it raises. Only the last
group may be padded. Excess padding, `AAAA=`, is refused as well: some versions of
the standard library let it pass, against what they document of `validate`. -/
def decode : List Char → Option (List UInt8)
  | [] => some []
  | c₁ :: c₂ :: c₃ :: c₄ :: rest =>
    match value? c₁, value? c₂, value? c₃, value? c₄ with
    | some a, some b, some c, some d =>
      (decode rest).map fun bytes => first a b :: second b c :: third c d :: bytes
    | some a, some b, some c, none => if c₄ = '=' ∧ rest = [] then some [first a b, second b c] else none
    | some a, some b, none, none => if c₃ = '=' ∧ c₄ = '=' ∧ rest = [] then some [first a b] else none
    | _, _, _, _ => none
  | _ => none

theorem value_pad : value? '=' = none := by decide

section Groups

variable (x y z : UInt8)

theorem first_eq (low : ℕ) (h : low < 16) :
    first (x.toNat / 4) (x.toNat % 4 * 16 + low) = x := by
  have hx : x.toNat / 4 * 4 + (x.toNat % 4 * 16 + low) / 16 = x.toNat := by omega
  rw [first, hx, UInt8.ofNat_toNat]

theorem second_eq (high low : ℕ) (h : low < 4) :
    second (high * 16 + y.toNat / 16) (y.toNat % 16 * 4 + low) = y := by
  have hlt := y.toNat_lt
  have hy : (high * 16 + y.toNat / 16) % 16 * 16 + (y.toNat % 16 * 4 + low) / 4 = y.toNat := by omega
  rw [second, hy, UInt8.ofNat_toNat]

theorem third_eq (high : ℕ) : third (high * 4 + z.toNat / 64) (z.toNat % 64) = z := by
  have hlt := z.toNat_lt
  have hz : (high * 4 + z.toNat / 64) % 4 * 64 + z.toNat % 64 = z.toNat := by omega
  rw [third, hz, UInt8.ofNat_toNat]

end Groups

/-- **Decoding inverts encoding**, three bytes at a time. -/
theorem decode_encode : ∀ bytes : List UInt8, decode (encode bytes) = some bytes
  | [] => rfl
  | [x] => by
    have hx := x.toNat_lt
    have hfirst := first_eq x 0 (by omega)
    rw [Nat.add_zero] at hfirst
    rw [encode, decode, value_digit (by omega), value_digit (by omega), value_pad]
    simp only [and_self, if_true, hfirst]
  | [x, y] => by
    have hx := x.toNat_lt
    have hy := y.toNat_lt
    have hsecond := second_eq y (x.toNat % 4) 0 (by omega)
    rw [Nat.add_zero] at hsecond
    rw [encode, decode, value_digit (by omega), value_digit (by omega), value_digit (by omega),
      value_pad]
    simp only [and_self, if_true, first_eq x (y.toNat / 16) (by omega), hsecond]
  | x :: y :: z :: rest => by
    have hx := x.toNat_lt
    have hy := y.toNat_lt
    have hz := z.toNat_lt
    rw [encode, decode, value_digit (by omega), value_digit (by omega), value_digit (by omega),
      value_digit (by omega), decode_encode rest]
    simp only [Option.map_some, first_eq x (y.toNat / 16) (by omega),
      second_eq y (x.toNat % 4) (z.toNat / 64) (by omega), third_eq]

example : encode [0x4d, 0x61] = "TWE=".toList := by decide

end AppContracts.Base64
