/-
The finite doubles: how a decimal is rounded to one, and the text `repr` gives it.

Every finite double is a multiple of `2 ^ -1074`, so its magnitude is carried as
that natural number: equality and order are those of `ℕ`, and rounding a decimal
is one division. The text is the shortest decimal that rounds to the double
again, the nearest one among those; it is found by trying one digit, then two,
up to the seventeen that are always enough.
-/
import Mathlib.Algebra.GroupWithZero.Nat
import Mathlib.Data.Nat.Notation
import Mathlib.Data.Int.Notation

set_option autoImplicit false

namespace AppContracts.Binary64

/-- A one, in units of `2 ^ -1074`. -/
def one : ℕ := 2 ^ 1074

/-- The first power of two that no finite double reaches, `2 ^ 1024`. -/
def overflow : ℕ := 2 ^ 1024 * one

/-- `n / d` to the nearest natural number, a tie to the even one. -/
def round_div (n d : ℕ) : ℕ :=
  if 2 * (n % d) < d ∨ (2 * (n % d) = d ∧ n / d % 2 = 0) then n / d else n / d + 1

/-- The double nearest to `n / d`. It keeps 53 bits, or the bits down to
`2 ^ -1074` where these are fewer. -/
def round (n d : ℕ) : ℕ :=
  let place := (n * one / d).log2 - 52
  round_div (n * one) (d * 2 ^ place) * 2 ^ place

/-- The double nearest to `c * 10 ^ e`. -/
def of_decimal (c : ℕ) (e : ℤ) : ℕ := round (c * 10 ^ e.toNat) (10 ^ (-e).toNat)

/-- The two decimals of `n` digits around a positive double, the nearer one
first. In units of `10 ^ -400` even the least double has more digits than are
ever asked for. -/
def decimals (m n : ℕ) : List (ℕ × ℤ) :=
  let cut := (Nat.toDigits 10 (m * 10 ^ 400 / one)).length - n
  let below := m * 10 ^ 400 / (one * 10 ^ cut)
  let near := round_div (m * 10 ^ 400) (one * 10 ^ cut)
  [(near, (cut : ℤ) - 400), (if near = below then below + 1 else below, (cut : ℤ) - 400)]

/-- The shortest decimal that rounds to a positive double. -/
def shortest (m : ℕ) : Option (ℕ × ℤ) :=
  ((List.range 17).flatMap fun i => decimals m (i + 1)).find? fun p => of_decimal p.1 p.2 = m

/-- An exponent, with its sign and two digits at least. -/
def exponent_text (e : ℤ) : List Char :=
  (if e < 0 then '-' else '+') ::
    (if e.natAbs < 10 then '0' :: Nat.toDigits 10 e.natAbs else Nat.toDigits 10 e.natAbs)

/-- `0.digits * 10 ^ point`, written out from `10 ^ -4` to `10 ^ 16` and with an
exponent elsewhere. -/
def layout (digits : List Char) (point : ℤ) : List Char :=
  if point ≤ -4 ∨ 16 < point then
    digits.take 1 ++ (if digits.length = 1 then [] else '.' :: digits.drop 1) ++
      'e' :: exponent_text (point - 1)
  else if point ≤ 0 then '0' :: '.' :: (List.replicate (-point).toNat '0' ++ digits)
  else if point.toNat < digits.length then
    digits.take point.toNat ++ '.' :: digits.drop point.toNat
  else digits ++ List.replicate (point.toNat - digits.length) '0' ++ ['.', '0']

/-- `float.__repr__` of a magnitude. -/
def repr (m : ℕ) : Option (List Char) :=
  if m = 0 then some ['0', '.', '0']
  else (shortest m).map fun p =>
    let digits := Nat.toDigits 10 p.1
    layout (digits.reverse.dropWhile (· = '0')).reverse (digits.length + p.2)

end AppContracts.Binary64
