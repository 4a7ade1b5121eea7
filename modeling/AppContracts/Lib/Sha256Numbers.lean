/-
SHA-256 on natural numbers.

The kernel computes with the numbers of words several times faster than with the words
themselves. `number_digits` runs the rounds on numbers, and every number is evaluated
before the next round uses it.
-/
import AppContracts.Lib.Sha256
import Mathlib.Data.List.Basic

set_option autoImplicit false

namespace AppContracts.Sha256

/-- `f n`, with `n` evaluated first. -/
def force {α : Type} (n : ℕ) (f : ℕ → α) : α :=
  match n with
  | 0 => f 0
  | k + 1 => f (k + 1)

theorem force_eq {α : Type} (n : ℕ) (f : ℕ → α) : force n f = f n := by
  cases n <;> rfl

/-- A word of a number. -/
abbrev word (n : ℕ) : Word := BitVec.ofNat 32 n

/-- A number rotated as a word. -/
def rotate (r n : ℕ) : ℕ := n >>> r ||| n <<< (32 - r) % 2 ^ 32

theorem rotate_eq {r : ℕ} (hr : r < 32) (w : Word) : rotate r w.toNat = (w.rotateRight r).toNat := by
  rw [BitVec.toNat_rotateRight, Nat.mod_eq_of_lt hr, rotate]

/-- The first sum of a round, with the schedule word and the round constant. -/
def first_sum (e f g h kw : ℕ) : ℕ :=
  h + (rotate 6 e ^^^ rotate 11 e ^^^ rotate 25 e) + ((e &&& f) ^^^ ((2 ^ 32 - 1 - e) &&& g)) + kw

/-- The second sum of a round. -/
def second_sum (a b c : ℕ) : ℕ :=
  (rotate 2 a ^^^ rotate 13 a ^^^ rotate 22 a) + ((a &&& b) ^^^ (a &&& c) ^^^ (b &&& c))

/-- The number of the word that follows in the message schedule. -/
def next_number (w0 w1 w9 w14 : ℕ) : ℕ :=
  (w0 + (rotate 7 w1 ^^^ rotate 18 w1 ^^^ w1 >>> 3) + w9 +
    (rotate 17 w14 ^^^ rotate 19 w14 ^^^ w14 >>> 10)) % 2 ^ 32

/-- `rounds` on numbers. -/
def number_rounds : List ℕ → List ℕ → ℕ → ℕ → ℕ → ℕ → ℕ → ℕ → ℕ → ℕ → Hash
  | [], _, a, b, c, d, e, f, g, h => ⟨word a, word b, word c, word d, word e, word f, word g, word h⟩
  | k :: ks, window, a, b, c, d, e, f, g, h =>
    force (next_number (window.getD 0 0) (window.getD 1 0) (window.getD 9 0) (window.getD 14 0)) fun w =>
    force (first_sum e f g h (k + window.getD 0 0)) fun t =>
    force ((t + second_sum a b c) % 2 ^ 32) fun a' =>
    force ((d + t) % 2 ^ 32) fun e' =>
    number_rounds ks (window.drop 1 ++ [w]) a' a b c e' e f g

theorem getD_map (window : List Word) (i : ℕ) :
    (window.map BitVec.toNat).getD i 0 = (window.getD i 0).toNat := by
  rw [List.getD_eq_getElem?_getD, List.getD_eq_getElem?_getD, List.getElem?_map]
  cases window[i]? <;> rfl

theorem next_number_eq (window : List Word) :
    next_number (window.getD 0 0).toNat (window.getD 1 0).toNat (window.getD 9 0).toNat
      (window.getD 14 0).toNat = (next_word window).toNat := by
  simp only [next_number, next_word, rotate_eq (by decide : 7 < 32), rotate_eq (by decide : 18 < 32),
    rotate_eq (by decide : 17 < 32), rotate_eq (by decide : 19 < 32), BitVec.toNat_add,
    BitVec.toNat_xor, BitVec.toNat_ushiftRight, Nat.mod_add_mod]

theorem first_sum_eq (e f g h kw : Word) : first_sum e.toNat f.toNat g.toNat h.toNat kw.toNat % 2 ^ 32 =
    (h + (e.rotateRight 6 ^^^ e.rotateRight 11 ^^^ e.rotateRight 25) + ((e &&& f) ^^^ (~~~e &&& g)) +
      kw).toNat := by
  simp only [first_sum, rotate_eq (by decide : 6 < 32), rotate_eq (by decide : 11 < 32),
    rotate_eq (by decide : 25 < 32), BitVec.toNat_add, BitVec.toNat_xor, BitVec.toNat_and,
    BitVec.toNat_not, Nat.mod_add_mod]

theorem second_sum_eq (a b c : Word) : second_sum a.toNat b.toNat c.toNat % 2 ^ 32 =
    ((a.rotateRight 2 ^^^ a.rotateRight 13 ^^^ a.rotateRight 22) +
      ((a &&& b) ^^^ (a &&& c) ^^^ (b &&& c))).toNat := by
  simp only [second_sum, rotate_eq (by decide : 2 < 32), rotate_eq (by decide : 13 < 32),
    rotate_eq (by decide : 22 < 32), BitVec.toNat_add, BitVec.toNat_xor, BitVec.toNat_and]

/-- The rounds can be run on numbers. -/
theorem number_rounds_eq (ks window : List Word) (s : Hash) :
    number_rounds (ks.map BitVec.toNat) (window.map BitVec.toNat) s.a.toNat s.b.toNat s.c.toNat
      s.d.toNat s.e.toNat s.f.toNat s.g.toNat s.h.toNat = rounds ks window s := by
  induction ks generalizing window s with
  | nil => simp only [List.map_nil, number_rounds, word, BitVec.ofNat_toNat, BitVec.setWidth_eq, rounds]
  | cons k ks ih =>
    rw [rounds, ← ih, List.map_cons, number_rounds]
    simp only [force_eq, getD_map, next_number_eq]
    -- the sums of a round are the same up to multiples of the word size
    have hkw : (k.toNat + (window.getD 0 0).toNat) % 2 ^ 32 = (k + window.getD 0 0).toNat :=
      (BitVec.toNat_add _ _).symm
    have hone := first_sum_eq s.e s.f s.g s.h (k + window.getD 0 0)
    have htwo := second_sum_eq s.a s.b s.c
    have hfirst : first_sum s.e.toNat s.f.toNat s.g.toNat s.h.toNat
        (k.toNat + (window.getD 0 0).toNat) % 2 ^ 32 =
        first_sum s.e.toNat s.f.toNat s.g.toNat s.h.toNat (k + window.getD 0 0).toNat % 2 ^ 32 := by
      rw [first_sum, first_sum, ← hkw, Nat.add_mod_mod]
    rw [hone] at hfirst
    rw [List.map_append, List.map_drop, List.map_cons, List.map_nil]
    have ha : (first_sum s.e.toNat s.f.toNat s.g.toNat s.h.toNat
        (k.toNat + (window.getD 0 0).toNat) + second_sum s.a.toNat s.b.toNat s.c.toNat) % 2 ^ 32 =
        (round s (k + window.getD 0 0)).a.toNat := by
      rw [Nat.add_mod, hfirst, htwo]
      exact (BitVec.toNat_add _ _).symm
    have he : (s.d.toNat + first_sum s.e.toNat s.f.toNat s.g.toNat s.h.toNat
        (k.toNat + (window.getD 0 0).toNat)) % 2 ^ 32 = (round s (k + window.getD 0 0)).e.toNat := by
      rw [← Nat.add_mod_mod, hfirst]
      exact (BitVec.toNat_add _ _).symm
    rw [ha, he]
    rfl

/-- `round_constants` as numbers. -/
def constant_numbers : List ℕ := round_constants.map BitVec.toNat

/-- `compress` with its rounds on numbers. -/
def number_compress : ℕ → List Word → Hash → Hash
  | 0, _, s => s
  | n + 1, ws, s => number_compress n (ws.drop 16) (s.add
      (number_rounds constant_numbers ((ws.take 16).map BitVec.toNat) s.a.toNat s.b.toNat s.c.toNat
        s.d.toNat s.e.toNat s.f.toNat s.g.toNat s.h.toNat))

theorem number_compress_eq (n : ℕ) (ws : List Word) (s : Hash) :
    number_compress n ws s = compress n ws s := by
  induction n generalizing ws s with
  | zero => rfl
  | succ n ih => rw [number_compress, compress, ih, constant_numbers, number_rounds_eq]

/-- The digits of `hexdigest`, with the rounds on numbers. -/
def number_digits (message : List ℕ) : List Char :=
  let padded := words (pad message)
  let s := number_compress (padded.length / 16) padded Hash.initial
  [s.a, s.b, s.c, s.d, s.e, s.f, s.g, s.h].flatMap hex

/-- **Evaluation on numbers.** -/
theorem hexdigest_eq (message : List ℕ) : hexdigest message = String.ofList (number_digits message) := by
  rw [number_digits, number_compress_eq, hexdigest, hash]

end AppContracts.Sha256
