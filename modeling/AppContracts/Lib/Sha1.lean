/-
SHA-1, as `hashlib` computes it.

A message is a list of bytes, a word is 32 bits. As with SHA-256, no proof looks
inside `hexdigest`: that two given messages do not collide is a hypothesis about
those two messages.
-/
import Mathlib.Data.Nat.Notation
import Mathlib.Algebra.GroupWithZero.Nat

set_option autoImplicit false

namespace AppContracts.Sha1

/-- A 32-bit word. -/
abbrev Word : Type := BitVec 32

/-- The working variables `a` to `e`, or a hash value. -/
structure Hash : Type where
  a : Word
  b : Word
  c : Word
  d : Word
  e : Word

/-- The initial hash value. -/
def Hash.initial : Hash :=
  ⟨0x67452301#32, 0xefcdab89#32, 0x98badcfe#32, 0x10325476#32, 0xc3d2e1f0#32⟩

/-- Wordwise addition. -/
def Hash.add (x y : Hash) : Hash := ⟨x.a + y.a, x.b + y.b, x.c + y.c, x.d + y.d, x.e + y.e⟩

/-- The function and the constant of a round, by the number of rounds left. -/
def mix (left : ℕ) (s : Hash) : Word :=
  if 60 < left then ((s.b &&& s.c) ||| (~~~s.b &&& s.d)) + 0x5a827999#32
  else if 40 < left then (s.b ^^^ s.c ^^^ s.d) + 0x6ed9eba1#32
  else if 20 < left then ((s.b &&& s.c) ||| (s.b &&& s.d) ||| (s.c &&& s.d)) + 0x8f1bbcdc#32
  else (s.b ^^^ s.c ^^^ s.d) + 0xca62c1d6#32

/-- The word that follows sixteen words of the message schedule. -/
def next_word (w : List Word) : Word :=
  (w.getD 13 0 ^^^ w.getD 8 0 ^^^ w.getD 2 0 ^^^ w.getD 0 0).rotateLeft 1

/-- The rounds: the window holds the next sixteen schedule words. -/
def rounds : ℕ → List Word → Hash → Hash
  | 0, _, s => s
  | left + 1, window, s =>
    rounds left (window.drop 1 ++ [next_word window])
      ⟨s.a.rotateLeft 5 + mix (left + 1) s + s.e + window.getD 0 0, s.a, s.b.rotateLeft 30, s.c, s.d⟩

/-- The big-endian words of some bytes. -/
def words : List ℕ → List Word
  | a :: b :: c :: d :: rest =>
    BitVec.ofNat 32 (((a * 256 + b) * 256 + c) * 256 + d) :: words rest
  | _ => []

/-- The sixteen-word blocks of a padded message. -/
def compress : ℕ → List Word → Hash → Hash
  | 0, _, s => s
  | n + 1, ws, s => compress n (ws.drop 16) (s.add (rounds 80 (ws.take 16) s))

/-- The message, a one bit, zeros, and the length in bits as eight bytes. -/
def pad (message : List ℕ) : List ℕ :=
  let zeros := (119 - message.length % 64) % 64
  let bits := 8 * message.length
  message ++ 0x80 :: List.replicate zeros 0 ++
    [56, 48, 40, 32, 24, 16, 8, 0].map fun shift => bits / 2 ^ shift % 256

/-- The hash value of a message. -/
def hash (message : List ℕ) : Hash :=
  let padded := words (pad message)
  compress (padded.length / 16) padded Hash.initial

/-- A word as eight hexadecimal digits. -/
def hex (w : Word) : List Char :=
  [28, 24, 20, 16, 12, 8, 4, 0].map fun shift => (w.toNat / 2 ^ shift % 16).digitChar

/-- `hashlib.sha1(message).hexdigest()`. -/
def hexdigest (message : List ℕ) : String :=
  let s := hash message
  String.ofList ([s.a, s.b, s.c, s.d, s.e].flatMap hex)

example : hexdigest [0x61, 0x62, 0x63] = "a9993e364706816aba3e25717850c26c9cd0d89d" := by
  decide +kernel

end AppContracts.Sha1
