/-
SHA-256, as `hashlib` computes it.

A message is a list of bytes, a word is 32 bits. `hexdigest` is all the model
uses; no proof looks inside it. What an argument needs of it, that two given
messages do not collide, is always a hypothesis about those two messages.
-/
import Mathlib.Data.Nat.Notation
import Mathlib.Algebra.GroupWithZero.Nat

set_option autoImplicit false

namespace AppContracts.Sha256

/-- A 32-bit word. -/
abbrev Word : Type := BitVec 32

/-- The round constants. -/
def round_constants : List Word :=
  [0x428a2f98#32, 0x71374491#32, 0xb5c0fbcf#32, 0xe9b5dba5#32, 0x3956c25b#32, 0x59f111f1#32,
    0x923f82a4#32, 0xab1c5ed5#32, 0xd807aa98#32, 0x12835b01#32, 0x243185be#32, 0x550c7dc3#32,
    0x72be5d74#32, 0x80deb1fe#32, 0x9bdc06a7#32, 0xc19bf174#32, 0xe49b69c1#32, 0xefbe4786#32,
    0x0fc19dc6#32, 0x240ca1cc#32, 0x2de92c6f#32, 0x4a7484aa#32, 0x5cb0a9dc#32, 0x76f988da#32,
    0x983e5152#32, 0xa831c66d#32, 0xb00327c8#32, 0xbf597fc7#32, 0xc6e00bf3#32, 0xd5a79147#32,
    0x06ca6351#32, 0x14292967#32, 0x27b70a85#32, 0x2e1b2138#32, 0x4d2c6dfc#32, 0x53380d13#32,
    0x650a7354#32, 0x766a0abb#32, 0x81c2c92e#32, 0x92722c85#32, 0xa2bfe8a1#32, 0xa81a664b#32,
    0xc24b8b70#32, 0xc76c51a3#32, 0xd192e819#32, 0xd6990624#32, 0xf40e3585#32, 0x106aa070#32,
    0x19a4c116#32, 0x1e376c08#32, 0x2748774c#32, 0x34b0bcb5#32, 0x391c0cb3#32, 0x4ed8aa4a#32,
    0x5b9cca4f#32, 0x682e6ff3#32, 0x748f82ee#32, 0x78a5636f#32, 0x84c87814#32, 0x8cc70208#32,
    0x90befffa#32, 0xa4506ceb#32, 0xbef9a3f7#32, 0xc67178f2#32]

/-- The working variables `a` to `h`, or a hash value. -/
structure Hash : Type where
  a : Word
  b : Word
  c : Word
  d : Word
  e : Word
  f : Word
  g : Word
  h : Word

/-- The initial hash value. -/
def Hash.initial : Hash :=
  ⟨0x6a09e667#32, 0xbb67ae85#32, 0x3c6ef372#32, 0xa54ff53a#32,
    0x510e527f#32, 0x9b05688c#32, 0x1f83d9ab#32, 0x5be0cd19#32⟩

/-- Wordwise addition. -/
def Hash.add (x y : Hash) : Hash :=
  ⟨x.a + y.a, x.b + y.b, x.c + y.c, x.d + y.d, x.e + y.e, x.f + y.f, x.g + y.g, x.h + y.h⟩

/-- One round, with the sum of a round constant and a schedule word. -/
def round (s : Hash) (kw : Word) : Hash :=
  let s1 := s.e.rotateRight 6 ^^^ s.e.rotateRight 11 ^^^ s.e.rotateRight 25
  let ch := (s.e &&& s.f) ^^^ (~~~s.e &&& s.g)
  let t1 := s.h + s1 + ch + kw
  let s0 := s.a.rotateRight 2 ^^^ s.a.rotateRight 13 ^^^ s.a.rotateRight 22
  let maj := (s.a &&& s.b) ^^^ (s.a &&& s.c) ^^^ (s.b &&& s.c)
  ⟨t1 + (s0 + maj), s.a, s.b, s.c, s.d + t1, s.e, s.f, s.g⟩

/-- The word that follows sixteen words of the message schedule. -/
def next_word (w : List Word) : Word :=
  let w1 := w.getD 1 0
  let w14 := w.getD 14 0
  w.getD 0 0 + (w1.rotateRight 7 ^^^ w1.rotateRight 18 ^^^ w1 >>> 3) + w.getD 9 0 +
    (w14.rotateRight 17 ^^^ w14.rotateRight 19 ^^^ w14 >>> 10)

/-- The rounds: the window holds the next sixteen schedule words. -/
def rounds : List Word → List Word → Hash → Hash
  | [], _, s => s
  | k :: ks, window, s =>
    rounds ks (window.drop 1 ++ [next_word window]) (round s (k + window.getD 0 0))

/-- The big-endian words of some bytes. -/
def words : List ℕ → List Word
  | a :: b :: c :: d :: rest =>
    BitVec.ofNat 32 (((a * 256 + b) * 256 + c) * 256 + d) :: words rest
  | _ => []

/-- The sixteen-word blocks of a padded message. -/
def compress : ℕ → List Word → Hash → Hash
  | 0, _, s => s
  | n + 1, ws, s => compress n (ws.drop 16) (s.add (rounds round_constants (ws.take 16) s))

/-- The message, a one bit, zeros, and the length in bits as eight bytes. -/
def pad (message : List ℕ) : List ℕ :=
  let zeros := (119 - message.length % 64) % 64
  let bits := 8 * message.length
  message ++ 0x80 :: List.replicate zeros 0 ++
    [56, 48, 40, 32, 24, 16, 8, 0].map fun shift => bits / 2 ^ shift % 256

/-- The hash value of a message. -/
def hash (message : List ℕ) : Hash :=
  let padded := words (pad message)
  compress (padded.length / 16) padded Hash.initial

/-- A word as eight hexadecimal digits. -/
def hex (w : Word) : List Char :=
  [28, 24, 20, 16, 12, 8, 4, 0].map fun shift => (w.toNat / 2 ^ shift % 16).digitChar

/-- `hashlib.sha256(message).hexdigest()`. -/
def hexdigest (message : List ℕ) : String :=
  let s := hash message
  String.ofList ([s.a, s.b, s.c, s.d, s.e, s.f, s.g, s.h].flatMap hex)

example : hexdigest [0x61, 0x62, 0x63] =
    "ba7816bf8f01cfea414140de5dae2223b00361a396177a9cb410ff61f20015ad" := by decide +kernel

end AppContracts.Sha256
