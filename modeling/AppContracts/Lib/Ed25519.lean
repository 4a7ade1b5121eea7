/-
Ed25519, as far as code that signs and verifies with it depends on it.

`verify` is whether `Ed25519PublicKey.from_public_bytes(key).verify(signature, message)`
returns; a key or a signature it refuses makes it raise.
-/
import Mathlib.Data.List.Basic

set_option autoImplicit false

namespace AppContracts

/-- A signature scheme over byte strings. -/
structure Ed25519 : Type 1 where
  PrivateKey : Type
  public_bytes : PrivateKey → List UInt8
  sign : PrivateKey → List UInt8 → List UInt8
  verify : List UInt8 → List UInt8 → List UInt8 → Bool

/-- What signers and verifiers rely on: the sizes of keys and signatures, and that
a signature verifies under the public key of its signer. -/
structure Ed25519.Lawful (ed : Ed25519) : Prop where
  length_public : ∀ key, (ed.public_bytes key).length = 32
  length_sign : ∀ key message, (ed.sign key message).length = 64
  verify_sign : ∀ key message, ed.verify (ed.public_bytes key) (ed.sign key message) message = true

end AppContracts
