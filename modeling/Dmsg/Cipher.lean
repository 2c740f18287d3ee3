import Mathlib.Data.List.Basic

/-!
# Keys, signatures and addresses

The cipher module is outside this package: keys, signatures and hashes are
fixed-width byte strings of which the package uses equality, the null check,
signing and verification.  The primitives are a structure of functions, and
`Cipher.Correct` is the one property of them the handshake relies on.
-/

namespace Dmsg

/-- A fixed-width byte string of the cipher module (`[n]byte`). -/
structure Bytes (n : Nat) where
  data : List UInt8
  length_eq : data.length = n
  deriving DecidableEq

/-- The zero value of `[n]byte`. -/
def Bytes.zero (n : Nat) : Bytes n := ⟨List.replicate n 0, List.length_replicate _ _⟩

instance (n : Nat) : Inhabited (Bytes n) := ⟨Bytes.zero n⟩

/-- `Null`: equal to the zero value. -/
def Bytes.null {n : Nat} (b : Bytes n) : Bool := b == Bytes.zero n

@[simp] theorem Bytes.null_eq_true {n : Nat} (b : Bytes n) : b.null = true ↔ b = Bytes.zero n := by
  simp [Bytes.null]

@[simp] theorem Bytes.null_eq_false {n : Nat} (b : Bytes n) :
    b.null = false ↔ b ≠ Bytes.zero n := by
  simp [Bytes.null]

/-- `cipher.PubKey`, a compressed curve point. -/
abbrev PubKey := Bytes 33

/-- `cipher.SecKey`. -/
abbrev SecKey := Bytes 32

/-- `cipher.Sig`. -/
abbrev Sig := Bytes 65

/-- `cipher.SHA256`. -/
abbrev SHA256 := Bytes 32

/-- The cipher primitives the package calls. -/
structure Cipher where
  /-- The public key of a secret key. -/
  pubKey : SecKey → PubKey
  /-- `cipher.SignPayload`. -/
  signPayload : List UInt8 → SecKey → Except String Sig
  /-- `cipher.VerifyPubKeySignedPayload`. -/
  verifyPubKeySignedPayload : PubKey → Sig → List UInt8 → Except String Unit
  /-- `cipher.SumSHA256`. -/
  sumSHA256 : List UInt8 → SHA256

/-- A signature made with a secret key verifies, over the same bytes, under its public key. -/
def Cipher.Correct (c : Cipher) : Prop :=
  ∀ b sk s, c.signPayload b sk = .ok s → c.verifyPubKeySignedPayload (c.pubKey sk) s b = .ok ()

/-- `Addr`: a public key and a port; port `0` is unbound. -/
structure Addr where
  pk : PubKey
  port : UInt16
  deriving DecidableEq

end Dmsg
