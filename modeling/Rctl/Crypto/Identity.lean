/-
# Cryptographic primitives, device signatures and ephemeral keys

`remote-crypto/src/lib.rs` and `identity.rs`. SHA-256, HMAC, HKDF, the AEAD
cipher, Ed25519 and X25519 come from other crates: they are the fields of
`Primitives`, and a result that needs one of their properties names it.
-/
import Rctl.Lib.Result
import Rctl.Protocol.Canonical

namespace Rctl

open ByteString Result

inductive CryptoError
  | invalidPublicKey
  | invalidSignature
  | signatureMismatch
  | canonicalEncoding
  | invalidKeyExchangeContext
  | nonContributoryKeyExchange
  | keyDerivation
  | authenticationFailed
  | invalidChannel
  | invalidPayloadLength
  | sequenceExhausted
  | replayDetected
  | messageTooOld
  | timestampOutsideWindow
  | deviceRoleMismatch
  deriving DecidableEq, Repr

/-- The functions the crates call and do not define. -/
structure Primitives where
  sha256 : Bytes → Digest
  /-- `Hmac::<Sha256>` of a message under a key; `none` if the key is refused. -/
  hmacSha256 : ByteArr 32 → Bytes → Option Digest
  /-- `Hkdf::<Sha256>::new(salt, secret)` expanded with `info` to `n` bytes. -/
  hkdfExpand : (salt secret : Digest) → (info : Bytes) → (n : ℕ) → Option (ByteArr n)
  /-- ChaCha20-Poly1305: key, nonce, associated data, plaintext. -/
  aeadEncrypt : ByteArr 32 → ByteArr 12 → Bytes → Bytes → Option Bytes
  /-- ChaCha20-Poly1305: key, nonce, associated data, ciphertext. -/
  aeadDecrypt : ByteArr 32 → ByteArr 12 → Bytes → Bytes → Option Bytes
  /-- `VerifyingKey::from_bytes` accepts the key. -/
  ed25519Key : ByteArr 32 → Bool
  ed25519Verify : ByteArr 32 → Digest → ByteArr 64 → Bool
  x25519Public : ByteArr 32 → ByteArr 32
  /-- The X25519 shared secret of a secret and a public key. -/
  x25519 : ByteArr 32 → ByteArr 32 → ByteArr 32

variable (P : Primitives)

def verifyDigestSignature (publicKey : ByteArr 32) (digest : Digest) (signature : ByteArr 64) :
    Except CryptoError Unit := do
  ensure (P.ed25519Key publicKey) .invalidPublicKey
  ensure (P.ed25519Verify publicKey digest signature) .signatureMismatch

def verifyCanonicalSignature (publicKey : ByteArr 32) (canonicalBytes : Bytes)
    (signature : ByteArr 64) : Except CryptoError Unit :=
  verifyDigestSignature P publicKey (P.sha256 canonicalBytes) signature

theorem verifyCanonicalSignature_eq_ok {pk : ByteArr 32} {canonical : Bytes} {sig : ByteArr 64} :
    verifyCanonicalSignature P pk canonical sig = .ok () ↔ P.ed25519Key pk = true ∧
        P.ed25519Verify pk (P.sha256 canonical) sig = true := by
  simp [verifyCanonicalSignature, verifyDigestSignature, bind_eq_ok, ensure_eq_ok]

structure EphemeralKeyPair where
  secret : ByteArr 32
  publicKey : ByteArr 32
  deriving DecidableEq

namespace EphemeralKeyPair

def fromSecretBytes (secret : ByteArr 32) : EphemeralKeyPair := ⟨secret, P.x25519Public secret⟩

/-- The shared secret, unless it is zero. -/
def diffieHellman (k : EphemeralKeyPair) (peerPublicKey : ByteArr 32) :
    Except CryptoError (ByteArr 32) := do
  let sharedSecret := P.x25519 k.secret peerPublicKey
  ensure (sharedSecret ≠ Vector.replicate 32 0) .nonContributoryKeyExchange
  return sharedSecret

end EphemeralKeyPair

end Rctl
