/-
# Session keys and key confirmation

`remote-crypto/src/session.rs`: the digests of the permissions and of the session
context, the transcript of the key exchange, the keys derived from the shared
secret, and the confirmation each side sends to prove that it derived them.
-/
import Rctl.Protocol.Security
import Rctl.Crypto.Identity

namespace Rctl

open ByteString Result

def KEY_CONFIRM_WINDOW_MILLIS : UInt64 := 30000

structure DerivedSessionKeys where
  controllerToControlledKey : ByteArr 32
  controllerToControlledNoncePrefix : ByteArr 4
  controlledToControllerKey : ByteArr 32
  controlledToControllerNoncePrefix : ByteArr 4
  keyConfirmationControllerToControlled : ByteArr 32
  keyConfirmationControlledToController : ByteArr 32
  deriving DecidableEq

namespace DerivedSessionKeys

def trafficKey (k : DerivedSessionKeys) : TrafficDirection → ByteArr 32
  | .controllerToControlled => k.controllerToControlledKey
  | .controlledToController => k.controlledToControllerKey

def noncePrefix (k : DerivedSessionKeys) : TrafficDirection → ByteArr 4
  | .controllerToControlled => k.controllerToControlledNoncePrefix
  | .controlledToController => k.controlledToControllerNoncePrefix

def confirmationKey (k : DerivedSessionKeys) : TrafficDirection → ByteArr 32
  | .controllerToControlled => k.keyConfirmationControllerToControlled
  | .controlledToController => k.keyConfirmationControlledToController

end DerivedSessionKeys

def absDiff (a b : UInt64) : UInt64 := if a < b then b - a else a - b

variable (P : Primitives)

def permissionsDigest (permissions : SessionPermissions) : Except CryptoError Digest := do
  let bytes ← permissions.canonicalBytes.mapError fun _ => CryptoError.canonicalEncoding
  return P.sha256 bytes

def sessionContextHash (context : SessionContext) : Except CryptoError Digest := do
  let bytes ← context.canonicalBytes.mapError fun _ => CryptoError.canonicalEncoding
  return P.sha256 bytes

theorem sessionContextHash_eq_ok {ctx : SessionContext} {d : Digest} : sessionContextHash P ctx = .ok d ↔
      ∃ bs, ctx.canonicalBytes = .ok bs ∧ P.sha256 bs = d := by
  simp only [sessionContextHash, bind_eq_ok, mapError_eq_ok, pure_eq_ok]

/-- The hash over both messages, the controller's first whoever computes it. -/
def keyExchangeTranscriptHash (controller controlled : SignedKeyExchange) :
    Except CryptoError Digest := do
  ensure (controller.payload.role = .controller && controlled.payload.role = .controlled)
    .deviceRoleMismatch
  let controllerCanonical ←
    controller.payload.canonicalBytes.mapError fun _ => CryptoError.canonicalEncoding
  let controlledCanonical ←
    controlled.payload.canonicalBytes.mapError fun _ => CryptoError.canonicalEncoding
  let controllerSignature ← okOr controller.signatureBytes .invalidSignature
  let controlledSignature ← okOr controlled.signatureBytes .invalidSignature
  return P.sha256 (controllerCanonical ++ controllerSignature.toList ++ controlledCanonical ++
    controlledSignature.toList)

/-- `expand`: the info is the context's bytes followed by the label. -/
def expand (n : ℕ) (salt sharedSecret : Digest) (infoBase : Bytes) (label : String) :
    Except CryptoError (ByteArr n) :=
  okOr (P.hkdfExpand salt sharedSecret (infoBase ++ utf8 label) n) .keyDerivation

def deriveSessionKeys (sharedSecret : Digest) (context : SessionKdfContext) :
    Except CryptoError DerivedSessionKeys := do
  ensure (context.selectedTransportPath.isRelay == context.relayNodeId.isSome)
    .invalidKeyExchangeContext
  let saltBytes ← context.saltCanonicalBytes.mapError fun _ => CryptoError.canonicalEncoding
  let salt := P.sha256 saltBytes
  let infoBase ← context.infoBase.mapError fun _ => CryptoError.canonicalEncoding
  let controllerToControlledKey ←
    expand P 32 salt sharedSecret infoBase "controller_to_controlled_key"
  let controllerToControlledNoncePrefix ←
    expand P 4 salt sharedSecret infoBase "controller_to_controlled_nonce_prefix"
  let controlledToControllerKey ←
    expand P 32 salt sharedSecret infoBase "controlled_to_controller_key"
  let controlledToControllerNoncePrefix ←
    expand P 4 salt sharedSecret infoBase "controlled_to_controller_nonce_prefix"
  let keyConfirmationControllerToControlled ←
    expand P 32 salt sharedSecret infoBase "key_confirmation_controller_to_controlled"
  let keyConfirmationControlledToController ←
    expand P 32 salt sharedSecret infoBase "key_confirmation_controlled_to_controller"
  return ⟨controllerToControlledKey, controllerToControlledNoncePrefix, controlledToControllerKey,
    controlledToControllerNoncePrefix, keyConfirmationControllerToControlled,
    keyConfirmationControlledToController⟩

/-! ### Key confirmation -/

def createKeyConfirm (sessionId : U128) (deviceId : String) (role : SessionRole)
    (transcriptHash : Digest) (timestampEpochMillis : UInt64) (keys : DerivedSessionKeys) :
    Except CryptoError KeyConfirm := do
  let confirm : KeyConfirm :=
    { sessionId, deviceId, role, keyExchangeTranscriptHash := transcriptHash,
      confirmMac := Vector.replicate 32 0, timestampEpochMillis }
  let canonical ← confirm.canonicalMacInput.mapError fun _ => CryptoError.canonicalEncoding
  let direction := TrafficDirection.fromSenderRole role
  let mac ← okOr (P.hmacSha256 (keys.confirmationKey direction) canonical) .keyDerivation
  return { confirm with confirmMac := mac }

theorem createKeyConfirm_eq_ok {P : Primitives} {sessionId : U128} {deviceId : String} {role : SessionRole}
    {hash : Digest} {ts : UInt64} {keys : DerivedSessionKeys} {c : KeyConfirm}
    (h : createKeyConfirm P sessionId deviceId role hash ts keys = .ok c) :
    c.sessionId = sessionId ∧ c.deviceId = deviceId ∧ c.role = role ∧
      c.keyExchangeTranscriptHash = hash ∧ c.timestampEpochMillis = ts ∧
      ∃ canonical, c.canonicalMacInput = .ok canonical ∧
        P.hmacSha256 (keys.confirmationKey (.fromSenderRole role)) canonical = some c.confirmMac := by
  simp only [createKeyConfirm, bind_eq_ok, mapError_eq_ok, okOr_eq_ok, pure_eq_ok] at h
  obtain ⟨canonical, hc, mac, hmac, rfl⟩ := h
  exact ⟨rfl, rfl, rfl, rfl, rfl, canonical, hc, hmac⟩

structure KeyConfirmReplayGuard where
  accepted : List Digest
  deriving DecidableEq

namespace KeyConfirmReplayGuard

def default : KeyConfirmReplayGuard := ⟨[]⟩

/-- The guard with the confirmation recorded; a failure leaves it as it was. -/
def verify (g : KeyConfirmReplayGuard) (confirm : KeyConfirm) (expectedDeviceId : String)
    (expectedRole : SessionRole) (expectedTranscriptHash : Digest) (nowEpochMillis : UInt64)
    (keys : DerivedSessionKeys) : Except CryptoError KeyConfirmReplayGuard := do
  ensure (confirm.deviceId = expectedDeviceId && confirm.role = expectedRole) .deviceRoleMismatch
  ensure (confirm.keyExchangeTranscriptHash = expectedTranscriptHash) .invalidKeyExchangeContext
  ensure (absDiff nowEpochMillis confirm.timestampEpochMillis ≤ KEY_CONFIRM_WINDOW_MILLIS)
    .timestampOutsideWindow
  let canonical ← confirm.canonicalMacInput.mapError fun _ => CryptoError.canonicalEncoding
  let direction := TrafficDirection.fromSenderRole confirm.role
  let mac ← okOr (P.hmacSha256 (keys.confirmationKey direction) canonical) .keyDerivation
  ensure (mac = confirm.confirmMac) .authenticationFailed
  let fingerprint := P.sha256 (canonical ++ confirm.confirmMac.toList)
  ensure (!g.accepted.contains fingerprint) .replayDetected
  return ⟨fingerprint :: g.accepted⟩

/-- A confirmation with the expected binding and a good MAC is accepted in its
window, if it was not accepted before. -/
theorem verify_ok {P : Primitives} {c : KeyConfirm} {now : UInt64} {keys : DerivedSessionKeys}
    {canonical : Bytes} (hc : c.canonicalMacInput = .ok canonical)
    (hmac : P.hmacSha256 (keys.confirmationKey (.fromSenderRole c.role)) canonical = some c.confirmMac)
    (hw : absDiff now c.timestampEpochMillis ≤ KEY_CONFIRM_WINDOW_MILLIS) :
    ∃ g, default.verify P c c.deviceId c.role c.keyExchangeTranscriptHash now keys = .ok g := by
  refine ⟨⟨[P.sha256 (canonical ++ c.confirmMac.toList)]⟩, ?_⟩
  simp only [verify, bind_eq_ok, ensure_eq_ok, okOr_eq_ok, mapError_eq_ok]
  exact ⟨(), by simp, (), by simp, (), decide_eq_true hw, canonical, hc, _, hmac, (), by simp, (), by simp [default],
    rfl⟩

end KeyConfirmReplayGuard

end Rctl
