/-
# The messages and contexts of a session

`remote-protocol/src/security.rs` and `permissions.rs`: roles, transport paths
and directions with their names, the permissions of a session, and the byte
strings of the session context, the signed key exchange, the key confirmation
and the key derivation context. Each of these is a domain and a list of fields, and
the fields give the record back (`fields_inj`).
-/
import Rctl.Protocol.Canonical

namespace Rctl

open ByteString Rctl.Field

inductive SessionRole
  | controller
  | controlled
  deriving DecidableEq, Repr

namespace SessionRole

def asStr : SessionRole → String
  | controller => "controller"
  | controlled => "controlled"

theorem asStr_inj {a b : SessionRole} (h : a.asStr = b.asStr) : a = b := by
  revert h; cases a <;> cases b <;> decide

def opposite : SessionRole → SessionRole
  | controller => controlled
  | controlled => controller

@[simp] theorem opposite_opposite (r : SessionRole) : r.opposite.opposite = r := by cases r <;> rfl

@[simp] theorem opposite_ne (r : SessionRole) : r.opposite ≠ r := by cases r <;> decide

end SessionRole

inductive TransportPath
  | lanDirect
  | udpP2p
  | quicRelay
  | tls443Relay
  deriving DecidableEq, Repr

namespace TransportPath

def asStr : TransportPath → String
  | lanDirect => "lan_direct"
  | udpP2p => "udp_p2p"
  | quicRelay => "quic_relay"
  | tls443Relay => "tls_443_relay"

theorem asStr_inj {a b : TransportPath} (h : a.asStr = b.asStr) : a = b := by
  revert h; cases a <;> cases b <;> decide

def isRelay : TransportPath → Bool
  | quicRelay | tls443Relay => true
  | _ => false

end TransportPath

inductive TrafficDirection
  | controllerToControlled
  | controlledToController
  deriving DecidableEq, Repr

namespace TrafficDirection

def asStr : TrafficDirection → String
  | controllerToControlled => "controller_to_controlled"
  | controlledToController => "controlled_to_controller"

def fromSenderRole : SessionRole → TrafficDirection
  | .controller => controllerToControlled
  | .controlled => controlledToController

def reverse : TrafficDirection → TrafficDirection
  | controllerToControlled => controlledToController
  | controlledToController => controllerToControlled

/-- What the peer sends is what one receives. -/
theorem reverse_fromSenderRole (r : SessionRole) :
    (fromSenderRole r).reverse = fromSenderRole r.opposite := by cases r <;> rfl

end TrafficDirection

structure SessionPermissions where
  remoteDesktop : Bool
  inputControl : Bool
  clipboard : Bool
  fileTransfer : Bool
  unattended : Bool
  privacyScreen : Bool
  blockLocalInput : Bool
  requirePrompt : Bool
  allowRelay : Bool
  deriving DecidableEq, Repr

/-- The permissions have no domain field. -/
def SessionPermissions.canonicalBytes (p : SessionPermissions) : Except CanonicalError Bytes := do
  let w ← CanonicalWriter.withoutDomain.pushFields
    [.bool "remote_desktop" p.remoteDesktop,
     .bool "input_control" p.inputControl,
     .bool "clipboard" p.clipboard,
     .bool "file_transfer" p.fileTransfer,
     .bool "unattended" p.unattended,
     .bool "privacy_screen" p.privacyScreen,
     .bool "block_local_input" p.blockLocalInput,
     .bool "require_prompt" p.requirePrompt,
     .bool "allow_relay" p.allowRelay]
  return w.finish

/-! ### The session context -/

@[ext] structure SessionContext where
  accountId : String
  sessionId : U128
  controllerDeviceId : String
  controlledDeviceId : String
  permissionsDigest : Digest
  protocolVersion : UInt16
  sessionExpiresAtEpochMillis : UInt64
  deriving DecidableEq

namespace SessionContext

def fields (c : SessionContext) : List Field :=
  [.str "account_id" c.accountId,
   .u128 "session_id" c.sessionId,
   .str "controller_device_id" c.controllerDeviceId,
   .str "controlled_device_id" c.controlledDeviceId,
   .array "permissions_digest" c.permissionsDigest,
   .u16 "protocol_version" c.protocolVersion,
   .u64 "session_expires_at_epoch_millis" c.sessionExpiresAtEpochMillis]

def canonicalBytes (c : SessionContext) : Except CanonicalError Bytes :=
  canonicalEncode "rctl-session-context-v1" c.fields

theorem fields_inj {c c' : SessionContext} (h : c.fields = c'.fields) : c = c' := by
  simp only [fields, List.cons.injEq, str_inj, u128_inj, array_inj, u16_inj, u64_inj, and_true] at h
  obtain ⟨h1, h2, h3, h4, h5, h6, h7⟩ := h
  exact SessionContext.ext h1 h2 h3 h4 h5 h6 h7

end SessionContext

/-! ### The signed key exchange -/

@[ext] structure SignedKeyExchangePayload where
  sessionId : U128
  deviceId : String
  role : SessionRole
  sessionContextHash : Digest
  permissionsDigest : Digest
  sessionExpiresAtEpochMillis : UInt64
  ephemeralPublicKey : Digest
  keyExchangeNonce : Digest
  selectedTransportPath : TransportPath
  selectedCandidatePairId : U128
  relayNodeId : Option String
  timestampEpochMillis : UInt64
  deriving DecidableEq

namespace SignedKeyExchangePayload

def fields (p : SignedKeyExchangePayload) : List Field :=
  [.u128 "session_id" p.sessionId,
   .str "device_id" p.deviceId,
   .str "role" p.role.asStr,
   .array "session_context_hash" p.sessionContextHash,
   .array "permissions_digest" p.permissionsDigest,
   .u64 "session_expires_at_epoch_millis" p.sessionExpiresAtEpochMillis,
   .array "ephemeral_public_key" p.ephemeralPublicKey,
   .array "key_exchange_nonce" p.keyExchangeNonce,
   .str "selected_transport_path" p.selectedTransportPath.asStr,
   .u128 "selected_candidate_pair_id" p.selectedCandidatePairId,
   .optionalStr "relay_node_id" p.relayNodeId,
   .u64 "timestamp" p.timestampEpochMillis]

def canonicalBytes (p : SignedKeyExchangePayload) : Except CanonicalError Bytes :=
  canonicalEncode "rctl-signed-key-exchange-v1" p.fields

def validatePathBinding (p : SignedKeyExchangePayload) : Bool :=
  p.selectedTransportPath.isRelay == p.relayNodeId.isSome

/-- The transport path is among the fields and tells whether a relay node is
named, so an absent node is not taken for one with an empty name. -/
theorem fields_inj {p p' : SignedKeyExchangePayload} (hp : p.validatePathBinding = true)
    (hp' : p'.validatePathBinding = true) (h : p.fields = p'.fields) : p = p' := by
  simp only [fields, List.cons.injEq, str_inj, u128_inj, array_inj, u64_inj, and_true] at h
  obtain ⟨h1, h2, h3, h4, h5, h6, h7, h8, h9, h10, h11, h12⟩ := h
  have hpt := TransportPath.asStr_inj h9
  simp only [validatePathBinding, beq_iff_eq] at hp hp'
  exact SignedKeyExchangePayload.ext h1 h2 (SessionRole.asStr_inj h3) h4 h5 h6 h7 h8 hpt h10
    (optionalStr_inj (by rw [← hp, ← hp', hpt]) h11) h12

end SignedKeyExchangePayload

structure SignedKeyExchange where
  payload : SignedKeyExchangePayload
  signature : Bytes
  deriving DecidableEq

def SignedKeyExchange.signatureBytes (m : SignedKeyExchange) : Option (ByteArr 64) :=
  if h : m.signature.length = 64 then some ⟨m.signature.toArray, h⟩ else none

/-! ### The key confirmation -/

structure KeyConfirm where
  sessionId : U128
  deviceId : String
  role : SessionRole
  keyExchangeTranscriptHash : Digest
  confirmMac : Digest
  timestampEpochMillis : UInt64
  deriving DecidableEq

namespace KeyConfirm

/-- What the MAC covers: everything but the MAC. -/
def fields (c : KeyConfirm) : List Field :=
  [.u128 "session_id" c.sessionId,
   .str "device_id" c.deviceId,
   .str "role" c.role.asStr,
   .array "key_exchange_transcript_hash" c.keyExchangeTranscriptHash,
   .u64 "timestamp" c.timestampEpochMillis]

def canonicalMacInput (c : KeyConfirm) : Except CanonicalError Bytes :=
  canonicalEncode "rctl-key-confirm-v1" c.fields

end KeyConfirm

/-! ### The key derivation context -/

structure SessionKdfContext where
  accountId : String
  sessionId : U128
  controllerDeviceId : String
  controlledDeviceId : String
  permissionsDigest : Digest
  protocolVersion : UInt16
  sessionExpiresAtEpochMillis : UInt64
  selectedTransportPath : TransportPath
  selectedCandidatePairId : U128
  relayNodeId : Option String
  keyExchangeTranscriptHash : Digest
  deriving DecidableEq

namespace SessionKdfContext

def saltFields (c : SessionKdfContext) : List Field :=
  [.u128 "session_id" c.sessionId,
   .str "controller_device_id" c.controllerDeviceId,
   .str "controlled_device_id" c.controlledDeviceId,
   .array "permissions_digest" c.permissionsDigest,
   .u64 "session_expires_at_epoch_millis" c.sessionExpiresAtEpochMillis]

def saltCanonicalBytes (c : SessionKdfContext) : Except CanonicalError Bytes :=
  canonicalEncode "rctl-hkdf-salt-v1" c.saltFields

def infoFields (c : SessionKdfContext) : List Field :=
  [.str "account_id" c.accountId,
   .u128 "session_id" c.sessionId,
   .str "controller_device_id" c.controllerDeviceId,
   .str "controlled_device_id" c.controlledDeviceId,
   .array "permissions_digest" c.permissionsDigest,
   .u16 "protocol_version" c.protocolVersion,
   .u64 "session_expires_at_epoch_millis" c.sessionExpiresAtEpochMillis,
   .str "selected_transport_path" c.selectedTransportPath.asStr,
   .u128 "selected_candidate_pair_id" c.selectedCandidatePairId,
   .optionalStr "relay_node_id" c.relayNodeId,
   .array "key_exchange_transcript_hash" c.keyExchangeTranscriptHash]

def infoBase (c : SessionKdfContext) : Except CanonicalError Bytes :=
  canonicalEncode "rctl-session-v1" c.infoFields

end SessionKdfContext

end Rctl
