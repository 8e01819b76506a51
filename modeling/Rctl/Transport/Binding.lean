/-
# Candidates, relay allocations and what their tokens bind

`remote-transport/src/binding.rs` with the records of
`remote-protocol/src/candidates.rs` it reads: the identifiers of a candidate and of
a pair of candidates are prefixes of hashes over their canonical bytes, and the
tokens of candidates and relays are bound to hashes of the same kind. So is the
claim of a local interface (`remote-transport/src/candidates.rs`).
-/
import Rctl.Protocol.Security
import Rctl.Crypto.Identity

namespace Rctl

open ByteString Result

inductive CandidateSource
  | localInterface
  | udpObserved
  | relayAllocated
  deriving DecidableEq, Repr

namespace CandidateSource

def asStr : CandidateSource → String
  | localInterface => "local_interface"
  | udpObserved => "udp_observed"
  | relayAllocated => "relay_allocated"

theorem asStr_inj {a b : CandidateSource} (h : a.asStr = b.asStr) : a = b := by
  revert h; cases a <;> cases b <;> decide

end CandidateSource

structure ConnectionCandidateDto where
  candidateId : U128
  sessionId : U128
  deviceId : String
  role : SessionRole
  kind : TransportPath
  endpoint : String
  source : CandidateSource
  observeResultId : Option String
  priority : UInt32
  rttMs : Option UInt32
  lossPpm : Option UInt32
  jitterMs : Option UInt32
  relayNodeId : Option String
  deriving DecidableEq

structure RelayAllocation where
  sessionId : U128
  deviceId : String
  role : SessionRole
  controllerDeviceId : String
  controlledDeviceId : String
  relayNodeId : String
  transport : TransportPath
  publicEndpoint : String
  permissionsDigest : Digest
  relayTokenEpoch : UInt64
  issuedAtEpochMillis : UInt64
  expiresAtEpochMillis : UInt64
  relayTokenId : String
  sessionRelayToken : Bytes
  tokenBindingHash : Digest
  deriving DecidableEq

structure RelayOpen where
  sessionId : U128
  deviceId : String
  role : SessionRole
  controllerDeviceId : String
  controlledDeviceId : String
  relayNodeId : String
  transport : TransportPath
  permissionsDigest : Digest
  relayTokenEpoch : UInt64
  issuedAtEpochMillis : UInt64
  expiresAtEpochMillis : UInt64
  relayTokenId : String
  relayOpenNonce : Digest
  sessionRelayToken : Bytes
  tokenBindingHash : Digest
  deviceSignature : Bytes
  deriving DecidableEq

def saturatingSub (a b : UInt64) : UInt64 := if b ≤ a then a - b else 0

theorem saturatingSub_toNat (a b : UInt64) : (saturatingSub a b).toNat = a.toNat - b.toNat := by
  rw [saturatingSub]
  split_ifs with hlt
  · exact UInt64.toNat_sub_of_le _ _ ‹_›
  · have := UInt64.lt_iff_toNat_lt.mp (UInt64.not_le.mp hlt)
    rw [UInt64.toNat_zero]
    omega

/-- `try_into` an array. -/
def toByteArr (n : ℕ) (bytes : Bytes) : Option (ByteArr n) :=
  if h : bytes.length = n then some ⟨bytes.toArray, h⟩ else none

inductive BindingError
  | canonicalEncoding
  | candidateIdMismatch
  | invalidCandidateKindSource
  | invalidRelayNodeBinding
  | tokenMismatch
  | tokenBindingMismatch
  | tokenExpired
  | tokenTtlExceeded
  | tokenSignatureInvalid
  | authorizationExpired
  | sessionClosed
  | relayNotAllowed
  | relayNodeNotAllowed
  | relayEpochMismatch
  | permissionsMismatch
  | deviceMismatch
  | deviceKeyVersionMismatch
  | deviceKeyRevoked
  | deviceSignatureInvalid
  | nonceReplay
  | probeReplay
  | probeRateLimited
  | invalidEndpoint
  | lanAddressForbidden
  | lanPortForbidden
  | lanClaimMissing
  | probeRoleMismatch
  | probeMalformed
  | lanNotRoutable
  | invalidState
  deriving DecidableEq, Repr

/-- The first 16 bytes of a hash, as a number. -/
def hashPrefix (digest : Digest) : U128 := BitVec.ofNat 128 (fromBeBytes (digest.toList.take 16))

/-! ### Candidates -/

def validateCandidateShape (c : ConnectionCandidateDto) : Except BindingError Unit := do
  ensure (match c.kind, c.source with
    | .lanDirect, .localInterface | .udpP2p, .udpObserved | .quicRelay, .relayAllocated
    | .tls443Relay, .relayAllocated => true
    | _, _ => false) .invalidCandidateKindSource
  ensure (c.kind.isRelay == c.relayNodeId.isSome) .invalidRelayNodeBinding
  ensure ((c.source == .udpObserved) == c.observeResultId.isSome) .invalidCandidateKindSource

def candidateIdFields (c : ConnectionCandidateDto) : List Field :=
  [.u128 "session_id" c.sessionId,
   .str "device_id" c.deviceId,
   .str "role" c.role.asStr,
   .str "kind" c.kind.asStr,
   .str "endpoint" c.endpoint,
   .str "source" c.source.asStr,
   .optionalStr "relay_node_id" c.relayNodeId]

/-- The bytes hashed by `candidate_id`. -/
def candidateIdBytes (c : ConnectionCandidateDto) : Except BindingError Bytes := do
  validateCandidateShape c
  (canonicalEncode "rctl-candidate-id-v1" (candidateIdFields c)).mapError fun _ => .canonicalEncoding

def candidateId (P : Primitives) (c : ConnectionCandidateDto) : Except BindingError U128 := do
  let bytes ← candidateIdBytes c
  return hashPrefix (P.sha256 bytes)

def candidatePairIdFields (sessionId controllerCandidateId controlledCandidateId : U128)
    (selectedTransportPath : TransportPath) (relayNodeId : Option String) : List Field :=
  [.u128 "session_id" sessionId,
   .u128 "controller_candidate_id" controllerCandidateId,
   .u128 "controlled_candidate_id" controlledCandidateId,
   .str "selected_transport_path" selectedTransportPath.asStr,
   .optionalStr "relay_node_id" relayNodeId]

/-- The bytes hashed by `candidate_pair_id`. -/
def candidatePairIdBytes (sessionId controllerCandidateId controlledCandidateId : U128)
    (selectedTransportPath : TransportPath) (relayNodeId : Option String) :
    Except BindingError Bytes := do
  ensure (selectedTransportPath.isRelay == relayNodeId.isSome) .invalidRelayNodeBinding
  (canonicalEncode "rctl-candidate-pair-id-v1" (candidatePairIdFields sessionId controllerCandidateId
    controlledCandidateId selectedTransportPath relayNodeId)).mapError fun _ => .canonicalEncoding

def candidatePairId (P : Primitives) (sessionId controllerCandidateId controlledCandidateId : U128)
    (selectedTransportPath : TransportPath) (relayNodeId : Option String) :
    Except BindingError U128 := do
  let bytes ← candidatePairIdBytes sessionId controllerCandidateId controlledCandidateId
    selectedTransportPath relayNodeId
  return hashPrefix (P.sha256 bytes)

def candidateTokenFields (c : ConnectionCandidateDto) (expiresAtEpochMillis : UInt64) : List Field :=
  [.u128 "session_id" c.sessionId,
   .str "device_id" c.deviceId,
   .str "role" c.role.asStr,
   .u128 "candidate_id" c.candidateId,
   .str "kind" c.kind.asStr,
   .str "endpoint" c.endpoint,
   .str "source" c.source.asStr,
   .optionalStr "observe_result_id" c.observeResultId,
   .u64 "expires_at_epoch_millis" expiresAtEpochMillis]

/-- The bytes hashed by `candidate_token_binding_hash`: the candidate must carry its
own identifier. -/
def candidateTokenBytes (P : Primitives) (c : ConnectionCandidateDto) (expiresAtEpochMillis : UInt64) :
    Except BindingError Bytes := do
  let recomputedId ← candidateId P c
  ensure (recomputedId = c.candidateId) .candidateIdMismatch
  (canonicalEncode "rctl-candidate-token-binding-v1"
    (candidateTokenFields c expiresAtEpochMillis)).mapError fun _ => .canonicalEncoding

def candidateTokenBindingHash (P : Primitives) (c : ConnectionCandidateDto)
    (expiresAtEpochMillis : UInt64) : Except BindingError Digest := do
  let bytes ← candidateTokenBytes P c expiresAtEpochMillis
  return P.sha256 bytes

structure CandidateAuthorization where
  candidateToken : Bytes
  candidateTokenBindingHash : Digest
  expiresAtEpochMillis : UInt64
  deriving DecidableEq

def CANDIDATE_TOKEN_MAX_TTL_MILLIS : UInt64 := 60000

/-- The lifetime left is `expires - now`, which is not negative when it is computed. -/
def validateCandidateAuthorization (P : Primitives) (c : ConnectionCandidateDto)
    (authorization : CandidateAuthorization)
    (nowEpochMillis : UInt64) : Except BindingError Unit := do
  ensure (nowEpochMillis ≤ authorization.expiresAtEpochMillis) .tokenExpired
  ensure (authorization.expiresAtEpochMillis - nowEpochMillis ≤ CANDIDATE_TOKEN_MAX_TTL_MILLIS) .tokenTtlExceeded
  let expected ← candidateTokenBindingHash P c authorization.expiresAtEpochMillis
  ensure (expected = authorization.candidateTokenBindingHash) .tokenBindingMismatch
  ensure (authorization.candidateToken ≠ []) .tokenMismatch

/-! ### The claim of a local interface -/

structure CandidateTokenRequest where
  sessionId : U128
  deviceId : String
  role : SessionRole
  candidateId : U128
  endpoint : String
  interfaceNameHash : Option Digest
  interfaceIndexHash : Option Digest
  localSocketNonce : Option Digest
  timestampEpochMillis : Option UInt64
  deriving DecidableEq

/-- The bytes hashed by `local_interface_claim_hash`. -/
def localInterfaceClaimBytes (request : CandidateTokenRequest) : Except BindingError Bytes := do
  let interfaceNameHash ← okOr request.interfaceNameHash .lanClaimMissing
  let interfaceIndexHash ← okOr request.interfaceIndexHash .lanClaimMissing
  let localSocketNonce ← okOr request.localSocketNonce .lanClaimMissing
  let timestamp ← okOr request.timestampEpochMillis .lanClaimMissing
  (canonicalEncode "rctl-local-interface-claim-v1"
    [.u128 "session_id" request.sessionId,
     .str "device_id" request.deviceId,
     .str "role" request.role.asStr,
     .u128 "candidate_id" request.candidateId,
     .str "endpoint" request.endpoint,
     .array "interface_name_hash" interfaceNameHash,
     .array "interface_index_hash" interfaceIndexHash,
     .array "local_socket_nonce" localSocketNonce,
     .u64 "timestamp_epoch_millis" timestamp]).mapError fun _ => .canonicalEncoding

/-! ### Relays -/

/-- `push_relay_binding_fields`. -/
def relayBindingFields (sessionId : U128) (deviceId : String) (role : SessionRole)
    (controllerDeviceId controlledDeviceId relayNodeId : String) (transport : TransportPath)
    (permissionsDigest : Digest) (relayTokenEpoch issuedAtEpochMillis expiresAtEpochMillis : UInt64)
    (relayTokenId : String) : List Field :=
  [.u128 "session_id" sessionId,
   .str "device_id" deviceId,
   .str "role" role.asStr,
   .str "controller_device_id" controllerDeviceId,
   .str "controlled_device_id" controlledDeviceId,
   .str "relay_node_id" relayNodeId,
   .str "transport" transport.asStr,
   .array "permissions_digest" permissionsDigest,
   .u64 "relay_token_epoch" relayTokenEpoch,
   .u64 "issued_at_epoch_millis" issuedAtEpochMillis,
   .u64 "expires_at_epoch_millis" expiresAtEpochMillis,
   .str "relay_token_id" relayTokenId]

def relayTokenFields (a : RelayAllocation) : List Field :=
  relayBindingFields a.sessionId a.deviceId a.role a.controllerDeviceId a.controlledDeviceId
    a.relayNodeId a.transport a.permissionsDigest a.relayTokenEpoch a.issuedAtEpochMillis
    a.expiresAtEpochMillis a.relayTokenId

/-- The bytes hashed by `relay_token_binding_hash`. -/
def relayTokenBytes (a : RelayAllocation) : Except BindingError Bytes := do
  ensure a.transport.isRelay .invalidRelayNodeBinding
  (canonicalEncode "rctl-relay-token-binding-v1" (relayTokenFields a)).mapError
    fun _ => .canonicalEncoding

def relayTokenBindingHash (P : Primitives) (a : RelayAllocation) : Except BindingError Digest := do
  let bytes ← relayTokenBytes a
  return P.sha256 bytes

def relayOpenFields (o : RelayOpen) : List Field :=
  relayBindingFields o.sessionId o.deviceId o.role o.controllerDeviceId o.controlledDeviceId
    o.relayNodeId o.transport o.permissionsDigest o.relayTokenEpoch o.issuedAtEpochMillis
    o.expiresAtEpochMillis o.relayTokenId ++
  [.array "relay_open_nonce" o.relayOpenNonce,
   ⟨"session_relay_token", o.sessionRelayToken⟩,
   .array "token_binding_hash" o.tokenBindingHash]

def relayOpenCanonicalBytes (o : RelayOpen) : Except BindingError Bytes :=
  (canonicalEncode "rctl-relay-open-v1" (relayOpenFields o)).mapError fun _ => .canonicalEncoding

end Rctl
