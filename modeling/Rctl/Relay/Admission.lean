/-
# Admission to the relay

`relay-server/src/lib.rs`, `authenticate_open`: a connection to the relay opens with a
`RelayOpen`. The relay checks its node and transport, its times, its role and its token, asks
the API server whether the device may use the session, checks the answer and the device's
signature, and records the nonce in its replay cache.

The call waits twice, for the answer of the API server and for the lock of the cache. Each
part between two waits is a function of its own here: `checkOpen`, `checkAuthorization` and
`recordReplay`.
-/
import Rctl.Api.Security
import Rctl.Transport.Messages

namespace Rctl.Relay

open ByteString Result OrdMap
open Std (ExtTreeMap TransCmp LawfulEqCmp)
open Rctl.Api (hexEncode saturatingAdd saturatingAdd_toNat)

def MAX_RELAY_TOKEN_TTL_MILLIS : UInt64 := 60000
def REPLAY_RETENTION_MILLIS : UInt64 := 60000
def MAX_REPLAY_ENTRIES : ℕ := 100000

structure RelayTokenClaims where
  sessionId : U128
  deviceId : String
  role : SessionRole
  controllerDeviceId : String
  controlledDeviceId : String
  relayNodeId : String
  transport : TransportPath
  permissionsDigest : Digest
  relayTokenEpoch : UInt64
  issuedAtEpochMillis : UInt64
  expiresAtEpochMillis : UInt64
  relayTokenId : String
  deriving DecidableEq

structure RelayEnv where
  sha256 : Bytes → Digest
  hmacSha256 : (key message : Bytes) → Option Digest
  base64UrlDecode : Bytes → Option Bytes
  /-- `serde_json::from_slice` for the claims of a token. -/
  claimsFromSlice : Bytes → Option RelayTokenClaims
  ed25519Key : ByteArr 32 → Bool
  ed25519Verify : ByteArr 32 → Digest → ByteArr 64 → Bool

structure AppConfig where
  relayNodeId : String
  relayTokenSecret : Bytes
  allowedTransports : List TransportPath
  deriving DecidableEq

structure RelayAuthorizeRequest where
  sessionId : String
  deviceId : String
  role : String
  permissionsDigest : String
  relayTokenEpoch : UInt64
  deriving DecidableEq

structure RelayAuthorization where
  authorized : Bool
  sessionId : String
  role : String
  controllerDeviceId : String
  controlledDeviceId : String
  permissionsDigest : String
  relayTokenEpoch : UInt64
  authorizationExpiresAtEpochMillis : UInt64
  devicePublicKey : String
  devicePublicKeyId : String
  devicePublicKeyVersion : UInt32
  deriving DecidableEq

structure AuthenticatedOpen where
  deviceId : String
  deriving DecidableEq, Repr

inductive AuthError
  | invalidToken
  | tokenBindingMismatch
  | tokenExpired
  | tokenTtlExceeded
  | roleMismatch
  | nodeMismatch
  | transportMismatch
  | authorizationUnavailable
  | authorizationRejected
  | authorizationBindingMismatch
  | authorizationExpired
  | invalidDeviceKey
  | invalidDeviceSignature
  | replayDetected
  | replayCacheFull
  deriving DecidableEq, Repr

/-! ### Texts -/

def hex (value : Bytes) : String := hexEncode value

def uuidString (value : U128) : String :=
  let digits := (hex (toBeBytes 16 value.toNat)).toList
  let slice (first last : ℕ) := (digits.take last).drop first
  String.ofList (List.intercalate ['-'] [slice 0 8, slice 8 12, slice 12 16, slice 16 20, slice 20 32])

theorem toByteArr_eq_some {n : ℕ} {bytes : Bytes} {array : ByteArr n} (h : toByteArr n bytes = some array) :
    array.toList = bytes := by
  unfold toByteArr at h
  split at h
  · cases h
    rfl
  · cases h

def decodeArray (env : RelayEnv) (n : ℕ) (value : String) : Option (ByteArr n) :=
  (env.base64UrlDecode (utf8 value)).bind (toByteArr n)

/-! ### The token -/

def claimsFromOpen (relayOpen : RelayOpen) : RelayTokenClaims where
  sessionId := relayOpen.sessionId
  deviceId := relayOpen.deviceId
  role := relayOpen.role
  controllerDeviceId := relayOpen.controllerDeviceId
  controlledDeviceId := relayOpen.controlledDeviceId
  relayNodeId := relayOpen.relayNodeId
  transport := relayOpen.transport
  permissionsDigest := relayOpen.permissionsDigest
  relayTokenEpoch := relayOpen.relayTokenEpoch
  issuedAtEpochMillis := relayOpen.issuedAtEpochMillis
  expiresAtEpochMillis := relayOpen.expiresAtEpochMillis
  relayTokenId := relayOpen.relayTokenId

/-- The payload and its MAC, both in base64, with a dot between them. -/
def verifyRelayToken (env : RelayEnv) (token secret : Bytes) : Except AuthError RelayTokenClaims := do
  ensure (String.fromUTF8? ⟨token.toArray⟩).isSome .invalidToken
  let (payload, encodedSignature) ← okOr (splitOnce 0x2e token) .invalidToken
  let signature ← okOr (env.base64UrlDecode encodedSignature) .invalidToken
  let mac ← okOr (env.hmacSha256 secret payload) .invalidToken
  ensure (mac.toList == signature) .invalidToken
  let payload ← okOr (env.base64UrlDecode payload) .invalidToken
  okOr (env.claimsFromSlice payload) .invalidToken

/-- The fields of `append_claim_fields`. -/
def claimFields (claims : RelayTokenClaims) : List Field :=
  [.u128 "session_id" claims.sessionId,
   .str "device_id" claims.deviceId,
   .str "role" claims.role.asStr,
   .str "controller_device_id" claims.controllerDeviceId,
   .str "controlled_device_id" claims.controlledDeviceId,
   .str "relay_node_id" claims.relayNodeId,
   .str "transport" claims.transport.asStr,
   .array "permissions_digest" claims.permissionsDigest,
   .u64 "relay_token_epoch" claims.relayTokenEpoch,
   .u64 "issued_at_epoch_millis" claims.issuedAtEpochMillis,
   .u64 "expires_at_epoch_millis" claims.expiresAtEpochMillis,
   .str "relay_token_id" claims.relayTokenId]

def appendClaimFields (writer : CanonicalWriter) (claims : RelayTokenClaims) : Except AuthError CanonicalWriter :=
  (writer.pushFields (claimFields claims)).mapError fun _ => .tokenBindingMismatch

/-- The bytes hashed by `relay_token_binding_hash`. -/
def relayTokenBindingBytes (claims : RelayTokenClaims) : Except AuthError Bytes := do
  let writer ← (CanonicalWriter.new "rctl-relay-token-binding-v1").mapError fun _ => AuthError.tokenBindingMismatch
  let writer ← appendClaimFields writer claims
  return writer.finish

def relayTokenBindingHash (env : RelayEnv) (claims : RelayTokenClaims) : Except AuthError Digest := do
  let writer ← (CanonicalWriter.new "rctl-relay-token-binding-v1").mapError fun _ => AuthError.tokenBindingMismatch
  let writer ← appendClaimFields writer claims
  return env.sha256 writer.finish

def relayOpenCanonicalBytes (relayOpen : RelayOpen) : Except AuthError Bytes := do
  let writer ← (CanonicalWriter.new "rctl-relay-open-v1").mapError fun _ => AuthError.invalidDeviceSignature
  let writer ← appendClaimFields writer (claimsFromOpen relayOpen)
  let writer ← (writer.pushFields
    [.array "relay_open_nonce" relayOpen.relayOpenNonce,
     ⟨"session_relay_token", relayOpen.sessionRelayToken⟩,
     .array "token_binding_hash" relayOpen.tokenBindingHash]).mapError fun _ => AuthError.invalidDeviceSignature
  return writer.finish

/-! ### The checks -/

def roleDevice (relayOpen : RelayOpen) : String :=
  match relayOpen.role with
  | .controller => relayOpen.controllerDeviceId
  | .controlled => relayOpen.controlledDeviceId

def authorizeRequest (relayOpen : RelayOpen) : RelayAuthorizeRequest where
  sessionId := uuidString relayOpen.sessionId
  deviceId := relayOpen.deviceId
  role := relayOpen.role.asStr
  permissionsDigest := hex relayOpen.permissionsDigest.toList
  relayTokenEpoch := relayOpen.relayTokenEpoch

/-- What is checked before the API server is asked, and what it is asked. -/
def checkOpen (env : RelayEnv) (config : AppConfig) (nodeEnabled : Bool) (relayOpen : RelayOpen)
    (expectedTransport : TransportPath) (now : UInt64) : Except AuthError RelayAuthorizeRequest := do
  ensure (nodeEnabled && relayOpen.relayNodeId == config.relayNodeId) .nodeMismatch
  ensure (relayOpen.transport == expectedTransport && relayOpen.transport.isRelay &&
    config.allowedTransports.contains relayOpen.transport) .transportMismatch
  ensure (!(decide (relayOpen.expiresAtEpochMillis ≤ now))) .tokenExpired
  ensure (!(decide (saturatingAdd now 5000 < relayOpen.issuedAtEpochMillis) ||
    decide (MAX_RELAY_TOKEN_TTL_MILLIS <
      saturatingSub relayOpen.expiresAtEpochMillis relayOpen.issuedAtEpochMillis))) .tokenTtlExceeded
  ensure (relayOpen.deviceId == roleDevice relayOpen) .roleMismatch
  let claims ← verifyRelayToken env relayOpen.sessionRelayToken config.relayTokenSecret
  ensure (claims == claimsFromOpen relayOpen) .tokenBindingMismatch
  let bindingHash ← relayTokenBindingHash env claims
  ensure (bindingHash == relayOpen.tokenBindingHash) .tokenBindingMismatch
  return authorizeRequest relayOpen

def validateAuthorization (relayOpen : RelayOpen) (request : RelayAuthorizeRequest)
    (authorization : RelayAuthorization) (now : UInt64) : Except AuthError Unit := do
  ensure (authorization.authorized &&
    authorization.sessionId == request.sessionId &&
    authorization.role == request.role &&
    authorization.permissionsDigest == request.permissionsDigest &&
    authorization.relayTokenEpoch == request.relayTokenEpoch &&
    authorization.controllerDeviceId == relayOpen.controllerDeviceId &&
    authorization.controlledDeviceId == relayOpen.controlledDeviceId &&
    authorization.devicePublicKeyId != "" &&
    authorization.devicePublicKeyVersion != 0) .authorizationBindingMismatch
  ensure (!(decide (authorization.authorizationExpiresAtEpochMillis ≤ now))) .authorizationExpired

/-- What is checked once the API server has answered. -/
def checkAuthorization (env : RelayEnv) (relayOpen : RelayOpen) (request : RelayAuthorizeRequest)
    (authorization : RelayAuthorization) (now : UInt64) : Except AuthError Unit := do
  validateAuthorization relayOpen request authorization now
  let publicKey ← okOr (decodeArray env 32 authorization.devicePublicKey) .invalidDeviceKey
  let signature ← okOr (toByteArr 64 relayOpen.deviceSignature) .invalidDeviceSignature
  let canonical ← relayOpenCanonicalBytes relayOpen
  ensure (env.ed25519Key publicKey) .invalidDeviceKey
  ensure (env.ed25519Verify publicKey (env.sha256 canonical) signature) .invalidDeviceSignature

/-! ### The replay cache -/

structure ReplayKey where
  relayTokenId : String
  role : SessionRole
  relayOpenNonce : Digest
  deriving DecidableEq

def replayKey (relayOpen : RelayOpen) : ReplayKey :=
  ⟨relayOpen.relayTokenId, relayOpen.role, relayOpen.relayOpenNonce⟩

/-- An order of the keys, for the map. -/
def ReplayKey.cmp : ReplayKey → ReplayKey → Ordering :=
  compareLex (compareOn (·.relayTokenId)) (compareLex (compareOn (·.role.asStr)) (compareOn (·.relayOpenNonce)))

instance : TransCmp ReplayKey.cmp := inferInstanceAs (TransCmp (compareLex _ _))

instance : LawfulEqCmp ReplayKey.cmp where
  eq_of_compare {a b} h := by
    simp only [ReplayKey.cmp, compareLex, compareOn, Ordering.then_eq_eq, Std.compare_eq_iff_eq] at h
    obtain ⟨htoken, hrole, hnonce⟩ := h
    cases a
    cases b
    cases htoken
    cases SessionRole.asStr_inj hrole
    cases hnonce
    rfl

/-- The openings that were recorded, with the time each is kept until. -/
abbrev Replays := ExtTreeMap ReplayKey UInt64 ReplayKey.cmp

def liveReplays (replays : Replays) (now : UInt64) : Replays := retain replays (now < ·)

def retainUntil (relayOpen : RelayOpen) : UInt64 :=
  saturatingAdd relayOpen.expiresAtEpochMillis REPLAY_RETENTION_MILLIS

def recordReplay (replays : Replays) (relayOpen : RelayOpen) (now : UInt64) : Except AuthError Unit × Replays :=
  let live := liveReplays replays now
  if MAX_REPLAY_ENTRIES ≤ live.size then (.error .replayCacheFull, live)
  else (ensure (!live.contains (replayKey relayOpen)) .replayDetected,
    live.insert (replayKey relayOpen) (retainUntil relayOpen))

/-! ### What the checks say -/

/-- What an opening was found to be before the API server was asked. -/
structure OpenValid (env : RelayEnv) (config : AppConfig) (relayOpen : RelayOpen)
    (expectedTransport : TransportPath) (now : UInt64) : Prop where
  node : relayOpen.relayNodeId = config.relayNodeId
  transport : relayOpen.transport = expectedTransport ∧ relayOpen.transport.isRelay = true ∧
    relayOpen.transport ∈ config.allowedTransports
  unexpired : now < relayOpen.expiresAtEpochMillis
  issued : relayOpen.issuedAtEpochMillis.toNat ≤ now.toNat + 5000
  lifetime : relayOpen.expiresAtEpochMillis.toNat ≤
    relayOpen.issuedAtEpochMillis.toNat + MAX_RELAY_TOKEN_TTL_MILLIS.toNat
  device : relayOpen.deviceId = roleDevice relayOpen
  claims : verifyRelayToken env relayOpen.sessionRelayToken config.relayTokenSecret = .ok (claimsFromOpen relayOpen)
  binding : relayTokenBindingHash env (claimsFromOpen relayOpen) = .ok relayOpen.tokenBindingHash

/-- What the answer of the API server was found to say. -/
structure AuthorizationValid (relayOpen : RelayOpen) (authorization : RelayAuthorization) (now : UInt64) :
    Prop where
  authorized : authorization.authorized = true
  session : authorization.sessionId = uuidString relayOpen.sessionId
  role : authorization.role = relayOpen.role.asStr
  permissions : authorization.permissionsDigest = hex relayOpen.permissionsDigest.toList
  epoch : authorization.relayTokenEpoch = relayOpen.relayTokenEpoch
  controller : authorization.controllerDeviceId = relayOpen.controllerDeviceId
  controlled : authorization.controlledDeviceId = relayOpen.controlledDeviceId
  unexpired : now < authorization.authorizationExpiresAtEpochMillis

structure SignatureValid (env : RelayEnv) (relayOpen : RelayOpen) (publicKey : ByteArr 32) (canonical : Bytes)
    (signature : ByteArr 64) : Prop where
  signature_eq : toByteArr 64 relayOpen.deviceSignature = some signature
  canonical_eq : relayOpenCanonicalBytes relayOpen = .ok canonical
  key : env.ed25519Key publicKey = true
  verifies : env.ed25519Verify publicKey (env.sha256 canonical) signature = true

section Specs

variable {env : RelayEnv} {config : AppConfig} {nodeEnabled : Bool} {relayOpen : RelayOpen}
  {expectedTransport : TransportPath} {now : UInt64} {request : RelayAuthorizeRequest}
  {authorization : RelayAuthorization} {replays : Replays}

theorem pushFields_append (writer : CanonicalWriter) (fs gs : List Field) :
    writer.pushFields (fs ++ gs) = writer.pushFields fs >>= (·.pushFields gs) := List.foldlM_append

/-- The bytes a device signs are those of `remote-transport`. -/
theorem relayOpenCanonicalBytes_eq_ok {bytes : Bytes} :
    relayOpenCanonicalBytes relayOpen = .ok bytes ↔ Rctl.relayOpenCanonicalBytes relayOpen = .ok bytes := by
  have hf : relayOpenFields relayOpen = claimFields (claimsFromOpen relayOpen) ++
      [.array "relay_open_nonce" relayOpen.relayOpenNonce, ⟨"session_relay_token", relayOpen.sessionRelayToken⟩,
       .array "token_binding_hash" relayOpen.tokenBindingHash] := rfl
  simp only [relayOpenCanonicalBytes, appendClaimFields, Rctl.relayOpenCanonicalBytes, canonicalEncode, hf,
    pushFields_append, bind_assoc, bind_eq_ok, mapError_eq_ok, pure_eq_ok]

/-- What `relay_open_canonical_bytes` writes is the whole opening, its signature apart. -/
theorem relayOpenCanonicalBytes_inj {other : RelayOpen} {bs : Bytes}
    (h : relayOpenCanonicalBytes relayOpen = .ok bs) (ho : relayOpenCanonicalBytes other = .ok bs) :
    { other with deviceSignature := relayOpen.deviceSignature } = relayOpen := by
  rw [relayOpenCanonicalBytes_eq_ok, Rctl.relayOpenCanonicalBytes, mapError_eq_ok] at h ho
  have hs := relayOpenFields_inj (canonicalEncode_inj ho h).2
  simp only [CanonicalMessage.SameEncoded] at hs
  cases relayOpen
  cases other
  simp_all

theorem checkOpen_eq_ok (h : checkOpen env config nodeEnabled relayOpen expectedTransport now = .ok request) :
    OpenValid env config relayOpen expectedTransport now ∧ request = authorizeRequest relayOpen := by
  simp only [checkOpen, bind_eq_ok, ensure_eq_ok, pure_eq_ok, Bool.and_eq_true, Bool.or_eq_false_iff,
    Bool.not_eq_true', decide_eq_false_iff_not, beq_iff_eq, List.contains_iff_mem, UInt64.not_le,
    UInt64.not_lt] at h
  obtain ⟨_, ⟨_, hnode⟩, _, ⟨⟨htp, hr⟩, hal⟩, _, hu, _, ⟨hi, hl⟩, _, hdv,
    claims, hc, _, rfl, _, hbi, _, rfl, rfl⟩ := h
  rw [UInt64.le_iff_toNat_le, saturatingAdd_toNat] at hi
  rw [UInt64.le_iff_toNat_le, saturatingSub_toNat] at hl
  exact ⟨⟨hnode, ⟨htp, hr, hal⟩, hu, Nat.le_trans hi (Nat.min_le_left _ _), by omega, hdv, hc, hbi⟩, rfl⟩

theorem checkAuthorization_eq_ok
    (h : checkAuthorization env relayOpen (authorizeRequest relayOpen) authorization now = .ok ()) :
    AuthorizationValid relayOpen authorization now ∧
      ∃ pk canonical signature, decodeArray env 32 authorization.devicePublicKey = some pk ∧
        SignatureValid env relayOpen pk canonical signature := by
  simp only [checkAuthorization, validateAuthorization, bind_eq_ok, ensure_eq_ok, okOr_eq_ok, Bool.and_eq_true,
    Bool.not_eq_true', decide_eq_false_iff_not, beq_iff_eq, UInt64.not_le] at h
  obtain ⟨_, ⟨_, ⟨⟨⟨⟨⟨⟨⟨⟨haz, hs⟩, hrl⟩, hp⟩, hep⟩, hc⟩, hcontrolled⟩, _⟩, _⟩,
    hu⟩, pk, hpublicKey, signature, hg, canonical, hcanonical, _, hk, hv⟩ := h
  exact ⟨⟨haz, hs, hrl, hp, hep, hc, hcontrolled, hu⟩, pk, canonical, signature, hpublicKey, hg, hcanonical, hk, hv⟩

/-- An opening is recorded if the cache has room for it and does not hold it. -/
theorem recordReplay_fst : (recordReplay replays relayOpen now).1 = .ok () ↔
    (liveReplays replays now).size < MAX_REPLAY_ENTRIES ∧ (liveReplays replays now)[replayKey relayOpen]? = none := by
  unfold recordReplay
  simp only
  split_ifs with hf
  · exact ⟨nofun, fun h => absurd h.1 (Nat.not_lt.mpr hf)⟩
  · rw [ensure_eq_ok, Bool.not_eq_true', contains_eq_false]
    exact ⟨fun h => ⟨Nat.lt_of_not_le hf, h⟩, And.right⟩

theorem get_liveReplays (key : ReplayKey) : (liveReplays replays now)[key]? = replays[key]?.filter (now < ·) :=
  get_retain replays _ key

theorem get_recordReplay (key : ReplayKey) : (recordReplay replays relayOpen now).2[key]? =
    if (liveReplays replays now).size < MAX_REPLAY_ENTRIES ∧ replayKey relayOpen = key then
      some (retainUntil relayOpen) else replays[key]?.filter (now < ·) := by
  unfold recordReplay
  simp only
  split
  · rename_i hf
    rw [if_neg fun h => Nat.not_lt.mpr hf h.1, get_liveReplays]
  · rename_i hr
    rw [get_insert, get_liveReplays]
    simp only [Nat.lt_of_not_le hr, true_and]

end Specs

end Rctl.Relay
