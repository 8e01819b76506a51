/-
# The same bytes in three code bases

What is hashed or signed is encoded by hand on each side: the hello and the protocol versions by the
signal server (`signal-server/src/security.rs`), the desktop client and the iOS client
(`Security/CanonicalEncoding.swift`), candidates, pairs and local interface claims by
`remote-transport` and the iOS client (`Session/SignalSessionRouting.swift`), the bindings of relays
by `remote-transport` and the relay server. They write the same fields in the same order and width.

They differ in what they refuse. `remote-transport` encodes only candidates of a consistent shape,
with their own identifier where it is bound to a token, and relay tokens of a relay path only; the
iOS client refuses a local interface claim with an empty device or endpoint or a nonce of zeros.

The raw values of the Swift enumerations are written out here (`roleRawValue`, `pathRawValue`,
`sourceRawValue`); a 128-bit identifier is 32 lower case hexadecimal digits on the iOS side.
-/
import Rctl.Ios.Candidates
import Rctl.Relay.Admission
import Rctl.Signal.Hello

namespace Rctl.Ios

open ByteString Result ProtocolCanonicalEncoder CanonicalWriter

/-! ### The iOS client's encodings -/

/-- `CanonicalEncodingError`, as thrown below. -/
inductive CanonicalEncodingError
  | fieldTooLarge
  | invalidHashLength
  | invalidNonceLength
  deriving DecidableEq, Repr

def roleRawValue : SessionRole → String
  | .controller => "controller"
  | .controlled => "controlled"

def pathRawValue : TransportPath → String
  | .lanDirect => "lan_direct"
  | .udpP2p => "udp_p2p"
  | .quicRelay => "quic_relay"
  | .tls443Relay => "tls_443_relay"

def sourceRawValue : CandidateSource → String
  | .localInterface => "local_interface"
  | .udpObserved => "udp_observed"
  | .relayAllocated => "relay_allocated"

def ProtocolCanonicalEncoder.integer16 (value : UInt16) : Bytes := toBeBytes 2 value.toNat

def SignalConnectionCandidate.canonicalID (c : SignalConnectionCandidate) : Except CandidateError Bytes :=
  encode "rctl-candidate-id-v1"
    [("session_id", some (uuid c.sessionID)),
     ("device_id", some (utf8 c.deviceID)),
     ("role", some (utf8 (roleRawValue c.role))),
     ("kind", some (utf8 (pathRawValue c.kind))),
     ("endpoint", some (utf8 c.endpoint)),
     ("source", some (utf8 (sourceRawValue c.source))),
     ("relay_node_id", c.relayNodeID.map utf8)]

/-- The bytes hashed by `bindingHash`. -/
def SignalCandidateAuthorization.canonicalBinding (candidate : SignalConnectionCandidate)
    (expiresAtEpochMillis : UInt64) : Except CandidateError Bytes := do
  let candidateID ← okOr (lowerHex128 candidate.candidateID) .invalidAuthorization
  encode "rctl-candidate-token-binding-v1"
    [("session_id", some (uuid candidate.sessionID)),
     ("device_id", some (utf8 candidate.deviceID)),
     ("role", some (utf8 (roleRawValue candidate.role))),
     ("candidate_id", some candidateID),
     ("kind", some (utf8 (pathRawValue candidate.kind))),
     ("endpoint", some (utf8 candidate.endpoint)),
     ("source", some (utf8 (sourceRawValue candidate.source))),
     ("observe_result_id", candidate.observeResultID.map utf8),
     ("expires_at_epoch_millis", some (integer expiresAtEpochMillis))]

/-- The bytes hashed by `candidatePairID`. -/
def canonicalPair (sessionID : U128) (controllerCandidateID controlledCandidateID : String)
    (selectedTransportPath : TransportPath) (relayNodeID : Option String) : Except CandidateError Bytes := do
  let isRelay := selectedTransportPath == .quicRelay || selectedTransportPath == .tls443Relay
  ensure (isRelay == relayNodeID.isSome) .invalidCandidatePair
  let controllerID ← okOr (lowerHex128 controllerCandidateID) .invalidCandidatePair
  let controlledID ← okOr (lowerHex128 controlledCandidateID) .invalidCandidatePair
  encode "rctl-candidate-pair-id-v1"
    [("session_id", some (uuid sessionID)),
     ("controller_candidate_id", some controllerID),
     ("controlled_candidate_id", some controlledID),
     ("selected_transport_path", some (utf8 (pathRawValue selectedTransportPath))),
     ("relay_node_id", relayNodeID.map utf8)]

/-- The bytes hashed by `localInterfaceClaimHash`. -/
def canonicalLocalInterfaceClaim (sessionID : U128) (deviceID : String) (role : SessionRole)
    (candidateID endpoint : String) (interfaceNameHash interfaceIndexHash localSocketNonce : Bytes)
    (timestampEpochMillis : UInt64) : Except CandidateError Bytes := do
  ensure (deviceID ≠ "" && endpoint ≠ "" && interfaceNameHash.length = 32 && interfaceIndexHash.length = 32 &&
    localSocketNonce.length = 32 && !localSocketNonce.all (· == 0)) .invalidCandidate
  let candidateID ← okOr (lowerHex128 candidateID) .invalidCandidate
  encode "rctl-local-interface-claim-v1"
    [("session_id", some (uuid sessionID)),
     ("device_id", some (utf8 deviceID)),
     ("role", some (utf8 (roleRawValue role))),
     ("candidate_id", some candidateID),
     ("endpoint", some (utf8 endpoint)),
     ("interface_name_hash", some interfaceNameHash),
     ("interface_index_hash", some interfaceIndexHash),
     ("local_socket_nonce", some localSocketNonce),
     ("timestamp_epoch_millis", some (integer timestampEpochMillis))]

/-- The bytes hashed by `protocolVersionsHash`. A `Set` has its elements in no particular order, and
they are sorted before they are written. -/
def canonicalProtocolVersions (versions : List UInt16) (minimumVersion : UInt16) : Except CandidateError Bytes :=
  let normalized := versions.dedup.insertionSort (· ≤ ·)
  encode "rctl-protocol-versions-v1"
    [("client_supported_protocol_versions", some (normalized.flatMap integer16)),
     ("client_min_protocol_version", some (integer16 minimumVersion))]

def helloSignatureInput (serverNonce clientNonce : Bytes) (accountID deviceID : String) (protocolVersion : UInt16)
    (timestamp : UInt64) (versionsHash capabilitiesHash : Bytes) : Except CanonicalEncodingError Bytes := do
  ensure (serverNonce.length = 32 && clientNonce.length = 32) .invalidNonceLength
  ensure (versionsHash.length = 32 && capabilitiesHash.length = 32) .invalidHashLength
  (encode "rctl-ws-hello-v1"
    [("server_nonce", some serverNonce),
     ("client_nonce", some clientNonce),
     ("account_id", some (utf8 accountID)),
     ("device_id", some (utf8 deviceID)),
     ("protocol_version", some (integer16 protocolVersion)),
     ("timestamp", some (integer timestamp)),
     ("client_supported_protocol_versions_hash", some versionsHash),
     ("client_capabilities_hash", some capabilitiesHash)]).mapError fun _ => .fieldTooLarge

/-! ### The encoder -/

variable {bytes : Bytes}

theorem append_eq_ok {output : Bytes} {name : String} {val : Bytes} :
    append output name val = .ok bytes ↔ (⟨output⟩ : CanonicalWriter).pushField name val = .ok ⟨bytes⟩ := by
  unfold append pushField
  by_cases hname : 2 ^ 32 ≤ (utf8 name).length
  · rw [if_pos (.inl hname), if_pos hname]
    simp
  · by_cases hv : 2 ^ 32 ≤ val.length
    · rw [if_pos (.inr hv), if_neg hname, if_pos hv]
      simp
    · rw [if_neg (not_or.mpr ⟨hname, hv⟩), if_neg hname, if_neg hv]
      simp [CANONICAL_LENGTH_BYTES]

/-- A field as it is appended: an absent value is the empty one. -/
def field (f : String × Option Bytes) : Field := ⟨f.1, f.2.getD []⟩

theorem foldlM_append_eq_ok : ∀ {fields : List (String × Option Bytes)} {output : Bytes},
    fields.foldlM (fun output field => append output field.1 (field.2.getD [])) output = .ok bytes ↔
      (⟨output⟩ : CanonicalWriter).pushFields (fields.map field) = .ok ⟨bytes⟩
  | [], output => by
    simp [pushFields, pure, Except.pure]
  | f :: fields, output => by
    rw [List.foldlM_cons, List.map_cons, pushFields, List.foldlM_cons, bind_eq_ok, bind_eq_ok]
    constructor
    · rintro ⟨output', hf, hfields⟩
      exact ⟨⟨output'⟩, append_eq_ok.mp hf, foldlM_append_eq_ok.mp hfields⟩
    · rintro ⟨⟨output'⟩, hf, hfields⟩
      exact ⟨output', append_eq_ok.mpr hf, foldlM_append_eq_ok.mpr hfields⟩

/-- **One encoding.** The encoder of the iOS client writes what the canonical writer writes, and
refuses the same fields. -/
theorem encode_eq_ok {domain : String} {fields : List (String × Option Bytes)} :
    encode domain fields = .ok bytes ↔ canonicalEncode domain (fields.map field) = .ok bytes := by
  simp only [encode, canonicalEncode, bind_eq_ok, pure_eq_ok]
  constructor
  · rintro ⟨output, hdomain, hf⟩
    exact ⟨⟨output⟩, append_eq_ok.mp hdomain, ⟨bytes⟩, foldlM_append_eq_ok.mp hf, rfl⟩
  · rintro ⟨⟨output⟩, hdomain, ⟨_⟩, hf, rfl⟩
    exact ⟨output, append_eq_ok.mpr hdomain, foldlM_append_eq_ok.mpr hf⟩

open SignalCandidateAuthorization

theorem field_map_utf8 (name : String) (value : Option String) :
    field (name, value.map utf8) = .optionalStr name value := by
  cases value <;> rfl

/-! ### Identifiers as text -/

theorem lowercaseHexString_cons (byte : UInt8) (bytes : Bytes) :
    lowercaseHexString (byte :: bytes) = lowercaseHexString [byte] ++ lowercaseHexString bytes := by
  simp only [lowercaseHexString, ← String.ofList_append, List.flatMap_cons, List.flatMap_nil, List.append_nil]

/-- A byte is two digits, and read back from them. -/
theorem lowercaseHexString_byte (byte : UInt8) : (utf8 (lowercaseHexString [byte])).length = 2 ∧
    ((utf8 (lowercaseHexString [byte])).all fun b => (48 ≤ b && b ≤ 57) || (97 ≤ b && b ≤ 102)) ∧
    hexPairs (utf8 (lowercaseHexString [byte])) = [byte] := by
  revert byte
  exact forall_byte (by decide +kernel)

theorem length_lowercaseHexString (bytes : Bytes) : (utf8 (lowercaseHexString bytes)).length = 2 * bytes.length := by
  induction bytes with
  | nil => rfl
  | cons byte _ ih =>
    rw [lowercaseHexString_cons, utf8_append, List.length_append, (lowercaseHexString_byte byte).1, List.length_cons]
    omega

theorem all_lowercaseHexString (bytes : Bytes) :
    (utf8 (lowercaseHexString bytes)).all fun b => (48 ≤ b && b ≤ 57) || (97 ≤ b && b ≤ 102) := by
  induction bytes with
  | nil => rfl
  | cons byte _ ih =>
    rw [lowercaseHexString_cons, utf8_append, List.all_append, ih, (lowercaseHexString_byte byte).2.1]
    rfl

theorem hexPairs_lowercaseHexString (bytes : Bytes) : hexPairs (utf8 (lowercaseHexString bytes)) = bytes := by
  induction bytes with
  | nil => rfl
  | cons byte _ ih =>
    obtain ⟨hl, -, hb⟩ := lowercaseHexString_byte byte
    rw [lowercaseHexString_cons, utf8_append]
    obtain ⟨high, low, hd⟩ := List.length_eq_two.mp hl
    rw [hd] at hb ⊢
    simp only [hexPairs, List.cons.injEq, and_true] at hb
    rw [List.cons_append, List.cons_append, List.nil_append, hexPairs, hb, ih]

def Spells (text : String) (id : U128) : Prop := lowerHex128 text = some (toBeBytes 16 id.toNat)

theorem spells_lowercaseHexString (id : U128) : Spells (lowercaseHexString (toBeBytes 16 id.toNat)) id := by
  have ht : isLowerHex128 (lowercaseHexString (toBeBytes 16 id.toNat)) = true := by
    rw [isLowerHex128, length_lowercaseHexString, length_toBeBytes, all_lowercaseHexString]
    rfl
  rw [Spells, lowerHex128, if_pos ht, hexPairs_lowercaseHexString]

/-- The candidate of the iOS client and the record of the protocol hold the same values. -/
structure Represents (candidate : SignalConnectionCandidate) (dto : ConnectionCandidateDto) : Prop where
  candidateID : Spells candidate.candidateID dto.candidateId
  sessionID : candidate.sessionID = dto.sessionId
  deviceID : candidate.deviceID = dto.deviceId
  role : candidate.role = dto.role
  kind : candidate.kind = dto.kind
  endpoint : candidate.endpoint = dto.endpoint
  source : candidate.source = dto.source
  observeResultID : candidate.observeResultID = dto.observeResultId
  relayNodeID : candidate.relayNodeID = dto.relayNodeId

/-! ### Encoding by encoding -/

section Agreement

variable {candidate : SignalConnectionCandidate} {dto : ConnectionCandidateDto} {timestamp : UInt64}

theorem canonicalID_eq_ok (h : Represents candidate dto) : candidate.canonicalID = .ok bytes ↔
    canonicalEncode "rctl-candidate-id-v1" (candidateIdFields dto) = .ok bytes := by
  rw [SignalConnectionCandidate.canonicalID, encode_eq_ok]
  simp only [List.map_cons, field_map_utf8, h.sessionID, h.deviceID, h.role, h.kind, h.endpoint, h.source,
    h.relayNodeID]
  rfl

theorem canonicalBinding_eq_ok (h : Represents candidate dto) {expiresAt : UInt64} :
    canonicalBinding candidate expiresAt = .ok bytes ↔
      canonicalEncode "rctl-candidate-token-binding-v1" (candidateTokenFields dto expiresAt) =
        .ok bytes := by
  simp only [canonicalBinding, bind_eq_ok, okOr_eq_ok, show lowerHex128 _ = _ from h.candidateID, encode_eq_ok,
    Option.some.injEq, exists_eq_left']
  simp only [List.map_cons, field_map_utf8, h.sessionID, h.deviceID, h.role, h.kind, h.endpoint, h.source,
    h.observeResultID]
  rfl

theorem isRelay_eq (path : TransportPath) : (path == .quicRelay || path == .tls443Relay) = path.isRelay := by
  cases path <;> rfl

theorem canonicalPair_eq_ok {sessionId controllerCandidateId controlledCandidateId : U128}
    {controllerID controlledID : String} {path : TransportPath} {relayNodeId : Option String}
    (hc : Spells controllerID controllerCandidateId)
    (hcontrolled : Spells controlledID controlledCandidateId) :
    canonicalPair sessionId controllerID controlledID path relayNodeId = .ok bytes ↔
      candidatePairIdBytes sessionId controllerCandidateId controlledCandidateId path relayNodeId = .ok bytes := by
  rw [Spells] at hc hcontrolled
  simp only [canonicalPair, candidatePairIdBytes, bind_eq_ok, okOr_eq_ok, ensure_eq_ok, mapError_eq_ok, hc,
    hcontrolled, encode_eq_ok, Option.some.injEq, exists_eq_left', isRelay_eq]
  simp only [List.map_cons, field_map_utf8]
  rfl

theorem canonicalLocalInterfaceClaim_eq_ok {sessionId candidateId : U128}
    {deviceId candidateID endpoint : String} {role : SessionRole}
    {nameHash indexHash socketNonce : Digest} (hid : Spells candidateID candidateId) :
    canonicalLocalInterfaceClaim sessionId deviceId role candidateID endpoint nameHash.toList
        indexHash.toList socketNonce.toList timestamp = .ok bytes ↔
      (deviceId ≠ "" ∧ endpoint ≠ "" ∧ ∃ byte ∈ socketNonce.toList, byte ≠ 0) ∧
        localInterfaceClaimBytes ⟨sessionId, deviceId, role, candidateId, endpoint, some nameHash,
          some indexHash, some socketNonce, some timestamp⟩ = .ok bytes := by
  have hg : (deviceId ≠ "" && endpoint ≠ "" && nameHash.toList.length = 32 && indexHash.toList.length = 32 &&
      socketNonce.toList.length = 32 && !socketNonce.toList.all (· == 0)) = true ↔
      deviceId ≠ "" ∧ endpoint ≠ "" ∧ ∃ byte ∈ socketNonce.toList, byte ≠ 0 := by
    simp only [Bool.and_eq_true, decide_eq_true_eq, Vector.length_toList, Bool.not_eq_true', List.all_eq_false,
      beq_iff_eq, and_true, and_assoc]
  rw [Spells] at hid
  simp only [canonicalLocalInterfaceClaim, localInterfaceClaimBytes, bind_eq_ok, okOr_eq_ok, ensure_eq_ok, hg,
    mapError_eq_ok, hid, encode_eq_ok, Option.some.injEq, exists_eq_left', exists_const]
  rfl

theorem canonicalProtocolVersions_eq_ok {versions supported : List UInt16} {minimum : UInt16}
    (h : ∀ ver, ver ∈ supported ↔ ver ∈ versions) :
    canonicalProtocolVersions supported minimum = .ok bytes ↔
      Signal.protocolVersionsBytes (Signal.sortedVersions versions) minimum = .ok bytes := by
  rw [canonicalProtocolVersions, Signal.protocolVersionsBytes, encode_eq_ok, mapError_eq_ok, Signal.sortedVersions_eq h]
  rfl

theorem helloSignatureInput_eq_ok {serverNonce clientNonce versionsHash capabilitiesHash : Digest}
    {accountId deviceId : String} {protocolVersion : UInt16} :
    helloSignatureInput serverNonce.toList clientNonce.toList accountId deviceId protocolVersion timestamp
        versionsHash.toList capabilitiesHash.toList = .ok bytes ↔
      Signal.helloSignatureInput serverNonce clientNonce accountId deviceId protocolVersion timestamp versionsHash
        capabilitiesHash = .ok bytes := by
  simp only [helloSignatureInput, Signal.helloSignatureInput, bind_eq_ok, ensure_eq_ok, mapError_eq_ok, encode_eq_ok,
    Vector.length_toList, decide_true, Bool.and_true, true_and, exists_const]
  rfl

def claimsFromAllocation (a : RelayAllocation) : Relay.RelayTokenClaims where
  sessionId := a.sessionId
  deviceId := a.deviceId
  role := a.role
  controllerDeviceId := a.controllerDeviceId
  controlledDeviceId := a.controlledDeviceId
  relayNodeId := a.relayNodeId
  transport := a.transport
  permissionsDigest := a.permissionsDigest
  relayTokenEpoch := a.relayTokenEpoch
  issuedAtEpochMillis := a.issuedAtEpochMillis
  expiresAtEpochMillis := a.expiresAtEpochMillis
  relayTokenId := a.relayTokenId

theorem relayTokenBytes_eq_ok {allocation : RelayAllocation} : relayTokenBytes allocation = .ok bytes ↔
    allocation.transport.isRelay = true ∧
      Relay.relayTokenBindingBytes (claimsFromAllocation allocation) = .ok bytes := by
  simp only [relayTokenBytes, Relay.relayTokenBindingBytes, Relay.appendClaimFields, canonicalEncode, bind_eq_ok,
    ensure_eq_ok, mapError_eq_ok, pure_eq_ok, exists_const]
  rfl

end Agreement

/-- **The same canonical bytes.** For every value that both sides can hold: the three hellos and the
two relay openings are the same bytes, and so are the protocol versions of an accepted header and of
any list of the same versions. Candidates, tokens, pairs, claims and relay tokens are the same bytes
where neither side refuses the value, and each side refuses what is said here and what does not fit
its length. -/
theorem canonical_bytes_agree (P : Primitives) :
    (∀ serverNonce clientNonce accountId deviceId protocolVersion timestamp versionsHash capabilitiesHash bytes,
      (Desktop.helloSignatureInput serverNonce clientNonce accountId deviceId protocolVersion timestamp versionsHash
          capabilitiesHash = .ok bytes ↔
        Signal.helloSignatureInput serverNonce clientNonce accountId deviceId protocolVersion timestamp versionsHash
          capabilitiesHash = .ok bytes) ∧
      (helloSignatureInput serverNonce.toList clientNonce.toList accountId deviceId protocolVersion timestamp
          versionsHash.toList capabilitiesHash.toList = .ok bytes ↔
        Signal.helloSignatureInput serverNonce clientNonce accountId deviceId protocolVersion timestamp versionsHash
          capabilitiesHash = .ok bytes)) ∧
    (∀ versions minimum negotiation,
      Signal.parseProtocolHeaders P.sha256 (some versions) (some minimum) = .ok negotiation →
        ∃ listed bytes, Signal.headerVersions versions = .ok listed ∧ negotiation.versionsHash = P.sha256 bytes ∧
          Signal.protocolVersionsBytes negotiation.clientVersions negotiation.clientMinVersion = .ok bytes ∧
          ∀ supported : List UInt16, (∀ version, version ∈ supported ↔ version ∈ listed) →
            canonicalProtocolVersions supported negotiation.clientMinVersion = .ok bytes) ∧
    (∀ candidate dto, Represents candidate dto → ∀ bytes,
      candidateIdBytes dto = .ok bytes ↔ validateCandidateShape dto = .ok () ∧ candidate.canonicalID = .ok bytes) ∧
    (∀ candidate dto, Represents candidate dto → ∀ expiresAtEpochMillis bytes,
      candidateTokenBytes P dto expiresAtEpochMillis = .ok bytes ↔ candidateId P dto = .ok dto.candidateId ∧
        SignalCandidateAuthorization.canonicalBinding candidate expiresAtEpochMillis = .ok bytes) ∧
    (∀ sessionId controllerId controlledId controllerText controlledText path relayNodeId,
      Spells controllerText controllerId → Spells controlledText controlledId → ∀ bytes,
        canonicalPair sessionId controllerText controlledText path relayNodeId = .ok bytes ↔
          candidatePairIdBytes sessionId controllerId controlledId path relayNodeId = .ok bytes) ∧
    (∀ sessionId deviceId role candidateId candidateText endpoint interfaceNameHash interfaceIndexHash
        (localSocketNonce : Digest) timestamp, Spells candidateText candidateId → ∀ bytes,
      canonicalLocalInterfaceClaim sessionId deviceId role candidateText endpoint interfaceNameHash.toList
          interfaceIndexHash.toList localSocketNonce.toList timestamp = .ok bytes ↔
        (deviceId ≠ "" ∧ endpoint ≠ "" ∧ ∃ byte ∈ localSocketNonce.toList, byte ≠ 0) ∧
          localInterfaceClaimBytes ⟨sessionId, deviceId, role, candidateId, endpoint, some interfaceNameHash,
            some interfaceIndexHash, some localSocketNonce, some timestamp⟩ = .ok bytes) ∧
    (∀ allocation bytes, relayTokenBytes allocation = .ok bytes ↔ allocation.transport.isRelay = true ∧
      Relay.relayTokenBindingBytes (claimsFromAllocation allocation) = .ok bytes) ∧
    (∀ relayOpen bytes,
      Relay.relayOpenCanonicalBytes relayOpen = .ok bytes ↔ Rctl.relayOpenCanonicalBytes relayOpen = .ok bytes) := by
  refine ⟨fun _ _ _ _ _ _ _ _ bytes => ⟨?_, helloSignatureInput_eq_ok⟩, fun versions minimum negotiation h => ?_,
    fun candidate dto h bytes => ?_, fun candidate dto h expiresAtEpochMillis bytes => ?_,
    fun _ _ _ _ _ _ _ hc hco _ => canonicalPair_eq_ok hc hco,
    fun _ _ _ _ _ _ _ _ _ _ hid _ => canonicalLocalInterfaceClaim_eq_ok hid, fun _ _ => relayTokenBytes_eq_ok,
    fun _ _ => Relay.relayOpenCanonicalBytes_eq_ok⟩
  · rw [Desktop.helloSignatureInput, Signal.helloSignatureInput, mapError_eq_ok, mapError_eq_ok]
    rfl
  · obtain ⟨listed, bytes, hl, hv, -, hby, hha⟩ := Signal.parseProtocolHeaders_eq_ok h
    refine ⟨listed, bytes, hl, hha, hby, fun supported hs => ?_⟩
    rw [canonicalProtocolVersions_eq_ok hs, ← hv, hby]
  · simp only [candidateIdBytes, bind_eq_ok, mapError_eq_ok, canonicalID_eq_ok h]
    constructor
    · rintro ⟨_, hsh, hby⟩
      exact ⟨hsh, hby⟩
    · rintro ⟨hsh, hby⟩
      exact ⟨(), hsh, hby⟩
  · simp only [candidateTokenBytes, bind_eq_ok, ensure_eq_ok, mapError_eq_ok, canonicalBinding_eq_ok h,
      decide_eq_true_eq]
    constructor
    · rintro ⟨_, hid, _, rfl, hby⟩
      exact ⟨hid, hby⟩
    · rintro ⟨hid, hby⟩
      exact ⟨_, hid, (), rfl, hby⟩

/-- **The iOS client refuses a nonce of zeros.** `remote-transport` encodes the claim. -/
theorem zero_nonce_refused :
    canonicalLocalInterfaceClaim 7 "phone" .controller (lowercaseHexString (toBeBytes 16 9)) "10.0.0.2:4000"
        (ByteArr.ofNat 32 1).toList (ByteArr.ofNat 32 2).toList (ByteArr.ofNat 32 0).toList 5 =
      .error .invalidCandidate ∧
    Spells (lowercaseHexString (toBeBytes 16 9)) 9 ∧
    (localInterfaceClaimBytes ⟨7, "phone", .controller, 9, "10.0.0.2:4000", some (ByteArr.ofNat 32 1),
      some (ByteArr.ofNat 32 2), some (ByteArr.ofNat 32 0), some 5⟩).isOk = true := by
  refine ⟨by decide +kernel, spells_lowercaseHexString 9, by decide +kernel⟩

end Rctl.Ios
