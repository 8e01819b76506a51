/-
# Unique decodability of the canonical messages

All byte strings that are hashed, signed or MACed are canonical encodings under one
of thirteen domains. Equal bytes come from messages of one type that agree in every
field the encoding covers; an optional field is told apart from an empty one by
another field, as the shape checks tie its presence to a transport path or a
source. What an encoding does not cover is not determined: the MAC of a key
confirmation, the account of a salt, the spelling of a method or target before
normalisation (`canonical_bytes_forget`).
-/
import Rctl.Protocol.RequestTarget
import Rctl.Transport.Binding

namespace Rctl

open ByteString Result Rctl.Field

inductive MessageType
  | sessionContext
  | signedKeyExchange
  | keyConfirm
  | kdfSalt
  | kdfInfo
  | candidateId
  | candidatePairId
  | candidateToken
  | relayToken
  | relayOpen
  | apiRequest
  | operationBinding
  | idempotencyBinding
  deriving DecidableEq

namespace MessageType

def domain : MessageType → String
  | sessionContext => "rctl-session-context-v1"
  | signedKeyExchange => "rctl-signed-key-exchange-v1"
  | keyConfirm => "rctl-key-confirm-v1"
  | kdfSalt => "rctl-hkdf-salt-v1"
  | kdfInfo => "rctl-session-v1"
  | candidateId => "rctl-candidate-id-v1"
  | candidatePairId => "rctl-candidate-pair-id-v1"
  | candidateToken => "rctl-candidate-token-binding-v1"
  | relayToken => "rctl-relay-token-binding-v1"
  | relayOpen => "rctl-relay-open-v1"
  | apiRequest => "rctl-api-input-v1"
  | operationBinding => "rctl-operation-binding-v1"
  | idempotencyBinding => "rctl-idempotency-binding-v1"

theorem domain_inj {a b : MessageType} (h : a.domain = b.domain) : a = b := by
  revert h; cases a <;> cases b <;> decide

end MessageType

inductive CanonicalMessage
  | sessionContext (context : SessionContext)
  | signedKeyExchange (payload : SignedKeyExchangePayload)
  | keyConfirm (confirm : KeyConfirm)
  | kdfSalt (context : SessionKdfContext)
  | kdfInfo (context : SessionKdfContext)
  | candidateId (candidate : ConnectionCandidateDto)
  | candidatePairId (sessionId controllerCandidateId controlledCandidateId : U128)
      (selectedTransportPath : TransportPath) (relayNodeId : Option String)
  | candidateToken (candidate : ConnectionCandidateDto) (expiresAtEpochMillis : UInt64)
  | relayToken (allocation : RelayAllocation)
  | relayOpen (message : RelayOpen)
  | apiRequest (method requestTarget : String) (bodyHash : Digest)
      (requestId deviceId accountId : String) (timestampEpochMillis : UInt64) (apiNonce : String)
  | operationBinding (accountId deviceId purpose method requestTarget : String) (bodyHash : Digest)
      (requestId : String) (expiresAtEpochMillis : UInt64)
  | idempotencyBinding (accountId deviceId method requestTarget : String) (bodyHash : Digest)
  deriving DecidableEq

namespace CanonicalMessage

def bytes (P : Primitives) : CanonicalMessage → Option Bytes
  | sessionContext c => c.canonicalBytes.toOption
  | signedKeyExchange p => p.canonicalBytes.toOption
  | keyConfirm c => c.canonicalMacInput.toOption
  | kdfSalt c => c.saltCanonicalBytes.toOption
  | kdfInfo c => c.infoBase.toOption
  | candidateId c => (candidateIdBytes c).toOption
  | candidatePairId s a b path relay => (candidatePairIdBytes s a b path relay).toOption
  | candidateToken c expires => (candidateTokenBytes P c expires).toOption
  | relayToken a => (relayTokenBytes a).toOption
  | relayOpen o => (relayOpenCanonicalBytes o).toOption
  | apiRequest method target hash request device account timestamp nonce =>
    (canonicalApiRequestBytes method target hash request device account timestamp nonce).toOption
  | operationBinding account device purpose method target hash request expires =>
    (canonicalOperationBindingBytes account device purpose method target hash request expires).toOption
  | idempotencyBinding account device method target hash =>
    (canonicalIdempotencyBindingBytes account device method target hash).toOption

/-- The shape checks made outside the encoders: a relay node is named exactly on a
relay path. The other encoders make their checks themselves. -/
def Shaped : CanonicalMessage → Prop
  | signedKeyExchange p => p.validatePathBinding = true
  | kdfInfo c => c.selectedTransportPath.isRelay = c.relayNodeId.isSome
  | _ => True

def messageType : CanonicalMessage → MessageType
  | sessionContext _ => .sessionContext
  | signedKeyExchange _ => .signedKeyExchange
  | keyConfirm _ => .keyConfirm
  | kdfSalt _ => .kdfSalt
  | kdfInfo _ => .kdfInfo
  | candidateId _ => .candidateId
  | candidatePairId .. => .candidatePairId
  | candidateToken .. => .candidateToken
  | relayToken _ => .relayToken
  | relayOpen _ => .relayOpen
  | apiRequest .. => .apiRequest
  | operationBinding .. => .operationBinding
  | idempotencyBinding .. => .idempotencyBinding

/-- `fs` are the fields written for the message, after its checks. -/
def HasFields : CanonicalMessage → List Field → Prop
  | sessionContext c, fs => fs = c.fields
  | signedKeyExchange p, fs => fs = p.fields
  | keyConfirm c, fs => fs = c.fields
  | kdfSalt c, fs => fs = c.saltFields
  | kdfInfo c, fs => fs = c.infoFields
  | candidateId c, fs => validateCandidateShape c = .ok () ∧ fs = candidateIdFields c
  | candidatePairId s a b path relay, fs =>
    path.isRelay = relay.isSome ∧ fs = candidatePairIdFields s a b path relay
  | candidateToken c expires, fs =>
    validateCandidateShape c = .ok () ∧ fs = candidateTokenFields c expires
  | relayToken a, fs => fs = relayTokenFields a
  | relayOpen o, fs => fs = relayOpenFields o
  | apiRequest method target hash request device account timestamp nonce, fs =>
    ∃ m t, canonicalHttpMethod method = .ok m ∧ canonicalRequestTarget target = .ok t ∧
      fs = apiRequestFields m t hash request device account timestamp nonce
  | operationBinding account device purpose method target hash request expires, fs =>
    ∃ m t, canonicalHttpMethod method = .ok m ∧ canonicalRequestTarget target = .ok t ∧
      fs = operationBindingFields account device purpose m t hash request expires
  | idempotencyBinding account device method target hash, fs =>
    ∃ m t, canonicalHttpMethod method = .ok m ∧ canonicalRequestTarget target = .ok t ∧
      fs = idempotencyBindingFields account device m t hash

theorem toOption_eq_some {ε : Type} {x : Except ε Bytes} {b : Bytes} : x.toOption = some b ↔ x = .ok b := by
  cases x <;> simp [Except.toOption]

theorem bytes_spec {P : Primitives} {m : CanonicalMessage} {b : Bytes} (h : m.bytes P = some b) :
    ∃ fs, canonicalEncode m.messageType.domain fs = .ok b ∧ m.HasFields fs := by
  cases m with
  | sessionContext | signedKeyExchange | keyConfirm | kdfSalt | kdfInfo =>
    simp only [bytes, toOption_eq_some] at h
    exact ⟨_, h, rfl⟩
  | candidateId | candidatePairId =>
    simp only [bytes, toOption_eq_some, candidateIdBytes, candidatePairIdBytes, bind_eq_ok, ensure_eq_ok,
      mapError_eq_ok, beq_iff_eq] at h
    obtain ⟨_, hsh, hb⟩ := h
    exact ⟨_, hb, hsh, rfl⟩
  | candidateToken =>
    simp only [bytes, toOption_eq_some, candidateTokenBytes, Rctl.candidateId, candidateIdBytes, bind_eq_ok,
      mapError_eq_ok] at h
    obtain ⟨_, ⟨_, ⟨_, hsh, _⟩, _⟩, _, _, hb⟩ := h
    exact ⟨_, hb, hsh, rfl⟩
  | relayToken =>
    simp only [bytes, toOption_eq_some, relayTokenBytes, bind_eq_ok, mapError_eq_ok] at h
    obtain ⟨_, _, hb⟩ := h
    exact ⟨_, hb, rfl⟩
  | relayOpen =>
    simp only [bytes, toOption_eq_some, relayOpenCanonicalBytes, mapError_eq_ok] at h
    exact ⟨_, h, rfl⟩
  | apiRequest | operationBinding | idempotencyBinding =>
    simp only [bytes, toOption_eq_some, canonicalApiRequestBytes, canonicalOperationBindingBytes,
      canonicalIdempotencyBindingBytes, bind_eq_ok] at h
    obtain ⟨m, hm, t, ht, hb⟩ := h
    exact ⟨_, hb, m, t, hm, ht, rfl⟩

/-! ### What the fields determine -/

/-- The two messages are of one type and agree in every field of their encoding;
for a request the method and the target count as normalised. -/
def SameEncoded : CanonicalMessage → CanonicalMessage → Prop
  | sessionContext c, sessionContext c' => c = c'
  | signedKeyExchange p, signedKeyExchange p' => p = p'
  | keyConfirm c, keyConfirm c' =>
    c.sessionId = c'.sessionId ∧ c.deviceId = c'.deviceId ∧ c.role = c'.role ∧
      c.keyExchangeTranscriptHash = c'.keyExchangeTranscriptHash ∧
      c.timestampEpochMillis = c'.timestampEpochMillis
  | kdfSalt c, kdfSalt c' =>
    c.sessionId = c'.sessionId ∧ c.controllerDeviceId = c'.controllerDeviceId ∧
      c.controlledDeviceId = c'.controlledDeviceId ∧ c.permissionsDigest = c'.permissionsDigest ∧
      c.sessionExpiresAtEpochMillis = c'.sessionExpiresAtEpochMillis
  | kdfInfo c, kdfInfo c' => c = c'
  | candidateId c, candidateId c' =>
    c.sessionId = c'.sessionId ∧ c.deviceId = c'.deviceId ∧ c.role = c'.role ∧ c.kind = c'.kind ∧
      c.endpoint = c'.endpoint ∧ c.source = c'.source ∧ c.relayNodeId = c'.relayNodeId
  | candidatePairId s a b path relay, candidatePairId s' a' b' path' relay' =>
    s = s' ∧ a = a' ∧ b = b' ∧ path = path' ∧ relay = relay'
  | candidateToken c expires, candidateToken c' expires' =>
    c.sessionId = c'.sessionId ∧ c.deviceId = c'.deviceId ∧ c.role = c'.role ∧
      c.candidateId = c'.candidateId ∧ c.kind = c'.kind ∧ c.endpoint = c'.endpoint ∧
      c.source = c'.source ∧ c.observeResultId = c'.observeResultId ∧ expires = expires'
  | relayToken a, relayToken a' =>
    a.sessionId = a'.sessionId ∧ a.deviceId = a'.deviceId ∧ a.role = a'.role ∧
      a.controllerDeviceId = a'.controllerDeviceId ∧ a.controlledDeviceId = a'.controlledDeviceId ∧
      a.relayNodeId = a'.relayNodeId ∧ a.transport = a'.transport ∧
      a.permissionsDigest = a'.permissionsDigest ∧ a.relayTokenEpoch = a'.relayTokenEpoch ∧
      a.issuedAtEpochMillis = a'.issuedAtEpochMillis ∧
      a.expiresAtEpochMillis = a'.expiresAtEpochMillis ∧ a.relayTokenId = a'.relayTokenId
  | relayOpen o, relayOpen o' =>
    (o.sessionId = o'.sessionId ∧ o.deviceId = o'.deviceId ∧ o.role = o'.role ∧
      o.controllerDeviceId = o'.controllerDeviceId ∧ o.controlledDeviceId = o'.controlledDeviceId ∧
      o.relayNodeId = o'.relayNodeId ∧ o.transport = o'.transport ∧
      o.permissionsDigest = o'.permissionsDigest ∧ o.relayTokenEpoch = o'.relayTokenEpoch ∧
      o.issuedAtEpochMillis = o'.issuedAtEpochMillis ∧
      o.expiresAtEpochMillis = o'.expiresAtEpochMillis ∧ o.relayTokenId = o'.relayTokenId) ∧
      o.relayOpenNonce = o'.relayOpenNonce ∧ o.sessionRelayToken = o'.sessionRelayToken ∧
      o.tokenBindingHash = o'.tokenBindingHash
  | apiRequest method target hash request device account timestamp nonce,
    apiRequest method' target' hash' request' device' account' timestamp' nonce' =>
    canonicalHttpMethod method = canonicalHttpMethod method' ∧
      canonicalRequestTarget target = canonicalRequestTarget target' ∧ hash = hash' ∧
      request = request' ∧ device = device' ∧ account = account' ∧ timestamp = timestamp' ∧
      nonce = nonce'
  | operationBinding account device purpose method target hash request expires,
    operationBinding account' device' purpose' method' target' hash' request' expires' =>
    account = account' ∧ device = device' ∧ purpose = purpose' ∧
      canonicalHttpMethod method = canonicalHttpMethod method' ∧
      canonicalRequestTarget target = canonicalRequestTarget target' ∧ hash = hash' ∧
      request = request' ∧ expires = expires'
  | idempotencyBinding account device method target hash,
    idempotencyBinding account' device' method' target' hash' =>
    account = account' ∧ device = device' ∧
      canonicalHttpMethod method = canonicalHttpMethod method' ∧
      canonicalRequestTarget target = canonicalRequestTarget target' ∧ hash = hash'
  | _, _ => False

end CanonicalMessage

theorem infoFields_inj {c c' : SessionKdfContext} (hc : c.selectedTransportPath.isRelay = c.relayNodeId.isSome)
    (hc' : c'.selectedTransportPath.isRelay = c'.relayNodeId.isSome) (h : c.infoFields = c'.infoFields) : c = c' := by
  simp only [SessionKdfContext.infoFields, List.cons.injEq, str_inj] at h
  obtain ⟨h1, h2, h3, h4, h5, h6, h7, h8, h9, h10, h11⟩ := h
  have hpt := TransportPath.asStr_inj h8
  have hr := optionalStr_inj (by rw [← hc, ← hc', hpt]) h10
  cases c; cases c'
  simp_all

theorem validateCandidateShape_ok {c : ConnectionCandidateDto} (h : validateCandidateShape c = .ok ()) :
    c.kind.isRelay = c.relayNodeId.isSome ∧ (c.source == .udpObserved) = c.observeResultId.isSome := by
  simp only [validateCandidateShape, bind_eq_ok, ensure_eq_ok, beq_iff_eq] at h
  obtain ⟨_, _, _, hr, ho⟩ := h
  exact ⟨hr, ho⟩

variable {c c' : ConnectionCandidateDto}

theorem candidateIdFields_inj (hc : validateCandidateShape c = .ok ())
    (hc' : validateCandidateShape c' = .ok ()) (h : candidateIdFields c = candidateIdFields c') :
    (CanonicalMessage.candidateId c).SameEncoded (.candidateId c') := by
  simp only [candidateIdFields, List.cons.injEq, str_inj, u128_inj, and_true] at h
  obtain ⟨h1, h2, h3, h4, h5, h6, h7⟩ := h
  have hki := TransportPath.asStr_inj h4
  have hr : c.relayNodeId.isSome = c'.relayNodeId.isSome := by
    rw [← (validateCandidateShape_ok hc).1, ← (validateCandidateShape_ok hc').1, hki]
  exact ⟨h1, h2, SessionRole.asStr_inj h3, hki, h5, CandidateSource.asStr_inj h6, optionalStr_inj hr h7⟩

theorem candidateTokenFields_inj {e e' : UInt64} (hc : validateCandidateShape c = .ok ())
    (hc' : validateCandidateShape c' = .ok ()) (h : candidateTokenFields c e = candidateTokenFields c' e') :
    (CanonicalMessage.candidateToken c e).SameEncoded (.candidateToken c' e') := by
  simp only [candidateTokenFields, List.cons.injEq, str_inj, u128_inj, u64_inj, and_true] at h
  obtain ⟨h1, h2, h3, h4, h5, h6, h7, h8, h9⟩ := h
  have hs := CandidateSource.asStr_inj h7
  have ho : c.observeResultId.isSome = c'.observeResultId.isSome := by
    rw [← (validateCandidateShape_ok hc).2, ← (validateCandidateShape_ok hc').2, hs]
  exact ⟨h1, h2, SessionRole.asStr_inj h3, h4, TransportPath.asStr_inj h5, h6, hs, optionalStr_inj ho h8, h9⟩

theorem relayTokenFields_inj {a a' : RelayAllocation} (h : relayTokenFields a = relayTokenFields a') :
    (CanonicalMessage.relayToken a).SameEncoded (.relayToken a') := by
  simp only [relayTokenFields, relayBindingFields, List.cons.injEq, str_inj, u128_inj,
    array_inj, u64_inj, and_true] at h
  obtain ⟨h1, h2, h3, h4, h5, h6, h7, h⟩ := h
  exact ⟨h1, h2, SessionRole.asStr_inj h3, h4, h5, h6, TransportPath.asStr_inj h7, h⟩

theorem relayOpenFields_inj {o o' : RelayOpen} (h : relayOpenFields o = relayOpenFields o') :
    (CanonicalMessage.relayOpen o).SameEncoded (.relayOpen o') := by
  simp only [relayOpenFields, relayBindingFields, List.cons_append, List.nil_append, List.cons.injEq,
    str_inj, u128_inj, array_inj, u64_inj, mk.injEq, true_and,
    and_true] at h
  obtain ⟨h1, h2, h3, h4, h5, h6, h7, h8, h9, h10, h11, h12, h⟩ := h
  exact ⟨⟨h1, h2, SessionRole.asStr_inj h3, h4, h5, h6, TransportPath.asStr_inj h7, h8, h9, h10, h11, h12⟩, h⟩

namespace CanonicalMessage

variable {m m' : CanonicalMessage}

theorem sameEncoded_of_fields {fs : List Field} (hm : m.Shaped) (hm' : m'.Shaped)
    (ht : m.messageType = m'.messageType) (hf : m.HasFields fs) (hf' : m'.HasFields fs) : m.SameEncoded m' := by
  -- two messages of different types have different types
  cases m <;> cases m' <;> try cases ht
  case sessionContext.sessionContext.refl => exact SessionContext.fields_inj (hf.symm.trans hf')
  case signedKeyExchange.signedKeyExchange.refl => exact SignedKeyExchangePayload.fields_inj hm hm' (hf.symm.trans hf')
  case keyConfirm.keyConfirm.refl =>
    have h := hf.symm.trans hf'
    simp only [KeyConfirm.fields, List.cons.injEq, str_inj, u128_inj, array_inj, u64_inj, and_true] at h
    exact ⟨h.1, h.2.1, SessionRole.asStr_inj h.2.2.1, h.2.2.2⟩
  case kdfSalt.kdfSalt.refl =>
    have h := hf.symm.trans hf'
    simp only [SessionKdfContext.saltFields, List.cons.injEq, str_inj, u128_inj, array_inj, u64_inj, and_true] at h
    exact h
  case kdfInfo.kdfInfo.refl => exact infoFields_inj hm hm' (hf.symm.trans hf')
  case candidateId.candidateId.refl => exact candidateIdFields_inj hf.1 hf'.1 (hf.2.symm.trans hf'.2)
  case candidatePairId.candidatePairId.refl =>
    have h := hf.2.symm.trans hf'.2
    simp only [candidatePairIdFields, List.cons.injEq, str_inj, u128_inj, and_true] at h
    obtain ⟨h1, h2, h3, h4, h5⟩ := h
    have hpt := TransportPath.asStr_inj h4
    exact ⟨h1, h2, h3, hpt, optionalStr_inj (by rw [← hf.1, ← hf'.1, hpt]) h5⟩
  case candidateToken.candidateToken.refl => exact candidateTokenFields_inj hf.1 hf'.1 (hf.2.symm.trans hf'.2)
  case relayToken.relayToken.refl => exact relayTokenFields_inj (hf.symm.trans hf')
  case relayOpen.relayOpen.refl => exact relayOpenFields_inj (hf.symm.trans hf')
  case apiRequest.apiRequest.refl =>
    obtain ⟨x, t, hx, ht, rfl⟩ := hf
    obtain ⟨x', t', hx', ht', h⟩ := hf'
    simp only [apiRequestFields, List.cons.injEq, str_inj, array_inj, u64_inj, mk.injEq, true_and, and_true] at h
    obtain ⟨rfl, rfl, h⟩ := h
    exact ⟨hx.trans hx'.symm, ht.trans ht'.symm, h⟩
  case operationBinding.operationBinding.refl =>
    obtain ⟨x, t, hx, ht, rfl⟩ := hf
    obtain ⟨x', t', hx', ht', h⟩ := hf'
    simp only [operationBindingFields, List.cons.injEq, str_inj, array_inj, u64_inj, mk.injEq, true_and, and_true] at h
    obtain ⟨h1, h2, h3, rfl, rfl, h⟩ := h
    exact ⟨h1, h2, h3, hx.trans hx'.symm, ht.trans ht'.symm, h⟩
  case idempotencyBinding.idempotencyBinding.refl =>
    obtain ⟨x, t, hx, ht, rfl⟩ := hf
    obtain ⟨x', t', hx', ht', h⟩ := hf'
    simp only [idempotencyBindingFields, List.cons.injEq, str_inj, array_inj, mk.injEq, true_and, and_true] at h
    obtain ⟨h1, h2, rfl, rfl, h⟩ := h
    exact ⟨h1, h2, hx.trans hx'.symm, ht.trans ht'.symm, h⟩

/-! ### Sample messages -/

def confirmWith (confirmMac : Digest) : CanonicalMessage :=
  .keyConfirm { sessionId := 7, deviceId := "device-a", role := .controller,
                keyExchangeTranscriptHash := ByteArr.ofNat 32 1, confirmMac,
                timestampEpochMillis := 10 }

def saltFor (accountId : String) : CanonicalMessage :=
  .kdfSalt { accountId := accountId, sessionId := 7, controllerDeviceId := "device-a",
             controlledDeviceId := "device-b", permissionsDigest := ByteArr.ofNat 32 2,
             protocolVersion := 1, sessionExpiresAtEpochMillis := 20,
             selectedTransportPath := .lanDirect, selectedCandidatePairId := 9, relayNodeId := none,
             keyExchangeTranscriptHash := ByteArr.ofNat 32 1 }

def requestWith (method : String) : CanonicalMessage :=
  .apiRequest method "/v1/devices" (ByteArr.ofNat 32 3) "request-1" "device-a" "account-1" 10 "nonce-1"

def constantPrimitives : Primitives where
  sha256 _ := ByteArr.ofNat 32 4
  hmacSha256 _ _ := none
  hkdfExpand _ _ _ _ := none
  aeadEncrypt _ _ _ _ := none
  aeadDecrypt _ _ _ _ := none
  ed25519Key _ := false
  ed25519Verify _ _ _ := false
  x25519Public _ := ByteArr.ofNat 32 0
  x25519 _ _ := ByteArr.ofNat 32 0

theorem exists_bytes {P : Primitives} (h : (m.bytes P).isSome = true) (heq : m.bytes P = m'.bytes P) :
    ∃ b, m.bytes P = some b ∧ m'.bytes P = some b := by
  obtain ⟨b, hb⟩ := Option.isSome_iff_exists.mp h
  exact ⟨b, hb, heq ▸ hb⟩

/-! ### Unique decodability -/

/-- **Unique decodability.** Equal finished encodings have equal domains and equal
fields; hence equal bytes of two shaped messages mean one type and equal values of
all the fields encoded, with an absent optional field told apart from a present one. -/
theorem canonical_messages_decodable :
    (∀ (d d' : String) (fs gs : List Field) (b : Bytes), canonicalEncode d fs = .ok b →
      canonicalEncode d' gs = .ok b → d = d' ∧ fs = gs) ∧
    ∀ (P : Primitives) (m m' : CanonicalMessage) (b : Bytes), m.Shaped → m'.Shaped →
      m.bytes P = some b → m'.bytes P = some b →
      m.messageType = m'.messageType ∧ m.SameEncoded m' := by
  refine ⟨fun d d' fs gs b h h' => canonicalEncode_inj h h', fun P m m' b hm hm' hb hb' => ?_⟩
  obtain ⟨fs, he, hf⟩ := bytes_spec hb
  obtain ⟨gs, he', hg⟩ := bytes_spec hb'
  obtain ⟨hd, rfl⟩ := canonicalEncode_inj he he'
  have ht := MessageType.domain_inj hd
  exact ⟨ht, sameEncoded_of_fields hm hm' ht hf hg⟩

theorem canonical_messages_decodable_request :
    (∃ b, canonicalEncode "rctl-relay-open-v1" [.str "device_id" "device-a"] = .ok b ∧
      canonicalEncode "rctl-relay-open-v1" [.optionalStr "device_id" (some "device-a")] = .ok b ∧
      Field.str "device_id" "device-a" = .optionalStr "device_id" (some "device-a")) ∧
    (requestWith "get").bytes constantPrimitives = (requestWith "GET").bytes constantPrimitives ∧
    (requestWith "get").SameEncoded (requestWith "GET") := by
  obtain ⟨b, hb⟩ : ∃ b, canonicalEncode "rctl-relay-open-v1" [.str "device_id" "device-a"] = .ok b :=
    ⟨_, rfl⟩
  obtain ⟨b', h, h'⟩ : ∃ b', (requestWith "get").bytes constantPrimitives = some b' ∧
      (requestWith "GET").bytes constantPrimitives = some b' :=
    exists_bytes (by decide +kernel) (by decide +kernel)
  refine ⟨⟨b, hb, hb, ?_⟩, h.trans h'.symm,
    (canonical_messages_decodable.2 constantPrimitives (requestWith "get") (requestWith "GET") b'
      trivial trivial h h').2⟩
  exact List.head_eq_of_cons_eq (canonical_messages_decodable.1 _ _ _ _ b hb hb).2

/-- Two messages that pass the shape checks, differ and have the same bytes. -/
def Confused (P : Primitives) (m m' : CanonicalMessage) : Prop :=
  m.Shaped ∧ m'.Shaped ∧ m ≠ m' ∧ ∃ b, m.bytes P = some b ∧ m'.bytes P = some b

/-- Messages that differ in a field their encoding does not cover, or in the
spelling of the method, have the same bytes. -/
theorem canonical_bytes_forget :
    Confused constantPrimitives (confirmWith (ByteArr.ofNat 32 0)) (confirmWith (ByteArr.ofNat 32 1)) ∧
      Confused constantPrimitives (saltFor "account-1") (saltFor "account-2") ∧
      Confused constantPrimitives (requestWith "get") (requestWith "GET") := by
  refine ⟨⟨trivial, trivial, by decide +kernel, ?_⟩, ⟨trivial, trivial, by decide +kernel, ?_⟩,
    trivial, trivial, by decide +kernel, ?_⟩
  · exact exists_bytes (by decide +kernel) rfl
  · exact exists_bytes (by decide +kernel) rfl
  · exact exists_bytes (by decide +kernel) (by decide +kernel)

end CanonicalMessage

end Rctl
