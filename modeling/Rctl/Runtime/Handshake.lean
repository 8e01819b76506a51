/-
# The key-exchange handshake

`remote-runtime/src/handshake.rs`: a handshake is built from a configuration and
an ephemeral key, gets the local device's signature over its payload, accepts one
message of the peer, and finishes with a secure session and the local key
confirmation. Setting the signature and verifying the peer's message are the steps
of a machine, in any order and with any failures in between.
-/
import Rctl.Core.SecureSession

namespace Rctl

open ByteString Result

def KEY_EXCHANGE_WINDOW_MILLIS : UInt64 := 30000

structure SessionHandshakeConfig where
  context : SessionKdfContext
  permissions : SessionPermissions
  localRole : SessionRole
  localDeviceId : String
  localDevicePublicKey : ByteArr 32
  keyExchangeNonce : Digest
  timestampEpochMillis : UInt64
  deriving DecidableEq

inductive SessionHandshakeError
  | invalidConfiguration
  | invalidState
  | invalidLocalSignature
  | peerBindingMismatch
  | peerMessageTooOld
  | sessionExpired
  | crypto (e : CryptoError)
  | secureSession (e : SecureSessionError)
  deriving DecidableEq, Repr

structure SessionHandshakeReady where
  secureSession : SecureSession
  localKeyConfirm : KeyConfirm
  keyExchangeTranscriptHash : Digest

structure SessionHandshake where
  config : SessionHandshakeConfig
  ephemeralKey : EphemeralKeyPair
  localPayload : SignedKeyExchangePayload
  localMessage : Option SignedKeyExchange
  peerMessage : Option SignedKeyExchange
  deriving DecidableEq

def deviceForRole (context : SessionKdfContext) : SessionRole → String
  | .controller => context.controllerDeviceId
  | .controlled => context.controlledDeviceId

/-- The part of the key derivation context that both sides hash into their
payloads. -/
def SessionKdfContext.sessionContext (c : SessionKdfContext) : SessionContext :=
  { accountId := c.accountId
    sessionId := c.sessionId
    controllerDeviceId := c.controllerDeviceId
    controlledDeviceId := c.controlledDeviceId
    permissionsDigest := c.permissionsDigest
    protocolVersion := c.protocolVersion
    sessionExpiresAtEpochMillis := c.sessionExpiresAtEpochMillis }

/-- The context with the hash of the exchanged messages filled in. -/
def SessionKdfContext.withTranscript (c : SessionKdfContext) (hash : Digest) : SessionKdfContext :=
  { c with keyExchangeTranscriptHash := hash }

namespace SessionHandshake

variable (P : Primitives)

def validateConfig (config : SessionHandshakeConfig) : Except SessionHandshakeError Unit :=
  if config.context.accountId = "" ∨ config.context.sessionId = 0 ∨ config.localDeviceId = "" ∨
      config.context.controllerDeviceId = "" ∨ config.context.controlledDeviceId = "" ∨
      config.context.controllerDeviceId = config.context.controlledDeviceId ∨
      config.context.protocolVersion ≠ PROTOCOL_VERSION ∨
      config.context.sessionExpiresAtEpochMillis ≤ config.timestampEpochMillis ∨
      config.context.selectedCandidatePairId = 0 ∨
      config.keyExchangeNonce = Vector.replicate 32 0 ∨
      config.context.selectedTransportPath.isRelay ≠ config.context.relayNodeId.isSome ∨
      deviceForRole config.context config.localRole ≠ config.localDeviceId ∨
      (permissionsDigest P config.permissions).toOption ≠ some config.context.permissionsDigest then
    .error .invalidConfiguration
  else .ok ()

def payload (config : SessionHandshakeConfig) (ephemeralKey : EphemeralKeyPair) (contextHash : Digest) :
    SignedKeyExchangePayload :=
  { sessionId := config.context.sessionId
    deviceId := config.localDeviceId
    role := config.localRole
    sessionContextHash := contextHash
    permissionsDigest := config.context.permissionsDigest
    sessionExpiresAtEpochMillis := config.context.sessionExpiresAtEpochMillis
    ephemeralPublicKey := ephemeralKey.publicKey
    keyExchangeNonce := config.keyExchangeNonce
    selectedTransportPath := config.context.selectedTransportPath
    selectedCandidatePairId := config.context.selectedCandidatePairId
    relayNodeId := config.context.relayNodeId
    timestampEpochMillis := config.timestampEpochMillis }

def withEphemeralKey (config : SessionHandshakeConfig) (ephemeralKey : EphemeralKeyPair) :
    Except SessionHandshakeError SessionHandshake := do
  validateConfig P config
  let contextHash ← (sessionContextHash P config.context.sessionContext).mapError
    SessionHandshakeError.crypto
  return { config := config, ephemeralKey, localPayload := payload config ephemeralKey contextHash
           localMessage := none, peerMessage := none }

variable (h : SessionHandshake)

def localSignatureDigest : Except SessionHandshakeError Digest := do
  let canonical ← h.localPayload.canonicalBytes.mapError
    fun _ => SessionHandshakeError.crypto .canonicalEncoding
  return P.sha256 canonical

def setLocalSignature (signature : Bytes) :
    Except SessionHandshakeError SignedKeyExchange × SessionHandshake :=
  commit h do
    ensure (h.localMessage.isNone && signature.length = 64) SessionHandshakeError.invalidState
    let message : SignedKeyExchange := ⟨h.localPayload, signature⟩
    let signatureBytes ← okOr message.signatureBytes .invalidLocalSignature
    let canonical ← h.localPayload.canonicalBytes.mapError
      fun _ => SessionHandshakeError.crypto .canonicalEncoding
    (verifyCanonicalSignature P h.config.localDevicePublicKey canonical signatureBytes).mapError
      fun _ => .invalidLocalSignature
    return (message, { h with localMessage := some message })

/-- What a side checks of the peer's payload besides its time and signature. -/
def bindingMatches (p : SignedKeyExchangePayload) : Bool :=
  let expectedPeerRole := h.config.localRole.opposite
  let expectedPeerDevice := deviceForRole h.config.context expectedPeerRole
  p.sessionId = h.config.context.sessionId &&
  p.deviceId = expectedPeerDevice &&
  p.role = expectedPeerRole &&
  p.sessionContextHash = h.localPayload.sessionContextHash &&
  p.permissionsDigest = h.config.context.permissionsDigest &&
  p.sessionExpiresAtEpochMillis = h.config.context.sessionExpiresAtEpochMillis &&
  p.selectedTransportPath = h.config.context.selectedTransportPath &&
  p.selectedCandidatePairId = h.config.context.selectedCandidatePairId &&
  p.relayNodeId = h.config.context.relayNodeId &&
  p.ephemeralPublicKey ≠ Vector.replicate 32 0 &&
  p.keyExchangeNonce ≠ Vector.replicate 32 0 &&
  p.validatePathBinding

def verifyPeerMessage (message : SignedKeyExchange) (peerDevicePublicKey : ByteArr 32)
    (nowEpochMillis : UInt64) : Except SessionHandshakeError Unit × SessionHandshake :=
  commit h do
    ensure h.peerMessage.isNone SessionHandshakeError.invalidState
    ensure (nowEpochMillis < h.config.context.sessionExpiresAtEpochMillis &&
      message.payload.timestampEpochMillis < h.config.context.sessionExpiresAtEpochMillis)
      .sessionExpired
    ensure (h.bindingMatches message.payload) .peerBindingMismatch
    ensure (absDiff message.payload.timestampEpochMillis nowEpochMillis ≤ KEY_EXCHANGE_WINDOW_MILLIS)
      .peerMessageTooOld
    let signature ← okOr message.signatureBytes .peerBindingMismatch
    let canonical ← message.payload.canonicalBytes.mapError
      fun _ => SessionHandshakeError.crypto .canonicalEncoding
    (verifyCanonicalSignature P peerDevicePublicKey canonical signature).mapError .crypto
    return ((), { h with peerMessage := some message })

/-- The messages of both sides, the controller's first. -/
def ordered (role : SessionRole) (own peer : SignedKeyExchange) : SignedKeyExchange × SignedKeyExchange :=
  match role with
  | .controller => (own, peer)
  | .controlled => (peer, own)

def finish (keyConfirmTimestampEpochMillis : UInt64) :
    Except SessionHandshakeError SessionHandshakeReady := do
  ensure (keyConfirmTimestampEpochMillis < h.config.context.sessionExpiresAtEpochMillis)
    SessionHandshakeError.sessionExpired
  let own ← okOr h.localMessage .invalidState
  let peer ← okOr h.peerMessage .invalidState
  let messages := ordered h.config.localRole own peer
  let transcriptHash ← (keyExchangeTranscriptHash P messages.1 messages.2).mapError .crypto
  let sharedSecret ← (h.ephemeralKey.diffieHellman P peer.payload.ephemeralPublicKey).mapError .crypto
  let kdfContext := h.config.context.withTranscript transcriptHash
  let keys ← (deriveSessionKeys P sharedSecret kdfContext).mapError .crypto
  let secureSession ← (SecureSession.new kdfContext.sessionId h.config.localRole h.config.permissions
    kdfContext.permissionsDigest kdfContext.selectedTransportPath kdfContext.selectedCandidatePairId
    kdfContext.relayNodeId transcriptHash keys).mapError .secureSession
  let confirmed := secureSession.createLocalKeyConfirm P h.config.localDeviceId
    keyConfirmTimestampEpochMillis
  let localKeyConfirm ← confirmed.1.mapError .secureSession
  return { secureSession := confirmed.2, localKeyConfirm, keyExchangeTranscriptHash := transcriptHash }

/-! ### What success means -/

variable {P h} {m : SignedKeyExchange} {key : ByteArr 32}

theorem withEphemeralKey_eq_ok {config : SessionHandshakeConfig} {key : EphemeralKeyPair}
    (hok : withEphemeralKey P config key = .ok h) :
    ∃ contextHash, sessionContextHash P config.context.sessionContext = .ok contextHash ∧
      h = { config, ephemeralKey := key, localPayload := payload config key contextHash,
            localMessage := none, peerMessage := none } ∧
      config.context.selectedTransportPath.isRelay = config.context.relayNodeId.isSome ∧
      deviceForRole config.context config.localRole = config.localDeviceId := by
  simp only [withEphemeralKey, bind_eq_ok, mapError_eq_ok, pure_eq_ok] at hok
  obtain ⟨_, hv, contextHash, hh, rfl⟩ := hok
  unfold validateConfig at hv
  split at hv
  · cases hv
  · rename_i hc
    simp only [not_or, not_not] at hc
    exact ⟨contextHash, hh, rfl, hc.2.2.2.2.2.2.2.2.2.2.1, hc.2.2.2.2.2.2.2.2.2.2.2.1⟩

theorem setLocalSignature_eq_ok {sig : Bytes} (hok : (h.setLocalSignature P sig).1 = .ok m) :
    m = ⟨h.localPayload, sig⟩ ∧ (h.setLocalSignature P sig).2 = { h with localMessage := some m } := by
  have hok := commit_eq_ok hok
  simp only [bind_eq_ok, pure_eq_ok, Prod.mk.injEq] at hok
  obtain ⟨_, _, _, _, _, _, _, _, rfl, hs⟩ := hok
  exact ⟨rfl, hs.symm⟩

theorem bindingMatches_eq_true {q : SignedKeyExchangePayload} (hb : h.bindingMatches q = true) :
    q.sessionContextHash = h.localPayload.sessionContextHash ∧
      q.selectedTransportPath = h.config.context.selectedTransportPath ∧
      q.selectedCandidatePairId = h.config.context.selectedCandidatePairId ∧
      q.relayNodeId = h.config.context.relayNodeId ∧ q.validatePathBinding = true := by
  simp only [bindingMatches, Bool.and_eq_true] at hb
  obtain ⟨⟨⟨⟨⟨⟨⟨⟨⟨⟨⟨-, -⟩, -⟩, hh⟩, -⟩, -⟩, hp⟩, hpi⟩, hr⟩, -⟩, -⟩, hbound⟩ := hb
  exact ⟨of_decide_eq_true hh, of_decide_eq_true hp, of_decide_eq_true hpi, of_decide_eq_true hr, hbound⟩

/-- The peer's message carries the expected binding and a signature that verifies
under `key`. -/
def Accepts (P : Primitives) (h : SessionHandshake) (m : SignedKeyExchange) (key : ByteArr 32) : Prop :=
  h.bindingMatches m.payload = true ∧
  ∃ signature canonical, m.signatureBytes = some signature ∧ m.payload.canonicalBytes = .ok canonical ∧
    P.ed25519Verify key (P.sha256 canonical) signature = true

theorem verifyPeerMessage_eq_ok {now : UInt64} {u : Unit} (hok : (h.verifyPeerMessage P m key now).1 = .ok u) :
    Accepts P h m key ∧ (h.verifyPeerMessage P m key now).2 = { h with peerMessage := some m } := by
  have hok := commit_eq_ok hok
  simp only [bind_eq_ok, ensure_eq_ok, okOr_eq_ok, mapError_eq_ok, pure_eq_ok, Prod.mk.injEq] at hok
  obtain ⟨_, _, _, _, _, hbi, _, _, sig, hg, canonical, hc, _, hvf, -, hs⟩ := hok
  exact ⟨⟨hbi, sig, canonical, hg, hc, ((verifyCanonicalSignature_eq_ok P).mp hvf).2⟩, hs.symm⟩

/-- The session a finished handshake leaves: new but for the sent confirmation. -/
theorem finish_eq_ok {ts : UInt64} {ready : SessionHandshakeReady} (hok : h.finish P ts = .ok ready) :
    ∃ own peer secret keys session, h.localMessage = some own ∧ h.peerMessage = some peer ∧
      keyExchangeTranscriptHash P (ordered h.config.localRole own peer).1
        (ordered h.config.localRole own peer).2 = .ok ready.keyExchangeTranscriptHash ∧
      h.ephemeralKey.diffieHellman P peer.payload.ephemeralPublicKey = .ok secret ∧
      deriveSessionKeys P secret (h.config.context.withTranscript ready.keyExchangeTranscriptHash) = .ok keys ∧
      SecureSession.new h.config.context.sessionId h.config.localRole h.config.permissions
        h.config.context.permissionsDigest h.config.context.selectedTransportPath
        h.config.context.selectedCandidatePairId h.config.context.relayNodeId
        ready.keyExchangeTranscriptHash keys = .ok session ∧
      createKeyConfirm P h.config.context.sessionId h.config.localDeviceId h.config.localRole
        ready.keyExchangeTranscriptHash ts keys = .ok ready.localKeyConfirm ∧
      ready.secureSession = { session with localConfirmSent := true } := by
  simp only [finish, bind_eq_ok, okOr_eq_ok, mapError_eq_ok, pure_eq_ok] at hok
  obtain ⟨_, -, own, ho, peer, hpe, hash, hha, secret, hs, keys, hks, session, hn, confirm, hc, rfl⟩ := hok
  obtain ⟨-, -, hcreate, hsession⟩ := SecureSession.createLocalKeyConfirm_eq_ok hc
  obtain ⟨-, hid, hrl, -, -, hk, hth⟩ := SecureSession.asCreated_of_new hn
  rw [hid, hrl, hk, hth] at hcreate
  exact ⟨own, peer, secret, keys, session, ho, hpe, hha, hs, hks, hn, hcreate, hsession⟩

/-! ### The machine -/

inductive Call
  | setLocalSignature (signature : Bytes)
  | verifyPeerMessage (message : SignedKeyExchange) (peerDevicePublicKey : ByteArr 32)
      (nowEpochMillis : UInt64)

def step (P : Primitives) (h : SessionHandshake) :
    Call → Except SessionHandshakeError Unit × SessionHandshake
  | .setLocalSignature signature =>
    ((h.setLocalSignature P signature).1.map fun _ => (), (h.setLocalSignature P signature).2)
  | .verifyPeerMessage message key now => h.verifyPeerMessage P message key now

/-- What the calls `cs` can make of a handshake `h₀`: only the two messages move,
the own one carries the own payload, and the peer's one was accepted. -/
structure Reached (P : Primitives) (h₀ : SessionHandshake) (cs : List Call) (h : SessionHandshake) :
    Prop where
  config : h.config = h₀.config
  ephemeralKey : h.ephemeralKey = h₀.ephemeralKey
  localPayload : h.localPayload = h₀.localPayload
  own : ∀ m, h.localMessage = some m → h₀.localMessage = some m ∨ m.payload = h₀.localPayload
  peer : ∀ m, h.peerMessage = some m → h₀.peerMessage = some m ∨
    ∃ key now, .verifyPeerMessage m key now ∈ cs ∧ Accepts P h₀ m key

theorem reached_step (c : Call) : Reached P h [c] (step P h c).2 := by
  have hrefl : Reached P h [c] h := ⟨rfl, rfl, rfl, fun _ hm => .inl hm, fun _ hm => .inl hm⟩
  cases c with
  | setLocalSignature sig =>
    show Reached P h _ (h.setLocalSignature P sig).2
    cases hr : (h.setLocalSignature P sig).1 with
    | error => rwa [show (h.setLocalSignature P sig).2 = h from commit_of_error hr]
    | ok m =>
      obtain ⟨rfl, hs⟩ := setLocalSignature_eq_ok hr
      rw [hs]
      exact ⟨rfl, rfl, rfl, fun m hm => .inr (by cases hm; rfl), fun _ hm => .inl hm⟩
  | verifyPeerMessage msg key now =>
    show Reached P h _ (h.verifyPeerMessage P msg key now).2
    cases hr : (h.verifyPeerMessage P msg key now).1 with
    | error => rwa [show (h.verifyPeerMessage P msg key now).2 = h from commit_of_error hr]
    | ok =>
      obtain ⟨ha, hs⟩ := verifyPeerMessage_eq_ok hr
      rw [hs]
      refine ⟨rfl, rfl, rfl, fun _ hm => .inl hm, fun m hm => .inr ?_⟩
      cases hm
      exact ⟨key, now, List.mem_cons_self, ha⟩

theorem Accepts.congr {h' : SessionHandshake} (hc : h'.config = h.config)
    (hp : h'.localPayload = h.localPayload) (ha : Accepts P h' m key) : Accepts P h m key := by
  unfold Accepts bindingMatches at ha ⊢
  rwa [hc, hp] at ha

theorem reached_of_run (P : Primitives) : ∀ (cs : List Call) (h : SessionHandshake),
    Reached P h cs (StateRun.final (step P) h cs)
  | [], h => ⟨rfl, rfl, rfl, fun _ hm => .inl hm, fun _ hm => .inl hm⟩
  | c :: cs, h => by
    have h1 := reached_step (P := P) (h := h) c
    have ih := reached_of_run P cs (step P h c).2
    refine ⟨ih.config.trans h1.config, ih.ephemeralKey.trans h1.ephemeralKey,
      ih.localPayload.trans h1.localPayload, fun m hm => ?_, fun m hm => ?_⟩
    · rcases ih.own m hm with hm | hm
      · exact h1.own m hm
      · exact .inr (hm.trans h1.localPayload)
    · rcases ih.peer m hm with hm | ⟨key, now, hmem, ha⟩
      · rcases h1.peer m hm with hm | ⟨key, now, hmem, ha⟩
        · exact .inl hm
        · exact .inr ⟨key, now, List.mem_cons.mpr (.inl (List.mem_singleton.mp hmem)), ha⟩
      · exact .inr ⟨key, now, List.mem_cons_of_mem _ hmem, ha.congr h1.config h1.localPayload⟩

end SessionHandshake

end Rctl
