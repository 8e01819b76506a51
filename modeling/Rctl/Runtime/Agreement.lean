/-
# Agreement of the two sides of a key exchange

A controller's and a controlled side's handshake with arbitrary configurations,
ephemeral secrets and calls; the network decides which messages each side is
asked to verify. If a signature that verifies in the run is one its device made,
and SHA-256 has no collision among the inputs of the run, a side accepts nothing
but the message the other side signed. From there everything is computed alike on
both sides: transcript, shared secret (X25519 commutes), keys and confirmations.
-/
import Mathlib.Data.Set.Function
import Rctl.Runtime.Handshake

namespace Rctl

open ByteString Result StateRun SessionHandshake

/-- The two sides of a key exchange and the calls made on each. -/
structure HandshakePair (P : Primitives) where
  config : SessionRole → SessionHandshakeConfig
  secret : SessionRole → ByteArr 32
  start : SessionRole → SessionHandshake
  calls : SessionRole → List SessionHandshake.Call
  localRole : ∀ r, (config r).localRole = r
  created : ∀ r, withEphemeralKey P (config r) (.fromSecretBytes P (secret r)) = .ok (start r)

variable {r : SessionRole} {m : SignedKeyExchange} {key : ByteArr 32} {now : UInt64}

namespace HandshakePair

variable {P : Primitives} (p : HandshakePair P)

def state (r : SessionRole) : SessionHandshake := final (SessionHandshake.step P) (p.start r) (p.calls r)

/-- Each side is given the device key of the other to verify messages with. -/
def PeerKeys : Prop :=
  ∀ r m key now, .verifyPeerMessage m key now ∈ p.calls r →
    key = (p.config r.opposite).localDevicePublicKey

/-- A signature of a message of the run that verifies under the key of the other
side is the signature the other side's device made, and over the digest of the
payload it signed. -/
def Unforgeable : Prop :=
  ∀ r m key now signature canonical, .verifyPeerMessage m key now ∈ p.calls r →
    m.signatureBytes = some signature → m.payload.canonicalBytes = .ok canonical →
    P.ed25519Verify (p.config r.opposite).localDevicePublicKey (P.sha256 canonical) signature = true →
    ∃ own ownCanonical, (p.state r.opposite).localMessage = some own ∧
      own.payload.canonicalBytes = .ok ownCanonical ∧
      P.sha256 canonical = P.sha256 ownCanonical ∧ m.signature = own.signature

def hashed : Set Bytes :=
  {b | (∃ r, (p.config r).context.sessionContext.canonicalBytes = .ok b) ∨
    (∃ r, (p.start r).localPayload.canonicalBytes = .ok b) ∨
    ∃ r m key now, .verifyPeerMessage m key now ∈ p.calls r ∧ m.payload.canonicalBytes = .ok b}

variable {p}

theorem start_eq (p : HandshakePair P) (r : SessionRole) :
    ∃ contextHash, sessionContextHash P (p.config r).context.sessionContext = .ok contextHash ∧
      p.start r = { config := p.config r, ephemeralKey := .fromSecretBytes P (p.secret r),
                    localPayload := payload (p.config r) (.fromSecretBytes P (p.secret r)) contextHash,
                    localMessage := none, peerMessage := none } ∧
      (p.config r).context.selectedTransportPath.isRelay = (p.config r).context.relayNodeId.isSome ∧
      deviceForRole (p.config r).context r = (p.config r).localDeviceId := by
  have h := withEphemeralKey_eq_ok (p.created r)
  rwa [p.localRole r] at h

theorem state_config (p : HandshakePair P) (r : SessionRole) : (p.state r).config = p.config r := by
  obtain ⟨_, -, hs, -⟩ := p.start_eq r
  rw [state, (reached_of_run P (p.calls r) (p.start r)).config, hs]

theorem state_ephemeralKey (p : HandshakePair P) (r : SessionRole) :
    (p.state r).ephemeralKey = .fromSecretBytes P (p.secret r) := by
  obtain ⟨_, -, hs, -⟩ := p.start_eq r
  rw [state, (reached_of_run P (p.calls r) (p.start r)).ephemeralKey, hs]

theorem state_own (hm : (p.state r).localMessage = some m) : m.payload = (p.start r).localPayload := by
  obtain ⟨_, -, hs, -⟩ := p.start_eq r
  rcases (reached_of_run P (p.calls r) (p.start r)).own m hm with h | h
  · rw [hs] at h
    cases h
  · exact h

theorem state_peer (hm : (p.state r).peerMessage = some m) :
    ∃ key now, .verifyPeerMessage m key now ∈ p.calls r ∧ Accepts P (p.start r) m key := by
  obtain ⟨_, -, hs, -⟩ := p.start_eq r
  rcases (reached_of_run P (p.calls r) (p.start r)).peer m hm with h | h
  · rw [hs] at h
    cases h
  · exact h

theorem localPayload_path (p : HandshakePair P) (r : SessionRole) :
    (p.start r).localPayload.validatePathBinding = true := by
  obtain ⟨_, -, hs, hp, -⟩ := p.start_eq r
  rw [hs]
  exact beq_iff_eq.mpr hp

/-- **A side accepts only what the other side signed.** -/
theorem accepted_message (hks : p.PeerKeys) (hu : p.Unforgeable)
    (hs : Set.InjOn P.sha256 p.hashed) (hcl : .verifyPeerMessage m key now ∈ p.calls r)
    (ha : Accepts P (p.start r) m key) :
    (p.state r.opposite).localMessage = some m ∧ m.payload = (p.start r.opposite).localPayload := by
  obtain ⟨hbi, sig, canonical, hsignature, hc, hvf⟩ := ha
  rw [hks r m key now hcl] at hvf
  obtain ⟨own, ownCanonical, ho, hownCanonical, hd, hg⟩ :=
    hu r m key now sig canonical hcl hsignature hc hvf
  have hp := state_own ho
  rw [hp] at hownCanonical
  have hby := hs (.inr (.inr ⟨r, m, key, now, hcl, hc⟩)) (.inr (.inl ⟨r.opposite, hownCanonical⟩)) hd
  rw [← hby] at hownCanonical
  have hpt := (bindingMatches_eq_true hbi).2.2.2.2
  have heq : m.payload = (p.start r.opposite).localPayload :=
    SignedKeyExchangePayload.fields_inj hpt (localPayload_path p r.opposite)
      (canonicalEncode_inj hc hownCanonical).2
  refine ⟨?_, heq⟩
  obtain ⟨mp, ms⟩ := m
  obtain ⟨op, os⟩ := own
  rw [ho]
  cases hg
  cases heq
  cases hp
  rfl

/-- The contexts of the two sides agree, up to the transcript hash that each fills
in itself. -/
theorem contexts_agree (hks : p.PeerKeys) (hu : p.Unforgeable)
    (hsha : Set.InjOn P.sha256 p.hashed) (hcl : .verifyPeerMessage m key now ∈ p.calls r)
    (ha : Accepts P (p.start r) m key) (hash : Digest) :
    (p.config r).context.withTranscript hash = (p.config r.opposite).context.withTranscript hash := by
  have hp := (accepted_message hks hu hsha hcl ha).2
  obtain ⟨d, hd, hs, -⟩ := p.start_eq r
  obtain ⟨d', hd', hs', -⟩ := p.start_eq r.opposite
  obtain ⟨hha, hpt, hpi, hr, -⟩ := bindingMatches_eq_true ha.1
  rw [hp, hs, hs'] at hha hpt hpi hr
  -- equal context hashes are hashes of equal contexts
  obtain ⟨b, hb, rfl⟩ := (sessionContextHash_eq_ok P).mp hd
  obtain ⟨b', hb', rfl⟩ := (sessionContextHash_eq_ok P).mp hd'
  have hby := hsha (.inl ⟨r, hb⟩) (.inl ⟨r.opposite, hb'⟩) hha.symm
  rw [← hby] at hb'
  have hc := SessionContext.fields_inj (canonicalEncode_inj hb hb').2
  simp only [SessionKdfContext.sessionContext, SessionContext.mk.injEq] at hc
  obtain ⟨h1, h2, h3, h4, h5, h6, h7⟩ := hc
  simp only [SessionKdfContext.withTranscript, SessionKdfContext.mk.injEq]
  exact ⟨h1, h2, h3, h4, h5, h6, h7, hpt.symm, hpi.symm, hr.symm, trivial⟩

/-! ### Finished handshakes -/

section Finished

variable {timestamp : SessionRole → UInt64} {ready : SessionRole → SessionHandshakeReady}
  {own peer own' peer' : SignedKeyExchange} {rd rd' : SessionHandshakeReady}

structure Computed (p : HandshakePair P) (r : SessionRole) (timestamp : UInt64)
    (ready : SessionHandshakeReady) (own peer : SignedKeyExchange) (keys : DerivedSessionKeys) : Prop where
  localMessage : (p.state r).localMessage = some own
  peerMessage : (p.state r).peerMessage = some peer
  transcript : keyExchangeTranscriptHash P (ordered r own peer).1 (ordered r own peer).2 =
    .ok ready.keyExchangeTranscriptHash
  derived : deriveSessionKeys P (P.x25519 (p.secret r) peer.payload.ephemeralPublicKey)
    ((p.config r).context.withTranscript ready.keyExchangeTranscriptHash) = .ok keys
  confirm : createKeyConfirm P (p.config r).context.sessionId (p.config r).localDeviceId r
    ready.keyExchangeTranscriptHash timestamp keys = .ok ready.localKeyConfirm
  sessionKeys : ready.secureSession.keys = keys
  sessionId : ready.secureSession.sessionId = (p.config r).context.sessionId
  role : ready.secureSession.localRole = r
  hash : ready.secureSession.keyExchangeTranscriptHash = ready.keyExchangeTranscriptHash
  guardDefault : ready.secureSession.keyConfirmReplayGuard = KeyConfirmReplayGuard.default

theorem computed_of_finish {t : UInt64} (hf : (p.state r).finish P t = .ok rd) :
    ∃ own peer keys, Computed p r t rd own peer keys := by
  obtain ⟨own, peer, secret, keys, session, ho, hpe, hha, hsecret, hks, hn, hc, hs⟩ :=
    finish_eq_ok hf
  simp only [EphemeralKeyPair.diffieHellman, bind_eq_ok, pure_eq_ok] at hsecret
  obtain ⟨_, -, rfl⟩ := hsecret
  rw [state_config, p.localRole r] at hha hc
  rw [state_config] at hks
  rw [state_ephemeralKey] at hks
  obtain ⟨hcr, hid, hrl, -, -, hsk, hth⟩ := SecureSession.asCreated_of_new hn
  refine ⟨own, peer, keys, ⟨ho, hpe, hha, hks, hc, ?_, ?_, ?_, ?_, ?_⟩⟩
  · rw [hs]; exact hsk
  · rw [hs]; rw [state_config] at hid; exact hid
  · rw [hs]; rw [state_config, p.localRole r] at hrl; exact hrl
  · rw [hs]; exact hth
  · rw [hs]; exact congrArg (·.keyConfirmReplayGuard) hcr.symm

theorem ordered_opposite (r : SessionRole) (a b : SignedKeyExchange) : ordered r.opposite b a = ordered r a b := by
  cases r <;> rfl

/-- **Both sides compute the same**: transcript hash and keys. -/
theorem computed_agree (hks : p.PeerKeys) (hu : p.Unforgeable) (hsha : Set.InjOn P.sha256 p.hashed)
    (hx2 : ∀ a b, P.x25519 a (P.x25519Public b) = P.x25519 b (P.x25519Public a)) {t t' : UInt64}
    {k k' : DerivedSessionKeys} (h : Computed p r t rd own peer k) (h' : Computed p r.opposite t' rd' own' peer' k') :
    rd.keyExchangeTranscriptHash = rd'.keyExchangeTranscriptHash ∧ k = k' := by
  obtain ⟨key, now, hcl, ha⟩ := state_peer h.peerMessage
  obtain ⟨key', now', hcall', ha'⟩ := state_peer h'.peerMessage
  obtain ⟨hm, hp⟩ := accepted_message hks hu hsha hcl ha
  obtain ⟨hm', hp'⟩ := accepted_message hks hu hsha hcall' ha'
  rw [SessionRole.opposite_opposite, h.localMessage] at hm'
  rw [h'.localMessage] at hm
  cases hm
  cases hm'
  have hha : rd.keyExchangeTranscriptHash = rd'.keyExchangeTranscriptHash := by
    have ht := h.transcript
    have ht' := h'.transcript
    rw [ordered_opposite, ht] at ht'
    exact Except.ok.inj ht'
  refine ⟨hha, ?_⟩
  -- each peer key in a payload is the public key of the other side's secret
  obtain ⟨_, -, hs, -⟩ := p.start_eq r
  obtain ⟨_, -, hs', -⟩ := p.start_eq r.opposite
  rw [SessionRole.opposite_opposite] at hp'
  have hk := h.derived
  have hk' := h'.derived
  rw [show peer.payload.ephemeralPublicKey = P.x25519Public (p.secret r.opposite) by rw [hp, hs']; rfl,
    contexts_agree hks hu hsha hcl ha, hha] at hk
  rw [show own.payload.ephemeralPublicKey = P.x25519Public (p.secret r) by rw [hp', hs]; rfl, hx2, hk] at hk'
  exact Except.ok.inj hk'

theorem confirm_accepted {t t' : UInt64} {k : DerivedSessionKeys} (h : Computed p r t rd own peer k)
    (h' : Computed p r.opposite t' rd' own' peer' k)
    (hha : rd.keyExchangeTranscriptHash = rd'.keyExchangeTranscriptHash)
    (hid : (p.config r).context.sessionId = (p.config r.opposite).context.sessionId)
    (cs : List SecureSession.Call) {s : SecureSession}
    (hs : s = final (SecureSession.step P) rd'.secureSession cs) (hlv : s.invalidated = false)
    (hf : s.peerConfirmed = false) (hw : absDiff now t ≤ KEY_CONFIRM_WINDOW_MILLIS) :
    (s.verifyPeerKeyConfirm P rd.localKeyConfirm (p.config r).localDeviceId now).1 = .ok () := by
  have hcr : s.asCreated = rd'.secureSession.asCreated := by
    rw [hs, SecureSession.final_asCreated]
  have hguard : s.keyConfirmReplayGuard = KeyConfirmReplayGuard.default := by
    have hI := run_inv (SecureSession.step P)
      (fun s c hi => (SecureSession.step_outcome P s c).guard_default hi) cs (fun _ => h'.guardDefault)
    rw [← hs] at hI
    exact hI hf
  have hks : s.keys = k := (congrArg (·.keys) hcr).trans h'.sessionKeys
  have hsid : s.sessionId = (p.config r.opposite).context.sessionId :=
    (congrArg (·.sessionId) hcr).trans h'.sessionId
  have hrl : s.localRole = r.opposite := (congrArg (·.localRole) hcr).trans h'.role
  have hth : s.keyExchangeTranscriptHash = rd'.keyExchangeTranscriptHash :=
    (congrArg (·.keyExchangeTranscriptHash) hcr).trans h'.hash
  obtain ⟨csid, cdev, crole, chash, ctime, canonical, hc, hmac⟩ := createKeyConfirm_eq_ok h.confirm
  rw [← crole] at hmac
  rw [← ctime] at hw
  obtain ⟨g, hg⟩ := KeyConfirmReplayGuard.verify_ok hc hmac hw
  unfold SecureSession.verifyPeerKeyConfirm
  rw [(SecureSession.ensureNotInvalidated_eq_ok (u := ())).mpr hlv, hguard, hks, hrl,
    SessionRole.opposite_opposite, hth, ← hha]
  rw [cdev, crole, chash] at hg
  have hne : ¬ (rd.localKeyConfirm.sessionId ≠ s.sessionId ∨ rd.localKeyConfirm.role = r.opposite) := by
    rw [not_or, not_not, csid, hid, hsid, crole]
    exact ⟨rfl, fun he => SessionRole.opposite_ne r he.symm⟩
  simp only [hf, if_neg hne, hg, Bool.false_eq_true, if_false]

end Finished

/-- A message with any other payload than the one the other side signed is
refused. -/
theorem tampered_refused (hks : p.PeerKeys) (hu : p.Unforgeable) (hs : Set.InjOn P.sha256 p.hashed)
    {e : Entry SessionHandshake SessionHandshake.Call (Except SessionHandshakeError Unit)}
    (he : e ∈ trace (SessionHandshake.step P) (p.start r) (p.calls r)) (hcl : e.call = .verifyPeerMessage m key now)
    (hp : m.payload ≠ (p.start r.opposite).localPayload) : ∃ error, e.out = .error error := by
  obtain ⟨before, after, hcs, hb⟩ := mem_trace (SessionHandshake.step P) he
  have hm : .verifyPeerMessage m key now ∈ p.calls r := by
    rw [hcs, hcl]
    simp
  have hr := reached_of_run P before (p.start r)
  cases ho : e.out with
  | error error => exact ⟨error, rfl⟩
  | ok =>
    rw [hb, hcl] at ho
    have ha := (verifyPeerMessage_eq_ok ho).1.congr hr.config hr.localPayload
    exact absurd (accepted_message hks hu hs hm ha).2 hp

end HandshakePair

/-- **Key-exchange agreement.** With unforgeable signatures, no hash collision in
the run and commuting X25519, a message whose payload is not the one the other
side signed is refused; and when both sides finish, each accepted exactly the
message the other signed, both computed the same transcript hash and the same
keys and nonce prefixes, their contexts agree in every field but the transcript
hash that each fills in, and the key confirmation of each side is accepted by the
other in its time window as long as the other's session, whatever was called on it
since, is valid and has no confirmed peer yet. -/
theorem handshake_agreement {P : Primitives} (p : HandshakePair P) (hkeys : p.PeerKeys)
    (hunforgeable : p.Unforgeable) (hsha : Set.InjOn P.sha256 p.hashed)
    (hx25519 : ∀ a b, P.x25519 a (P.x25519Public b) = P.x25519 b (P.x25519Public a)) :
    (∀ r, ∀ e ∈ trace (SessionHandshake.step P) (p.start r) (p.calls r), ∀ m key now,
      e.call = .verifyPeerMessage m key now → m.payload ≠ (p.start r.opposite).localPayload →
        ∃ error, e.out = .error error) ∧
    ∀ (timestamp : SessionRole → UInt64) (ready : SessionRole → SessionHandshakeReady),
      (∀ r, (p.state r).finish P (timestamp r) = .ok (ready r)) →
      (∀ r, ∃ m, (p.state r).peerMessage = some m ∧ (p.state r.opposite).localMessage = some m ∧
        m.payload = (p.start r.opposite).localPayload) ∧
      (ready .controller).keyExchangeTranscriptHash = (ready .controlled).keyExchangeTranscriptHash ∧
      (ready .controller).secureSession.keys = (ready .controlled).secureSession.keys ∧
      (∀ hash, (p.config .controller).context.withTranscript hash =
        (p.config .controlled).context.withTranscript hash) ∧
      (∀ r cs now s, s = final (SecureSession.step P) (ready r.opposite).secureSession cs →
        s.invalidated = false → s.peerConfirmed = false →
        absDiff now (timestamp r) ≤ KEY_CONFIRM_WINDOW_MILLIS →
        (s.verifyPeerKeyConfirm P (ready r).localKeyConfirm (p.config r).localDeviceId now).1 =
          .ok ()) := by
  refine ⟨fun r e he m key now hcl hp =>
    HandshakePair.tampered_refused hkeys hunforgeable hsha he hcl hp, ?_⟩
  intro timestamp ready hf
  have hc := fun r => HandshakePair.computed_of_finish (hf r)
  choose own peer keys hc using hc
  have hagree : ∀ r, (ready r).keyExchangeTranscriptHash = (ready r.opposite).keyExchangeTranscriptHash ∧
      keys r = keys r.opposite := fun r =>
    HandshakePair.computed_agree hkeys hunforgeable hsha hx25519 (hc r) (hc r.opposite)
  have hac := fun r => HandshakePair.state_peer (hc r).peerMessage
  have hctx : ∀ r hash, (p.config r).context.withTranscript hash =
      (p.config r.opposite).context.withTranscript hash := by
    intro r hash
    obtain ⟨key, now, hcl, ha⟩ := hac r
    exact HandshakePair.contexts_agree hkeys hunforgeable hsha hcl ha hash
  refine ⟨fun r => ?_, (hagree .controller).1, ?_, hctx .controller, ?_⟩
  · obtain ⟨key, now, hcl, ha⟩ := hac r
    exact ⟨peer r, (hc r).peerMessage, HandshakePair.accepted_message hkeys hunforgeable hsha hcl ha⟩
  · rw [(hc .controller).sessionKeys, (hc .controlled).sessionKeys]
    exact (hagree .controller).2
  · intro r cs now s hs hlv hfirst hw
    have h' := hc r.opposite
    rw [← (hagree r).2] at h'
    have hid : (p.config r).context.sessionId = (p.config r.opposite).context.sessionId :=
      congrArg (·.sessionId) (hctx r (Vector.replicate 32 0))
    exact HandshakePair.confirm_accepted (hc r) h' (hagree r).1 hid cs hs hlv hfirst hw

/-! ### A key exchange

The exchange that led to the session of `SecureSession.Sample`. The primitives are
the values SHA-256, HKDF, Ed25519 and X25519 take on its inputs. -/

namespace Exchange

open SecureSession

def deviceKey : SessionRole → ByteArr 32
  | .controller => .ofNat 32 0xea4a6c63e29c520abef5507b132ec5f9954776aebebe7b92421eea691446d22c
  | .controlled => .ofNat 32 0x1398f62c6d1a457c51ba6a4b5f3dbd2f69fca93216218dc8997e416bd17d93ca

def signature : SessionRole → Bytes
  | .controller =>
    toBeBytes 64 (2 ^ 256 * 0x7cfd3e00442c1a85419727f65afa8049336e945173f1c9c70a925d594e61d0c0 +
      0x75c8d784287683b717dbd55b4d417d8c6962884571569c227011c6d5e760c302)
  | .controlled =>
    toBeBytes 64 (2 ^ 256 * 0x6696458aee6f80300b9a0113eab62d4499353e8f49ff2869ab21b6515aa6f0b4 +
      0x1400e8747e83846b4ec3a6e8059ff5c9dff3f814d85d98b6e062420910399605)

def secret : SessionRole → ByteArr 32
  | .controller => Vector.replicate 32 1
  | .controlled => Vector.replicate 32 2

def ephemeralPublicKey : SessionRole → ByteArr 32
  | .controller => .ofNat 32 0xa4e09292b651c278b9772c569f5fa9bb13d906b46ab68c9df9dc2b4409f8a209
  | .controlled => .ofNat 32 0xce8d3ad1ccb633ec7b70c17814a5c76ecd029685050d344745ba05870e587d59

def sharedSecret : ByteArr 32 :=
  .ofNat 32 0x2ed76ab549b1e73c031eb49c9448f0798aea81b698279a0c3dc3e49fbfc4b953

def contextHash : Digest :=
  .ofNat 32 0x4e986d3b669a4c7a9adba3af8f7631f859c4395c6d4629d4e6bc117a56640ba8

def payloadHash : SessionRole → Digest
  | .controller => .ofNat 32 0xd1a8f8a17952e18a6b65931df6f1af54bd4114c57ef60425e7aca6a6968886f6
  | .controlled => .ofNat 32 0x823dd6f91934e73688e38fa0f3787cf70fbd9906739c684450ef34b030a2a840

def salt : Digest :=
  .ofNat 32 0xd93bb0b0fad0b4c8ba869d0da01b3e28c01c14d38935a636e2fea7ba6c868511

def context : SessionKdfContext :=
  { accountId := "account", sessionId := 1, controllerDeviceId := "controller"
    controlledDeviceId := "controlled", permissionsDigest := Sample.digest, protocolVersion := 1
    sessionExpiresAtEpochMillis := 10000, selectedTransportPath := .lanDirect
    selectedCandidatePairId := 9, relayNodeId := none, keyExchangeTranscriptHash := .ofNat 32 0 }

def config (r : SessionRole) : SessionHandshakeConfig :=
  { context, permissions := Sample.permissions, localRole := r, localDeviceId := r.asStr
    localDevicePublicKey := deviceKey r
    keyExchangeNonce := Vector.replicate 32 (if r = .controller then 3 else 4)
    timestampEpochMillis := 1000 }

def message (r : SessionRole) : SignedKeyExchange :=
  ⟨payload (config r) ⟨secret r, ephemeralPublicKey r⟩ contextHash, signature r⟩

def transcript : Option Bytes := do
  let controller ← (message .controller).payload.canonicalBytes.toOption
  let controlled ← (message .controlled).payload.canonicalBytes.toOption
  return controller ++ signature .controller ++ controlled ++ signature .controlled

def hashes : List (Option Bytes × Digest) :=
  [(Sample.permissions.canonicalBytes.toOption, Sample.digest),
   (context.sessionContext.canonicalBytes.toOption, contextHash),
   ((message .controller).payload.canonicalBytes.toOption, payloadHash .controller),
   ((message .controlled).payload.canonicalBytes.toOption, payloadHash .controlled),
   (transcript, Sample.transcriptHash),
   (context.saltCanonicalBytes.toOption, salt)]

/-- The labels an HKDF info ends with and the bytes they give. -/
def expansions : List (String × Bytes) :=
  [("controller_to_controlled_key", Sample.keys.controllerToControlledKey.toList),
   ("controller_to_controlled_nonce_prefix", Sample.keys.controllerToControlledNoncePrefix.toList),
   ("controlled_to_controller_key", Sample.keys.controlledToControllerKey.toList),
   ("controlled_to_controller_nonce_prefix", Sample.keys.controlledToControllerNoncePrefix.toList),
   ("key_confirmation_controller_to_controlled",
     Sample.keys.keyConfirmationControllerToControlled.toList),
   ("key_confirmation_controlled_to_controller",
     Sample.keys.keyConfirmationControlledToController.toList)]

def primitives : Primitives :=
  { Sample.primitives with
    sha256 := fun b => ((hashes.find? (·.1 = some b)).map (·.2)).getD (.ofNat 32 0)
    hkdfExpand := fun salt' secret' info n =>
      if salt' = salt ∧ secret' = sharedSecret then
        (expansions.find? fun e => (utf8 e.1).isSuffixOf info).bind fun e =>
          if h : e.2.length = n then some ⟨e.2.toArray, h⟩ else none
      else none
    ed25519Key := fun key => key = deviceKey .controller || key = deviceKey .controlled
    ed25519Verify := fun key digest sig => [.controller, .controlled].any fun r =>
      key = deviceKey r && digest = payloadHash r && sig.toList = signature r
    x25519Public := fun s =>
      if s = secret .controller then ephemeralPublicKey .controller
      else if s = secret .controlled then ephemeralPublicKey .controlled
      else .ofNat 32 0
    x25519 := fun s key =>
      if s = secret .controller ∧ key = ephemeralPublicKey .controlled ∨
          s = secret .controlled ∧ key = ephemeralPublicKey .controller then sharedSecret
      else .ofNat 32 0 }

def pair : HandshakePair primitives where
  config := config
  secret := secret
  start r :=
    { config := config r, ephemeralKey := ⟨secret r, ephemeralPublicKey r⟩
      localPayload := (message r).payload, localMessage := none, peerMessage := none }
  calls r :=
    [.setLocalSignature (signature r),
     .verifyPeerMessage (message r.opposite) (deviceKey r.opposite) 1500]
  localRole _ := rfl
  created r := by cases r <;> decide +kernel

theorem mem_calls (h : .verifyPeerMessage m key now ∈ pair.calls r) :
    m = message r.opposite ∧ key = deviceKey r.opposite := by
  simp only [pair, List.mem_cons, reduceCtorEq, SessionHandshake.Call.verifyPeerMessage.injEq, List.not_mem_nil,
    or_false, false_or] at h
  exact ⟨h.1, h.2.1⟩

theorem state_pair (r : SessionRole) : pair.state r =
    { pair.start r with localMessage := some (message r), peerMessage := some (message r.opposite) } := by
  cases r <;> decide +kernel

theorem unforgeable_pair : pair.Unforgeable := by
  intro r m key now sig canonical hc hs hcanonical _
  obtain ⟨rfl, -⟩ := mem_calls hc
  exact ⟨message r.opposite, canonical, by rw [state_pair], hcanonical, rfl, rfl⟩

theorem x25519_comm (a b : ByteArr 32) :
    primitives.x25519 a (primitives.x25519Public b) = primitives.x25519 b (primitives.x25519Public a) := by
  have hp : ∀ s r, primitives.x25519Public s = ephemeralPublicKey r ↔ s = secret r := by
    intro s r
    have hc : ephemeralPublicKey .controller ≠ ephemeralPublicKey .controlled := by decide +kernel
    have h0 : ∀ r, ByteArr.ofNat 32 0 ≠ ephemeralPublicKey r := by
      intro r; cases r <;> decide +kernel
    have hs : secret .controlled ≠ secret .controller := by decide +kernel
    simp only [primitives]
    split_ifs with h h' <;> cases r <;> simp [*, hc.symm, hs.symm]
  show (if _ then _ else _) = (if _ then _ else _)
  simp only [hp, or_comm, and_comm]

theorem sha256_injOn : Set.InjOn primitives.sha256 pair.hashed := by
  -- every input is in the table, and the table has no hash twice
  have hp : ∀ r b, (message r).payload.canonicalBytes = .ok b → ∃ e ∈ hashes, e.1 = some b := by
    intro r b hb
    refine ⟨((message r).payload.canonicalBytes.toOption, payloadHash r), ?_, ?_⟩
    · cases r <;> simp [hashes]
    · simp only [hb]
      rfl
  have ht : ∀ b ∈ pair.hashed, ∃ e ∈ hashes, e.1 = some b := by
    rintro b (⟨r, hb⟩ | ⟨r, hb⟩ | ⟨r, m, key, now, hcl, hb⟩)
    · refine ⟨(context.sessionContext.canonicalBytes.toOption, contextHash), by simp [hashes], ?_⟩
      rw [show context.sessionContext.canonicalBytes = .ok b from hb]
      rfl
    · exact hp r b hb
    · obtain ⟨rfl, -⟩ := mem_calls hcl
      exact hp r.opposite b hb
  have hd : ∀ e ∈ hashes, ∀ e' ∈ hashes, e.2 = e'.2 → e.1 = e'.1 := by decide +kernel
  have hl : ∀ b ∈ pair.hashed, ∃ e ∈ hashes, e.1 = some b ∧ primitives.sha256 b = e.2 := by
    intro b hb
    obtain ⟨e, he, heb⟩ := ht b hb
    cases hf : hashes.find? (·.1 = some b) with
    | none =>
      have := List.find?_eq_none.mp hf e he
      simp [heb] at this
    | some e' =>
      refine ⟨e', List.mem_of_find?_eq_some hf, by simpa using List.find?_some hf, ?_⟩
      show ((hashes.find? (·.1 = some b)).map (·.2)).getD _ = _
      rw [hf]
      rfl
  intro b hb b' hb' heq
  obtain ⟨e, he, heb, hse⟩ := hl b hb
  obtain ⟨e', he', heb', hse'⟩ := hl b' hb'
  have := hd e he e' he' (by rw [← hse, ← hse', heq])
  rw [heb, heb'] at this
  exact Option.some.inj this

/-- Both sides of the exchange finish, with the same keys. -/
theorem handshake_agreement_exchange :
    ∃ ready : SessionRole → SessionHandshakeReady,
      (∀ r, (pair.state r).finish primitives (Sample.confirm r).timestampEpochMillis = .ok (ready r)) ∧
      (ready .controller).secureSession.keys = (ready .controlled).secureSession.keys := by
  have hok : ∀ r, ∃ ready, (pair.state r).finish primitives (Sample.confirm r).timestampEpochMillis = .ok ready := by
    have hs : ∀ r, ((pair.state r).finish primitives
        (Sample.confirm r).timestampEpochMillis).toOption.isSome = true := by
      intro r
      rw [state_pair]
      cases r <;> decide +kernel
    intro r
    cases hf : (pair.state r).finish primitives (Sample.confirm r).timestampEpochMillis with
    | ok ready => exact ⟨ready, rfl⟩
    | error =>
      have := hs r
      rw [hf] at this
      cases this
  choose ready hr using hok
  exact ⟨ready, hr, ((handshake_agreement pair (fun _ _ _ _ hc => (mem_calls hc).2) unforgeable_pair
    sha256_injOn x25519_comm).2 _ ready hr).2.2.1⟩

end Exchange

end Rctl
