/-
# The secure session

`remote-core/src/session_crypto.rs`: a session starts when both sides have
confirmed the derived keys, seals and opens messages while it is ready, and is
invalidated for good by a bad confirmation, a changed binding or a reboot. The
calls on a session are the steps of a machine (`step`) and its runs are those of
`StateRun`.
-/
import Rctl.Lib.Run
import Rctl.Crypto.E2ee
import Rctl.Crypto.Session

namespace Rctl

open ByteString Result

inductive SecureSessionState
  | awaitingKeyConfirm
  | ready
  | invalidated
  deriving DecidableEq, Repr

inductive SecureSessionError
  | keyConfirmationRequired
  | invalidated
  | permissionDenied
  | sessionMismatch
  | pathChanged
  | permissionsChanged
  | crypto (e : CryptoError)
  deriving DecidableEq, Repr

structure SecureSession where
  sessionId : U128
  localRole : SessionRole
  permissions : SessionPermissions
  permissionsDigest : Digest
  path : TransportPath
  candidatePairId : U128
  relayNodeId : Option String
  keyExchangeTranscriptHash : Digest
  keys : DerivedSessionKeys
  /-- Per channel, the sequence number of the next message. -/
  sendSequences : ChannelId → UInt64
  receiveReplayGuard : ReplayGuard
  keyConfirmReplayGuard : KeyConfirmReplayGuard
  localConfirmSent : Bool
  peerConfirmed : Bool
  invalidated : Bool

namespace SecureSession

def new (sessionId : U128) (localRole : SessionRole) (permissions : SessionPermissions)
    (permissionsDigest : Digest) (path : TransportPath) (candidatePairId : U128)
    (relayNodeId : Option String) (keyExchangeTranscriptHash : Digest) (keys : DerivedSessionKeys) :
    Except SecureSessionError SecureSession := do
  ensure (path.isRelay == relayNodeId.isSome) .pathChanged
  return { sessionId := sessionId, localRole, permissions, permissionsDigest, path, candidatePairId,
           relayNodeId, keyExchangeTranscriptHash, keys, sendSequences := fun _ => 0,
           receiveReplayGuard := ReplayGuard.default,
           keyConfirmReplayGuard := KeyConfirmReplayGuard.default, localConfirmSent := false,
           peerConfirmed := false, invalidated := false }

def saturatingSucc (n : UInt64) : UInt64 := if n = UInt64.ofNat (2 ^ 64 - 1) then n else n + 1

variable (s : SecureSession)

def state : SecureSessionState :=
  if s.invalidated then .invalidated
  else if s.localConfirmSent && s.peerConfirmed then .ready
  else .awaitingKeyConfirm

def ensureNotInvalidated : Except SecureSessionError Unit := ensure (!s.invalidated) .invalidated

def ensureReady : Except SecureSessionError Unit := do
  s.ensureNotInvalidated
  ensure (s.localConfirmSent && s.peerConfirmed) .keyConfirmationRequired

def allowed : MessageKind → Bool
  | .keyExchangeMessage | .keyConfirm | .errorReport => true
  | .inputEvent => s.permissions.inputControl
  | .mediaCapabilities | .mediaConfigRequest | .mediaConfigState | .mediaQualityRequest
  | .mediaQualityState | .keyframeRequest | .videoFrameInfo | .videoFrameData | .displayList
  | .displaySelect | .displayChanged => s.permissions.remoteDesktop
  | .clipboardPermissionRequest | .clipboardPermissionState | .clipboardText => s.permissions.clipboard
  | .fileTransferRequest | .fileTransferAck | .fileChunk | .fileTransferCancel =>
    s.permissions.fileTransfer
  | .privacyModeRequest | .privacyModeState | .privacyModeRestore =>
    s.permissions.privacyScreen || s.permissions.blockLocalInput
  | .rebootRequest | .rebootState | .rebootCancel | .rebootResumeHint | .stats => true

def authorize (kind : MessageKind) : Except SecureSessionError Unit :=
  ensure (s.allowed kind) .permissionDenied

def sendDirection : TrafficDirection := TrafficDirection.fromSenderRole s.localRole

def receiveDirection : TrafficDirection := (TrafficDirection.fromSenderRole s.localRole).reverse

/-! ### The calls -/

variable (P : Primitives)

def createLocalKeyConfirm (deviceId : String) (timestampEpochMillis : UInt64) :
    Except SecureSessionError KeyConfirm × SecureSession :=
  commit s do
    s.ensureNotInvalidated
    ensure (!s.localConfirmSent) (.crypto .replayDetected)
    let confirm ← (createKeyConfirm P s.sessionId deviceId s.localRole s.keyExchangeTranscriptHash
      timestampEpochMillis s.keys).mapError .crypto
    return (confirm, { s with localConfirmSent := true })

/-- Every failure but that of an already invalid session invalidates the
session. -/
def verifyPeerKeyConfirm (confirm : KeyConfirm) (expectedPeerDeviceId : String)
    (nowEpochMillis : UInt64) : Except SecureSessionError Unit × SecureSession :=
  match s.ensureNotInvalidated with
  | .error e => (.error e, s)
  | .ok () =>
    if s.peerConfirmed then (.error (.crypto .replayDetected), { s with invalidated := true })
    else if confirm.sessionId ≠ s.sessionId ∨ confirm.role = s.localRole then
      (.error .sessionMismatch, { s with invalidated := true })
    else match s.keyConfirmReplayGuard.verify P confirm expectedPeerDeviceId s.localRole.opposite
        s.keyExchangeTranscriptHash nowEpochMillis s.keys with
    | .error e => (.error (.crypto e), { s with invalidated := true })
    | .ok g => (.ok (), { s with keyConfirmReplayGuard := g, peerConfirmed := true })

def sealMessage (kind : MessageKind) (channel : ChannelId) (flags : UInt16) (plaintext : Bytes) :
    Except SecureSessionError (MessageHeader × Bytes) × SecureSession :=
  commit s do
    s.ensureReady
    s.authorize kind
    let sequence := s.sendSequences channel
    ensure (sequence ≤ MAX_SECURE_SEQUENCE) (.crypto .sequenceExhausted)
    let header ← (MessageHeader.newOnChannel kind channel s.sessionId sequence 0).mapError
      fun _ => .crypto .invalidChannel
    let header := { header with flags }
    let encrypted ← (encryptPayload P (s.keys.trafficKey s.sendDirection)
      (s.keys.noncePrefix s.sendDirection) s.permissionsDigest s.sendDirection header
      plaintext).mapError .crypto
    return (encrypted,
      { s with sendSequences := Function.update s.sendSequences channel (saturatingSucc sequence) })

/-- `open`: a message that decrypts is recorded even if its kind is then
refused. -/
def openMessage (header : MessageHeader) (ciphertext : Bytes) :
    Except SecureSessionError Bytes × SecureSession :=
  match (do
    s.ensureReady
    ensure (header.sessionId = s.sessionId) .sessionMismatch
    (decryptPayload P (s.keys.trafficKey s.receiveDirection) (s.keys.noncePrefix s.receiveDirection)
      s.permissionsDigest s.receiveDirection header ciphertext s.receiveReplayGuard).mapError
        SecureSessionError.crypto) with
  | .error e => (.error e, s)
  | .ok (plaintext, g) =>
    ((s.authorize header.kind).map fun _ => plaintext, { s with receiveReplayGuard := g })

def invalidateIfBindingChanged (permissionsDigest : Digest) (path : TransportPath)
    (candidatePairId : U128) (relayNodeId : Option String) :
    Except SecureSessionError Unit × SecureSession :=
  if permissionsDigest ≠ s.permissionsDigest then
    (.error .permissionsChanged, { s with invalidated := true })
  else if path ≠ s.path ∨ candidatePairId ≠ s.candidatePairId ∨ relayNodeId ≠ s.relayNodeId then
    (.error .pathChanged, { s with invalidated := true })
  else (.ok (), s)

def invalidateForReboot : SecureSession := { s with invalidated := true }

def restoreSendSequence (channel : ChannelId) (nextSequence : UInt64) :
    Except SecureSessionError Unit × SecureSession :=
  commit s do
    s.ensureNotInvalidated
    ensure (!(nextSequence < s.sendSequences channel || nextSequence > MAX_SECURE_SEQUENCE))
      (.crypto .replayDetected)
    return ((), { s with sendSequences := Function.update s.sendSequences channel nextSequence })

end SecureSession

/-! ### The machine -/

namespace SecureSession

inductive Call
  | createLocalKeyConfirm (deviceId : String) (timestampEpochMillis : UInt64)
  | verifyPeerKeyConfirm (confirm : KeyConfirm) (expectedPeerDeviceId : String)
      (nowEpochMillis : UInt64)
  | sealMessage (kind : MessageKind) (channel : ChannelId) (flags : UInt16) (plaintext : Bytes)
  | openMessage (header : MessageHeader) (ciphertext : Bytes)
  | restoreSendSequence (channel : ChannelId) (nextSequence : UInt64)
  | invalidateIfBindingChanged (permissionsDigest : Digest) (path : TransportPath)
      (candidatePairId : U128) (relayNodeId : Option String)
  | invalidateForReboot
  deriving DecidableEq

/-- What a successful call returns. -/
inductive Response
  | confirm (confirm : KeyConfirm)
  | sealed (header : MessageHeader) (ciphertext : Bytes)
  | opened (plaintext : Bytes)
  | done
  deriving DecidableEq

def respond {α : Type} (f : α → Response) (r : Except SecureSessionError α × SecureSession) :
    Except SecureSessionError Response × SecureSession :=
  (r.1.map f, r.2)

def step (P : Primitives) (s : SecureSession) :
    Call → Except SecureSessionError Response × SecureSession
  | .createLocalKeyConfirm deviceId timestamp =>
    respond .confirm (s.createLocalKeyConfirm P deviceId timestamp)
  | .verifyPeerKeyConfirm confirm deviceId now =>
    respond (fun _ => .done) (s.verifyPeerKeyConfirm P confirm deviceId now)
  | .sealMessage kind channel flags plaintext =>
    respond (fun r => .sealed r.1 r.2) (s.sealMessage P kind channel flags plaintext)
  | .openMessage header ciphertext => respond .opened (s.openMessage P header ciphertext)
  | .restoreSendSequence channel next =>
    respond (fun _ => .done) (s.restoreSendSequence channel next)
  | .invalidateIfBindingChanged digest path pair relay =>
    respond (fun _ => .done) (s.invalidateIfBindingChanged digest path pair relay)
  | .invalidateForReboot => (.ok .done, s.invalidateForReboot)

/-- The binding a session was created with. -/
def BoundTo (s : SecureSession) (digest : Digest) (path : TransportPath) (pair : U128)
    (relay : Option String) : Prop :=
  digest = s.permissionsDigest ∧ path = s.path ∧ pair = s.candidatePairId ∧ relay = s.relayNodeId

def Ready (s : SecureSession) : Prop :=
  s.invalidated = false ∧ s.localConfirmSent = true ∧ s.peerConfirmed = true

/-- A use of the AEAD cipher: what went in and the ciphertext that came out. -/
structure Encryption where
  key : ByteArr 32
  nonce : ByteArr 12
  aad : Bytes
  plaintext : Bytes
  ciphertext : Bytes
  deriving DecidableEq

/-- A message of this side under `header`: what is encrypted, under which nonce
and associated data, and what comes out. -/
def Encrypts (P : Primitives) (s : SecureSession) (header : MessageHeader) (nonce : ByteArr 12)
    (plaintext ciphertext : Bytes) : Prop :=
  buildNonce (s.keys.noncePrefix s.sendDirection) header.channelId header.sequence = .ok nonce ∧
  P.aeadEncrypt (s.keys.trafficKey s.sendDirection) nonce
    (buildAad header s.permissionsDigest s.sendDirection) plaintext = some ciphertext

def Decrypts (P : Primitives) (s : SecureSession) (header : MessageHeader) (nonce : ByteArr 12)
    (ciphertext plaintext : Bytes) : Prop :=
  buildNonce (s.keys.noncePrefix s.receiveDirection) header.channelId header.sequence = .ok nonce ∧
  P.aeadDecrypt (s.keys.trafficKey s.receiveDirection) nonce
    (buildAad header s.permissionsDigest s.receiveDirection) ciphertext = some plaintext

inductive Outcome (P : Primitives) (s : SecureSession) :
    Call → Except SecureSessionError Response → SecureSession → Prop
  | created {deviceId timestamp confirm} (hlive : s.invalidated = false)
      (hfirst : s.localConfirmSent = false)
      (hcreate : createKeyConfirm P s.sessionId deviceId s.localRole s.keyExchangeTranscriptHash
        timestamp s.keys = .ok confirm) :
      Outcome P s (.createLocalKeyConfirm deviceId timestamp) (.ok (.confirm confirm))
        { s with localConfirmSent := true }
  | accepted {confirm deviceId now g} (hlive : s.invalidated = false)
      (hfirst : s.peerConfirmed = false) :
      Outcome P s (.verifyPeerKeyConfirm confirm deviceId now) (.ok .done)
        { s with keyConfirmReplayGuard := g, peerConfirmed := true }
  | rejected {confirm deviceId now e} :
      Outcome P s (.verifyPeerKeyConfirm confirm deviceId now) (.error e)
        { s with invalidated := true }
  | sealed {kind channel flags plaintext header nonce ciphertext} (hready : s.Ready)
      (hallowed : s.allowed kind = true) (hmax : s.sendSequences channel ≤ MAX_SECURE_SEQUENCE)
      (hkind : header.kind = kind) (hchannel : header.channelId = channel)
      (hflags : header.flags = flags) (hsession : header.sessionId = s.sessionId)
      (hsequence : header.sequence = s.sendSequences channel)
      (hencrypts : s.Encrypts P header nonce plaintext ciphertext) :
      Outcome P s (.sealMessage kind channel flags plaintext) (.ok (.sealed header ciphertext))
        { s with sendSequences :=
            Function.update s.sendSequences channel (s.sendSequences channel + 1) }
  | opened {header ciphertext nonce plaintext} (hready : s.Ready)
      (hallowed : s.allowed header.kind = true) (hsession : header.sessionId = s.sessionId)
      (hcheck : s.receiveReplayGuard.check header.channelId header.sequence = .ok ())
      (hdecrypts : s.Decrypts P header nonce ciphertext plaintext) :
      Outcome P s (.openMessage header ciphertext) (.ok (.opened plaintext))
        { s with receiveReplayGuard := s.receiveReplayGuard.record header.channelId header.sequence }
  | discarded {header ciphertext e}
      (hcheck : s.receiveReplayGuard.check header.channelId header.sequence = .ok ()) :
      Outcome P s (.openMessage header ciphertext) (.error e)
        { s with receiveReplayGuard := s.receiveReplayGuard.record header.channelId header.sequence }
  | restored {channel next} (hlive : s.invalidated = false) (hge : s.sendSequences channel ≤ next)
      (hmax : next ≤ MAX_SECURE_SEQUENCE) :
      Outcome P s (.restoreSendSequence channel next) (.ok .done)
        { s with sendSequences := Function.update s.sendSequences channel next }
  | kept {digest path pair relay} (hbound : s.BoundTo digest path pair relay) :
      Outcome P s (.invalidateIfBindingChanged digest path pair relay) (.ok .done) s
  | changed {digest path pair relay e} (hbound : ¬ s.BoundTo digest path pair relay) :
      Outcome P s (.invalidateIfBindingChanged digest path pair relay) (.error e)
        { s with invalidated := true }
  | rebooted : Outcome P s .invalidateForReboot (.ok .done) { s with invalidated := true }
  | refused {c e} (hverify : ∀ confirm deviceId now, c ≠ .verifyPeerKeyConfirm confirm deviceId now)
      (hbinding : ∀ digest path pair relay, c ≠ .invalidateIfBindingChanged digest path pair relay)
      (hreboot : c ≠ .invalidateForReboot) :
      Outcome P s c (.error e) s

section Outcome

variable {P : Primitives} {s : SecureSession} {s' : SecureSession}
  {out : Except SecureSessionError Response} {c : Call} {confirm : KeyConfirm} {deviceId : String}

theorem ensureNotInvalidated_eq_ok {u : Unit} : s.ensureNotInvalidated = .ok u ↔ s.invalidated = false := by
  simp [ensureNotInvalidated, ensure_eq_ok]

theorem ensureReady_eq_ok {u : Unit} : s.ensureReady = .ok u ↔ s.Ready := by
  simp [ensureReady, Ready, bind_eq_ok, ensureNotInvalidated_eq_ok, ensure_eq_ok]

theorem saturatingSucc_eq {n : UInt64} (h : n ≤ MAX_SECURE_SEQUENCE) : saturatingSucc n = n + 1 := by
  unfold saturatingSucc
  rw [if_neg]
  rintro rfl
  revert h
  decide

/-- A call that takes effect only if it succeeds. -/
theorem outcome_of_commit {α : Type} {f : α → Response} {r : Except SecureSessionError (α × SecureSession)}
    (he : ∀ e, Outcome P s c (.error e) s) (hok : ∀ a s', r = .ok (a, s') → Outcome P s c (.ok (f a)) s') :
    Outcome P s c (respond f (commit s r)).1 (respond f (commit s r)).2 := by
  cases r with
  | error e => exact he e
  | ok p => exact hok p.1 p.2 rfl

theorem createLocalKeyConfirm_eq_ok {ts : UInt64}
    (h : (s.createLocalKeyConfirm P deviceId ts).1 = .ok confirm) :
    s.invalidated = false ∧ s.localConfirmSent = false ∧
      createKeyConfirm P s.sessionId deviceId s.localRole s.keyExchangeTranscriptHash ts s.keys = .ok confirm ∧
      (s.createLocalKeyConfirm P deviceId ts).2 = { s with localConfirmSent := true } := by
  have h := commit_eq_ok h
  simp only [bind_eq_ok, ensureNotInvalidated_eq_ok, ensure_eq_ok, mapError_eq_ok, pure_eq_ok,
    Prod.mk.injEq, Bool.not_eq_true'] at h
  obtain ⟨_, hl, _, hf, _, hc, rfl, hs⟩ := h
  exact ⟨hl, hf, hc, hs.symm⟩

theorem createLocalKeyConfirm_outcome (deviceId : String) (ts : UInt64) :
    Outcome P s (.createLocalKeyConfirm deviceId ts) (step P s (.createLocalKeyConfirm deviceId ts)).1
      (step P s (.createLocalKeyConfirm deviceId ts)).2 := by
  refine outcome_of_commit (fun e => .refused (by simp) (by simp) (by simp)) fun confirm s' h => ?_
  simp only [bind_eq_ok, ensureNotInvalidated_eq_ok, ensure_eq_ok, mapError_eq_ok, Bool.not_eq_true'] at h
  obtain ⟨_, hl, _, hf, _, hc, rfl, rfl⟩ := h
  exact .created hl hf hc

theorem verifyPeerKeyConfirm_outcome (confirm : KeyConfirm) (deviceId : String) (now : UInt64) :
    Outcome P s (.verifyPeerKeyConfirm confirm deviceId now) (step P s (.verifyPeerKeyConfirm confirm deviceId now)).1
      (step P s (.verifyPeerKeyConfirm confirm deviceId now)).2 := by
  simp only [step, verifyPeerKeyConfirm]
  by_cases hd : s.invalidated = true
  · -- the session is already invalid and stays as it is
    have hs : s = { s with invalidated := true } := by cases s; cases hd; rfl
    have he : s.ensureNotInvalidated = .error .invalidated := by
      simp [ensureNotInvalidated, ensure, hd]
    rw [hs]
    exact .rejected
  · have hl : s.invalidated = false := Bool.eq_false_iff.mpr hd
    have he : s.ensureNotInvalidated = .ok () := ensureNotInvalidated_eq_ok.mpr hl
    simp only [he]
    by_cases hf : s.peerConfirmed = true
    · rw [if_pos hf]
      exact .rejected
    · rw [if_neg hf]
      split
      · exact .rejected
      · split
        · exact .rejected
        · exact .accepted hl (Bool.eq_false_iff.mpr hf)

theorem sealMessage_outcome (kind : MessageKind) (chan : ChannelId) (flags : UInt16) (pt : Bytes) :
    Outcome P s (.sealMessage kind chan flags pt) (step P s (.sealMessage kind chan flags pt)).1
      (step P s (.sealMessage kind chan flags pt)).2 := by
  refine outcome_of_commit (fun e => .refused (by simp) (by simp) (by simp)) fun sent s' h => ?_
  simp only [bind_eq_ok, ensureReady_eq_ok, authorize, ensure_eq_ok, mapError_eq_ok, decide_eq_true_eq] at h
  obtain ⟨_, hr, _, hal, _, hx, header, hhd, ⟨sent, ct⟩, hen, rfl, rfl⟩ := h
  have hhd := MessageHeader.newOnChannel_eq_ok hhd
  obtain ⟨⟨len, rfl⟩, nc, hno, hc⟩ := encryptPayload_eq_ok hen
  subst hhd
  rw [saturatingSucc_eq hx]
  exact .sealed hr hal hx rfl rfl rfl rfl rfl ⟨hno, hc⟩

theorem openMessage_outcome (header : MessageHeader) (ct : Bytes) :
    Outcome P s (.openMessage header ct) (step P s (.openMessage header ct)).1
      (step P s (.openMessage header ct)).2 := by
  simp only [step, openMessage]
  split
  · exact .refused (by simp) (by simp) (by simp)
  · rename_i h
    simp only [bind_eq_ok, ensureReady_eq_ok, ensure_eq_ok, mapError_eq_ok, decide_eq_true_eq] at h
    obtain ⟨_, hr, _, hs, hd⟩ := h
    obtain ⟨hc, rfl, nc, hdecrypts⟩ := decryptPayload_eq_ok hd
    cases hal : s.allowed header.kind with
    | true =>
      simp only [authorize, hal]
      exact .opened hr hal hs hc hdecrypts
    | false =>
      simp only [authorize, hal]
      exact .discarded hc

theorem restoreSendSequence_outcome (chan : ChannelId) (next : UInt64) :
    Outcome P s (.restoreSendSequence chan next) (step P s (.restoreSendSequence chan next)).1
      (step P s (.restoreSendSequence chan next)).2 := by
  refine outcome_of_commit (fun e => .refused (by simp) (by simp) (by simp)) fun _ s' h => ?_
  simp only [bind_eq_ok, ensureNotInvalidated_eq_ok, ensure_eq_ok, Bool.not_eq_true', Bool.or_eq_false_iff,
    decide_eq_false_iff_not] at h
  obtain ⟨_, hl, _, ⟨hge, hx⟩, -, rfl⟩ := h
  exact .restored hl (UInt64.not_lt.mp hge) (UInt64.not_lt.mp hx)

theorem invalidateIfBindingChanged_outcome (digest : Digest) (path : TransportPath) (pair : U128)
    (relay : Option String) : Outcome P s (.invalidateIfBindingChanged digest path pair relay)
      (step P s (.invalidateIfBindingChanged digest path pair relay)).1
      (step P s (.invalidateIfBindingChanged digest path pair relay)).2 := by
  simp only [step, invalidateIfBindingChanged]
  by_cases hd : digest = s.permissionsDigest
  · by_cases hp : path ≠ s.path ∨ pair ≠ s.candidatePairId ∨ relay ≠ s.relayNodeId
    · rw [if_neg (not_not.mpr hd), if_pos hp]
      exact .changed fun hb => by
        obtain ⟨-, h1, h2, h3⟩ := hb
        exact hp.elim (· h1) (Or.elim · (· h2) (· h3))
    · rw [if_neg (not_not.mpr hd), if_neg hp]
      simp only [not_or, not_not] at hp
      exact .kept ⟨hd, hp⟩
  · rw [if_pos hd]
    exact .changed fun hb => hd hb.1

/-- **Every call has one of the outcomes.** -/
theorem step_outcome (P : Primitives) (s : SecureSession) (c : Call) : Outcome P s c (step P s c).1 (step P s c).2 := by
  cases c with
  | createLocalKeyConfirm deviceId ts => exact createLocalKeyConfirm_outcome deviceId ts
  | verifyPeerKeyConfirm confirm deviceId now => exact verifyPeerKeyConfirm_outcome confirm deviceId now
  | sealMessage kind chan flags pt => exact sealMessage_outcome kind chan flags pt
  | openMessage header ct => exact openMessage_outcome header ct
  | restoreSendSequence chan next => exact restoreSendSequence_outcome chan next
  | invalidateIfBindingChanged digest path pair relay =>
    exact invalidateIfBindingChanged_outcome digest path pair relay
  | invalidateForReboot => exact .rebooted

/-! ### What never changes -/

/-- The session as it was created: only its counters, guards and flags move. -/
def asCreated (s : SecureSession) : SecureSession :=
  { s with
    sendSequences := fun _ => 0
    receiveReplayGuard := ReplayGuard.default
    keyConfirmReplayGuard := KeyConfirmReplayGuard.default
    localConfirmSent := false
    peerConfirmed := false
    invalidated := false }

theorem asCreated_of_new {sid : U128} {localRole : SessionRole} {permissions : SessionPermissions}
    {digest : Digest} {path : TransportPath} {pair : U128} {relay : Option String} {hash : Digest}
    {keys : DerivedSessionKeys} (hn : new sid localRole permissions digest path pair relay hash keys = .ok s) :
    s.asCreated = s ∧ s.sessionId = sid ∧ s.localRole = localRole ∧
      s.permissions = permissions ∧ s.permissionsDigest = digest ∧ s.keys = keys ∧
      s.keyExchangeTranscriptHash = hash := by
  simp only [new, bind_eq_ok, pure_eq_ok] at hn
  obtain ⟨_, -, rfl⟩ := hn
  exact ⟨rfl, rfl, rfl, rfl, rfl, rfl, rfl⟩

theorem verifyPeerKeyConfirm_eq_ok {now : UInt64} (h : s.verifyPeerKeyConfirm P confirm deviceId now = (.ok (), s')) :
    s.invalidated = false ∧ ∃ g, s' = { s with keyConfirmReplayGuard := g, peerConfirmed := true } := by
  have ho := verifyPeerKeyConfirm_outcome (P := P) (s := s) confirm deviceId now
  rw [show step P s (.verifyPeerKeyConfirm confirm deviceId now) = (.ok .done, s') by
    rw [step, h]
    rfl] at ho
  cases ho with
  | accepted hl => exact ⟨hl, _, rfl⟩

theorem Outcome.asCreated_eq (h : Outcome P s c out s') : s'.asCreated = s.asCreated := by
  cases h <;> rfl

theorem final_asCreated (P : Primitives) (cs : List Call) (s : SecureSession) :
    (StateRun.final (step P) s cs).asCreated = s.asCreated :=
  StateRun.run_inv (step P)
    (fun t c ht => (step_outcome P t c).asCreated_eq.trans ht) cs rfl

theorem Outcome.guard_default (h : Outcome P s c out s')
    (hs : s.peerConfirmed = false → s.keyConfirmReplayGuard = KeyConfirmReplayGuard.default) :
    s'.peerConfirmed = false → s'.keyConfirmReplayGuard = KeyConfirmReplayGuard.default := by
  cases h with
  | accepted => exact fun hp => nomatch hp
  | _ => exact hs

abbrev RunEntry := StateRun.Entry SecureSession Call (Except SecureSessionError Response)

/-- Every call of a run has one of the outcomes, on the session as created. -/
theorem mem_trace_outcome {cs : List Call} {e : RunEntry} (he : e ∈ StateRun.trace (step P) s cs) :
    Outcome P e.pre e.call e.out e.post ∧ e.pre.asCreated = s.asCreated := by
  obtain ⟨before, _, _, hb⟩ := StateRun.mem_trace (step P) he
  rw [hb]
  exact ⟨step_outcome P _ _, final_asCreated P before s⟩

end Outcome

/-! ### A session with its primitives

The keys of a key exchange between two devices, both sides' confirmations and
three messages. The primitives are the values SHA-256, HMAC and ChaCha20-Poly1305
take on the inputs of runs with these. -/

namespace Sample

def keys : DerivedSessionKeys where
  controllerToControlledKey :=
    .ofNat 32 0x53f4c545ef34acbe6d0bcc1f212c9fffdf22ba0eb37858044bf74c9ff16dd2a2
  controllerToControlledNoncePrefix := .ofNat 4 0xe055d26e
  controlledToControllerKey :=
    .ofNat 32 0x428a3636fbc3c59828c9e73a84973ae632514abb57c3262d411bdc395877bb77
  controlledToControllerNoncePrefix := .ofNat 4 0xa605743b
  keyConfirmationControllerToControlled :=
    .ofNat 32 0xdffcb44c6be76ff587539554f66aa8410ec13e9b9a09b636ca0fdf4acbd0768a
  keyConfirmationControlledToController :=
    .ofNat 32 0x8c71bb909fb147fb48a5e4ddc07b8f5343e586ec7378cf8adb083eb9e8b4e966

def permissions : SessionPermissions := ⟨true, true, true, true, true, true, true, true, true⟩

def digest : Digest :=
  .ofNat 32 0x17cea2e4a004dc2d89a55fa1d65710138d8fbc035ec2fc8deb6fe793aff57df2

def transcriptHash : Digest :=
  .ofNat 32 0x40cee6d52e048b7d304ba7b61384a9770a81e8796102b44b64cb049aaa4d4ce0

def session (role : SessionRole) : Except SecureSessionError SecureSession :=
  SecureSession.new 1 role permissions digest .lanDirect 9 none transcriptHash keys

def sides (role : SessionRole) : SecureSession :=
  { sessionId := 1, localRole := role, permissions, permissionsDigest := digest, path := .lanDirect
    candidatePairId := 9, relayNodeId := none, keyExchangeTranscriptHash := transcriptHash, keys
    sendSequences := fun _ => 0, receiveReplayGuard := ReplayGuard.default
    keyConfirmReplayGuard := KeyConfirmReplayGuard.default, localConfirmSent := false
    peerConfirmed := false, invalidated := false }

def confirm : SessionRole → KeyConfirm
  | .controller =>
    { sessionId := 1, deviceId := "controller", role := .controller
      keyExchangeTranscriptHash := transcriptHash
      confirmMac := .ofNat 32 0x8ca40ad1f7e680c7a7f4b4ee50660b02b443fec90c0cd8fdd2ac93082725c495
      timestampEpochMillis := 2000 }
  | .controlled =>
    { sessionId := 1, deviceId := "controlled", role := .controlled
      keyExchangeTranscriptHash := transcriptHash
      confirmMac := .ofNat 32 0xab1fa2e75164f87f15fbd0b411f813215ad566703912f6ad5f084a193c89cf56
      timestampEpochMillis := 2100 }

def message (kind : MessageKind) (channelId : ChannelId) (flags : UInt16) (sequence : UInt64)
    (payloadLen : UInt32) : MessageHeader :=
  { version := 1, kind, flags, channelId, sessionId := 1, sequence, payloadLen }

def inputHeader (sequence : UInt64) (payloadLen : UInt32) : MessageHeader :=
  message .inputEvent .inputReliable 0 sequence payloadLen

def statsHeader : MessageHeader := message .stats .telemetry 3 0 17

def inputCiphertext : Bytes := toBeBytes 19 0xc54aa16f3d087fa8900c9f5a7b8b1af08c8aee

def inputCiphertextNext : Bytes := toBeBytes 18 0x52f5094881f92ce0d08b08ee0593ed166245

def statsCiphertext : Bytes := toBeBytes 17 0xfa7bbc5f797a305add7d267eb0f1ada785

/-- The encryptions made in runs of the two sides. -/
def encryptions : List Encryption :=
  [{ key := keys.controllerToControlledKey
     nonce := .ofNat 12 0xe055d26e0001000000000000
     aad := buildAad (inputHeader 0 19) digest .controllerToControlled
     plaintext := [1, 2, 3], ciphertext := inputCiphertext },
   { key := keys.controllerToControlledKey
     nonce := .ofNat 12 0xe055d26e0001000000000001
     aad := buildAad (inputHeader 1 18) digest .controllerToControlled
     plaintext := [4, 5], ciphertext := inputCiphertextNext },
   { key := keys.controlledToControllerKey
     nonce := .ofNat 12 0xa605743b0008000000000000
     aad := buildAad statsHeader digest .controlledToController
     plaintext := [6], ciphertext := statsCiphertext }]

def confirmOf (canonical : Bytes) : Option SessionRole :=
  [.controller, .controlled].find? fun role =>
    (confirm role).canonicalMacInput.toOption == some canonical

def primitives : Primitives where
  sha256 bytes :=
    if (confirm .controller).canonicalMacInput.toOption.map (· ++ (confirm .controller).confirmMac.toList)
        = some bytes then
      .ofNat 32 0xe706d6860aae957881f91aed3ce569951d1f6cac9c33e9d4052bf86c5aeb1d64
    else .ofNat 32 0xbc692cc8f0aa6a4288d398a616650eccdf3cc654f39cb012e498c1404ac78416
  hmacSha256 key bytes := (confirmOf bytes).bind fun role =>
    if key = keys.confirmationKey (.fromSenderRole role) then some (confirm role).confirmMac else none
  hkdfExpand _ _ _ _ := none
  aeadEncrypt key nonce aad plaintext :=
    (encryptions.find? fun e => e.key = key && e.nonce = nonce && e.aad = aad &&
      e.plaintext = plaintext).map (·.ciphertext)
  aeadDecrypt key nonce aad ciphertext :=
    (encryptions.find? fun e => e.key = key && e.nonce = nonce && e.aad = aad &&
      e.ciphertext = ciphertext).map (·.plaintext)
  ed25519Key _ := false
  ed25519Verify _ _ _ := false
  x25519Public _ := .ofNat 32 0
  x25519 _ _ := .ofNat 32 0

end Sample

end SecureSession

end Rctl
