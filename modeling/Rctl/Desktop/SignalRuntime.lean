/-
# The signal side of a controlled session

`apps/desktop/src/controlled/signal_runtime.rs`: the controlled desktop takes part in one accepted
session. It collects the controller's authorized candidates, begins a key exchange once a path has
been selected from them, accepts the controller's key exchange and key confirmation, and then hands
out the secure session. Whatever goes wrong clears the candidates and the exchange, and the runtime
may start over with a new candidate.

The payload of a message is a JSON value of any type `V`; `Wire V` is how the values are read and
written. The device's identity is its key and a function that signs.
-/
import Mathlib.Data.Finset.Insert
import Rctl.Runtime.Handshake
import Rctl.Transport.Binding
import Rctl.Transport.Reconnect

namespace Rctl.Desktop

open ByteString Result StateRun
open Reconnect (SecurePathBinding)

inductive ControlledSignalState
  | idle
  | awaitingCandidates
  | awaitingTransportSelection
  | awaitingPeerKeyExchange
  | awaitingPeerKeyConfirm
  | ready
  | closed
  | failed
  deriving DecidableEq, Repr

inductive SessionSignalMessageKind
  | connectionCandidate
  | keyExchangeMessage
  | keyConfirm
  deriving DecidableEq, Repr

inductive ControlledSignalAction (V : Type)
  | send (kind : SessionSignalMessageKind) (sessionId : String) (role : SessionRole) (payload : V)
  | ready

inductive ControlledSignalRuntimeError
  | invalidAcceptedSession
  | sessionMismatch
  | peerMismatch
  | peerKeyUnavailable
  | transportSelectionRequired
  | invalidCandidate
  | invalidKeyExchange
  | invalidKeyConfirm
  | sessionExpired
  | invalidState
  | serialization
  | handshake (e : SessionHandshakeError)
  deriving DecidableEq, Repr

structure SessionPeerMessage (V : Type) where
  kind : SessionSignalMessageKind
  sessionId : String
  role : SessionRole
  fromDeviceId : String
  payload : V

structure SessionSnapshot (V : Type) where
  sessionId : String
  status : String
  controllerDeviceId : String
  controlledDeviceId : String
  payload : V

structure CandidatePayload where
  candidate : ConnectionCandidateDto
  authorization : CandidateAuthorization

structure ValidatedCandidatePath where
  controllerCandidateId : U128
  controlledCandidateId : U128
  remoteCandidate : ConnectionCandidateDto
  binding : SecurePathBinding
  deriving DecidableEq

/-- What other crates read and write. Writing cannot fail for these types. -/
structure Wire (V : Type) where
  /-- `Uuid::parse_str`. -/
  uuid : String → Option U128
  /-- The member `session_expires_at_epoch_millis`, if it is a number that fits. -/
  sessionExpiresAt : V → Option UInt64
  candidatePayload : V → Option CandidatePayload
  signedKeyExchange : V → Option SignedKeyExchange
  keyConfirm : V → Option KeyConfirm
  ofSignedKeyExchange : SignedKeyExchange → V
  ofKeyConfirm : KeyConfirm → V

structure DeviceIdentity where
  publicKey : ByteArr 32
  signDigest : Digest → ByteArr 64

structure ControlledSignalRuntime where
  sessionId : String
  sessionIdU128 : U128
  controllerDeviceId : String
  controlledDeviceId : String
  sessionExpiresAtEpochMillis : UInt64
  state : ControlledSignalState
  controllerPublicKey : Option (ByteArr 32)
  receivedCandidateIds : Finset U128
  handshake : Option SessionHandshake
  secureSession : Option SecureSession

namespace ControlledSignalRuntime

section Calls

variable {V : Type} (W : Wire V) (P : Primitives)

def fromAccepted (session : SessionSnapshot V) : Except ControlledSignalRuntimeError ControlledSignalRuntime := do
  let sessionIdU128 ← okOr (W.uuid session.sessionId) .invalidAcceptedSession
  ensure (session.status = "accepted" && session.controllerDeviceId ≠ "" && session.controlledDeviceId ≠ "")
    .invalidAcceptedSession
  let expires ← okOr ((W.sessionExpiresAt session.payload).filter (0 < ·)) .invalidAcceptedSession
  return { sessionId := session.sessionId, sessionIdU128
           controllerDeviceId := session.controllerDeviceId, controlledDeviceId := session.controlledDeviceId
           sessionExpiresAtEpochMillis := expires, state := .awaitingCandidates, controllerPublicKey := none
           receivedCandidateIds := ∅, handshake := none, secureSession := none }

variable (r : ControlledSignalRuntime)

def setControllerPublicKey (deviceId : String) (publicKey : ByteArr 32) :
    Except ControlledSignalRuntimeError Unit × ControlledSignalRuntime :=
  commit r do
    ensure (deviceId = r.controllerDeviceId && publicKey ≠ Vector.replicate 32 0) .peerMismatch
    return ((), { r with controllerPublicKey := some publicKey })

/-- The selected path is one of a received candidate, and the configuration is for it. -/
def selects (config : SessionHandshakeConfig) (path : ValidatedCandidatePath) : Bool :=
  r.state = .awaitingTransportSelection &&
  r.handshake.isNone &&
  r.secureSession.isNone &&
  r.controllerPublicKey.isSome &&
  config.localRole = .controlled &&
  config.localDeviceId = r.controlledDeviceId &&
  config.context.sessionId = r.sessionIdU128 &&
  config.context.controllerDeviceId = r.controllerDeviceId &&
  config.context.controlledDeviceId = r.controlledDeviceId &&
  config.context.sessionExpiresAtEpochMillis = r.sessionExpiresAtEpochMillis &&
  path.remoteCandidate.sessionId = r.sessionIdU128 &&
  path.remoteCandidate.deviceId = r.controllerDeviceId &&
  path.remoteCandidate.role = .controller &&
  path.controllerCandidateId = path.remoteCandidate.candidateId &&
  decide (path.controllerCandidateId ∈ r.receivedCandidateIds) &&
  config.context.selectedTransportPath = path.binding.transportPath &&
  config.context.selectedCandidatePairId = path.binding.candidatePairId &&
  config.context.relayNodeId = path.binding.relayNodeId &&
  config.context.permissionsDigest = path.binding.permissionsDigest

def signedHandshake (config : SessionHandshakeConfig) (identity : DeviceIdentity) (ephemeralKey : EphemeralKeyPair) :
    Except SessionHandshakeError (SignedKeyExchange × SessionHandshake) := do
  let handshake ← SessionHandshake.withEphemeralKey P { config with localDevicePublicKey := identity.publicKey }
    ephemeralKey
  let digest ← handshake.localSignatureDigest P
  let signed := handshake.setLocalSignature P (identity.signDigest digest).toList
  let message ← signed.1
  return (message, signed.2)

def beginKeyExchange (config : SessionHandshakeConfig) (selectedPath : ValidatedCandidatePath)
    (identity : DeviceIdentity) (ephemeralKey : EphemeralKeyPair) :
    Except ControlledSignalRuntimeError (ControlledSignalAction V) × ControlledSignalRuntime :=
  commit r do
    ensure (r.selects config selectedPath) .transportSelectionRequired
    let signed ← (signedHandshake P config identity ephemeralKey).mapError .handshake
    return (.send .keyExchangeMessage r.sessionId .controlled (W.ofSignedKeyExchange signed.1),
      { r with handshake := some signed.2, state := .awaitingPeerKeyExchange })

def takeSecureSession : Option SecureSession × ControlledSignalRuntime :=
  if r.state = .ready then (r.secureSession, { r with secureSession := none }) else (none, r)

def close : ControlledSignalRuntime :=
  { r with handshake := none, secureSession := none, receivedCandidateIds := ∅, state := .closed }

def fail : ControlledSignalRuntime :=
  { r with handshake := none, secureSession := none, receivedCandidateIds := ∅, state := .failed }

def validatePeerMessage (message : SessionPeerMessage V) : Except ControlledSignalRuntimeError Unit := do
  ensure (message.sessionId = r.sessionId) .sessionMismatch
  ensure (message.fromDeviceId = r.controllerDeviceId && message.role = .controller) .peerMismatch

/-- The branch of `handle_peer_message` for a candidate. -/
def handleCandidate (message : SessionPeerMessage V) (nowEpochMillis : UInt64) :
    Except ControlledSignalRuntimeError (List (ControlledSignalAction V)) × ControlledSignalRuntime :=
  match W.candidatePayload message.payload with
  | none => (.error .invalidCandidate, r.fail)
  | some ⟨candidate, authorization⟩ =>
    if candidate.sessionId ≠ r.sessionIdU128 ∨ candidate.deviceId ≠ r.controllerDeviceId ∨
        candidate.role ≠ .controller ∨
        (validateCandidateAuthorization P candidate authorization nowEpochMillis).toOption = none then
      (.error .invalidCandidate, r.fail)
    else
      (.ok [], { r with receivedCandidateIds := insert candidate.candidateId r.receivedCandidateIds
                        state := .awaitingTransportSelection })

def handleKeyExchange (message : SessionPeerMessage V) (nowEpochMillis : UInt64) :
    Except ControlledSignalRuntimeError (List (ControlledSignalAction V)) × ControlledSignalRuntime :=
  if r.state ≠ .awaitingPeerKeyExchange then (.error .transportSelectionRequired, r)
  else match r.controllerPublicKey with
  | none => (.error .peerKeyUnavailable, r)
  | some peerKey => match W.signedKeyExchange message.payload with
  | none => (.error .invalidKeyExchange, r.fail)
  | some peerMessage => match r.handshake with
  | none => (.error .invalidState, r)
  | some handshake => match handshake.verifyPeerMessage P peerMessage peerKey nowEpochMillis with
  | (.error e, _) => (.error (.handshake e), r.fail)
  | (.ok (), verified) => match verified.finish P nowEpochMillis with
  | .error e => (.error (.handshake e), r.fail)
  | .ok ready =>
    (.ok [.send .keyConfirm r.sessionId .controlled (W.ofKeyConfirm ready.localKeyConfirm)],
      { r with handshake := none, secureSession := some ready.secureSession, state := .awaitingPeerKeyConfirm })

def handleKeyConfirm (message : SessionPeerMessage V) (nowEpochMillis : UInt64) :
    Except ControlledSignalRuntimeError (List (ControlledSignalAction V)) × ControlledSignalRuntime :=
  if r.state ≠ .awaitingPeerKeyConfirm then (.error .invalidState, r)
  else match W.keyConfirm message.payload with
  | none => (.error .invalidKeyConfirm, r.fail)
  | some confirm => match r.secureSession with
  | none => (.error .invalidState, r)
  | some secureSession => match secureSession.verifyPeerKeyConfirm P confirm r.controllerDeviceId nowEpochMillis with
  | (.error _, _) => (.error .invalidKeyConfirm, r.fail)
  | (.ok (), confirmed) => (.ok [.ready], { r with secureSession := some confirmed, state := .ready })

def handlePeerMessage (message : SessionPeerMessage V) (nowEpochMillis : UInt64) :
    Except ControlledSignalRuntimeError (List (ControlledSignalAction V)) × ControlledSignalRuntime :=
  if r.sessionExpiresAtEpochMillis ≤ nowEpochMillis then (.error .sessionExpired, r.fail)
  else match r.validatePeerMessage message with
  | .error e => (.error e, r)
  | .ok () => match message.kind with
    | .connectionCandidate => r.handleCandidate W P message nowEpochMillis
    | .keyExchangeMessage => r.handleKeyExchange W P message nowEpochMillis
    | .keyConfirm => r.handleKeyConfirm W P message nowEpochMillis

end Calls

end ControlledSignalRuntime

/-! ### The machine -/

inductive RuntimeCall (V : Type)
  | setControllerPublicKey (deviceId : String) (publicKey : ByteArr 32)
  | beginKeyExchange (config : SessionHandshakeConfig) (selectedPath : ValidatedCandidatePath)
      (identity : DeviceIdentity) (ephemeralKey : EphemeralKeyPair)
  | handlePeerMessage (message : SessionPeerMessage V) (nowEpochMillis : UInt64)
  | takeSecureSession
  | close

inductive RuntimeResponse (V : Type)
  | done
  | action (action : ControlledSignalAction V)
  | actions (actions : List (ControlledSignalAction V))
  | session (session : Option SecureSession)

section Machine

variable {V : Type} (W : Wire V) (P : Primitives)

def respond {α : Type} (f : α → RuntimeResponse V)
    (result : Except ControlledSignalRuntimeError α × ControlledSignalRuntime) :
    Except ControlledSignalRuntimeError (RuntimeResponse V) × ControlledSignalRuntime :=
  (result.1.map f, result.2)

def runtimeStep (r : ControlledSignalRuntime) :
    RuntimeCall V → Except ControlledSignalRuntimeError (RuntimeResponse V) × ControlledSignalRuntime
  | .setControllerPublicKey deviceId publicKey =>
    respond (fun _ => .done) (r.setControllerPublicKey deviceId publicKey)
  | .beginKeyExchange config path identity key => respond .action (r.beginKeyExchange W P config path identity key)
  | .handlePeerMessage message now => respond .actions (r.handlePeerMessage W P message now)
  | .takeSecureSession => (.ok (.session r.takeSecureSession.1), r.takeSecureSession.2)
  | .close => (.ok .done, r.close)

structure FromController (r : ControlledSignalRuntime) (message : SessionPeerMessage V) (now : UInt64) : Prop where
  unexpired : now < r.sessionExpiresAtEpochMillis
  sessionId : message.sessionId = r.sessionId
  device : message.fromDeviceId = r.controllerDeviceId
  role : message.role = .controller

/-- A candidate of the controller with the authorization of the same candidate. -/
structure Authorized (r : ControlledSignalRuntime) (payload : CandidatePayload) (now : UInt64) : Prop where
  sessionId : payload.candidate.sessionId = r.sessionIdU128
  device : payload.candidate.deviceId = r.controllerDeviceId
  role : payload.candidate.role = .controller
  authorization : validateCandidateAuthorization P payload.candidate payload.authorization now = .ok ()

inductive RuntimeStep (r : ControlledSignalRuntime) :
    RuntimeCall V → Except ControlledSignalRuntimeError (RuntimeResponse V) → ControlledSignalRuntime → Prop
  | refused {call : RuntimeCall V} {e : ControlledSignalRuntimeError} : RuntimeStep r call (.error e) r
  | failed {message : SessionPeerMessage V} {now : UInt64} {e : ControlledSignalRuntimeError} :
      RuntimeStep r (.handlePeerMessage message now) (.error e) r.fail
  | keySet {publicKey : ByteArr 32} : RuntimeStep r (.setControllerPublicKey r.controllerDeviceId publicKey)
      (.ok .done) { r with controllerPublicKey := some publicKey }
  | begun {config : SessionHandshakeConfig} {path : ValidatedCandidatePath} {identity : DeviceIdentity}
      {key : EphemeralKeyPair} {signed : SignedKeyExchange × SessionHandshake} {action : ControlledSignalAction V}
      (hselects : r.selects config path = true)
      (hsigned : ControlledSignalRuntime.signedHandshake P config identity key = .ok signed) :
      RuntimeStep r (.beginKeyExchange config path identity key) (.ok (.action action))
        { r with handshake := some signed.2, state := .awaitingPeerKeyExchange }
  | candidate {message : SessionPeerMessage V} {now : UInt64} {payload : CandidatePayload}
      (hfrom : FromController r message now) (hkind : message.kind = .connectionCandidate)
      (hread : W.candidatePayload message.payload = some payload) (hauthorized : Authorized P r payload now) :
      RuntimeStep r (.handlePeerMessage message now) (.ok (.actions []))
        { r with receivedCandidateIds := insert payload.candidate.candidateId r.receivedCandidateIds
                 state := .awaitingTransportSelection }
  | exchanged {message : SessionPeerMessage V} {now : UInt64} {peerKey : ByteArr 32} {peerMessage : SignedKeyExchange}
      {handshake : SessionHandshake} {ready : SessionHandshakeReady} {actions : List (ControlledSignalAction V)}
      (hfrom : FromController r message now) (hkind : message.kind = .keyExchangeMessage)
      (hread : W.signedKeyExchange message.payload = some peerMessage) (hkey : r.controllerPublicKey = some peerKey)
      (hhandshake : r.handshake = some handshake)
      (hverify : (handshake.verifyPeerMessage P peerMessage peerKey now).1 = .ok ())
      (hfinish : (handshake.verifyPeerMessage P peerMessage peerKey now).2.finish P now = .ok ready) :
      RuntimeStep r (.handlePeerMessage message now) (.ok (.actions actions))
        { r with handshake := none, secureSession := some ready.secureSession, state := .awaitingPeerKeyConfirm }
  | confirmed {message : SessionPeerMessage V} {now : UInt64} {confirm : KeyConfirm} {secure secure' : SecureSession}
      (hfrom : FromController r message now) (hkind : message.kind = .keyConfirm)
      (hread : W.keyConfirm message.payload = some confirm) (hstate : r.state = .awaitingPeerKeyConfirm)
      (hsecure : r.secureSession = some secure)
      (hverify : secure.verifyPeerKeyConfirm P confirm r.controllerDeviceId now = (.ok (), secure')) :
      RuntimeStep r (.handlePeerMessage message now) (.ok (.actions [.ready]))
        { r with secureSession := some secure', state := .ready }
  | taken {secure : SecureSession} (hstate : r.state = .ready) (hsecure : r.secureSession = some secure) :
      RuntimeStep r .takeSecureSession (.ok (.session (some secure))) { r with secureSession := none }
  | nothing : RuntimeStep r .takeSecureSession (.ok (.session none)) r
  | closed : RuntimeStep r .close (.ok .done) r.close

end Machine

open ControlledSignalRuntime

section Spec

variable {V : Type} {W : Wire V} {P : Primitives} {r : ControlledSignalRuntime} {message : SessionPeerMessage V}
  {now : UInt64}

section

variable (hfrom : FromController r message now)
include hfrom

theorem handleCandidate_spec (hki : message.kind = .connectionCandidate) :
    RuntimeStep W P r (.handlePeerMessage message now) (respond .actions (r.handleCandidate W P message now)).1
      (r.handleCandidate W P message now).2 := by
  unfold handleCandidate
  split
  · exact .failed
  · rename_i cand authorization hrd
    split_ifs with hv
    · exact .failed
    · simp only [not_or, not_not] at hv
      obtain ⟨hs, hdevice, hrl, ha⟩ := hv
      refine .candidate hfrom hki hrd ⟨hs, hdevice, hrl, ?_⟩
      cases h : validateCandidateAuthorization P cand authorization now with
      | error =>
        rw [h] at ha
        exact absurd rfl ha
      | ok => rfl

theorem handleKeyExchange_spec (hk : message.kind = .keyExchangeMessage) :
    RuntimeStep W P r (.handlePeerMessage message now) (respond .actions (r.handleKeyExchange W P message now)).1
      (r.handleKeyExchange W P message now).2 := by
  unfold handleKeyExchange
  split
  · exact .refused
  split
  · exact .refused
  rename_i hkey
  split
  · exact .failed
  rename_i hr
  split
  · exact .refused
  rename_i hhandshake
  split
  · exact .failed
  rename_i hverify
  split
  · exact .failed
  rename_i hf
  exact .exchanged hfrom hk hr hkey hhandshake (by rw [hverify]) (by rw [hverify]; exact hf)

theorem handleKeyConfirm_spec (hk : message.kind = .keyConfirm) :
    RuntimeStep W P r (.handlePeerMessage message now) (respond .actions (r.handleKeyConfirm W P message now)).1
      (r.handleKeyConfirm W P message now).2 := by
  unfold handleKeyConfirm
  split
  · exact .refused
  rename_i hs
  split
  · exact .failed
  rename_i hr
  split
  · exact .refused
  rename_i hsecure
  split
  · exact .failed
  rename_i hverify
  exact .confirmed hfrom hk hr (not_not.mp hs) hsecure hverify

end

theorem validatePeerMessage_eq_ok {u : Unit} : r.validatePeerMessage message = .ok u ↔
    message.sessionId = r.sessionId ∧ message.fromDeviceId = r.controllerDeviceId ∧ message.role = .controller := by
  simp [validatePeerMessage, bind_eq_ok, ensure_eq_ok]

theorem handlePeerMessage_spec (message : SessionPeerMessage V) (now : UInt64) :
    RuntimeStep W P r (.handlePeerMessage message now) (respond .actions (r.handlePeerMessage W P message now)).1
      (r.handlePeerMessage W P message now).2 := by
  unfold handlePeerMessage
  split
  · exact .failed
  rename_i he
  split
  · exact .refused
  rename_i hv
  obtain ⟨hs, hdevice, hrole⟩ := validatePeerMessage_eq_ok.mp hv
  have hfrom : FromController r message now := ⟨UInt64.not_le.mp he, hs, hdevice, hrole⟩
  split
  · exact handleCandidate_spec hfrom (by assumption)
  · exact handleKeyExchange_spec hfrom (by assumption)
  · exact handleKeyConfirm_spec hfrom (by assumption)

/-- A call that takes effect only if it succeeds. -/
theorem step_of_commit {α : Type} {call : RuntimeCall V} {f : α → RuntimeResponse V}
    {res : Except ControlledSignalRuntimeError (α × ControlledSignalRuntime)}
    (hok : ∀ a r', res = .ok (a, r') → RuntimeStep W P r call (.ok (f a)) r') :
    RuntimeStep W P r call (respond f (commit r res)).1 (respond f (commit r res)).2 := by
  cases res with
  | error => exact .refused
  | ok p => exact hok p.1 p.2 rfl

theorem runtimeStep_spec (call : RuntimeCall V) :
    RuntimeStep W P r call (runtimeStep W P r call).1 (runtimeStep W P r call).2 := by
  cases call with
  | setControllerPublicKey =>
    refine step_of_commit fun u r' h => ?_
    simp only [bind_eq_ok, ensure_eq_ok, Bool.and_eq_true, decide_eq_true_eq] at h
    obtain ⟨_, ⟨rfl, -⟩, -, rfl⟩ := h
    exact .keySet
  | beginKeyExchange =>
    refine step_of_commit fun act r' h => ?_
    simp only [bind_eq_ok, ensure_eq_ok, mapError_eq_ok] at h
    obtain ⟨_, hse, signed, hg, -, rfl⟩ := h
    exact .begun hse hg
  | handlePeerMessage message now => exact handlePeerMessage_spec message now
  | takeSecureSession =>
    simp only [runtimeStep, takeSecureSession]
    split_ifs with hst
    · cases hs : r.secureSession with
      | none =>
        have hr : { r with secureSession := none } = r := by rw [← hs]
        rw [hr]
        exact .nothing
      | some => exact .taken hst hs
    · exact .nothing
  | close => exact .closed

end Spec

end Rctl.Desktop
