/-
# The session behind the foreign interface

`remote-ios-ffi/src/lib.rs`: a handle of the foreign interface holds a controller's session
whose transport is a pair of callbacks, and the state of the key exchange, which every start of
the transport resets. An entry point works under the session's lock; commands that the transport
emits go out under the lock, events and the commands of the key exchange after it is released.

JSON is a pair of functions for each kind of value (`Json`); arguments are byte strings, or a
null pointer. `Entered` is what an entry point leaves to be done when the lock is released.
-/
import Rctl.Core.Controller
import Rctl.Runtime.Handshake

namespace Rctl.Ffi

open ByteString Controller

inductive Code
  | invalidArgument
  | invalidHandle
  | invalidState
  | invalidInput
  | transportError
  | securityError
  | panic
  deriving DecidableEq, Repr

inductive Command
  | start
  | close
  | signKeyExchange
  | sendKeyExchange
  | sendKeyConfirm
  | sendSecurePacket
  deriving DecidableEq, Repr

inductive Callback
  | command (kind : Command) (connectionEpoch : UInt64) (delivery : Option InputDelivery) (payload : Bytes)
  | event (e : ControllerSessionEvent)
  | videoFormat (payload : Bytes)
  deriving DecidableEq, Repr

/-! ### Values that cross the interface as JSON -/

structure HandshakeConfigWire where
  sessionId : U128
  accountId : String
  controllerDeviceId : String
  controlledDeviceId : String
  permissions : SessionPermissions
  permissionsDigest : Bytes
  protocolVersion : UInt16
  sessionExpiresAtEpochMillis : UInt64
  selectedTransportPath : TransportPath
  selectedCandidatePairId : String
  relayNodeId : Option String
  localDevicePublicKey : Bytes
  keyExchangeNonce : Bytes
  timestampEpochMillis : UInt64

structure KeyframeRequest where
  sessionId : U128

structure VideoFrameInfo where
  sessionId : U128
  displayId : String
  frameId : UInt64
  width : UInt32
  height : UInt32
  isKeyframe : Bool
  ptsMillis : UInt64
  frameBytesLen : UInt32

structure VideoFormatEvent where
  displayId : String
  width : UInt32
  height : UInt32

/-- JSON, read and written. Writing cannot fail for these types: they are made of numbers,
texts, byte strings and options. -/
structure Json where
  handshakeConfig : Bytes → Option HandshakeConfigWire
  signedKeyExchange : Bytes → Option SignedKeyExchange
  keyConfirm : Bytes → Option KeyConfirm
  inputEvent : Bytes → Option InputEvent
  keyframeRequest : Bytes → Option KeyframeRequest
  videoFrameInfo : Bytes → Option VideoFrameInfo
  ofSignedKeyExchange : SignedKeyExchange → Bytes
  ofKeyConfirm : KeyConfirm → Bytes
  ofInputEvent : InputEvent → Bytes
  ofVideoFormat : VideoFormatEvent → Bytes

def fixedBytes (n : ℕ) (bytes : Bytes) : Except Code (ByteArr n) :=
  if h : bytes.length = n then .ok ⟨bytes.toArray, by simp [h]⟩ else .error .invalidArgument

/-- A lower case hexadecimal digit. -/
def hexDigit (c : Char) : Option ℕ :=
  if '0' ≤ c ∧ c ≤ '9' then some (c.toNat - '0'.toNat)
  else if 'a' ≤ c ∧ c ≤ 'f' then some (c.toNat - 'a'.toNat + 10)
  else none

/-- `u128::from_str_radix(.., 16)` of 32 lower case digits. -/
def pairIdOfHex (s : String) : Option U128 :=
  if s.length ≠ 32 then none
  else (s.toList.mapM hexDigit).map fun digits => BitVec.ofNat 128 (digits.foldl (fun n d => n * 16 + d) 0)

def HandshakeConfigWire.intoRuntime (w : HandshakeConfigWire) : Except Code SessionHandshakeConfig := do
  let localDevicePublicKey ← fixedBytes 32 w.localDevicePublicKey
  let keyExchangeNonce ← fixedBytes 32 w.keyExchangeNonce
  if w.controllerDeviceId = "" ∨ w.sessionId = 0 ∨ w.protocolVersion ≠ PROTOCOL_VERSION then
    throw .invalidArgument
  let selectedCandidatePairId ← Result.okOr (pairIdOfHex w.selectedCandidatePairId) .invalidArgument
  let permissionsDigest ← fixedBytes 32 w.permissionsDigest
  return {
    context := {
      accountId := w.accountId
      sessionId := w.sessionId
      controllerDeviceId := w.controllerDeviceId
      controlledDeviceId := w.controlledDeviceId
      permissionsDigest
      protocolVersion := w.protocolVersion
      sessionExpiresAtEpochMillis := w.sessionExpiresAtEpochMillis
      selectedTransportPath := w.selectedTransportPath
      selectedCandidatePairId
      relayNodeId := w.relayNodeId
      keyExchangeTranscriptHash := Vector.replicate 32 0 }
    permissions := w.permissions
    localRole := .controller
    localDeviceId := w.controllerDeviceId
    localDevicePublicKey
    keyExchangeNonce
    timestampEpochMillis := w.timestampEpochMillis }

/-! ### The state of the key exchange -/

structure SessionSecurity where
  handshake : Option SessionHandshake
  secureSession : Option SecureSession
  peerDeviceId : Option String
  expiresAtEpochMillis : Option UInt64
  selectedTransportPath : Option TransportPath

namespace SessionSecurity

def default : SessionSecurity := ⟨none, none, none, none, none⟩

variable (security : SessionSecurity)

def ensureSessionActive (nowEpochMillis : UInt64) : Except Code Unit × SessionSecurity :=
  match security.expiresAtEpochMillis with
  | none => (.error .invalidState, security)
  | some expiresAt =>
    if nowEpochMillis ≥ expiresAt then
      (.error .securityError, { security with
        handshake := none
        secureSession := security.secureSession.map (·.invalidateForReboot) })
    else (.ok (), security)

/-- `now_epoch_millis` fails when the system's clock has no such time. -/
def ensureActiveNow (clock : Option UInt64) : Except Code Unit × SessionSecurity :=
  match clock with
  | none => (.error .securityError, security)
  | some now => security.ensureSessionActive now

variable (P : Primitives)

def sealPacket (clock : Option UInt64) (kind : MessageKind) (channel : ChannelId) (plaintext : Bytes) :
    Except Code Bytes × SessionSecurity :=
  match security.ensureActiveNow clock with
  | (.error e, security) => (.error e, security)
  | (.ok _, security) => match security.secureSession with
    | none => (.error .invalidState, security)
    | some secure =>
      let result := secure.sealMessage P kind channel 0 plaintext
      let security := { security with secureSession := some result.2 }
      match result.1 with
      | .error _ => (.error .securityError, security)
      | .ok (header, ciphertext) => (.ok (encodeHeader header ++ ciphertext), security)

end SessionSecurity

def openPacket (P : Primitives) (secure : SecureSession) (packet : Bytes) (expectedKind : MessageKind) :
    Except Code Bytes × SecureSession :=
  if packet.length < HEADER_LEN then (.error .invalidInput, secure)
  else match decodeHeader (packet.take HEADER_LEN) with
    | .error _ => (.error .invalidInput, secure)
    | .ok header =>
      let ciphertext := packet.drop HEADER_LEN
      if header.kind ≠ expectedKind ∨ header.payloadLen.toNat ≠ ciphertext.length then (.error .invalidInput, secure)
      else
        let result := secure.openMessage P header ciphertext
        (result.1.mapError fun _ => .securityError, result.2)

/-! ### The transport -/

/-- The transport of a session: the callbacks it has made, the gate they go through, and the
state of the key exchange. `clock` is the system's time during the present call. -/
structure CallbackTransport (P : Primitives) where
  closing : Bool
  delivered : List Callback
  security : SessionSecurity
  clock : Option UInt64

namespace CallbackTransport

variable {P : Primitives} (t : CallbackTransport P)

/-- Callbacks made under a lease of the gate, which is granted until the gate closes. -/
def deliver (callbacks : List Callback) : CallbackTransport P :=
  if t.closing then t else { t with delivered := t.delivered ++ callbacks }

def emitCommand (kind : Command) (connectionEpoch : UInt64) (delivery : Option InputDelivery) (payload : Bytes) :
    Except ControllerTransportError Unit × CallbackTransport P :=
  (if t.closing then .error (.unavailable "command callback closed") else .ok (),
    t.deliver [.command kind connectionEpoch delivery payload])

def inputChannel : InputDelivery → ChannelId
  | .realtime => .inputRealtime
  | .reliable => .inputReliable

def start (connectionEpoch : UInt64) : Except ControllerTransportError Unit × CallbackTransport P :=
  { t with security := .default }.emitCommand .start connectionEpoch none []

def sendInput (payload : Bytes) (delivery : InputDelivery) :
    Except ControllerTransportError Unit × CallbackTransport P :=
  match t.security.sealPacket P t.clock .inputEvent (inputChannel delivery) payload with
  | (.error _, security) => (.error (.unavailable "secure session is not ready"), { t with security })
  | (.ok packet, security) => { t with security }.emitCommand .sendSecurePacket 0 (some delivery) packet

def close : Except ControllerTransportError Unit × CallbackTransport P := t.emitCommand .close 0 none []

instance : ControllerTransport (CallbackTransport P) := ⟨start, sendInput, close⟩

end CallbackTransport

/-- What is behind a handle, under its lock. -/
abbrev FfiSession (P : Primitives) := ControllerSession (CallbackTransport P)

def FfiSession.create (P : Primitives) (sessionId : U128) : FfiSession P :=
  .new sessionId ⟨false, [], .default, none⟩

namespace FfiSession

variable {P : Primitives} (s : FfiSession P)

def security : SessionSecurity := s.transport.security

def setSecurity (security : SessionSecurity) : FfiSession P :=
  { s with transport := { s.transport with security } }

def atTime (clock : Option UInt64) : FfiSession P := { s with transport := { s.transport with clock } }

end FfiSession

/-! ### The entry points -/

/-- An argument: a byte string, or a null pointer with a length. -/
abbrev Arg := Option Bytes

def readBytes (arg : Arg) : Except Code Bytes := Result.okOr arg .invalidArgument

/-- The calls on a handle. `key` is the ephemeral key that is drawn, `clock` the system's time. -/
inductive FfiCall
  | connect
  | configureHandshakeJson (payload : Arg) (key : EphemeralKeyPair)
  | submitKeyExchangeSignature (signature : Arg)
  | receivePeerKeyExchangeJson (payload peerDevicePublicKey : Arg)
      (nowEpochMillis keyConfirmTimestampEpochMillis : UInt64)
  | receivePeerKeyConfirmJson (payload : Arg) (nowEpochMillis : UInt64)
  | sendInputJson (payload : Arg) (clock : Option UInt64)
  | sendKeyframeRequestJson (payload : Arg) (clock : Option UInt64)
  | transportEvent (connectionEpoch : UInt64) (eventKind : Int) (reason : Arg)
  | receiveSecureVideoFrame (infoPacket dataPacket : Arg) (clock : Option UInt64)
  | close
  | destroy

inductive Op
  | connect
  | configureHandshake (config : SessionHandshakeConfig) (key : EphemeralKeyPair)
  | submitKeyExchangeSignature (signature : Bytes)
  | receivePeerKeyExchange (message : SignedKeyExchange) (peerPublicKey : ByteArr 32)
      (nowEpochMillis keyConfirmTimestampEpochMillis : UInt64)
  | receivePeerKeyConfirm (confirm : KeyConfirm) (nowEpochMillis : UInt64)
  | sendInput (input : InputEvent) (clock : Option UInt64)
  | sendKeyframeRequest (payload : Bytes) (request : KeyframeRequest) (clock : Option UInt64)
  | transportEvent (connectionEpoch : UInt64) (event : ControllerTransportEvent)
  | receiveSecureVideoFrame (infoPacket dataPacket : Bytes) (clock : Option UInt64)
  | close
  | destroy

/-- The event a transport reports by its kind. A connection is reported by the key exchange
only. -/
def transportEventOf (eventKind : Int) (reason : String) : Except Code ControllerTransportEvent :=
  if eventKind = 1 then .error .securityError
  else if eventKind = 2 then .ok (.disconnected true reason)
  else if eventKind = 3 then .ok (.disconnected false reason)
  else if eventKind = 4 then .ok .closed
  else .error .invalidArgument

variable (J : Json)

/-- The arguments are read before the handle is looked up. -/
def readCall : FfiCall → Except Code Op
  | .connect => .ok .connect
  | .configureHandshakeJson payload key => do
    let wire ← Result.okOr (J.handshakeConfig (← readBytes payload)) .invalidArgument
    return .configureHandshake (← wire.intoRuntime) key
  | .submitKeyExchangeSignature signature => do return .submitKeyExchangeSignature (← readBytes signature)
  | .receivePeerKeyExchangeJson payload peerKey now timestamp => do
    let message ← Result.okOr (J.signedKeyExchange (← readBytes payload)) .invalidInput
    let peerPublicKey ← fixedBytes 32 (← readBytes peerKey)
    return .receivePeerKeyExchange message peerPublicKey now timestamp
  | .receivePeerKeyConfirmJson payload now => do
    let confirm ← Result.okOr (J.keyConfirm (← readBytes payload)) .invalidInput
    return .receivePeerKeyConfirm confirm now
  | .sendInputJson payload clock => do
    let input ← Result.okOr (J.inputEvent (← readBytes payload)) .invalidInput
    return .sendInput input clock
  | .sendKeyframeRequestJson payload clock => do
    let payload ← readBytes payload
    let request ← Result.okOr (J.keyframeRequest payload) .invalidInput
    return .sendKeyframeRequest payload request clock
  | .transportEvent epoch kind reason => do
    let reason ← Result.okOr (String.fromUTF8? ⟨(← readBytes reason).toArray⟩) .invalidArgument
    return .transportEvent epoch (← transportEventOf kind reason)
  | .receiveSecureVideoFrame info data clock => do
    return .receiveSecureVideoFrame (← readBytes info) (← readBytes data) clock
  | .close => .ok .close
  | .destroy => .ok .destroy

def mapSessionError : ControllerSessionError → Code
  | .invalidState => .invalidState
  | .invalidInput | .inputSessionMismatch | .invalidAccessUnit | .serialization => .invalidInput
  | .transport _ => .transportError

/-- What is left to do when the lock is released: to make the callbacks under a lease, if one is
asked for, and to return. An entry point that does not get its lease returns `refused`. -/
structure Entered (P : Primitives) where
  session : FfiSession P
  emits : Bool
  callbacks : List Callback
  result : Except Code Unit
  refused : Except Code Unit

section Enter

variable {P : Primitives} (s : FfiSession P)

def failWith (code : Code) : Entered P := ⟨s, false, [], .error code, .error code⟩

/-- The entry point makes one more command and returns its result. -/
def thenCommand (kind : Command) (delivery : Option InputDelivery) (payload : Bytes) : Entered P :=
  ⟨s, true, [.command kind 0 delivery payload], .ok (), .error .invalidHandle⟩

def drain : FfiSession P := { s with events := [] }

def runSession (r : Except ControllerSessionError Unit × FfiSession P) : Entered P :=
  ⟨drain r.2, true, r.2.events.map .event, r.1.mapError mapSessionError, r.1.mapError mapSessionError⟩

def configureHandshake (config : SessionHandshakeConfig) (key : EphemeralKeyPair) : Entered P :=
  if s.sessionId ≠ config.context.sessionId ∨ (s.state ≠ .connecting ∧ s.state ≠ .reconnecting) then
    failWith s .invalidState
  else if s.security.handshake.isSome ∨ s.security.secureSession.isSome then failWith s .invalidState
  else match SessionHandshake.withEphemeralKey P config key with
    | .error _ => failWith s .securityError
    | .ok handshake => match handshake.localSignatureDigest P with
      | .error _ => failWith s .securityError
      | .ok digest =>
        thenCommand (s.setSecurity { s.security with
          handshake := some handshake
          expiresAtEpochMillis := some config.context.sessionExpiresAtEpochMillis
          selectedTransportPath := some config.context.selectedTransportPath })
          .signKeyExchange none digest.toList

def submitKeyExchangeSignature (signature : Bytes) : Entered P :=
  match s.security.handshake with
  | none => failWith s .invalidState
  | some handshake =>
    let result := handshake.setLocalSignature P signature
    let s := s.setSecurity { s.security with handshake := some result.2 }
    match result.1 with
    | .error _ => failWith s .securityError
    | .ok message => thenCommand s .sendKeyExchange (some .reliable) (J.ofSignedKeyExchange message)

/-- The handshake is taken; it is put back only if the peer's message is refused. -/
def finishHandshake (handshake : SessionHandshake) (message : SignedKeyExchange) (timestamp : UInt64) : Entered P :=
  let s := s.setSecurity { s.security with handshake := none }
  match handshake.finish P timestamp with
  | .error _ => failWith s .securityError
  | .ok ready =>
    thenCommand (s.setSecurity { s.security with
      secureSession := some ready.secureSession
      peerDeviceId := some message.payload.deviceId })
      .sendKeyConfirm (some .reliable) (J.ofKeyConfirm ready.localKeyConfirm)

def receivePeerKeyExchange (message : SignedKeyExchange) (peerPublicKey : ByteArr 32) (now timestamp : UInt64) :
    Entered P :=
  match s.security.ensureSessionActive now with
  | (.error e, security) => failWith (s.setSecurity security) e
  | (.ok _, security) => match security.ensureSessionActive timestamp with
    | (.error e, security) => failWith (s.setSecurity security) e
    | (.ok _, security) => match security.handshake with
      | none => failWith (s.setSecurity security) .invalidState
      | some handshake =>
        let result := handshake.verifyPeerMessage P message peerPublicKey now
        match result.1 with
        | .error _ => failWith (s.setSecurity { security with handshake := some result.2 }) .securityError
        | .ok _ => finishHandshake J (s.setSecurity security) result.2 message timestamp

def receivePeerKeyConfirm (confirm : KeyConfirm) (now : UInt64) : Entered P :=
  match s.security.ensureSessionActive now with
  | (.error e, security) => failWith (s.setSecurity security) e
  | (.ok _, security) => match security.peerDeviceId with
    | none => failWith (s.setSecurity security) .invalidState
    | some peerDeviceId => match security.secureSession with
      | none => failWith (s.setSecurity security) .invalidState
      | some secure =>
        let verified := secure.verifyPeerKeyConfirm P confirm peerDeviceId now
        let s := s.setSecurity { security with secureSession := some verified.2 }
        match verified.1 with
        | .error _ => failWith s .securityError
        | .ok _ =>
          let connected := s.handleTransportEvent s.connectionEpoch .connected
          match connected.1 with
          | .error e => failWith connected.2 (mapSessionError e)
          | .ok _ => runSession connected

def sendKeyframeRequest (payload : Bytes) (request : KeyframeRequest) (clock : Option UInt64) : Entered P :=
  if s.state ≠ .streaming ∨ request.sessionId ≠ s.sessionId then failWith s .invalidState
  else
    match s.security.sealPacket P clock .keyframeRequest .mediaControl payload with
    | (.error e, security) => failWith (s.setSecurity security) e
    | (.ok packet, security) => thenCommand (s.setSecurity security) .sendSecurePacket (some .reliable) packet

def accessUnitOf (infoJson annexB : Bytes) : Except Code (VideoFrameInfo × H264AccessUnit) := do
  let info ← Result.okOr (J.videoFrameInfo infoJson) .invalidInput
  Result.ensure (info.sessionId = s.sessionId && info.frameBytesLen.toNat = annexB.length && !annexB.isEmpty)
    .invalidInput
  Result.ensure (info.ptsMillis.toNat < 2 ^ 63) .invalidInput
  return (info, ⟨annexB, info.ptsMillis.toNat, info.isKeyframe, info.frameId⟩)

def openFrame (secure : SecureSession) (infoPacket dataPacket : Bytes) : Except Code (Bytes × Bytes) × SecureSession :=
  let info := openPacket P secure infoPacket .videoFrameInfo
  match info.1 with
  | .error e => (.error e, info.2)
  | .ok infoJson =>
    let data := openPacket P info.2 dataPacket .videoFrameData
    (data.1.map fun annexB => (infoJson, annexB), data.2)

def receiveSecureVideoFrame (infoPacket dataPacket : Bytes) (clock : Option UInt64) : Entered P :=
  match s.security.ensureActiveNow clock with
  | (.error e, security) => failWith (s.setSecurity security) e
  | (.ok _, security) => match security.secureSession with
    | none => failWith (s.setSecurity security) .invalidState
    | some secure =>
      let opened := openFrame (P := P) secure infoPacket dataPacket
      let s := s.setSecurity { security with secureSession := some opened.2 }
      match opened.1 with
      | .error e => failWith s e
      | .ok (infoJson, annexB) => match accessUnitOf J s infoJson annexB with
        | .error e => failWith s e
        | .ok (info, accessUnit) =>
          let handled := s.handleTransportEvent s.connectionEpoch (.h264 accessUnit)
          match handled.1 with
          | .error e => failWith handled.2 (mapSessionError e)
          | .ok _ =>
            let format := J.ofVideoFormat ⟨info.displayId, info.width, info.height⟩
            ⟨drain handled.2, true, .videoFormat format :: handled.2.events.map .event, .ok (), .error .invalidHandle⟩

/-- `remote_controller_session_destroy`, after the handle was removed: the gate is closed, then
the session, and its events are dropped. -/
def destroySession : Entered P :=
  let s : FfiSession P := { s with transport := { s.transport with closing := true } }
  let closed := s.close
  ⟨drain closed.2, false, [], closed.1.mapError mapSessionError, closed.1.mapError mapSessionError⟩

/-- Closing the session behind a closed gate makes no callback. -/
theorem destroySession_delivered : (destroySession s).session.transport.delivered = s.transport.delivered := by
  unfold destroySession ControllerSession.close
  simp only
  split
  · rfl
  · simp [drain, ControllerTransport.close, CallbackTransport.close, CallbackTransport.emitCommand,
      CallbackTransport.deliver, ControllerSession.nextEpoch]

/-- The part of an entry point under the session's lock. -/
def enter : Op → Entered P
  | .connect => runSession (s.connect.1.map fun _ => (), s.connect.2)
  | .configureHandshake config key => configureHandshake s config key
  | .submitKeyExchangeSignature signature => submitKeyExchangeSignature J s signature
  | .receivePeerKeyExchange message key now timestamp => receivePeerKeyExchange J s message key now timestamp
  | .receivePeerKeyConfirm confirm now => receivePeerKeyConfirm s confirm now
  | .sendInput input clock => runSession ((s.atTime clock).sendInput (fun e => some (J.ofInputEvent e)) input)
  | .sendKeyframeRequest payload request clock => sendKeyframeRequest s payload request clock
  | .transportEvent epoch event => runSession (s.handleTransportEvent epoch event)
  | .receiveSecureVideoFrame info data clock => receiveSecureVideoFrame J s info data clock
  | .close => runSession s.close
  | .destroy => destroySession s

end Enter

/-! ### Calls one after the other -/

/-- A handle, which is unknown once the session is destroyed. -/
structure Handle (P : Primitives) where
  session : FfiSession P
  known : Bool

def Handle.create (P : Primitives) (sessionId : U128) : Handle P := ⟨.create P sessionId, true⟩

variable {P : Primitives}

/-- The callbacks are made and the entry point returns. -/
def Entered.complete (entered : Entered P) : Except Code Unit × FfiSession P :=
  (if entered.session.transport.closing then entered.refused else entered.result,
    { entered.session with transport := entered.session.transport.deliver entered.callbacks })

def Op.destroys : Op → Bool
  | .destroy => true
  | _ => false

def ffiStep (handle : Handle P) (call : FfiCall) : Except Code Unit × Handle P :=
  match readCall J call with
  | .error e => (.error e, handle)
  | .ok op =>
    if !handle.known then (.error .invalidHandle, handle)
    else
      let completed := (enter J handle.session op).complete
      (completed.1, ⟨completed.2, !op.destroys⟩)

end Rctl.Ffi
