/-
# The signal driver of the iOS controller

`RemoteControllerKit/Session/SignalNativeSecureTransportDriver.swift`: an actor that gathers the
controller's candidate, waits for its token and for a candidate of the controlled device, probes
that candidate over UDP, announces the selected path and, once the secure session is ready,
connects the QUIC plane.

An actor runs one piece of code at a time and may be entered again wherever it awaits. A piece from
one suspension to the next is a step. The events of the router are handled one after the other, so
one of them at most is suspended (`handling`); calls of `start` may be suspended side by side
(`starting`). What the awaited calls give, the device's sockets, the clock and the QUIC plane are
inputs. An event that is yielded after the stream is finished is dropped. As in `Candidates`, strings
are equal if their characters are, where Swift compares up to canonical equivalence.

`sendKeyExchange` and `sendKeyConfirm` only pass a message on and are left out.
-/
import Rctl.Ios.Candidates
import Rctl.Lib.Run

namespace Rctl.Ios

open ByteString Result StateRun

def protocolVersion : UInt16 := 1

/-- What the driver throws; `environment` is an error of what it calls. -/
inductive DriverError
  | invalidState
  | candidateTokenMismatch
  | peerMismatch
  | quicNotConnected
  | contract (e : CandidateError)
  | environment
  deriving DecidableEq, Repr

structure NativeTransportSelection where
  protocolVersion : UInt16
  path : TransportPath
  candidatePairID : String
  relayNodeID : Option String
  deriving DecidableEq

/-- The events the driver yields; those of the statistics come from elsewhere. -/
inductive NativeSecureTransportEvent
  | transportSelected (selection : NativeTransportSelection)
  | peerKeyExchange (message authoritativeDevicePublicKey : Bytes)
  | peerKeyConfirm (message : Bytes)
  | secureVideoFrame (infoPacket dataPacket : Bytes)
  | disconnected (recoverable : Bool) (reason : String)
  | closed
  deriving DecidableEq

structure SignalCandidateTokenIssued where
  sessionID : U128
  deviceID : String
  role : SessionRole
  candidateID : String
  candidateToken : Bytes
  candidateTokenBindingHash : Bytes
  expiresAtEpochMillis : UInt64

inductive SignalSessionMessageKind
  | connectionCandidate
  | keyExchangeMessage
  | keyConfirm
  deriving DecidableEq, Repr

structure SignalSessionMessage where
  kind : SignalSessionMessageKind
  sessionID : U128
  role : SessionRole
  fromDeviceID : String
  payload : Bytes

inductive RoutedSignalSessionEvent
  | state (state : String) (eventID : Option String)
  | candidateToken (token : SignalCandidateTokenIssued)
  | message (message : SignalSessionMessage)
  | connectionLost (reason : String)
  | connectionRestored

inductive NativeQuicDataPlaneEvent
  | state (connected : Bool)
  | secureVideoFrame (infoPacket dataPacket : Bytes)
  | disconnected (recoverable : Bool) (reason : String)
  | closed

/-- The controller's candidate; `socketOpen` is the state of its UDP socket. -/
structure LocalControllerCandidate where
  candidate : SignalConnectionCandidate
  socketOpen : Bool
  deriving DecidableEq

/-- What the device gives for a candidate: its identity, the endpoint of a socket if one can be
opened, and whether the claim for the token can be made and signed. -/
structure LocalHost where
  deviceID : String
  endpoint : Option String
  signs : Bool

/-- What a suspended handler of a routed event waits for. -/
inductive Await
  /-- `handleCandidateToken` sends the controller's candidate. -/
  | sendingCandidate
  | probing (attemptEpoch : UInt64) (localCandidate : LocalControllerCandidate) (peer : ControlledSignalCandidate)
  | fetchingKey (message : Bytes)
  | requestingToken (epoch : UInt64) (localCandidate : LocalControllerCandidate)
  deriving DecidableEq

structure Connection where
  peerCertificateDER : Bytes
  remoteEndpoint : String
  serverName : String
  deriving DecidableEq

structure Driver where
  localCandidate : Option LocalControllerCandidate
  localAuthorization : Option SignalCandidateAuthorization
  peer : Option ControlledSignalCandidate
  /-- There is a QUIC plane, and its events are consumed. -/
  quic : Bool
  pendingPackets : List (Bytes × Bool)
  selected : Bool
  selectionInProgress : Bool
  quicConnected : Bool
  started : Bool
  closed : Bool
  signalConnected : Bool
  sessionAuthorized : Bool
  candidateStartedEpoch : Option UInt64
  connectionEpoch : UInt64
  /-- The task that handles the routed events is there. -/
  listening : Bool
  handling : Option Await
  starting : List (UInt64 × LocalControllerCandidate)
  /-- `close` waits for the router. -/
  removing : Bool
  finished : Bool
  /-- The events that were yielded, with the connection epoch of the moment. -/
  yielded : List (UInt64 × NativeSecureTransportEvent)
  connections : List Connection

def Driver.init : Driver :=
  { localCandidate := none, localAuthorization := none, peer := none, quic := false, pendingPackets := []
    selected := false, selectionInProgress := false, quicConnected := false, started := false, closed := false
    signalConnected := true, sessionAuthorized := false, candidateStartedEpoch := none, connectionEpoch := 0
    listening := false, handling := none, starting := [], removing := false, finished := false, yielded := []
    connections := [] }

namespace Driver

variable (d : Driver)

def yield (event : NativeSecureTransportEvent) : Driver :=
  if d.finished then d else { d with yielded := d.yielded ++ [(d.connectionEpoch, event)] }

def resetAttempt : Driver :=
  { d with quic := false, localCandidate := none, localAuthorization := none, peer := none, pendingPackets := []
           selected := false, selectionInProgress := false, quicConnected := false, candidateStartedEpoch := none }

/-- The controller's candidate is still the one a suspended call began with. -/
def hasLocal (localCandidate : LocalControllerCandidate) : Bool :=
  d.localCandidate.map (·.candidate.candidateID) = some localCandidate.candidate.candidateID

end Driver

section Functions

variable (J : EnvelopeJson) (P : Primitives) (descriptor : SessionDescriptor)

def nowEpochMillis (clock : UInt64) : Except DriverError UInt64 := do
  ensure (clock < descriptor.expiresAtEpochMillis) .invalidState
  return clock

/-- `makeLocalCandidate`, but for the request of the token. -/
def makeLocalCandidate (host : LocalHost) : Except DriverError LocalControllerCandidate := do
  ensure (host.deviceID = descriptor.controllerDeviceID) .peerMismatch
  let endpoint ← okOr host.endpoint .environment
  let unsigned : SignalConnectionCandidate :=
    { candidateID := "00000000000000000000000000000000", sessionID := descriptor.sessionID
      deviceID := descriptor.controllerDeviceID, role := .controller, kind := .lanDirect, endpoint
      source := .localInterface, observeResultID := none, priority := 0, rttMillis := none, lossPPM := none
      jitterMillis := none, relayNodeID := none }
  let candidateID ← (unsigned.computedCandidateID P).mapError .contract
  ensure host.signs .environment
  return ⟨{ unsigned with candidateID }, true⟩

namespace Driver

variable (d : Driver)

/-- Up to the request of the token. The source makes the first four checks again after
`makeLocalCandidate`, which does not suspend. -/
def beginCandidateGatheringIfNeeded (epoch : UInt64) (host : LocalHost) :
    Except DriverError (Option LocalControllerCandidate) × Driver :=
  if d.started && !d.closed && d.signalConnected && d.sessionAuthorized && d.connectionEpoch = epoch &&
      d.candidateStartedEpoch ≠ some epoch then
    match makeLocalCandidate P descriptor host with
    | .error e => (.error e, { d with candidateStartedEpoch := some epoch })
    | .ok localCandidate =>
      (.ok (some localCandidate), { d with candidateStartedEpoch := some epoch, localCandidate := some localCandidate })
  else (.ok none, d)

/-- `beginCandidateGatheringIfNeeded` from the request of the token on. -/
def tokenRequested (epoch : UInt64) (localCandidate : LocalControllerCandidate) :
    Except DriverError Unit → Except DriverError Unit × Driver
  | .ok () => (.ok (), d)
  | .error e =>
    if d.started && !d.closed && d.connectionEpoch = epoch && d.hasLocal localCandidate then
      (.error e, { d with candidateStartedEpoch := none, localCandidate := none })
    else (.ok (), d)

/-- Up to the probe. -/
def selectPathIfReady : Except DriverError (Option Await) × Driver :=
  if d.selected || d.selectionInProgress then (.ok none, d)
  else match d.localCandidate, d.localAuthorization, d.peer with
  | some localCandidate, some _, some peer =>
    if peer.candidate.kind ≠ localCandidate.candidate.kind then (.error .peerMismatch, d)
    else (.ok (some (.probing d.connectionEpoch localCandidate peer)), { d with selectionInProgress := true })
  | _, _, _ => (.ok none, d)

/-- `selectPathIfReady` from the probe on. -/
def probed (attemptEpoch : UInt64) (localCandidate : LocalControllerCandidate) (peer : ControlledSignalCandidate) :
    Except DriverError Unit → Except DriverError Unit × Driver
  | .error e =>
    if !d.closed && d.connectionEpoch = attemptEpoch && d.hasLocal localCandidate then
      (.error e, { d with selectionInProgress := false })
    else (.ok (), d)
  | .ok () =>
    if d.started && !d.closed && !d.selected && d.connectionEpoch = attemptEpoch && d.hasLocal localCandidate then
      match candidatePairID P descriptor.sessionID localCandidate.candidate.candidateID peer.candidate.candidateID
          peer.candidate.kind peer.candidate.relayNodeID with
      | .error e => (.error (.contract e), { d with selectionInProgress := false })
      | .ok candidatePairID =>
        (.ok (), { d with selectionInProgress := false, selected := true }.yield (.transportSelected
          { protocolVersion, path := peer.candidate.kind, candidatePairID, relayNodeID := peer.candidate.relayNodeID }))
    else (.ok (), d)

/-- Up to the sending of the candidate. -/
def handleCandidateToken (token : SignalCandidateTokenIssued) (clock : UInt64) :
    Except DriverError (Option Await) × Driver :=
  if token.sessionID ≠ descriptor.sessionID ∨ token.deviceID ≠ descriptor.controllerDeviceID ∨
      token.role ≠ .controller then (.error .candidateTokenMismatch, d)
  else match d.localCandidate with
  | none => (.ok none, d)
  | some localCandidate =>
    if token.candidateID ≠ localCandidate.candidate.candidateID then (.ok none, d)
    else
      let authorization : SignalCandidateAuthorization :=
        ⟨token.candidateToken, token.candidateTokenBindingHash, token.expiresAtEpochMillis⟩
      match (do
        let now ← nowEpochMillis descriptor clock
        (authorization.validate P localCandidate.candidate now).mapError DriverError.contract) with
      | .error e => (.error e, d)
      | .ok () =>
        if d.localAuthorization.isSome then (.ok none, d)
        else (.ok (some .sendingCandidate), { d with localAuthorization := some authorization })

def handleMessage (message : SignalSessionMessage) (clock : UInt64) : Except DriverError (Option Await) × Driver :=
  if message.sessionID ≠ descriptor.sessionID ∨ message.role ≠ .controlled ∨
      message.fromDeviceID ≠ descriptor.controlledDeviceID then (.error .peerMismatch, d)
  else match message.kind with
  | .connectionCandidate =>
    match (do
      let now ← nowEpochMillis descriptor clock
      (decodeControlled P J message.payload descriptor now).mapError DriverError.contract) with
    | .error e => (.error e, d)
    | .ok peer => { d with peer := some peer }.selectPathIfReady
  | .keyExchangeMessage =>
    if d.selected then (.ok (some (.fetchingKey message.payload)), d) else (.error .invalidState, d)
  | .keyConfirm =>
    if d.selected then (.ok none, d.yield (.peerKeyConfirm message.payload)) else (.error .invalidState, d)

/-- The handling of a routed event waits for the token that it requests. -/
def gathers (host : LocalHost) : Except DriverError (Option Await) × Driver :=
  let began := d.beginCandidateGatheringIfNeeded P descriptor d.connectionEpoch host
  (began.1.map (·.map (.requestingToken d.connectionEpoch)), began.2)

def terminalSessionStates : List String := ["cancelled", "closed", "rejected", "failed"]

def handle (event : RoutedSignalSessionEvent) (host : LocalHost) (clock : UInt64) :
    Except DriverError (Option Await) × Driver :=
  if d.closed then (.ok none, d)
  else match event with
  | .candidateToken token => d.handleCandidateToken P descriptor token clock
  | .message message => d.handleMessage J P descriptor message clock
  | .state state _ =>
    if state = "accepted" ∨ state = "unattended_verified" then
      { d with sessionAuthorized := true }.gathers P descriptor host
    else if state ∈ terminalSessionStates then
      (.ok none, { d with sessionAuthorized := false, started := false }.resetAttempt.yield .closed)
    else (.ok none, d)
  | .connectionLost reason =>
    (.ok none, { d with signalConnected := false }.resetAttempt.yield (.disconnected true reason))
  | .connectionRestored => { d with signalConnected := true }.gathers P descriptor host

/-- The handler goes on with what it waited for; the bytes are the key, where one was asked for. -/
def resumeHandler (result : Except DriverError Bytes) : Await → Except DriverError (Option Await) × Driver
  | .sendingCandidate =>
    match result with
    | .error e => (.error e, d)
    | .ok _ => d.selectPathIfReady
  | .probing attemptEpoch localCandidate peer =>
    let after := d.probed P descriptor attemptEpoch localCandidate peer (result.map fun _ => ())
    (after.1.map fun _ => none, after.2)
  | .fetchingKey message =>
    match result with
    | .error e => (.error e, d)
    | .ok publicKey => (.ok none, d.yield (.peerKeyExchange message publicKey))
  | .requestingToken epoch localCandidate =>
    let after := d.tokenRequested epoch localCandidate (result.map fun _ => ())
    (after.1.map fun _ => none, after.2)

/-- The end of a piece of `handle`: an error finishes the stream. -/
def settle (ran : Except DriverError (Option Await) × Driver) : Driver :=
  match ran.1 with
  | .error _ => { ran.2 with handling := none, finished := true }
  | .ok next => { ran.2 with handling := next }

/-- Up to the request of the token, if there is one. -/
def start (startDescriptor : SessionDescriptor) (connectionEpoch : UInt64) (host : LocalHost) :
    Except DriverError (Option LocalControllerCandidate) × Driver :=
  if startDescriptor ≠ descriptor ∨ d.closed ∨ connectionEpoch = 0 then (.error .invalidState, d)
  else if d.connectionEpoch = connectionEpoch then (.ok none, d)
  else if connectionEpoch < d.connectionEpoch then (.error .invalidState, d)
  else
    let d := { d.resetAttempt with started := true, connectionEpoch, listening := true }
    if d.sessionAuthorized && d.signalConnected then d.beginCandidateGatheringIfNeeded P descriptor connectionEpoch host
    else (.ok none, d)

structure PlaneOutcome where
  created : Bool
  bound : Bool
  connected : Bool

def secureSessionDidBecomeReady (plane : PlaneOutcome) : Except DriverError Unit × Driver :=
  if d.started && !d.closed && d.selected && !d.quic then
    match d.localCandidate, d.peer with
    | some localCandidate, some peer =>
      if !plane.created then (.error .environment, d)
      -- `withDescriptor` throws if the socket is closed
      else if !localCandidate.socketOpen then (.error .invalidState, d)
      else if !plane.bound then (.error .environment, d)
      else
        let d := { d with
          localCandidate := some { localCandidate with socketOpen := false }
          connections := d.connections ++
            [⟨peer.transportCertificateDER, peer.candidate.endpoint, peer.serverName⟩] }
        if plane.connected then (.ok (), { d with quic := true }) else (.error .environment, d)
    | _, _ => (.error .invalidState, d)
  else (.error .invalidState, d)

/-- `sent` says whether the plane takes what is sent. -/
def sendSecurePacket (packet : Bytes) (realtime sent : Bool) : Except DriverError Unit × Driver :=
  if !(d.started && !d.closed) then (.error .invalidState, d)
  else if !d.quic then (.error .quicNotConnected, d)
  else if !d.quicConnected then
    if d.pendingPackets.length < 64 then (.ok (), { d with pendingPackets := d.pendingPackets ++ [(packet, realtime)] })
    else (.error .quicNotConnected, d)
  else if sent then (.ok (), d)
  else (.error .environment, d)

/-- An event may still come when its plane is gone, but none comes before there was a plane. -/
def handleQuic (event : NativeQuicDataPlaneEvent) (sent : Bool) : Driver :=
  if d.closed || d.connections.isEmpty then d
  else match event with
  | .state connected =>
    if !connected then d
    else if !d.quic || !(d.pendingPackets.isEmpty || sent) then
      { d with quicConnected := true, pendingPackets := [], finished := true }
    else { d with quicConnected := true, pendingPackets := [] }
  | .secureVideoFrame infoPacket dataPacket => d.yield (.secureVideoFrame infoPacket dataPacket)
  | .disconnected recoverable reason => { d with quicConnected := false }.yield (.disconnected recoverable reason)
  | .closed => { d with quicConnected := false }.yield .closed

/-- Up to the removal of the session from the router. -/
def close : Driver :=
  if d.closed then d
  else { d with closed := true, listening := false, quic := false, localCandidate := none, pendingPackets := []
                removing := true }

end Driver

end Functions

/-! ### The machine -/

inductive DriverInput
  | start (descriptor : SessionDescriptor) (connectionEpoch : UInt64) (host : LocalHost)
  /-- The request for a token that the `start` at this place waits for has an answer. -/
  | startAwaited (index : ℕ) (result : Except DriverError Unit)
  | routed (event : RoutedSignalSessionEvent) (host : LocalHost) (clock : UInt64)
  /-- What the handler of a routed event waits for has an answer. -/
  | handlerAwaited (result : Except DriverError Bytes)
  | secureSessionDidBecomeReady (plane : Driver.PlaneOutcome)
  | sendSecurePacket (packet : Bytes) (realtime sent : Bool)
  | quic (event : NativeQuicDataPlaneEvent) (sent : Bool)
  | close
  | closeAwaited

/-- The answer is that of a call that returns in this step. -/
def driverStep (J : EnvelopeJson) (P : Primitives) (descriptor : SessionDescriptor) (d : Driver) :
    DriverInput → Option (Except DriverError Unit) × Driver
  | .start startDescriptor connectionEpoch host =>
    match d.start P descriptor startDescriptor connectionEpoch host with
    | (.error e, d') => (some (.error e), d')
    | (.ok none, d') => (some (.ok ()), d')
    | (.ok (some localCandidate), d') =>
        (none, { d' with starting := d'.starting ++ [(connectionEpoch, localCandidate)] })
  | .startAwaited index result =>
    match d.starting[index]? with
    | none => (none, d)
    | some (epoch, localCandidate) =>
      let after := { d with starting := d.starting.eraseIdx index }.tokenRequested epoch localCandidate result
      (some after.1, after.2)
  | .routed event host clock =>
    -- the task takes the next event when it has handled the last one
    if d.listening && d.handling.isNone then (none, Driver.settle (d.handle J P descriptor event host clock)) else
      (none, d)
  | .handlerAwaited result =>
    match d.handling with
    | none => (none, d)
    | some await => (none, Driver.settle (d.resumeHandler P descriptor result await))
  | .secureSessionDidBecomeReady plane =>
    let after := d.secureSessionDidBecomeReady plane
    (some after.1, after.2)
  | .sendSecurePacket packet realtime sent =>
    let after := d.sendSecurePacket packet realtime sent
    (some after.1, after.2)
  | .quic event sent => (none, d.handleQuic event sent)
  | .close => (if d.closed then some (.ok ()) else none, d.close)
  | .closeAwaited => if d.removing then (some (.ok ()), { d with removing := false, finished := true }) else (none, d)

end Rctl.Ios
