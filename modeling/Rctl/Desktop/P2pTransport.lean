/-
# The direct path of the controlled device

`desktop/src/controlled/p2p_transport.rs`, with `CandidateRaceOrchestrator` of `remote-transport` and
`SecureQuicChannel::new` of `remote-runtime`: a transport is made for one pair of candidates and one
UDP socket. It gives the socket to a probe, and after a successful probe to a QUIC connection for a
secure session whose binding is that of the pair.

A call is a step of the transport (`transportStep`). What the network does, and whether the call's future is
dropped while it waits, comes with the call.

A session is compared with the pair by its path, its pair identifier, its relay node and its
permissions. Its session identifier is not compared: it is that of the candidates if the session's
pair identifier was made from candidates of its own session, and a session with the pair identifier
of another session is accepted as well.
-/
import Rctl.Desktop.SignalRuntime
import Rctl.Transport.P2p

namespace Rctl.Desktop

open ByteString Result StateRun
open Reconnect (SecurePathBinding)

/-! ### The race of the candidates -/

structure CandidatePairInput where
  controller : ConnectionCandidateDto
  controlled : ConnectionCandidateDto
  remoteAuthorization : Option EphemeralCandidateAuthorization
  deriving DecidableEq

structure CandidateRaceOrchestrator where
  race : PathRace
  paths : List ValidatedCandidatePath
  authorizations : List (Option EphemeralCandidateAuthorization)
  deriving DecidableEq

namespace CandidateRaceOrchestrator

section New

variable (A : AddressText) (P : Primitives)

/-- The body of the loop over the pairs. -/
def validatePair (localRole : SessionRole) (localNetworks : List LocalNetwork) (permissionsDigest : Digest)
    (nowEpochMillis : UInt64) (input : CandidatePairInput) :
    Except BindingError (ConnectionCandidate × ValidatedCandidatePath) := do
  let controllerId ← candidateId P input.controller
  let controlledId ← candidateId P input.controlled
  ensure (controllerId = input.controller.candidateId && controlledId = input.controlled.candidateId)
    .candidateIdMismatch
  ensure (input.controller.sessionId = input.controlled.sessionId && input.controller.role = .controller &&
    input.controlled.role = .controlled && input.controller.kind = input.controlled.kind &&
    input.controller.relayNodeId = input.controlled.relayNodeId) .invalidCandidateKindSource
  let remoteCandidate := match localRole with
    | .controller => input.controlled
    | .controlled => input.controller
  let pathKind ← transportKind remoteCandidate.kind
  let pairId ← candidatePairId P remoteCandidate.sessionId controllerId controlledId remoteCandidate.kind
    remoteCandidate.relayNodeId
  match pathKind with
  | .lanDirect | .udpP2p =>
    let authorization ← okOr input.remoteAuthorization .tokenMismatch
    validateEphemeralCandidateAuthorization P remoteCandidate authorization nowEpochMillis
    let _ ← p2pRemoteEndpoint A remoteCandidate localNetworks
  | .quicRelay | .tls443Relay => ensure input.remoteAuthorization.isNone .invalidCandidateKindSource
  return (⟨pathKind, remoteCandidate.endpoint, remoteCandidate.rttMs⟩,
    { controllerCandidateId := controllerId, controlledCandidateId := controlledId, remoteCandidate
      binding := ⟨input.controller.kind, pairId, input.controller.relayNodeId, permissionsDigest⟩ })

def new (localRole : SessionRole) (inputs : List CandidatePairInput) (localNetworks : List LocalNetwork)
    (permissionsDigest : Digest) (nowEpochMillis : UInt64) (raceConfig : RaceConfig) :
    Except BindingError CandidateRaceOrchestrator := do
  let validated ← inputs.mapM (validatePair A P localRole localNetworks permissionsDigest nowEpochMillis)
  return ⟨PathRace.new (validated.map Prod.fst) nowEpochMillis raceConfig, validated.map Prod.snd,
    inputs.map CandidatePairInput.remoteAuthorization⟩

end New

variable (o : CandidateRaceOrchestrator)

def takeDueAttempts (nowEpochMillis : UInt64) : List RaceAttempt × CandidateRaceOrchestrator :=
  let (attempts, race) := o.race.takeDueAttempts nowEpochMillis
  (attempts, { o with race })

def path (attemptId : ℕ) : Option ValidatedCandidatePath := o.paths[attemptId]?

def recordFailure (attemptId : ℕ) : Except BindingError Unit × CandidateRaceOrchestrator :=
  let (result, race) := o.race.recordFailure attemptId
  (result, { o with race })

def recordSuccess (attemptId : ℕ) (metrics : LinkMetrics) : Except BindingError Unit × CandidateRaceOrchestrator :=
  let (result, race) := o.race.recordSuccess attemptId metrics
  (result, { o with race })

def winnerBinding : Option SecurePathBinding :=
  (o.race.bestSuccess.bind fun winner => o.path winner.attemptId).map ValidatedCandidatePath.binding

end CandidateRaceOrchestrator

/-! ### The secure channel -/

/-- The error of `SecureQuicChannel::new`. -/
inductive SecureQuicError
  | bindingMismatch
  deriving DecidableEq, Repr

structure SecureQuicChannel where
  sessionId : U128
  localRole : SessionRole
  channel : QuicDataChannel
  secureSession : SecureSession

def SecureQuicChannel.new (channel : QuicDataChannel) (secureSession : SecureSession) :
    Except SecureQuicError SecureQuicChannel := do
  ensure (channel.handshake.sessionId = secureSession.sessionId && channel.handshake.role = secureSession.localRole)
    .bindingMismatch
  return ⟨channel.handshake.sessionId, channel.handshake.role, channel, secureSession⟩

/-! ### The transport -/

inductive ControlledP2pTransportError
  | invalidRole
  | socketCandidateMismatch
  | candidate (error : BindingError)
  | transport (error : DataChannelError)
  | secureSession (error : SecureSessionError)
  | secureChannel (error : SecureQuicError)
  | invalidState
  deriving DecidableEq, Repr

structure ControlledP2pTransport where
  localCandidate : ConnectionCandidateDto
  localAuthorization : EphemeralCandidateAuthorization
  remoteCandidate : ConnectionCandidateDto
  selectedPath : ValidatedCandidatePath
  socket : Option UdpSocket
  probedSocket : Option ProbedP2pSocket
  localNetworks : List LocalNetwork
  replayGuard : P2pProbeReplayGuard
  race : CandidateRaceOrchestrator

/-- The issued token of a candidate as an authorization. -/
def ephemeral (candidate : ConnectionCandidateDto) (authorization : CandidateAuthorization) :
    EphemeralCandidateAuthorization :=
  ⟨candidate.sessionId, candidate.deviceId, candidate.role, candidate.candidateId, authorization.candidateToken,
    authorization.candidateTokenBindingHash, authorization.expiresAtEpochMillis⟩

def authorizationFromCandidate (P : Primitives) (candidate : ConnectionCandidateDto)
    (authorization : CandidateAuthorization) (nowEpochMillis : UInt64) :
    Except ControlledP2pTransportError EphemeralCandidateAuthorization :=
  (EphemeralCandidateAuthorization.fromIssued P candidate
    ⟨candidate.sessionId, candidate.deviceId, candidate.role, candidate.candidateId, authorization.candidateToken,
      authorization.candidateTokenBindingHash, authorization.expiresAtEpochMillis⟩ nowEpochMillis).mapError .candidate

namespace ControlledP2pTransport

section Calls

variable (A : AddressText) (P : Primitives)

def new (socket : UdpSocket) (localCandidate : ConnectionCandidateDto) (localAuthorization : CandidateAuthorization)
    (remoteCandidate : ConnectionCandidateDto) (remoteAuthorization : CandidateAuthorization)
    (localNetworks : List LocalNetwork) (permissionsDigest : Digest) (nowEpochMillis : UInt64) :
    Except ControlledP2pTransportError ControlledP2pTransport := do
  ensure (localCandidate.role = .controlled && remoteCandidate.role = .controller &&
    localCandidate.sessionId = remoteCandidate.sessionId && localCandidate.kind = remoteCandidate.kind &&
    (localCandidate.kind = .lanDirect || localCandidate.kind = .udpP2p)) .invalidRole
  let socketEndpoint ← okOr socket.localAddr .socketCandidateMismatch
  ensure (localCandidate.endpoint = A.text socketEndpoint) .socketCandidateMismatch
  let localAuthorization ← authorizationFromCandidate P localCandidate localAuthorization nowEpochMillis
  let remoteAuthorization ← authorizationFromCandidate P remoteCandidate remoteAuthorization nowEpochMillis
  let race ← (CandidateRaceOrchestrator.new A P .controlled
    [⟨remoteCandidate, localCandidate, some remoteAuthorization⟩]
    localNetworks permissionsDigest nowEpochMillis RaceConfig.default).mapError .candidate
  let selectedPath ← okOr (race.path 0) .invalidState
  let (attempts, race) := race.takeDueAttempts nowEpochMillis
  ensure (attempts.length = 1) .invalidState
  return { localCandidate, localAuthorization, remoteCandidate, selectedPath, socket := some socket
           probedSocket := none, localNetworks, replayGuard := P2pProbeReplayGuard.default, race }

variable (t : ControlledP2pTransport)

def selectedPath? : Option ValidatedCandidatePath := t.probedSocket.map fun _ => t.selectedPath

/-- The socket goes into the probe, and comes back with its result. -/
def acceptProbe (nowEpochMillis : UInt64) (event : ProbeEvent) (elapsed : UInt32) :
    Option (Except ControlledP2pTransportError ValidatedCandidatePath) × ControlledP2pTransport :=
  match t.selectedPath? with
  | some path => (some (.ok path), t)
  | none =>
    match A.parse t.remoteCandidate.endpoint, t.socket with
    | some expectedPeer, some socket =>
      let (probed, replayGuard) := acceptAuthorizedProbe P A socket expectedPeer t.localCandidate t.localAuthorization
        t.localNetworks t.replayGuard nowEpochMillis event
      let t := { t with socket := none, replayGuard }
      match probed with
      | none => (none, t)
      | some (.error error) => (some (.error (.candidate error)), { t with race := (t.race.recordFailure 0).2 })
      | some (.ok probed) =>
        match t.race.recordSuccess 0 ⟨elapsed, 0, 0⟩ with
        | (.error error, race) => (some (.error (.candidate error)), { t with race })
        | (.ok (), race) =>
          if race.winnerBinding ≠ some t.selectedPath.binding then (some (.error .invalidState), { t with race })
          else (some (.ok t.selectedPath), { t with race, probedSocket := some probed })
    | _, _ => (some (.error .invalidState), t)

def acceptSecureChannel (secureSession : SecureSession) (event : QuicEvent) :
    Option (Except ControlledP2pTransportError SecureQuicChannel) × ControlledP2pTransport :=
  if secureSession.state ≠ .ready then (some (.error .invalidState), t)
  else match t.selectedPath? with
    | none => (some (.error .invalidState), t)
    | some path =>
      match secureSession.invalidateIfBindingChanged path.binding.permissionsDigest path.binding.transportPath
        path.binding.candidatePairId path.binding.relayNodeId with
      | (.error error, _) => (some (.error (.secureSession error)), t)
      | (.ok (), secureSession) =>
        match t.probedSocket with
        | none => (some (.error .invalidState), t)
        | some probedSocket =>
          let t := { t with probedSocket := none }
          match probedSocket.acceptQuic ⟨secureSession.sessionId, .controlled⟩ event with
          | none => (none, t)
          | some (.error error) => (some (.error (.transport error)), t)
          | some (.ok channel) => (some ((SecureQuicChannel.new channel secureSession).mapError .secureChannel), t)

def close : ControlledP2pTransport := { t with socket := none, probedSocket := none }

end Calls

end ControlledP2pTransport

inductive TransportCall
  | acceptProbe (nowEpochMillis : UInt64) (event : ProbeEvent) (elapsed : UInt32)
  | acceptSecureChannel (secureSession : SecureSession) (event : QuicEvent)
  | close

/-- What a call returns; `none` if its future is dropped. -/
inductive TransportAnswer
  | path (result : Option (Except ControlledP2pTransportError ValidatedCandidatePath))
  | channel (result : Option (Except ControlledP2pTransportError SecureQuicChannel))
  | closed

def transportStep (A : AddressText) (P : Primitives) (t : ControlledP2pTransport) :
    TransportCall → TransportAnswer × ControlledP2pTransport
  | .acceptProbe now event elapsed => (t.acceptProbe A P now event elapsed).map .path id
  | .acceptSecureChannel session event => (t.acceptSecureChannel session event).map .channel id
  | .close => (.closed, t.close)

abbrev TransportEntry := Entry ControlledP2pTransport TransportCall TransportAnswer

/-! ### What a call does -/

structure Bound (session : SecureSession) (binding : SecurePathBinding) : Prop where
  path : session.path = binding.transportPath
  candidatePairId : session.candidatePairId = binding.candidatePairId
  relayNodeId : session.relayNodeId = binding.relayNodeId
  permissionsDigest : session.permissionsDigest = binding.permissionsDigest

open ControlledP2pTransport

variable {t : ControlledP2pTransport} {peer : SocketAddr} {path : ValidatedCandidatePath}

section Outcomes

variable (A : AddressText) (P : Primitives)

inductive Outcome (t : ControlledP2pTransport) (peer : SocketAddr) :
    TransportCall → TransportAnswer → ControlledP2pTransport → Prop
  | probedBefore {now event elapsed probed} (hprobed : t.probedSocket = some probed) :
      Outcome t peer (.acceptProbe now event elapsed) (.path (some (.ok t.selectedPath))) t
  | probeAccepted {now elapsed bytes packet socket kind replayGuard race} (hnone : t.probedSocket = none)
      (hsocket : t.socket = some socket)
      (hprobe : AuthorizedProbe P t.localCandidate t.localAuthorization now bytes packet) :
      Outcome t peer (.acceptProbe now (.datagram bytes peer .sent) elapsed) (.path (some (.ok t.selectedPath)))
        { t with socket := none, probedSocket := some ⟨socket, peer, kind⟩, replayGuard, race }
  | probeFailed {now event elapsed result replayGuard race} (hnone : t.probedSocket = none)
      (hresult : ∀ path, result ≠ some (.ok path)) :
      Outcome t peer (.acceptProbe now event elapsed) (.path result) { t with socket := none, replayGuard, race }
  | channelRefused {session event result} (hresult : ∀ channel, result ≠ some (.ok channel)) :
      Outcome t peer (.acceptSecureChannel session event) (.channel result) t
  | channelLost {session event result probed} (hprobed : t.probedSocket = some probed)
      (hresult : ∀ channel, result ≠ some (.ok channel)) :
      Outcome t peer (.acceptSecureChannel session event) (.channel result) { t with probedSocket := none }
  | channelAccepted {session event probed} (hprobed : t.probedSocket = some probed) (hready : session.state = .ready)
      (hrole : session.localRole = .controlled) (hbound : Bound session t.selectedPath.binding) :
      Outcome t peer (.acceptSecureChannel session event)
        (.channel (some (.ok ⟨session.sessionId, .controlled,
          ⟨probed.socket, probed.remote, probed.path, ⟨session.sessionId, .controlled⟩⟩, session⟩)))
        { t with probedSocket := none }
  | closed : Outcome t peer .close .closed { t with socket := none, probedSocket := none }

theorem selectedPath?_eq_none : t.selectedPath? = none ↔ t.probedSocket = none := Option.map_eq_none_iff

theorem selectedPath?_eq_some :
    t.selectedPath? = some path ↔ t.probedSocket.isSome = true ∧ path = t.selectedPath := by
  unfold selectedPath?
  cases t.probedSocket <;> simp [eq_comm]

theorem acceptProbe_outcome (hpe : A.parse t.remoteCandidate.endpoint = some peer) (now : UInt64) (ev : ProbeEvent)
    (elapsed : UInt32) : Outcome P t peer (.acceptProbe now ev elapsed)
      (.path (t.acceptProbe A P now ev elapsed).1) (t.acceptProbe A P now ev elapsed).2 := by
  unfold acceptProbe
  cases hpt : t.selectedPath? with
  | some =>
    obtain ⟨hprobed, rfl⟩ := selectedPath?_eq_some.mp hpt
    obtain ⟨probed, hprobed⟩ := Option.isSome_iff_exists.mp hprobed
    exact .probedBefore hprobed
  | none =>
    have hno := selectedPath?_eq_none.mp hpt
    rw [hpe]
    cases hs : t.socket with
    | none =>
      have hf : Outcome P t peer (.acceptProbe now ev elapsed) (.path (some (.error .invalidState)))
          { t with socket := none } := .probeFailed hno (by simp)
      rwa [show ({ t with socket := none } : ControlledP2pTransport) = t by rw [← hs]] at hf
    | some socket =>
      simp only
      cases hr : (acceptAuthorizedProbe P A socket peer t.localCandidate t.localAuthorization t.localNetworks
        t.replayGuard now ev).1 with
      | none => exact .probeFailed hno (by simp)
      | some res =>
        cases res with
        | error => exact .probeFailed hno (by simp)
        | ok probed =>
          obtain ⟨hprobed, hremote, -, bs, pkt, rfl, hp⟩ := acceptAuthorizedProbe_eq_ok P hr
          simp only
          split
          · exact .probeFailed hno (by simp)
          · split
            · exact .probeFailed hno (by simp)
            · cases hprobed
              cases hremote
              exact .probeAccepted hno hs hp

theorem invalidateIfBindingChanged_eq_ok {session session' : SecureSession} {digest : Digest} {path : TransportPath}
    {pair : U128} {relay : Option String}
    (h : session.invalidateIfBindingChanged digest path pair relay = (.ok (), session')) :
    session' = session ∧ Bound session ⟨path, pair, relay, digest⟩ := by
  unfold SecureSession.invalidateIfBindingChanged at h
  split at h
  · cases h
  · rename_i hd
    split_ifs at h with hp
    · cases h
    · simp only [not_or, not_not] at hd hp
      cases h
      exact ⟨rfl, hp.1.symm, hp.2.1.symm, hp.2.2.symm, hd.symm⟩

theorem secureQuicChannel_eq_ok {channel : QuicDataChannel} {session : SecureSession} {secure : SecureQuicChannel}
    (h : SecureQuicChannel.new channel session = .ok secure) : channel.handshake.role = session.localRole ∧
      secure = ⟨channel.handshake.sessionId, channel.handshake.role, channel, session⟩ := by
  simp only [SecureQuicChannel.new, bind_eq_ok, ensure_eq_ok, pure_eq_ok, Bool.and_eq_true, decide_eq_true_eq] at h
  obtain ⟨_, ⟨-, hr⟩, rfl⟩ := h
  exact ⟨hr, rfl⟩

theorem acceptSecureChannel_outcome (session : SecureSession) (ev : QuicEvent) :
    Outcome P t peer (.acceptSecureChannel session ev) (.channel (t.acceptSecureChannel session ev).1)
      (t.acceptSecureChannel session ev).2 := by
  unfold acceptSecureChannel
  split_ifs with hr
  · exact .channelRefused (by simp)
  · cases hp : t.selectedPath? with
    | none => exact .channelRefused (by simp)
    | some path =>
      obtain ⟨hpr, rfl⟩ := selectedPath?_eq_some.mp hp
      obtain ⟨probed, hpr⟩ := Option.isSome_iff_exists.mp hpr
      simp only
      split
      · exact .channelRefused (by simp)
      · rename_i session' hbi
        obtain ⟨rfl, hb⟩ := invalidateIfBindingChanged_eq_ok hbi
        rw [hpr]
        simp only
        cases hquic : probed.acceptQuic ⟨session'.sessionId, .controlled⟩ ev with
        | none => exact .channelLost hpr (by simp)
        | some res =>
          cases res with
          | error => exact .channelLost hpr (by simp)
          | ok =>
            obtain ⟨-, rfl⟩ := acceptQuic_eq_ok hquic
            cases hn : SecureQuicChannel.new
              ⟨probed.socket, probed.remote, probed.path, ⟨session'.sessionId, .controlled⟩⟩ session' with
            | error => exact .channelLost hpr (by simp [Except.mapError, hn])
            | ok =>
              obtain ⟨hrl, rfl⟩ := secureQuicChannel_eq_ok hn
              simp only [hn]
              exact .channelAccepted hpr (not_not.mp hr) hrl.symm hb

theorem transportStep_outcome (hpe : A.parse t.remoteCandidate.endpoint = some peer) (call : TransportCall) :
    Outcome P t peer call (transportStep A P t call).1 (transportStep A P t call).2 := by
  cases call with
  | acceptProbe now ev elapsed => exact acceptProbe_outcome A P hpe now ev elapsed
  | acceptSecureChannel session ev => exact acceptSecureChannel_outcome P session ev
  | close => exact .closed

end Outcomes

/-! ### The pair of a transport -/

/-- What a candidate pair identifier is the hash of. -/
structure CandidatePair where
  sessionId : U128
  controllerCandidateId : U128
  controlledCandidateId : U128
  path : TransportPath
  relayNodeId : Option String
  deriving DecidableEq

def CandidatePair.id (P : Primitives) (pair : CandidatePair) : Except BindingError U128 :=
  candidatePairId P pair.sessionId pair.controllerCandidateId pair.controlledCandidateId pair.path pair.relayNodeId

def InjectiveOn (P : Primitives) (pairs : Set CandidatePair) : Prop :=
  ∀ a ∈ pairs, ∀ b ∈ pairs, ∀ id, a.id P = .ok id → b.id P = .ok id → a = b

/-- The pair of a local candidate of the controlled device and a remote one. -/
def pairOf (localCandidate remoteCandidate : ConnectionCandidateDto) : CandidatePair :=
  ⟨remoteCandidate.sessionId, remoteCandidate.candidateId, localCandidate.candidateId, remoteCandidate.kind,
    remoteCandidate.relayNodeId⟩

variable {P : Primitives} {now : UInt64}

theorem authorizationFromCandidate_eq_ok {cand : ConnectionCandidateDto} {issued : CandidateAuthorization}
    {authorization : EphemeralCandidateAuthorization}
    (h : authorizationFromCandidate P cand issued now = .ok authorization) :
    authorization = ephemeral cand issued := by
  simp only [authorizationFromCandidate, EphemeralCandidateAuthorization.fromIssued, mapError_eq_ok, bind_eq_ok,
    pure_eq_ok] at h
  obtain ⟨_, -, _, -, rfl⟩ := h
  rfl

structure Made (A : AddressText) (P : Primitives) (socket : UdpSocket)
    (localCandidate remoteCandidate : ConnectionCandidateDto) (localAuthorization : CandidateAuthorization)
    (permissionsDigest : Digest) (peer : SocketAddr) (pairId : U128) (t : ControlledP2pTransport) : Prop where
  parsed : A.parse remoteCandidate.endpoint = some peer
  identified : (pairOf localCandidate remoteCandidate).id P = .ok pairId
  sameSession : localCandidate.sessionId = remoteCandidate.sessionId
  local_eq : t.localCandidate = localCandidate
  authorization_eq : t.localAuthorization = ephemeral localCandidate localAuthorization
  remote_eq : t.remoteCandidate = remoteCandidate
  binding_eq : t.selectedPath.binding = ⟨remoteCandidate.kind, pairId, remoteCandidate.relayNodeId, permissionsDigest⟩
  socket_eq : t.socket = some socket
  unprobed : t.probedSocket = none

variable {A : AddressText} {socket : UdpSocket}

section New

variable {localNetworks : List LocalNetwork} {permissionsDigest : Digest}

theorem validatePair_eq_ok {input : CandidatePairInput} {validated : ConnectionCandidate × ValidatedCandidatePath}
    (hk : input.controller.kind = .lanDirect ∨ input.controller.kind = .udpP2p)
    (h : CandidateRaceOrchestrator.validatePair A P .controlled localNetworks permissionsDigest now input =
      .ok validated) :
    ∃ peer pairId, A.parse input.controller.endpoint = some peer ∧ (pairOf input.controlled input.controller).id P =
      .ok pairId ∧ validated.2.binding =
      ⟨input.controller.kind, pairId, input.controller.relayNodeId, permissionsDigest⟩ := by
  simp only [CandidateRaceOrchestrator.validatePair, bind_eq_ok, ensure_eq_ok, Bool.and_eq_true, decide_eq_true_eq] at h
  obtain ⟨controllerId, -, controlledId, -, _, ⟨rfl, rfl⟩, _, -, kind, hp, pairId, hpair, hr⟩ := h
  have hd : kind = .lanDirect ∨ kind = .udpP2p := by
    rcases hk with hk | hk
    all_goals
      rw [hk] at hp
      cases hp
      simp
  rcases hd with rfl | rfl
  all_goals
    simp only [bind_eq_ok, pure_eq_ok] at hr
    obtain ⟨_, -, _, -, peer, hpe, rfl⟩ := hr
    exact ⟨peer, pairId, p2pRemoteEndpoint_eq_ok A hpe, hpair, rfl⟩

theorem new_eq_ok {localCandidate remoteCandidate : ConnectionCandidateDto}
    {localAuthorization remoteAuthorization : CandidateAuthorization}
    (h : ControlledP2pTransport.new A P socket localCandidate localAuthorization remoteCandidate remoteAuthorization
      localNetworks permissionsDigest now = .ok t) : ∃ peer pairId,
      Made A P socket localCandidate remoteCandidate localAuthorization permissionsDigest peer pairId t := by
  simp only [ControlledP2pTransport.new, CandidateRaceOrchestrator.new, bind_eq_ok, ensure_eq_ok, mapError_eq_ok,
    pure_eq_ok, Bool.and_eq_true, Bool.or_eq_true, decide_eq_true_eq, List.mapM_cons, List.mapM_nil] at h
  obtain ⟨_, ⟨⟨⟨⟨_, _⟩, hs⟩, hk⟩, hki⟩, _, -, _, -, authorization, hl, remote, hr, race,
    ⟨_, ⟨validated, hv, _, rfl, rfl⟩, rfl⟩, path, hpt, _, -, rfl⟩ := h
  rw [hk] at hki
  obtain ⟨peer, pairId, hparsed, hid, hbinding⟩ := validatePair_eq_ok hki hv
  cases hpt
  exact ⟨peer, pairId, hparsed, hid, hs, rfl, authorizationFromCandidate_eq_ok hl, rfl, hbinding, rfl, rfl⟩

end New

/-! ### Whole runs -/

/-- The call has accepted an authorized probe from `peer`. -/
def ProbeAccepted (P : Primitives) (localCandidate : ConnectionCandidateDto)
    (authorization : EphemeralCandidateAuthorization) (peer : SocketAddr) (e : TransportEntry) : Prop :=
  ∃ now bytes elapsed packet path, e.call = .acceptProbe now (.datagram bytes peer .sent) elapsed ∧
    e.out = .path (some (.ok path)) ∧ AuthorizedProbe P localCandidate authorization now bytes packet

/-- The call has moved the socket into a probe. -/
def probes (e : TransportEntry) : Bool :=
  match e.call with
  | .acceptProbe _ _ _ => e.pre.socket.isSome && e.post.socket.isNone
  | _ => false

/-- The call has moved the probed socket into a connection. -/
def adopts (e : TransportEntry) : Bool :=
  match e.call with
  | .acceptSecureChannel _ _ => e.pre.probedSocket.isSome && e.post.probedSocket.isNone
  | _ => false

/-- The call has closed the transport or is a probe that has failed. -/
def Ends (e : TransportEntry) : Prop :=
  e.call = .close ∨ ∃ result, e.out = .path result ∧ ∀ path, result ≠ some (.ok path)

structure Fruitless (e : TransportEntry) : Prop where
  path : ∀ path, e.out ≠ .path (some (.ok path))
  channel : ∀ channel, e.out ≠ .channel (some (.ok channel))
  unselected : e.post.selectedPath? = none

section Runs

variable {t₀ : ControlledP2pTransport} {t t' : ControlledP2pTransport} {call : TransportCall}
  {answer : TransportAnswer}

def ControlledP2pTransport.pairing (t : ControlledP2pTransport) :
    ConnectionCandidateDto × EphemeralCandidateAuthorization × ConnectionCandidateDto × ValidatedCandidatePath :=
  (t.localCandidate, t.localAuthorization, t.remoteCandidate, t.selectedPath)

/-- What holds of the transport made as `t₀`, and of the calls so far. -/
structure TransportInv (P : Primitives) (socket : UdpSocket) (peer : SocketAddr) (t₀ : ControlledP2pTransport)
    (log : List TransportEntry) (t : ControlledP2pTransport) : Prop where
  same : t.pairing = t₀.pairing
  fresh : ∀ s, t.socket = some s → s = socket ∧ t.probedSocket = none
  probed : ∀ probed, t.probedSocket = some probed → probed.socket = socket ∧ probed.remote = peer ∧
    ∃ e ∈ log, ProbeAccepted P t₀.localCandidate t₀.localAuthorization peer e

theorem pairing_eq (h : t.pairing = t₀.pairing) :
    t.localCandidate = t₀.localCandidate ∧ t.localAuthorization = t₀.localAuthorization ∧
      t.remoteCandidate = t₀.remoteCandidate ∧ t.selectedPath = t₀.selectedPath := by
  simpa only [pairing, Prod.mk.injEq] using h

theorem outcome_of_pairing (hpe : A.parse t₀.remoteCandidate.endpoint = some peer)
    (h : t.pairing = t₀.pairing) (call : TransportCall) :
    Outcome P t peer call (transportStep A P t call).1 (transportStep A P t call).2 := by
  obtain ⟨-, -, hremote, -⟩ := pairing_eq h
  exact transportStep_outcome A P (hremote ▸ hpe) call

theorem TransportInv.step {log : List TransportEntry} (h : TransportInv P socket peer t₀ log t)
    (ho : Outcome P t peer call answer t') :
    TransportInv P socket peer t₀ (log ++ [⟨t, call, answer, t'⟩]) t' := by
  obtain ⟨hl, hauthorization, -, -⟩ := pairing_eq h.same
  have hprobed : ∀ probe, t.probedSocket = some probe → probe.socket = socket ∧ probe.remote = peer ∧
      ∃ e ∈ log ++ [⟨t, call, answer, t'⟩], ProbeAccepted P t₀.localCandidate t₀.localAuthorization peer e := by
    intro probe hsome
    obtain ⟨hsocket, hremote, e, he, ha⟩ := h.probed probe hsome
    exact ⟨hsocket, hremote, e, List.mem_append_left _ he, ha⟩
  cases ho with
  | probedBefore | channelRefused => exact ⟨h.same, h.fresh, hprobed⟩
  | probeAccepted _ hsocket hp =>
    refine ⟨h.same, by simp, ?_⟩
    rintro _ ⟨⟩
    rw [hl, hauthorization] at hp
    exact ⟨(h.fresh _ hsocket).1, rfl, _, List.mem_append_right _ (List.mem_singleton_self _), _, _, _, _, _, rfl, rfl,
      hp⟩
  | probeFailed hnone => exact ⟨h.same, by simp, by simp [hnone]⟩
  | channelLost | channelAccepted => exact ⟨h.same, fun s hs => ⟨(h.fresh s hs).1, rfl⟩, by simp⟩
  | closed => exact ⟨h.same, by simp, by simp⟩

/-- The socket is gone. -/
structure Spent (t₀ t : ControlledP2pTransport) : Prop where
  same : t.pairing = t₀.pairing
  socket : t.socket = none
  probedSocket : t.probedSocket = none

/-- Without a socket no call has a result, and none gets a socket back. -/
theorem Spent.step (h : Spent t₀ t) (ho : Outcome P t peer call answer t') :
    Spent t₀ t' ∧ Fruitless ⟨t, call, answer, t'⟩ := by
  cases ho with
  | probedBefore hprobed | channelLost hprobed | channelAccepted hprobed =>
    exact absurd h.probedSocket (by simp [hprobed])
  | probeAccepted _ hs => exact absurd h.socket (by simp [hs])
  | probeFailed hn hr =>
    exact ⟨⟨h.same, rfl, hn⟩, by simpa using hr, by simp, selectedPath?_eq_none.mpr hn⟩
  | channelRefused hr => exact ⟨h, by simp, by simpa using hr, selectedPath?_eq_none.mpr h.probedSocket⟩
  | closed => exact ⟨⟨h.same, rfl, rfl⟩, by simp, by simp, rfl⟩

/-- A call that ends the transport leaves it without a socket. -/
theorem spent_of_ends (hs : t.pairing = t₀.pairing) (ho : Outcome P t peer call answer t')
    (he : Ends ⟨t, call, answer, t'⟩) : Spent t₀ t' := by
  simp only [Ends] at he
  cases ho with
  | probeFailed hn => exact ⟨hs, rfl, hn⟩
  | closed => exact ⟨hs, rfl, rfl⟩
  | probedBefore | probeAccepted | channelRefused | channelLost | channelAccepted => simp at he

/-- A socket is not made: it is there before, and a probed socket comes from a socket. -/
theorem Outcome.keeps_socket (h : Outcome P t peer call answer t') :
    (t'.socket = t.socket ∨ t'.socket = none) ∧ (t'.probedSocket.isSome → t.socket.isSome ∨ t.probedSocket.isSome) := by
  cases h with
  | probedBefore => exact ⟨.inl rfl, .inr⟩
  | probeAccepted _ hs => exact ⟨.inr rfl, fun _ => .inl (by simp [hs])⟩
  | probeFailed => exact ⟨.inr rfl, .inr⟩
  | channelRefused => exact ⟨.inl rfl, .inr⟩
  | channelLost | channelAccepted => exact ⟨.inl rfl, by simp⟩
  | closed => exact ⟨.inr rfl, by simp⟩

theorem Outcome.keeps_pairing (h : Outcome P t peer call answer t') :
    t'.pairing = t.pairing := by
  cases h <;> rfl

theorem Outcome.selected (h : Outcome P t peer call (.path (some (.ok path))) t') : t'.selectedPath? = some path := by
  cases h with
  | probedBefore hprobed => exact selectedPath?_eq_some.mpr ⟨by simp [hprobed], rfl⟩
  | probeAccepted => exact selectedPath?_eq_some.mpr ⟨rfl, rfl⟩
  | probeFailed _ hr => exact absurd rfl (hr path)

theorem Outcome.accepted {session : SecureSession} {ev : QuicEvent}
    {chan : SecureQuicChannel}
    (h : Outcome P t peer (.acceptSecureChannel session ev) (.channel (some (.ok chan))) t') :
    session.state = .ready ∧ session.localRole = .controlled ∧ Bound session t.selectedPath.binding ∧
      chan = ⟨session.sessionId, .controlled, chan.channel, session⟩ ∧ ∃ probed, t.probedSocket = some probed ∧
        chan.channel.socket = probed.socket ∧ chan.channel.remoteAddress = probed.remote := by
  cases h with
  | channelRefused hr | channelLost _ hr => exact absurd rfl (hr chan)
  | channelAccepted hprobed hready hrole hb => exact ⟨hready, hrole, hb, rfl, _, hprobed, rfl, rfl⟩

section

variable (hpe : A.parse t₀.remoteCandidate.endpoint = some peer)
include hpe

theorem countP_probes_le (h : TransportInv P socket peer t₀ [] t₀) (cs : List TransportCall) :
    (trace (transportStep A P) t₀ cs).countP probes ≤ 1 := by
  refine countP_trace_le_one (transportStep A P) (I := fun t => ∃ log, TransportInv P socket peer t₀ log t)
    (R := fun t => t.socket.isSome = true) (fun t call ⟨log, hI⟩ => ⟨_,
      hI.step (outcome_of_pairing hpe hI.same call)⟩) ?_ ?_ cs ⟨[], h⟩
  · rintro t call ⟨log, hI⟩ hs
    rcases (outcome_of_pairing hpe hI.same call).keeps_socket.1 with hsocket | hsocket
    · rwa [hsocket] at hs
    · rw [hsocket] at hs
      cases hs
  · rintro t call - hp
    unfold probes at hp
    cases call <;> simp_all

theorem countP_adopts_le (h : TransportInv P socket peer t₀ [] t₀) (cs : List TransportCall) :
    (trace (transportStep A P) t₀ cs).countP adopts ≤ 1 := by
  refine countP_trace_le_one (transportStep A P) (I := fun t => ∃ log, TransportInv P socket peer t₀ log t)
    (R := fun t => t.socket.isSome = true ∨ t.probedSocket.isSome = true)
    (fun t call ⟨log, hI⟩ => ⟨_, hI.step (outcome_of_pairing hpe hI.same call)⟩) ?_ ?_ cs ⟨[], h⟩
  · rintro t call ⟨log, hI⟩ hsome
    obtain ⟨hs, hprobed⟩ := (outcome_of_pairing hpe hI.same call).keeps_socket
    rcases hsome with hsome | hsome
    · rcases hs with hs | hs
      · exact .inl (hs ▸ hsome)
      · rw [hs] at hsome
        cases hsome
    · exact hprobed hsome
  · rintro t call ⟨log, hI⟩ ha
    have hs := (outcome_of_pairing (P := P) hpe hI.same call).keeps_socket.1
    obtain ⟨hp, hpost⟩ : t.probedSocket.isSome = true ∧ (transportStep A P t call).2.probedSocket.isNone = true := by
      unfold adopts at ha
      cases call <;> simp_all
    -- a socket is there either unprobed or probed
    have hno : t.socket = none := by
      cases hsome : t.socket with
      | none => rfl
      | some s => simp [(hI.fresh s hsome).2] at hp
    rw [hno, or_self] at hs
    exact ⟨.inr hp, by simp [hs, Option.isNone_iff_eq_none.mp hpost]⟩

end

end Runs

/-! ### The binding of the path -/

/-- **Every path and every channel is that of the probed pair.** For every transport that `new` makes
and every run of calls on it: a path is selected only after an authorized probe from the endpoint of
the remote candidate; a channel is for a ready session of the controlled side with the binding of the
pair, on the transport's own socket and to that endpoint; the socket goes into at most one probe and
at most one connection; and after `close` or a failed probe no call has a result.

The session is that of the candidates if its pair identifier is one of its own session, with
identifiers as an injective hash of `pairs`. -/
theorem controlled_p2p_path_binding (A : AddressText) (P : Primitives) (pairs : Set CandidatePair)
    (hinjective : InjectiveOn P pairs) (socket : UdpSocket) (localCandidate remoteCandidate : ConnectionCandidateDto)
    (localAuthorization remoteAuthorization : CandidateAuthorization) (localNetworks : List LocalNetwork)
    (permissionsDigest : Digest) (now : UInt64) (t : ControlledP2pTransport)
    (hnew : ControlledP2pTransport.new A P socket localCandidate localAuthorization remoteCandidate remoteAuthorization
      localNetworks permissionsDigest now = .ok t) (hpair : pairOf localCandidate remoteCandidate ∈ pairs)
    (calls : List TransportCall) : ∃ peer pairId,
      A.parse remoteCandidate.endpoint = some peer ∧ (pairOf localCandidate remoteCandidate).id P = .ok pairId ∧
      (∀ before e after, trace (transportStep A P) t calls = before ++ e :: after →
        (∀ path, e.post.selectedPath? = some path ∨ e.out = .path (some (.ok path)) →
          path.binding = ⟨remoteCandidate.kind, pairId, remoteCandidate.relayNodeId, permissionsDigest⟩ ∧
            ∃ e' ∈ before ++ [e],
              ProbeAccepted P localCandidate (ephemeral localCandidate localAuthorization) peer e') ∧
        (∀ session event channel, e.call = .acceptSecureChannel session event →
          e.out = .channel (some (.ok channel)) →
            session.state = .ready ∧ session.localRole = .controlled ∧
            Bound session ⟨remoteCandidate.kind, pairId, remoteCandidate.relayNodeId, permissionsDigest⟩ ∧
            channel = ⟨session.sessionId, .controlled, channel.channel, session⟩ ∧
            channel.channel.socket = socket ∧ channel.channel.remoteAddress = peer ∧
            (∃ e' ∈ before, ProbeAccepted P localCandidate (ephemeral localCandidate localAuthorization) peer e') ∧
            ∀ own ∈ pairs, own.sessionId = session.sessionId → own.id P = .ok session.candidatePairId →
              session.sessionId = localCandidate.sessionId)) ∧
      (trace (transportStep A P) t calls).countP probes ≤ 1 ∧
      (trace (transportStep A P) t calls).countP adopts ≤ 1 ∧
      (∀ e ∈ trace (transportStep A P) t calls, Ends e → e.post.selectedPath? = none) ∧
      (trace (transportStep A P) t calls).Pairwise fun e e' => Ends e → Fruitless e' := by
  obtain ⟨peer, pairId, hmade⟩ := new_eq_ok hnew
  have hpe : A.parse t.remoteCandidate.endpoint = some peer := hmade.remote_eq ▸ hmade.parsed
  have hinit : TransportInv P socket peer t [] t :=
    ⟨rfl, fun s hs => ⟨Option.some.inj (hs.symm.trans hmade.socket_eq), hmade.unprobed⟩, by simp [hmade.unprobed]⟩
  have hr : ∀ cs, TransportInv P socket peer t (trace (transportStep A P) t cs) (final (transportStep A P) t cs) :=
    fun cs => history_inv (transportStep A P)
      (fun _ _ call hI => hI.step (outcome_of_pairing hpe hI.same call)) cs [] t hinit
  refine ⟨peer, pairId, hmade.parsed, hmade.identified, fun before e after hl => ⟨fun path hselected => ?_,
    fun session event channel hcall ho => ?_⟩, countP_probes_le hpe hinit calls, countP_adopts_le hpe hinit calls,
    fun e he hends => ?_, ?_⟩
  · obtain ⟨cs, call, _, -, rfl, rfl⟩ := trace_eq_append_cons _ hl
    have hoc := outcome_of_pairing (P := P) hpe (hr cs).same call
    have hI := (hr cs).step hoc
    have hselected : (transportStep A P (final (transportStep A P) t cs) call).2.selectedPath? = some path := by
      rcases hselected with hselected | ho
      · exact hselected
      · rw [entry_out] at ho
        rw [ho] at hoc
        exact hoc.selected
    obtain ⟨hprobed, rfl⟩ := selectedPath?_eq_some.mp hselected
    obtain ⟨probe, hprobed⟩ := Option.isSome_iff_exists.mp hprobed
    obtain ⟨-, -, e', he', ha⟩ := hI.probed probe hprobed
    rw [hmade.local_eq, hmade.authorization_eq] at ha
    exact ⟨by rw [(pairing_eq hI.same).2.2.2, hmade.binding_eq], e', he', ha⟩
  · obtain ⟨cs, call, _, -, rfl, rfl⟩ := trace_eq_append_cons _ hl
    obtain ⟨-, -, -, hpath⟩ := pairing_eq (hr cs).same
    have hoc := outcome_of_pairing (P := P) hpe (hr cs).same call
    rw [entry_out] at ho
    subst hcall
    rw [ho] at hoc
    obtain ⟨hready, hrole, hb, hc, probe, hprobed, hsocket, haddress⟩ := hoc.accepted
    obtain ⟨hprobedSocket, hprobedRemote, e', he', ha⟩ := (hr cs).probed probe hprobed
    rw [hpath, hmade.binding_eq] at hb
    rw [hmade.local_eq, hmade.authorization_eq] at ha
    refine ⟨hready, hrole, hb, hc, hsocket.trans hprobedSocket, haddress.trans hprobedRemote, ⟨e', he', ha⟩,
      fun own hown hsession hid => ?_⟩
    rw [hb.candidatePairId] at hid
    rw [← hsession, hinjective own hown _ hpair pairId hid hmade.identified, hmade.sameSession]
    rfl
  · obtain ⟨before, _, _, he'⟩ := mem_trace _ he
    rw [he'] at hends ⊢
    rw [selectedPath?_eq_none]
    exact (spent_of_ends (hr before).same (outcome_of_pairing hpe (hr before).same _) hends).probedSocket
  · refine pairwise_trace (transportStep A P) (I := fun t' => t'.pairing = t.pairing)
      (fun t' call _ hsame => ?_) (fun t' call cs _ hsame _ e he hends => ?_) calls rfl fun _ _ => trivial
    · exact (outcome_of_pairing hpe hsame call).keeps_pairing.trans hsame
    · have hst (t') (hspent : Spent t t') (call) := hspent.step (outcome_of_pairing (P := P) hpe hspent.same call)
      exact (forall_trace (transportStep A P) (fun _ call hspent => (hst _ hspent call).1)
        (fun _ call hspent => (hst _ hspent call).2)
        (spent_of_ends hsame (outcome_of_pairing hpe hsame call) hends)) e he

/-! ### A transport -/

namespace P2pSample

/-- A hash and a MAC that can be computed; nothing else is called. -/
def primitives : Primitives where
  sha256 bytes := .ofNat 32 (bytes.foldl (fun hash byte => (hash * 257 + byte.toNat + 1) % 2 ^ 256) 0)
  hmacSha256 _ _ := some (.ofNat 32 5)
  hkdfExpand _ _ _ _ := none
  aeadEncrypt _ _ _ _ := none
  aeadDecrypt _ _ _ _ := none
  ed25519Key _ := false
  ed25519Verify _ _ _ := false
  x25519Public secret := secret
  x25519 secret _ := secret

def controlledAddress : SocketAddr := .v4 0x0a000001 50000

def controllerAddress : SocketAddr := .v4 0x0a000002 50000

def addresses : AddressText where
  parse text := if text = "10.0.0.1:50000" then some controlledAddress
    else if text = "10.0.0.2:50000" then some controllerAddress else none
  text address := if address = controlledAddress then "10.0.0.1:50000" else "10.0.0.2:50000"

def network : LocalNetwork := ⟨.v4 0x0a000001, 24, by decide⟩

def candidate (deviceId : String) (role : SessionRole) (endpoint : String) : ConnectionCandidateDto :=
  let unnamed : ConnectionCandidateDto :=
    { candidateId := 0, sessionId := 1, deviceId, role, kind := .lanDirect, endpoint, source := .localInterface
      observeResultId := none, priority := 1, rttMs := none, lossPpm := none, jitterMs := none, relayNodeId := none }
  match candidateId primitives unnamed with
  | .ok candidateId => { unnamed with candidateId }
  | .error _ => unnamed

def localCandidate : ConnectionCandidateDto := candidate "controlled" .controlled "10.0.0.1:50000"

def remoteCandidate : ConnectionCandidateDto := candidate "controller" .controller "10.0.0.2:50000"

def authorization (candidate : ConnectionCandidateDto) : CandidateAuthorization :=
  match candidateTokenBindingHash primitives candidate 10000 with
  | .ok bindingHash => ⟨[1, 2, 3], bindingHash, 10000⟩
  | .error _ => ⟨[], .ofNat 32 0, 0⟩

def transport : Except ControlledP2pTransportError ControlledP2pTransport :=
  ControlledP2pTransport.new addresses primitives ⟨some controlledAddress⟩ localCandidate
    (authorization localCandidate) remoteCandidate
    (authorization remoteCandidate) [network] SecureSession.Sample.digest 5000

def probe : Bytes :=
  let bindingHash := (authorization localCandidate).candidateTokenBindingHash
  match encodeProbePacket ⟨1, localCandidate.candidateId, .controller, [1, 2, 3], bindingHash, .ofNat 32 7⟩ with
  | .ok bytes => bytes
  | .error _ => []

def pairId : U128 :=
  match (pairOf localCandidate remoteCandidate).id primitives with
  | .ok id => id
  | .error _ => 0

/-- A session of the controlled side with the pair's binding, confirmed by both sides. -/
def session (sessionId : U128) : SecureSession :=
  match SecureSession.new sessionId .controlled SecureSession.Sample.permissions SecureSession.Sample.digest .lanDirect
    pairId none SecureSession.Sample.transcriptHash SecureSession.Sample.keys with
  | .error _ => SecureSession.Sample.sides .controlled
  | .ok created => final (SecureSession.step primitives) created
    [.createLocalKeyConfirm "controlled" 5000,
     .verifyPeerKeyConfirm ⟨sessionId, "controller", .controller, SecureSession.Sample.transcriptHash,
       .ofNat 32 5, 5000⟩
       "controller" 5000]

def handshake (sessionId : U128) : ByteArr 24 := .ofNat 24 (0x5254483100010100 * 2 ^ 128 + sessionId.toNat)

/-- The probe arrives, and a connection from the same address for a session. -/
def calls (sessionId : U128) : List TransportCall :=
  [.acceptProbe 5000 (.datagram probe controllerAddress .sent) 3,
   .acceptSecureChannel (session sessionId) (.connected controllerAddress (handshake sessionId))]

def acceptedSession : TransportAnswer → Option U128
  | .channel (some (.ok channel)) => some channel.sessionId
  | _ => none

def acceptedSessions (calls : List TransportCall) : Except ControlledP2pTransportError (List (Option U128)) := do
  let t ← transport
  return (trace (transportStep addresses primitives) t calls).map fun e => acceptedSession e.out

end P2pSample

theorem controlled_p2p_path_binding_sample : ∃ t, P2pSample.transport = .ok t ∧
    P2pSample.acceptedSessions (P2pSample.calls 1) = .ok [none, some 1] ∧
    (trace (transportStep P2pSample.addresses P2pSample.primitives) t (P2pSample.calls 1)).countP probes ≤ 1 := by
  have hs : P2pSample.acceptedSessions (P2pSample.calls 1) = .ok [none, some 1] := by decide +kernel
  obtain ⟨t, ht, -⟩ := bind_eq_ok.mp hs
  have hinj : InjectiveOn P2pSample.primitives {pairOf P2pSample.localCandidate P2pSample.remoteCandidate} := by
    rintro _ rfl _ rfl _ _ _
    rfl
  obtain ⟨_, _, -, -, -, hprobes, -⟩ := controlled_p2p_path_binding P2pSample.addresses P2pSample.primitives _ hinj
    _ _ _ _ _ _ _ _ t ht rfl (P2pSample.calls 1)
  exact ⟨t, ht, hs, hprobes⟩

/-- **A session of another identifier is accepted.** It was made with the pair identifier of the
candidates; nothing compares its session identifier with theirs. -/
theorem foreign_session_accepted :
    P2pSample.localCandidate.sessionId = 1 ∧ (P2pSample.session 2).sessionId = 2 ∧
      (P2pSample.session 2).state = .ready ∧ P2pSample.acceptedSessions (P2pSample.calls 2) = .ok [none, some 2] := by
  decide +kernel

end Rctl.Desktop
