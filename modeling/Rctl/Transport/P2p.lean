/-
# Probes, races and sockets of a direct path

`remote-transport/src/p2p.rs` with what it uses of `candidates.rs`, `racing.rs` and `quic.rs`: the
controlled side waits on its UDP socket for a probe of the remote candidate's endpoint that carries
its own candidate's token, echoes it, and later accepts a QUIC connection on the same socket from the
same address. A race keeps the state of each attempted path.

What the network does is an argument of each call: the datagram that arrives, the connection that is
made, or a failure. A call is an `async` function, and its future may be dropped while it waits; it
then returns nothing (`none`). Addresses are read and written by `std` (`AddressText`).
-/
import Rctl.Transport.Binding
import Rctl.Transport.Frames

namespace Rctl

open ByteString Result

/-! ### Addresses -/

inductive IpAddr
  | v4 (bits : BitVec 32)
  | v6 (bits : BitVec 128)
  deriving DecidableEq, Repr

inductive SocketAddr
  | v4 (bits : BitVec 32) (port : UInt16)
  | v6 (bits : BitVec 128) (port : UInt16) (flowinfo scopeId : UInt32)
  deriving DecidableEq, Repr

def SocketAddr.ip : SocketAddr → IpAddr
  | v4 bits _ => .v4 bits
  | v6 bits _ _ _ => .v6 bits

def SocketAddr.port : SocketAddr → UInt16
  | v4 _ port => port
  | v6 _ port _ _ => port

/-- `FromStr` and `Display` of an address. -/
structure AddressText where
  parse : String → Option SocketAddr
  text : SocketAddr → String

/-- The network of `bits` and its first `len` bits. -/
def inNetwork {w : ℕ} (bits network : BitVec w) (len : ℕ) : Bool := bits >>> (w - len) == network >>> (w - len)

def isPrivateLanUnicast : IpAddr → Bool
  | .v4 bits =>
    -- `is_private`
    (inNetwork bits 0x0a000000#32 8 || inNetwork bits 0xac100000#32 12 || inNetwork bits 0xc0a80000#32 16) &&
    -- `is_loopback`, `is_link_local`, `is_broadcast`
    !inNetwork bits 0x7f000000#32 8 && !inNetwork bits 0xa9fe0000#32 16 && bits != 0xffffffff#32 &&
    -- `is_documentation`
    !(inNetwork bits 0xc0000200#32 24 || inNetwork bits 0xc6336400#32 24 || inNetwork bits 0xcb007100#32 24) &&
    bits.toNat % 256 != 0 && bits.toNat % 256 != 255
  | .v6 bits =>
    -- `is_unique_local` and `is_multicast`
    inNetwork bits (0xfc#128 <<< 120) 7 && !inNetwork bits (0xff#128 <<< 120) 8

/-- A network as `LocalNetwork::new` lets it be made. -/
structure LocalNetwork where
  address : IpAddr
  prefixLen : UInt8
  valid : isPrivateLanUnicast address = true ∧ prefixLen ≤ match address with
    | .v4 _ => 32
    | .v6 _ => 128

def LocalNetwork.contains (network : LocalNetwork) (address : IpAddr) : Bool :=
  match network.address, address with
  | .v4 localBits, .v4 remoteBits => inNetwork remoteBits localBits network.prefixLen.toNat
  | .v6 localBits, .v6 remoteBits => inNetwork remoteBits localBits network.prefixLen.toNat
  | _, _ => false

def LAN_EPHEMERAL_PORT_MIN : UInt16 := 49152

variable {candidate : ConnectionCandidateDto} {localNetworks : List LocalNetwork}

section Scope

variable (A : AddressText)

def validateLanEndpoint (endpoint : String) : Except BindingError SocketAddr := do
  let endpoint ← okOr (A.parse endpoint) .invalidEndpoint
  ensure (LAN_EPHEMERAL_PORT_MIN ≤ endpoint.port) .lanPortForbidden
  ensure (isPrivateLanUnicast endpoint.ip) .lanAddressForbidden
  return endpoint

def validateLanProbeScope (endpoint : String) (localNetworks : List LocalNetwork) :
    Except BindingError SocketAddr := do
  let endpoint ← validateLanEndpoint A endpoint
  ensure (localNetworks.any (·.contains endpoint.ip)) .lanNotRoutable
  return endpoint

def p2pRemoteEndpoint (candidate : ConnectionCandidateDto) (localNetworks : List LocalNetwork) :
    Except BindingError SocketAddr :=
  match candidate.kind with
  | .lanDirect => validateLanProbeScope A candidate.endpoint localNetworks
  | .udpP2p => okOr (A.parse candidate.endpoint) .invalidEndpoint
  | _ => .error .invalidCandidateKindSource

theorem p2pRemoteEndpoint_eq_ok {remote : SocketAddr} (h : p2pRemoteEndpoint A candidate localNetworks = .ok remote) :
    A.parse candidate.endpoint = some remote := by
  unfold p2pRemoteEndpoint at h
  split at h
  · simp only [validateLanProbeScope, validateLanEndpoint, bind_eq_ok, okOr_eq_ok, pure_eq_ok] at h
    obtain ⟨_, ⟨_, hp, _, -, _, -, rfl⟩, _, -, rfl⟩ := h
    exact hp
  · exact okOr_eq_ok.mp h
  · cases h

end Scope

/-! ### Authorizations -/

structure EphemeralCandidateAuthorization where
  sessionId : U128
  deviceId : String
  role : SessionRole
  candidateId : U128
  token : Bytes
  bindingHash : Digest
  expiresAtEpochMillis : UInt64
  deriving DecidableEq

variable {probed : ProbedP2pSocket}

section Probe

variable (P : Primitives) {authorization : EphemeralCandidateAuthorization}

def validateEphemeralCandidateAuthorization (candidate : ConnectionCandidateDto)
    (authorization : EphemeralCandidateAuthorization) (nowEpochMillis : UInt64) : Except BindingError Unit := do
  ensure (authorization.sessionId = candidate.sessionId && authorization.deviceId = candidate.deviceId &&
    authorization.role = candidate.role && authorization.candidateId = candidate.candidateId) .deviceMismatch
  ensure (nowEpochMillis ≤ authorization.expiresAtEpochMillis) .tokenExpired
  ensure (authorization.expiresAtEpochMillis - nowEpochMillis ≤ CANDIDATE_TOKEN_MAX_TTL_MILLIS) .tokenTtlExceeded
  ensure (authorization.token ≠ []) .tokenMismatch
  let expected ← candidateTokenBindingHash P candidate authorization.expiresAtEpochMillis
  ensure (expected = authorization.bindingHash) .tokenBindingMismatch

structure CandidateTokenIssued where
  sessionId : U128
  deviceId : String
  role : SessionRole
  candidateId : U128
  candidateToken : Bytes
  candidateTokenBindingHash : Digest
  expiresAtEpochMillis : UInt64
  deriving DecidableEq

def EphemeralCandidateAuthorization.fromIssued (candidate : ConnectionCandidateDto) (issued : CandidateTokenIssued)
    (nowEpochMillis : UInt64) : Except BindingError EphemeralCandidateAuthorization := do
  ensure (issued.sessionId = candidate.sessionId && issued.deviceId = candidate.deviceId &&
    issued.role = candidate.role && issued.candidateId = candidate.candidateId) .deviceMismatch
  let authorization := ⟨issued.sessionId, issued.deviceId, issued.role, issued.candidateId, issued.candidateToken,
    issued.candidateTokenBindingHash, issued.expiresAtEpochMillis⟩
  validateEphemeralCandidateAuthorization P candidate authorization nowEpochMillis
  return authorization

/-! ### Probes -/

structure P2pProbePacket where
  sessionId : U128
  candidateId : U128
  role : SessionRole
  token : Bytes
  bindingHash : Digest
  probeNonce : Digest
  deriving DecidableEq

def PROBE_MAGIC : Bytes := utf8 "RCP1"
def MAX_PROBE_PACKET_BYTES : ℕ := 2304
def MAX_PROBE_TOKEN_BYTES : ℕ := 2048

def roleCode : SessionRole → UInt8
  | .controller => 1
  | .controlled => 2

def encodeProbePacket (packet : P2pProbePacket) : Except BindingError Bytes := do
  ensure (packet.token ≠ [] && packet.token.length ≤ MAX_PROBE_TOKEN_BYTES) .probeMalformed
  return PROBE_MAGIC ++ toBeBytes 16 packet.sessionId.toNat ++ toBeBytes 16 packet.candidateId.toNat ++
    [roleCode packet.role] ++ toBeBytes 2 packet.token.length ++ packet.token ++ packet.bindingHash.toList ++
    packet.probeNonce.toList

/-- `take_array`, on the bytes behind the offset. -/
def takeArray (n : ℕ) (bytes : Bytes) : Except BindingError (ByteArr n × Bytes) :=
  if h : n ≤ bytes.length then .ok (⟨(bytes.take n).toArray, by simp [h]⟩, bytes.drop n) else .error .probeMalformed

def decodeProbePacket (bytes : Bytes) : Except BindingError P2pProbePacket := do
  ensure (bytes.length ≤ MAX_PROBE_PACKET_BYTES && bytes.take 4 = PROBE_MAGIC) .probeMalformed
  let (sessionId, bytes) ← takeArray 16 (bytes.drop 4)
  let (candidateId, bytes) ← takeArray 16 bytes
  let (code, bytes) ← takeArray 1 bytes
  let role ← match code.toList with
    | [1] => .ok SessionRole.controller
    | [2] => .ok SessionRole.controlled
    | _ => .error .probeMalformed
  let (tokenLen, bytes) ← takeArray 2 bytes
  let tokenLen := fromBeBytes tokenLen.toList
  ensure (tokenLen ≠ 0 && tokenLen ≤ MAX_PROBE_TOKEN_BYTES) .probeMalformed
  let (token, bytes) ← takeArray tokenLen bytes
  let (bindingHash, bytes) ← takeArray 32 bytes
  let (probeNonce, bytes) ← takeArray 32 bytes
  ensure (bytes = [] && probeNonce ≠ ByteArr.ofNat 32 0) .probeMalformed
  return { sessionId := BitVec.ofNat 128 (fromBeBytes sessionId.toList)
           candidateId := BitVec.ofNat 128 (fromBeBytes candidateId.toList)
           role, token := token.toList, bindingHash, probeNonce }

abbrev ProbeKey := U128 × U128 × SessionRole × Digest

/-- The probes that were seen, with the time each is kept until. -/
structure P2pProbeReplayGuard where
  seen : List (ProbeKey × UInt64)

def P2pProbeReplayGuard.default : P2pProbeReplayGuard := ⟨[]⟩

/-- A probe may be that of the other role for this candidate, with its token. -/
def checkProbe (candidate : ConnectionCandidateDto) (authorization : EphemeralCandidateAuthorization)
    (packet : P2pProbePacket) (nowEpochMillis : UInt64) : Except BindingError Unit := do
  validateEphemeralCandidateAuthorization P candidate authorization nowEpochMillis
  ensure (packet.sessionId = candidate.sessionId && packet.candidateId = candidate.candidateId &&
    packet.role ≠ candidate.role) .probeRoleMismatch
  ensure (packet.token = authorization.token) .tokenMismatch
  ensure (packet.bindingHash = authorization.bindingHash) .tokenBindingMismatch

def P2pProbeReplayGuard.validate (guard : P2pProbeReplayGuard) (candidate : ConnectionCandidateDto)
    (authorization : EphemeralCandidateAuthorization) (packet : P2pProbePacket) (nowEpochMillis : UInt64) :
    Except BindingError Unit × P2pProbeReplayGuard :=
  match checkProbe P candidate authorization packet nowEpochMillis with
  | .error e => (.error e, guard)
  | .ok () =>
    let seen := guard.seen.filter (nowEpochMillis ≤ ·.2)
    let key := (packet.sessionId, packet.candidateId, packet.role, packet.probeNonce)
    (ensure (!seen.any (·.1 = key)) .probeReplay,
      ⟨(key, authorization.expiresAtEpochMillis) :: seen.filter (·.1 ≠ key)⟩)

/-! ### The socket -/

structure UdpSocket where
  localAddr : Option SocketAddr
  deriving DecidableEq

inductive TransportKind
  | lanDirect
  | udpP2p
  | quicRelay
  | tls443Relay
  deriving DecidableEq, Repr

def TransportKind.priority : TransportKind → UInt8
  | lanDirect => 0
  | udpP2p => 1
  | quicRelay => 2
  | tls443Relay => 3

def transportKind : TransportPath → Except BindingError TransportKind
  | .lanDirect => .ok .lanDirect
  | .udpP2p => .ok .udpP2p
  | .quicRelay => .ok .quicRelay
  | .tls443Relay => .ok .tls443Relay

structure ProbedP2pSocket where
  socket : UdpSocket
  remote : SocketAddr
  path : TransportKind
  deriving DecidableEq

inductive ProbeEcho
  | sent
  | failed
  | dropped
  deriving DecidableEq

/-- What the socket receives while a probe is awaited. -/
inductive ProbeEvent
  | datagram (bytes : Bytes) (peer : SocketAddr) (echo : ProbeEcho)
  | failed
  | timeout
  | dropped
  deriving DecidableEq

/-- The buffer has room for one byte more than a probe may have. -/
def acceptAuthorizedProbe (A : AddressText) (socket : UdpSocket) (expectedPeer : SocketAddr)
    (localCandidate : ConnectionCandidateDto) (authorization : EphemeralCandidateAuthorization)
    (localNetworks : List LocalNetwork) (replayGuard : P2pProbeReplayGuard) (nowEpochMillis : UInt64)
    (event : ProbeEvent) : Option (Except BindingError ProbedP2pSocket) × P2pProbeReplayGuard :=
  match (do
    validateEphemeralCandidateAuthorization P localCandidate authorization nowEpochMillis
    if localCandidate.kind = TransportPath.lanDirect then
      let _ ← validateLanProbeScope A (A.text expectedPeer) localNetworks) with
  | .error e => (some (.error e), replayGuard)
  | .ok () =>
    match event with
    | .dropped => (none, replayGuard)
    | .timeout => (some (.error .invalidState), replayGuard)
    | .failed => (some (.error .invalidEndpoint), replayGuard)
    | .datagram bytes peer echo =>
      let encoded := bytes.take (MAX_PROBE_PACKET_BYTES + 1)
      match (do
        ensure (peer = expectedPeer && encoded.length ≤ MAX_PROBE_PACKET_BYTES) BindingError.probeMalformed
        decodeProbePacket encoded) with
      | .error e => (some (.error e), replayGuard)
      | .ok packet =>
        match replayGuard.validate P localCandidate authorization packet nowEpochMillis with
        | (.error e, replayGuard) => (some (.error e), replayGuard)
        | (.ok (), replayGuard) =>
          match echo with
          | .dropped => (none, replayGuard)
          | .failed => (some (.error .invalidEndpoint), replayGuard)
          | .sent => (some ((transportKind localCandidate.kind).map fun path => ⟨socket, peer, path⟩), replayGuard)

/-- The datagram is a probe of the candidate that may be accepted at `now`. -/
structure AuthorizedProbe (localCandidate : ConnectionCandidateDto) (authorization : EphemeralCandidateAuthorization)
    (now : UInt64) (bytes : Bytes) (packet : P2pProbePacket) : Prop where
  decoded : decodeProbePacket bytes = .ok packet
  authorized : validateEphemeralCandidateAuthorization P localCandidate authorization now = .ok ()
  sessionId : packet.sessionId = localCandidate.sessionId
  candidateId : packet.candidateId = localCandidate.candidateId
  role : packet.role = localCandidate.role.opposite
  token : packet.token = authorization.token
  bindingHash : packet.bindingHash = authorization.bindingHash

theorem eq_opposite_of_ne {role other : SessionRole} (h : other ≠ role) : other = role.opposite := by
  cases role <;> cases other <;> first | rfl | exact absurd rfl h

theorem validate_eq_ok {guard : P2pProbeReplayGuard} {packet : P2pProbePacket} {now : UInt64} {bs : Bytes}
    (hd : decodeProbePacket bs = .ok packet)
    (h : (guard.validate P candidate authorization packet now).1 = .ok ()) :
    AuthorizedProbe P candidate authorization now bs packet := by
  unfold P2pProbeReplayGuard.validate at h
  split at h
  · cases h
  · rename_i hc
    simp only [checkProbe, bind_eq_ok, ensure_eq_ok, Bool.and_eq_true, decide_eq_true_eq] at hc
    obtain ⟨_, haz, _, ⟨⟨hs, hcandidate⟩, hr⟩, _, htok, hbi⟩ := hc
    exact ⟨hd, haz, hs, hcandidate, eq_opposite_of_ne hr, htok, hbi⟩

/-- **A probe that is accepted is authorized and comes from the expected peer.** -/
theorem acceptAuthorizedProbe_eq_ok {A : AddressText} {socket : UdpSocket} {expectedPeer : SocketAddr}
    {localCandidate : ConnectionCandidateDto} {replayGuard : P2pProbeReplayGuard} {now : UInt64} {ev : ProbeEvent}
    (h : (acceptAuthorizedProbe P A socket expectedPeer localCandidate authorization localNetworks replayGuard now
      ev).1 = some (.ok probed)) :
    probed.socket = socket ∧ probed.remote = expectedPeer ∧ transportKind localCandidate.kind = .ok probed.path ∧
      ∃ bytes packet, ev = .datagram bytes expectedPeer .sent ∧
        AuthorizedProbe P localCandidate authorization now bytes packet := by
  unfold acceptAuthorizedProbe at h
  split at h
  · cases h
  · rename_i hs
    split at h
    · cases h
    · cases h
    · cases h
    · rename_i bytes peer echo
      simp only at h
      split at h
      · cases h
      · rename_i packet hd
        simp only [bind_eq_ok, ensure_eq_ok, Bool.and_eq_true, decide_eq_true_eq] at hd
        obtain ⟨_, ⟨rfl, hl⟩, hd⟩ := hd
        split at h
        · cases h
        · rename_i hv
          split at h
          · cases h
          · cases h
          · simp only [Option.some.injEq, map_eq_ok] at h
            obtain ⟨path, hp, rfl⟩ := h
            have hby : bytes.take (MAX_PROBE_PACKET_BYTES + 1) = bytes := by
              rw [List.length_take] at hl
              exact List.take_of_length_le (by omega)
            rw [hby] at hd
            exact ⟨rfl, rfl, hp, bytes, packet, rfl, validate_eq_ok P hd (by rw [hv])⟩

end Probe

/-! ### The connection -/

structure RoleHandshake where
  sessionId : U128
  role : SessionRole
  deriving DecidableEq

def RoleHandshake.expectedPeerRole (handshake : RoleHandshake) : SessionRole :=
  match handshake.role with
  | .controller => .controlled
  | .controlled => .controller

def ROLE_HANDSHAKE_MAGIC : Bytes := utf8 "RTH1"

def decodeRoleHandshake (bytes : ByteArr 24) : Except DataChannelError RoleHandshake := do
  let bytes := bytes.toList
  ensure (bytes.take 4 = ROLE_HANDSHAKE_MAGIC && (bytes.drop 4).take 2 = toBeBytes 2 1 && bytes.getD 7 0 = 0)
    ⟨.protocol, "decode_role_handshake"⟩
  let role ← match bytes.getD 6 0 with
    | 1 => .ok SessionRole.controller
    | 2 => .ok SessionRole.controlled
    | _ => .error ⟨.protocol, "decode_role_handshake"⟩
  return ⟨BitVec.ofNat 128 (fromBeBytes (bytes.drop 8)), role⟩

def validatePeerHandshake (handshake peer : RoleHandshake) : Except DataChannelError Unit :=
  ensure (peer.sessionId = handshake.sessionId && peer.role = handshake.expectedPeerRole)
    ⟨.authentication, "validate_peer_role"⟩

structure QuicDataChannel where
  socket : UdpSocket
  remoteAddress : SocketAddr
  path : TransportKind
  handshake : RoleHandshake
  deriving DecidableEq

/-- What the endpoint on the socket answers: a connection whose streams are all opened, with the role
handshake that the peer has sent on its first stream, or the failure of a step. -/
inductive QuicEvent
  | connected (remoteAddress : SocketAddr) (peer : ByteArr 24)
  | failed (error : DataChannelError)
  | dropped
  deriving DecidableEq

def supportsQuicDataPath : TransportKind → Bool
  | .lanDirect | .udpP2p | .quicRelay => true
  | .tls443Relay => false

/-- `accept_quic`, with `accept` of the endpoint on the socket. -/
def ProbedP2pSocket.acceptQuic (probed : ProbedP2pSocket) (handshake : RoleHandshake) (event : QuicEvent) :
    Option (Except DataChannelError QuicDataChannel) :=
  if handshake.role ≠ .controlled then some (.error ⟨.protocol, "verify_p2p_server_role"⟩)
  else match event with
    | .dropped => none
    | .failed error => some (.error error)
    | .connected remoteAddress peer => some do
      ensure (supportsQuicDataPath probed.path) ⟨.invalidConfiguration, "select_quic_path"⟩
      let peer ← decodeRoleHandshake peer
      validatePeerHandshake handshake peer
      ensure (remoteAddress = probed.remote) ⟨.authentication, "verify_probed_quic_peer"⟩
      return ⟨probed.socket, remoteAddress, probed.path, handshake⟩

/-- The channel is on the probed socket, to the probed address, with the local handshake. -/
theorem acceptQuic_eq_ok {handshake : RoleHandshake} {event : QuicEvent} {channel : QuicDataChannel}
    (h : probed.acceptQuic handshake event = some (.ok channel)) :
    handshake.role = .controlled ∧ channel = ⟨probed.socket, probed.remote, probed.path, handshake⟩ := by
  unfold ProbedP2pSocket.acceptQuic at h
  split_ifs at h with hr
  · cases h
  · refine ⟨not_not.mp hr, ?_⟩
    cases event with
    | dropped | failed => cases h
    | connected =>
      simp only [Option.some.injEq, bind_eq_ok, ensure_eq_ok, decide_eq_true_eq, pure_eq_ok] at h
      obtain ⟨_, -, _, -, _, -, _, rfl, rfl⟩ := h
      rfl

/-! ### The race -/

structure ConnectionCandidate where
  kind : TransportKind
  endpoint : String
  rttMs : Option UInt32
  deriving DecidableEq

structure LinkMetrics where
  rttMs : UInt32
  lossPpm : UInt32
  jitterMs : UInt32
  deriving DecidableEq, Repr

structure RaceConfig where
  tls443StartDelayMillis : UInt64
  rttCloseThresholdMillis : UInt32
  deriving DecidableEq

def RaceConfig.default : RaceConfig := ⟨500, 10⟩

inductive RaceAttemptState
  | pending
  | started
  | succeeded (metrics : LinkMetrics)
  | failed
  deriving DecidableEq

structure RaceAttempt where
  attemptId : ℕ
  candidate : ConnectionCandidate
  deriving DecidableEq

structure RaceWinner where
  attemptId : ℕ
  candidate : ConnectionCandidate
  metrics : LinkMetrics
  deriving DecidableEq

structure AttemptEntry where
  candidate : ConnectionCandidate
  state : RaceAttemptState
  deriving DecidableEq

structure PathRace where
  config : RaceConfig
  startedAtEpochMillis : UInt64
  attempts : List AttemptEntry
  deriving DecidableEq

namespace PathRace

def new (candidates : List ConnectionCandidate) (startedAtEpochMillis : UInt64) (config : RaceConfig) : PathRace :=
  ⟨config, startedAtEpochMillis, candidates.map (⟨·, .pending⟩)⟩

def due (race : PathRace) (now : UInt64) (entry : AttemptEntry) : Bool :=
  let tlsDue := race.config.tls443StartDelayMillis.toNat ≤ now.toNat - race.startedAtEpochMillis.toNat
  entry.state = .pending && !(entry.candidate.kind = .tls443Relay && !tlsDue)

def takeDueAttempts (race : PathRace) (now : UInt64) : List RaceAttempt × PathRace :=
  (race.attempts.zipIdx.filterMap fun (entry, attemptId) =>
      if race.due now entry then some ⟨attemptId, entry.candidate⟩ else none,
    { race with attempts := race.attempts.map fun entry =>
        if race.due now entry then { entry with state := .started } else entry })

/-- A started attempt ends in `state`; no other does. The error is what the orchestrator makes of it. -/
def record (race : PathRace) (attemptId : ℕ) (state : RaceAttemptState) : Except BindingError Unit × PathRace :=
  match race.attempts[attemptId]? with
  | none => (.error .invalidState, race)
  | some entry =>
    if entry.state ≠ .started then (.error .invalidState, race)
    else (.ok (), { race with attempts := race.attempts.set attemptId { entry with state } })

def recordSuccess (race : PathRace) (attemptId : ℕ) (metrics : LinkMetrics) : Except BindingError Unit × PathRace :=
  race.record attemptId (.succeeded metrics)

def recordFailure (race : PathRace) (attemptId : ℕ) : Except BindingError Unit × PathRace :=
  race.record attemptId .failed

def compareSamePathMetrics (left right : LinkMetrics) (config : RaceConfig) : Ordering :=
  let absDiff := if left.rttMs < right.rttMs then right.rttMs - left.rttMs else left.rttMs - right.rttMs
  if absDiff ≤ config.rttCloseThresholdMillis then
    (compare left.lossPpm right.lossPpm).then
      ((compare left.jitterMs right.jitterMs).then (compare left.rttMs right.rttMs))
  else compare left.rttMs right.rttMs

def compareWinners (left right : RaceWinner) (config : RaceConfig) : Ordering :=
  (compare left.candidate.kind.priority right.candidate.kind.priority).then
    ((compareSamePathMetrics left.metrics right.metrics config).then (compare left.attemptId right.attemptId))

/-- `min_by`: of equal elements the first. -/
def bestSuccess (race : PathRace) : Option RaceWinner :=
  let winners := race.attempts.zipIdx.filterMap fun (entry, attemptId) =>
    match entry.state with
    | .succeeded metrics => some (⟨attemptId, entry.candidate, metrics⟩ : RaceWinner)
    | _ => none
  winners.foldl (fun best winner => match best with
    | none => some winner
    | some best => if compareWinners best winner race.config = .gt then some winner else some best) none

end PathRace

end Rctl
