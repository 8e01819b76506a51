/-
# The candidates of the iOS controller

`RemoteControllerKit/Session/SignalSessionRouting.swift` with `ProtocolCanonicalEncoder` of
`Security/CanonicalEncoding.swift`: a candidate's identifier is the hash prefix of its canonical
bytes in lower case hexadecimal, its authorization is bound to a hash of the same kind, and the
identifier of a pair of candidates is the hash prefix over both. A candidate of the controlled
device comes in an envelope with the certificate and the server name of its transport.

Roles, paths and sources have the raw values of the protocol's `as_str`. A `UUID` is its 16 bytes.
JSON and Base64 are functions (`EnvelopeJson`). Strings are equal if their characters are; `==` of
Swift also holds of two that are canonically equivalent.
-/
import Rctl.Transport.Binding

namespace Rctl.Ios

open ByteString Result

/-- `SignalSessionContractError`, and what `ProtocolCanonicalEncoder` throws. -/
inductive CandidateError
  | invalidEnvelope
  | invalidCandidate
  | invalidAuthorization
  | invalidTransportIdentity
  | invalidCandidatePair
  | fieldTooLarge
  deriving DecidableEq, Repr

/-! ### Canonical bytes -/

namespace ProtocolCanonicalEncoder

def append (output : Bytes) (name : String) (value : Bytes) : Except CandidateError Bytes :=
  if 2 ^ 32 ≤ (utf8 name).length ∨ 2 ^ 32 ≤ value.length then .error .fieldTooLarge
  else .ok (output ++ toBeBytes 4 (utf8 name).length ++ utf8 name ++ toBeBytes 4 value.length ++ value)

/-- An absent value is written as the empty one. -/
def encode (domain : String) (fields : List (String × Option Bytes)) : Except CandidateError Bytes := do
  let output ← append [] "domain" (utf8 domain)
  fields.foldlM (fun output field => append output field.1 (field.2.getD [])) output

def uuid (value : U128) : Bytes := toBeBytes 16 value.toNat

def integer (value : UInt64) : Bytes := toBeBytes 8 value.toNat

end ProtocolCanonicalEncoder

open ProtocolCanonicalEncoder

def lowercaseHexDigit (n : UInt8) : Char := "0123456789abcdef".toList.getD n.toNat '0'

def lowercaseHexString (bytes : Bytes) : String :=
  String.ofList (bytes.flatMap fun b : UInt8 => [lowercaseHexDigit (b >>> 4), lowercaseHexDigit (b &&& 15)])

def isLowerHex128 (value : String) : Bool :=
  (utf8 value).length == 32 && (utf8 value).all fun b => (48 ≤ b && b ≤ 57) || (97 ≤ b && b ≤ 102)

/-- The value of a lower case hexadecimal digit. -/
def hexValue (b : UInt8) : UInt8 := if b ≤ 57 then b - 48 else b - 87

def hexPairs : Bytes → Bytes
  | high :: low :: rest => (hexValue high * 16 + hexValue low) :: hexPairs rest
  | _ => []

def lowerHex128 (value : String) : Option Bytes :=
  if isLowerHex128 value then some (hexPairs (utf8 value)) else none

/-! ### Candidates -/

structure SignalConnectionCandidate where
  candidateID : String
  sessionID : U128
  deviceID : String
  role : SessionRole
  kind : TransportPath
  endpoint : String
  source : CandidateSource
  observeResultID : Option String
  priority : UInt32
  rttMillis : Option UInt32
  lossPPM : Option UInt32
  jitterMillis : Option UInt32
  relayNodeID : Option String
  deriving DecidableEq

structure SignalCandidateAuthorization where
  candidateToken : Bytes
  candidateTokenBindingHash : Bytes
  expiresAtEpochMillis : UInt64
  deriving DecidableEq

structure ControlledSignalCandidate where
  candidate : SignalConnectionCandidate
  authorization : SignalCandidateAuthorization
  transportCertificateDER : Bytes
  serverName : String
  deriving DecidableEq

structure SessionDescriptor where
  sessionID : U128
  accountID : String
  controllerDeviceID : String
  controlledDeviceID : String
  controlledDeviceName : String
  permissions : SessionPermissions
  permissionsDigest : Bytes
  expiresAtEpochMillis : UInt64
  deriving DecidableEq

section Candidates

variable (P : Primitives)

def SignalConnectionCandidate.computedCandidateID (c : SignalConnectionCandidate) : Except CandidateError String := do
  let canonical ← encode "rctl-candidate-id-v1"
    [("session_id", some (uuid c.sessionID)),
     ("device_id", some (utf8 c.deviceID)),
     ("role", some (utf8 c.role.asStr)),
     ("kind", some (utf8 c.kind.asStr)),
     ("endpoint", some (utf8 c.endpoint)),
     ("source", some (utf8 c.source.asStr)),
     ("relay_node_id", c.relayNodeID.map utf8)]
  return lowercaseHexString ((P.sha256 canonical).toList.take 16)

def SignalConnectionCandidate.validated (c : SignalConnectionCandidate) (sessionID : U128) (deviceID : String)
    (role : SessionRole) : Except CandidateError SignalConnectionCandidate := do
  let isRelay := c.kind == .quicRelay || c.kind == .tls443Relay
  let sourceMatchesPath := (c.kind == .lanDirect && c.source == .localInterface) ||
    (c.kind == .udpP2p && c.source == .udpObserved) || (isRelay && c.source == .relayAllocated)
  ensure (c.sessionID = sessionID && c.deviceID = deviceID && c.role = role && c.endpoint ≠ "" && sourceMatchesPath &&
    isRelay == c.relayNodeID.isSome && (c.source == .udpObserved) == c.observeResultID.isSome &&
    isLowerHex128 c.candidateID) .invalidCandidate
  let computed ← c.computedCandidateID P
  ensure (c.candidateID = computed) .invalidCandidate
  return c

namespace SignalCandidateAuthorization

def bindingHash (candidate : SignalConnectionCandidate) (expiresAtEpochMillis : UInt64) :
    Except CandidateError Bytes := do
  let candidateID ← okOr (lowerHex128 candidate.candidateID) .invalidAuthorization
  let canonical ← encode "rctl-candidate-token-binding-v1"
    [("session_id", some (uuid candidate.sessionID)),
     ("device_id", some (utf8 candidate.deviceID)),
     ("role", some (utf8 candidate.role.asStr)),
     ("candidate_id", some candidateID),
     ("kind", some (utf8 candidate.kind.asStr)),
     ("endpoint", some (utf8 candidate.endpoint)),
     ("source", some (utf8 candidate.source.asStr)),
     ("observe_result_id", candidate.observeResultID.map utf8),
     ("expires_at_epoch_millis", some (integer expiresAtEpochMillis))]
  return (P.sha256 canonical).toList

def validate (a : SignalCandidateAuthorization) (candidate : SignalConnectionCandidate) (nowEpochMillis : UInt64) :
    Except CandidateError Unit := do
  ensure (a.candidateToken ≠ [] && a.candidateTokenBindingHash.length = 32 &&
    nowEpochMillis < a.expiresAtEpochMillis && a.expiresAtEpochMillis - nowEpochMillis ≤ 60000) .invalidAuthorization
  let expected ← bindingHash P candidate a.expiresAtEpochMillis
  ensure (expected = a.candidateTokenBindingHash) .invalidAuthorization

end SignalCandidateAuthorization

/-! ### The envelope of a candidate -/

structure ControlledWire where
  candidate : SignalConnectionCandidate
  authorization : SignalCandidateAuthorization
  transportCertificateDER : String
  serverName : String

structure EnvelopeJson where
  /-- An object with the four members of `ControlledWire` and no other. -/
  controlledWire : Bytes → Option ControlledWire
  /-- `Data(base64URLEncoded:)`. -/
  base64URL : String → Option Bytes

def isValidServerName (value : String) : Bool :=
  (utf8 value).length ≤ 253 && (utf8 "rctl-").isPrefixOf (utf8 value) && (utf8 ".invalid").isSuffixOf (utf8 value) &&
    (utf8 value).all fun b => (97 ≤ b && b ≤ 122) || (48 ≤ b && b ≤ 57) || b == 45 || b == 46

def decodeControlled (J : EnvelopeJson) (data : Bytes) (descriptor : SessionDescriptor) (nowEpochMillis : UInt64) :
    Except CandidateError ControlledSignalCandidate := do
  let wire ← okOr (J.controlledWire data) .invalidEnvelope
  let candidate ← wire.candidate.validated P descriptor.sessionID descriptor.controlledDeviceID .controlled
  wire.authorization.validate P candidate nowEpochMillis
  let certificate ← okOr (J.base64URL wire.transportCertificateDER) .invalidTransportIdentity
  ensure (certificate ≠ [] && certificate.length ≤ 16 * 1024 && isValidServerName wire.serverName)
    .invalidTransportIdentity
  return ⟨candidate, wire.authorization, certificate, wire.serverName⟩

def candidatePairID (sessionID : U128) (controllerCandidateID controlledCandidateID : String)
    (selectedTransportPath : TransportPath) (relayNodeID : Option String) : Except CandidateError String := do
  let isRelay := selectedTransportPath == .quicRelay || selectedTransportPath == .tls443Relay
  ensure (isRelay == relayNodeID.isSome) .invalidCandidatePair
  let controllerID ← okOr (lowerHex128 controllerCandidateID) .invalidCandidatePair
  let controlledID ← okOr (lowerHex128 controlledCandidateID) .invalidCandidatePair
  let canonical ← encode "rctl-candidate-pair-id-v1"
    [("session_id", some (uuid sessionID)),
     ("controller_candidate_id", some controllerID),
     ("controlled_candidate_id", some controlledID),
     ("selected_transport_path", some (utf8 selectedTransportPath.asStr)),
     ("relay_node_id", relayNodeID.map utf8)]
  return lowercaseHexString ((P.sha256 canonical).toList.take 16)

end Candidates

end Rctl.Ios
