/-
# The signed hello of a signal connection

`signal-server/src/security.rs`, with the client's side of `desktop/src/signal.rs`: a client names the
protocol versions it supports in a header, the server hashes them in canonical form, and the client
signs a hello over the nonces of both sides, its account and device and that hash.

The server sorts the versions of the header and removes repetitions before it hashes them. What a
header is parsed to are the numbers of `str::parse::<u16>`, with leading zeros and a plus sign.
-/
import Mathlib.Data.List.Destutter
import Rctl.Api.Security
import Rctl.Protocol.Header

namespace Rctl.Signal

open ByteString Result
open Rctl.Api (trim)

def SUPPORTED_PROTOCOL_VERSIONS : List UInt16 := [PROTOCOL_VERSION]

inductive SecurityError
  | invalidProtocolHeader
  | unsupportedVersion
  | invalidHash
  deriving DecidableEq, Repr

structure ProtocolNegotiation where
  clientVersions : List UInt16
  clientMinVersion : UInt16
  selectedVersion : UInt16
  versionsHash : Digest
  deriving DecidableEq

/-! ### The versions of a header -/

/-- `str::parse::<u16>`. -/
def parseU16 (text : String) : Option UInt16 :=
  let digits := match text.toList with
    | '+' :: rest => rest
    | chars => chars
  if digits ≠ [] && digits.all Char.isDigit then
    let value := digits.foldl (fun value digit => 10 * value + (digit.toNat - 48)) 0
    if value < 2 ^ 16 then some (UInt16.ofNat value) else none
  else none

def parseVersion (value : String) : Except SecurityError UInt16 := do
  ensure (value ≠ "" && trim value = value) .invalidProtocolHeader
  okOr (parseU16 value) .invalidProtocolHeader

def headerVersions (versions : String) : Except SecurityError (List UInt16) :=
  ((versions.toList.splitOn ',').map String.ofList).mapM parseVersion

/-- `sort_unstable` and `dedup`. -/
def sortedVersions (versions : List UInt16) : List UInt16 :=
  (versions.insertionSort (· ≤ ·)).destutter (· ≠ ·)

def protocolVersionsFields (versions : List UInt16) (minimum : UInt16) : List Field :=
  [⟨"client_supported_protocol_versions", versions.flatMap fun version => toBeBytes 2 version.toNat⟩,
   .u16 "client_min_protocol_version" minimum]

/-- The bytes hashed by `protocol_versions_hash`. -/
def protocolVersionsBytes (versions : List UInt16) (minimum : UInt16) : Except SecurityError Bytes :=
  (canonicalEncode "rctl-protocol-versions-v1" (protocolVersionsFields versions minimum)).mapError fun _ => .invalidHash

def protocolVersionsHash (sha256 : Bytes → Digest) (versions : List UInt16) (minimum : UInt16) :
    Except SecurityError Digest := do
  let bytes ← protocolVersionsBytes versions minimum
  return sha256 bytes

/-- The versions are sorted when `binary_search` looks one up. -/
def parseProtocolHeaders (sha256 : Bytes → Digest) (versions minimum : Option String) :
    Except SecurityError ProtocolNegotiation := do
  let versions ← okOr versions .invalidProtocolHeader
  let minimum ← okOr minimum .invalidProtocolHeader
  let clientMinVersion ← okOr (parseU16 minimum) .invalidProtocolHeader
  let listed ← headerVersions versions
  let clientVersions := sortedVersions listed
  ensure (clientVersions ≠ [] && clientVersions.length ≤ 16 && clientVersions.contains clientMinVersion)
    .invalidProtocolHeader
  let selectedVersion ← okOr (SUPPORTED_PROTOCOL_VERSIONS.filter fun version =>
    clientMinVersion ≤ version && clientVersions.contains version).max? .unsupportedVersion
  let versionsHash ← protocolVersionsHash sha256 clientVersions clientMinVersion
  return ⟨clientVersions, clientMinVersion, selectedVersion, versionsHash⟩

/-- What an accepted header was hashed to. -/
theorem parseProtocolHeaders_eq_ok {sha256 : Bytes → Digest} {versions minimum : String}
    {neg : ProtocolNegotiation}
    (h : parseProtocolHeaders sha256 (some versions) (some minimum) = .ok neg) : ∃ listed bytes,
      headerVersions versions = .ok listed ∧ neg.clientVersions = sortedVersions listed ∧
        parseU16 minimum = some neg.clientMinVersion ∧
        protocolVersionsBytes neg.clientVersions neg.clientMinVersion = .ok bytes ∧
        neg.versionsHash = sha256 bytes := by
  simp only [parseProtocolHeaders, protocolVersionsHash, bind_eq_ok, okOr_eq_ok, pure_eq_ok] at h
  obtain ⟨_, hv, _, hm, clientMinVersion, hmin, listed, hl, -, -, selected, -, _, ⟨bytes, hby, rfl⟩, rfl⟩ := h
  cases hv
  cases hm
  exact ⟨listed, bytes, hl, rfl, hmin, hby, rfl⟩

/-- **The versions are hashed as a set.** Sorted without repetitions, two lists of the same versions
are the same list, whether repetitions go after the sort or before it. -/
theorem sortedVersions_eq {versions versions' : List UInt16} (h : ∀ ver, ver ∈ versions' ↔ ver ∈ versions) :
    sortedVersions versions = versions'.dedup.insertionSort (· ≤ ·) := by
  have hs := List.pairwise_insertionSort (· ≤ ·) versions
  rw [sortedVersions, hs.destutter_eq_dedup]
  refine List.Perm.eq_of_pairwise (fun _ _ _ _ => UInt16.le_antisymm) (hs.sublist (List.dedup_sublist _))
    (List.pairwise_insertionSort _ _) ?_
  refine List.Perm.trans ?_ (List.perm_insertionSort _ _).symm
  refine (List.perm_ext_iff_of_nodup (List.nodup_dedup _) (List.nodup_dedup _)).mpr fun ver => ?_
  rw [List.mem_dedup, List.mem_dedup, (List.perm_insertionSort _ _).mem_iff, h]

/-! ### The signed input -/

def helloFields (serverNonce clientNonce : Digest) (accountId deviceId : String) (protocolVersion : UInt16)
    (timestampEpochMillis : UInt64) (versionsHash capabilitiesHash : Digest) : List Field :=
  [.array "server_nonce" serverNonce,
   .array "client_nonce" clientNonce,
   .str "account_id" accountId,
   .str "device_id" deviceId,
   .u16 "protocol_version" protocolVersion,
   .u64 "timestamp" timestampEpochMillis,
   .array "client_supported_protocol_versions_hash" versionsHash,
   .array "client_capabilities_hash" capabilitiesHash]

def helloSignatureInput (serverNonce clientNonce : Digest) (accountId deviceId : String) (protocolVersion : UInt16)
    (timestampEpochMillis : UInt64) (versionsHash capabilitiesHash : Digest) : Except SecurityError Bytes :=
  (canonicalEncode "rctl-ws-hello-v1" (helloFields serverNonce clientNonce accountId deviceId protocolVersion
    timestampEpochMillis versionsHash capabilitiesHash)).mapError fun _ => .invalidHash

end Rctl.Signal

namespace Rctl.Desktop

open ByteString

/-- The error of the canonical inputs of `signal.rs`. -/
inductive SignalError
  | canonical
  deriving DecidableEq, Repr

def helloSignatureInput (serverNonce clientNonce : Digest) (accountId deviceId : String) (protocolVersion : UInt16)
    (timestampEpochMillis : UInt64) (versionsHash capabilitiesHash : Digest) : Except SignalError Bytes :=
  (canonicalEncode "rctl-ws-hello-v1"
    [.array "server_nonce" serverNonce,
     .array "client_nonce" clientNonce,
     .str "account_id" accountId,
     .str "device_id" deviceId,
     .u16 "protocol_version" protocolVersion,
     .u64 "timestamp" timestampEpochMillis,
     .array "client_supported_protocol_versions_hash" versionsHash,
     .array "client_capabilities_hash" capabilitiesHash]).mapError fun _ => .canonical

end Rctl.Desktop
