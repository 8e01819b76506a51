/-
# Registering a device

`register_device` consumes an enrolment grant: it checks command and grant
(`validate_device_registration_authority`), the grant's secret and binding, the
signature of the request and the session the grant was issued through, and stores the
device. A consumed grant is answered from the audit log instead.
-/
import Rctl.Api.Login

namespace Rctl.Api

open ByteString Result OrdMap

section Registration

variable (env : Env)

/-! ### The validator -/

def registrationPlatformName : Platform → String
  | .windows => "windows"
  | .ubuntu => "ubuntu"
  | .ios => "ios"

def registrationArchitectureName : Architecture → String
  | .x8664 => "x86_64"
  | .aarch64 => "aarch64"

def Device.capabilityShapeValid (device : Device) : Bool :=
  device.capabilities.controller && !device.capabilities.fileTransfer &&
    !device.capabilities.unattended && (device.platform != .ios || !device.capabilities.controlled)

def DeviceRegistrationCommand.expectedBinding (command : DeviceRegistrationCommand) : Digest :=
  let device := command.device
  deviceRegistrationBindingHash env command.accountId command.accountSessionId command.grantId
    device.deviceId device.displayName (registrationPlatformName device.platform) device.osVersion
    (registrationArchitectureName device.arch) device.capabilities.controller
    device.capabilities.controlled device.capabilities.fileTransfer device.capabilities.unattended
    (env.sha256 device.publicKey.toList) command.protocolVersion

def DeviceRegistrationCommand.shapeValid (command : DeviceRegistrationCommand) : Bool :=
  let device := command.device
  !(isBlank command.grantId) &&
    !(isBlank command.accountId) &&
    !(isBlank command.accountSessionId) &&
    command.protocolVersion != 0 &&
    device.accountId == command.accountId &&
    !(isBlank device.deviceId) &&
    !(isBlank device.displayName) &&
    !(isBlank device.osVersion) &&
    !(isBlank device.publicKeyId) &&
    device.publicKeyVersion == 1 &&
    device.publicKeyRevokedAtEpochMillis.isNone &&
    device.status == .offline &&
    device.lastSeenEpochMillis.isNone &&
    decide (device.createdAtEpochMillis ≤ command.nowEpochMillis) &&
    decide (device.createdAtEpochMillis ≤ device.updatedAtEpochMillis) &&
    device.capabilityShapeValid &&
    (device.platform != .ubuntu || device.arch == .x8664) &&
    constantTimeSha256Eq (command.expectedBinding env) command.registrationRequestBindingHash

/-- The result fields of a grant are set exactly when it is consumed. -/
def DeviceEnrollmentGrant.resultShapeValid (grant : DeviceEnrollmentGrant) : Bool :=
  match grant.consumedAtEpochMillis with
  | none => grant.unconsumed
  | some consumedAt =>
    decide (grant.issuedAtEpochMillis ≤ consumedAt) && decide (consumedAt ≤ grant.expiresAtEpochMillis) &&
      grant.registrationRequestBindingHash.isSome &&
      (grant.registeredPublicKeyId.any fun value => !(isBlank value)) &&
      grant.establishTrust == grant.registeredTrustedDeviceId.isSome

def DeviceEnrollmentGrant.trustShapeValid (grant : DeviceEnrollmentGrant) : Bool :=
  if grant.establishTrust then
    (grant.trustProofType == some "device_signature_and_mfa" && grant.trustLevel == some "standard") ||
    (grant.trustProofType == some "device_signature_and_recovery_code" &&
      grant.trustLevel == some "high_risk_step_up_required")
  else grant.trustProofType.isNone && grant.trustLevel.isNone

def DeviceEnrollmentGrant.shapeValid (grant : DeviceEnrollmentGrant) (grantId : String) : Bool :=
  grant.grantId == grantId &&
    !(isBlank grant.accountId) &&
    !(isBlank grant.deviceId) &&
    !(isBlank grant.loginChallengeId) &&
    !(isBlank grant.issuedAccountSessionId) &&
    grant.protocolVersion != 0 &&
    shortLived (checkedSub grant.expiresAtEpochMillis grant.issuedAtEpochMillis) &&
    grant.resultShapeValid &&
    grant.trustShapeValid

def AuditEntry.deviceAudit (audit : AuditEntry) (command : DeviceRegistrationCommand) : Bool :=
  audit.actorType == "device" &&
    audit.actorAccountId == some command.accountId &&
    audit.actorDeviceId == some command.device.deviceId &&
    audit.actorRole == some "none" &&
    audit.actorService.isNone &&
    audit.targetDeviceId == some command.device.deviceId &&
    audit.sessionId.isNone &&
    audit.result == "success" &&
    audit.reason.isNone &&
    audit.requestId == command.signatureProof.requestId &&
    audit.createdAtEpochMillis == command.nowEpochMillis

def validateDeviceRegistrationAuthority (db : Database) (command : DeviceRegistrationCommand)
    (grant : DeviceEnrollmentGrant) : Except StoreError Unit := do
  ensure (command.shapeValid env) .conflict
  ensure (grant.shapeValid command.grantId) .unavailable
  ensure (!grant.establishTrust || (command.trustedDeviceAuditEntry.isSome &&
    command.trustedDeviceId.any fun id => !(isBlank id))) .conflict
  ensure (command.registrationAuditEntry.action == "device_registered" &&
    command.grantAuditEntry.action == "device_enrollment_grant_consumed" &&
    (!grant.establishTrust ||
      command.trustedDeviceAuditEntry.any fun audit => audit.action == "trusted_device_added")) .conflict
  let audits := [command.registrationAuditEntry, command.grantAuditEntry] ++
    (if grant.establishTrust then command.trustedDeviceAuditEntry.toList else [])
  ensure (decide (audits.map (·.auditId)).Nodup && audits.all fun audit =>
    !(db.hasAudit audit.auditId) && audit.deviceAudit command) .conflict

def verifyRegistrationSignature (command : DeviceRegistrationCommand) : Option Unit :=
  let proof := command.signatureProof
  verifyDeviceSignature env command.device.publicKey "POST" proof.target proof.canonicalBody
    proof.contentType proof.requestId command.device.deviceId command.accountId
    proof.timestampEpochMillis proof.nonce proof.signature

/-! ### The answer for a consumed grant -/

def deviceRegistrationResultMetadataKey : String := "device_registration_result_v1"

def deviceLifecycleStatusSnapshotName : DeviceLifecycleStatus → String
  | .online => "online"
  | .offline => "offline"
  | .busy => "busy"
  | .suspended => "suspended"
  | .disabled => "disabled"
  | .unbound => "unbound"

def DeviceRegistrationCommand.snapshot (command : DeviceRegistrationCommand) :
    DeviceRegistrationResultSnapshot :=
  let device := command.device
  { grantId := command.grantId
    registrationRequestBindingHash := hexEncode command.registrationRequestBindingHash.toList
    deviceId := device.deviceId
    accountId := device.accountId
    displayName := device.displayName
    platform := device.platform
    osVersion := device.osVersion
    arch := device.arch
    capabilities := device.capabilities
    publicKeyId := device.publicKeyId
    publicKeyFingerprint := hexEncode (env.sha256 device.publicKey.toList).toList
    publicKeyVersion := device.publicKeyVersion
    publicKeyRevokedAtEpochMillis := device.publicKeyRevokedAtEpochMillis
    status := deviceLifecycleStatusSnapshotName device.status
    lastSeenEpochMillis := device.lastSeenEpochMillis
    createdAtEpochMillis := device.createdAtEpochMillis
    updatedAtEpochMillis := device.updatedAtEpochMillis }

def deviceRegistrationResultAudit (command : DeviceRegistrationCommand) :
    Except StoreError AuditEntry := do
  let value ← okOr (env.snapshotToValue (command.snapshot env)) .unavailable
  let audit := command.registrationAuditEntry
  return { audit with metadata := audit.metadata.insert deviceRegistrationResultMetadataKey value }

def registrationResultGrantId (metadata : Table JsonValue) : Option String := do
  let value ← metadata[deviceRegistrationResultMetadataKey]?
  let grantId ← value.get "grant_id"
  grantId.asStr

def DeviceRegistrationResultSnapshot.agrees (snapshot : DeviceRegistrationResultSnapshot)
    (command : DeviceRegistrationCommand) (grant : DeviceEnrollmentGrant) : Bool :=
  let device := command.device
  snapshot.grantId == command.grantId &&
    snapshot.grantId == grant.grantId &&
    snapshot.registrationRequestBindingHash == hexEncode command.registrationRequestBindingHash.toList &&
    snapshot.deviceId == device.deviceId &&
    snapshot.deviceId == grant.deviceId &&
    snapshot.accountId == command.accountId &&
    snapshot.accountId == device.accountId &&
    snapshot.accountId == grant.accountId &&
    snapshot.displayName == device.displayName &&
    snapshot.platform == device.platform &&
    snapshot.osVersion == device.osVersion &&
    snapshot.arch == device.arch &&
    snapshot.capabilities == device.capabilities &&
    snapshot.publicKeyId == grant.registeredPublicKeyId.getD "" &&
    snapshot.publicKeyFingerprint == hexEncode grant.devicePublicKeyFingerprint.toList &&
    snapshot.publicKeyVersion == 1 &&
    snapshot.publicKeyRevokedAtEpochMillis.isNone &&
    snapshot.status == "offline" &&
    snapshot.lastSeenEpochMillis.isNone &&
    decide (snapshot.createdAtEpochMillis ≤ snapshot.updatedAtEpochMillis)

def historicalKey (snapshot : DeviceRegistrationResultSnapshot) (device : Device)
    (grant : DeviceEnrollmentGrant) :
    Option DevicePublicKeyRecord → Except StoreError (ByteArr 32)
  | none => .ok device.publicKey
  | some record =>
    if record.publicKeyId == snapshot.publicKeyId && record.deviceId == snapshot.deviceId &&
        record.version == snapshot.publicKeyVersion &&
        constantTimeSha256Eq (env.sha256 record.publicKey.toList) grant.devicePublicKeyFingerprint then
      .ok record.publicKey
    else .error .unavailable

def replayedDeviceRegistrationResult (metadata : Table JsonValue) (command : DeviceRegistrationCommand)
    (grant : DeviceEnrollmentGrant) (historicalPublicKey : Option DevicePublicKeyRecord) :
    Except StoreError Device := do
  let value ← okOr metadata[deviceRegistrationResultMetadataKey]? .unavailable
  let snapshot ← okOr (env.snapshotFromValue value) .unavailable
  ensure (snapshot.agrees command grant) .unavailable
  let publicKey ← historicalKey env snapshot command.device grant historicalPublicKey
  ensure (constantTimeSha256Eq (env.sha256 publicKey.toList) grant.devicePublicKeyFingerprint) .unavailable
  return {
    deviceId := snapshot.deviceId
    accountId := snapshot.accountId
    displayName := snapshot.displayName
    platform := snapshot.platform
    osVersion := snapshot.osVersion
    arch := snapshot.arch
    capabilities := snapshot.capabilities
    publicKeyId := snapshot.publicKeyId
    publicKey := publicKey
    publicKeyVersion := snapshot.publicKeyVersion
    publicKeyRevokedAtEpochMillis := snapshot.publicKeyRevokedAtEpochMillis
    status := .offline
    lastSeenEpochMillis := snapshot.lastSeenEpochMillis
    createdAtEpochMillis := snapshot.createdAtEpochMillis
    updatedAtEpochMillis := snapshot.updatedAtEpochMillis }

def replayedTrustMatches (db : Database) (grant : DeviceEnrollmentGrant) : Bool :=
  match grant.registeredTrustedDeviceId with
  | none => !grant.establishTrust
  | some trustedDeviceId =>
    grant.establishTrust && db.trustedControllerDevices[trustedDeviceId]?.any fun trusted =>
      trusted.accountId == grant.accountId && trusted.controllerDeviceId == grant.deviceId &&
        trusted.trustProofType == grant.trustProofType.getD "" &&
        trusted.trustLevel == grant.trustLevel.getD "" &&
        constantTimeSha256Eq trusted.deviceFingerprintHash grant.devicePublicKeyFingerprint

def onlyElement {α : Type} : List α → Option α
  | [a] => some a
  | _ => none

def replayRegistration (db : Database) (command : DeviceRegistrationCommand)
    (grant : DeviceEnrollmentGrant) : Except StoreError Device := do
  ensure (grant.registrationRequestBindingHash == some command.registrationRequestBindingHash) .conflict
  let registeredPublicKeyId ← okOr grant.registeredPublicKeyId .unavailable
  ensure (grant.establishTrust == grant.registeredTrustedDeviceId.isSome) .unavailable
  ensure (replayedTrustMatches db grant) .unavailable
  let registrationAudit ← okOr (onlyElement (db.auditLogs.filter fun audit =>
    audit.action == "device_registered" && audit.result == "success" &&
      audit.actorAccountId == some command.accountId &&
      audit.targetDeviceId == some command.device.deviceId &&
      registrationResultGrantId audit.metadata == some command.grantId)) .unavailable
  replayedDeviceRegistrationResult env registrationAudit.metadata command grant
    db.devicePublicKeys[registeredPublicKeyId]?

/-! ### Registering -/

/-- The login the grant was issued for is the one consumed. -/
def grantChallengeMatches (db : Database) (grant : DeviceEnrollmentGrant) : Bool :=
  db.riskChallenges[grant.loginChallengeId]?.any fun challenge =>
    challenge.accountId == grant.accountId && challenge.purpose == "login_mfa" &&
      challenge.status == .consumed && challenge.consumedAtEpochMillis.isSome &&
      constantTimeSha256Eq challenge.operationBindingHash grant.loginChallengeBindingHash

def grantAccepted (db : Database) (command : DeviceRegistrationCommand)
    (grant : DeviceEnrollmentGrant) : Bool :=
  constantTimeSha256Eq grant.grantSecretHash command.grantSecretHash &&
    grant.accountId == command.accountId &&
    grant.deviceId == command.device.deviceId &&
    grant.protocolVersion == command.protocolVersion &&
    grant.issuedAccountSessionId == command.accountSessionId &&
    grantChallengeMatches db grant &&
    constantTimeSha256Eq grant.devicePublicKeyFingerprint (env.sha256 command.device.publicKey.toList) &&
    decide (absDiff command.nowEpochMillis command.signatureProof.timestampEpochMillis ≤ 30000) &&
    (verifyRegistrationSignature env command).isSome

def DeviceEnrollmentGrant.consume (command : DeviceRegistrationCommand) (trustedDeviceId : Option String)
    (grant : DeviceEnrollmentGrant) : DeviceEnrollmentGrant :=
  { grant with
    consumedAtEpochMillis := some command.nowEpochMillis
    registrationRequestBindingHash := some command.registrationRequestBindingHash
    registeredPublicKeyId := some command.device.publicKeyId
    registeredTrustedDeviceId := trustedDeviceId }

def Database.storeDevice (db : Database) (command : DeviceRegistrationCommand)
    (trustedDeviceId : Option String) : Database :=
  let device := command.device
  { db with
    deviceEnrollmentGrants :=
      db.deviceEnrollmentGrants.modify command.grantId (·.consume command trustedDeviceId)
    devices := db.devices.insert device.deviceId device
    devicePublicKeys := db.devicePublicKeys.insert device.publicKeyId
      { publicKeyId := device.publicKeyId
        deviceId := device.deviceId
        publicKey := device.publicKey
        version := device.publicKeyVersion
        createdAtEpochMillis := device.createdAtEpochMillis
        revokedAtEpochMillis := device.publicKeyRevokedAtEpochMillis } }

def registeredTrustedDeviceId (command : DeviceRegistrationCommand) (grant : DeviceEnrollmentGrant) :
    Except StoreError (Option String) :=
  if grant.establishTrust then (okOr command.trustedDeviceId .conflict).map some else .ok none

/-- A day for a recovery code, thirty days otherwise. -/
def trustTtl (trustProofType : String) : UInt64 :=
  if trustProofType == "device_signature_and_recovery_code" then 24 * 60 * 60 * 1000
  else 30 * 24 * 60 * 60 * 1000

def storeTrust (db : Database) (command : DeviceRegistrationCommand) (grant : DeviceEnrollmentGrant)
    (trustedDeviceId : Option String) : Except StoreError Database :=
  if grant.establishTrust then do
    let trustedDeviceId ← okOr trustedDeviceId .unavailable
    let trustProofType ← okOr grant.trustProofType .conflict
    let trustLevel ← okOr grant.trustLevel .conflict
    let audit ← okOr command.trustedDeviceAuditEntry .conflict
    let trusted : TrustedControllerDevice :=
      { trustedDeviceId := trustedDeviceId
        accountId := command.accountId
        controllerDeviceId := command.device.deviceId
        deviceFingerprintHash := grant.devicePublicKeyFingerprint
        trustLevel := trustLevel
        status := .active
        trustProofType := trustProofType
        createdAtEpochMillis := command.nowEpochMillis
        lastUsedAtEpochMillis := none
        expiresAtEpochMillis := saturatingAdd command.nowEpochMillis (trustTtl trustProofType)
        revokedAtEpochMillis := none }
    let stored := { db with
      trustedControllerDevices := db.trustedControllerDevices.insert trustedDeviceId trusted }
    return stored.pushAudits [audit]
  else .ok db

def registerDevice (db : Database) (command : DeviceRegistrationCommand) :
    Reply DeviceRegistrationOutcome := merge do
  let grant ← okOr db.deviceEnrollmentGrants[command.grantId]? (.ok .invalidGrant, db)
  orFail db (validateDeviceRegistrationAuthority env db command grant)
  ensure (grantAccepted env db command grant) (.ok .invalidGrant, db)
  if grant.consumedAtEpochMillis.isSome then
    let device ← orFail db (replayRegistration env db command grant)
    return (.ok (.replayed device), db)
  else
    ensure (decide (command.nowEpochMillis < grant.expiresAtEpochMillis) &&
      activeAccountSession db.accountSessions[command.accountSessionId]? command.accountId
        command.nowEpochMillis &&
      (!grant.establishTrust || db.accountSessions[command.accountSessionId]?.any (·.mfaVerified)))
      (.ok .invalidGrant, db)
    ensure (!(db.devices.contains command.device.deviceId) &&
      !(anyValue db.devices fun current => current.publicKeyId == command.device.publicKeyId))
      (.error .conflict, db)
    ensure grant.unconsumed (.error .unavailable, db)
    let trustedDeviceId ← orFail db (registeredTrustedDeviceId command grant)
    ensure (!(trustedDeviceId.any fun id => db.trustedControllerDevices.contains id)) (.error .conflict, db)
    let trusted ← orFail db (storeTrust (db.storeDevice command trustedDeviceId) command grant
      trustedDeviceId)
    let audit ← orFail db (deviceRegistrationResultAudit env command)
    return (.ok (.created command.device), trusted.pushAudits [audit, command.grantAuditEntry])

inductive TrustAdded (db : Database) (command : DeviceRegistrationCommand) (grant : DeviceEnrollmentGrant) :
    Database → Prop
  | none : TrustAdded db command grant db
  | added (id : String) (trusted : TrustedControllerDevice)
      (hnew : db.trustedControllerDevices[id]? = none) (hid : trusted.trustedDeviceId = id)
      (hactive : trusted.status = .active) (haccount : trusted.accountId = command.accountId)
      (hdevice : trusted.controllerDeviceId = command.device.deviceId)
      (hfingerprint : trusted.deviceFingerprintHash = grant.devicePublicKeyFingerprint)
      (audit : AuditEntry) :
      TrustAdded db command grant (Database.pushAudits
        { db with trustedControllerDevices := db.trustedControllerDevices.insert id trusted } [audit])

theorem storeTrust_added {db db' : Database} {cmd : DeviceRegistrationCommand}
    {grant : DeviceEnrollmentGrant} {trustedId : Option String}
    (hn : trustedId.any (fun id => db.trustedControllerDevices.contains id) = false)
    (h : storeTrust db cmd grant trustedId = .ok db') : TrustAdded db cmd grant db' := by
  unfold storeTrust at h
  split at h
  · simp only [bind_eq_ok, okOr_eq_ok, pure_eq_ok] at h
    obtain ⟨id, rfl, _, _, _, _, audit, _, rfl⟩ := h
    exact .added id _ (contains_eq_false.mp hn) rfl rfl rfl rfl rfl audit
  · cases h
    exact .none

end Registration

end Rctl.Api
