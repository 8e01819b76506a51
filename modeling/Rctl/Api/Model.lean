/-
# The records of the API server

`services/api-server/src/model.rs`: accounts and their sessions, second factors and
recovery codes, challenges, trusted devices and enrolment grants, devices and
remote sessions, and the `Database` that holds them. A `BTreeMap` is a `Table`, in
key order; times are milliseconds in a `u64`.

Fields that no function of the store reads or copies are left out.
-/
import Rctl.Lib.OrdMap
import Rctl.Protocol.Canonical

namespace Rctl.Api

open ByteString

abbrev Table (V : Type) := Std.ExtTreeMap String V

/-! ### Accounts -/

inductive AccountStatus
  | active
  | disabled
  deriving DecidableEq, Repr

structure Account where
  accountId : String
  email : String
  displayName : String
  passwordHash : String
  status : AccountStatus
  createdAtEpochMillis : UInt64
  updatedAtEpochMillis : UInt64
  deriving DecidableEq

structure AccountSession where
  accountSessionId : String
  accountId : String
  refreshTokenHash : Digest
  mfaVerified : Bool
  expiresAtEpochMillis : UInt64
  revokedAtEpochMillis : Option UInt64
  revokedReason : Option String
  deriving DecidableEq

structure MfaFactor where
  factorId : String
  accountId : String
  secretBase32 : String
  active : Bool
  lastUsedCounter : Option UInt64
  createdAtEpochMillis : UInt64
  deriving DecidableEq

def MfaFactor.activeFor (accountId : String) (factor : MfaFactor) : Bool :=
  factor.accountId == accountId && factor.active

structure RecoveryCode where
  recoveryCodeId : String
  accountId : String
  codeHash : Digest
  usedAtEpochMillis : Option UInt64
  expiresAtEpochMillis : Option UInt64
  deriving DecidableEq

/-! ### Challenges -/

inductive LoginDeviceState
  | registered
  | pendingEnrollment
  deriving DecidableEq, Repr

structure LoginChallengeContext where
  deviceState : LoginDeviceState
  deviceId : String
  accountUpdatedAtEpochMillis : UInt64
  devicePublicKey : ByteArr 32
  devicePublicKeyFingerprint : Digest
  publicKeyId : Option String
  publicKeyVersion : UInt32
  loginChallengeBindingHash : Digest
  requiredFactors : List String
  trustedDeviceId : Option String
  protocolVersion : UInt16
  issuedAtEpochMillis : UInt64
  attemptsLimit : UInt8
  deriving DecidableEq

inductive RiskChallengeStatus
  | issued
  | verified
  | failed
  | consumed
  | expired
  | cancelled
  deriving DecidableEq, Repr

structure RiskChallenge where
  riskChallengeId : String
  accountId : String
  deviceId : Option String
  purpose : String
  operationBindingHash : Digest
  requiredMethods : List String
  status : RiskChallengeStatus
  attemptsRemaining : UInt8
  expiresAtEpochMillis : UInt64
  createdAtEpochMillis : UInt64
  verifiedAtEpochMillis : Option UInt64
  consumedAtEpochMillis : Option UInt64
  deriving DecidableEq

/-! ### Trust -/

inductive TrustedDeviceStatus
  | active
  | expired
  | revoked
  deriving DecidableEq, Repr

structure TrustedControllerDevice where
  trustedDeviceId : String
  accountId : String
  controllerDeviceId : String
  deviceFingerprintHash : Digest
  trustLevel : String
  status : TrustedDeviceStatus
  trustProofType : String
  createdAtEpochMillis : UInt64
  lastUsedAtEpochMillis : Option UInt64
  expiresAtEpochMillis : UInt64
  revokedAtEpochMillis : Option UInt64
  deriving DecidableEq

structure DeviceEnrollmentGrant where
  grantId : String
  grantSecretHash : Digest
  accountId : String
  deviceId : String
  devicePublicKeyFingerprint : Digest
  loginChallengeId : String
  loginChallengeBindingHash : Digest
  trustProofType : Option String
  trustLevel : Option String
  establishTrust : Bool
  protocolVersion : UInt16
  issuedAccountSessionId : String
  issuedAtEpochMillis : UInt64
  expiresAtEpochMillis : UInt64
  consumedAtEpochMillis : Option UInt64
  registrationRequestBindingHash : Option Digest
  registeredPublicKeyId : Option String
  registeredTrustedDeviceId : Option String
  deriving DecidableEq

structure RecoveryCodeDelivery where
  deliveryId : String
  accountId : String
  accountSessionId : String
  factorId : String
  idempotencyKeyHash : Digest
  finishRequestBindingHash : Digest
  clientEphemeralPublicKey : ByteArr 32
  serverEphemeralPublicKey : ByteArr 32
  nonce : ByteArr 12
  ciphertext : Bytes
  recoveryCodeCount : UInt16
  createdAtEpochMillis : UInt64
  expiresAtEpochMillis : UInt64
  acknowledgedAtEpochMillis : Option UInt64
  deriving DecidableEq

/-! ### Devices -/

inductive Platform
  | windows
  | ubuntu
  | ios
  deriving DecidableEq, Repr

inductive Architecture
  | x8664
  | aarch64
  deriving DecidableEq, Repr

structure DeviceCapabilities where
  controller : Bool
  controlled : Bool
  fileTransfer : Bool
  unattended : Bool
  deriving DecidableEq

inductive DeviceLifecycleStatus
  | online
  | offline
  | busy
  | suspended
  | disabled
  | unbound
  deriving DecidableEq, Repr

def DeviceLifecycleStatus.isAuthorizable : DeviceLifecycleStatus → Bool
  | online | offline | busy => true
  | _ => false

structure Device where
  deviceId : String
  accountId : String
  displayName : String
  platform : Platform
  osVersion : String
  arch : Architecture
  capabilities : DeviceCapabilities
  publicKeyId : String
  publicKey : ByteArr 32
  publicKeyVersion : UInt32
  publicKeyRevokedAtEpochMillis : Option UInt64
  status : DeviceLifecycleStatus
  lastSeenEpochMillis : Option UInt64
  createdAtEpochMillis : UInt64
  updatedAtEpochMillis : UInt64
  deriving DecidableEq

structure DevicePublicKeyRecord where
  publicKeyId : String
  deviceId : String
  publicKey : ByteArr 32
  version : UInt32
  createdAtEpochMillis : UInt64
  revokedAtEpochMillis : Option UInt64
  deriving DecidableEq

/-! ### Remote sessions -/

inductive AuthMethod
  | accountPrompt
  | temporaryCode
  | unattended
  deriving DecidableEq, Repr

inductive SessionStatus
  | pendingCodeVerification
  | pendingUnattendedVerification
  | codeVerified
  | unattendedVerified
  | waitingApproval
  | accepted
  | connected
  | degraded
  | reconnecting
  | cancelled
  | closed
  | rejected
  | failed
  deriving DecidableEq, Repr

def SessionStatus.isTerminal : SessionStatus → Bool
  | cancelled | closed | rejected | failed => true
  | _ => false

structure SessionPermissions where
  remoteDesktop : Bool
  inputControl : Bool
  clipboard : Bool
  fileTransfer : Bool
  unattended : Bool
  privacyScreen : Bool
  blockLocalInput : Bool
  requirePrompt : Bool
  allowRelay : Bool
  deriving DecidableEq

structure Session where
  sessionId : String
  controllerAccountId : String
  controllerDeviceId : String
  controlledDeviceId : String
  authMethod : AuthMethod
  status : SessionStatus
  permissions : SessionPermissions
  permissionsDigest : String
  policyEvaluationId : String
  relayTokenEpoch : UInt64
  sessionExpiresAtEpochMillis : UInt64
  createdAtEpochMillis : UInt64
  updatedAtEpochMillis : UInt64
  endedAtEpochMillis : Option UInt64
  deriving DecidableEq

structure SessionEvent where
  eventId : String
  sessionId : String
  eventType : String
  fromStatus : Option SessionStatus
  toStatus : SessionStatus
  actorType : String
  actorAccountId : Option String
  actorDeviceId : Option String
  actorRole : Option String
  reason : Option String
  idempotencyKeyHash : String
  requestId : String
  createdAtEpochMillis : UInt64
  resultSession : Option Session
  deriving DecidableEq

structure PolicyEvaluation where
  policyEvaluationId : String
  deriving DecidableEq

structure IdempotencyRecord where
  sessionId : String
  requestBindingHash : String
  deriving DecidableEq

/-! ### The audit log -/

/-- A number of `serde_json`; a float by its bits. -/
inductive JsonNumber
  | posInt (n : UInt64)
  | negInt (n : Int64)
  | float (bits : UInt64)

/-- `serde_json::Value`. -/
inductive JsonValue
  | null
  | bool (b : Bool)
  | number (n : JsonNumber)
  | string (s : String)
  | array (items : List JsonValue)
  | object (fields : List (String × JsonValue))

namespace JsonValue

def get : JsonValue → String → Option JsonValue
  | object fields, key => fields.lookup key
  | _, _ => none

def asStr : JsonValue → Option String
  | string s => some s
  | _ => none

def ofUInt64 (n : UInt64) : JsonValue := number (.posInt n)

end JsonValue

structure AuditEntry where
  auditId : String
  actorType : String
  actorAccountId : Option String
  actorDeviceId : Option String
  actorRole : Option String
  actorService : Option String
  targetDeviceId : Option String
  sessionId : Option String
  action : String
  result : String
  reason : Option String
  metadata : Table JsonValue
  requestId : String
  createdAtEpochMillis : UInt64

/-! ### The database -/

structure Database where
  accounts : Table Account
  accountByEmail : Table String
  accountSessions : Table AccountSession
  mfaFactors : Table MfaFactor
  recoveryCodes : Table RecoveryCode
  riskChallenges : Table RiskChallenge
  loginChallengeContexts : Table LoginChallengeContext
  trustedControllerDevices : Table TrustedControllerDevice
  deviceEnrollmentGrants : Table DeviceEnrollmentGrant
  recoveryCodeDeliveries : Table RecoveryCodeDelivery
  devices : Table Device
  devicePublicKeys : Table DevicePublicKeyRecord
  sessions : Table Session
  sessionEvents : List SessionEvent
  sessionIdempotency : Table IdempotencyRecord
  policyEvaluations : Table PolicyEvaluation
  auditLogs : List AuditEntry

namespace Database

def empty : Database :=
  { accounts := ∅, accountByEmail := ∅, accountSessions := ∅, mfaFactors := ∅, recoveryCodes := ∅,
    riskChallenges := ∅, loginChallengeContexts := ∅, trustedControllerDevices := ∅,
    deviceEnrollmentGrants := ∅, recoveryCodeDeliveries := ∅, devices := ∅, devicePublicKeys := ∅,
    sessions := ∅, sessionEvents := [], sessionIdempotency := ∅, policyEvaluations := ∅,
    auditLogs := [] }

def hasAudit (db : Database) (auditId : String) : Bool := db.auditLogs.any (·.auditId == auditId)

def pushAudits (db : Database) (audits : List AuditEntry) : Database :=
  { db with auditLogs := db.auditLogs ++ audits }

theorem pushAudits_pushAudits (db : Database) (audits more : List AuditEntry) :
    (db.pushAudits audits).pushAudits more = db.pushAudits (audits ++ more) := by
  simp only [pushAudits, List.append_assoc]

def mfaEnabled (db : Database) (accountId : String) : Bool :=
  OrdMap.anyValue db.mfaFactors (·.activeFor accountId)

def deviceAuthorized (db : Database) (deviceId accountId : String) : Bool :=
  db.devices[deviceId]?.any fun device => device.accountId == accountId && device.status.isAuthorizable

end Database

end Rctl.Api
