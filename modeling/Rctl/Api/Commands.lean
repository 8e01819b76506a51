/-
# The commands of the repository and their outcomes

The argument and result types of the `Repository` trait in
`services/api-server/src/store.rs`, and the type of an operation: it answers with a
result or a `StoreError` and leaves a database, `Reply`.
-/
import Rctl.Api.Security

namespace Rctl.Api

open ByteString Result

inductive StoreError
  | conflict
  | unavailable
  deriving DecidableEq, Repr

abbrev Reply (ρ : Type) := Except StoreError ρ × Database

/-- A part of an operation that may end it with a reply. -/
abbrev Exit (ρ α : Type) := Except (Reply ρ) α

/-- `?` on a result: its error ends the operation and the database stays. -/
def orFail {ρ α : Type} (db : Database) (x : Except StoreError α) : Exit ρ α :=
  x.mapError fun e => (.error e, db)

/-! ### Challenges and factors -/

structure StepUpExpectation where
  challengeId : String
  accountId : String
  deviceId : String
  purpose : String
  operationBindingHash : Digest
  nowEpochMillis : UInt64
  deriving DecidableEq

structure RiskChallengeVerification where
  challengeId : String
  accountId : String
  factorKind : String
  factorCode : String
  successAuditEntry : AuditEntry
  failureAuditEntry : AuditEntry
  recoveryCodeAuditEntry : Option AuditEntry
  nowEpochMillis : UInt64

inductive RiskChallengeVerificationOutcome
  | verified (challenge : RiskChallenge)
  | alreadyVerified (challenge : RiskChallenge)
  | rejected
  deriving DecidableEq

inductive RiskChallengeCreationOutcome
  | created (challenge : RiskChallenge)
  | mfaEnrollmentRequired
  | notAuthorized
  deriving DecidableEq

structure TotpEnrollmentCompletion where
  factor : MfaFactor
  recoveryCodes : List RecoveryCode
  delivery : RecoveryCodeDelivery
  auditEntry : AuditEntry

structure TotpEnrollmentReplayLookup where
  accountId : String
  accountSessionId : String
  factorId : String
  idempotencyKeyHash : Digest
  finishRequestBindingHash : Option Digest
  clientEphemeralPublicKey : Option (ByteArr 32)
  accessTokenExpiresAtEpochMillis : UInt64
  nowEpochMillis : UInt64
  deriving DecidableEq

inductive TotpEnrollmentReplayOutcome
  | replayed (delivery : RecoveryCodeDelivery)
  | notFound
  | bindingMismatch
  | notAuthorized
  deriving DecidableEq

structure MfaFactorSummary where
  factorId : String
  createdAtEpochMillis : UInt64
  deriving DecidableEq

structure MfaStatusSnapshot where
  factors : List MfaFactorSummary
  recoveryCodesRemaining : ℕ
  deriving DecidableEq

inductive StepUpAction
  | rotateRecoveryCodes (records : List RecoveryCode) (auditEntry : AuditEntry)
  | disableMfaFactor (factorId : String) (auditEntry : AuditEntry)
  | changePassword (expectedPasswordHash newPasswordHash : String) (auditEntry : AuditEntry)
  | revokeTrustedDevice (trustedDeviceId : String) (auditEntry : AuditEntry)

def StepUpAction.auditEntry : StepUpAction → AuditEntry
  | rotateRecoveryCodes _ auditEntry => auditEntry
  | disableMfaFactor _ auditEntry => auditEntry
  | changePassword _ _ auditEntry => auditEntry
  | revokeTrustedDevice _ auditEntry => auditEntry

/-! ### Login -/

structure LoginFinishCommand where
  challengeId : String
  accountId : String
  accountUpdatedAtEpochMillis : UInt64
  persistentDeviceId : Option String
  deviceId : String
  publicKeyId : Option String
  publicKeyVersion : UInt32
  devicePublicKeyFingerprint : Digest
  challengeBindingHash : Digest
  requiredFactors : List String
  factorKind : Option String
  factorCode : Option String
  trustedDeviceIdToUse : Option String
  accountSession : AccountSession
  enrollmentGrant : Option DeviceEnrollmentGrant
  trustedDeviceToCreate : Option TrustedControllerDevice
  auditEntries : List AuditEntry
  failureAuditEntry : AuditEntry
  nowEpochMillis : UInt64

structure LoginChallengeAuthority where
  challenge : RiskChallenge
  context : LoginChallengeContext
  deriving DecidableEq

inductive LoginFinishOutcome
  | completed
  | rejected
  | invalidChallenge
  | invalidFactor
  | invalidTrust
  deriving DecidableEq, Repr

/-! ### Devices -/

structure DeviceKeyRotation where
  stepUp : StepUpExpectation
  currentPublicKeyId : String
  currentPublicKeyVersion : UInt32
  newPublicKeyId : String
  newPublicKey : ByteArr 32
  newPublicKeyVersion : UInt32
  auditEntry : AuditEntry

structure DeviceAuthorityChange where
  device : Device
  closedSessionEvents : List SessionEvent
  deriving DecidableEq

inductive DeviceManagementAction
  | disable
  | restore
  | unbind
  | revokePublicKey
  deriving DecidableEq, Repr

structure DeviceManagementCommand where
  accountId : String
  actorDeviceId : String
  actorPublicKeyId : String
  actorPublicKeyVersion : UInt32
  targetDeviceId : String
  expectedTargetPublicKeyId : String
  expectedTargetPublicKeyVersion : UInt32
  displayName : Option String
  action : Option DeviceManagementAction
  auditEntry : AuditEntry
  nowEpochMillis : UInt64

inductive DeviceManagementOutcome
  | updated (change : DeviceAuthorityChange)
  | notFound
  | invalidTransition
  deriving DecidableEq

structure InitialDeviceSignatureProof where
  target : String
  contentType : Option String
  requestId : String
  timestampEpochMillis : UInt64
  nonce : String
  signature : String
  canonicalBody : Bytes
  deriving DecidableEq

structure DeviceRegistrationCommand where
  grantId : String
  grantSecretHash : Digest
  accountId : String
  accountSessionId : String
  protocolVersion : UInt16
  registrationRequestBindingHash : Digest
  device : Device
  trustedDeviceId : Option String
  registrationAuditEntry : AuditEntry
  grantAuditEntry : AuditEntry
  trustedDeviceAuditEntry : Option AuditEntry
  signatureProof : InitialDeviceSignatureProof
  nowEpochMillis : UInt64

inductive DeviceRegistrationOutcome
  | created (device : Device)
  | replayed (device : Device)
  | invalidGrant
  deriving DecidableEq

/-! ### Remote sessions -/

structure CreateSessionCommand where
  storageKey : String
  idempotency : IdempotencyRecord
  session : Session
  event : SessionEvent
  policyEvaluation : PolicyEvaluation
  auditEntry : AuditEntry

inductive CreateSessionOutcome
  | created (session : Session)
  | replayed (session : Session)
  | bindingMismatch
  deriving DecidableEq

structure TransitionSessionCommand where
  storageKey : String
  expectedStatus : SessionStatus
  applyAllowed : Bool
  idempotency : IdempotencyRecord
  session : Session
  event : SessionEvent
  auditEntry : AuditEntry

inductive TransitionSessionOutcome
  | applied (session : Session) (eventId : String)
  | replayed (session : Session) (eventId : String)
  | bindingMismatch
  | invalidTransition
  | stateConflict
  | notFound
  deriving DecidableEq

end Rctl.Api
