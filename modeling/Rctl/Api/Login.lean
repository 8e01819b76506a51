/-
# Finishing a login

A login challenge is stored with the context it was issued for
(`create_login_challenge`). `finish_login` checks the command against challenge and
context, then the account, the device and the second factor or the trusted device,
and on success stores the account session with an enrolment grant or a trusted
device. The validators of the command are translated check by check.
-/
import Rctl.Api.Challenge
import Rctl.Api.Sessions

namespace Rctl.Api

open ByteString Result OrdMap

/-- A lifetime of at most five minutes. -/
def shortLived (ttl : Option UInt64) : Bool := ttl.any fun ttl => decide (0 < ttl) && decide (ttl ≤ 300000)

/-! ### The validators -/

def riskChallengeRequiredMethodsAreValid (purpose : String) (requiredMethods : List String) : Bool :=
  let mfaMethods := ["totp", "recovery_code"]
  if purpose == "login_mfa" then requiredMethods.isEmpty || requiredMethods == mfaMethods
  else if purpose == "password_change" then requiredMethods == ["password"] || requiredMethods == mfaMethods
  else requiredMethods == mfaMethods

/-- The device a challenge is bound to: none while the device awaits enrolment. -/
def LoginChallengeContext.persistentDeviceId (context : LoginChallengeContext) : Option String :=
  if context.deviceState = .registered then some context.deviceId else none

def LoginChallengeContext.identityShapeValid (context : LoginChallengeContext) : Bool :=
  match context.deviceState with
  | .registered => (context.publicKeyId.any fun id => id != "") && decide (0 < context.publicKeyVersion)
  | .pendingEnrollment => context.publicKeyId.isNone && context.publicKeyVersion == 0

def validateLoginChallengeAuthority (env : Env) (authority : LoginChallengeAuthority) :
    Except StoreError Unit :=
  let challenge := authority.challenge
  let context := authority.context
  ensure (challenge.purpose == "login_mfa" &&
    riskChallengeRequiredMethodsAreValid challenge.purpose challenge.requiredMethods &&
    challenge.status == .issued &&
    challenge.deviceId == context.persistentDeviceId &&
    challenge.accountId != "" &&
    context.deviceId != "" &&
    context.identityShapeValid &&
    context.protocolVersion != 0 &&
    context.attemptsLimit != 0 &&
    decide (context.attemptsLimit ≤ 5) &&
    challenge.attemptsRemaining == context.attemptsLimit &&
    challenge.requiredMethods == context.requiredFactors &&
    challenge.createdAtEpochMillis == context.issuedAtEpochMillis &&
    shortLived (checkedSub challenge.expiresAtEpochMillis challenge.createdAtEpochMillis) &&
    constantTimeSha256Eq (env.sha256 context.devicePublicKey.toList) context.devicePublicKeyFingerprint &&
    constantTimeSha256Eq challenge.operationBindingHash context.loginChallengeBindingHash) .conflict

/-- Which of grant and trusted device a command brings: (registered, grant, trusted device, factor). -/
def LoginFinishCommand.enrollmentShapeValid (command : LoginFinishCommand) : Bool :=
  match command.persistentDeviceId.isSome, command.enrollmentGrant.isSome,
    command.trustedDeviceToCreate.isSome, command.factorKind.isSome with
  | true, false, true, true => true
  | true, false, false, false => true
  | false, true, false, _ => true
  | _, _, _, _ => false

def validateLoginFinishCommandShape (command : LoginFinishCommand) : Except StoreError Unit :=
  let hasFactor := command.factorKind.isSome
  let usesTrustedDevice := command.trustedDeviceIdToUse.isSome
  let registered := command.persistentDeviceId.isSome
  ensure (command.challengeId != "" &&
    command.accountId != "" &&
    command.deviceId != "" &&
    command.accountSession.accountSessionId != "" &&
    command.accountSession.accountId == command.accountId &&
    command.accountSession.mfaVerified == (hasFactor || usesTrustedDevice) &&
    decide (command.nowEpochMillis < command.accountSession.expiresAtEpochMillis) &&
    command.accountSession.revokedAtEpochMillis.isNone &&
    command.accountSession.revokedReason.isNone &&
    hasFactor == command.factorCode.isSome &&
    hasFactor != command.requiredFactors.isEmpty &&
    !(hasFactor && usesTrustedDevice) &&
    !(!registered && usesTrustedDevice) &&
    (command.persistentDeviceId.all fun deviceId => deviceId == command.deviceId) &&
    command.enrollmentShapeValid) .conflict

def LoginFinishCommand.expectedActions (command : LoginFinishCommand) : List String :=
  ["mfa_challenge_succeeded", "login_succeeded"] ++
    (if command.trustedDeviceToCreate.isSome then ["trusted_device_added"] else []) ++
    (if command.factorKind == some "recovery_code" then ["mfa_recovery_code_used"] else [])

/-- The audit entry is one of the account, without device, role or service. -/
def AuditEntry.accountAudit (audit : AuditEntry) (result : String) (command : LoginFinishCommand) :
    Bool :=
  !(isBlank audit.auditId) && audit.actorType == "account" && audit.result == result &&
    audit.actorAccountId == some command.accountId && audit.actorDeviceId.isNone &&
    audit.actorRole.isNone && audit.actorService.isNone &&
    audit.createdAtEpochMillis == command.nowEpochMillis

def LoginFinishCommand.auditsValid (command : LoginFinishCommand) : Bool :=
  let actions := command.auditEntries.map (·.action)
  let expected := command.expectedActions
  (actions.all fun action => expected.contains action) &&
    (expected.all fun action => actions.contains action) &&
    command.auditEntries.length == expected.length &&
    (command.auditEntries.all fun audit => audit.accountAudit "success" command) &&
    command.failureAuditEntry.accountAudit "failure" command &&
    command.failureAuditEntry.action == "mfa_challenge_failed" &&
    decide ((command.auditEntries ++ [command.failureAuditEntry]).map (·.auditId)).Nodup

def DeviceEnrollmentGrant.trustMatchesFactor (grant : DeviceEnrollmentGrant) (factorKind : Option String) :
    Bool :=
  match factorKind with
  | none => !grant.establishTrust && grant.trustProofType.isNone && grant.trustLevel.isNone
  | some kind =>
    if kind == "totp" then
      grant.establishTrust && grant.trustProofType == some "device_signature_and_mfa" &&
        grant.trustLevel == some "standard"
    else if kind == "recovery_code" then
      grant.establishTrust && grant.trustProofType == some "device_signature_and_recovery_code" &&
        grant.trustLevel == some "high_risk_step_up_required"
    else false

def DeviceEnrollmentGrant.unconsumed (grant : DeviceEnrollmentGrant) : Bool :=
  grant.registrationRequestBindingHash.isNone && grant.registeredPublicKeyId.isNone &&
    grant.registeredTrustedDeviceId.isNone

def LoginFinishCommand.grantValid (command : LoginFinishCommand) (challenge : RiskChallenge)
    (grant : DeviceEnrollmentGrant) : Bool :=
  !(isBlank grant.grantId) &&
    grant.accountId == command.accountId &&
    grant.deviceId == command.deviceId &&
    grant.loginChallengeId == command.challengeId &&
    grant.issuedAccountSessionId == command.accountSession.accountSessionId &&
    grant.protocolVersion != 0 &&
    grant.issuedAtEpochMillis == command.nowEpochMillis &&
    decide (grant.expiresAtEpochMillis ≤ challenge.expiresAtEpochMillis) &&
    shortLived (checkedSub grant.expiresAtEpochMillis grant.issuedAtEpochMillis) &&
    grant.consumedAtEpochMillis.isNone && grant.unconsumed &&
    grant.trustMatchesFactor command.factorKind &&
    constantTimeSha256Eq grant.devicePublicKeyFingerprint command.devicePublicKeyFingerprint &&
    constantTimeSha256Eq grant.loginChallengeBindingHash command.challengeBindingHash

/-- Proof type, level and lifetime a new trusted device has for its factor. -/
def TrustedControllerDevice.trustShapeValid (trusted : TrustedControllerDevice)
    (factorKind : Option String) : Bool :=
  let ttl := checkedSub trusted.expiresAtEpochMillis trusted.createdAtEpochMillis
  (factorKind == some "totp" && trusted.trustProofType == "device_signature_and_mfa" &&
    trusted.trustLevel == "standard" && ttl == some 2592000000) ||
  (factorKind == some "recovery_code" &&
    trusted.trustProofType == "device_signature_and_recovery_code" &&
    trusted.trustLevel == "high_risk_step_up_required" && ttl == some 86400000)

def LoginFinishCommand.trustValid (command : LoginFinishCommand) (trusted : TrustedControllerDevice) :
    Bool :=
  !(isBlank trusted.trustedDeviceId) &&
    trusted.accountId == command.accountId &&
    trusted.controllerDeviceId == command.deviceId &&
    trusted.status == .active &&
    trusted.createdAtEpochMillis == command.nowEpochMillis &&
    trusted.lastUsedAtEpochMillis.isNone &&
    trusted.revokedAtEpochMillis.isNone &&
    trusted.trustShapeValid command.factorKind &&
    constantTimeSha256Eq trusted.deviceFingerprintHash command.devicePublicKeyFingerprint

def validateLoginFinishArtifacts (command : LoginFinishCommand) (challenge : RiskChallenge) :
    Except StoreError Unit := do
  ensure command.auditsValid .conflict
  ensure (command.enrollmentGrant.all (command.grantValid challenge)) .conflict
  match command.trustedDeviceToCreate with
  | some trusted => ensure (command.trustValid trusted) .conflict
  | none => ensure (!(command.factorKind.isSome && command.persistentDeviceId.isSome)) .conflict

def validateLoginFinishAuthorityBinding (command : LoginFinishCommand) (challenge : RiskChallenge)
    (context : LoginChallengeContext) : Except StoreError Unit :=
  ensure (command.challengeId == challenge.riskChallengeId &&
    command.accountId == challenge.accountId &&
    command.persistentDeviceId == challenge.deviceId &&
    command.persistentDeviceId == context.persistentDeviceId &&
    command.accountUpdatedAtEpochMillis == context.accountUpdatedAtEpochMillis &&
    command.deviceId == context.deviceId &&
    command.publicKeyId == context.publicKeyId &&
    command.publicKeyVersion == context.publicKeyVersion &&
    constantTimeSha256Eq command.devicePublicKeyFingerprint context.devicePublicKeyFingerprint &&
    constantTimeSha256Eq command.challengeBindingHash context.loginChallengeBindingHash &&
    command.requiredFactors == context.requiredFactors &&
    command.trustedDeviceIdToUse == context.trustedDeviceId &&
    command.enrollmentGrant.all fun grant => grant.protocolVersion == context.protocolVersion) .conflict

/-! ### Issuing a login challenge -/

def Database.insertLoginChallenge (db : Database) (authority : LoginChallengeAuthority) : Database :=
  { db.insertChallenge authority.challenge with
    loginChallengeContexts :=
      db.loginChallengeContexts.insert authority.challenge.riskChallengeId authority.context }

def createLoginChallenge (env : Env) (db : Database) (authority : LoginChallengeAuthority)
    (auditEntry : AuditEntry) : Reply Unit := merge do
  orFail db (validateLoginChallengeAuthority env authority)
  ensure (!(db.riskChallenges.contains authority.challenge.riskChallengeId) &&
    !(db.loginChallengeContexts.contains authority.challenge.riskChallengeId) &&
    !(db.hasAudit auditEntry.auditId) &&
    auditEntry.actorAccountId == some authority.challenge.accountId &&
    db.accounts[authority.challenge.accountId]?.any fun account => account.status == .active &&
      account.updatedAtEpochMillis == authority.context.accountUpdatedAtEpochMillis)
    (.error .conflict, db)
  return (.ok (), (db.insertLoginChallenge authority).pushAudits [auditEntry])

/-! ### Finishing the login -/

section Finish

variable (env : Env) {command : LoginFinishCommand} {db a : Database}

def RiskChallenge.setVerifiedAt (c : RiskChallenge) (now : UInt64) : RiskChallenge :=
  { c with verifiedAtEpochMillis := some now }

/-- The account is active and as it was when the challenge was issued. -/
def accountUnchanged (db : Database) (command : LoginFinishCommand) : Bool :=
  db.accounts[command.accountId]?.any fun account =>
    account.status == .active && account.updatedAtEpochMillis == command.accountUpdatedAtEpochMillis

def registeredDeviceValid (db : Database) (command : LoginFinishCommand) : Bool :=
  command.persistentDeviceId.isSome && db.devices[command.deviceId]?.any fun device =>
    device.accountId == command.accountId && device.status.isAuthorizable &&
      device.publicKeyRevokedAtEpochMillis.isNone && command.publicKeyId == some device.publicKeyId &&
      command.publicKeyVersion == device.publicKeyVersion &&
      constantTimeSha256Eq (env.sha256 device.publicKey.toList) command.devicePublicKeyFingerprint

def pendingDeviceValid (db : Database) (command : LoginFinishCommand) : Bool :=
  command.persistentDeviceId.isNone && command.publicKeyId.isNone && command.publicKeyVersion == 0 &&
    !(db.devices.contains command.deviceId)

def TrustedControllerDevice.acceptedFor (command : LoginFinishCommand)
    (trusted : TrustedControllerDevice) : Bool :=
  trusted.accountId == command.accountId && trusted.controllerDeviceId == command.deviceId &&
    trusted.status == .active && decide (command.nowEpochMillis < trusted.expiresAtEpochMillis) &&
    constantTimeSha256Eq trusted.deviceFingerprintHash command.devicePublicKeyFingerprint

def Database.expireTrusted (db : Database) (id : String) (trusted : TrustedControllerDevice)
    (now : UInt64) : Database :=
  if trusted.status == .active && decide (trusted.expiresAtEpochMillis ≤ now) then
    { db with trustedControllerDevices := db.trustedControllerDevices.modify id
                fun t => { t with status := .expired } }
  else db

def Database.useTrusted (db : Database) (id : String) (now : UInt64) : Database :=
  { db with trustedControllerDevices := db.trustedControllerDevices.modify id
              fun t => { t with lastUsedAtEpochMillis := some now } }

/-- The database of a login refused for `reason`: an attempt spent. -/
def Database.refuseLogin (db : Database) (command : LoginFinishCommand) (reason : String) : Database :=
  (db.modifyChallenge command.challengeId RiskChallenge.spendAttempt).pushAudits
    [command.failureAuditEntry.withReason reason]

/-- The trusted device in place of a factor, where the account has one. -/
def authenticateByTrust (db : Database) (command : LoginFinishCommand) :
    Exit LoginFinishOutcome Database :=
  if db.mfaEnabled command.accountId then do
    let trustedDeviceId ← okOr command.trustedDeviceIdToUse (.ok .invalidTrust, db)
    let trusted ← okOr db.trustedControllerDevices[trustedDeviceId]? (.ok .invalidTrust, db)
    ensure (trusted.acceptedFor command)
      (.ok .invalidTrust, db.expireTrusted trustedDeviceId trusted command.nowEpochMillis)
    return db.useTrusted trustedDeviceId command.nowEpochMillis
  else do
    ensure command.trustedDeviceIdToUse.isNone (.ok .invalidTrust, db)
    return db

/-- The one-time or recovery code of the command. -/
def authenticateByFactor (db : Database) (command : LoginFinishCommand) :
    Exit LoginFinishOutcome Database := do
  ensure (command.trustedDeviceIdToUse.isNone && db.mfaEnabled command.accountId)
    (.ok .invalidFactor, db)
  let factorKind ← okOr command.factorKind (.ok .invalidFactor, db)
  let factorCode ← okOr command.factorCode (.ok .invalidFactor, db)
  ensure (command.requiredFactors.contains factorKind) (.ok .invalidFactor, db)
  match verifyFactorInDatabase env db (some command.challengeId) command.accountId factorKind factorCode
    command.nowEpochMillis with
  | (.error e, _) => .error (.error e, db)
  | (.ok false, candidate) =>
    .error (.ok .invalidFactor, candidate.pushAudits [command.failureAuditEntry])
  | (.ok true, candidate) => .ok candidate

def authenticate (db : Database) (command : LoginFinishCommand) : Exit LoginFinishOutcome Database :=
  if command.requiredFactors.isEmpty then do
    ensure (command.factorKind.isNone && command.factorCode.isNone) (.ok .invalidFactor, db)
    let candidate ← authenticateByTrust db command
    return candidate.modifyChallenge command.challengeId (·.setVerifiedAt command.nowEpochMillis)
  else authenticateByFactor env db command

def addGrant (candidate : Database) (command : LoginFinishCommand) : Except StoreError Database :=
  match command.enrollmentGrant with
  | none => .ok candidate
  | some grant => do
    ensure (!(candidate.deviceEnrollmentGrants.contains grant.grantId) &&
      grant.accountId == command.accountId && grant.deviceId == command.deviceId &&
      grant.issuedAccountSessionId == command.accountSession.accountSessionId &&
      constantTimeSha256Eq grant.devicePublicKeyFingerprint command.devicePublicKeyFingerprint &&
      constantTimeSha256Eq grant.loginChallengeBindingHash command.challengeBindingHash) .conflict
    return { candidate with
             deviceEnrollmentGrants := candidate.deviceEnrollmentGrants.insert grant.grantId grant }

/-- The new trusted device of the command stored in place of the active ones of its device. -/
def addTrusted (candidate : Database) (command : LoginFinishCommand) : Except StoreError Database :=
  match command.trustedDeviceToCreate with
  | none => .ok candidate
  | some trusted => do
    ensure (command.enrollmentGrant.isNone && command.factorKind.isSome &&
      !(candidate.trustedControllerDevices.contains trusted.trustedDeviceId) &&
      trusted.accountId == command.accountId && trusted.controllerDeviceId == command.deviceId &&
      constantTimeSha256Eq trusted.deviceFingerprintHash command.devicePublicKeyFingerprint) .conflict
    let trustAddedAudit ←
      okOr (command.auditEntries.find? fun audit => audit.action == "trusted_device_added") .conflict
    let ofDevice := fun (t : TrustedControllerDevice) =>
      t.accountId == command.accountId && t.controllerDeviceId == command.deviceId
    let revocationAudits :=
      (candidate.trustedControllerDevices.values.filter fun t => ofDevice t && t.status == .active).map
        fun t => trustedDeviceRevocationAudit trustAddedAudit t.trustedDeviceId t.controllerDeviceId
          "refreshed"
    ensure (!(revocationAudits.any fun audit => (candidate.auditLogs ++ command.auditEntries).any
      fun existing => existing.auditId == audit.auditId)) .conflict
    return { candidate with
             trustedControllerDevices :=
               (revokeTrusted ofDevice command.nowEpochMillis candidate.trustedControllerDevices).insert
                 trusted.trustedDeviceId trusted
             auditLogs := candidate.auditLogs ++ revocationAudits }

def RiskChallenge.completeAt (now : UInt64) (c : RiskChallenge) : RiskChallenge :=
  { c with status := .consumed, verifiedAtEpochMillis := some now, consumedAtEpochMillis := some now }

def Database.completeLogin (db : Database) (command : LoginFinishCommand) : Database :=
  { db.modifyChallenge command.challengeId (RiskChallenge.completeAt command.nowEpochMillis) with
    accountSessions :=
      db.accountSessions.insert command.accountSession.accountSessionId command.accountSession
    auditLogs := db.auditLogs ++ command.auditEntries }

def finishLogin (db : Database) (command : LoginFinishCommand) : Reply LoginFinishOutcome := merge do
  orFail db (validateLoginFinishCommandShape command)
  let challenge ← okOr db.riskChallenges[command.challengeId]? (.ok .invalidChallenge, db)
  let context ← okOr db.loginChallengeContexts[command.challengeId]? (.ok .invalidChallenge, db)
  ensure (challenge.accountId == command.accountId && challenge.deviceId == command.persistentDeviceId &&
    challenge.purpose == "login_mfa" &&
    constantTimeSha256Eq challenge.operationBindingHash command.challengeBindingHash &&
    challenge.requiredMethods == command.requiredFactors) (.ok .invalidChallenge, db)
  (validateLoginFinishAuthorityBinding command challenge context).mapError
    fun _ => (.ok .invalidChallenge, db)
  ensure (!(db.hasAudit command.failureAuditEntry.auditId)) (.error .conflict, db)
  ensure (!(challenge.status == .issued &&
    decide (challenge.expiresAtEpochMillis ≤ command.nowEpochMillis)))
    (.ok .invalidChallenge, (db.modifyChallenge command.challengeId
      (RiskChallenge.setStatus .expired)).pushAudits [command.failureAuditEntry.withReason "expired"])
  ensure (challenge.status == .issued && challenge.attemptsRemaining != 0) (.ok .invalidChallenge, db)
  orFail db (validateLoginFinishArtifacts command challenge)
  ensure (!(command.auditEntries.any fun audit => db.hasAudit audit.auditId)) (.error .conflict, db)
  ensure (accountUnchanged db command) (.ok .rejected, db.refuseLogin command "account_security_changed")
  ensure (registeredDeviceValid env db command || pendingDeviceValid db command)
    (.ok .rejected, db.refuseLogin command "device_authority_changed")
  let authenticated ← authenticate env db command
  ensure (!(authenticated.accountSessions.contains command.accountSession.accountSessionId) &&
    command.accountSession.accountId == command.accountId &&
    command.accountSession.revokedAtEpochMillis.isNone &&
    command.accountSession.revokedReason.isNone) (.error .conflict, db)
  let granted ← orFail db (addGrant authenticated command)
  let candidate ← orFail db (addTrusted granted command)
  let _ ← okOr candidate.riskChallenges[command.challengeId]? (.error .unavailable, db)
  return (.ok .completed, candidate.completeLogin command)

/-! ### What a finished login has passed -/

/-- The checks a login has passed before its second factor is looked at. -/
structure LoginAuthorized (db : Database) (command : LoginFinishCommand) (challenge : RiskChallenge)
    (context : LoginChallengeContext) : Prop where
  shape : validateLoginFinishCommandShape command = .ok ()
  challenge_get : db.riskChallenges[command.challengeId]? = some challenge
  context_get : db.loginChallengeContexts[command.challengeId]? = some context
  binding : validateLoginFinishAuthorityBinding command challenge context = .ok ()
  answerable : challenge.answerable command.accountId command.nowEpochMillis = true
  artifacts : validateLoginFinishArtifacts command challenge = .ok ()
  account : accountUnchanged db command = true
  device : registeredDeviceValid env db command = true ∨ pendingDeviceValid db command = true

inductive Authenticated (db : Database) (command : LoginFinishCommand) : Database → Prop
  | password (hmfa : db.mfaEnabled command.accountId = false) (hfactor : command.factorKind = none)
      (htrust : command.trustedDeviceIdToUse = none) :
      Authenticated db command
        (db.modifyChallenge command.challengeId (·.setVerifiedAt command.nowEpochMillis))
  | trusted (id : String) (trusted : TrustedControllerDevice)
      (hmfa : db.mfaEnabled command.accountId = true) (hfactor : command.factorKind = none)
      (huse : command.trustedDeviceIdToUse = some id)
      (hget : db.trustedControllerDevices[id]? = some trusted)
      (haccepted : trusted.acceptedFor command = true) :
      Authenticated db command ((db.useTrusted id command.nowEpochMillis).modifyChallenge
        command.challengeId (·.setVerifiedAt command.nowEpochMillis))
  | factor (kind code : String) (marked : Database) (hmfa : db.mfaEnabled command.accountId = true)
      (htrust : command.trustedDeviceIdToUse = none) (hkind : command.factorKind = some kind)
      (hcode : command.factorCode = some code)
      (huse : FactorUse env db command.accountId kind code command.nowEpochMillis true marked) :
      Authenticated db command
        (marked.modifyChallenge command.challengeId (RiskChallenge.judged true command.nowEpochMillis))

inductive GrantStored (c : Database) (command : LoginFinishCommand) : Database → Prop
  | none (hnone : command.enrollmentGrant = none) : GrantStored c command c
  | stored (grant : DeviceEnrollmentGrant) (hsome : command.enrollmentGrant = some grant)
      (hnew : c.deviceEnrollmentGrants[grant.grantId]? = none)
      (hsession : grant.issuedAccountSessionId = command.accountSession.accountSessionId) :
      GrantStored c command
        { c with deviceEnrollmentGrants := c.deviceEnrollmentGrants.insert grant.grantId grant }

inductive TrustedStored (c : Database) (command : LoginFinishCommand) : Database → Prop
  | none (hnone : command.trustedDeviceToCreate = none) : TrustedStored c command c
  | stored (trusted : TrustedControllerDevice) (audits : List AuditEntry)
      (hsome : command.trustedDeviceToCreate = some trusted)
      (hnew : c.trustedControllerDevices[trusted.trustedDeviceId]? = none)
      (haccount : trusted.accountId = command.accountId)
      (hdevice : trusted.controllerDeviceId = command.deviceId)
      (hfingerprint : trusted.deviceFingerprintHash = command.devicePublicKeyFingerprint) :
      TrustedStored c command
        { c with
          trustedControllerDevices :=
            (revokeTrusted (fun t => t.accountId == command.accountId &&
              t.controllerDeviceId == command.deviceId) command.nowEpochMillis
              c.trustedControllerDevices).insert trusted.trustedDeviceId trusted
          auditLogs := c.auditLogs ++ audits }

/-- Authenticating touches the factors, the recovery codes, the trusted devices and the
challenges. -/
theorem Authenticated.frame {env : Env} (h : Authenticated env db command a) :
    a = { db with
          mfaFactors := a.mfaFactors, recoveryCodes := a.recoveryCodes,
          trustedControllerDevices := a.trustedControllerDevices, riskChallenges := a.riskChallenges } := by
  cases h with
  | password | trusted => rfl
  | factor _ _ _ _ _ _ _ hu =>
    rw [Database.modifyChallenge, hu.frame]

theorem completeLogin_eq {g c : Database} (hg : GrantStored a command g)
    (htr : TrustedStored g command c) :
    c.completeLogin command =
      { a with
        riskChallenges :=
          a.riskChallenges.modify command.challengeId (RiskChallenge.completeAt command.nowEpochMillis)
        accountSessions :=
          a.accountSessions.insert command.accountSession.accountSessionId command.accountSession
        deviceEnrollmentGrants := g.deviceEnrollmentGrants
        trustedControllerDevices := c.trustedControllerDevices
        auditLogs := c.auditLogs ++ command.auditEntries } := by
  cases hg <;> cases htr <;> rfl

theorem Authenticated.completes {env : Env} (h : Authenticated env db command a) :
    a.riskChallenges.modify command.challengeId (RiskChallenge.completeAt command.nowEpochMillis) =
      db.riskChallenges.modify command.challengeId (RiskChallenge.completeAt command.nowEpochMillis) := by
  cases h with
  | password | trusted => exact modify_modify _ _ _ _
  | factor _ _ _ _ _ _ _ hu =>
    refine (modify_modify _ _ _ _).trans ?_
    rw [hu.riskChallenges]
    rfl

theorem addGrant_stored {c g : Database} (h : addGrant c command = .ok g) : GrantStored c command g := by
  unfold addGrant at h
  split at h
  · rename_i hn
    cases h
    exact .none hn
  · rename_i grant hs
    simp only [bind_eq_ok, ensure_eq_ok, pure_eq_ok, Bool.and_eq_true, Bool.not_eq_true',
      contains_eq_false, beq_iff_eq] at h
    obtain ⟨_, ⟨⟨⟨⟨⟨hnew, _⟩, _⟩, hsession⟩, _⟩, _⟩, rfl⟩ := h
    exact .stored grant hs hnew hsession

theorem addTrusted_stored {c t : Database} (h : addTrusted c command = .ok t) : TrustedStored c command t := by
  unfold addTrusted at h
  split at h
  · rename_i hn
    cases h
    exact .none hn
  · rename_i tr hs
    simp only [bind_eq_ok, ensure_eq_ok, pure_eq_ok, Bool.and_eq_true, Bool.not_eq_true', contains_eq_false,
      beq_iff_eq, constantTimeSha256Eq_iff] at h
    obtain ⟨_, ⟨⟨⟨⟨_, hnew⟩, hac⟩, hdv⟩, hfp⟩, _, _, _, _, rfl⟩ := h
    exact .stored tr _ hs hnew hac hdv hfp

end Finish

end Rctl.Api
