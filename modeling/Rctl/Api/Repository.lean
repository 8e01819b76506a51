/-
# The repository as a machine

`MemoryRepository` runs each operation under its write lock, so a server is a machine
that takes one `Call` after another. The calls are the methods of the trait and, for
the closures given to `transact`, the three transactions the routes make.
-/
import Rctl.Api.Devices
import Rctl.Api.Registration
import Rctl.Api.RemoteSessions
import Rctl.Api.StepUp
import Rctl.Lib.Run

namespace Rctl.Api

open ByteString Result OrdMap

/-! ### Reads -/

inductive Query
  | accountSessionActive (accountSessionId accountId : String) (now : UInt64)
  | loadAccountByEmail (email : String)
  | loadAccountById (accountId : String)
  | accountMfaEnabled (accountId : String)
  | loadMfaStatus (accountId : String) (now : UInt64)
  | loadRiskChallengeAuthority (challengeId : String)
  | loadLoginChallengeAuthority (challengeId : String)
  | loadRefreshSessionAuthority (refreshTokenHash : Digest) (now : UInt64)
  | loadDeviceAuthority (deviceId : String)
  | loadSessionAuthority (sessionId : String)
  | listDevicesForAccount (accountId : String)
  | listTrustedDevicesForAccount (accountId : String)
  | loadSignalDeviceAuthority (accountSessionId accountId deviceId : String) (now : UInt64)
  | loadSessionDeviceAuthority (sessionId deviceId : String)
  | replayTotpEnrollment (lookup : TotpEnrollmentReplayLookup)

inductive Answer
  | bool (b : Bool)
  | account (account : Option Account)
  | mfaStatus (status : MfaStatusSnapshot)
  | riskChallenge (challenge : Option RiskChallenge)
  | loginChallenge (authority : Option LoginChallengeAuthority)
  | accountSession (session : Option AccountSession)
  | device (device : Option Device)
  | session (session : Option Session)
  | devices (devices : List Device)
  | trustedDevices (devices : List TrustedControllerDevice)
  | signalDevice (authority : Option (Bool × Device))
  | sessionDevice (session : Option Session) (device : Option Device)
  | totpReplay (outcome : Except StoreError TotpEnrollmentReplayOutcome)

def loadMfaStatus (db : Database) (accountId : String) (now : UInt64) : MfaStatusSnapshot :=
  { factors := (db.mfaFactors.values.filter (·.activeFor accountId)).map fun factor =>
      ⟨factor.factorId, factor.createdAtEpochMillis⟩
    recoveryCodesRemaining := (db.recoveryCodes.values.filter fun code =>
      code.accountId == accountId && code.usedAtEpochMillis.isNone &&
        code.expiresAtEpochMillis.all fun expires => now < expires).length }

def answer (env : Env) (db : Database) : Query → Answer
  | .accountSessionActive id accountId now =>
    .bool (activeAccountSession db.accountSessions[id]? accountId now)
  | .loadAccountByEmail email => .account (db.accountByEmail[email]?.bind fun id => db.accounts[id]?)
  | .loadAccountById accountId => .account db.accounts[accountId]?
  | .accountMfaEnabled accountId => .bool (db.mfaEnabled accountId)
  | .loadMfaStatus accountId now => .mfaStatus (loadMfaStatus db accountId now)
  | .loadRiskChallengeAuthority id => .riskChallenge db.riskChallenges[id]?
  | .loadLoginChallengeAuthority id => .loginChallenge (db.riskChallenges[id]?.bind fun challenge =>
      db.loginChallengeContexts[id]?.map fun context => ⟨challenge, context⟩)
  | .loadRefreshSessionAuthority hash now => .accountSession (loadRefreshSessionAuthority db hash now)
  | .loadDeviceAuthority id => .device db.devices[id]?
  | .loadSessionAuthority id => .session db.sessions[id]?
  | .listDevicesForAccount accountId => .devices (db.devices.values.filter (·.accountId == accountId))
  | .listTrustedDevicesForAccount accountId =>
    .trustedDevices (db.trustedControllerDevices.values.filter (·.accountId == accountId))
  | .loadSignalDeviceAuthority id accountId deviceId now => .signalDevice (db.devices[deviceId]?.map
      fun device => (activeAccountSession db.accountSessions[id]? accountId now, device))
  | .loadSessionDeviceAuthority sessionId deviceId =>
    .sessionDevice db.sessions[sessionId]? db.devices[deviceId]?
  | .replayTotpEnrollment lookup => .totpReplay (replayTotpEnrollment env db lookup)

/-! ### Calls -/

inductive Call
  | createRiskChallenge (challenge : RiskChallenge) (auditEntry : AuditEntry)
  | createLoginChallenge (authority : LoginChallengeAuthority) (auditEntry : AuditEntry)
  | cancelRiskChallenge (challengeId : String) (auditEntry : AuditEntry)
  | rejectLoginChallenge (challengeId : String) (challengeBindingHash : Digest) (now : UInt64)
      (auditEntry : AuditEntry)
  | verifyFactor (challengeId : Option String) (accountId factorKind code : String) (now : UInt64)
  | verifyRiskChallenge (verification : RiskChallengeVerification)
  | consumeStepUp (expectation : StepUpExpectation)
  | applyStepUpAction (expectation : StepUpExpectation) (action : StepUpAction)
  | finishTotpEnrollment (completion : TotpEnrollmentCompletion)
  | finishLogin (command : LoginFinishCommand)
  | rotateRefreshSession (refreshTokenHash : Digest) (replacement : AccountSession)
      (auditEntry : AuditEntry) (now : UInt64)
  | revokeAccountSession (accountSessionId accountId : String) (now : UInt64) (auditEntry : AuditEntry)
  | createSession (command : CreateSessionCommand)
  | transitionSession (command : TransitionSessionCommand)
  | registerDevice (command : DeviceRegistrationCommand)
  | rotateDeviceKey (rotation : DeviceKeyRotation)
  | manageDevice (command : DeviceManagementCommand)
  | registerAccount (account : Account)
  | issueTokens (session : AccountSession)
  | appendAudit (entry : AuditEntry)
  | read (query : Query)

inductive Response
  | challengeCreation (r : Except StoreError RiskChallengeCreationOutcome)
  | unit (r : Except StoreError Unit)
  | bool (r : Except StoreError Bool)
  | verification (r : Except StoreError RiskChallengeVerificationOutcome)
  | login (r : Except StoreError LoginFinishOutcome)
  | sessionCreation (r : Except StoreError CreateSessionOutcome)
  | sessionTransition (r : Except StoreError TransitionSessionOutcome)
  | registration (r : Except StoreError DeviceRegistrationOutcome)
  | keyRotation (r : Except StoreError DeviceAuthorityChange)
  | management (r : Except StoreError DeviceManagementOutcome)
  | answer (answer : Answer)

def respond {ρ : Type} (f : Except StoreError ρ → Response) (reply : Reply ρ) : Response × Database :=
  (f reply.1, reply.2)

def step (env : Env) (db : Database) : Call → Response × Database
  | .createRiskChallenge challenge auditEntry =>
    respond .challengeCreation (createRiskChallenge db challenge auditEntry)
  | .createLoginChallenge authority auditEntry =>
    respond .unit (createLoginChallenge env db authority auditEntry)
  | .cancelRiskChallenge challengeId auditEntry =>
    respond .bool (cancelRiskChallenge db challengeId auditEntry)
  | .rejectLoginChallenge challengeId challengeBindingHash now auditEntry =>
    respond .bool (rejectLoginChallenge db challengeId challengeBindingHash now auditEntry)
  | .verifyFactor challengeId accountId factorKind code now =>
    respond .bool (verifyFactorInDatabase env db challengeId accountId factorKind code now)
  | .verifyRiskChallenge verification =>
    respond .verification (verifyRiskChallenge env db verification)
  | .consumeStepUp expectation => respond .unit (consumeStepUp db expectation)
  | .applyStepUpAction expectation action => respond .unit (applyStepUpAction db expectation action)
  | .finishTotpEnrollment completion => respond .unit (finishTotpEnrollment env db completion)
  | .finishLogin command => respond .login (finishLogin env db command)
  | .rotateRefreshSession refreshTokenHash replacement auditEntry now =>
    respond .bool (rotateRefreshSession db refreshTokenHash replacement auditEntry now)
  | .revokeAccountSession accountSessionId accountId now auditEntry =>
    respond .bool (revokeAccountSession db accountSessionId accountId now auditEntry)
  | .createSession command => respond .sessionCreation (createSession db command)
  | .transitionSession command => respond .sessionTransition (transitionSession db command)
  | .registerDevice command => respond .registration (registerDevice env db command)
  | .rotateDeviceKey rotation => respond .keyRotation (rotateDeviceKey env db rotation)
  | .manageDevice command => respond .management (manageDevice env db command)
  | .registerAccount account => respond .unit (registerAccount db account)
  | .issueTokens session => respond .unit (issueTokens db session)
  | .appendAudit entry => respond .unit (appendAudit db entry)
  | .read query => (.answer (answer env db query), db)

abbrev CallEntry := StateRun.Entry Database Call Response

def Response.isError : Response → Bool
  | challengeCreation (.error _) | unit (.error _) | bool (.error _) | verification (.error _)
  | login (.error _) | sessionCreation (.error _) | sessionTransition (.error _)
  | registration (.error _) | keyRotation (.error _) | management (.error _) => true
  | _ => false

end Rctl.Api
