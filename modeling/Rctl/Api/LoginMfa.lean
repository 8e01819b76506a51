/-
# A login enforces the second factor

A login completes only for an active account that has not changed since its challenge
was issued, from the device the challenge is bound to, and with the second factor the
account asks for. The guarantee is spread over three validators and the transaction
(`LoginAuthorized`, `Authenticated`); here it is read off against the context stored
with the challenge, not against what the command says of itself.
-/
import Rctl.Api.ChallengeLifecycle

namespace Rctl.Api

open ByteString Result OrdMap StateRun

variable {command : LoginFinishCommand}

section Enforced

variable (env : Env)

/-- The code of the command was accepted for the account and is marked as used in `post`. -/
inductive FactorMarked (db : Database) (command : LoginFinishCommand) (post : Database) : Prop
  | totp (code factorId : String) (factor : MfaFactor) (counter : UInt64)
      (hkind : command.factorKind = some "totp") (hcode : command.factorCode = some code)
      (hfactor : db.mfaFactors[factorId]? = some factor)
      (haccount : factor.accountId = command.accountId) (hactive : factor.active = true)
      (haccepted : verifyTotp env factor.secretBase32 code command.nowEpochMillis factor.lastUsedCounter =
        some counter)
      (hmarked : post.mfaFactors[factorId]? = some { factor with lastUsedCounter := some counter })
  | recoveryCode (code id : String) (recovery : RecoveryCode)
      (hkind : command.factorKind = some "recovery_code") (hcode : command.factorCode = some code)
      (hrecovery : db.recoveryCodes[id]? = some recovery)
      (haccepted : usableCode command.accountId (env.sha256 (utf8 code)) command.nowEpochMillis recovery =
        true)
      (hmarked : post.recoveryCodes[id]? =
        some { recovery with usedAtEpochMillis := some command.nowEpochMillis })

/-- The trusted device bound in the challenge is active, unexpired and that of the
account, the device and the key of the challenge. -/
def TrustAccepted (db : Database) (command : LoginFinishCommand) (context : LoginChallengeContext) : Prop :=
  ∃ id trusted, context.trustedDeviceId = some id ∧ db.trustedControllerDevices[id]? = some trusted ∧
    trusted.accountId = command.accountId ∧ trusted.controllerDeviceId = context.deviceId ∧
    trusted.deviceFingerprintHash = context.devicePublicKeyFingerprint ∧ trusted.status = .active ∧
    command.nowEpochMillis < trusted.expiresAtEpochMillis

/-- The device of the challenge is registered to the account, with the key bound in the
challenge, and may act for it; or it is absent and awaits enrolment. -/
def DeviceBound (db : Database) (accountId : String) (context : LoginChallengeContext) : Prop :=
  (context.deviceState = .registered ∧ ∃ device, db.devices[context.deviceId]? = some device ∧
    device.accountId = accountId ∧ device.status.isAuthorizable = true ∧
    device.publicKeyRevokedAtEpochMillis = none ∧ context.publicKeyId = some device.publicKeyId ∧
    context.publicKeyVersion = device.publicKeyVersion ∧
    env.sha256 device.publicKey.toList = context.devicePublicKeyFingerprint) ∨
  (context.deviceState = .pendingEnrollment ∧ db.devices[context.deviceId]? = none)

structure LoginEnforced (db : Database) (command : LoginFinishCommand) (post : Database)
    (challenge : RiskChallenge) (context : LoginChallengeContext) (account : Account) : Prop where
  challenge_get : db.riskChallenges[command.challengeId]? = some challenge
  context_get : db.loginChallengeContexts[command.challengeId]? = some context
  account_get : db.accounts[challenge.accountId]? = some account
  active : account.status = .active
  unchanged : account.updatedAtEpochMillis = context.accountUpdatedAtEpochMillis
  device : DeviceBound env db challenge.accountId context
  session_new : db.accountSessions[command.accountSession.accountSessionId]? = none
  session_stored : post.accountSessions =
    db.accountSessions.insert command.accountSession.accountSessionId command.accountSession
  session_account : command.accountSession.accountId = challenge.accountId
  mfa_verified : command.accountSession.mfaVerified = db.mfaEnabled challenge.accountId
  second_factor : db.mfaEnabled challenge.accountId = true →
    FactorMarked env db command post ∨ TrustAccepted db command context

/-! ### The checks, read against the context -/

/-- The command says of itself what is stored with its challenge. -/
structure CommandBound (command : LoginFinishCommand) (challenge : RiskChallenge)
    (context : LoginChallengeContext) : Prop where
  account : command.accountId = challenge.accountId
  persistentDevice : command.persistentDeviceId = context.persistentDeviceId
  updatedAt : command.accountUpdatedAtEpochMillis = context.accountUpdatedAtEpochMillis
  device : command.deviceId = context.deviceId
  publicKeyId : command.publicKeyId = context.publicKeyId
  publicKeyVersion : command.publicKeyVersion = context.publicKeyVersion
  fingerprint : command.devicePublicKeyFingerprint = context.devicePublicKeyFingerprint
  trustedDevice : command.trustedDeviceIdToUse = context.trustedDeviceId

variable {env} {challenge : RiskChallenge} {context : LoginChallengeContext}

theorem commandBound (h : validateLoginFinishAuthorityBinding command challenge context = .ok ()) :
    CommandBound command challenge context := by
  simp only [validateLoginFinishAuthorityBinding, ensure_eq_ok, Bool.and_eq_true, beq_iff_eq,
    constantTimeSha256Eq_iff, and_assoc] at h
  obtain ⟨_, hac, _, hp, hu, hdv, hk, hv, hfp, _, _, htr, _⟩ := h
  exact ⟨hac, hp, hu, hdv, hk, hv, hfp, htr⟩

/-- The session of a command claims a second factor exactly if the command brings one. -/
theorem shape_session (h : validateLoginFinishCommandShape command = .ok ()) :
    command.accountSession.accountId = command.accountId ∧ command.accountSession.mfaVerified =
      (command.factorKind.isSome || command.trustedDeviceIdToUse.isSome) := by
  simp only [validateLoginFinishCommandShape, ensure_eq_ok, Bool.and_eq_true, beq_iff_eq, and_assoc] at h
  obtain ⟨_, _, _, _, hac, hm, _⟩ := h
  exact ⟨hac, hm⟩

variable {db : Database}

theorem LoginAuthorized.deviceBound (h : LoginAuthorized env db command challenge context) :
    DeviceBound env db challenge.accountId context := by
  have hb := commandBound h.binding
  have hp := hb.persistentDevice
  unfold LoginChallengeContext.persistentDeviceId at hp
  rw [← hb.account]
  rcases h.device with hdv | hdv
  · left
    simp only [registeredDeviceValid, Bool.and_eq_true, Option.any_eq_true, beq_iff_eq,
      constantTimeSha256Eq_iff, Option.isNone_iff_eq_none] at hdv
    obtain ⟨hso, device, hg, ⟨⟨⟨⟨hac, hss⟩, hr⟩, hk⟩, hv⟩, hfp⟩ := hdv
    refine ⟨?_, device, hb.device ▸ hg, hac, hss, hr, hb.publicKeyId ▸ hk,
      hb.publicKeyVersion ▸ hv, hb.fingerprint ▸ hfp⟩
    by_contra hs
    rw [if_neg hs] at hp
    rw [hp] at hso
    cases hso
  · right
    simp only [pendingDeviceValid, Bool.and_eq_true, Option.isNone_iff_eq_none, Bool.not_eq_true',
      contains_eq_false] at hdv
    obtain ⟨⟨⟨hno, _⟩, _⟩, hg⟩ := hdv
    refine ⟨?_, hb.device ▸ hg⟩
    cases hs : context.deviceState with
    | pendingEnrollment => rfl
    | registered =>
      rw [if_pos hs, hno] at hp
      cases hp

/-- The session's flag is the account's: a factor is asked for exactly where there is one. -/
theorem Authenticated.mfa_verified {a : Database} (h : Authenticated env db command a)
    (hsh : validateLoginFinishCommandShape command = .ok ()) :
    command.accountSession.mfaVerified = db.mfaEnabled command.accountId := by
  rw [(shape_session hsh).2]
  cases h with
  | password hm hf ht => rw [hm, hf, ht]; rfl
  | trusted _ _ hm hf hu => rw [hm, hf, hu]; rfl
  | factor _ _ _ hm _ hk => rw [hm, hk]; rfl

theorem Authenticated.second_factor {a post : Database} (h : Authenticated env db command a)
    (hfactors : post.mfaFactors = a.mfaFactors) (hc : post.recoveryCodes = a.recoveryCodes)
    (hb : CommandBound command challenge context) (hm : db.mfaEnabled command.accountId = true) :
    FactorMarked env db command post ∨ TrustAccepted db command context := by
  cases h with
  | password hno => rw [hno] at hm; cases hm
  | trusted id trusted _ _ hu hg ha =>
    simp only [TrustedControllerDevice.acceptedFor, Bool.and_eq_true, beq_iff_eq, decide_eq_true_eq,
      constantTimeSha256Eq_iff] at ha
    obtain ⟨⟨⟨⟨hac, hdv⟩, hss⟩, hnow⟩, hfp⟩ := ha
    exact .inr ⟨id, trusted, hb.trustedDevice ▸ hu, hg, hac, hb.device ▸ hdv, hb.fingerprint ▸ hfp, hss, hnow⟩
  | factor _ code _ _ _ hki hcd hu =>
    left
    cases hu with
    | totp factorId factor counter htotp hf ha =>
      obtain ⟨hfactor, hp⟩ := firstWith_eq_some hf
      rw [MfaFactor.activeFor, Bool.and_eq_true, beq_iff_eq] at hp
      obtain ⟨hac, hactive⟩ := hp
      refine .totp code factorId factor counter (htotp ▸ hki) hcd hfactor hac hactive ha ?_
      rw [hfactors]
      show (db.mfaFactors.modify factorId _)[factorId]? = _
      rw [get_modify, if_pos rfl, hfactor]
      rfl
    | recoveryCode id recovery hr hf =>
      obtain ⟨hg, husable⟩ := firstWith_eq_some hf
      refine .recoveryCode code id recovery (hr ▸ hki) hcd hg husable ?_
      rw [hc]
      show (db.recoveryCodes.modify id _)[id]? = _
      rw [get_modify, if_pos rfl, hg]
      rfl

end Enforced

/-! ### Every login -/

section Login

variable {env : Env} {db db' : Database}

theorem Effect.login_enforced (h : Effect env db (.finishLogin command) (.login (.ok .completed)) db') :
    ∃ challenge context account, LoginEnforced env db command db' challenge context account := by
  cases h with
  | none _ _ hqt => cases hqt
  | loginCompleted _ challenge context a _ _ haz hau hn hg htr =>
    have hb := commandBound haz.binding
    have hs : a.accountSessions = db.accountSessions :=
      (congrArg Database.accountSessions hau.frame :)
    obtain ⟨account, hac, ha⟩ := (Option.any_eq_true _ _).mp haz.account
    simp only [Bool.and_eq_true, beq_iff_eq] at ha
    rw [completeLogin_eq hg htr]
    exact ⟨challenge, context, account,
      { challenge_get := haz.challenge_get
        context_get := haz.context_get
        account_get := hb.account ▸ hac
        active := ha.1
        unchanged := ha.2.trans hb.updatedAt
        device := haz.deviceBound
        session_new := hs ▸ hn
        session_stored := by rw [hs]
        session_account := (shape_session haz.shape).1.trans hb.account
        mfa_verified := hb.account ▸ hau.mfa_verified haz.shape
        second_factor := fun hm =>
          hau.second_factor rfl rfl hb (hb.account.symm ▸ hm) }⟩

theorem Effect.login_stores_nothing {r : Response} (h : Effect env db (.finishLogin command) r db')
    (hr : r ≠ .login (.ok .completed)) : db'.accountSessions = db.accountSessions ∧
      db'.deviceEnrollmentGrants = db.deviceEnrollmentGrants ∧
      ∀ id : String, db'.trustedControllerDevices[id]?.isSome = db.trustedControllerDevices[id]?.isSome := by
  cases h with
  | loginCompleted => exact absurd rfl hr
  | loginTrustRefused =>
    unfold Database.expireTrusted
    split
    · refine ⟨rfl, rfl, fun a => ?_⟩
      simp only [get_modify]
      split
      · exact Option.isSome_map
      · rfl
    · exact ⟨rfl, rfl, fun _ => rfl⟩
  | none | loginExpired | loginRefused | loginFactorRefused => exact ⟨rfl, rfl, fun _ => rfl⟩

/-- **A login enforces the second factor.** In every state and for every command: a
completed login was made for an unchanged active account, from the bound device, and its
session is marked as verified exactly if the account has a second factor, which was then
spent in this call or stood in for by the bound trusted device. Any other outcome stores
no session, no grant and no trusted device. -/
theorem login_enforces_mfa (env : Env) (db : Database) (command : LoginFinishCommand) :
    ((finishLogin env db command).1 = .ok .completed → ∃ challenge context account,
      LoginEnforced env db command (finishLogin env db command).2 challenge context account) ∧
    ((finishLogin env db command).1 ≠ .ok .completed →
      (finishLogin env db command).2.accountSessions = db.accountSessions ∧
      (finishLogin env db command).2.deviceEnrollmentGrants = db.deviceEnrollmentGrants ∧
      ∀ id : String, (finishLogin env db command).2.trustedControllerDevices[id]?.isSome =
        db.trustedControllerDevices[id]?.isSome) := by
  have he := step_effect env db (.finishLogin command)
  constructor
  · intro hc
    have h : Effect env db (.finishLogin command) (.login (.ok .completed)) (finishLogin env db command).2 := by
      rw [← hc]
      exact he
    exact h.login_enforced
  · intro ho
    refine he.login_stores_nothing fun hr => ho ?_
    exact Response.login.inj hr

end Login

/-! ### A login -/

/-- A login challenge for a device that awaits enrolment, for an account with a second factor. -/
def sampleAuthority (updatedAt now : UInt64) : LoginChallengeAuthority where
  challenge :=
    { riskChallengeId := "login", accountId := "account", deviceId := none, purpose := "login_mfa",
      operationBindingHash := Vector.replicate 32 2, requiredMethods := ["totp", "recovery_code"],
      status := .issued, attemptsRemaining := 5, expiresAtEpochMillis := now + 300000,
      createdAtEpochMillis := now, verifiedAtEpochMillis := none, consumedAtEpochMillis := none }
  context :=
    { deviceState := .pendingEnrollment, deviceId := "controller",
      accountUpdatedAtEpochMillis := updatedAt, devicePublicKey := Vector.replicate 32 9,
      devicePublicKeyFingerprint := Vector.replicate 32 9, publicKeyId := none, publicKeyVersion := 0,
      loginChallengeBindingHash := Vector.replicate 32 2, requiredFactors := ["totp", "recovery_code"],
      trustedDeviceId := none, protocolVersion := 1, issuedAtEpochMillis := now, attemptsLimit := 5 }

def sampleGrant (now : UInt64) : DeviceEnrollmentGrant :=
  { grantId := "grant", grantSecretHash := Vector.replicate 32 3, accountId := "account",
    deviceId := "controller", devicePublicKeyFingerprint := Vector.replicate 32 9,
    loginChallengeId := "login", loginChallengeBindingHash := Vector.replicate 32 2,
    trustProofType := some "device_signature_and_mfa", trustLevel := some "standard",
    establishTrust := true, protocolVersion := 1, issuedAccountSessionId := "session",
    issuedAtEpochMillis := now, expiresAtEpochMillis := now + 1000, consumedAtEpochMillis := none,
    registrationRequestBindingHash := none, registeredPublicKeyId := none,
    registeredTrustedDeviceId := none }

def sampleLogin (updatedAt : UInt64) (code : String) (now : UInt64) : LoginFinishCommand :=
  { challengeId := "login", accountId := "account", accountUpdatedAtEpochMillis := updatedAt,
    persistentDeviceId := none, deviceId := "controller", publicKeyId := none, publicKeyVersion := 0,
    devicePublicKeyFingerprint := Vector.replicate 32 9, challengeBindingHash := Vector.replicate 32 2,
    requiredFactors := ["totp", "recovery_code"], factorKind := some "totp", factorCode := some code,
    trustedDeviceIdToUse := none,
    accountSession :=
      { accountSessionId := "session", accountId := "account", refreshTokenHash := Vector.replicate 32 4,
        mfaVerified := true, expiresAtEpochMillis := now + 10000, revokedAtEpochMillis := none,
        revokedReason := none }
    enrollmentGrant := some (sampleGrant now), trustedDeviceToCreate := none,
    auditEntries := [sampleAudit "succeeded" "mfa_challenge_succeeded" "success" now,
      sampleAudit "logged-in" "login_succeeded" "success" now]
    failureAuditEntry := sampleAudit "login-failed" "mfa_challenge_failed" "failure" now
    nowEpochMillis := now }

def sampleFactor : MfaFactor :=
  { factorId := "factor", accountId := "account", secretBase32 := "secret", active := true,
    lastUsedCounter := some 1, createdAtEpochMillis := 0 }

/-- An account with a second factor and an open login challenge. -/
def challengedDatabase : Database :=
  (createLoginChallenge sampleEnv
    { sampleDatabase with mfaFactors := (∅ : Table MfaFactor).insert "factor" sampleFactor }
    (sampleAuthority 0 50000) (sampleAudit "challenged" "login_challenge_created" "success" 50000)).2

theorem login_enforces_mfa_totp :
    (finishLogin sampleEnv challengedDatabase (sampleLogin 0 "000002" 60000)).1 = .ok .completed ∧
      ∃ challenge context account,
        LoginEnforced sampleEnv challengedDatabase (sampleLogin 0 "000002" 60000)
          (finishLogin sampleEnv challengedDatabase (sampleLogin 0 "000002" 60000)).2 challenge context
          account :=
  have hc : (finishLogin sampleEnv challengedDatabase (sampleLogin 0 "000002" 60000)).1 =
      .ok .completed := by decide +kernel
  ⟨hc, (login_enforces_mfa sampleEnv challengedDatabase (sampleLogin 0 "000002" 60000)).1 hc⟩

end Rctl.Api
