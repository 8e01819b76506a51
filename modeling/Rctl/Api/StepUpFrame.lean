/-
# Whose records a step-up action changes

An action is granted to one account. Every record it removes or rewrites is found through that
account, but new recovery codes are stored under identifiers the caller chose and are not looked
up first: one that is in use replaces the code of whatever account has it (`rotated_over_other`).
A successful action leaves the records of other accounts alone exactly if no new code has the
identifier of another account's (`step_up_frame`).
-/
import Rctl.Api.Authority
import Rctl.Api.SecondFactors

namespace Rctl.Api

open ByteString Result OrdMap StateRun

/-- The two entries hold the same record, unless it is one of the account's. -/
def EntryKept {V : Type} (owner : V → String) (accountId : String) (o o' : Option V) : Prop :=
  ∀ v, owner v ≠ accountId → (o' = some v ↔ o = some v)

def OthersKept {V : Type} (owner : V → String) (accountId : String) (t t' : Table V) : Prop :=
  ∀ id : String, EntryKept owner accountId t[id]? t'[id]?

/-- What belongs to other accounts is the same in both databases. -/
structure AccountFrame (accountId : String) (db db' : Database) : Prop where
  accounts : OthersKept Account.accountId accountId db.accounts db'.accounts
  accountSessions : OthersKept AccountSession.accountId accountId db.accountSessions db'.accountSessions
  mfaFactors : OthersKept MfaFactor.accountId accountId db.mfaFactors db'.mfaFactors
  recoveryCodes : OthersKept RecoveryCode.accountId accountId db.recoveryCodes db'.recoveryCodes
  trustedControllerDevices : OthersKept TrustedControllerDevice.accountId accountId
    db.trustedControllerDevices db'.trustedControllerDevices
  riskChallenges : OthersKept RiskChallenge.accountId accountId db.riskChallenges db'.riskChallenges
  audits : db.auditLogs <+: db'.auditLogs
  /-- The devices, the grants and all the other tables are not touched at all. -/
  rest : { db' with
    accounts := db.accounts, accountSessions := db.accountSessions, mfaFactors := db.mfaFactors,
    recoveryCodes := db.recoveryCodes, riskChallenges := db.riskChallenges, auditLogs := db.auditLogs,
    trustedControllerDevices := db.trustedControllerDevices } = db

def StepUpAction.replacesOwn (db : Database) (accountId : String) : StepUpAction → Bool
  | rotateRecoveryCodes records _ => records.all fun record =>
    db.recoveryCodes[record.recoveryCodeId]?.all fun stored => stored.accountId == accountId
  | _ => true

section Tables

variable {V : Type} {owner : V → String} {accountId : String} {t t' : Table V} {o o' : Option V}

theorem EntryKept.of_own (h : ∀ v, o = some v → owner v = accountId)
    (h' : ∀ v, o' = some v → owner v = accountId) : EntryKept owner accountId o o' :=
  fun v hne => ⟨fun hv => absurd (h' v hv) hne, fun hv => absurd (h v hv) hne⟩

theorem OthersKept.refl (t : Table V) : OthersKept owner accountId t t := fun _ _ _ => Iff.rfl

theorem othersKept_modify {id : String} {f : V → V} (hf : ∀ v, owner (f v) = owner v)
    (h : ∀ v, t[id]? = some v → owner v = accountId) : OthersKept owner accountId t (t.modify id f) := by
  refine fun a => rel_modify a (OthersKept.refl t a) fun _ v hv => .of_own h ?_
  rintro _ ⟨⟩
  exact (hf v).trans (h v hv)

theorem othersKept_mapValues {p : V → Bool} {f : V → V} (hf : ∀ v, owner (f v) = owner v)
    (hp : ∀ v, p v = true → owner v = accountId) :
    OthersKept owner accountId t (mapValues t fun v => if p v then f v else v) := by
  refine fun a => rel_mapValues a (fun _ _ => Iff.rfl) fun v => ?_
  by_cases h : p v = true
  · rw [if_pos h]
    refine .of_own ?_ ?_ <;> rintro _ ⟨⟩
    · exact hp v h
    · exact (hf v).trans (hp v h)
  · rw [if_neg h]
    exact fun _ _ => Iff.rfl

theorem othersKept_erase {id : String} (h : ∀ v, t[id]? = some v → owner v = accountId) :
    OthersKept owner accountId t (t.erase id) := by
  intro a
  rw [get_erase]
  split_ifs with ha
  · exact .of_own (ha ▸ h) nofun
  · exact fun _ _ => Iff.rfl

theorem othersKept_retain (t : Table V) :
    OthersKept owner accountId t (retain t fun v => owner v != accountId) := by
  intro a v hne
  rw [get_retain, Option.filter_eq_some_iff]
  exact and_iff_left (bne_iff_ne.mpr hne)

theorem othersKept_insertCodes {codes stored : Table RecoveryCode} {recs : List RecoveryCode}
    (ho : ∀ rec ∈ recs, rec.accountId = accountId)
    (hr : ∀ rec ∈ recs, ∀ v, codes[rec.recoveryCodeId]? = some v → v.accountId = accountId)
    (h : OthersKept RecoveryCode.accountId accountId codes stored) :
    OthersKept RecoveryCode.accountId accountId codes (insertCodes stored recs) := by
  -- over the loop: the table built so far holds the records of the other accounts
  induction recs generalizing stored with
  | nil => exact h
  | cons rec recs ih =>
    obtain ⟨hrc, ho⟩ := List.forall_mem_cons.mp ho
    obtain ⟨hd, hr⟩ := List.forall_mem_cons.mp hr
    refine ih ho hr fun a => rel_insert a (h a) fun _ => .of_own hd ?_
    rintro _ ⟨⟩
    exact hrc

/-- Under the identifier of a new code there is one of the account afterwards. -/
theorem own_of_get_insertCodes {stored : Table RecoveryCode} {recs : List RecoveryCode} {id : String}
    (ho : ∀ rec ∈ recs, rec.accountId = accountId)
    (h : (∃ rec ∈ recs, rec.recoveryCodeId = id) ∨ ∀ v, stored[id]? = some v → v.accountId = accountId) :
    ∀ v, (insertCodes stored recs)[id]? = some v → v.accountId = accountId := by
  induction recs generalizing stored with
  | nil => exact h.resolve_left (by simp)
  | cons rec recs ih =>
    obtain ⟨hrc, ho⟩ := List.forall_mem_cons.mp ho
    refine ih ho ?_
    by_cases hid : rec.recoveryCodeId = id
    · refine .inr fun v hv => ?_
      rw [get_insert, if_pos hid] at hv
      cases hv
      exact hrc
    · rw [get_insert, if_neg hid]
      refine h.imp_left ?_
      rintro ⟨rec', hm, hid'⟩
      refine ⟨rec', (List.mem_cons.mp hm).resolve_left ?_, hid'⟩
      rintro rfl
      exact hid hid'

end Tables

section Action

variable {db db' : Database} {e : StepUpExpectation} {action : StepUpAction}

/-- The tables of a granted action, whichever it is: the challenge is the account's own. -/
theorem StepUpGranted.othersKept {ch : RiskChallenge} (h : StepUpGranted db e ch) :
    OthersKept RiskChallenge.accountId e.accountId db.riskChallenges
      (db.riskChallenges.modify e.challengeId (RiskChallenge.consumeAt e.nowEpochMillis)) := by
  refine othersKept_modify (fun _ => rfl) fun c hc => ?_
  rw [h.hchallenge] at hc
  cases hc
  exact h.haccount

/-- Cutting off an account's authority touches only the account, which is stored under its
identifier, its sessions and its trusted devices. -/
theorem cutOff_othersKept (hky : AccountsKeyed db) (accountId reason : String) (now : UInt64)
    {f : Account → Account} (hf : ∀ acct, (f acct).accountId = acct.accountId) :
    let cut := db.cutOff accountId now reason f
    OthersKept Account.accountId accountId db.accounts cut.accounts ∧
      OthersKept AccountSession.accountId accountId db.accountSessions cut.accountSessions ∧
      OthersKept TrustedControllerDevice.accountId accountId db.trustedControllerDevices
        cut.trustedControllerDevices := by
  refine ⟨othersKept_modify hf (hky accountId), othersKept_mapValues (fun _ => rfl) fun s hs => ?_,
    othersKept_mapValues (fun _ => rfl) fun s hs => ?_⟩
  · simp only [AccountSession.liveFor, Bool.and_eq_true, beq_iff_eq] at hs
    exact hs.1
  · simp only [Bool.and_eq_true, beq_iff_eq] at hs
    exact hs.1

theorem applyStepUpActionInDatabase_frame (hky : AccountsKeyed db)
    (h : applyStepUpActionInDatabase db e action = .ok db') :
    AccountFrame e.accountId db db' ↔ action.replacesOwn db e.accountId = true := by
  simp only [applyStepUpActionInDatabase, bind_eq_ok, ensure_eq_ok, pure_eq_ok] at h
  obtain ⟨_, _, _, _, _, _, _, hal, _, hc, _, hp, _, hrv, rfl⟩ := h
  obtain ⟨⟨_, hgr⟩, rfl⟩ := consumeStepUpInDatabase_eq_ok hc
  rw [← StepUpAction.allowed_modifyChallenge] at hal
  have hdn := actionDone hal hp hrv
  generalize Database.pushAudits _ [action.auditEntry] = db' at hdn ⊢
  cases hdn with
  | rotated recs _ hac =>
    simp only [StepUpAction.replacesOwn, List.all_eq_true, Option.all_eq_true, beq_iff_eq]
    refine ⟨fun hframe rec hm v hv => ?_, fun ho => ⟨.refl _, .refl _, .refl _, ?_, .refl _, hgr.othersKept,
      List.prefix_append _ _, rfl⟩⟩
    · -- a code of another account would be kept, but a new one is in its place
      by_contra hne
      exact hne (own_of_get_insertCodes hac (.inl ⟨rec, hm, rfl⟩) v ((hframe.recoveryCodes _ v hne).mpr hv))
    · exact othersKept_insertCodes hac ho (othersKept_retain _)
  | disabled factorId =>
    obtain ⟨ha, hs, htr⟩ := cutOff_othersKept hky e.accountId "mfa_disabled" e.nowEpochMillis
      (f := (·.advance e.nowEpochMillis)) fun _ => rfl
    refine iff_of_true ⟨ha, hs, othersKept_erase ?_, ?_, htr, hgr.othersKept, List.prefix_append _ _, rfl⟩ rfl
    · intro factor hf
      simp only [StepUpAction.allowed, Database.modifyChallenge, hf, Option.any_some, Bool.and_eq_true,
        beq_iff_eq] at hal
      exact hal.2.1
    · -- the codes go with the last factor
      show OthersKept _ _ db.recoveryCodes (ite _ db.recoveryCodes (retain db.recoveryCodes _))
      split
      · exact .refl _
      · exact othersKept_retain _
  | passwordChanged _ newPasswordHash =>
    obtain ⟨ha, hs, htr⟩ := cutOff_othersKept hky e.accountId "password_changed" e.nowEpochMillis
      (f := (·.changePassword newPasswordHash e.nowEpochMillis)) fun _ => rfl
    exact iff_of_true ⟨ha, hs, .refl _, .refl _, htr, hgr.othersKept, List.prefix_append _ _, rfl⟩ rfl
  | trustRevoked _ _ tr htr =>
    refine iff_of_true ⟨.refl _, .refl _, .refl _, .refl _, othersKept_modify (fun _ => rfl) fun v hv => ?_,
      hgr.othersKept, List.prefix_append _ _, rfl⟩ rfl
    simp only [StepUpAction.allowed, Database.modifyChallenge, hv, Option.any_some, Bool.and_eq_true, beq_iff_eq] at hal
    exact hal.2.1

end Action

/-- **Whose records a step-up action touches.** In every reachable state, whatever the identifiers in
the action: a failed action changes nothing, and a successful one leaves the records of other
accounts as they were exactly if the codes it replaces are the account's own. -/
theorem step_up_frame (env : Env) (calls : List Call) (e : StepUpExpectation) (action : StepUpAction) :
    let db := final (step env) .empty calls
    ((applyStepUpAction db e action).1 = .ok () →
      (AccountFrame e.accountId db (applyStepUpAction db e action).2 ↔ action.replacesOwn db e.accountId = true)) ∧
      ((applyStepUpAction db e action).1 ≠ .ok () → (applyStepUpAction db e action).2 = db) := by
  have hky : AccountsKeyed (final (step env) .empty calls) :=
    run_inv (step env) (fun db call => (step_effect env db call).accountsKeyed) calls
      fun id acct hg => by simp [Database.empty] at hg
  generalize final (step env) .empty calls = db at hky
  simp only [applyStepUpAction]
  cases h : applyStepUpActionInDatabase db e action with
  | ok db' => exact ⟨fun _ => applyStepUpActionInDatabase_frame hky h, fun he => absurd rfl he⟩
  | error => exact ⟨fun he => (by cases he), fun _ => rfl⟩

/-! ### Two accounts -/

/-- The enrolment of another account. -/
def otherEnrollment : TotpEnrollmentCompletion :=
  let own := sampleEnrollment 30000
  { own with
    factor := { own.factor with factorId := "other-factor", accountId := "other" }
    recoveryCodes := [{ sampleCode with
      recoveryCodeId := "other-code", accountId := "other", codeHash := sampleEnv.sha256 (utf8 "other") }]
    delivery := { own.delivery with
      deliveryId := "other-delivery", accountId := "other", accountSessionId := "other-session"
      factorId := "other-factor" }
    auditEntry := sampleAudit "other-enrolled" "mfa_enabled" "success" 30000 }

def sampleRegistration : DeviceRegistrationCommand :=
  let audit auditId action :=
    { sampleAudit auditId action "success" 60000 with
      actorType := "device", actorDeviceId := some "controller", actorRole := some "none"
      targetDeviceId := some "controller" }
  let command : DeviceRegistrationCommand :=
    { grantId := "grant", grantSecretHash := Vector.replicate 32 3, accountId := "account"
      accountSessionId := "session", protocolVersion := 1, registrationRequestBindingHash := Vector.replicate 32 0
      device := { sampleDevice with
        deviceId := "controller", capabilities := ⟨true, true, false, false⟩, publicKey := Vector.replicate 32 9
        status := .offline }
      trustedDeviceId := some "trusted", registrationAuditEntry := audit "registered" "device_registered"
      grantAuditEntry := audit "consumed" "device_enrollment_grant_consumed"
      trustedDeviceAuditEntry := some (audit "trusted" "trusted_device_added")
      signatureProof :=
        { target := "/", contentType := none, requestId := "request", timestampEpochMillis := 60000, nonce := "nonce"
          signature := String.ofList (List.replicate 64 's'), canonicalBody := [] }
      nowEpochMillis := 60000 }
  { command with registrationRequestBindingHash := command.expectedBinding sampleEnv }

def rotateStepUp : StepUpExpectation :=
  { sampleStepUp 90000 with deviceId := "controller", purpose := "recovery_code_rotate" }

/-- Two accounts with a second factor; one of them has a device, and a step-up verified on it. -/
def rotateCalls : List Call :=
  [.registerAccount { sampleAccount with accountId := "other", email := "other" },
    .issueTokens { sampleSession with accountSessionId := "other-session", accountId := "other" },
    .finishTotpEnrollment otherEnrollment] ++ factorCalls.take 5 ++
  [.registerDevice sampleRegistration,
    .createRiskChallenge { sampleStepUpChallenge with
      deviceId := some "controller", purpose := "recovery_code_rotate", expiresAtEpochMillis := 100000 }
      (sampleAudit "created" "risk_challenge_created" "success" 60000),
    .verifyRiskChallenge { sampleVerification "code" "000003" 90000 with factorKind := "totp" }]

def rotateTo (recoveryCodeId : String) : StepUpAction :=
  .rotateRecoveryCodes [{ sampleCode with recoveryCodeId }]
    (sampleAudit "rotated" "recovery_codes_rotated" "success" 90000)

theorem step_up_frame_rotated :
    let db := final (step sampleEnv) .empty rotateCalls
    (applyStepUpAction db rotateStepUp (rotateTo "fresh")).1 = .ok () ∧
      AccountFrame "account" db (applyStepUpAction db rotateStepUp (rotateTo "fresh")).2 :=
  have hd : (applyStepUpAction (final (step sampleEnv) .empty rotateCalls) rotateStepUp (rotateTo "fresh")).1 =
      .ok () := by decide +kernel
  ⟨hd, ((step_up_frame sampleEnv rotateCalls rotateStepUp (rotateTo "fresh")).1 hd).mpr (by decide +kernel)⟩

/-- A rotation under the identifier of the other account's code: the code is gone. -/
theorem rotated_over_other :
    let db := final (step sampleEnv) .empty rotateCalls
    let rotated := applyStepUpAction db rotateStepUp (rotateTo "other-code")
    rotated.1 = .ok () ∧ db.recoveryCodes["other-code"]?.map (·.accountId) = some "other" ∧
      rotated.2.recoveryCodes["other-code"]?.map (·.accountId) = some "account" := by
  decide +kernel

end Rctl.Api
