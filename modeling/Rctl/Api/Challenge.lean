/-
# Risk challenges and second factors

The operations of `MemoryRepository` that issue, answer, reject, cancel and consume a
challenge, and `verify_factor_in_database`, through which every one-time code and
recovery code is accepted.
-/
import Rctl.Api.Commands

namespace Rctl.Api

open ByteString Result OrdMap

/-! ### How a challenge changes -/

def saturatingPred (n : UInt8) : UInt8 := if n = 0 then 0 else n - 1

namespace RiskChallenge

/-- One attempt less; the last one fails the challenge. -/
def spendAttempt (c : RiskChallenge) : RiskChallenge :=
  { c with
    attemptsRemaining := saturatingPred c.attemptsRemaining
    status := if saturatingPred c.attemptsRemaining = 0 then .failed else c.status }

def verifyAt (now : UInt64) (c : RiskChallenge) : RiskChallenge :=
  { c with status := .verified, verifiedAtEpochMillis := some now }

def consumeAt (now : UInt64) (c : RiskChallenge) : RiskChallenge :=
  { c with status := .consumed, consumedAtEpochMillis := some now }

def setStatus (status : RiskChallengeStatus) (c : RiskChallenge) : RiskChallenge :=
  { c with status := status }

def withMethods (methods : List String) (c : RiskChallenge) : RiskChallenge :=
  { c with requiredMethods := methods }

/-- What an evaluated factor does to its challenge. -/
def judged (accepted : Bool) (now : UInt64) : RiskChallenge → RiskChallenge :=
  if accepted then verifyAt now else spendAttempt

end RiskChallenge

def Database.modifyChallenge (db : Database) (id : String) (f : RiskChallenge → RiskChallenge) :
    Database :=
  { db with riskChallenges := db.riskChallenges.modify id f }

@[simp] theorem Database.modifyChallenge_get (db : Database) (id a : String)
    (f : RiskChallenge → RiskChallenge) : (db.modifyChallenge id f).riskChallenges[a]? =
      if id = a then db.riskChallenges[a]?.map f else db.riskChallenges[a]? :=
  get_modify db.riskChallenges id a f

def Database.insertChallenge (db : Database) (challenge : RiskChallenge) : Database :=
  { db with riskChallenges := db.riskChallenges.insert challenge.riskChallengeId challenge }

def AuditEntry.withReason (entry : AuditEntry) (reason : String) : AuditEntry :=
  { entry with reason := some reason }

/-! ### Issuing, rejecting, cancelling -/

def createRiskChallenge (db : Database) (challenge : RiskChallenge) (auditEntry : AuditEntry) :
    Reply RiskChallengeCreationOutcome := merge do
  ensure (!(challenge.purpose == "login_mfa" || challenge.purpose == "new_controller_device") &&
    challenge.requiredMethods.isEmpty) (.error .conflict, db)
  ensure ((db.accounts[challenge.accountId]?.any (·.status == .active)) &&
    challenge.deviceId.any fun deviceId => db.deviceAuthorized deviceId challenge.accountId)
    (.ok .notAuthorized, db)
  ensure (db.mfaEnabled challenge.accountId || challenge.purpose == "password_change")
    (.ok .mfaEnrollmentRequired, db)
  let requiredMethods := if db.mfaEnabled challenge.accountId then ["totp", "recovery_code"] else ["password"]
  ensure (!(db.riskChallenges.contains challenge.riskChallengeId) && !(db.hasAudit auditEntry.auditId) &&
    auditEntry.actorAccountId == some challenge.accountId) (.error .conflict, db)
  return (.ok (.created (challenge.withMethods requiredMethods)),
    (db.insertChallenge (challenge.withMethods requiredMethods)).pushAudits [auditEntry])

def rejectLoginChallenge (db : Database) (challengeId : String) (challengeBindingHash : Digest)
    (nowEpochMillis : UInt64) (auditEntry : AuditEntry) : Reply Bool := merge do
  ensure (!(db.hasAudit auditEntry.auditId)) (.error .conflict, db)
  let challenge ← okOr db.riskChallenges[challengeId]? (.ok false, db)
  ensure (challenge.purpose == "login_mfa" && challenge.status == .issued &&
    decide (nowEpochMillis < challenge.expiresAtEpochMillis) &&
    constantTimeSha256Eq challenge.operationBindingHash challengeBindingHash) (.ok false, db)
  return (.ok true, (db.modifyChallenge challengeId RiskChallenge.spendAttempt).pushAudits [auditEntry])

def cancelRiskChallenge (db : Database) (challengeId : String) (auditEntry : AuditEntry) :
    Reply Bool := merge do
  let challenge ← okOr db.riskChallenges[challengeId]? (.ok false, db)
  ensure (challenge.status == .issued) (.ok false, db)
  ensure (auditEntry.actorAccountId == some challenge.accountId &&
    auditEntry.action == "risk_challenge_failed" && auditEntry.result == "failure" &&
    auditEntry.reason == some "cancelled" && !(db.hasAudit auditEntry.auditId)) (.error .conflict, db)
  return (.ok true,
    (db.modifyChallenge challengeId (RiskChallenge.setStatus .cancelled)).pushAudits [auditEntry])

/-! ### Accepting a factor -/

section Factors

variable (env : Env) {accepted : Bool} {accountId factorKind code : String} {db db' : Database}
  {now : UInt64}

/-- The branch `"totp"`: the code is checked against the first active factor of the account. -/
def acceptTotp (db : Database) (accountId code : String) (now : UInt64) : Bool × Database :=
  match firstWith db.mfaFactors (·.activeFor accountId) with
  | none => (false, db)
  | some (factorId, factor) =>
    match verifyTotp env factor.secretBase32 code now factor.lastUsedCounter with
    | none => (false, db)
    | some counter =>
      (true, { db with mfaFactors := db.mfaFactors.modify factorId
                         fun factor => { factor with lastUsedCounter := some counter } })

def usableCode (accountId : String) (codeHash : Digest) (now : UInt64) (value : RecoveryCode) : Bool :=
  value.accountId == accountId && value.usedAtEpochMillis.isNone &&
    (value.expiresAtEpochMillis.all fun expires => now < expires) &&
    constantTimeSha256Eq value.codeHash codeHash

/-- The branch `"recovery_code"`. -/
def acceptRecoveryCode (db : Database) (accountId code : String) (now : UInt64) : Bool × Database :=
  match firstWith db.recoveryCodes (usableCode accountId (env.sha256 (utf8 code)) now) with
  | none => (false, db)
  | some (id, _) =>
    (true, { db with recoveryCodes := db.recoveryCodes.modify id
                       fun recovery => { recovery with usedAtEpochMillis := some now } })

def acceptFactor (db : Database) (accountId factorKind code : String) (now : UInt64) :
    Bool × Database :=
  if factorKind = "totp" then acceptTotp env db accountId code now
  else if factorKind = "recovery_code" then acceptRecoveryCode env db accountId code now
  else (false, db)

def RiskChallenge.answerable (challenge : RiskChallenge) (accountId : String) (now : UInt64) : Bool :=
  challenge.accountId == accountId && challenge.status == .issued && challenge.attemptsRemaining != 0 &&
    decide (now < challenge.expiresAtEpochMillis)

/-- The factor is marked as used before the challenge is looked up again, so the
second lookup would leave it marked. -/
def verifyFactorInDatabase (db : Database) (challengeId : Option String)
    (accountId factorKind code : String) (now : UInt64) : Reply Bool := merge do
  let used := acceptFactor env db accountId factorKind code now
  match challengeId with
  | none => return (.ok used.1, used.2)
  | some id =>
    let challenge ← okOr db.riskChallenges[id]? (.error .conflict, db)
    ensure (challenge.answerable accountId now) (.error .conflict, db)
    ensure (used.2.riskChallenges.contains id) (.error .conflict, used.2)
    return (.ok used.1, used.2.modifyChallenge id (RiskChallenge.judged used.1 now))

/-- What accepting or refusing a factor does to the database: a refused factor
changes nothing, an accepted one is marked as used. -/
inductive FactorUse (db : Database) (accountId factorKind code : String) (now : UInt64) :
    Bool → Database → Prop
  | refused : FactorUse db accountId factorKind code now false db
  | totp (factorId : String) (factor : MfaFactor) (counter : UInt64) (hkind : factorKind = "totp")
      (hfirst : firstWith db.mfaFactors (·.activeFor accountId) = some (factorId, factor))
      (hcode : verifyTotp env factor.secretBase32 code now factor.lastUsedCounter = some counter) :
      FactorUse db accountId factorKind code now true
        { db with mfaFactors := db.mfaFactors.modify factorId
                    fun factor => { factor with lastUsedCounter := some counter } }
  | recoveryCode (id : String) (recovery : RecoveryCode) (hkind : factorKind = "recovery_code")
      (hfirst : firstWith db.recoveryCodes (usableCode accountId (env.sha256 (utf8 code)) now) =
        some (id, recovery)) :
      FactorUse db accountId factorKind code now true
        { db with recoveryCodes := db.recoveryCodes.modify id
                    fun recovery => { recovery with usedAtEpochMillis := some now } }

theorem acceptFactor_use (db : Database) (accountId factorKind code : String) (now : UInt64) :
    FactorUse env db accountId factorKind code now (acceptFactor env db accountId factorKind code now).1
      (acceptFactor env db accountId factorKind code now).2 := by
  unfold acceptFactor
  split
  · rename_i hk
    unfold acceptTotp
    split
    · exact .refused
    · rename_i factorId factor hf
      split
      · exact .refused
      · exact .totp factorId factor _ hk hf (by assumption)
  · split_ifs with hk
    · unfold acceptRecoveryCode
      split
      · exact .refused
      · rename_i id recovery hf
        exact .recoveryCode id recovery hk hf
    · exact .refused

theorem FactorUse.frame {env : Env} (h : FactorUse env db accountId factorKind code now accepted db') :
    db' = { db with mfaFactors := db'.mfaFactors, recoveryCodes := db'.recoveryCodes } := by
  cases h <;> rfl

theorem FactorUse.same {env : Env} (h : FactorUse env db accountId factorKind code now accepted db') :
    ∃ factors codes, db' = { db with mfaFactors := factors, recoveryCodes := codes } :=
  ⟨_, _, h.frame⟩

theorem FactorUse.riskChallenges {env : Env} (h : FactorUse env db accountId factorKind code now accepted db') :
    db'.riskChallenges = db.riskChallenges :=
  (congrArg Database.riskChallenges h.frame :)

inductive FactorOutcome (db : Database) (challengeId : Option String)
    (accountId factorKind code : String) (now : UInt64) : Reply Bool → Prop
  | failed (e : StoreError) : FactorOutcome db challengeId accountId factorKind code now (.error e, db)
  | plain (accepted : Bool) (marked : Database) (hid : challengeId = none)
      (huse : FactorUse env db accountId factorKind code now accepted marked) :
      FactorOutcome db challengeId accountId factorKind code now (.ok accepted, marked)
  | judged (id : String) (challenge : RiskChallenge) (accepted : Bool) (marked : Database)
      (hid : challengeId = some id) (hchallenge : db.riskChallenges[id]? = some challenge)
      (hanswerable : challenge.answerable accountId now = true)
      (huse : FactorUse env db accountId factorKind code now accepted marked) :
      FactorOutcome db challengeId accountId factorKind code now
        (.ok accepted, marked.modifyChallenge id (RiskChallenge.judged accepted now))

theorem verifyFactorInDatabase_outcome (db : Database) (challengeId : Option String)
    (accountId factorKind code : String) (now : UInt64) : FactorOutcome env db challengeId accountId factorKind code now
      (verifyFactorInDatabase env db challengeId accountId factorKind code now) := by
  have hu := acceptFactor_use env db accountId factorKind code now
  apply merge_post
  cases challengeId with
  | none => exact post_pure (.plain _ _ rfl hu)
  | some id =>
    refine post_bind (post_okOr fun _ => .failed .conflict) fun ch hch => ?_
    refine post_bind (post_ensure fun _ => .failed .conflict) fun _ ha => ?_
    refine post_bind (post_ensure fun habsent => ?_) fun _ _ =>
      post_pure (.judged id ch _ _ rfl hch ha hu)
    -- accepting a factor does not remove the challenge
    rw [hu.riskChallenges, contains_eq_false, hch] at habsent
    cases habsent

/-! ### Answering a challenge -/

/-- A factor for a challenge: the answer and the database with the factor marked and
the challenge judged. A factor of a method the challenge does not list is refused, and
a password is for the purpose `password_change` only. -/
def evaluateFactor (db : Database) (authority : RiskChallenge) (passwordHash : String)
    (v : RiskChallengeVerification) : Except StoreError (Bool × Database) :=
  let judge := fun accepted =>
    (accepted, db.modifyChallenge v.challengeId (RiskChallenge.judged accepted v.nowEpochMillis))
  if !(authority.requiredMethods.contains v.factorKind) then .ok (judge false)
  else if v.factorKind == "password" then
    .ok (judge (authority.purpose == "password_change" &&
      env.verifyPassword passwordHash v.factorCode))
  else
    match verifyFactorInDatabase env db (some v.challengeId) v.accountId v.factorKind v.factorCode
      v.nowEpochMillis with
    | (.ok accepted, db') => .ok (accepted, db')
    | (.error e, _) => .error e

def recoveryCodeAudits (v : RiskChallengeVerification) : Except StoreError (List AuditEntry) :=
  if v.factorKind == "recovery_code" then (okOr v.recoveryCodeAuditEntry .conflict).map ([·]) else .ok []

def verifyRiskChallenge (db : Database) (v : RiskChallengeVerification) :
    Reply RiskChallengeVerificationOutcome := merge do
  let account ← okOr db.accounts[v.accountId]? (.ok .rejected, db)
  ensure (account.status == .active) (.ok .rejected, db)
  let authority ← okOr db.riskChallenges[v.challengeId]? (.ok .rejected, db)
  ensure (authority.accountId == v.accountId && authority.purpose != "login_mfa") (.ok .rejected, db)
  ensure (authority.deviceId.any fun deviceId => db.deviceAuthorized deviceId v.accountId)
    (.ok .rejected, db)
  ensure (!(authority.status == .verified && authority.verifiedAtEpochMillis.isSome &&
    authority.consumedAtEpochMillis.isNone && decide (v.nowEpochMillis < authority.expiresAtEpochMillis)))
    (.ok (.alreadyVerified authority), db)
  ensure (authority.status == .issued && authority.attemptsRemaining != 0 &&
    authority.consumedAtEpochMillis.isNone) (.ok .rejected, db)
  ensure (!(db.hasAudit v.successAuditEntry.auditId || db.hasAudit v.failureAuditEntry.auditId ||
    v.recoveryCodeAuditEntry.any fun audit => db.hasAudit audit.auditId)) (.error .conflict, db)
  ensure (v.nowEpochMillis < authority.expiresAtEpochMillis)
    (.ok .rejected, (db.modifyChallenge v.challengeId (RiskChallenge.setStatus .expired)).pushAudits
      [v.failureAuditEntry.withReason "expired"])
  let evaluated ← orFail db (evaluateFactor env db authority account.passwordHash v)
  let challenge ← okOr evaluated.2.riskChallenges[v.challengeId]? (.error .unavailable, db)
  if evaluated.1 then
    let recoveryAudits ← orFail db (recoveryCodeAudits v)
    return (.ok (.verified challenge), evaluated.2.pushAudits (v.successAuditEntry :: recoveryAudits))
  else
    return (.ok .rejected, evaluated.2.pushAudits [v.failureAuditEntry])

def FactorMark (db : Database) (accountId factorKind code : String) (now : UInt64) (accepted : Bool)
    (marked : Database) : Prop :=
  (marked = db ∧ (accepted = true → factorKind = "password")) ∨
    FactorUse env db accountId factorKind code now accepted marked

/-- However the factor was evaluated, the challenge is judged once, and only a password is
accepted without being marked. -/
theorem evaluateFactor_judged {auth : RiskChallenge} {passwordHash : String}
    {v : RiskChallengeVerification} {evaluated : Bool × Database}
    (h : evaluateFactor env db auth passwordHash v = .ok evaluated) :
    ∃ marked, FactorMark env db v.accountId v.factorKind v.factorCode v.nowEpochMillis evaluated.1 marked ∧
      evaluated.2 = marked.modifyChallenge v.challengeId (RiskChallenge.judged evaluated.1 v.nowEpochMillis) := by
  unfold evaluateFactor at h
  split at h
  · cases h
    exact ⟨db, .inl ⟨rfl, nofun⟩, rfl⟩
  split at h
  · rename_i hk
    cases h
    exact ⟨db, .inl ⟨rfl, fun _ => beq_iff_eq.mp hk⟩, rfl⟩
  have ho := verifyFactorInDatabase_outcome env db (some v.challengeId) v.accountId v.factorKind
    v.factorCode v.nowEpochMillis
  split at h
  · rename_i hvf
    rw [hvf] at ho
    cases h
    cases ho with
    | plain _ _ hid => cases hid
    | judged _ _ _ marked hid _ _ hu =>
      cases hid
      exact ⟨marked, .inr hu, rfl⟩
  · cases h

theorem FactorMark.same {env : Env} {marked : Database}
    (h : FactorMark env db accountId factorKind code now accepted marked) :
    ∃ factors codes, marked = { db with mfaFactors := factors, recoveryCodes := codes } := by
  rcases h with ⟨rfl, _⟩ | hu
  · exact ⟨_, _, rfl⟩
  · exact hu.same

theorem FactorMark.riskChallenges {env : Env} {marked : Database}
    (h : FactorMark env db accountId factorKind code now accepted marked) :
    marked.riskChallenges = db.riskChallenges := by
  obtain ⟨_, _, rfl⟩ := h.same
  rfl

end Factors

/-! ### Consuming a step-up -/

def stepUpMatches (db : Database) (e : StepUpExpectation) : Bool :=
  db.riskChallenges[e.challengeId]?.any fun challenge =>
    challenge.status == .verified && decide (e.nowEpochMillis < challenge.expiresAtEpochMillis) &&
      challenge.accountId == e.accountId && challenge.deviceId == some e.deviceId &&
      challenge.purpose == e.purpose && challenge.verifiedAtEpochMillis.isSome &&
      challenge.consumedAtEpochMillis.isNone &&
      constantTimeSha256Eq challenge.operationBindingHash e.operationBindingHash

def consumeStepUpInDatabase (db : Database) (e : StepUpExpectation) : Except StoreError Database := do
  ensure (stepUpMatches db e) .conflict
  let _ ← okOr db.riskChallenges[e.challengeId]? .conflict
  return db.modifyChallenge e.challengeId (RiskChallenge.consumeAt e.nowEpochMillis)

def consumeStepUp (db : Database) (e : StepUpExpectation) : Reply Unit := merge do
  let db' ← orFail db (consumeStepUpInDatabase db e)
  return (.ok (), db')

/-- The challenge is verified, unexpired and bound to the account, device and purpose. -/
structure StepUpGranted (db : Database) (e : StepUpExpectation) (challenge : RiskChallenge) : Prop where
  hchallenge : db.riskChallenges[e.challengeId]? = some challenge
  hverified : challenge.status = .verified
  hnow : e.nowEpochMillis < challenge.expiresAtEpochMillis
  haccount : challenge.accountId = e.accountId
  hdevice : challenge.deviceId = some e.deviceId
  hpurpose : challenge.purpose = e.purpose
  hbinding : challenge.operationBindingHash = e.operationBindingHash

variable {e : StepUpExpectation}

theorem stepUpMatches_granted {db : Database} (h : stepUpMatches db e = true) :
    ∃ challenge, StepUpGranted db e challenge := by
  obtain ⟨challenge, hch, h⟩ := (Option.any_eq_true _ _).mp h
  simp only [Bool.and_eq_true, beq_iff_eq, decide_eq_true_eq, constantTimeSha256Eq_iff] at h
  obtain ⟨⟨⟨⟨⟨⟨⟨h1, h2⟩, h3⟩, h4⟩, h5⟩, _⟩, _⟩, h8⟩ := h
  exact ⟨challenge, hch, h1, h2, h3, h4, h5, h8⟩

theorem consumeStepUpInDatabase_eq_ok {db db' : Database} (h : consumeStepUpInDatabase db e = .ok db') :
    (∃ ch, StepUpGranted db e ch) ∧
      db' = db.modifyChallenge e.challengeId (RiskChallenge.consumeAt e.nowEpochMillis) := by
  simp only [consumeStepUpInDatabase, bind_eq_ok, ensure_eq_ok, pure_eq_ok] at h
  obtain ⟨_, hmt, _, _, rfl⟩ := h
  exact ⟨stepUpMatches_granted hmt, rfl⟩

end Rctl.Api
