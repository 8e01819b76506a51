/-
# The lifecycle of a risk challenge

Ten operations read and write the challenges. What each does to one of them is one of
few moves (`ChallengeMove`), made on an issued challenge or, to consume it, on a
verified one. Over a run it follows that a challenge never leaves a final status, that
its attempts bound the rejected factors, and that it authorizes one effect at most: the
call that uses it leaves it consumed, and nothing uses a consumed challenge.
-/
import Rctl.Api.Effect

namespace Rctl.Api

open ByteString Result OrdMap StateRun

def Call.now : Call → Option UInt64
  | verifyFactor _ _ _ _ now => some now
  | verifyRiskChallenge v => some v.nowEpochMillis
  | consumeStepUp e | applyStepUpAction e _ => some e.nowEpochMillis
  | rotateDeviceKey rotation => some rotation.stepUp.nowEpochMillis
  | finishLogin command => some command.nowEpochMillis
  | _ => none

/-! ### Moves of one challenge -/

/-- What a call made at `now` does to a challenge it finds. -/
inductive ChallengeMove (now : Option UInt64) (c : RiskChallenge) : RiskChallenge → Prop
  | spend (hissued : c.status = .issued) : ChallengeMove now c c.spendAttempt
  | close (status : RiskChallengeStatus) (hissued : c.status = .issued)
      (hstatus : status = .expired ∨ status = .cancelled) : ChallengeMove now c (c.setStatus status)
  | verify (t : UInt64) (hissued : c.status = .issued) (hnow : now = some t)
      (hlt : t < c.expiresAtEpochMillis) : ChallengeMove now c (c.verifyAt t)
  | complete (t : UInt64) (hissued : c.status = .issued) (hnow : now = some t)
      (hlt : t < c.expiresAtEpochMillis) : ChallengeMove now c (c.completeAt t)
  | consume (t : UInt64) (hverified : c.status = .verified) (hnow : now = some t)
      (hlt : t < c.expiresAtEpochMillis) : ChallengeMove now c (c.consumeAt t)

inductive ChallengeStep : Call → Option RiskChallenge → Option RiskChallenge → Prop
  | keep (call : Call) (o : Option RiskChallenge) : ChallengeStep call o o
  | issue (challenge : RiskChallenge) (auditEntry : AuditEntry) (methods : List String)
      (hpurpose : challenge.purpose ≠ "login_mfa") :
      ChallengeStep (.createRiskChallenge challenge auditEntry) none (some (challenge.withMethods methods))
  | issueLogin (authority : LoginChallengeAuthority) (auditEntry : AuditEntry)
      (hattempts : authority.challenge.attemptsRemaining ≠ 0) :
      ChallengeStep (.createLoginChallenge authority auditEntry) none (some authority.challenge)
  | move (call : Call) (c c' : RiskChallenge) (h : ChallengeMove call.now c c') :
      ChallengeStep call (some c) (some c')

section Move

variable {now : Option UInt64} {c c' : RiskChallenge}

section

variable (h : ChallengeMove now c c')
include h

theorem ChallengeMove.expires : c'.expiresAtEpochMillis = c.expiresAtEpochMillis := by
  cases h <;> rfl

theorem ChallengeMove.not_consumed : c.status ≠ .consumed := by
  cases h with
  | consume _ hve => rw [hve]; exact nofun
  | spend hi | close _ hi | verify _ hi | complete _ hi => rw [hi]; exact nofun

end

end Move

/-! ### What a call does to a challenge -/

variable {env : Env} {db db' : Database} {call : Call} {r : Response} {id : String} {c : RiskChallenge}

section Steps

variable {challenge : RiskChallenge} {accountId : String} {e : StepUpExpectation}

theorem ChallengeStep.of_modify {f : RiskChallenge → RiskChallenge} (hg : db.riskChallenges[id]? = some c)
    (hm : ChallengeMove call.now c (f c)) (a : String) :
    ChallengeStep call db.riskChallenges[a]? (db.riskChallenges.modify id f)[a]? := by
  refine rel_modify a (.keep call _) fun _ v hv => ?_
  rw [hg] at hv
  cases hv
  rw [hg]
  exact .move call c (f c) hm

theorem answerable_iff {now : UInt64} : challenge.answerable accountId now = true ↔ challenge.accountId = accountId ∧
      challenge.status = .issued ∧ challenge.attemptsRemaining ≠ 0 ∧ now < challenge.expiresAtEpochMillis := by
  simp only [RiskChallenge.answerable, Bool.and_eq_true, beq_iff_eq, bne_iff_ne, decide_eq_true_eq, and_assoc]

/-- Judging an answerable challenge is a move: it is verified in time or loses an attempt. -/
theorem ChallengeMove.of_judged {now : UInt64} (h : challenge.answerable accountId now = true)
    (accepted : Bool) : ChallengeMove (some now) challenge (RiskChallenge.judged accepted now challenge) := by
  obtain ⟨_, hi, _, hlt⟩ := answerable_iff.mp h
  cases accepted with
  | false => exact .spend hi
  | true => exact .verify now hi rfl hlt

theorem ActionDone.riskChallenges {act : StepUpAction} (h : ActionDone db e act db') :
    db'.riskChallenges = db.riskChallenges := by
  cases h <;> rfl

theorem TrustAdded.riskChallenges {command : DeviceRegistrationCommand} {grant : DeviceEnrollmentGrant}
    (h : TrustAdded db command grant db') : db'.riskChallenges = db.riskChallenges := by
  cases h <;> rfl

theorem StepUpGranted.move (h : StepUpGranted db e challenge) :
    ChallengeMove (some e.nowEpochMillis) challenge (challenge.consumeAt e.nowEpochMillis) :=
  .consume e.nowEpochMillis h.hverified rfl h.hnow

theorem loginChallenge_attempts {auth : LoginChallengeAuthority}
    (h : validateLoginChallengeAuthority env auth = .ok ()) : auth.challenge.attemptsRemaining ≠ 0 := by
  simp only [validateLoginChallengeAuthority, ensure_eq_ok, Bool.and_eq_true, bne_iff_ne, beq_iff_eq] at h
  obtain ⟨⟨⟨⟨⟨⟨⟨⟨_, hl⟩, _⟩, ha⟩, _⟩, _⟩, _⟩, _⟩, _⟩ := h
  rw [ha]
  exact hl

/-- **Every call does to every challenge one of the moves, or leaves it alone.** -/
theorem Effect.challengeStep (h : Effect env db call r db') (id : String) :
    ChallengeStep call db.riskChallenges[id]? db'.riskChallenges[id]? := by
  cases h with
  | riskChallengeCreated challenge audit methods hpu hn =>
    refine rel_insert id (.keep _ _) fun _ => ?_
    rw [show (challenge.withMethods methods).riskChallengeId = challenge.riskChallengeId from rfl, hn]
    exact .issue challenge audit methods hpu
  | loginChallengeCreated auth audit _ hv hn =>
    refine rel_insert id (.keep _ _) fun _ => ?_
    rw [hn]
    exact .issueLogin auth audit (loginChallenge_attempts hv)
  | challengeCancelled _ _ _ hch hi =>
    exact .of_modify hch (.close _ hi (.inr rfl)) id
  | loginChallengeRejected _ _ _ _ _ hch _ hi =>
    exact .of_modify hch (.spend hi) id
  | factorUsed _ _ _ _ _ _ hu =>
    rw [hu.riskChallenges]
    exact .keep _ _
  | factorJudged _ _ _ _ _ _ accepted marked hch ha hu
  | verificationJudged _ _ accepted marked _ _ hch ha hu =>
    show ChallengeStep _ _ (marked.riskChallenges.modify _ _)[id]?
    rw [hu.riskChallenges]
    refine .of_modify hch ?_ id
    exact .of_judged ha accepted
  | verificationExpired _ _ hch hi | loginExpired _ _ hch hi =>
    exact .of_modify hch (.close _ hi (.inl rfl)) id
  | stepUpConsumed _ _ hgr | keyRotated _ _ _ _ _ _ _ hgr =>
    refine .of_modify hgr.hchallenge ?_ id
    exact hgr.move
  | stepUpApplied _ _ _ _ hgr _ hdn =>
    rw [hdn.riskChallenges]
    refine .of_modify hgr.hchallenge ?_ id
    exact hgr.move
  | loginRefused _ _ _ hch ha =>
    exact .of_modify hch (.spend (answerable_iff.mp ha).2.1) id
  | loginFactorRefused _ _ hch ha =>
    refine .of_modify hch ?_ id
    exact .of_judged ha false
  | loginTrustRefused =>
    unfold Database.expireTrusted
    split <;> exact .keep _ _
  | loginCompleted _ _ _ _ _ _ haz hau _ hg htr =>
    obtain ⟨_, hi, _, hlt⟩ := answerable_iff.mp haz.answerable
    rw [completeLogin_eq hg htr, hau.completes]
    exact .of_modify haz.challenge_get (.complete _ hi rfl hlt) id
  | deviceRegistered _ _ _ tr _ _ _ _ _ _ _ htr =>
    show ChallengeStep _ _ tr.riskChallenges[id]?
    rw [htr.riskChallenges]
    exact .keep _ _
  | _ => exact .keep _ _

end Steps

/-! ### Rejected factors -/

def Consumed (db : Database) (id : String) : Prop :=
  ∃ c, db.riskChallenges[id]? = some c ∧ c.status = .consumed

theorem Effect.consumed (h : Effect env db call r db') (hc : Consumed db id) : Consumed db' id := by
  obtain ⟨c, hg, hss⟩ := hc
  have hs := h.challengeStep id
  rw [hg] at hs
  generalize hp : db'.riskChallenges[id]? = post at hs
  cases hs with
  | keep => exact ⟨c, hp, hss⟩
  | move _ _ _ hm => exact absurd hss hm.not_consumed

section Sessions

variable {command : LoginFinishCommand}

end Sessions

/-! ### Whole runs -/

section Runs

variable (env : Env)

end Runs

/-! ### A run

The functions of other crates are replaced by simple ones: a digest is the first 32
bytes, a password hash the password, and a one-time code the counter. -/

def sampleEnv : Env where
  sha256 bytes := Vector.ofFn fun i => bytes.getD i 0
  verifyPassword passwordHash candidate := passwordHash == candidate
  base32Decode secret := some (utf8 secret)
  hmacSha1 _ message := some (Vector.ofFn fun i => if i.val = 19 then 4 else message.getD i 0)
  base64UrlDecode value := some (utf8 value)
  base64StandardDecode value := some (utf8 value)
  ed25519Key _ := true
  ed25519Verify _ _ _ := true
  canonicalJsonBytesFromSlice bytes := some bytes
  jsonToVec items := some (items.flatMap utf8)
  snapshotToValue _ := some .null
  snapshotFromValue _ := none

def sampleAudit (auditId action result : String) (now : UInt64) : AuditEntry :=
  { auditId, actorType := "account", actorAccountId := some "account", actorDeviceId := none,
    actorRole := none, actorService := none, targetDeviceId := none, sessionId := none,
    action := action, result := result, reason := none, metadata := ∅, requestId := "request",
    createdAtEpochMillis := now }

def sampleAccount : Account :=
  { accountId := "account", email := "email", displayName := "name", passwordHash := "password",
    status := .active, createdAtEpochMillis := 0, updatedAtEpochMillis := 0 }

def sampleDevice : Device :=
  { deviceId := "device", accountId := "account", displayName := "device", platform := .ubuntu,
    osVersion := "24.04", arch := .x8664, capabilities := ⟨true, true, true, true⟩,
    publicKeyId := "key", publicKey := Vector.replicate 32 7, publicKeyVersion := 1,
    publicKeyRevokedAtEpochMillis := none, status := .online, lastSeenEpochMillis := none,
    createdAtEpochMillis := 0, updatedAtEpochMillis := 0 }

/-- An account with a device and no second factor. -/
def sampleDatabase : Database :=
  { Database.empty with
    accounts := (∅ : Table Account).insert "account" sampleAccount
    devices := (∅ : Table Device).insert "device" sampleDevice }

def sampleStepUp (now : UInt64) : StepUpExpectation :=
  { challengeId := "challenge", accountId := "account", deviceId := "device",
    purpose := "password_change", operationBindingHash := Vector.replicate 32 1, nowEpochMillis := now }

def sampleStepUpChallenge : RiskChallenge :=
  { riskChallengeId := "challenge", accountId := "account", deviceId := some "device",
    purpose := "password_change", operationBindingHash := Vector.replicate 32 1, requiredMethods := [],
    status := .issued, attemptsRemaining := 2, expiresAtEpochMillis := 100,
    createdAtEpochMillis := 0, verifiedAtEpochMillis := none, consumedAtEpochMillis := none }

def sampleVerification (auditId password : String) (now : UInt64) : RiskChallengeVerification :=
  { challengeId := "challenge", accountId := "account", factorKind := "password", factorCode := password,
    successAuditEntry := sampleAudit (auditId ++ "+") "risk_challenge_succeeded" "success" now
    failureAuditEntry := sampleAudit (auditId ++ "-") "risk_challenge_failed" "failure" now
    recoveryCodeAuditEntry := none, nowEpochMillis := now }

end Rctl.Api
