/-
# The device of a step-up

A step-up challenge is verified while its device is authorized, and stays verified until it
is consumed, whatever happens to the device. `apply_step_up_action` therefore looks at the
device again. `rotate_device_key` and `consume_step_up` do not: a device that has been
disabled in between gets a new key (`disabled_device_rotates`).

Where no device loses its authority while a challenge for it is verified, and a factor is
judged for a challenge only while its device is authorized, every step-up that takes effect
is one of a live device (`step_ups_on_live_devices`).
-/
import Rctl.Api.LiveSessions

namespace Rctl.Api

open ByteString Result OrdMap StateRun

/-- The device of the challenge belongs to its account and is authorizable. -/
def RiskChallenge.deviceAuthorizedIn (db : Database) (c : RiskChallenge) : Bool :=
  c.deviceId.any fun deviceId => db.deviceAuthorized deviceId c.accountId

def VerifiedOnAuthorized (db : Database) : Prop :=
  ∀ (id : String) (c : RiskChallenge), db.riskChallenges[id]? = some c → c.status = .verified →
    c.deviceAuthorizedIn db = true

def Database.hasVerified (db : Database) (deviceId : String) : Bool :=
  anyValue db.riskChallenges fun c => c.status == .verified && c.deviceId == some deviceId

/-- The call keeps away from verified challenges: it creates none, it takes no authority from a
device that has one, and a factor it judges is for a challenge of an authorized device. A change
that is not allowed and a challenge that is not open take no effect. -/
def StepUpGuarded (db : Database) : Call → Bool
  | .createRiskChallenge challenge _ => challenge.status != .verified
  | .createLoginChallenge authority _ => authority.challenge.status != .verified
  | .manageDevice command => !command.tightening || !db.hasVerified command.targetDeviceId ||
      db.devices[command.targetDeviceId]?.all (!deviceManagementTransitionAllowed · command)
  | .verifyFactor (some id) _ _ _ _ => db.riskChallenges[id]?.all fun c =>
      c.status != .issued || c.deviceAuthorizedIn db
  | _ => true

variable {env : Env} {db db' : Database} {call : Call} {r : Response}

section Verified

variable {deviceId accountId : String} {c : RiskChallenge}

/-- A challenge that is verified after a call was so before it, or has an authorized device. -/
def VerifiedFrom (db' : Database) (pre post : Option RiskChallenge) : Prop :=
  ∀ c, post = some c → c.status = .verified → pre = some c ∨ c.deviceAuthorizedIn db' = true

theorem VerifiedFrom.keep (o : Option RiskChallenge) : VerifiedFrom db' o o := fun _ hc _ => .inl hc

theorem VerifiedFrom.of_unverified {pre : Option RiskChallenge} (h : c.status ≠ .verified) :
    VerifiedFrom db' pre (some c) := by
  rintro _ ⟨⟩ hve
  exact absurd hve h

theorem VerifiedFrom.of_modify {id : String} {f : RiskChallenge → RiskChallenge}
    (hg : db.riskChallenges[id]? = some c) (hf : VerifiedFrom db' (some c) (some (f c))) (a : String) :
    VerifiedFrom db' db.riskChallenges[a]? (db.riskChallenges.modify id f)[a]? := by
  refine rel_modify a (.keep _) fun _ v hv => ?_
  rw [hg] at hv
  cases hv
  rw [hg]
  exact hf

theorem spendAttempt_unverified (h : c.status = .issued) : c.spendAttempt.status ≠ .verified := by
  show (if saturatingPred c.attemptsRemaining = 0 then RiskChallengeStatus.failed else c.status) ≠ .verified
  split
  · exact nofun
  · rw [h]
    exact nofun

theorem VerifiedFrom.of_judged {now : UInt64} (hi : c.status = .issued) (accepted : Bool)
    (hdv : c.deviceAuthorizedIn db' = true) :
    VerifiedFrom db' (some c) (some (RiskChallenge.judged accepted now c)) := by
  cases accepted with
  | false => exact .of_unverified (spendAttempt_unverified hi)
  | true =>
    rintro _ ⟨⟩ _
    exact .inr hdv

/-- **A challenge is verified while its device is authorized.** -/
theorem Effect.verifiedFrom (h : Effect env db call r db') (hg : StepUpGuarded db call = true) (id : String) :
    VerifiedFrom db' db.riskChallenges[id]? db'.riskChallenges[id]? := by
  cases h with
  | riskChallengeCreated => exact rel_insert id (.keep _) fun _ => .of_unverified (bne_iff_ne.mp hg)
  | loginChallengeCreated => exact rel_insert id (.keep _) fun _ => .of_unverified (bne_iff_ne.mp hg)
  | challengeCancelled _ _ _ hch =>
    exact .of_modify hch (.of_unverified (by nofun)) id
  | loginChallengeRejected _ _ _ _ _ hch _ hi =>
    exact .of_modify hch (.of_unverified (spendAttempt_unverified hi)) id
  | factorUsed _ _ _ _ _ _ hu =>
    rw [hu.riskChallenges]
    exact .keep _
  | factorJudged _ _ _ _ _ ch accepted _ hch ha hu =>
    have hdv : ch.deviceAuthorizedIn db = true := by
      simpa [StepUpGuarded, hch, (answerable_iff.mp ha).2.1] using hg
    obtain ⟨_, _, rfl⟩ := hu.same
    exact .of_modify hch (.of_judged (answerable_iff.mp ha).2.1 accepted hdv) id
  | verificationExpired _ _ hch | loginExpired _ _ hch =>
    exact .of_modify hch (.of_unverified (by nofun)) id
  | verificationJudged _ _ accepted _ _ _ hch ha hmark _ hdv =>
    obtain ⟨hac, hi, _⟩ := answerable_iff.mp ha
    rw [← hac] at hdv
    obtain ⟨_, _, rfl⟩ := hmark.same
    exact .of_modify hch (.of_judged hi accepted hdv) id
  | stepUpConsumed _ _ hgr => exact .of_modify hgr.hchallenge (.of_unverified (by nofun)) id
  | stepUpApplied _ _ _ _ hgr _ hdn =>
    rw [hdn.riskChallenges]
    exact .of_modify hgr.hchallenge (.of_unverified (by nofun)) id
  | loginRefused _ _ _ hch ha | loginFactorRefused _ _ hch ha =>
    exact .of_modify hch (.of_unverified (spendAttempt_unverified (answerable_iff.mp ha).2.1)) id
  | loginTrustRefused =>
    unfold Database.expireTrusted
    split <;> exact .keep _
  | loginCompleted _ _ _ _ _ _ haz hau _ hgt htr =>
    rw [completeLogin_eq hgt htr, hau.completes]
    exact .of_modify haz.challenge_get (.of_unverified (by nofun)) id
  | keyRotated _ _ _ _ _ _ _ hgr =>
    exact .of_modify hgr.hchallenge (.of_unverified (by nofun)) id
  | deviceRegistered _ _ _ tr _ _ _ _ _ _ _ htr =>
    show VerifiedFrom _ _ tr.riskChallenges[id]?
    rw [htr.riskChallenges]
    exact .keep _
  | _ => exact .keep _

theorem deviceAuthorized_iff : db.deviceAuthorized deviceId accountId = true ↔
    ∃ d, db.devices[deviceId]? = some d ∧ d.accountId = accountId ∧ d.status.isAuthorizable = true := by
  simp only [Database.deviceAuthorized, Option.any_eq_true, Bool.and_eq_true, beq_iff_eq]

/-- A device is authorized until it is disabled, unbound or has its key revoked. -/
theorem Effect.deviceAuthorized_kept (h : Effect env db call r db') (hs : DevicesSettled db)
    (hl : ∀ cmd d, call = .manageDevice cmd → cmd.targetDeviceId = deviceId → db.devices[deviceId]? = some d →
      deviceManagementTransitionAllowed d cmd = true → cmd.tightening = false)
    (haz : db.deviceAuthorized deviceId accountId = true) : db'.deviceAuthorized deviceId accountId = true := by
  obtain ⟨d, hd, hac, ha⟩ := deviceAuthorized_iff.mp haz
  have hu := (hs deviceId d hd).alive ha
  have hst := h.deviceStep deviceId
  rw [hd] at hst
  rw [deviceAuthorized_iff]
  generalize db'.devices[deviceId]? = post at hst ⊢
  cases hst with
  | keep => exact ⟨d, rfl, hac, ha⟩
  | manage cmd _ hcl hid _ hal =>
    have hai := applyDeviceManagement_alive hal (hl cmd d hcl hid hd hal) ha hu
    exact ⟨_, rfl, (applyDeviceManagement_owner cmd d).1.trans hac, hai.1⟩
  | rotate => exact ⟨_, rfl, hac, ha⟩

theorem Effect.verifiedOnAuthorized (h : Effect env db call r db') (hg : StepUpGuarded db call = true)
    (hs : DevicesSettled db) (hdb : VerifiedOnAuthorized db) : VerifiedOnAuthorized db' := by
  intro id c hc hve
  rcases h.verifiedFrom hg id c hc hve with hp | hnow
  · -- it was verified before, so its device is not one that loses its authority now
    obtain ⟨deviceId, hdv, haz⟩ := (Option.any_eq_true _ _).mp (hdb id c hp hve)
    refine (Option.any_eq_true _ _).mpr ⟨deviceId, hdv, h.deviceAuthorized_kept hs ?_ haz⟩
    rintro cmd d rfl rfl hd hal
    cases ht : cmd.tightening with
    | false => rfl
    | true =>
      have hno : db.hasVerified cmd.targetDeviceId = false := by
        simpa [StepUpGuarded, ht, hd, hal] using hg
      have ho := anyValue_eq_false.mp hno id c hp
      rw [hve, hdv] at ho
      simp at ho
  · exact hnow

end Verified

/-! ### Runs -/

def effectiveStepUp (e : CallEntry) : Option StepUpExpectation :=
  match e.call, e.out with
  | .applyStepUpAction stepUp _, .unit (.ok _) => some stepUp
  | .rotateDeviceKey rotation, .keyRotation (.ok _) => some rotation.stepUp
  | .consumeStepUp stepUp, .unit (.ok _) => some stepUp
  | _, _ => none

def StepUpExpectation.OnLiveDevice (db : Database) (stepUp : StepUpExpectation) : Prop :=
  ∃ device, db.devices[stepUp.deviceId]? = some device ∧ device.accountId = stepUp.accountId ∧
    device.status.isAuthorizable = true ∧ device.publicKeyRevokedAtEpochMillis = none

section Runs

variable {stepUp : StepUpExpectation}

theorem Effect.effective_granted (h : Effect env db call r db')
    (hstepUp : effectiveStepUp ⟨db, call, r, db'⟩ = some stepUp) : ∃ challenge, StepUpGranted db stepUp challenge := by
  unfold effectiveStepUp at hstepUp
  split at hstepUp
  case h_4 => cases hstepUp
  all_goals
    rename_i hc ho
    cases hc
    cases ho
    cases hstepUp
    cases h
    case none hqt => cases hqt
    exact ⟨_, by assumption⟩

/-- **Step-ups that take effect are those of live devices**, in every run of the repository
in which no device loses its authority while a challenge for it is verified, challenges
are issued as the routes issue them, and a factor is judged for a challenge only while its
device is authorized. -/
theorem step_ups_on_live_devices (env : Env) (db : Database) (hverified : VerifiedOnAuthorized db)
    (hsettled : DevicesSettled db) (calls : List Call)
    (hguarded : ∀ e ∈ trace (step env) db calls, StepUpGuarded e.pre e.call = true) :
    ∀ e ∈ trace (step env) db calls, ∀ stepUp, effectiveStepUp e = some stepUp → stepUp.OnLiveDevice e.pre := by
  intro e he stepUp hstepUp
  have hst : ∀ db call, StepUpGuarded db call = true → VerifiedOnAuthorized db ∧ DevicesSettled db →
      VerifiedOnAuthorized (step env db call).2 ∧ DevicesSettled (step env db call).2 := by
    rintro db call hguarded ⟨hverified, hsettled⟩
    exact ⟨(step_effect env db call).verifiedOnAuthorized hguarded hsettled hverified,
      devicesSettled_step hsettled call⟩
  obtain ⟨hen, ⟨hverified, hsettled⟩, _⟩ := forall_trace_of (step env) hst calls ⟨hverified, hsettled⟩ hguarded e he
  rw [hen] at hstepUp
  obtain ⟨ch, hgr⟩ := (step_effect env e.pre e.call).effective_granted hstepUp
  have haz := hverified _ ch hgr.hchallenge hgr.hverified
  rw [RiskChallenge.deviceAuthorizedIn, hgr.hdevice, hgr.haccount] at haz
  obtain ⟨device, hdv, hac, ha⟩ := deviceAuthorized_iff.mp haz
  exact ⟨device, hdv, hac, ha, (hsettled _ device hdv).alive ha⟩

end Runs

/-! ### A disabled device gets a new key -/

/-- An account with a device and a second factor. -/
def factorDatabase : Database :=
  { sampleDatabase with mfaFactors := (∅ : Table MfaFactor).insert "factor" sampleFactor }

def rotationStepUp : StepUpExpectation := { sampleStepUp 60002 with purpose := "device_key_rotation" }

def sampleRotation : DeviceKeyRotation :=
  { stepUp := rotationStepUp, currentPublicKeyId := "key", currentPublicKeyVersion := 1,
    newPublicKeyId := "new-key", newPublicKey := Vector.replicate 32 8, newPublicKeyVersion := 2,
    auditEntry :=
      { sampleAudit "rotated" "device_public_key_rotated" "success" 60002 with
        actorType := "device", actorDeviceId := some "device", targetDeviceId := some "device" } }

/-- A challenge for the rotation of the key, verified by a one-time code. -/
def verifiedCalls : List Call :=
  [.createRiskChallenge
      { sampleStepUpChallenge with purpose := "device_key_rotation", expiresAtEpochMillis := 100000 }
      (sampleAudit "created" "risk_challenge_created" "success" 1),
    .verifyRiskChallenge { sampleVerification "code" "000002" 60000 with factorKind := "totp" }]

theorem factorDatabase_verified : VerifiedOnAuthorized factorDatabase := by
  intro id c hc
  simp [factorDatabase, sampleDatabase, Database.empty] at hc

theorem factorDatabase_settled : DevicesSettled factorDatabase := by
  intro id d hd
  rcases of_get_insert hd with ⟨-, rfl⟩ | hd
  · exact ⟨fun h => absurd rfl h, nofun⟩
  · simp at hd

theorem step_ups_on_live_devices_rotation :
    (∀ e ∈ trace (step sampleEnv) factorDatabase (verifiedCalls ++ [.rotateDeviceKey sampleRotation]),
      ∀ stepUp, effectiveStepUp e = some stepUp → stepUp.OnLiveDevice e.pre) ∧
      ∃ e ∈ trace (step sampleEnv) factorDatabase (verifiedCalls ++ [.rotateDeviceKey sampleRotation]),
        (effectiveStepUp e).isSome = true :=
  ⟨step_ups_on_live_devices sampleEnv factorDatabase factorDatabase_verified factorDatabase_settled _
    (by decide +kernel), by decide +kernel⟩

/-- The device is disabled after the challenge was verified, and the step-up takes effect. -/
theorem disabled_device_rotates :
    VerifiedOnAuthorized factorDatabase ∧ DevicesSettled factorDatabase ∧
      ∀ last ∈ [Call.rotateDeviceKey sampleRotation, Call.consumeStepUp rotationStepUp],
        ¬ ∀ e ∈ trace (step sampleEnv) factorDatabase (verifiedCalls ++
            [.manageDevice (sampleManagement "disabled" .disable 60001), last]),
          ∀ stepUp, effectiveStepUp e = some stepUp → stepUp.OnLiveDevice e.pre := by
  refine ⟨factorDatabase_verified, factorDatabase_settled, fun last hla hlv => ?_⟩
  have hd : ∀ last ∈ [Call.rotateDeviceKey sampleRotation, Call.consumeStepUp rotationStepUp],
      ∃ e ∈ trace (step sampleEnv) factorDatabase (verifiedCalls ++
        [.manageDevice (sampleManagement "disabled" .disable 60001), last]),
        ((effectiveStepUp e).any fun stepUp =>
          e.pre.devices[stepUp.deviceId]?.any fun device => device.status == .disabled) = true := by
    decide +kernel
  obtain ⟨e, he, hf⟩ := hd last hla
  obtain ⟨stepUp, hstepUp, hss⟩ := (Option.any_eq_true _ _).mp hf
  obtain ⟨device, hdv, _, ha, _⟩ := hlv e he stepUp hstepUp
  rw [hdv, Option.any_some, beq_iff_eq] at hss
  rw [hss] at ha
  cases ha

end Rctl.Api
