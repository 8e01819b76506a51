/-
# What a call can do

`Effect` lists, once for all that follows, every way a call can change the database:
the checks it has passed, its answer, and the database it leaves. A call that does
none of these leaves the database as it was, with an answer that claims nothing
(`Response.quiet`).
-/
import Rctl.Api.Repository

namespace Rctl.Api

open ByteString Result OrdMap

/-- The response says that the call changed nothing: an error, a refusal or a read. A
factor that was looked at and refused is not quiet, for it may cost its challenge an attempt. -/
def Response.quiet : Call → Response → Bool
  | .verifyFactor .., bool (.ok _) => false
  | _, challengeCreation (.ok (.created _)) | _, unit (.ok _) | _, bool (.ok true)
  | _, verification (.ok (.verified _)) | _, login (.ok .completed) | _, login (.ok .rejected)
  | _, sessionCreation (.ok (.created _)) | _, sessionTransition (.ok (.applied _ _))
  | _, registration (.ok (.created _)) | _, keyRotation (.ok _) | _, management (.ok (.updated _)) => false
  | _, _ => true

/-- All a call can do, with its answer and the database it leaves. -/
inductive Effect (env : Env) (db : Database) : Call → Response → Database → Prop
  | none (call : Call) (r : Response) (hquiet : r.quiet call = true) : Effect env db call r db
  | riskChallengeCreated (challenge : RiskChallenge) (auditEntry : AuditEntry) (methods : List String)
      (hpurpose : challenge.purpose ≠ "login_mfa")
      (hnew : db.riskChallenges[challenge.riskChallengeId]? = none) :
      Effect env db (.createRiskChallenge challenge auditEntry)
        (.challengeCreation (.ok (.created (challenge.withMethods methods))))
        ((db.insertChallenge (challenge.withMethods methods)).pushAudits [auditEntry])
  | loginChallengeCreated (authority : LoginChallengeAuthority) (auditEntry : AuditEntry)
      (account : Account) (hvalid : validateLoginChallengeAuthority env authority = .ok ())
      (hnew : db.riskChallenges[authority.challenge.riskChallengeId]? = none)
      (hcontext : db.loginChallengeContexts[authority.challenge.riskChallengeId]? = none)
      (haccount : db.accounts[authority.challenge.accountId]? = some account)
      (hupdated : account.updatedAtEpochMillis = authority.context.accountUpdatedAtEpochMillis) :
      Effect env db (.createLoginChallenge authority auditEntry) (.unit (.ok ()))
        ((db.insertLoginChallenge authority).pushAudits [auditEntry])
  | challengeCancelled (challengeId : String) (auditEntry : AuditEntry) (challenge : RiskChallenge)
      (hchallenge : db.riskChallenges[challengeId]? = some challenge)
      (hissued : challenge.status = .issued) :
      Effect env db (.cancelRiskChallenge challengeId auditEntry) (.bool (.ok true))
        ((db.modifyChallenge challengeId (RiskChallenge.setStatus .cancelled)).pushAudits [auditEntry])
  | loginChallengeRejected (challengeId : String) (challengeBindingHash : Digest) (now : UInt64)
      (auditEntry : AuditEntry) (challenge : RiskChallenge)
      (hchallenge : db.riskChallenges[challengeId]? = some challenge)
      (hpurpose : challenge.purpose = "login_mfa") (hissued : challenge.status = .issued) :
      Effect env db (.rejectLoginChallenge challengeId challengeBindingHash now auditEntry)
        (.bool (.ok true))
        ((db.modifyChallenge challengeId RiskChallenge.spendAttempt).pushAudits [auditEntry])
  | factorUsed (accountId factorKind code : String) (now : UInt64) (accepted : Bool) (marked : Database)
      (huse : FactorUse env db accountId factorKind code now accepted marked) :
      Effect env db (.verifyFactor none accountId factorKind code now) (.bool (.ok accepted)) marked
  | factorJudged (challengeId accountId factorKind code : String) (now : UInt64)
      (challenge : RiskChallenge) (accepted : Bool) (marked : Database)
      (hchallenge : db.riskChallenges[challengeId]? = some challenge)
      (hanswerable : challenge.answerable accountId now = true)
      (huse : FactorUse env db accountId factorKind code now accepted marked) :
      Effect env db (.verifyFactor (some challengeId) accountId factorKind code now) (.bool (.ok accepted))
        (marked.modifyChallenge challengeId (RiskChallenge.judged accepted now))
  | verificationExpired (v : RiskChallengeVerification) (challenge : RiskChallenge)
      (hchallenge : db.riskChallenges[v.challengeId]? = some challenge)
      (hissued : challenge.status = .issued)
      (hnow : challenge.expiresAtEpochMillis ≤ v.nowEpochMillis) :
      Effect env db (.verifyRiskChallenge v) (.verification (.ok .rejected))
        ((db.modifyChallenge v.challengeId (RiskChallenge.setStatus .expired)).pushAudits
          [v.failureAuditEntry.withReason "expired"])
  | verificationJudged (v : RiskChallengeVerification) (challenge : RiskChallenge) (accepted : Bool)
      (marked : Database) (audits : List AuditEntry) (r : RiskChallengeVerificationOutcome)
      (hchallenge : db.riskChallenges[v.challengeId]? = some challenge)
      (hanswerable : challenge.answerable v.accountId v.nowEpochMillis = true)
      (hmark : FactorMark env db v.accountId v.factorKind v.factorCode v.nowEpochMillis accepted marked)
      (hr : r = if accepted then
        .verified (RiskChallenge.judged accepted v.nowEpochMillis challenge) else .rejected)
      (hdevice : (challenge.deviceId.any fun deviceId => db.deviceAuthorized deviceId v.accountId) = true) :
      Effect env db (.verifyRiskChallenge v) (.verification (.ok r))
        ((marked.modifyChallenge v.challengeId
          (RiskChallenge.judged accepted v.nowEpochMillis)).pushAudits audits)
  | stepUpConsumed (e : StepUpExpectation) (challenge : RiskChallenge)
      (hgranted : StepUpGranted db e challenge) :
      Effect env db (.consumeStepUp e) (.unit (.ok ()))
        (db.modifyChallenge e.challengeId (RiskChallenge.consumeAt e.nowEpochMillis))
  | stepUpApplied (e : StepUpExpectation) (action : StepUpAction) (challenge : RiskChallenge)
      (db' : Database) (hgranted : StepUpGranted db e challenge)
      (hdevice : db.deviceAuthorized e.deviceId e.accountId = true)
      (hdone : ActionDone (db.modifyChallenge e.challengeId (RiskChallenge.consumeAt e.nowEpochMillis))
        e action db') :
      Effect env db (.applyStepUpAction e action) (.unit (.ok ())) db'
  | enrolled (completion : TotpEnrollmentCompletion) (account : Account) (counter : UInt64)
      (audits : List AuditEntry) (hactive : completion.factor.active = true)
      (hcounter : completion.factor.lastUsedCounter = some counter)
      (hfactor : db.mfaFactors[completion.factor.factorId]? = Option.none)
      (hfirst : db.mfaEnabled completion.factor.accountId = false)
      (hcodes : recoveryCodesValid db completion.factor.accountId
        completion.auditEntry.createdAtEpochMillis completion.recoveryCodes = true)
      (haccount : db.accounts[completion.factor.accountId]? = some account) :
      Effect env db (.finishTotpEnrollment completion) (.unit (.ok ()))
        (((db.storeEnrollment completion).cutOff completion.factor.accountId
          completion.auditEntry.createdAtEpochMillis "mfa_enabled"
          (·.advance completion.auditEntry.createdAtEpochMillis)).pushAudits audits)
  | loginExpired (command : LoginFinishCommand) (challenge : RiskChallenge)
      (hchallenge : db.riskChallenges[command.challengeId]? = some challenge)
      (hissued : challenge.status = .issued)
      (hnow : challenge.expiresAtEpochMillis ≤ command.nowEpochMillis) :
      Effect env db (.finishLogin command) (.login (.ok .invalidChallenge))
        ((db.modifyChallenge command.challengeId (RiskChallenge.setStatus .expired)).pushAudits
          [command.failureAuditEntry.withReason "expired"])
  | loginRefused (command : LoginFinishCommand) (challenge : RiskChallenge) (reason : String)
      (hchallenge : db.riskChallenges[command.challengeId]? = some challenge)
      (hanswerable : challenge.answerable command.accountId command.nowEpochMillis = true) :
      Effect env db (.finishLogin command) (.login (.ok .rejected)) (db.refuseLogin command reason)
  | loginFactorRefused (command : LoginFinishCommand) (challenge : RiskChallenge)
      (hchallenge : db.riskChallenges[command.challengeId]? = some challenge)
      (hanswerable : challenge.answerable command.accountId command.nowEpochMillis = true) :
      Effect env db (.finishLogin command) (.login (.ok .invalidFactor))
        ((db.modifyChallenge command.challengeId
          (RiskChallenge.judged false command.nowEpochMillis)).pushAudits [command.failureAuditEntry])
  | loginTrustRefused (command : LoginFinishCommand) (id : String) (trusted : TrustedControllerDevice)
      (hget : db.trustedControllerDevices[id]? = some trusted) :
      Effect env db (.finishLogin command) (.login (.ok .invalidTrust))
        (db.expireTrusted id trusted command.nowEpochMillis)
  | loginCompleted (command : LoginFinishCommand) (challenge : RiskChallenge)
      (context : LoginChallengeContext) (authenticated granted candidate : Database)
      (hauthorized : LoginAuthorized env db command challenge context)
      (hauthenticated : Authenticated env db command authenticated)
      (hnew : authenticated.accountSessions[command.accountSession.accountSessionId]? = Option.none)
      (hgrant : GrantStored authenticated command granted)
      (htrusted : TrustedStored granted command candidate) :
      Effect env db (.finishLogin command) (.login (.ok .completed)) (candidate.completeLogin command)
  | sessionRotated (refreshTokenHash : Digest) (replacement : AccountSession) (auditEntry : AuditEntry)
      (now : UInt64) (oldSessionId : String) (old : AccountSession) (audits : List AuditEntry)
      (hfirst : firstWith db.accountSessions (AccountSession.rotatable refreshTokenHash replacement now) =
        some (oldSessionId, old))
      (hnew : db.accountSessions[replacement.accountSessionId]? = Option.none)
      (hlive : replacement.revokedAtEpochMillis = Option.none ∧ replacement.revokedReason = Option.none) :
      Effect env db (.rotateRefreshSession refreshTokenHash replacement auditEntry now) (.bool (.ok true))
        ((db.rotateSession oldSessionId replacement now).pushAudits audits)
  | sessionRevoked (accountSessionId accountId : String) (now : UInt64) (auditEntry : AuditEntry)
      (session : AccountSession) (audits : List AuditEntry)
      (hsession : db.accountSessions[accountSessionId]? = some session)
      (hlive : session.revokedAtEpochMillis = Option.none) :
      Effect env db (.revokeAccountSession accountSessionId accountId now auditEntry) (.bool (.ok true))
        { db with accountSessions := db.accountSessions.modify accountSessionId (·.revoke now "logout")
                  auditLogs := audits }
  | sessionCreated (command : CreateSessionCommand)
      (hkey : db.sessionIdempotency[command.storageKey]? = Option.none)
      (hsession : db.sessions[command.session.sessionId]? = Option.none)
      (hevent : db.hasEvent command.event.eventId = false) :
      Effect env db (.createSession command) (.sessionCreation (.ok (.created command.session)))
        (db.addSession command)
  | sessionTransitioned (command : TransitionSessionCommand) (current session : Session)
      (hkey : db.sessionIdempotency[command.storageKey]? = Option.none)
      (hallowed : command.applyAllowed = true)
      (hcurrent : db.sessions[command.session.sessionId]? = some current)
      (hstatus : current.status = command.expectedStatus) (hbound : command.eventBound = true)
      (hevent : db.hasEvent command.event.eventId = false)
      (hsession : current.transition command = .ok session) :
      Effect env db (.transitionSession command)
        (.sessionTransition (.ok (.applied session command.event.eventId))) (db.moveSession command session)
  | deviceRegistered (command : DeviceRegistrationCommand) (grant : DeviceEnrollmentGrant)
      (trustedDeviceId : Option String) (trusted : Database) (audits : List AuditEntry)
      (hgrant : db.deviceEnrollmentGrants[command.grantId]? = some grant)
      (hvalid : validateDeviceRegistrationAuthority env db command grant = .ok ())
      (haccepted : grantAccepted env db command grant = true)
      (hunconsumed : grant.consumedAtEpochMillis = Option.none)
      (hsession : activeAccountSession db.accountSessions[command.accountSessionId]? command.accountId
        command.nowEpochMillis = true)
      (hdevice : db.devices[command.device.deviceId]? = Option.none)
      (htrusted : TrustAdded (db.storeDevice command trustedDeviceId) command grant trusted) :
      Effect env db (.registerDevice command) (.registration (.ok (.created command.device)))
        (trusted.pushAudits audits)
  | keyRotated (rotation : DeviceKeyRotation) (challenge : RiskChallenge) (current : Device)
      (epochs : List (String × UInt64)) (rotationAudit : AuditEntry) (closing : Closing)
      (more : List AuditEntry) (hgranted : StepUpGranted db rotation.stepUp challenge)
      (hcurrent : db.devices[rotation.stepUp.deviceId]? = some current)
      (hallowed : rotationAllowed db rotation current = true)
      (hepochs : affectedEpochs db rotation.stepUp.deviceId = .ok epochs)
      (hclosing : closing = closeRotated env rotationAudit rotation.stepUp.nowEpochMillis epochs
        ⟨db.sessions, [], []⟩)
      (hmore : ∀ audit ∈ more, audit.action ≠ "session_ended") :
      Effect env db (.rotateDeviceKey rotation)
        (.keyRotation (.ok ⟨current.rotateKey rotation, closing.events⟩))
        ((db.rotateKey rotation (env.sha256 current.publicKey.toList)).closeSessions closing
          (closing.audits ++ more))
  | deviceManaged (command : DeviceManagementCommand) (target : Device) (closing : Closing)
      (more : List AuditEntry) (htarget : db.devices[command.targetDeviceId]? = some target)
      (haccount : target.accountId = command.accountId)
      (hallowed : deviceManagementTransitionAllowed target command = true)
      (hclosing : closeAffected env command.auditEntry command.nowEpochMillis
        (command.action.bind deviceManagementSessionCloseReason) (affectedSessions db command)
        ⟨db.sessions, [], []⟩ = .ok closing)
      (hmore : ∀ audit ∈ more, audit.action ≠ "session_ended") :
      Effect env db (.manageDevice command)
        (.management (.ok (.updated ⟨applyDeviceManagement command target, closing.events⟩)))
        ((db.manage command target).closeSessions closing (closing.audits ++ more))
  | accountRegistered (account : Account) :
      Effect env db (.registerAccount account) (.unit (.ok ()))
        { db with accountByEmail := db.accountByEmail.insert account.email account.accountId
                  accounts := db.accounts.insert account.accountId account }
  | tokensIssued (session : AccountSession)
      (hnew : db.accountSessions[session.accountSessionId]? = Option.none) :
      Effect env db (.issueTokens session) (.unit (.ok ()))
        { db with accountSessions := db.accountSessions.insert session.accountSessionId session }
  | auditAppended (entry : AuditEntry) :
      Effect env db (.appendAudit entry) (.unit (.ok ())) (db.pushAudits [entry])

/-- An operation called as `call`, and answered under `f`, has an effect of that call. -/
abbrev Does {ρ : Type} (env : Env) (db : Database) (call : Call) (f : Except StoreError ρ → Response)
    (reply : Reply ρ) : Prop :=
  Effect env db call (f reply.1) reply.2

/-! ### One operation at a time

Each proof follows the checks of its operation: every exit but the last is quiet,
unless the source writes something before it returns. -/

section Checks

variable {ρ α β : Type} {env : Env} {db : Database} {call : Call} {f : Except StoreError ρ → Response}
  {Q : β → Prop} {e : Reply ρ} {k : α → Except (Reply ρ) β}

theorem does_of_quiet (h : (e.2, (f e.1).quiet call) = (db, true)) : Does env db call f e := by
  obtain ⟨rfl, hqt⟩ := Prod.mk.inj h
  exact .none _ _ hqt

/-- A check, with an exit that changes nothing if it fails. -/
theorem checked {c : Bool} {k : Unit → Except (Reply ρ) β} (hexit : (e.2, (f e.1).quiet call) = (db, true))
    (hk : c = true → Post (k ()) (Does env db call f) Q) : Post (ensure c e >>= k) (Does env db call f) Q :=
  post_bind (post_ensure fun _ => does_of_quiet hexit) fun _ => hk

theorem found {o : Option α} (hexit : (e.2, (f e.1).quiet call) = (db, true))
    (hk : ∀ a, o = some a → Post (k a) (Does env db call f) Q) : Post (okOr o e >>= k) (Does env db call f) Q :=
  post_bind (post_okOr fun _ => does_of_quiet hexit) hk

theorem succeeded {ε : Type} {x : Except ε α} {g : ε → Reply ρ}
    (hexit : ∀ e, ((g e).2, (f (g e).1).quiet call) = (db, true))
    (hk : ∀ a, x = .ok a → Post (k a) (Does env db call f) Q) : Post (x.mapError g >>= k) (Does env db call f) Q :=
  post_bind (post_mapError fun e _ => does_of_quiet (hexit e)) hk

end Checks

section Operations

variable (env : Env) (db : Database)

theorem createRiskChallenge_does (ch : RiskChallenge) (audit : AuditEntry) :
    Does env db (.createRiskChallenge ch audit) .challengeCreation
      (createRiskChallenge db ch audit) := by
  apply merge_post
  refine checked rfl fun hsh => ?_
  refine checked rfl fun _ => ?_
  refine checked rfl fun _ => ?_
  refine checked rfl fun hn => ?_
  simp only [Bool.and_eq_true, Bool.not_eq_true', Bool.or_eq_false_iff, beq_eq_false_iff_ne,
    contains_eq_false] at hsh hn
  exact post_pure (.riskChallengeCreated ch audit _ hsh.1.1 hn.1.1)

theorem createLoginChallenge_does (auth : LoginChallengeAuthority) (audit : AuditEntry) :
    Does env db (.createLoginChallenge auth audit) .unit
      (createLoginChallenge env db auth audit) := by
  apply merge_post
  refine succeeded (fun _ => rfl) fun _ hv => ?_
  refine checked rfl fun hn => ?_
  simp only [Bool.and_eq_true, Bool.not_eq_true', contains_eq_false, Option.any_eq_true, beq_iff_eq] at hn
  obtain ⟨⟨⟨⟨hch, hc⟩, _⟩, _⟩, acct, hac, _, hu⟩ := hn
  exact post_pure (.loginChallengeCreated auth audit acct hv hch hc hac hu)

theorem rejectLoginChallenge_does (challengeId : String) (bindingHash : Digest) (now : UInt64)
    (audit : AuditEntry) :
    Does env db (.rejectLoginChallenge challengeId bindingHash now audit) .bool
      (rejectLoginChallenge db challengeId bindingHash now audit) := by
  apply merge_post
  refine checked rfl fun ha => ?_
  refine found rfl fun ch hch => ?_
  refine checked rfl fun hl => ?_
  simp only [Bool.and_eq_true, beq_iff_eq] at hl
  exact post_pure (.loginChallengeRejected challengeId bindingHash now audit ch hch hl.1.1.1 hl.1.1.2)

theorem cancelRiskChallenge_does (challengeId : String) (audit : AuditEntry) :
    Does env db (.cancelRiskChallenge challengeId audit) .bool
      (cancelRiskChallenge db challengeId audit) := by
  apply merge_post
  refine found rfl fun ch hch => ?_
  refine checked rfl fun hi => ?_
  refine checked rfl fun _ => ?_
  exact post_pure (.challengeCancelled challengeId audit ch hch (beq_iff_eq.mp hi))

theorem verifyFactor_does (challengeId : Option String) (accountId factorKind code : String) (now : UInt64) :
    Does env db (.verifyFactor challengeId accountId factorKind code now) .bool
      (verifyFactorInDatabase env db challengeId accountId factorKind code now) := by
  have ho := verifyFactorInDatabase_outcome env db challengeId accountId factorKind code now
  generalize verifyFactorInDatabase env db challengeId accountId factorKind code now = reply at ho
  cases ho with
  | failed => exact .none _ _ rfl
  | plain accepted marked hid hu =>
    cases hid
    exact .factorUsed accountId factorKind code now accepted marked hu
  | judged id challenge accepted marked hid hch ha hu =>
    cases hid
    exact .factorJudged id accountId factorKind code now challenge accepted marked hch ha hu

theorem verifyRiskChallenge_does (v : RiskChallengeVerification) :
    Does env db (.verifyRiskChallenge v) .verification (verifyRiskChallenge env db v) := by
  apply merge_post
  refine found rfl fun acct _ => ?_
  refine checked rfl fun _ => ?_
  refine found rfl fun auth hau => ?_
  refine checked rfl fun hac => ?_
  refine checked rfl fun hdv => ?_
  refine checked rfl fun _ => ?_
  refine checked rfl fun hi => ?_
  refine checked rfl fun _ => ?_
  simp only [Bool.and_eq_true, beq_iff_eq, bne_iff_ne] at hac hi
  refine post_bind (post_ensure fun hnow => ?_) fun _ hnow => ?_
  · exact .verificationExpired v auth hau hi.1.1 (UInt64.not_lt.mp (of_decide_eq_false hnow))
  have han : auth.answerable v.accountId v.nowEpochMillis = true := by
    simp only [RiskChallenge.answerable, Bool.and_eq_true, beq_iff_eq, bne_iff_ne]
    exact ⟨⟨⟨hac.1, hi.1.1⟩, hi.1.2⟩, hnow⟩
  refine succeeded (fun _ => rfl) fun evaluated hevaluated => ?_
  obtain ⟨marked, hu, hc⟩ := evaluateFactor_judged env hevaluated
  refine found rfl fun ch hch => ?_
  rw [hc, Database.modifyChallenge_get, if_pos rfl, hu.riskChallenges, hau] at hch
  cases hch
  rw [hc]
  by_cases ha : evaluated.1 = true
  · rw [if_pos ha]
    exact succeeded (fun _ => rfl) fun audits _ =>
      post_pure (.verificationJudged v auth evaluated.1 marked _ _ hau han hu (by rw [if_pos ha]) hdv)
  · rw [if_neg ha]
    exact post_pure (.verificationJudged v auth evaluated.1 marked _ _ hau han hu (by rw [if_neg ha]) hdv)

theorem consumeStepUp_does (e : StepUpExpectation) : Does env db (.consumeStepUp e) .unit (consumeStepUp db e) := by
  apply merge_post
  refine succeeded (fun _ => rfl) fun db' hdb' => ?_
  obtain ⟨⟨ch, hgr⟩, rfl⟩ := consumeStepUpInDatabase_eq_ok hdb'
  exact post_pure (.stepUpConsumed e ch hgr)

theorem applyStepUpAction_does (e : StepUpExpectation) (act : StepUpAction) :
    Does env db (.applyStepUpAction e act) .unit (applyStepUpAction db e act) := by
  apply merge_post
  refine succeeded (fun _ => rfl) fun db' h => post_pure ?_
  simp only [applyStepUpActionInDatabase, bind_eq_ok, ensure_eq_ok, pure_eq_ok] at h
  obtain ⟨_, _, _, hdv, _, _, _, hal, consumed, hc, performed, hp, revoked, hrv, rfl⟩ := h
  obtain ⟨⟨ch, hgr⟩, rfl⟩ := consumeStepUpInDatabase_eq_ok hc
  rw [← StepUpAction.allowed_modifyChallenge] at hal
  exact .stepUpApplied e act ch _ hgr hdv (actionDone hal hp hrv)

theorem finishTotpEnrollment_does (completion : TotpEnrollmentCompletion) :
    Does env db (.finishTotpEnrollment completion) .unit (finishTotpEnrollment env db completion) := by
  apply merge_post
  refine checked rfl fun hf => ?_
  refine checked rfl fun hc => ?_
  refine checked rfl fun _ => ?_
  refine succeeded (fun _ => rfl) fun advanced ha => ?_
  refine succeeded (fun _ => rfl) fun revoked hr => post_pure ?_
  simp only [Bool.and_eq_true, Bool.not_eq_true', contains_eq_false, Option.isSome_iff_exists] at hf
  obtain ⟨⟨⟨⟨hactive, ctr, hcounter⟩, _⟩, hn⟩, hfirst⟩ := hf
  simp only [advanceAccountSecurityEpoch, bind_eq_ok, okOr_eq_ok, pure_eq_ok] at ha
  obtain ⟨acct, hac, rfl⟩ := ha
  simp only [revokeAuthority, bind_eq_ok, pure_eq_ok] at hr
  obtain ⟨_, _, rfl⟩ := hr
  rw [Database.pushAudits_pushAudits]
  exact .enrolled completion acct ctr _ hactive hcounter hn hfirst hc hac

/-! ### Finishing a login -/

theorem authenticateByTrust_post (cmd : LoginFinishCommand) (hf : cmd.factorKind = none) :
    Post (authenticateByTrust db cmd) (Does env db (.finishLogin cmd) .login) fun cand =>
      Authenticated env db cmd
        (cand.modifyChallenge cmd.challengeId (·.setVerifiedAt cmd.nowEpochMillis)) := by
  unfold authenticateByTrust
  split_ifs with hm
  · refine found rfl fun id hu => ?_
    refine found rfl fun tr hg => ?_
    refine post_bind (post_ensure fun _ => .loginTrustRefused cmd id tr hg) fun _ ha => ?_
    exact post_pure (.trusted id tr hm hf hu hg ha)
  · refine checked rfl fun ht => ?_
    exact post_pure (.password (Bool.not_eq_true _ ▸ hm) hf (Option.isNone_iff_eq_none.mp ht))

theorem authenticateByFactor_post (cmd : LoginFinishCommand) :
    Post (authenticateByFactor env db cmd) (Does env db (.finishLogin cmd) .login)
      (Authenticated env db cmd) := by
  refine checked rfl fun hm => ?_
  refine found rfl fun kind hki => ?_
  refine found rfl fun code hcd => ?_
  refine checked rfl fun _ => ?_
  rw [Bool.and_eq_true, Option.isNone_iff_eq_none] at hm
  have ho := verifyFactorInDatabase_outcome env db (some cmd.challengeId) cmd.accountId kind code cmd.nowEpochMillis
  split
  · exact .none _ _ rfl
  · rename_i heq
    rw [heq] at ho
    cases ho with
    | plain _ _ hid => cases hid
    | judged _ ch _ marked hid hch ha hu =>
      cases hid
      -- a refused factor is not marked
      cases hu
      exact .loginFactorRefused cmd ch hch ha
  · rename_i heq
    rw [heq] at ho
    cases ho with
    | plain _ _ hid => cases hid
    | judged _ _ _ marked hid _ _ hu =>
      cases hid
      exact .factor kind code marked hm.2 hm.1 hki hcd hu

theorem authenticate_post (cmd : LoginFinishCommand) :
    Post (authenticate env db cmd) (Does env db (.finishLogin cmd) .login) (Authenticated env db cmd) := by
  unfold authenticate
  split
  · refine checked rfl fun hf => ?_
    rw [Bool.and_eq_true, Option.isNone_iff_eq_none] at hf
    exact post_bind (authenticateByTrust_post env db cmd hf.1) fun _ h => post_pure h
  · exact authenticateByFactor_post env db cmd

theorem finishLogin_does (cmd : LoginFinishCommand) :
    Does env db (.finishLogin cmd) .login (finishLogin env db cmd) := by
  apply merge_post
  refine succeeded (fun _ => rfl) fun _ hsh => ?_
  refine found rfl fun ch hch => ?_
  refine found rfl fun ctx hc => ?_
  refine checked rfl fun hb => ?_
  refine succeeded (fun _ => rfl) fun _ hbi => ?_
  refine checked rfl fun _ => ?_
  refine post_bind (post_ensure fun hep => ?_) fun _ hu => ?_
  · simp only [Bool.not_eq_false', Bool.and_eq_true, beq_iff_eq, decide_eq_true_eq] at hep
    exact .loginExpired cmd ch hch hep.1 hep.2
  refine checked rfl fun hi => ?_
  have ha : ch.answerable cmd.accountId cmd.nowEpochMillis = true := by
    simp only [Bool.and_eq_true, Bool.not_eq_true', beq_iff_eq, bne_iff_ne] at hb hi hu
    rw [hi.1] at hu
    have hnow := of_decide_eq_false (Bool.and_eq_false_imp.mp hu rfl)
    simp only [RiskChallenge.answerable, Bool.and_eq_true, beq_iff_eq, bne_iff_ne, decide_eq_true_eq]
    exact ⟨⟨⟨hb.1.1.1.1, hi.1⟩, hi.2⟩, UInt64.not_le.mp hnow⟩
  refine succeeded (fun _ => rfl) fun _ hartifacts => ?_
  refine checked rfl fun _ => ?_
  refine post_bind (post_ensure fun _ => ?_) fun _ hac => ?_
  · exact .loginRefused cmd ch _ hch ha
  refine post_bind (post_ensure fun _ => ?_) fun _ hdv => ?_
  · exact .loginRefused cmd ch _ hch ha
  refine post_bind (authenticate_post env db cmd) fun authenticated hau => ?_
  refine checked rfl fun hs => ?_
  refine succeeded (fun _ => rfl) fun granted hg => ?_
  refine succeeded (fun _ => rfl) fun cand htr => ?_
  refine found rfl fun _ _ => post_pure ?_
  simp only [Bool.and_eq_true, Bool.not_eq_true', contains_eq_false] at hs
  exact .loginCompleted cmd ch ctx authenticated granted cand
    ⟨hsh, hch, hc, hbi, ha, hartifacts, hac, Bool.or_eq_true_iff.mp hdv⟩
    hau hs.1.1.1 (addGrant_stored hg) (addTrusted_stored htr)

/-! ### Sessions -/

theorem rotateRefreshSession_does (tokenHash : Digest) (replacement : AccountSession)
    (audit : AuditEntry) (now : UInt64) :
    Does env db (.rotateRefreshSession tokenHash replacement audit now) .bool
      (rotateRefreshSession db tokenHash replacement audit now) := by
  apply merge_post
  refine checked rfl fun hsh => ?_
  refine found rfl fun old hd => ?_
  refine checked rfl fun _ => ?_
  simp only [Bool.and_eq_true, Bool.not_eq_true', contains_eq_false, Option.isNone_iff_eq_none] at hsh
  exact post_pure (.sessionRotated tokenHash replacement audit now old.1 old.2 _ hd hsh.1.1.1.2 hsh.1.1.1.1.1)

theorem revokeAccountSession_does (accountSessionId accountId : String) (now : UInt64) (audit : AuditEntry) :
    Does env db (.revokeAccountSession accountSessionId accountId now audit) .bool
      (revokeAccountSession db accountSessionId accountId now audit) := by
  apply merge_post
  refine found rfl fun session hs => ?_
  refine checked rfl fun hl => ?_
  refine checked rfl fun _ => ?_
  refine checked rfl fun _ => ?_
  simp only [Bool.and_eq_true, Option.isNone_iff_eq_none] at hl
  exact post_pure (.sessionRevoked accountSessionId accountId now audit session _ hs hl.2)

theorem createSession_does (cmd : CreateSessionCommand) :
    Does env db (.createSession cmd) .sessionCreation (createSession db cmd) := by
  unfold createSession
  split
  · apply merge_post
    refine checked rfl fun _ => ?_
    exact found rfl fun _ _ => post_pure (.none _ _ rfl)
  · rename_i hk
    apply merge_post
    refine checked rfl fun hn => ?_
    simp only [Bool.and_eq_true, Bool.not_eq_true', contains_eq_false] at hn
    exact post_pure (.sessionCreated cmd hk hn.1.1.1 hn.1.2)

theorem transitionSession_does (cmd : TransitionSessionCommand) :
    Does env db (.transitionSession cmd) .sessionTransition (transitionSession db cmd) := by
  unfold transitionSession
  split
  · apply merge_post
    refine checked rfl fun _ => ?_
    refine found rfl fun _ _ => ?_
    exact found rfl fun _ _ => post_pure (.none _ _ rfl)
  · rename_i hk
    apply merge_post
    refine checked rfl fun hal => ?_
    refine found rfl fun cur hc => ?_
    refine checked rfl fun hs => ?_
    refine checked rfl fun hb => ?_
    refine succeeded (fun _ => rfl) fun session hsession => post_pure ?_
    simp only [Bool.and_eq_true, Bool.not_eq_true'] at hb
    exact .sessionTransitioned cmd cur session hk hal hc (beq_iff_eq.mp hs) hb.1.1 hb.1.2 hsession

/-! ### Devices and accounts -/

theorem registerDevice_does (cmd : DeviceRegistrationCommand) :
    Does env db (.registerDevice cmd) .registration (registerDevice env db cmd) := by
  apply merge_post
  refine found rfl fun grant hg => ?_
  refine succeeded (fun _ => rfl) fun _ hv => ?_
  refine checked rfl fun ha => ?_
  split_ifs with hc
  · exact succeeded (fun _ => rfl) fun device _ => post_pure (.none _ _ rfl)
  · refine checked rfl fun hs => ?_
    refine checked rfl fun hdv => ?_
    refine checked rfl fun _ => ?_
    refine succeeded (fun _ => rfl) fun trustedId _ => ?_
    refine checked rfl fun hn => ?_
    refine succeeded (fun _ => rfl) fun tr htr => ?_
    refine succeeded (fun _ => rfl) fun audit _ => post_pure ?_
    simp only [Bool.and_eq_true, Bool.not_eq_true', contains_eq_false] at hs hdv hn
    exact .deviceRegistered cmd grant trustedId tr _ hg hv ha
      (Option.not_isSome_iff_eq_none.mp hc) hs.1.2 hdv.1 (storeTrust_added hn htr)

theorem rotateDeviceKey_does (rotation : DeviceKeyRotation) :
    Does env db (.rotateDeviceKey rotation) .keyRotation (rotateDeviceKey env db rotation) := by
  apply merge_post
  refine checked rfl fun hmt => ?_
  refine found rfl fun cur hc => ?_
  refine checked rfl fun hal => ?_
  refine succeeded (fun _ => rfl) fun epochs hepochs => ?_
  refine succeeded (fun _ => rfl) fun rotationAudit ha => ?_
  refine succeeded (fun _ => rfl) fun _ _ => ?_
  refine checked rfl fun _ => post_pure ?_
  rw [Bool.and_eq_true] at hmt
  obtain ⟨ch, hgr⟩ := stepUpMatches_granted hmt.1
  rw [List.append_assoc]
  refine .keyRotated rotation ch cur epochs rotationAudit _ _ hgr hc hal hepochs rfl fun audit hm => ?_
  rcases List.mem_append.mp hm with ht | hl
  · obtain ⟨t, _, rfl⟩ := List.mem_map.mp ht
    exact trustedDeviceRevocationAudit_action _ _ _ _
  · rw [List.mem_singleton.mp hl, deviceKeyRotationAuthorityAudit_action ha]
    decide

theorem manageDevice_does (cmd : DeviceManagementCommand) :
    Does env db (.manageDevice cmd) .management (manageDevice env db cmd) := by
  apply merge_post
  refine checked rfl fun _ => ?_
  refine found rfl fun target ht => ?_
  refine checked rfl fun hac => ?_
  refine checked rfl fun hal => ?_
  refine succeeded (fun _ => rfl) fun authorityAudits ha => ?_
  refine found rfl fun authorityAudit _ => ?_
  refine succeeded (fun _ => rfl) fun closing hc => ?_
  refine checked rfl fun _ => post_pure ?_
  simp only [Bool.and_eq_true, beq_iff_eq] at hac
  rw [List.append_assoc]
  refine .deviceManaged cmd target closing _ ht hac.1.1 hal hc fun audit hm => ?_
  rcases List.mem_append.mp hm with hr | hauthority
  · exact managementRevocationAudits_action hr
  · exact deviceManagementAuthorityAudits_action ha hauthority

theorem registerAccount_does (acct : Account) :
    Does env db (.registerAccount acct) .unit (registerAccount db acct) := by
  apply merge_post
  exact checked rfl fun _ => post_pure (.accountRegistered acct)

theorem issueTokens_does (session : AccountSession) :
    Does env db (.issueTokens session) .unit (issueTokens db session) := by
  apply merge_post
  refine checked rfl fun hn => post_pure (.tokensIssued session ?_)
  exact contains_eq_false.mp ((Bool.not_eq_true' _).mp hn)

/-! ### Every call -/

/-- **Every call has one of the listed effects.** -/
theorem step_effect (call : Call) : Effect env db call (step env db call).1 (step env db call).2 := by
  cases call with
  | createRiskChallenge ch audit => exact createRiskChallenge_does env db ch audit
  | createLoginChallenge auth audit => exact createLoginChallenge_does env db auth audit
  | cancelRiskChallenge challengeId audit => exact cancelRiskChallenge_does env db challengeId audit
  | rejectLoginChallenge challengeId bindingHash now audit =>
    exact rejectLoginChallenge_does env db challengeId bindingHash now audit
  | verifyFactor challengeId accountId factorKind code now =>
    exact verifyFactor_does env db challengeId accountId factorKind code now
  | verifyRiskChallenge v => exact verifyRiskChallenge_does env db v
  | consumeStepUp e => exact consumeStepUp_does env db e
  | applyStepUpAction e act => exact applyStepUpAction_does env db e act
  | finishTotpEnrollment completion => exact finishTotpEnrollment_does env db completion
  | finishLogin cmd => exact finishLogin_does env db cmd
  | rotateRefreshSession hash replacement audit now =>
    exact rotateRefreshSession_does env db hash replacement audit now
  | revokeAccountSession sid accountId now audit =>
    exact revokeAccountSession_does env db sid accountId now audit
  | createSession cmd => exact createSession_does env db cmd
  | transitionSession cmd => exact transitionSession_does env db cmd
  | registerDevice cmd => exact registerDevice_does env db cmd
  | rotateDeviceKey rotation => exact rotateDeviceKey_does env db rotation
  | manageDevice cmd => exact manageDevice_does env db cmd
  | registerAccount acct => exact registerAccount_does env db acct
  | issueTokens session => exact issueTokens_does env db session
  | appendAudit entry => exact .auditAppended entry
  | read => exact .none _ _ rfl

end Operations

variable {env : Env} {db db' : Database} {call : Call} {r : Response}

section Runs

open StateRun

variable {e : CallEntry} {cs : List Call} (he : e ∈ trace (step env) db cs)

include he

theorem Effect.of_mem : Effect env e.pre e.call e.out e.post := by
  obtain ⟨before, _, _, hen⟩ := mem_trace (step env) he
  rw [hen]
  exact step_effect env _ e.call

/-- What every effect keeps holds before and after each call of a run. -/
theorem inv_of_mem {I : Database → Prop} (hI : ∀ {db call r db'}, Effect env db call r db' → I db → I db')
    (hdb : I db) : I e.pre ∧ I e.post := by
  have hs : ∀ db c, I db → I (step env db c).2 := fun db c => hI (step_effect env db c)
  exact forall_trace (step env) (P := fun e => I e.pre ∧ I e.post) hs (fun db c h => ⟨h, hs db c h⟩) hdb e he

end Runs

/-- **A call that answers with an error changes nothing.** -/
theorem Effect.unchanged_of_error (h : Effect env db call r db') (hr : r.isError = true) : db' = db := by
  cases h with
  | none => rfl
  | _ => cases hr

end Rctl.Api
