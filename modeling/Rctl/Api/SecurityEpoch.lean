/-
# The security epoch cuts off earlier authority

Changing the password, disabling a second factor and enrolling one each end what was
granted to the account before: its `updated_at` moves on, and with it every login
challenge issued earlier is stale; its sessions and trusted devices are revoked. That
nothing of it comes back is a fact about every later call: a stale challenge stays
stale (`Dead`), a revoked session or trusted device stays revoked, and an enrolment
grant is worth no more than the session it was issued through.
-/
import Rctl.Api.Authority
import Rctl.Api.SecondFactors

namespace Rctl.Api

open ByteString Result OrdMap StateRun

/-! ### The events -/

/-- The account whose earlier authority a call has cut off. -/
def cutsOff (call : Call) (r : Response) : Option String :=
  match call, r with
  | .applyStepUpAction e (.changePassword _ _ _), .unit (.ok _) => some e.accountId
  | .applyStepUpAction e (.disableMfaFactor _ _), .unit (.ok _) => some e.accountId
  | .finishTotpEnrollment completion, .unit (.ok _) => some completion.factor.accountId
  | _, _ => none

/-- No account has reached the end of the range of epochs. -/
def BelowMax (e : CallEntry) : Prop :=
  anyValue e.pre.accounts (fun account => decide (2 ^ 64 - 1 ≤ account.updatedAtEpochMillis.toNat)) = false

instance : DecidablePred BelowMax := fun e => by unfold BelowMax; infer_instance

variable {id : String} {account : Account}

theorem BelowMax.lt {e : CallEntry} (h : BelowMax e) (hg : e.pre.accounts[id]? = some account) :
    account.updatedAtEpochMillis.toNat < 2 ^ 64 - 1 :=
  Nat.lt_of_not_le (of_decide_eq_false (anyValue_eq_false.mp h id account hg))

/-- What an event has done when it returns. -/
structure CutOffDone (accountId : String) (db db' : Database) : Prop where
  epoch : ∃ account account', db.accounts[accountId]? = some account ∧
    db'.accounts[accountId]? = some account' ∧ account.updatedAtEpochMillis < account'.updatedAtEpochMillis
  sessions : ∀ (id : String) (s : AccountSession), db.accountSessions[id]? = some s →
    s.accountId = accountId → SessionRevoked db' id
  trusted : ∀ (id : String) (t : TrustedControllerDevice), db.trustedControllerDevices[id]? = some t →
    t.accountId = accountId → t.status = .active → TrustRevoked db' id

variable {env : Env} {db db' : Database} {call : Call} {r : Response} {accountId : String}

theorem revokeSessions_revoked {sess : Table AccountSession} {s : AccountSession} (hg : sess[id]? = some s)
    (hac : s.accountId = accountId) (now : UInt64) (reason : String) :
    ∃ s', (revokeSessions accountId now reason sess)[id]? = some s' ∧ s'.revokedAtEpochMillis ≠ none := by
  rw [revokeSessions, get_mapValues, hg, Option.map_some]
  by_cases hl : s.liveFor accountId = true
  · rw [if_pos hl]
    exact ⟨_, rfl, nofun⟩
  · rw [if_neg hl]
    refine ⟨s, rfl, fun hn => hl ?_⟩
    rw [AccountSession.liveFor, hac, hn, BEq.rfl]
    rfl

theorem revokeTrusted_revoked {devices : Table TrustedControllerDevice} {t : TrustedControllerDevice}
    (hg : devices[id]? = some t) (hac : t.accountId = accountId) (ha : t.status = .active)
    (now : UInt64) :
    ∃ t', (revokeTrusted (·.accountId == accountId) now devices)[id]? = some t' ∧ t'.status = .revoked := by
  have hp : (t.accountId == accountId && t.status == .active) = true := by
    rw [hac, ha, BEq.rfl]
    rfl
  rw [revokeTrusted, get_mapValues, hg, Option.map_some, if_pos hp]
  exact ⟨_, rfl, rfl⟩

/-- The cut-off itself, from a database with the accounts, sessions and trusted devices of `d`. -/
theorem cutOff_done {c d : Database} {f : Account → Account} {now : UInt64}
    (haccounts : c.accounts = d.accounts) (hsessions : c.accountSessions = d.accountSessions)
    (htr : c.trustedControllerDevices = d.trustedControllerDevices)
    (hg : d.accounts[accountId]? = some account) (hb : account.updatedAtEpochMillis.toNat < 2 ^ 64 - 1)
    (hf : (f account).updatedAtEpochMillis = nextEpoch account.updatedAtEpochMillis now) (reason : String)
    (audits : List AuditEntry) : CutOffDone accountId d ((c.cutOff accountId now reason f).pushAudits audits) where
  epoch := by
    refine ⟨account, f account, hg, ?_, hf ▸ lt_nextEpoch now hb⟩
    show (c.accounts.modify accountId f)[accountId]? = _
    rw [get_modify, if_pos rfl, haccounts, hg]
    rfl
  sessions id s hs hac := revokeSessions_revoked (hsessions ▸ hs) hac now reason
  trusted id t ht hac ha := revokeTrusted_revoked (htr ▸ ht) hac ha now

theorem quiet_not_cutOff (hqt : r.quiet call = true) : cutsOff call r = none := by
  unfold cutsOff
  split
  · cases hqt
  · cases hqt
  · cases hqt
  · rfl

/-- Each event advances the epoch and revokes the sessions and the trusted devices. -/
theorem Effect.cutOffDone (h : Effect env db call r db') (hcut : cutsOff call r = some accountId)
    (hb : BelowMax ⟨db, call, r, db'⟩) : CutOffDone accountId db db' := by
  cases h with
  | none _ _ hqt =>
    rw [quiet_not_cutOff hqt] at hcut
    cases hcut
  | stepUpApplied _ _ _ _ _ _ hd =>
    cases hd with
    | rotated | trustRevoked => cases hcut
    | disabled _ _ audits _ hac | passwordChanged _ _ _ audits _ hac =>
      cases hcut
      refine cutOff_done (d := db) ?_ ?_ ?_ hac (hb.lt hac) ?_ _ audits <;> rfl
  | enrolled _ _ _ audits _ _ _ _ _ hac =>
    cases hcut
    refine cutOff_done ?_ ?_ ?_ hac (hb.lt hac) ?_ _ audits <;> rfl
  | _ => cases hcut

/-! ### Stale challenges -/

/-- The context of a challenge is not ahead of the account of the challenge. -/
def EpochInv (db : Database) : Prop :=
  ∀ (id : String) (context : LoginChallengeContext), db.loginChallengeContexts[id]? = some context →
    ∃ challenge account, db.riskChallenges[id]? = some challenge ∧
      db.accounts[challenge.accountId]? = some account ∧
      context.accountUpdatedAtEpochMillis ≤ account.updatedAtEpochMillis

/-- The challenge can complete no login: it has no context, or its account has moved on. -/
def Dead (db : Database) (id : String) : Prop :=
  ∃ challenge, db.riskChallenges[id]? = some challenge ∧
    ∀ context, db.loginChallengeContexts[id]? = some context →
      ∃ account, db.accounts[challenge.accountId]? = some account ∧
        context.accountUpdatedAtEpochMillis < account.updatedAtEpochMillis

variable {command : LoginFinishCommand}

section

variable (h : Effect env db call r db')
include h

theorem Effect.challenge_stays {c : RiskChallenge} (hg : db.riskChallenges[id]? = some c) :
    ∃ c', db'.riskChallenges[id]? = some c' ∧ c'.accountId = c.accountId := by
  have hs := h.challengeStep id
  rw [hg] at hs
  generalize db'.riskChallenges[id]? = post at hs
  cases hs with
  | keep => exact ⟨c, rfl, rfl⟩
  | move _ _ c' hm => exact ⟨c', rfl, by cases hm <;> rfl⟩

theorem Effect.epochInv (hn : RegistersNew ⟨db, call, r, db'⟩) (hdb : EpochInv db) : EpochInv db' := by
  intro id ctx hc
  rcases h.contextStep id with hsm | ⟨_, ch, ctx', account, hg', hch, hac, hu⟩
  · rw [hsm] at hc
    obtain ⟨ch, account, hch, hac, hle⟩ := hdb id ctx hc
    obtain ⟨ch', hc', hid⟩ := h.challenge_stays hch
    obtain ⟨acct', ha', hle'⟩ := h.epochStays hn ch.accountId account hac
    exact ⟨ch', acct', hc', hid ▸ ha', UInt64.le_trans hle hle'⟩
  · rw [hg'] at hc
    cases hc
    exact ⟨ch, account, hch, hac, hu ▸ UInt64.le_refl _⟩

theorem Effect.keeps_dead (hn : RegistersNew ⟨db, call, r, db'⟩) (hde : Dead db id) : Dead db' id := by
  obtain ⟨ch, hch, hs⟩ := hde
  obtain ⟨ch', hc', hid⟩ := h.challenge_stays hch
  refine ⟨ch', hc', fun ctx hc => ?_⟩
  rcases h.contextStep id with hsm | ⟨ha, _⟩
  · rw [hsm] at hc
    obtain ⟨account, hac, hlt⟩ := hs ctx hc
    obtain ⟨acct', ha', hle⟩ := h.epochStays hn ch.accountId account hac
    exact ⟨acct', hid ▸ ha', UInt64.lt_of_lt_of_le hlt hle⟩
  · -- a context is stored only together with its challenge
    rw [hch] at ha
    cases ha

end

theorem Dead.not_completed (h : Effect env db (.finishLogin command) (.login (.ok .completed)) db') :
    ¬ Dead db command.challengeId := by
  rintro ⟨challenge, hch, hs⟩
  obtain ⟨ch', ctx, account, he⟩ := h.login_enforced
  have heq : ch' = challenge := Option.some.inj (he.challenge_get.symm.trans hch)
  subst heq
  obtain ⟨acct', ha', hlt⟩ := hs ctx he.context_get
  rw [he.account_get] at ha'
  cases ha'
  rw [he.unchanged] at hlt
  exact UInt64.lt_irrefl _ hlt

/-- An event makes every earlier challenge of its account stale. -/
theorem CutOffDone.dead {ch : RiskChallenge} (h : CutOffDone accountId db db')
    (he : Effect env db call r db') (hdb : EpochInv db) (hg : db.riskChallenges[id]? = some ch)
    (hac : ch.accountId = accountId) : Dead db' id := by
  obtain ⟨ch', hg', hid⟩ := he.challenge_stays hg
  refine ⟨ch', hg', fun ctx hc => ?_⟩
  rcases he.contextStep id with hsm | ⟨ha, _⟩
  · rw [hsm] at hc
    obtain ⟨challenge₀, account₀, hget₀, haccount₀, hle⟩ := hdb id ctx hc
    rw [hg] at hget₀
    cases hget₀
    obtain ⟨account, acct', hp, hpo, hlt⟩ := h.epoch
    rw [hac, hp] at haccount₀
    cases haccount₀
    exact ⟨acct', hid ▸ hac.symm ▸ hpo, UInt64.lt_of_le_of_lt hle hlt⟩
  · rw [hg] at ha
    cases ha

/-! ### Accepted authority is not revoked -/

theorem TrustRevoked.not_accepted (h : Effect env db (.finishLogin command) (.login (.ok .completed)) db')
    (hu : command.trustedDeviceIdToUse = some id) : ¬ TrustRevoked db id := by
  rintro ⟨t, hg, hr⟩
  cases h with
  | none _ _ hqt => cases hqt
  | loginCompleted _ _ _ _ _ _ _ hau =>
    cases hau with
    | password _ _ hno | factor _ _ _ _ hno => rw [hu] at hno; cases hno
    | trusted _ _ _ _ hu' hg' ha =>
      rw [hu] at hu'
      cases hu'
      rw [hg] at hg'
      cases hg'
      simp only [TrustedControllerDevice.acceptedFor, Bool.and_eq_true] at ha
      rw [hr] at ha
      cases ha.1.1.2

theorem Effect.grant_session_active {command : DeviceRegistrationCommand} {device : Device}
    {grant : DeviceEnrollmentGrant}
    (h : Effect env db (.registerDevice command) (.registration (.ok (.created device))) db')
    (hget : db.deviceEnrollmentGrants[command.grantId]? = some grant) :
    activeAccountSession db.accountSessions[grant.issuedAccountSessionId]? command.accountId
      command.nowEpochMillis = true := by
  cases h with
  | none _ _ hqt => cases hqt
  | deviceRegistered _ _ _ _ _ hg _ ha _ hs =>
    rw [hget] at hg
    cases hg
    simp only [grantAccepted, Bool.and_eq_true, beq_iff_eq] at ha
    rw [ha.1.1.1.1.2]
    exact hs

/-! ### Every continuation -/

/-- What was granted to the account before `post` is void in the rest `log` of the run. -/
structure EpochCutOff (accountId : String) (pre post : Database) (log : List CallEntry) : Prop where
  /-- The epoch of the account has grown. -/
  epoch : ∃ account account', pre.accounts[accountId]? = some account ∧
    post.accounts[accountId]? = some account' ∧ account.updatedAtEpochMillis < account'.updatedAtEpochMillis
  logins : ∀ (id : String) (challenge : RiskChallenge), pre.riskChallenges[id]? = some challenge →
    challenge.accountId = accountId → ∀ e ∈ log, ∀ command : LoginFinishCommand,
      e.call = .finishLogin command → e.out = .login (.ok .completed) → command.challengeId ≠ id
  /-- No earlier session of the account is active or loaded again, -/
  sessions : ∀ (id : String) (s : AccountSession), pre.accountSessions[id]? = some s →
    s.accountId = accountId → ∀ db ∈ post :: log.map (·.post),
      (∀ accountId now, activeAccountSession db.accountSessions[id]? accountId now = false) ∧
      ∀ hash now s', loadRefreshSessionAuthority db hash now = some s' → s'.accountSessionId ≠ id
  /-- and none is rotated, so that none has a successor. -/
  rotations : ∀ (id : String) (s : AccountSession), pre.accountSessions[id]? = some s →
    s.accountId = accountId → ∀ e ∈ log, rotatedSession e ≠ some id
  /-- No trusted device of the account that was active stands in for a second factor. -/
  trusted : ∀ (id : String) (t : TrustedControllerDevice), pre.trustedControllerDevices[id]? = some t →
    t.accountId = accountId → t.status = .active → ∀ e ∈ log, ∀ command : LoginFinishCommand,
      e.call = .finishLogin command → e.out = .login (.ok .completed) →
      command.trustedDeviceIdToUse ≠ some id
  /-- No grant issued through an earlier session registers a device. -/
  grants : ∀ e ∈ log, ∀ (command : DeviceRegistrationCommand) (device : Device)
    (grant : DeviceEnrollmentGrant), e.call = .registerDevice command →
    e.out = .registration (.ok (.created device)) →
    e.pre.deviceEnrollmentGrants[command.grantId]? = some grant → ∀ s : AccountSession,
      pre.accountSessions[grant.issuedAccountSessionId]? = some s → s.accountId ≠ accountId

theorem epochInv_empty : EpochInv .empty := fun id ctx h => by simp [Database.empty] at h

/-- After an event, in a state the run has kept its invariants to, the rest of the run
sees nothing of the earlier authority. -/
theorem epochCutOff_of_done {pre : Database} {after : List Call}
    (hdn : CutOffDone accountId pre (step env pre call).2) (hep : EpochInv pre) (hky : SessionsKeyed pre)
    (hn : ∀ e ∈ trace (step env) (step env pre call).2 after, RegistersNew e) :
    EpochCutOff accountId pre (step env pre call).2 (trace (step env) (step env pre call).2 after) := by
  have hr : ∀ {id : String} {s : AccountSession}, pre.accountSessions[id]? = some s →
      s.accountId = accountId → ∀ e ∈ trace (step env) (step env pre call).2 after,
        (SessionRevoked e.pre id ∧ SessionsKeyed e.pre) ∧ SessionRevoked e.post id ∧ SessionsKeyed e.post := by
    intro id s hs hac e he
    exact inv_of_mem he (I := fun db => SessionRevoked db id ∧ SessionsKeyed db)
      (fun h hdb => ⟨h.keeps_revoked hdb.1, h.sessionsKeyed hdb.2⟩)
      ⟨hdn.sessions id s hs hac, (step_effect env pre call).sessionsKeyed hky⟩
  refine ⟨hdn.epoch, ?_, ?_, ?_, ?_, ?_⟩
  · intro id ch hg hac e he command hcl ho hid
    obtain ⟨-, hde, _⟩ := forall_trace_of (step env) (fun db c hQ h => (step_effect env db c).keeps_dead hQ h) after
      (hdn.dead (step_effect env pre call) hep hg hac) hn e he
    have heff := Effect.of_mem he
    rw [hcl, ho] at heff
    exact Dead.not_completed heff (hid ▸ hde)
  · intro id s hs hac db hdb
    have hss : SessionRevoked db id ∧ SessionsKeyed db := by
      rcases List.mem_cons.mp hdb with rfl | hdb
      · exact ⟨hdn.sessions id s hs hac, (step_effect env pre call).sessionsKeyed hky⟩
      · obtain ⟨e, he, rfl⟩ := List.mem_map.mp hdb
        exact (hr hs hac e he).2
    exact ⟨hss.1.not_active, fun hash now s' hload => hss.1.not_loaded hss.2 hload⟩
  · intro id s hs hac e he
    exact (hr hs hac e he).1.1.not_rotated e.out e.post
  · intro id t ht hac ha e he command hcl ho hu
    obtain ⟨htrust, -⟩ := inv_of_mem he (fun h => h.keeps_trustRevoked) (hdn.trusted id t ht hac ha)
    have heff := Effect.of_mem he
    rw [hcl, ho] at heff
    exact TrustRevoked.not_accepted heff hu htrust
  · intro e he command device grant hcl ho hgrant s hs hac
    obtain ⟨⟨hp, _⟩, _⟩ := hr hs hac e he
    have heff := Effect.of_mem he
    rw [hcl, ho] at heff
    have ha := heff.grant_session_active hgrant
    rw [hp.not_active] at ha
    cases ha

/-- **The security epoch cuts off earlier authority.** In every run of a new store whose
registered accounts are new and whose epochs stay below the end of the range: after a
successful change of password, removal of a second factor or enrolment of one, nothing
granted to the account before it is accepted in any continuation, and the epoch of the
account has grown, whatever the clock says. -/
theorem security_epoch_cut_off (env : Env) (before after : List Call) (call : Call) (accountId : String)
    (hnew : ∀ e ∈ trace (step env) .empty (before ++ call :: after), RegistersNew e)
    (hbelow : ∀ e ∈ trace (step env) .empty (before ++ call :: after), BelowMax e)
    (hcut : cutsOff call (step env (final (step env) .empty before) call).1 = some accountId) :
    EpochCutOff accountId (final (step env) .empty before)
      (step env (final (step env) .empty before) call).2
      (trace (step env) (step env (final (step env) .empty before) call).2 after) := by
  simp only [trace_append, trace_cons, List.forall_mem_append, List.forall_mem_cons] at hnew hbelow
  have hep : EpochInv (final (step env) .empty before) :=
    run_inv_of (step env) (fun db c hQ h => (step_effect env db c).epochInv hQ h) before epochInv_empty hnew.1
  have hky : SessionsKeyed (final (step env) .empty before) :=
    run_inv (step env) (fun db c h => (step_effect env db c).sessionsKeyed h) before sessionsKeyed_empty
  exact epochCutOff_of_done ((step_effect env _ call).cutOffDone hcut hbelow.2.1) hep hky hnew.2.2

/-! ### A run -/

/-- An account with a session and an open login challenge. -/
def challengedCalls : List Call :=
  [.registerAccount sampleAccount,
    .issueTokens sampleSession,
    .createLoginChallenge (sampleAuthority 0 30000)
      (sampleAudit "challenged" "login_challenge_created" "success" 30000)]

/-- The enrolment comes between the challenge and the login, which then fails. -/
theorem security_epoch_cut_off_enrollment :
    (step sampleEnv (final (step sampleEnv) .empty
        (challengedCalls ++ [.finishTotpEnrollment (sampleEnrollment 40000)]))
      (.finishLogin (sampleLogin 0 "000002" 60000))).1 matches .login (.ok .rejected) ∧
    EpochCutOff "account" (final (step sampleEnv) .empty challengedCalls)
      (step sampleEnv (final (step sampleEnv) .empty challengedCalls)
        (.finishTotpEnrollment (sampleEnrollment 40000))).2
      (trace (step sampleEnv) (step sampleEnv (final (step sampleEnv) .empty challengedCalls)
        (.finishTotpEnrollment (sampleEnrollment 40000))).2
        [.finishLogin (sampleLogin 0 "000002" 60000)]) :=
  ⟨by decide +kernel, security_epoch_cut_off sampleEnv challengedCalls
    [.finishLogin (sampleLogin 0 "000002" 60000)] (.finishTotpEnrollment (sampleEnrollment 40000)) "account"
    (by decide +kernel) (by decide +kernel) (by decide +kernel)⟩

end Rctl.Api
