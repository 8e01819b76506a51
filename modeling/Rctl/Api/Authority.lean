/-
# What a call does to sessions, trusted devices, devices, accounts and contexts

The authority of an account lives in five tables. Key by key, a call leaves an entry
alone or does one of few things to it: a session is created or, if live, revoked; a
trusted device that is not active stays so; a device is registered, managed or given a
new key; an account's epoch does not go back; the context of a login challenge is stored
together with the challenge and never replaced.
-/
import Rctl.Api.LoginMfa

namespace Rctl.Api

open ByteString Result OrdMap StateRun Database

/-! ### Sessions -/

def insertedSession (call : Call) (r : Response) : Option AccountSession :=
  match call, r with
  | .finishLogin command, .login (.ok .completed) => some command.accountSession
  | .rotateRefreshSession _ replacement _ _, .bool (.ok true) => some replacement
  | .issueTokens session, .unit (.ok _) => some session
  | _, _ => none

/-- What a call that has stored the session `inserted` does to the session `id`. -/
inductive SessionStep (inserted : Option AccountSession) (id : String) :
    Option AccountSession → Option AccountSession → Prop
  | keep (o : Option AccountSession) : SessionStep inserted id o o
  | create (s : AccountSession) (hinserted : inserted = some s) (hid : s.accountSessionId = id) :
      SessionStep inserted id none (some s)
  | revoke (s : AccountSession) (now : UInt64) (reason : String)
      (hlive : s.revokedAtEpochMillis = none) :
      SessionStep inserted id (some s) (some (s.revoke now reason))

variable {env : Env} {db db' : Database} {call : Call} {r : Response} {id : String} {e : StepUpExpectation}
  {act : StepUpAction} {challengeId : String} {f : RiskChallenge → RiskChallenge}

section Sessions

variable {s : AccountSession}

theorem revokeSessions_step (sess : Table AccountSession) (accountId : String) (now : UInt64)
    (reason : String) (inserted : Option AccountSession) (id : String) :
    SessionStep inserted id sess[id]? (revokeSessions accountId now reason sess)[id]? := by
  refine rel_mapValues id (.keep none) fun s => ?_
  split_ifs with hl
  · simp only [AccountSession.liveFor, Bool.and_eq_true, Option.isNone_iff_eq_none] at hl
    exact .revoke s now reason hl.2
  · exact .keep _

theorem ActionDone.sessionStep (h : ActionDone (db.modifyChallenge challengeId f) e act db') (id : String) :
    SessionStep none id db.accountSessions[id]? db'.accountSessions[id]? := by
  cases h with
  | rotated | trustRevoked => exact .keep _
  | disabled | passwordChanged => exact revokeSessions_step _ _ _ _ none id

/-- **Every call leaves a session alone, creates it, or revokes it while it is live.** -/
theorem Effect.sessionStep (h : Effect env db call r db') (id : String) :
    SessionStep (insertedSession call r) id db.accountSessions[id]? db'.accountSessions[id]? := by
  cases h with
  | factorUsed _ _ _ _ _ _ hu | factorJudged _ _ _ _ _ _ _ _ _ _ hu | verificationJudged _ _ _ _ _ _ _ _ hu =>
    obtain ⟨_, _, rfl⟩ := hu.same
    exact .keep _
  | stepUpApplied _ _ _ _ _ _ hdn => exact hdn.sessionStep id
  | enrolled => exact revokeSessions_step _ _ _ _ _ id
  | loginTrustRefused =>
    unfold expireTrusted
    split <;> exact .keep _
  | loginCompleted command _ _ a _ _ _ hau hn hg htr =>
    have hsn : a.accountSessions = db.accountSessions :=
      (congrArg accountSessions hau.frame :)
    rw [completeLogin_eq hg htr, hsn]
    rw [hsn] at hn
    refine rel_insert id (.keep _) fun hid => ?_
    rw [hn]
    exact .create command.accountSession rfl hid
  | sessionRotated _ replacement _ now _ old _ hf hn =>
    obtain ⟨hget, hp⟩ := firstWith_eq_some hf
    simp only [AccountSession.rotatable, Bool.and_eq_true, Option.isNone_iff_eq_none] at hp
    refine rel_insert id ?_ fun hid => ?_
    · refine rel_modify id (.keep _) fun _ s hs => ?_
      rw [hs]
      rw [hget] at hs
      cases hs
      exact .revoke old now _ hp.1.1.2
    · rw [hn]
      exact .create replacement rfl hid
  | sessionRevoked _ _ now _ session _ hsession hlv =>
    refine rel_modify id (.keep _) fun _ s hs => ?_
    rw [hs]
    rw [hsession] at hs
    cases hs
    exact .revoke session now _ hlv
  | deviceRegistered _ _ _ _ _ _ _ _ _ _ _ htr =>
    cases htr <;> exact .keep _
  | deviceManaged command =>
    show SessionStep _ id _ (if command.revokesSessions then _ else _ : Table AccountSession)[id]?
    split
    · exact revokeSessions_step _ _ _ _ _ id
    · exact .keep _
  | tokensIssued session hn =>
    refine rel_insert id (.keep _) fun hid => ?_
    rw [hn]
    exact .create session rfl hid
  | _ => exact .keep _

def SessionRevoked (db : Database) (id : String) : Prop :=
  ∃ s, db.accountSessions[id]? = some s ∧ s.revokedAtEpochMillis ≠ none

theorem SessionStep.of_revoked {inserted post : Option AccountSession}
    (h : SessionStep inserted id (some s) post) (hs : s.revokedAtEpochMillis ≠ none) : post = some s := by
  cases h with
  | keep => rfl
  | revoke _ _ _ hl => exact absurd hl hs

theorem Effect.keeps_revoked (h : Effect env db call r db') (hdb : SessionRevoked db id) : SessionRevoked db' id := by
  obtain ⟨s, hg, hr⟩ := hdb
  have hs := h.sessionStep id
  rw [hg] at hs
  exact ⟨s, hs.of_revoked hr, hr⟩

def SessionsKeyed (db : Database) : Prop :=
  ∀ (id : String) (s : AccountSession), db.accountSessions[id]? = some s → s.accountSessionId = id

theorem Effect.sessionsKeyed (h : Effect env db call r db') (hdb : SessionsKeyed db) : SessionsKeyed db' := by
  intro id s hg
  have hs := h.sessionStep id
  rw [hg] at hs
  generalize hp : db.accountSessions[id]? = pre at hs
  cases hs with
  | keep => exact hdb id s hp
  | create _ _ hid => exact hid
  | revoke s' => exact hdb id s' hp

theorem sessionsKeyed_empty : SessionsKeyed .empty := fun id s h => by simp [empty] at h

theorem SessionRevoked.not_active (h : SessionRevoked db id) (accountId : String) (now : UInt64) :
    activeAccountSession db.accountSessions[id]? accountId now = false := by
  obtain ⟨s, hg, hrevoked⟩ := h
  rw [hg, activeAccountSession, Option.any_some]
  cases hr : s.revokedAtEpochMillis with
  | none => exact absurd hr hrevoked
  | some => rw [Option.isNone_some, Bool.and_false, Bool.false_and]

theorem SessionRevoked.not_loaded (h : SessionRevoked db id) (hky : SessionsKeyed db) {hash : Digest}
    {now : UInt64} (hload : loadRefreshSessionAuthority db hash now = some s) : s.accountSessionId ≠ id := by
  obtain ⟨⟨key, s'⟩, hf, rfl⟩ := Option.map_eq_some_iff.mp hload
  obtain ⟨hg, hp⟩ := firstWith_eq_some hf
  simp only [Bool.and_eq_true, Option.isNone_iff_eq_none] at hp
  obtain ⟨s, hs, hr⟩ := h
  intro hid
  rw [hky key s' hg] at hid
  rw [← hid, hg] at hs
  cases hs
  exact hr hp.1.1.1.2

/-- The session a call has rotated, and its successor. -/
def succession (e : CallEntry) : Option (String × String) :=
  match e.call, e.out with
  | .rotateRefreshSession refreshTokenHash replacement _ now, .bool (.ok true) =>
    (firstWith e.pre.accountSessions (AccountSession.rotatable refreshTokenHash replacement now)).map
      fun old => (old.1, replacement.accountSessionId)
  | _, _ => none

def rotatedSession (e : CallEntry) : Option String := (succession e).map (·.1)

theorem SessionRevoked.not_rotated (h : SessionRevoked db id) (r : Response) (db' : Database) :
    rotatedSession ⟨db, call, r, db'⟩ ≠ some id := by
  intro hr
  unfold rotatedSession succession at hr
  split at hr
  · rw [Option.map_map] at hr
    obtain ⟨⟨key, old⟩, hf, hk⟩ := Option.map_eq_some_iff.mp hr
    obtain ⟨hg, hp⟩ := firstWith_eq_some hf
    simp only [AccountSession.rotatable, Bool.and_eq_true, Option.isNone_iff_eq_none] at hp
    have hk : key = id := hk
    obtain ⟨s, hs, hrevoked⟩ := h
    rw [← hk, show db.accountSessions[key]? = some old from hg] at hs
    cases hs
    exact hrevoked hp.1.1.2
  · cases hr

end Sessions

/-! ### Trusted devices -/

/-- A trusted device stays in the store, and stays as it is once it is not active. -/
def TrustStays (pre post : Option TrustedControllerDevice) : Prop :=
  ∀ t, pre = some t → ∃ t', post = some t' ∧ (t.status ≠ .active → t'.status = t.status)

section Trust

theorem TrustStays.refl (o : Option TrustedControllerDevice) : TrustStays o o :=
  fun t ht => ⟨t, ht, fun _ => rfl⟩

theorem TrustStays.trans {a b c : Option TrustedControllerDevice} (hab : TrustStays a b)
    (hbc : TrustStays b c) : TrustStays a c := by
  intro t ht
  obtain ⟨t', ht', hss'⟩ := hab t ht
  obtain ⟨t'', ht'', hs''⟩ := hbc t' ht'
  refine ⟨t'', ht'', fun hne => ?_⟩
  have heq := hss' hne
  exact (hs'' (heq ▸ hne)).trans heq

theorem TrustStays.of_none (o : Option TrustedControllerDevice) : TrustStays none o := nofun

theorem TrustStays.of_status {t t' : TrustedControllerDevice}
    (h : t.status ≠ .active → t'.status = t.status) : TrustStays (some t) (some t') := by
  rintro _ ⟨⟩
  exact ⟨t', rfl, h⟩

variable {devices devices' : Table TrustedControllerDevice} {command : LoginFinishCommand}

theorem revokeTrusted_stays (p : TrustedControllerDevice → Bool) (now : UInt64) (id : String) :
    TrustStays devices[id]? (revokeTrusted p now devices)[id]? := by
  refine rel_mapValues id (.refl none) fun t => ?_
  split_ifs with ha
  · rw [Bool.and_eq_true, beq_iff_eq] at ha
    exact .of_status fun hne => absurd ha.2 hne
  · exact .refl _

theorem modifyTrusted_stays {f : TrustedControllerDevice → TrustedControllerDevice} {key : String}
    (hf : ∀ t, devices[key]? = some t → t.status ≠ .active → (f t).status = t.status) (id : String) :
    TrustStays devices[id]? (devices.modify key f)[id]? := by
  refine rel_modify id (.refl _) fun _ t ht => ?_
  rw [ht]
  exact .of_status (hf t ht)

theorem insertTrusted_stays {key : String} {tr : TrustedControllerDevice}
    (hn : devices[key]? = none) (id : String) : TrustStays devices[id]? (devices.insert key tr)[id]? := by
  refine rel_insert id (.refl _) fun _ => ?_
  rw [hn]
  exact .of_none _

theorem ActionDone.trustStays (h : ActionDone (db.modifyChallenge challengeId f) e act db') (id : String) :
    TrustStays db.trustedControllerDevices[id]? db'.trustedControllerDevices[id]? := by
  cases h with
  | rotated => exact .refl _
  | disabled | passwordChanged => exact revokeTrusted_stays _ _ id
  | trustRevoked trustedId _ tr htr ha =>
    refine modifyTrusted_stays (fun t ht hne => ?_) id
    rw [show db.trustedControllerDevices[trustedId]? = some tr from htr] at ht
    cases ht
    exact absurd ha hne

theorem Authenticated.trustStays {a : Database} (h : Authenticated env db command a) (id : String) :
    TrustStays db.trustedControllerDevices[id]? a.trustedControllerDevices[id]? := by
  cases h with
  | password => exact .refl _
  | trusted =>
    refine modifyTrusted_stays (fun _ _ _ => ?_) id
    rfl
  | factor _ _ _ _ _ _ _ hu =>
    obtain ⟨_, _, rfl⟩ := hu.same
    exact .refl _

theorem TrustedStored.trustStays {g c : Database} (h : TrustedStored g command c) (id : String) :
    TrustStays g.trustedControllerDevices[id]? c.trustedControllerDevices[id]? := by
  cases h with
  | none => exact .refl _
  | stored _ _ _ hn =>
    refine (revokeTrusted_stays _ command.nowEpochMillis id).trans (insertTrusted_stays ?_ id)
    rw [revokeTrusted, get_mapValues, hn]
    rfl

/-- **No call reactivates a trusted device.** -/
theorem Effect.trustStays (h : Effect env db call r db') (id : String) :
    TrustStays db.trustedControllerDevices[id]? db'.trustedControllerDevices[id]? := by
  cases h with
  | factorUsed _ _ _ _ _ _ hu | factorJudged _ _ _ _ _ _ _ _ _ _ hu | verificationJudged _ _ _ _ _ _ _ _ hu =>
    obtain ⟨_, _, rfl⟩ := hu.same
    exact .refl _
  | stepUpApplied _ _ _ _ _ _ hdn => exact hdn.trustStays id
  | enrolled | keyRotated => exact revokeTrusted_stays _ _ id
  | loginTrustRefused command trustedId tr hget =>
    unfold expireTrusted
    split_ifs with ha
    · rw [Bool.and_eq_true, beq_iff_eq] at ha
      refine modifyTrusted_stays (fun t ht hne => ?_) id
      rw [hget] at ht
      cases ht
      exact absurd ha.1 hne
    · exact .refl _
  | loginCompleted _ _ _ a g _ _ hau _ hgr htr =>
    have hg : g.trustedControllerDevices = a.trustedControllerDevices := by cases hgr <;> rfl
    exact (hau.trustStays id).trans (hg ▸ htr.trustStays id)
  | deviceRegistered _ _ _ _ _ _ _ _ _ _ _ htr =>
    cases htr with
    | none => exact .refl _
    | added _ _ hn => exact insertTrusted_stays hn id
  | deviceManaged command =>
    show TrustStays _ (if command.tightening then _ else _ : Table TrustedControllerDevice)[id]?
    split
    · exact revokeTrusted_stays _ _ id
    · exact .refl _
  | _ => exact .refl _

def TrustRevoked (db : Database) (id : String) : Prop :=
  ∃ t, db.trustedControllerDevices[id]? = some t ∧ t.status = .revoked

theorem Effect.keeps_trustRevoked (h : Effect env db call r db') (hdb : TrustRevoked db id) :
    TrustRevoked db' id := by
  obtain ⟨t, hg, hs⟩ := hdb
  obtain ⟨t', hg', hs'⟩ := h.trustStays id t hg
  exact ⟨t', hg', (hs' (by rw [hs]; exact nofun)).trans hs⟩

end Trust

/-! ### Devices -/

structure Device.New (device : Device) : Prop where
  offline : device.status = .offline
  unrevoked : device.publicKeyRevokedAtEpochMillis = none
  version : device.publicKeyVersion = 1

/-- What a call with its answer does to the device `id`. -/
inductive DeviceStep (call : Call) (r : Response) (id : String) : Option Device → Option Device → Prop
  | keep (o : Option Device) : DeviceStep call r id o o
  | register (command : DeviceRegistrationCommand) (hcall : call = .registerDevice command)
      (hid : command.device.deviceId = id) (hnew : command.device.New) :
      DeviceStep call r id none (some command.device)
  | manage (command : DeviceManagementCommand) (target : Device) (hcall : call = .manageDevice command)
      (hid : command.targetDeviceId = id) (haccount : target.accountId = command.accountId)
      (hallowed : deviceManagementTransitionAllowed target command = true) :
      DeviceStep call r id (some target) (some (applyDeviceManagement command target))
  | rotate (rotation : DeviceKeyRotation) (current : Device) (change : DeviceAuthorityChange)
      (hcall : call = .rotateDeviceKey rotation) (hr : r = .keyRotation (.ok change))
      (hid : rotation.stepUp.deviceId = id) (haccount : current.accountId = rotation.stepUp.accountId)
      (hunrevoked : current.publicKeyRevokedAtEpochMillis = none)
      (hversion : current.publicKeyVersion.toNat + 1 = rotation.newPublicKeyVersion.toNat) :
      DeviceStep call r id (some current) (some (current.rotateKey rotation))

theorem device_new {command : DeviceRegistrationCommand} {grant : DeviceEnrollmentGrant}
    (h : validateDeviceRegistrationAuthority env db command grant = .ok ()) : command.device.New := by
  simp only [validateDeviceRegistrationAuthority, bind_eq_ok, ensure_eq_ok] at h
  obtain ⟨_, hsh, _⟩ := h
  simp only [DeviceRegistrationCommand.shapeValid, Bool.and_eq_true, beq_iff_eq, Option.isNone_iff_eq_none] at hsh
  obtain ⟨⟨⟨⟨⟨⟨⟨⟨⟨_, hv⟩, hu⟩, ho⟩, _⟩, _⟩, _⟩, _⟩, _⟩, _⟩ := hsh
  exact ⟨ho, hu, hv⟩

/-- **Every call leaves a device alone, registers, manages or re-keys it.** -/
theorem Effect.deviceStep (h : Effect env db call r db') (id : String) :
    DeviceStep call r id db.devices[id]? db'.devices[id]? := by
  cases h with
  | factorUsed _ _ _ _ _ _ hu | factorJudged _ _ _ _ _ _ _ _ _ _ hu | verificationJudged _ _ _ _ _ _ _ _ hu =>
    obtain ⟨_, _, rfl⟩ := hu.same
    exact .keep _
  | stepUpApplied _ _ _ _ _ _ hdn => cases hdn <;> exact .keep _
  | loginTrustRefused =>
    unfold expireTrusted
    split <;> exact .keep _
  | loginCompleted _ _ _ _ _ _ _ hau _ hgrant htr =>
    rw [completeLogin_eq hgrant htr, (congrArg devices hau.frame :)]
    exact .keep _
  | deviceRegistered command _ _ tr _ _ hv _ _ _ hdv htr =>
    have hd : tr.devices = db.devices.insert command.device.deviceId command.device := by
      cases htr <;> rfl
    refine (congrArg (fun t : Table Device => DeviceStep _ _ id db.devices[id]? t[id]?) hd).mpr ?_
    refine rel_insert id (.keep _) fun hid => ?_
    rw [hdv]
    exact .register command rfl hid (device_new hv)
  | keyRotated rotation _ cur _ _ _ _ _ hc hal =>
    refine rel_modify id (.keep _) fun hid device hg => ?_
    rw [hg]
    rw [hc] at hg
    cases hg
    simp only [rotationAllowed, Bool.and_eq_true, beq_iff_eq, Option.isNone_iff_eq_none, decide_eq_true_eq] at hal
    obtain ⟨⟨⟨⟨⟨⟨⟨hac, _⟩, _⟩, hunrevoked⟩, _⟩, hversion⟩, _⟩, _⟩ := hal
    exact .rotate rotation cur _ rfl rfl hid hac hunrevoked hversion
  | deviceManaged command target _ _ ht hac hal =>
    refine rel_modify id (.keep _) fun hid device hg => ?_
    rw [hg]
    rw [ht] at hg
    cases hg
    exact .manage command target rfl hid hac hal
  | _ => exact .keep _

/-! ### Accounts -/

def EpochStays (pre post : Option Account) : Prop :=
  ∀ account, pre = some account →
    ∃ account', post = some account' ∧ account.updatedAtEpochMillis ≤ account'.updatedAtEpochMillis

/-- An account that the call registers has an identifier no account has. The route draws
it at random, and the store does not check it. -/
def RegistersNew (e : CallEntry) : Prop :=
  match e.call with
  | .registerAccount account => e.pre.accounts[account.accountId]? = none
  | _ => True

instance : DecidablePred RegistersNew := fun e => by
  unfold RegistersNew
  split <;> infer_instance

theorem EpochStays.refl (o : Option Account) : EpochStays o o :=
  fun acct h => ⟨acct, h, UInt64.le_refl _⟩

inductive AccountStep (accounts : Table Account) (call : Call) : Table Account → Prop
  | keep : AccountStep accounts call accounts
  | register (account : Account) (hcall : call = .registerAccount account) :
      AccountStep accounts call (accounts.insert account.accountId account)
  | advance (key : String) (f : Account → Account) (hid : ∀ account, (f account).accountId = account.accountId)
      (hepoch : ∀ account, account.updatedAtEpochMillis ≤ (f account).updatedAtEpochMillis) :
      AccountStep accounts call (accounts.modify key f)

/-- **Every call leaves the accounts alone, registers one or advances its epoch.** -/
theorem Effect.accountStep (h : Effect env db call r db') : AccountStep db.accounts call db'.accounts := by
  cases h with
  | factorUsed _ _ _ _ _ _ hu | factorJudged _ _ _ _ _ _ _ _ _ _ hu | verificationJudged _ _ _ _ _ _ _ _ hu =>
    obtain ⟨_, _, rfl⟩ := hu.same
    exact .keep
  | stepUpApplied _ _ _ _ _ _ hd =>
    cases hd with
    | rotated | trustRevoked => exact .keep
    | disabled | passwordChanged => exact .advance _ _ (fun _ => rfl) fun _ => le_nextEpoch _ _
  | enrolled => exact .advance _ _ (fun _ => rfl) fun _ => le_nextEpoch _ _
  | loginTrustRefused =>
    unfold expireTrusted
    split <;> exact .keep
  | loginCompleted _ _ _ _ _ _ _ hau _ hg htr =>
    rw [completeLogin_eq hg htr, (congrArg accounts hau.frame :)]
    exact .keep
  | deviceRegistered _ _ _ _ _ _ _ _ _ _ _ htr => cases htr <;> exact .keep
  | accountRegistered acct => exact .register acct rfl
  | _ => exact .keep

/-- **No call sets an account back to an earlier epoch.** -/
theorem Effect.epochStays (h : Effect env db call r db') (hn : RegistersNew ⟨db, call, r, db'⟩)
    (id : String) : EpochStays db.accounts[id]? db'.accounts[id]? := by
  have hs := h.accountStep
  generalize db'.accounts = accounts at hs
  cases hs with
  | keep => exact .refl _
  | register acct hc =>
    subst hc
    refine rel_insert id (.refl _) fun _ => ?_
    rw [show db.accounts[acct.accountId]? = Option.none from hn]
    exact nofun
  | advance key f _ hep =>
    refine rel_modify id (.refl _) fun _ acct hg => ?_
    rw [hg]
    rintro _ ⟨⟩
    exact ⟨f acct, rfl, hep acct⟩

/-- Accounts are stored under their identifier. -/
def AccountsKeyed (db : Database) : Prop :=
  ∀ (id : String) (account : Account), db.accounts[id]? = some account → account.accountId = id

theorem Effect.accountsKeyed (h : Effect env db call r db') (hdb : AccountsKeyed db) : AccountsKeyed db' := by
  intro id acct hg
  have hs := h.accountStep
  generalize db'.accounts = accounts at hs hg
  cases hs with
  | keep => exact hdb id acct hg
  | register =>
    rcases of_get_insert hg with ⟨hid, rfl⟩ | hg
    · exact hid
    · exact hdb id acct hg
  | advance _ _ hid =>
    rcases of_get_modify hg with ⟨-, before, hbf, rfl⟩ | hg
    · exact (hid before).trans (hdb id before hbf)
    · exact hdb id acct hg

/-! ### Contexts of login challenges -/

/-- A context is stored with its challenge, for an account at its present epoch, and is
never replaced. -/
theorem Effect.contextStep (h : Effect env db call r db') (id : String) :
    db'.loginChallengeContexts[id]? = db.loginChallengeContexts[id]? ∨
    (db.riskChallenges[id]? = Option.none ∧ ∃ ch ctx acct,
      db'.loginChallengeContexts[id]? = some ctx ∧ db'.riskChallenges[id]? = some ch ∧
      db'.accounts[ch.accountId]? = some acct ∧
      ctx.accountUpdatedAtEpochMillis = acct.updatedAtEpochMillis) := by
  cases h with
  | loginChallengeCreated auth _ acct _ hn _ hac hupdated =>
    by_cases hid : auth.challenge.riskChallengeId = id
    · subst hid
      refine .inr ⟨hn, auth.challenge, auth.context, acct, ?_, ?_, hac, hupdated.symm⟩
      · exact (get_insert _ _ _ _).trans (if_pos rfl)
      · exact (get_insert _ _ _ _).trans (if_pos rfl)
    · exact .inl ((get_insert _ _ _ _).trans (if_neg hid))
  | factorUsed _ _ _ _ _ _ hu | factorJudged _ _ _ _ _ _ _ _ _ _ hu | verificationJudged _ _ _ _ _ _ _ _ hu =>
    obtain ⟨_, _, rfl⟩ := hu.same
    exact .inl rfl
  | stepUpApplied _ _ _ _ _ _ hdn => cases hdn <;> exact .inl rfl
  | loginTrustRefused =>
    unfold expireTrusted
    split <;> exact .inl rfl
  | loginCompleted _ _ _ _ _ _ _ hau _ hg htr =>
    rw [completeLogin_eq hg htr, (congrArg loginChallengeContexts hau.frame :)]
    exact .inl rfl
  | deviceRegistered _ _ _ _ _ _ _ _ _ _ _ htr =>
    cases htr <;> exact .inl rfl
  | _ => exact .inl rfl

end Rctl.Api
