/-
# Revoking a device is final, and complete

A device whose key is revoked, or that is unbound, never acts again: no operation makes
it authorizable, clears the revocation or gives it a new key. And what takes authority
away from a device, disabling or unbinding it, revoking its key or rotating it, does so
in one step everywhere: its open remote sessions are closed, each with one event and one
audit entry, its trust is revoked, and where the device is unbound or its key revoked so
are the sessions of the account.
-/
import Rctl.Api.ForcedClose
import Rctl.Api.TrustedDevices

namespace Rctl.Api

open ByteString Result OrdMap StateRun

/-! ### Dead devices -/

def Device.Dead (d : Device) : Prop := d.publicKeyRevokedAtEpochMillis ≠ none ∨ d.status = .unbound

structure Device.Settled (d : Device) : Prop where
  revoked : d.publicKeyRevokedAtEpochMillis ≠ none → d.status = .disabled ∨ d.status = .unbound
  unbound : d.status = .unbound → d.publicKeyRevokedAtEpochMillis ≠ none

structure StaysDead (d d' : Device) : Prop where
  revoked : d'.publicKeyRevokedAtEpochMillis ≠ none
  unauthorizable : d'.status.isAuthorizable = false
  unbound : d.status = .unbound → d'.status = .unbound
  key : d'.publicKeyId = d.publicKeyId ∧ d'.publicKey = d.publicKey ∧ d'.publicKeyVersion = d.publicKeyVersion

variable {call : Call} {r : Response} {id : String} {command : DeviceManagementCommand}

section Dead

variable {d d' : Device} {pre post : Option Device}

theorem Device.Settled.dead (h : d.Settled) (hd : d.Dead) :
    d.publicKeyRevokedAtEpochMillis ≠ none ∧ d.status.isAuthorizable = false := by
  have hr : d.publicKeyRevokedAtEpochMillis ≠ none := hd.elim (fun h => h) h.unbound
  refine ⟨hr, ?_⟩
  rcases h.revoked hr with hs | hs <;> rw [hs] <;> rfl

theorem StaysDead.refl (h : d.Settled) (hd : d.Dead) : StaysDead d d :=
  ⟨(h.dead hd).1, (h.dead hd).2, fun h => h, rfl, rfl, rfl⟩

theorem StaysDead.trans {d'' : Device} (h : StaysDead d d') (h' : StaysDead d' d'') : StaysDead d d'' :=
  ⟨h'.revoked, h'.unauthorizable, fun hd => h'.unbound (h.unbound hd), h'.key.1.trans h.key.1,
    h'.key.2.1.trans h.key.2.1, h'.key.2.2.trans h.key.2.2⟩

/-- The four fields of a device that say whether it may act, after an action. -/
theorem applyDeviceManagement_authority (command : DeviceManagementCommand) (target : Device) :
    (applyDeviceManagement command target).status = (target.applyAction command.nowEpochMillis command.action).status ∧
      (applyDeviceManagement command target).publicKeyRevokedAtEpochMillis =
        (target.applyAction command.nowEpochMillis command.action).publicKeyRevokedAtEpochMillis ∧
      (applyDeviceManagement command target).publicKeyId = target.publicKeyId ∧
      (applyDeviceManagement command target).publicKey = target.publicKey ∧
      (applyDeviceManagement command target).publicKeyVersion = target.publicKeyVersion := by
  unfold applyDeviceManagement
  rcases command.action with _ | act
  · exact ⟨rfl, rfl, rfl, rfl, rfl⟩
  · cases act <;> exact ⟨rfl, rfl, rfl, rfl, rfl⟩

theorem action_allowed {act : DeviceManagementAction}
    (h : deviceManagementTransitionAllowed d command = true) (hac : command.action = some act) :
    match act with
    | .disable => d.status.isAuthorizable = true
    | .restore => d.status = .disabled ∧ d.publicKeyRevokedAtEpochMillis = none
    | .unbind => d.status ≠ .unbound
    | .revokePublicKey => d.status ≠ .unbound ∧ d.publicKeyRevokedAtEpochMillis = none := by
  unfold deviceManagementTransitionAllowed at h
  rw [hac] at h
  split at h
  · cases h
  · cases act <;>
      simpa only [Bool.and_eq_true, beq_iff_eq, bne_iff_ne, Option.isNone_iff_eq_none] using h

theorem DeviceStep.settled (h : DeviceStep call r id pre post) (hp : ∀ d, pre = some d → d.Settled) :
    ∀ d', post = some d' → d'.Settled := by
  intro d' hpo
  cases h with
  | keep => exact hp d' hpo
  | register _ _ _ hn =>
    cases hpo
    refine ⟨fun hr => absurd hn.unrevoked hr, fun hun => ?_⟩
    rw [hn.offline] at hun
    cases hun
  | manage command target _ _ _ hal =>
    cases hpo
    obtain ⟨hss, hr, -⟩ := applyDeviceManagement_authority command target
    have ht := hp target rfl
    constructor
    all_goals rw [hss, hr]
    all_goals rcases hac : command.action with _ | act
    · exact ht.revoked
    · cases act with
      | restore => exact fun h => absurd (action_allowed hal hac).2 h
      | disable => exact fun _ => .inl rfl
      | unbind => exact fun _ => .inr rfl
      | revokePublicKey => exact fun _ => .inl rfl
    · exact ht.unbound
    · cases act <;> nofun
  | rotate _ cur _ _ _ _ _ hu =>
    cases hpo
    refine ⟨nofun, fun hun => ?_⟩
    exact absurd hu ((hp cur rfl).unbound hun)

/-- **A dead device stays dead**: of the actions only a renaming and, for a device that is
not unbound yet, an unbinding get past the checks. -/
theorem DeviceStep.stays_dead (h : DeviceStep call r id (some d) post) (hs : d.Settled) (hd : d.Dead) :
    ∃ d', post = some d' ∧ StaysDead d d' := by
  obtain ⟨hr, hun⟩ := hs.dead hd
  cases h with
  | keep => exact ⟨d, rfl, .refl hs hd⟩
  | manage command _ _ _ _ hal =>
    obtain ⟨hss', hr', hk⟩ := applyDeviceManagement_authority command d
    refine ⟨applyDeviceManagement command d, rfl, ?_⟩
    rcases hac : command.action with _ | act
    · rw [hac] at hss' hr'
      exact ⟨hr' ▸ hr, hss' ▸ hun, fun h => hss'.trans h, hk⟩
    · have hal := action_allowed hal hac
      rw [hac] at hss' hr'
      cases act with
      | disable =>
        rw [show d.status.isAuthorizable = true from hal] at hun
        cases hun
      | restore | revokePublicKey => exact absurd hal.2 hr
      | unbind =>
        refine ⟨?_, ?_, fun _ => hss', hk⟩
        · rw [hr']
          nofun
        · rw [hss']
          rfl
  | rotate _ _ _ _ _ _ _ hu => exact absurd hu hr

def rotatedDevice (call : Call) (r : Response) : Option String :=
  match call, r with
  | .rotateDeviceKey rotation, .keyRotation (.ok _) => some rotation.stepUp.deviceId
  | _, _ => none

/-- Only a rotation of the device changes the version of its key, by one. -/
theorem DeviceStep.version (h : DeviceStep call r id (some d) post) :
    ∃ d', post = some d' ∧ (d'.publicKeyVersion = d.publicKeyVersion ∨
      (rotatedDevice call r = some id ∧ d'.publicKeyVersion.toNat = d.publicKeyVersion.toNat + 1)) := by
  cases h with
  | keep => exact ⟨d, rfl, .inl rfl⟩
  | manage command => exact ⟨_, rfl, .inl (applyDeviceManagement_authority command d).2.2.2.2⟩
  | rotate _ _ _ hc hr hid _ _ hv =>
    refine ⟨_, rfl, .inr ⟨?_, hv.symm⟩⟩
    rw [hc, hr, ← hid]
    rfl

end Dead

/-! ### What a tightening does -/

/-- The device a call has taken authority or its key away from. -/
def tightens (call : Call) (r : Response) : Option String :=
  match call, r with
  | .manageDevice command, .management (.ok (.updated _)) =>
    if command.tightening then some command.targetDeviceId else none
  | .rotateDeviceKey rotation, .keyRotation (.ok _) => some rotation.stepUp.deviceId
  | _, _ => none

structure CloseRecords (deviceId : String) (pre post : Database) (ids : List String)
    (events : List SessionEvent) (audits more : List AuditEntry) : Prop where
  nodup : ids.Nodup
  mem : ∀ id : String, id ∈ ids ↔ ∃ s, pre.sessions[id]? = some s ∧ s.openOn deviceId = true
  sessionEvents : post.sessionEvents = pre.sessionEvents ++ events
  auditLogs : post.auditLogs = pre.auditLogs ++ (audits ++ more)
  eventIds : events.map (·.sessionId) = ids
  auditIds : audits.map (·.sessionId) = ids.map some
  closed : ∀ event ∈ events, event.eventType = "closed" ∧ event.toStatus = .closed ∧
    event.fromStatus = pre.sessions[event.sessionId]?.map (·.status) ∧
    event.resultSession = post.sessions[event.sessionId]?
  ended : ∀ audit ∈ audits, audit.action = "session_ended"
  others : ∀ audit ∈ more, audit.action ≠ "session_ended"

/-- What a call that tightens a device leaves of its authority. -/
structure Tightened (deviceId : String) (pre post : Database) : Prop where
  noneOpen : ∀ (id : String) (s : Session), post.sessions[id]? = some s → s.openOn deviceId = false
  /-- A session is closed under the next epoch exactly if it was open on the device. -/
  sessions : ∀ (id : String) (s : Session), pre.sessions[id]? = some s →
    (s.openOn deviceId = false → post.sessions[id]? = some s) ∧
    (s.openOn deviceId = true → ∃ s', post.sessions[id]? = some s' ∧ s'.status = .closed ∧
      s'.relayTokenEpoch.toNat = s.relayTokenEpoch.toNat + 1 ∧ s'.endedAtEpochMillis ≠ none)
  records : ∃ ids events audits more, CloseRecords deviceId pre post ids events audits more
  untrusted : ∀ (id : String) (t : TrustedControllerDevice), post.trustedControllerDevices[id]? = some t →
    t.status = .active → t.controllerDeviceId ≠ deviceId

section Tighten

variable {env : Env} {db db' : Database} {deviceId : String} {source : AuditEntry} {now : UInt64} {reason : String}
  {ids : List String}

theorem Session.closedAt_openOn (s : Session) (now : UInt64) (deviceId : String) :
    (s.closedAt now).openOn deviceId = false := rfl

section

variable (h : ForcedClose env deviceId source now reason ids db db')
include h

theorem ForcedClose.records (hky : RemoteKeyed db) :
    ∃ evs auds more, CloseRecords deviceId db db' ids evs auds more := by
  obtain ⟨more, hmr, c, hcl, hsessions, hev, haudits⟩ := h.closes
  have hg : ∀ id ∈ ids, ∃ s, db.sessions[id]? = some s ∧ s.sessionId = id := by
    intro id hid
    obtain ⟨s, hs, _⟩ := (h.mem id).mp hid
    exact ⟨s, hs, hky id s hs⟩
  refine ⟨c.events, c.audits, more, h.nodup, h.mem, hev, haudits, ?_, ?_, ?_, ?_, hmr⟩
  · rw [hcl.events, List.nil_append, List.map_filterMap]
    refine (List.filterMap_eq_map_iff_forall_eq_some.mpr fun id hid => ?_).trans (List.map_id ids)
    obtain ⟨s, hs, hid'⟩ := hg id hid
    simp only [hs]
    exact congrArg some hid'
  · rw [hcl.audits, List.nil_append, List.map_filterMap]
    refine List.filterMap_eq_map_iff_forall_eq_some.mpr fun id hid => ?_
    obtain ⟨s, hs, hid'⟩ := hg id hid
    simp only [hs]
    exact congrArg (fun x => some (some x)) hid'
  · intro ev he
    rw [hcl.events, List.nil_append, List.mem_filterMap] at he
    obtain ⟨id, hid, he⟩ := he
    obtain ⟨s, hs, hop⟩ := (h.mem id).mp hid
    simp only [hs, Option.map_some, Option.some.injEq] at he
    subst he
    have hsid : (SessionEvent.forcedClose env (s.closedAt now) s.status source reason).sessionId = id :=
      hky id s hs
    refine ⟨rfl, rfl, ?_, ?_⟩
    · rw [hsid, hs]
      rfl
    · rw [hsid, h.session hs, if_pos hop]
      rfl
  · intro audit ha
    rw [hcl.audits, List.nil_append, List.mem_filterMap] at ha
    obtain ⟨id, hid, ha⟩ := ha
    obtain ⟨s, hs, hop⟩ := (h.mem id).mp hid
    simp only [hs, Option.map_some, Option.some.injEq] at ha
    subst ha
    rfl

theorem ForcedClose.tightened (hky : RemoteKeyed db)
    (hu : ∀ (id : String) (t : TrustedControllerDevice), db'.trustedControllerDevices[id]? = some t →
      t.status = .active → t.controllerDeviceId ≠ deviceId) :
    Tightened deviceId db db' := by
  refine ⟨fun id s' hs' => ?_, fun id s hs => ⟨fun hop => ?_, fun hop => ?_⟩, ⟨ids, h.records hky⟩, hu⟩
  · obtain ⟨s, hs, rfl⟩ := h.session_of hs'
    by_cases hop : s.openOn deviceId = true
    · rw [if_pos hop]
      exact s.closedAt_openOn now deviceId
    · rw [if_neg hop]
      exact Bool.not_eq_true _ ▸ hop
  · rw [h.session hs, hop]
    rfl
  · refine ⟨s.closedAt now, ?_, rfl, ?_, nofun⟩
    · rw [h.session hs, if_pos hop]
    · obtain ⟨_, _, c, hcl, _⟩ := h.closes
      obtain ⟨s', hs', hb⟩ := hcl.epochs id ((h.mem id).mpr ⟨s, hs, hop⟩)
      rw [show (⟨db.sessions, [], []⟩ : Closing).sessions[id]? = some s from hs] at hs'
      cases hs'
      show (s.relayTokenEpoch + 1).toNat = s.relayTokenEpoch.toNat + 1
      have ho : (1 : UInt64).toNat = 1 := rfl
      rw [UInt64.toNat_add]
      omega

end

/-- **Whatever tightens a device does so completely.** -/
theorem Effect.tightened (h : Effect env db call r db') (hky : RemoteKeyed db)
    (htrust : TrustInv env db.devices db.trustedControllerDevices) (ht : tightens call r = some deviceId) :
    Tightened deviceId db db' := by
  unfold tightens at ht
  split at ht
  · rename_i command change
    split at ht
    · rename_i hti
      cases ht
      cases h with
      | none _ _ hqt => cases hqt
      | deviceManaged _ _ _ _ htarget hac _ hc hmr =>
        refine (management_forcedClose hky hti hc hmr).tightened hky ?_
        exact fun id t => management_no_trust htrust htarget hac hti
    · cases ht
  · cases ht
    cases h with
    | none _ _ hqt => cases hqt
    | keyRotated _ _ _ _ _ _ _ _ hcurrent hal he hc hmr =>
      refine (rotation_forcedClose hky he hc hmr).tightened hky ?_
      simp only [rotationAllowed, Bool.and_eq_true, beq_iff_eq] at hal
      exact fun id t => rotation_no_trust htrust hcurrent hal.1.1.1.1.1.1.1
  · cases ht

/-- Unbinding a device or revoking its key logs the account out everywhere. -/
theorem Effect.logged_out {change : DeviceAuthorityChange}
    (h : Effect env db (.manageDevice command) (.management (.ok (.updated change))) db')
    (hrv : command.revokesSessions = true) {s : AccountSession} (hs : db'.accountSessions[id]? = some s)
    (hac : s.accountId = command.accountId) : s.revokedAtEpochMillis ≠ Option.none := by
  cases h with
  | none _ _ hqt => cases hqt
  | deviceManaged =>
    have hs : (revokeSessions command.accountId command.nowEpochMillis "device_unbound"
        db.accountSessions)[id]? = some s := by
      rw [← hs]
      show _ = (if command.revokesSessions then _ else _ : Table AccountSession)[id]?
      rw [if_pos hrv]
    rw [revokeSessions, get_mapValues, Option.map_eq_some_iff] at hs
    obtain ⟨s₀, -, rfl⟩ := hs
    split_ifs with hl
    · nofun
    · intro hn
      rw [if_neg hl] at hac
      rw [AccountSession.liveFor, hac, beq_self_eq_true, hn] at hl
      exact hl rfl

/-- A rotation replaces the key of the device by the next one. -/
theorem Effect.rotated_version (h : Effect env db call r db') (hr : rotatedDevice call r = some id) :
    ∃ d d', db.devices[id]? = some d ∧ db'.devices[id]? = some d' ∧ d'.publicKeyVersion.toNat =
      d.publicKeyVersion.toNat + 1 := by
  unfold rotatedDevice at hr
  split at hr
  · cases hr
    cases h with
    | none _ _ hqt => cases hqt
    | keyRotated _ _ cur _ _ _ _ _ hc hal =>
      simp only [rotationAllowed, Bool.and_eq_true, decide_eq_true_eq] at hal
      refine ⟨cur, cur.rotateKey _, hc, ?_, hal.1.1.2.symm⟩
      refine (get_modify _ _ _ _).trans ((if_pos rfl).trans ?_)
      rw [hc]
      rfl
  · cases hr

/-- The answer says that nothing was found or allowed. -/
def Response.refusesManagement : Response → Bool
  | .management (.ok .notFound) | .management (.ok .invalidTransition) => true
  | _ => false

theorem Effect.unchanged_of_refusal (h : Effect env db call r db') (hr : r.refusesManagement = true) : db' = db := by
  cases h with
  | none => rfl
  | _ => cases hr

end Tighten

/-! ### Runs -/

def DevicesSettled (db : Database) : Prop :=
  ∀ (id : String) (d : Device), db.devices[id]? = some d → d.Settled

structure DevicesKept (log : List CallEntry) : Prop where
  /-- A device that a call leaves dead stays so in all that follows. -/
  dead : log.Pairwise fun e e' => ∀ (id : String) (d : Device), e.post.devices[id]? = some d → d.Dead →
    ∃ d', e'.post.devices[id]? = some d' ∧ StaysDead d d'
  /-- The version of a key grows by one with each rotation of its device, and not otherwise. -/
  versions : ∀ e ∈ log, ∀ (id : String) (d : Device), e.pre.devices[id]? = some d →
    ∃ d', e.post.devices[id]? = some d' ∧ d'.publicKeyVersion.toNat =
      d.publicKeyVersion.toNat + if rotatedDevice e.call e.out = some id then 1 else 0
  tightened : ∀ e ∈ log, ∀ deviceId, tightens e.call e.out = some deviceId →
    Tightened deviceId e.pre e.post
  /-- Unbinding a device or revoking its key leaves the account no session. -/
  loggedOut : ∀ e ∈ log, ∀ command change, e.call = .manageDevice command →
    e.out = .management (.ok (.updated change)) →
    command.action = some .unbind ∨ command.action = some .revokePublicKey →
    ∀ (id : String) (s : AccountSession), e.post.accountSessions[id]? = some s →
      s.accountId = command.accountId → s.revokedAtEpochMillis ≠ none
  /-- A call that fails, or finds or may do nothing, changes nothing. -/
  unchanged : ∀ e ∈ log, e.out.isError = true ∨ e.out.refusesManagement = true → e.post = e.pre

section Run

variable {env : Env} {db : Database}

theorem Effect.devicesSettled {db' : Database} (h : Effect env db call r db') (hs : DevicesSettled db) :
    DevicesSettled db' :=
  fun id d' => (h.deviceStep id).settled (hs id) d'

theorem devicesSettled_step (h : DevicesSettled db) (call : Call) : DevicesSettled (step env db call).2 :=
  (step_effect env db call).devicesSettled h

theorem trace_stays_dead (hs : DevicesSettled db) {d : Device} (hd : db.devices[id]? = some d) (hde : d.Dead)
    (cs : List Call) : ∀ e ∈ trace (step env) db cs, ∃ d', e.post.devices[id]? = some d' ∧ StaysDead d d' := by
  intro e he
  have hI := inv_of_mem he (I := fun db => DevicesSettled db ∧ ∃ d', db.devices[id]? = some d' ∧ StaysDead d d')
    (fun h ⟨hs, d', hd', hstays⟩ => by
      have hst := h.deviceStep id
      rw [hd'] at hst
      obtain ⟨d'', hd'', hs'⟩ := hst.stays_dead (hs id d' hd') (.inl hstays.revoked)
      exact ⟨h.devicesSettled hs, d'', hd'', hstays.trans hs'⟩)
    ⟨hs, d, hd, .refl (hs id d hd) hde⟩
  exact hI.2.2

/-- **Revoking a device is final, and complete.** In every run of a new store: a device
whose key is revoked or that is unbound is never authorizable again and keeps its revoked
key; versions of keys grow by one with each rotation and not otherwise; a successful
disabling, unbinding, revocation or rotation leaves no open session and no active trust of
the device, with one event and one audit entry for each session it closes; unbinding and
revocation leave the account no live session; and a call that fails changes nothing. -/
theorem device_revocation_final (env : Env) (calls : List Call) :
    DevicesKept (trace (step env) .empty calls) := by
  refine ⟨?_, fun e he id d hd => ?_, fun e he deviceId ht => ?_, fun e he command change hcl ho hac
    id s hs ha => ?_, fun e he hr => ?_⟩
  · refine pairwise_trace (step env) (I := DevicesSettled)
      (fun db c _ h => devicesSettled_step h c) (fun db c cs _ hset _ e he id d hd hde => ?_) calls
      (fun id d hd => by simp [Database.empty] at hd) fun _ _ => trivial
    exact trace_stays_dead (devicesSettled_step hset c) hd hde cs e he
  · have heff := Effect.of_mem he
    have hst := heff.deviceStep id
    rw [hd] at hst
    obtain ⟨d', hd', hv⟩ := hst.version
    refine ⟨d', hd', ?_⟩
    by_cases hr : rotatedDevice e.call e.out = some id
    · obtain ⟨d₀, d₀', hd₀, hd₀', hv⟩ := heff.rotated_version hr
      rw [hd] at hd₀
      rw [hd'] at hd₀'
      cases hd₀
      cases hd₀'
      rw [if_pos hr, hv]
    · rcases hv with hv | ⟨hr', _⟩
      · rw [if_neg hr, hv]
        rfl
      · exact absurd hr' hr
  · obtain ⟨⟨hky, htrust⟩, -⟩ := inv_of_mem he
      (I := fun db => RemoteKeyed db ∧ TrustInv env db.devices db.trustedControllerDevices)
      (fun h hdb => ⟨h.remoteKeyed hdb.1, h.trustInv hdb.2⟩) ⟨remoteKeyed_empty, trustInv_empty env _⟩
    exact (Effect.of_mem he).tightened hky htrust ht
  · have heff := Effect.of_mem he
    rw [hcl, ho] at heff
    refine heff.logged_out ?_ hs ha
    unfold DeviceManagementCommand.revokesSessions
    rcases hac with hac | hac <;> rw [hac] <;> rfl
  · have heff := Effect.of_mem he
    exact hr.elim heff.unchanged_of_error heff.unchanged_of_refusal

end Run

end Rctl.Api
