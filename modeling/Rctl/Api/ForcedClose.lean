/-
# Closing remote sessions by force

Disabling or unbinding a device, revoking its key and rotating it close every open
remote session of the device. The two loops that do so are given the same meaning
(`ClosedAll`): each listed session is closed once, under the next relay token epoch, with
one event and one audit entry, and no other session is touched.

What any call does to the remote sessions, their events and the idempotency keys is then
one of four things (`RemoteChange`): nothing, a creation, a transition, or a forced close
of exactly the open sessions of a device.
-/
import Rctl.Api.Effect

namespace Rctl.Api

open ByteString Result OrdMap

/-! ### The loops -/

def Session.closedAt (now : UInt64) (s : Session) : Session := s.forceClosed (s.relayTokenEpoch + 1) now

/-- The sessions `ids` closed in turn: what the loop did to the sessions, and the event and
the audit entry it has added for each. -/
structure ClosedAll (env : Env) (source : AuditEntry) (now : UInt64) (reason : String) (ids : List String)
    (c c' : Closing) : Prop where
  sessions : ∀ id : String, c'.sessions[id]? =
    if id ∈ ids then c.sessions[id]?.map (·.closedAt now) else c.sessions[id]?
  epochs : ∀ id ∈ ids, ∃ s, c.sessions[id]? = some s ∧ s.relayTokenEpoch.toNat + 1 < 2 ^ 64
  events : c'.events = c.events ++ ids.filterMap fun id => c.sessions[id]?.map fun s =>
    SessionEvent.forcedClose env (s.closedAt now) s.status source reason
  audits : c'.audits = c.audits ++ ids.filterMap fun id => c.sessions[id]?.map fun s =>
    AuditEntry.forcedClose env (s.closedAt now) source reason

variable {env : Env} {source : AuditEntry} {now : UInt64} {reason : String} {ids : List String} {id : String}
  {s : Session}

section Loops

variable {c c' : Closing}

theorem checkedSucc_eq_some {ep next : UInt64} (h : checkedSucc ep = some next) :
    next = ep + 1 ∧ ep.toNat + 1 < 2 ^ 64 := by
  unfold checkedSucc at h
  split at h
  · exact ⟨(Option.some.inj h).symm, by assumption⟩
  · cases h

theorem ClosedAll.nil : ClosedAll env source now reason [] c c :=
  ⟨fun _ => rfl, nofun, (List.append_nil _).symm, (List.append_nil _).symm⟩

/-- One more session, which is not among those that follow. -/
theorem ClosedAll.cons (hg : c.sessions[id]? = some s) (hep : s.relayTokenEpoch.toNat + 1 < 2 ^ 64)
    (hid : id ∉ ids)
    (h : ClosedAll env source now reason ids (c.add env id s (s.relayTokenEpoch + 1) now source reason) c') :
    ClosedAll env source now reason (id :: ids) c c' := by
  have hsm : ∀ {id' : String}, id' ≠ id →
      (c.add env id s (s.relayTokenEpoch + 1) now source reason).sessions[id']? = c.sessions[id']? :=
    fun hne => (get_insert _ _ _ _).trans (if_neg fun heq => hne heq.symm)
  have hrs : ∀ {β : Type} (f : Session → β), (ids.filterMap fun id' =>
      ((c.add env id s (s.relayTokenEpoch + 1) now source reason).sessions[id']?).map f) =
        ids.filterMap fun id' => c.sessions[id']?.map f := by
    intro β f
    refine List.filterMap_congr fun id' hid' => ?_
    rw [hsm (ne_of_mem_of_not_mem hid' hid)]
  refine ⟨fun id' => ?_, fun id' hid' => ?_, ?_, ?_⟩
  · rw [h.sessions id']
    by_cases heq : id' = id
    · subst heq
      rw [if_neg hid, if_pos List.mem_cons_self, hg]
      exact (get_insert _ _ _ _).trans (if_pos rfl)
    · rw [hsm heq]
      simp only [List.mem_cons, heq, false_or]
  · rcases List.mem_cons.mp hid' with rfl | hid'
    · exact ⟨s, hg, hep⟩
    · obtain ⟨s', hs', hep'⟩ := h.epochs id' hid'
      rw [hsm (ne_of_mem_of_not_mem hid' hid)] at hs'
      exact ⟨s', hs', hep'⟩
  · rw [h.events, hrs, List.filterMap_cons, hg]
    exact List.append_assoc _ _ _
  · rw [h.audits, hrs, List.filterMap_cons, hg]
    exact List.append_assoc _ _ _

theorem closeAffected_closes {why : Option String} : ∀ {ids : List String} {c : Closing}, ids.Nodup →
    closeAffected env source now why ids c = .ok c' → ClosedAll env source now (why.getD "") ids c c'
  | [], c, _, h => by
    cases h
    exact .nil
  | id :: ids, c, hnd, h => by
    simp only [closeAffected, bind_eq_ok, okOr_eq_ok] at h
    obtain ⟨s, hg, ep, hep, reason, rfl, h⟩ := h
    obtain ⟨rfl, hb⟩ := checkedSucc_eq_some hep
    rw [List.nodup_cons] at hnd
    exact .cons hg hb hnd.1 (closeAffected_closes hnd.2 h)

/-- The epochs of a rotation were computed before the loop, each from the session as it then was. -/
theorem closeRotated_closes : ∀ {epochs : List (String × UInt64)} {c : Closing}, (epochs.map Prod.fst).Nodup →
    (∀ p ∈ epochs, ∃ s, c.sessions[p.1]? = some s ∧ checkedSucc s.relayTokenEpoch = some p.2) →
    ClosedAll env source now "device_key_rotated" (epochs.map Prod.fst) c (closeRotated env source now epochs c)
  | [], _, _, _ => .nil
  | (id, ep) :: epochs, c, hnd, he => by
    rw [List.map_cons, List.nodup_cons] at hnd
    obtain ⟨s, hg, hep⟩ := he (id, ep) List.mem_cons_self
    obtain ⟨rfl, hb⟩ := checkedSucc_eq_some hep
    rw [closeRotated, hg]
    refine .cons hg hb hnd.1 (closeRotated_closes hnd.2 fun p hp => ?_)
    obtain ⟨s', hs', hep'⟩ := he p (List.mem_cons_of_mem _ hp)
    have hne : id ≠ p.1 := fun heq => hnd.1 (List.mem_map.mpr ⟨p, hp, heq.symm⟩)
    exact ⟨s', (get_insert _ _ _ _).trans ((if_neg hne).trans hs'), hep'⟩

end Loops

/-! ### The sessions of a device -/

/-- Remote sessions are stored under their identifier. -/
def RemoteKeyed (db : Database) : Prop :=
  ∀ (id : String) (s : Session), db.sessions[id]? = some s → s.sessionId = id

/-- The open sessions of a device closed: `ids` are exactly these. -/
structure ForcedClose (env : Env) (deviceId : String) (source : AuditEntry) (now : UInt64) (reason : String)
    (ids : List String) (db db' : Database) : Prop where
  nodup : ids.Nodup
  mem : ∀ id : String, id ∈ ids ↔ ∃ s, db.sessions[id]? = some s ∧ s.openOn deviceId = true
  closes : ∃ more, (∀ audit ∈ more, audit.action ≠ "session_ended") ∧
    ∃ c, ClosedAll env source now reason ids ⟨db.sessions, [], []⟩ c ∧ db'.sessions = c.sessions ∧
      db'.sessionEvents = db.sessionEvents ++ c.events ∧ db'.auditLogs = db.auditLogs ++ (c.audits ++ more)

variable {deviceId : String} {db db' : Database}

section Closed

variable (h : ForcedClose env deviceId source now reason ids db db')

include h

theorem ForcedClose.session_of_not_mem (hid : id ∉ ids) : db'.sessions[id]? = db.sessions[id]? := by
  obtain ⟨_, _, c, hcl, hs, _⟩ := h.closes
  rw [hs, hcl.sessions id, if_neg hid]

theorem ForcedClose.session (hs : db.sessions[id]? = some s) :
    db'.sessions[id]? = some (if s.openOn deviceId then s.closedAt now else s) := by
  obtain ⟨_, _, c, hcl, hsessions, _⟩ := h.closes
  rw [hsessions, hcl.sessions id]
  by_cases ho : s.openOn deviceId = true
  · rw [if_pos ((h.mem id).mpr ⟨s, hs, ho⟩), if_pos ho]
    exact congrArg (Option.map _) hs
  · have hid : id ∉ ids := fun hid => by
      obtain ⟨s', hs', hopen'⟩ := (h.mem id).mp hid
      rw [hs] at hs'
      cases hs'
      exact ho hopen'
    rw [if_neg hid, if_neg ho]
    exact hs

/-- A session of the new table comes from one of the old, closed if it was open on the device. -/
theorem ForcedClose.session_of {s' : Session} (hs' : db'.sessions[id]? = some s') :
    ∃ s, db.sessions[id]? = some s ∧ s' = if s.openOn deviceId then s.closedAt now else s := by
  cases hs : db.sessions[id]? with
  | some s =>
    rw [h.session hs] at hs'
    exact ⟨s, rfl, (Option.some.inj hs').symm⟩
  | none =>
    obtain ⟨_, _, c, hcl, hsessions, _⟩ := h.closes
    rw [hsessions, hcl.sessions id] at hs'
    split at hs'
    · rw [show (⟨db.sessions, [], []⟩ : Closing).sessions[id]? = none from hs] at hs'
      cases hs'
    · rw [show (⟨db.sessions, [], []⟩ : Closing).sessions[id]? = none from hs] at hs'
      cases hs'

/-- The events of a session after its device was tightened: one more if it was open. -/
theorem ForcedClose.events_at (hky : RemoteKeyed db) (id : String) :
    db'.sessionEvents.filter (·.sessionId == id) = db.sessionEvents.filter (·.sessionId == id) ++
      if id ∈ ids then (db.sessions[id]?.map fun s =>
        SessionEvent.forcedClose env (s.closedAt now) s.status source reason).toList else [] := by
  obtain ⟨_, _, c, hcl, _, hev, _⟩ := h.closes
  rw [hev, List.filter_append, hcl.events, List.nil_append, List.filter_filterMap]
  congr 1
  have ho : ids.filter (· == id) = if id ∈ ids then [id] else [] := by
    rw [List.filter_beq, h.nodup.count]
    split <;> rfl
  have hpick : (fun id' => Option.filter (fun ev : SessionEvent => ev.sessionId == id)
      (db.sessions[id']?.map fun s => SessionEvent.forcedClose env (s.closedAt now) s.status source reason)) =
      fun id' => if (id' == id) = true then db.sessions[id']?.map fun s =>
        SessionEvent.forcedClose env (s.closedAt now) s.status source reason else none := by
    funext id'
    cases hs : db.sessions[id']? with
    | none => simp
    | some s =>
      have hid : (SessionEvent.forcedClose env (s.closedAt now) s.status source reason).sessionId = id' :=
        hky id' s hs
      rw [Option.map_some, Option.filter_some, hid]
  rw [hpick, ← List.filterMap_filter, ho]
  split
  · rw [List.filterMap_cons]
    cases db.sessions[id]? <;> rfl
  · rfl

end Closed

variable {command : DeviceManagementCommand} {epochs : List (String × UInt64)}

section Ids

variable {db : Database}

theorem mem_openIds (hky : RemoteKeyed db) :
    id ∈ (db.sessions.values.filter (·.openOn deviceId)).map (·.sessionId) ↔ ∃ s, db.sessions[id]? = some s ∧ s.openOn
      deviceId = true := by
  simp only [List.mem_map, List.mem_filter, mem_values]
  constructor
  · rintro ⟨s, ⟨⟨k, hk⟩, ho⟩, rfl⟩
    rw [hky k s hk]
    exact ⟨s, hk, ho⟩
  · rintro ⟨s, hg, ho⟩
    exact ⟨s, ⟨⟨id, hg⟩, ho⟩, hky id s hg⟩

theorem sortIds_perm (ids : List String) : (sortIds ids).Perm ids := List.mergeSort_perm _ _

theorem affectedSessions_nodup (hky : RemoteKeyed db) (command : DeviceManagementCommand) :
    (affectedSessions db command).Nodup :=
  (sortIds_perm _).nodup_iff.mpr (nodup_map_values hky _)

theorem mem_affectedSessions (hky : RemoteKeyed db) (ht : command.tightening = true) :
    id ∈ affectedSessions db command ↔ ∃ s, db.sessions[id]? = some s ∧ s.openOn command.targetDeviceId = true := by
  unfold affectedSessions
  simp only [(sortIds_perm _).mem_iff, ht]
  exact mem_openIds hky

theorem affectedSessions_of_loose (h : command.tightening = false) : affectedSessions db command = [] := by
  unfold affectedSessions
  simp only [h, Bool.false_and, List.filter_false]
  exact List.mergeSort_nil

/-- The epochs of a rotation: the open sessions of the device, each with its next epoch. -/
theorem affectedEpochs_spec (hky : RemoteKeyed db) (h : affectedEpochs db deviceId = .ok epochs) :
    (epochs.map Prod.fst).Perm ((db.sessions.values.filter (·.openOn deviceId)).map (·.sessionId)) ∧ ∀ p ∈ epochs, ∃
      s, db.sessions[p.1]? = some s ∧ checkedSucc s.relayTokenEpoch = some p.2 := by
  simp only [affectedEpochs, bind_eq_ok, pure_eq_ok] at h
  obtain ⟨pairs, hps, rfl⟩ := h
  have hpm : (pairs.mergeSort fun left right => (compare left.1 right.1).isLE).Perm pairs :=
    List.mergeSort_perm _ _
  have ho : ∀ (s : Session) (p : String × UInt64),
      (okOr (checkedSucc s.relayTokenEpoch) StoreError.conflict).map (fun ep => (s.sessionId, ep)) =
        .ok p → p.1 = s.sessionId ∧ checkedSucc s.relayTokenEpoch = some p.2 := by
    intro s p hp
    cases hc : checkedSucc s.relayTokenEpoch with
    | none => rw [hc] at hp; cases hp
    | some => rw [hc] at hp; cases hp; exact ⟨rfl, rfl⟩
  constructor
  · refine (hpm.map Prod.fst).trans (List.Perm.of_eq ?_)
    exact map_of_mapM (fun s p hp => (ho s p hp).1) hps
  · intro p hp
    rw [hpm.mem_iff] at hp
    obtain ⟨s, hs, hsp⟩ := exists_of_mem_mapM hps hp
    obtain ⟨k, hk⟩ := mem_values.mp (List.mem_filter.mp hs).1
    obtain ⟨hid, hep⟩ := ho s p hsp
    rw [hid, hky k s hk]
    exact ⟨s, hk, hep⟩

end Ids

/-! ### What a call does to the remote sessions -/

def Call.mayForceClose : Call → Bool
  | .manageDevice _ | .rotateDeviceKey _ => true
  | _ => false

/-- All a call can do to the remote sessions, their events and the idempotency keys. -/
inductive RemoteChange (env : Env) (db : Database) : Call → Response → Database → Prop
  | none (call : Call) (r : Response) (db' : Database) (hsessions : db'.sessions = db.sessions)
      (hevents : db'.sessionEvents = db.sessionEvents)
      (hkeys : db'.sessionIdempotency = db.sessionIdempotency) : RemoteChange env db call r db'
  | created (command : CreateSessionCommand)
      (hkey : db.sessionIdempotency[command.storageKey]? = Option.none)
      (hsession : db.sessions[command.session.sessionId]? = Option.none)
      (hevent : db.hasEvent command.event.eventId = false) :
      RemoteChange env db (.createSession command) (.sessionCreation (.ok (.created command.session)))
        (db.addSession command)
  | transitioned (command : TransitionSessionCommand) (current session : Session)
      (hkey : db.sessionIdempotency[command.storageKey]? = Option.none)
      (hallowed : command.applyAllowed = true)
      (hcurrent : db.sessions[command.session.sessionId]? = some current)
      (hstatus : current.status = command.expectedStatus) (hbound : command.eventBound = true)
      (hevent : db.hasEvent command.event.eventId = false)
      (hsession : current.transition command = .ok session) :
      RemoteChange env db (.transitionSession command)
        (.sessionTransition (.ok (.applied session command.event.eventId))) (db.moveSession command session)
  | forced (call : Call) (r : Response) (db' : Database) (deviceId : String) (source : AuditEntry)
      (now : UInt64) (reason : String) (ids : List String) (hcall : call.mayForceClose = true)
      (hclose : ForcedClose env deviceId source now reason ids db db')
      (hkeys : db'.sessionIdempotency = db.sessionIdempotency) : RemoteChange env db call r db'

section Change

variable {call : Call} {r : Response} {closing : Closing} {more : List AuditEntry}

theorem rotation_forcedClose (hky : RemoteKeyed db) {rotation : DeviceKeyRotation} {rotationAudit :
    AuditEntry} {fingerprint : Digest}
    (he : affectedEpochs db rotation.stepUp.deviceId = .ok epochs)
    (hc : closing = closeRotated env rotationAudit rotation.stepUp.nowEpochMillis epochs ⟨db.sessions, [], []⟩)
    (hm : ∀ audit ∈ more, audit.action ≠ "session_ended") :
    ForcedClose env rotation.stepUp.deviceId rotationAudit rotation.stepUp.nowEpochMillis
      "device_key_rotated" (epochs.map Prod.fst) db
      ((db.rotateKey rotation fingerprint).closeSessions closing (closing.audits ++ more)) := by
  obtain ⟨hp, hs⟩ := affectedEpochs_spec hky he
  have hnd : (epochs.map Prod.fst).Nodup := hp.nodup_iff.mpr (nodup_map_values hky _)
  refine ⟨hnd, fun id => hp.mem_iff.trans (mem_openIds hky), more, hm, closing, ?_, rfl, rfl, rfl⟩
  rw [hc]
  exact closeRotated_closes hnd hs

theorem management_forcedClose (hky : RemoteKeyed db) {target : Device} (ht : command.tightening = true)
    (hc : closeAffected env command.auditEntry command.nowEpochMillis (command.action.bind
      deviceManagementSessionCloseReason) (affectedSessions db command) ⟨db.sessions, [], []⟩ = .ok closing)
    (hm : ∀ audit ∈ more, audit.action ≠ "session_ended") :
    ForcedClose env command.targetDeviceId command.auditEntry command.nowEpochMillis
      ((command.action.bind deviceManagementSessionCloseReason).getD "") (affectedSessions db command) db
      ((db.manage command target).closeSessions closing (closing.audits ++ more)) :=
  ⟨affectedSessions_nodup hky command, fun _ => mem_affectedSessions hky ht, more, hm,
    closing, closeAffected_closes (affectedSessions_nodup hky command) hc, rfl, rfl, rfl⟩

/-- **Every call leaves the remote sessions alone, creates one, moves one on, or closes
the open ones of a device.** -/
theorem Effect.remoteChange (h : Effect env db call r db') (hky : RemoteKeyed db) :
    RemoteChange env db call r db' := by
  cases h with
  | factorUsed _ _ _ _ _ _ hu | factorJudged _ _ _ _ _ _ _ _ _ _ hu
  | verificationJudged _ _ _ _ _ _ _ _ hu =>
    obtain ⟨_, _, rfl⟩ := hu.same
    exact .none _ _ _ rfl rfl rfl
  | stepUpApplied _ _ _ _ _ _ hdn =>
    cases hdn <;> exact .none _ _ _ rfl rfl rfl
  | loginTrustRefused =>
    unfold Database.expireTrusted
    split <;> exact .none _ _ _ rfl rfl rfl
  | loginCompleted _ _ _ _ _ _ _ hau _ hg htr =>
    rw [completeLogin_eq hg htr]
    exact .none _ _ _ (congrArg Database.sessions hau.frame :) (congrArg Database.sessionEvents hau.frame :)
      (congrArg Database.sessionIdempotency hau.frame :)
  | sessionCreated command hk hs he => exact .created command hk hs he
  | sessionTransitioned command cur session hk hal hcurrent hss hb he hs =>
    exact .transitioned command cur session hk hal hcurrent hss hb he hs
  | deviceRegistered _ _ _ _ _ _ _ _ _ _ _ htr =>
    cases htr <;> exact .none _ _ _ rfl rfl rfl
  | keyRotated _ _ _ _ _ _ _ _ _ _ hepochs hc hmr =>
    exact .forced _ _ _ _ _ _ _ _ rfl (rotation_forcedClose hky hepochs hc hmr) rfl
  | deviceManaged command _ _ _ _ _ _ hc hmr =>
    cases ht : command.tightening with
    | true => exact .forced _ _ _ _ _ _ _ _ rfl (management_forcedClose hky ht hc hmr) rfl
    | false =>
      rw [affectedSessions_of_loose ht] at hc
      cases hc
      exact .none _ _ _ rfl (List.append_nil _) rfl
  | _ => exact .none _ _ _ rfl rfl rfl

theorem RemoteChange.remoteKeyed (h : RemoteChange env db call r db') (hky : RemoteKeyed db) : RemoteKeyed db' := by
  intro id s hs
  cases h with
  | none _ _ _ hsn => exact hky id s (hsn ▸ hs)
  | created | transitioned =>
    rcases of_get_insert hs with ⟨hid, rfl⟩ | hs
    · exact hid
    · exact hky id s hs
  | forced _ _ _ _ _ _ _ _ _ hcs =>
    obtain ⟨_, _, c, hcl, hsn, _⟩ := hcs.closes
    rw [hsn, hcl.sessions id] at hs
    split at hs
    · obtain ⟨s₀, hs₀, rfl⟩ := Option.map_eq_some_iff.mp hs
      exact hky id s₀ hs₀
    · exact hky id s hs

theorem Effect.remoteKeyed (h : Effect env db call r db') (hky : RemoteKeyed db) : RemoteKeyed db' :=
  (h.remoteChange hky).remoteKeyed hky

theorem remoteKeyed_empty : RemoteKeyed .empty := fun id s h => by simp [Database.empty] at h

end Change

end Rctl.Api
