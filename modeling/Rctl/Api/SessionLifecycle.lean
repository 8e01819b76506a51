/-
# The life of a remote session

A route loads a session, decides on what it has loaded, and lets the repository apply the
transition only if the status is still the one it decided on. Requests run side by side,
and device management and key rotation close sessions in between. Whatever the order, a
session goes only where `validate_transition` lets it, or is closed by force; and its
events tell its whole story.

What a step of the server does to one session is one of four things (`SessionMove`):
nothing, its creation, a transition of a request in flight, or a forced close.
-/
import Rctl.Api.Authority
import Rctl.Api.ForcedClose
import Rctl.Api.SessionServer

namespace Rctl.Api

open ByteString Result OrdMap StateRun

/-! ### Histories -/

/-- The events of a session, oldest first, and the session they lead to: each starts from
the status the one before it ended in, and keeps the session as it left it. -/
inductive SessionHistory : List SessionEvent → Option Session → Prop
  | absent : SessionHistory [] none
  | created (event : SessionEvent) (s : Session) (hfrom : event.fromStatus = none)
      (hto : event.toStatus = s.status) (hresult : event.resultSession = some s) :
      SessionHistory [event] (some s)
  | moved (events : List SessionEvent) (s : Session) (h : SessionHistory events (some s))
      (event : SessionEvent) (s' : Session) (hfrom : event.fromStatus = some s.status)
      (hto : event.toStatus = s'.status) (hresult : event.resultSession = some s') :
      SessionHistory (events ++ [event]) (some s')

def Database.eventsOf (db : Database) (id : String) : List SessionEvent :=
  db.sessionEvents.filter (·.sessionId == id)

/-- The relay token epoch is 1 until the session has ended, and 2 from then on. -/
def Session.EpochRight (s : Session) : Prop :=
  if s.status.isTerminal then s.relayTokenEpoch = 2 ∧ s.endedAtEpochMillis ≠ none
  else s.relayTokenEpoch = 1 ∧ s.endedAtEpochMillis = none

/-! ### The invariant -/

structure CreateSessionCommand.Routed (command : CreateSessionCommand) : Prop where
  opened : command.session.status.isTerminal = false
  epoch : command.session.relayTokenEpoch = 1
  unended : command.session.endedAtEpochMillis = none
  eventSession : command.event.sessionId = command.session.sessionId
  eventFrom : command.event.fromStatus = none
  eventTo : command.event.toStatus = command.session.status
  eventType : command.event.eventType = "invite_created"

/-- The database has the session a request has loaded, though it may have moved on. -/
def StillThere (db : Database) (sessionId : String) (loaded : Session) : Prop :=
  ∃ current, db.sessions[sessionId]? = some current ∧ SameSession loaded current

/-- What a waiting request knows is still so. -/
def InFlight.Valid (db : Database) : InFlight → Prop
  | .insert command _ => command.Routed
  | .role plan loaded => StillThere db plan.sessionId loaded
  | .apply plan loaded actorRole _ => StillThere db plan.sessionId loaded ∧
      participantRole db loaded plan.accountId plan.actorDeviceId = some actorRole
  | _ => True

structure ServerInv (server : Server) : Prop where
  keyed : RemoteKeyed server.database
  epochs : ∀ (id : String) (s : Session), server.database.sessions[id]? = some s → s.EpochRight
  histories : ∀ id : String, SessionHistory (server.database.eventsOf id) server.database.sessions[id]?
  inFlight : ∀ request ∈ server.inFlight, request.Valid server.database

/-- A transition was decided on the session as it was loaded, and is applied to the session
as it is. -/
structure TransitionApplied (server : Server) (plan : TransitionPlan) (loaded current session : Session)
    (role : SessionRole) : Prop where
  loadedId : loaded.sessionId = plan.sessionId
  found : server.database.sessions[plan.sessionId]? = some current
  status : current.status = loaded.status
  inRole : participantRole server.database current plan.accountId plan.actorDeviceId = some role
  allowed : plan.validation current role = .ok ()
  moved : current.Moved session plan.target
  sessionId : session.sessionId = plan.sessionId

/-- What a step of the server does to the session `id`, and the events it adds. -/
inductive SessionMove (env : RouteEnv) (action : ServerAction) (server : Server) (reply : ServerReply)
    (id : String) : Option Session → Option Session → List SessionEvent → Prop
  | keep (o : Option Session) : SessionMove env action server reply id o o []
  | created (command : CreateSessionCommand)
      (hcall : sessionCall env server action = some (.createSession command)) (hroute : command.Routed)
      (hinserts : (createSession server.database command).1 = .ok (.created command.session)) :
      SessionMove env action server reply id none (some command.session)
        [command.event.withResult command.session]
  | moved (plan : TransitionPlan) (loaded current session : Session) (role : SessionRole) (draws : Draws)
      (eventId : String) (answer : Except ApiError (Session × String))
      (hreply : reply = .transition (transitionCommand env.toEnv plan loaded role draws)
        (.ok (.applied session eventId)) answer)
      (happlied : TransitionApplied server plan loaded current session role) :
      SessionMove env action server reply id (some current) (some session)
        [(transitionCommand env.toEnv plan loaded role draws).event.withResult session]
  | forced (current : Session) (now : UInt64) (source : AuditEntry) (reason : String) (call : OtherCall)
      (haction : action = .call call) (hforce : call.call.mayForceClose = true)
      (hopen : current.status.isTerminal = false) :
      SessionMove env action server reply id (some current) (some (current.closedAt now))
        [SessionEvent.forcedClose env.toEnv (current.closedAt now) current.status source reason]

section Commands

variable {env : Env} {accountId : String} {request : HttpRequest} {body : CreateSessionRequest}
  {controller controlled : Device} {draws : Draws} {command : CreateSessionCommand}

theorem createSessionCommand_routed
    (h : createSessionCommand env accountId request body controller controlled draws = .ok command) :
    command.Routed := by
  simp only [createSessionCommand, bind_eq_ok, pure_eq_ok] at h
  obtain ⟨binding, _, rfl⟩ := h
  refine ⟨?_, rfl, rfl, rfl, rfl, rfl, rfl⟩
  show body.authMethod.initialStatus.isTerminal = false
  cases body.authMethod <;> rfl

end Commands

variable {accountId deviceId : String} {role : SessionRole}

section Roles

variable {db : Database} {loaded current : Session}

theorem participantRole_same (h : SameSession loaded current) :
    participantRole db current accountId deviceId = participantRole db loaded accountId deviceId := by
  unfold participantRole
  rw [h.controllerAccountId, h.controllerDeviceId, h.controlledDeviceId]

theorem Effect.participantRole_kept {env : Env} {db' : Database} {call : Call} {r : Response}
    (h : Effect env db call r db') (hr : participantRole db loaded accountId deviceId = some role) :
    participantRole db' loaded accountId deviceId = some role := by
  unfold participantRole at hr ⊢
  split_ifs at hr with hc
  · rw [if_pos hc]
    exact hr
  · rw [if_neg hc]
    have hs := h.deviceStep loaded.controlledDeviceId
    cases ht : db.devices[loaded.controlledDeviceId]? with
    | none => rw [ht] at hr; cases hr
    | some target =>
      rw [ht] at hr hs
      obtain ⟨target', ht', hac, hid⟩ : ∃ target', db'.devices[loaded.controlledDeviceId]? =
          some target' ∧ target'.accountId = target.accountId ∧ target'.deviceId = target.deviceId := by
        generalize db'.devices[loaded.controlledDeviceId]? = post at hs
        cases hs with
        | keep => exact ⟨target, rfl, rfl, rfl⟩
        | manage command => exact ⟨_, rfl, applyDeviceManagement_owner command target⟩
        | rotate => exact ⟨_, rfl, rfl, rfl⟩
      rw [ht']
      simp only at hr ⊢
      rw [hac, hid]
      exact hr

end Roles

variable {env : RouteEnv} {action : ServerAction} {server server' : Server} {reply : ServerReply}
  {new : List SessionEvent} {command : TransitionSessionCommand} {eventId : String} {id : String}

section Moves

variable {plan : TransitionPlan} {loaded : Session} {request : InFlight}

theorem eventsOf_append {db db' : Database} (h : db'.sessionEvents = db.sessionEvents ++ new) (id : String) :
    db'.eventsOf id = db.eventsOf id ++ new.filter (·.sessionId == id) := by
  unfold Database.eventsOf
  rw [h, List.filter_append]

theorem eventsOf_singleton (db db' : Database) {ev : SessionEvent}
    (h : db'.sessionEvents = db.sessionEvents ++ [ev]) (id : String) :
    db'.eventsOf id = db.eventsOf id ++ if ev.sessionId = id then [ev] else [] := by
  rw [eventsOf_append h]
  by_cases hid : ev.sessionId = id <;> simp [hid]

theorem created_move (hI : ServerInv server) {command : CreateSessionCommand}
    (hcl : sessionCall env server action = some (.createSession command))
    (hw : (Call.createSession command).WaitsIn env server)
    (hs : server.database.sessions[command.session.sessionId]? = none)
    (hi : (createSession server.database command).1 = .ok (.created command.session)) (id : String) :
    ∃ new, (server.database.addSession command).eventsOf id = server.database.eventsOf id ++ new ∧
      SessionMove env action server reply id server.database.sessions[id]?
        (server.database.addSession command).sessions[id]? new := by
  obtain ⟨rid, hm⟩ := hw
  have hrt : command.Routed := hI.inFlight _ hm
  have hsn : (server.database.addSession command).sessions[id]? =
      if command.session.sessionId = id then some command.session else server.database.sessions[id]? :=
    get_insert _ _ _ _
  have hev := eventsOf_singleton server.database (server.database.addSession command) rfl id
  rw [show (command.event.withResult command.session).sessionId = command.session.sessionId from
    hrt.eventSession] at hev
  refine ⟨_, hev, ?_⟩
  rw [hsn]
  split_ifs with hid
  · rw [← hid, hs]
    exact .created command hcl hrt hi
  · exact .keep _

variable {current session : Session}

/-- A transition the routes make: what was decided on the loaded session holds for the
current one. -/
theorem transition_applied (hI : ServerInv server) (hw : (Call.transitionSession command).WaitsIn env server)
    (hal : command.applyAllowed = true)
    (hc : server.database.sessions[command.session.sessionId]? = some current)
    (hss : current.status = command.expectedStatus) (hs : current.transition command = .ok session) :
    ∃ plan loaded role draws, command = transitionCommand env.toEnv plan loaded role draws ∧ TransitionApplied server
      plan loaded current session role := by
  obtain ⟨plan, loaded, role, draws, hm, rfl⟩ := hw
  obtain ⟨⟨cur', hc', hsm⟩, hrl⟩ := hI.inFlight _ hm
  have hl : loaded.sessionId = plan.sessionId := by
    rw [← hsm.sessionId]
    exact hI.keyed _ _ hc'
  rw [show (transitionCommand env.toEnv plan loaded role draws).session.sessionId = loaded.sessionId from rfl,
    hl, hc'] at hc
  obtain rfl : cur' = current := Option.some.inj hc
  have hmv := Session.transition_moved hs
  have hv : plan.validation loaded role = .ok () := by
    cases h : plan.validation loaded role with
    | ok => rfl
    | error =>
      rw [show (transitionCommand env.toEnv plan loaded role draws).applyAllowed =
        (plan.validation loaded role).isOk from rfl, h] at hal
      cases hal
  refine ⟨plan, loaded, role, draws, rfl, hl, hc', hss, ?_, ?_, hmv, ?_⟩
  · rw [participantRole_same hsm]
    exact hrl
  · rw [← hv]
    unfold TransitionPlan.validation
    rw [hsm.permissions, show cur'.status = loaded.status from hss]
  · rw [hmv.same.sessionId, hsm.sessionId, hl]

theorem transitioned_move
    {draws : Draws} {answer : Except ApiError (Session × String)}
    (ha : TransitionApplied server plan loaded current session role)
    (hrp : reply = .transition (transitionCommand env.toEnv plan loaded role draws)
      (.ok (.applied session eventId)) answer) (id : String) :
    ∃ new, (server.database.moveSession (transitionCommand env.toEnv plan loaded role draws) session).eventsOf
        id = server.database.eventsOf id ++ new ∧ SessionMove env action server reply id server.database.sessions[id]?
        (server.database.moveSession (transitionCommand env.toEnv plan loaded role draws) session).sessions[id]?
        new := by
  have hs : (server.database.moveSession (transitionCommand env.toEnv plan loaded role draws)
      session).sessions[id]? = if session.sessionId = id then some session else server.database.sessions[id]? :=
    get_insert _ _ _ _
  have hev := eventsOf_singleton server.database (server.database.moveSession
    (transitionCommand env.toEnv plan loaded role draws) session) rfl id
  rw [show ((transitionCommand env.toEnv plan loaded role draws).event.withResult session).sessionId =
    session.sessionId from ha.loadedId.trans ha.sessionId.symm] at hev
  refine ⟨_, hev, ?_⟩
  rw [hs]
  split_ifs with hid
  · rw [← hid, ha.sessionId, ha.found]
    exact .moved plan loaded current session role draws eventId answer hrp ha
  · exact .keep _

/-- What every call of the repository keeps, a step of the server keeps. -/
theorem ServerChange.keeps {I : Database → Prop} (h : ServerChange env action server reply server')
    (hcs : ∀ call response db', Effect env.toEnv server.database call response db' → I db')
    (hI : I server.database) : I server'.database := by
  cases h with
  | waits hd =>
    rw [hd]
    exact hI
  | calls call response hs =>
    have he := step_effect env.toEnv server.database call
    rw [hs] at he
    exact hcs call response _ he

/-- **What a step of the server does to a session.** -/
theorem ServerChange.sessionMove (h : ServerChange env action server reply server') (hI : ServerInv server)
    (id : String) : ∃ new, server'.database.eventsOf id = server.database.eventsOf id ++ new ∧
      SessionMove env action server reply id server.database.sessions[id]? server'.database.sessions[id]? new := by
  cases h with
  | waits hd =>
    rw [hd]
    exact ⟨[], (List.append_nil _).symm, .keep _⟩
  | calls call _ hst hw hcl hrp =>
    have he := step_effect env.toEnv server.database call
    rw [hst] at he
    generalize server'.database = db' at he
    cases he.remoteChange hI.keyed with
    | none _ _ _ hsn hev =>
      refine ⟨[], ?_, ?_⟩
      · rw [Database.eventsOf, Database.eventsOf, hev, List.append_nil]
      · rw [hsn]
        exact .keep _
    | created _ _ hse =>
      exact created_move hI (hcl rfl) hw hse (Response.sessionCreation.inj (congrArg Prod.fst hst)) id
    | transitioned _ _ _ _ hal hc hss _ _ hse =>
      obtain ⟨outcome, answer, ho, hrp⟩ := hrp.of_transition
      cases ho
      obtain ⟨plan, loaded, role, draws, rfl, ha⟩ :=
        transition_applied hI hw hal hc hss hse
      exact transitioned_move ha hrp id
    | forced _ _ _ _ source now reason ids hf hcs =>
      have hot : call.isSessionCall = false := by
        cases call <;> first | rfl | cases hf
      obtain ⟨other, hac, rfl, _⟩ := hrp.of_other hot
      refine ⟨_, hcs.events_at hI.keyed id, ?_⟩
      by_cases hid : id ∈ ids
      · obtain ⟨s, hs, hop⟩ := (hcs.mem id).mp hid
        rw [if_pos hid, hcs.session hs, if_pos hop, hs]
        simp only [Session.openOn, Bool.and_eq_true, Bool.not_eq_true'] at hop
        exact .forced s now source reason other hac hf hop.1
      · rw [if_neg hid, hcs.session_of_not_mem hid]
        exact .keep _

variable {pre post : Option Session} {new events : List SessionEvent} {s s' : Session}

theorem transitionAllowed_open {fromStatus toStatus : SessionStatus} {prompt : Bool}
    (h : transitionAllowed fromStatus toStatus role prompt = true) : fromStatus.isTerminal = false := by
  cases fromStatus <;> first | rfl | (cases toStatus <;> cases role <;> cases h)

theorem validation_open (h : plan.validation s role = .ok ()) : s.status.isTerminal = false :=
  transitionAllowed_open (ensure_eq_ok.mp h)

section

variable (h : SessionMove env action server reply id pre post new)
include h

theorem SessionMove.epoch (hp : ∀ s, pre = some s → s.EpochRight) : ∀ s', post = some s' → s'.EpochRight := by
  intro s' hpo
  cases h with
  | keep => exact hp s' hpo
  | created _ _ hrt =>
    cases hpo
    unfold Session.EpochRight
    rw [hrt.opened]
    exact ⟨hrt.epoch, hrt.unended⟩
  | moved plan _ current _ _ _ _ _ _ ha =>
    cases hpo
    have hmv := ha.moved
    have hc := hp current rfl
    unfold Session.EpochRight at hc ⊢
    rw [validation_open ha.allowed] at hc
    rw [hmv.status]
    cases ht : plan.target.isTerminal with
    | true =>
      rw [(hmv.ended ht).1, hc.1]
      exact ⟨rfl, (hmv.ended ht).2⟩
    | false =>
      rw [(hmv.unended ht).1, (hmv.unended ht).2]
      exact hc
  | forced current _ _ _ _ _ _ hop =>
    cases hpo
    have hc := hp current rfl
    unfold Session.EpochRight at hc
    rw [hop] at hc
    refine ⟨?_, nofun⟩
    show current.relayTokenEpoch + 1 = 2
    rw [hc.1]
    rfl

theorem SessionMove.history (hp : SessionHistory events pre) : SessionHistory (events ++ new) post := by
  cases h with
  | keep =>
    rw [List.append_nil]
    exact hp
  | created _ _ hrt =>
    cases hp
    exact .created _ _ hrt.eventFrom hrt.eventTo rfl
  | moved _ _ current session _ _ _ _ _ ha =>
    exact .moved events current hp _ session (congrArg some ha.status.symm) ha.moved.status.symm rfl
  | forced current => exact .moved events current hp _ _ rfl rfl rfl

end

/-- A session stays what it is, is never set back in time, and stays as it is once it is over. -/
theorem SessionMove.stays (h : SessionMove env action server reply id (some s) post new) :
    ∃ s', post = some s' ∧ SameSession s s' ∧ s.updatedAtEpochMillis ≤ s'.updatedAtEpochMillis ∧
      (s.status.isTerminal = true → s' = s) := by
  cases h with
  | keep => exact ⟨s, rfl, .refl s, UInt64.le_refl _, fun _ => rfl⟩
  | moved _ _ _ session _ _ _ _ _ ha =>
    refine ⟨session, rfl, ha.moved.same, ha.moved.updated, fun ht => ?_⟩
    rw [validation_open ha.allowed] at ht
    cases ht
  | forced _ _ _ _ _ _ _ ho =>
    refine ⟨_, rfl, ⟨rfl, rfl, rfl, rfl, rfl⟩, le_later _ _, fun ht => ?_⟩
    rw [ho] at ht
    cases ht

/-! ### Steps -/

theorem StillThere.step (hI : ServerInv server) (h : ServerChange env action server reply server')
    (ht : StillThere server.database id loaded) : StillThere server'.database id loaded := by
  obtain ⟨current, hc, hs⟩ := ht
  obtain ⟨new, _, hm⟩ := h.sessionMove hI id
  rw [hc] at hm
  obtain ⟨cur', hc', hsame', _⟩ := hm.stays
  exact ⟨cur', hc', hs.trans hsame'⟩

theorem ServerChange.role_kept (h : ServerChange env action server reply server')
    (hr : participantRole server.database loaded accountId deviceId = some role) :
    participantRole server'.database loaded accountId deviceId = some role := by
  exact h.keeps (fun _ _ _ he => he.participantRole_kept hr) hr

theorem ServerChange.valid_kept (h : ServerChange env action server reply server') (hI : ServerInv server)
    (hv : request.Valid server.database) : request.Valid server'.database := by
  cases request with
  | role => exact StillThere.step hI h hv
  | apply => exact ⟨StillThere.step hI h hv.1, h.role_kept hv.2⟩
  | insert => exact hv
  | _ => trivial

theorem InFlight.FoundIn.valid (h : request.FoundIn env action server) (hI : ServerInv server) :
    request.Valid server.database := by
  cases request with
  | insert =>
    obtain ⟨_, _, _, _, _, _, hc⟩ := h
    exact createSessionCommand_routed hc
  | role _ loaded => exact ⟨loaded, h.2, .refl loaded⟩
  | apply => exact ⟨hI.inFlight _ h.1, h.2⟩
  | _ => trivial

theorem ServerChange.inv (h : ServerChange env action server reply server') (hI : ServerInv server) :
    ServerInv server' := by
  refine ⟨?_, fun id => ?_, fun id => ?_, fun request hm => ?_⟩
  · exact h.keeps (fun _ _ _ he => he.remoteKeyed hI.keyed) hI.keyed
  · obtain ⟨new, _, hmo⟩ := h.sessionMove hI id
    exact hmo.epoch (hI.epochs id)
  · obtain ⟨new, hev, hmo⟩ := h.sessionMove hI id
    rw [hev]
    exact hmo.history (hI.histories id)
  · have hd : ∀ request ∈ server.inFlight, request.Valid server'.database :=
      fun request hm => h.valid_kept hI (hI.inFlight request hm)
    cases h with
    | waits hdatabase hif =>
      rcases hif request hm with hm | hf
      · exact hd request hm
      · rw [hdatabase]
        exact hf.valid hI
    | calls _ _ _ _ _ _ hif => exact hd request (hif request hm)

end Moves

/-! ### Runs -/

def Database.withoutSessions (db : Database) : Database :=
  { db with sessions := ∅, sessionEvents := [], sessionIdempotency := ∅ }

def Server.start (db : Database) : Server := ⟨db.withoutSessions, ∅, []⟩

theorem serverInv_start (db : Database) : ServerInv (Server.start db) := by
  refine ⟨fun id s hs => ?_, fun id s hs => ?_, fun id => ?_, fun request hm => ?_⟩
  · simp [Server.start, Database.withoutSessions] at hs
  · simp [Server.start, Database.withoutSessions] at hs
  · exact .absent
  · cases hm

theorem serverInv_step {server : Server} (hI : ServerInv server) (action : ServerAction) :
    ServerInv (serverStep env server action).2 :=
  (serverStep_change env server action).inv hI

def appliedTransition (e : ServerEntry) : Option (TransitionSessionCommand × Session × String) :=
  match e.out with
  | .transition command (.ok (.applied session eventId)) _ => some (command, session, eventId)
  | _ => none

structure LifecycleKept (log : List ServerEntry) : Prop where
  keyed : ∀ e ∈ log, RemoteKeyed e.post.database
  /-- An applied transition is one that is allowed from the status the session had, in the
  role its actor has. -/
  transitions : ∀ e ∈ log, ∀ command session eventId,
    appliedTransition e = some (command, session, eventId) →
    ∃ current accountId deviceId role, e.pre.database.sessions[session.sessionId]? = some current ∧
      e.post.database.sessions[session.sessionId]? = some session ∧
      command.event.actorAccountId = some accountId ∧ command.event.actorDeviceId = some deviceId ∧
      participantRole e.pre.database current accountId deviceId = some role ∧
      validateTransition current.status session.status role current.permissions.requirePrompt
        command.event.requestId = .ok ()
  changes : ∀ e ∈ log, ∀ (id : String) (s : Session), e.pre.database.sessions[id]? = some s →
    ∃ s', e.post.database.sessions[id]? = some s' ∧ (s' = s ∨
      (∃ command eventId, appliedTransition e = some (command, s', eventId)) ∨
      (∃ call : OtherCall, e.call = .call call ∧ call.call.mayForceClose = true ∧
        s.status.isTerminal = false ∧ s'.status = .closed))
  /-- A terminal status is not left, and no session is set back in time. -/
  stays : ∀ e ∈ log, ∀ (id : String) (s : Session), e.pre.database.sessions[id]? = some s →
    ∃ s', e.post.database.sessions[id]? = some s' ∧
      s.updatedAtEpochMillis ≤ s'.updatedAtEpochMillis ∧ (s.status.isTerminal = true → s' = s)
  epochs : ∀ e ∈ log, ∀ (id : String) (s : Session), e.post.database.sessions[id]? = some s → s.EpochRight
  /-- The events of a session lead from its creation to what it is. -/
  histories : ∀ e ∈ log, ∀ id : String,
    SessionHistory (e.post.database.eventsOf id) e.post.database.sessions[id]?

section Runs

variable {post : Option Session} {s : Session}

theorem SessionMove.change (h : SessionMove env action server reply id (some s) post new) :
    ∃ s', post = some s' ∧ (s' = s ∨
      (∃ command eventId, appliedTransition ⟨server, action, reply, server'⟩ = some (command, s', eventId)) ∨
      (∃ call : OtherCall, action = .call call ∧ call.call.mayForceClose = true ∧
        s.status.isTerminal = false ∧ s'.status = .closed)) := by
  cases h with
  | keep => exact ⟨s, rfl, .inl rfl⟩
  | moved plan loaded _ session role draws eventId _ hrp =>
    refine ⟨session, rfl, .inr (.inl ⟨transitionCommand env.toEnv plan loaded role draws, eventId, ?_⟩)⟩
    rw [appliedTransition, hrp]
  | forced _ _ _ _ call hac hf ho =>
    exact ⟨_, rfl, .inr (.inr ⟨call, hac, hf, ho, rfl⟩)⟩

structure AppliedCall (env : RouteEnv) (action : ServerAction) (server : Server)
    (command : TransitionSessionCommand) (current session : Session) : Prop where
  call : sessionCall env server action = some (.transitionSession command)
  waits : (Call.transitionSession command).WaitsIn env server
  key : server.database.sessionIdempotency[command.storageKey]? = none
  allowed : command.applyAllowed = true
  found : server.database.sessions[command.session.sessionId]? = some current
  status : current.status = command.expectedStatus
  bound : command.eventBound = true
  moved : current.transition command = .ok session

theorem ServerChange.applied (h : ServerChange env action server reply server') {session : Session}
    (happly : appliedTransition ⟨server, action, reply, server'⟩ = some (command, session, eventId)) :
    (∃ current, AppliedCall env action server command current session) ∧ eventId = command.event.eventId ∧
      server'.database = server.database.moveSession command session := by
  unfold appliedTransition at happly
  split at happly
  · rename_i hrp
    cases happly
    cases hrp
    cases h with
    | waits _ _ hrp => exact absurd (.transition _ _ _) (hrp _ _)
    | calls call _ hst hw hcl hrp =>
      have he := step_effect env.toEnv server.database call
      rw [hst] at he
      cases hrp
      generalize server'.database = db' at he ⊢
      cases he with
      | none _ _ hqt => cases hqt
      | sessionTransitioned _ current _ hk hal hc hss hb _ hs =>
        exact ⟨⟨current, hcl rfl, hw, hk, hal, hc, hss, hb, hs⟩, rfl, rfl⟩
  · cases happly

/-- **The life of a remote session under concurrency.** In every interleaving of requests in
flight with the other calls of the repository: what `transition_session` applies is allowed
from the status the session has at that moment and for the acting device; the only other
change is a forced close of an open session; a terminal status is never left; the relay
token epoch is 1 until the session has ended and 2 from then on; no session is set back in
time; and the events of a session lead from its creation to what it is, each with the
session as it left it. -/
theorem session_lifecycle (env : RouteEnv) (db : Database) (actions : List ServerAction) :
    LifecycleKept (trace (serverStep env) (Server.start db) actions) := by
  have hsteps : ∀ e ∈ trace (serverStep env) (Server.start db) actions,
      ServerChange env e.call e.pre e.out e.post ∧ ServerInv e.pre ∧ ServerInv e.post := by
    intro e he
    obtain ⟨hen, hp, hpo⟩ := forall_trace_of (serverStep env) (I := ServerInv)
      (fun _ action _ hI => serverInv_step hI action) actions (serverInv_start db) (fun _ _ => trivial) e he
    refine ⟨?_, hp, hpo⟩
    rw [hen]
    exact serverStep_change env e.pre e.call
  refine ⟨fun e he => (hsteps e he).2.2.keyed, fun e he command session eventId happly => ?_,
    fun e he id s hs => ?_, fun e he id s hs => ?_,
    fun e he => (hsteps e he).2.2.epochs, fun e he => (hsteps e he).2.2.histories⟩
  · obtain ⟨hch, hI, _⟩ := hsteps e he
    obtain ⟨⟨current, hcl⟩, _, hpo⟩ := hch.applied happly
    obtain ⟨plan, loaded, role, draws, rfl, ha⟩ :=
      transition_applied hI hcl.waits hcl.allowed hcl.found hcl.status hcl.moved
    refine ⟨current, plan.accountId, plan.actorDeviceId, role, ?_, ?_, rfl, rfl, ha.inRole, ?_⟩
    · rw [ha.sessionId]
      exact ha.found
    · rw [hpo]
      exact (get_insert _ _ _ _).trans (if_pos rfl)
    · rw [ha.moved.status]
      exact ha.allowed
  · obtain ⟨hch, hI, _⟩ := hsteps e he
    obtain ⟨new, _, hmo⟩ := hch.sessionMove hI id
    rw [hs] at hmo
    exact hmo.change
  · obtain ⟨hch, hI, _⟩ := hsteps e he
    obtain ⟨new, _, hmo⟩ := hch.sessionMove hI id
    rw [hs] at hmo
    obtain ⟨s', hs', _, hu, hov⟩ := hmo.stays
    exact ⟨s', hs', hu, hov⟩

end Runs

end Rctl.Api
