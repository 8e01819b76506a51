/-
# Creating remote sessions and moving them on

`create_session` and `transition_session` are keyed by the idempotency key of the
request: a key seen before is answered with the session recorded then.
-/
import Rctl.Api.Commands

namespace Rctl.Api

open ByteString Result OrdMap

def SessionEvent.replays (event : SessionEvent) (existing : IdempotencyRecord) (command : SessionEvent) : Bool :=
  event.sessionId == existing.sessionId && event.eventType == command.eventType &&
    event.actorDeviceId == command.actorDeviceId &&
    event.idempotencyKeyHash == command.idempotencyKeyHash

def SessionEvent.withResult (event : SessionEvent) (session : Session) : SessionEvent :=
  { event with resultSession := some session }

def Database.hasEvent (db : Database) (eventId : String) : Bool :=
  db.sessionEvents.any (·.eventId == eventId)

/-- The session of the command stored with its event, its evaluation and its idempotency key. -/
def Database.addSession (db : Database) (command : CreateSessionCommand) : Database :=
  { db with
    sessionIdempotency := db.sessionIdempotency.insert command.storageKey command.idempotency
    sessions := db.sessions.insert command.session.sessionId command.session
    policyEvaluations :=
      db.policyEvaluations.insert command.policyEvaluation.policyEvaluationId command.policyEvaluation
    sessionEvents := db.sessionEvents ++ [command.event.withResult command.session]
    auditLogs := db.auditLogs ++ [command.auditEntry] }

/-- The session as the transition left it, stored with its event and its idempotency key. -/
def Database.moveSession (db : Database) (command : TransitionSessionCommand) (session : Session) :
    Database :=
  { db with
    sessionIdempotency := db.sessionIdempotency.insert command.storageKey command.idempotency
    sessions := db.sessions.insert session.sessionId session
    sessionEvents := db.sessionEvents ++ [command.event.withResult session]
    auditLogs := db.auditLogs ++ [command.auditEntry] }

def createSession (db : Database) (command : CreateSessionCommand) : Reply CreateSessionOutcome :=
  match db.sessionIdempotency[command.storageKey]? with
  | some existing => merge do
    ensure (existing.requestBindingHash == command.idempotency.requestBindingHash)
      (.ok .bindingMismatch, db)
    let session ← okOr ((db.sessionEvents.find? (·.replays existing command.event)).bind
      (·.resultSession)) (.error .unavailable, db)
    return (.ok (.replayed session), db)
  | none => merge do
    ensure (!(db.sessions.contains command.session.sessionId) &&
      !(db.policyEvaluations.contains command.policyEvaluation.policyEvaluationId) &&
      !(db.hasEvent command.event.eventId) && !(db.hasAudit command.auditEntry.auditId))
      (.error .conflict, db)
    return (.ok (.created command.session), db.addSession command)

/-- The session after the transition; a terminal status ends it and its relay tokens. -/
def Session.transition (current : Session) (command : TransitionSessionCommand) :
    Except StoreError Session :=
  let moved := { current with
    status := command.session.status
    updatedAtEpochMillis :=
      if current.updatedAtEpochMillis < command.session.updatedAtEpochMillis
      then command.session.updatedAtEpochMillis else current.updatedAtEpochMillis }
  if command.session.status.isTerminal then do
    ensure (decide (current.relayTokenEpoch.toNat < 2 ^ 63 - 1)) .conflict
    return { moved with
             relayTokenEpoch := current.relayTokenEpoch + 1
             endedAtEpochMillis := some
               (command.session.endedAtEpochMillis.getD command.event.createdAtEpochMillis) }
  else .ok moved

/-- Two states of one session: what no operation changes. -/
structure SameSession (s s' : Session) : Prop where
  sessionId : s'.sessionId = s.sessionId
  controllerAccountId : s'.controllerAccountId = s.controllerAccountId
  controllerDeviceId : s'.controllerDeviceId = s.controllerDeviceId
  controlledDeviceId : s'.controlledDeviceId = s.controlledDeviceId
  permissions : s'.permissions = s.permissions

theorem SameSession.refl (s : Session) : SameSession s s := ⟨rfl, rfl, rfl, rfl, rfl⟩

theorem SameSession.trans {s s' s'' : Session} (h : SameSession s s') (h' : SameSession s' s'') : SameSession s s'' :=
  ⟨h'.sessionId.trans h.sessionId, h'.controllerAccountId.trans h.controllerAccountId,
    h'.controllerDeviceId.trans h.controllerDeviceId, h'.controlledDeviceId.trans h.controlledDeviceId,
    h'.permissions.trans h.permissions⟩

structure Session.Moved (current session : Session) (target : SessionStatus) : Prop where
  same : SameSession current session
  status : session.status = target
  updated : current.updatedAtEpochMillis ≤ session.updatedAtEpochMillis
  ended : target.isTerminal = true →
    session.relayTokenEpoch = current.relayTokenEpoch + 1 ∧ session.endedAtEpochMillis ≠ none
  unended : target.isTerminal = false → session.relayTokenEpoch = current.relayTokenEpoch ∧
    session.endedAtEpochMillis = current.endedAtEpochMillis

theorem Session.transition_moved {cur session : Session} {cmd : TransitionSessionCommand}
    (h : cur.transition cmd = .ok session) : cur.Moved session cmd.session.status := by
  unfold Session.transition at h
  cases ht : cmd.session.status.isTerminal with
  | true =>
    simp only [ht, if_true, bind_eq_ok, pure_eq_ok] at h
    obtain ⟨_, _, rfl⟩ := h
    refine ⟨⟨rfl, rfl, rfl, rfl, rfl⟩, rfl, le_later _ _, fun _ => ⟨rfl, nofun⟩, fun ho => ?_⟩
    rw [ht] at ho
    cases ho
  | false =>
    simp only [ht] at h
    cases h
    refine ⟨⟨rfl, rfl, rfl, rfl, rfl⟩, rfl, le_later _ _, fun he => ?_, fun _ => ⟨rfl, rfl⟩⟩
    rw [ht] at he
    cases he

def TransitionSessionCommand.eventBound (command : TransitionSessionCommand) : Bool :=
  command.event.fromStatus == some command.expectedStatus &&
    command.event.sessionId == command.session.sessionId &&
    command.event.toStatus == command.session.status &&
    command.idempotency.sessionId == command.session.sessionId

def transitionSession (db : Database) (command : TransitionSessionCommand) :
    Reply TransitionSessionOutcome :=
  match db.sessionIdempotency[command.storageKey]? with
  | some existing => merge do
    ensure (existing.requestBindingHash == command.idempotency.requestBindingHash)
      (.ok .bindingMismatch, db)
    let event ← okOr (db.sessionEvents.reverse.find? (·.replays existing command.event))
      (.error .unavailable, db)
    let session ← okOr event.resultSession (.error .unavailable, db)
    return (.ok (.replayed session event.eventId), db)
  | none => merge do
    ensure command.applyAllowed (.ok .invalidTransition, db)
    let current ← okOr db.sessions[command.session.sessionId]? (.ok .notFound, db)
    ensure (current.status == command.expectedStatus) (.ok .stateConflict, db)
    ensure (command.eventBound &&
      !(db.hasEvent command.event.eventId) && !(db.hasAudit command.auditEntry.auditId))
      (.error .conflict, db)
    let session ← orFail db (current.transition command)
    return (.ok (.applied session command.event.eventId), db.moveSession command session)

end Rctl.Api
