/-
# Requests in flight

The server works on many requests at once. A request of the session routes waits for a
store several times on its way: for the device that signed it, for its nonce, for the
other device or for the session, and for the command it ends in. Between two waits
nothing else runs, and while it waits anything may: other requests, and the other calls of
the repository.

`Server` is the database, the nonces and the requests that wait; a `ServerAction` starts a
request, lets one go on, or makes another call of the repository. A run is any list of
actions, so it is any interleaving.
-/
import Rctl.Api.Repository
import Rctl.Api.SessionRoutes
import Rctl.Lib.Tasks

namespace Rctl.Api

open ByteString Result OrdMap StateRun

/-! ### A request on its way -/

/-- What a signed request is for. A body that was parsed before the signature is kept. -/
inductive SignedRoute
  | create (body : CreateSessionRequest)
  | action (action : SessionAction) (sessionId : String)
  | connectionState (sessionId : String)

structure RequestContext where
  accountId : String
  request : HttpRequest

/-- What a request waits for, and what it knows by then. -/
inductive InFlight
  /-- The device that signed it. -/
  | device (context : RequestContext) (route : SignedRoute) (now : UInt64) (signature : DeviceSignature)
  | nonce (context : RequestContext) (route : SignedRoute) (now : UInt64) (signature : DeviceSignature)
      (actor : Device)
  | controlled (context : RequestContext) (body : CreateSessionRequest) (controller : Device)
  /-- The creation of the session. -/
  | insert (command : CreateSessionCommand) (requestId : String)
  | session (plan : TransitionPlan)
  /-- The device under control, if the actor is not the one in control. -/
  | role (plan : TransitionPlan) (session : Session)
  | apply (plan : TransitionPlan) (session : Session) (role : SessionRole) (draws : Draws)

inductive ServerReply
  | idle
  /-- The request goes on. -/
  | pending
  | refused (error : ApiError)
  | creation (command : CreateSessionCommand) (outcome : Except StoreError CreateSessionOutcome)
      (answer : Except ApiError (Bool × Session))
  | transition (command : TransitionSessionCommand) (outcome : Except StoreError TransitionSessionOutcome)
      (answer : Except ApiError (Session × String))
  | other (response : Response)

structure Advance where
  reply : ServerReply
  next : Option InFlight
  database : Database
  nonces : Table UInt64

def Advance.proceed (db : Database) (nonces : Table UInt64) : Except ApiError InFlight → Advance
  | .ok next => ⟨.pending, some next, db, nonces⟩
  | .error e => ⟨.refused e, none, db, nonces⟩

/-- The route of a request. Only the creation parses its body before the signature. -/
def signedRoute (env : RouteEnv) (request : HttpRequest) (target : Bytes) : Except ApiError SignedRoute :=
  match sessionRoute target with
  | none => .error (.notFound "route_not_found" "the requested route does not exist" request.requestId)
  | some .create => do
    let body ← parseJson env SessionBody.create? request
    validateIdempotencyKey body.idempotencyKey request.requestId
    return .create body
  | some (.action action sessionId) => .ok (.action action sessionId)
  | some (.connectionState sessionId) => .ok (.connectionState sessionId)

def receive (env : RouteEnv) (context : RequestContext) (now : UInt64) : Except ApiError InFlight := do
  let request := context.request
  let target ← (canonicalRequestTarget request.target).mapError fun _ =>
    .badRequest "invalid_request_target" "request target cannot be canonicalized" request.requestId
  ensure (request.method == "POST")
    (.notFound "route_not_found" "the requested route does not exist" request.requestId)
  let route ← signedRoute env request target
  let signature ← readSignature request
  checkSignatureTime request signature now
  return .device context route now signature

/-- The request from the recorded nonce to its next wait. -/
def continueRoute (env : RouteEnv) (context : RequestContext) (actor : Device) :
    SignedRoute → Except ApiError InFlight
  | .create body => do
    checkController body actor context.request.requestId
    return .controlled context body actor
  | .action action sessionId => do
    let plan ← actionPlan env context.accountId context.request actor.deviceId action sessionId
    return .session plan
  | .connectionState sessionId => do
    let plan ← connectionStatePlan env context.accountId context.request actor.deviceId sessionId
    return .session plan

/-- The request from one wait to the next, or to its end. -/
def advance (env : RouteEnv) (db : Database) (nonces : Table UInt64) (draws : Draws) :
    InFlight → Advance
  | .device context route now signature => .proceed db nonces do
    let actor ← checkSignedDevice env.toEnv context.accountId context.request signature
      db.devices[signature.deviceId]?
    return .nonce context route now signature actor
  | .nonce context route now signature actor =>
    let (recorded, nonces) := admitNonce context.accountId context.request signature now nonces
    .proceed db nonces do
      recorded
      continueRoute env context actor route
  | .controlled context body controller => .proceed db nonces do
    let controlled ← checkControlled context.accountId body db.devices[body.controlledDeviceId]?
      context.request.requestId
    let command ← createSessionCommand env.toEnv context.accountId context.request body controller controlled
      draws
    return .insert command context.request.requestId
  | .insert command requestId =>
    let (outcome, db) := createSession db command
    ⟨.creation command outcome (answerCreation requestId outcome), none, db, nonces⟩
  | .session plan => .proceed db nonces do
    let session ← okOr db.sessions[plan.sessionId]?
      (.notFound "session_not_found" "session was not found" plan.requestId)
    return .role plan session
  | .role plan session => .proceed db nonces do
    let role ← checkRole plan (participantRole db session plan.accountId plan.actorDeviceId)
    return .apply plan session role draws
  | .apply plan session role draws =>
    let command := transitionCommand env.toEnv plan session role draws
    let (outcome, db) := transitionSession db command
    ⟨.transition command outcome (answerTransition plan.requestId (plan.validation session role) outcome),
      none, db, nonces⟩

/-! ### The server -/

structure Server where
  database : Database
  nonces : Table UInt64
  inFlight : List InFlight

def Call.isSessionCall : Call → Bool
  | .createSession _ | .transitionSession _ => true
  | _ => false

/-- A call of the repository that is made by another route. -/
structure OtherCall where
  call : Call
  other : call.isSessionCall = false

inductive ServerAction
  | receive (context : RequestContext) (now : UInt64)
  | resume (index : ℕ) (draws : Draws)
  | call (call : OtherCall)

def Server.resume (env : RouteEnv) (server : Server) (index : ℕ) (draws : Draws) : ServerReply × Server :=
  match server.inFlight[index]? with
  | none => (.idle, server)
  | some request =>
    let a := advance env server.database server.nonces draws request
    (a.reply, ⟨a.database, a.nonces, match a.next with
      | some next => server.inFlight.set index next
      | none => server.inFlight.eraseIdx index⟩)

def serverStep (env : RouteEnv) (server : Server) : ServerAction → ServerReply × Server
  | .receive context now => match receive env context now with
    | .ok request => (.pending, { server with inFlight := server.inFlight ++ [request] })
    | .error e => (.refused e, server)
  | .resume index draws => server.resume env index draws
  | .call call =>
    let (response, db) := step env.toEnv server.database call.call
    (.other response, { server with database := db })

abbrev ServerEntry := Entry Server ServerAction ServerReply

/-! ### What a step does -/

def sessionCall (env : RouteEnv) (server : Server) : ServerAction → Option Call
  | .resume index _ => match server.inFlight[index]? with
    | some (.insert command _) => some (.createSession command)
    | some (.apply plan session role draws) =>
      some (.transitionSession (transitionCommand env.toEnv plan session role draws))
    | _ => none
  | _ => none

def Call.WaitsIn (env : RouteEnv) (server : Server) : Call → Prop
  | .createSession command => ∃ requestId, InFlight.insert command requestId ∈ server.inFlight
  | .transitionSession command => ∃ plan session role draws,
      InFlight.apply plan session role draws ∈ server.inFlight ∧
        command = transitionCommand env.toEnv plan session role draws
  | _ => True

/-- Where a request that has begun to wait comes from, and what it has found in the database. -/
def InFlight.FoundIn (env : RouteEnv) (action : ServerAction) (server : Server) : InFlight → Prop
  | .device context route at' read =>
    action = .receive context at' ∧ receive env context at' = .ok (.device context route at' read)
  | .nonce context route at' read _ => InFlight.device context route at' read ∈ server.inFlight
  | .controlled _ _ _ => True
  | .insert command _ => ∃ accountId request body controller controlled draws,
      createSessionCommand env.toEnv accountId request body controller controlled draws = .ok command
  | .session plan => ∃ context route at' read actor,
      InFlight.nonce context route at' read actor ∈ server.inFlight ∧
        continueRoute env context actor route = .ok (.session plan)
  | .role plan loaded => InFlight.session plan ∈ server.inFlight ∧
      server.database.sessions[plan.sessionId]? = some loaded
  | .apply plan loaded actorRole _ => InFlight.role plan loaded ∈ server.inFlight ∧
      participantRole server.database loaded plan.accountId plan.actorDeviceId = some actorRole

inductive RepliesTo (action : ServerAction) : Call → Response → ServerReply → Prop
  | creation (command : CreateSessionCommand) (outcome : Except StoreError CreateSessionOutcome)
      (answer : Except ApiError (Bool × Session)) :
      RepliesTo action (.createSession command) (.sessionCreation outcome) (.creation command outcome answer)
  | transition (command : TransitionSessionCommand) (outcome : Except StoreError TransitionSessionOutcome)
      (answer : Except ApiError (Session × String)) :
      RepliesTo action (.transitionSession command) (.sessionTransition outcome)
        (.transition command outcome answer)
  | other (call : OtherCall) (response : Response) (haction : action = .call call) :
      RepliesTo action call.call response (.other response)

variable {action : ServerAction} {reply : ServerReply} {response : Response}

theorem RepliesTo.of_transition {command : TransitionSessionCommand}
    (h : RepliesTo action (.transitionSession command) response reply) :
    ∃ outcome answer, response = .sessionTransition outcome ∧ reply = .transition command outcome answer := by
  generalize hc : Call.transitionSession command = call at h
  cases h with
  | creation => cases hc
  | transition _ outcome answer =>
    cases hc
    exact ⟨outcome, answer, rfl, rfl⟩
  | other call =>
    have ho := call.other
    rw [← hc] at ho
    cases ho

theorem RepliesTo.of_other {call : Call} (h : RepliesTo action call response reply)
    (hc : call.isSessionCall = false) :
    ∃ other : OtherCall, action = .call other ∧ other.call = call ∧ reply = .other response := by
  cases h with
  | creation | transition => cases hc
  | other other _ hac => exact ⟨other, hac, rfl, rfl⟩

/-- All a step of the server can do: leave the database as it is, with at most one request
that waits for something new, or make one call of the repository. -/
inductive ServerChange (env : RouteEnv) (action : ServerAction) (server : Server) (reply : ServerReply)
    (server' : Server) : Prop
  | waits (hdatabase : server'.database = server.database)
      (hinFlight : ∀ request ∈ server'.inFlight, request ∈ server.inFlight ∨ request.FoundIn env action server)
      (hreply : ∀ call response, ¬ RepliesTo action call response reply)
  | calls (call : Call) (response : Response)
      (hstep : step env.toEnv server.database call = (response, server'.database))
      (hwaits : call.WaitsIn env server)
      (hcall : call.isSessionCall = true → sessionCall env server action = some call)
      (hreply : RepliesTo action call response reply)
      (hinFlight : ∀ request ∈ server'.inFlight, request ∈ server.inFlight)

section Change

variable {env : RouteEnv} {server : Server} {action : ServerAction}

/-- A request that only waits again leaves the database as it is. -/
theorem proceed_change {ix : ℕ} {nonces : Table UInt64} {res : Except ApiError InFlight}
    (hf : ∀ next, res = .ok next → next.FoundIn env action server) :
    ServerChange env action server (Advance.proceed server.database nonces res).reply
      ⟨(Advance.proceed server.database nonces res).database,
        (Advance.proceed server.database nonces res).nonces,
        match (Advance.proceed server.database nonces res).next with
        | some next => server.inFlight.set ix next
        | none => server.inFlight.eraseIdx ix⟩ := by
  cases res with
  | error => exact .waits rfl (fun req h => .inl (List.mem_of_mem_eraseIdx h)) (fun _ _ h => by cases h)
  | ok next =>
    refine .waits rfl (fun req h => ?_) (fun _ _ h => by cases h)
    have hm : req ∈ Tasks.replaceTask server.inFlight ix (some next) := h
    rcases Tasks.mem_replaceTask hm with hm | hn
    · exact .inl hm
    · cases hn
      exact .inr (hf _ rfl)

theorem continueRoute_found {ctx : RequestContext} {actor : Device} {route : SignedRoute}
    {now : UInt64} {sig : DeviceSignature} {next : InFlight}
    (hm : InFlight.nonce ctx route now sig actor ∈ server.inFlight)
    (h : continueRoute env ctx actor route = .ok next) : next.FoundIn env action server := by
  cases route with
  | create =>
    simp only [continueRoute, bind_eq_ok, pure_eq_ok] at h
    obtain ⟨_, _, rfl⟩ := h
    exact trivial
  | action | connectionState =>
    have hrt := h
    simp only [continueRoute, bind_eq_ok, pure_eq_ok] at h
    obtain ⟨plan, _, rfl⟩ := h
    exact ⟨ctx, _, now, sig, actor, hm, hrt⟩

theorem resume_change {index : ℕ} {draws : Draws} {request : InFlight} (hg : server.inFlight[index]? = some request) :
    ServerChange env (.resume index draws) server (server.resume env index draws).1
      (server.resume env index draws).2 := by
  have hm : request ∈ server.inFlight := List.mem_of_getElem? hg
  unfold Server.resume
  simp only [hg]
  cases request with
  | device context route now signature =>
    refine proceed_change fun next h => ?_
    simp only [bind_eq_ok, pure_eq_ok] at h
    obtain ⟨_, _, rfl⟩ := h
    exact hm
  | nonce context route now signature actor =>
    refine proceed_change fun next h => ?_
    simp only [bind_eq_ok] at h
    obtain ⟨_, _, h⟩ := h
    exact continueRoute_found hm h
  | controlled context body controller =>
    refine proceed_change fun next h => ?_
    simp only [bind_eq_ok, pure_eq_ok] at h
    obtain ⟨controlled, _, command, hc, rfl⟩ := h
    exact ⟨_, _, _, _, _, _, hc⟩
  | session plan =>
    refine proceed_change fun next h => ?_
    simp only [bind_eq_ok, okOr_eq_ok, pure_eq_ok] at h
    obtain ⟨session, hs, rfl⟩ := h
    exact ⟨hm, hs⟩
  | role plan session =>
    refine proceed_change fun next h => ?_
    simp only [checkRole, bind_eq_ok, okOr_eq_ok, pure_eq_ok] at h
    obtain ⟨_, ⟨role, hr, _, _, rfl⟩, rfl⟩ := h
    exact ⟨hm, hr⟩
  | insert command requestId =>
    refine .calls (.createSession command) _ rfl ⟨requestId, hm⟩ (fun _ => ?_) (.creation _ _ _)
      fun request h => List.mem_of_mem_eraseIdx h
    simp only [sessionCall, hg]
  | apply plan session role draws =>
    refine .calls (.transitionSession (transitionCommand env.toEnv plan session role draws)) _ rfl
      ⟨plan, session, role, draws, hm, rfl⟩ (fun _ => ?_) (.transition _ _ _)
      fun request h => List.mem_of_mem_eraseIdx h
    simp only [sessionCall, hg]

/-- **A step of the server leaves the database alone or makes one call of the repository.** -/
theorem serverStep_change (env : RouteEnv) (server : Server) (action : ServerAction) :
    ServerChange env action server (serverStep env server action).1 (serverStep env server action).2 := by
  cases action with
  | receive ctx now =>
    simp only [serverStep]
    cases hr : receive env ctx now with
    | error => exact .waits rfl (fun req h => .inl h) (fun _ _ h => by cases h)
    | ok =>
      refine .waits rfl (fun req' h => ?_) (fun _ _ h => by cases h)
      rcases List.mem_append.mp h with h | h
      · exact .inl h
      · cases List.mem_singleton.mp h
        have hdv := hr
        simp only [receive, bind_eq_ok, pure_eq_ok] at hr
        obtain ⟨_, _, _, _, route, _, sig, _, _, _, rfl⟩ := hr
        exact .inr ⟨rfl, hdv⟩
  | resume ix =>
    cases hg : server.inFlight[ix]? with
    | some => exact resume_change hg
    | none =>
      simp only [serverStep, Server.resume, hg]
      exact .waits rfl (fun req h => .inl h) (fun _ _ h => by cases h)
  | call call =>
    refine .calls call.call _ rfl ?_ (fun h => ?_) (.other call _ rfl) fun req h => h
    swap
    · rw [call.other] at h
      cases h
    obtain ⟨call, ho⟩ := call
    cases call with
    | createSession | transitionSession => cases ho
    | _ => exact trivial

end Change

end Rctl.Api
