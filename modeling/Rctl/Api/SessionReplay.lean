/-
# Repeating a transition

A transition is stored under a key made from the account, the device, the method, the
target and the idempotency key of its request, with a hash that binds the request. A
repetition finds the key and is answered with the event of the first one. The event is
looked up again, by session, type, device and idempotency key, from the end of the log;
the target has no part in that. So a request to the same session with the same
idempotency key and another query is stored under another key, applies, and leaves an
event that a repetition of the first then finds (`replayed_under_other_query`).

Where an applied transition finds no event that it could be mistaken for, a repetition is
answered with what the first request was (`transitions_replayed`).
-/
import Rctl.Api.LiveSessions

namespace Rctl.Api

open ByteString Result OrdMap StateRun

/-! ### What a plan says about its request -/

def parsedBody (env : RouteEnv) (request : HttpRequest) : Option SessionBody :=
  (env.canonicalJsonBytesFromSlice request.body).bind env.bodyFromSlice

def transitionOutline : SessionRoute → SessionBody → Option (String × String)
  | .action action _, .action body => some (action.contract.2.1, body.idempotencyKey)
  | .connectionState _, .connectionState body =>
    (connectionStateContract body.state).map fun contract => (contract.1, body.idempotencyKey)
  | _, _ => none

/-- What a request for a transition is bound by. -/
def bindingBytes (env : Env) (accountId deviceId method : String) (target body : Bytes)
    (contentType : Option String) : Option Bytes := do
  let bodyHash ← canonicalRequestBodyHash env body contentType
  (canonicalIdempotencyBindingBytes accountId deviceId method (asciiText target) bodyHash).toOption

structure PlannedFor (env : RouteEnv) (context : RequestContext) (plan : TransitionPlan) : Prop where
  method : plan.requestMethod = context.request.method
  outline : ∃ route body, sessionRoute plan.requestPath = some route ∧
    parsedBody env context.request = some body ∧
    transitionOutline route body = some (plan.eventType, plan.idempotencyKey)
  binding : ∃ bytes, bindingBytes env.toEnv plan.accountId plan.actorDeviceId plan.requestMethod
    plan.requestPath context.request.body context.request.contentType = some bytes ∧
    plan.requestBindingHash = env.sha256Hex bytes

/-- The plan a request leads to, signed by the device it names. -/
def RequestContext.plan (env : RouteEnv) (context : RequestContext) : Except ApiError TransitionPlan := do
  let request := context.request
  let notFound := ApiError.notFound "route_not_found" "the requested route does not exist" request.requestId
  let target ← (canonicalRequestTarget request.target).mapError fun _ => notFound
  match sessionRoute target with
  | some (.action action sessionId) =>
    let body ← parseJson env SessionBody.action? request
    actionPlan env context.accountId request body.actorDeviceId action sessionId
  | some (.connectionState sessionId) =>
    let body ← parseJson env SessionBody.connectionState? request
    connectionStatePlan env context.accountId request body.actorDeviceId sessionId
  | _ => .error notFound

variable {env : RouteEnv} {context : RequestContext} {target : Bytes} {α : Type} {a : α}

section Plans

variable {plan : TransitionPlan} {actorDeviceId sessionId : String} {action : SessionAction} {request : HttpRequest}

theorem parseJson_parsedBody {kind : SessionBody → Option α} (h : parseJson env kind request = .ok a) :
    ∃ body, parsedBody env request = some body ∧ kind body = some a := by
  simp only [parseJson, bind_eq_ok, okOr_eq_ok, Option.bind_eq_some_iff] at h
  obtain ⟨canonical, hc, body, hb, hk⟩ := h
  exact ⟨body, by rw [parsedBody, hc]; exact hb, hk⟩

theorem canonicalRequestBinding_spec {accountId deviceId : String} {binding : CanonicalRequestBinding}
    (h : canonicalRequestBinding env.toEnv accountId deviceId request = .ok binding) :
    canonicalRequestTarget request.target = .ok binding.target ∧
      ∃ bytes, bindingBytes env.toEnv accountId deviceId request.method binding.target request.body
        request.contentType = some bytes ∧ binding.digest = env.sha256Hex bytes := by
  simp only [canonicalRequestBinding, bind_eq_ok, okOr_eq_ok, mapError_eq_ok, pure_eq_ok] at h
  obtain ⟨bodyHash, hh, target, ht, canonical, hc, rfl⟩ := h
  refine ⟨ht, canonical, ?_, rfl⟩
  rw [bindingBytes, hh]
  show (canonicalIdempotencyBindingBytes _ _ _ _ _).toOption = _
  rw [hc]
  rfl

theorem validateActor_eq_ok {actorType claimed signed rid : String}
    (h : validateActor actorType claimed signed rid = .ok ()) : claimed = signed := by
  simp only [validateActor, ensure_eq_ok, Bool.not_eq_true', Bool.or_eq_false_iff, bne_eq_false_iff_eq] at h
  exact h.2

theorem actionPlan_spec (h : actionPlan env context.accountId context.request actorDeviceId action sessionId = .ok plan)
    (ht : canonicalRequestTarget context.request.target = .ok target)
    (hrt : sessionRoute target = some (.action action sessionId)) :
    PlannedFor env context plan ∧ context.plan env = .ok plan := by
  have hpl := h
  simp only [actionPlan, bind_eq_ok, pure_eq_ok] at h
  obtain ⟨body, hbo, _, ha, _, _, _, _, binding, hbi, rfl⟩ := h
  obtain rfl : body.actorDeviceId = actorDeviceId := validateActor_eq_ok ha
  obtain ⟨parsed, hp, hki⟩ := parseJson_parsedBody hbo
  obtain ⟨ht', hby⟩ := canonicalRequestBinding_spec hbi
  obtain rfl : target = binding.target := Except.ok.inj (ht.symm.trans ht')
  refine ⟨⟨rfl, ⟨_, parsed, hrt, hp, ?_⟩, hby⟩, ?_⟩
  · cases parsed with
    | action => cases hki; rfl
    | _ => cases hki
  · simp only [RequestContext.plan, bind_eq_ok, mapError_eq_ok]
    refine ⟨binding.target, ht, ?_⟩
    simp only [hrt, bind_eq_ok]
    exact ⟨body, hbo, hpl⟩

theorem connectionStatePlan_spec
    (h : connectionStatePlan env context.accountId context.request actorDeviceId sessionId = .ok plan)
    (ht : canonicalRequestTarget context.request.target = .ok target)
    (hrt : sessionRoute target = some (.connectionState sessionId)) :
    PlannedFor env context plan ∧ context.plan env = .ok plan := by
  have hpl := h
  simp only [connectionStatePlan, bind_eq_ok, okOr_eq_ok, pure_eq_ok] at h
  obtain ⟨body, hbo, _, ha, _, _, contract, hc, binding, hbi, rfl⟩ := h
  obtain rfl : body.actorDeviceId = actorDeviceId := validateActor_eq_ok ha
  obtain ⟨parsed, hp, hki⟩ := parseJson_parsedBody hbo
  obtain ⟨ht', hby⟩ := canonicalRequestBinding_spec hbi
  obtain rfl : target = binding.target := Except.ok.inj (ht.symm.trans ht')
  refine ⟨⟨rfl, ⟨_, parsed, hrt, hp, ?_⟩, hby⟩, ?_⟩
  · cases parsed with
    | connectionState =>
      cases hki
      simp only [transitionOutline, hc]
      rfl
    | _ => cases hki
  · simp only [RequestContext.plan, bind_eq_ok, mapError_eq_ok]
    refine ⟨binding.target, ht, ?_⟩
    simp only [hrt, bind_eq_ok]
    exact ⟨body, hbo, hpl⟩

end Plans

/-! ### Requests that are bound alike -/

def TransitionPlan.storageBytes (plan : TransitionPlan) : Bytes :=
  idempotencyStorageBytes plan.accountId plan.actorDeviceId plan.requestMethod plan.requestPath
    plan.idempotencyKey

/-- The texts that are hashed on behalf of a request. -/
def RequestContext.hashed (env : RouteEnv) (context : RequestContext) : List Bytes :=
  context.request.body :: (env.canonicalJsonBytesFromSlice context.request.body).toList ++
    match context.plan env with
    | .error _ => []
    | .ok plan => plan.storageBytes :: (bindingBytes env.toEnv plan.accountId plan.actorDeviceId
        plan.requestMethod plan.requestPath context.request.body context.request.contentType).toList

/-- What is assumed of the functions of other crates: no two texts hashed for the requests
have the same digest, and a canonical body is its own canonical form. -/
structure Faithful (env : RouteEnv) (contexts : List RequestContext) : Prop where
  sha256 : Set.InjOn env.sha256 {bytes | ∃ context ∈ contexts, bytes ∈ context.hashed env}
  canonicalJson : ∀ body canonical, env.canonicalJsonBytesFromSlice body = some canonical →
    env.canonicalJsonBytesFromSlice canonical = some canonical

variable {contexts : List RequestContext} {plan plan' : TransitionPlan}

section Bound

variable {c c' : RequestContext} {bodyHash : Digest}

theorem Faithful.sha256Hex_inj (h : Faithful env contexts) {x y : Bytes} (hc : c ∈ contexts) (hc' : c' ∈ contexts)
    (hx : x ∈ c.hashed env) (hy : y ∈ c'.hashed env) (hxy : env.sha256Hex x = env.sha256Hex y) : x = y :=
  h.sha256 ⟨c, hc, hx⟩ ⟨c', hc', hy⟩ (Vector.toList_inj.mp (hexEncode_inj hxy))

theorem storageBytes_mem_hashed (h : c.plan env = .ok plan) : plan.storageBytes ∈ c.hashed env := by
  unfold RequestContext.hashed
  rw [h]
  exact List.mem_append_right _ List.mem_cons_self

theorem bindingBytes_mem_hashed {bs : Bytes} (h : c.plan env = .ok plan)
    (hby : bindingBytes env.toEnv plan.accountId plan.actorDeviceId plan.requestMethod plan.requestPath
      c.request.body c.request.contentType = some bs) : bs ∈ c.hashed env := by
  unfold RequestContext.hashed
  rw [h]
  refine List.mem_append_right _ (List.mem_cons_of_mem _ ?_)
  rw [hby]
  exact List.mem_singleton_self bs

theorem canonicalRequestBodyHash_spec
    (h : canonicalRequestBodyHash env.toEnv c.request.body c.request.contentType = some bodyHash) :
    ∃ x ∈ c.hashed env, bodyHash = env.sha256 x ∧
      (x = c.request.body ∨ env.canonicalJsonBytesFromSlice c.request.body = some x) := by
  have hb : c.request.body ∈ c.hashed env := List.mem_append_left _ List.mem_cons_self
  have hc : ∀ x, env.canonicalJsonBytesFromSlice c.request.body = some x → x ∈ c.hashed env := by
    intro x hx
    refine List.mem_append_left _ (List.mem_cons_of_mem _ ?_)
    rw [hx]
    exact List.mem_singleton_self x
  unfold canonicalRequestBodyHash at h
  split_ifs at h with he
  · cases h
    rw [List.isEmpty_iff] at he
    exact ⟨_, hb, by rw [he], .inl rfl⟩
  · simp only at h
    split at h
    · unfold canonicalJsonHash at h
      rw [if_neg he, Option.map_eq_some_iff] at h
      obtain ⟨x, hx, rfl⟩ := h
      exact ⟨x, hc x hx, rfl, .inr hx⟩
    · cases h
      exact ⟨_, hb, rfl, .inl rfl⟩

theorem Faithful.parsedBody_eq (h : Faithful env contexts) (hc : c ∈ contexts) (hc' : c' ∈ contexts)
    {body body' : SessionBody}
    (hha : canonicalRequestBodyHash env.toEnv c.request.body c.request.contentType = some bodyHash)
    (hhash' : canonicalRequestBodyHash env.toEnv c'.request.body c'.request.contentType = some bodyHash)
    (hbo : parsedBody env c.request = some body) (hbody' : parsedBody env c'.request = some body') :
    body = body' := by
  -- the text that was hashed has the canonical form of the body
  have hform : ∀ (c : RequestContext) (x : Bytes) (body : SessionBody), parsedBody env c.request = some body →
      (x = c.request.body ∨ env.canonicalJsonBytesFromSlice c.request.body = some x) →
      (env.canonicalJsonBytesFromSlice x).bind env.bodyFromSlice = some body := by
    rintro c x body hbo (rfl | hx)
    · exact hbo
    · rw [parsedBody, hx] at hbo
      rw [h.canonicalJson _ x hx]
      exact hbo
  obtain ⟨x, hx, hxhash, hxbody⟩ := canonicalRequestBodyHash_spec hha
  obtain ⟨y, hy, hyhash, hybody⟩ := canonicalRequestBodyHash_spec hhash'
  obtain rfl : x = y := h.sha256 ⟨c, hc, hx⟩ ⟨c', hc', hy⟩ (hxhash.symm.trans hyhash)
  exact Option.some.inj ((hform c x body hbo hxbody).symm.trans (hform c' x body' hbody' hybody))

theorem bindingBytes_inj {accountId accountId' deviceId deviceId' method method' : String}
    {target target' body body' bytes : Bytes} {contentType contentType' : Option String}
    (h : bindingBytes env.toEnv accountId deviceId method target body contentType = some bytes)
    (h' : bindingBytes env.toEnv accountId' deviceId' method' target' body' contentType' = some bytes) :
    accountId = accountId' ∧ deviceId = deviceId' ∧
      (utf8 method).map toAsciiUppercase = (utf8 method').map toAsciiUppercase ∧
      ∃ bodyHash, canonicalRequestBodyHash env.toEnv body contentType = some bodyHash ∧
        canonicalRequestBodyHash env.toEnv body' contentType' = some bodyHash := by
  have hpr : ∀ {accountId deviceId method : String} {target body : Bytes} {contentType : Option String},
      bindingBytes env.toEnv accountId deviceId method target body contentType = some bytes →
      ∃ bodyHash path, canonicalRequestBodyHash env.toEnv body contentType = some bodyHash ∧
        canonicalEncode "rctl-idempotency-binding-v1" (idempotencyBindingFields accountId deviceId
          ((utf8 method).map toAsciiUppercase) path bodyHash) = .ok bytes := by
    intro accountId deviceId method target body contentType h
    simp only [bindingBytes, Option.bind_eq_bind, Option.bind_eq_some_iff] at h
    obtain ⟨bodyHash, hha, hc⟩ := h
    cases hby : canonicalIdempotencyBindingBytes accountId deviceId method (asciiText target) bodyHash with
    | error => rw [hby] at hc; cases hc
    | ok =>
      rw [hby] at hc
      cases hc
      simp only [canonicalIdempotencyBindingBytes, bind_eq_ok] at hby
      obtain ⟨upper, hu, path, _, he⟩ := hby
      simp only [canonicalHttpMethod] at hu
      split at hu
      · cases hu
      · cases hu
        exact ⟨bodyHash, path, hha, he⟩
  obtain ⟨bodyHash, path, hha, he⟩ := hpr h
  obtain ⟨bodyHash', path', hhash', he'⟩ := hpr h'
  have hf := (canonicalEncode_inj he he').2
  simp only [idempotencyBindingFields, List.cons.injEq, Field.str_inj, Field.array_inj, Field.mk.injEq, true_and,
    and_true] at hf
  obtain ⟨hac, hdv, hm, _, rfl⟩ := hf
  exact ⟨hac, hdv, hm, bodyHash, hha, hhash'⟩

def SessionBody.idempotencyKey : SessionBody → String
  | create request => request.idempotencyKey
  | action request => request.idempotencyKey
  | connectionState request => request.idempotencyKey

theorem transitionOutline_key {route : SessionRoute} {body : SessionBody} {eventType key : String}
    (h : transitionOutline route body = some (eventType, key)) : key = body.idempotencyKey := by
  unfold transitionOutline at h
  split at h
  · cases h; rfl
  · obtain ⟨contract, _, hp⟩ := Option.map_eq_some_iff.mp h
    cases hp
    rfl
  · cases h

/-- **A transition is told by its storage key and its binding.** -/
theorem plan_eq_of_bound (h : Faithful env contexts) (hc : c ∈ contexts) (hc' : c' ∈ contexts)
    (hpl : c.plan env = .ok plan) (hp : PlannedFor env c plan)
    (hplan' : c'.plan env = .ok plan') (hp' : PlannedFor env c' plan')
    (hk : env.sha256Hex plan.storageBytes = env.sha256Hex plan'.storageBytes)
    (hb : plan.requestBindingHash = plan'.requestBindingHash) :
    plan.eventType = plan'.eventType ∧ plan.actorDeviceId = plan'.actorDeviceId ∧
      plan.idempotencyKey = plan'.idempotencyKey := by
  obtain ⟨bs, hby, hd⟩ := hp.binding
  obtain ⟨bs', hby', hd'⟩ := hp'.binding
  obtain ⟨route, body, hrt, hbo, ho⟩ := hp.outline
  obtain ⟨route', body', hrt', hbody', ho'⟩ := hp'.outline
  rw [hd, hd'] at hb
  obtain rfl := h.sha256Hex_inj hc hc' (bindingBytes_mem_hashed hpl hby) (bindingBytes_mem_hashed hplan' hby') hb
  obtain ⟨hac, hdv, hm, bodyHash, hha, hhash'⟩ := bindingBytes_inj hby hby'
  obtain rfl := h.parsedBody_eq hc hc' hha hhash' hbo hbody'
  have hi : plan.idempotencyKey = plan'.idempotencyKey :=
    (transitionOutline_key ho).trans (transitionOutline_key ho').symm
  -- all but the path is the same in the two storage keys, so the path is
  have hs := h.sha256Hex_inj hc hc' (storageBytes_mem_hashed hpl) (storageBytes_mem_hashed hplan') hk
  have hpt : plan.requestPath = plan'.requestPath := by
    simp only [TransitionPlan.storageBytes, idempotencyStorageBytes, hac, hdv, hm, hi,
      List.append_cancel_left_eq, List.cons.injEq, true_and, List.append_cancel_right_eq] at hs
    exact hs
  rw [hpt, hrt'] at hrt
  cases hrt
  rw [ho', Option.some.injEq, Prod.mk.injEq] at ho
  exact ⟨ho.1.symm, hdv, hi⟩

end Bound

/-! ### Plans in flight -/

def TransitionPlan.Known (env : RouteEnv) (contexts : List RequestContext) (plan : TransitionPlan) : Prop :=
  ∃ context ∈ contexts, context.plan env = .ok plan ∧ PlannedFor env context plan

/-- A request in flight is one of the requests, and has the plan that was made for it. -/
def InFlight.Known (env : RouteEnv) (contexts : List RequestContext) : InFlight → Prop
  | .device context route _ _ | .nonce context route _ _ _ => context ∈ contexts ∧
      ∃ target, canonicalRequestTarget context.request.target = .ok target ∧
        signedRoute env context.request target = .ok route
  | .session plan | .role plan _ | .apply plan _ _ _ => plan.Known env contexts
  | _ => True

variable {action : ServerAction} {server srv' : Server} {reply : ServerReply}

theorem continueRoute_known {actor : Device} {route : SignedRoute} {plan : TransitionPlan}
    (hc : context ∈ contexts) (ht : canonicalRequestTarget context.request.target = .ok target)
    (hrt : signedRoute env context.request target = .ok route)
    (h : continueRoute env context actor route = .ok (.session plan)) : plan.Known env contexts := by
  unfold signedRoute at hrt
  split at hrt
  · cases hrt
  · simp only [bind_eq_ok, pure_eq_ok] at hrt
    obtain ⟨_, _, _, _, rfl⟩ := hrt
    simp only [continueRoute, bind_eq_ok] at h
    obtain ⟨_, _, h⟩ := h
    cases h
  · rename_i hs
    cases hrt
    simp only [continueRoute, bind_eq_ok, pure_eq_ok, InFlight.session.injEq] at h
    obtain ⟨_, hp, rfl⟩ := h
    obtain ⟨hpl, hp⟩ := actionPlan_spec hp ht hs
    exact ⟨context, hc, hp, hpl⟩
  · rename_i hs
    cases hrt
    simp only [continueRoute, bind_eq_ok, pure_eq_ok, InFlight.session.injEq] at h
    obtain ⟨_, hp, rfl⟩ := h
    obtain ⟨hpl, hp⟩ := connectionStatePlan_spec hp ht hs
    exact ⟨context, hc, hp, hpl⟩

theorem InFlight.FoundIn.known {request : InFlight} (h : request.FoundIn env action server)
    (hrc : ∀ context now, action = .receive context now → context ∈ contexts)
    (hkn : ∀ request ∈ server.inFlight, request.Known env contexts) : request.Known env contexts := by
  cases request with
  | device context _ now =>
    obtain ⟨hac, hr⟩ := h
    refine ⟨hrc context now hac, ?_⟩
    simp only [receive, bind_eq_ok, mapError_eq_ok] at hr
    obtain ⟨target, ht, _, _, route', hrt, _, _, _, _, _, rfl, _⟩ := hr
    exact ⟨target, ht, hrt⟩
  | nonce context route now signature => exact hkn (.device context route now signature) h
  | session =>
    obtain ⟨context, route, now, signature, actor, hm, hcontinue⟩ := h
    obtain ⟨hc, target, ht, hrt⟩ := hkn _ hm
    exact continueRoute_known hc ht hrt hcontinue
  | role plan => exact hkn (.session plan) h.1
  | apply plan loaded => exact hkn (.role plan loaded) h.1
  | _ => trivial

theorem ServerChange.known (h : ServerChange env action server reply srv')
    (hrc : ∀ context now, action = .receive context now → context ∈ contexts)
    (hkn : ∀ request ∈ server.inFlight, request.Known env contexts) :
    ∀ request ∈ srv'.inFlight, request.Known env contexts := by
  intro request hm
  cases h with
  | waits _ hif =>
    rcases hif request hm with hm | hf
    · exact hkn request hm
    · exact hf.known hrc hkn
  | calls _ _ _ _ _ _ hif => exact hkn request (hif request hm)

/-! ### Recorded transitions -/

/-- A transition as it is recorded: its key, and its event, which no later event of the
session is taken for. -/
structure Recorded (command : TransitionSessionCommand) (result : Session) (db : Database) : Prop where
  key : db.sessionIdempotency[command.storageKey]? = some command.idempotency
  bound : command.event.sessionId = command.idempotency.sessionId
  actor : command.event.actorDeviceId ≠ none
  session : db.sessions[command.idempotency.sessionId]? ≠ none
  last : ∃ before after, db.eventsOf command.idempotency.sessionId =
      before ++ command.event.withResult result :: after ∧
    ∀ event ∈ after, event.replays command.idempotency command.event = false

/-- A transition under a new key, of a session that has the status it expects, finds no event that a
repetition could take for its own. -/
def AppliesUnmistaken (env : RouteEnv) (e : ServerEntry) : Prop :=
  ∀ command current, sessionCall env e.pre e.call = some (.transitionSession command) →
    e.pre.database.sessionIdempotency[command.storageKey]? = none → command.applyAllowed = true →
    e.pre.database.sessions[command.session.sessionId]? = some current → current.status = command.expectedStatus →
    ∀ event ∈ e.pre.database.sessionEvents, event.replays command.idempotency command.event = false

variable {command command' : TransitionSessionCommand} {result : Session}

section Repetition

variable {db : Database} {event event' : SessionEvent}

theorem replays_iff {old : IdempotencyRecord} :
    event'.replays old event = true ↔ event'.sessionId = old.sessionId ∧
      event'.eventType = event.eventType ∧ event'.actorDeviceId = event.actorDeviceId ∧
      event'.idempotencyKeyHash = event.idempotencyKeyHash := by
  simp only [SessionEvent.replays, Bool.and_eq_true, beq_iff_eq, and_assoc]

theorem replays_comm {old old' : IdempotencyRecord} (h : event.sessionId = old.sessionId)
    (h' : event'.sessionId = old'.sessionId) : event'.replays old event = event.replays old' event' := by
  rw [Bool.eq_iff_iff, replays_iff, replays_iff, ← h, ← h', eq_comm,
    eq_comm (a := event'.eventType), eq_comm (a := event'.actorDeviceId),
    eq_comm (a := event'.idempotencyKeyHash)]

theorem find?_reverse_of_last {p : α → Bool} {before after : List α} (ha : p a = true)
    (haf : ∀ b ∈ after, p b = false) : (before ++ a :: after).reverse.find? p = some a := by
  have hn : after.reverse.find? p = none := by
    rw [List.find?_eq_none]
    intro b hb
    rw [haf b (List.mem_reverse.mp hb)]
    exact Bool.false_ne_true
  rw [List.reverse_append, List.reverse_cons, List.find?_append, List.find?_append, hn, List.find?_singleton, if_pos ha]
  rfl

/-- The last event that replays a transition is looked for among those of its session. -/
theorem find?_replays (db : Database) (old : IdempotencyRecord) (event : SessionEvent) :
    db.sessionEvents.reverse.find? (·.replays old event) =
      (db.eventsOf old.sessionId).reverse.find? (·.replays old event) := by
  rw [Database.eventsOf, ← List.filter_reverse, List.find?_filter]
  congr 1
  funext event'
  rw [Bool.eq_iff_iff, decide_eq_true_iff, replays_iff, beq_iff_eq]
  exact ⟨fun h => ⟨h.1, h⟩, fun h => h.2⟩

/-- A repetition of a recorded transition is answered with its event and its session. -/
theorem Recorded.replayed (h : Recorded command result db) (hs : command'.storageKey = command.storageKey)
    (hbi : command'.idempotency.requestBindingHash = command.idempotency.requestBindingHash)
    (htype : command'.event.eventType = command.event.eventType)
    (ha : command'.event.actorDeviceId = command.event.actorDeviceId)
    (hha : command'.event.idempotencyKeyHash = command.event.idempotencyKeyHash) :
    transitionSession db command' = (.ok (.replayed result command.event.eventId), db) := by
  obtain ⟨before, after, hev, haf⟩ := h.last
  have hfind : db.sessionEvents.reverse.find? (·.replays command.idempotency command'.event) =
      some (command.event.withResult result) := by
    have hpred : (fun event : SessionEvent => event.replays command.idempotency command'.event) =
        fun event => event.replays command.idempotency command.event := by
      funext event
      rw [SessionEvent.replays, SessionEvent.replays, htype, ha, hha]
    rw [hpred, find?_replays, hev]
    exact find?_reverse_of_last (replays_iff.mpr ⟨h.bound, rfl, rfl, rfl⟩) haf
  unfold transitionSession
  rw [hs, h.key]
  simp only [hbi, beq_self_eq_true, hfind]
  rfl

theorem Recorded.mismatch (h : Recorded command result db) (hs : command'.storageKey = command.storageKey)
    (hbi : command'.idempotency.requestBindingHash ≠ command.idempotency.requestBindingHash) :
    transitionSession db command' = (.ok .bindingMismatch, db) := by
  have hne : (command.idempotency.requestBindingHash == command'.idempotency.requestBindingHash) = false :=
    beq_false_of_ne fun heq => hbi heq.symm
  unfold transitionSession
  rw [hs, h.key]
  simp only [hne]
  rfl

end Repetition

/-! ### Steps -/

section Steps

variable {command : TransitionSessionCommand} {eventId : String}

theorem eventBound_sessionId (h : command.eventBound = true) : command.event.sessionId = command.idempotency.sessionId ∧
      command.idempotency.sessionId = command.session.sessionId := by
  simp only [TransitionSessionCommand.eventBound, Bool.and_eq_true, beq_iff_eq] at h
  exact ⟨h.1.1.2.trans h.2.symm, h.2⟩

theorem ServerChange.recorded (h : ServerChange env action server reply srv') (hI : ServerInv server)
    (ha : appliedTransition ⟨server, action, reply, srv'⟩ = some (command, result, eventId)) :
    Recorded command result srv'.database := by
  obtain ⟨⟨cur, hcl⟩, _, hpo⟩ := h.applied ha
  obtain ⟨he, hs⟩ := eventBound_sessionId hcl.bound
  have hr : result.sessionId = command.idempotency.sessionId := by
    rw [(Session.transition_moved hcl.moved).same.sessionId, hs]
    exact hI.keyed _ _ hcl.found
  rw [hpo]
  refine ⟨(get_insert _ _ _ _).trans (if_pos rfl), he, ?_, ?_, ?_⟩
  · obtain ⟨plan, loaded, role, draws, _, rfl⟩ := hcl.waits
    exact Option.some_ne_none _
  · have hf : (server.database.moveSession command result).sessions[command.idempotency.sessionId]? =
        if result.sessionId = command.idempotency.sessionId then some result
        else server.database.sessions[command.idempotency.sessionId]? := get_insert _ _ _ _
    rw [hf, if_pos hr]
    exact Option.some_ne_none _
  · refine ⟨server.database.eventsOf command.idempotency.sessionId, [], ?_, fun event hm => by cases hm⟩
    rw [eventsOf_singleton server.database _ rfl]
    exact congrArg _ (if_pos he)

theorem ServerChange.key_kept (h : ServerChange env action server reply srv') (hI : ServerInv server)
    {key : String} {record : IdempotencyRecord} (hk : server.database.sessionIdempotency[key]? = some record) :
    srv'.database.sessionIdempotency[key]? = some record := by
  -- what is inserted goes under a key that was not there
  have hi : ∀ (newKey : String) (new : IdempotencyRecord), server.database.sessionIdempotency[newKey]? = none →
      (server.database.sessionIdempotency.insert newKey new)[key]? = some record := by
    intro newKey new hn
    rw [get_insert, if_neg fun heq => by rw [heq, hk] at hn; cases hn]
    exact hk
  refine h.keeps (I := fun db => db.sessionIdempotency[key]? = some record) (fun _ _ db' he => ?_) hk
  cases he.remoteChange hI.keyed with
  | none _ _ _ _ _ hks => rw [hks]; exact hk
  | created _ hn => exact hi _ _ hn
  | transitioned _ _ _ hn => exact hi _ _ hn
  | forced _ _ _ _ _ _ _ _ _ _ hks => rw [hks]; exact hk

theorem Recorded.step (hr : Recorded command result server.database) (hI : ServerInv server)
    (h : ServerChange env action server reply srv')
    (hu : AppliesUnmistaken env ⟨server, action, reply, srv'⟩) :
    Recorded command result srv'.database := by
  obtain ⟨new, hev, hmo⟩ := h.sessionMove hI command.idempotency.sessionId
  obtain ⟨ses, hs⟩ := Option.ne_none_iff_exists'.mp hr.session
  rw [hs] at hmo
  obtain ⟨before, after, hla, haf⟩ := hr.last
  refine ⟨h.key_kept hI hr.key, hr.bound, hr.actor, ?_, before, after ++ new, ?_, ?_⟩
  · obtain ⟨session', hs', _⟩ := hmo.stays
    rw [hs']
    exact Option.some_ne_none _
  · rw [hev, hla, List.append_assoc, List.cons_append]
  · intro event hm
    rcases List.mem_append.mp hm with hm | hm
    · exact haf event hm
    generalize srv'.database.sessions[command.idempotency.sessionId]? = post at hmo
    cases hmo with
    | keep => cases hm
    | moved _ _ _ _ _ _ _ _ hrp =>
      obtain rfl := List.mem_singleton.mp hm
      obtain ⟨⟨_, hcl⟩, _⟩ := h.applied (by rw [appliedTransition, hrp])
      have hd : command.event.withResult result ∈ server.database.sessionEvents := by
        have hm : command.event.withResult result ∈ server.database.eventsOf command.idempotency.sessionId := by
          rw [hla]
          exact List.mem_append_right _ List.mem_cons_self
        exact List.mem_of_mem_filter hm
      have hb : (command.event.withResult result).sessionId = command.idempotency.sessionId := hr.bound
      rw [← hu _ _ hcl.call hcl.key hcl.allowed hcl.found hcl.status _ hd]
      exact replays_comm hb (eventBound_sessionId hcl.bound).1
    | forced =>
      obtain rfl := List.mem_singleton.mp hm
      rw [Bool.eq_false_iff]
      intro hre
      exact hr.actor (replays_iff.mp hre).2.2.1.symm

end Steps

/-! ### Runs -/

def received (actions : List ServerAction) : List RequestContext :=
  actions.filterMap fun
    | .receive context _ => some context
    | _ => none

/-- After an applied transition, a transition under its storage key changes nothing: with the
same binding it is answered with the session and the event of the applied one, with
another binding it is refused. -/
def ReplayKept (e e' : ServerEntry) : Prop :=
  ∀ command session eventId, appliedTransition e = some (command, session, eventId) →
    ∀ command' outcome answer, e'.out = .transition command' outcome answer →
      command'.storageKey = command.storageKey →
      e'.post.database = e'.pre.database ∧
        outcome = .ok (if command'.idempotency.requestBindingHash = command.idempotency.requestBindingHash
          then .replayed session eventId else .bindingMismatch)

section Runs

variable {outcome : Except StoreError TransitionSessionOutcome}

theorem ServerChange.tried (h : ServerChange env action server reply srv')
    (hkn : ∀ request ∈ server.inFlight, request.Known env contexts) {command : TransitionSessionCommand}
    {answer : Except ApiError (Session × String)} (hrp : reply = .transition command outcome answer) :
    transitionSession server.database command = (outcome, srv'.database) ∧
      ∃ plan loaded role draws, command = transitionCommand env.toEnv plan loaded role draws ∧
        plan.Known env contexts := by
  subst hrp
  cases h with
  | waits _ _ hrp => exact absurd (.transition _ _ _) (hrp _ _)
  | calls _ _ hs hw _ hrp =>
    cases hrp
    obtain ⟨plan, loaded, role, draws, hm, hc⟩ := hw
    refine ⟨?_, plan, loaded, role, draws, hc, hkn _ hm⟩
    simp only [step, respond, Prod.mk.injEq, Response.sessionTransition.injEq] at hs
    exact Prod.ext hs.1 hs.2

theorem Recorded.replayKept {db db' : Database} {loaded loaded' : Session} {role role' : SessionRole}
    {draws draws' : Draws} (hf : Faithful env contexts) (hre : Recorded command result db)
    (hcmd : command = transitionCommand env.toEnv plan loaded role draws) (hkn : plan.Known env contexts)
    (hcmd' : command' = transitionCommand env.toEnv plan' loaded' role' draws')
    (hkn' : plan'.Known env contexts) (hs : command'.storageKey = command.storageKey)
    (ht : transitionSession db command' = (outcome, db')) :
    db' = db ∧ outcome = .ok
      (if command'.idempotency.requestBindingHash = command.idempotency.requestBindingHash then .replayed result
      command.event.eventId else .bindingMismatch) := by
  by_cases hbi : command'.idempotency.requestBindingHash = command.idempotency.requestBindingHash
  · rw [if_pos hbi]
    subst hcmd hcmd'
    obtain ⟨c, hc, hpl, hp⟩ := hkn
    obtain ⟨c', hc', hplan', hp'⟩ := hkn'
    obtain ⟨htype, ha, hk⟩ :=
      plan_eq_of_bound hf hc' hc hplan' hp' hpl hp hs hbi
    have hr := hre.replayed hs hbi htype (congrArg some ha) (congrArg (fun key => env.sha256Hex (utf8 key)) hk)
    rw [ht, Prod.mk.injEq] at hr
    exact ⟨hr.2, hr.1⟩
  · have hm := hre.mismatch hs hbi
    rw [ht, Prod.mk.injEq] at hm
    rw [if_neg hbi]
    exact ⟨hm.2, hm.1⟩

/-- The invariant of a run with these requests and no others. -/
structure RunsFor (env : RouteEnv) (contexts : List RequestContext) (server : Server) : Prop where
  inv : ServerInv server
  known : ∀ request ∈ server.inFlight, request.Known env contexts

/-- What is assumed of a step of such a run. -/
def StepsFor (env : RouteEnv) (contexts : List RequestContext) (e : ServerEntry) : Prop :=
  AppliesUnmistaken env e ∧ ∀ context now, e.call = .receive context now → context ∈ contexts

theorem runsFor_step (server : Server) (action : ServerAction)
    (hs : StepsFor env contexts (entry (serverStep env) server action)) (h : RunsFor env contexts server) :
    RunsFor env contexts (serverStep env server action).2 :=
  ⟨serverInv_step h.inv action, (serverStep_change env server action).known hs.2 h.known⟩

theorem recorded_step (command : TransitionSessionCommand) (result : Session) (server : Server)
    (action : ServerAction) (hs : StepsFor env contexts (entry (serverStep env) server action))
    (h : RunsFor env contexts server ∧ Recorded command result server.database) :
    RunsFor env contexts (serverStep env server action).2 ∧
      Recorded command result (serverStep env server action).2.database :=
  ⟨runsFor_step server action hs h.1, h.2.step h.1.inv (serverStep_change env server action) hs.1⟩

/-- A transition is related as `ReplayKept` says to all that comes after it. -/
theorem replayKept_later (hf : Faithful env contexts) (server : Server) (action : ServerAction)
    (later : List ServerAction) (hst : StepsFor env contexts (entry (serverStep env) server action))
    (h : RunsFor env contexts server)
    (hl : ∀ e ∈ trace (serverStep env) (serverStep env server action).2 later, StepsFor env contexts e)
    (e : ServerEntry) (he : e ∈ trace (serverStep env) (serverStep env server action).2 later) :
    ReplayKept (entry (serverStep env) server action) e := by
  intro command result eventId ha command' outcome answer ho hs
  have hch := serverStep_change env server action
  obtain ⟨⟨_, hcl⟩, rfl, _⟩ := hch.applied ha
  obtain ⟨plan, loaded, role, draws, hm, hc⟩ := hcl.waits
  -- what was applied is still recorded when the later transition is tried
  obtain ⟨hen, ⟨hp, hr⟩, _⟩ := forall_trace_of (serverStep env) (recorded_step command result) later
    ⟨runsFor_step server action hst h, hch.recorded h.inv ha⟩ hl e he
  have hch' : ServerChange env e.call e.pre e.out e.post := by
    rw [hen]
    exact serverStep_change env e.pre e.call
  obtain ⟨ht, plan', loaded', role', draws', hc', hkn'⟩ := hch'.tried hp.known ho
  exact hr.replayKept hf hc (h.known _ hm) hc' hkn' hs ht

/-- **A repeated transition is answered as the first one.** In every run whose transitions,
when they come with a new storage key, find no event of the session with their type, device
and idempotency key: once a transition has been applied, every transition under the same
storage key and with the same binding is answered with the session and the event of the
applied one, one with another binding is refused, and neither changes the database,
whatever comes in between. -/
theorem transitions_replayed (env : RouteEnv) (db : Database) (actions : List ServerAction)
    (hfaithful : Faithful env (received actions))
    (hunmistaken : ∀ e ∈ trace (serverStep env) (Server.start db) actions, AppliesUnmistaken env e) :
    (trace (serverStep env) (Server.start db) actions).Pairwise ReplayKept := by
  refine pairwise_trace (serverStep env) runsFor_step (replayKept_later hfaithful) actions
    ⟨serverInv_start db, fun _ hm => by cases hm⟩ fun e he => ⟨hunmistaken e he, fun context now hc => ?_⟩
  obtain ⟨before, after, ha, _⟩ := mem_trace (serverStep env) he
  refine List.mem_filterMap.mpr ⟨e.call, ?_, by rw [hc]⟩
  rw [ha]
  exact List.mem_append_right _ List.mem_cons_self

end Runs

/-! ### A transition that is repeated under another query -/

def sampleBodies : List SessionBody :=
  [.create sampleInvite,
    .action { actorType := "device", actorDeviceId := "target", actorRole := "controlled",
              idempotencyKey := "accept", reason := none },
    .connectionState { actorType := "device", actorDeviceId := "device", actorRole := "controller",
                       idempotencyKey := "connect", state := .connected, reason := none },
    .connectionState { actorType := "device", actorDeviceId := "device", actorRole := "controller",
                       idempotencyKey := "degrade", state := .degraded, reason := none }]

/-- A request and the steps it takes, with nothing in between. -/
def sampleServed (context : RequestContext) (now : UInt64) (name : String) : List ServerAction :=
  .receive context now :: List.replicate 5 (.resume 0 (sampleDraws now name))

def connectedActions : List ServerAction :=
  sampleServed (samplePost "device" "/v1/sessions" "n0" 0) 1000 "create" ++
    sampleServed (samplePost "target" "/v1/sessions/session/accept" "n1" 1) 1001 "accept" ++
    sampleServed (samplePost "device" "/v1/sessions/session/connection-state" "n2" 2) 1002 "connect"

def degradedActions : List ServerAction :=
  sampleServed (samplePost "device" "/v1/sessions/session/connection-state" "n3" 3) 1003 "degrade"

def reconnectedActions : List ServerAction :=
  sampleServed (samplePost "device" "/v1/sessions/session/connection-state?again" "n4" 2) 1004 "again"

def repeatedActions : List ServerAction :=
  sampleServed (samplePost "device" "/v1/sessions/session/connection-state" "n5" 2) 1005 "repeat"

/-- No two texts that are hashed in these runs have the same digest. -/
theorem sampleFaithful {acts : List ServerAction} (h : received acts ⊆
      received (connectedActions ++ (degradedActions ++ reconnectedActions ++ repeatedActions))) :
    Faithful (sampleRoutes sampleBodies) (received acts) := by
  have hinj : let texts := (received (connectedActions ++ (degradedActions ++ reconnectedActions ++
        repeatedActions))).flatMap (·.hashed (sampleRoutes sampleBodies))
      ∀ x ∈ texts, ∀ y ∈ texts, (sampleDigest x).toList = (sampleDigest y).toList → x = y := by
    decide +kernel
  refine ⟨?_, fun body canonical hb => by cases hb; rfl⟩
  rintro x ⟨c, hc, hx⟩ y ⟨c', hc', hy⟩ hxy
  exact hinj x (List.mem_flatMap.mpr ⟨c, h hc, hx⟩) y (List.mem_flatMap.mpr ⟨c', h hc', hy⟩)
    (congrArg Vector.toList hxy)

/-- A transition that applies under a new key finds no event it could be taken for. -/
def unmistaken (env : RouteEnv) (e : ServerEntry) : Bool :=
  match sessionCall env e.pre e.call with
  | some (.transitionSession command) => (e.pre.database.sessionIdempotency[command.storageKey]?).isSome ||
      e.pre.database.sessionEvents.all fun event => !event.replays command.idempotency command.event
  | _ => true

theorem transitions_replayed_sample :
    (trace (serverStep (sampleRoutes sampleBodies)) (Server.start twoDevices)
      (connectedActions ++ degradedActions ++ repeatedActions)).Pairwise ReplayKept ∧
      ∃ e ∈ trace (serverStep (sampleRoutes sampleBodies)) (Server.start twoDevices)
        (connectedActions ++ degradedActions ++ repeatedActions),
        (match e.out with
        | .transition _ (.ok (.replayed _ eventId)) _ => some eventId
        | _ => none) = some "connect-event" := by
  have ha : ∀ e ∈ trace (serverStep (sampleRoutes sampleBodies)) (Server.start twoDevices)
      (connectedActions ++ degradedActions ++ repeatedActions), unmistaken (sampleRoutes sampleBodies) e = true := by
    decide +kernel
  have hrc : received (connectedActions ++ degradedActions ++ repeatedActions) ⊆
      received (connectedActions ++ (degradedActions ++ reconnectedActions ++ repeatedActions)) := by
    simp only [received, List.filterMap_append]
    grind
  refine ⟨transitions_replayed _ twoDevices _ (sampleFaithful hrc) ?_, by decide +kernel⟩
  intro e he command _ hc hk _ _ _ event hev
  have hu := ha e he
  rw [unmistaken, hc] at hu
  simp only [hk, Option.isSome_none, Bool.false_or, List.all_eq_true, Bool.not_eq_true'] at hu
  exact hu event hev

/-- The second entry repeats the request that the first applied and is answered with another event. -/
def answeredOtherwise (e e' : ServerEntry) : Bool :=
  match appliedTransition e, e'.out with
  | some (command, _, eventId), .transition command' (.ok (.replayed _ eventId')) _ =>
    command'.storageKey == command.storageKey &&
      command'.idempotency.requestBindingHash == command.idempotency.requestBindingHash && eventId' != eventId
  | _, _ => false

/-- The second connection is made under another query, so it is applied; the repetition of
the first is answered with it. -/
theorem replayed_under_other_query :
    Faithful (sampleRoutes sampleBodies)
        (received (connectedActions ++ (degradedActions ++ reconnectedActions ++ repeatedActions))) ∧
      ¬ (trace (serverStep (sampleRoutes sampleBodies)) (Server.start twoDevices)
        (connectedActions ++ (degradedActions ++ reconnectedActions ++ repeatedActions))).Pairwise ReplayKept := by
  refine ⟨sampleFaithful (List.Subset.refl _), fun h => ?_⟩
  rw [trace_append, List.pairwise_append] at h
  have hpi : ∃ e ∈ trace (serverStep (sampleRoutes sampleBodies)) (Server.start twoDevices) connectedActions,
      ∃ e' ∈ trace (serverStep (sampleRoutes sampleBodies))
        (final (serverStep (sampleRoutes sampleBodies)) (Server.start twoDevices) connectedActions)
        (degradedActions ++ reconnectedActions ++ repeatedActions),
      answeredOtherwise e e' = true := by
    decide +kernel
  obtain ⟨e, he, e', he', hpi⟩ := hpi
  unfold answeredOtherwise at hpi
  split at hpi
  · rename_i command session eventId command' session' eventId' answer ha ho
    simp only [Bool.and_eq_true, beq_iff_eq, bne_iff_ne] at hpi
    obtain ⟨⟨hs, hbi⟩, hother⟩ := hpi
    have hkp := (h.2.2 e he e' he' command session eventId ha command' _ answer ho hs).2
    rw [if_pos hbi] at hkp
    cases hkp
    exact hother rfl
  · cases hpi

end Rctl.Api
