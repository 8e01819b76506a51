/-
# The routes of remote sessions

`routes/sessions.rs`: a session is created by the device that controls, and moved on by
either of its two devices, with `accept`, `reject`, `cancel`, `close` or a connection
state. A route checks the request, loads what it needs, decides, and hands the repository
one command. The functions here are the parts of the routes between two accesses to a
store; `SessionServer` puts them together.

The random identifiers and the readings of the clock that a route draws on its way are a
parameter, `Draws`.
-/
import Rctl.Api.Commands
import Rctl.Api.SignedRequests
import Rctl.Protocol.Security

namespace Rctl.Api

open ByteString Result OrdMap

/-! ### Requests -/

structure CreateSessionRequest where
  controllerDeviceId : String
  controlledDeviceId : String
  authMethod : AuthMethod
  requestedPermissions : SessionPermissions
  idempotencyKey : String
  deriving DecidableEq

structure SessionActionRequest where
  actorType : String
  actorDeviceId : String
  actorRole : String
  idempotencyKey : String
  reason : Option String
  deriving DecidableEq

structure ConnectionStateRequest where
  actorType : String
  actorDeviceId : String
  actorRole : String
  idempotencyKey : String
  state : SessionStatus
  reason : Option String
  deriving DecidableEq

/-- A body of one of the three kinds. The fields that are required and those that are
denied make the kinds disjoint. -/
inductive SessionBody
  | create (request : CreateSessionRequest)
  | action (request : SessionActionRequest)
  | connectionState (request : ConnectionStateRequest)
  deriving DecidableEq

namespace SessionBody

def create? : SessionBody → Option CreateSessionRequest
  | create request => some request
  | _ => none

def action? : SessionBody → Option SessionActionRequest
  | action request => some request
  | _ => none

def connectionState? : SessionBody → Option ConnectionStateRequest
  | connectionState request => some request
  | _ => none

end SessionBody

/-- The functions of other crates, with `serde_json::from_slice` for the bodies. -/
structure RouteEnv extends Env where
  bodyFromSlice : Bytes → Option SessionBody

/-- `parse_json`: the body is made canonical, and parsed as the kind that is asked for. -/
def parseJson {α : Type} (env : RouteEnv) (kind : SessionBody → Option α) (request : HttpRequest) :
    Except ApiError α := do
  let canonical ← okOr (env.canonicalJsonBytesFromSlice request.body)
    (.badRequest "invalid_payload" "request body must be valid JSON without duplicate object keys"
      request.requestId)
  okOr ((env.bodyFromSlice canonical).bind kind)
    (.badRequest "invalid_payload" "request body must match the documented JSON schema" request.requestId)

structure Draws where
  now : UInt64
  eventAt : UInt64
  auditAt : UInt64
  sessionId : String
  policyEvaluationId : String
  eventId : String
  auditId : String

/-! ### Routing -/

inductive SessionAction
  | accept
  | reject
  | cancel
  | close
  deriving DecidableEq, Repr

/-- The status, the event type, the audit action and the notification of an action. -/
def SessionAction.contract : SessionAction → SessionStatus × String × String × String
  | accept => (.accepted, "invite_accepted", "session_accepted", "session_accept_ack")
  | reject => (.rejected, "invite_rejected", "session_rejected", "session_reject_ack")
  | cancel => (.cancelled, "cancelled", "session_cancelled", "session_cancel_ack")
  | close => (.closed, "closed", "session_ended", "session_close_ack")

inductive SessionRoute
  | create
  | action (action : SessionAction) (sessionId : String)
  | connectionState (sessionId : String)
  deriving DecidableEq

def asciiText (bytes : Bytes) : String := String.ofList (bytes.map fun b => Char.ofNat b.toNat)

/-- The route of a `POST` to a canonical target. The query has no part in it. The identifiers
of sessions have unreserved characters only, which a canonical target does not escape. -/
def sessionRoute (target : Bytes) : Option SessionRoute :=
  match splitAll 0x2f (target.takeWhile (· ≠ 0x3f)) with
  | [root, version, sessions] =>
    if root = [] ∧ version = utf8 "v1" ∧ sessions = utf8 "sessions" then some .create else none
  | [root, version, sessions, id, verb] =>
    if root = [] ∧ version = utf8 "v1" ∧ sessions = utf8 "sessions" then
      if verb = utf8 "accept" then some (.action .accept (asciiText id))
      else if verb = utf8 "reject" then some (.action .reject (asciiText id))
      else if verb = utf8 "cancel" then some (.action .cancel (asciiText id))
      else if verb = utf8 "close" then some (.action .close (asciiText id))
      else if verb = utf8 "connection-state" then some (.connectionState (asciiText id))
      else none
    else none
  | _ => none

/-! ### What identifies a request -/

structure CanonicalRequestBinding where
  digest : String
  bodyHash : String
  target : Bytes
  deriving DecidableEq

def canonicalRequestBinding (env : Env) (accountId deviceId : String) (request : HttpRequest) :
    Except ApiError CanonicalRequestBinding := do
  let bodyHash ← okOr (canonicalRequestBodyHash env request.body request.contentType)
    (.badRequest "invalid_payload" "request body cannot be canonicalized" request.requestId)
  let target ← (canonicalRequestTarget request.target).mapError fun _ =>
    .badRequest "invalid_request_target" "request target cannot be canonicalized" request.requestId
  let canonical ← (canonicalIdempotencyBindingBytes accountId deviceId request.method (asciiText target)
    bodyHash).mapError fun _ => .internal request.requestId
  return ⟨env.sha256Hex canonical, hexEncode bodyHash.toList, target⟩

/-- What the storage key of a request is the hash of. -/
def idempotencyStorageBytes (accountId deviceId method : String) (path : Bytes) (idempotencyKey : String) :
    Bytes :=
  utf8 accountId ++ 0 :: utf8 deviceId ++ 0 :: (utf8 method).map toAsciiUppercase ++ 0 :: path ++
    0 :: utf8 idempotencyKey

def idempotencyStorageKey (env : Env) (accountId deviceId method : String) (path : Bytes)
    (idempotencyKey : String) : String :=
  env.sha256Hex (idempotencyStorageBytes accountId deviceId method path idempotencyKey)

def validateIdempotencyKey (value requestId : String) : Except ApiError Unit :=
  ensure (!(value.isEmpty || decide (128 < (utf8 value).length) || !((utf8 value).all (· < 0x80))))
    (.badRequest "invalid_idempotency_key" "idempotency_key must contain 1 to 128 ASCII characters" requestId)

def validateActor (actorType actorDeviceId signedDeviceId requestId : String) : Except ApiError Unit :=
  ensure (!(actorType != "device" || actorDeviceId != signedDeviceId))
    (.forbidden "actor_mismatch" "actor fields must identify the signed device" requestId)

/-! ### Records -/

def newEvent (env : Env) (session : Session) (eventType : String) (fromStatus : Option SessionStatus)
    (toStatus : SessionStatus) (actorAccountId actorDeviceId : String) (actorRole : SessionRole)
    (reason : Option String) (idempotencyKey requestId : String) (draws : Draws) : SessionEvent :=
  { eventId := draws.eventId
    sessionId := session.sessionId
    eventType := eventType
    fromStatus := fromStatus
    toStatus := toStatus
    actorType := "device"
    actorAccountId := some actorAccountId
    actorDeviceId := some actorDeviceId
    actorRole := some actorRole.asStr
    reason := reason
    idempotencyKeyHash := env.sha256Hex (utf8 idempotencyKey)
    requestId := requestId
    createdAtEpochMillis := draws.eventAt
    resultSession := some session }

def newSessionAudit (requestId accountId actorDeviceId : String) (actorRole : SessionRole) (session : Session)
    (action : String) (reason : Option String) (draws : Draws) : AuditEntry :=
  { auditId := draws.auditId
    actorType := "device"
    actorAccountId := some accountId
    actorDeviceId := some actorDeviceId
    actorRole := some actorRole.asStr
    actorService := none
    targetDeviceId := some session.controlledDeviceId
    sessionId := some session.sessionId
    action := action
    result := "success"
    reason := reason
    metadata := ∅
    requestId := requestId
    createdAtEpochMillis := draws.auditAt }

/-! ### Creating a session -/

def SessionPermissions.toProtocol (p : SessionPermissions) : Rctl.SessionPermissions :=
  { remoteDesktop := p.remoteDesktop, inputControl := p.inputControl, clipboard := p.clipboard,
    fileTransfer := p.fileTransfer, unattended := p.unattended, privacyScreen := p.privacyScreen,
    blockLocalInput := p.blockLocalInput, requirePrompt := p.requirePrompt, allowRelay := p.allowRelay }

/-- The canonical form of the permissions always exists: its names and values are short. -/
def permissionsDigest (env : Env) (p : SessionPermissions) : String :=
  env.sha256Hex (p.toProtocol.canonicalBytes.toOption.getD [])

/-- What is asked of the controlling device and of the pair, before the other device is loaded. -/
def checkController (body : CreateSessionRequest) (controller : Device) (requestId : String) :
    Except ApiError Unit := do
  ensure (!(controller.deviceId != body.controllerDeviceId || !controller.capabilities.controller))
    (.forbidden "controller_not_authorized"
      "the signed device must match controller_device_id and support controller mode" requestId)
  ensure (!(body.controllerDeviceId == body.controlledDeviceId))
    (.badRequest "invalid_session_pair" "controller and controlled devices must be different" requestId)

def checkControlled (accountId : String) (body : CreateSessionRequest) (loaded : Option Device)
    (requestId : String) : Except ApiError Device := do
  let controlled ← okOr loaded
    (.notFound "controlled_device_not_found" "the controlled device does not exist" requestId)
  ensure controlled.status.isAuthorizable
    (.forbidden "controlled_device_inactive" "the target device is suspended, disabled, or unbound" requestId)
  ensure (!(body.authMethod == .accountPrompt && controlled.accountId != accountId))
    (.notFound "controlled_device_not_found" "the controlled device does not exist" requestId)
  ensure controlled.capabilities.controlled
    (.forbidden "controlled_capability_disabled" "the target device does not allow remote control" requestId)
  ensure body.requestedPermissions.remoteDesktop
    (.badRequest "remote_desktop_required" "remote_desktop permission is required for a control session"
      requestId)
  return controlled

/-- The permissions a session starts with; those that would need a policy are refused. -/
def CreateSessionRequest.permissions (body : CreateSessionRequest) : SessionPermissions :=
  { body.requestedPermissions with
    unattended := body.requestedPermissions.unattended && body.authMethod == .unattended
    privacyScreen := false
    blockLocalInput := false
    requirePrompt := body.authMethod != .unattended || body.requestedPermissions.requirePrompt }

def AuthMethod.initialStatus : AuthMethod → SessionStatus
  | accountPrompt => .waitingApproval
  | temporaryCode => .pendingCodeVerification
  | unattended => .pendingUnattendedVerification

def CreateSessionRequest.session (env : Env) (body : CreateSessionRequest) (accountId : String)
    (controller controlled : Device) (draws : Draws) : Session :=
  { sessionId := draws.sessionId
    controllerAccountId := accountId
    controllerDeviceId := controller.deviceId
    controlledDeviceId := controlled.deviceId
    authMethod := body.authMethod
    status := body.authMethod.initialStatus
    permissions := body.permissions
    permissionsDigest := permissionsDigest env body.permissions
    policyEvaluationId := draws.policyEvaluationId
    relayTokenEpoch := 1
    -- five minutes to authorise the session
    sessionExpiresAtEpochMillis := draws.now + 300000
    createdAtEpochMillis := draws.now
    updatedAtEpochMillis := draws.now
    endedAtEpochMillis := none }

def createSessionCommand (env : Env) (accountId : String) (request : HttpRequest) (body : CreateSessionRequest)
    (controller controlled : Device) (draws : Draws) : Except ApiError CreateSessionCommand := do
  let binding ← canonicalRequestBinding env accountId controller.deviceId request
  let session := body.session env accountId controller controlled draws
  return {
    storageKey := idempotencyStorageKey env accountId controller.deviceId request.method binding.target
      body.idempotencyKey
    idempotency := { sessionId := session.sessionId, requestBindingHash := binding.digest }
    session := session
    event := newEvent env session "invite_created" none session.status accountId controller.deviceId .controller
      none body.idempotencyKey request.requestId draws
    policyEvaluation := { policyEvaluationId := session.policyEvaluationId }
    auditEntry := newSessionAudit request.requestId accountId controller.deviceId .controller session
      "session_invited" none draws }

def answerCreation (requestId : String) : Except StoreError CreateSessionOutcome → Except ApiError (Bool × Session)
  | .ok (.created session) => .ok (true, session)
  | .ok (.replayed session) => .ok (false, session)
  | .ok .bindingMismatch => .error (.conflict "idempotency_binding_mismatch"
      "idempotency key was already used with a different signed request" requestId)
  | .error .conflict => .error (.conflict "idempotency_conflict" "idempotency key was used by another request"
      requestId)
  | .error .unavailable => .error (.internal requestId)

/-! ### Moving a session on -/

/-- What `transition_to` is given; of the device that acts it reads the identifier only. -/
structure TransitionPlan where
  accountId : String
  actorDeviceId : String
  actorRole : String
  sessionId : String
  target : SessionStatus
  eventType : String
  auditAction : String
  reason : Option String
  idempotencyKey : String
  requestBindingHash : String
  requestMethod : String
  requestPath : Bytes
  requestId : String
  deriving DecidableEq

/-- `transition_session` of the routes, up to the first access to the repository. -/
def actionPlan (env : RouteEnv) (accountId : String) (request : HttpRequest) (actorDeviceId : String)
    (action : SessionAction) (sessionId : String) : Except ApiError TransitionPlan := do
  let body ← parseJson env SessionBody.action? request
  validateActor body.actorType body.actorDeviceId actorDeviceId request.requestId
  validateIdempotencyKey body.idempotencyKey request.requestId
  ensure (!((action == .reject || action == .cancel || action == .close) && body.reason.all (·.isEmpty)))
    (.badRequest "reason_required" "reject, cancel, and close require a reason" request.requestId)
  let (status, eventType, auditAction, _) := action.contract
  let binding ← canonicalRequestBinding env.toEnv accountId actorDeviceId request
  return {
    accountId := accountId, actorDeviceId := actorDeviceId, actorRole := body.actorRole,
    sessionId := sessionId, target := status, eventType := eventType, auditAction := auditAction,
    reason := body.reason, idempotencyKey := body.idempotencyKey, requestBindingHash := binding.digest,
    requestMethod := request.method, requestPath := binding.target, requestId := request.requestId }

/-- The event type and the audit action of a connection state. -/
def connectionStateContract : SessionStatus → Option (String × String)
  | .connected => some ("connected", "session_connected")
  | .degraded => some ("degraded", "session_degraded")
  | .reconnecting => some ("reconnecting", "session_reconnecting")
  | .failed => some ("failed", "session_failed")
  | _ => none

/-- `connection_state`, up to the first access to the repository. -/
def connectionStatePlan (env : RouteEnv) (accountId : String) (request : HttpRequest)
    (actorDeviceId sessionId : String) : Except ApiError TransitionPlan := do
  let body ← parseJson env SessionBody.connectionState? request
  validateActor body.actorType body.actorDeviceId actorDeviceId request.requestId
  validateIdempotencyKey body.idempotencyKey request.requestId
  let (eventType, auditAction) ← okOr (connectionStateContract body.state)
    (.badRequest "invalid_connection_state"
      "connection state must be connected, degraded, reconnecting, or failed" request.requestId)
  let binding ← canonicalRequestBinding env.toEnv accountId actorDeviceId request
  return {
    accountId := accountId, actorDeviceId := actorDeviceId, actorRole := body.actorRole,
    sessionId := sessionId, target := body.state, eventType := eventType, auditAction := auditAction,
    reason := body.reason, idempotencyKey := body.idempotencyKey, requestBindingHash := binding.digest,
    requestMethod := request.method, requestPath := binding.target, requestId := request.requestId }

def participantRole (db : Database) (session : Session) (accountId deviceId : String) : Option SessionRole :=
  if session.controllerAccountId == accountId && session.controllerDeviceId == deviceId then some .controller
  else match db.devices[session.controlledDeviceId]? with
    | none => none
    | some target =>
      if target.accountId == accountId && target.deviceId == deviceId then some .controlled else none

/-- The moves of a session, by status, role of the actor and whether a prompt is required. -/
def transitionAllowed (fromStatus toStatus : SessionStatus) (actorRole : SessionRole) (requirePrompt : Bool) : Bool :=
  match toStatus with
  | .accepted | .rejected => actorRole == .controlled &&
      (fromStatus == .waitingApproval || fromStatus == .codeVerified || fromStatus == .unattendedVerified)
  | .cancelled => actorRole == .controller &&
      (fromStatus == .pendingCodeVerification || fromStatus == .pendingUnattendedVerification ||
        fromStatus == .codeVerified || fromStatus == .unattendedVerified || fromStatus == .waitingApproval)
  | .closed => fromStatus == .accepted || fromStatus == .connected || fromStatus == .degraded ||
      fromStatus == .reconnecting
  | .connected => fromStatus == .accepted || fromStatus == .degraded || fromStatus == .reconnecting ||
      (fromStatus == .unattendedVerified && !requirePrompt)
  | .degraded => fromStatus == .connected
  | .reconnecting => fromStatus == .connected || fromStatus == .degraded
  | .failed => !(fromStatus == .rejected || fromStatus == .cancelled || fromStatus == .closed ||
      fromStatus == .failed)
  | _ => false

def validateTransition (fromStatus toStatus : SessionStatus) (actorRole : SessionRole) (requirePrompt : Bool)
    (requestId : String) : Except ApiError Unit :=
  ensure (transitionAllowed fromStatus toStatus actorRole requirePrompt)
    (.conflict "invalid_session_transition" "the requested session transition is not allowed" requestId)

def checkRole (plan : TransitionPlan) (role : Option SessionRole) : Except ApiError SessionRole := do
  let expected ← okOr role
    (.forbidden "session_not_authorized" "device is not a session participant" plan.requestId)
  ensure (!(expected.asStr != plan.actorRole))
    (.forbidden "actor_role_mismatch" "actor_role does not match the signed session participant"
      plan.requestId)
  return expected

def TransitionPlan.validation (plan : TransitionPlan) (session : Session) (role : SessionRole) :
    Except ApiError Unit :=
  validateTransition session.status plan.target role session.permissions.requirePrompt plan.requestId

def TransitionPlan.moved (plan : TransitionPlan) (session : Session) (now : UInt64) : Session :=
  { session with
    status := plan.target
    updatedAtEpochMillis := now
    endedAtEpochMillis := if plan.target.isTerminal then some now else session.endedAtEpochMillis
    relayTokenEpoch :=
      if plan.target.isTerminal then saturatingAdd session.relayTokenEpoch 1 else session.relayTokenEpoch }

def transitionCommand (env : Env) (plan : TransitionPlan) (session : Session) (role : SessionRole)
    (draws : Draws) : TransitionSessionCommand :=
  let moved := plan.moved session draws.now
  { storageKey := idempotencyStorageKey env plan.accountId plan.actorDeviceId plan.requestMethod
      plan.requestPath plan.idempotencyKey
    expectedStatus := session.status
    applyAllowed := (plan.validation session role).isOk
    idempotency := { sessionId := plan.sessionId, requestBindingHash := plan.requestBindingHash }
    session := moved
    event := newEvent env moved plan.eventType (some session.status) plan.target plan.accountId
      plan.actorDeviceId role plan.reason plan.idempotencyKey plan.requestId draws
    auditEntry := newSessionAudit plan.requestId plan.accountId plan.actorDeviceId role moved plan.auditAction
      plan.reason draws }

def answerTransition (requestId : String) (validation : Except ApiError Unit) :
    Except StoreError TransitionSessionOutcome → Except ApiError (Session × String)
  | .ok (.applied session eventId) | .ok (.replayed session eventId) => .ok (session, eventId)
  | .ok .bindingMismatch => .error (.conflict "idempotency_binding_mismatch"
      "idempotency key was already used with a different signed request" requestId)
  | .ok .invalidTransition => match validation with
    | .error e => .error e
    -- the source expects an error here
    | .ok _ => .error (.internal requestId)
  | .ok .stateConflict | .error .conflict =>
    .error (.conflict "session_state_conflict" "session state changed concurrently" requestId)
  | .ok .notFound => .error (.notFound "session_not_found" "session was not found" requestId)
  | .error .unavailable => .error (.internal requestId)

end Rctl.Api
