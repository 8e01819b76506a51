/-
# No open session on a dead device

Disabling or unbinding a device and revoking its key close its open sessions in the same
step. The route that creates a session has looked at both devices before, but the
repository inserts the session without looking again: a device that is disabled in
between ends up with an open session (`session_on_disabled_device`). The PostgreSQL
repository makes the check once more in the transaction that inserts the session. Where
both devices still are what the route took them for, the repository in memory keeps to
the rule as well (`open_sessions_on_live_devices`).
-/
import Rctl.Api.DeviceRevocation
import Rctl.Api.SessionLifecycle

namespace Rctl.Api

open ByteString Result OrdMap StateRun

/-- The device is authorizable and its key is not revoked. -/
def Database.deviceAlive (db : Database) (deviceId : String) : Bool :=
  db.devices[deviceId]?.any fun device =>
    device.status.isAuthorizable && device.publicKeyRevokedAtEpochMillis.isNone

def OpenOnAlive (db : Database) : Prop :=
  ∀ (id : String) (s : Session), db.sessions[id]? = some s → s.status.isTerminal = false →
    db.deviceAlive s.controllerDeviceId = true ∧ db.deviceAlive s.controlledDeviceId = true

def Database.bothAuthorizable (db : Database) (session : Session) : Bool :=
  (db.devices[session.controllerDeviceId]?.any (·.status.isAuthorizable)) &&
    (db.devices[session.controlledDeviceId]?.any (·.status.isAuthorizable))

/-- A session that the repository is given and inserts is between authorizable devices. -/
def InsertsOnAlive (env : RouteEnv) (e : ServerEntry) : Prop :=
  ∀ command, sessionCall env e.pre e.call = some (.createSession command) →
    (createSession e.pre.database command).1 = .ok (.created command.session) →
    e.pre.database.bothAuthorizable command.session = true

section Alive

variable {env : Env} {db db' : Database} {call : Call} {r : Response} {deviceId : String} {d : Device}

theorem deviceAlive_iff : db.deviceAlive deviceId = true ↔ ∃ d, db.devices[deviceId]? = some d ∧
    d.status.isAuthorizable = true ∧ d.publicKeyRevokedAtEpochMillis = none := by
  simp only [Database.deviceAlive, Option.any_eq_true, Bool.and_eq_true, Option.isNone_iff_eq_none]

theorem Device.Settled.alive (h : d.Settled) (ha : d.status.isAuthorizable = true) :
    d.publicKeyRevokedAtEpochMillis = none := by
  by_contra hr
  rcases h.revoked hr with hs | hs <;> rw [hs] at ha <;> cases ha

/-- A living device that is changed without being tightened stays alive. -/
theorem applyDeviceManagement_alive {cmd : DeviceManagementCommand}
    (hal : deviceManagementTransitionAllowed d cmd = true) (hl : cmd.tightening = false)
    (ha : d.status.isAuthorizable = true) (hu : d.publicKeyRevokedAtEpochMillis = none) :
    (applyDeviceManagement cmd d).status.isAuthorizable = true ∧
      (applyDeviceManagement cmd d).publicKeyRevokedAtEpochMillis = none := by
  obtain ⟨hs, hr, -⟩ := applyDeviceManagement_authority cmd d
  rw [hs, hr]
  cases hac : cmd.action with
  | none => exact ⟨ha, hu⟩
  | some act =>
    cases act with
    | restore =>
      have hd := (action_allowed hal hac).1
      rw [hd] at ha
      cases ha
    | disable | unbind | revokePublicKey =>
      rw [DeviceManagementCommand.tightening, hac] at hl
      cases hl

/-- **A living device stays alive, or has no open session any more.** -/
theorem Effect.alive_or_closed (h : Effect env db call r db') (hky : RemoteKeyed db)
    (hai : db.deviceAlive deviceId = true) : db'.deviceAlive deviceId = true ∨
      ∀ (id : String) (s : Session), db'.sessions[id]? = some s → s.openOn deviceId = false := by
  obtain ⟨d, hd, ha, hu⟩ := deviceAlive_iff.mp hai
  have hst := h.deviceStep deviceId
  rw [hd] at hst
  generalize hpo : db'.devices[deviceId]? = post at hst
  cases hst with
  | keep => exact .inl (deviceAlive_iff.mpr ⟨d, hpo, ha, hu⟩)
  | rotate =>
    exact .inl (deviceAlive_iff.mpr ⟨_, hpo, ha, rfl⟩)
  | manage cmd _ hc hid hac hal =>
    subst hc hid
    cases ht : cmd.tightening with
    | false =>
      obtain ⟨ha', hu'⟩ :=
        applyDeviceManagement_alive hal ht ha hu
      exact .inl (deviceAlive_iff.mpr ⟨_, hpo, ha', hu'⟩)
    | true =>
      cases h with
      | none => exact .inl hai
      | deviceManaged _ target closing more _ _ _ hco hmr =>
        refine .inr fun id s hs => ?_
        obtain ⟨s₀, _, rfl⟩ := (management_forcedClose hky ht hco hmr).session_of hs
        split_ifs with hcl
        · exact Session.closedAt_openOn _ _ _
        · exact Bool.not_eq_true _ ▸ hcl

end Alive

section Steps

variable {env : RouteEnv} {act : ServerAction} {srv srv' : Server} {reply : ServerReply}

theorem ServerChange.openOnAlive (h : ServerChange env act srv reply srv') (hI : ServerInv srv)
    (hs : DevicesSettled srv.database) (hop : OpenOnAlive srv.database)
    (hi : InsertsOnAlive env ⟨srv, act, reply, srv'⟩) : OpenOnAlive srv'.database := by
  intro id s' hs' ht
  obtain ⟨new, _, hmo⟩ := h.sessionMove hI id
  rw [hs'] at hmo
  -- the two devices were alive before the step
  have ha : srv.database.deviceAlive s'.controllerDeviceId = true ∧
      srv.database.deviceAlive s'.controlledDeviceId = true := by
    generalize hp : srv.database.sessions[id]? = pre at hmo
    generalize hpo : some s' = post at hmo
    cases hmo with
    | keep => exact hop id s' (hp.trans hpo.symm) ht
    | created command hcl _ hin =>
      cases hpo
      have hbt := hi command hcl hin
      simp only [Database.bothAuthorizable, Bool.and_eq_true, Option.any_eq_true] at hbt
      obtain ⟨⟨d, hd, hd'⟩, ⟨c, hc, hc'⟩⟩ := hbt
      exact ⟨deviceAlive_iff.mpr ⟨d, hd, hd', (hs _ d hd).alive hd'⟩,
        deviceAlive_iff.mpr ⟨c, hc, hc', (hs _ c hc).alive hc'⟩⟩
    | moved _ _ current _ _ _ _ _ _ hap =>
      cases hpo
      rw [hap.moved.same.controllerDeviceId, hap.moved.same.controlledDeviceId]
      exact hop id current hp (validation_open hap.allowed)
    | forced => cases hpo; cases ht
  cases h with
  | waits hda =>
    rw [hda]
    exact ha
  | calls call _ hst =>
    have he := step_effect env.toEnv srv.database call
    rw [hst] at he
    have hsi : ∀ deviceId, srv.database.deviceAlive deviceId = true → s'.openOn deviceId = true →
        srv'.database.deviceAlive deviceId = true := by
      intro deviceId ha hon
      rcases he.alive_or_closed hI.keyed ha with h | h
      · exact h
      · rw [h id s' hs'] at hon
        cases hon
    refine ⟨hsi _ ha.1 ?_, hsi _ ha.2 ?_⟩ <;> simp [Session.openOn, ht]

theorem ServerChange.devicesSettled (h : ServerChange env act srv reply srv')
    (hs : DevicesSettled srv.database) : DevicesSettled srv'.database := by
  exact h.keeps (fun _ _ _ he => he.devicesSettled hs) hs

/-- **No open session on a dead device**, in every interleaving in which a session is
inserted while both its devices are authorizable. -/
theorem open_sessions_on_live_devices (env : RouteEnv) (db : Database) (hsettled : DevicesSettled db)
    (actions : List ServerAction)
    (hinserts : ∀ e ∈ trace (serverStep env) (Server.start db) actions, InsertsOnAlive env e) :
    ∀ e ∈ trace (serverStep env) (Server.start db) actions, OpenOnAlive e.post.database := by
  intro e he
  have ht : OpenOnAlive (Server.start db).database := fun id s hs => by
    simp [Server.start, Database.withoutSessions] at hs
  have hst : ∀ srv act, InsertsOnAlive env (entry (serverStep env) srv act) →
      ServerInv srv ∧ DevicesSettled srv.database ∧ OpenOnAlive srv.database →
      ServerInv (serverStep env srv act).2 ∧ DevicesSettled (serverStep env srv act).2.database ∧
        OpenOnAlive (serverStep env srv act).2.database := by
    rintro srv act ha ⟨hI, hsettled, hop⟩
    have hch := serverStep_change env srv act
    exact ⟨hch.inv hI, hch.devicesSettled hsettled, hch.openOnAlive hI hsettled hop ha⟩
  obtain ⟨_, _, _, _, hpo⟩ := forall_trace_of (serverStep env) hst actions
    ⟨serverInv_start db, hsettled, ht⟩ hinserts e he
  exact hpo

end Steps

/-! ### A device disabled in between -/

/-- The text read as a number modulo a prime, in 32 bytes. -/
def sampleDigest (bytes : Bytes) : Digest :=
  let number := bytes.foldl (fun n b => (257 * n + b.toNat + 1) % (2 ^ 255 - 19)) 0
  ⟨((List.range 32).map fun i => UInt8.ofNat (number / 256 ^ i)).toArray, by simp⟩

/-- A digest is the number of the text; a body is found by its first byte. -/
def sampleRoutes (bodies : List SessionBody) : RouteEnv :=
  { sampleEnv with
    sha256 := sampleDigest
    bodyFromSlice := fun bytes => bytes.head?.bind fun b => bodies[b.toNat]? }

def sampleDraws (now : UInt64) (name : String) : Draws :=
  { now := now, eventAt := now, auditAt := now, sessionId := "session", policyEvaluationId := "policy",
    eventId := name ++ "-event", auditId := name ++ "-audit" }

def samplePermissions : SessionPermissions :=
  { remoteDesktop := true, inputControl := true, clipboard := false, fileTransfer := false,
    unattended := false, privacyScreen := false, blockLocalInput := false, requirePrompt := true,
    allowRelay := false }

def sampleInvite : CreateSessionRequest :=
  { controllerDeviceId := "device", controlledDeviceId := "target", authMethod := .accountPrompt,
    requestedPermissions := samplePermissions, idempotencyKey := "key" }

def samplePost (device target nonce : String) (body : UInt8) : RequestContext :=
  { accountId := "account"
    request :=
      { method := "POST", target := target,
        headers := [("x-rctl-device-id", device), ("x-rctl-timestamp", "1000"), ("x-rctl-api-nonce", nonce),
          ("x-rctl-device-signature", String.ofList (List.replicate 64 's'))]
        body := [body], requestId := "request" } }

def twoDevices : Database :=
  { sampleDatabase with
    devices := sampleDatabase.devices.insert "target"
      { sampleDevice with deviceId := "target", publicKeyId := "target-key" } }

/-- An invitation that is accepted by the route. -/
def inviteActions : List ServerAction :=
  [.receive (samplePost "device" "/v1/sessions" "nonce" 0) 1000, .resume 0 (sampleDraws 1000 "create"),
    .resume 0 (sampleDraws 1000 "create"), .resume 0 (sampleDraws 1000 "create")]

theorem twoDevices_settled : DevicesSettled twoDevices := by
  have hs : ∀ d : Device, d.status = .online → d.publicKeyRevokedAtEpochMillis = none → d.Settled :=
    fun d hss hu => ⟨fun h => absurd hu h, fun h => by rw [hss] at h; cases h⟩
  intro id d hd
  rcases of_get_insert hd with ⟨-, rfl⟩ | hd
  · exact hs _ rfl rfl
  · rcases of_get_insert hd with ⟨-, rfl⟩ | hd
    · exact hs _ rfl rfl
    · simp at hd

/-- Its device is disabled after the route has looked at it and before the session is inserted. -/
def disableInBetween : List ServerAction :=
  inviteActions ++ [.call ⟨.manageDevice (sampleManagement "disabled" .disable 1001), rfl⟩,
    .resume 0 (sampleDraws 1002 "create")]

theorem session_on_disabled_device :
    DevicesSettled twoDevices ∧
      ¬ ∀ e ∈ trace (serverStep (sampleRoutes [.create sampleInvite])) (Server.start twoDevices)
        disableInBetween, OpenOnAlive e.post.database := by
  refine ⟨twoDevices_settled, fun h => ?_⟩
  have hl : ∃ e ∈ trace (serverStep (sampleRoutes [.create sampleInvite])) (Server.start twoDevices)
      disableInBetween, (e.post.database.sessions["session"]?.map fun s =>
        (s.status.isTerminal, e.post.database.deviceAlive s.controllerDeviceId)) = some (false, false) := by
    decide +kernel
  obtain ⟨e, he, hs⟩ := hl
  obtain ⟨s, hs, hd⟩ := Option.map_eq_some_iff.mp hs
  rw [Prod.mk.injEq] at hd
  rw [(h e he "session" s hs hd.1).1] at hd
  cases hd.2

/-- A session that the step inserts is between devices that are authorizable before it. -/
def createsOnAuthorizable (env : RouteEnv) (e : ServerEntry) : Bool :=
  match sessionCall env e.pre e.call with
  | some (.createSession command) => e.pre.database.bothAuthorizable command.session
  | _ => true

theorem open_sessions_on_live_devices_invite :
    (∀ e ∈ trace (serverStep (sampleRoutes [.create sampleInvite])) (Server.start twoDevices)
      (inviteActions ++ [.resume 0 (sampleDraws 1001 "create")]), OpenOnAlive e.post.database) ∧
      (final (serverStep (sampleRoutes [.create sampleInvite])) (Server.start twoDevices)
        (inviteActions ++ [.resume 0 (sampleDraws 1001 "create")])).database.sessions["session"]?.map
          (·.status) = some .waitingApproval := by
  refine ⟨open_sessions_on_live_devices _ twoDevices twoDevices_settled _ fun e he cmd hc _ => ?_, by decide +kernel⟩
  have hall : ∀ e ∈ trace (serverStep (sampleRoutes [.create sampleInvite])) (Server.start twoDevices)
      (inviteActions ++ [.resume 0 (sampleDraws 1001 "create")]),
      createsOnAuthorizable (sampleRoutes [.create sampleInvite]) e = true := by
    decide +kernel
  have ha := hall e he
  rw [createsOnAuthorizable, hc] at ha
  exact ha

end Rctl.Api
