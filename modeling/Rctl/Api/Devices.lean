/-
# Managing devices and rotating their keys

`manage_device` renames, disables, restores or unbinds a device or revokes its key;
`rotate_device_key` replaces the key against a step-up challenge. Both close the remote
sessions of the device by force and revoke its trust.
-/
import Rctl.Api.Challenge
import Rctl.Api.Sessions

namespace Rctl.Api

open ByteString Result OrdMap

section Devices

variable (env : Env)

/-! ### Closing remote sessions by force -/

def SessionEvent.forcedClose (session : Session) (fromStatus : SessionStatus) (sourceAudit : AuditEntry)
    (reason : String) : SessionEvent :=
  let binding := "rctl-forced-session-close-v1\x00" ++ sourceAudit.auditId ++ "\x00" ++ session.sessionId
  { eventId := env.sha256Hex (utf8 ("event\x00" ++ binding))
    sessionId := session.sessionId
    eventType := "closed"
    fromStatus := some fromStatus
    toStatus := .closed
    actorType := "system"
    actorAccountId := none
    actorDeviceId := none
    actorRole := none
    reason := some reason
    idempotencyKeyHash := env.sha256Hex (utf8 ("idempotency\x00" ++ binding))
    requestId := sourceAudit.requestId
    createdAtEpochMillis := sourceAudit.createdAtEpochMillis
    resultSession := some session }

def AuditEntry.forcedClose (session : Session) (sourceAudit : AuditEntry) (reason : String) :
    AuditEntry :=
  let binding := "rctl-forced-session-close-v1\x00" ++ sourceAudit.auditId ++ "\x00" ++ session.sessionId
  { auditId := env.sha256Hex (utf8 ("audit\x00" ++ binding))
    actorType := "system"
    actorAccountId := none
    actorDeviceId := none
    actorRole := none
    actorService := none
    targetDeviceId := sourceAudit.targetDeviceId
    sessionId := some session.sessionId
    action := "session_ended"
    result := "success"
    reason := some reason
    metadata := (∅ : Table JsonValue).insert "trigger_action" (.string sourceAudit.action)
    requestId := sourceAudit.requestId
    createdAtEpochMillis := sourceAudit.createdAtEpochMillis }

def forcedSessionCloseRecords (session : Session) (fromStatus : SessionStatus) (sourceAudit : AuditEntry)
    (reason : String) : SessionEvent × AuditEntry :=
  (.forcedClose env session fromStatus sourceAudit reason, .forcedClose env session sourceAudit reason)

def Session.forceClosed (session : Session) (epoch now : UInt64) : Session :=
  { session with
    relayTokenEpoch := epoch
    status := .closed
    endedAtEpochMillis := some now
    updatedAtEpochMillis :=
      if session.updatedAtEpochMillis < now then now else session.updatedAtEpochMillis }

def checkedSucc (epoch : UInt64) : Option UInt64 :=
  if epoch.toNat + 1 < 2 ^ 64 then some (epoch + 1) else none

def Session.openOn (deviceId : String) (session : Session) : Bool :=
  !session.status.isTerminal &&
    (session.controllerDeviceId == deviceId || session.controlledDeviceId == deviceId)

structure Closing where
  sessions : Table Session
  events : List SessionEvent
  audits : List AuditEntry

def Closing.add (c : Closing) (id : String) (session : Session) (epoch now : UInt64)
    (sourceAudit : AuditEntry) (reason : String) : Closing :=
  let closed := session.forceClosed epoch now
  let records := forcedSessionCloseRecords env closed session.status sourceAudit reason
  { sessions := c.sessions.insert id closed
    events := c.events ++ [records.1]
    audits := c.audits ++ [records.2] }

/-- The loop of `rotate_device_key`; the epochs were computed before. -/
def closeRotated (sourceAudit : AuditEntry) (now : UInt64) : List (String × UInt64) → Closing → Closing
  | [], c => c
  | (id, epoch) :: rest, c =>
    match c.sessions[id]? with
    | none => closeRotated sourceAudit now rest c
    | some session =>
      closeRotated sourceAudit now rest (c.add env id session epoch now sourceAudit "device_key_rotated")

/-- The loop of `manage_device`. -/
def closeAffected (sourceAudit : AuditEntry) (now : UInt64) (reason : Option String) :
    List String → Closing → Except StoreError Closing
  | [], c => .ok c
  | id :: rest, c => do
    let session ← okOr c.sessions[id]? .unavailable
    let epoch ← okOr (checkedSucc session.relayTokenEpoch) .conflict
    let reason' ← okOr reason .unavailable
    closeAffected sourceAudit now reason rest (c.add env id session epoch now sourceAudit reason')

/-- The new entries have distinct identifiers that the log does not have. -/
def Database.auditsNew (db : Database) (audits : List AuditEntry) : Bool :=
  decide (audits.map (·.auditId)).Nodup && !(audits.any fun audit => db.hasAudit audit.auditId)

/-! ### Rotating a key -/

def AuditEntry.extend (audit : AuditEntry) (fields : List (String × JsonValue)) : AuditEntry :=
  { audit with metadata := fields.foldl (fun t f => t.insert f.1 f.2) audit.metadata }

def deviceKeyRotationAuthorityAudit (rotation : DeviceKeyRotation) (current : Device) :
    Except StoreError AuditEntry := do
  let source := rotation.auditEntry
  let stepUp := rotation.stepUp
  ensure (!(isBlank source.auditId) &&
    source.actorType == "device" &&
    source.actorAccountId == some stepUp.accountId &&
    source.actorDeviceId == some stepUp.deviceId &&
    source.targetDeviceId == some stepUp.deviceId &&
    source.action == "device_public_key_rotated" &&
    source.result == "success" &&
    source.createdAtEpochMillis == stepUp.nowEpochMillis &&
    current.accountId == stepUp.accountId &&
    current.deviceId == stepUp.deviceId &&
    current.publicKeyId == rotation.currentPublicKeyId &&
    current.publicKeyVersion == rotation.currentPublicKeyVersion) .conflict
  return source.extend
    [("old_public_key_id", .string current.publicKeyId),
     ("old_public_key_version", .ofUInt64 current.publicKeyVersion.toUInt64),
     ("old_public_key_fingerprint", .string (env.sha256Hex current.publicKey.toList)),
     ("new_public_key_id", .string rotation.newPublicKeyId),
     ("new_public_key_version", .ofUInt64 rotation.newPublicKeyVersion.toUInt64),
     ("new_public_key_fingerprint", .string (env.sha256Hex rotation.newPublicKey.toList)),
     ("revoked_at_epoch_millis", .ofUInt64 stepUp.nowEpochMillis),
     ("rotation_reason", .string "user_requested"),
     ("step_up_challenge_id", .string stepUp.challengeId)]

def rotationAllowed (db : Database) (rotation : DeviceKeyRotation) (current : Device) : Bool :=
  current.accountId == rotation.stepUp.accountId &&
    current.publicKeyId == rotation.currentPublicKeyId &&
    current.publicKeyVersion == rotation.currentPublicKeyVersion &&
    current.publicKeyRevokedAtEpochMillis.isNone &&
    current.publicKey != rotation.newPublicKey &&
    decide (current.publicKeyVersion.toNat + 1 = rotation.newPublicKeyVersion.toNat) &&
    rotation.newPublicKeyId != rotation.currentPublicKeyId &&
    !(anyValue db.devices fun device => device.publicKeyId == rotation.newPublicKeyId &&
      device.deviceId != rotation.stepUp.deviceId)

/-- The sessions to close with their next epochs, by session identifier. -/
def affectedEpochs (db : Database) (deviceId : String) : Except StoreError (List (String × UInt64)) := do
  let epochs ← (db.sessions.values.filter (·.openOn deviceId)).mapM fun session =>
    (okOr (checkedSucc session.relayTokenEpoch) StoreError.conflict).map fun epoch =>
      (session.sessionId, epoch)
  return epochs.mergeSort fun left right => (compare left.1 right.1).isLE

def TrustedControllerDevice.underKey (accountId deviceId : String) (fingerprint : Digest)
    (t : TrustedControllerDevice) : Bool :=
  t.accountId == accountId && t.controllerDeviceId == deviceId &&
    constantTimeSha256Eq t.deviceFingerprintHash fingerprint

def Device.rotateKey (rotation : DeviceKeyRotation) (device : Device) : Device :=
  { device with
    publicKeyId := rotation.newPublicKeyId
    publicKey := rotation.newPublicKey
    publicKeyVersion := rotation.newPublicKeyVersion
    publicKeyRevokedAtEpochMillis := none
    updatedAtEpochMillis := rotation.stepUp.nowEpochMillis }

def newKeyRecord (rotation : DeviceKeyRotation) : DevicePublicKeyRecord :=
  { publicKeyId := rotation.newPublicKeyId
    deviceId := rotation.stepUp.deviceId
    publicKey := rotation.newPublicKey
    version := rotation.newPublicKeyVersion
    createdAtEpochMillis := rotation.stepUp.nowEpochMillis
    revokedAtEpochMillis := none }

/-- Challenge consumed, keys and device changed, trust under the old key revoked. -/
def Database.rotateKey (db : Database) (rotation : DeviceKeyRotation) (oldFingerprint : Digest) :
    Database :=
  let stepUp := rotation.stepUp
  let revokedKeys := db.devicePublicKeys.modify rotation.currentPublicKeyId
    fun key => { key with revokedAtEpochMillis := some stepUp.nowEpochMillis }
  { db.modifyChallenge stepUp.challengeId (RiskChallenge.consumeAt stepUp.nowEpochMillis) with
    devicePublicKeys := revokedKeys.insert rotation.newPublicKeyId (newKeyRecord rotation)
    trustedControllerDevices := revokeTrusted
      (·.underKey stepUp.accountId stepUp.deviceId oldFingerprint) stepUp.nowEpochMillis
      db.trustedControllerDevices
    devices := db.devices.modify stepUp.deviceId (·.rotateKey rotation) }

def Database.closeSessions (db : Database) (closing : Closing) (audits : List AuditEntry) : Database :=
  { db with
    sessions := closing.sessions
    sessionEvents := db.sessionEvents ++ closing.events
    auditLogs := db.auditLogs ++ audits }

def rotateDeviceKey (db : Database) (rotation : DeviceKeyRotation) : Reply DeviceAuthorityChange :=
  merge do
    let stepUp := rotation.stepUp
    ensure (stepUpMatches db stepUp && stepUp.purpose == "device_key_rotation") (.error .conflict, db)
    let current ← okOr db.devices[stepUp.deviceId]? (.error .conflict, db)
    ensure (rotationAllowed db rotation current) (.error .conflict, db)
    let oldFingerprint := env.sha256 current.publicKey.toList
    let epochs ← orFail db (affectedEpochs db stepUp.deviceId)
    let rotationAudit ← orFail db (deviceKeyRotationAuthorityAudit env rotation current)
    let trustAudits := (db.trustedControllerDevices.values.filter fun t =>
      t.underKey stepUp.accountId stepUp.deviceId oldFingerprint && t.status == .active).map fun t =>
        trustedDeviceRevocationAudit rotationAudit t.trustedDeviceId t.controllerDeviceId
          "device_key_rotated"
    let _ ← orFail db (consumeStepUpInDatabase db stepUp)
    let closing := closeRotated env rotationAudit stepUp.nowEpochMillis epochs ⟨db.sessions, [], []⟩
    let audits := closing.audits ++ trustAudits ++ [rotationAudit]
    ensure (db.auditsNew audits) (.error .conflict, db)
    return (.ok ⟨current.rotateKey rotation, closing.events⟩,
      (db.rotateKey rotation oldFingerprint).closeSessions closing audits)

/-! ### Managing a device -/

def deviceManagementTransitionAllowed (target : Device) (command : DeviceManagementCommand) : Bool :=
  if command.displayName.isSome && command.action.isSome then false
  else
    match command.action with
    | none => command.displayName.isSome && target.status != .unbound
    | some .disable => target.status.isAuthorizable
    | some .restore => target.status == .disabled && target.publicKeyRevokedAtEpochMillis.isNone
    | some .unbind => target.status != .unbound
    | some .revokePublicKey => target.status != .unbound && target.publicKeyRevokedAtEpochMillis.isNone

def Device.restrict (target : Device) (status : DeviceLifecycleStatus) (revokedAt : Option UInt64) : Device :=
  let capabilities := { target.capabilities with controlled := false, unattended := false }
  { target with
    status := status
    capabilities := capabilities
    publicKeyRevokedAtEpochMillis := revokedAt }

def Device.applyAction (target : Device) (now : UInt64) : Option DeviceManagementAction → Device
  | none => target
  | some .disable => target.restrict .disabled target.publicKeyRevokedAtEpochMillis
  | some .restore => target.restrict .offline target.publicKeyRevokedAtEpochMillis
  | some .unbind => target.restrict .unbound (some now)
  | some .revokePublicKey => target.restrict .disabled (some now)

def applyDeviceManagement (command : DeviceManagementCommand) (target : Device) : Device :=
  let renamed := { target with displayName := command.displayName.getD target.displayName }
  let changed := renamed.applyAction command.nowEpochMillis command.action
  { changed with
    updatedAtEpochMillis := if changed.updatedAtEpochMillis < command.nowEpochMillis
      then command.nowEpochMillis else changed.updatedAtEpochMillis }

theorem applyDeviceManagement_owner (command : DeviceManagementCommand) (target : Device) :
    (applyDeviceManagement command target).accountId = target.accountId ∧
      (applyDeviceManagement command target).deviceId = target.deviceId := by
  unfold applyDeviceManagement
  rcases command.action with _ | act
  · exact ⟨rfl, rfl⟩
  · cases act <;> exact ⟨rfl, rfl⟩

def deviceManagementSessionCloseReason : DeviceManagementAction → Option String
  | .disable => some "device_disabled"
  | .unbind => some "device_unbound"
  | .revokePublicKey => some "device_public_key_revoked"
  | .restore => none

def deviceManagementRevokesAccountSessions : DeviceManagementAction → Bool
  | .unbind | .revokePublicKey => true
  | _ => false

/-- The action takes authority away from the device. -/
def DeviceManagementCommand.tightening (command : DeviceManagementCommand) : Bool :=
  match command.action with
  | some .disable | some .unbind | some .revokePublicKey => true
  | _ => false

def DeviceManagementCommand.revokesSessions (command : DeviceManagementCommand) : Bool :=
  command.action.any deviceManagementRevokesAccountSessions

def affectedSessionsHash (sessionIds : List String) : Except StoreError String :=
  (okOr (env.jsonToVec sessionIds) .unavailable).map env.sha256Hex

def sortIds (ids : List String) : List String := ids.mergeSort fun a b => (compare a b).isLE

def devicePublicKeyRevocationSnapshot (target : Device) (affectedSessionIds : List String)
    (revokedAt : UInt64) (revocationReason : String) : Except StoreError (List (String × JsonValue)) := do
  let hash ← affectedSessionsHash env (sortIds affectedSessionIds)
  return [("old_public_key_id", .string target.publicKeyId),
    ("old_public_key_version", .ofUInt64 target.publicKeyVersion.toUInt64),
    ("old_public_key_fingerprint", .string (env.sha256Hex target.publicKey.toList)),
    ("revoked_at_epoch_millis", .ofUInt64 revokedAt),
    ("revocation_reason", .string revocationReason),
    ("affected_session_ids_hash", .string hash)]

def deviceManagementAudit (command : DeviceManagementCommand) (affectedSessionIds : List String) :
    Except StoreError AuditEntry :=
  if command.action = some .revokePublicKey then do
    let hash ← affectedSessionsHash env affectedSessionIds
    return command.auditEntry.extend [("affected_session_ids_hash", .string hash)]
  else .ok command.auditEntry

def expectedManagementAction : Option DeviceManagementAction → String
  | none | some .disable | some .restore => "device_status_changed"
  | some .unbind => "device_unregistered"
  | some .revokePublicKey => "device_public_key_revoked"

def managementAuditValid (command : DeviceManagementCommand) (target : Device) : Bool :=
  let audit := command.auditEntry
  !(isBlank audit.auditId) &&
    audit.actorType == "device" &&
    audit.actorAccountId == some command.accountId &&
    audit.actorDeviceId == some command.actorDeviceId &&
    audit.targetDeviceId == some command.targetDeviceId &&
    audit.action == expectedManagementAction command.action &&
    audit.result == "success" &&
    audit.createdAtEpochMillis == command.nowEpochMillis &&
    target.accountId == command.accountId &&
    target.deviceId == command.targetDeviceId &&
    target.publicKeyId == command.expectedTargetPublicKeyId &&
    target.publicKeyVersion == command.expectedTargetPublicKeyVersion

/-- The second audit entry of an unbinding, for the key. -/
def unboundKeyAudit (primary : AuditEntry) (snapshot : List (String × JsonValue)) : AuditEntry :=
  let bare := { primary with
    auditId := primary.auditId ++ ":public-key"
    action := "device_public_key_revoked"
    reason := some "device_unbound"
    metadata := ∅ }
  bare.extend snapshot

def deviceManagementAuthorityAudits (command : DeviceManagementCommand) (target : Device)
    (affectedSessionIds : List String) : Except StoreError (List AuditEntry) := do
  ensure (managementAuditValid command target) .conflict
  let primary ← deviceManagementAudit env command affectedSessionIds
  match command.action with
  | some .revokePublicKey => do
    let snapshot ← devicePublicKeyRevocationSnapshot env target affectedSessionIds
      command.nowEpochMillis "user_requested"
    return [primary.extend snapshot]
  | some .unbind => do
    let snapshot ← devicePublicKeyRevocationSnapshot env target affectedSessionIds
      command.nowEpochMillis "device_unbound"
    return [primary, unboundKeyAudit primary snapshot]
  | _ => return [primary]

def actorValid (db : Database) (command : DeviceManagementCommand) : Bool :=
  db.devices[command.actorDeviceId]?.any fun actor =>
    actor.accountId == command.accountId && actor.publicKeyId == command.actorPublicKeyId &&
      actor.publicKeyVersion == command.actorPublicKeyVersion &&
      actor.publicKeyRevokedAtEpochMillis.isNone && actor.status.isAuthorizable

def TrustedControllerDevice.ofDevice (accountId deviceId : String) (t : TrustedControllerDevice) : Bool :=
  t.accountId == accountId && t.controllerDeviceId == deviceId

/-- The audit entries of the trust and the account sessions an action revokes. -/
def managementRevocationAudits (db : Database) (command : DeviceManagementCommand)
    (source : AuditEntry) : List AuditEntry :=
  (match command.action.bind deviceManagementSessionCloseReason with
    | none => []
    | some reason => (db.trustedControllerDevices.values.filter fun t =>
        t.ofDevice command.accountId command.targetDeviceId && t.status == .active).map fun t =>
          trustedDeviceRevocationAudit source t.trustedDeviceId t.controllerDeviceId reason) ++
  (if command.revokesSessions then
    (db.accountSessions.values.filter (·.liveFor command.accountId)).map fun session =>
      accountSessionRevocationAudit source session.accountSessionId "device_unbound"
  else [])

/-- The key record of the device marked with the revocation of the device, if there is one. -/
def revokeKeyRecord (keys : Table DevicePublicKeyRecord) (device : Device) :
    Table DevicePublicKeyRecord :=
  match device.publicKeyRevokedAtEpochMillis with
  | none => keys
  | some revokedAt =>
    keys.modify device.publicKeyId fun key => { key with revokedAtEpochMillis := some revokedAt }

/-- The device changed, its trust and where needed the account's sessions revoked. -/
def Database.manage (db : Database) (command : DeviceManagementCommand) (target : Device) : Database :=
  { db with
    trustedControllerDevices :=
      if command.tightening then
        revokeTrusted (·.ofDevice command.accountId command.targetDeviceId) command.nowEpochMillis
          db.trustedControllerDevices
      else db.trustedControllerDevices
    accountSessions :=
      if command.revokesSessions then
        revokeSessions command.accountId command.nowEpochMillis "device_unbound" db.accountSessions
      else db.accountSessions
    devices := db.devices.modify command.targetDeviceId (applyDeviceManagement command)
    devicePublicKeys := revokeKeyRecord db.devicePublicKeys (applyDeviceManagement command target) }

def affectedSessions (db : Database) (command : DeviceManagementCommand) : List String :=
  sortIds ((db.sessions.values.filter fun session =>
    command.tightening && session.openOn command.targetDeviceId).map (·.sessionId))

def manageDevice (db : Database) (command : DeviceManagementCommand) : Reply DeviceManagementOutcome :=
  merge do
    ensure (actorValid db command) (.error .conflict, db)
    let target ← okOr db.devices[command.targetDeviceId]? (.ok .notFound, db)
    ensure (target.accountId == command.accountId &&
      target.publicKeyId == command.expectedTargetPublicKeyId &&
      target.publicKeyVersion == command.expectedTargetPublicKeyVersion) (.error .conflict, db)
    ensure (deviceManagementTransitionAllowed target command) (.ok .invalidTransition, db)
    let affected := affectedSessions db command
    let authorityAudits ← orFail db (deviceManagementAuthorityAudits env command target affected)
    let authorityAudit ← okOr authorityAudits.head? (.error .unavailable, db)
    let closing ← orFail db (closeAffected env command.auditEntry command.nowEpochMillis
      (command.action.bind deviceManagementSessionCloseReason) affected ⟨db.sessions, [], []⟩)
    let audits := closing.audits ++ managementRevocationAudits db command authorityAudit ++ authorityAudits
    ensure (db.auditsNew audits) (.error .conflict, db)
    return (.ok (.updated ⟨applyDeviceManagement command target, closing.events⟩),
      (db.manage command target).closeSessions closing audits)

end Devices

/-! ### Audit entries

Only a forced close is audited as the end of a session; the entries of the operation
itself and of the trust and the sessions it revokes have other actions. -/

theorem trustedDeviceRevocationAudit_action (source : AuditEntry) (trustedId deviceId reason : String) :
    (trustedDeviceRevocationAudit source trustedId deviceId reason).action ≠ "session_ended" := by
  show "trusted_device_revoked" ≠ "session_ended"
  decide

variable {audit : AuditEntry} {command : DeviceManagementCommand}

theorem deviceKeyRotationAuthorityAudit_action {env : Env} {rotation : DeviceKeyRotation} {cur : Device}
    (h : deviceKeyRotationAuthorityAudit env rotation cur = .ok audit) :
    audit.action = "device_public_key_rotated" := by
  simp only [deviceKeyRotationAuthorityAudit, bind_eq_ok, ensure_eq_ok, pure_eq_ok, Bool.and_eq_true, beq_iff_eq] at h
  obtain ⟨_, ⟨⟨⟨⟨⟨⟨⟨_, hac⟩, _⟩, _⟩, _⟩, _⟩, _⟩, _⟩, rfl⟩ := h
  exact hac

theorem managementRevocationAudits_action {db : Database} {source : AuditEntry}
    (h : audit ∈ managementRevocationAudits db command source) : audit.action ≠ "session_ended" := by
  rcases List.mem_append.mp h with h | h
  · split at h
    · cases h
    · obtain ⟨t, _, rfl⟩ := List.mem_map.mp h
      exact trustedDeviceRevocationAudit_action _ _ _ _
  · split at h
    · obtain ⟨s, _, rfl⟩ := List.mem_map.mp h
      show "account_session_revoked" ≠ "session_ended"
      decide
    · cases h

theorem expectedManagementAction_ne (act : Option DeviceManagementAction) :
    expectedManagementAction act ≠ "session_ended" := by
  rcases act with _ | act
  · decide
  · cases act <;> decide

theorem deviceManagementAuthorityAudits_action {env : Env} {target : Device} {affected : List String}
    {audits : List AuditEntry}
    (h : deviceManagementAuthorityAudits env command target affected = .ok audits) (hm : audit ∈ audits) :
    audit.action ≠ "session_ended" := by
  simp only [deviceManagementAuthorityAudits, bind_eq_ok, ensure_eq_ok] at h
  obtain ⟨_, hv, primary, hp, h⟩ := h
  have hac : primary.action ≠ "session_ended" := by
    have hs : primary.action = command.auditEntry.action := by
      unfold deviceManagementAudit at hp
      split at hp
      · simp only [bind_eq_ok, pure_eq_ok] at hp
        obtain ⟨_, _, rfl⟩ := hp
        rfl
      · cases hp
        rfl
    simp only [managementAuditValid, Bool.and_eq_true, beq_iff_eq] at hv
    rw [hs, hv.1.1.1.1.1.1.2]
    exact expectedManagementAction_ne _
  split at h
  · simp only [bind_eq_ok, pure_eq_ok] at h
    obtain ⟨_, _, rfl⟩ := h
    rw [List.mem_singleton.mp hm]
    exact hac
  · simp only [bind_eq_ok, pure_eq_ok] at h
    obtain ⟨_, _, rfl⟩ := h
    rcases List.mem_cons.mp hm with rfl | hm
    · exact hac
    · rw [List.mem_singleton.mp hm]
      show "device_public_key_revoked" ≠ "session_ended"
      decide
  · cases h
    rw [List.mem_singleton.mp hm]
    exact hac

end Rctl.Api
