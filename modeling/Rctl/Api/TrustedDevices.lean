/-
# Trusted devices are backed by live ones

An active trusted device stands in for a second factor, so it must vouch for a device
that may still act: one of the same account, authorizable, with the key whose
fingerprint the record holds. The records and the devices are separate tables, written
by separate operations; what keeps them in step is that each operation that takes a
device's authority or its key away revokes the records of that device, and that each
operation that adds a record has just checked the device.

Rotating a key revokes only the records under the old key's fingerprint. That these are
all the active ones of the device is the invariant itself.
-/
import Rctl.Api.Authority

namespace Rctl.Api

open ByteString Result OrdMap StateRun

structure Device.Backs (env : Env) (t : TrustedControllerDevice) (device : Device) : Prop where
  account : device.accountId = t.accountId
  authorizable : device.status.isAuthorizable = true
  unrevoked : device.publicKeyRevokedAtEpochMillis = none
  fingerprint : env.sha256 device.publicKey.toList = t.deviceFingerprintHash

/-- Every active record is backed by its device, and is the only one of its account and device. -/
structure TrustInv (env : Env) (devices : Table Device) (trusted : Table TrustedControllerDevice) :
    Prop where
  backed : ∀ (id : String) (t : TrustedControllerDevice), trusted[id]? = some t → t.status = .active →
    ∃ device, devices[t.controllerDeviceId]? = some device ∧ device.Backs env t
  unique : ∀ (id id' : String) (t t' : TrustedControllerDevice), trusted[id]? = some t →
    trusted[id']? = some t' → t.status = .active → t'.status = .active → t.accountId = t'.accountId →
    t.controllerDeviceId = t'.controllerDeviceId → id = id'

/-! ### Records that lose their trust -/

/-- What is active after was active before, for the same account, device and key. -/
def TrustWeakens (pre post : Option TrustedControllerDevice) : Prop :=
  ∀ t', post = some t' → t'.status = .active → ∃ t, pre = some t ∧ t.status = .active ∧
    t.accountId = t'.accountId ∧ t.controllerDeviceId = t'.controllerDeviceId ∧
    t.deviceFingerprintHash = t'.deviceFingerprintHash

variable {env : Env} {t : TrustedControllerDevice} {id : String}

section Weakening

variable {devices devices' : Table Device} {trusted trusted' : Table TrustedControllerDevice}

theorem TrustWeakens.refl (o : Option TrustedControllerDevice) : TrustWeakens o o :=
  fun t ht ha => ⟨t, ht, ha, rfl, rfl, rfl⟩

theorem TrustWeakens.of_modify {f : TrustedControllerDevice → TrustedControllerDevice} {key : String}
    (hf : ∀ t, (f t).status = .active → t.status = .active)
    (hs : ∀ t, t.accountId = (f t).accountId ∧ t.controllerDeviceId = (f t).controllerDeviceId ∧
      t.deviceFingerprintHash = (f t).deviceFingerprintHash) (id : String) :
    TrustWeakens trusted[id]? (trusted.modify key f)[id]? := by
  refine rel_modify id (.refl _) fun _ t ht => ?_
  rw [ht]
  rintro _ ⟨⟩ ha
  exact ⟨t, rfl, hf t ha, hs t⟩

/-- What is still active after a revocation was not meant by it. -/
theorem active_of_revokeTrusted {p : TrustedControllerDevice → Bool} {now : UInt64}
    (ht : (revokeTrusted p now trusted)[id]? = some t) (ha : t.status = .active) :
    trusted[id]? = some t ∧ p t = false := by
  rw [revokeTrusted, get_mapValues, Option.map_eq_some_iff] at ht
  obtain ⟨t₀, ht₀, heq⟩ := ht
  by_cases hp : (p t₀ && t₀.status == .active) = true
  · rw [if_pos hp] at heq
    rw [← heq] at ha
    cases ha
  · rw [if_neg hp] at heq
    subst heq
    rw [ha, beq_self_eq_true, Bool.and_true, Bool.not_eq_true] at hp
    exact ⟨ht₀, hp⟩

theorem TrustWeakens.of_revoke (p : TrustedControllerDevice → Bool) (now : UInt64) (id : String) :
    TrustWeakens trusted[id]? (revokeTrusted p now trusted)[id]? :=
  fun t ht ha => ⟨t, (active_of_revokeTrusted ht ha).1, ha, rfl, rfl, rfl⟩

section

variable (h : TrustInv env devices trusted)
include h

theorem TrustInv.weaken (hweak : ∀ id : String, TrustWeakens trusted[id]? trusted'[id]?) :
    TrustInv env devices trusted' := by
  constructor
  · intro id t' ht' ha'
    obtain ⟨t, ht, ha, haccount, hdv, hfp⟩ := hweak id t' ht' ha'
    obtain ⟨device, hg, hbk⟩ := h.backed id t ht ha
    rw [hdv] at hg
    exact ⟨device, hg, hbk.account.trans haccount, hbk.authorizable, hbk.unrevoked, hbk.fingerprint.trans hfp⟩
  · intro id id' t t' ht ht' ha ha' haccount hdv
    obtain ⟨u, hu, huactive, huaccount, hudevice, _⟩ := hweak id t ht ha
    obtain ⟨u', hu', huactive', huaccount', hudevice', _⟩ := hweak id' t' ht' ha'
    exact h.unique id id' u u' hu hu' huactive huactive' (huaccount.trans (haccount.trans huaccount'.symm))
      (hudevice.trans (hdv.trans hudevice'.symm))

/-- A record is added where its device backs it and has no other. -/
theorem TrustInv.insert {key : String} {device : Device} (hg : devices[t.controllerDeviceId]? = some device)
    (hbk : device.Backs env t)
    (hf : ∀ (id : String) (t' : TrustedControllerDevice), trusted[id]? = some t' → t'.status = .active →
      t'.accountId = t.accountId → t'.controllerDeviceId ≠ t.controllerDeviceId) :
    TrustInv env devices (trusted.insert key t) := by
  constructor
  · intro id t' ht' ha
    rcases of_get_insert ht' with ⟨-, rfl⟩ | ht'
    · exact ⟨device, hg, hbk⟩
    · exact h.backed id t' ht' ha
  · intro id id' u u' hu hu' ha ha' haccount hdv
    rcases of_get_insert hu with ⟨hid, rfl⟩ | hd <;> rcases of_get_insert hu' with ⟨hid', rfl⟩ | hd'
    · exact hid.symm.trans hid'
    · exact absurd hdv.symm (hf id' u' hd' ha' haccount.symm)
    · exact absurd hdv (hf id u hd ha haccount)
    · exact h.unique id id' u u' hd hd' ha ha' haccount hdv

/-- The devices may change as long as those with an active record go on backing it. -/
theorem TrustInv.of_devices
    (hk : ∀ (id : String) (t : TrustedControllerDevice), trusted[id]? = some t → t.status = .active →
      ∀ device, devices[t.controllerDeviceId]? = some device → device.Backs env t →
        ∃ device', devices'[t.controllerDeviceId]? = some device' ∧ device'.Backs env t) :
    TrustInv env devices' trusted := by
  refine ⟨fun id t ht ha => ?_, h.unique⟩
  obtain ⟨device, hg, hbk⟩ := h.backed id t ht ha
  exact hk id t ht ha device hg hbk

end

end Weakening

/-! ### Each operation -/

section Operations

variable {db db' : Database} {call : Call} {r : Response} {cmd : DeviceManagementCommand}
  {ch : RiskChallenge} {ctx : LoginChallengeContext} {cur : Device} {rotation : DeviceKeyRotation}
  {target : Device}

theorem ActionDone.trustWeakens {e : StepUpExpectation} {act : StepUpAction} {challengeId : String}
    {f : RiskChallenge → RiskChallenge} (h : ActionDone (db.modifyChallenge challengeId f) e act db')
    (id : String) : TrustWeakens db.trustedControllerDevices[id]? db'.trustedControllerDevices[id]? := by
  cases h with
  | rotated => exact .refl _
  | disabled | passwordChanged => exact .of_revoke _ _ id
  | trustRevoked =>
    refine .of_modify (fun t ha => ?_) (fun t => ?_) id
    · cases ha
    · exact ⟨rfl, rfl, rfl⟩

theorem Authenticated.trustWeakens {cmd : LoginFinishCommand} {a : Database}
    (h : Authenticated env db cmd a) (id : String) :
    TrustWeakens db.trustedControllerDevices[id]? a.trustedControllerDevices[id]? := by
  cases h with
  | password => exact .refl _
  | trusted =>
    refine .of_modify (fun t ha => ?_) (fun t => ?_) id
    · exact ha
    · exact ⟨rfl, rfl, rfl⟩
  | factor _ _ _ _ _ _ _ hu =>
    obtain ⟨_, _, rfl⟩ := hu.same
    exact .refl _

/-- A login that brings a record has a registered device, whose key it has checked. -/
theorem LoginAuthorized.device_backs {cmd : LoginFinishCommand}
    (h : LoginAuthorized env db cmd ch ctx) (ht : cmd.trustedDeviceToCreate = some t)
    (haccount : t.accountId = cmd.accountId)
    (hfp : t.deviceFingerprintHash = cmd.devicePublicKeyFingerprint) :
    ∃ device, db.devices[cmd.deviceId]? = some device ∧ device.Backs env t := by
  have hsh := h.shape
  simp only [validateLoginFinishCommandShape, ensure_eq_ok, Bool.and_eq_true] at hsh
  have he := hsh.2
  have hr : cmd.persistentDeviceId.isSome = true := by
    unfold LoginFinishCommand.enrollmentShapeValid at he
    split at he <;> simp_all
  rcases h.device with hdv | hdv
  · simp only [registeredDeviceValid, Bool.and_eq_true, Option.any_eq_true, beq_iff_eq,
      Option.isNone_iff_eq_none, constantTimeSha256Eq_iff] at hdv
    obtain ⟨-, device, hg, ⟨⟨⟨⟨hd, ha⟩, hu⟩, -⟩, -⟩, hk⟩ := hdv
    exact ⟨device, hg, hd.trans haccount.symm, ha, hu, hk.trans hfp.symm⟩
  · simp only [pendingDeviceValid, Bool.and_eq_true, Option.isNone_iff_eq_none] at hdv
    rw [hdv.1.1.1] at hr
    cases hr

/-- An action that takes no authority away does not touch a device that has some. -/
theorem applyDeviceManagement_backs (hal : deviceManagementTransitionAllowed target cmd = true)
    (ht : cmd.tightening = false) (h : target.Backs env t) :
    (applyDeviceManagement cmd target).Backs env t := by
  unfold deviceManagementTransitionAllowed at hal
  unfold DeviceManagementCommand.tightening at ht
  unfold applyDeviceManagement
  cases hac : cmd.action with
  | none => exact ⟨h.account, h.authorizable, h.unrevoked, h.fingerprint⟩
  | some act =>
    rw [hac] at hal ht
    cases act with
    | restore =>
      have ha := h.authorizable
      split at hal
      · cases hal
      · rw [Bool.and_eq_true, beq_iff_eq] at hal
        rw [hal.1] at ha
        cases ha
    | disable | unbind | revokePublicKey => cases ht

section Kept

variable (hdb : TrustInv env db.devices db.trustedControllerDevices)
include hdb

theorem login_trustInv {cmd : LoginFinishCommand} {a g c : Database}
    (haz : LoginAuthorized env db cmd ch ctx) (hau : Authenticated env db cmd a)
    (hgrant : GrantStored a cmd g) (htr : TrustedStored g cmd c) :
    TrustInv env db.devices c.trustedControllerDevices := by
  have ha : TrustInv env db.devices a.trustedControllerDevices := hdb.weaken hau.trustWeakens
  have hg : g.trustedControllerDevices = a.trustedControllerDevices := by cases hgrant <;> rfl
  cases htr with
  | none => rw [hg]; exact ha
  | stored _ _ hso _ haccount hdv hfp =>
    obtain ⟨device, hget, hbk⟩ := haz.device_backs hso haccount hfp
    rw [← hdv] at hget
    rw [hg]
    -- the records of the device that were active have just been revoked
    refine (ha.weaken (.of_revoke _ _)).insert hget hbk fun id t' ht' hactive ha' hd' => ?_
    have hp := (active_of_revokeTrusted ht' hactive).2
    rw [ha', haccount, hd', hdv, beq_self_eq_true, beq_self_eq_true] at hp
    cases hp

/-- A new device has no records, and the one a registration adds is under its key. -/
theorem registration_trustInv {cmd : DeviceRegistrationCommand} {grant : DeviceEnrollmentGrant}
    {trustedId : Option String} {trusted : Database}
    (hv : validateDeviceRegistrationAuthority env db cmd grant = .ok ())
    (hac : grantAccepted env db cmd grant = true) (hdv : db.devices[cmd.device.deviceId]? = none)
    (htr : TrustAdded (db.storeDevice cmd trustedId) cmd grant trusted) :
    TrustInv env trusted.devices trusted.trustedControllerDevices := by
  have hno : ∀ (id : String) (t : TrustedControllerDevice), db.trustedControllerDevices[id]? = some t →
      t.status = .active → t.controllerDeviceId ≠ cmd.device.deviceId := by
    intro id t ht ha heq
    obtain ⟨device, hg, _⟩ := hdb.backed id t ht ha
    rw [heq, hdv] at hg
    cases hg
  have hs : TrustInv env (db.devices.insert cmd.device.deviceId cmd.device) db.trustedControllerDevices := by
    refine hdb.of_devices fun id t ht ha device hg hbk => ⟨device, ?_, hbk⟩
    rw [get_insert, if_neg fun heq => hno id t ht ha heq.symm, hg]
  cases htr with
  | none => exact hs
  | added _ t _ _ _ haccount hct hfp =>
    have hg : (db.devices.insert cmd.device.deviceId cmd.device)[t.controllerDeviceId]? = some cmd.device := by
      rw [hct, get_insert, if_pos rfl]
    have hbk : cmd.device.Backs env t := by
      have hsh := hv
      simp only [validateDeviceRegistrationAuthority, bind_eq_ok, ensure_eq_ok,
        DeviceRegistrationCommand.shapeValid, Bool.and_eq_true, beq_iff_eq] at hsh
      simp only [grantAccepted, Bool.and_eq_true, constantTimeSha256Eq_iff] at hac
      have hnewDevice := device_new hv
      refine ⟨?_, ?_, hnewDevice.unrevoked, ?_⟩
      · obtain ⟨_, h, _⟩ := hsh
        exact h.1.1.1.1.1.1.1.1.1.1.1.1.1.2.trans haccount.symm
      · rw [hnewDevice.offline]
        rfl
      · exact hac.1.1.2.symm.trans hfp.symm
    refine hs.insert hg hbk fun id t' ht' ha' _ => ?_
    rw [hct]
    exact hno id t' ht' ha'

section

variable (hc : db.devices[rotation.stepUp.deviceId]? = some cur)
include hc

section

variable (haccount : cur.accountId = rotation.stepUp.accountId)
include haccount

/-- The records under the old key are all the active ones of the device. -/
theorem rotation_no_trust
    (ht : (db.rotateKey rotation (env.sha256 cur.publicKey.toList)).trustedControllerDevices[id]? = some t)
    (ha : t.status = .active) : t.controllerDeviceId ≠ rotation.stepUp.deviceId := by
  intro hdv
  obtain ⟨hd, hp⟩ := active_of_revokeTrusted ht ha
  obtain ⟨device, hg, hbk⟩ := hdb.backed id t hd ha
  rw [hdv, hc] at hg
  cases hg
  rw [TrustedControllerDevice.underKey, ← hbk.account, hdv, haccount, beq_self_eq_true,
    beq_self_eq_true, Bool.true_and, Bool.true_and, ← Bool.not_eq_true, constantTimeSha256Eq_iff] at hp
  exact hp hbk.fingerprint.symm

theorem rotation_trustInv :
    TrustInv env (db.rotateKey rotation (env.sha256 cur.publicKey.toList)).devices
      (db.rotateKey rotation (env.sha256 cur.publicKey.toList)).trustedControllerDevices := by
  refine (hdb.weaken (.of_revoke _ _)).of_devices fun id t ht ha device hg hbk =>
    ⟨device, ?_, hbk⟩
  have hne := rotation_no_trust hdb hc haccount ht ha
  exact (get_modify _ _ _ _).trans ((if_neg hne.symm).trans hg)

end

end

section

variable (htgt : db.devices[cmd.targetDeviceId]? = some target)
include htgt

theorem management_no_trust (haccount : target.accountId = cmd.accountId)
    (htightening : cmd.tightening = true) (ht : (db.manage cmd target).trustedControllerDevices[id]? = some t)
    (ha : t.status = .active) : t.controllerDeviceId ≠ cmd.targetDeviceId := by
  intro hdv
  unfold Database.manage at ht
  rw [htightening] at ht
  obtain ⟨hd, hp⟩ := active_of_revokeTrusted ht ha
  obtain ⟨device, hg, hbk⟩ := hdb.backed id t hd ha
  rw [hdv, htgt] at hg
  cases hg
  rw [TrustedControllerDevice.ofDevice, ← hbk.account, hdv, haccount, beq_self_eq_true, beq_self_eq_true] at hp
  cases hp

theorem management_trustInv (haccount : target.accountId = cmd.accountId)
    (hal : deviceManagementTransitionAllowed target cmd = true) :
    TrustInv env (db.manage cmd target).devices (db.manage cmd target).trustedControllerDevices := by
  have hweak : TrustInv env db.devices (db.manage cmd target).trustedControllerDevices := by
    show TrustInv env db.devices (if cmd.tightening then _ else _ : Table TrustedControllerDevice)
    split
    · exact hdb.weaken (.of_revoke _ _)
    · exact hdb
  refine hweak.of_devices fun id t ht ha device hg hbk => ?_
  by_cases hid : cmd.targetDeviceId = t.controllerDeviceId
  · have hl : cmd.tightening = false := by
      by_contra hti
      rw [Bool.not_eq_false] at hti
      exact management_no_trust hdb htgt haccount hti ht ha hid.symm
    rw [← hid, htgt] at hg
    cases hg
    refine ⟨applyDeviceManagement cmd target, ?_, applyDeviceManagement_backs hal hl hbk⟩
    refine (get_modify _ _ _ _).trans ((if_pos hid).trans ?_)
    rw [← hid, htgt]
    rfl
  · exact ⟨device, (get_modify _ _ _ _).trans ((if_neg hid).trans hg), hbk⟩

end

end Kept

/-- **Every call keeps the active records backed.** -/
theorem Effect.trustInv (h : Effect env db call r db') (hdb : TrustInv env db.devices db.trustedControllerDevices) :
    TrustInv env db'.devices db'.trustedControllerDevices := by
  cases h with
  | factorUsed _ _ _ _ _ _ hu | factorJudged _ _ _ _ _ _ _ _ _ _ hu
  | verificationJudged _ _ _ _ _ _ _ _ hu =>
    obtain ⟨_, _, rfl⟩ := hu.same
    exact hdb
  | stepUpApplied _ _ _ db' _ _ hdn =>
    have hd : db'.devices = db.devices := by cases hdn <;> rfl
    rw [hd]
    exact hdb.weaken hdn.trustWeakens
  | enrolled => exact hdb.weaken (.of_revoke _ _)
  | loginTrustRefused =>
    unfold Database.expireTrusted
    split
    · refine hdb.weaken (.of_modify (fun t ha => ?_) fun _ => ⟨rfl, rfl, rfl⟩)
      cases ha
    · exact hdb
  | loginCompleted cmd _ _ _ _ c haz hau _ hg htr =>
    have hd : (c.completeLogin cmd).devices = db.devices := by
      rw [completeLogin_eq hg htr]
      exact (congrArg Database.devices hau.frame :)
    rw [hd]
    have hI := login_trustInv hdb haz hau hg htr
    exact hI
  | deviceRegistered _ _ _ _ _ _ hv haccepted _ _ hdv htr =>
    have hI := registration_trustInv hdb hv haccepted hdv htr
    exact hI
  | keyRotated _ _ _ _ _ _ _ _ hc hal =>
    simp only [rotationAllowed, Bool.and_eq_true, beq_iff_eq] at hal
    exact rotation_trustInv hdb hc hal.1.1.1.1.1.1.1
  | deviceManaged _ _ _ _ htgt haccount hal =>
    exact management_trustInv hdb htgt haccount hal
  | _ => exact hdb

end Operations

theorem trustInv_empty (env : Env) (devices : Table Device) : TrustInv env devices ∅ :=
  ⟨fun id t ht => by simp at ht, fun id id' t t' ht => by simp at ht⟩

/-! ### Runs -/

structure TrustKept (env : Env) (db : Database) (calls : List Call) : Prop where
  /-- After every call the active records are backed, one for an account and a device. -/
  inv : ∀ e ∈ trace (step env) db calls, TrustInv env e.post.devices e.post.trustedControllerDevices
  /-- A record that is not active at some point stays as it is from there on. -/
  ended : ∀ before after, calls = before ++ after → ∀ (id : String) (t : TrustedControllerDevice),
    (final (step env) db before).trustedControllerDevices[id]? = some t → t.status ≠ .active →
    ∀ e ∈ trace (step env) (final (step env) db before) after,
      ∃ t', e.post.trustedControllerDevices[id]? = some t' ∧ t'.status = t.status

/-- **Trusted devices are backed by live devices.** From every state in which they are,
in every run: each active record is that of a device of its account that is authorizable
and holds the unrevoked key of the record's fingerprint, no account has two active
records for a device, and no record becomes active again. -/
theorem trusted_devices_backed (env : Env) (db : Database)
    (hdb : TrustInv env db.devices db.trustedControllerDevices) (calls : List Call) :
    TrustKept env db calls := by
  refine ⟨fun e he => ?_, fun before after _ id t ht hne e he => ?_⟩
  · exact (inv_of_mem he Effect.trustInv hdb).2
  · have hs := inv_of_mem he (I := fun db => ∃ t', db.trustedControllerDevices[id]? = some t' ∧ t'.status = t.status)
      (fun h ⟨t', ht', hss⟩ => by
        obtain ⟨t'', ht'', hss'⟩ := h.trustStays id t' ht'
        exact ⟨t'', ht'', (hss' (hss ▸ hne)).trans hss⟩) ⟨t, ht, rfl⟩
    exact hs.2

/-! ### A run -/

def sampleTrust : TrustedControllerDevice :=
  { trustedDeviceId := "trust", accountId := "account", controllerDeviceId := "device",
    deviceFingerprintHash := sampleEnv.sha256 (sampleDevice.publicKey.toList), trustLevel := "standard",
    status := .active, trustProofType := "device_signature_and_mfa", createdAtEpochMillis := 0,
    lastUsedAtEpochMillis := none, expiresAtEpochMillis := 90000, revokedAtEpochMillis := none }

def trustedDatabase : Database :=
  { sampleDatabase with
    trustedControllerDevices := (∅ : Table TrustedControllerDevice).insert "trust" sampleTrust }

/-- The device changed by itself. -/
def sampleManagement (auditId : String) (action : DeviceManagementAction) (now : UInt64) :
    DeviceManagementCommand :=
  { accountId := "account", actorDeviceId := "device", actorPublicKeyId := "key", actorPublicKeyVersion := 1,
    targetDeviceId := "device", expectedTargetPublicKeyId := "key", expectedTargetPublicKeyVersion := 1,
    displayName := none, action := some action, nowEpochMillis := now,
    auditEntry :=
      { sampleAudit auditId (expectedManagementAction (some action)) "success" now with
        actorType := "device", actorDeviceId := some "device", targetDeviceId := some "device" } }

theorem trusted_devices_backed_disable :
    TrustInv sampleEnv trustedDatabase.devices trustedDatabase.trustedControllerDevices ∧
      TrustKept sampleEnv trustedDatabase [.manageDevice (sampleManagement "disabled" .disable 10)] ∧
      (final (step sampleEnv) trustedDatabase
        [.manageDevice (sampleManagement "disabled" .disable 10)]).trustedControllerDevices["trust"]?.map
          (·.status) = some .revoked := by
  have hI : TrustInv sampleEnv trustedDatabase.devices trustedDatabase.trustedControllerDevices := by
    have hbk : sampleDevice.Backs sampleEnv sampleTrust := ⟨rfl, rfl, rfl, rfl⟩
    refine (trustInv_empty sampleEnv sampleDatabase.devices).insert ?_ hbk fun id t' ht' => by simp at ht'
    exact (get_insert _ _ _ _).trans (if_pos rfl)
  exact ⟨hI, trusted_devices_backed sampleEnv trustedDatabase hI _, by decide +kernel⟩

end Rctl.Api
