/-
# Step-up actions and the enrolment of a second factor

`apply_step_up_action` consumes a verified challenge and rotates recovery codes,
disables a factor, changes the password or revokes a trusted device;
`finish_totp_enrollment` stores a first factor with its recovery codes. Disabling a
factor, changing the password and enrolling one advance the account's `updated_at` and
revoke all its sessions and trusted devices.
-/
import Rctl.Api.Challenge
import Rctl.Api.Sessions

namespace Rctl.Api

open ByteString Result OrdMap

/-! ### The security epoch of an account -/

/-- `n.saturating_add(1).max(now)`. -/
def nextEpoch (n now : UInt64) : UInt64 :=
  if saturatingAdd n 1 < now then now else saturatingAdd n 1

theorem toNat_saturatingAdd_one (n : UInt64) : (saturatingAdd n 1).toNat = min (n.toNat + 1) (2 ^ 64 - 1) := by
  have ho : (1 : UInt64).toNat = 1 := rfl
  unfold saturatingAdd
  split
  · rw [UInt64.toNat_add]
    omega
  · have hx : (UInt64.ofNat (2 ^ 64 - 1)).toNat = 2 ^ 64 - 1 := by decide
    omega

theorem saturatingAdd_le_nextEpoch (n now : UInt64) : (saturatingAdd n 1).toNat ≤ (nextEpoch n now).toNat := by
  unfold nextEpoch
  split_ifs with h
  · exact Nat.le_of_lt (UInt64.lt_iff_toNat_lt.mp h)
  · exact Nat.le_refl _

theorem le_nextEpoch (n now : UInt64) : n ≤ nextEpoch n now := by
  have h := saturatingAdd_le_nextEpoch n now
  have hn := n.toNat_lt
  rw [toNat_saturatingAdd_one] at h
  rw [UInt64.le_iff_toNat_le]
  omega

/-- An epoch below the end of the range grows, whatever the clock says. -/
theorem lt_nextEpoch {n : UInt64} (now : UInt64) (hn : n.toNat < 2 ^ 64 - 1) : n < nextEpoch n now := by
  have h := saturatingAdd_le_nextEpoch n now
  rw [toNat_saturatingAdd_one] at h
  rw [UInt64.lt_iff_toNat_lt]
  omega

def Account.advance (now : UInt64) (account : Account) : Account :=
  { account with updatedAtEpochMillis := nextEpoch account.updatedAtEpochMillis now }

def Account.changePassword (passwordHash : String) (now : UInt64) (account : Account) : Account :=
  { account with passwordHash := passwordHash
                 updatedAtEpochMillis := nextEpoch account.updatedAtEpochMillis now }

def advanceAccountSecurityEpoch (db : Database) (accountId : String) (now : UInt64) :
    Except StoreError Database := do
  let _ ← okOr db.accounts[accountId]? .conflict
  return { db with accounts := db.accounts.modify accountId (·.advance now) }

/-- Every session and trusted device of the account revoked, with an audit entry for each. -/
def revokeAuthority (db : Database) (accountId : String) (now : UInt64) (reason : String)
    (source : AuditEntry) : Except StoreError Database := do
  let audits := authorityRevocationAudits db accountId reason source
  ensure (!(audits.any fun audit => db.hasAudit audit.auditId)) .conflict
  return Database.pushAudits
    { db with
      accountSessions := revokeSessions accountId now reason db.accountSessions
      trustedControllerDevices :=
        revokeTrusted (·.accountId == accountId) now db.trustedControllerDevices } audits

/-! ### Step-up actions -/

def insertCodes (codes : Table RecoveryCode) (records : List RecoveryCode) : Table RecoveryCode :=
  records.foldl (fun t record => t.insert record.recoveryCodeId record) codes

def StepUpAction.allowed (db : Database) (e : StepUpExpectation) : StepUpAction → Bool
  | rotateRecoveryCodes records _ =>
    e.purpose == "recovery_code_rotate" && !records.isEmpty &&
      records.all fun record => record.accountId == e.accountId
  | disableMfaFactor factorId _ =>
    e.purpose == "mfa_factor_change" &&
      db.mfaFactors[factorId]?.any fun factor => factor.accountId == e.accountId && factor.active
  | changePassword expectedPasswordHash newPasswordHash _ =>
    e.purpose == "password_change" && newPasswordHash != "" && newPasswordHash != expectedPasswordHash &&
      db.accounts[e.accountId]?.any fun account =>
        account.status == .active && account.passwordHash == expectedPasswordHash
  | revokeTrustedDevice trustedDeviceId _ =>
    e.purpose == "trusted_device_change" &&
      db.trustedControllerDevices[trustedDeviceId]?.any fun trusted =>
        trusted.accountId == e.accountId && trusted.status == .active

/-- The factor removed, and with the last active one the recovery codes of the account. -/
def Database.removeFactor (db : Database) (factorId accountId : String) : Database :=
  { db with
    mfaFactors := db.mfaFactors.erase factorId
    recoveryCodes :=
      if anyValue (db.mfaFactors.erase factorId) (·.activeFor accountId) then db.recoveryCodes
      else retain db.recoveryCodes (·.accountId != accountId) }

def StepUpAction.perform (db : Database) (e : StepUpExpectation) : StepUpAction → Except StoreError Database
  | rotateRecoveryCodes records _ =>
    .ok { db with recoveryCodes :=
            insertCodes (retain db.recoveryCodes (·.accountId != e.accountId)) records }
  | disableMfaFactor factorId _ =>
    advanceAccountSecurityEpoch (db.removeFactor factorId e.accountId) e.accountId e.nowEpochMillis
  | changePassword _ newPasswordHash _ => do
    let _ ← okOr db.accounts[e.accountId]? .conflict
    return { db with accounts :=
               db.accounts.modify e.accountId (·.changePassword newPasswordHash e.nowEpochMillis) }
  | revokeTrustedDevice trustedDeviceId _ => do
    let _ ← okOr db.trustedControllerDevices[trustedDeviceId]? .conflict
    return { db with trustedControllerDevices :=
               db.trustedControllerDevices.modify trustedDeviceId (·.revoke e.nowEpochMillis) }

def StepUpAction.revokedReason : StepUpAction → Option String
  | disableMfaFactor .. => some "mfa_disabled"
  | changePassword .. => some "password_changed"
  | _ => none

def StepUpAction.revoke (db : Database) (e : StepUpExpectation) (action : StepUpAction) :
    Except StoreError Database :=
  match action.revokedReason with
  | none => .ok db
  | some reason => revokeAuthority db e.accountId e.nowEpochMillis reason action.auditEntry

def applyStepUpActionInDatabase (db : Database) (e : StepUpExpectation) (action : StepUpAction) :
    Except StoreError Database := do
  ensure (stepUpMatches db e) .conflict
  ensure (db.deviceAuthorized e.deviceId e.accountId) .conflict
  ensure (!(db.hasAudit action.auditEntry.auditId) &&
    action.auditEntry.actorAccountId == some e.accountId) .conflict
  ensure (action.allowed db e) .conflict
  let consumed ← consumeStepUpInDatabase db e
  let performed ← action.perform consumed e
  let revoked ← action.revoke performed e
  return revoked.pushAudits [action.auditEntry]

def applyStepUpAction (db : Database) (e : StepUpExpectation) (action : StepUpAction) : Reply Unit :=
  merge do
    let db' ← orFail db (applyStepUpActionInDatabase db e action)
    return (.ok (), db')

/-- The database of an event that cuts off the earlier authority of the account: the
account changed by `f`, its sessions and trusted devices revoked. -/
def Database.cutOff (db : Database) (accountId : String) (now : UInt64) (reason : String)
    (f : Account → Account) : Database :=
  { db with
    accounts := db.accounts.modify accountId f
    accountSessions := revokeSessions accountId now reason db.accountSessions
    trustedControllerDevices :=
      revokeTrusted (·.accountId == accountId) now db.trustedControllerDevices }

/-- The database an action leaves, from the one with the challenge consumed. -/
inductive ActionDone (db : Database) (e : StepUpExpectation) : StepUpAction → Database → Prop
  | rotated (records : List RecoveryCode) (auditEntry : AuditEntry)
      (haccount : ∀ record ∈ records, record.accountId = e.accountId) :
      ActionDone db e (.rotateRecoveryCodes records auditEntry)
        ({ db with recoveryCodes :=
            insertCodes (retain db.recoveryCodes (·.accountId != e.accountId)) records }.pushAudits
          [auditEntry])
  | disabled (factorId : String) (auditEntry : AuditEntry) (audits : List AuditEntry) (account : Account)
      (haccount : db.accounts[e.accountId]? = some account) :
      ActionDone db e (.disableMfaFactor factorId auditEntry)
        (((db.removeFactor factorId e.accountId).cutOff e.accountId e.nowEpochMillis "mfa_disabled"
          (·.advance e.nowEpochMillis)).pushAudits audits)
  | passwordChanged (expectedPasswordHash newPasswordHash : String) (auditEntry : AuditEntry)
      (audits : List AuditEntry) (account : Account)
      (haccount : db.accounts[e.accountId]? = some account) :
      ActionDone db e (.changePassword expectedPasswordHash newPasswordHash auditEntry)
        ((db.cutOff e.accountId e.nowEpochMillis "password_changed"
          (·.changePassword newPasswordHash e.nowEpochMillis)).pushAudits audits)
  | trustRevoked (trustedDeviceId : String) (auditEntry : AuditEntry) (trusted : TrustedControllerDevice)
      (htrusted : db.trustedControllerDevices[trustedDeviceId]? = some trusted)
      (hactive : trusted.status = .active) :
      ActionDone db e (.revokeTrustedDevice trustedDeviceId auditEntry)
        ({ db with trustedControllerDevices :=
            db.trustedControllerDevices.modify trustedDeviceId (·.revoke e.nowEpochMillis) }.pushAudits
          [auditEntry])

open StepUpAction

theorem actionDone {db performed revoked : Database} {e : StepUpExpectation} {act : StepUpAction}
    (hal : act.allowed db e = true) (hp : act.perform db e = .ok performed)
    (hrv : act.revoke performed e = .ok revoked) :
    ActionDone db e act (revoked.pushAudits [act.auditEntry]) := by
  cases act with
  | rotateRecoveryCodes recs audit =>
    cases hp
    cases hrv
    simp only [allowed, Bool.and_eq_true, List.all_eq_true, beq_iff_eq] at hal
    exact .rotated recs audit hal.2
  | disableMfaFactor factorId audit =>
    simp only [perform, advanceAccountSecurityEpoch, bind_eq_ok, okOr_eq_ok, pure_eq_ok] at hp
    obtain ⟨acct, hac, rfl⟩ := hp
    simp only [revoke, revokedReason, revokeAuthority, bind_eq_ok, pure_eq_ok] at hrv
    obtain ⟨_, _, rfl⟩ := hrv
    rw [Database.pushAudits_pushAudits]
    exact .disabled factorId audit _ acct hac
  | changePassword expected new audit =>
    simp only [perform, bind_eq_ok, okOr_eq_ok, pure_eq_ok] at hp
    obtain ⟨acct, hac, rfl⟩ := hp
    simp only [revoke, revokedReason, revokeAuthority, bind_eq_ok, pure_eq_ok] at hrv
    obtain ⟨_, _, rfl⟩ := hrv
    rw [Database.pushAudits_pushAudits]
    exact .passwordChanged expected new audit _ acct hac
  | revokeTrustedDevice trustedId audit =>
    simp only [perform, bind_eq_ok, okOr_eq_ok, pure_eq_ok] at hp
    obtain ⟨tr, htr, rfl⟩ := hp
    cases hrv
    simp only [allowed, Bool.and_eq_true, htr, Option.any_some, beq_iff_eq] at hal
    exact .trustRevoked trustedId audit tr htr hal.2.2

theorem StepUpAction.allowed_modifyChallenge (db : Database) (e : StepUpExpectation)
    (act : StepUpAction) (id : String) (f : RiskChallenge → RiskChallenge) :
    act.allowed (db.modifyChallenge id f) e = act.allowed db e := by
  cases act <;> rfl

/-! ### Enrolling a second factor -/

section Totp

variable (env : Env)

def totpEnrollmentFinishBindingHash (accountId accountSessionId factorId : String)
    (idempotencyKeyHash : Digest) (clientEphemeralPublicKey : ByteArr 32) : Digest :=
  env.sha256 (canonicalFields "rctl-totp-enrollment-finish-v1"
    [("account_id", utf8 accountId),
     ("account_session_id", utf8 accountSessionId),
     ("factor_id", utf8 factorId),
     ("idempotency_key_hash", idempotencyKeyHash.toList),
     ("client_ephemeral_public_key", clientEphemeralPublicKey.toList)])

def recoveryDeliveryBindingIsValid (d : RecoveryCodeDelivery) : Bool :=
  constantTimeSha256Eq d.finishRequestBindingHash
    (totpEnrollmentFinishBindingHash env d.accountId d.accountSessionId d.factorId d.idempotencyKeyHash
      d.clientEphemeralPublicKey)

/-- The loop over the new recovery codes: each is unused, unexpired and new in the
store, and no two share an identifier or a hash. -/
def recoveryCodesValid (db : Database) (accountId : String) (now : UInt64)
    (records : List RecoveryCode) : Bool :=
  (records.all fun record =>
    record.accountId == accountId && record.usedAtEpochMillis.isNone &&
      (record.expiresAtEpochMillis.all fun expires => now < expires) &&
      !(db.recoveryCodes.contains record.recoveryCodeId) &&
      !(anyValue db.recoveryCodes fun current => current.codeHash == record.codeHash)) &&
    decide (records.map (·.recoveryCodeId)).Nodup && decide (records.map (·.codeHash)).Nodup

def deliveryValid (db : Database) (completion : TotpEnrollmentCompletion) : Bool :=
  let factor := completion.factor
  let d := completion.delivery
  d.accountId == factor.accountId &&
    d.factorId == factor.factorId &&
    d.recoveryCodeCount.toNat == completion.recoveryCodes.length &&
    decide (16 ≤ d.ciphertext.length) &&
    decide (d.createdAtEpochMillis < d.expiresAtEpochMillis) &&
    decide (d.expiresAtEpochMillis ≤ saturatingAdd d.createdAtEpochMillis (24 * 60 * 60 * 1000)) &&
    d.acknowledgedAtEpochMillis.isNone &&
    recoveryDeliveryBindingIsValid env d &&
    activeAccountSession db.accountSessions[d.accountSessionId]? factor.accountId
      completion.auditEntry.createdAtEpochMillis &&
    !(db.recoveryCodeDeliveries.contains d.deliveryId) &&
    !(anyValue db.recoveryCodeDeliveries fun current => current.accountId == d.accountId &&
      constantTimeSha256Eq current.idempotencyKeyHash d.idempotencyKeyHash)

/-- The factor, the recovery codes in place of the unused ones, and the delivery stored. -/
def Database.storeEnrollment (db : Database) (completion : TotpEnrollmentCompletion) : Database :=
  { db with
    mfaFactors := db.mfaFactors.insert completion.factor.factorId completion.factor
    recoveryCodes := insertCodes (retain db.recoveryCodes fun record =>
      record.accountId != completion.factor.accountId || record.usedAtEpochMillis.isSome)
      completion.recoveryCodes
    recoveryCodeDeliveries :=
      db.recoveryCodeDeliveries.insert completion.delivery.deliveryId completion.delivery }

def finishTotpEnrollment (db : Database) (completion : TotpEnrollmentCompletion) : Reply Unit := merge do
  let factor := completion.factor
  let now := completion.auditEntry.createdAtEpochMillis
  ensure (factor.active && factor.lastUsedCounter.isSome && !completion.recoveryCodes.isEmpty &&
    !(db.mfaFactors.contains factor.factorId) && !(db.mfaEnabled factor.accountId)) (.error .conflict, db)
  ensure (recoveryCodesValid db factor.accountId now completion.recoveryCodes) (.error .conflict, db)
  ensure (deliveryValid env db completion) (.error .conflict, db)
  let advanced ← orFail db (advanceAccountSecurityEpoch (db.storeEnrollment completion) factor.accountId now)
  let revoked ← orFail db (revokeAuthority advanced factor.accountId now "mfa_enabled" completion.auditEntry)
  return (.ok (), revoked.pushAudits [completion.auditEntry])

def replayTotpEnrollment (db : Database) (lookup : TotpEnrollmentReplayLookup) :
    Except StoreError TotpEnrollmentReplayOutcome :=
  match firstWith db.recoveryCodeDeliveries fun delivery => delivery.accountId == lookup.accountId &&
      constantTimeSha256Eq delivery.idempotencyKeyHash lookup.idempotencyKeyHash with
  | none => .ok .notFound
  | some (_, delivery) =>
    if !(delivery.accountSessionId == lookup.accountSessionId && delivery.factorId == lookup.factorId &&
        (lookup.finishRequestBindingHash.all fun binding =>
          constantTimeSha256Eq delivery.finishRequestBindingHash binding) &&
        lookup.clientEphemeralPublicKey.all fun publicKey =>
          constantTimeSha256Eq delivery.clientEphemeralPublicKey publicKey) then
      .ok .bindingMismatch
    else if !(recoveryDeliveryBindingIsValid env delivery) then .error .unavailable
    else
      match db.accountSessions[delivery.accountSessionId]? with
      | none => .ok .notAuthorized
      | some session =>
        if !(session.accountId == lookup.accountId && session.revokedReason == some "mfa_enabled" &&
            session.revokedAtEpochMillis.isSome &&
            decide (lookup.nowEpochMillis < lookup.accessTokenExpiresAtEpochMillis)) then
          .ok .notAuthorized
        else if delivery.acknowledgedAtEpochMillis.isSome ||
            decide (delivery.expiresAtEpochMillis ≤ lookup.nowEpochMillis) then
          .ok .notAuthorized
        else .ok (.replayed delivery)

end Totp

end Rctl.Api
