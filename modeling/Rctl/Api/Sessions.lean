/-
# Accounts and account sessions

The operations of `MemoryRepository` that read, rotate and revoke account sessions,
the audit entries of a revocation, and the three transactions the routes make
themselves: registering an account, issuing its first tokens, appending an audit
entry.
-/
import Rctl.Api.Commands

namespace Rctl.Api

open ByteString Result OrdMap

/-! ### Revocations -/

def AccountSession.revoke (now : UInt64) (reason : String) (s : AccountSession) : AccountSession :=
  { s with revokedAtEpochMillis := some now, revokedReason := some reason }

def TrustedControllerDevice.revoke (now : UInt64) (t : TrustedControllerDevice) :
    TrustedControllerDevice :=
  { t with status := .revoked, revokedAtEpochMillis := some now }

def revocationAudit (source : AuditEntry) (auditId action : String) (targetDeviceId : Option String)
    (idKey id revokedReason : String) : AuditEntry :=
  { auditId, actorType := source.actorType, actorAccountId := source.actorAccountId,
    actorDeviceId := source.actorDeviceId, actorRole := source.actorRole,
    actorService := source.actorService, targetDeviceId := targetDeviceId, sessionId := none,
    action := action, result := "success", reason := some revokedReason,
    metadata := ((∅ : Table JsonValue).insert idKey (.string id)).insert "revoked_reason"
      (.string revokedReason),
    requestId := source.requestId, createdAtEpochMillis := source.createdAtEpochMillis }

def accountSessionRevocationAudit (source : AuditEntry) (accountSessionId revokedReason : String) :
    AuditEntry :=
  revocationAudit source (source.auditId ++ ":account-session:" ++ accountSessionId)
    "account_session_revoked" none "account_session_id" accountSessionId revokedReason

def trustedDeviceRevocationAudit (source : AuditEntry)
    (trustedDeviceId controllerDeviceId revokedReason : String) : AuditEntry :=
  revocationAudit source (source.auditId ++ ":trusted-device:" ++ trustedDeviceId)
    "trusted_device_revoked" (some controllerDeviceId) "trusted_device_id" trustedDeviceId revokedReason

def AccountSession.liveFor (accountId : String) (s : AccountSession) : Bool :=
  s.accountId == accountId && s.revokedAtEpochMillis.isNone

def TrustedControllerDevice.activeFor (accountId : String) (t : TrustedControllerDevice) : Bool :=
  t.accountId == accountId && t.status == .active

def authorityRevocationAudits (db : Database) (accountId revokedReason : String) (source : AuditEntry) :
    List AuditEntry :=
  ((db.accountSessions.values.filter (·.liveFor accountId)).map fun session =>
    accountSessionRevocationAudit source session.accountSessionId revokedReason) ++
  ((db.trustedControllerDevices.values.filter (·.activeFor accountId)).map fun trusted =>
    trustedDeviceRevocationAudit source trusted.trustedDeviceId trusted.controllerDeviceId revokedReason)

def revokeSessions (accountId : String) (now : UInt64) (reason : String)
    (sessions : Table AccountSession) : Table AccountSession :=
  mapValues sessions fun s => if s.liveFor accountId then s.revoke now reason else s

def revokeTrusted (p : TrustedControllerDevice → Bool) (now : UInt64)
    (devices : Table TrustedControllerDevice) : Table TrustedControllerDevice :=
  mapValues devices fun t => if p t && t.status == .active then t.revoke now else t

/-! ### Reading a session -/

def activeAccountSession (session : Option AccountSession) (accountId : String) (now : UInt64) : Bool :=
  session.any fun s => s.accountId == accountId && s.revokedAtEpochMillis.isNone &&
    decide (now < s.expiresAtEpochMillis)

def loadRefreshSessionAuthority (db : Database) (refreshTokenHash : Digest) (now : UInt64) :
    Option AccountSession :=
  (firstWith db.accountSessions fun session =>
    constantTimeSha256Eq session.refreshTokenHash refreshTokenHash &&
      session.revokedAtEpochMillis.isNone && session.revokedReason.isNone &&
      decide (now < session.expiresAtEpochMillis) &&
      db.accounts[session.accountId]?.any (·.status == .active)).map (·.2)

/-! ### Rotating and revoking a session -/

/-- The session `rotate_refresh_session` looks for. -/
def AccountSession.rotatable (refreshTokenHash : Digest) (replacement : AccountSession) (now : UInt64)
    (session : AccountSession) : Bool :=
  session.accountId == replacement.accountId && session.mfaVerified == replacement.mfaVerified &&
    constantTimeSha256Eq session.refreshTokenHash refreshTokenHash &&
    session.revokedAtEpochMillis.isNone && session.revokedReason.isNone &&
    decide (now < session.expiresAtEpochMillis)

def Database.rotateSession (db : Database) (oldSessionId : String) (replacement : AccountSession)
    (now : UInt64) : Database :=
  let revoked := db.accountSessions.modify oldSessionId (·.revoke now "refresh_replay")
  { db with accountSessions := revoked.insert replacement.accountSessionId replacement }

def rotateRefreshSession (db : Database) (refreshTokenHash : Digest) (replacement : AccountSession)
    (auditEntry : AuditEntry) (now : UInt64) : Reply Bool := merge do
  ensure (replacement.revokedAtEpochMillis.isNone && replacement.revokedReason.isNone &&
    decide (now < replacement.expiresAtEpochMillis) &&
    !(db.accountSessions.contains replacement.accountSessionId) && !(db.hasAudit auditEntry.auditId) &&
    auditEntry.actorAccountId == some replacement.accountId &&
    db.accounts[replacement.accountId]?.any (·.status == .active)) (.error .conflict, db)
  let old ← okOr (firstWith db.accountSessions (AccountSession.rotatable refreshTokenHash replacement now))
    (.ok false, db)
  let audit := accountSessionRevocationAudit auditEntry old.1 "refresh_replay"
  ensure (!(db.hasAudit audit.auditId) && audit.auditId != auditEntry.auditId) (.error .conflict, db)
  return (.ok true, (db.rotateSession old.1 replacement now).pushAudits [audit, auditEntry])

def revokeAccountSession (db : Database) (accountSessionId accountId : String) (now : UInt64)
    (auditEntry : AuditEntry) : Reply Bool := merge do
  let session ← okOr db.accountSessions[accountSessionId]? (.ok false, db)
  ensure (session.accountId == accountId && session.revokedAtEpochMillis.isNone) (.ok false, db)
  ensure (auditEntry.actorAccountId == some accountId && auditEntry.action == "logout" &&
    auditEntry.result == "success" && !(db.hasAudit auditEntry.auditId)) (.error .conflict, db)
  let audit := accountSessionRevocationAudit auditEntry accountSessionId "logout"
  ensure (!(db.hasAudit audit.auditId)) (.error .conflict, db)
  return (.ok true,
    { db with accountSessions := db.accountSessions.modify accountSessionId (·.revoke now "logout")
              auditLogs := db.auditLogs ++ [audit, auditEntry] })

/-! ### Transactions of the routes -/

/-- The transaction of `routes::auth::register`; the route draws the account's
identifier at random. -/
def registerAccount (db : Database) (account : Account) : Reply Unit := merge do
  ensure (!(db.accountByEmail.contains account.email)) (.error .conflict, db)
  return (.ok (), { db with accountByEmail := db.accountByEmail.insert account.email account.accountId
                            accounts := db.accounts.insert account.accountId account })

/-- The transaction of `routes::auth::issue_tokens`. -/
def issueTokens (db : Database) (session : AccountSession) : Reply Unit := merge do
  ensure (!(db.accountSessions.contains session.accountSessionId)) (.error .conflict, db)
  return (.ok (), { db with accountSessions := db.accountSessions.insert session.accountSessionId session })

def appendAudit (db : Database) (entry : AuditEntry) : Reply Unit := (.ok (), db.pushAudits [entry])

end Rctl.Api
