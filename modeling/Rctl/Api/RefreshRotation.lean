/-
# Rotating refresh tokens

A refresh token is good for one rotation: the session that holds its hash is revoked as
the replacement is stored, and a session that is revoked is never written, rotated or
reported active again. If every hash put into the store is new, a hash names one session
for ever, so that no hash is rotated twice. The rotations link the sessions into chains,
within one account and one level of authentication.
-/
import Rctl.Api.Authority
import Rctl.Api.SecondFactors

namespace Rctl.Api

open ByteString Result OrdMap StateRun

/-! ### What a call inserts and rotates -/

def rotatedHash (e : CallEntry) : Option Digest :=
  match e.call, e.out with
  | .rotateRefreshSession refreshTokenHash _ _ _, .bool (.ok true) => some refreshTokenHash
  | _, _ => none

variable {env : Env} {db db' : Database} {call : Call} {r : Response}

/-- What a rotation links: the old session, which it revokes, and its replacement. -/
structure RotationLink (db db' : Database) (refreshTokenHash : Digest) (replacement : AccountSession)
    (oldId : String) (old : AccountSession) : Prop where
  get : db.accountSessions[oldId]? = some old
  live : old.revokedAtEpochMillis = none
  hash : old.refreshTokenHash = refreshTokenHash
  account : replacement.accountId = old.accountId
  mfa : replacement.mfaVerified = old.mfaVerified
  fresh : db.accountSessions[replacement.accountSessionId]? = none
  stored : db'.accountSessions[replacement.accountSessionId]? = some replacement
  revoked : SessionRevoked db' oldId

theorem Effect.rotation_link {tokenHash : Digest} {replacement : AccountSession}
    {audit : AuditEntry} {now : UInt64}
    (h : Effect env db (.rotateRefreshSession tokenHash replacement audit now) (.bool (.ok true)) db') :
    ∃ oldId old, firstWith db.accountSessions (AccountSession.rotatable tokenHash replacement now) =
        some (oldId, old) ∧ RotationLink db db' tokenHash replacement oldId old := by
  cases h with
  | none _ _ hqt => cases hqt
  | sessionRotated _ _ _ _ oldId old _ hf hn =>
    obtain ⟨hg, hp⟩ := firstWith_eq_some hf
    simp only [AccountSession.rotatable, Bool.and_eq_true, beq_iff_eq, constantTimeSha256Eq_iff,
      Option.isNone_iff_eq_none] at hp
    obtain ⟨⟨⟨⟨⟨hac, hm⟩, hha⟩, hr⟩, _⟩, _⟩ := hp
    have hne : replacement.accountSessionId ≠ oldId := fun heq => by
      rw [heq, hg] at hn
      cases hn
    refine ⟨oldId, old, hf, hg, hr, hha, hac.symm, hm.symm, hn, ?_, old.revoke now "refresh_replay", ?_, nofun⟩
    · exact (get_insert _ _ _ _).trans (if_pos rfl)
    · refine (get_insert _ _ _ _).trans ((if_neg hne).trans ?_)
      rw [get_modify, if_pos rfl, hg]
      rfl

/-! ### Hashes that are new -/

def allSessions (log : List CallEntry) : List AccountSession :=
  log.filterMap fun e => insertedSession e.call e.out

/-- Every session stored comes from an insertion with its hash; a hash that was rotated
was rotated once, and the session with it is revoked. -/
structure RotationInv (log : List CallEntry) (db : Database) : Prop where
  stored : ∀ (id : String) (s : AccountSession), db.accountSessions[id]? = some s →
    ∃ s₀ ∈ allSessions log, s₀.accountSessionId = id ∧ s₀.refreshTokenHash = s.refreshTokenHash
  once : (log.filterMap rotatedHash).Nodup
  known : ∀ hash ∈ log.filterMap rotatedHash, ∃ s₀ ∈ allSessions log, s₀.refreshTokenHash = hash
  spent : ∀ hash ∈ log.filterMap rotatedHash, ∀ (id : String) (s : AccountSession),
    db.accountSessions[id]? = some s → s.refreshTokenHash = hash → s.revokedAtEpochMillis ≠ none

variable {e : CallEntry} {s : AccountSession} {id : String}

section Invariant

variable {log : List CallEntry} {hash : Digest}

theorem allSessions_snoc (log : List CallEntry) (e : CallEntry) :
    allSessions (log ++ [e]) = allSessions log ++ (insertedSession e.call e.out).toList :=
  filterMap_snoc _ _ _

theorem mem_allSessions_snoc (h : s ∈ allSessions log) : s ∈ allSessions (log ++ [e]) := by
  rw [allSessions_snoc]
  exact List.mem_append_left _ h

theorem hash_ne_of_inserted (hfr : ((allSessions (log ++ [e])).map (·.refreshTokenHash)).Nodup)
    {s₀ : AccountSession} (hs : insertedSession e.call e.out = some s) (hs₀ : s₀ ∈ allSessions log) :
    s₀.refreshTokenHash ≠ s.refreshTokenHash := by
  rw [allSessions_snoc, List.map_append, List.nodup_append, hs] at hfr
  exact hfr.2.2 _ (List.mem_map_of_mem hs₀) _ (List.mem_singleton_self _)

theorem RotationInv.hash_inj (h : RotationInv log db)
    (hfr : ((allSessions log).map (·.refreshTokenHash)).Nodup) {id' : String} {s' : AccountSession}
    (hs : db.accountSessions[id]? = some s) (hs' : db.accountSessions[id']? = some s')
    (hha : s.refreshTokenHash = s'.refreshTokenHash) : id = id' := by
  obtain ⟨s₀, hm, hid, hh⟩ := h.stored id s hs
  obtain ⟨s₁, hm', hid', hh'⟩ := h.stored id' s' hs'
  have heq : s₀ = s₁ := List.inj_on_of_nodup_map hfr hm hm' (hh.trans (hha.trans hh'.symm))
  subst heq
  exact hid.symm.trans hid'

theorem rotatedHash_eq_some (h : rotatedHash e = some hash) :
    ∃ replacement audit now, e.call = .rotateRefreshSession hash replacement audit now ∧
      e.out = .bool (.ok true) := by
  unfold rotatedHash at h
  split at h
  · rename_i replacement audit now hc ho
    cases h
    exact ⟨replacement, audit, now, hc, ho⟩
  · cases h

theorem Effect.link_of_rotatedHash (h : Effect env e.pre e.call e.out e.post) (hr : rotatedHash e = some hash) :
    ∃ oldId old replacement, succession e = some (oldId, replacement.accountSessionId) ∧
      insertedSession e.call e.out = some replacement ∧ RotationLink e.pre e.post hash replacement oldId old := by
  obtain ⟨replacement, audit, now, hc, ho⟩ := rotatedHash_eq_some hr
  unfold succession
  rw [hc, ho] at h ⊢
  obtain ⟨oldId, old, hf, hl⟩ := h.rotation_link
  refine ⟨oldId, old, replacement, ?_, rfl, hl⟩
  simp only [hf, Option.map_some]

theorem Effect.session_after (h : Effect env db call r db') (hs : db'.accountSessions[id]? = some s) :
    (∃ s', db.accountSessions[id]? = some s' ∧ s'.refreshTokenHash = s.refreshTokenHash ∧
      (s'.revokedAtEpochMillis ≠ Option.none → s.revokedAtEpochMillis ≠ Option.none)) ∨
    (insertedSession call r = some s ∧ s.accountSessionId = id) := by
  have hst := h.sessionStep id
  rw [hs] at hst
  generalize db.accountSessions[id]? = pre at hst
  cases hst with
  | keep => exact .inl ⟨s, rfl, rfl, fun h => h⟩
  | create _ hi hid => exact .inr ⟨hi, hid⟩
  | revoke s' => exact .inl ⟨s', rfl, rfl, fun _ => nofun⟩

theorem RotationInv.stored_step (h : RotationInv log e.pre) (he : Effect env e.pre e.call e.out e.post)
    (id : String) (s : AccountSession) (hs : e.post.accountSessions[id]? = some s) :
    ∃ s₀ ∈ allSessions (log ++ [e]), s₀.accountSessionId = id ∧ s₀.refreshTokenHash = s.refreshTokenHash := by
  rcases he.session_after hs with ⟨s', hs', hha, _⟩ | ⟨hi, hid⟩
  · obtain ⟨s₀, hm, hid, hh⟩ := h.stored id s' hs'
    exact ⟨s₀, mem_allSessions_snoc hm, hid, hh.trans hha⟩
  · refine ⟨s, ?_, hid, rfl⟩
    rw [allSessions_snoc, hi]
    exact List.mem_append_right _ (List.mem_singleton_self s)

theorem RotationInv.spent_step (h : RotationInv log e.pre) (he : Effect env e.pre e.call e.out e.post)
    (hfr : ((allSessions (log ++ [e])).map (·.refreshTokenHash)).Nodup)
    (hm : hash ∈ log.filterMap rotatedHash) (hs : e.post.accountSessions[id]? = some s)
    (hha : s.refreshTokenHash = hash) : s.revokedAtEpochMillis ≠ none := by
  rcases he.session_after hs with ⟨s', hs', hh, hke⟩ | ⟨hi, _⟩
  · exact hke (h.spent hash hm id s' hs' (hh.trans hha))
  · obtain ⟨s₀, hmem₀, hh₀⟩ := h.known hash hm
    exact absurd (hh₀.trans hha.symm) (hash_ne_of_inserted hfr hi hmem₀)

theorem RotationInv.spent_rotated (h : RotationInv log e.pre) (he : Effect env e.pre e.call e.out e.post)
    (hfr : ((allSessions (log ++ [e])).map (·.refreshTokenHash)).Nodup) (hr : rotatedHash e = some hash)
    (hs : e.post.accountSessions[id]? = some s) (hha : s.refreshTokenHash = hash) :
    s.revokedAtEpochMillis ≠ none := by
  obtain ⟨oldId, old, replacement, _, hinserted, hli⟩ := he.link_of_rotatedHash hr
  obtain ⟨old₀, hold₀, _, hhash₀⟩ := h.stored oldId old hli.get
  rcases he.session_after hs with ⟨s', hs', hh, _⟩ | ⟨hi, _⟩
  · have hfresh₀ : ((allSessions log).map (·.refreshTokenHash)).Nodup := by
      rw [allSessions_snoc, List.map_append] at hfr
      exact (List.nodup_append.mp hfr).1
    have hid : id = oldId := h.hash_inj hfresh₀ hs' hli.get (hh.trans (hha.trans hli.hash.symm))
    obtain ⟨s₁, hs₁, hrevoked⟩ := hli.revoked
    rw [hid, hs₁] at hs
    cases hs
    exact hrevoked
  · exact absurd (hhash₀.trans (hli.hash.trans hha.symm)) (hash_ne_of_inserted hfr hi hold₀)

theorem rotationInv_step (he : Effect env e.pre e.call e.out e.post)
    (hfr : ((allSessions (log ++ [e])).map (·.refreshTokenHash)).Nodup) (h : RotationInv log e.pre) :
    RotationInv (log ++ [e]) e.post := by
  have hro := filterMap_snoc rotatedHash log e
  cases hr : rotatedHash e with
  | none =>
    rw [hr, Option.toList_none, List.append_nil] at hro
    refine ⟨h.stored_step he, hro ▸ h.once, fun hash hm => ?_, fun hash hm id s hs hha => ?_⟩
    · obtain ⟨s₀, hmem₀, hh⟩ := h.known hash (hro ▸ hm)
      exact ⟨s₀, mem_allSessions_snoc hmem₀, hh⟩
    · exact h.spent_step he hfr (hro ▸ hm) hs hha
  | some hash =>
    rw [hr] at hro
    obtain ⟨oldId, old, replacement, _, hi, hli⟩ := he.link_of_rotatedHash hr
    refine ⟨h.stored_step he, ?_, fun hash' hm => ?_, fun hash' hm id s hs hha => ?_⟩
    · rw [hro, List.nodup_append]
      refine ⟨h.once, List.nodup_singleton hash, fun a ha b hb hab => ?_⟩
      rw [List.mem_singleton.mp hb] at hab
      subst hab
      -- a hash rotated before belongs to a session that is revoked, and only a live one is rotated
      exact h.spent a ha oldId old hli.get hli.hash hli.live
    · rcases List.mem_append.mp (hro ▸ hm) with hm | hm
      · obtain ⟨s₀, hmem₀, hh⟩ := h.known hash' hm
        exact ⟨s₀, mem_allSessions_snoc hmem₀, hh⟩
      · obtain ⟨old₀, hold₀, _, hhash₀⟩ := h.stored oldId old hli.get
        rw [List.mem_singleton.mp hm]
        exact ⟨old₀, mem_allSessions_snoc hold₀, hhash₀.trans hli.hash⟩
    · rcases List.mem_append.mp (hro ▸ hm) with hm | hm
      · exact h.spent_step he hfr hm hs hha
      · rw [List.mem_singleton.mp hm] at hha
        exact h.spent_rotated he hfr hr hs hha

end Invariant

/-! ### Chains of sessions -/

section Chains

variable {p : String × String}

theorem rotatedHash_of_succession (h : succession e = some p) : ∃ hash, rotatedHash e = some hash := by
  unfold succession at h
  split at h
  · rename_i hash _ _ _ hc ho
    refine ⟨hash, ?_⟩
    unfold rotatedHash
    rw [hc, ho]
  · cases h

/-- What a call links: a live session, which it revokes, to one that it stores. -/
theorem Effect.link_of_succession (h : Effect env e.pre e.call e.out e.post) (hp : succession e = some p) :
    e.pre.accountSessions[p.1]? ≠ Option.none ∧ SessionRevoked e.post p.1 ∧
      e.pre.accountSessions[p.2]? = Option.none ∧ e.post.accountSessions[p.2]? ≠ Option.none := by
  obtain ⟨hash, hr⟩ := rotatedHash_of_succession hp
  obtain ⟨oldId, old, replacement, hs, _, hl⟩ := h.link_of_rotatedHash hr
  rw [hp] at hs
  cases hs
  refine ⟨?_, hl.revoked, hl.fresh, ?_⟩
  · rw [hl.get]
    nofun
  · rw [hl.stored]
    nofun

theorem Effect.keeps_session (h : Effect env db call r db') (hid : db.accountSessions[id]? ≠ Option.none) :
    db'.accountSessions[id]? ≠ Option.none := by
  have hs := h.sessionStep id
  generalize db.accountSessions[id]? = pre, db'.accountSessions[id]? = post at hs hid ⊢
  cases hs with
  | keep => exact hid
  | create | revoke => nofun

/-- A refusal changes nothing, except that a factor refused for a challenge costs the
challenge an attempt. -/
theorem Effect.unchanged_of_refused (h : Effect env db call (.bool (.ok false)) db')
    (hc : ∀ challengeId accountId factorKind code now,
      call ≠ .verifyFactor (some challengeId) accountId factorKind code now) : db' = db := by
  cases h with
  | none => rfl
  | factorUsed _ _ _ _ _ _ hu =>
    cases hu
    rfl
  | factorJudged challengeId accountId factorKind code now =>
    exact absurd rfl (hc challengeId accountId factorKind code now)

/-- The revoked session `s` is found as it is by the call `e` and left so, and is not
rotated, reported active or loaded. -/
structure StaysRevoked (id : String) (s : AccountSession) (e : CallEntry) : Prop where
  found : e.pre.accountSessions[id]? = some s
  left : e.post.accountSessions[id]? = some s
  unrotated : rotatedSession e ≠ some id
  inactive : ∀ db, db = e.pre ∨ db = e.post → ∀ accountId now,
    activeAccountSession db.accountSessions[id]? accountId now = false
  unloaded : ∀ db, db = e.pre ∨ db = e.post → ∀ hash now s',
    loadRefreshSessionAuthority db hash now = some s' → s'.accountSessionId ≠ id

theorem stays_revoked (hky : SessionsKeyed db) (hs : db.accountSessions[id]? = some s)
    (hr : s.revokedAtEpochMillis ≠ none) (cs : List Call) :
    ∀ e ∈ trace (step env) db cs, StaysRevoked id s e := by
  intro e he
  obtain ⟨⟨hf, hp⟩, hlf, hpo⟩ := inv_of_mem he
    (I := fun db => db.accountSessions[id]? = some s ∧ SessionsKeyed db)
    (fun h ⟨hg, hky⟩ => by
      have hst := h.sessionStep id
      rw [hg] at hst
      exact ⟨hst.of_revoked hr, h.sessionsKeyed hky⟩) ⟨hs, hky⟩
  have hed : ∀ db, db = e.pre ∨ db = e.post → SessionRevoked db id ∧ SessionsKeyed db := by
    rintro _ (rfl | rfl)
    · exact ⟨⟨s, hf, hr⟩, hp⟩
    · exact ⟨⟨s, hlf, hr⟩, hpo⟩
  exact
    { found := hf
      left := hlf
      unrotated := SessionRevoked.not_rotated ⟨s, hf, hr⟩ e.out e.post
      inactive := fun db hdb => (hed db hdb).1.not_active
      unloaded := fun db hdb hash now s' => (hed db hdb).1.not_loaded (hed db hdb).2 }

end Chains

/-! ### Runs -/

/-- Every refresh token hash put into the store is new. That an identifier is new the
store checks itself. -/
def FreshSessions (log : List CallEntry) : Prop :=
  ((allSessions log).map (·.refreshTokenHash)).Nodup

theorem FreshSessions.of_snoc (log : List CallEntry) (e : CallEntry) (h : FreshSessions (log ++ [e])) :
    FreshSessions log := by
  unfold FreshSessions at h ⊢
  rw [allSessions_snoc, List.map_append] at h
  exact (List.nodup_append.mp h).1

structure RotationsKept (log : List CallEntry) : Prop where
  /-- No hash is rotated twice. -/
  hashes : (log.filterMap rotatedHash).Nodup
  /-- A rotation links a live session, which it revokes, to a new one of the same account
  and the same level of authentication. -/
  links : ∀ e ∈ log, ∀ hash, rotatedHash e = some hash → ∃ oldId old replacement,
    succession e = some (oldId, replacement.accountSessionId) ∧
      RotationLink e.pre e.post hash replacement oldId old
  successors : (log.filterMap rotatedSession).Nodup
  /-- A session is the successor of at most one. -/
  predecessors : ((log.filterMap succession).map (·.2)).Nodup
  /-- Succession has no cycle. -/
  acyclic : ∃ rank : String → ℕ, ∀ p ∈ log.filterMap succession, rank p.1 < rank p.2
  /-- A session that a call leaves revoked stays as it is in all that follows. -/
  revoked : log.Pairwise fun e e' => ∀ (id : String) (s : AccountSession),
    e.post.accountSessions[id]? = some s → s.revokedAtEpochMillis ≠ none → StaysRevoked id s e'
  failed : ∀ e ∈ log, e.out.isError = true → e.post = e.pre
  /-- A call that refuses changes nothing. -/
  refused : ∀ e ∈ log, e.out = .bool (.ok false) →
    (∀ challengeId accountId factorKind code now,
      e.call ≠ .verifyFactor (some challengeId) accountId factorKind code now) → e.post = e.pre

/-- **Refresh tokens rotate once.** In every run of a new store into which only new
hashes are put, at any times: each hash is rotated at most once; the rotations link the
sessions into chains; a revoked session stays revoked, unchanged and unused; and a call
that fails or refuses changes nothing. -/
theorem refresh_rotation (env : Env) (calls : List Call)
    (hfresh : FreshSessions (trace (step env) .empty calls)) :
    RotationsKept (trace (step env) .empty calls) := by
  have hI : RotationInv (trace (step env) .empty calls) (final (step env) .empty calls) :=
    history_inv_of (step env) FreshSessions.of_snoc
      (fun log db call hP h => rotationInv_step (step_effect env db call) hP h)
      calls ⟨fun id s hg => by simp [Database.empty] at hg, List.nodup_nil, nofun, nofun⟩ hfresh
  have hke : ∀ db c id, SessionRevoked db id → SessionRevoked (step env db c).2 id :=
    fun db c id h => (step_effect env db c).keeps_revoked h
  have hli : ∀ db c p, succession (entry (step env) db c) = some p →
      db.accountSessions[p.1]? ≠ none ∧ SessionRevoked (step env db c).2 p.1 ∧
        db.accountSessions[p.2]? = none ∧ (step env db c).2.accountSessions[p.2]? ≠ none :=
    fun db c p hp => Effect.link_of_succession (step_effect env db c) hp
  refine ⟨hI.once, fun e he hash hr => ?_, ?_, ?_, ?_, ?_,
    fun e he herr => (Effect.of_mem he).unchanged_of_error herr, fun e he ho hcl => ?_⟩
  · obtain ⟨oldId, old, replacement, hsuccession, _, hli⟩ := (Effect.of_mem he).link_of_rotatedHash hr
    exact ⟨oldId, old, replacement, hsuccession, hli⟩
  · -- a rotated session is spent by being revoked
    refine pairwise_emitted (step env) (I := fun _ => True) (fun _ _ _ => trivial)
      (fun db c id _ => hke db c id) (fun db c id _ hmi hre => ?_)
      (fun db c a b _ hmi hne => ?_) calls trivial
    · exact hre.not_rotated _ _ hmi
    · obtain ⟨p, hp, rfl⟩ := Option.map_eq_some_iff.mp hmi
      rw [← Classical.not_not.mp hne]
      exact (hli db c p hp).2.1
  · -- a successor is spent by being stored
    rw [List.map_filterMap]
    refine pairwise_emitted (step env) (I := fun _ => True)
      (S := fun db id => db.accountSessions[id]? ≠ none) (fun _ _ _ => trivial)
      (fun db c id _ h => (step_effect env db c).keeps_session h) (fun db c id _ hmi hs => ?_)
      (fun db c a b _ hmi hne => ?_) calls trivial
    · obtain ⟨p, hp, rfl⟩ := Option.map_eq_some_iff.mp hmi
      exact hs (hli db c p hp).2.2.1
    · obtain ⟨p, hp, rfl⟩ := Option.map_eq_some_iff.mp hmi
      rw [← Classical.not_not.mp hne]
      exact (hli db c p hp).2.2.2
  · exact exists_rank_of_links (step env) (I := fun _ => True)
      (K := fun db id => db.accountSessions[id]? ≠ none) (fun _ _ _ => trivial)
      (fun db c id _ h => (step_effect env db c).keeps_session h)
      (fun db c a b _ hp => by
        obtain ⟨hd, _, hfresh, hs⟩ := hli db c (a, b) hp
        exact ⟨hd, fun h => h hfresh, hs⟩) calls trivial
  · refine pairwise_trace (step env) (fun db c _ h => (step_effect env db c).sessionsKeyed h)
      (fun db c cs _ hky _ e he id s hg hre => ?_) calls sessionsKeyed_empty fun _ _ => trivial
    exact stays_revoked ((step_effect env db c).sessionsKeyed hky) hg hre cs e he
  · have heff := Effect.of_mem he
    rw [ho] at heff
    exact heff.unchanged_of_refused hcl

/-! ### A run -/

def sampleSuccessor : AccountSession :=
  { accountSessionId := "second", accountId := "account", refreshTokenHash := Vector.replicate 32 2,
    mfaVerified := false, expiresAtEpochMillis := 90000, revokedAtEpochMillis := none, revokedReason := none }

/-- A rotation, the same hash presented once more with another replacement, and a logout. -/
def rotationCalls : List Call :=
  [.registerAccount sampleAccount,
    .issueTokens sampleSession,
    .rotateRefreshSession (Vector.replicate 32 1) sampleSuccessor
      (sampleAudit "rotated" "refresh" "success" 20) 20,
    .rotateRefreshSession (Vector.replicate 32 1) { sampleSuccessor with accountSessionId := "third" }
      (sampleAudit "replayed" "refresh" "success" 10) 10,
    .revokeAccountSession "second" "account" 30 (sampleAudit "left" "logout" "success" 30)]

theorem refresh_rotation_replayed :
    FreshSessions (trace (step sampleEnv) .empty rotationCalls) ∧
      RotationsKept (trace (step sampleEnv) .empty rotationCalls) ∧
      (trace (step sampleEnv) .empty rotationCalls).filterMap rotatedHash = [Vector.replicate 32 1] ∧
      (trace (step sampleEnv) .empty rotationCalls).filterMap succession = [("first", "second")] :=
  have hfr : FreshSessions (trace (step sampleEnv) .empty rotationCalls) := by
    unfold FreshSessions
    decide +kernel
  ⟨hfr, refresh_rotation sampleEnv rotationCalls hfr, by decide +kernel, by decide +kernel⟩

end Rctl.Api
