/-
# Where an account session comes from

Sessions are stored by a login that completes, by a first issue of tokens, and by rotations. So a
session leads back, rotation by rotation, to one of the first two, and it has the account and the
level of authentication of that one: no sequence of rotations turns a session into one of another
account, or one without a second factor into one with it.
-/
import Mathlib.Logic.Relation
import Rctl.Api.RefreshRotation

namespace Rctl.Api

open OrdMap StateRun

/-- The session that a completed login or a first issue of tokens has stored. -/
def openedSession (e : CallEntry) : Option AccountSession :=
  if (rotatedHash e).isNone then insertedSession e.call e.out else none

/-- Rotations of the run lead to the session from one that was opened, at the same level. -/
def Descends (log : List CallEntry) (id : String) (s : AccountSession) : Prop :=
  ∃ root ∈ log.filterMap openedSession, root.accountId = s.accountId ∧ root.mfaVerified = s.mfaVerified ∧
    Relation.ReflTransGen (fun a b => (a, b) ∈ log.filterMap succession) root.accountSessionId id

theorem Descends.snoc {log : List CallEntry} {id : String} {s : AccountSession} (h : Descends log id s)
    (e : CallEntry) : Descends (log ++ [e]) id s := by
  obtain ⟨root, hr, hac, hmf, hch⟩ := h
  rw [Descends, filterMap_snoc, filterMap_snoc]
  exact ⟨root, List.mem_append_left _ hr, hac, hmf,
    Relation.ReflTransGen.mono (fun _ _ => List.mem_append_left _) _ _ hch⟩

theorem descends_step {env : Env} {log : List CallEntry} {e : CallEntry}
    (he : Effect env e.pre e.call e.out e.post)
    (hI : ∀ (id : String) (s : AccountSession), e.pre.accountSessions[id]? = some s → Descends log id s)
    (id : String) (s : AccountSession) (hs : e.post.accountSessions[id]? = some s) : Descends (log ++ [e]) id s := by
  have hst := he.sessionStep id
  rw [hs] at hst
  generalize hpre : e.pre.accountSessions[id]? = pre at hst
  cases hst with
  | keep => exact (hI id s hpre).snoc e
  | revoke s' => exact (hI id s' hpre).snoc e
  | create _ hi hid =>
    subst hid
    cases hr : rotatedHash e with
    | none =>
      have ho : openedSession e = some s := by rw [openedSession, hr]; exact hi
      refine ⟨s, ?_, rfl, rfl, .refl⟩
      rw [filterMap_snoc, ho]
      simp
    | some hash =>
      obtain ⟨oldId, old, replacement, hsu, hre, hl⟩ := he.link_of_rotatedHash hr
      obtain rfl : replacement = s := Option.some.inj (hre.symm.trans hi)
      obtain ⟨root, hm, hac, hmf, hch⟩ := (hI oldId old hl.get).snoc e
      refine ⟨root, hm, hac.trans hl.account.symm, hmf.trans hl.mfa.symm, hch.tail ?_⟩
      rw [filterMap_snoc, hsu]
      simp

/-- **Every session descends from an opened one.** In every run of a new store, a stored session,
revoked or not, is reached by rotations of the run from a session that a completed login or a first
issue of tokens has stored for the same account at the same level of authentication. -/
theorem session_ancestry (env : Env) (calls : List Call) (id : String) (s : AccountSession)
    (hs : (final (step env) .empty calls).accountSessions[id]? = some s) :
    Descends (trace (step env) .empty calls) id s :=
  history_inv (step env) (I := fun log db => ∀ (id : String) (s : AccountSession),
      db.accountSessions[id]? = some s → Descends log id s)
    (fun _ db call hI => descends_step (e := entry (step env) db call) (step_effect env db call) hI) calls [] .empty
    (fun id s hg => by simp [Database.empty] at hg) id s hs

/-- The session that was logged out descends from the first one. -/
theorem session_ancestry_rotated :
    Descends (trace (step sampleEnv) .empty rotationCalls) "second" (sampleSuccessor.revoke 30 "logout") :=
  session_ancestry sampleEnv rotationCalls "second" _ (by decide +kernel)

end Rctl.Api
