/-
# Sessions after their time

A session is authorized for five minutes from its creation, and no call moves that end. The
internal routes refuse a session whose time is over, but `validate_transition` does not look at
it: an invitation can be accepted at any later time (`accepted_after_expiry`). Where the requests to
accept or connect a session are carried out within five minutes of its creation, no session becomes
usable after its time (`usable_before_expiry`).
-/
import Rctl.Api.SessionReplay

namespace Rctl.Api

open Result OrdMap StateRun

/-- The end of the session is five minutes after its creation. -/
def Session.Timed (s : Session) : Prop := s.sessionExpiresAtEpochMillis = s.createdAtEpochMillis + 300000

/-- The session that the step made usable, with the clock's reading. -/
def madeUsable (e : ServerEntry) : Option (Session × UInt64) :=
  match appliedTransition e, e.call with
  | some (_, session, _), .resume _ draws =>
    if session.status = .accepted ∨ session.status = .connected then some (session, draws.now) else none
  | _, _ => none

/-- The stored session that a request in flight is to make usable, with the clock's reading: what the
request was loaded with allows the transition, and the status is still the one that was loaded. -/
def asksToUse (server : Server) : ServerAction → Option (Session × UInt64)
  | .resume index draws => match server.inFlight[index]? with
    | some (.apply plan loaded role _) => server.database.sessions[loaded.sessionId]?.bind fun stored =>
      if (plan.target = .accepted ∨ plan.target = .connected) ∧ (plan.validation loaded role).isOk = true ∧
        stored.status = loaded.status then some (stored, draws.now) else none
    | _ => none
  | _ => none

/-- The clock's reading at the step, where the routes ask for it. -/
def ServerAction.clock : ServerAction → Option UInt64
  | .receive _ now => some now
  | .resume _ draws => some draws.now
  | .call _ => none

structure TimedSessions (server : Server) : Prop where
  stored : ∀ (id : String) (s : Session), server.database.sessions[id]? = some s → s.Timed
  inserts : ∀ command requestId, .insert command requestId ∈ server.inFlight → command.session.Timed

section Steps

variable {env : RouteEnv} {act : ServerAction} {server server' : Server} {reply : ServerReply}

theorem Session.transition_times {cur session : Session} {cmd : TransitionSessionCommand}
    (h : cur.transition cmd = .ok session) : session.createdAtEpochMillis = cur.createdAtEpochMillis ∧
      session.sessionExpiresAtEpochMillis = cur.sessionExpiresAtEpochMillis := by
  unfold Session.transition at h
  by_cases ht : cmd.session.status.isTerminal = true
  · simp only [ht, if_true, bind_eq_ok, pure_eq_ok] at h
    obtain ⟨_, _, rfl⟩ := h
    exact ⟨rfl, rfl⟩
  · simp only [ht] at h
    cases h
    exact ⟨rfl, rfl⟩

theorem Session.transition_timed {cur session : Session} {cmd : TransitionSessionCommand}
    (h : cur.transition cmd = .ok session) (ht : cur.Timed) : session.Timed := by
  obtain ⟨hc, he⟩ := Session.transition_times h
  rw [Session.Timed, hc, he]
  exact ht

theorem ServerChange.timedSessions (h : ServerChange env act server reply server') (hI : ServerInv server)
    (ht : TimedSessions server) : TimedSessions server' := by
  cases h with
  | waits hd hif =>
    refine ⟨by rw [hd]; exact ht.stored, fun command requestId hm => ?_⟩
    rcases hif _ hm with hm | ⟨_, _, _, _, _, _, hc⟩
    · exact ht.inserts command requestId hm
    · simp only [createSessionCommand, bind_eq_ok, pure_eq_ok] at hc
      obtain ⟨_, _, rfl⟩ := hc
      rfl
  | calls call _ hst hw _ _ hif =>
    refine ⟨fun id s hs => ?_, fun command requestId hm => ht.inserts command requestId (hif _ hm)⟩
    have he := step_effect env.toEnv server.database call
    rw [hst] at he
    generalize server'.database = db' at he hs
    cases he.remoteChange hI.keyed with
    | none _ _ _ hsessions => exact ht.stored id s (hsessions ▸ hs)
    | created =>
      obtain ⟨requestId, hm⟩ := hw
      rcases of_get_insert hs with ⟨-, rfl⟩ | hs
      · exact ht.inserts _ requestId hm
      · exact ht.stored id s hs
    | transitioned _ _ _ _ _ hcurrent _ _ _ hsession =>
      rcases of_get_insert hs with ⟨-, rfl⟩ | hs
      · exact Session.transition_timed hsession (ht.stored _ _ hcurrent)
      · exact ht.stored id s hs
    | forced _ _ _ _ _ _ _ _ _ hcs =>
      obtain ⟨s₀, hs₀, rfl⟩ := hcs.session_of hs
      split <;> exact ht.stored id s₀ hs₀

theorem timedSessions_start (db : Database) : TimedSessions (Server.start db) :=
  ⟨fun id s hs => by simp [Server.start, Database.withoutSessions] at hs, fun _ _ hm => by cases hm⟩

/-- What is made usable is what a request in flight was to make usable. -/
theorem madeUsable_asked {e : ServerEntry} {s : Session} {now : UInt64}
    (hch : ServerChange env e.call e.pre e.out e.post) (h : madeUsable e = some (s, now)) :
    ∃ stored, asksToUse e.pre e.call = some (stored, now) ∧
      s.sessionExpiresAtEpochMillis = stored.sessionExpiresAtEpochMillis ∧
      ∃ id : String, e.pre.database.sessions[id]? = some stored := by
  unfold madeUsable at h
  split at h
  · rename_i ha hcall
    split at h
    · rename_i hus
      cases h
      obtain ⟨⟨cur, hc⟩, -⟩ := hch.applied ha
      have hcl := hc.call
      rw [hcall] at hcl ⊢
      simp only [sessionCall] at hcl
      split at hcl
      · cases hcl
      · rename_i plan loaded role draws' hin
        cases hcl
        have hst : s.status = plan.target := (Session.transition_moved hc.moved).status
        refine ⟨cur, ?_, (Session.transition_times hc.moved).2, _, hc.found⟩
        have htarget : plan.target = .accepted ∨ plan.target = .connected := hst ▸ hus
        have hstored : e.pre.database.sessions[loaded.sessionId]? = some cur := hc.found
        simp only [asksToUse, hin]
        rw [hstored, Option.bind_some, if_pos ⟨htarget, hc.allowed, hc.status⟩]
      · cases hcl
    · cases h
  · cases h

end Steps

/-- **No session becomes usable after its time**, in any interleaving of the routes with the other
calls of the repository in which each request to accept or connect a session is carried out less
than five minutes after the creation of the session. -/
theorem usable_before_expiry (env : RouteEnv) (db : Database) (actions : List ServerAction)
    (hprompt : ∀ e ∈ trace (serverStep env) (Server.start db) actions, ∀ s now,
      asksToUse e.pre e.call = some (s, now) →
        now.toNat < s.createdAtEpochMillis.toNat + 300000 ∧ s.createdAtEpochMillis.toNat + 300000 < 2 ^ 64) :
    ∀ e ∈ trace (serverStep env) (Server.start db) actions, ∀ s now, madeUsable e = some (s, now) →
      now < s.sessionExpiresAtEpochMillis := by
  intro e he s now hu
  obtain ⟨hen, ⟨hI, ht⟩, -⟩ := forall_trace_of (serverStep env)
    (I := fun server => ServerInv server ∧ TimedSessions server)
    (fun server act _ h => ⟨serverInv_step h.1 act, (serverStep_change env server act).timedSessions h.1 h.2⟩) actions
    ⟨serverInv_start db, timedSessions_start db⟩ (fun _ _ => trivial) e he
  have hch : ServerChange env e.call e.pre e.out e.post := by
    rw [hen]
    exact serverStep_change env e.pre e.call
  obtain ⟨stored, hask, hep, id, hst⟩ := madeUsable_asked hch hu
  obtain ⟨hnow, hb⟩ := hprompt e he stored now hask
  have hm : (300000 : UInt64).toNat = 300000 := rfl
  rw [UInt64.lt_iff_toNat_lt, hep, ht.stored id stored hst, UInt64.toNat_add, hm, Nat.mod_eq_of_lt hb]
  exact hnow

/-! ### An invitation accepted in time and after it -/

def acceptance (timestamp : String) : RequestContext :=
  let post := samplePost "target" "/v1/sessions/session/accept" "n1" 1
  { post with request := { post.request with
      headers := post.request.headers.map fun (name, value) =>
        (name, if name = "x-rctl-timestamp" then timestamp else value) } }

def acceptedAt (now : UInt64) : List ServerAction :=
  sampleServed (samplePost "device" "/v1/sessions" "n0" 0) 1000 "create" ++
    sampleServed (acceptance (toString now)) now "accept"

theorem usable_before_expiry_sample :
    (∀ e ∈ trace (serverStep (sampleRoutes sampleBodies)) (Server.start twoDevices) (acceptedAt 300999),
      ∀ s now, madeUsable e = some (s, now) → now < s.sessionExpiresAtEpochMillis) ∧
    ∃ e ∈ trace (serverStep (sampleRoutes sampleBodies)) (Server.start twoDevices) (acceptedAt 300999),
      (madeUsable e).isSome = true := by
  have hasked : (((trace (serverStep (sampleRoutes sampleBodies)) (Server.start twoDevices)
      (acceptedAt 300999)).filterMap fun e => asksToUse e.pre e.call).map fun p => (p.2, p.1.createdAtEpochMillis)) =
        [(300999, 1000)] := by
    decide +kernel
  refine ⟨usable_before_expiry _ twoDevices _ fun e he s now hask => ?_, by decide +kernel⟩
  have hp := List.mem_map_of_mem (f := fun p : Session × UInt64 => (p.2, p.1.createdAtEpochMillis))
    (List.mem_filterMap (f := fun e : ServerEntry => asksToUse e.pre e.call).mpr ⟨e, he, hask⟩)
  rw [hasked, List.mem_singleton, Prod.mk.injEq] at hp
  obtain ⟨rfl, hs⟩ : now = 300999 ∧ s.createdAtEpochMillis = 1000 := hp
  rw [hs]
  decide

/-- Accepted as the five minutes end. -/
theorem accepted_after_expiry : ((acceptedAt 301000).filterMap ServerAction.clock).Pairwise (· ≤ ·) ∧
    ∃ e ∈ trace (serverStep (sampleRoutes sampleBodies)) (Server.start twoDevices) (acceptedAt 301000),
      (madeUsable e).any (fun (s, now) => s.sessionExpiresAtEpochMillis ≤ now) = true := by
  decide +kernel

end Rctl.Api
