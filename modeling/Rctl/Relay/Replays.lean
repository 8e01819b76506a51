/-
# An opening is admitted once

Any number of `authenticate_open` calls run side by side over one replay cache. A call takes
its time when it enters and purges the cache by that time when it records its nonce, which
may be much later: the purge of one call sees entries that other calls made in between, at
later times than its own.

An entry is kept for `REPLAY_RETENTION_MILLIS` after its token expires. As long as a call
reaches the cache less than that after it entered, a second opening with the token enters
before the token expires, so it reaches the cache before the entry may go; and a purge in
between is by a time that is no later than the clock. So an opening that has been admitted
is refused from then on: its token has expired for too long, or its entry is there
(`Spent`). With that, no two admitted openings have the token, the role and the nonce in
common, and everything that was checked of an admitted opening held at the time it took
(`relay_admission`).
-/
import Rctl.Lib.Run
import Rctl.Lib.Tasks
import Rctl.Relay.Admission

namespace Rctl.Relay

open ByteString Result OrdMap StateRun Tasks
open Rctl.Api (saturatingAdd saturatingAdd_toNat le_later)

/-! ### The calls in flight -/

/-- A call of `authenticate_open`, with the time it took from the clock. -/
structure OpenCall where
  relayOpen : RelayOpen
  expectedTransport : TransportPath
  now : UInt64
  deriving DecidableEq

/-- Where a call waits: for the answer of the API server, or for the replay cache. -/
inductive OpenStage
  | authorizer (call : OpenCall) (request : RelayAuthorizeRequest)
  | replays (call : OpenCall) (authorization : RelayAuthorization)
  deriving DecidableEq

inductive OpenReply
  | idle
  | waits (stage : OpenStage)
  | done (result : Except AuthError AuthenticatedOpen)

def OpenReply.next : OpenReply → Option OpenStage
  | waits stage => some stage
  | _ => none

/-- A call up to its first wait. -/
def enterOpen (env : RelayEnv) (config : AppConfig) (nodeEnabled : Bool) (call : OpenCall) : OpenReply :=
  match checkOpen env config nodeEnabled call.relayOpen call.expectedTransport call.now with
  | .ok request => .waits (.authorizer call request)
  | .error e => .done (.error e)

/-- A call from one wait to the next. `answer` is the answer of the API server, if the call
waits for it. -/
def advanceOpen (env : RelayEnv) (answer : Except AuthError RelayAuthorization) (replays : Replays) :
    OpenStage → OpenReply × Replays
  | .authorizer call request => match answer with
    | .error e => (.done (.error e), replays)
    | .ok authorization =>
      match checkAuthorization env call.relayOpen request authorization call.now with
      | .error e => (.done (.error e), replays)
      | .ok _ => (.waits (.replays call authorization), replays)
  | .replays call _ =>
    let (recorded, replays) := recordReplay replays call.relayOpen call.now
    (.done (recorded.map fun _ => ⟨call.relayOpen.deviceId⟩), replays)

structure RelayServer where
  clock : UInt64
  nodeEnabled : Bool
  replays : Replays
  inFlight : List OpenStage

inductive RelayAction
  | tick (now : UInt64)
  | setNodeEnabled (enabled : Bool)
  | arrive (relayOpen : RelayOpen) (expectedTransport : TransportPath)
  | resume (index : ℕ) (answer : Except AuthError RelayAuthorization)

/-- The clock is never set back. -/
def relayStep (env : RelayEnv) (config : AppConfig) (server : RelayServer) : RelayAction → OpenReply × RelayServer
  | .tick now => (.idle, { server with clock := if server.clock < now then now else server.clock })
  | .setNodeEnabled enabled => (.idle, { server with nodeEnabled := enabled })
  | .arrive relayOpen expectedTransport =>
    let reply := enterOpen env config server.nodeEnabled ⟨relayOpen, expectedTransport, server.clock⟩
    (reply, { server with inFlight := server.inFlight ++ reply.next.toList })
  | .resume index answer => match server.inFlight[index]? with
    | none => (.idle, server)
    | some stage =>
      let (reply, replays) := advanceOpen env answer server.replays stage
      (reply, { server with replays, inFlight := replaceTask server.inFlight index reply.next })

abbrev RelayEntry := Entry RelayServer RelayAction OpenReply

/-- `AppState::new`, at some time. -/
def RelayServer.start (clock : UInt64) : RelayServer := ⟨clock, true, ∅, []⟩

def resumedOpen (e : RelayEntry) : Option OpenStage :=
  match e.call with
  | .resume index _ => e.pre.inFlight[index]?
  | _ => none

/-- The call that a step admits, with the answer it had from the API server. -/
def admission (e : RelayEntry) : Option (OpenCall × RelayAuthorization) :=
  match resumedOpen e, e.out with
  | some (.replays call authorization), .done (.ok _) => some (call, authorization)
  | _, _ => none

def admittedKey (e : RelayEntry) : Option ReplayKey := (admission e).map fun a => replayKey a.1.relayOpen

def presented (actions : List RelayAction) : List RelayOpen :=
  actions.filterMap fun
    | .arrive relayOpen _ => some relayOpen
    | _ => none

/-! ### What is assumed and what is claimed -/

/-- The tokens are those in `issued`, no two of them with one id; and the signatures are
those the devices made, `signed` being what the holder of each key has signed. -/
structure Unforged (env : RelayEnv) (config : AppConfig) (issued : RelayTokenClaims → Prop)
    (signed : ByteArr 32 → RelayOpen → Prop) (openings : List RelayOpen) : Prop where
  token : ∀ relayOpen ∈ openings, ∀ claims,
    verifyRelayToken env relayOpen.sessionRelayToken config.relayTokenSecret = .ok claims → issued claims
  tokenId : ∀ claims claims', issued claims → issued claims' → claims.relayTokenId = claims'.relayTokenId →
    claims = claims'
  signature : ∀ relayOpen ∈ openings, ∀ publicKey canonical signature,
    SignatureValid env relayOpen publicKey canonical signature →
    ∃ own ownCanonical, signed publicKey own ∧ relayOpenCanonicalBytes own = .ok ownCanonical ∧
      env.sha256 ownCanonical = env.sha256 canonical
  sha256 : Set.InjOn env.sha256 {bytes | (∃ relayOpen ∈ openings, relayOpenCanonicalBytes relayOpen = .ok bytes) ∨
    ∃ publicKey relayOpen, signed publicKey relayOpen ∧ relayOpenCanonicalBytes relayOpen = .ok bytes}

/-- What is known of an admitted opening: the token is one that was issued and has the claims
of the opening, the API server has agreed, and the device has signed this very opening. -/
structure Admitted (env : RelayEnv) (config : AppConfig) (issued : RelayTokenClaims → Prop)
    (signed : ByteArr 32 → RelayOpen → Prop) (call : OpenCall) (authorization : RelayAuthorization) : Prop where
  token : issued (claimsFromOpen call.relayOpen)
  valid : OpenValid env config call.relayOpen call.expectedTransport call.now
  authorized : AuthorizationValid call.relayOpen authorization call.now
  signature : ∃ publicKey own, decodeArray env 32 authorization.devicePublicKey = some publicKey ∧
    signed publicKey own ∧ { own with deviceSignature := call.relayOpen.deviceSignature } = call.relayOpen ∧
    ∃ canonical signature, SignatureValid env call.relayOpen publicKey canonical signature

structure RelayAdmission (env : RelayEnv) (config : AppConfig) (issued : RelayTokenClaims → Prop)
    (signed : ByteArr 32 → RelayOpen → Prop) (log : List RelayEntry) : Prop where
  once : (log.filterMap admittedKey).Pairwise (· ≠ ·)
  admitted : ∀ e ∈ log, ∀ call authorization, admission e = some (call, authorization) →
    Admitted env config issued signed call authorization
  full : ∀ e ∈ log, ∀ call authorization, resumedOpen e = some (.replays call authorization) →
    MAX_REPLAY_ENTRIES ≤ (liveReplays e.pre.replays call.now).size → e.out = .done (.error .replayCacheFull)

/-- The call that the step resumes, if it waits for the cache, has entered less than
`REPLAY_RETENTION_MILLIS` ago. -/
def prompt (e : RelayEntry) : Bool :=
  match resumedOpen e with
  | some (.replays call _) => decide (e.pre.clock.toNat < call.now.toNat + REPLAY_RETENTION_MILLIS.toNat)
  | _ => true

/-! ### One step -/

structure Entered (env : RelayEnv) (config : AppConfig) (openings : List RelayOpen) (clock : UInt64)
    (call : OpenCall) : Prop where
  presented : call.relayOpen ∈ openings
  time : call.now ≤ clock
  valid : OpenValid env config call.relayOpen call.expectedTransport call.now

def StageValid (env : RelayEnv) (config : AppConfig) (openings : List RelayOpen) (clock : UInt64) : OpenStage → Prop
  | .authorizer call request => Entered env config openings clock call ∧ request = authorizeRequest call.relayOpen
  | .replays call authorization => Entered env config openings clock call ∧
      checkAuthorization env call.relayOpen (authorizeRequest call.relayOpen) authorization call.now = .ok ()

def StagesValid (env : RelayEnv) (config : AppConfig) (openings : List RelayOpen) (server : RelayServer) : Prop :=
  ∀ stage ∈ server.inFlight, StageValid env config openings server.clock stage

variable {relayOpen : RelayOpen}

section Steps

variable {env : RelayEnv} {config : AppConfig} {issued : RelayTokenClaims → Prop}
  {signed : ByteArr 32 → RelayOpen → Prop} {openings : List RelayOpen} {server : RelayServer} {act : RelayAction}
  {call : OpenCall} {authorization : RelayAuthorization} {stage : OpenStage} {clock : UInt64}

theorem StageValid.mono {clock' : UInt64} (hc : clock ≤ clock')
    (h : StageValid env config openings clock stage) : StageValid env config openings clock' stage := by
  have he : ∀ call, Entered env config openings clock call → Entered env config openings clock' call :=
    fun _ h => ⟨h.presented, UInt64.le_trans h.time hc, h.valid⟩
  cases stage with
  | authorizer call | replays call => exact ⟨he call h.1, h.2⟩

theorem relayStep_resume {ix : ℕ} (answer : Except AuthError RelayAuthorization)
    (h : server.inFlight[ix]? = some stage) :
    relayStep env config server (.resume ix answer) =
      ((advanceOpen env answer server.replays stage).1,
        { server with
          replays := (advanceOpen env answer server.replays stage).2
          inFlight := replaceTask server.inFlight ix (advanceOpen env answer server.replays stage).1.next }) := by
  simp only [relayStep, h]

theorem relayStep_resume_none {ix : ℕ} (answer : Except AuthError RelayAuthorization)
    (h : server.inFlight[ix]? = none) : relayStep env config server (.resume ix answer) = (.idle, server) := by
  simp only [relayStep, h]

theorem stageValid_enterOpen {nodeEnabled : Bool} (hp : call.relayOpen ∈ openings)
    (ht : call.now ≤ clock) (h : (enterOpen env config nodeEnabled call).next = some stage) :
    StageValid env config openings clock stage := by
  unfold enterOpen at h
  split at h
  · rename_i hc
    cases h
    obtain ⟨hv, hr⟩ := checkOpen_eq_ok hc
    exact ⟨⟨hp, ht, hv⟩, hr⟩
  · cases h

theorem stageValid_advanceOpen {answer : Except AuthError RelayAuthorization} {replays : Replays}
    {next : OpenStage} (h : StageValid env config openings clock stage)
    (hn : (advanceOpen env answer replays stage).1.next = some next) :
    StageValid env config openings clock next := by
  cases stage with
  | authorizer call req =>
    obtain ⟨he, rfl⟩ := h
    unfold advanceOpen at hn
    cases answer with
    | error e => cases hn
    | ok authorization =>
      simp only at hn
      split at hn
      · cases hn
      · rename_i hc
        cases hn
        exact ⟨he, hc⟩
  | replays call authorization => cases hn

theorem stagesValid_step (hp : ∀ relayOpen expected, act = .arrive relayOpen expected →
      relayOpen ∈ openings) (h : StagesValid env config openings server) :
    StagesValid env config openings (relayStep env config server act).2 := by
  cases act with
  | tick now => exact fun stage hm => (h stage hm).mono (le_later server.clock now)
  | setNodeEnabled => exact h
  | arrive relayOpen expected =>
    intro stage hm
    rcases List.mem_append.mp hm with hm | hm
    · exact h stage hm
    · exact stageValid_enterOpen (hp relayOpen expected rfl) (UInt64.le_refl _) (Option.mem_toList.mp hm)
  | resume ix answer =>
    cases hst : server.inFlight[ix]? with
    | none =>
      rw [relayStep_resume_none answer hst]
      exact h
    | some stage =>
      rw [relayStep_resume answer hst]
      intro other ho
      rcases mem_replaceTask ho with ho | hn
      · exact h other ho
      · exact stageValid_advanceOpen (h stage (List.mem_of_getElem? hst)) hn

/-- The cache is changed by the calls that wait for it. -/
theorem replays_step (env : RelayEnv) (config : AppConfig) (server : RelayServer) (act : RelayAction) :
    server.clock ≤ (relayStep env config server act).2.clock ∧
    ((relayStep env config server act).2.replays = server.replays ∨
      ∃ call authorization, .replays call authorization ∈ server.inFlight ∧
        (relayStep env config server act).2.replays = (recordReplay server.replays call.relayOpen call.now).2) := by
  cases act with
  | tick now => exact ⟨le_later server.clock now, .inl rfl⟩
  | setNodeEnabled | arrive => exact ⟨UInt64.le_refl _, .inl rfl⟩
  | resume ix answer =>
    cases hst : server.inFlight[ix]? with
    | none =>
      rw [relayStep_resume_none answer hst]
      exact ⟨UInt64.le_refl _, .inl rfl⟩
    | some stage =>
      rw [relayStep_resume answer hst]
      refine ⟨UInt64.le_refl _, ?_⟩
      cases stage with
      | authorizer =>
        refine .inl ?_
        unfold advanceOpen
        cases answer with
        | error => rfl
        | ok =>
          simp only
          split <;> rfl
      | replays call authorization =>
        exact .inr ⟨call, authorization, List.mem_of_getElem? hst, rfl⟩

theorem resumedOpen_eq_some (h : resumedOpen (entry (relayStep env config) server act) = some stage) :
    ∃ ix answer, act = .resume ix answer ∧ server.inFlight[ix]? = some stage := by
  cases act with
  | resume ix answer => exact ⟨ix, answer, rfl, h⟩
  | _ => cases h

/-- A call that waits for the cache is over with the next step. -/
theorem relayStep_replays
    (h : resumedOpen (entry (relayStep env config) server act) = some (.replays call authorization)) :
    (relayStep env config server act).1 =
        .done ((recordReplay server.replays call.relayOpen call.now).1.map fun _ => ⟨call.relayOpen.deviceId⟩) ∧
      (relayStep env config server act).2.replays = (recordReplay server.replays call.relayOpen call.now).2 := by
  obtain ⟨ix, answer, rfl, hst⟩ := resumedOpen_eq_some h
  rw [relayStep_resume answer hst]
  exact ⟨rfl, rfl⟩

/-- A call that is admitted was waiting for the cache, and the cache has recorded it. -/
theorem admission_spec (h : admission (entry (relayStep env config) server act) = some (call, authorization)) :
    resumedOpen (entry (relayStep env config) server act) = some (.replays call authorization) ∧
      .replays call authorization ∈ server.inFlight ∧ (recordReplay server.replays call.relayOpen call.now).1 = .ok () ∧
      (relayStep env config server act).2.replays = (recordReplay server.replays call.relayOpen call.now).2 := by
  unfold admission at h
  split at h
  · rename_i hr ho
    cases h
    obtain ⟨hrp, hreplays⟩ := relayStep_replays hr
    obtain ⟨ix, answer, rfl, hst⟩ := resumedOpen_eq_some hr
    refine ⟨hr, List.mem_of_getElem? hst, ?_, hreplays⟩
    rw [entry_out, hrp] at ho
    cases hrecorded : (recordReplay server.replays call.relayOpen call.now).1 with
    | ok => rfl
    | error =>
      rw [hrecorded] at ho
      cases ho
  · cases h

/-! ### Openings that are spent -/

/-- The token of the opening has expired for too long, or the cache holds the opening. -/
def Spent (server : RelayServer) (relayOpen : RelayOpen) : Prop :=
  relayOpen.expiresAtEpochMillis.toNat + REPLAY_RETENTION_MILLIS.toNat ≤ server.clock.toNat ∨
    server.replays[replayKey relayOpen]? = some (retainUntil relayOpen)

/-- Openings with one token id have one token, which expires once. -/
theorem Unforged.expires_eq (h : Unforged env config issued signed openings) {call' : OpenCall}
    {clock' : UInt64} (hc : Entered env config openings clock call)
    (hcall' : Entered env config openings clock' call') (hk : replayKey call.relayOpen = replayKey call'.relayOpen) :
    call.relayOpen.expiresAtEpochMillis = call'.relayOpen.expiresAtEpochMillis := by
  have hclaims := h.tokenId _ _ (h.token _ hc.presented _ hc.valid.claims)
    (h.token _ hcall'.presented _ hcall'.valid.claims) (congrArg ReplayKey.relayTokenId hk)
  exact congrArg RelayTokenClaims.expiresAtEpochMillis hclaims

/-- The purge of a call keeps the entry of an opening whose token has not expired for too
long. The time of the call is before the expiry of its own token, so it is not the end of
the clock, at which the time an entry is kept until is cut off. -/
theorem entry_kept (hc : Entered env config openings server.clock call)
    (hclock : server.clock.toNat < relayOpen.expiresAtEpochMillis.toNat + REPLAY_RETENTION_MILLIS.toNat)
    (hg : server.replays[replayKey relayOpen]? = some (retainUntil relayOpen)) :
    server.replays[replayKey relayOpen]?.filter (call.now < ·) = some (retainUntil relayOpen) := by
  have ht := UInt64.le_iff_toNat_le.mp hc.time
  have he := UInt64.lt_iff_toNat_lt.mp hc.valid.unexpired
  have hla := call.relayOpen.expiresAtEpochMillis.toNat_lt
  have hl : call.now < retainUntil relayOpen := by
    rw [UInt64.lt_iff_toNat_lt, retainUntil, saturatingAdd_toNat]
    omega
  rw [hg, Option.filter_some, if_pos (decide_eq_true hl)]

theorem spent_step (hu : Unforged env config issued signed openings)
    (hv : StagesValid env config openings server) (hcl : Entered env config openings clock call)
    (h : Spent server call.relayOpen) : Spent (relayStep env config server act).2 call.relayOpen := by
  obtain ⟨hc, hreplays⟩ := replays_step env config server act
  have hc := UInt64.le_iff_toNat_le.mp hc
  rcases h with hlt | hg
  · exact .inl (Nat.le_trans hlt hc)
  · rcases hreplays with hsm | ⟨other, authorization, hm, hr⟩
    · exact .inr (hsm ▸ hg)
    · have ho := (hv _ hm).1
      by_cases hlt : call.relayOpen.expiresAtEpochMillis.toNat + REPLAY_RETENTION_MILLIS.toNat ≤ server.clock.toNat
      · exact .inl (Nat.le_trans hlt hc)
      · refine .inr ?_
        rw [hr, get_recordReplay]
        split
        · -- the same opening is written again, with the same time
          rename_i hsm
          rw [retainUntil, retainUntil, hu.expires_eq ho hcl hsm.2]
        · exact entry_kept ho (Nat.lt_of_not_le hlt) hg

/-- **An opening that is spent is refused.** -/
theorem not_admitted_of_spent (hu : Unforged env config issued signed openings)
    (hv : StagesValid env config openings server)
    (hp : prompt (entry (relayStep env config) server act) = true) {other : OpenCall}
    (hcl : Entered env config openings clock call) (h : Spent server call.relayOpen)
    (ha : admission (entry (relayStep env config) server act) = some (other, authorization)) :
    replayKey call.relayOpen ≠ replayKey other.relayOpen := by
  intro hk
  obtain ⟨hr, hm, hrecorded, _⟩ := admission_spec ha
  have ho := (hv _ hm).1
  have hx := congrArg UInt64.toNat (hu.expires_eq hcl ho hk)
  -- the call has entered before the token expired, and has not waited for too long
  have hear : server.clock.toNat < call.relayOpen.expiresAtEpochMillis.toNat + REPLAY_RETENTION_MILLIS.toNat := by
    have he := UInt64.lt_iff_toNat_lt.mp ho.valid.unexpired
    rw [prompt, hr, entry_pre, decide_eq_true_eq] at hp
    omega
  rcases h with hlt | hg
  · omega
  · have hno := (recordReplay_fst.mp hrecorded).2
    rw [get_liveReplays, ← hk, entry_kept ho hear hg] at hno
    cases hno

theorem spent_of_admitted
    (ha : admission (entry (relayStep env config) server act) = some (call, authorization)) :
    Spent (relayStep env config server act).2 call.relayOpen := by
  obtain ⟨_, _, hr, hreplays⟩ := admission_spec ha
  refine .inr ?_
  rw [hreplays, get_recordReplay, if_pos ⟨(recordReplay_fst.mp hr).1, rfl⟩]

/-! ### What is known of an admitted opening -/

theorem Unforged.signed_open (h : Unforged env config issued signed openings) {pk : ByteArr 32}
    {canonical : Bytes} {sig : ByteArr 64} (hp : relayOpen ∈ openings)
    (hg : SignatureValid env relayOpen pk canonical sig) :
    ∃ own, signed pk own ∧ { own with deviceSignature := relayOpen.deviceSignature } = relayOpen := by
  obtain ⟨own, ownCanonical, hs, ho, hd⟩ := h.signature relayOpen hp _ _ _ hg
  have hby := h.sha256 (.inr ⟨pk, own, hs, ho⟩) (.inl ⟨relayOpen, hp, hg.canonical_eq⟩) hd
  subst hby
  exact ⟨own, hs, relayOpenCanonicalBytes_inj hg.canonical_eq ho⟩

theorem admitted_of_stage (h : Unforged env config issued signed openings)
    (hst : StageValid env config openings clock (.replays call authorization)) :
    Admitted env config issued signed call authorization := by
  obtain ⟨he, hc⟩ := hst
  obtain ⟨haz, pk, canonical, sig, hk, hg⟩ := checkAuthorization_eq_ok hc
  obtain ⟨own, hs, ho⟩ := h.signed_open he.presented hg
  exact ⟨h.token _ he.presented _ he.valid.claims, he.valid, haz, pk, own, hk, hs, ho, canonical, sig, hg⟩

theorem relayStep_full
    (hr : resumedOpen (entry (relayStep env config) server act) = some (.replays call authorization))
    (hf : MAX_REPLAY_ENTRIES ≤ (liveReplays server.replays call.now).size) :
    (relayStep env config server act).1 = .done (.error .replayCacheFull) := by
  rw [(relayStep_replays hr).1, recordReplay]
  simp only [if_pos hf]
  rfl

end Steps

/-! ### Runs -/

/-- **Admission is authenticated and free of replays**, for every run of calls that reach the
cache in time: no two admitted openings have the token id, the role and the nonce in common;
each of them was checked at the time its call took; and none is admitted while the cache is
full. -/
theorem relay_admission (env : RelayEnv) (config : AppConfig) (issued : RelayTokenClaims → Prop)
    (signed : ByteArr 32 → RelayOpen → Prop) (clock : UInt64) (actions : List RelayAction)
    (hunforged : Unforged env config issued signed (presented actions))
    (hprompt : ∀ e ∈ trace (relayStep env config) (.start clock) actions, prompt e = true) :
    RelayAdmission env config issued signed (trace (relayStep env config) (.start clock) actions) := by
  let Arrives (e : RelayEntry) : Prop := ∀ relayOpen expected, e.call = .arrive relayOpen expected →
    relayOpen ∈ presented actions
  have harrives : ∀ e ∈ trace (relayStep env config) (.start clock) actions, Arrives e ∧ prompt e = true := by
    refine fun e he => ⟨fun relayOpen expected hcl => ?_, hprompt e he⟩
    obtain ⟨before, after, hai, _⟩ := mem_trace (relayStep env config) he
    refine List.mem_filterMap.mpr ⟨e.call, ?_, by rw [hcl]⟩
    exact hai ▸ List.mem_append_right before List.mem_cons_self
  have hI : ∀ server act, Arrives (entry (relayStep env config) server act) ∧
      prompt (entry (relayStep env config) server act) = true → StagesValid env config (presented actions) server →
      StagesValid env config (presented actions) (relayStep env config server act).2 :=
    fun server act hQ => stagesValid_step hQ.1
  have ht : StagesValid env config (presented actions) (.start clock) := fun stage hm => by cases hm
  have hentries := forall_trace_of (relayStep env config) hI actions ht harrives
  refine ⟨?_, fun e he call authorization ha => ?_, fun e he call authorization hr hfl => ?_⟩
  · rw [List.pairwise_filterMap]
    refine pairwise_trace (relayStep env config) hI ?_ actions ht harrives
    intro server act rest hQ hv hrs e he key hk key' hk'
    obtain ⟨⟨call, authorization⟩, ha, rfl⟩ := Option.map_eq_some_iff.mp hk
    obtain ⟨⟨call', authorization'⟩, ha', rfl⟩ := Option.map_eq_some_iff.mp hk'
    have hentered := (hv _ (admission_spec ha).2.1).1
    -- the opening is spent from here on
    obtain ⟨hen, ⟨hl, hs⟩, _⟩ := forall_trace_of (relayStep env config)
      (I := fun server => StagesValid env config (presented actions) server ∧ Spent server call.relayOpen)
      (fun server act hQ h => ⟨hI server act hQ h.1, spent_step hunforged h.1 hentered h.2⟩) rest
      ⟨hI server act hQ hv, spent_of_admitted ha⟩ hrs e he
    have hla := (hrs e he).2
    rw [hen] at ha' hla
    exact not_admitted_of_spent hunforged hl hla hentered hs ha'
  · obtain ⟨hen, hv, _⟩ := hentries e he
    rw [hen] at ha
    exact admitted_of_stage hunforged (hv _ (admission_spec ha).2.1)
  · obtain ⟨hen, _⟩ := hentries e he
    rw [hen] at hr ⊢
    exact relayStep_full hr hfl

/-! ### Two devices and a replay -/

def sampleClaims (role : SessionRole) : RelayTokenClaims :=
  { sessionId := 7, deviceId := role.asStr ++ "-device", role, controllerDeviceId := "controller-device",
    controlledDeviceId := "controlled-device", relayNodeId := "relay", transport := .quicRelay,
    permissionsDigest := Vector.replicate 32 1, relayTokenEpoch := 1, issuedAtEpochMillis := 100000,
    expiresAtEpochMillis := 160000, relayTokenId := role.asStr ++ "-token" }

/-- The payload of a token names the role; its MAC is a row of `m`s. A signature is the key and
the digest. -/
def sampleRelayEnv : RelayEnv where
  sha256 bytes := ByteArr.ofNat 32 (fromBeBytes bytes % (2 ^ 255 - 19))
  hmacSha256 _ _ := some (Vector.replicate 32 0x6d)
  base64UrlDecode := some
  claimsFromSlice payload := ([.controller, .controlled] : List SessionRole).findSome? fun role =>
    if payload = utf8 role.asStr then some (sampleClaims role) else none
  ed25519Key _ := true
  ed25519Verify publicKey digest signature := signature.toList == publicKey.toList ++ digest.toList

def sampleConfig : AppConfig := ⟨"relay", [], [.quicRelay]⟩

def sampleKey : ByteArr 32 := Vector.replicate 32 0x6b

def unsignedOpen (role : SessionRole) : RelayOpen :=
  let claims := sampleClaims role
  { sessionId := claims.sessionId, deviceId := claims.deviceId, role, controllerDeviceId := claims.controllerDeviceId,
    controlledDeviceId := claims.controlledDeviceId, relayNodeId := claims.relayNodeId,
    transport := claims.transport, permissionsDigest := claims.permissionsDigest,
    relayTokenEpoch := claims.relayTokenEpoch, issuedAtEpochMillis := claims.issuedAtEpochMillis,
    expiresAtEpochMillis := claims.expiresAtEpochMillis, relayTokenId := claims.relayTokenId,
    relayOpenNonce := Vector.replicate 32 2,
    sessionRelayToken := utf8 role.asStr ++ [0x2e] ++ List.replicate 32 0x6d,
    tokenBindingHash := (relayTokenBindingHash sampleRelayEnv claims).toOption.getD (Vector.replicate 32 0),
    deviceSignature := [] }

def sampleOpen (role : SessionRole) : RelayOpen :=
  { unsignedOpen role with
    deviceSignature := match relayOpenCanonicalBytes (unsignedOpen role) with
      | .ok canonical => sampleKey.toList ++ (sampleRelayEnv.sha256 canonical).toList
      | .error _ => [] }

def sampleAuthorization (role : SessionRole) : RelayAuthorization :=
  { authorized := true, sessionId := uuidString 7, role := role.asStr, controllerDeviceId := "controller-device",
    controlledDeviceId := "controlled-device", permissionsDigest := hex (List.replicate 32 1), relayTokenEpoch := 1,
    authorizationExpiresAtEpochMillis := 200000, devicePublicKey := String.ofList (List.replicate 32 'k'),
    devicePublicKeyId := "key", devicePublicKeyVersion := 1 }

/-- The controller opens twice with one nonce, the controlled side once. -/
def sampleOpenings : List RelayAction :=
  [.arrive (sampleOpen .controller) .quicRelay, .arrive (sampleOpen .controller) .quicRelay,
    .arrive (sampleOpen .controlled) .quicRelay, .resume 0 (.ok (sampleAuthorization .controller)),
    .resume 1 (.ok (sampleAuthorization .controller)), .resume 2 (.ok (sampleAuthorization .controlled)),
    .tick 120000, .resume 0 (.error .authorizationUnavailable), .resume 0 (.error .authorizationUnavailable),
    .resume 0 (.error .authorizationUnavailable)]

def sampleIssued (claims : RelayTokenClaims) : Prop := ∃ role, claims = sampleClaims role

def sampleSigned (publicKey : ByteArr 32) (relayOpen : RelayOpen) : Prop :=
  publicKey = sampleKey ∧ ∃ role, relayOpen = sampleOpen role

theorem presented_sampleOpenings (h : relayOpen ∈ presented sampleOpenings) :
    ∃ role, relayOpen = sampleOpen role := by
  have hm : relayOpen ∈ [sampleOpen .controller, sampleOpen .controller, sampleOpen .controlled] := h
  simp only [List.mem_cons, List.not_mem_nil, or_false] at hm
  rcases hm with rfl | rfl | rfl
  exacts [⟨_, rfl⟩, ⟨_, rfl⟩, ⟨_, rfl⟩]

theorem sampleOpen_digest_inj {role role' : SessionRole} {bs bytes' : Bytes}
    (h : relayOpenCanonicalBytes (sampleOpen role) = .ok bs)
    (h' : relayOpenCanonicalBytes (sampleOpen role') = .ok bytes')
    (hd : sampleRelayEnv.sha256 bs = sampleRelayEnv.sha256 bytes') : bs = bytes' := by
  have hdistinct : ∀ role : SessionRole,
      (relayOpenCanonicalBytes (sampleOpen role)).toOption.map sampleRelayEnv.sha256 ≠
        (relayOpenCanonicalBytes (sampleOpen role.opposite)).toOption.map sampleRelayEnv.sha256 := by
    intro role
    cases role <;> decide +kernel
  by_cases hr : role' = role
  · subst hr
    exact Except.ok.inj (h.symm.trans h')
  · have ho : role' = role.opposite := by
      revert hr
      cases role <;> cases role' <;> decide
    refine absurd ?_ (hdistinct role)
    rw [← ho, h, h']
    exact congrArg some hd

theorem sampleUnforged : Unforged sampleRelayEnv sampleConfig sampleIssued sampleSigned (presented sampleOpenings) where
  token relayOpen hm claims hc := by
    obtain ⟨role, rfl⟩ := presented_sampleOpenings hm
    have hve : ∀ role : SessionRole, (verifyRelayToken sampleRelayEnv (sampleOpen role).sessionRelayToken
        sampleConfig.relayTokenSecret).toOption = some (sampleClaims role) := by
      intro role
      cases role <;> decide +kernel
    have hc := hve role ▸ congrArg Except.toOption hc
    exact ⟨role, (Option.some.inj hc).symm⟩
  tokenId := by
    rintro _ _ ⟨role, rfl⟩ ⟨role', rfl⟩ hid
    revert hid
    cases role <;> cases role' <;> decide
  signature relayOpen hm pk canonical signature hv := by
    obtain ⟨role, rfl⟩ := presented_sampleOpenings hm
    refine ⟨sampleOpen role, canonical, ⟨?_, role, rfl⟩, hv.canonical_eq, rfl⟩
    have hk : (sampleOpen role).deviceSignature.take 32 = sampleKey.toList := by
      cases role <;> decide +kernel
    have hby := toByteArr_eq_some hv.signature_eq
    have hverifies : signature.toList = pk.toList ++ (sampleRelayEnv.sha256 canonical).toList :=
      beq_iff_eq.mp hv.verifies
    rw [← hby, hverifies, List.take_left' pk.length_toList] at hk
    exact Vector.toList_inj.mp hk
  sha256 := by
    have hrl : ∀ bytes, ((∃ relayOpen ∈ presented sampleOpenings, relayOpenCanonicalBytes relayOpen = .ok bytes) ∨
        ∃ pk relayOpen, sampleSigned pk relayOpen ∧ relayOpenCanonicalBytes relayOpen = .ok bytes) →
        ∃ role, relayOpenCanonicalBytes (sampleOpen role) = .ok bytes := by
      rintro bytes (⟨relayOpen, hm, hby⟩ | ⟨_, _, ⟨_, role, rfl⟩, hby⟩)
      · obtain ⟨role, rfl⟩ := presented_sampleOpenings hm
        exact ⟨role, hby⟩
      · exact ⟨role, hby⟩
    intro bytes hby bs' hby' hd
    obtain ⟨_, hby⟩ := hrl bytes hby
    obtain ⟨_, hby'⟩ := hrl bs' hby'
    exact sampleOpen_digest_inj hby hby' hd

theorem relay_admission_sample :
    RelayAdmission sampleRelayEnv sampleConfig sampleIssued sampleSigned
        (trace (relayStep sampleRelayEnv sampleConfig) (.start 100000) sampleOpenings) ∧
      (trace (relayStep sampleRelayEnv sampleConfig) (.start 100000) sampleOpenings).filterMap admittedKey =
        [replayKey (sampleOpen .controller), replayKey (sampleOpen .controlled)] := by
  exact ⟨relay_admission sampleRelayEnv sampleConfig sampleIssued sampleSigned 100000 sampleOpenings
    sampleUnforged (by decide +kernel), by decide +kernel⟩

end Rctl.Relay
