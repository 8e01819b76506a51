/-
# The lock against password guessing

A login reads whether the account is locked, evaluates the password, and records a failure
or clears the count: three steps, between which other logins run. The password is evaluated
in any case, so that the time a refusal takes does not tell whether the account is locked;
and a login that succeeds clears the count of the failures before it
(`guesses_beyond_limit`).

So what the lock bounds is this. From one lock to the next, as long as no login succeeds and
the count does not run out, the passwords that are evaluated for logins that found no lock
are at most `MAX_LOGIN_FAILURES`, apart from those of logins that overlap the beginning or
the end. And a login that reads the lock in force is refused, whatever its password
(`lockout`).

The proof keeps an account of the guesses (`guesses_step`): each one that is made adds to
`recorded`, the failures counted together with those that are about to be, or takes from
`overtaken`, the logins that the lock has overtaken.
-/
import Rctl.Api.ChallengeLifecycle
import Rctl.Api.LoginFailures
import Rctl.Lib.Tasks

namespace Rctl.Api

open ByteString Result OrdMap StateRun Tasks

/-! ### A login up to its password -/

def MAX_LOGIN_FAILURES : ℕ := 5
def LOCK_MILLIS : UInt64 := 60000
def LOGIN_FAILURE_STATE_TTL_MILLIS : UInt64 := 15 * 60000

/-- With the hash that stands in for the one of an unknown account. -/
structure LoginEnv extends Env where
  dummyPasswordHash : String

def verifyPasswordOrDummy (env : LoginEnv) (passwordHash : Option String) (candidate : String) : Bool :=
  env.verifyPassword (passwordHash.getD env.dummyPasswordHash) candidate && passwordHash.isSome

def loginFailureKey (env : Env) (account : Option Account) (normalizedEmail : String) : String :=
  let principal := (account.map (·.accountId)).getD normalizedEmail
  let principalKind := if account.isSome then "account" else "email"
  env.sha256Hex (utf8 ("rctl-login-limit-v1\x00" ++ principalKind ++ "\x00" ++ principal))

/-- A login request with its normalised email, at the time it took from the clock. -/
structure LoginAttempt where
  email : String
  password : String
  requestId : String
  now : UInt64
  deriving DecidableEq

def LoginAttempt.key (env : LoginEnv) (attempt : LoginAttempt) (account : Option Account) : String :=
  loginFailureKey env.toEnv account attempt.email

def LoginAttempt.passwordValid (env : LoginEnv) (attempt : LoginAttempt) (account : Option Account) : Bool :=
  verifyPasswordOrDummy env (account.map (·.passwordHash)) attempt.password

/-- Where a login waits, with what it knows by then: for its account, for the state of
failures, for the password to be evaluated, for its failure to be recorded, or for the
count to be cleared. -/
inductive LoginStage
  | account (attempt : LoginAttempt)
  | failureState (attempt : LoginAttempt) (account : Option Account)
  | verify (attempt : LoginAttempt) (account : Option Account) (locked : Bool)
  | record (attempt : LoginAttempt) (account : Option Account) (locked : Bool) (failedAt : UInt64)
  | clear (attempt : LoginAttempt) (account : Account)
  deriving DecidableEq

structure FailureAudit where
  action : String
  result : String
  reason : String
  deriving DecidableEq, Repr

inductive LoginReply
  | idle
  | waits (stage : LoginStage)
  | refused (error : ApiError) (audits : List FailureAudit)
  | admitted (account : Account)
  deriving DecidableEq

def LoginReply.next : LoginReply → Option LoginStage
  | waits stage => some stage
  | _ => none

def invalidCredentials (requestId : String) : ApiError :=
  ⟨.unauthorized, "invalid_credentials", "email or password is invalid", requestId⟩

def failureAudits (newlyLocked known : Bool) : List FailureAudit :=
  (if newlyLocked && known then [⟨"account_locked", "success", "too_many_login_failures"⟩] else []) ++
    [⟨"login_failed", "failure", "invalid_credentials"⟩]

/-- A login from one wait to the next. `answer` is the account the repository has, if the
login waits for it. -/
def advanceLogin (env : LoginEnv) (clock : UInt64) (answer : Option Account)
    (failures : Table MemoryLoginFailure) : LoginStage → LoginReply × Table MemoryLoginFailure
  | .account attempt => (.waits (.failureState attempt answer), failures)
  | .failureState attempt account =>
    let (state, failures) := loginFailureState failures (attempt.key env account) attempt.now
    (.waits (.verify attempt account (state.isLockedAt attempt.now)), failures)
  | .verify attempt account locked =>
    let passwordValid := attempt.passwordValid env account
    match account.filter fun account => account.status == .active && !locked && passwordValid with
    | some account => (.waits (.clear attempt account), failures)
    | none => (.waits (.record attempt account locked clock), failures)
  | .record attempt account _ failedAt =>
    let (state, failures) := recordLoginFailure failures (attempt.key env account) failedAt MAX_LOGIN_FAILURES
      LOCK_MILLIS LOGIN_FAILURE_STATE_TTL_MILLIS
    (.refused (invalidCredentials attempt.requestId) (failureAudits state.newlyLocked account.isSome), failures)
  | .clear attempt account => (.admitted account, clearLoginFailures failures (attempt.key env (some account)))

section Advance

variable (env : LoginEnv) (clock : UInt64) (answer : Option Account) (failures : Table MemoryLoginFailure)
  (attempt : LoginAttempt)

theorem advanceLogin_failureState (account : Option Account) :
    advanceLogin env clock answer failures (.failureState attempt account) = (.waits (.verify attempt account
        ((loginFailureState failures (attempt.key env account) attempt.now).1.isLockedAt attempt.now)),
        (loginFailureState failures (attempt.key env account) attempt.now).2) := rfl

/-- A login goes on if its account is active, it found no lock and its password is right. -/
theorem advanceLogin_verify (account : Option Account) (locked : Bool) :
    (∃ holder, account = some holder ∧ locked = false ∧ attempt.passwordValid env account = true ∧
        advanceLogin env clock answer failures (.verify attempt account locked) =
          (.waits (.clear attempt holder), failures)) ∨
      advanceLogin env clock answer failures (.verify attempt account locked) =
        (.waits (.record attempt account locked clock), failures) := by
  unfold advanceLogin
  simp only
  split
  · rename_i holder hf
    obtain ⟨rfl, hv⟩ := Option.filter_eq_some_iff.mp hf
    simp only [Bool.and_eq_true, Bool.not_eq_true'] at hv
    exact .inl ⟨holder, rfl, hv.1.2, hv.2, rfl⟩
  · exact .inr rfl

theorem advanceLogin_record (account : Option Account) (locked : Bool) (failedAt : UInt64) :
    advanceLogin env clock answer failures (.record attempt account locked failedAt) =
      (.refused (invalidCredentials attempt.requestId) (failureAudits (recordLoginFailure failures
        (attempt.key env account) failedAt MAX_LOGIN_FAILURES LOCK_MILLIS
        LOGIN_FAILURE_STATE_TTL_MILLIS).1.newlyLocked account.isSome),
        (recordLoginFailure failures (attempt.key env account) failedAt MAX_LOGIN_FAILURES LOCK_MILLIS
          LOGIN_FAILURE_STATE_TTL_MILLIS).2) := rfl

theorem advanceLogin_clear (account : Account) : advanceLogin env clock answer failures (.clear attempt account) =
      (.admitted account, failures.erase (attempt.key env (some account))) := rfl

end Advance

/-! ### The logins in flight -/

structure LoginServer where
  clock : UInt64
  failures : Table MemoryLoginFailure
  inFlight : List LoginStage

inductive LoginAction
  | tick (now : UInt64)
  | arrive (email password requestId : String)
  | resume (index : ℕ) (answer : Option Account)
  deriving DecidableEq

/-- The clock is never set back. -/
def loginStep (env : LoginEnv) (server : LoginServer) : LoginAction → LoginReply × LoginServer
  | .tick now => (.idle, { server with clock := if server.clock < now then now else server.clock })
  | .arrive email password requestId =>
    let stage := .account ⟨email, password, requestId, server.clock⟩
    (.waits stage, { server with inFlight := server.inFlight ++ [stage] })
  | .resume index answer => match server.inFlight[index]? with
    | none => (.idle, server)
    | some stage =>
      let (reply, failures) := advanceLogin env server.clock answer server.failures stage
      (reply, { server with failures, inFlight := replaceTask server.inFlight index reply.next })

abbrev LoginEntry := Entry LoginServer LoginAction LoginReply

def LoginServer.start : LoginServer := ⟨0, ∅, []⟩

def resumed (e : LoginEntry) : Option LoginStage :=
  match e.call with
  | .resume index _ => e.pre.inFlight[index]?
  | _ => none

/-! ### What is counted -/

section Counted

variable (env : LoginEnv) (key : String)

/-- The step evaluates a wrong password for a login that found no lock. -/
def guesses (e : LoginEntry) : Bool :=
  match resumed e with
  | some (.verify attempt account false) => attempt.key env account == key && !attempt.passwordValid env account
  | _ => false

def locks (e : LoginEntry) : Bool :=
  match resumed e with
  | some (.record attempt account _ failedAt) => attempt.key env account == key &&
      (recordLoginFailure e.pre.failures key failedAt MAX_LOGIN_FAILURES LOCK_MILLIS
        LOGIN_FAILURE_STATE_TTL_MILLIS).1.newlyLocked
  | _ => false

def evaluates (e : LoginEntry) : Bool :=
  match resumed e with
  | some (.verify attempt account _) => attempt.key env account == key
  | _ => false

/-- The step drops the count: a login succeeds, or finds that the entry has expired. -/
def forgets (e : LoginEntry) : Bool :=
  match resumed e with
  | some (.failureState attempt account) =>
    attempt.key env account == key && entryExpired e.pre.failures[key]? attempt.now
  | some (.record attempt account _ failedAt) =>
    attempt.key env account == key && entryExpired e.pre.failures[key]? failedAt
  | some (.clear attempt account) => attempt.key env (some account) == key
  | _ => false

def LoginStage.undecided : LoginStage → Bool
  | verify attempt holder false => attempt.key env holder == key
  | _ => false

def LoginStage.unrecorded : LoginStage → Bool
  | record attempt holder false _ => attempt.key env holder == key
  | _ => false

def LoginStage.counted (entry : Option MemoryLoginFailure) : LoginStage → Bool
  | record attempt holder false _ => attempt.key env holder == key && !entryLocked entry attempt.now
  | _ => false

def LoginStage.overtaken (entry : Option MemoryLoginFailure) : LoginStage → Bool
  | verify attempt holder false => attempt.key env holder == key && entryLocked entry attempt.now
  | _ => false

/-- The failures that are counted or will be. -/
def LoginServer.recorded (server : LoginServer) : ℕ :=
  attemptsOf server.failures[key]? + server.inFlight.countP (·.counted env key server.failures[key]?)

def LoginServer.overtaken (server : LoginServer) : ℕ :=
  server.inFlight.countP (·.overtaken env key server.failures[key]?)

end Counted

/-! ### The invariant -/

def LoginStage.InTime (clock : UInt64) : LoginStage → Prop
  | account attempt | failureState attempt _ | verify attempt _ _ | clear attempt _ => attempt.now ≤ clock
  | record attempt _ _ failedAt => attempt.now ≤ failedAt

structure LoginInv (server : LoginServer) : Prop where
  entries : ∀ key : String, WfEntry MAX_LOGIN_FAILURES server.failures[key]?
  inTime : ∀ stage ∈ server.inFlight, stage.InTime server.clock

open LoginStage LoginReply

variable {env : LoginEnv} {server : LoginServer} {stage : LoginStage} {action : LoginAction}

section Steps

variable {key : String} {index : ℕ} {answer account : Option Account} {attempt : LoginAttempt}
  {failures : Table MemoryLoginFailure}

theorem LoginStage.InTime.mono {clock clock' : UInt64} (h : clock ≤ clock') (hst : stage.InTime clock) :
    stage.InTime clock' := by
  cases stage with
  | record => exact hst
  | _ => exact UInt64.le_trans hst h

theorem wfEntry_advanceLogin (clock : UInt64) (answer : Option Account) (stage : LoginStage)
    (h : ∀ key : String, WfEntry MAX_LOGIN_FAILURES failures[key]?) :
    ∀ key : String, WfEntry MAX_LOGIN_FAILURES (advanceLogin env clock answer failures stage).2[key]? := by
  intro key
  have hn : WfEntry MAX_LOGIN_FAILURES none := nofun
  cases stage with
  | account => exact h key
  | failureState =>
    show WfEntry _ (loginFailureState failures _ _).2[key]?
    rw [get_loginFailureState]
    split
    · exact hn
    · exact h key
  | verify =>
    unfold advanceLogin
    simp only
    split <;> exact h key
  | record =>
    show WfEntry _ (recordLoginFailure failures _ _ _ _ _).2[key]?
    rw [get_recordLoginFailure]
    split
    · exact wfEntry_countFailure (by decide) (by decide)
    · exact h key
  | clear =>
    show WfEntry _ (failures.erase _)[key]?
    rw [get_erase]
    split
    · exact hn
    · exact h key

theorem inTime_advanceLogin {clock : UInt64} (answer : Option Account) (failures : Table MemoryLoginFailure)
    {next : LoginStage} (h : stage.InTime clock)
    (hn : (advanceLogin env clock answer failures stage).1.next = some next) : next.InTime clock := by
  cases stage with
  | account | failureState => cases hn; exact h
  | verify attempt account locked =>
    unfold advanceLogin at hn
    simp only at hn
    split at hn <;> cases hn <;> exact h
  | record | clear => cases hn

theorem loginStep_resume (answer : Option Account) (h : server.inFlight[index]? = some stage) :
    loginStep env server (.resume index answer) =
      ((advanceLogin env server.clock answer server.failures stage).1,
        { server with
          failures := (advanceLogin env server.clock answer server.failures stage).2
          inFlight := replaceTask server.inFlight index
            (advanceLogin env server.clock answer server.failures stage).1.next }) := by
  simp only [loginStep, h]

theorem loginStep_resume_none (answer : Option Account) (h : server.inFlight[index]? = none) :
    loginStep env server (.resume index answer) = (.idle, server) := by
  simp only [loginStep, h]

theorem loginInv_start : LoginInv .start := by
  refine ⟨fun key => ?_, fun stage hm => by cases hm⟩
  nofun

theorem loginInv_step (action : LoginAction) (h : LoginInv server) : LoginInv (loginStep env server action).2 := by
  cases action with
  | tick now =>
    exact ⟨h.entries, fun stage hm => (h.inTime stage hm).mono (le_later server.clock now)⟩
  | arrive =>
    refine ⟨h.entries, fun stage hm => ?_⟩
    rcases List.mem_append.mp hm with hm | hm
    · exact h.inTime stage hm
    · cases List.mem_singleton.mp hm
      exact UInt64.le_refl _
  | resume index answer =>
    cases hst : server.inFlight[index]? with
    | none =>
      rw [loginStep_resume_none answer hst]
      exact h
    | some stage =>
      rw [loginStep_resume answer hst]
      have hm := List.mem_of_getElem? hst
      refine ⟨wfEntry_advanceLogin server.clock answer stage h.entries, fun other ho => ?_⟩
      rcases mem_replaceTask ho with ho | hn
      · exact h.inTime other ho
      · exact inTime_advanceLogin answer server.failures (h.inTime stage hm) hn

/-! ### The account of the guesses -/

variable {old new : Option MemoryLoginFailure}

section

variable (h : ∀ now, entryLocked new now = true → entryLocked old now = true)
include h

/-- What a step does to the other logins: a lock that is gone overtakes no one. -/
theorem counted_mono (stage : LoginStage) (hst : stage.counted env key old = true) :
    stage.counted env key new = true := by
  unfold counted at hst
  split at hst
  · simp only [counted, Bool.and_eq_true, Bool.not_eq_true'] at hst ⊢
    refine ⟨hst.1, ?_⟩
    rw [Bool.eq_false_iff]
    intro hlk
    rw [h _ hlk] at hst
    cases hst.2
  · cases hst

theorem overtaken_mono (stage : LoginStage) (hst : stage.overtaken env key new = true) :
    stage.overtaken env key old = true := by
  unfold overtaken at hst
  split at hst
  · simp only [overtaken, Bool.and_eq_true] at hst ⊢
    exact ⟨hst.1, h _ hst.2⟩
  · cases hst

end

/-- `g` wrong guesses of a step are failures that will be counted, or those of logins which the lock
has overtaken. -/
abbrev Accounted (env : LoginEnv) (key : String) (server : LoginServer) (action : LoginAction) (g : ℕ) : Prop :=
  g + server.recorded env key + (loginStep env server action).2.overtaken env key ≤
    (loginStep env server action).2.recorded env key + server.overtaken env key

/-- What one login adds to the account: its wrong guess `g`, its place before and after, and
the count. -/
theorem account_of_resumed {reply : LoginReply} {g : ℕ} (hst : server.inFlight[index]? = some stage)
    (ha : advanceLogin env server.clock answer server.failures stage = (reply, failures))
    (hmono : ∀ now, entryLocked failures[key]? now = true → entryLocked server.failures[key]? now = true)
    (h : g + attemptsOf server.failures[key]? + (stage.counted env key server.failures[key]?).toNat +
        reply.next.toList.countP (·.overtaken env key failures[key]?) ≤
      attemptsOf failures[key]? + reply.next.toList.countP (·.counted env key failures[key]?) +
        (stage.overtaken env key server.failures[key]?).toNat) : Accounted env key server (.resume index answer) g := by
  obtain ⟨rest, hbf, haf⟩ := replaceTask_perm hst reply.next
  have hc : rest.countP (·.counted env key server.failures[key]?) ≤
      rest.countP (·.counted env key failures[key]?) := List.countP_mono_left fun stage _ => counted_mono hmono stage
  have ho : rest.countP (·.overtaken env key failures[key]?) ≤
      rest.countP (·.overtaken env key server.failures[key]?) :=
    List.countP_mono_left fun stage _ => overtaken_mono hmono stage
  rw [Accounted, loginStep_resume answer hst, ha]
  simp only [LoginServer.recorded, LoginServer.overtaken, hbf.countP_eq, haf.countP_eq, List.countP_append,
    List.countP_cons]
  simp only [Bool.toNat, Bool.cond_eq_ite] at h
  omega

/-- Reading the state: a login that finds no lock is not overtaken by one. -/
theorem account_of_failureState (hI : LoginInv server)
    (hst : server.inFlight[index]? = some (.failureState attempt account))
    (hfg : (attempt.key env account == key && entryExpired server.failures[key]? attempt.now) = false) :
    Accounted env key server (.resume index answer) 0 := by
  have hke : (loginFailureState server.failures (attempt.key env account) attempt.now).2[key]? =
      server.failures[key]? := by
    rw [get_loginFailureState, if_neg]
    rintro ⟨hk, he⟩
    simp [hk, he] at hfg
  refine account_of_resumed hst (advanceLogin_failureState ..) (by rw [hke]; exact fun _ h => h) ?_
  rw [hke, isLockedAt_loginFailureState (hI.entries _)]
  simp only [next, counted]
  by_cases hk : attempt.key env account = key
  · rw [hk]
    cases hlk : entryLocked server.failures[key]? attempt.now <;> simp [overtaken, hlk]
  · cases entryLocked server.failures[attempt.key env account]? attempt.now <;> simp [overtaken, hk]

/-- Evaluating the password: a wrong one is a failure that will be counted, unless the lock
has overtaken the login. -/
theorem account_of_verify {locked : Bool} (hst : server.inFlight[index]? = some (.verify attempt account locked)) :
    Accounted env key server (.resume index answer)
      (if !locked && (attempt.key env account == key && !attempt.passwordValid env account) then 1 else 0) := by
  rcases advanceLogin_verify env server.clock answer server.failures attempt account locked with
    ⟨holder, rfl, rfl, hv, ha⟩ | ha
  · refine account_of_resumed hst ha (fun _ h => h) ?_
    simp [hv, next, counted, overtaken]
  · refine account_of_resumed hst ha (fun _ h => h) ?_
    cases locked with
    | true => simp [next, counted, overtaken]
    | false =>
      by_cases hk : attempt.key env account = key
      · cases hlk : entryLocked server.failures[key]? attempt.now <;>
          simp [next, counted, overtaken, hk, hlk] <;> split <;> omega
      · simp [next, counted, overtaken, hk]

/-- Recording a failure: unless the lock has overtaken the login, it is counted. -/
theorem account_of_record (hI : LoginInv server) {locked : Bool} {failedAt : UInt64}
    (hst : server.inFlight[index]? = some (.record attempt account locked failedAt))
    (hfg : (attempt.key env account == key && entryExpired server.failures[key]? failedAt) = false)
    (hl : (attempt.key env account == key && (recordLoginFailure server.failures key failedAt
      MAX_LOGIN_FAILURES LOCK_MILLIS LOGIN_FAILURE_STATE_TTL_MILLIS).1.newlyLocked) = false) :
    Accounted env key server (.resume index answer) 0 := by
  have hi : attempt.now ≤ failedAt := hI.inTime _ (List.mem_of_getElem? hst)
  have hg := get_recordLoginFailure server.failures (attempt.key env account) key failedAt MAX_LOGIN_FAILURES
    LOCK_MILLIS LOGIN_FAILURE_STATE_TTL_MILLIS
  by_cases hcount : attempt.key env account = key ∧ entryLocked server.failures[key]? failedAt = false
  · obtain ⟨hk, hul⟩ := hcount
    simp only [hk, beq_self_eq_true] at hfg hl
    rw [newlyLocked_recordLoginFailure, hul] at hl
    rw [if_pos ⟨hk, hul⟩] at hg
    obtain ⟨ha, hop⟩ := countFailure_of_unlocked (by decide) (hI.entries key) hfg hl
    refine account_of_resumed hst (advanceLogin_record ..) (fun now h => ?_) ?_
    · rw [hg, hop] at h
      cases h
    · rw [hg]
      have ho := Bool.toNat_le ((LoginStage.record attempt account locked failedAt).counted env key
        server.failures[key]?)
      simp only [next, Option.toList_none, List.countP_nil]
      omega
  · rw [if_neg hcount] at hg
    refine account_of_resumed hst (advanceLogin_record ..) (by rw [hg]; exact fun _ h => h) ?_
    have hc : (LoginStage.record attempt account locked failedAt).counted env key server.failures[key]? = false := by
      rw [Bool.eq_false_iff]
      intro hc
      cases locked with
      | true => cases hc
      | false =>
        simp only [counted, Bool.and_eq_true, beq_iff_eq] at hc
        obtain ⟨hk, hul⟩ := hc
        -- the lock was there at `failedAt`, so it was there at `now`
        have hlk : entryLocked server.failures[key]? failedAt = true := by
          rw [← Bool.not_eq_false]
          exact fun h => hcount ⟨hk, h⟩
        rw [entryLocked_mono hi hlk] at hul
        cases hul
    rw [hg]
    simp [next, hc]

theorem account_of_clear {account : Account} (hst : server.inFlight[index]? = some (.clear attempt account))
    (hfg : (attempt.key env (some account) == key) = false) :
    Accounted env key server (.resume index answer) 0 := by
  have hg : (server.failures.erase (attempt.key env (some account)))[key]? = server.failures[key]? := by
    rw [get_erase, if_neg (by simpa using hfg)]
  refine account_of_resumed hst (advanceLogin_clear ..) (by rw [hg]; exact fun _ h => h) ?_
  rw [hg]
  simp [next, counted]

/-- **The account of the guesses.** Unless a step drops the count or locks the account, a
wrong password it evaluates is a failure that will be counted, or that of a login which the
lock has overtaken. -/
theorem guesses_step (hI : LoginInv server) (action : LoginAction)
    (hfg : forgets env key (entry (loginStep env) server action) = false)
    (hl : locks env key (entry (loginStep env) server action) = false) :
    Accounted env key server action (if guesses env key (entry (loginStep env) server action) then 1 else 0) := by
  cases action with
  | tick =>
    show 0 + server.recorded env key + server.overtaken env key ≤ _
    rw [Nat.zero_add]
    exact le_refl _
  | arrive =>
    show 0 + _ + _ ≤ _
    simp [loginStep, LoginServer.recorded, LoginServer.overtaken, overtaken]
  | resume index answer =>
    have hr : resumed (entry (loginStep env) server (.resume index answer)) = server.inFlight[index]? := rfl
    cases hst : server.inFlight[index]? with
    | none =>
      rw [Accounted, loginStep_resume_none answer hst, guesses, hr, hst]
      simp
    | some stage =>
      rw [guesses, hr, hst]
      rw [forgets, hr, hst] at hfg
      rw [locks, hr, hst] at hl
      cases stage with
      | account attempt =>
        refine account_of_resumed hst rfl (fun _ h => h) ?_
        simp [next, counted, overtaken]
      | failureState => exact account_of_failureState hI hst hfg
      | verify _ _ locked => cases locked <;> exact account_of_verify hst
      | record => exact account_of_record hI hst hfg hl
      | clear => exact account_of_clear hst hfg

theorem recorded_lt (env : LoginEnv) (key : String) (hI : LoginInv server) :
    server.recorded env key < MAX_LOGIN_FAILURES + server.inFlight.countP (·.unrecorded env key) := by
  have ha : attemptsOf server.failures[key]? < MAX_LOGIN_FAILURES := by
    cases hen : server.failures[key]? with
    | none => decide
    | some val => exact (hI.entries key val hen).1
  have hc : server.inFlight.countP (·.counted env key server.failures[key]?) ≤
      server.inFlight.countP (·.unrecorded env key) := by
    refine List.countP_mono_left fun stage _ h => ?_
    unfold counted at h
    split at h
    · exact (Bool.and_eq_true_iff.mp h).1
    · cases h
  unfold LoginServer.recorded
  omega

theorem overtaken_le (env : LoginEnv) (key : String) (server : LoginServer) :
    server.overtaken env key ≤ server.inFlight.countP (·.undecided env key) := by
  refine List.countP_mono_left fun stage _ h => ?_
  unfold overtaken at h
  split at h
  · exact (Bool.and_eq_true_iff.mp h).1
  · cases h

/-- The step that locks the account evaluates no password, and leaves the other logins where
they are. -/
theorem locks_step (h : locks env key (entry (loginStep env) server action) = true) :
    guesses env key (entry (loginStep env) server action) = false ∧ server.inFlight.countP (·.unrecorded env key) ≤
      (loginStep env server action).2.inFlight.countP (·.unrecorded env key) + 1 := by
  unfold locks at h
  split at h
  · rename_i attempt account locked failedAt hr
    cases action with
    | resume index answer =>
      have hst : server.inFlight[index]? = some (.record attempt account locked failedAt) := hr
      refine ⟨by rw [guesses, hr], ?_⟩
      rw [loginStep_resume answer hst]
      obtain ⟨rest, hbf, haf⟩ := countP_replaceTask (·.unrecorded env key) (·.unrecorded env key) hst
        (advanceLogin env server.clock answer server.failures (.record attempt account locked failedAt)).1.next
      rw [hbf, haf]
      split <;> omega
    | _ => cases hr
  · cases h

/-- From one lock to the next, or from the start to the first. -/
theorem guesses_le (hI : LoginInv server) (per : List LoginAction)
    (hfg : ∀ e ∈ trace (loginStep env) server per, forgets env key e = false)
    (hl : ∀ e ∈ (trace (loginStep env) server per).dropLast, locks env key e = false) :
    (trace (loginStep env) server per).countP (guesses env key) ≤
      MAX_LOGIN_FAILURES + server.inFlight.countP (·.undecided env key) +
        (final (loginStep env) server per).inFlight.countP (·.unrecorded env key) := by
  -- what holds as long as the account is not locked
  have hop : ∀ per : List LoginAction,
      (∀ e ∈ trace (loginStep env) server per, forgets env key e = false ∧ locks env key e = false) →
      (trace (loginStep env) server per).countP (guesses env key) <
        MAX_LOGIN_FAILURES + server.inFlight.countP (·.undecided env key) +
          (final (loginStep env) server per).inFlight.countP (·.unrecorded env key) := by
    intro per hqt
    have hI' : LoginInv (final (loginStep env) server per) :=
      run_inv (loginStep env) (fun _ action h => loginInv_step action h) per hI
    have hc := countP_trace_add_le (loginStep env)
      (Φ := fun server => server.recorded env key) (Ψ := fun server => server.overtaken env key)
      (fun _ action _ h => loginInv_step action h) (fun _ action hQ h => guesses_step h action hQ.1 hQ.2)
      per hI hqt
    have hr := recorded_lt env key hI'
    have ho := overtaken_le env key server
    omega
  rcases List.eq_nil_or_concat' per with rfl | ⟨init, last, rfl⟩
  · exact Nat.zero_le _
  rw [trace_append] at hfg hl ⊢
  rw [final_append]
  simp only [trace_cons, trace_nil, final_cons, final_nil, List.dropLast_concat] at hfg hl ⊢
  have hinit := hop init fun e he => ⟨hfg e (List.mem_append_left _ he), hl e he⟩
  cases hla : locks env key (entry (loginStep env) (final (loginStep env) server init) last) with
  | true =>
    obtain ⟨hg, hu⟩ := locks_step hla
    rw [List.countP_append, List.countP_cons, hg]
    simp only [List.countP_nil, Bool.false_eq_true, if_false]
    omega
  | false =>
    have ha := hop (init ++ [last]) fun e he => by
      rw [trace_append] at he
      refine ⟨hfg e he, ?_⟩
      rcases List.mem_append.mp he with he | he
      · exact hl e he
      · rw [List.mem_singleton.mp he]
        exact hla
    rw [trace_append, final_append] at ha
    exact Nat.le_of_lt ha

end Steps

/-! ### Runs -/

structure LockObeyed (env : LoginEnv) (key : String) (e : LoginEntry) : Prop where
  /-- A login that reads the state while the lock is in force finds it. -/
  found : ∀ attempt account, resumed e = some (.failureState attempt account) → attempt.key env account = key →
    entryLocked e.pre.failures[key]? e.pre.clock = true →
    e.out = .waits (.verify attempt account true) ∧ e.post.failures[key]? = e.pre.failures[key]?
  /-- A login that has found the lock fails, whatever its password. -/
  fails : ∀ attempt account, resumed e = some (.verify attempt account true) →
    e.out = .waits (.record attempt account true e.pre.clock) ∧ e.post.failures = e.pre.failures
  /-- A login that fails is refused, and a failure under the lock changes nothing. -/
  refused : ∀ attempt account locked failedAt, resumed e = some (.record attempt account locked failedAt) →
    (∃ audits, e.out = .refused (invalidCredentials attempt.requestId) audits) ∧
      (attempt.key env account = key → entryLocked e.pre.failures[key]? failedAt = true →
        e.post.failures[key]? = e.pre.failures[key]?)

theorem entry_of_resumed (h : resumed (entry (loginStep env) server action) = some stage) :
    ∃ answer, stage ∈ server.inFlight ∧ (loginStep env server action).1 =
      (advanceLogin env server.clock answer server.failures stage).1 ∧ (loginStep env server action).2.failures =
      (advanceLogin env server.clock answer server.failures stage).2 := by
  cases action with
  | resume index answer =>
    have hst : server.inFlight[index]? = some stage := h
    refine ⟨answer, List.mem_of_getElem? hst, ?_, ?_⟩ <;> rw [loginStep_resume answer hst]
  | _ => cases h

theorem lockObeyed_step (key : String) (hI : LoginInv server) (action : LoginAction) :
    LockObeyed env key (entry (loginStep env) server action) := by
  refine ⟨fun attempt account hr hk hlk => ?_, fun attempt account hr => ?_,
    fun attempt account locked failedAt hr => ?_⟩
  · obtain ⟨answer, hm, ho, hpo⟩ := entry_of_resumed hr
    have hi : attempt.now ≤ server.clock := hI.inTime _ hm
    have hlk : entryLocked server.failures[key]? attempt.now = true := entryLocked_mono hi hlk
    have hrd : (loginFailureState server.failures key attempt.now).1.isLockedAt attempt.now = true := by
      rw [isLockedAt_loginFailureState (hI.entries key)]
      exact hlk
    rw [entry_out, entry_post, entry_pre, ho, hpo, advanceLogin_failureState, hk]
    refine ⟨by rw [hrd], ?_⟩
    rw [get_loginFailureState, if_neg]
    rintro ⟨_, he⟩
    rw [entryExpired_of_locked (hI.entries key) hlk] at he
    cases he
  · obtain ⟨answer, hm, ho, hpo⟩ := entry_of_resumed hr
    rw [entry_out, entry_post, ho, hpo]
    rcases advanceLogin_verify env server.clock answer server.failures attempt account true with
      ⟨_, _, htrue, _⟩ | ha
    · cases htrue
    · rw [ha]
      exact ⟨rfl, rfl⟩
  · obtain ⟨answer, hm, ho, hpo⟩ := entry_of_resumed hr
    rw [entry_out, entry_post, entry_pre, ho, hpo, advanceLogin_record]
    refine ⟨⟨_, rfl⟩, fun hk hlk => ?_⟩
    rw [get_recordLoginFailure, if_neg]
    rintro ⟨_, hul⟩
    rw [hul] at hlk
    cases hlk

/-- **What the lock bounds.** After any run, take a period in which no login to the account
succeeds, the count does not expire, and the account is locked at the end if at all. The
wrong passwords evaluated in it for logins that found no lock are at most
`MAX_LOGIN_FAILURES`, and one for each login that had read the state before the period and
each whose failure is not recorded by its end. In every period, a login that reads the lock
in force is refused, whatever its password, and does not prolong the lock. -/
theorem lockout (env : LoginEnv) (key : String) (before period : List LoginAction) :
    ((∀ e ∈ trace (loginStep env) (final (loginStep env) .start before) period, forgets env key e = false) →
      (∀ e ∈ (trace (loginStep env) (final (loginStep env) .start before) period).dropLast,
        locks env key e = false) →
      (trace (loginStep env) (final (loginStep env) .start before) period).countP (guesses env key) ≤
        MAX_LOGIN_FAILURES +
          (final (loginStep env) .start before).inFlight.countP (·.undecided env key) +
          (final (loginStep env) (final (loginStep env) .start before) period).inFlight.countP
            (·.unrecorded env key)) ∧
      ∀ e ∈ trace (loginStep env) (final (loginStep env) .start before) period, LockObeyed env key e := by
  have hI : LoginInv (final (loginStep env) .start before) :=
    run_inv (loginStep env) (fun _ action h => loginInv_step action h) before loginInv_start
  refine ⟨guesses_le hI period, ?_⟩
  exact forall_trace (loginStep env) (fun _ action h => loginInv_step action h)
    (fun _ action h => lockObeyed_step key h action) hI

/-! ### What the lock does not bound -/

/-- With one account there is one key. -/
def sampleLoginEnv : LoginEnv :=
  { sampleEnv with sha256 := fun _ => Vector.replicate 32 0, dummyPasswordHash := "dummy" }

def sampleLoginKey : String := loginFailureKey sampleLoginEnv.toEnv (some sampleAccount) "email"

/-- A login with nothing in between. -/
def sampleLoginSteps (password : String) : List LoginAction :=
  [.arrive "email" password "request", .resume 0 (some sampleAccount), .resume 0 none, .resume 0 none,
    .resume 0 none]

def sampleGuesses : List LoginAction := (List.replicate 5 (sampleLoginSteps "guess")).flatten

theorem lockout_sample :
    (trace (loginStep sampleLoginEnv) (final (loginStep sampleLoginEnv) .start []) sampleGuesses).countP
        (guesses sampleLoginEnv sampleLoginKey) = 5 ∧
      (trace (loginStep sampleLoginEnv) (final (loginStep sampleLoginEnv) .start []) sampleGuesses).countP
          (guesses sampleLoginEnv sampleLoginKey) ≤
        MAX_LOGIN_FAILURES + (final (loginStep sampleLoginEnv) .start []).inFlight.countP
            (·.undecided sampleLoginEnv sampleLoginKey) +
          (final (loginStep sampleLoginEnv) (final (loginStep sampleLoginEnv) .start []) sampleGuesses).inFlight.countP
            (·.unrecorded sampleLoginEnv sampleLoginKey) ∧
      entryLocked (final (loginStep sampleLoginEnv) .start sampleGuesses).failures[sampleLoginKey]? 0 = true := by
  have hb := (lockout sampleLoginEnv sampleLoginKey [] sampleGuesses).1 (by decide +kernel) (by decide +kernel)
  exact ⟨by decide +kernel, hb, by decide +kernel⟩

/-- Before the account is locked for the first time, more passwords can be tried than
`MAX_LOGIN_FAILURES`: one login after the other, if one of them succeeds, and side by side.
And a password is evaluated while the lock is in force. -/
theorem guesses_beyond_limit :
    (∃ period, (∀ e ∈ trace (loginStep sampleLoginEnv) .start period,
        locks sampleLoginEnv sampleLoginKey e = false) ∧
      MAX_LOGIN_FAILURES < (trace (loginStep sampleLoginEnv) .start period).countP
        (guesses sampleLoginEnv sampleLoginKey)) ∧
      (∃ period, (∀ e ∈ trace (loginStep sampleLoginEnv) .start period,
          locks sampleLoginEnv sampleLoginKey e = false ∧ forgets sampleLoginEnv sampleLoginKey e = false) ∧
        MAX_LOGIN_FAILURES < (trace (loginStep sampleLoginEnv) .start period).countP
          (guesses sampleLoginEnv sampleLoginKey)) ∧
      ∃ period, ∃ e ∈ trace (loginStep sampleLoginEnv) .start period,
        evaluates sampleLoginEnv sampleLoginKey e = true ∧
          entryLocked e.pre.failures[sampleLoginKey]? e.pre.clock = true := by
  refine ⟨⟨(List.replicate 3 (sampleLoginSteps "guess") ++ [sampleLoginSteps "password"] ++
      List.replicate 3 (sampleLoginSteps "guess")).flatten, by decide +kernel⟩,
    ⟨List.replicate 6 (.arrive "email" "guess" "request") ++
      (List.range 6).flatMap fun index => [.resume index (some sampleAccount), .resume index none,
        .resume index none], by decide +kernel⟩,
    ⟨(List.replicate 6 (sampleLoginSteps "guess")).flatten, by decide +kernel⟩⟩

end Rctl.Api
