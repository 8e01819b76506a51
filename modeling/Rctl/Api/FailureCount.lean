/-
# The count of failed logins, in memory and in Redis

What the count is for is said by a history: the failures counted since the last clear or lock, and
when the last lock was set. The entry of the memory implementation and the key that
`RECORD_LOGIN_FAILURE_SCRIPT` keeps in Redis both represent it, and give its answers on every
sequence of calls that come in order of time. They differ in how long they keep a lock: the script
gives the key its full time to live again with each failure during a lock, the map does not.

A number of a script is a double: `round` is what storing a natural number in one makes of it. It
changes nothing below `2^53`. A key that was given a time to live of `ttl` milliseconds at `t` is
gone from `t + ttl` on, on the clock that the calls are timed with.
-/
import Rctl.Api.LoginFailures
import Rctl.Lib.Run

namespace Rctl.Api

open OrdMap StateRun

/-- How failures are counted: a lock does not outlast the entry that keeps it. -/
structure FailurePolicy where
  maxAttempts : ℕ
  lockMillis : UInt64
  stateTtlMillis : UInt64
  maxAttempts_pos : 1 ≤ maxAttempts
  /-- It is a `u8`. -/
  maxAttempts_le : maxAttempts ≤ 255
  lock_le_ttl : lockMillis ≤ stateTtlMillis

inductive FailureCall
  | recordLoginFailure (now : UInt64)
  | loginFailureState (now : UInt64)
  | clearLoginFailures (now : UInt64)
  deriving DecidableEq, Repr

def FailureCall.time : FailureCall → UInt64
  | recordLoginFailure now => now
  | loginFailureState now => now
  | clearLoginFailures now => now

/-! ### The history -/

/-- What has happened to an account: the times of the failures counted since the last clear or lock,
the latest first, and when the last lock was set, if there was no clear since. -/
structure FailureHistory where
  counted : List ℕ
  lockSetAt : Option ℕ
  deriving DecidableEq, Repr

/-- What a call tells: the lock, if it is in force, by its end. -/
structure FailureAnswer where
  attempts : ℕ
  newlyLocked : Bool
  lockedUntil : Option ℕ
  deriving DecidableEq, Repr

/-- The length of the longest run, from the latest failure back, whose gaps are below `ttl`. -/
def runLength (ttl : ℕ) : List ℕ → ℕ
  | [] => 0
  | [_] => 1
  | t :: u :: times => if t < u + ttl then runLength ttl (u :: times) + 1 else 1

variable {h : FailureHistory}

namespace FailureHistory

def empty : FailureHistory := ⟨[], none⟩

/-- The failures that one at `t` would be counted on top of. -/
def live (ttl : ℕ) (h : FailureHistory) (t : ℕ) : ℕ :=
  match h.counted with
  | [] => 0
  | u :: _ => if t < u + ttl then runLength ttl h.counted else 0

def lockEnd (lock : ℕ) (h : FailureHistory) (t : ℕ) : Option ℕ := (h.lockSetAt.map (· + lock)).filter (t < ·)

def step (policy : FailurePolicy) (h : FailureHistory) : FailureCall → Option FailureAnswer × FailureHistory
  | .recordLoginFailure now =>
    let t := now.toNat
    match h.lockEnd policy.lockMillis.toNat t with
    | some lockedUntil => (some ⟨0, false, some lockedUntil⟩, h)
    | none =>
      let k := runLength policy.stateTtlMillis.toNat (t :: h.counted)
      if k = policy.maxAttempts then
        (some ⟨0, true, (some (t + policy.lockMillis.toNat)).filter (t < ·)⟩, ⟨[], some t⟩)
      else (some ⟨k, false, none⟩, ⟨t :: h.counted, h.lockSetAt⟩)
  | .loginFailureState now =>
    (some ⟨h.live policy.stateTtlMillis.toNat now.toNat, false, h.lockEnd policy.lockMillis.toNat now.toNat⟩, h)
  | .clearLoginFailures _ => (none, empty)

theorem runLength_cons (ttl : ℕ) (h : FailureHistory) (t : ℕ) : runLength ttl (t :: h.counted) = h.live ttl t + 1 := by
  unfold live
  cases h.counted with
  | nil => rfl
  | cons u =>
    rw [runLength]
    by_cases ht : t < u + ttl
    · simp only [if_pos ht]
    · simp only [if_neg ht]

theorem live_le (ttl : ℕ) (h : FailureHistory) (t : ℕ) : h.live ttl t ≤ runLength ttl h.counted := by
  unfold live
  cases h.counted with
  | nil => exact Nat.zero_le _
  | cons =>
    simp only
    split
    · exact Nat.le_refl _
    · exact Nat.zero_le _

theorem lockEnd_of_le {lock : ℕ} {t t' : ℕ} (hle : t ≤ t') (hn : h.lockEnd lock t = none) :
    h.lockEnd lock t' = none := by
  simp only [lockEnd, Option.filter_eq_none_iff, decide_eq_true_eq] at hn ⊢
  intro u hu hlt
  exact hn u hu (by omega)

end FailureHistory

/-! ### The two implementations -/

def memoryStep (policy : FailurePolicy) (accountId : String) (failures : Table MemoryLoginFailure) :
    FailureCall → Option LoginFailureState × Table MemoryLoginFailure
  | .recordLoginFailure now =>
    let r := recordLoginFailure failures accountId now policy.maxAttempts policy.lockMillis policy.stateTtlMillis
    (some r.1, r.2)
  | .loginFailureState now =>
    let r := loginFailureState failures accountId now
    (some r.1, r.2)
  | .clearLoginFailures _ => (none, clearLoginFailures failures accountId)

/-- The hash under the key of an account, with the time at which Redis drops it. -/
structure RedisLoginFailure where
  attempts : ℕ
  lockedUntilEpochMillis : ℕ
  expiresAtEpochMillis : ℕ
  deriving DecidableEq, Repr

def liveKey (key : Option RedisLoginFailure) (now : ℕ) : Option RedisLoginFailure :=
  key.filter (now < ·.expiresAtEpochMillis)

/-- The script, with its reply. A number that is stored is a double already. -/
def recordLoginFailureScript (round : ℕ → ℕ) (key : Option RedisLoginFailure) (clock now maxAttempts lock ttl : ℕ) :
    (ℕ × ℕ × ℕ) × Option RedisLoginFailure :=
  let now := round now
  let attempts := ((liveKey key clock).map (·.attempts)).getD 0
  let lockedUntil := ((liveKey key clock).map (·.lockedUntilEpochMillis)).getD 0
  if now < lockedUntil then
    ((attempts, lockedUntil, 0),
      (liveKey key clock).map fun value => { value with expiresAtEpochMillis := clock + ttl })
  else
    let attempts := round ((if 0 < lockedUntil then 0 else attempts) + 1)
    let lockedUntil := if 0 < lockedUntil then 0 else lockedUntil
    if round maxAttempts ≤ attempts then
      let lockedUntil := round (now + round lock)
      ((0, lockedUntil, 1), some ⟨0, lockedUntil, clock + ttl⟩)
    else ((attempts, lockedUntil, 0), some ⟨attempts, lockedUntil, clock + ttl⟩)

def redisStep (policy : FailurePolicy) (round : ℕ → ℕ) (key : Option RedisLoginFailure) :
    FailureCall → Option LoginFailureState × Option RedisLoginFailure
  | .recordLoginFailure now =>
    let r := recordLoginFailureScript round key now.toNat now.toNat policy.maxAttempts policy.lockMillis.toNat
      policy.stateTtlMillis.toNat
    let lockedUntil := UInt64.ofNat r.1.2.1
    (some ⟨r.1.1, if now < lockedUntil then some lockedUntil else none, r.1.2.2 == 1⟩, r.2)
  | .loginFailureState now =>
    let values := liveKey key now.toNat
    (some
      { attempts := (values.map (·.attempts)).getD 0
        lockedUntilEpochMillis :=
          (values.map fun value => UInt64.ofNat value.lockedUntilEpochMillis).filter (now < ·) },
      key)
  | .clearLoginFailures _ => (none, none)

/-- What is seen of an answer: a lock that is over is no lock. -/
def seen (call : FailureCall) (out : Option LoginFailureState) : Option FailureAnswer :=
  out.map fun state =>
    ⟨state.attempts, state.newlyLocked,
      (state.lockedUntilEpochMillis.map UInt64.toNat).filter (call.time.toNat < ·)⟩

variable {call : FailureCall}

theorem seen_some (now : UInt64) (ht : call.time = now) (attempts : ℕ) (lockedUntil : Option UInt64)
    (newlyLocked : Bool) :
    seen call (some ⟨attempts, lockedUntil, newlyLocked⟩) = some
      ⟨attempts, newlyLocked, (lockedUntil.map UInt64.toNat).filter (now.toNat < ·)⟩ := by
  subst ht
  rfl

/-! ### How an entry represents the history -/

/-- An entry of either implementation. -/
structure FailureSlot where
  attempts : ℕ
  lockedUntil : Option ℕ
  expires : ℕ

def attemptsIn (slot : Option FailureSlot) (t : ℕ) : ℕ := ((slot.filter (t < ·.expires)).map (·.attempts)).getD 0

def lockEndIn (slot : Option FailureSlot) (t : ℕ) : Option ℕ := (slot.bind (·.lockedUntil)).filter (t < ·)

@[simp] theorem attemptsIn_none (t : ℕ) : attemptsIn none t = 0 := rfl

@[simp] theorem attemptsIn_some (value : FailureSlot) (t : ℕ) :
    attemptsIn (some value) t = if t < value.expires then value.attempts else 0 := by
  by_cases ht : t < value.expires <;> simp [attemptsIn, Option.filter, ht]

@[simp] theorem lockEndIn_none (t : ℕ) : lockEndIn none t = none := rfl

@[simp] theorem lockEndIn_some (value : FailureSlot) (t : ℕ) :
    lockEndIn (some value) t = value.lockedUntil.filter (t < ·) := rfl

/-- From `now` on the entry shows what the history does. -/
structure Represents (policy : FailurePolicy) (now : ℕ) (slot : Option FailureSlot) (h : FailureHistory) : Prop where
  attempts : ∀ t, now ≤ t → t < 2 ^ 53 → attemptsIn slot t = h.live policy.stateTtlMillis.toNat t
  lockEnd : ∀ t, now ≤ t → t < 2 ^ 53 → lockEndIn slot t = h.lockEnd policy.lockMillis.toNat t
  lock : ∀ value until', slot = some value → value.lockedUntil = some until' →
    value.attempts = 0 ∧ until' ≤ value.expires
  below : runLength policy.stateTtlMillis.toNat h.counted < policy.maxAttempts
  past : ∀ t, h.lockSetAt = some t → t ≤ now

namespace Represents

variable {policy : FailurePolicy} {now t : ℕ} {slot : Option FailureSlot} {value : FailureSlot} {expires : ℕ}

theorem of_le (hrep : Represents policy now slot h) (hle : now ≤ t) : Represents policy t slot h :=
  ⟨fun t' ht => hrep.attempts t' (hle.trans ht), fun t' ht => hrep.lockEnd t' (hle.trans ht), hrep.lock, hrep.below,
    fun t' ht => (hrep.past t' ht).trans hle⟩

theorem nothing (policy : FailurePolicy) (now : ℕ) : Represents policy now none .empty :=
  ⟨fun _ _ _ => rfl, fun _ _ _ => rfl, fun _ _ hn => absurd hn (by simp), policy.maxAttempts_pos,
    fun _ hn => absurd hn (by simp [FailureHistory.empty])⟩

/-- An entry that has expired may go. -/
theorem drop (hrep : Represents policy now (some value) h) (he : value.expires ≤ now) :
    Represents policy now none h := by
  refine ⟨fun t hle hlt => ?_, fun t hle hlt => ?_, fun _ _ hn => absurd hn (by simp), hrep.below, hrep.past⟩
  · rw [← hrep.attempts t hle hlt, attemptsIn_some, if_neg (by omega), attemptsIn_none]
  · rw [← hrep.lockEnd t hle hlt]
    cases hl : value.lockedUntil with
    | none => simp [hl]
    | some until' =>
      have hen := (hrep.lock value until' rfl hl).2
      simp [hl, Option.filter, show ¬ t < until' by omega]

theorem keep (hrep : Represents policy now (some value) h) {until' : ℕ}
    (hlo : value.lockedUntil = some until') (hle : until' ≤ expires) :
    Represents policy now (some { value with expires }) h := by
  have hz := (hrep.lock value until' rfl hlo).1
  refine ⟨fun t hnow hlt => ?_, hrep.lockEnd, fun val' u hv hu => ?_, hrep.below, hrep.past⟩
  · rw [← hrep.attempts t hnow hlt]
    simp only [attemptsIn_some, hz, ite_self]
  · cases hv
    rw [hlo] at hu
    cases hu
    exact ⟨hz, hle⟩

theorem setLock (policy : FailurePolicy) {lockedUntil : Option ℕ}
    (he : ∀ t', lockedUntil.filter (t' < ·) = (some (t + policy.lockMillis.toNat)).filter (t' < ·))
    (hle : ∀ until', lockedUntil = some until' → until' ≤ expires) :
    Represents policy t (some ⟨0, lockedUntil, expires⟩) ⟨[], some t⟩ := by
  refine ⟨fun t' _ _ => ?_, fun t' _ _ => he t', fun value u hv hu => ?_, policy.maxAttempts_pos,
    fun t' ht => by cases ht; exact Nat.le_refl _⟩
  · simp only [attemptsIn_some, ite_self, FailureHistory.live]
  · cases hv
    exact ⟨rfl, hle u hu⟩

theorem count (hrep : Represents policy t slot h) (hl : h.lockEnd policy.lockMillis.toNat t = none)
    (hb : runLength policy.stateTtlMillis.toNat (t :: h.counted) < policy.maxAttempts)
    (hx : ∀ t', t' < 2 ^ 53 → (t' < expires ↔ t' < t + policy.stateTtlMillis.toNat)) :
    Represents policy t (some ⟨runLength policy.stateTtlMillis.toNat (t :: h.counted), none, expires⟩)
      ⟨t :: h.counted, h.lockSetAt⟩ := by
  refine ⟨fun t' _ hlt => ?_, fun t' hle _ => ?_, fun value u hv hu => ?_, hb, hrep.past⟩
  · simp only [attemptsIn_some, FailureHistory.live, hx t' hlt]
  · exact (FailureHistory.lockEnd_of_le hle hl).symm
  · cases hv
    cases hu

end Represents

/-! ### The memory implementation -/

open FailureSlot FailureHistory

variable {now : UInt64} {since : ℕ} {t : ℕ}

section Memory

variable {policy : FailurePolicy} {failures : Table MemoryLoginFailure} {accountId : String}
  {entry : Option MemoryLoginFailure} {maxAttempts : ℕ} {lockMillis stateTtlMillis : UInt64}

def FailureSlot.ofMemory (value : MemoryLoginFailure) : FailureSlot :=
  ⟨value.attempts, value.lockedUntilEpochMillis.map UInt64.toNat, value.expiresAtEpochMillis.toNat⟩

theorem lockEndIn_ofMemory (value : MemoryLoginFailure) : lockEndIn (some (.ofMemory value)) now.toNat =
      (value.lockedUntilEpochMillis.filter (now < ·)).map UInt64.toNat := by
  rw [ofMemory]
  cases value.lockedUntilEpochMillis with
  | none => rfl
  | some until' =>
    by_cases hlt : now < until'
    · simp [Option.filter, hlt, UInt64.lt_iff_toNat_lt.mp hlt]
    · simp [Option.filter, hlt, mt UInt64.lt_iff_toNat_lt.mpr hlt]

theorem recordLoginFailure_of_locked {value : MemoryLoginFailure} (hv : failures[accountId]? = some value)
    (hlk : lockedAt value.lockedUntilEpochMillis now = true) :
    recordLoginFailure failures accountId now maxAttempts lockMillis stateTtlMillis =
      ({ attempts := value.attempts, lockedUntilEpochMillis := value.lockedUntilEpochMillis }, failures) := by
  simp [recordLoginFailure, hv, Option.filter, hlk]

theorem recordLoginFailure_of_unlocked (hul : entryLocked failures[accountId]? now = false) :
    recordLoginFailure failures accountId now maxAttempts lockMillis stateTtlMillis =
      let (value, newlyLocked) := countFailure failures[accountId]? now maxAttempts lockMillis stateTtlMillis
      (⟨value.attempts, value.lockedUntilEpochMillis, newlyLocked⟩, failures.insert accountId value) := by
  have hn : (failures[accountId]?.filter fun value => lockedAt value.lockedUntilEpochMillis now) = none := by
    cases hval : failures[accountId]? with
    | none => rfl
    | some =>
      rw [hval] at hul
      exact Option.filter_eq_none_iff.mpr fun v hv => by cases hv; simpa [entryLocked] using hul
  simp only [recordLoginFailure, hn]

theorem liveAttempts_of_represents (hrep : Represents policy since (entry.map ofMemory) h) :
    liveAttempts entry now = attemptsIn (entry.map ofMemory) now.toNat := by
  cases entry with
  | none => rfl
  | some value =>
    have hx : (ofMemory value).expires = value.expiresAtEpochMillis.toNat := rfl
    simp only [Option.map_some, attemptsIn_some, hx, ← UInt64.lt_iff_toNat_lt]
    by_cases hl : now < value.expiresAtEpochMillis
    · cases hlo : value.lockedUntilEpochMillis with
      | none => simp [liveAttempts, Option.filter, hl, hlo, ofMemory]
      | some until' =>
        have hz := (hrep.lock (.ofMemory value) until'.toNat rfl (by simp [ofMemory, hlo])).1
        simp [liveAttempts, Option.filter, hl, hlo, hz]
    · simp [liveAttempts, Option.filter, hl]

/-- A failure that is counted as the `k`-th. -/
theorem countFailure_eq (hle : liveAttempts entry now < policy.maxAttempts) :
    countFailure entry now policy.maxAttempts policy.lockMillis policy.stateTtlMillis =
      if liveAttempts entry now + 1 = policy.maxAttempts
      then (⟨0, some (saturatingAdd now policy.lockMillis), saturatingAdd now policy.stateTtlMillis⟩, true)
      else (⟨liveAttempts entry now + 1, none, saturatingAdd now policy.stateTtlMillis⟩, false) := by
  have hb := policy.maxAttempts_le
  have hmin : min (liveAttempts entry now + 1) 255 = liveAttempts entry now + 1 := by omega
  by_cases hx : liveAttempts entry now + 1 = policy.maxAttempts
  · have hge : policy.maxAttempts ≤ min (liveAttempts entry now + 1) 255 := by omega
    simp only [countFailure, hge, decide_true, if_true, if_pos hx]
  · simp [countFailure, hmin, hx, show ¬ policy.maxAttempts ≤ liveAttempts entry now + 1 by omega]

/-- Within the range of times the sums of the code do not saturate where it matters. -/
theorem toNat_lock_end (hb : now.toNat + policy.lockMillis.toNat < 2 ^ 53) :
    (saturatingAdd now policy.lockMillis).toNat = now.toNat + policy.lockMillis.toNat := by
  rw [saturatingAdd_toNat]
  omega

theorem lt_expiry_iff (now ttl : UInt64) (ht : t < 2 ^ 53) :
    t < (saturatingAdd now ttl).toNat ↔ t < now.toNat + ttl.toNat := by
  rw [saturatingAdd_toNat]
  omega

section

variable (hrep : Represents policy now.toNat (failures[accountId]?.map ofMemory) h)
include hrep

theorem loginFailureState_represents (hb : now.toNat < 2 ^ 53) :
    seen (.loginFailureState now) (some (loginFailureState failures accountId now).1) = some
      ⟨h.live policy.stateTtlMillis.toNat now.toNat, false, h.lockEnd policy.lockMillis.toNat now.toNat⟩ ∧ Represents
      policy now.toNat ((loginFailureState failures accountId now).2[accountId]?.map ofMemory) h := by
  unfold loginFailureState
  cases hv : failures[accountId]? with
  | none =>
    rw [hv] at hrep
    rw [← hrep.attempts _ (Nat.le_refl _) hb, ← hrep.lockEnd _ (Nat.le_refl _) hb, hv]
    exact ⟨rfl, hrep⟩
  | some value =>
    rw [hv, Option.map_some] at hrep
    by_cases he : value.expiresAtEpochMillis ≤ now
    · have hd := hrep.drop (UInt64.le_iff_toNat_le.mp he)
      simp only [if_pos he, get_erase]
      rw [← hd.attempts _ (Nat.le_refl _) hb, ← hd.lockEnd _ (Nat.le_refl _) hb]
      exact ⟨rfl, hd⟩
    · have hl : now.toNat < (ofMemory value).expires := by
        exact Nat.lt_of_not_le he
      simp only [if_neg he, hv]
      rw [← hrep.attempts _ (Nat.le_refl _) hb, ← hrep.lockEnd _ (Nat.le_refl _) hb, attemptsIn_some, if_pos hl]
      exact ⟨rfl, hrep⟩

theorem recordLoginFailure_represents (hb : now.toNat + policy.lockMillis.toNat < 2 ^ 53) :
    seen (.recordLoginFailure now) (memoryStep policy accountId failures (.recordLoginFailure now)).1 =
      (h.step policy (.recordLoginFailure now)).1 ∧ Represents policy now.toNat
      ((memoryStep policy accountId failures (.recordLoginFailure now)).2[accountId]?.map ofMemory)
      (h.step policy (.recordLoginFailure now)).2 := by
  have htm : now.toNat < 2 ^ 53 := by omega
  have hlockEnd := hrep.lockEnd _ (Nat.le_refl _) htm
  cases hlo : h.lockEnd policy.lockMillis.toNat now.toNat with
  | some =>
    rw [hlo] at hlockEnd
    cases hv : failures[accountId]? with
    | none =>
      rw [hv] at hlockEnd
      cases hlockEnd
    | some value =>
      have hr' := hrep
      rw [hv, Option.map_some] at hr' hlockEnd
      have he := hlockEnd
      rw [lockEndIn_ofMemory, Option.map_eq_some_iff] at he
      obtain ⟨u, hu, rfl⟩ := he
      rw [Option.filter_eq_some_iff] at hu
      have hlk : lockedAt value.lockedUntilEpochMillis now = true := by
        rw [hu.1]
        exact hu.2
      have hz := (hr'.lock (.ofMemory value) u.toNat rfl (by simp [ofMemory, hu.1])).1
      simp only [memoryStep, recordLoginFailure_of_locked hv hlk, FailureHistory.step, hlo]
      refine ⟨?_, hrep⟩
      exact congrArg some (by rw [← hlockEnd]; exact congrArg (FailureAnswer.mk · false _) hz)
  | none =>
    rw [hlo] at hlockEnd
    have hul : entryLocked failures[accountId]? now = false := by
      cases hv : failures[accountId]? with
      | none => rfl
      | some =>
        rw [hv, Option.map_some, lockEndIn_ofMemory, Option.map_eq_none_iff, Option.filter_eq_none_iff] at hlockEnd
        simp only [entryLocked, Option.any_some, lockedAt, Option.any_eq_false_iff_get]
        exact fun hso => by simpa using hlockEnd _ (Option.some_get hso).symm
    have hlv : liveAttempts failures[accountId]? now = h.live policy.stateTtlMillis.toNat now.toNat := by
      rw [liveAttempts_of_represents hrep, hrep.attempts _ (Nat.le_refl _) htm]
    have hbelow : liveAttempts failures[accountId]? now < policy.maxAttempts := by
      rw [hlv]
      exact Nat.lt_of_le_of_lt (h.live_le _ _) hrep.below
    simp only [memoryStep, recordLoginFailure_of_unlocked hul, countFailure_eq hbelow, FailureHistory.step, hlo,
      runLength_cons, hlv]
    by_cases hx : h.live policy.stateTtlMillis.toNat now.toNat + 1 = policy.maxAttempts
    · simp only [if_pos hx]
      refine ⟨?_, ?_⟩
      · rw [seen_some now rfl, Option.map_some, toNat_lock_end hb]
      · rw [get_insert, if_pos rfl, Option.map_some, ofMemory, Option.map_some, toNat_lock_end hb]
        refine Represents.setLock policy (fun _ => rfl) fun until' huntil => ?_
        cases huntil
        have hle := UInt64.le_iff_toNat_le.mp policy.lock_le_ttl
        rw [saturatingAdd_toNat]
        omega
    · simp only [if_neg hx]
      refine ⟨rfl, ?_⟩
      rw [get_insert, if_pos rfl, ← runLength_cons]
      refine hrep.count hlo ?_ fun t ht => lt_expiry_iff now policy.stateTtlMillis ht
      rw [runLength_cons]
      omega

end

theorem memoryStep_represents (hrep : Represents policy since (failures[accountId]?.map ofMemory) h)
    (hle : since ≤ call.time.toNat) (hb : call.time.toNat + policy.lockMillis.toNat < 2 ^ 53) :
    seen call (memoryStep policy accountId failures call).1 = (h.step policy call).1 ∧ Represents policy
      call.time.toNat ((memoryStep policy accountId failures call).2[accountId]?.map ofMemory)
        (h.step policy call).2 := by
  have hrep := hrep.of_le hle
  cases call with
  | recordLoginFailure => exact recordLoginFailure_represents hrep hb
  | loginFailureState => exact loginFailureState_represents hrep (Nat.lt_of_le_of_lt (Nat.le_add_right _ _) hb)
  | clearLoginFailures =>
    refine ⟨rfl, ?_⟩
    simp only [memoryStep, clearLoginFailures, get_erase]
    exact Represents.nothing policy _

end Memory

/-! ### The Redis implementation -/

section Redis

variable {policy : FailurePolicy} {round : ℕ → ℕ} {key : Option RedisLoginFailure}

def FailureSlot.ofRedis (value : RedisLoginFailure) : FailureSlot :=
  ⟨value.attempts, if value.lockedUntilEpochMillis = 0 then none else some value.lockedUntilEpochMillis,
    value.expiresAtEpochMillis⟩

def InRange (key : Option RedisLoginFailure) : Prop := ∀ value, key = some value → value.lockedUntilEpochMillis < 2 ^ 53

theorem filter_ofRedis (value : RedisLoginFailure) (t : ℕ) : (ofRedis value).lockedUntil.filter (t < ·) =
      (some value.lockedUntilEpochMillis).filter (t < ·) := by
  by_cases hz : value.lockedUntilEpochMillis = 0
  · simp [ofRedis, hz, Option.filter]
  · simp [ofRedis, hz]

theorem lockEndIn_ofRedis (hrep : Represents policy t (key.map ofRedis) h) : lockEndIn (key.map ofRedis) t =
      (some (((liveKey key t).map (·.lockedUntilEpochMillis)).getD 0)).filter (t < ·) := by
  cases key with
  | none => rfl
  | some value =>
    rw [Option.map_some, lockEndIn_some, filter_ofRedis]
    by_cases hl : t < value.expiresAtEpochMillis
    · simp [liveKey, Option.filter, hl]
    · by_cases hz : value.lockedUntilEpochMillis = 0
      · simp [liveKey, Option.filter, hl, hz]
      · have hle := (hrep.lock (.ofRedis value) value.lockedUntilEpochMillis rfl (by simp [ofRedis, hz])).2
        have hle : value.lockedUntilEpochMillis ≤ value.expiresAtEpochMillis := hle
        simp [liveKey, Option.filter, hl, show ¬ t < value.lockedUntilEpochMillis by omega]

theorem attemptsIn_ofRedis (key : Option RedisLoginFailure) (t : ℕ) :
    attemptsIn (key.map ofRedis) t = ((liveKey key t).map (·.attempts)).getD 0 := by
  cases key with
  | none => rfl
  | some value =>
    have hx : (ofRedis value).expires = value.expiresAtEpochMillis := rfl
    rw [Option.map_some, attemptsIn_some, hx]
    by_cases hl : t < value.expiresAtEpochMillis
    · simp [liveKey, Option.filter, hl, ofRedis]
    · simp [liveKey, Option.filter, hl]

/-- A key with a lock has no failures counted. -/
theorem attempts_of_lock {since t : ℕ} (hrep : Represents policy since (key.map ofRedis) h)
    (hl : 0 < ((liveKey key t).map (·.lockedUntilEpochMillis)).getD 0) :
    ((liveKey key t).map (·.attempts)).getD 0 = 0 := by
  cases hlv : liveKey key t with
  | none => rfl
  | some value =>
    obtain ⟨rfl, -⟩ := Option.filter_eq_some_iff.mp hlv
    rw [hlv] at hl
    have hne : value.lockedUntilEpochMillis ≠ 0 := Nat.ne_of_gt hl
    exact (hrep.lock (.ofRedis value) value.lockedUntilEpochMillis rfl (by simp [ofRedis, hne])).1

/-- What is seen of the end of a lock that is read back from Redis. -/
theorem filter_lock_end {until' : ℕ} (hr : until' < 2 ^ 53) :
    ((if now < UInt64.ofNat until' then some (UInt64.ofNat until') else none).map UInt64.toNat).filter (now.toNat < ·) =
      (some until').filter (now.toNat < ·) := by
  have htoNat : (UInt64.ofNat until').toNat = until' := UInt64.toNat_ofNat_of_lt' (hr.trans (by decide))
  by_cases hlt : now.toNat < until'
  · simp [UInt64.lt_iff_toNat_lt, htoNat, hlt]
  · simp [UInt64.lt_iff_toNat_lt, htoNat, hlt, Option.filter]

theorem redisState_represents (hrep : Represents policy now.toNat (key.map ofRedis) h)
    (hr : InRange key) (hb : now.toNat < 2 ^ 53) :
    seen (.loginFailureState now) (redisStep policy round key (.loginFailureState now)).1 =
      some ⟨h.live policy.stateTtlMillis.toNat now.toNat, false, h.lockEnd policy.lockMillis.toNat now.toNat⟩ := by
  rw [← hrep.attempts _ (Nat.le_refl _) hb, ← hrep.lockEnd _ (Nat.le_refl _) hb, attemptsIn_ofRedis,
    lockEndIn_ofRedis hrep]
  simp only [redisStep]
  rw [seen_some now rfl]
  cases hl : liveKey key now.toNat with
  | none => rfl
  | some value =>
    have hlk := hr value (Option.filter_eq_some_iff.mp hl).1
    simp only [Option.map_some, Option.getD_some, ← filter_lock_end hlk, Option.filter_some, decide_eq_true_eq]

theorem redisRecord_represents (hea : ∀ n < 2 ^ 53, round n = n)
    (hrep : Represents policy now.toNat (key.map ofRedis) h) (hra : InRange key)
    (hb : now.toNat + policy.lockMillis.toNat < 2 ^ 53) :
    seen (.recordLoginFailure now) (redisStep policy round key (.recordLoginFailure now)).1 =
        (h.step policy (.recordLoginFailure now)).1 ∧
      Represents policy now.toNat ((redisStep policy round key (.recordLoginFailure now)).2.map ofRedis)
        (h.step policy (.recordLoginFailure now)).2 ∧
      InRange (redisStep policy round key (.recordLoginFailure now)).2 := by
  have htm : now.toNat < 2 ^ 53 := by omega
  have ha := hrep.attempts _ (Nat.le_refl _) htm
  have hlockEnd := hrep.lockEnd _ (Nat.le_refl _) htm
  rw [attemptsIn_ofRedis] at ha
  rw [lockEndIn_ofRedis hrep] at hlockEnd
  have hlv := Nat.lt_of_le_of_lt (h.live_le policy.stateTtlMillis.toNat now.toNat) hrep.below
  have hby := policy.maxAttempts_le
  have hle := UInt64.le_iff_toNat_le.mp policy.lock_le_ttl
  have hnow := hea now.toNat htm
  have hl := hea policy.lockMillis.toNat (by omega)
  have hm := hea policy.maxAttempts (by omega)
  have he := hea (now.toNat + policy.lockMillis.toNat) hb
  simp only [redisStep, recordLoginFailureScript, hnow, hl, hm, he, FailureHistory.step]
  cases hlo : h.lockEnd policy.lockMillis.toNat now.toNat with
  | some until' =>
    rw [hlo, Option.filter_eq_some_iff] at hlockEnd
    obtain ⟨hf, hlt⟩ := hlockEnd
    have hf := Option.some.inj hf
    have hlt := of_decide_eq_true hlt
    have hz := attempts_of_lock hrep (by rw [hf]; omega)
    obtain ⟨t₀, hs, rfl⟩ : ∃ t₀, h.lockSetAt = some t₀ ∧ t₀ + policy.lockMillis.toNat = until' := by
      simpa using (Option.filter_eq_some_iff.mp hlo).1
    have hpa := hrep.past t₀ hs
    cases hv : liveKey key now.toNat with
    | none =>
      rw [hv, Option.map_none, Option.getD_none] at hf
      omega
    | some value =>
      obtain ⟨rfl, hes⟩ := Option.filter_eq_some_iff.mp hv
      rw [hv, Option.map_some, Option.getD_some] at hf hz
      have hlk := hra value rfl
      simp only [Option.map_some, Option.getD_some, hz, hf, if_pos hlt]
      refine ⟨?_, ?_, ?_⟩
      · rw [hf] at hlk
        rw [seen_some now rfl, filter_lock_end hlk]
        simp [hlt]
      · have hkp : (ofRedis value).lockedUntil = some (t₀ + policy.lockMillis.toNat) := by
          rw [ofRedis, hf]
          exact if_neg (by omega)
        have := hrep.keep hkp (show _ ≤ now.toNat + policy.stateTtlMillis.toNat by omega)
        simpa only [ofRedis, hz, hf] using this
      · rintro val' ⟨⟩
        rwa [hf] at hlk
  | none =>
    rw [hlo, Option.filter_eq_none_iff] at hlockEnd
    have hn := fun hlt => hlockEnd _ rfl (decide_eq_true hlt)
    have hc : (if 0 < ((liveKey key now.toNat).map (·.lockedUntilEpochMillis)).getD 0 then 0
        else ((liveKey key now.toNat).map (·.attempts)).getD 0) = h.live policy.stateTtlMillis.toNat now.toNat := by
      split_ifs with hpos
      · rw [← ha, attempts_of_lock hrep hpos]
      · exact ha
    have hr : (if 0 < ((liveKey key now.toNat).map (·.lockedUntilEpochMillis)).getD 0 then 0
        else ((liveKey key now.toNat).map (·.lockedUntilEpochMillis)).getD 0) = 0 := by
      split <;> omega
    rw [if_neg hn, hc, hr, hea (h.live policy.stateTtlMillis.toNat now.toNat + 1) (by omega), runLength_cons]
    by_cases hx : h.live policy.stateTtlMillis.toNat now.toNat + 1 = policy.maxAttempts
    · simp only [if_pos hx, if_pos (Nat.le_of_eq hx.symm)]
      refine ⟨?_, ?_, ?_⟩
      · rw [seen_some now rfl, filter_lock_end hb]
        rfl
      · refine Represents.setLock policy (fun t => ?_) fun until' hu => ?_
        · exact filter_ofRedis ⟨0, now.toNat + policy.lockMillis.toNat, now.toNat + policy.stateTtlMillis.toNat⟩ t
        · split at hu
          · cases hu
          · cases hu
            exact Nat.add_le_add_left hle _
      · rintro value ⟨⟩
        exact hb
    · simp only [if_neg hx, if_neg
        (show ¬ policy.maxAttempts ≤ h.live policy.stateTtlMillis.toNat now.toNat + 1 by omega)]
      refine ⟨?_, ?_, ?_⟩
      · rfl
      · rw [← runLength_cons]
        refine hrep.count hlo ?_ fun _ _ => Iff.rfl
        rw [runLength_cons]
        omega
      · rintro value ⟨⟩
        exact Nat.two_pow_pos 53

theorem redisStep_represents (he : ∀ n < 2 ^ 53, round n = n) (hrep : Represents policy since (key.map ofRedis) h)
    (hr : InRange key) (hle : since ≤ call.time.toNat)
    (hb : call.time.toNat + policy.lockMillis.toNat < 2 ^ 53) :
    seen call (redisStep policy round key call).1 = (h.step policy call).1 ∧ Represents policy call.time.toNat
      ((redisStep policy round key call).2.map ofRedis) (h.step policy call).2 ∧ InRange
      (redisStep policy round key call).2 := by
  have hrep := hrep.of_le hle
  cases call with
  | recordLoginFailure => exact redisRecord_represents he hrep hr hb
  | loginFailureState =>
    exact ⟨redisState_represents hrep hr (Nat.lt_of_le_of_lt (Nat.le_add_right _ _) hb), hrep, hr⟩
  | clearLoginFailures => exact ⟨rfl, Represents.nothing policy _, fun _ hn => absurd hn (by simp [redisStep])⟩

end Redis

/-- **The count of failed logins.** For any sequence of calls on one account in order of time, with
every time and every end of a lock in range, both implementations give the answers of the history: a
failure while a lock is in force is not counted and does not extend it; any other is counted, and
locks the account until exactly `t + lock` when it is the `maxAttempts`-th of the longest run since
the last clear or lock whose gaps are below the time to live. So the two implementations give the
same attempts, newly locked or not, and the same lock in force, at every call. -/
theorem login_failures_counted (policy : FailurePolicy) (round : ℕ → ℕ) (hexact : ∀ n < 2 ^ 53, round n = n)
    (accountId : String) (calls : List FailureCall) (horder : calls.Pairwise (·.time.toNat ≤ ·.time.toNat))
    (hbound : ∀ call ∈ calls, call.time.toNat + policy.lockMillis.toNat < 2 ^ 53) :
    (trace (memoryStep policy accountId) ∅ calls).map (fun e => seen e.call e.out) =
        (trace (FailureHistory.step policy) .empty calls).map Entry.out ∧
      (trace (redisStep policy round) none calls).map (fun e => seen e.call e.out) =
        (trace (FailureHistory.step policy) .empty calls).map Entry.out := by
  have ha : ∀ call ∈ calls, 0 ≤ call.time.toNat ∧ call.time.toNat + policy.lockMillis.toNat < 2 ^ 53 :=
    fun call hcl => ⟨Nat.zero_le _, hbound call hcl⟩
  constructor
  · refine map_trace_of_simulation _ (·.time.toNat) seen
      (fun since failures h call hrep hle hb => memoryStep_represents hrep hle hb) calls ?_ horder ha
    exact Represents.nothing policy _
  · exact map_trace_of_simulation _ (·.time.toNat) seen
      (R := fun since key h => Represents policy since (key.map FailureSlot.ofRedis) h ∧ InRange key)
      (fun since key h call hrep hle hb => redisStep_represents hexact hrep.1 hrep.2 hle hb) calls
      ⟨Represents.nothing policy _, fun _ hno => absurd hno (by simp)⟩ horder ha

namespace FailureSample

def policy : FailurePolicy := ⟨2, 10, 20, by decide, by decide, by decide⟩

/-- A failure too old to count, a lock, a failure during it, one after it. -/
def calls : List FailureCall :=
  [.recordLoginFailure 5, .recordLoginFailure 25, .recordLoginFailure 44, .recordLoginFailure 53,
    .loginFailureState 54, .recordLoginFailure 60]

def answers : List (Option FailureAnswer) :=
  [some ⟨1, false, none⟩, some ⟨1, false, none⟩, some ⟨0, true, some 54⟩, some ⟨0, false, some 54⟩,
    some ⟨0, false, none⟩, some ⟨1, false, none⟩]

end FailureSample

open FailureSample in
theorem login_failures_counted_sample :
    (trace (memoryStep policy "account") ∅ calls).map (fun e => seen e.call e.out) = answers ∧
      (trace (redisStep policy id) none calls).map (fun e => seen e.call e.out) = answers := by
  have h := login_failures_counted policy id (fun _ _ => rfl) "account" calls (by decide) (by decide)
  have ha : (trace (FailureHistory.step policy) .empty calls).map Entry.out = answers := by decide +kernel
  rwa [ha] at h

end Rctl.Api
