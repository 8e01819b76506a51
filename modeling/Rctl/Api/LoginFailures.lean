/-
# Counting failed logins

The ephemeral store keeps, for each account key, how many logins have failed in a row.
With the last one that is allowed the account is locked for a time, and the count starts
again at zero. While the lock is in force a failure is not counted; a count that has not
grown for a while is forgotten.

What a call does is told by the entry of its key (`get_loginFailureState`,
`get_recordLoginFailure`), and a well-formed entry (`WfEntry`) is either a lock or a count
below the maximum.
-/
import Rctl.Api.SignedRequests

namespace Rctl.Api

open ByteString Result OrdMap

structure LoginFailureState where
  attempts : ℕ := 0
  lockedUntilEpochMillis : Option UInt64 := none
  newlyLocked : Bool := false
  deriving DecidableEq, Repr

/-- An entry of the memory implementation; `attempts` is a `u8`. -/
structure MemoryLoginFailure where
  attempts : ℕ
  lockedUntilEpochMillis : Option UInt64
  expiresAtEpochMillis : UInt64
  deriving DecidableEq, Repr

def lockedAt (lockedUntil : Option UInt64) (now : UInt64) : Bool := lockedUntil.any (now < ·)

def LoginFailureState.isLockedAt (state : LoginFailureState) (now : UInt64) : Bool :=
  lockedAt state.lockedUntilEpochMillis now

def loginFailureState (failures : Table MemoryLoginFailure) (accountId : String) (now : UInt64) :
    LoginFailureState × Table MemoryLoginFailure :=
  match failures[accountId]? with
  | none => ({}, failures)
  | some value =>
    if value.expiresAtEpochMillis ≤ now then ({}, failures.erase accountId)
    else ({ attempts := value.attempts, lockedUntilEpochMillis := value.lockedUntilEpochMillis }, failures)

/-- The failures that still count: an entry that has expired or was a lock counts none. -/
def liveAttempts (current : Option MemoryLoginFailure) (now : UInt64) : ℕ :=
  ((current.filter fun value => now < value.expiresAtEpochMillis).bind fun value =>
    if value.lockedUntilEpochMillis.isNone then some value.attempts else none).getD 0

/-- The entry after a counted failure, and whether it locks the account. -/
def countFailure (current : Option MemoryLoginFailure) (now : UInt64) (maxAttempts : ℕ)
    (lockMillis stateTtlMillis : UInt64) : MemoryLoginFailure × Bool :=
  let attempts := min (liveAttempts current now + 1) 255
  let newlyLocked := decide (maxAttempts ≤ attempts)
  (⟨if newlyLocked then 0 else attempts, if newlyLocked then some (saturatingAdd now lockMillis) else none,
    saturatingAdd now stateTtlMillis⟩, newlyLocked)

def recordLoginFailure (failures : Table MemoryLoginFailure) (accountId : String) (now : UInt64)
    (maxAttempts : ℕ) (lockMillis stateTtlMillis : UInt64) : LoginFailureState × Table MemoryLoginFailure :=
  let current := failures[accountId]?
  match current.filter fun value => lockedAt value.lockedUntilEpochMillis now with
  | some value =>
    ({ attempts := value.attempts, lockedUntilEpochMillis := value.lockedUntilEpochMillis }, failures)
  | none =>
    let (value, newlyLocked) := countFailure current now maxAttempts lockMillis stateTtlMillis
    (⟨value.attempts, value.lockedUntilEpochMillis, newlyLocked⟩, failures.insert accountId value)

def clearLoginFailures (failures : Table MemoryLoginFailure) (accountId : String) : Table MemoryLoginFailure :=
  failures.erase accountId

/-! ### The entry of a key -/

def attemptsOf (entry : Option MemoryLoginFailure) : ℕ := (entry.map (·.attempts)).getD 0

/-- The account is locked at that time. -/
def entryLocked (entry : Option MemoryLoginFailure) (now : UInt64) : Bool :=
  entry.any fun value => lockedAt value.lockedUntilEpochMillis now

def entryExpired (entry : Option MemoryLoginFailure) (now : UInt64) : Bool :=
  entry.any fun value => value.expiresAtEpochMillis ≤ now

/-- An entry is a lock, which counts no failures and does not outlast the entry, or a count
below the maximum. -/
def WfEntry (maxAttempts : ℕ) (entry : Option MemoryLoginFailure) : Prop :=
  ∀ value, entry = some value → value.attempts < maxAttempts ∧
    ∀ lockedUntil, value.lockedUntilEpochMillis = some lockedUntil →
      value.attempts = 0 ∧ lockedUntil ≤ value.expiresAtEpochMillis

section Entry

variable {failures : Table MemoryLoginFailure} {entry : Option MemoryLoginFailure} {accountId key : String}
  {now later : UInt64} {maxAttempts : ℕ} {lockMillis stateTtlMillis : UInt64}

theorem entryLocked_mono (h : now ≤ later) (hlk : entryLocked entry later = true) :
    entryLocked entry now = true := by
  simp only [entryLocked, lockedAt, Option.any_eq_true_iff_get, decide_eq_true_eq] at hlk ⊢
  obtain ⟨hen, hl, hlater⟩ := hlk
  refine ⟨hen, hl, ?_⟩
  rw [UInt64.lt_iff_toNat_lt] at hlater ⊢
  rw [UInt64.le_iff_toNat_le] at h
  omega

theorem get_loginFailureState (failures : Table MemoryLoginFailure) (accountId key : String) (now : UInt64) :
    (loginFailureState failures accountId now).2[key]? =
      if accountId = key ∧ entryExpired failures[key]? now then none else failures[key]? := by
  unfold loginFailureState
  by_cases hk : accountId = key
  · subst hk
    cases hv : failures[accountId]? with
    | none => simp [entryExpired, hv]
    | some val =>
      by_cases he : val.expiresAtEpochMillis ≤ now
      · simp [entryExpired, he]
      · simp [entryExpired, he, hv]
  · cases hv : failures[accountId]? with
    | none => simp [hk]
    | some val =>
      by_cases he : val.expiresAtEpochMillis ≤ now
      · simp [hk, he, get_erase]
      · simp [hk, he]

/-- A lock does not outlast its entry. -/
theorem entryExpired_of_locked (hwf : WfEntry maxAttempts entry) (h : entryLocked entry now = true) :
    entryExpired entry now = false := by
  cases entry with
  | none => rfl
  | some val =>
    simp only [entryLocked, Option.any_some, lockedAt, Option.any_eq_true_iff_get, decide_eq_true_eq] at h
    obtain ⟨hl, hlater⟩ := h
    have hle := ((hwf val rfl).2 _ (Option.some_get hl).symm).2
    simp only [entryExpired, Option.any_some, decide_eq_false_iff_not]
    rw [UInt64.lt_iff_toNat_lt] at hlater
    rw [UInt64.le_iff_toNat_le] at hle ⊢
    omega

theorem isLockedAt_loginFailureState (hwf : WfEntry maxAttempts failures[accountId]?) :
    (loginFailureState failures accountId now).1.isLockedAt now = entryLocked failures[accountId]? now := by
  cases hlk : entryLocked failures[accountId]? now with
  | true =>
    have hl := entryExpired_of_locked hwf hlk
    unfold loginFailureState
    cases hv : failures[accountId]? with
    | none => rw [hv] at hlk; cases hlk
    | some =>
      rw [hv] at hlk hl
      simp only [entryExpired, Option.any_some, decide_eq_false_iff_not] at hl
      simp only [hl]
      exact hlk
  | false =>
    unfold loginFailureState
    cases hv : failures[accountId]? with
    | none => rfl
    | some val =>
      rw [hv] at hlk
      by_cases he : val.expiresAtEpochMillis ≤ now
      · simp only [he]
        rfl
      · simp only [he]
        exact hlk

theorem get_recordLoginFailure (failures : Table MemoryLoginFailure) (accountId key : String) (now : UInt64)
    (maxAttempts : ℕ) (lockMillis stateTtlMillis : UInt64) :
    (recordLoginFailure failures accountId now maxAttempts lockMillis stateTtlMillis).2[key]? =
      if accountId = key ∧ entryLocked failures[key]? now = false
      then some (countFailure failures[key]? now maxAttempts lockMillis stateTtlMillis).1 else failures[key]? := by
  unfold recordLoginFailure
  by_cases hk : accountId = key
  · subst hk
    cases hv : failures[accountId]? with
    | none => simp [entryLocked]
    | some val =>
      by_cases hlk : lockedAt val.lockedUntilEpochMillis now = true
      · simp [entryLocked, Option.filter, hlk, hv]
      · simp [entryLocked, Option.filter, hlk]
  · simp only [hk, false_and, if_false]
    split
    · rfl
    · rw [get_insert, if_neg hk]

theorem newlyLocked_recordLoginFailure :
    (recordLoginFailure failures accountId now maxAttempts lockMillis stateTtlMillis).1.newlyLocked =
      (!entryLocked failures[accountId]? now &&
        (countFailure failures[accountId]? now maxAttempts lockMillis stateTtlMillis).2) := by
  unfold recordLoginFailure
  cases hv : failures[accountId]? with
  | none => simp [entryLocked]
  | some val =>
    by_cases hlk : lockedAt val.lockedUntilEpochMillis now = true
    · simp [entryLocked, Option.filter, hlk]
    · simp [entryLocked, Option.filter, hlk]

theorem liveAttempts_eq (hwf : WfEntry maxAttempts entry) (he : entryExpired entry now = false) :
    liveAttempts entry now = attemptsOf entry := by
  cases entry with
  | none => rfl
  | some val =>
    simp only [entryExpired, Option.any_some, decide_eq_false_iff_not, UInt64.not_le] at he
    cases hl : val.lockedUntilEpochMillis with
    | none => simp [liveAttempts, attemptsOf, Option.filter, he, hl]
    | some lockedUntil =>
      have hz := ((hwf val rfl).2 lockedUntil hl).1
      simp [liveAttempts, attemptsOf, Option.filter, he, hl, hz]

/-- A failure that does not lock the account leaves one that is not locked, with one failure
more. -/
theorem countFailure_of_unlocked (hx : maxAttempts ≤ 255) (hwf : WfEntry maxAttempts entry)
    (he : entryExpired entry now = false)
    (h : (countFailure entry now maxAttempts lockMillis stateTtlMillis).2 = false) :
    attemptsOf (some (countFailure entry now maxAttempts lockMillis stateTtlMillis).1) = attemptsOf entry + 1 ∧
      ∀ at', entryLocked (some (countFailure entry now maxAttempts lockMillis stateTtlMillis).1) at' = false := by
  simp only [countFailure, liveAttempts_eq hwf he, decide_eq_false_iff_not] at h
  simp only [countFailure, liveAttempts_eq hwf he, h]
  refine ⟨?_, fun _ => rfl⟩
  show min (attemptsOf entry + 1) 255 = attemptsOf entry + 1
  omega

theorem wfEntry_countFailure (hpos : 0 < maxAttempts) (hl : lockMillis ≤ stateTtlMillis) :
    WfEntry maxAttempts (some (countFailure entry now maxAttempts lockMillis stateTtlMillis).1) := by
  rintro val ⟨⟩
  unfold countFailure
  by_cases hx : maxAttempts ≤ min (liveAttempts entry now + 1) 255
  · simp only [hx, decide_true, if_true]
    refine ⟨hpos, fun lockedUntil hlk => ⟨trivial, ?_⟩⟩
    cases hlk
    rw [UInt64.le_iff_toNat_le] at hl ⊢
    rw [saturatingAdd_toNat, saturatingAdd_toNat]
    omega
  · simp only [hx, decide_false, Bool.false_eq_true, if_false]
    exact ⟨by omega, nofun⟩

end Entry

end Rctl.Api
