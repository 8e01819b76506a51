/-
# A gate that is closed and drained

Tasks do some of their work under a lease of a gate. The gate counts its leases; once it is
closing it grants no more of them, and whoever closes it waits until none is out. `Move` is one
step of tasks side by side, where `leased` says which of them hold a lease.

* `counted_move`: the count is the number of tasks that hold a lease;
* `drained_of_idle`: a closing gate that counts none has no task with a lease;
* `drained_move`: and it stays so;
* `settled_step`: once a task that closes the gate has got past its wait, no task ever holds a
  lease again.
-/
import Rctl.Lib.Tasks

namespace Gates

open Tasks

structure Gate where
  closing : Bool
  active : ℕ

variable {τ : Type*} (leased : τ → Bool) {task : τ}

inductive Move (g : Gate) (tasks : List τ) : Gate → List τ → Prop
  | idle : Move g tasks g tasks
  | spawn {task : τ} (hout : leased task = false) : Move g tasks g (tasks ++ [task])
  | stepSpawning {index : ℕ} {task : τ} {next : Option τ} {spawned : List τ} (htask : tasks[index]? = some task)
      (hsame : next.any leased = leased task) (hout : ∀ task ∈ spawned, leased task = false) :
      Move g tasks g (replaceTask tasks index next ++ spawned)
  | enter {index : ℕ} {task next : τ} (hopen : g.closing = false) (htask : tasks[index]? = some task)
      (hout : leased task = false) (hin : leased next = true) :
      Move g tasks { g with active := g.active + 1 } (replaceTask tasks index (some next))
  | leave {index : ℕ} {task : τ} {next : Option τ} (htask : tasks[index]? = some task) (hin : leased task = true)
      (hout : next.any leased = false) :
      Move g tasks { g with active := g.active - 1 } (replaceTask tasks index next)
  | close {index : ℕ} {task : τ} {next : Option τ} (htask : tasks[index]? = some task)
      (hsame : next.any leased = leased task) : Move g tasks { g with closing := true } (replaceTask tasks index next)

theorem Move.step {leased : τ → Bool} {g : Gate} {tasks : List τ} {ix : ℕ} {next : Option τ}
    (ht : tasks[ix]? = some task) (hs : next.any leased = leased task) :
    Move leased g tasks g (replaceTask tasks ix next) := by
  have h : Move leased g tasks g (replaceTask tasks ix next ++ []) := .stepSpawning ht hs (by simp)
  rwa [List.append_nil] at h

/-- The gate counts the tasks that hold a lease. -/
def Counted (g : Gate) (tasks : List τ) : Prop := g.active = tasks.countP leased

/-- The gate is closing and no task holds a lease. -/
def Drained (g : Gate) (tasks : List τ) : Prop := g.closing = true ∧ ∀ task ∈ tasks, leased task = false

variable {leased} {g g' : Gate} {tasks tasks' : List τ}

theorem countP_toList (next : Option τ) : next.toList.countP leased = (next.any leased).toNat := by
  cases next with
  | none => rfl
  | some task => cases h : leased task <;> simp [h]

/-- The leases after one task was exchanged for its successor. -/
theorem countP_replaced (leased : τ → Bool) {ix : ℕ} (ht : tasks[ix]? = some task) (next : Option τ) :
    (replaceTask tasks ix next).countP leased + (leased task).toNat =
      tasks.countP leased + (next.any leased).toNat := by
  obtain ⟨rest, hbf, haf⟩ := countP_replaceTask leased leased ht next
  rw [hbf, haf, countP_toList]
  cases leased task <;> simp <;> omega

section

variable (hm : Move leased g tasks g' tasks')
include hm

theorem counted_move (h : Counted leased g tasks) : Counted leased g' tasks' := by
  unfold Counted at h ⊢
  cases hm with
  | idle => exact h
  | spawn ho =>
    rw [List.countP_append, List.countP_singleton, ho, h]
    rfl
  | @stepSpawning _ _ next spawned ht hs ho =>
    have hc := countP_replaced leased ht next
    have hspawned : spawned.countP leased = 0 := List.countP_eq_zero.mpr fun task ht => by simp [ho task ht]
    rw [hs] at hc
    rw [List.countP_append]
    omega
  | @close _ _ next ht hs =>
    have hc := countP_replaced leased ht next
    rw [hs] at hc
    show g.active = _
    omega
  | @enter _ _ next _ ht ho hin =>
    have hc := countP_replaced leased ht (some next)
    rw [Option.any_some, ho, hin] at hc
    simp only [Bool.toNat_false, Bool.toNat_true] at hc
    show g.active + 1 = _
    omega
  | @leave _ _ next ht hin ho =>
    have hc := countP_replaced leased ht next
    rw [hin, ho] at hc
    simp only [Bool.toNat_false, Bool.toNat_true] at hc
    show g.active - 1 = _
    omega

theorem closing_move (h : g.closing = true) : g'.closing = true := by
  cases hm with
  | close => rfl
  | _ => exact h

/-- A closing gate grants no lease. -/
theorem active_le_of_closing (h : g.closing = true) : g'.active ≤ g.active := by
  cases hm with
  | enter ho =>
    rw [h] at ho
    cases ho
  | leave => exact Nat.sub_le _ _
  | _ => exact Nat.le_refl _

end

theorem active_pos_of_leased (h : Counted leased g tasks) (ht : task ∈ tasks) (hin : leased task = true) :
    0 < g.active := by
  rw [h]
  exact List.countP_pos_iff.mpr ⟨task, ht, hin⟩

theorem drained_of_idle (h : Counted leased g tasks) (hc : g.closing = true) (hi : g.active = 0) :
    Drained leased g tasks := by
  rw [h, List.countP_eq_zero] at hi
  exact ⟨hc, fun task ht => Bool.eq_false_iff.mpr (hi task ht)⟩

theorem drained_move (hm : Move leased g tasks g' tasks') (h : Drained leased g tasks) :
    Drained leased g' tasks' := by
  refine ⟨closing_move hm h.1, fun task' htask' => ?_⟩
  -- the successor of a task without a lease has none
  have hke {ix : ℕ} {task : τ} {next : Option τ} (htk : tasks[ix]? = some task)
      (hsm : next.any leased = leased task) (hmem : task' ∈ replaceTask tasks ix next) : leased task' = false := by
    rcases mem_replaceTask hmem with hd | rfl
    · exact h.2 task' hd
    · rw [Option.any_some] at hsm
      rw [hsm]
      exact h.2 task (List.mem_of_getElem? htk)
  cases hm with
  | idle => exact h.2 task' htask'
  | spawn ho =>
    rcases List.mem_append.mp htask' with hd | hn
    · exact h.2 task' hd
    · rw [List.mem_singleton.mp hn]
      exact ho
  | stepSpawning htk hsm ho =>
    rcases List.mem_append.mp htask' with hd | hn
    · exact hke htk hsm hd
    · exact ho task' hn
  | close htk hsm => exact hke htk hsm htask'
  | enter hop =>
    rw [h.1] at hop
    cases hop
  | leave htk hin =>
    rw [h.2 _ (List.mem_of_getElem? htk)] at hin
    cases hin

/-! ### Who closes the gate

A task that closes the gate waits (`waits`) and then gets past its wait (`past`). -/

variable {waits past : τ → Bool}

/-- A step as the closers see it; `returns` says that a closer returns. -/
structure Closing (leased waits past : τ → Bool) (g : Gate) (tasks : List τ) (g' : Gate) (tasks' : List τ)
    (returns : Prop) : Prop where
  move : Move leased g tasks g' tasks'
  waiting : ∀ task ∈ tasks', waits task = true → task ∈ tasks ∨ g'.closing = true
  passing : ∀ task ∈ tasks', past task = true →
    (∃ task ∈ tasks, past task = true) ∨ (g.active = 0 ∧ ∃ task ∈ tasks, waits task = true)
  returning : returns → ∃ task ∈ tasks, past task = true

/-- Only the tasks that are new after the step are to be looked at. -/
theorem Closing.of_new {returns : Prop} (hm : Move leased g tasks g' tasks')
    (hn : ∀ task ∈ tasks', task ∈ tasks ∨ ((waits task = true → g'.closing = true) ∧
      (past task = true → (∃ task ∈ tasks, past task = true) ∨ (g.active = 0 ∧ ∃ task ∈ tasks, waits task = true))))
    (hr : returns → ∃ task ∈ tasks, past task = true) : Closing leased waits past g tasks g' tasks' returns := by
  refine ⟨hm, fun task ht hw => ?_, fun task ht hp => ?_, hr⟩
  · exact (hn task ht).imp_right fun h => h.1 hw
  · rcases hn task ht with hd | h
    · exact .inl ⟨task, hd, hp⟩
    · exact h.2 hp

/-- What holds all along; `returned` says that a closer has returned. -/
structure Settled (leased waits past : τ → Bool) (g : Gate) (tasks : List τ) (returned : Prop) : Prop where
  counted : Counted leased g tasks
  waiting : ∀ task ∈ tasks, waits task = true → g.closing = true
  drained : (∃ task ∈ tasks, past task = true) ∨ returned → Drained leased g tasks

theorem settled_step {returns returned : Prop} (h : Settled leased waits past g tasks returned)
    (hst : Closing leased waits past g tasks g' tasks' returns) :
    Settled leased waits past g' tasks' (returned ∨ returns) := by
  have hpa (h' : (∃ task ∈ tasks, past task = true) ∨ returned) : Drained leased g' tasks' :=
    drained_move hst.move (h.drained h')
  refine ⟨counted_move hst.move h.counted, fun task htk hw => ?_, ?_⟩
  · rcases hst.waiting task htk hw with hd | hc
    · exact closing_move hst.move (h.waiting task hd hw)
    · exact hc
  · rintro (⟨task, htk, htaskPast⟩ | hr | hreturns)
    · rcases hst.passing task htk htaskPast with hd | ⟨hil, waiter, hwaiter, hw⟩
      · exact hpa (.inl hd)
      · exact drained_move hst.move (drained_of_idle h.counted (h.waiting waiter hwaiter hw) hil)
    · exact hpa (.inr hr)
    · exact hpa (.inl (hst.returning hreturns))

/-- What a gate gives at a moment, and for the step from it to `g'`: `starts` says that the step
starts some work that is done under a lease. -/
structure Safe (leased running : τ → Bool) (returned : Prop) (g : Gate) (tasks : List τ) (g' : Gate) (starts : Prop) :
    Prop where
  counted : g.active = tasks.countP leased
  running_le : tasks.countP running ≤ g.active
  /-- Giving a lease back never counts below zero. -/
  leaves : ∀ task ∈ tasks, leased task = true → 0 < g.active
  grants : g.closing = true → g'.active ≤ g.active ∧ g'.closing = true
  quiet : returned → (∀ task ∈ tasks, running task = false) ∧ ¬ starts

theorem Settled.safe {running : τ → Bool} {returned starts : Prop} (h : Settled leased waits past g tasks returned)
    (hm : Move leased g tasks g' tasks') (hr : ∀ task, running task = true → leased task = true)
    (hsr : (∀ task ∈ tasks, leased task = false) → ¬ starts) : Safe leased running returned g tasks g' starts := by
  refine ⟨h.counted, ?_, fun task htk hin => active_pos_of_leased h.counted htk hin,
    fun hc => ⟨active_le_of_closing hm hc, closing_move hm hc⟩, fun hreturned => ?_⟩
  · rw [h.counted]
    exact List.countP_mono_left fun task _ => hr task
  · obtain ⟨-, ho⟩ := h.drained (.inr hreturned)
    refine ⟨fun task htk => Bool.eq_false_iff.mpr fun hruns => ?_, hsr ho⟩
    have hin := hr task hruns
    rw [ho task htk] at hin
    cases hin

end Gates
