/-
# Tasks side by side

A server runs many tasks over one shared state. A task that has been resumed either waits
again, in another state of its own, or is over; the other tasks stay where they are.

* `replaceTask`: the tasks after one of them was resumed;
* `replaceTask_perm`: one task is exchanged for its successor, if it has one;
* `mem_replaceTask`: a task after the step was there before, or is the successor;
* `countP_replaceTask`: the tasks with a property, before and after.
-/
import Mathlib.Data.List.Perm.Basic

namespace Tasks

variable {τ : Type*}

def replaceTask (tasks : List τ) (index : ℕ) : Option τ → List τ
  | some next => tasks.set index next
  | none => tasks.eraseIdx index

variable {tasks : List τ} {index : ℕ} {task : τ}

theorem perm_eraseIdx (h : tasks[index]? = some task) : tasks.Perm (task :: tasks.eraseIdx index) := by
  obtain ⟨hi, rfl⟩ := List.getElem?_eq_some_iff.mp h
  exact (List.getElem_cons_eraseIdx_perm hi).symm

theorem replaceTask_perm (h : tasks[index]? = some task) (next : Option τ) :
    ∃ rest, tasks.Perm (task :: rest) ∧ (replaceTask tasks index next).Perm (next.toList ++ rest) := by
  refine ⟨tasks.eraseIdx index, perm_eraseIdx h, ?_⟩
  cases next with
  | none => exact List.Perm.refl _
  | some next => exact List.set_perm_cons_eraseIdx (List.getElem?_eq_some_iff.mp h).1 next

theorem mem_replaceTask {next : Option τ} {other : τ} (h : other ∈ replaceTask tasks index next) :
    other ∈ tasks ∨ next = some other := by
  cases next with
  | none => exact .inl (List.mem_of_mem_eraseIdx h)
  | some =>
    rcases List.mem_or_eq_of_mem_set h with h | rfl
    · exact .inl h
    · exact .inr rfl

theorem countP_replaceTask (p q : τ → Bool) (h : tasks[index]? = some task) (next : Option τ) :
    ∃ rest : List τ, tasks.countP p = (if p task then 1 else 0) + rest.countP p ∧
      (replaceTask tasks index next).countP q = next.toList.countP q + rest.countP q := by
  obtain ⟨rest, hbf, haf⟩ := replaceTask_perm h next
  refine ⟨rest, ?_, ?_⟩
  · rw [hbf.countP_eq, List.countP_cons, Nat.add_comm]
  · rw [haf.countP_eq, List.countP_append]

end Tasks
