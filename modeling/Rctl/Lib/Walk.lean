/-
# Walks

A walk from `a` to `b` visits the values in a list, one after the other and each different
from the one before. The list is what an observer sees who is told of every change.
-/
import Mathlib.Data.List.Basic

namespace Walks

variable {α : Type*} {a b c : α} {l l' : List α}

inductive Walk : α → α → List α → Prop
  | nil (a : α) : Walk a a []
  | cons {a b c : α} {l : List α} (hne : a ≠ b) (h : Walk b c l) : Walk a c (b :: l)

theorem Walk.single (hne : a ≠ b) : Walk a b [b] := .cons hne (.nil b)

theorem Walk.append (h : Walk a b l) (h' : Walk b c l') : Walk a c (l ++ l') := by
  induction h with
  | nil => exact h'
  | cons hne _ ih => exact .cons hne (ih h')

theorem Walk.getLast (h : Walk a b l) : l.getLast?.getD a = b := by
  induction h with
  | nil => rfl
  | @cons a b c l _ _ ih =>
    rw [List.getLast?_cons]
    exact ih

/-- A walk that ends elsewhere has the end as its last value. -/
theorem Walk.getLast_eq (h : Walk a b l) (hne : a ≠ b) : l.getLast? = some b := by
  have hla := h.getLast
  cases hl : l.getLast? with
  | none =>
    rw [hl] at hla
    exact absurd hla hne
  | some =>
    rw [hl, Option.getD_some] at hla
    rw [hla]

end Walks
