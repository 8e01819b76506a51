/-
# What a log says about the past

`SinceAt P Q log`: some entry of the log satisfies `P`, which may also look at the log before it,
and every entry after it satisfies `Q`. As a log grows, `sinceAt_snoc` says how it changes; a
chain of events is a `SinceAt` whose `P` asks for the event before. `Since` is the case in which
`P` looks at the entry alone.
-/
import Mathlib.Data.List.Basic

namespace Past

variable {α : Type*} {Q : α → Prop} {P : List α → α → Prop} {log : List α}

def SinceAt (P : List α → α → Prop) (Q : α → Prop) (log : List α) : Prop :=
  ∃ before a after, log = before ++ a :: after ∧ P before a ∧ ∀ b ∈ after, Q b

def Since (P Q : α → Prop) (log : List α) : Prop :=
  ∃ before a after, log = before ++ a :: after ∧ P a ∧ ∀ b ∈ after, Q b

theorem not_sinceAt_nil : ¬ SinceAt P Q [] := by
  rintro ⟨before, a, after, hl, -⟩
  simp at hl

theorem sinceAt_snoc {a : α} : SinceAt P Q (log ++ [a]) ↔ P log a ∨ (Q a ∧ SinceAt P Q log) := by
  constructor
  · rintro ⟨before, b, after, hl, hb, haf⟩
    rcases List.eq_nil_or_concat' after with rfl | ⟨after, c, rfl⟩
    · obtain ⟨rfl, heq⟩ := List.append_inj' hl rfl
      cases heq
      exact .inl hb
    · rw [← List.cons_append, ← List.append_assoc] at hl
      obtain ⟨rfl, heq⟩ := List.append_inj' hl rfl
      cases heq
      exact .inr ⟨haf a (by simp), before, b, after, rfl, hb, fun c hc => haf c (by simp [hc])⟩
  · rintro (ha | ⟨ha, before, b, after, rfl, hb, haf⟩)
    · exact ⟨log, a, [], rfl, ha, by simp⟩
    · refine ⟨before, b, after ++ [a], by simp, hb, fun c hc => ?_⟩
      rcases List.mem_append.mp hc with hc | hc
      · exact haf c hc
      · rw [List.mem_singleton.mp hc]
        exact ha

variable {P : α → Prop}

theorem not_since_nil : ¬ Since P Q [] := not_sinceAt_nil

theorem since_snoc {a : α} : Since P Q (log ++ [a]) ↔ P a ∨ (Q a ∧ Since P Q log) :=
  sinceAt_snoc

/-- What has held since `P` before the last event of a chain, and at that event, has held since `P`. -/
theorem since_of_sinceAt {R : List α → α → Prop} {Q' : α → Prop} (h : SinceAt R Q' log)
    (hbf : ∀ before a, R before a → Since P Q before ∧ Q a) (haf : ∀ a, Q' a → Q a) : Since P Q log := by
  obtain ⟨before, a, after, rfl, hR, hQ'⟩ := h
  obtain ⟨⟨first, b, rest, rfl, hb, hr⟩, ha⟩ := hbf before a hR
  refine ⟨first, b, rest ++ a :: after, by simp, hb, fun c hc => ?_⟩
  rcases List.mem_append.mp hc with hc | hc
  · exact hr c hc
  · rcases List.mem_cons.mp hc with rfl | hc
    · exact ha
    · exact haf c (hQ' c hc)

end Past
