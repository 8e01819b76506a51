/-
# Computations that may fail

What it means for a computation in `Except` to succeed, one construct at a time:
a sequence of checks succeeded exactly if each of them did. With these as
rewrite rules a function made of early returns is read as the conjunction of the
conditions under which it reaches its end.

A function that also returns early with an answer is a computation whose errors
are answers too, put together by `merge`; `Post` is its contract, with one
postcondition for the exits and one for the end.
-/
import Mathlib.Data.List.Basic

namespace Result

universe u

variable {ε ε' : Type*} {α β : Type u} {f : α → Except ε β} {b : β} {x : Except ε α}

/-- The check `c`, failing with `e`. -/
def ensure (c : Bool) (e : ε) : Except ε Unit := if c then .ok () else .error e

/-- The value that may be absent, with `e` for its absence. -/
def okOr (o : Option α) (e : ε) : Except ε α := o.elim (.error e) .ok

/-- A computation on a state that takes effect only if it succeeds. -/
def commit {σ : Type*} (s : σ) (r : Except ε (α × σ)) : Except ε α × σ :=
  match r with
  | .ok (a, s') => (.ok a, s')
  | .error e => (.error e, s)

theorem bind_eq_ok : x >>= f = .ok b ↔ ∃ a, x = .ok a ∧ f a = .ok b := by
  cases x with
  | error => exact ⟨fun h => (by cases h), fun ⟨_, h, _⟩ => (by cases h)⟩
  | ok a => exact ⟨fun h => ⟨a, rfl, h⟩, fun ⟨_, h, hf⟩ => by cases h; exact hf⟩

variable {a : α}

theorem mapError_eq_ok {f : ε → ε'} : x.mapError f = .ok a ↔ x = .ok a := by
  cases x <;> simp [Except.mapError]

theorem map_eq_ok {f : α → β} : x.map f = .ok b ↔ ∃ a, x = .ok a ∧ f a = b := by
  cases x <;> simp [Except.map]

variable {c : Bool} {e : ε}

theorem ensure_eq_ok {u : Unit} : ensure c e = .ok u ↔ c = true := by
  cases c <;> simp [ensure]

theorem ite_error_eq_ok {c : Prop} [Decidable c] : (if c then .error e else x) = .ok a ↔ ¬c ∧ x = .ok a := by
  by_cases h : c <;> simp [h]

theorem okOr_eq_ok {o : Option α} : okOr o e = .ok a ↔ o = some a := by
  cases o <;> simp [okOr]

theorem pure_eq_ok {a b : α} : (pure a : Except ε α) = .ok b ↔ a = b := by
  simp [pure, Except.pure]

/-- Every result of a loop that fails at the first failure comes from an element. -/
theorem exists_of_mem_mapM : ∀ {l : List α} {l' : List β}, l.mapM f = .ok l' → b ∈ l' → ∃ a ∈ l, f a = .ok b
  | [], l', h, hb => by
    cases h
    cases hb
  | a :: l, l', h, hb => by
    simp only [List.mapM_cons, bind_eq_ok, pure_eq_ok] at h
    obtain ⟨b', hb', l'', hl'', rfl⟩ := h
    rcases List.mem_cons.mp hb with rfl | hb
    · exact ⟨a, List.mem_cons_self, hb'⟩
    · obtain ⟨a', ha', hf⟩ := exists_of_mem_mapM hl'' hb
      exact ⟨a', List.mem_cons_of_mem a ha', hf⟩

/-- A loop over what the results come from. -/
theorem mapM_map_of_forall {g : β → α} : ∀ {l : List β}, (∀ b ∈ l, f (g b) = .ok b) → (l.map g).mapM f = .ok l
  | [], _ => rfl
  | b :: l, h => by
    rw [List.forall_mem_cons] at h
    rw [List.map_cons, List.mapM_cons, h.1, mapM_map_of_forall h.2]
    rfl

/-- Where one function succeeds as the other does, so does the loop. -/
theorem mapM_eq_ok_of_imp {g : α → Except ε' β} (h : ∀ a b, f a = .ok b → g a = .ok b) :
    ∀ {l : List α} {l' : List β}, l.mapM f = .ok l' → l.mapM g = .ok l'
  | [], _, hf => by
    cases hf
    rfl
  | a :: l, l', hf => by
    simp only [List.mapM_cons, bind_eq_ok, pure_eq_ok] at hf ⊢
    obtain ⟨b, hb, l'', hl'', rfl⟩ := hf
    exact ⟨b, h a b hb, l'', mapM_eq_ok_of_imp h hl'', rfl⟩

/-- What the results say of the elements, they say in the same order. -/
theorem map_of_mapM {γ : Type*} {g : β → γ} {k : α → γ} (hg : ∀ a b, f a = .ok b → g b = k a) :
    ∀ {l : List α} {l' : List β}, l.mapM f = .ok l' → l'.map g = l.map k
  | [], l', h => by
    cases h
    rfl
  | a :: l, l', h => by
    simp only [List.mapM_cons, bind_eq_ok, pure_eq_ok] at h
    obtain ⟨b, hb, l'', hl'', rfl⟩ := h
    rw [List.map_cons, List.map_cons, hg a b hb, map_of_mapM hg hl'']

section Commit

variable {σ : Type u} {s s' : σ} {r : Except ε (α × σ)}

theorem commit_eq_ok (h : (commit s r).1 = .ok a) : r = .ok (a, (commit s r).2) := by
  cases r with
  | error => cases h
  | ok => cases h; rfl

theorem commit_of_error (h : (commit s r).1 = .error e) : (commit s r).2 = s := by
  cases r with
  | error => rfl
  | ok => cases h

end Commit

/-! ### Early exits -/

section Post

/-- The error of a failure satisfies `E`, the value of a success `Q`. -/
def Post (x : Except ε α) (E : ε → Prop) (Q : α → Prop) : Prop :=
  match x with
  | .error e => E e
  | .ok a => Q a

/-- The answer of a computation, wherever it ended. -/
def merge (x : Except α α) : α :=
  match x with
  | .error a => a
  | .ok a => a

variable {E : ε → Prop} {P : α → Prop} {Q : β → Prop}

theorem post_bind (hx : Post x E P) (hf : ∀ a, P a → Post (f a) E Q) : Post (x >>= f) E Q := by
  cases x with
  | error => exact hx
  | ok a => exact hf a hx

theorem post_ensure (h : c = false → E e) : Post (ensure c e) E fun _ => c = true := by
  cases c with
  | false => exact h rfl
  | true => rfl

theorem post_okOr {o : Option α} (h : o = none → E e) : Post (okOr o e) E fun a => o = some a := by
  cases o with
  | none => exact h rfl
  | some => rfl

theorem post_pure (h : P a) : Post (pure a : Except ε α) E P := h

theorem post_mapError {x : Except ε' α} {g : ε' → ε} (h : ∀ e, x = .error e → E (g e)) :
    Post (x.mapError g) E fun a => x = .ok a := by
  cases x with
  | error e => exact h e rfl
  | ok => rfl

theorem merge_post {x : Except α α} (h : Post x P P) : P (merge x) := by
  cases x <;> exact h

end Post

end Result
