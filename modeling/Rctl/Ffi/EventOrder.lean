/-
# The order in which state changes are told

A call drains the session's events under its lock and makes their callbacks after it has released
the lock. Calls from several threads can therefore tell of changes in another order than they
happened. As long as no call is made while another one runs, the callbacks tell of the states that
the session went through, in order, and of all of them once the calls have returned.
-/
import Rctl.Ffi.Threads

namespace Rctl.Ffi

open ByteString Controller StateRun Tasks Gates Walks

variable {P : Primitives}

abbrev ThreadEntry (P : Primitives) := Entry (Threads P) Input (Option (Except Code Unit))

section Order

variable {J : Json} {t : Threads P} {stage : Stage} {r : Resumed P} {task : Option Stage}

/-- What a call has still to tell. -/
def owed : Stage → List ControllerSessionState
  | .commanding left _ pending => told left ++ told pending.callbacks
  | .holding pending | .released pending => told pending.callbacks
  | .emitting left _ _ => told left
  | _ => []

def Stage.pending : Stage → Option Pending
  | .commanding _ _ pending | .holding pending | .released pending => some pending
  | _ => none

def Stage.destroying : Stage → Bool
  | .removed | .found | .waiting | .drained => true
  | _ => false

/-- The session sets its state when a call works under its lock, and when it is destroyed. -/
theorem advance_states (hI : ThreadsInv t) (hst : stage ∈ t.stages) (h : Advance J t stage r) :
    ∃ new, r.threads.session.states = t.session.states ++ new ∧
      Walk t.session.state r.threads.session.state new := by
  cases h with
  | @entered op | @commanded op =>
    have ha := enter_announced (J := J) hI.events (hI.called op hst)
    exact ⟨_, ha.states, ha.walk⟩
  | destroyed =>
    obtain ⟨new, hq, -⟩ := acts_announce (close_acts t.session.closing)
    exact ⟨_, hq.states, hq.walk⟩
  | _ => exact ⟨[], (List.append_nil _).symm, .nil _⟩

/-- What a call tells and has still to tell are the states that were set. -/
theorem advance_owed (hI : ThreadsInv t) (hst : stage ∈ t.stages) (hop : t.session.transport.closing = false)
    (hl : stage.destroying = false) (hs : ∀ p ∈ stage.pending, p.emits = false → p.callbacks = [])
    (htl : t.session.states = told t.delivered ++ owed stage) (h : Advance J t stage r) :
    r.threads.session.states = told r.threads.delivered ++ r.next.elim [] owed := by
  cases h with
  | @entered op =>
    rw [show owed (.called op) = [] from rfl, List.append_nil] at htl
    exact htl ▸ (enter_announced (J := J) hI.events (hI.called op hst)).states
  | @commanded op =>
    rw [show owed (.called op) = [] from rfl, List.append_nil] at htl
    have ha := enter_announced (J := J) hI.events (hI.called op hst)
    have hco : told (enter J t.session op).session.transport.delivered = [] := by
      rw [ha.behind.told, hI.delivered]
      rfl
    show (enter J t.session op).session.states =
      told t.delivered ++ (told (enter J t.session op).session.transport.delivered ++ _)
    rw [ha.states, htl, hco]
    rfl
  | @commandBegan c left pending =>
    show t.session.states = told (t.delivered ++ [c]) ++ (told left ++ told pending.callbacks)
    rw [htl, owed, ← List.singleton_append, told_append, told_append]
    simp only [List.append_assoc]
  | @callbackBegan c left result =>
    show t.session.states = told (t.delivered ++ [c]) ++ told left
    rw [htl, owed, ← List.singleton_append, told_append, told_append, List.append_assoc]
  | @silent pending hno =>
    rw [owed, hs pending rfl hno] at htl
    exact htl
  | refused hc =>
    rw [hop] at hc
    cases hc
  | found | closing | drained | destroyed => cases hl
  | _ => exact htl

/-- A step of a call that destroys the handle tells nothing. -/
theorem advance_destroying (h : Advance J t stage r) (hd : stage.destroying = true) :
    r.threads.delivered = t.delivered ∧ owed stage = [] ∧ r.next.elim [] owed = [] := by
  cases h with
  | found | closing | drained | destroyed => exact ⟨rfl, rfl, rfl⟩
  | _ => cases hd

/-! ### Calls one at a time -/

def Input.isCall : Input → Bool
  | .call _ => true
  | .resume _ => false

/-- No call is made while another one runs. -/
def Alone (e : ThreadEntry P) : Prop := e.call.isCall = true → e.pre.stages.isEmpty = true

instance (e : ThreadEntry P) : Decidable (Alone e) := inferInstanceAs (Decidable (_ → _))

/-- The one call that runs, if any, and what was and is to be told. Changes that are told no more
come after the handle was removed. -/
structure SerialInv (t : Threads P) (task : Option Stage) : Prop where
  base : ThreadsInv t
  stages : t.stages = task.toList
  gate : t.known = true → t.session.transport.closing = false
  kind : ∀ stage ∈ task, stage.destroying = !t.known
  silent : ∀ stage ∈ task, ∀ p ∈ stage.pending, p.emits = false → p.callbacks = []
  walk : Walk .idle t.session.state t.session.states
  isPrefix : told t.delivered ++ task.elim [] owed <+: t.session.states
  tells : t.known = true → t.session.states = told t.delivered ++ task.elim [] owed

theorem advance_kind (h : Advance J t stage r) :
    r.threads.known = t.known ∧ ∀ next ∈ r.next, next.destroying = stage.destroying := by
  cases h with
  | silent | refused | returned | destroyed => exact ⟨rfl, by simp⟩
  | _ =>
    refine ⟨rfl, fun next hn => ?_⟩
    cases hn
    rfl

theorem advance_gate (hI : ThreadsInv t) (hst : stage ∈ t.stages) (hl : stage.destroying = false)
    (h : Advance J t stage r) : r.threads.session.transport.closing = t.session.transport.closing := by
  cases h with
  | @entered op | @commanded op => exact (enter_announced hI.events (hI.called op hst)).behind.closing
  | closing | destroyed => cases hl
  | _ => rfl

theorem advance_silent (hI : ThreadsInv t) (hst : stage ∈ t.stages)
    (hs : ∀ p ∈ stage.pending, p.emits = false → p.callbacks = []) (h : Advance J t stage r) :
    ∀ next ∈ r.next, ∀ p ∈ next.pending, p.emits = false → p.callbacks = [] := by
  intro next hn p hp
  cases h with
  | @entered op | @commanded op =>
    cases hn
    cases hp
    exact (enter_announced hI.events (hI.called op hst)).silent
  | commandBegan | commandEnded | commandLeft | unlocked =>
    cases hn
    cases hp
    exact hs p rfl
  | _ => cases hn <;> cases hp

theorem single_of_get {ix : ℕ} (h : task.toList[ix]? = some stage) : ix = 0 ∧ task = some stage := by
  cases task with
  | none => simp at h
  | some =>
    cases ix with
    | zero => exact ⟨rfl, h⟩
    | succ => simp at h

theorem serialInv_advance (hI : SerialInv t (some stage))
    (hbase : ThreadsInv { r.threads with stages := r.next.toList }) (h : Advance J t stage r) :
    SerialInv { r.threads with stages := r.next.toList } r.next := by
  obtain ⟨base, hs, hga, hki, hsi, hwk, hpre, htl⟩ := hI
  have hst : stage ∈ t.stages := by simp [hs]
  have hki := hki stage rfl
  have hsi := hsi stage rfl
  obtain ⟨hkn, hnx⟩ := advance_kind h
  obtain ⟨new, hnew, hw⟩ := advance_states base hst h
  have htold (hlv : t.known = true) : r.threads.session.states = told r.threads.delivered ++ r.next.elim [] owed :=
    advance_owed base hst (hga hlv) (by rw [hki, hlv]; rfl) hsi (htl hlv) h
  refine ⟨hbase, rfl, fun hlv => ?_, fun next hm => ?_, advance_silent base hst hsi h, ?_, ?_, ?_⟩
  · have hlv : t.known = true := hkn ▸ hlv
    exact (advance_gate base hst (by rw [hki, hlv]; rfl) h).trans (hga hlv)
  · rw [hnx next hm, hki, hkn]
  · show Walk .idle r.threads.session.state r.threads.session.states
    rw [hnew]
    exact hwk.append hw
  · show told r.threads.delivered ++ r.next.elim [] owed <+: r.threads.session.states
    cases hlv : t.known with
    | true => exact ⟨[], by rw [List.append_nil, htold hlv]⟩
    | false =>
      obtain ⟨hd, howed, ho'⟩ := advance_destroying h (by rw [hki, hlv]; rfl)
      rw [Option.elim_some, howed] at hpre
      rw [hd, ho', hnew]
      exact hpre.trans (List.prefix_append _ _)
  · exact fun hlv => htold (hkn ▸ hlv)

/-- A call begins while no other one runs. -/
theorem SerialInv.begins (hI : SerialInv t none) (hkn : t.known = true) {known : Bool}
    (hki : stage.destroying = !known) (howed : owed stage = []) (hpe : stage.pending = none)
    (hbase : ThreadsInv { t with known, stages := t.stages ++ [stage] }) :
    SerialInv { t with known, stages := t.stages ++ [stage] } (some stage) := by
  refine ⟨hbase, ?_, fun _ => hI.gate hkn, fun stage' hm => ?_, fun stage' hm p hp => ?_, hI.walk, ?_, fun _ => ?_⟩
  · rw [hI.stages]
    rfl
  · cases hm
    exact hki
  · cases hm
    rw [hpe] at hp
    cases hp
  · rw [Option.elim_some, howed]
    exact hI.isPrefix
  · rw [Option.elim_some, howed]
    exact hI.tells hkn

theorem serialInv_step {inp : Input} {out : Option (Except Code Unit)} {t' : Threads P} (hI : SerialInv t task)
    (hmo : ThreadMove J t inp out t') (ha : Alone ⟨t, inp, out, t'⟩) : ∃ task', SerialInv t' task' := by
  have hbase := threadsInv_step hmo hI.base
  have hno (call : FfiCall) (hcl : inp = .call call) : task = none := by
    subst hcl
    have hs := ha rfl
    rw [hI.stages] at hs
    cases task with
    | none => rfl
    | some => cases hs
  cases hmo with
  | refused | blocked => exact ⟨task, hI⟩
  | @destroys call hkn =>
    obtain rfl := hno call rfl
    exact ⟨some .removed, hI.begins hkn rfl rfl rfl hbase⟩
  | @called call op hkn hl =>
    obtain rfl := hno call rfl
    exact ⟨some (.called op), hI.begins hkn (by rw [hkn]; rfl) rfl rfl hbase⟩
  | @advanced ix stage r hst h =>
    have hs := hI.stages
    rw [hs] at hst
    obtain ⟨rfl, rfl⟩ := single_of_get hst
    have hr : replaceTask t.stages 0 r.next = r.next.toList := by
      rw [hs]
      cases r.next <;> rfl
    rw [hr] at hbase ⊢
    exact ⟨r.next, serialInv_advance hI hbase h⟩

/-- What the callbacks tell of the states that the session went through. -/
structure InOrder (t : Threads P) : Prop where
  states : Walk .idle t.session.state t.session.states
  isPrefix : told t.delivered <+: t.session.states
  /-- When all calls have returned, the last state that was told is the present one. -/
  current : t.stages = [] → t.known = true → (told t.delivered).getLast?.getD .idle = t.session.state

theorem SerialInv.inOrder (hI : SerialInv t task) : InOrder t := by
  refine ⟨hI.walk, (List.prefix_append _ _).trans hI.isPrefix, fun hs hkn => ?_⟩
  have ht : task = none := by
    have he := hI.stages.symm.trans hs
    cases task with
    | none => rfl
    | some => cases he
  have htold := hI.tells hkn
  rw [ht, Option.elim_none, List.append_nil] at htold
  rw [← htold]
  exact hI.walk.getLast

/-- If no call is made while another one runs, the callbacks tell of the session's states in
order. -/
theorem states_told_in_order (J : Json) (sessionId : U128) (inputs : List Input)
    (halone : ∀ e ∈ trace (threadStep J) (Threads.create P sessionId) inputs, Alone e) :
    InOrder (final (threadStep J) (Threads.create P sessionId) inputs) := by
  obtain ⟨task, hI⟩ := run_inv_of (threadStep J) (Q := Alone) (I := fun t => ∃ task, SerialInv t task)
    (fun t inp h hI => by
      obtain ⟨task, hI⟩ := hI
      exact serialInv_step hI (threadStep_spec inp) h)
    inputs ⟨none, ⟨rfl, rfl, by simp [Threads.create]⟩, rfl, fun _ => rfl, by simp, by simp, .nil _,
      List.prefix_rfl, fun _ => rfl⟩
    halone
  exact hI.inOrder

end Order

namespace Sample

open SessionHandshake

/-- The handle of the sample session after some steps of its calls. -/
def threads (inputs : List Input) : Threads Exchange.primitives :=
  final (threadStep json) (.create _ 1) inputs

def threadLog (inputs : List Input) : List (ThreadEntry Exchange.primitives) :=
  trace (threadStep json) (.create _ 1) inputs

end Sample

/-- Two calls, each to its end before the next one begins. -/
def oneByOne : List Input :=
  .call .connect :: List.replicate 9 (.resume 0) ++ .call .close :: List.replicate 9 (.resume 0)

theorem states_told_in_order_close :
    (∀ e ∈ Sample.threadLog oneByOne, Alone e) ∧
      InOrder (Sample.threads oneByOne) ∧
      told (Sample.threads oneByOne).delivered = [.connecting, .closed] :=
  ⟨by decide +kernel, states_told_in_order Sample.json 1 oneByOne (by decide +kernel), by decide +kernel⟩

/-- Two calls, the second one between what the first one does under the lock and its callback. -/
def crossed : List Input :=
  .call .connect :: List.replicate 5 (.resume 0) ++ .call .close :: List.replicate 9 (.resume 1) ++
    List.replicate 4 (.resume 0)

/-- All calls have returned and the handle is known, but the last state that was told is not the
present one. -/
theorem states_told_out_of_order :
    (Sample.threads crossed).stages.isEmpty = true ∧ (Sample.threads crossed).known = true ∧
      (Sample.threads crossed).session.states = [.connecting, .closed] ∧
      told (Sample.threads crossed).delivered = [.closed, .connecting] ∧
      (Sample.threads crossed).session.state = .closed := by
  decide +kernel

end Rctl.Ffi
