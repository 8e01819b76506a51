/-
# The events of a session, routed to its subscriber

`SignalSessionRouting.swift`: the actor `SignalSessionEventRouter` has at most one subscriber a
session. An event for a session without one waits, up to a number of events for each session; an
event of the connection goes to every subscriber. A stream that its consumer ends stays
subscribed until its removal task runs, and what it is given in between is lost.

What the router holds for one session is a `Slot`, and a call acts on the slots of the sessions it
concerns, so that a run is followed in one slot (`run_slot`). The streams of a session are numbered
in the order of their subscriptions, in the place of the `UUID` that each subscription draws. The
task of an ended stream may run at any time after, and again: it removes its own subscription only.

Key definitions: `Slot.step`, `waiting`.
Key theorems: `slot_inv`, `given_of_run`, `session_event_routing`.
-/
import Mathlib.Data.List.DropRight
import Rctl.Ios.Driver
import Rctl.Lib.Records

namespace Rctl.Ios

open StateRun

inductive SignalEvent
  | connecting
  | authenticated (connectionID : String)
  | onlineDevices
  | sessionState (sessionID : U128) (state : String) (eventID : Option String)
  | candidateTokenIssued (token : SignalCandidateTokenIssued)
  | sessionMessage (message : SignalSessionMessage)
  | disconnected (reason : String)
  | authenticationFailed (reason : String)

namespace SignalSessionEventRouter

abbrev Event := RoutedSignalSessionEvent

def routed : SignalEvent → Option (Option U128 × Event)
  | .sessionState sessionID state eventID => some (some sessionID, .state state eventID)
  | .candidateTokenIssued token => some (some token.sessionID, .candidateToken token)
  | .sessionMessage message => some (some message.sessionID, .message message)
  | .disconnected reason | .authenticationFailed reason => some (none, .connectionLost reason)
  | .authenticated _ => some (none, .connectionRestored)
  | .connecting | .onlineDevices => none

/-- What there is of one session: the entries of `subscribers` and `pendingEvents`, and of its streams
how many were made and which are finished. -/
structure Slot where
  subscriber : Option ℕ
  pending : List Event
  made : ℕ
  finished : List ℕ

/-- `subscribers.removeValue(forKey:)?.continuation.finish()` -/
def Slot.unsubscribe (x : Slot) : Slot := { x with subscriber := none, finished := x.subscriber.toList ++ x.finished }

/-- The event is given to the subscriber's stream; a finished stream takes nothing. -/
def Slot.yielded (x : Slot) (e : Event) : List (ℕ × Event) :=
  (x.subscriber.toList.filter (· ∉ x.finished)).map (·, e)

def enqueue (maximum : ℕ) (events : List Event) (e : Event) : List Event :=
  (if events.length = maximum then events.drop 1 else events) ++ [e]

/-- What a call is for one session: `yield(_:to:)` of an event, `broadcast` of one, the end of a stream
by its consumer, and the task that the end of a stream has made. -/
inductive SlotCall
  | events
  | addressed (e : Event)
  | connection (e : Event)
  | remove
  | terminate (i : ℕ)
  | removalTask (i : ℕ)

/-- The answer is what the streams are given. -/
def Slot.step (maximum : ℕ) (x : Slot) : SlotCall → List (ℕ × Event) × Slot
  | .events =>
    (x.pending.map (x.made, ·), { x.unsubscribe with subscriber := some x.made, pending := [], made := x.made + 1 })
  | .addressed e =>
    if x.subscriber.isSome then (x.yielded e, x) else ([], { x with pending := enqueue maximum x.pending e })
  | .connection e => (x.yielded e, x)
  | .remove => ([], { x.unsubscribe with pending := [] })
  | .terminate i => ([], if i < x.made then { x with finished := i :: x.finished } else x)
  | .removalTask i => ([], if i ∈ x.finished ∧ x.subscriber = some i then { x with subscriber := none } else x)

inductive Call
  | events (sessionID : U128)
  | route (event : SignalEvent)
  | remove (sessionID : U128)
  | removeAll
  | terminate (sessionID : U128) (i : ℕ)
  | removalTask (sessionID : U128) (i : ℕ)

/-- What a call is for the session `s`, if it concerns it. -/
def Call.at (s : U128) : Call → Option SlotCall
  | .events sessionID => if sessionID = s then some .events else none
  | .route event =>
    match routed event with
    | some (some sessionID, e) => if sessionID = s then some (.addressed e) else none
    | some (none, e) => some (.connection e)
    | none => none
  | .remove sessionID => if sessionID = s then some .remove else none
  | .removeAll => some .remove
  | .terminate sessionID i => if sessionID = s then some (.terminate i) else none
  | .removalTask sessionID i => if sessionID = s then some (.removalTask i) else none

abbrev Router := U128 → Slot

def init : Router := fun _ => ⟨none, [], 0, []⟩

def step (maximum : ℕ) (r : Router) (c : Call) : (U128 → List (ℕ × Event)) × Router :=
  let next := fun s => (c.at s).elim ([], r s) ((r s).step maximum)
  (fun s => (next s).1, fun s => (next s).2)

/-- In a run the slot of a session sees the calls that concern it. -/
theorem run_slot (m : ℕ) (s : U128) : ∀ (cs : List Call) (r : Router),
    final (step m) r cs s = final (Slot.step m) (r s) (cs.filterMap (·.at s)) ∧
    (trace (step m) r cs).flatMap (·.out s) = (trace (Slot.step m) (r s) (cs.filterMap (·.at s))).flatMap (·.out)
  | [], _ => ⟨rfl, rfl⟩
  | c :: cs, r => by
    obtain ⟨hf, ht⟩ := run_slot m s cs (step m r c).2
    rw [final_cons, hf, trace_cons, List.flatMap_cons, ht, List.filterMap_cons]
    cases h : c.at s <;> simp [step, h]

/-! ### What waits and what is given -/

namespace SlotCall

/-- The event that a call routes to the session. -/
def event : SlotCall → Option Event
  | .addressed e | .connection e => some e
  | _ => none

/-- The call replaces, removes or ends the subscription `i`. -/
def Ends (i : ℕ) (c : SlotCall) : Prop := c = .events ∨ c = .remove ∨ c = .terminate i

/-- The call is a subscription or an explicit removal. -/
def resets : SlotCall → Bool
  | .events | .remove => true
  | _ => false

def missed (x : Slot) : SlotCall → Option Event
  | .addressed e => if x.subscriber.isSome then none else some e
  | _ => none

end SlotCall

open SlotCall

abbrev SlotEntry := Entry Slot SlotCall (List (ℕ × Event))

/-- The events for the session that found no subscriber since the last subscription or removal. -/
def waiting (log : List SlotEntry) : List Event :=
  (log.rtakeWhile (!·.call.resets)).filterMap fun e => e.call.missed e.pre

def given (i : ℕ) (yields : List (ℕ × Event)) : List Event := (yields.filter (·.1 = i)).map (·.2)

variable {m i : ℕ} {x : Slot} {c : SlotCall}

theorem given_append (i : ℕ) (l l' : List (ℕ × Event)) : given i (l ++ l') = given i l ++ given i l' := by
  simp [given]

@[simp] theorem given_nil (i : ℕ) : given i [] = [] := rfl

theorem given_map (i j : ℕ) (l : List Event) : given i (l.map (j, ·)) = if j = i then l else [] := by
  split_ifs with h <;> simp [given, List.filter_map, Function.comp_def, h]

theorem rtake_snoc (l : List Event) (e : Event) (n : ℕ) (hn : 0 < n) :
    (l ++ [e]).rtake n = enqueue n (l.rtake n) e := by
  obtain ⟨n, rfl⟩ := Nat.exists_eq_succ_of_ne_zero hn.ne'
  rw [List.rtake_concat_succ, enqueue]
  simp only [List.rtake, List.length_drop]
  split_ifs with h
  · rw [List.drop_drop]
    congr 2
    omega
  · congr 2
    omega

/-- While there is a subscriber nothing waits, and what is given or waits comes in order. -/
theorem step_pending (h : x.subscriber.isSome → x.pending = []) (c : SlotCall) :
    ((x.step m c).2.subscriber.isSome → (x.step m c).2.pending = []) ∧
    (x.step m c).2.pending = (if c.resets then [] else (c.missed x).elim x.pending (enqueue m x.pending)) ∧
    ((x.step m c).1.map (·.2) ++ (x.step m c).2.pending).Sublist (x.pending ++ c.event.toList) := by
  have hsub : ∀ e, (enqueue m x.pending e).Sublist (x.pending ++ [e]) := by
    intro e
    unfold enqueue
    split_ifs
    · exact (List.drop_sublist 1 _).append_right _
    · exact List.Sublist.refl _
  rcases hs : x.subscriber with _ | i
  · cases c <;> simp [Slot.step, Slot.unsubscribe, Slot.yielded, hs, resets, missed, event, hsub, apply_ite]
  · rw [hs] at h
    by_cases hf : i ∈ x.finished <;> cases c <;>
      simp [Slot.step, Slot.unsubscribe, Slot.yielded, hs, resets, missed, event, h, hf, apply_ite]

/-- The streams that the slot knows are numbered below what is made. -/
def Slot.Numbered (x : Slot) : Prop := ∀ j ∈ x.subscriber.toList ++ x.finished, j < x.made

theorem step_numbered (h : x.Numbered) (c : SlotCall) :
    (x.step m c).2.Numbered ∧ x.made ≤ (x.step m c).2.made ∧ ∀ p ∈ (x.step m c).1, p.1 < (x.step m c).2.made := by
  have hy : ∀ e, ∀ p ∈ x.yielded e, p.1 < x.made := by
    intro e p hp
    obtain ⟨j, hj, rfl⟩ := List.mem_map.mp hp
    exact h j (List.mem_append_left _ (List.mem_filter.mp hj).1)
  cases c with
  | events =>
    refine ⟨List.forall_mem_cons.mpr ⟨Nat.lt_succ_self _, fun j hj => ?_⟩, Nat.le_succ _, by simp [Slot.step]⟩
    exact Nat.lt_succ_of_lt (h j hj)
  | addressed e =>
    rw [Slot.step]
    split_ifs
    · exact ⟨h, le_rfl, hy e⟩
    · exact ⟨h, le_rfl, nofun⟩
  | connection e => exact ⟨h, le_rfl, hy e⟩
  | remove => exact ⟨h, le_rfl, nofun⟩
  | terminate i =>
    refine ⟨?_, ?_, nofun⟩ <;> rw [Slot.step] <;> split_ifs with hi
    · exact List.forall_mem_append.mpr ⟨fun j hj => h j (List.mem_append_left _ hj),
        List.forall_mem_cons.mpr ⟨hi, fun j hj => h j (List.mem_append_right _ hj)⟩⟩
    · exact h
    all_goals exact le_rfl
  | removalTask i =>
    refine ⟨?_, ?_, nofun⟩ <;> rw [Slot.step] <;> split_ifs
    · exact fun j hj => h j (List.mem_append_right _ hj)
    · exact h
    all_goals exact le_rfl

theorem step_live (hs : x.subscriber = some i) (hf : i ∉ x.finished) (hi : i < x.made) (hc : ¬ c.Ends i) :
    (x.step m c).2.subscriber = some i ∧ i ∉ (x.step m c).2.finished ∧ i < (x.step m c).2.made ∧
      given i (x.step m c).1 = c.event.toList := by
  cases c with
  | events | remove => simp [Ends] at hc
  | addressed | connection => simp [Slot.step, Slot.yielded, hs, hf, hi, given, event]
  | terminate j =>
    have hne : i ≠ j := by rintro rfl; simp [Ends] at hc
    by_cases hj : j < x.made <;> simp [Slot.step, hs, hf, hi, hj, hne, given, event]
  | removalTask j =>
    rw [Slot.step, if_neg (by rintro ⟨hj, h⟩; cases hs.symm.trans h; exact hf hj)]
    exact ⟨hs, hf, hi, rfl⟩

theorem step_ends (hs : x.subscriber = some i) (hi : i < x.made) (hc : c.Ends i) :
    i ∈ (x.step m c).2.finished ∧ i < (x.step m c).2.made ∧ given i (x.step m c).1 = [] := by
  rcases hc with rfl | rfl | rfl
  · simp [Slot.step, Slot.unsubscribe, hs, given_map, hi.ne', Nat.lt_succ_of_lt hi]
  · simp [Slot.step, Slot.unsubscribe, hs, hi, given]
  · simp [Slot.step, hi, given]

theorem step_finished (hf : i ∈ x.finished) (hi : i < x.made) (c : SlotCall) :
    i ∈ (x.step m c).2.finished ∧ i < (x.step m c).2.made ∧ given i (x.step m c).1 = [] := by
  have hy : ∀ e, given i (x.yielded e) = [] := by
    intro e
    rcases hs : x.subscriber with _ | j
    · simp [Slot.yielded, hs]
    · by_cases hj : j ∈ x.finished
      · simp [Slot.yielded, hs, hj]
      · have hne : j ≠ i := fun h => hj (h ▸ hf)
        simp [Slot.yielded, hs, hj, given, hne]
  cases c with
  | terminate j => by_cases hj : j < x.made <;> simp [Slot.step, hj, hf, hi]
  | _ => simp [Slot.step, Slot.unsubscribe, given_map, hy, hf, hi, hi.ne', Nat.lt_succ_of_lt hi, apply_ite]

/-- What a subscription is given until it ends. -/
theorem given_of_run {cs ds : List SlotCall} (hs : x.subscriber = some i) (hf : i ∉ x.finished) (hi : i < x.made)
    (hcs : ∀ c ∈ cs, ¬ c.Ends i) (hds : ∀ c ∈ ds.head?, c.Ends i) :
    given i ((trace (Slot.step m) x (cs ++ ds)).flatMap (·.out)) = cs.filterMap (·.event) := by
  have he : ∀ (ds : List SlotCall) (x : Slot), i ∈ x.finished → i < x.made →
      given i ((trace (Slot.step m) x ds).flatMap (·.out)) = [] := by
    intro ds
    induction ds with
    | nil => exact fun _ _ _ => rfl
    | cons d ds ih =>
      intro x hf hi
      obtain ⟨hf', hi', hg⟩ := step_finished (m := m) hf hi d
      rw [trace_cons, List.flatMap_cons, given_append, entry_out, hg, ih _ hf' hi', List.nil_append]
  induction cs generalizing x with
  | nil =>
    cases ds with
    | nil => rfl
    | cons d ds =>
      obtain ⟨hf', hi', hg⟩ := step_ends (m := m) hs hi (hds d rfl)
      rw [List.nil_append, trace_cons, List.flatMap_cons, given_append, entry_out, hg, he _ _ hf' hi']
      rfl
  | cons c cs ih =>
    rw [List.forall_mem_cons] at hcs
    obtain ⟨hs, hf, hi, hg⟩ := step_live (m := m) hs hf hi hcs.1
    rw [List.cons_append, trace_cons, List.flatMap_cons, given_append, entry_out, hg, ih hs hf hi hcs.2,
      List.filterMap_cons]
    cases c.event <;> rfl

structure SlotInv (maximum : ℕ) (log : List SlotEntry) (x : Slot) : Prop where
  numbered : x.Numbered
  older : ∀ p ∈ log.flatMap (·.out), p.1 < x.made
  idle : x.subscriber.isSome → x.pending = []
  pending : x.pending = (waiting log).rtake maximum
  sublist : ((log.flatMap (·.out)).map (·.2) ++ x.pending).Sublist (log.filterMap (·.call.event))

theorem slot_inv (hm : 0 < m) {log : List SlotEntry} (h : SlotInv m log x) (c : SlotCall) :
    SlotInv m (log ++ [entry (Slot.step m) x c]) (x.step m c).2 := by
  obtain ⟨hn, hle, hout⟩ := step_numbered (m := m) h.numbered c
  obtain ⟨hidle, hp, hsub⟩ := step_pending (m := m) h.idle c
  have houts : (log ++ [entry (Slot.step m) x c]).flatMap (·.out) = log.flatMap (·.out) ++ (x.step m c).1 := by simp
  refine ⟨hn, ?_, hidle, ?_, ?_⟩
  · rw [houts]
    exact List.forall_mem_append.mpr ⟨fun p hp => (h.older p hp).trans_le hle, hout⟩
  · rw [hp, h.pending, waiting, waiting, List.rtakeWhile_concat, entry_call]
    cases c.resets
    · simp only [Bool.false_eq_true, if_false, Bool.not_false, if_true, filterMap_snoc, entry_call, entry_pre]
      cases c.missed x with
      | none => rw [Option.elim_none, Option.toList_none, List.append_nil]
      | some e => exact (rtake_snoc _ _ _ hm).symm
    · simp
  · rw [houts, filterMap_snoc, List.map_append, List.append_assoc]
    refine (hsub.append_left _).trans ?_
    rw [← List.append_assoc]
    exact h.sublist.append_right _

/-- A subscription is given the events that wait, the latest of them where there are too many, and then
every event routed to the session until it ends. Events come in their order and once at most. The task
of an ended stream removes no other subscription. -/
theorem session_event_routing (m : ℤ) (calls : List Call) (s : U128) :
    let maximum := (max 1 m).toNat
    let cs := calls.filterMap (·.at s)
    let yields := (trace (step maximum) init calls).flatMap (·.out s)
    (∀ xs ys zs, cs = xs ++ .events :: (ys ++ zs) →
      let i := (final (Slot.step maximum) (init s) xs).made
      (∀ c ∈ ys, ¬ c.Ends i) → (∀ c ∈ zs.head?, c.Ends i) →
      given i yields = (waiting (trace (Slot.step maximum) (init s) xs)).rtake maximum ++ ys.filterMap (·.event)) ∧
    (yields.map (·.2)).Sublist (cs.filterMap (·.event)) ∧
    ∀ t i j, (final (step maximum) init calls s).subscriber = some j → s ≠ t ∨ j ≠ i →
      (final (step maximum) init (calls ++ [.removalTask t i]) s).subscriber = some j := by
  intro maximum cs yields
  have hm : 0 < maximum := by
    show 0 < (max 1 m).toNat
    omega
  have hy : yields = (trace (Slot.step maximum) (init s) cs).flatMap (·.out) := (run_slot maximum s calls init).2
  have hinv : ∀ cs, SlotInv maximum (trace (Slot.step maximum) (init s) cs) (final (Slot.step maximum) (init s) cs) :=
    fun cs => history_inv (Slot.step maximum) (I := SlotInv maximum) (fun _ _ c h => slot_inv hm h c) cs [] (init s)
      ⟨nofun, nofun, fun _ => rfl, by simp [init, waiting], by simp [init]⟩
  refine ⟨?_, ?_, ?_⟩
  · intro xs ys zs hcs i hys hzs
    obtain ⟨hn, hold, -, hp, -⟩ := hinv xs
    have hbefore : given i ((trace (Slot.step maximum) (init s) xs).flatMap (·.out)) = [] := by
      rw [given, List.filter_eq_nil_iff.mpr fun p hp => by simpa using (hold p hp).ne]
      rfl
    rw [hy, hcs, trace_append, List.flatMap_append, given_append, hbefore, trace_cons, List.flatMap_cons, given_append,
      given_of_run rfl (fun hi => (hn i hi).false) (Nat.lt_succ_self i) hys hzs]
    simp [Slot.step, given_map, i, ← hp]
  · have hcalls : ∀ cs x, (trace (Slot.step maximum) x cs).filterMap (·.call.event) = cs.filterMap (·.event) := by
      intro cs
      induction cs with
      | nil => exact fun _ => rfl
      | cons c cs ih => simp [List.filterMap_cons, ih]
    rw [hy, ← hcalls cs (init s)]
    exact (List.sublist_append_left _ _).trans (hinv cs).sublist
  · intro t i j hj hne
    rw [final_append]
    generalize final (step maximum) init calls = r at hj ⊢
    by_cases hst : t = s
    · have hji : j ≠ i := hne.resolve_left (· hst.symm)
      simp [step, Call.at, hst, Slot.step, hj, hji]
    · simp [step, Call.at, hst, hj]

end SignalSessionEventRouter

end Rctl.Ios
