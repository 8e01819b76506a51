/-
# One owner for each device

The connection that was registered last for a device owns it. The table keeps it as the
device's entry, and what the sockets do side by side never makes it disagree with the
registers and unregisters so far.

The signal of a registration is sent once. Its sender is a single thing that changes hands:
the table has it, then the register (or unregister) that took the entry out, then it is used
up. `senders` counts the places it can be in, and every step keeps the count at one.
-/
import Rctl.Lib.Past
import Rctl.Lib.Tasks
import Rctl.Signal.Registry

namespace Rctl.Signal

open OrdMap StateRun Past ConnectionRegistry

/-! ### The invariant of the table -/

structure RegistryInv (registry : ConnectionRegistry) : Prop where
  /-- The table holds the last registration of a device, and the sender of its signal. -/
  entry : ∀ d connection, registry.connections[d]? = some connection →
    connection.superseded = some connection.notifications ∧
      registry.identity connection.notifications = some (d, connection.connectionId) ∧
      ∀ k c, connection.notifications < k → registry.identity k ≠ some (d, c)
  /-- A register that is about to send a signal sends that of the registration before it. -/
  returning : ∀ k m, (k, some m) ∈ registry.returning → registry.Next m k
  sender : ∀ m d c, registry.identity m = some (d, c) → registry.senders d m = 1
  guards : ∀ g ∈ registry.guards, registry.isOwner g.1 g.2 = true
  room : ∀ m, (registry.queueOf m).length ≤ registry.queueCapacity

theorem registryInv_new (cap : ℕ) : RegistryInv (.new cap) where
  entry := fun d conn h => by simp [new] at h
  returning := fun k m h => by cases h
  sender := fun m d c h => by cases h
  guards := fun g h => by cases h
  room := fun m => Nat.zero_le _

variable {registry registry' : ConnectionRegistry} {m : ℕ} {d' c' : String}

section Inv

variable (hI : RegistryInv registry) {prev : Option ℕ}

theorem next_of_same {m k : ℕ} (hs : ∀ j ≤ k, registry'.identity j = registry.identity j)
    (h : registry.Next m k) : registry'.Next m k := by
  obtain ⟨hlt, d, c, c', hm, hk, hb⟩ := h
  refine ⟨hlt, d, c, c', ?_, ?_, fun j hmj hjk c => ?_⟩
  · rw [hs m (Nat.le_of_lt hlt), hm]
  · rw [hs k (Nat.le_refl k), hk]
  · rw [hs j (Nat.le_of_lt hjk)]
    exact hb j hmj hjk c

theorem Next.lt {m k : ℕ} (h : registry.Next m k) : k < registry.registrations.length := by
  obtain ⟨-, d, c, c', -, hk, -⟩ := h
  exact identity_lt registry hk

theorem count_eraseIdx {l : List (ℕ × Option ℕ)} {i n : ℕ} (h : l[i]? = some (n, prev)) (m : ℕ) :
    (l.filterMap Prod.snd).count m =
      ((l.eraseIdx i).filterMap Prod.snd).count m + if prev = some m then 1 else 0 := by
  rw [((Tasks.perm_eraseIdx h).filterMap Prod.snd).count_eq]
  cases prev with
  | none => simp
  | some => simp [List.count_cons]

include hI

theorem RegistryInv.entry_of_sender {d : String} (h : registry.senderOf d = some m) :
    ∃ c, registry.identity m = some (d, c) ∧ ∀ k c, m < k → registry.identity k ≠ some (d, c) := by
  obtain ⟨conn, hc, hm⟩ := Option.bind_eq_some_iff.mp h
  obtain ⟨hs, hi, hl⟩ := hI.entry d conn hc
  obtain rfl := Option.some.inj (hs.symm.trans hm)
  exact ⟨_, hi, hl⟩

/-- The table holds no sender but that of a registration of the device. -/
theorem RegistryInv.senderOf_ne {d d' c : String} (hm : registry.identity m = some (d', c)) (hd : d ≠ d') :
    registry.senderOf d ≠ some m := by
  intro h
  obtain ⟨c', hi, -⟩ := hI.entry_of_sender h
  rw [hm] at hi
  exact hd (Prod.mk.inj (Option.some.inj hi)).1.symm

/-- Steps that make no registration: entries may go, and a sender may change hands. -/
theorem RegistryInv.of_kept (hi : ∀ m, registry'.identity m = registry.identity m)
    (hcn : ∀ (d : String) conn, registry'.connections[d]? = some conn →
      registry.connections[d]? = some conn)
    (hr : ∀ p ∈ registry'.returning, p ∈ registry.returning)
    (hsend : ∀ m d c, registry.identity m = some (d, c) → registry'.senders d m = registry.senders d m)
    (hgs : ∀ g ∈ registry'.guards, registry'.isOwner g.1 g.2 = true)
    (hrm : ∀ m, (registry'.queueOf m).length ≤ registry'.queueCapacity) : RegistryInv registry' := by
  refine ⟨fun d conn hc => ?_, fun k m hk => ?_, fun m d c hm => ?_, hgs, hrm⟩
  · simp only [hi]
    exact hI.entry d conn (hcn d conn hc)
  · exact next_of_same (fun j _ => hi j) (hI.returning k m (hr _ hk))
  · rw [hi] at hm
    rw [hsend m d c hm]
    exact hI.sender m d c hm

/-- Steps that leave the table, the senders and the identities alone. -/
theorem RegistryInv.of_same (hc : registry'.connections = registry.connections)
    (hr : registry'.returning = registry.returning)
    (hi : ∀ m, registry'.identity m = registry.identity m)
    (hf : ∀ m, registry'.firedOf m = registry.firedOf m)
    (hgs : ∀ g ∈ registry'.guards, registry.isOwner g.1 g.2 = true)
    (hrm : ∀ m, (registry'.queueOf m).length ≤ registry'.queueCapacity) : RegistryInv registry' := by
  refine hI.of_kept hi (by rw [hc]; simp) (by rw [hr]; simp) (fun m d c _ => ?_) (fun g hg => ?_) hrm
  · unfold senders senderOf
    rw [hc, hr, hf]
  · unfold isOwner
    rw [hc]
    exact hgs g hg

/-- A signal takes no room. -/
theorem RegistryInv.room_sendSuperseded (prev : Option ℕ) (m : ℕ) :
    ((registry.sendSuperseded prev).queueOf m).length ≤ (registry.sendSuperseded prev).queueCapacity := by
  rw [queueOf_sendSuperseded, sendSuperseded_queueCapacity]
  exact hI.room m

omit hI in
theorem count_returning_register (d c : String) (m : ℕ) :
    ((registry.register d c).returning.filterMap Prod.snd).count m =
      (registry.returning.filterMap Prod.snd).count m + if registry.senderOf d = some m then 1 else 0 := by
  unfold register
  rw [filterMap_snoc, List.count_append]
  congr 1
  show (registry.senderOf d).toList.count m = _
  cases registry.senderOf d with
  | none => rfl
  | some => simp [List.count_singleton]

/-- The sender of a signal that is yet to be made is nowhere. -/
theorem RegistryInv.senders_length (d : String) : registry.senders d registry.registrations.length = 0 := by
  have ht : registry.senderOf d ≠ some registry.registrations.length := by
    intro h
    obtain ⟨c, hi, -⟩ := hI.entry_of_sender h
    exact Nat.lt_irrefl _ (identity_lt registry hi)
  have hr : registry.registrations.length ∉ registry.returning.filterMap Prod.snd := by
    intro h
    obtain ⟨⟨k, m⟩, hk, rfl⟩ := List.mem_filterMap.mp h
    have hn := hI.returning k _ hk
    exact Nat.lt_asymm hn.1 (Next.lt hn)
  unfold senders firedOf
  rw [if_neg ht, List.count_eq_zero.mpr hr, List.getElem?_eq_none (Nat.le_refl _)]
  rfl

theorem RegistryInv.sender_register (d c : String) (hm : (registry.register d c).identity m = some (d', c')) :
    (registry.register d c).senders d' m = 1 := by
  unfold senders
  rw [senderOf_register, count_returning_register, firedOf_register]
  rw [identity_register] at hm
  split_ifs at hm with hn
  · subst hn
    obtain ⟨rfl, -⟩ := Prod.mk.inj (Option.some.inj hm)
    have hno := hI.senders_length d
    unfold senders at hno
    rw [if_pos rfl, if_pos rfl]
    omega
  · have ho := hI.sender m d' c' hm
    unfold senders at ho
    by_cases hd : d = d'
    · -- the table's sender went to the register
      subst hd
      rw [if_pos rfl, if_neg fun h => hn (Option.some.inj h)]
      omega
    · rw [if_neg hd, if_neg (hI.senderOf_ne hm hd)]
      omega

theorem registryInv_register (hgs : registry.guards = []) (d c : String) : RegistryInv (registry.register d c) := by
  have hold (m : ℕ) (hm : m < registry.registrations.length) :
      (registry.register d c).identity m = registry.identity m := by
    rw [identity_register, if_neg (by omega)]
  constructor
  · intro d' conn hc
    rw [register, get_insert] at hc
    split_ifs at hc with hd
    · subst hd
      obtain rfl := Option.some.inj hc
      refine ⟨rfl, ?_, fun k c' hk => ?_⟩
      · rw [identity_register, if_pos rfl]
      · rw [identity_register, if_neg (by simp only at hk; omega)]
        intro hi
        have := identity_lt registry hi
        simp only at hk
        omega
    · obtain ⟨hs, hi, hl⟩ := hI.entry d' conn hc
      refine ⟨hs, ?_, fun k c' hk => ?_⟩
      · rw [hold _ (identity_lt registry hi), hi]
      · rw [identity_register]
        split
        · exact fun h => hd (Prod.mk.inj (Option.some.inj h)).1
        · exact hl k c' hk
  · intro k m hk
    rcases List.mem_append.mp hk with hk | hk
    · have hnx := hI.returning k m hk
      exact next_of_same (fun j hj => hold j (Nat.lt_of_le_of_lt hj (Next.lt hnx))) hnx
    · -- the register that was added replaces the entry that the table held
      obtain ⟨rfl, hm⟩ := Prod.mk.inj (List.mem_singleton.mp hk)
      obtain ⟨c', hi, hl⟩ := hI.entry_of_sender hm.symm
      have hlt := identity_lt registry hi
      refine ⟨hlt, d, c', c, ?_, ?_, fun j hmj hj c => ?_⟩
      · rw [hold m hlt, hi]
      · rw [identity_register, if_pos rfl]
      · rw [hold j hj]
        exact hl j c hmj
  · exact fun m d' c' => hI.sender_register d c
  · intro g hg
    rw [register, hgs] at hg
    cases hg
  · intro m
    rw [queueOf_register]
    exact hI.room m

theorem registryInv_finishRegister {i n : ℕ} (hr : registry.returning[i]? = some (n, prev)) :
    RegistryInv (registry.finishRegister i prev) := by
  have hc : (registry.finishRegister i prev).connections = registry.connections :=
    sendSuperseded_connections registry prev
  refine hI.of_kept (identity_sendSuperseded registry prev) (by rw [hc]; simp)
    (fun _ => List.mem_of_mem_eraseIdx) (fun m d c hm => ?_) (fun g hg => ?_) (hI.room_sendSuperseded prev)
  · have hcount := count_eraseIdx hr m
    have hf : (registry.finishRegister i prev).firedOf m = _ := firedOf_sendSuperseded registry hm
    unfold senders senderOf
    rw [hc, show (registry.finishRegister i prev).returning = registry.returning.eraseIdx i from rfl]
    omega
  · rw [finishRegister, sendSuperseded_guards] at hg
    unfold isOwner
    rw [hc]
    exact hI.guards g hg

theorem registryInv_unregister {d : String} {conn : ConnectionEntry} (hgs : registry.guards = [])
    (hc : registry.connections[d]? = some conn) :
    RegistryInv { registry.sendSuperseded conn.superseded with
      connections := registry.connections.erase d } := by
  have hs : registry.senderOf d = conn.superseded := by
    rw [senderOf, hc, Option.bind_some]
  refine hI.of_kept (identity_sendSuperseded registry conn.superseded) (fun d' conn' h => ?_)
    (by rw [sendSuperseded_returning]; simp) (fun m d' c hm => ?_) (fun g hg => ?_)
    (hI.room_sendSuperseded conn.superseded)
  · rw [get_erase] at h
    exact (Option.ite_none_left_eq_some.mp h).2
  · have hf : (registry.sendSuperseded conn.superseded).firedOf m = _ := firedOf_sendSuperseded registry hm
    unfold senders
    rw [sendSuperseded_returning]
    show (if _ then 1 else 0) + _ + (registry.sendSuperseded conn.superseded).firedOf m = _
    rw [hf, senderOf, get_erase]
    by_cases hd : d = d'
    · subst hd
      rw [hs, if_neg (by simp)]
      omega
    · have ho := hI.senderOf_ne hm hd
      rw [hs] at ho
      rw [if_neg hd, if_neg ho]
      rfl
  · rw [sendSuperseded_guards, hgs] at hg
    cases hg

end Inv

theorem registryInv_step {act : RegistryAction} {out : RegistryReply} (hI : RegistryInv registry)
    (hst : RegistryStep registry act out registry') : RegistryInv registry' := by
  cases hst with
  | waiting | idle | notEnqueued | notGranted | notUnregistered => exact hI
  | inserted d c hgs => exact registryInv_register hI hgs d c
  | registered _ _ _ hreturning => exact registryInv_finishRegister hI hreturning
  | unregistered _ _ hgs hc => exact registryInv_unregister hI hgs hc
  | enqueued _ note _ _ _ hr hrm =>
    refine hI.of_same rfl rfl (identity_update registry _ _ fun _ => rfl)
      (firedOf_update registry _ _ fun _ => rfl) hI.guards fun m => ?_
    rw [queueOf_update_queue registry hr (· ++ [note])]
    split
    · rw [List.length_append]
      exact hrm
    · exact hI.room m
  | granted _ _ ho =>
    refine hI.of_same rfl rfl (fun _ => rfl) (fun _ => rfl) (fun g hg => ?_) hI.room
    rcases List.mem_append.mp hg with hg | hg
    · exact hI.guards g hg
    · rw [List.mem_singleton.mp hg]
      exact ho
  | released =>
    exact hI.of_same rfl rfl (fun _ => rfl) (fun _ => rfl)
      (fun g hg => hI.guards g (List.mem_of_mem_eraseIdx hg)) hI.room
  | received n _ _ rest hr hq =>
    refine hI.of_same rfl rfl (identity_update registry _ _ fun _ => rfl)
      (firedOf_update registry _ _ fun _ => rfl) hI.guards fun m => ?_
    rw [queueOf_update_queue registry hr fun _ => rest]
    split
    · have hrm := hI.room n
      rw [queueOf, hr, Option.elim_some, hq] at hrm
      exact Nat.le_of_succ_le hrm
    · exact hI.room m
  | dropped n =>
    refine hI.of_same rfl rfl (identity_update registry _ _ fun _ => rfl)
      (firedOf_update registry _ _ fun _ => rfl) hI.guards fun m => ?_
    rw [queueOf_update registry n (fun r => { r with receiving := false }) fun _ => rfl]
    exact hI.room m

/-! ### The registers and unregisters so far -/

/-- The device and the connection of a register that has inserted its entry. -/
def inserted (e : RegistryEntry) : Option (String × String) :=
  match e.out, e.call with
  | .inserted _, .register d c => some (d, c)
  | _, _ => none

/-- The device and the connection of an unregister that was not left waiting. -/
def unregistered (e : RegistryEntry) : Option (String × String) :=
  match e.out, e.call with
  | .unregistered _, .unregister d c => some (d, c)
  | _, _ => none

def completed (e : RegistryEntry) : Option ℕ :=
  match e.out with
  | .registered n => some n
  | _ => none

/-- The message that was put into the queue of registration `n`. -/
def sentTo (n : ℕ) (e : RegistryEntry) : Option String :=
  match e.out, e.call with
  | .enqueued (.ok _), .enqueue d notification =>
    if e.pre.connections[d]?.map (·.notifications) = some n then some notification else none
  | _, _ => none

/-- The message that was taken from the queue of registration `n`. -/
def receivedFrom (n : ℕ) (e : RegistryEntry) : Option String :=
  match e.out with
  | .received m notification => if m = n then some notification else none
  | _ => none

/-- Connection `c` was the last one registered for device `d`, and was not unregistered since. -/
def LastRegistered (log : List RegistryEntry) (d c : String) : Prop :=
  Since (fun e => inserted e = some (d, c))
    (fun e => (∀ c', inserted e ≠ some (d, c')) ∧ unregistered e ≠ some (d, c)) log

variable {log : List RegistryEntry}

section History

variable {e : RegistryEntry}

theorem lastRegistered_snoc {d c : String} : LastRegistered (log ++ [e]) d c ↔ inserted e = some (d, c) ∨
      ((∀ c', inserted e ≠ some (d, c')) ∧ unregistered e ≠ some (d, c)) ∧ LastRegistered log d c :=
  since_snoc

theorem lastRegistered_quiet (hi : inserted e = none) (hu : unregistered e = none)
    (d c : String) : LastRegistered (log ++ [e]) d c ↔ LastRegistered log d c := by
  rw [lastRegistered_snoc, hi, hu]
  simp

theorem lastRegistered_inserted (hi : inserted e = some (d', c')) (hu : unregistered e = none)
    (d c : String) : LastRegistered (log ++ [e]) d c ↔ if d' = d then c' = c else LastRegistered log d c := by
  rw [lastRegistered_snoc, hi, hu]
  by_cases hd : d' = d
  · simp [hd]
  · simp [hd]

theorem lastRegistered_unregistered (hi : inserted e = none) (hu : unregistered e = some (d', c'))
    (d c : String) : LastRegistered (log ++ [e]) d c ↔ (d', c') ≠ (d, c) ∧ LastRegistered log d c := by
  rw [lastRegistered_snoc, hi, hu]
  simp

/-- The owner of a device is the connection registered last, as the log has it. -/
theorem owner_step (hs : RegistryStep e.pre e.call e.out e.post)
    (hl : ∀ d c, e.pre.isOwner d c = true ↔ LastRegistered log d c) (d c : String) :
    e.post.isOwner d c = true ↔ LastRegistered (log ++ [e]) d c := by
  obtain ⟨registry, act, out, registry'⟩ := e
  simp only at hs hl ⊢
  cases hs with
  | waiting | idle | notEnqueued | notGranted | enqueued | granted | released | received | dropped =>
    rw [lastRegistered_quiet rfl rfl]
    exact hl d c
  | registered =>
    rw [lastRegistered_quiet rfl rfl, ← hl, finishRegister, sendSuperseded_connections]
    rfl
  | inserted d' =>
    rw [lastRegistered_inserted rfl rfl, isOwner_eq_true, register, get_insert]
    by_cases hd : d' = d
    · simp [hd]
    · rw [if_neg hd, if_neg hd, ← hl, isOwner_eq_true]
  | notUnregistered _ _ ho =>
    rw [lastRegistered_unregistered rfl rfl, ← hl]
    refine (and_iff_right_of_imp fun h heq => ?_).symm
    obtain ⟨rfl, rfl⟩ := Prod.mk.inj heq
    rw [h] at ho
    cases ho
  | unregistered d' _ _ hc =>
    rw [lastRegistered_unregistered rfl rfl, ← hl, isOwner_eq_true, isOwner_eq_true, get_erase]
    by_cases hd : d' = d
    · subst hd
      simp [hc]
    · simp [hd]

theorem numbered_step (hs : RegistryStep e.pre e.call e.out e.post)
    (hl : log.filterMap inserted = e.pre.registrations.map Registration.identity) :
    (log ++ [e]).filterMap inserted = e.post.registrations.map Registration.identity := by
  obtain ⟨registry, act, out, registry'⟩ := e
  rw [filterMap_snoc]
  simp only at hs hl ⊢
  rw [hl]
  cases hs with
  | waiting | idle | notEnqueued | notGranted | granted | released | notUnregistered => exact List.append_nil _
  | inserted =>
    rw [register, List.map_append]
    rfl
  | registered _ _ prev =>
    exact (List.append_nil _).trans (map_identity_sendSuperseded registry prev).symm
  | unregistered _ conn =>
    exact (List.append_nil _).trans (map_identity_sendSuperseded registry conn.superseded).symm
  | enqueued | received | dropped =>
    refine (List.append_nil _).trans (Records.map_modify_same _ ?_ _ _).symm
    exact fun _ => rfl

/-- A register that has returned has left the registers that are about to. -/
structure Returns (log : List RegistryEntry) (registry : ConnectionRegistry) : Prop where
  nodup : (registry.returning.map Prod.fst).Nodup
  lt : ∀ k ∈ registry.returning.map Prod.fst, k < registry.registrations.length
  returned : ∀ k ∈ log.filterMap completed,
    k < registry.registrations.length ∧ k ∉ registry.returning.map Prod.fst

theorem Returns.of_same (h : Returns log registry) (hc : completed e = none)
    (hr : registry'.returning = registry.returning)
    (hl : registry'.registrations.length = registry.registrations.length) : Returns (log ++ [e]) registry' := by
  constructor
  · rw [hr]
    exact h.nodup
  · rw [hr, hl]
    exact h.lt
  · rw [hr, hl, filterMap_snoc, hc, Option.toList_none, List.append_nil]
    exact h.returned

theorem returns_step (hst : RegistryStep e.pre e.call e.out e.post) (h : Returns log e.pre) :
    Returns (log ++ [e]) e.post := by
  obtain ⟨registry, act, out, registry'⟩ := e
  simp only at hst h ⊢
  cases hst with
  | waiting | idle | notEnqueued | notGranted | granted | released | notUnregistered =>
    exact h.of_same rfl rfl rfl
  | enqueued | received | dropped => exact h.of_same rfl rfl (List.length_modify _ _ _)
  | unregistered =>
    exact h.of_same rfl (sendSuperseded_returning registry _) (sendSuperseded_length registry _)
  | inserted d c =>
    have hks : (registry.register d c).returning.map Prod.fst =
        registry.returning.map Prod.fst ++ [registry.registrations.length] := by
      rw [register, List.map_append]
      rfl
    have hl : (registry.register d c).registrations.length = registry.registrations.length + 1 := by
      rw [register, List.length_append, List.length_singleton]
    constructor
    · rw [hks, List.nodup_append]
      refine ⟨h.nodup, by simp, fun k hk k' hk' heq => ?_⟩
      have := h.lt k hk
      rw [List.mem_singleton] at hk'
      omega
    · intro k hk
      rw [hl]
      rw [hks, List.mem_append, List.mem_singleton] at hk
      rcases hk with hk | rfl
      · exact Nat.lt_succ_of_lt (h.lt k hk)
      · exact Nat.lt_succ_self _
    · intro k hk
      obtain ⟨hlt, ho⟩ := h.returned k (by simpa [completed] using hk)
      rw [hl, hks, List.mem_append, List.mem_singleton, not_or]
      exact ⟨Nat.lt_succ_of_lt hlt, ho, Nat.ne_of_lt hlt⟩
  | registered i n prev hr =>
    have hl := sendSuperseded_length registry prev
    have hpm := (Tasks.perm_eraseIdx hr).map Prod.fst
    rw [List.map_cons] at hpm
    have hnd := hpm.nodup_iff.mp h.nodup
    rw [List.nodup_cons] at hnd
    constructor
    · exact hnd.2
    · intro k hk
      show k < (registry.sendSuperseded prev).registrations.length
      rw [hl]
      exact h.lt k (hpm.mem_iff.mpr (List.mem_cons_of_mem _ hk))
    · intro k hk
      show k < (registry.sendSuperseded prev).registrations.length ∧
        k ∉ (registry.returning.eraseIdx i).map Prod.fst
      rw [hl]
      rw [filterMap_snoc, List.mem_append] at hk
      rcases hk with hk | hk
      · obtain ⟨hlt, ho⟩ := h.returned k hk
        exact ⟨hlt, fun hk => ho (hpm.mem_iff.mpr (List.mem_cons_of_mem _ hk))⟩
      · obtain rfl : k = n := by simpa [completed] using hk
        exact ⟨h.lt k (hpm.mem_iff.mpr List.mem_cons_self), hnd.1⟩

/-- What was put into the queue is what was taken from it, followed by what is in it. -/
def InOrder (m : ℕ) (log : List RegistryEntry) (registry : ConnectionRegistry) : Prop :=
  log.filterMap (sentTo m) = log.filterMap (receivedFrom m) ++ registry.queueOf m

theorem InOrder.of_same (h : InOrder m log registry) (hs : sentTo m e = none) (hrc : receivedFrom m e = none)
    (hq : registry'.queueOf m = registry.queueOf m) : InOrder m (log ++ [e]) registry' := by
  unfold InOrder at h ⊢
  rw [filterMap_snoc, filterMap_snoc, hs, hrc, hq, Option.toList_none, List.append_nil, List.append_nil, h]

theorem inOrder_step (hs : RegistryStep e.pre e.call e.out e.post) (h : InOrder m log e.pre) :
    InOrder m (log ++ [e]) e.post := by
  obtain ⟨registry, act, out, registry'⟩ := e
  simp only at hs h ⊢
  cases hs with
  | waiting | idle | notEnqueued | notGranted | granted | released | notUnregistered => exact h.of_same rfl rfl rfl
  | registered _ _ prev => exact h.of_same rfl rfl (queueOf_sendSuperseded registry prev m)
  | unregistered _ conn => exact h.of_same rfl rfl (queueOf_sendSuperseded registry conn.superseded m)
  | inserted d c => exact h.of_same rfl rfl (queueOf_register registry d c m)
  | dropped n =>
    exact h.of_same rfl rfl (queueOf_update registry n (fun r => { r with receiving := false }) (fun _ => rfl) m)
  | enqueued _ note conn _ hc hr =>
    have hq := queueOf_update_queue registry hr (· ++ [note]) m
    by_cases hm : conn.notifications = m
    · subst hm
      unfold InOrder at h ⊢
      rw [filterMap_snoc, hq, h, queueOf, hr]
      simp [sentTo, receivedFrom, hc]
    · rw [if_neg hm] at hq
      exact h.of_same (by simp [sentTo, hc, hm]) rfl hq
  | received n _ _ rest hr hrs =>
    have hq := queueOf_update_queue registry hr (fun _ => rest) m
    by_cases hm : n = m
    · subst hm
      unfold InOrder at h ⊢
      rw [filterMap_snoc, hq, h, queueOf, hr]
      simp [sentTo, receivedFrom, hrs]
    · rw [if_neg hm] at hq
      exact h.of_same rfl (if_neg hm) hq

end History

/-! ### Runs -/

structure RunInv (log : List RegistryEntry) (registry : ConnectionRegistry) : Prop where
  table : RegistryInv registry
  owner : ∀ d c, registry.isOwner d c = true ↔ LastRegistered log d c
  numbered : log.filterMap inserted = registry.registrations.map Registration.identity
  returns : Returns log registry
  order : ∀ m, InOrder m log registry

theorem runInv (cap : ℕ) (acts : List RegistryAction) :
    RunInv (trace registryStep (.new cap) acts) (final registryStep (.new cap) acts) := by
  refine history_inv registryStep (fun log registry act h => ?_) acts [] (.new cap) ?_
  · have hs := registryStep_spec registry act
    exact ⟨registryInv_step h.table hs, owner_step (e := entry registryStep registry act) hs h.owner,
      numbered_step hs h.numbered,
      returns_step hs h.returns,
      fun m => inOrder_step hs (h.order m)⟩
  · refine ⟨registryInv_new cap, fun d c => ?_, rfl, ⟨List.nodup_nil, by simp [new], by simp⟩, fun m => rfl⟩
    refine iff_of_false ?_ not_since_nil
    simp [isOwner, new]

/-- The owners of devices at one moment, after the actions in the log. -/
structure Owned (log : List RegistryEntry) (registry : ConnectionRegistry) : Prop where
  unique : ∀ d c c', registry.isOwner d c = true → registry.isOwner d c' = true → c = c'
  holder : ∀ d c, (d, c) ∈ registry.guards → registry.isOwner d c = true
  acquire : ∀ d c, (registryStep registry (.acquireOwnership d c)).1 = .ownership true ↔ LastRegistered log d c
  /-- The signal of a connection is sent once the register that replaced it has returned, and
  never twice. -/
  signal : ∀ m, registry.firedOf m ≤ 1
  replaced : ∀ m k, registry.Next m k → k ∈ log.filterMap completed → registry.firedOf m = 1
  /-- A connection that is not the device's last one gets no guard any more. -/
  older : ∀ m k d c c', m < k → registry.identity m = some (d, c) → registry.identity k = some (d, c') →
    (registryStep registry (.acquireOwnership d c)).1 = .ownership false
  unregister : ∀ d c, registry.isOwner d c = false → registryStep registry (.unregister d c) =
    (if registry.guards.isEmpty then .unregistered false else .waiting, registry)
  enqueue : ∀ d notification, (registryStep registry (.enqueue d notification)).1 = .enqueued (.ok ()) →
    ∃ connection, registry.connections[d]? = some connection ∧
      registry.identity connection.notifications = some (d, connection.connectionId) ∧
      ∀ m, (registryStep registry (.enqueue d notification)).2.queueOf m =
        if connection.notifications = m then registry.queueOf m ++ [notification] else registry.queueOf m
  room : ∀ m, (registry.queueOf m).length ≤ registry.queueCapacity
  order : ∀ m, InOrder m log registry

section Owners

variable {registry : ConnectionRegistry} {d c c' : String} {m k : ℕ}

theorem isOwner_unique (h : registry.isOwner d c = true) (h' : registry.isOwner d c' = true) : c = c' := by
  obtain ⟨conn, hc, rfl⟩ := (isOwner_eq_true registry).mp h
  obtain ⟨conn', hc', rfl⟩ := (isOwner_eq_true registry).mp h'
  rw [hc] at hc'
  rw [Option.some.inj hc']

theorem acquireOwnership_out (d c : String) :
    (registryStep registry (.acquireOwnership d c)).1 = .ownership (registry.isOwner d c) := by
  show RegistryReply.ownership (registry.acquireOwnership d c).1 = _
  unfold acquireOwnership
  cases registry.isOwner d c <;> rfl

section

variable (h : RunInv log registry)
include h

theorem RunInv.replaced (hnx : registry.Next m k) (hk : k ∈ log.filterMap completed) : registry.firedOf m = 1 := by
  have hr := (h.returns.returned k hk).2
  obtain ⟨hlt, d, c, c', hm, hk, hb⟩ := hnx
  have ho := h.table.sender m d c hm
  -- the table has moved on, and the register that took the sender has returned
  have ht : registry.senderOf d ≠ some m := by
    intro hs
    obtain ⟨-, -, hl⟩ := h.table.entry_of_sender hs
    exact hl k c' hlt hk
  have hreturning : m ∉ registry.returning.filterMap Prod.snd := by
    intro hmem
    obtain ⟨⟨j, _⟩, hj, rfl⟩ := List.mem_filterMap.mp hmem
    obtain ⟨hmj, d', c₁, c₂, hm', hj', hb'⟩ := h.table.returning j m hj
    rw [hm] at hm'
    obtain ⟨rfl, -⟩ := Prod.mk.inj (Option.some.inj hm')
    rcases Nat.lt_trichotomy j k with hjk | rfl | hkj
    · exact hb j hmj hjk c₂ hj'
    · exact hr (List.mem_map_of_mem hj)
    · exact hb' k hlt hkj c' hk
  unfold senders at ho
  rw [if_neg ht, List.count_eq_zero.mpr hreturning] at ho
  omega

theorem RunInv.fired_le (m : ℕ) : registry.firedOf m ≤ 1 := by
  cases hm : registry.identity m with
  | none =>
    rw [firedOf, Option.map_eq_none_iff.mp hm]
    exact Nat.zero_le 1
  | some id =>
    have ho := h.table.sender m id.1 id.2 hm
    unfold senders at ho
    omega

/-- With distinct connection ids a number is that of its connection. -/
theorem RunInv.number_unique (hids : ((log.filterMap inserted).map Prod.snd).Nodup) {d' : String}
    (hm : registry.identity m = some (d, c)) (hk : registry.identity k = some (d', c)) : m = k := by
  have hg (j : ℕ) : ((log.filterMap inserted).map Prod.snd)[j]? = (registry.identity j).map Prod.snd := by
    rw [h.numbered, List.getElem?_map, List.getElem?_map]
    rfl
  have hm' := hg m
  have hk' := hg k
  rw [hm] at hm'
  rw [hk] at hk'
  exact (List.getElem?_inj (List.getElem?_eq_some_iff.mp hm').1 hids).mp (hm'.trans hk'.symm)

theorem RunInv.older (hids : ((log.filterMap inserted).map Prod.snd).Nodup) (hlt : m < k)
    (hm : registry.identity m = some (d, c)) (hk : registry.identity k = some (d, c')) :
    registry.isOwner d c = false := by
  rw [← Bool.not_eq_true, isOwner_eq_true]
  rintro ⟨conn, hc, rfl⟩
  obtain ⟨-, hi, hl⟩ := h.table.entry d conn hc
  obtain rfl := h.number_unique hids hm hi
  exact hl k c' hlt hk

end

theorem unregister_of_not_owner (ho : registry.isOwner d c = false) : registryStep registry (.unregister d c) =
      (if registry.guards.isEmpty then .unregistered false else .waiting, registry) := by
  unfold registryStep unregister
  simp only [ho]
  split <;> rfl

theorem RunInv.enqueue (h : RunInv log registry) {note : String}
    (ho : (registryStep registry (.enqueue d note)).1 = .enqueued (.ok ())) :
    ∃ conn, registry.connections[d]? = some conn ∧
      registry.identity conn.notifications = some (d, conn.connectionId) ∧
      ∀ m, (registryStep registry (.enqueue d note)).2.queueOf m =
        if conn.notifications = m then registry.queueOf m ++ [note] else registry.queueOf m := by
  have hs := registryStep_spec registry (.enqueue d note)
  rw [ho] at hs
  generalize (registryStep registry (.enqueue d note)).2 = registry' at hs
  cases hs with
  | enqueued _ _ conn r hc hr hrm =>
    refine ⟨conn, hc, (h.table.entry d conn hc).2.1, fun m => ?_⟩
    rw [queueOf_update_queue registry hr (· ++ [note])]
    split_ifs with hm
    · rw [← hm, queueOf, hr]
      rfl
    · rfl

end Owners

/-- At every moment of every run of sockets with distinct connection ids, the owner of a device
is the connection registered last. A connection that was replaced is told so once, as soon as
the register that replaced it has returned, and it gets no guard any more. -/
theorem connection_ownership (capacity : ℕ) (actions : List RegistryAction)
    (hids : (((trace registryStep (.new capacity) actions).filterMap inserted).map Prod.snd).Nodup) :
    Owned (trace registryStep (.new capacity) actions) (final registryStep (.new capacity) actions) := by
  have h := runInv capacity actions
  constructor
  · exact fun d c c' => isOwner_unique
  · exact fun d c hg => h.table.guards (d, c) hg
  · intro d c
    rw [acquireOwnership_out, ← h.owner, RegistryReply.ownership.injEq]
  · exact h.fired_le
  · exact fun m k => h.replaced
  · intro m k d c c' hlt hm hk
    rw [acquireOwnership_out, h.older hids hlt hm hk]
  · exact fun d c => unregister_of_not_owner
  · exact fun d note => h.enqueue
  · exact h.table.room
  · exact h.order

/-- Three connections of one device; the second has not sent its signal yet when the third one
is through. -/
def threeConnections : List RegistryAction :=
  [.register "phone" "a", .finishRegister 0, .register "phone" "b", .register "phone" "c", .finishRegister 1]

theorem connection_ownership_three :
    Owned (trace registryStep (.new 2) threeConnections) (final registryStep (.new 2) threeConnections) :=
  connection_ownership 2 threeConnections (by decide +kernel)

/-- A newer register of the device has returned, and the first connection has not been told. -/
theorem superseded_not_signalled :
    let registry := final registryStep (.new 2) threeConnections
    registry.identity 0 = some ("phone", "a") ∧ registry.identity 2 = some ("phone", "c") ∧
      (trace registryStep (.new 2) threeConnections).filterMap completed = [0, 2] ∧ registry.firedOf 0 = 0 := by
  decide +kernel

end Rctl.Signal
