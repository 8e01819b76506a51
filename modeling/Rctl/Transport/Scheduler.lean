/-
# The priority scheduler

`remote-transport/src/scheduler.rs`: packets wait in six queues, one for each class of channels, and the
latest packet of realtime input in a slot of its own, where a newer one takes its place. The bytes of the
packets held are counted, and an `enqueue` that would take the count beyond its maximum is refused.

A `usize` is a natural number up to `USIZE_MAX`. The count is kept with saturating operations, so it is
the sum of the packets' lengths as long as that sum is a `usize`. A maximum below `USIZE_MAX` sees to
that. With the maximum at `USIZE_MAX` nothing is ever refused for its length, and it is the memory that
does: packets that are held side by side have fewer than `2^64` bytes (`FitsMemory`).

What the calls of a run have accepted and popped is read off its log. A packet of realtime input that is
followed by another before the next pop is superseded; `surviving` lists the accepted packets without
those. In each class they are the packets popped, in this order, followed by those still held.
-/
import Mathlib.Algebra.BigOperators.Fin
import Rctl.Lib.Run
import Rctl.Protocol.Header

namespace Rctl

open ByteString StateRun

def USIZE_MAX : ℕ := 2 ^ 64 - 1

def usizeSaturatingAdd (a b : ℕ) : ℕ := min (a + b) USIZE_MAX

def PRIORITY_LEVELS : ℕ := 6

inductive SchedulerError
  | invalidChannel
  | payloadLengthMismatch
  | backpressure
  deriving DecidableEq, Repr

structure ScheduledPacket where
  header : MessageHeader
  payload : Bytes
  deriving DecidableEq

def ScheduledPacket.wireLen (packet : ScheduledPacket) : ℕ := usizeSaturatingAdd HEADER_LEN packet.payload.length

structure PriorityScheduler where
  queues : Fin PRIORITY_LEVELS → List ScheduledPacket
  latestRealtimeInput : Option ScheduledPacket
  maxQueuedBytes : ℕ
  queuedBytes : ℕ

def channelPriority : ChannelId → Fin PRIORITY_LEVELS
  | .secureControl | .inputReliable | .deviceControl => ⟨0, by decide⟩
  | .mediaControl => ⟨1, by decide⟩
  | .video => ⟨2, by decide⟩
  | .clipboard => ⟨3, by decide⟩
  | .fileTransfer => ⟨4, by decide⟩
  | .telemetry => ⟨5, by decide⟩
  | .inputRealtime => ⟨0, by decide⟩

namespace PriorityScheduler

def new (maxQueuedBytes : ℕ) : PriorityScheduler := ⟨fun _ => [], none, maxQueuedBytes, 0⟩

def enqueue (s : PriorityScheduler) (packet : ScheduledPacket) : Except SchedulerError Unit × PriorityScheduler :=
  if packet.header.validateKindChannel ≠ .ok () then (.error .invalidChannel, s)
  else if packet.header.payloadLen.toNat ≠ packet.payload.length then (.error .payloadLengthMismatch, s)
  else if packet.header.channelId = .inputRealtime then
    let replacedLen := s.latestRealtimeInput.elim 0 ScheduledPacket.wireLen
    let projected := usizeSaturatingAdd (s.queuedBytes - replacedLen) packet.wireLen
    if s.maxQueuedBytes < projected then (.error .backpressure, s)
    else (.ok (), { s with latestRealtimeInput := some packet, queuedBytes := projected })
  else
    let projected := usizeSaturatingAdd s.queuedBytes packet.wireLen
    let level := channelPriority packet.header.channelId
    if s.maxQueuedBytes < projected then (.error .backpressure, s)
    else (.ok (), { s with queuedBytes := projected
                           queues := Function.update s.queues level (s.queues level ++ [packet]) })

/-- The first queue that is not empty: its level, its front and the rest. -/
def popQueues (queues : Fin PRIORITY_LEVELS → List ScheduledPacket) :
    Option (Fin PRIORITY_LEVELS × ScheduledPacket × List ScheduledPacket) :=
  (List.finRange PRIORITY_LEVELS).findSome? fun level =>
    match queues level with
    | [] => none
    | packet :: rest => some (level, packet, rest)

def popNext (s : PriorityScheduler) : Option ScheduledPacket × PriorityScheduler :=
  match s.latestRealtimeInput with
  | some packet =>
    (some packet, { s with latestRealtimeInput := none, queuedBytes := s.queuedBytes - packet.wireLen })
  | none =>
    match popQueues s.queues with
    | some (level, packet, rest) =>
      (some packet, { s with queues := Function.update s.queues level rest
                             queuedBytes := s.queuedBytes - packet.wireLen })
    | none => (none, s)

end PriorityScheduler

/-! ### Calls -/

inductive SchedulerCall
  | enqueue (packet : ScheduledPacket)
  | popNext
  deriving DecidableEq

inductive SchedulerAnswer
  | enqueued (result : Except SchedulerError Unit)
  | popped (packet : Option ScheduledPacket)

def schedulerStep (s : PriorityScheduler) : SchedulerCall → SchedulerAnswer × PriorityScheduler
  | .enqueue packet => (.enqueued (s.enqueue packet).1, (s.enqueue packet).2)
  | .popNext => (.popped s.popNext.1, s.popNext.2)

abbrev SchedulerEntry := Entry PriorityScheduler SchedulerCall SchedulerAnswer

/-! ### Classes of packets -/

/-- Class `0` is realtime input, ahead of the classes of the six queues. -/
abbrev PacketClass := Fin (PRIORITY_LEVELS + 1)

def ScheduledPacket.packetClass (packet : ScheduledPacket) : PacketClass :=
  if packet.header.channelId = .inputRealtime then 0 else (channelPriority packet.header.channelId).succ

namespace PriorityScheduler

def held (s : PriorityScheduler) : PacketClass → List ScheduledPacket := Fin.cons s.latestRealtimeInput.toList s.queues

def heldPackets (s : PriorityScheduler) : List ScheduledPacket := (List.finRange _).flatMap s.held

/-- What stays of a class when a packet of it is accepted: an older packet of realtime input does not. -/
def kept (s : PriorityScheduler) (c : PacketClass) : List ScheduledPacket := if c = 0 then [] else s.held c

end PriorityScheduler

def totalLen (packets : List ScheduledPacket) : ℕ := (packets.map ScheduledPacket.wireLen).sum

open PriorityScheduler

@[simp] theorem totalLen_nil : totalLen [] = 0 := rfl

@[simp] theorem totalLen_cons (pkt : ScheduledPacket) (packets : List ScheduledPacket) :
    totalLen (pkt :: packets) = pkt.wireLen + totalLen packets := by
  simp [totalLen]

@[simp] theorem totalLen_append (packets more : List ScheduledPacket) :
    totalLen (packets ++ more) = totalLen packets + totalLen more := by
  simp [totalLen]

theorem totalLen_heldPackets (s : PriorityScheduler) : totalLen s.heldPackets = ∑ c, totalLen (s.held c) := by
  have hsum (classes : List PacketClass) :
      totalLen (classes.flatMap s.held) = (classes.map fun c => totalLen (s.held c)).sum := by
    induction classes with
    | nil => rfl
    | cons _ _ ih => rw [List.flatMap_cons, totalLen_append, ih, List.map_cons, List.sum_cons]
  rw [heldPackets, hsum, Fin.sum_univ_def]

theorem sum_totalLen_update (held : PacketClass → List ScheduledPacket) (c : PacketClass)
    (packets : List ScheduledPacket) : ∑ d, totalLen (Function.update held c packets d) + totalLen (held c) =
      ∑ d, totalLen (held d) + totalLen packets := by
  have hsum := Finset.sum_update_of_mem (Finset.mem_univ c) (fun d => totalLen (held d)) (totalLen packets)
  have hsp := Finset.sum_eq_add_sum_sdiff_singleton_of_mem (Finset.mem_univ c) fun d => totalLen (held d)
  simp only [Function.apply_update fun _ => totalLen]
  omega

/-! ### What a call does -/

/-- All a call can do, with its answer and the scheduler it leaves. -/
inductive SchedulerChange (s : PriorityScheduler) : SchedulerCall → SchedulerAnswer → PriorityScheduler → Prop
  | refused (packet : ScheduledPacket) (error : SchedulerError) :
      SchedulerChange s (.enqueue packet) (.enqueued (.error error)) s
  | accepted (packet : ScheduledPacket) (s' : PriorityScheduler)
      (hheld : s'.held = Function.update s.held packet.packetClass (s.kept packet.packetClass ++ [packet]))
      (hbytes : s'.queuedBytes = usizeSaturatingAdd
        (s.queuedBytes - (totalLen (s.held packet.packetClass) - totalLen (s.kept packet.packetClass))) packet.wireLen)
      (hbounded : s'.queuedBytes ≤ s.maxQueuedBytes) (hmax : s'.maxQueuedBytes = s.maxQueuedBytes) :
      SchedulerChange s (.enqueue packet) (.enqueued (.ok ())) s'
  | popped (c : PacketClass) (packet : ScheduledPacket) (rest : List ScheduledPacket) (s' : PriorityScheduler)
      (hfront : s.held c = packet :: rest) (hheld : s'.held = Function.update s.held c rest) (hslot : s'.held 0 = [])
      (hbytes : s'.queuedBytes = s.queuedBytes - packet.wireLen) (hmax : s'.maxQueuedBytes = s.maxQueuedBytes) :
      SchedulerChange s .popNext (.popped (some packet)) s'
  | empty (hslot : s.held 0 = []) : SchedulerChange s .popNext (.popped none) s

section Changes

variable (s : PriorityScheduler)

theorem totalLen_toList (o : Option ScheduledPacket) : totalLen o.toList = o.elim 0 ScheduledPacket.wireLen := by
  cases o <;> simp [totalLen]

theorem enqueue_change (pkt : ScheduledPacket) :
    SchedulerChange s (.enqueue pkt) (.enqueued (s.enqueue pkt).1) (s.enqueue pkt).2 := by
  unfold enqueue
  split
  · exact .refused pkt _
  split
  · exact .refused pkt _
  split
  · rename_i hr
    have hc : pkt.packetClass = 0 := if_pos hr
    simp only
    split_ifs with hx
    · exact .refused pkt _
    · refine .accepted pkt _ ?_ ?_ (Nat.le_of_not_lt hx) rfl
      · simp [hc, held, kept]
      · simp [hc, held, kept, totalLen_toList]
  · rename_i hr
    have hc : pkt.packetClass = (channelPriority pkt.header.channelId).succ := if_neg hr
    simp only
    split_ifs with hx
    · exact .refused pkt _
    · refine .accepted pkt _ ?_ ?_ (Nat.le_of_not_lt hx) rfl
      · simp [hc, held, kept]
      · simp [hc, kept]

theorem popQueues_eq_some {queues : Fin PRIORITY_LEVELS → List ScheduledPacket} {level : Fin PRIORITY_LEVELS}
    {pkt : ScheduledPacket} {rest : List ScheduledPacket}
    (h : popQueues queues = some (level, pkt, rest)) : queues level = pkt :: rest := by
  obtain ⟨found, -, hf⟩ := List.exists_of_findSome?_eq_some h
  cases hq : queues found with
  | nil => rw [hq] at hf; cases hf
  | cons =>
    rw [hq] at hf
    cases hf
    exact hq

theorem popNext_change : SchedulerChange s .popNext (.popped s.popNext.1) s.popNext.2 := by
  unfold popNext
  split
  · rename_i pkt hl
    refine .popped 0 pkt [] _ ?_ ?_ rfl rfl rfl
    · simp [held, hl]
    · simp [held]
  · rename_i hl
    have hs : s.held 0 = [] := congrArg Option.toList hl
    split
    · rename_i level pkt rest hp
      refine .popped level.succ pkt rest _ ?_ ?_ hs rfl rfl
      · simp [held, popQueues_eq_some hp]
      · simp [held]
    · exact .empty hs

theorem schedulerStep_change (call : SchedulerCall) :
    SchedulerChange s call (schedulerStep s call).1 (schedulerStep s call).2 := by
  cases call with
  | enqueue pkt => exact enqueue_change s pkt
  | popNext => exact popNext_change s

theorem heldPackets_eq :
    s.heldPackets = s.latestRealtimeInput.toList ++ (List.finRange PRIORITY_LEVELS).flatMap s.queues := by
  simp [heldPackets, held, List.finRange_succ, List.flatMap_map]

theorem map_popQueues (queues : Fin PRIORITY_LEVELS → List ScheduledPacket) :
    (popQueues queues).map (fun popped => popped.2.1) = ((List.finRange PRIORITY_LEVELS).flatMap queues).head? := by
  rw [List.head?_flatMap, popQueues, List.map_findSome?]
  congr 1
  funext level
  cases h : queues level <;> simp [h]

/-- A pop gives the first packet of the highest class that is not empty. -/
theorem popNext_eq_head : s.popNext.1 = s.heldPackets.head? := by
  rw [heldPackets_eq]
  unfold popNext
  cases hl : s.latestRealtimeInput with
  | some pkt => rfl
  | none =>
    rw [Option.toList_none, List.nil_append, ← map_popQueues]
    cases hp : popQueues s.queues <;> simp

end Changes

/-! ### The count of the bytes -/

variable {s s' : PriorityScheduler} {call : SchedulerCall} {out : SchedulerAnswer} {max : ℕ} {c : PacketClass}

/-- The packet of the call fits into the memory beside the packets held. -/
def FitsMemory (e : SchedulerEntry) : Prop :=
  match e.call with
  | .enqueue packet => totalLen e.pre.heldPackets + packet.wireLen ≤ USIZE_MAX
  | .popNext => True

instance : DecidablePred FitsMemory := fun e => by
  unfold FitsMemory
  split <;> infer_instance

/-- Where `max` does not keep an addition from saturating, the memory does. -/
def Unsaturated (max : ℕ) (e : SchedulerEntry) : Prop := USIZE_MAX ≤ max → FitsMemory e

structure SchedulerInv (max : ℕ) (s : PriorityScheduler) : Prop where
  max_eq : s.maxQueuedBytes = max
  bytes : s.queuedBytes = ∑ c, totalLen (s.held c)
  bounded : s.queuedBytes ≤ max
  classes : ∀ c, ∀ packet ∈ s.held c, packet.packetClass = c

theorem held_new (max : ℕ) (c : PacketClass) : (new max).held c = [] := by
  cases c using Fin.cases <;> rfl

theorem schedulerInv_new (max : ℕ) : SchedulerInv max (.new max) := by
  refine ⟨rfl, ?_, Nat.zero_le _, fun c => ?_⟩
  · rfl
  · simp [held_new]

/-- An addition whose result is accepted has not saturated. -/
theorem projected_eq {a b : ℕ} (hf : USIZE_MAX ≤ max → a + b ≤ USIZE_MAX)
    (hx : usizeSaturatingAdd a b ≤ max) : usizeSaturatingAdd a b = a + b := by
  unfold usizeSaturatingAdd at *
  omega

theorem forall_mem_update {held : PacketClass → List ScheduledPacket} {packets : List ScheduledPacket}
    (h : ∀ d, ∀ pkt ∈ held d, pkt.packetClass = d) (hp : ∀ pkt ∈ packets, pkt.packetClass = c) :
    ∀ d, ∀ pkt ∈ Function.update held c packets d, pkt.packetClass = d :=
  (Function.forall_update_iff held fun d l => ∀ pkt ∈ l, pkt.packetClass = d).mpr ⟨hp, fun d _ => h d⟩

theorem SchedulerInv.mem_kept (hI : SchedulerInv max s) {pkt : ScheduledPacket} (h : pkt ∈ s.kept c) :
    pkt.packetClass = c := by
  unfold kept at h
  split at h
  · cases h
  · exact hI.classes c pkt h

theorem SchedulerInv.step (hI : SchedulerInv max s) (hch : SchedulerChange s call out s')
    (hft : Unsaturated max ⟨s, call, out, s'⟩) : SchedulerInv max s' := by
  have hb := hI.bounded
  cases hch with
  | refused | empty => exact hI
  | accepted packet _ hh hby hle hx =>
    -- a replaced packet is one of those counted, so that its length can be taken from the count
    have hsum := sum_totalLen_update s.held packet.packetClass (s.kept packet.packetClass ++ [packet])
    have hheld_le := sum_totalLen_update s.held packet.packetClass []
    have hk : totalLen (s.kept packet.packetClass) ≤ totalLen (s.held packet.packetClass) := by
      unfold kept
      split <;> simp
    have hm : USIZE_MAX ≤ max → ∑ c, totalLen (s.held c) + packet.wireLen ≤ USIZE_MAX := by
      rw [← totalLen_heldPackets]
      exact hft
    rw [hI.max_eq] at hle hx
    rw [hI.bytes] at hby
    have ha := projected_eq (fun hs => (Nat.add_le_add_right (Nat.sub_le _ _) _).trans (hm hs)) (hby ▸ hle)
    simp only [totalLen_append, totalLen_cons, totalLen_nil] at hsum hheld_le
    refine ⟨hx, ?_, hle, ?_⟩
    · rw [hh]
      omega
    · rw [hh]
      refine forall_mem_update hI.classes fun p hp => ?_
      rcases List.mem_append.mp hp with hp | hp
      · exact hI.mem_kept hp
      · rw [List.mem_singleton.mp hp]
  | popped c packet rest _ hf hh _ hby hx =>
    have hsum := sum_totalLen_update s.held c rest
    rw [hf, totalLen_cons] at hsum
    have hc := hI.bytes
    refine ⟨hx.trans hI.max_eq, ?_, by omega, ?_⟩
    · rw [hh]
      omega
    · rw [hh]
      refine forall_mem_update hI.classes fun p hp => ?_
      exact hI.classes c p (hf ▸ List.mem_cons_of_mem _ hp)

/-! ### The packets of a run -/

def acceptedPacket (e : SchedulerEntry) : Option ScheduledPacket :=
  match e.call, e.out with
  | .enqueue packet, .enqueued (.ok ()) => some packet
  | _, _ => none

def poppedPacket (e : SchedulerEntry) : Option ScheduledPacket :=
  match e.out with
  | .popped packet => packet
  | .enqueued _ => none

def superseded : List SchedulerEntry → Bool
  | [] => false
  | e :: log =>
    match e.call with
    | .popNext => false
    | .enqueue _ => (acceptedPacket e).any (fun packet => packet.packetClass = 0) || superseded log

/-- The packets that the run has accepted, without those of realtime input that were superseded. -/
def surviving : List SchedulerEntry → List ScheduledPacket
  | [] => []
  | e :: log =>
    match acceptedPacket e with
    | none => surviving log
    | some packet =>
      if packet.packetClass = 0 ∧ superseded log = true then surviving log else packet :: surviving log

def ofClass (c : PacketClass) (packets : List ScheduledPacket) : List ScheduledPacket :=
  packets.filter fun packet => packet.packetClass = c

section Runs

variable {log : List SchedulerEntry}

theorem ofClass_cons (c : PacketClass) (pkt : ScheduledPacket) (packets : List ScheduledPacket) :
    ofClass c (pkt :: packets) =
      if pkt.packetClass = c then pkt :: ofClass c packets else ofClass c packets := by
  simp [ofClass, List.filter_cons]

/-- What is held of a class at first, unless it is superseded in the run. -/
def remaining (s : PriorityScheduler) (log : List SchedulerEntry) (c : PacketClass) : List ScheduledPacket :=
  if c = 0 ∧ superseded log = true then [] else s.held c

/-- With the slot empty there is nothing to supersede. -/
theorem held_unless (hs : s.held 0 = []) {p : Prop} [Decidable p] :
    (if c = 0 ∧ p then [] else s.held c) = s.held c := by
  split_ifs with h
  · rw [h.1, hs]
  · rfl

/-- In each class the packets of a run that survive are those popped, followed by those held: with one call more
in front. -/
theorem surviving_cons {last : List ScheduledPacket} (hI : SchedulerInv max s)
    (hch : SchedulerChange s call out s')
    (ih : remaining s' log c ++ ofClass c (surviving log) = ofClass c (log.filterMap poppedPacket) ++ last) :
    remaining s (⟨s, call, out, s'⟩ :: log) c ++ ofClass c (surviving (⟨s, call, out, s'⟩ :: log)) = ofClass c
      ((⟨s, call, out, s'⟩ :: log).filterMap poppedPacket) ++ last := by
  simp only [remaining] at ih ⊢
  cases hch with
  | refused => simpa [superseded, surviving, acceptedPacket, poppedPacket, List.filterMap_cons] using ih
  | empty hsl =>
    rw [held_unless hsl] at ih
    simpa [superseded, surviving, acceptedPacket, poppedPacket, List.filterMap_cons] using ih
  | accepted packet _ hh =>
    simp only [superseded, surviving, acceptedPacket, List.filterMap_cons, poppedPacket]
    rw [hh] at ih
    by_cases hclass : packet.packetClass = c
    · subst hclass
      -- a packet of realtime input supersedes the one held before, and may be superseded in its turn
      by_cases hr : packet.packetClass = 0
      · by_cases hlt : superseded log = true <;>
          simpa [hr, hlt, ofClass_cons, kept] using ih
      · simpa [hr, ofClass_cons, kept] using ih
    · rw [Function.update_of_ne (Ne.symm hclass)] at ih
      have ho : ofClass c (if packet.packetClass = 0 ∧ superseded log = true then surviving log
          else packet :: surviving log) = ofClass c (surviving log) := by
        split <;> simp [ofClass_cons, hclass]
      rw [ho]
      by_cases hc : c = 0
      · subst hc
        simpa [hclass] using ih
      · simpa [hc] using ih
  | popped k packet rest _ hf hh hsl =>
    have hclass := hI.classes k packet (hf ▸ List.mem_cons_self)
    rw [held_unless hsl, hh] at ih
    simp only [surviving, acceptedPacket, superseded, List.filterMap_cons, poppedPacket, ofClass_cons, hclass]
    by_cases hk : k = c
    · subst hk
      simpa [hf] using ih
    · simpa [hk, Function.update_of_ne (Ne.symm hk)] using ih

theorem surviving_eq (c : PacketClass) : ∀ (cs : List SchedulerCall) {s : PriorityScheduler},
    SchedulerInv max s → (∀ e ∈ trace schedulerStep s cs, Unsaturated max e) →
      remaining s (trace schedulerStep s cs) c ++ ofClass c (surviving (trace schedulerStep s cs)) =
        ofClass c ((trace schedulerStep s cs).filterMap poppedPacket) ++ (final schedulerStep s cs).held c
  | [], s, _, _ => by simp [remaining, superseded, surviving, ofClass]
  | call :: cs, s, hI, hf => by
    rw [trace_cons, List.forall_mem_cons] at hf
    have hch := schedulerStep_change s call
    exact surviving_cons hI hch (surviving_eq c cs (hI.step hch hf.1) hf.2)

def acceptedRealtime (e : SchedulerEntry) : Option ScheduledPacket :=
  (acceptedPacket e).filter fun packet => packet.packetClass = 0

theorem latestRealtimeInput_newest (hch : SchedulerChange s call out s')
    (h : ∀ packet ∈ s.held 0, latest acceptedRealtime log = some packet) :
    ∀ packet ∈ s'.held 0, latest acceptedRealtime (log ++ [⟨s, call, out, s'⟩]) = some packet := by
  intro packet hp
  rw [latest_snoc]
  cases hch with
  | refused => simpa [acceptedRealtime, acceptedPacket] using h packet hp
  | accepted newest _ hh =>
    rw [hh] at hp
    simp only [acceptedRealtime, acceptedPacket, Option.filter_some, decide_eq_true_eq]
    by_cases hc : newest.packetClass = 0
    · rw [hc] at hp
      obtain rfl : packet = newest := by simpa [kept] using hp
      rw [if_pos hc, Option.some_or]
    · rw [Function.update_of_ne (Ne.symm hc)] at hp
      rw [if_neg hc]
      exact h packet hp
  | popped _ _ _ _ _ _ hs | empty hs => rw [hs] at hp; cases hp

end Runs

/-! ### The scheduler over whole runs -/

/-- What holds of the scheduler `s` after the calls of `log`. -/
structure SchedulerKept (max : ℕ) (log : List SchedulerEntry) (s : PriorityScheduler) : Prop where
  bytes : s.queuedBytes = totalLen s.heldPackets
  bounded : s.queuedBytes ≤ max
  /-- At most one packet of realtime input is held, and it is the newest. -/
  oneRealtime : (s.held 0).length ≤ 1
  newest : ∀ packet ∈ s.held 0, latest acceptedRealtime log = some packet
  classes : ∀ c, ∀ packet ∈ s.held c, packet.packetClass = c
  /-- In each class the packets that were not superseded have come out in the order they were accepted,
  each of them once, up to those still held. -/
  conserved : ∀ c, ofClass c (surviving log) = ofClass c (log.filterMap poppedPacket) ++ s.held c

/-- The call keeps to what the scheduler promises: a refusal changes nothing, and a pop gives the oldest
packet of the highest class there is. -/
structure CallKept (e : SchedulerEntry) : Prop where
  refused : ∀ packet error, e.call = .enqueue packet → e.out = .enqueued (.error error) → e.post = e.pre
  popped : e.call = .popNext → e.out = .popped e.pre.heldPackets.head?

theorem callKept (s : PriorityScheduler) (call : SchedulerCall) : CallKept (entry schedulerStep s call) := by
  constructor
  · intro pkt error _ ho
    have hr {s'} (h : SchedulerChange s call (.enqueued (.error error)) s') : s' = s := by
      cases h
      rfl
    exact hr (ho ▸ schedulerStep_change s call)
  · intro hc
    subst hc
    exact congrArg SchedulerAnswer.popped (popNext_eq_head s)

/-- **The scheduler keeps its account and its order.** For every maximum and every sequence of calls:
the count is the sum of the lengths of the packets held and at most the maximum; at most one packet of
realtime input is held, the newest that was accepted; in each class the packets popped are those
accepted, in their order, but for the superseded ones and those still held; a call that is refused
changes nothing; and a pop gives the packet of realtime input if there is one, and otherwise the oldest
of the highest class that is not empty. -/
theorem priority_scheduler (max : ℕ) (calls : List SchedulerCall)
    (hmemory : USIZE_MAX ≤ max → ∀ e ∈ trace schedulerStep (.new max) calls, FitsMemory e) :
    SchedulerKept max (trace schedulerStep (.new max) calls) (final schedulerStep (.new max) calls) ∧
      ∀ e ∈ trace schedulerStep (.new max) calls, CallKept e := by
  have hft : ∀ e ∈ trace schedulerStep (.new max) calls, Unsaturated max e :=
    fun e he hs => hmemory hs e he
  have hI := run_inv_of schedulerStep
    (fun s call hcl hI => hI.step (schedulerStep_change s call) hcl) calls (schedulerInv_new max) hft
  have hn := history_inv schedulerStep (I := fun log s => ∀ pkt ∈ s.held 0, latest acceptedRealtime log = some pkt)
    (fun log s call h => latestRealtimeInput_newest (schedulerStep_change s call) h) calls [] (.new max)
      fun _ h => by cases h
  refine ⟨⟨hI.bytes.trans (totalLen_heldPackets _).symm, hI.bounded, Option.length_toList_le, hn,
    hI.classes, fun c => ?_⟩, fun e he => ?_⟩
  · have hsurviving := surviving_eq c calls (schedulerInv_new max) hft
    rwa [remaining, held_unless (held_new max 0), held_new] at hsurviving
  · obtain ⟨before, _, _, hen⟩ := mem_trace schedulerStep he
    rw [hen]
    exact callKept _ e.call

namespace SchedulerSample

def packet (kind : MessageKind) (channelId : ChannelId) (sequence : UInt64) : ScheduledPacket :=
  ⟨{ MessageHeader.new kind 1 sequence 1 with channelId }, [0]⟩

/-- Telemetry, a reliable input and two movements of the mouse, then three pops. -/
def calls : List SchedulerCall :=
  [.enqueue (packet .stats .telemetry 0), .enqueue (packet .inputEvent .inputReliable 0),
   .enqueue (packet .inputEvent .inputRealtime 1), .enqueue (packet .inputEvent .inputRealtime 2),
   .popNext, .popNext, .popNext]

end SchedulerSample

theorem priority_scheduler_sample :
    (trace schedulerStep (.new USIZE_MAX) SchedulerSample.calls).filterMap poppedPacket =
        [SchedulerSample.packet .inputEvent .inputRealtime 2, SchedulerSample.packet .inputEvent .inputReliable 0,
         SchedulerSample.packet .stats .telemetry 0] ∧
      SchedulerKept USIZE_MAX (trace schedulerStep (.new USIZE_MAX) SchedulerSample.calls)
        (final schedulerStep (.new USIZE_MAX) SchedulerSample.calls) :=
  ⟨by decide +kernel, (priority_scheduler USIZE_MAX SchedulerSample.calls fun _ => by decide +kernel).1⟩

end Rctl
