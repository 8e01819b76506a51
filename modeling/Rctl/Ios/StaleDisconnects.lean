/-
# Disconnects and the attempt they are about

`NativeSessionTransport.swift` hands the starts of the controller's session to the driver, and the
disconnects of the driver to the session, with the epoch of the start that was handled
last. As long as that is the attempt a disconnect comes from, those of older attempts
change nothing, and those of one attempt make the session restart at most once
(`disconnects_of_attempt`). If a start is handled in between, the session is restarted for
an attempt that is over (`restarted_twice`).

The actor's tasks take commands and events from their streams one at a time, in any order.

Key definitions: `NativeSessionTransport.step`, `restarts`.
Key theorems: `acts_epoch`, `disconnects_of_attempt`.
-/
import Rctl.Core.Drive

namespace Rctl.Ios

open StateRun Controller ControllerSession

/-- A disconnect, with the epoch of the attempt in which the driver produced it. -/
structure Disconnected where
  attempt : UInt64
  recoverable : Bool
  reason : String
  deriving DecidableEq

structure NativeSessionTransport (T : Type) where
  core : ControllerSession (Recorded T)
  handled : ℕ
  connectionEpoch : UInt64
  closed : Bool
  driverEvents : List Disconnected

inductive TransportAction
  | core (call : Call)
  | handleCommand
  | driverDisconnects (recoverable : Bool) (reason : String)
  | handleEvent
  | close
  deriving DecidableEq

namespace NativeSessionTransport

variable {T : Type} [ControllerTransport T] (toVec : InputEvent → Option ByteString.Bytes)

def handleCommand (s : NativeSessionTransport T) : NativeSessionTransport T :=
  match s.core.transport.calls[s.handled]? with
  | none => s
  | some (.start epoch) =>
    { s with handled := s.handled + 1, connectionEpoch := if s.closed then s.connectionEpoch else epoch }
  | some _ => { s with handled := s.handled + 1 }

/-- The answer is the disconnect that was handed to the core. -/
def handleEvent (s : NativeSessionTransport T) : Option Disconnected × NativeSessionTransport T :=
  match s.driverEvents with
  | [] => (none, s)
  | event :: rest =>
    if s.closed then (none, { s with driverEvents := rest })
    else (some event, { s with
      driverEvents := rest
      core := (s.core.handleTransportEvent s.connectionEpoch (.disconnected event.recoverable event.reason)).2 })

def step (s : NativeSessionTransport T) : TransportAction → Option Disconnected × NativeSessionTransport T
  | .core call => (none, { s with core := (Controller.step toVec s.core call).2 })
  | .handleCommand => (none, s.handleCommand)
  | .driverDisconnects recoverable reason =>
    (none, { s with driverEvents := s.driverEvents ++ [⟨s.connectionEpoch, recoverable, reason⟩] })
  | .handleEvent => s.handleEvent
  | .close => (none, if s.closed then s else { s with closed := true, core := s.core.close.2 })

def new (sessionId : U128) (t : T) : NativeSessionTransport T := ⟨fresh sessionId t, 0, 0, false, []⟩

abbrev TransportEntry (T : Type) := Entry (NativeSessionTransport T) TransportAction (Option Disconnected)

/-- The call hands a disconnect of attempt `k` to the core, which starts the transport again. -/
def restarts (k : UInt64) (e : TransportEntry T) : Bool :=
  e.out.map (·.attempt) == some k &&
    startEpochs e.post.core.transport.calls != startEpochs e.pre.core.transport.calls

/-! ### The epoch of the core -/

theorem acts_epoch {s s' : ControllerSession (Recorded T)} (ha : Acts s s') :
    s.connectionEpoch.toNat ≤ s'.connectionEpoch.toNat ∧
      (startEpochs s'.transport.calls = startEpochs s.transport.calls ∨
        min (s.connectionEpoch.toNat + 1) maxEpoch ≤ s'.connectionEpoch.toNat) := by
  induction ha with
  | refl => exact ⟨Nat.le_refl _, .inl rfl⟩
  | @tail s₁ s₂ _ hac ih =>
    have hlt := s₁.connectionEpoch.toNat_lt
    cases hac with
    | recoverable | fatal => exact ih
    | started state =>
      have hn : (s₁.attempt state).connectionEpoch.toNat = _ :=
        (congrArg UInt64.toNat (transitionTo_connectionEpoch _ _)).trans (saturatingSucc_toNat s₁.connectionEpoch)
      simp only [hn, maxEpoch]
      omega
    | closed ho =>
      have hn : s₁.close.2.connectionEpoch.toNat = min (s₁.connectionEpoch.toNat + 1) maxEpoch := by
        rw [close, if_neg (by simp [ho]), transitionTo_connectionEpoch]
        exact saturatingSucc_toNat s₁.connectionEpoch
      have hs : startEpochs s₁.close.2.transport.calls = startEpochs s₁.transport.calls := by
        simp [close_calls ho, startEpochs, TransportCall.startEpoch]
      rw [hn, hs, maxEpoch]
      rw [maxEpoch] at ih
      omega

theorem step_epoch (s : ControllerSession (Recorded T)) (call : Call) :
    s.connectionEpoch.toNat ≤ (Controller.step toVec s call).2.connectionEpoch.toNat := by
  have hmv := step_moved toVec s call
  generalize (Controller.step toVec s call).2 = s' at hmv
  cases hmv with
  | acts _ ha => exact (acts_epoch ha).1
  | streamed => rw [transitionTo_connectionEpoch]
  | queued | sent | polled => exact Nat.le_refl _

theorem step_core (s : NativeSessionTransport T) (act : TransportAction) :
    s.core.connectionEpoch.toNat ≤ (step toVec s act).2.core.connectionEpoch.toNat ∧
      ∀ ev, (step toVec s act).1 = some ev → act = .handleEvent ∧ s.closed = false ∧ s.driverEvents.head? = some ev ∧
        (step toVec s act).2.core =
          (s.core.handleTransportEvent s.connectionEpoch (.disconnected ev.recoverable ev.reason)).2 := by
  cases act with
  | core call => exact ⟨step_epoch toVec s.core call, nofun⟩
  | handleCommand =>
    have hcore : s.handleCommand.core = s.core := by
      unfold handleCommand
      split <;> rfl
    exact ⟨by rw [step, hcore], nofun⟩
  | driverDisconnects => exact ⟨Nat.le_refl _, nofun⟩
  | handleEvent =>
    simp only [step, handleEvent]
    split
    · exact ⟨Nat.le_refl _, nofun⟩
    · rename_i he
      split
      · exact ⟨Nat.le_refl _, nofun⟩
      · rename_i hop
        refine ⟨step_epoch toVec s.core (.handleTransportEvent _ _), ?_⟩
        rintro _ ⟨⟩
        exact ⟨trivial, Bool.eq_false_iff.mpr hop, by rw [he]; rfl, rfl⟩
  | close =>
    simp only [step]
    split
    · exact ⟨Nat.le_refl _, nofun⟩
    · exact ⟨step_epoch toVec s.core .close, nofun⟩

/-- A disconnect that reaches the core with its current epoch comes from that attempt, and this is not
the last epoch there is. -/
def Agrees (e : TransportEntry T) : Prop :=
  e.call = .handleEvent → e.pre.closed = false → e.pre.core.closeStarted = false →
    e.pre.connectionEpoch = e.pre.core.connectionEpoch → ∀ event ∈ e.pre.driverEvents.head?,
      event.attempt = e.pre.connectionEpoch ∧ e.pre.core.connectionEpoch.toNat < 2 ^ 64 - 1

variable {s : NativeSessionTransport T} {act : TransportAction}

theorem attempt_eq (hag : Agrees (entry (step toVec) s act)) {ev : Disconnected}
    (ho : (step toVec s act).1 = some ev) (hc : (step toVec s act).2.core ≠ s.core) :
    ev.attempt = s.core.connectionEpoch ∧ s.core.connectionEpoch.toNat < 2 ^ 64 - 1 := by
  obtain ⟨hac, hop, hev, hcore⟩ := (step_core toVec s act).2 ev ho
  rw [hcore] at hc
  have hlive : s.core.closeStarted = false ∧ s.connectionEpoch = s.core.connectionEpoch := by
    by_contra hs
    rw [not_and_or, Bool.not_eq_false] at hs
    exact hc (congrArg Prod.snd (s.core.handleTransportEvent_stale hs))
  obtain ⟨ha, hlt⟩ := hag hac hop hlive.1 hlive.2 ev hev
  exact ⟨ha.trans hlive.2, hlt⟩

theorem restarts_epoch (hag : Agrees (entry (step toVec) s act)) {k : UInt64}
    (h : restarts k (entry (step toVec) s act) = true) : s.core.connectionEpoch = k ∧
      k.toNat < (step toVec s act).2.core.connectionEpoch.toNat := by
  simp only [restarts, entry_out, entry_post, entry_pre, Bool.and_eq_true, beq_iff_eq, Option.map_eq_some_iff,
    bne_iff_ne] at h
  obtain ⟨⟨ev, ho, rfl⟩, hsr⟩ := h
  obtain ⟨ha, hla⟩ := attempt_eq toVec hag ho fun hsm => hsr (by rw [hsm])
  have hmv := handleTransportEvent_moved toVec s.core s.connectionEpoch (.disconnected ev.recoverable ev.reason)
  rw [← ((step_core toVec s act).2 ev ho).2.2.2] at hmv
  refine ⟨ha.symm, ?_⟩
  generalize (step toVec s act).2 = s' at hsr hmv
  generalize s.connectionEpoch = ep at hmv
  cases hmv with
  | acts _ has =>
    have hnx := (acts_epoch has).2.resolve_left hsr
    rw [maxEpoch] at hnx
    rw [ha]
    omega

/-- **Disconnects are about their attempt.** A disconnect changes the core only in the attempt it comes
from, and those of one attempt restart it at most once. -/
theorem disconnects_of_attempt (sessionId : U128) (t : T) (actions : List TransportAction)
    (hagrees : ∀ e ∈ trace (step toVec) (new sessionId t) actions, Agrees e) :
    let log := trace (step toVec) (new sessionId t) actions
    (∀ e ∈ log, ∀ ev ∈ e.out, e.post.core ≠ e.pre.core → ev.attempt = e.pre.core.connectionEpoch) ∧
    ∀ k, log.countP (restarts k) ≤ 1 := by
  refine ⟨fun e he ev ho hc => ?_, fun k => ?_⟩
  · have hagrees := hagrees e he
    obtain ⟨before, after, -, heq⟩ := mem_trace _ he
    rw [heq] at hagrees ho hc ⊢
    exact (attempt_eq toVec hagrees ho hc).1
  · have hcn := countP_trace_add_le (step toVec) (I := fun _ => True) (Q := Agrees) (p := restarts k)
      (Φ := fun _ => 0) (Ψ := fun s => if s.core.connectionEpoch.toNat ≤ k.toNat then 1 else 0)
      (fun _ _ _ _ => trivial) (fun s act hagrees _ => ?_) actions trivial hagrees
    · split_ifs at hcn <;> omega
    · have hmono := (step_core toVec s act).1
      by_cases hr : restarts k (entry (step toVec) s act) = true
      · obtain ⟨hk, hlt⟩ := restarts_epoch toVec hagrees hr
        rw [if_pos hr, if_neg (by omega), if_pos (by rw [hk])]
      · rw [if_neg hr]
        split_ifs <;> omega

/-- Two disconnects of the first attempt; `start` is handled between them or not. -/
def twoDisconnects (start : List TransportAction) : List TransportAction :=
  [.core .connect, .handleCommand, .driverDisconnects true "", .driverDisconnects true "", .handleEvent] ++ start ++
    [.handleEvent]

theorem disconnects_of_attempt_two :
    (trace (step fun _ => none) (new 7 Unfailing.mk) (twoDisconnects [])).countP (restarts 1) ≤ 1 :=
  (disconnects_of_attempt (fun _ => none) 7 Unfailing.mk (twoDisconnects [])
    (by unfold Agrees; decide +kernel)).2 1

/-- The second disconnect is taken for one of the second attempt, which is current. -/
theorem restarted_twice :
    let log := trace (step fun _ => none) (new 7 Unfailing.mk) (twoDisconnects [.handleCommand])
    log.countP (restarts 1) = 2 ∧
      log.getLast?.map (fun e => (e.out.map (·.attempt), e.pre.core.connectionEpoch, e.post.core.connectionEpoch)) =
        some (some 1, 2, 3) := by
  decide +kernel

end NativeSessionTransport

end Rctl.Ios
