/-
# The controller's session drives its transport

Whatever the transport answers and whatever the calls are: the transport is closed once and
hears nothing after that, it is started with growing epochs, it gets input of this session only
while the session streams, and the user is told of every change of the state.

The epoch grows by one with each attempt and stays at its greatest value from then on, so the
starts have growing epochs as long as there are fewer than `2 ^ 64` of them.
-/
import Rctl.Core.Controller
import Rctl.Lib.Walk

namespace Rctl.Controller

open ByteString StateRun Walks ControllerSession

/-! ### The calls a transport gets -/

inductive TransportCall
  | start (epoch : UInt64)
  | input (payload : Bytes) (delivery : InputDelivery)
  | close
  deriving DecidableEq, Repr

structure Recorded (T : Type) where
  inner : T
  calls : List TransportCall

variable {T : Type} [ControllerTransport T]

instance : ControllerTransport (Recorded T) where
  start t epoch :=
    ((ControllerTransport.start t.inner epoch).1,
      ⟨(ControllerTransport.start t.inner epoch).2, t.calls ++ [.start epoch]⟩)
  sendInput t payload delivery :=
    ((ControllerTransport.sendInput t.inner payload delivery).1,
      ⟨(ControllerTransport.sendInput t.inner payload delivery).2, t.calls ++ [.input payload delivery]⟩)
  close t := ((ControllerTransport.close t.inner).1, ⟨(ControllerTransport.close t.inner).2, t.calls ++ [.close]⟩)

def TransportCall.startEpoch : TransportCall → Option UInt64
  | .start epoch => some epoch
  | _ => none

def startEpochs (calls : List TransportCall) : List UInt64 := calls.filterMap TransportCall.startEpoch

/-! ### The invariant -/

def maxEpoch : ℕ := 2 ^ 64 - 1

structure DriveInv (s : ControllerSession (Recorded T)) : Prop where
  closed : s.closeStarted = true → s.state = .closed ∧ ∃ before, s.transport.calls = before ++ [.close] ∧
    .close ∉ before
  live : s.closeStarted = false → s.state ≠ .closed ∧ .close ∉ s.transport.calls ∧
    s.connectionEpoch.toNat = min (startEpochs s.transport.calls).length maxEpoch
  epochs : (startEpochs s.transport.calls).map (·.toNat) =
    (List.range (startEpochs s.transport.calls).length).map fun k => min (k + 1) maxEpoch

theorem saturatingSucc_toNat (n : UInt64) : (SecureSession.saturatingSucc n).toNat = min (n.toNat + 1) maxEpoch := by
  have hlt := n.toNat_lt
  unfold SecureSession.saturatingSucc maxEpoch
  split_ifs with hn
  · rw [hn]
    rfl
  · have hne : n.toNat ≠ 2 ^ 64 - 1 := fun h => hn (UInt64.toNat_inj.mp h)
    simp
    omega

variable {s s' : ControllerSession (Recorded T)}

theorem close_calls (ho : s.closeStarted = false) : s.close.2.transport.calls = s.transport.calls ++ [.close] := by
  rw [close, if_neg (by rw [ho]; decide), transitionTo_transport]
  rfl

section

variable (hinv : DriveInv s)
include hinv

theorem driveInv_close (ho : s.closeStarted = false) : DriveInv s.close.2 := by
  obtain ⟨-, hn, -⟩ := hinv.live ho
  have hcs := close_calls ho
  have hs : s.close.2.state = .closed ∧ s.close.2.closeStarted = true := by
    rw [close, if_neg (by rw [ho]; decide)]
    exact ⟨transitionTo_state _ _, transitionTo_closeStarted _ _⟩
  have he : startEpochs s.close.2.transport.calls = startEpochs s.transport.calls := by
    rw [hcs, startEpochs, filterMap_snoc]
    exact List.append_nil _
  refine ⟨fun _ => ⟨hs.1, s.transport.calls, hcs, hn⟩, fun h => ?_, ?_⟩
  · rw [hs.2] at h
    cases h
  · rw [he]
    exact hinv.epochs

theorem driveInv_start (hop : s.closeStarted = false) {st : ControllerSessionState}
    (ha : Attempt s.state st) : DriveInv { s.attempt st with
      transport := (ControllerTransport.start (s.attempt st).transport (s.attempt st).connectionEpoch).2 } := by
  obtain ⟨-, hn, hep⟩ := hinv.live hop
  have htp : (s.attempt st).transport = s.transport := transitionTo_transport _ _
  have hs : (s.attempt st).state ≠ .closed := by
    rw [attempt, transitionTo_state]
    exact ha.ne_closed
  have hcloseStarted : (s.attempt st).closeStarted = false :=
    (transitionTo_closeStarted _ _).trans hop
  have hnx : (s.attempt st).connectionEpoch.toNat = min ((startEpochs s.transport.calls).length + 1) maxEpoch := by
    rw [attempt, transitionTo_connectionEpoch, nextEpoch, saturatingSucc_toNat]
    omega
  have he : startEpochs (s.transport.calls ++ [.start (s.attempt st).connectionEpoch]) =
      startEpochs s.transport.calls ++ [(s.attempt st).connectionEpoch] := filterMap_snoc _ _ _
  rw [htp]
  refine ⟨fun h => ?_, fun _ => ⟨hs, ?_, ?_⟩, ?_⟩
  · rw [hcloseStarted] at h
    cases h
  · show TransportCall.close ∉ s.transport.calls ++ [.start _]
    simp [hn]
  · show (s.attempt st).connectionEpoch.toNat = min (startEpochs (s.transport.calls ++ [.start _])).length maxEpoch
    rw [he, hnx, List.length_append, List.length_singleton]
  · show (startEpochs (s.transport.calls ++ [.start _])).map _ =
      (List.range (startEpochs (s.transport.calls ++ [.start _])).length).map _
    rw [he, List.map_append, hinv.epochs, List.length_append, List.length_singleton, List.range_succ,
      List.map_append, List.map_singleton, List.map_singleton, hnx]

theorem driveInv_act (ha : Act s s') : DriveInv s' := by
  cases ha with
  | recoverable | fatal => exact ⟨hinv.closed, hinv.live, hinv.epochs⟩
  | started _ ho hattempt => exact driveInv_start hinv ho hattempt
  | closed ho => exact driveInv_close hinv ho

theorem driveInv_acts (ha : Acts s s') : DriveInv s' := by
  induction ha with
  | refl => exact hinv
  | tail _ hac ih => exact driveInv_act ih hac

end

/-! ### What is queued -/

def ControllerSessionEvent.change : ControllerSessionEvent → Option ControllerSessionState
  | .stateChanged state => some state
  | _ => none

def changes (events : List ControllerSessionEvent) : List ControllerSessionState :=
  events.filterMap ControllerSessionEvent.change

/-- The session queues the states that are set, among other events. -/
structure Queues (s s' : ControllerSession T) (new : List ControllerSessionEvent) : Prop where
  events : s'.events = s.events ++ new
  states : s'.states = s.states ++ changes new
  walk : Walk s.state s'.state (changes new)

/-- The session goes from one state to another, and queues the changes and some errors. -/
def Announces (s s' : ControllerSession T) : Prop := ∃ new, Queues s s' new ∧ ∀ u, .h264 u ∉ new

section Queue

variable {s s' s'' : ControllerSession T}

omit [ControllerTransport T] in
theorem Announces.trans (h : Announces s s') (h' : Announces s' s'') : Announces s s'' := by
  obtain ⟨new, ⟨hev, hs, hw⟩, hn⟩ := h
  obtain ⟨new', ⟨hev', hs', hw'⟩, hn'⟩ := h'
  have hc : changes (new ++ new') = changes new ++ changes new' := List.filterMap_append
  refine ⟨new ++ new', ⟨by rw [hev', hev, List.append_assoc], ?_, ?_⟩, fun u hu => ?_⟩
  · rw [hs', hs, hc, List.append_assoc]
  · rw [hc]
    exact hw.append hw'
  · rcases List.mem_append.mp hu with hu | hu
    · exact hn u hu
    · exact hn' u hu

omit [ControllerTransport T] in
theorem announces_transitionTo (s : ControllerSession T) (st : ControllerSessionState) :
    Announces s (s.transitionTo st) := by
  refine ⟨_, ⟨s.transitionTo_events st, ?_, ?_⟩, fun u hu => ?_⟩
  · rw [s.transitionTo_states]
    split_ifs <;> rfl
  · rw [s.transitionTo_state]
    split_ifs with hs
    · rw [hs]
      exact .nil st
    · exact .single hs
  · split at hu <;> simp at hu

theorem act_announces (ha : Act s s') : Announces s s' := by
  cases ha with
  | recoverable | fatal => exact ⟨[_], ⟨rfl, (List.append_nil _).symm, .nil _⟩, by simp⟩
  | started state =>
    obtain ⟨new, ⟨hev, hs, hw⟩, hn⟩ := announces_transitionTo s.nextEpoch state
    exact ⟨new, ⟨hev, hs, hw⟩, hn⟩
  | closed ho =>
    rw [close, if_neg (by rw [ho]; decide)]
    obtain ⟨new, ⟨hev, hs, hw⟩, hn⟩ := announces_transitionTo
      ⟨s.sessionId, _, s.state, _, s.events, true, s.states⟩ .closed
    exact ⟨new, ⟨hev, hs, hw⟩, hn⟩

theorem acts_announce (ha : Acts s s') : Announces s s' := by
  induction ha with
  | refl => exact ⟨[], ⟨by simp, (List.append_nil _).symm, .nil _⟩, by simp⟩
  | tail _ hac ih => exact ih.trans (act_announces hac)

end Queue

theorem acts_calls (ha : Acts s s') :
    ∃ new, s'.transport.calls = s.transport.calls ++ new ∧ ∀ payload delivery, .input payload delivery ∉ new := by
  induction ha with
  | refl => exact ⟨[], by simp, by simp⟩
  | @tail s₁ s₂ _ hac ih =>
    obtain ⟨new, hcs, hn⟩ := ih
    cases hac with
    | recoverable | fatal => exact ⟨new, hcs, hn⟩
    | started state =>
      refine ⟨new ++ [.start (s₁.attempt state).connectionEpoch], ?_, by simp [hn]⟩
      show (s₁.attempt state).transport.calls ++ [_] = _
      rw [attempt, transitionTo_transport, nextEpoch, hcs, List.append_assoc]
    | closed ho =>
      refine ⟨new ++ [.close], ?_, by simp [hn]⟩
      rw [close_calls ho, hcs, List.append_assoc]

/-! ### Runs -/

abbrev ControllerEntry (T : Type) := Entry (ControllerSession (Recorded T)) Call Response

omit [ControllerTransport T] in
def polledEvent (e : ControllerEntry T) : Option ControllerSessionEvent :=
  match e.out with
  | .event event => event
  | _ => none

omit [ControllerTransport T] in
def queued (log : List (ControllerEntry T)) (s : ControllerSession (Recorded T)) : List ControllerSessionEvent :=
  log.filterMap polledEvent ++ s.events

variable {call : Call}

section Runs

variable (toVec : InputEvent → Option Bytes) {s : ControllerSession (Recorded T)}

theorem polledEvent_of_ne (hc : call ≠ .pollEvent) : polledEvent (entry (step toVec) s call) = none := by
  cases call with
  | pollEvent => exact absurd rfl hc
  | _ => rfl

/-- A call queues the changes that it makes, and a frame only while the session streams. -/
theorem moved_events {s s' : ControllerSession T} (hmv : Moved toVec s call s') (hc : call ≠ .pollEvent) :
    ∃ new, Queues s s' new ∧ ∀ u, .h264 u ∈ new → s.state = .streaming ∧ u.validate = .ok () := by
  cases hmv with
  | polled => exact absurd rfl hc
  | acts _ ha =>
    obtain ⟨new, hq, hn⟩ := acts_announce ha
    exact ⟨new, hq, fun u h => absurd h (hn u)⟩
  | streamed =>
    obtain ⟨new, hq, hn⟩ := announces_transitionTo s .streaming
    exact ⟨new, hq, fun u h => absurd h (hn u)⟩
  | sent => exact ⟨[], ⟨(List.append_nil _).symm, (List.append_nil _).symm, .nil _⟩, by simp⟩
  | queued u _ hs hv =>
    refine ⟨[.h264 u], ⟨rfl, (List.append_nil _).symm, .nil _⟩, fun u' h => ⟨hs, ?_⟩⟩
    obtain rfl := ControllerSessionEvent.h264.inj (List.mem_singleton.mp h)
    exact hv

theorem driveInv_step (hinv : DriveInv s) (call : Call) : DriveInv (step toVec s call).2 := by
  have hmv := step_moved toVec s call
  generalize (step toVec s call).2 = s' at hmv
  cases hmv with
  | acts _ has => exact driveInv_acts hinv has
  | streamed hop =>
    obtain ⟨-, hrs⟩ := hinv.live hop
    constructor
    · intro h
      rw [transitionTo_closeStarted, hop] at h
      cases h
    · rw [transitionTo_state, transitionTo_transport, transitionTo_connectionEpoch]
      exact fun _ => ⟨by decide, hrs⟩
    · rw [transitionTo_transport]
      exact hinv.epochs
  | queued | polled => exact ⟨hinv.closed, hinv.live, hinv.epochs⟩
  | sent _ payload delivery hop =>
    have he : startEpochs (s.transport.calls ++ [.input payload delivery]) = startEpochs s.transport.calls := by
      rw [startEpochs, filterMap_snoc]
      exact List.append_nil _
    obtain ⟨hlv, hn, hep⟩ := hinv.live hop
    refine ⟨fun h => ?_, fun _ => ⟨hlv, ?_, ?_⟩, ?_⟩
    · cases hop.symm.trans h
    · show TransportCall.close ∉ s.transport.calls ++ [.input payload delivery]
      simp [hn]
    · exact hep.trans (by rw [← he]; rfl)
    · show (startEpochs (s.transport.calls ++ [_])).map _ =
        (List.range (startEpochs (s.transport.calls ++ [_])).length).map _
      rw [he]
      exact hinv.epochs

/-- The changes that were queued are the states that were set, and lead from the first one to the
present one. -/
structure StatesQueued (log : List (ControllerEntry T)) (s : ControllerSession (Recorded T)) : Prop where
  queued : changes (queued log s) = s.states
  walk : Walk .idle s.state s.states

theorem statesQueued_step {log : List (ControllerEntry T)} (hI : StatesQueued log s) (call : Call) :
    StatesQueued (log ++ [entry (step toVec) s call]) (step toVec s call).2 := by
  by_cases hc : call = .pollEvent
  · subst hc
    have hq : log.filterMap polledEvent ++ s.events.head?.toList ++ s.events.tail = queued log s := by
      unfold Controller.queued
      cases s.events <;> simp
    refine ⟨?_, hI.walk⟩
    rw [Controller.queued, filterMap_snoc]
    exact (congrArg changes hq).trans hI.queued
  · obtain ⟨new, ⟨hev, hs, hw⟩, -⟩ := moved_events toVec (step_moved toVec s call) hc
    refine ⟨?_, ?_⟩
    · rw [Controller.queued, filterMap_snoc, polledEvent_of_ne toVec hc, Option.toList_none, List.append_nil, hev, hs,
        ← hI.queued, ← List.append_assoc]
      exact List.filterMap_append
    · rw [hs]
      exact hI.walk.append hw

def fresh (sessionId : U128) (t : T) : ControllerSession (Recorded T) := .new sessionId ⟨t, []⟩

theorem drive_run (sid : U128) (t : T) (cs : List Call) :
    DriveInv (final (step toVec) (fresh sid t) cs) ∧
      StatesQueued (trace (step toVec) (fresh sid t) cs) (final (step toVec) (fresh sid t) cs) := by
  refine history_inv (step toVec) (I := fun log s => DriveInv s ∧ StatesQueued log s)
    (fun log s call h => ⟨driveInv_step toVec h.1 call, statesQueued_step toVec h.2 call⟩) cs []
    (fresh sid t) ⟨⟨fun h => ?_, fun _ => ?_, rfl⟩, rfl, .nil _⟩
  · cases h
  · refine ⟨?_, List.not_mem_nil, rfl⟩
    show ControllerSessionState.idle ≠ .closed
    decide

end Runs

/-- What the transport of a session gets and what its user is told, after the calls in the log.
The session may be dropped at any time. -/
structure Driven (toVec : InputEvent → Option Bytes) (log : List (ControllerEntry T))
    (s : ControllerSession (Recorded T)) : Prop where
  /-- The transport is closed once, and that is the last call it gets. -/
  closedOnce : ∃ before, s.drop.transport.calls = before ++ [.close] ∧ .close ∉ before
  /-- The starts have growing epochs, as long as there are fewer than `2 ^ 64` of them. -/
  epochs : (startEpochs s.drop.transport.calls).length < 2 ^ 64 →
    (startEpochs s.drop.transport.calls).Pairwise (· < ·)
  /-- An event of another epoch, or after the close, has no effect. -/
  stale : ∀ epoch event, epoch ≠ s.connectionEpoch ∨ .close ∈ s.transport.calls →
    step toVec s (.handleTransportEvent epoch event) = (.unit (.ok ()), s)
  input : ∀ call, ∃ new, (step toVec s call).2.transport.calls = s.transport.calls ++ new ∧
    ∀ payload delivery, .input payload delivery ∈ new → s.state = .streaming ∧
      ∃ event, call = .sendInput event ∧ event.sessionId = s.sessionId ∧ toVec event = some payload
  h264 : ∀ call, call ≠ .pollEvent → ∃ new, (step toVec s call).2.events = s.events ++ new ∧
    ∀ u, .h264 u ∈ new → s.state = .streaming ∧ u.validate = .ok ()
  /-- The changes that were queued are the states that were set, each different from the one before. -/
  states : StatesQueued log s
  closed : .close ∈ s.transport.calls → (changes (queued log s)).getLast? = some .closed

section Driving

variable {toVec : InputEvent → Option Bytes} {s : ControllerSession (Recorded T)}

theorem DriveInv.closedOnce (hinv : DriveInv s) :
    ∃ before, s.drop.transport.calls = before ++ [.close] ∧ .close ∉ before := by
  unfold drop
  cases ho : s.closeStarted with
  | true => exact (hinv.closed ho).2
  | false => exact ⟨s.transport.calls, rfl, (hinv.live ho).2.1⟩

omit [ControllerTransport T] in
theorem DriveInv.closeStarted_of_close (hinv : DriveInv s) (h : .close ∈ s.transport.calls) :
    s.closeStarted = true := by
  by_contra ho
  rw [Bool.not_eq_true] at ho
  exact (hinv.live ho).2.1 h

theorem startEpochs_drop : startEpochs s.drop.transport.calls = startEpochs s.transport.calls := by
  unfold drop
  split
  · rfl
  · show startEpochs (s.transport.calls ++ [.close]) = _
    rw [startEpochs, filterMap_snoc]
    exact List.append_nil _

omit [ControllerTransport T] in
theorem DriveInv.pairwise_epochs (hinv : DriveInv s) (hs : (startEpochs s.transport.calls).length < 2 ^ 64) :
    (startEpochs s.transport.calls).Pairwise (· < ·) := by
  have hgrow : ((startEpochs s.transport.calls).map (·.toNat)).Pairwise (· < ·) := by
    rw [hinv.epochs, List.pairwise_map]
    refine (List.pairwise_lt_range).imp_of_mem fun {j k} hj hk hjk => ?_
    rw [List.mem_range] at hj hk
    unfold maxEpoch
    omega
  rw [List.pairwise_map] at hgrow
  exact hgrow.imp fun h => h

theorem moved_input {s' : ControllerSession (Recorded T)} (hmv : Moved toVec s call s') :
    ∃ new, s'.transport.calls = s.transport.calls ++ new ∧
      ∀ payload delivery, .input payload delivery ∈ new → s.state = .streaming ∧
        ∃ ev, call = .sendInput ev ∧ ev.sessionId = s.sessionId ∧ toVec ev = some payload := by
  cases hmv with
  | acts _ ha =>
    obtain ⟨new, hcs, hn⟩ := acts_calls ha
    exact ⟨new, hcs, fun payload delivery h => absurd h (hn payload delivery)⟩
  | streamed => exact ⟨[], by rw [transitionTo_transport, List.append_nil], by simp⟩
  | queued | polled => exact ⟨[], (List.append_nil _).symm, by simp⟩
  | sent ev payload delivery _ hs hsession hp =>
    refine ⟨[.input payload delivery], rfl, fun payload' delivery' h => ⟨hs, ev, rfl, hsession, ?_⟩⟩
    obtain ⟨rfl, -⟩ := TransportCall.input.inj (List.mem_singleton.mp h)
    exact hp

end Driving

/-- A session drives its transport, whatever the transport answers and however often it is started. -/
theorem session_drives_transport (toVec : InputEvent → Option Bytes) (sessionId : U128) (t : T) (calls : List Call) :
    Driven toVec (trace (step toVec) (fresh sessionId t) calls) (final (step toVec) (fresh sessionId t) calls) := by
  obtain ⟨hinv, hst⟩ := drive_run toVec sessionId t calls
  generalize final (step toVec) (fresh sessionId t) calls = s at hinv hst
  constructor
  · exact hinv.closedOnce
  · rw [startEpochs_drop]
    exact hinv.pairwise_epochs
  · intro ep ev hs
    have hi : s.closeStarted = true ∨ ep ≠ s.connectionEpoch :=
      hs.symm.imp hinv.closeStarted_of_close id
    show (Response.unit (s.handleTransportEvent ep ev).1, (s.handleTransportEvent ep ev).2) = _
    rw [s.handleTransportEvent_stale hi]
  · exact fun call => moved_input (step_moved toVec s call)
  · intro call hcl
    obtain ⟨new, hq, hf⟩ := moved_events toVec (step_moved toVec s call) hcl
    exact ⟨new, hq.events, hf⟩
  · exact hst
  · intro hcs
    have hw := hst.walk
    rw [(hinv.closed (hinv.closeStarted_of_close hcs)).1] at hw
    rw [hst.queued]
    exact hw.getLast_eq (by decide)

/-- A transport on which nothing fails. -/
inductive Unfailing
  | mk

instance : ControllerTransport Unfailing where
  start t _ := (.ok (), t)
  sendInput t _ _ := (.ok (), t)
  close t := (.ok (), t)

/-- A session that connects, streams, sends a mouse move, and is closed by its user. -/
def streamAndClose : List Call :=
  [.connect, .handleTransportEvent 1 .connected,
    .sendInput ⟨7, .mouseMove, some (.finite 0), some (.finite 1), .finite 0, .finite 0, none, none⟩, .pollEvent,
    .close]

theorem session_drives_transport_stream :
    Driven (fun _ => some [1]) (trace (step fun _ => some [1]) (fresh 7 Unfailing.mk) streamAndClose)
        (final (step fun _ => some [1]) (fresh 7 Unfailing.mk) streamAndClose) ∧
      (startEpochs (final (step fun _ => some [1]) (fresh 7 Unfailing.mk) streamAndClose).drop.transport.calls).Pairwise
        (· < ·) ∧
      (final (step fun _ => some [1]) (fresh 7 Unfailing.mk) streamAndClose).states =
        [.connecting, .streaming, .closed] := by
  have hd := session_drives_transport (fun _ => some [1]) 7 Unfailing.mk streamAndClose
  exact ⟨hd, hd.epochs (by decide +kernel), by decide +kernel⟩

/-! ### One restart too many -/

/-- The epoch of the attempt after `n` restarts. -/
def epochAfter (n : ℕ) : UInt64 := UInt64.ofNat (min (n + 1) maxEpoch)

/-- A connection that breaks again and again, `n` times. -/
def restarts (n : ℕ) : List Call :=
  .connect :: (List.range n).map fun k => .handleTransportEvent (epochAfter k) (.disconnected true "")

theorem epochAfter_succ (n : ℕ) : SecureSession.saturatingSucc (epochAfter n) = epochAfter (n + 1) := by
  apply UInt64.toNat_inj.mp
  rw [saturatingSucc_toNat, epochAfter, epochAfter, UInt64.toNat_ofNat', UInt64.toNat_ofNat']
  unfold maxEpoch
  omega

theorem restart_unfailing (s : ControllerSession (Recorded Unfailing)) (ho : s.closeStarted = false)
    (hs : s.state = .connecting ∨ s.state = .reconnecting) :
    let s' := (s.handleTransportEvent s.connectionEpoch (.disconnected true "")).2
    s'.closeStarted = false ∧ s'.state = .reconnecting ∧
      s'.connectionEpoch = SecureSession.saturatingSucc s.connectionEpoch ∧
      s'.transport.calls = s.transport.calls ++ [.start (SecureSession.saturatingSucc s.connectionEpoch)] := by
  have hr : (s.handleTransportEvent s.connectionEpoch (.disconnected true "")).2 =
      ((s.push (.recoverableTransportError "")).attempt .reconnecting).startTransport.2 := by
    have hstale : ¬ (s.closeStarted = true ∨ s.connectionEpoch ≠ s.connectionEpoch) := by simp [ho]
    have href : ¬ (s.state ≠ .connecting ∧ s.state ≠ .streaming ∧ s.state ≠ .reconnecting) := by
      rintro ⟨h, -, h'⟩
      exact hs.elim h h'
    rw [handleTransportEvent, if_neg hstale]
    exact congrArg Prod.snd (if_neg href)
  simp only [hr]
  refine ⟨?_, transitionTo_state _ _, transitionTo_connectionEpoch _ _, ?_⟩
  · exact (transitionTo_closeStarted _ _).trans ho
  · show ((s.push _).attempt .reconnecting).transport.calls ++ [.start _] = _
    rw [attempt, transitionTo_transport, transitionTo_connectionEpoch]
    rfl

/-- The session after `n` restarts: `n + 1` starts, the last of them with the present epoch. -/
theorem restarts_run (toVec : InputEvent → Option Bytes) (n : ℕ) :
    let s := final (step toVec) (fresh 7 Unfailing.mk) (restarts n)
    s.closeStarted = false ∧ (s.state = .connecting ∨ s.state = .reconnecting) ∧ s.connectionEpoch = epochAfter n ∧
      startEpochs s.transport.calls = (List.range (n + 1)).map epochAfter := by
  induction n with
  | zero => exact ⟨rfl, .inl rfl, rfl, rfl⟩
  | succ n ih =>
    obtain ⟨hop, hs, hep, hsr⟩ := ih
    have hcs : restarts (n + 1) = restarts n ++ [.handleTransportEvent (epochAfter n) (.disconnected true "")] := by
      rw [restarts, List.range_succ, List.map_append]
      rfl
    rw [hcs, final_append]
    generalize final (step toVec) (fresh 7 Unfailing.mk) (restarts n) = s at hop hs hep hsr
    obtain ⟨hopen', hs', hep', hcs'⟩ := restart_unfailing s hop hs
    rw [← hep]
    refine ⟨hopen', .inr hs', hep'.trans ?_, ?_⟩
    · rw [hep, epochAfter_succ]
    · show startEpochs (s.handleTransportEvent s.connectionEpoch _).2.transport.calls = _
      rw [hcs', hep, epochAfter_succ, startEpochs, filterMap_snoc, ← startEpochs, hsr, List.range_succ (n := n + 1),
        List.map_append]
      rfl

theorem epochAfter_lt {n i j : ℕ} (h : ((List.range (n + 1)).map epochAfter).Pairwise (· < ·)) (hij : i < j)
    (hj : j ≤ n) : epochAfter i < epochAfter j := by
  rw [List.pairwise_map, List.pairwise_iff_getElem] at h
  have hlt := h i j (by rw [List.length_range]; omega) (by rw [List.length_range]; omega) hij
  rwa [List.getElem_range, List.getElem_range] at hlt

/-- With `2 ^ 64 - 1` restarts the last two starts have one epoch. -/
theorem epochs_repeat_after_restarts :
    (startEpochs (final (step fun _ => none) (fresh 7 Unfailing.mk) (restarts (2 ^ 64 - 1))).transport.calls).length =
        2 ^ 64 ∧
      ¬ (startEpochs (final (step fun _ => none) (fresh 7 Unfailing.mk)
        (restarts (2 ^ 64 - 1))).transport.calls).Pairwise (· < ·) := by
  obtain ⟨-, -, -, hs⟩ := restarts_run (fun _ => none) (2 ^ 64 - 1)
  rw [hs]
  constructor
  · rw [List.length_map, List.length_range]
    rfl
  · intro hgrow
    have hlt := epochAfter_lt hgrow (i := 2 ^ 64 - 2) (by decide) (Nat.le_refl _)
    exact absurd hlt (by decide)

/-! ### Refused calls -/

def Response.error? : Response → Option ControllerSessionError
  | .epoch (.error e) | .unit (.error e) => some e
  | _ => none

/-- The session itself refuses the call: no operation of the transport failed. -/
def Response.refused (r : Response) : Bool := r.error? = some .invalidState || r.error? = some .invalidAccessUnit

section Refused

variable (s : ControllerSession T)

theorem transport_not_refused (r : Except ControllerTransportError Unit) :
    (Response.unit (r.mapError .transport)).refused = false := by
  cases r <;> rfl

theorem close_not_refused : (Response.unit s.close.1).refused = false := by
  unfold close
  split
  · rfl
  · exact transport_not_refused _

theorem startTransport_fst : s.startTransport.1 =
    (ControllerTransport.start s.transport s.connectionEpoch).1.mapError .transport := by
  unfold startTransport
  simp only
  split
  · rename_i h
    rw [h]
    rfl
  · rename_i h
    rw [h]
    rfl

/-- A session that is connected or connects starts the transport again. -/
theorem restartTransport_not_refused (hi : s.state ≠ .idle) (hcl : s.state ≠ .closed) :
    (Response.unit s.restartTransport.1).refused = false := by
  unfold restartTransport
  split
  · cases hs : s.state <;> simp_all
  · rw [startTransport_fst]
    exact transport_not_refused _

/-- A call that is refused changes nothing. The reason of a lost connection is queued before the
transport is started again, so in an idle session, which does not start it, the reason stays. -/
theorem refused_or_same (toVec : InputEvent → Option Bytes) (call : Call)
    (ho : s.closeStarted = false → s.state ≠ .closed)
    (hb : s.state = .idle → ∀ reason, call ≠ .handleTransportEvent s.connectionEpoch (.disconnected true reason)) :
    (step toVec s call).1.refused = false ∨ (step toVec s call).2 = s := by
  cases call with
  | connect =>
    simp only [step, connect]
    split
    · exact .inr rfl
    · rw [startTransport_fst]
      cases (ControllerTransport.start (s.attempt .connecting).transport (s.attempt .connecting).connectionEpoch).1 with
      | error | ok => exact .inl rfl
  | handleTransportEvent ep ev =>
    simp only [step, handleTransportEvent]
    split
    · exact .inl rfl
    · rename_i hl
      rw [not_or, not_not, Bool.not_eq_true] at hl
      obtain ⟨hop, rfl⟩ := hl
      cases ev with
      | connected =>
        simp only
        split
        · exact .inr rfl
        · exact .inl rfl
      | h264 =>
        simp only
        split
        · exact .inl rfl
        · split
          · exact .inr rfl
          · exact .inl rfl
      | disconnected rec reason =>
        cases rec with
        | true =>
          exact .inl (restartTransport_not_refused _ (fun hi => hb hi reason rfl) (ho hop))
        | false => exact .inl (close_not_refused _)
      | closed => exact .inl (close_not_refused s)
  | sendInput ev =>
    simp only [step, sendInput]
    split
    · exact .inr rfl
    · split
      · exact .inr rfl
      · split
        · exact .inr rfl
        · split
          · exact .inr rfl
          · exact .inl (transport_not_refused _)
  | pollEvent => exact .inl rfl
  | close => exact .inl (close_not_refused s)

/-- An idle session that hears of a lost connection queues the reason and then refuses the call. -/
theorem lost_while_idle (toVec : InputEvent → Option Bytes) (ho : s.closeStarted = false) (hi : s.state = .idle)
    (reason : String) : (step toVec s (.handleTransportEvent s.connectionEpoch (.disconnected true reason))).2 =
      s.push (.recoverableTransportError reason) := by
  simp [step, handleTransportEvent, restartTransport, push, ho, hi]

end Refused

/-- **A refused call is harmless.** Whatever was called before and whatever the transport answered: a
call that the session refuses leaves its state, its epoch and its events as they are, and is not one
more call on the transport, unless it tells an idle session of a lost connection. -/
theorem refused_call_harmless (toVec : InputEvent → Option Bytes) (sessionId : U128) (t : T) (calls : List Call)
    (call : Call) (hrefused : (step toVec (final (step toVec) (fresh sessionId t) calls) call).1.refused = true) :
    (step toVec (final (step toVec) (fresh sessionId t) calls) call).2 =
        final (step toVec) (fresh sessionId t) calls ↔
      ((final (step toVec) (fresh sessionId t) calls).state = .idle → ∀ reason, call ≠ .handleTransportEvent
        (final (step toVec) (fresh sessionId t) calls).connectionEpoch (.disconnected true reason)) := by
  have hinv := (drive_run toVec sessionId t calls).1
  generalize final (step toVec) (fresh sessionId t) calls = s at hinv hrefused ⊢
  constructor
  · rintro hsame hi rsn rfl
    have ho : s.closeStarted = false := by
      rw [Bool.eq_false_iff]
      intro hc
      cases hi.symm.trans (hinv.closed hc).1
    rw [lost_while_idle s toVec ho hi] at hsame
    have hev : s.events ++ [_] = s.events := congrArg ControllerSession.events hsame
    simp at hev
  · intro hb
    refine (refused_or_same s toVec call (fun ho => (hinv.live ho).1) hb).resolve_left fun h => ?_
    rw [h] at hrefused
    cases hrefused

theorem refused_call_harmless_connect :
    (step (fun _ => none) (final (step fun _ => none) (fresh 7 Unfailing.mk) [.connect]) .connect).2 =
      final (step fun _ => none) (fresh 7 Unfailing.mk) [.connect] :=
  (refused_call_harmless (fun _ => none) 7 Unfailing.mk [.connect] .connect (by decide)).mpr (by simp)

/-- A new session that hears of a lost connection refuses the call and queues its reason. -/
theorem refused_call_queues_reason :
    (step (fun _ => none) (fresh 7 Unfailing.mk) (.handleTransportEvent 0 (.disconnected true "lost"))).1.refused =
      true ∧
      (step (fun _ => none) (fresh 7 Unfailing.mk) (.handleTransportEvent 0 (.disconnected true "lost"))).2.events =
        [.recoverableTransportError "lost"] := by
  decide

end Rctl.Controller
