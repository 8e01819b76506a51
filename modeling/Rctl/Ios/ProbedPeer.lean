/-
# The peer that the iOS controller connects to

The driver announces a path for the candidate that answered its probe, and connects to the
candidate in `peer` when the session is ready. `peer` is the candidate of the last message that was
accepted, so the two are the same as long as no candidate comes after the selection
(`connects_to_probed_peer`); one that does is connected to without a probe, under the keys of the
path that was announced for the other (`connects_to_unprobed_peer`).

While a probe is out the next routed event has to wait, so `peer` can change only by a `start`,
which raises the connection epoch; then the probe's result is dropped (`PeerInv.probing`).
-/
import Rctl.Ios.Driver

namespace Rctl.Ios

open ByteString Result StateRun Driver

abbrev DriverEntry := Entry Driver DriverInput (Option (Except DriverError Unit))

def Answers (epoch : UInt64) (localCandidate : LocalControllerCandidate) (peer : ControlledSignalCandidate)
    (e : DriverEntry) : Prop :=
  e.pre.handling = some (.probing epoch localCandidate peer) ∧ ∃ bytes, e.call = .handlerAwaited (.ok bytes)

def announced (epoch : UInt64) : UInt64 × NativeSecureTransportEvent → Option NativeTransportSelection
  | (e, .transportSelected selection) => if e = epoch then some selection else none
  | _ => none

def lastSelection (epoch : UInt64) (yielded : List (UInt64 × NativeSecureTransportEvent)) :
    Option NativeTransportSelection :=
  yielded.reverse.findSome? (announced epoch)

theorem lastSelection_snoc (ep : UInt64) (yielded : List (UInt64 × NativeSecureTransportEvent))
    (ev : UInt64 × NativeSecureTransportEvent) :
    lastSelection ep (yielded ++ [ev]) = (announced ep ev).or (lastSelection ep yielded) := by
  simp only [lastSelection, List.reverse_append, List.reverse_singleton, List.singleton_append, List.findSome?_cons]
  cases announced ep ev <;> rfl

/-! ### What a step does to the peer -/

/-- Nothing that has to do with the peer changes; the stream may be finished. -/
structure Keeps (d d' : Driver) : Prop where
  peer : d'.peer = d.peer
  selected : d'.selected = d.selected
  epoch : d'.connectionEpoch = d.connectionEpoch
  finished : d'.finished = false → d.finished = false
  selection : ∀ epoch, lastSelection epoch d'.yielded = lastSelection epoch d.yielded

theorem Keeps.refl (d : Driver) : Keeps d d := ⟨rfl, rfl, rfl, id, fun _ => rfl⟩

variable {d d' d'' : Driver}

theorem Keeps.trans (h : Keeps d d') (h' : Keeps d' d'') : Keeps d d'' :=
  ⟨h'.peer.trans h.peer, h'.selected.trans h.selected, h'.epoch.trans h.epoch, fun ho => h.finished (h'.finished ho),
    fun ep => (h'.selection ep).trans (h.selection ep)⟩

/-- Nor does what the handler of a routed event waits for. -/
structure Rests (d d' : Driver) : Prop extends Keeps d d' where
  handling : d'.handling = d.handling

theorem Rests.refl (d : Driver) : Rests d d := ⟨.refl d, rfl⟩

theorem Rests.trans (h : Rests d d') (h' : Rests d' d'') : Rests d d'' :=
  ⟨h.toKeeps.trans h'.toKeeps, h'.handling.trans h.handling⟩

/-- The piece of a handler does not end in a probe. -/
def Unprobed (out : Except DriverError (Option Await)) : Prop :=
  ∀ epoch localCandidate peer, out ≠ .ok (some (.probing epoch localCandidate peer))

def selectionOf (peer : ControlledSignalCandidate) (pairID : String) : NativeTransportSelection :=
  { protocolVersion, path := peer.candidate.kind, candidatePairID := pairID, relayNodeID := peer.candidate.relayNodeID }

def pairIDOf (P : Primitives) (descriptor : SessionDescriptor) (localCandidate : LocalControllerCandidate)
    (peer : ControlledSignalCandidate) : Except CandidateError String :=
  candidatePairID P descriptor.sessionID localCandidate.candidate.candidateID peer.candidate.candidateID
    peer.candidate.kind peer.candidate.relayNodeID

variable {J : EnvelopeJson} {P : Primitives} {d : Driver}

section Pieces

variable {descriptor : SessionDescriptor}

theorem yield_rests {ev : NativeSecureTransportEvent} (h : ∀ selection, ev ≠ .transportSelected selection) :
    Rests d (d.yield ev) := by
  unfold yield
  split
  · exact .refl d
  · refine ⟨⟨rfl, rfl, rfl, id, fun ep => ?_⟩, rfl⟩
    rw [lastSelection_snoc]
    cases ev with
    | transportSelected selection => exact absurd rfl (h selection)
    | _ => rfl

theorem beginCandidateGatheringIfNeeded_rests (ep : UInt64) (host : LocalHost) :
    Rests d (d.beginCandidateGatheringIfNeeded P descriptor ep host).2 := by
  unfold beginCandidateGatheringIfNeeded
  split
  · split <;> exact ⟨⟨rfl, rfl, rfl, id, fun _ => rfl⟩, rfl⟩
  · exact .refl d

theorem tokenRequested_rests (ep : UInt64) (localCandidate : LocalControllerCandidate)
    (res : Except DriverError Unit) : Rests d (d.tokenRequested ep localCandidate res).2 := by
  unfold tokenRequested
  split
  · exact .refl d
  · split
    · exact ⟨⟨rfl, rfl, rfl, id, fun _ => rfl⟩, rfl⟩
    · exact .refl d

theorem gathers_keeps (host : LocalHost) :
    Keeps d (d.gathers P descriptor host).2 ∧ Unprobed (d.gathers P descriptor host).1 := by
  refine ⟨(beginCandidateGatheringIfNeeded_rests _ host).toKeeps, fun ep localCandidate peer h => ?_⟩
  simp only [gathers] at h
  generalize (d.beginCandidateGatheringIfNeeded P descriptor d.connectionEpoch host).1 = began at h
  cases began with
  | error => cases h
  | ok made => cases made <;> cases h

theorem selectPathIfReady_spec (d : Driver) : (Keeps d d.selectPathIfReady.2 ∧ Unprobed d.selectPathIfReady.1) ∨
      ∃ localCandidate peer, d.selected = false ∧ d.peer = some peer ∧ d.selectPathIfReady =
          (.ok (some (.probing d.connectionEpoch localCandidate peer)), { d with selectionInProgress := true }) := by
  unfold selectPathIfReady
  split_ifs with hr
  · exact .inl ⟨.refl d, by simp [Unprobed]⟩
  · rw [Bool.or_eq_true, not_or, Bool.not_eq_true] at hr
    split
    · rename_i localCandidate _ peer _ _ hp
      split
      · exact .inl ⟨.refl d, by simp [Unprobed]⟩
      · exact .inr ⟨localCandidate, peer, hr.1, hp, rfl⟩
    · exact .inl ⟨.refl d, by simp [Unprobed]⟩

/-- The path of the probed candidate is announced, or nothing happens. -/
theorem probed_spec (P : Primitives) (descriptor : SessionDescriptor) (ep : UInt64)
    (localCandidate : LocalControllerCandidate) (peer : ControlledSignalCandidate)
    (res : Except DriverError Unit) :
    let d' := (d.probed P descriptor ep localCandidate peer res).2
    Keeps d d' ∨ (ep = d.connectionEpoch ∧ res = .ok () ∧ ∃ pairID,
      pairIDOf P descriptor localCandidate peer = .ok pairID ∧ d'.peer = d.peer ∧
        d'.connectionEpoch = d.connectionEpoch ∧ (d'.finished = false →
          lastSelection d.connectionEpoch d'.yielded = some (selectionOf peer pairID))) := by
  unfold probed
  split
  · split
    · exact .inl ⟨rfl, rfl, rfl, id, fun _ => rfl⟩
    · exact .inl (.refl d)
  · split_ifs with hs
    · simp only [Bool.and_eq_true, decide_eq_true_eq] at hs
      split
      · exact .inl ⟨rfl, rfl, rfl, id, fun _ => rfl⟩
      · rename_i pairID hp
        refine .inr ⟨hs.1.2.symm, rfl, pairID, hp, ?_⟩
        unfold yield
        split_ifs with hf
        · refine ⟨rfl, rfl, fun ho => ?_⟩
          cases hf.symm.trans ho
        · refine ⟨rfl, rfl, fun _ => ?_⟩
          rw [lastSelection_snoc]
          simp [announced, selectionOf]
    · exact .inl (.refl d)

theorem handleCandidateToken_keeps (token : SignalCandidateTokenIssued) (clock : UInt64) :
    Keeps d (d.handleCandidateToken P descriptor token clock).2 ∧
      Unprobed (d.handleCandidateToken P descriptor token clock).1 := by
  unfold handleCandidateToken
  split
  · exact ⟨.refl d, by simp [Unprobed]⟩
  split
  · exact ⟨.refl d, by simp [Unprobed]⟩
  split
  · exact ⟨.refl d, by simp [Unprobed]⟩
  dsimp only
  split
  · exact ⟨.refl d, by simp [Unprobed]⟩
  split
  · exact ⟨.refl d, by simp [Unprobed]⟩
  · exact ⟨⟨rfl, rfl, rfl, id, fun _ => rfl⟩, by simp [Unprobed]⟩

end Pieces

/-- All that a step can do to the peer, its probe and the selection. -/
inductive PeerMove (P : Primitives) (descriptor : SessionDescriptor) (d : Driver) : DriverInput → Driver → Prop
  | keeps {input : DriverInput} {d' : Driver} (h : Keeps d d')
      (hprobing : ∀ epoch localCandidate peer, d'.handling = some (.probing epoch localCandidate peer) →
        d.handling = some (.probing epoch localCandidate peer)) : PeerMove P descriptor d input d'
  | reset {input : DriverInput} {d' : Driver} (hselected : d'.selected = false)
      (hdone : ∀ epoch localCandidate peer, d'.handling ≠ some (.probing epoch localCandidate peer)) :
      PeerMove P descriptor d input d'
  | restarted {input : DriverInput} {d' : Driver} (hselected : d'.selected = false)
      (hepoch : d.connectionEpoch < d'.connectionEpoch) (hhandling : d'.handling = d.handling) :
      PeerMove P descriptor d input d'
  | probes {input : DriverInput} {d' : Driver} {localCandidate : LocalControllerCandidate}
      {peer : ControlledSignalCandidate} (hselected : d'.selected = false) (hpeer : d'.peer = some peer)
      (hhandling : d'.handling = some (.probing d'.connectionEpoch localCandidate peer)) :
      PeerMove P descriptor d input d'
  | replaced {message : SignalSessionMessage} {host : LocalHost} {clock : UInt64} {d' : Driver}
      (hidle : d.handling = none) (hkind : message.kind = .connectionCandidate) (hselected : d'.selected = d.selected)
      (hdone : ∀ epoch localCandidate peer, d'.handling ≠ some (.probing epoch localCandidate peer)) :
      PeerMove P descriptor d (.routed (.message message) host clock) d'
  | selects {bytes : Bytes} {localCandidate : LocalControllerCandidate} {peer : ControlledSignalCandidate}
      {pairID : String} {d' : Driver}
      (hhandling : d.handling = some (.probing d.connectionEpoch localCandidate peer))
      (hpair : pairIDOf P descriptor localCandidate peer = .ok pairID) (hpeer : d'.peer = d.peer)
      (hepoch : d'.connectionEpoch = d.connectionEpoch)
      (hselection : d'.finished = false →
        lastSelection d.connectionEpoch d'.yielded = some (selectionOf peer pairID))
      (hdone : ∀ epoch localCandidate peer, d'.handling ≠ some (.probing epoch localCandidate peer)) :
      PeerMove P descriptor d (.handlerAwaited (.ok bytes)) d'

section Moves

variable {descriptor : SessionDescriptor} {input : DriverInput} {ran : Except DriverError (Option Await) × Driver}

theorem settle_keeps (h : Keeps d ran.2) : Keeps d (settle ran) := by
  unfold settle
  split
  · exact ⟨h.peer, h.selected, h.epoch, by simp, h.selection⟩
  · exact ⟨h.peer, h.selected, h.epoch, h.finished, h.selection⟩

theorem settle_unprobed (h : Unprobed ran.1) (ep : UInt64) (localCandidate : LocalControllerCandidate)
    (peer : ControlledSignalCandidate) : (settle ran).handling ≠ some (.probing ep localCandidate peer) := by
  unfold settle
  split
  · simp
  · rename_i hn
    intro hp
    exact h ep localCandidate peer (hn.trans (congrArg Except.ok hp))

theorem PeerMove.of_keeps (h : Keeps d ran.2 ∧ Unprobed ran.1) : PeerMove P descriptor d input (settle ran) :=
  .keeps (settle_keeps h.1) fun ep localCandidate peer hp =>
    absurd hp (settle_unprobed h.2 ep localCandidate peer)

theorem PeerMove.of_reset (h : ran.2.selected = false) (ho : Unprobed ran.1) :
    PeerMove P descriptor d input (settle ran) :=
  .reset ((settle_keeps (.refl ran.2)).selected.trans h) (settle_unprobed ho)

theorem handleMessage_peerMove (hil : d.handling = none) (msg : SignalSessionMessage) (host : LocalHost)
    (clock : UInt64) : PeerMove P descriptor d (.routed (.message msg) host clock)
      (settle (d.handleMessage J P descriptor msg clock)) := by
  unfold handleMessage
  split
  · exact .of_keeps ⟨.refl d, by simp [Unprobed]⟩
  split
  · rename_i hki
    split
    · exact .of_keeps ⟨.refl d, by simp [Unprobed]⟩
    · rename_i peer _
      rcases selectPathIfReady_spec { d with peer := some peer } with ⟨hk, hu⟩ | ⟨l, peer', hs, hpe, hselect⟩
      · exact .replaced hil hki (settle_keeps hk).selected (settle_unprobed hu)
      · rw [hselect]
        exact .probes hs hpe rfl
  · split
    · exact .of_keeps ⟨.refl d, by simp [Unprobed]⟩
    · exact .of_keeps ⟨.refl d, by simp [Unprobed]⟩
  · split
    · exact .of_keeps ⟨(yield_rests (by simp)).toKeeps, by simp [Unprobed]⟩
    · exact .of_keeps ⟨.refl d, by simp [Unprobed]⟩

theorem handle_peerMove (hi : d.handling = none) (ev : RoutedSignalSessionEvent) (host : LocalHost)
    (clock : UInt64) : PeerMove P descriptor d (.routed ev host clock)
      (settle (d.handle J P descriptor ev host clock)) := by
  unfold handle
  split
  · exact .of_keeps ⟨.refl d, by simp [Unprobed]⟩
  have hg {d' : Driver} (h : Keeps d d') : Keeps d (d'.gathers P descriptor host).2 ∧
      Unprobed (d'.gathers P descriptor host).1 :=
    ⟨h.trans (gathers_keeps host).1, (gathers_keeps host).2⟩
  split
  · exact .of_keeps (handleCandidateToken_keeps _ clock)
  · exact handleMessage_peerMove hi _ host clock
  · split
    · exact .of_keeps (hg ⟨rfl, rfl, rfl, id, fun _ => rfl⟩)
    · split
      · exact .of_reset ((yield_rests (by simp)).selected) (by simp [Unprobed])
      · exact .of_keeps ⟨.refl d, by simp [Unprobed]⟩
  · exact .of_reset ((yield_rests (by simp)).selected) (by simp [Unprobed])
  · exact .of_keeps (hg ⟨rfl, rfl, rfl, id, fun _ => rfl⟩)

theorem unprobed_map (res : Except DriverError Unit) : Unprobed (res.map fun _ => none) := by
  intro ep localCandidate peer h
  cases res <;> cases h

theorem resumeHandler_peerMove {await : Await} (hh : d.handling = some await)
    (res : Except DriverError Bytes) : PeerMove P descriptor d (.handlerAwaited res)
      (settle (d.resumeHandler P descriptor res await)) := by
  cases await with
  | sendingCandidate =>
    cases res with
    | error => exact .of_keeps ⟨.refl d, by simp [Unprobed, resumeHandler]⟩
    | ok =>
      rcases selectPathIfReady_spec d with hk | ⟨localCandidate, peer, hselected, hpe, hselect⟩
      · exact .of_keeps hk
      · show PeerMove P descriptor d _ (settle d.selectPathIfReady)
        rw [hselect]
        exact .probes hselected hpe rfl
  | fetchingKey =>
    cases res with
    | error => exact .of_keeps ⟨.refl d, by simp [Unprobed, resumeHandler]⟩
    | ok => exact .of_keeps ⟨(yield_rests (by simp)).toKeeps, by simp [Unprobed, resumeHandler]⟩
  | requestingToken ep localCandidate =>
    exact .of_keeps ⟨(tokenRequested_rests ep localCandidate _).toKeeps, unprobed_map _⟩
  | probing ep localCandidate peer =>
    rcases probed_spec (d := d) P descriptor ep localCandidate peer (res.map fun _ => ()) with
      hk | ⟨rfl, ha, pairID, hpi, hpe, hep, hselection⟩
    · exact .of_keeps ⟨hk, unprobed_map _⟩
    · cases res with
      | error => cases ha
      | ok bs =>
        have hs : Keeps (d.resumeHandler P descriptor (.ok bs) (.probing d.connectionEpoch localCandidate peer)).2
            (settle (d.resumeHandler P descriptor (.ok bs)
              (.probing d.connectionEpoch localCandidate peer))) :=
          settle_keeps (.refl _)
        exact .selects hh hpi (hs.peer.trans hpe) (hs.epoch.trans hep)
          (fun hop => (hs.selection _).trans (hselection (hs.finished hop)))
          (settle_unprobed (unprobed_map _))

theorem Rests.peerMove (h : Rests d d') : PeerMove P descriptor d input d' :=
  .keeps h.toKeeps fun _ _ _ hp => h.handling.symm.trans hp

theorem start_spec (P : Primitives) (descriptor startDescriptor : SessionDescriptor) (connectionEpoch : UInt64)
    (host : LocalHost) :
    let d' := (d.start P descriptor startDescriptor connectionEpoch host).2
    Rests d d' ∨ (d'.selected = false ∧ d.connectionEpoch < d'.connectionEpoch ∧ d'.handling = d.handling) := by
  unfold start
  split
  · exact .inl (.refl d)
  split
  · exact .inl (.refl d)
  rename_i hn
  split
  · exact .inl (.refl d)
  rename_i hless
  have hep : d.connectionEpoch < connectionEpoch := UInt64.lt_of_le_of_ne (UInt64.not_lt.mp hless) hn
  dsimp only
  split
  · have hr : Rests { d.resetAttempt with started := true, connectionEpoch, listening := true }
        (beginCandidateGatheringIfNeeded P descriptor
          { d.resetAttempt with started := true, connectionEpoch, listening := true } connectionEpoch host).2 :=
      beginCandidateGatheringIfNeeded_rests connectionEpoch host
    exact .inr ⟨hr.selected, by rw [hr.epoch]; exact hep, hr.handling⟩
  · exact .inr ⟨rfl, hep, rfl⟩

theorem secureSessionDidBecomeReady_rests (plane : Driver.PlaneOutcome) :
    Rests d (d.secureSessionDidBecomeReady plane).2 := by
  unfold secureSessionDidBecomeReady
  split
  · split
    · split
      · exact .refl d
      split
      · exact .refl d
      split
      · exact .refl d
      split <;> exact ⟨⟨rfl, rfl, rfl, id, fun _ => rfl⟩, rfl⟩
    · exact .refl d
  · exact .refl d

theorem sendSecurePacket_rests (pkt : Bytes) (realtime sent : Bool) :
    Rests d (d.sendSecurePacket pkt realtime sent).2 := by
  unfold sendSecurePacket
  split
  · exact .refl d
  split
  · exact .refl d
  split
  · split
    · exact ⟨⟨rfl, rfl, rfl, id, fun _ => rfl⟩, rfl⟩
    · exact .refl d
  split <;> exact .refl d

theorem handleQuic_rests (ev : NativeQuicDataPlaneEvent) (sent : Bool) : Rests d (d.handleQuic ev sent) := by
  unfold handleQuic
  have hcd : Rests d { d with quicConnected := false } := ⟨⟨rfl, rfl, rfl, id, fun _ => rfl⟩, rfl⟩
  split
  · exact .refl d
  split
  · split
    · exact .refl d
    split
    · exact ⟨⟨rfl, rfl, rfl, by simp, fun _ => rfl⟩, rfl⟩
    · exact ⟨⟨rfl, rfl, rfl, id, fun _ => rfl⟩, rfl⟩
  · exact yield_rests (by simp)
  · exact hcd.trans (yield_rests (by simp))
  · exact hcd.trans (yield_rests (by simp))

theorem driverStep_peerMove (d : Driver) (input : DriverInput) :
    PeerMove P descriptor d input (driverStep J P descriptor d input).2 := by
  cases input with
  | start startDescriptor connectionEpoch host =>
    have hsp := start_spec (d := d) P descriptor startDescriptor connectionEpoch host
    simp only [driverStep]
    generalize d.start P descriptor startDescriptor connectionEpoch host = after at hsp ⊢
    obtain ⟨out, d'⟩ := after
    -- a start that goes on to wait is only added to the list
    have hmo (starting : List (UInt64 × LocalControllerCandidate)) :
        PeerMove P descriptor d (.start startDescriptor connectionEpoch host) { d' with starting } := by
      have ha : Rests d' { d' with starting } := ⟨⟨rfl, rfl, rfl, id, fun _ => rfl⟩, rfl⟩
      rcases hsp with hre | ⟨hs, hep, hh⟩
      · exact (hre.trans ha).peerMove
      · exact .restarted hs hep hh
    split
    · rename_i heq
      cases heq
      exact hmo d'.starting
    · rename_i heq
      cases heq
      exact hmo d'.starting
    · rename_i heq
      cases heq
      exact hmo _
  | startAwaited ix res =>
    simp only [driverStep]
    split
    · exact (Rests.refl d).peerMove
    · rename_i ep localCandidate _
      have hst : Rests d { d with starting := d.starting.eraseIdx ix } :=
        ⟨⟨rfl, rfl, rfl, id, fun _ => rfl⟩, rfl⟩
      exact (hst.trans (tokenRequested_rests ep localCandidate res)).peerMove
  | routed ev host clock =>
    simp only [driverStep]
    split_ifs with hr
    · rw [Bool.and_eq_true, Option.isNone_iff_eq_none] at hr
      exact handle_peerMove hr.2 ev host clock
    · exact (Rests.refl d).peerMove
  | handlerAwaited res =>
    simp only [driverStep]
    split
    · exact (Rests.refl d).peerMove
    · exact resumeHandler_peerMove (by assumption) res
  | secureSessionDidBecomeReady plane => exact (secureSessionDidBecomeReady_rests plane).peerMove
  | sendSecurePacket pkt realtime sent => exact (sendSecurePacket_rests pkt realtime sent).peerMove
  | quic ev sent => exact (handleQuic_rests ev sent).peerMove
  | close =>
    simp only [driverStep, close]
    split
    · exact (Rests.refl d).peerMove
    · exact Rests.peerMove ⟨⟨rfl, rfl, rfl, id, fun _ => rfl⟩, rfl⟩
  | closeAwaited =>
    simp only [driverStep]
    split
    · exact Rests.peerMove ⟨⟨rfl, rfl, rfl, by simp, fun _ => rfl⟩, rfl⟩
    · exact (Rests.refl d).peerMove

end Moves

/-! ### Whole runs -/

def DriverInput.isCandidate : DriverInput → Bool
  | .routed (.message message) _ _ => message.kind = .connectionCandidate
  | _ => false

/-- No candidate of the controlled device is handled while a path is selected. -/
def NoLateCandidate (e : DriverEntry) : Prop :=
  e.call.isCandidate = true → e.pre.handling = none → e.pre.selected = false

instance (e : DriverEntry) : Decidable (NoLateCandidate e) := inferInstanceAs (Decidable (_ → _ → _))

section Run

variable (P : Primitives) (descriptor : SessionDescriptor)

/-- The peer answered a probe of the connection epoch, and the path to it is the one announced last. -/
def ProbedPeer (log : List DriverEntry) (d : Driver) (peer : ControlledSignalCandidate) : Prop :=
  ∃ localCandidate pairID, (∃ e ∈ log, Answers d.connectionEpoch localCandidate peer e) ∧
    pairIDOf P descriptor localCandidate peer = .ok pairID ∧
    (d.finished = false → lastSelection d.connectionEpoch d.yielded = some (selectionOf peer pairID))

structure PeerInv (log : List DriverEntry) (d : Driver) : Prop where
  probing : ∀ epoch localCandidate peer, d.handling = some (.probing epoch localCandidate peer) →
    epoch ≤ d.connectionEpoch ∧ (epoch = d.connectionEpoch → d.peer = some peer)
  selected : d.selected = true → ∃ peer, d.peer = some peer ∧ ProbedPeer P descriptor log d peer

variable {P descriptor} {log : List DriverEntry}

theorem ProbedPeer.kept {peer : ControlledSignalCandidate} {e : DriverEntry}
    (h : ProbedPeer P descriptor log d peer) (hk : Keeps d d') : ProbedPeer P descriptor (log ++ [e]) d' peer := by
  obtain ⟨localCandidate, pairID, ⟨e', he', ha⟩, hp, hs⟩ := h
  refine ⟨localCandidate, pairID, ⟨e', List.mem_append_left _ he', ?_⟩, hp, fun ho => ?_⟩
  · rw [hk.epoch]
    exact ha
  · rw [hk.epoch, hk.selection]
    exact hs (hk.finished ho)

theorem PeerInv.idle (hs : d.selected = false)
    (hd : ∀ ep localCandidate peer, d.handling ≠ some (.probing ep localCandidate peer)) :
    PeerInv P descriptor log d := by
  refine ⟨fun ep localCandidate peer h => absurd h (hd ep localCandidate peer), fun h => ?_⟩
  rw [hs] at h
  cases h

theorem PeerMove.peerInv {input : DriverInput} {out : Option (Except DriverError Unit)}
    (hmo : PeerMove P descriptor d input d') (hI : PeerInv P descriptor log d)
    (hl : NoLateCandidate ⟨d, input, out, d'⟩) : PeerInv P descriptor (log ++ [⟨d, input, out, d'⟩]) d' := by
  cases hmo with
  | keeps hk hp =>
    refine ⟨fun ep localCandidate peer h => ?_, fun h => ?_⟩
    · rw [hk.epoch, hk.peer]
      exact hI.probing ep localCandidate peer (hp ep localCandidate peer h)
    · rw [hk.selected] at h
      obtain ⟨peer, hpe, hpr⟩ := hI.selected h
      exact ⟨peer, hk.peer.trans hpe, hpr.kept hk⟩
  | reset hs hdn => exact .idle hs hdn
  | restarted hs hep hh =>
    -- a probe that is still out belongs to an older epoch
    refine ⟨fun ep localCandidate peer h => ?_, fun h => ?_⟩
    · rw [hh] at h
      have hlt := UInt64.lt_of_le_of_lt (hI.probing ep localCandidate peer h).1 hep
      exact ⟨UInt64.le_of_lt hlt, fun heq => absurd heq (UInt64.ne_of_lt hlt)⟩
    · rw [hs] at h
      cases h
  | probes hs hpe hh =>
    refine ⟨fun ep localCandidate peer h => ?_, fun h => ?_⟩
    · rw [hh] at h
      cases h
      exact ⟨UInt64.le_refl _, fun _ => hpe⟩
    · rw [hs] at h
      cases h
  | replaced hil hki hs hdn =>
    exact .idle (hs.trans (hl (decide_eq_true hki) hil)) hdn
  | @selects bs localCandidate peer pairID _ hh hpi hpe hep hselection hdn =>
    refine ⟨fun ep localCandidate peer h => absurd h (hdn ep localCandidate peer), fun _ => ?_⟩
    have hpr := (hI.probing _ localCandidate peer hh).2 rfl
    refine ⟨peer, hpe.trans hpr, localCandidate, pairID, ⟨_, List.mem_append_right _ List.mem_cons_self, ?_⟩, hpi,
      fun hop => ?_⟩
    · rw [hep]
      exact ⟨hh, bs, rfl⟩
    · rw [hep]
      exact hselection hop

theorem peerInv_run (J : EnvelopeJson) (inputs : List DriverInput)
    (hl : ∀ e ∈ trace (driverStep J P descriptor) .init inputs, NoLateCandidate e) :
    PeerInv P descriptor (trace (driverStep J P descriptor) .init inputs)
      (final (driverStep J P descriptor) .init inputs) :=
  history_inv_of (driverStep J P descriptor) (P := fun log => ∀ e ∈ log, NoLateCandidate e)
    (fun log e h e' he' => h e' (List.mem_append_left _ he'))
    (fun log d input h hI => (driverStep_peerMove d input).peerInv hI
      (h _ (List.mem_append_right _ List.mem_cons_self)))
    inputs (.idle rfl (by simp [init])) hl

theorem secureSessionDidBecomeReady_connects {plane : Driver.PlaneOutcome} {conn : Connection}
    (h : (d.secureSessionDidBecomeReady plane).2.connections = d.connections ++ [conn]) :
    d.selected = true ∧ ∃ peer, d.peer = some peer ∧
      conn = ⟨peer.transportCertificateDER, peer.candidate.endpoint, peer.serverName⟩ := by
  unfold secureSessionDidBecomeReady at h
  split at h
  · rename_i hr
    simp only [Bool.and_eq_true] at hr
    split at h
    · rename_i peer _ hp
      split at h
      · simp at h
      split at h
      · simp at h
      split at h
      · simp at h
      refine ⟨hr.1.2, peer, hp, ?_⟩
      split at h <;> cases List.append_cancel_left h <;> rfl
    · simp at h
  · simp at h

/-- What a connection goes to answered the probe, and the pair announced last is its pair. -/
def ConnectsTo (P : Primitives) (descriptor : SessionDescriptor) (log : List DriverEntry) (d : Driver)
    (connection : Connection) : Prop :=
  ∃ localCandidate peer pairID,
    connection = ⟨peer.transportCertificateDER, peer.candidate.endpoint, peer.serverName⟩ ∧
    (∃ e ∈ log, Answers d.connectionEpoch localCandidate peer e) ∧
    pairIDOf P descriptor localCandidate peer = .ok pairID ∧
    lastSelection d.connectionEpoch d.yielded = some (selectionOf peer pairID)

/-- If no candidate comes while a path is selected and the stream of events is not finished, the
QUIC plane is connected to the candidate that was probed and announced. -/
theorem connects_to_probed_peer (J : EnvelopeJson) (P : Primitives) (descriptor : SessionDescriptor)
    (inputs : List DriverInput) (plane : Driver.PlaneOutcome) (connection : Connection)
    (hlate : ∀ e ∈ trace (driverStep J P descriptor) .init inputs, NoLateCandidate e)
    (hopen : (final (driverStep J P descriptor) .init inputs).finished = false)
    (hconnects : ((final (driverStep J P descriptor) .init inputs).secureSessionDidBecomeReady plane).2.connections =
      (final (driverStep J P descriptor) .init inputs).connections ++ [connection]) :
    ConnectsTo P descriptor (trace (driverStep J P descriptor) .init inputs)
      (final (driverStep J P descriptor) .init inputs) connection := by
  obtain ⟨hs, peer, hpe, hc⟩ := secureSessionDidBecomeReady_connects hconnects
  obtain ⟨peer', hpeer', localCandidate, pairID, ha, hpi, hselection⟩ :=
    (peerInv_run J inputs hlate).selected hs
  cases hpe.symm.trans hpeer'
  exact ⟨localCandidate, peer, pairID, hc, ha, hpi, hselection hopen⟩

end Run

/-! ### Two candidates -/

namespace Sample

def primitives : Primitives where
  sha256 bytes := .ofNat 32 (bytes.foldl (fun n b => (n * 31 + b.toNat + 1) % 2 ^ 256) 7)
  hmacSha256 _ _ := none
  hkdfExpand _ _ _ _ := none
  aeadEncrypt _ _ _ _ := none
  aeadDecrypt _ _ _ _ := none
  ed25519Key _ := false
  ed25519Verify _ _ _ := false
  x25519Public key := key
  x25519 _ key := key

def descriptor : SessionDescriptor :=
  { sessionID := 1, accountID := "account", controllerDeviceID := "controller", controlledDeviceID := "controlled"
    controlledDeviceName := "desktop", permissions := ⟨true, true, false, false, false, false, false, false, false⟩,
      permissionsDigest := []
    expiresAtEpochMillis := 100000 }

def host : LocalHost := ⟨"controller", some "192.168.1.10:50000", true⟩

def candidate (deviceID : String) (role : SessionRole) (endpoint : String) : SignalConnectionCandidate :=
  let unsigned : SignalConnectionCandidate :=
    { candidateID := "", sessionID := 1, deviceID, role, kind := .lanDirect, endpoint, source := .localInterface
      observeResultID := none, priority := 0, rttMillis := none, lossPPM := none, jitterMillis := none
      relayNodeID := none }
  { unsigned with candidateID := ((unsigned.computedCandidateID primitives).toOption).getD "" }

def localCandidate : SignalConnectionCandidate := candidate "controller" .controller "192.168.1.10:50000"

def bindingHash (c : SignalConnectionCandidate) : Bytes :=
  ((SignalCandidateAuthorization.bindingHash primitives c 30000).toOption).getD []

def peer (endpoint : String) : ControlledSignalCandidate :=
  let c := candidate "controlled" .controlled endpoint
  ⟨c, ⟨[1], bindingHash c, 30000⟩, utf8 "certificate", "rctl-desktop.invalid"⟩

def first : ControlledSignalCandidate := peer "192.168.1.20:50000"

def second : ControlledSignalCandidate := peer "192.168.1.30:50000"

/-- JSON in which the empty text reads as the first candidate and any other as the second. -/
def json : EnvelopeJson where
  controlledWire data :=
    let p := if data = [] then first else second
    some ⟨p.candidate, p.authorization, "certificate", p.serverName⟩
  base64URL s := some (utf8 s)

def message (payload : Bytes) : DriverInput :=
  .routed (.message ⟨.connectionCandidate, 1, .controlled, "controlled", payload⟩) host 1000

def selection : List DriverInput :=
  [.start descriptor 1 host,
   .routed (.state "accepted" none) host 1000,
   .handlerAwaited (.ok []),
   .routed (.candidateToken ⟨1, "controller", .controller, localCandidate.candidateID, [1],
     bindingHash localCandidate, 30000⟩) host 1000,
   .handlerAwaited (.ok []),
   message [],
   .handlerAwaited (.ok [])]

def driver (inputs : List DriverInput) : Driver := final (driverStep json primitives descriptor) .init inputs

def log (inputs : List DriverInput) : List DriverEntry := trace (driverStep json primitives descriptor) .init inputs

def answering (e : DriverEntry) : Option ControlledSignalCandidate :=
  match e.pre.handling, e.call with
  | some (.probing _ _ peer), .handlerAwaited (.ok _) => some peer
  | _, _ => none

def connectionTo (peer : ControlledSignalCandidate) : Connection :=
  ⟨peer.transportCertificateDER, peer.candidate.endpoint, peer.serverName⟩

end Sample

theorem connects_to_probed_peer_first :
    (∀ e ∈ Sample.log Sample.selection, NoLateCandidate e) ∧ (Sample.driver Sample.selection).finished = false ∧
      ((Sample.driver Sample.selection).secureSessionDidBecomeReady ⟨true, true, true⟩).2.connections =
        (Sample.driver Sample.selection).connections ++ [Sample.connectionTo Sample.first] ∧
      ConnectsTo Sample.primitives Sample.descriptor (Sample.log Sample.selection) (Sample.driver Sample.selection)
        (Sample.connectionTo Sample.first) := by
  have hlate : ∀ e ∈ Sample.log Sample.selection, NoLateCandidate e := by decide +kernel
  have hopen : (Sample.driver Sample.selection).finished = false := by decide +kernel
  have hmade : ((Sample.driver Sample.selection).secureSessionDidBecomeReady ⟨true, true, true⟩).2.connections =
      (Sample.driver Sample.selection).connections ++ [Sample.connectionTo Sample.first] := by decide +kernel
  unfold Sample.log at hlate ⊢
  unfold Sample.driver at hopen hmade ⊢
  exact ⟨hlate, hopen, hmade, connects_to_probed_peer Sample.json Sample.primitives Sample.descriptor
    Sample.selection ⟨true, true, true⟩ _ hlate hopen hmade⟩

/-- The selection of the first candidate, and then a message with the second one. -/
def Sample.overwritten : List DriverInput := Sample.selection ++ [Sample.message [1]]

/-- The second candidate is connected to, but the first one was probed and announced. -/
theorem connects_to_unprobed_peer :
    ((Sample.driver Sample.overwritten).secureSessionDidBecomeReady ⟨true, true, true⟩).2.connections =
        [Sample.connectionTo Sample.second] ∧
      (Sample.log Sample.overwritten).filterMap Sample.answering = [Sample.first] ∧
      (lastSelection 1 (Sample.driver Sample.overwritten).yielded).map (·.candidatePairID) =
        (pairIDOf Sample.primitives Sample.descriptor ⟨Sample.localCandidate, true⟩ Sample.first).toOption ∧
      (pairIDOf Sample.primitives Sample.descriptor ⟨Sample.localCandidate, true⟩ Sample.first).toOption ≠
        (pairIDOf Sample.primitives Sample.descriptor ⟨Sample.localCandidate, true⟩ Sample.second).toOption ∧
      Sample.first.candidate.endpoint ≠ Sample.second.candidate.endpoint := by
  decide +kernel

end Rctl.Ios
