/-
# Relayed connections are isolated in pairs

`relay-server/src/lib.rs`, `handle_relay_stream` from the registration on: a connection
registers its role in the table of peers, forwards the frames it reads to the other role of
its session and writes out the frames that others have queued to it, and removes itself in
the end. Any number of connections do so side by side, and each of them may end anywhere in
between: while it reads, while it waits for the table or for room in a queue.

A connection that waits for the table or for a queue is resumed by `advance`. The lookup of
`forward` and its send are two steps; the peer found by the first may be gone at the second.

The table and the connections say the same (`SlotsMatch`): a slot holds a connection exactly
if that connection is registered for it. From there a slot has one connection, a removal
leaves the other connections alone, and without connections the table is empty. What a
connection reads, it queues in order (`Sent`), and what is queued to a connection, it writes
in order.
-/
import Rctl.Lib.Records
import Rctl.Lib.Run
import Rctl.Relay.Peers

namespace Rctl.Relay

open ByteString Result OrdMap StateRun

def FRAME_QUEUE_CAPACITY : ℕ := 32

/-! ### Connections -/

/-- Where a connection is: it waits to register, reads frames, waits to look up its peer for a
frame, waits to send the frame to the peer it found, waits to remove itself, or is gone. -/
inductive Phase
  | registering
  | reading
  | looking (frame : Bytes)
  | sending (frame : Bytes) (receiver : ℕ)
  | removing
  | closed
  deriving DecidableEq, Repr

variable {phase : Phase}

namespace Phase

def registered : Phase → Bool
  | registering | closed => false
  | _ => true

def running : Phase → Bool
  | reading | looking _ | sending _ _ => true
  | _ => false

theorem registered_of_running (h : phase.running = true) : phase.registered = true := by
  cases phase with
  | registering | closed => cases h
  | _ => rfl

end Phase

structure Connection where
  connectionId : UInt64
  key : SessionKey
  role : SessionRole
  phase : Phase
  /-- The frames in its channel. What is left there when it closes is lost. -/
  queue : List Bytes
  deriving DecidableEq, Repr

/-- The connections in the order in which they were made; each is named by its place. -/
structure RelayPeers where
  nextConnectionId : UInt64
  sessions : PeerTable
  connections : List Connection

namespace RelayPeers

def start : RelayPeers := ⟨1, ∅, []⟩

def update (peers : RelayPeers) (i : ℕ) (f : Connection → Connection) : RelayPeers :=
  { peers with connections := peers.connections.modify i f }

def setPhase (peers : RelayPeers) (i : ℕ) (phase : Phase) : RelayPeers :=
  peers.update i fun c => { c with phase }

def setQueue (peers : RelayPeers) (i : ℕ) (queue : List Bytes) : RelayPeers :=
  peers.update i fun c => { c with queue }

def connect (peers : RelayPeers) (key : SessionKey) (role : SessionRole) : RelayPeers :=
  { peers with
    nextConnectionId := peers.nextConnectionId + 1
    connections := peers.connections ++ [⟨peers.nextConnectionId, key, role, .registering, []⟩] }

end RelayPeers

inductive PeerAction
  | connect (key : SessionKey) (role : SessionRole)
  | advance (i : ℕ)
  | read (i : ℕ) (frame : Bytes)
  | write (i : ℕ)
  | finish (i : ℕ)
  deriving DecidableEq

/-- What a step has done, and by which connection. -/
inductive PeerReply
  | idle
  | connected (i : ℕ)
  | registered (i : ℕ)
  | read (i : ℕ) (frame : Bytes)
  | found (i : ℕ) (frame : Bytes) (receiver : ℕ)
  | queued (i : ℕ) (frame : Bytes) (receiver : ℕ)
  | written (i : ℕ) (frame : Bytes)
  | failed (i : ℕ) (error : String)
  | ended (i : ℕ)
  | removed (i : ℕ)
  deriving DecidableEq, Repr

/-- The connection goes on where it waits. -/
def advanceConnection (peers : RelayPeers) (i : ℕ) (c : Connection) : PeerReply × RelayPeers :=
  match c.phase with
  | .registering =>
    match register peers.sessions c.key c.role ⟨c.connectionId, i⟩ with
    | (.ok _, sessions) => (.registered i, RelayPeers.setPhase { peers with sessions } i .reading)
    | (.error e, sessions) => (.failed i e, RelayPeers.setPhase { peers with sessions } i .closed)
  | .looking frame =>
    match findPeer peers.sessions c.key c.role with
    | .ok receiver => (.found i frame receiver, peers.setPhase i (.sending frame receiver))
    | .error e => (.failed i e, peers.setPhase i .removing)
  | .sending frame receiver =>
    match peers.connections[receiver]?.filter (·.phase != .closed) with
    | none => (.failed i "relay peer queue is closed", peers.setPhase i .removing)
    | some peer =>
      if peer.queue.length < FRAME_QUEUE_CAPACITY then
        (.queued i frame receiver, (peers.setQueue receiver (peer.queue ++ [frame])).setPhase i .reading)
      else (.idle, peers)
  | .removing =>
    (.removed i, RelayPeers.setPhase
      { peers with sessions := remove peers.sessions c.key c.role c.connectionId } i .closed)
  | _ => (.idle, peers)

/-- A connection may end while its loops run: at the end of what it reads, or by an error of
either side. -/
def peerStep (peers : RelayPeers) : PeerAction → PeerReply × RelayPeers
  | .connect key role => (.connected peers.connections.length, peers.connect key role)
  | .advance i => match peers.connections[i]? with
    | none => (.idle, peers)
    | some c => advanceConnection peers i c
  | .read i frame => match peers.connections[i]?.filter (·.phase == .reading) with
    | none => (.idle, peers)
    | some _ => (.read i frame, peers.setPhase i (.looking frame))
  | .write i => match peers.connections[i]?.filter (·.phase.running) with
    | none => (.idle, peers)
    | some c => match c.queue with
      | [] => (.idle, peers)
      | frame :: rest => (.written i frame, peers.setQueue i rest)
  | .finish i => match peers.connections[i]?.filter (·.phase.running) with
    | none => (.idle, peers)
    | some _ => (.ended i, peers.setPhase i .removing)

abbrev PeerEntry := Entry RelayPeers PeerAction PeerReply

/-! ### What one step can do -/

inductive PeerStep (peers : RelayPeers) : PeerReply → RelayPeers → Prop
  | idle : PeerStep peers .idle peers
  | connected (key : SessionKey) (role : SessionRole) :
    PeerStep peers (.connected peers.connections.length) (peers.connect key role)
  | registered (i : ℕ) (c : Connection) (hc : peers.connections[i]? = some c) (hphase : c.phase = .registering)
    (hok : (register peers.sessions c.key c.role ⟨c.connectionId, i⟩).1 = .ok ()) :
    PeerStep peers (.registered i) (RelayPeers.setPhase
      { peers with sessions := (register peers.sessions c.key c.role ⟨c.connectionId, i⟩).2 } i .reading)
  | refused (i : ℕ) (c : Connection) (e : String) (hc : peers.connections[i]? = some c)
    (hphase : c.phase = .registering) :
    PeerStep peers (.failed i e) (peers.setPhase i .closed)
  | read (i : ℕ) (c : Connection) (frame : Bytes) (hc : peers.connections[i]? = some c)
    (hphase : c.phase = .reading) : PeerStep peers (.read i frame) (peers.setPhase i (.looking frame))
  | found (i : ℕ) (c : Connection) (frame : Bytes) (receiver : ℕ) (hc : peers.connections[i]? = some c)
    (hphase : c.phase = .looking frame) (hfound : findPeer peers.sessions c.key c.role = .ok receiver) :
    PeerStep peers (.found i frame receiver) (peers.setPhase i (.sending frame receiver))
  | failed (i : ℕ) (c : Connection) (e : String) (hc : peers.connections[i]? = some c)
    (hrunning : c.phase.running = true) : PeerStep peers (.failed i e) (peers.setPhase i .removing)
  | queued (i : ℕ) (c : Connection) (frame : Bytes) (receiver : ℕ) (peer : Connection)
    (hc : peers.connections[i]? = some c) (hphase : c.phase = .sending frame receiver)
    (hpeer : peers.connections[receiver]? = some peer) (hopen : peer.phase ≠ .closed)
    (hroom : peer.queue.length < FRAME_QUEUE_CAPACITY) :
    PeerStep peers (.queued i frame receiver)
      ((peers.setQueue receiver (peer.queue ++ [frame])).setPhase i .reading)
  | written (i : ℕ) (c : Connection) (frame : Bytes) (rest : List Bytes) (hc : peers.connections[i]? = some c)
    (hqueue : c.queue = frame :: rest) : PeerStep peers (.written i frame) (peers.setQueue i rest)
  | ended (i : ℕ) (c : Connection) (hc : peers.connections[i]? = some c) (hrunning : c.phase.running = true) :
    PeerStep peers (.ended i) (peers.setPhase i .removing)
  | removed (i : ℕ) (c : Connection) (hc : peers.connections[i]? = some c) (hphase : c.phase = .removing) :
    PeerStep peers (.removed i) (RelayPeers.setPhase
      { peers with sessions := remove peers.sessions c.key c.role c.connectionId } i .closed)

variable {peers : RelayPeers} {i : ℕ} {c : Connection}

theorem advanceConnection_spec (hc : peers.connections[i]? = some c) :
    PeerStep peers (advanceConnection peers i c).1 (advanceConnection peers i c).2 := by
  unfold advanceConnection
  split
  · rename_i hph
    split
    · rename_i sessions hre
      obtain rfl : _ = sessions := congrArg Prod.snd hre
      exact .registered i c hc hph (congrArg Prod.fst hre)
    · rename_i e sessions hre
      obtain rfl : peers.sessions = sessions :=
        (register_of_error (congrArg Prod.fst hre)).symm.trans (congrArg Prod.snd hre)
      exact .refused i c e hc hph
  · rename_i frame hph
    split
    · rename_i receiver hf
      exact .found i c frame receiver hc hph hf
    · rename_i e _
      exact .failed i c e hc (by rw [hph]; rfl)
  · rename_i frame receiver hph
    split
    · exact .failed i c _ hc (by rw [hph]; rfl)
    · rename_i peer hfi
      obtain ⟨hp, ho⟩ := Option.filter_eq_some_iff.mp hfi
      split_ifs with hr
      · exact .queued i c frame receiver peer hc hph hp (bne_iff_ne.mp ho) hr
      · exact .idle
  · rename_i hph
    exact .removed i c hc hph
  · exact .idle

theorem peerStep_spec (peers : RelayPeers) (act : PeerAction) :
    PeerStep peers (peerStep peers act).1 (peerStep peers act).2 := by
  cases act with
  | connect key role => exact .connected key role
  | advance i =>
    unfold peerStep
    simp only
    split
    · exact .idle
    · rename_i c hc
      exact advanceConnection_spec hc
  | read i frame =>
    unfold peerStep
    simp only
    split
    · exact .idle
    · rename_i c hf
      obtain ⟨hc, hph⟩ := Option.filter_eq_some_iff.mp hf
      exact .read i c frame hc (beq_iff_eq.mp hph)
  | write i =>
    unfold peerStep
    simp only
    split
    · exact .idle
    · rename_i c hf
      obtain ⟨hc, _⟩ := Option.filter_eq_some_iff.mp hf
      split
      · exact .idle
      · rename_i frame rest hq
        exact .written i c frame rest hc hq
  | finish i =>
    unfold peerStep
    simp only
    split
    · exact .idle
    · rename_i c hf
      obtain ⟨hc, hr⟩ := Option.filter_eq_some_iff.mp hf
      exact .ended i c hc hr

/-! ### What is seen of a connection -/

def seenRegistration (c : Option Connection) : Option (SessionKey × SessionRole × UInt64) :=
  c.bind fun c => if c.phase.registered then some (c.key, c.role, c.connectionId) else none

/-- A connection that is still to come counts as one that waits to register. -/
def seenPhase (c : Option Connection) : Phase := (c.map (·.phase)).getD .registering

def seenQueue (c : Option Connection) : List Bytes := (c.map (·.queue)).getD []

namespace RelayPeers

def registration (peers : RelayPeers) (i : ℕ) : Option (SessionKey × SessionRole × UInt64) :=
  seenRegistration peers.connections[i]?

def phaseOf (peers : RelayPeers) (i : ℕ) : Phase := seenPhase peers.connections[i]?

def queueOf (peers : RelayPeers) (i : ℕ) : List Bytes := seenQueue peers.connections[i]?

end RelayPeers

open RelayPeers

section Seen

variable {i j : ℕ} {queue : List Bytes} {α : Type}

theorem get_update (f : Connection → Connection) :
    (peers.update i f).connections[j]? = if i = j then peers.connections[j]?.map f else peers.connections[j]? :=
  Records.get_modify peers.connections i j f

/-- What `g` sees of a connection after an update of one of them. -/
theorem seen_update (g : Option Connection → α) (f : Connection → Connection) (hc : peers.connections[i]? = some c) :
    g (peers.update i f).connections[j]? = if i = j then g (some (f c)) else g peers.connections[j]? :=
  Records.seen_modify g f hc

/-- An update that `g` does not see. -/
theorem seen_update_same (g : Option Connection → α) {f : Connection → Connection}
    (hf : ∀ c, g (some (f c)) = g (some c)) : g (peers.update i f).connections[j]? = g peers.connections[j]? :=
  Records.seen_modify_same g hf

theorem registration_connect (key : SessionKey) (role : SessionRole) :
    (peers.connect key role).registration j = peers.registration j :=
  Records.seen_append seenRegistration peers.connections rfl

theorem phaseOf_connect (key : SessionKey) (role : SessionRole) :
    (peers.connect key role).phaseOf j = peers.phaseOf j :=
  Records.seen_append seenPhase peers.connections rfl

theorem queueOf_connect (key : SessionKey) (role : SessionRole) :
    (peers.connect key role).queueOf j = peers.queueOf j :=
  Records.seen_append seenQueue peers.connections rfl

theorem registration_setQueue : (peers.setQueue i queue).registration j = peers.registration j :=
  seen_update_same seenRegistration fun _ => rfl

theorem phaseOf_setQueue : (peers.setQueue i queue).phaseOf j = peers.phaseOf j :=
  seen_update_same seenPhase fun _ => rfl

theorem queueOf_setPhase : (peers.setPhase i phase).queueOf j = peers.queueOf j :=
  seen_update_same seenQueue fun _ => rfl

variable (hc : peers.connections[i]? = some c)
include hc

theorem phaseOf_eq : peers.phaseOf i = c.phase := by
  rw [phaseOf, hc]
  rfl

theorem queueOf_eq : peers.queueOf i = c.queue := by
  rw [queueOf, hc]
  rfl

theorem get_setQueue (j : ℕ) (queue : List Bytes) :
    ∃ queue', (peers.setQueue j queue).connections[i]? = some { c with queue := queue' } := by
  rw [setQueue, get_update, hc]
  split
  exacts [⟨queue, rfl⟩, ⟨c.queue, rfl⟩]

theorem registration_setPhase :
    (peers.setPhase i phase).registration j = if i = j then
      (if phase.registered then some (c.key, c.role, c.connectionId) else none) else peers.registration j :=
  seen_update seenRegistration _ hc

theorem registration_of_phase : peers.registration i =
    if c.phase.registered then some (c.key, c.role, c.connectionId) else none := by
  rw [registration, hc]
  rfl

theorem phaseOf_setPhase :
    (peers.setPhase i phase).phaseOf j = if i = j then phase else peers.phaseOf j :=
  seen_update seenPhase _ hc

theorem queueOf_setQueue :
    (peers.setQueue i queue).queueOf j = if i = j then queue else peers.queueOf j :=
  seen_update seenQueue _ hc

end Seen

/-! ### The table and the connections -/

/-- A slot holds a connection exactly if the connection is registered for it. -/
def SlotsMatch (peers : RelayPeers) : Prop :=
  ∀ key role peer, slot peers.sessions key role = some peer ↔
    peers.registration peer.sender = some (key, role, peer.connectionId)

variable {reply : PeerReply} {j : ℕ} {frame : Bytes}

section Table

variable {peers peers' : RelayPeers}

theorem SlotsMatch.of_same (h : SlotsMatch peers) (hs : peers'.sessions = peers.sessions)
    (hsm : ∀ i, peers'.registration i = peers.registration i) : SlotsMatch peers' := by
  intro key role peer
  rw [hs, hsm]
  exact h key role peer

theorem SlotsMatch.unique (h : SlotsMatch peers) {key : SessionKey} {role : SessionRole} {iId jId : UInt64}
    (hi : peers.registration i = some (key, role, iId)) (hj : peers.registration j = some (key, role, jId)) :
    i = j := by
  have hs := (h key role ⟨iId, i⟩).mpr hi
  rw [(h key role ⟨jId, j⟩).mpr hj] at hs
  exact (congrArg Peer.sender (Option.some.inj hs)).symm

/-- The steps of a connection other than its first and its last keep it registered. -/
theorem registration_keep (hc : peers.connections[i]? = some c) (hr : phase.registered = c.phase.registered)
    (j : ℕ) : (peers.setPhase i phase).registration j = peers.registration j := by
  rw [registration_setPhase hc]
  split
  · rename_i hij
    rw [← hij, registration_of_phase hc, hr]
  · rfl

/-- A connection registers or removes itself, and its slot changes with it. -/
theorem SlotsMatch.change (h : SlotsMatch peers) (now next : Bool)
    (ho : slot peers.sessions c.key c.role = if now then some ⟨c.connectionId, i⟩ else none)
    (hi : peers.registration i = if now then some (c.key, c.role, c.connectionId) else none)
    (hs : ∀ key role, slot peers'.sessions key role = if c.key = key ∧ c.role = role then
      (if next then some ⟨c.connectionId, i⟩ else none) else slot peers.sessions key role)
    (hr : ∀ j, peers'.registration j = if i = j then
      (if next then some (c.key, c.role, c.connectionId) else none) else peers.registration j) : SlotsMatch peers' := by
  rintro key role ⟨id, j⟩
  rw [hs, hr]
  by_cases hb : c.key = key ∧ c.role = role
  · obtain ⟨rfl, rfl⟩ := hb
    by_cases hj : i = j
    · cases next <;> simp [hj]
    · rw [if_neg hj, ← h c.key c.role ⟨id, j⟩, ho]
      cases next <;> cases now <;> simp [hj]
  · rw [if_neg hb, h key role ⟨id, j⟩]
    by_cases hj : i = j
    · rw [← hj, hi]
      cases next <;> cases now <;> simp [← and_assoc, hb]
    · rw [if_neg hj]

theorem PeerStep.slotsMatch (h : PeerStep peers reply peers') (hmt : SlotsMatch peers) : SlotsMatch peers' := by
  cases h with
  | idle => exact hmt
  | connected key role =>
    exact hmt.of_same rfl fun _ => registration_connect key role
  | registered i c hc hph hok =>
    refine hmt.change false true (register_fst.mp hok) ?_ (slot_register hok) fun _ =>
      registration_setPhase hc
    rw [registration_of_phase hc, hph]
    rfl
  | refused _ _ _ hc hph | read _ _ _ hc hph | found _ _ _ _ hc hph =>
    exact hmt.of_same rfl (registration_keep hc (by rw [hph]; rfl))
  | failed _ _ _ hc hrunning | ended _ _ hc hrunning =>
    exact hmt.of_same rfl (registration_keep hc (Phase.registered_of_running hrunning).symm)
  | queued _ _ frame receiver peer hc hph =>
    refine hmt.of_same rfl fun j => ?_
    obtain ⟨_, hc'⟩ := get_setQueue hc receiver (peer.queue ++ [frame])
    rw [registration_keep hc' (by rw [hph]; rfl), registration_setQueue]
  | written => exact hmt.of_same rfl fun _ => registration_setQueue
  | removed i c hc hph =>
    have hr : peers.registration i = some (c.key, c.role, c.connectionId) := by
      rw [registration_of_phase hc, hph]
      rfl
    -- the slot that is cleared is the connection's own
    have ho := (hmt c.key c.role ⟨c.connectionId, i⟩).mpr hr
    refine hmt.change true false ho hr (fun key role => ?_) fun _ =>
      registration_setPhase hc
    show slot (remove peers.sessions c.key c.role c.connectionId) key role = _
    simp [slot_remove, ho]

theorem PeerStep.populated (h : PeerStep peers reply peers') (hp : Populated peers.sessions) :
    Populated peers'.sessions := by
  cases h with
  | registered _ _ _ _ hok => exact populated_register hok hp
  | removed _ c => exact populated_remove c.connectionId hp
  | _ => exact hp

/-- **A removal leaves the registrations of the other connections alone.** -/
theorem PeerStep.removal (h : PeerStep peers (.removed i) peers') (hmt : SlotsMatch peers) :
    (∀ j, j ≠ i → peers'.registration j = peers.registration j) ∧
      ∀ key role peer, slot peers.sessions key role = some peer → peer.sender ≠ i →
        slot peers'.sessions key role = some peer := by
  have hmt' := h.slotsMatch hmt
  have ho : ∀ j, j ≠ i → peers'.registration j = peers.registration j := by
    intro j hj
    cases h with
    | removed _ _ hc => exact (registration_setPhase hc).trans (if_neg hj.symm)
  refine ⟨ho, fun key role peer hp hs => ?_⟩
  rw [hmt', ho _ hs, ← hmt]
  exact hp

/-- **A registration that fails changes nothing** but the connection itself. -/
theorem PeerStep.refusal {error : String} (h : PeerStep peers (.failed i error) peers')
    (hph : peers.phaseOf i = .registering) :
    peers'.sessions = peers.sessions ∧ ∀ j, j ≠ i → peers'.connections[j]? = peers.connections[j]? := by
  cases h with
  | refused => exact ⟨rfl, fun j hj => (get_update _).trans (if_neg hj.symm)⟩
  | failed _ _ _ hc hr =>
    rw [← phaseOf_eq hc, hph] at hr
    cases hr

/-- The two connections are registered for the two roles of one session and transport. -/
def RelayPeers.OnPair (peers : RelayPeers) (i j : ℕ) : Prop :=
  ∃ key role iId jId, peers.registration i = some (key, role, iId) ∧
    peers.registration j = some (key, role.opposite, jId)

/-- The peer that is found is the one that is registered for the other role. -/
theorem PeerStep.onPair (h : PeerStep peers (.found i frame j) peers')
    (hmt : SlotsMatch peers) : peers.OnPair i j := by
  cases h with
  | found _ c _ _ hc hph hf =>
    obtain ⟨peer, hp, rfl⟩ := findPeer_eq_ok hf
    refine ⟨c.key, c.role, c.connectionId, peer.connectionId, ?_, (hmt _ _ peer).mp hp⟩
    rw [registration_of_phase hc, hph]
    rfl

end Table

/-! ### Frames -/

namespace PeerReply

def readBy (i : ℕ) : PeerReply → Option Bytes
  | read j frame => if j = i then some frame else none
  | _ => none

def queuedBy (i : ℕ) : PeerReply → Option Bytes
  | queued j frame _ => if j = i then some frame else none
  | _ => none

def queuedTo (i : ℕ) : PeerReply → Option Bytes
  | queued _ frame receiver => if receiver = i then some frame else none
  | _ => none

def writtenBy (i : ℕ) : PeerReply → Option Bytes
  | written j frame => if j = i then some frame else none
  | _ => none

end PeerReply

def framesRead (log : List PeerEntry) (i : ℕ) : List Bytes := log.filterMap (·.out.readBy i)

def framesQueuedBy (log : List PeerEntry) (i : ℕ) : List Bytes := log.filterMap (·.out.queuedBy i)

def framesQueuedTo (log : List PeerEntry) (i : ℕ) : List Bytes := log.filterMap (·.out.queuedTo i)

def framesWritten (log : List PeerEntry) (i : ℕ) : List Bytes := log.filterMap (·.out.writtenBy i)

/-- What a connection has queued of what it has read: all of it, but for the frame it has in
hand, and for the one that it had in hand when it ended. -/
def Sent (read queued : List Bytes) : Phase → Prop
  | .registering | .reading => read = queued
  | .looking frame | .sending frame _ => read = queued ++ [frame]
  | .removing | .closed => queued <+: read

open PeerReply

section Frames

variable {peers peers' : RelayPeers} {read queued : List Bytes} {i receiver : ℕ}

theorem Sent.queued_isPrefix (h : Sent read queued phase) : queued <+: read := by
  cases phase with
  | registering | reading => exact h ▸ List.prefix_rfl
  | looking frame | sending frame => exact h ▸ List.prefix_append queued [frame]
  | removing | closed => exact h

/-- A step of connection `i`, seen from connection `j`: it reads `frame` and queues `frame'`. -/
theorem sent_setPhase {frame fr' : Option Bytes} (hc : peers.connections[i]? = some c)
    (hot : i ≠ j → frame = none ∧ fr' = none)
    (ho : i = j → Sent read queued c.phase → Sent (read ++ frame.toList) (queued ++ fr'.toList) phase)
    (h : Sent read queued (peers.phaseOf j)) :
    Sent (read ++ frame.toList) (queued ++ fr'.toList) ((peers.setPhase i phase).phaseOf j) := by
  rw [phaseOf_setPhase hc]
  split_ifs with hij
  · rw [← hij, phaseOf_eq hc] at h
    exact ho hij h
  · obtain ⟨rfl, rfl⟩ := hot hij
    simpa using h

theorem sent_silent (hc : peers.connections[i]? = some c) (ho : Sent read queued c.phase → Sent read queued phase)
    (h : Sent read queued (peers.phaseOf j)) :
    Sent (read ++ (none : Option Bytes).toList) (queued ++ (none : Option Bytes).toList)
      ((peers.setPhase i phase).phaseOf j) :=
  sent_setPhase hc (fun _ => ⟨rfl, rfl⟩) (fun _ => by simpa using ho) h

theorem PeerStep.sent (h : PeerStep peers reply peers') (hst : Sent read queued (peers.phaseOf j)) :
    Sent (read ++ (reply.readBy j).toList) (queued ++ (reply.queuedBy j).toList) (peers'.phaseOf j) := by
  have hqt : peers'.phaseOf j = peers.phaseOf j → Sent (read ++ []) (queued ++ []) (peers'.phaseOf j) := by
    intro hsm
    rwa [List.append_nil, List.append_nil, hsm]
  cases h with
  | idle => exact hqt rfl
  | connected key role => exact hqt (phaseOf_connect key role)
  | written => exact hqt phaseOf_setQueue
  | registered _ _ hc hph | found _ _ _ _ hc hph =>
    exact sent_silent hc (fun ho => by rw [hph] at ho; exact ho) hst
  | refused _ _ _ hc | failed _ _ _ hc | ended _ _ hc | removed _ _ hc =>
    exact sent_silent hc (fun ho => ho.queued_isPrefix) hst
  | read _ _ frame hc hph =>
    refine sent_setPhase hc (fun hij => ⟨if_neg hij, rfl⟩) (fun hij ho => ?_) hst
    rw [hph] at ho
    simp only [readBy, queuedBy, if_pos hij, Option.toList_none, List.append_nil]
    exact congrArg (· ++ [frame]) ho
  | queued _ _ frame receiver peer hc hph =>
    obtain ⟨_, hc'⟩ := get_setQueue hc receiver (peer.queue ++ [frame])
    refine sent_setPhase hc' (fun hij => ⟨rfl, if_neg hij⟩) (fun hij ho => ?_) (by rwa [phaseOf_setQueue])
    rw [hph] at ho
    simp only [readBy, queuedBy, if_pos hij, Option.toList_none, List.append_nil]
    exact ho

theorem PeerStep.queueOf_queued (h : PeerStep peers (.queued i frame receiver) peers') (j : ℕ) :
    peers'.queueOf j = if receiver = j then peers.queueOf j ++ [frame] else peers.queueOf j := by
  cases h with
  | queued _ c _ _ peer hc hph hp =>
    rw [queueOf_setPhase, queueOf_setQueue hp]
    split_ifs with hr
    · rw [← hr, queueOf_eq hp]
    · rfl

theorem PeerStep.sending_of_queued (h : PeerStep peers (.queued i frame receiver) peers') :
    peers.phaseOf i = .sending frame receiver := by
  cases h with
  | queued _ _ _ _ _ hc hph => exact (phaseOf_eq hc).trans hph

/-- What was queued to a connection is what it has written and what it still has to write. -/
theorem PeerStep.channel (h : PeerStep peers reply peers') {written : List Bytes}
    (hqu : queued = written ++ peers.queueOf j) :
    queued ++ (reply.queuedTo j).toList = written ++ (reply.writtenBy j).toList ++ peers'.queueOf j := by
  have hqt : peers'.queueOf j = peers.queueOf j → queued ++ [] = written ++ [] ++ peers'.queueOf j := by
    intro hsm
    rw [List.append_nil, List.append_nil, hsm, hqu]
  cases h with
  | idle => exact hqt rfl
  | connected key role => exact hqt (queueOf_connect key role)
  | queued i c frame receiver peer hc hph hpe hop hrm =>
    rw [PeerStep.queueOf_queued (.queued i c frame receiver peer hc hph hpe hop hrm)]
    simp only [queuedTo, writtenBy, Option.toList_none, List.append_nil]
    split
    · rw [hqu, Option.toList_some, List.append_assoc]
    · rw [hqu, Option.toList_none, List.append_nil]
  | written i c frame rest hc hq =>
    rw [queueOf_setQueue hc]
    simp only [queuedTo, writtenBy, Option.toList_none, List.append_nil]
    split_ifs with hij
    · rw [← hij, queueOf_eq hc, hq] at hqu
      rw [hqu, List.append_assoc]
      rfl
    · rw [hqu, Option.toList_none, List.append_nil]
  | _ => exact hqt queueOf_setPhase

theorem PeerStep.looked_up (h : PeerStep peers reply peers') (hs : peers'.phaseOf j = .sending frame receiver) :
    peers.phaseOf j = .sending frame receiver ∨ reply = .found j frame receiver := by
  have hkp : ∀ {i : ℕ} {c : Connection} {phase : Phase} {q : RelayPeers}, q.connections[i]? = some c →
      (q.setPhase i phase).phaseOf j = .sending frame receiver → phase ≠ .sending frame receiver →
      q.phaseOf j = .sending frame receiver := by
    intro i c phase q hc hs hph
    rw [phaseOf_setPhase hc] at hs
    split at hs
    · exact absurd hs hph
    · exact hs
  cases h with
  | idle => exact .inl hs
  | connected =>
    rw [phaseOf_connect] at hs
    exact .inl hs
  | registered _ _ hc | removed _ _ hc =>
    exact .inl (hkp hc hs nofun)
  | refused _ _ _ hc | read _ _ _ hc | failed _ _ _ hc | ended _ _ hc =>
    exact .inl (hkp hc hs nofun)
  | found i c frame' receiver' hc hph hf =>
    rw [phaseOf_setPhase hc] at hs
    split_ifs at hs with hij
    · cases hs
      exact .inr (by rw [hij])
    · exact .inl hs
  | queued _ _ frame' receiver' peer hc =>
    obtain ⟨_, hc'⟩ := get_setQueue hc receiver' (peer.queue ++ [frame'])
    have hd := hkp hc' hs nofun
    rw [phaseOf_setQueue] at hd
    exact .inl hd
  | written =>
    rw [phaseOf_setQueue] at hs
    exact .inl hs

end Frames

/-! ### Runs -/

/-- What holds of a run of connections. -/
structure PairingIsolated (log : List PeerEntry) : Prop where
  /-- A role of a session and transport has one connection, and the table says which. -/
  unique : ∀ e ∈ log, ∀ i j key role iId jId, e.post.registration i = some (key, role, iId) →
    e.post.registration j = some (key, role, jId) → i = j
  slots : ∀ e ∈ log, SlotsMatch e.post
  /-- A frame is queued to the connection that its sender has looked up for it, which was then
  registered for the other role; and it is queued as it is. -/
  queued : ∀ before e after, log = before ++ e :: after → ∀ i frame j, e.out = .queued i frame j →
    (∃ lookup ∈ before, lookup.out = .found i frame j ∧ lookup.pre.OnPair i j) ∧
      ∀ k, e.post.queueOf k = if j = k then e.pre.queueOf k ++ [frame] else e.pre.queueOf k
  order : ∀ i, framesQueuedBy log i <+: framesRead log i
  /-- What it has written is the beginning of what was queued to it. -/
  channel : ∀ i, framesWritten log i <+: framesQueuedTo log i
  removal : ∀ e ∈ log, ∀ i, e.out = .removed i →
    (∀ j, j ≠ i → e.post.registration j = e.pre.registration j) ∧
      ∀ key role peer, slot e.pre.sessions key role = some peer → peer.sender ≠ i →
        slot e.post.sessions key role = some peer
  refusal : ∀ e ∈ log, ∀ i error, e.out = .failed i error → e.pre.phaseOf i = .registering →
    e.post.sessions = e.pre.sessions ∧ ∀ j, j ≠ i → e.post.connections[j]? = e.pre.connections[j]?
  populated : ∀ e ∈ log, Populated e.post.sessions
  drained : ∀ e ∈ log, (∀ i, e.post.registration i = none) → e.post.sessions = ∅

structure PeersInv (log : List PeerEntry) (peers : RelayPeers) : Prop where
  slots : SlotsMatch peers
  populated : Populated peers.sessions
  sent : ∀ i, Sent (framesRead log i) (framesQueuedBy log i) (peers.phaseOf i)
  channel : ∀ i, framesQueuedTo log i = framesWritten log i ++ peers.queueOf i
  found : ∀ i frame j, peers.phaseOf i = .sending frame j →
    ∃ lookup ∈ log, lookup.out = .found i frame j ∧ lookup.pre.OnPair i j

section Runs

variable {log : List PeerEntry}

theorem peersInv_start : PeersInv [] .start := by
  refine ⟨fun key role peer => ?_, fun key peers hp => ?_, fun i => rfl, fun i => rfl, fun i frame j h => ?_⟩
  · constructor
    · intro h
      cases h
    · rintro ⟨⟩
  · cases hp
  · cases h

theorem peersInv_step (h : PeersInv log peers) (act : PeerAction) :
    PeersInv (log ++ [entry peerStep peers act]) (peerStep peers act).2 := by
  have hs := peerStep_spec peers act
  refine ⟨hs.slotsMatch h.slots, hs.populated h.populated, fun i => ?_, fun i => ?_, fun i frame j hsending => ?_⟩
  · rw [framesRead, framesQueuedBy, filterMap_snoc, filterMap_snoc]
    exact hs.sent (h.sent i)
  · rw [framesQueuedTo, framesWritten, filterMap_snoc, filterMap_snoc]
    exact hs.channel (h.channel i)
  · rcases hs.looked_up hsending with hd | hf
    · obtain ⟨lookup, hm, hl⟩ := h.found i frame j hd
      exact ⟨lookup, List.mem_append_left _ hm, hl⟩
    · refine ⟨_, List.mem_append_right _ (List.mem_singleton_self _), hf, ?_⟩
      rw [hf] at hs
      exact hs.onPair h.slots

theorem peersInv_run (acts : List PeerAction) :
    PeersInv (trace peerStep .start acts) (final peerStep .start acts) :=
  history_inv peerStep (I := PeersInv) (fun _ _ act h => peersInv_step h act) acts [] .start peersInv_start

/-- **Relayed connections are isolated in pairs**, for every interleaving of their steps. -/
theorem relay_pairing (actions : List PeerAction) : PairingIsolated (trace peerStep .start actions) := by
  have hes : ∀ e ∈ trace peerStep .start actions,
      PeerStep e.pre e.out e.post ∧ SlotsMatch e.pre ∧ SlotsMatch e.post ∧ Populated e.post.sessions := by
    intro e he
    obtain ⟨before, _, _, hen⟩ := mem_trace peerStep he
    have hp := peersInv_run before
    have hpo := peersInv_step hp e.call
    rw [hen]
    exact ⟨peerStep_spec _ _, hp.slots, hpo.slots, hpo.populated⟩
  have hr := peersInv_run actions
  refine ⟨fun e he i j key role iId jId => (hes e he).2.2.1.unique, fun e he => (hes e he).2.2.1,
    fun before e after hl i frame j ho => ?_, fun i => (hr.sent i).queued_isPrefix, fun i => ?_,
    fun e he i ho => ?_, fun e he i error ho => ?_, fun e he => (hes e he).2.2.2,
    fun e he hno => ?_⟩
  · obtain ⟨first, act, rest, _, rfl, rfl⟩ := trace_eq_append_cons peerStep hl
    have hst := peerStep_spec (final peerStep .start first) act
    rw [show (peerStep (final peerStep .start first) act).1 = .queued i frame j from ho] at hst
    refine ⟨(peersInv_run first).found i frame j ?_, hst.queueOf_queued⟩
    exact hst.sending_of_queued
  · rw [hr.channel i]
    exact List.prefix_append _ _
  · obtain ⟨hst, hmt, _⟩ := hes e he
    rw [ho] at hst
    exact hst.removal hmt
  · have hst := (hes e he).1
    rw [ho] at hst
    exact hst.refusal
  · obtain ⟨_, _, hmt, hpopulated⟩ := hes e he
    refine eq_empty_of_slots hpopulated fun key role => ?_
    cases hsl : slot e.post.sessions key role with
    | none => rfl
    | some =>
      rw [hmt, hno] at hsl
      cases hsl

end Runs

end Rctl.Relay
