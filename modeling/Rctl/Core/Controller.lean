/-
# The controller's session

`remote-core/src/controller/mod.rs`: a session drives a transport. It starts the transport with
a new connection epoch for each attempt, hears of what happens on it, sends input over it while
the connection streams, and closes it. What the user is told of is queued as events.

The transport is any type with the three operations, each of which may fail at any call. A
`Recorded` transport also keeps the calls it got.
-/
import Mathlib.Logic.Relation
import Rctl.Core.SecureSession

namespace Rctl.Controller

open ByteString

inductive ControllerSessionState
  | idle
  | connecting
  | streaming
  | reconnecting
  | closed
  deriving DecidableEq, Repr

inductive ControllerTransportError
  | unavailable (message : String)
  | closed
  deriving DecidableEq, Repr

inductive ControllerSessionError
  | invalidState
  | invalidInput
  | inputSessionMismatch
  | invalidAccessUnit
  | serialization
  | transport (e : ControllerTransportError)
  deriving DecidableEq, Repr

def MAX_H264_ACCESS_UNIT_BYTES : ℕ := 32 * 1024 * 1024

structure H264AccessUnit where
  data : Bytes
  presentationTimeMillis : Int
  isKeyframe : Bool
  frameId : UInt64
  deriving DecidableEq, Repr

def H264AccessUnit.validate (u : H264AccessUnit) : Except ControllerSessionError Unit :=
  if u.data.isEmpty || MAX_H264_ACCESS_UNIT_BYTES < u.data.length then .error .invalidAccessUnit
  else if !([0, 0, 1].isPrefixOf u.data) && !([0, 0, 0, 1].isPrefixOf u.data) then .error .invalidAccessUnit
  else .ok ()

inductive ControllerSessionEvent
  | stateChanged (state : ControllerSessionState)
  | h264 (accessUnit : H264AccessUnit)
  | recoverableTransportError (message : String)
  | fatalTransportError (message : String)
  deriving DecidableEq, Repr

inductive ControllerTransportEvent
  | connected
  | h264 (accessUnit : H264AccessUnit)
  | disconnected (recoverable : Bool) (reason : String)
  | closed
  deriving DecidableEq, Repr

inductive InputDelivery
  | realtime
  | reliable
  deriving DecidableEq, Repr

/-! ### Input events

`remote-protocol/src/input.rs`, the fields that are looked at before an event is sent. -/

inductive InputKind
  | mouseMove
  | mouseButton
  | mouseWheel
  | physicalKey
  | textCommit
  | imeComposition
  | shortcut
  | touchGesture
  | releaseAllKeys
  deriving DecidableEq, Repr

/-- A floating point number, as far as `validate` tells them apart. -/
inductive F64
  | finite (value : ℚ)
  | infinite
  | nan
  deriving DecidableEq, Repr

namespace F64

def isFinite : F64 → Bool
  | finite _ => true
  | infinite | nan => false

/-- `(0.0..=1.0).contains`. -/
def isNormalized : F64 → Bool
  | finite q => decide (0 ≤ q) && decide (q ≤ 1)
  | infinite | nan => false

end F64

structure InputEvent where
  sessionId : U128
  inputKind : InputKind
  xNorm : Option F64
  yNorm : Option F64
  wheelDeltaX : F64
  wheelDeltaY : F64
  text : Option String
  compositionText : Option String
  deriving DecidableEq

inductive InputValidationError
  | invalidNormalizedCoordinate
  | invalidWheelDelta
  | unexpectedText
  deriving DecidableEq, Repr

def InputEvent.validate (e : InputEvent) : Except InputValidationError Unit :=
  if (e.xNorm.toList ++ e.yNorm.toList).any fun c => !c.isFinite || !c.isNormalized then
    .error .invalidNormalizedCoordinate
  else if !e.wheelDeltaX.isFinite || !e.wheelDeltaY.isFinite then .error .invalidWheelDelta
  else if e.inputKind = .releaseAllKeys ∧ (e.text.isSome ∨ e.compositionText.isSome) then .error .unexpectedText
  else .ok ()

/-! ### The session -/

class ControllerTransport (T : Type) where
  start : T → UInt64 → Except ControllerTransportError Unit × T
  sendInput : T → Bytes → InputDelivery → Except ControllerTransportError Unit × T
  close : T → Except ControllerTransportError Unit × T

structure ControllerSession (T : Type) where
  sessionId : U128
  transport : T
  state : ControllerSessionState
  connectionEpoch : UInt64
  events : List ControllerSessionEvent
  closeStarted : Bool
  /-- What `state` was set to, in order. No function reads it. -/
  states : List ControllerSessionState

namespace ControllerSession

variable {T : Type}

def new (sessionId : U128) (transport : T) : ControllerSession T :=
  ⟨sessionId, transport, .idle, 0, [], false, []⟩

variable (s : ControllerSession T)

def push (event : ControllerSessionEvent) : ControllerSession T := { s with events := s.events ++ [event] }

def setState (state : ControllerSessionState) : ControllerSession T := { s with state, states := s.states ++ [state] }

def transitionTo (state : ControllerSessionState) : ControllerSession T :=
  if s.state = state then s else (s.setState state).push (.stateChanged state)

/-- `connection_epoch.saturating_add(1)`. -/
def nextEpoch : ControllerSession T :=
  { s with connectionEpoch := SecureSession.saturatingSucc s.connectionEpoch }

def pollEvent : Option ControllerSessionEvent × ControllerSession T :=
  (s.events.head?, { s with events := s.events.tail })

variable [ControllerTransport T] {connectionEpoch : UInt64}

def close : Except ControllerSessionError Unit × ControllerSession T :=
  if s.closeStarted then (.ok (), s)
  else
    let s := { s with closeStarted := true }.nextEpoch
    let closed := ControllerTransport.close s.transport
    (closed.1.mapError .transport, { s with transport := closed.2 }.transitionTo .closed)

def failTransport (error : ControllerTransportError) : ControllerSession T :=
  let message := match error with
    | .unavailable message => message
    | .closed => "transport closed"
  (s.push (.fatalTransportError message)).close.2

/-- A new attempt, in `connect` and in `restart_transport`. -/
def attempt (state : ControllerSessionState) : ControllerSession T := s.nextEpoch.transitionTo state

def startTransport : Except ControllerSessionError Unit × ControllerSession T :=
  let started := ControllerTransport.start s.transport s.connectionEpoch
  let s := { s with transport := started.2 }
  match started.1 with
  | .error e => (.error (.transport e), s.failTransport e)
  | .ok _ => (.ok (), s)

def connect : Except ControllerSessionError UInt64 × ControllerSession T :=
  if s.state ≠ .idle ∨ s.closeStarted then (.error .invalidState, s)
  else
    let started := (s.attempt .connecting).startTransport
    (started.1.map fun _ => started.2.connectionEpoch, started.2)

def restartTransport : Except ControllerSessionError Unit × ControllerSession T :=
  if s.state ≠ .connecting ∧ s.state ≠ .streaming ∧ s.state ≠ .reconnecting then (.error .invalidState, s)
  else (s.attempt .reconnecting).startTransport

def handleTransportEvent (connectionEpoch : UInt64) (event : ControllerTransportEvent) :
    Except ControllerSessionError Unit × ControllerSession T :=
  if s.closeStarted ∨ connectionEpoch ≠ s.connectionEpoch then (.ok (), s)
  else match event with
    | .connected =>
      if s.state ≠ .connecting ∧ s.state ≠ .reconnecting then (.error .invalidState, s)
      else (.ok (), s.transitionTo .streaming)
    | .h264 accessUnit =>
      if s.state ≠ .streaming then (.ok (), s)
      else match accessUnit.validate with
        | .error e => (.error e, s)
        | .ok _ => (.ok (), s.push (.h264 accessUnit))
    | .disconnected true reason => (s.push (.recoverableTransportError reason)).restartTransport
    | .disconnected false reason => (s.push (.fatalTransportError reason)).close
    | .closed => s.close

/-- `toVec` is the event as JSON. -/
def sendInput (toVec : InputEvent → Option Bytes) (event : InputEvent) :
    Except ControllerSessionError Unit × ControllerSession T :=
  if s.state ≠ .streaming ∨ s.closeStarted then (.error .invalidState, s)
  else if event.sessionId ≠ s.sessionId then (.error .inputSessionMismatch, s)
  else match event.validate with
    | .error _ => (.error .invalidInput, s)
    | .ok _ =>
      let delivery := if event.inputKind = .mouseMove then InputDelivery.realtime else .reliable
      match toVec event with
      | none => (.error .serialization, s)
      | some payload =>
        let sent := ControllerTransport.sendInput s.transport payload delivery
        (sent.1.mapError .transport, { s with transport := sent.2 })

def drop : ControllerSession T :=
  if s.closeStarted then s
  else { s with closeStarted := true, transport := (ControllerTransport.close s.transport).2 }

theorem handleTransportEvent_stale {ev : ControllerTransportEvent}
    (h : s.closeStarted = true ∨ connectionEpoch ≠ s.connectionEpoch) :
    s.handleTransportEvent connectionEpoch ev = (.ok (), s) := by
  exact if_pos h

theorem handleTransportEvent_connected_of_error {e : ControllerSessionError}
    (h : (s.handleTransportEvent connectionEpoch .connected).1 = .error e) :
    (s.handleTransportEvent connectionEpoch .connected).2 = s := by
  unfold handleTransportEvent at h ⊢
  split at h
  · cases h
  · rename_i hl
    rw [if_neg hl]
    simp only at h ⊢
    split at h
    · rename_i hs
      rw [if_pos hs]
    · cases h

/-- A frame is queued while the session streams, or it changes nothing. -/
theorem handleTransportEvent_h264 (connectionEpoch : UInt64) (u : H264AccessUnit) :
    (s.handleTransportEvent connectionEpoch (.h264 u)).2 = s ∨
      (s.state = .streaming ∧ s.handleTransportEvent connectionEpoch (.h264 u) = (.ok (), s.push (.h264 u))) := by
  unfold handleTransportEvent
  split
  · exact .inl rfl
  · simp only
    split_ifs with hs
    · exact .inl rfl
    · split
      · exact .inl rfl
      · exact .inr ⟨not_not.mp hs, rfl⟩

/-! ### What the parts of a call leave alone -/

omit [ControllerTransport T]

variable (state : ControllerSessionState)

@[simp] theorem transitionTo_state : (s.transitionTo state).state = state := by
  unfold transitionTo
  split
  · assumption
  · rfl

@[simp] theorem transitionTo_transport : (s.transitionTo state).transport = s.transport := by
  unfold transitionTo
  split <;> rfl

@[simp] theorem transitionTo_closeStarted : (s.transitionTo state).closeStarted = s.closeStarted := by
  unfold transitionTo
  split <;> rfl

@[simp] theorem transitionTo_connectionEpoch : (s.transitionTo state).connectionEpoch = s.connectionEpoch := by
  unfold transitionTo
  split <;> rfl

@[simp] theorem transitionTo_sessionId : (s.transitionTo state).sessionId = s.sessionId := by
  unfold transitionTo
  split <;> rfl

theorem transitionTo_events :
    (s.transitionTo state).events = s.events ++ if s.state = state then [] else [.stateChanged state] := by
  unfold transitionTo
  split
  · rw [List.append_nil]
  · rfl

theorem transitionTo_states :
    (s.transitionTo state).states = s.states ++ if s.state = state then [] else [state] := by
  unfold transitionTo
  split
  · rw [List.append_nil]
  · rfl

end ControllerSession

/-! ### The machine -/

inductive Call
  | connect
  | handleTransportEvent (connectionEpoch : UInt64) (event : ControllerTransportEvent)
  | sendInput (event : InputEvent)
  | pollEvent
  | close
  deriving DecidableEq

inductive Response
  | epoch (r : Except ControllerSessionError UInt64)
  | unit (r : Except ControllerSessionError Unit)
  | event (e : Option ControllerSessionEvent)

open ControllerSession

section Machine

variable {T : Type} [ControllerTransport T] (toVec : InputEvent → Option Bytes)
  {state st' : ControllerSessionState}

def step (s : ControllerSession T) : Call → Response × ControllerSession T
  | .connect => (.epoch s.connect.1, s.connect.2)
  | .handleTransportEvent epoch event =>
    (.unit (s.handleTransportEvent epoch event).1, (s.handleTransportEvent epoch event).2)
  | .sendInput event => (.unit (s.sendInput toVec event).1, (s.sendInput toVec event).2)
  | .pollEvent => (.event s.pollEvent.1, s.pollEvent.2)
  | .close => (.unit s.close.1, s.close.2)

/-! ### What one call can do -/

inductive Attempt : ControllerSessionState → ControllerSessionState → Prop
  | connect : Attempt .idle .connecting
  | restart {state : ControllerSessionState} (hidle : state ≠ .idle) (hclosed : state ≠ .closed) :
    Attempt state .reconnecting

theorem Attempt.ne_closed (h : Attempt state st') : st' ≠ .closed := by
  cases h <;> decide

theorem Attempt.ne_streaming (h : Attempt state st') : st' ≠ .streaming := by
  cases h <;> decide

/-- One act of a call. A call is made of several when an attempt fails. -/
inductive Act (s : ControllerSession T) : ControllerSession T → Prop
  | recoverable (reason : String) : Act s (s.push (.recoverableTransportError reason))
  | fatal (message : String) : Act s (s.push (.fatalTransportError message))
  | started (state : ControllerSessionState) (hopen : s.closeStarted = false) (hattempt : Attempt s.state state) :
    Act s { s.attempt state with
      transport := (ControllerTransport.start (s.attempt state).transport (s.attempt state).connectionEpoch).2 }
  | closed (hopen : s.closeStarted = false) : Act s s.close.2

abbrev Acts : ControllerSession T → ControllerSession T → Prop := Relation.ReflTransGen Act

inductive Moved (s : ControllerSession T) : Call → ControllerSession T → Prop
  | acts {call : Call} {s' : ControllerSession T} (hcall : call ≠ .pollEvent) (h : Acts s s') : Moved s call s'
  | streamed (hopen : s.closeStarted = false) (hstate : s.state = .connecting ∨ s.state = .reconnecting) :
    Moved s (.handleTransportEvent s.connectionEpoch .connected) (s.transitionTo .streaming)
  | queued (u : H264AccessUnit) (hopen : s.closeStarted = false) (hstate : s.state = .streaming)
    (hvalid : u.validate = .ok ()) :
    Moved s (.handleTransportEvent s.connectionEpoch (.h264 u)) (s.push (.h264 u))
  | sent (event : InputEvent) (payload : Bytes) (delivery : InputDelivery) (hopen : s.closeStarted = false)
    (hstate : s.state = .streaming) (hsession : event.sessionId = s.sessionId) (hpayload : toVec event = some payload) :
    Moved s (.sendInput event)
      { s with transport := (ControllerTransport.sendInput s.transport payload delivery).2 }
  | polled : Moved s .pollEvent s.pollEvent.2

variable (s : ControllerSession T)

theorem close_acts : Acts s s.close.2 := by
  cases ho : s.closeStarted with
  | true =>
    rw [close, if_pos ho]
  | false => exact .single (.closed ho)

theorem failTransport_acts (e : ControllerTransportError) : Acts s (s.failTransport e) :=
  .trans (.single (.fatal _)) (close_acts _)

theorem startTransport_acts (state : ControllerSessionState) (ho : s.closeStarted = false)
    (ha : Attempt s.state state) : Acts s (s.attempt state).startTransport.2 := by
  have hs := Act.started state ho ha
  unfold startTransport
  simp only
  split
  · exact .trans (.single hs) (failTransport_acts _ _)
  · exact .single hs

theorem connect_acts : Acts s s.connect.2 := by
  unfold connect
  split_ifs with hr
  · exact .refl
  · rw [not_or, not_not, Bool.not_eq_true] at hr
    exact startTransport_acts s .connecting hr.2 (by rw [hr.1]; exact .connect)

theorem restartTransport_acts (ho : s.closeStarted = false) : Acts s s.restartTransport.2 := by
  unfold restartTransport
  split_ifs with hr
  · exact .refl
  · refine startTransport_acts s .reconnecting ho (.restart (fun h => hr ?_) fun h => hr ?_)
    · rw [h]; decide
    · rw [h]; decide

theorem handleTransportEvent_moved (ep : UInt64) (ev : ControllerTransportEvent) :
    Moved toVec s (.handleTransportEvent ep ev) (s.handleTransportEvent ep ev).2 := by
  have has {s' : ControllerSession T} (h : Acts s s') : Moved toVec s (.handleTransportEvent ep ev) s' :=
    .acts (by simp) h
  unfold handleTransportEvent
  split
  · exact has .refl
  · rename_i hst
    rw [not_or, not_not, Bool.not_eq_true] at hst
    obtain ⟨hop, rfl⟩ := hst
    cases ev with
    | connected =>
      simp only
      split_ifs with hr
      · exact has .refl
      · refine .streamed hop ?_
        by_contra hn
        rw [not_or] at hn
        exact hr hn
    | h264 u =>
      simp only
      split_ifs with hs
      · exact has .refl
      · split
        · exact has .refl
        · rename_i hv
          exact .queued u hop (not_not.mp hs) hv
    | disconnected rec reason =>
      cases rec with
      | true => exact has (.trans (.single (.recoverable reason)) (restartTransport_acts _ hop))
      | false => exact has (.trans (.single (.fatal reason)) (close_acts _))
    | closed => exact has (close_acts s)

theorem sendInput_cases (ev : InputEvent) : (s.sendInput toVec ev).2 = s ∨
      ∃ payload delivery, s.closeStarted = false ∧ s.state = .streaming ∧ ev.sessionId = s.sessionId ∧
        toVec ev = some payload ∧ (s.sendInput toVec ev).2 =
          { s with transport := (ControllerTransport.sendInput s.transport payload delivery).2 } := by
  unfold sendInput
  split
  · exact .inl rfl
  · rename_i hr
    rw [not_or, not_not, Bool.not_eq_true] at hr
    split
    · exact .inl rfl
    · rename_i hs
      split
      · exact .inl rfl
      · simp only
        split
        · exact .inl rfl
        · rename_i payload hp
          exact .inr ⟨payload, _, hr.2, hr.1, not_not.mp hs, hp, rfl⟩

theorem sendInput_moved (ev : InputEvent) : Moved toVec s (.sendInput ev) (s.sendInput toVec ev).2 := by
  rcases sendInput_cases toVec s ev with hs | ⟨payload, delivery, ho, hstate, hsession, hp, hst⟩
  · rw [hs]
    exact .acts (by simp) .refl
  · rw [hst]
    exact .sent ev payload delivery ho hstate hsession hp

theorem step_moved (call : Call) : Moved toVec s call (step toVec s call).2 := by
  cases call with
  | connect => exact .acts (by simp) (connect_acts s)
  | handleTransportEvent ep ev => exact handleTransportEvent_moved toVec s ep ev
  | sendInput ev => exact sendInput_moved toVec s ev
  | pollEvent => exact .polled
  | close => exact .acts (by simp) (close_acts s)

end Machine

end Rctl.Controller
