/-
# The QUIC transport behind the foreign interface

`remote-ios-ffi/src/quic_transport.rs`: a transport handle has a lifecycle under a lock of its own
and callbacks of four kinds, each made under a lease of the handle's gate and under a lock that
makes them one after the other. Calls come from any thread; connecting and receiving are tasks in
the background, which wait for the network.

A call or a task is a stage in a list. It goes on by itself (`QuicInput.resume`) or with what the
network gave it (`QuicInput.network`). The sockets, the TLS configuration and the parsing of addresses
are the environment's: a call comes with what became of them. Sending a packet only puts it into
the channel's queue and is left out.
-/
import Rctl.Ffi.Session
import Rctl.Lib.Gate
import Rctl.Transport.Frames

namespace Rctl.Ffi

open ByteString StateRun Tasks Gates

/-! ### What is emitted -/

inductive QuicLifecycle
  | created
  | bound
  | connecting
  | connected
  | failed
  | closed
  deriving DecidableEq, Repr

inductive QuicStateCode
  | bound
  | connecting
  | connected
  deriving DecidableEq, Repr

inductive PacketDelivery
  | realtime
  | reliable
  | video
  deriving DecidableEq, Repr

def mapTransportError (error : DataChannelError) : Code :=
  match error.kind with
  | .authentication => .securityError
  | .invalidAddress | .invalidConfiguration | .protocol | .frameTooLarge => .invalidInput
  | .cancelled | .closed => .invalidState
  | _ => .transportError

inductive QuicCallback
  | state (code : QuicStateCode) (detail : String)
  | packet (delivery : PacketDelivery) (channel : ChannelId) (groupId : UInt64) (index count : ℕ) (packet : Bytes)
  | disconnect (result : Code) (reason : String)
  | closed
  deriving DecidableEq

inductive Emission
  | state (code : QuicStateCode) (detail : String)
  | packetGroup (delivery : PacketDelivery) (frames : List OpaqueFrame)
  | disconnect (result : Code) (reason : String)
  | closed

def clampU32 (n : ℕ) : ℕ := min n (2 ^ 32 - 1)

/-- The callbacks of an emission. A group of packets gets the next group's number, which is at
least one. -/
def Emission.callbacks (nextPacketGroupId : UInt64) : Emission → List QuicCallback
  | state code detail => [.state code detail]
  | packetGroup delivery frames => frames.mapIdx fun index frame =>
    .packet delivery frame.header.channelId (max nextPacketGroupId 1) (clampU32 index) (clampU32 frames.length)
      frame.toWireBytes
  | disconnect result reason => [.disconnect result reason]
  | closed => [.closed]

def Emission.nextGroup (nextPacketGroupId : UInt64) : Emission → UInt64
  | packetGroup _ _ => nextPacketGroupId + 1
  | _ => nextPacketGroupId

/-! ### Calls and tasks -/

inductive Listener
  | outbound
  | reliable (channel : ChannelId)
  | datagram
  | video
  deriving DecidableEq

inductive QuicAfter
  | returns (result : Except Code Unit)
  | connects (remoteAddr : String)
  | listens (listener : Listener)
  | ends

inductive QuicStage
  /-- `bind` with a socket whose endpoint was made. -/
  | binding (boundAddr : String)
  /-- `connect`, before and after it has told of it. -/
  | starting (remoteAddr : String)
  | spawning (remoteAddr : String)
  /-- `connect_transport` before and after the endpoint is connected. -/
  | connecting (remoteAddr : String)
  | connected (remoteAddr : String)
  | listening (listener : Listener)
  /-- `fail_transport`: before it looks at the cancellation, before it takes the lock, after it. -/
  | failing (error : DataChannelError)
  | failingLive (error : DataChannelError)
  | failed (error : DataChannelError)
  /-- `close_transport` before the lock and after it. -/
  | closing
  | cancelling
  /-- Before the gate; with a lease; with a lease and the lock of the callbacks; with a lease. -/
  | wants (emission : Emission) (after : QuicAfter)
  | leased (emission : Emission) (after : QuicAfter)
  | emitting (left : List QuicCallback) (running : Bool) (after : QuicAfter)
  | leaving (after : QuicAfter)
  /-- `destroy`: the handle was removed; the gate is closing; no lease is out; the tasks are
  aborted. -/
  | removed (inRuntime : Bool)
  | waiting (inRuntime : Bool)
  | drained (inRuntime : Bool)
  | cancellingAll (inRuntime : Bool)
  | aborting (inRuntime : Bool)

namespace QuicStage

def hasLease : QuicStage → Bool
  | leased _ _ | emitting _ _ _ | leaving _ => true
  | _ => false

def running : QuicStage → Bool
  | emitting _ running _ => running
  | _ => false

def waits : QuicStage → Bool
  | waiting _ => true
  | _ => false

def past : QuicStage → Bool
  | drained _ | cancellingAll _ | aborting _ => true
  | _ => false

def background : QuicStage → Bool
  | connecting _ | connected _ | listening _ | failing _ | failingLive _ | failed _ => true
  | wants _ after | leased _ after | emitting _ _ after | leaving after => match after with
    | .listens _ | .ends => true
    | .returns _ | .connects _ => false
  | _ => false

end QuicStage

/-- A transport handle with its calls and tasks. -/
structure QuicTransport where
  lifecycle : QuicLifecycle
  endpoint : Bool
  cancelled : Bool
  aborted : Bool
  nextPacketGroupId : UInt64
  known : Bool
  closing : Bool
  active : ℕ
  /-- The lock of the callbacks is taken. -/
  serial : Bool
  delivered : List QuicCallback
  stages : List QuicStage

def QuicTransport.create : QuicTransport :=
  ⟨.created, false, false, false, 1, true, false, 0, false, [], []⟩

def QuicTransport.gate (t : QuicTransport) : Gate := ⟨t.closing, t.active⟩

def RELIABLE_CHANNELS : List ChannelId :=
  [.secureControl, .inputReliable, .mediaControl, .clipboard, .fileTransfer, .deviceControl]

def backgroundTasks : List QuicStage :=
  let listeners : List Listener := .outbound :: RELIABLE_CHANNELS.map .reliable ++ [.datagram, .video]
  listeners.map .listening

/-- A call or task after a step: what is shared, its next stage, the tasks it started, and what
the call returned. -/
structure QuicResumed where
  transport : QuicTransport
  next : Option QuicStage
  spawned : List QuicStage
  out : Option (Except Code Unit)

section Machine

variable (t : QuicTransport)

def QuicTransport.goes (stage : QuicStage) : QuicResumed := ⟨t, some stage, [], none⟩

def QuicTransport.returns (result : Except Code Unit) : QuicResumed := ⟨t, none, [], some result⟩

def QuicTransport.ends : QuicResumed := ⟨t, none, [], none⟩

def QuicTransport.continues : QuicAfter → QuicResumed
  | .returns result => t.returns result
  | .connects remoteAddr => t.goes (.spawning remoteAddr)
  | .listens listener => t.goes (.listening listener)
  | .ends => t.ends

def Emission.isEmpty : Emission → Bool
  | packetGroup _ frames => frames.isEmpty
  | _ => false

/-- The next step of a call or task, unless it has to wait. -/
def resumeQuic : QuicStage → Option QuicResumed
  | .binding boundAddr =>
    if t.lifecycle ≠ .created then some (t.returns (.error .invalidState))
    else some ({ t with endpoint := true, lifecycle := .bound }.goes
      (.wants (.state .bound boundAddr) (.returns (.ok ()))))
  | .starting remoteAddr =>
    if t.lifecycle ≠ .bound ∨ !t.endpoint then some (t.returns (.error .invalidState))
    else some ({ t with lifecycle := .connecting }.goes
      (.wants (.state .connecting remoteAddr) (.connects remoteAddr)))
  | .spawning remoteAddr =>
    if t.lifecycle ≠ .connecting then some (t.returns (.error .invalidState))
    else some ⟨t, none, [.connecting remoteAddr], some (.ok ())⟩
  | .connecting _ | .listening _ => if t.aborted then some t.ends else none
  | .connected remoteAddr =>
    if t.lifecycle ≠ .connecting ∨ t.cancelled then some t.ends
    else some ⟨{ t with lifecycle := .connected }, some (.wants (.state .connected remoteAddr) .ends),
      backgroundTasks, none⟩
  | .failing error => some (if t.cancelled then t.ends else t.goes (.failingLive error))
  | .failingLive error =>
    if t.lifecycle = .failed ∨ t.lifecycle = .closed then some t.ends
    else some ({ t with lifecycle := .failed }.goes (.failed error))
  | .failed error =>
    some ({ t with cancelled := true }.goes (.wants (.disconnect (mapTransportError error) error.toText) .ends))
  | .closing =>
    if t.lifecycle = .closed then some (t.returns (.ok ()))
    else some ({ t with lifecycle := .closed, endpoint := false }.goes .cancelling)
  | .cancelling => some ({ t with cancelled := true }.goes (.wants .closed (.returns (.ok ()))))
  | .wants emission after =>
    if emission.isEmpty ∨ t.closing then some (t.continues after)
    else some ({ t with active := t.active + 1 }.goes (.leased emission after))
  | .leased emission after =>
    if t.serial then none
    else some ({ t with serial := true, nextPacketGroupId := emission.nextGroup t.nextPacketGroupId }.goes
      (.emitting (emission.callbacks t.nextPacketGroupId) false after))
  | .emitting left true after => some (t.goes (.emitting left false after))
  | .emitting (c :: left) false after =>
    some ({ t with delivered := t.delivered ++ [c] }.goes (.emitting left true after))
  | .emitting [] false after => some ({ t with serial := false }.goes (.leaving after))
  | .leaving after => some ({ t with active := t.active - 1 }.continues after)
  | .removed inRuntime => some ({ t with closing := true }.goes (.waiting inRuntime))
  | .waiting inRuntime => if t.active ≠ 0 then none else some (t.goes (.drained inRuntime))
  | .drained inRuntime =>
    if t.lifecycle = .closed then some ({ t with aborted := true }.goes (.aborting inRuntime))
    else some ({ t with lifecycle := .closed, endpoint := false }.goes (.cancellingAll inRuntime))
  | .cancellingAll inRuntime => some ({ t with cancelled := true, aborted := true }.goes (.aborting inRuntime))
  | .aborting inRuntime =>
    if !inRuntime ∧ t.stages.any (·.background) then none else some (t.returns (.ok ()))

inductive NetworkEvent
  | connected
  | frame (frame : OpaqueFrame)
  | videoFrames (frames : List OpaqueFrame)
  | queueClosed
  | error (error : DataChannelError)

def isVideoGroup : List OpaqueFrame → Bool
  | [info, data] => info.header.kind = .videoFrameInfo && data.header.kind = .videoFrameData
  | _ => false

def receiveQuic (event : NetworkEvent) : QuicStage → Option QuicResumed
  | .connecting remoteAddr => match event with
    | .connected => some (t.goes (.connected remoteAddr))
    | .error error => some (t.goes (.failing error))
    | _ => none
  | .listening listener => match listener, event with
    | .reliable channel, .frame frame =>
      some (t.goes (.wants (.packetGroup .reliable [frame]) (.listens (.reliable channel))))
    | .datagram, .frame frame => some (t.goes (.wants (.packetGroup .realtime [frame]) (.listens .datagram)))
    | .video, .videoFrames frames =>
      if isVideoGroup frames then some (t.goes (.wants (.packetGroup .video frames) (.listens .video)))
      else some (t.goes (.failing ⟨.protocol, "receive_ios_video_packet_group"⟩))
    | .outbound, .queueClosed => some t.ends
    | _, .error error => some (t.goes (.failing error))
    | _, _ => none
  | _ => none

/-- The calls on a transport handle, with what became of their arguments and of the socket. -/
inductive QuicCall
  | bind (args : Except Code Unit) (endpoint : Except Code String)
  | connect (remoteAddr : Except Code String)
  | close
  | destroy (inRuntime : Bool)

/-- The call starts with `stage`, if the handle is known. -/
def lookupTransport (stage : Except Code QuicStage) : Option (Except Code Unit) × QuicTransport :=
  if !t.known then (some (.error .invalidHandle), t)
  else match stage with
    | .error e => (some (.error e), t)
    | .ok stage => (none, { t with stages := t.stages ++ [stage] })

def beginQuic : QuicCall → Option (Except Code Unit) × QuicTransport
  | .bind (.error e) _ | .connect (.error e) => (some (.error e), t)
  | .bind (.ok _) endpoint => lookupTransport t (endpoint.map .binding)
  | .connect (.ok remoteAddr) => lookupTransport t (.ok (.starting remoteAddr))
  | .close => lookupTransport t (.ok .closing)
  | .destroy inRuntime =>
    if !t.known then (some (.error .invalidHandle), t)
    else (none, { t with known := false, stages := t.stages ++ [.removed inRuntime] })

inductive QuicInput
  | call (call : QuicCall)
  | resume (index : ℕ)
  | network (index : ℕ) (event : NetworkEvent)

def quicAt (index : ℕ) (step : QuicStage → Option QuicResumed) : Option (Except Code Unit) × QuicTransport :=
  match t.stages[index]?.bind step with
  | none => (none, t)
  | some r => (r.out, { r.transport with stages := replaceTask t.stages index r.next ++ r.spawned })

def quicStep : QuicInput → Option (Except Code Unit) × QuicTransport
  | .call call => beginQuic t call
  | .resume index => quicAt t index (resumeQuic t)
  | .network index event => quicAt t index (receiveQuic t event)

end Machine

/-! ### The tasks and the gate -/

/-- All that a step of a call or task can be to the gate. -/
inductive QuicAdvance (t : QuicTransport) (stage : QuicStage) (r : QuicResumed) : Prop
  | stays (hgate : r.transport.gate = t.gate)
      (hdelivered : stage.hasLease = false → r.transport.delivered = t.delivered)
      (hlease : r.next.any (·.hasLease) = stage.hasLease) (hwaits : r.next.any (·.waits) = false)
      (hpast : r.next.any (·.past) = true → stage.past = true)
      (hspawned : ∀ task ∈ r.spawned, task.hasLease = false ∧ task.waits = false ∧ task.past = false)
  | enters {next : QuicStage} (hopen : t.closing = false) (hout : stage.hasLease = false)
      (hr : r = { t with active := t.active + 1 }.goes next) (hin : next.hasLease = true)
      (hwaits : next.waits = false) (hpast : next.past = false)
  | leaves (hin : stage.hasLease = true) (hgate : r.transport.gate = { t.gate with active := t.active - 1 })
      (hlease : r.next.any (·.hasLease) = false) (hwaits : r.next.any (·.waits) = false)
      (hpast : r.next.any (·.past) = false) (hspawned : r.spawned = [])
  | closes {inRuntime : Bool} (hstage : stage = .removed inRuntime)
      (hr : r = { t with closing := true }.goes (.waiting inRuntime))
  | drains {inRuntime : Bool} (hstage : stage = .waiting inRuntime) (hidle : t.active = 0)
      (hr : r = t.goes (.drained inRuntime))

open QuicStage

variable {out : Option (Except Code Unit)} {input : QuicInput}

section Moves

variable {t : QuicTransport} {stage : QuicStage} {r : QuicResumed}

theorem continues_spec (t : QuicTransport) (after : QuicAfter) :
    (t.continues after).transport = t ∧ (t.continues after).spawned = [] ∧
      (t.continues after).next.any (·.hasLease) = false ∧ (t.continues after).next.any (·.waits) = false ∧
      (t.continues after).next.any (·.past) = false := by
  cases after <;> exact ⟨rfl, rfl, rfl, rfl, rfl⟩

theorem QuicAdvance.goes {t' : QuicTransport} {next : QuicStage} (hg : t'.gate = t.gate)
    (hd : stage.hasLease = false → t'.delivered = t.delivered) (hl : next.hasLease = stage.hasLease)
    (hw : next.waits = false) (hp : next.past = true → stage.past = true) : QuicAdvance t stage (t'.goes next) :=
  .stays hg hd hl hw hp (by simp [QuicTransport.goes])

theorem QuicAdvance.over (hl : stage.hasLease = false) : QuicAdvance t stage ⟨t, none, [], out⟩ :=
  .stays rfl (fun _ => rfl) hl.symm rfl (nofun) (by simp)

theorem resumeQuic_advance (h : resumeQuic t stage = some r) : QuicAdvance t stage r := by
  cases stage with
  | wants emission after =>
    simp only [resumeQuic] at h
    split_ifs at h with hr
    · cases h
      obtain ⟨htp, hs, hl, hw, hp⟩ := continues_spec t after
      refine .stays (by rw [htp]) (fun _ => by rw [htp]) hl hw (fun h => ?_) (by simp [hs])
      rw [hp] at h
      cases h
    · rw [not_or, Bool.not_eq_true, Bool.not_eq_true] at hr
      cases h
      exact .enters hr.2 rfl rfl rfl rfl rfl
  | leaving after =>
    cases h
    obtain ⟨htp, hs, hl, hw, hp⟩ := continues_spec { t with active := t.active - 1 } after
    exact .leaves rfl (by rw [htp]; rfl) hl hw hp hs
  | removed =>
    cases h
    exact .closes rfl rfl
  | waiting =>
    simp only [resumeQuic] at h
    split at h <;> cases h
    exact .drains rfl (not_not.mp (by assumption)) rfl
  | emitting left running =>
    cases running with
    | true =>
      cases h
      exact .goes rfl (nofun) rfl rfl (nofun)
    | false =>
      cases left <;> cases h <;> exact .goes rfl (nofun) rfl rfl (nofun)
  | connected =>
    simp only [resumeQuic] at h
    split at h
    · cases h
      exact .over rfl
    · cases h
      refine .stays rfl (fun _ => rfl) rfl rfl (nofun) fun task ht => ?_
      obtain ⟨listener, -, rfl⟩ := List.mem_map.mp ht
      exact ⟨rfl, rfl, rfl⟩
  | spawning =>
    simp only [resumeQuic] at h
    split at h
    · cases h
      exact .over rfl
    · cases h
      exact .stays rfl (fun _ => rfl) rfl rfl (nofun) (by simp [hasLease, waits, past])
  | binding | starting | failingLive | closing =>
    simp only [resumeQuic] at h
    split at h
    · cases h
      exact .over rfl
    · cases h
      exact .goes rfl (fun _ => rfl) rfl rfl (nofun)
  | connecting | listening | aborting =>
    simp only [resumeQuic] at h
    split at h <;> cases h
    exact .over rfl
  | failing =>
    cases h
    split
    · exact .over rfl
    · exact .goes rfl (fun _ => rfl) rfl rfl (nofun)
  | failed | cancelling =>
    cases h
    exact .goes rfl (fun _ => rfl) rfl rfl (nofun)
  | leased =>
    simp only [resumeQuic] at h
    split at h <;> cases h
    exact .goes rfl (nofun) rfl rfl (nofun)
  | drained =>
    simp only [resumeQuic] at h
    split at h <;> cases h <;> exact .goes rfl (fun _ => rfl) rfl rfl (fun _ => rfl)
  | cancellingAll =>
    cases h
    exact .goes rfl (fun _ => rfl) rfl rfl (fun _ => rfl)

theorem receiveQuic_advance {ev : NetworkEvent} (h : receiveQuic t ev stage = some r) :
    QuicAdvance t stage r := by
  have hgoes {next : QuicStage} (ho : stage.hasLease = false) (hl : next.hasLease = false)
      (hw : next.waits = false) (hp : next.past = false) : QuicAdvance t stage (t.goes next) :=
    .goes rfl (fun _ => rfl) (hl.trans ho.symm) hw fun h => by rw [hp] at h; cases h
  unfold receiveQuic at h
  split at h
  · split at h <;> cases h <;> exact hgoes rfl rfl rfl rfl
  · split at h
    · cases h
      exact hgoes rfl rfl rfl rfl
    · cases h
      exact hgoes rfl rfl rfl rfl
    · split at h <;> cases h <;> exact hgoes rfl rfl rfl rfl
    · cases h
      exact .over rfl
    · cases h
      exact hgoes rfl rfl rfl rfl
    · cases h
  · cases h

/-- All that a step of the transport can be. -/
inductive QuicMove (t : QuicTransport) : QuicInput → Option (Except Code Unit) → QuicTransport → Prop
  | refused {call : QuicCall} {code : Code} : QuicMove t (.call call) (some (.error code)) t
  | called {call : QuicCall} {stage : QuicStage} {known : Bool} (hstage : stage.hasLease = false)
      (hwaits : stage.waits = false) (hpast : stage.past = false) :
      QuicMove t (.call call) none { t with known, stages := t.stages ++ [stage] }
  | blocked {input : QuicInput} : QuicMove t input none t
  | advanced {input : QuicInput} {index : ℕ} {stage : QuicStage} {r : QuicResumed}
      (hstage : t.stages[index]? = some stage) (h : QuicAdvance t stage r) :
      QuicMove t input r.out { r.transport with stages := replaceTask t.stages index r.next ++ r.spawned }

theorem quicAt_spec {ix : ℕ} {step : QuicStage → Option QuicResumed}
    (hs : ∀ stage r, step stage = some r → QuicAdvance t stage r) :
    QuicMove t input (quicAt t ix step).1 (quicAt t ix step).2 := by
  unfold quicAt
  cases hst : t.stages[ix]? with
  | none => exact .blocked
  | some stage =>
    rw [Option.bind_some]
    cases hr : step stage with
    | none => exact .blocked
    | some r => exact .advanced hst (hs stage r hr)

theorem lookupTransport_spec {call : QuicCall} {stage : Except Code QuicStage}
    (hst : ∀ s, stage = .ok s → s.hasLease = false ∧ s.waits = false ∧ s.past = false) :
    QuicMove t (.call call) (lookupTransport t stage).1 (lookupTransport t stage).2 := by
  unfold lookupTransport
  split
  · exact .refused
  · cases stage with
    | error => exact .refused
    | ok s =>
      obtain ⟨hl, hw, hp⟩ := hst s rfl
      exact .called hl hw hp

theorem quicStep_spec (t : QuicTransport) (input : QuicInput) :
    QuicMove t input (quicStep t input).1 (quicStep t input).2 := by
  have hr {stage : QuicStage} (h : stage.hasLease = false ∧ stage.waits = false ∧ stage.past = false) :
      ∀ s, (.ok stage : Except Code QuicStage) = .ok s → s.hasLease = false ∧ s.waits = false ∧ s.past = false := by
    rintro s ⟨⟩
    exact h
  cases input with
  | call call =>
    cases call with
    | bind args endpoint =>
      cases args with
      | error => exact .refused
      | ok =>
        cases endpoint with
        | error => exact lookupTransport_spec fun s h => by cases h
        | ok => exact lookupTransport_spec (hr ⟨rfl, rfl, rfl⟩)
    | connect remoteAddr =>
      cases remoteAddr with
      | error => exact .refused
      | ok => exact lookupTransport_spec (hr ⟨rfl, rfl, rfl⟩)
    | close => exact lookupTransport_spec (hr ⟨rfl, rfl, rfl⟩)
    | destroy =>
      simp only [quicStep, beginQuic]
      split
      · exact .refused
      · exact .called rfl rfl rfl
  | resume => exact quicAt_spec fun stage r => resumeQuic_advance
  | network => exact quicAt_spec fun stage r => receiveQuic_advance

theorem QuicAdvance.move {ix : ℕ} (hst : t.stages[ix]? = some stage) (h : QuicAdvance t stage r) :
    Move hasLease t.gate t.stages r.transport.gate (replaceTask t.stages ix r.next ++ r.spawned) := by
  cases h with
  | stays hga _ hl _ _ hs =>
    rw [hga]
    exact .stepSpawning hst hl fun task htk => (hs task htk).1
  | enters hop ho hr hin =>
    subst hr
    rw [show QuicResumed.spawned _ = [] from rfl, List.append_nil]
    exact .enter hop hst ho hin
  | leaves hin hga hl _ _ hs =>
    rw [hga, hs, List.append_nil]
    exact .leave hst hin hl
  | closes hremoved hr =>
    subst hremoved hr
    rw [show QuicResumed.spawned _ = [] from rfl, List.append_nil]
    exact .close hst rfl
  | drains hw _ hr =>
    subst hw hr
    exact .stepSpawning hst rfl (by simp [QuicTransport.goes])

/-- A task waits only at a closing gate, and gets past its wait only when the gate counts no lease. -/
theorem QuicAdvance.closers {task : QuicStage} (h : QuicAdvance t stage r)
    (htk : r.next = some task ∨ task ∈ r.spawned) : (task.waits = true → r.transport.closing = true) ∧
      (task.past = true → stage.past = true ∨ (t.active = 0 ∧ stage.waits = true)) := by
  cases h with
  | stays _ _ _ hw hpa hs =>
    rcases htk with hnx | hn
    · rw [hnx, Option.any_some] at hw hpa
      exact ⟨fun h => by simp [hw] at h, fun h => .inl (hpa h)⟩
    · obtain ⟨-, hw, hpa⟩ := hs task hn
      exact ⟨fun h => by simp [hw] at h, fun h => by simp [hpa] at h⟩
  | @enters next _ _ hr _ hw hpa =>
    subst hr
    obtain rfl : next = task := by simpa [QuicTransport.goes] using htk
    exact ⟨fun h => by simp [hw] at h, fun h => by simp [hpa] at h⟩
  | leaves _ _ _ hw hpa hs =>
    rw [hs] at htk
    obtain hnx : r.next = some task := by simpa using htk
    rw [hnx, Option.any_some] at hw hpa
    exact ⟨fun h => by simp [hw] at h, fun h => by simp [hpa] at h⟩
  | @closes inRuntime _ hr =>
    subst hr
    obtain rfl : waiting inRuntime = task := by simpa [QuicTransport.goes] using htk
    exact ⟨fun _ => rfl, nofun⟩
  | @drains inRuntime hst hil hr =>
    subst hst hr
    obtain rfl : drained inRuntime = task := by simpa [QuicTransport.goes] using htk
    exact ⟨(by simp [waits]), fun _ => .inr ⟨hil, rfl⟩⟩

theorem QuicAdvance.delivered_eq (h : QuicAdvance t stage r) (ho : stage.hasLease = false) :
    r.transport.delivered = t.delivered := by
  cases h with
  | stays _ hd => exact hd ho
  | enters _ _ hr | closes _ hr | drains _ _ hr =>
    exact congrArg (fun r : QuicResumed => r.transport.delivered) hr
  | leaves hin =>
    rw [ho] at hin
    cases hin

end Moves

/-! ### A step and the gate -/

section Gate

variable {t t' : QuicTransport} (hm : QuicMove t input out t')

include hm

theorem quicStep_move : Move hasLease t.gate t.stages t'.gate t'.stages := by
  cases hm with
  | refused | blocked => exact .idle
  | called hl => exact .spawn hl
  | advanced hst ha => exact ha.move hst

theorem quicStep_closing {returns : Prop} (hr : returns → ∃ task ∈ t.stages, task.past = true) :
    Closing hasLease waits past t.gate t.stages t'.gate t'.stages returns := by
  refine .of_new (quicStep_move hm) ?_ hr
  intro task htk
  cases hm with
  | refused | blocked => exact .inl htk
  | called _ hw hpa =>
    rcases List.mem_append.mp htk with hd | hn
    · exact .inl hd
    · rw [List.mem_singleton.mp hn, hw, hpa]
      exact .inr ⟨by simp, by simp⟩
  | @advanced _ ix stage r hst ha =>
    have hd : stage ∈ t.stages := List.mem_of_getElem? hst
    have hn (h : r.next = some task ∨ task ∈ r.spawned) :
        (task.waits = true → r.transport.closing = true) ∧ (task.past = true →
          (∃ task ∈ t.stages, task.past = true) ∨ (t.active = 0 ∧ ∃ task ∈ t.stages, task.waits = true)) := by
      refine ⟨(ha.closers h).1, fun hpa => ?_⟩
      exact ((ha.closers h).2 hpa).imp (fun hpa => ⟨stage, hd, hpa⟩) fun hw => ⟨hw.1, stage, hd, hw.2⟩
    rcases List.mem_append.mp htk with hreplaced | hs
    · exact (mem_replaceTask hreplaced).imp_right fun h => hn (.inl h)
    · exact .inr (hn (.inr hs))

theorem quicStep_delivered (ho : ∀ stage ∈ t.stages, stage.hasLease = false) : t'.delivered = t.delivered := by
  cases hm with
  | advanced hst ha => exact ha.delivered_eq (ho _ (List.mem_of_getElem? hst))
  | _ => rfl

end Gate

end Rctl.Ffi
