/-
# The registry of signalling connections

`signal-server/src/notify.rs`, `ConnectionRegistry`: for each device the table holds the
connection that was registered last, with the sending ends of its queue of notifications and
of the signal that tells it that it was superseded. Sockets use the table side by side. A
register and an unregister take the write lock, the other operations a read lock, and an
ownership guard keeps its read lock until it is dropped: while a guard is held, registers and
unregisters wait.

A register lets go of the lock before it sends the signal of the connection it has replaced,
so it is two steps, `register` and `finishRegister`; everything else happens under the lock.
Registrations are numbered in the order of their inserts, and the two channels of a
registration go by its number.
-/
import Rctl.Lib.OrdMap
import Rctl.Lib.Records
import Rctl.Lib.Run

namespace Rctl.Signal

open OrdMap StateRun Records

inductive EnqueueError
  | offline
  | overloaded
  deriving DecidableEq, Repr

structure ConnectionEntry where
  connectionId : String
  /-- The sending end of the queue. -/
  notifications : ℕ
  /-- The sending end of the signal, until it is used. -/
  superseded : Option ℕ
  deriving DecidableEq, Repr

abbrev ConnectionMap := Std.ExtTreeMap String ConnectionEntry

structure Registration where
  deviceId : String
  connectionId : String
  /-- The messages in its queue. What is left there when the receiver is dropped is lost. -/
  queue : List String
  /-- The receiving end of the queue is held. -/
  receiving : Bool
  /-- How often its signal was sent. -/
  fired : ℕ
  deriving DecidableEq, Repr

structure ConnectionRegistry where
  connections : ConnectionMap
  queueCapacity : ℕ
  registrations : List Registration
  /-- The registers that have inserted their entry and have not returned yet, each with the
  signal it is about to send. -/
  returning : List (ℕ × Option ℕ)
  /-- The ownership guards that are held. -/
  guards : List (String × String)

namespace ConnectionRegistry

/-- The source asserts that the capacity is not zero. -/
def new (queueCapacity : ℕ) : ConnectionRegistry := ⟨∅, queueCapacity, [], [], []⟩

variable (registry : ConnectionRegistry)

def update (n : ℕ) (f : Registration → Registration) : ConnectionRegistry :=
  { registry with registrations := registry.registrations.modify n f }

/-- `superseded.take()` and `send`, for the entry that was taken out of the table. -/
def sendSuperseded : Option ℕ → ConnectionRegistry
  | none => registry
  | some n => registry.update n fun r => { r with fired := r.fired + 1 }

/-- The part of `register` under the lock. -/
def register (deviceId connectionId : String) : ConnectionRegistry :=
  let n := registry.registrations.length
  let previous := registry.connections[deviceId]?
  { registry with
    connections := registry.connections.insert deviceId ⟨connectionId, n, some n⟩
    registrations := registry.registrations ++ [⟨deviceId, connectionId, [], true, 0⟩]
    returning := registry.returning ++ [(n, previous.bind (·.superseded))] }

/-- The rest of `register`. -/
def finishRegister (i : ℕ) (previous : Option ℕ) : ConnectionRegistry :=
  { registry.sendSuperseded previous with returning := registry.returning.eraseIdx i }

def trySend (n : ℕ) (notification : String) : Except EnqueueError Unit × ConnectionRegistry :=
  match registry.registrations[n]?.filter (·.receiving) with
  | none => (.error .offline, registry)
  | some r =>
    if r.queue.length < registry.queueCapacity then
      (.ok (), registry.update n fun r => { r with queue := r.queue ++ [notification] })
    else (.error .overloaded, registry)

def enqueue (deviceId notification : String) : Except EnqueueError Unit × ConnectionRegistry :=
  match registry.connections[deviceId]? with
  | none => (.error .offline, registry)
  | some connection => registry.trySend connection.notifications notification

def isOwner (deviceId connectionId : String) : Bool :=
  registry.connections[deviceId]?.any (·.connectionId == connectionId)

def acquireOwnership (deviceId connectionId : String) : Bool × ConnectionRegistry :=
  if registry.isOwner deviceId connectionId then
    (true, { registry with guards := registry.guards ++ [(deviceId, connectionId)] })
  else (false, registry)

def unregister (deviceId connectionId : String) : Bool × ConnectionRegistry :=
  if !registry.isOwner deviceId connectionId then (false, registry)
  else
    let connection := registry.connections[deviceId]?
    let registry := registry.sendSuperseded (connection.bind (·.superseded))
    (true, { registry with connections := registry.connections.erase deviceId })

end ConnectionRegistry

/-! ### Sockets side by side -/

inductive RegistryAction
  | register (deviceId connectionId : String)
  | finishRegister (i : ℕ)
  | enqueue (deviceId notification : String)
  | acquireOwnership (deviceId connectionId : String)
  | release (i : ℕ)
  | unregister (deviceId connectionId : String)
  | receive (n : ℕ)
  | dropReceiver (n : ℕ)
  deriving DecidableEq, Repr

inductive RegistryReply
  | waiting
  | idle
  | inserted (n : ℕ)
  | registered (n : ℕ)
  | enqueued (r : Except EnqueueError Unit)
  | ownership (granted : Bool)
  | released
  | unregistered (removed : Bool)
  | received (n : ℕ) (notification : String)
  | dropped

open ConnectionRegistry in
/-- A register or an unregister that finds guards held waits; it is tried again later. -/
def registryStep (registry : ConnectionRegistry) : RegistryAction → RegistryReply × ConnectionRegistry
  | .register deviceId connectionId =>
    if registry.guards.isEmpty then
      (.inserted registry.registrations.length, registry.register deviceId connectionId)
    else (.waiting, registry)
  | .finishRegister i => match registry.returning[i]? with
    | none => (.idle, registry)
    | some (n, previous) => (.registered n, registry.finishRegister i previous)
  | .enqueue deviceId notification =>
    (.enqueued (registry.enqueue deviceId notification).1, (registry.enqueue deviceId notification).2)
  | .acquireOwnership deviceId connectionId =>
    (.ownership (registry.acquireOwnership deviceId connectionId).1,
      (registry.acquireOwnership deviceId connectionId).2)
  | .release i => (.released, { registry with guards := registry.guards.eraseIdx i })
  | .unregister deviceId connectionId =>
    if registry.guards.isEmpty then
      (.unregistered (registry.unregister deviceId connectionId).1, (registry.unregister deviceId connectionId).2)
    else (.waiting, registry)
  | .receive n => match registry.registrations[n]?.filter (·.receiving) with
    | none => (.idle, registry)
    | some r => match r.queue with
      | [] => (.idle, registry)
      | notification :: rest => (.received n notification, registry.update n fun r => { r with queue := rest })
  | .dropReceiver n => (.dropped, registry.update n fun r => { r with receiving := false })

abbrev RegistryEntry := Entry ConnectionRegistry RegistryAction RegistryReply

/-! ### What one step can do -/

inductive RegistryStep (registry : ConnectionRegistry) :
    RegistryAction → RegistryReply → ConnectionRegistry → Prop
  | waiting (action : RegistryAction) : RegistryStep registry action .waiting registry
  | idle (action : RegistryAction) : RegistryStep registry action .idle registry
  | inserted (deviceId connectionId : String) (hguards : registry.guards = []) :
    RegistryStep registry (.register deviceId connectionId) (.inserted registry.registrations.length)
      (registry.register deviceId connectionId)
  | registered (i n : ℕ) (previous : Option ℕ) (hreturning : registry.returning[i]? = some (n, previous)) :
    RegistryStep registry (.finishRegister i) (.registered n) (registry.finishRegister i previous)
  | enqueued (deviceId notification : String) (connection : ConnectionEntry) (r : Registration)
    (hconnection : registry.connections[deviceId]? = some connection)
    (hr : registry.registrations[connection.notifications]? = some r)
    (hroom : r.queue.length < registry.queueCapacity) :
    RegistryStep registry (.enqueue deviceId notification) (.enqueued (.ok ()))
      (registry.update connection.notifications fun r => { r with queue := r.queue ++ [notification] })
  | notEnqueued (deviceId notification : String) (e : EnqueueError) :
    RegistryStep registry (.enqueue deviceId notification) (.enqueued (.error e)) registry
  | granted (deviceId connectionId : String) (howner : registry.isOwner deviceId connectionId = true) :
    RegistryStep registry (.acquireOwnership deviceId connectionId) (.ownership true)
      { registry with guards := registry.guards ++ [(deviceId, connectionId)] }
  | notGranted (deviceId connectionId : String) (howner : registry.isOwner deviceId connectionId = false) :
    RegistryStep registry (.acquireOwnership deviceId connectionId) (.ownership false) registry
  | released (i : ℕ) :
    RegistryStep registry (.release i) .released { registry with guards := registry.guards.eraseIdx i }
  | unregistered (deviceId : String) (connection : ConnectionEntry) (hguards : registry.guards = [])
    (hconnection : registry.connections[deviceId]? = some connection) :
    RegistryStep registry (.unregister deviceId connection.connectionId) (.unregistered true)
      { registry.sendSuperseded connection.superseded with connections := registry.connections.erase deviceId }
  | notUnregistered (deviceId connectionId : String) (howner : registry.isOwner deviceId connectionId = false) :
    RegistryStep registry (.unregister deviceId connectionId) (.unregistered false) registry
  | received (n : ℕ) (r : Registration) (notification : String) (rest : List String)
    (hr : registry.registrations[n]? = some r) (hqueue : r.queue = notification :: rest) :
    RegistryStep registry (.receive n) (.received n notification)
      (registry.update n fun r => { r with queue := rest })
  | dropped (n : ℕ) :
    RegistryStep registry (.dropReceiver n) .dropped (registry.update n fun r => { r with receiving := false })

open ConnectionRegistry

section Spec

variable (registry : ConnectionRegistry)

variable (sndr : Option ℕ)

@[simp] theorem sendSuperseded_connections : (registry.sendSuperseded sndr).connections = registry.connections := by
  cases sndr <;> rfl

theorem sendSuperseded_length :
    (registry.sendSuperseded sndr).registrations.length = registry.registrations.length := by
  cases sndr with
  | none => rfl
  | some => exact List.length_modify _ _ _

@[simp] theorem sendSuperseded_returning : (registry.sendSuperseded sndr).returning = registry.returning := by
  cases sndr <;> rfl

@[simp] theorem sendSuperseded_guards : (registry.sendSuperseded sndr).guards = registry.guards := by
  cases sndr <;> rfl

@[simp] theorem sendSuperseded_queueCapacity :
    (registry.sendSuperseded sndr).queueCapacity = registry.queueCapacity := by
  cases sndr <;> rfl

theorem isOwner_eq_true {deviceId connectionId : String} : registry.isOwner deviceId connectionId = true ↔
    ∃ conn, registry.connections[deviceId]? = some conn ∧ conn.connectionId = connectionId := by
  rw [isOwner, Option.any_eq_true]
  simp only [beq_iff_eq]

theorem enqueue_spec (deviceId note : String) : RegistryStep registry (.enqueue deviceId note)
      (.enqueued (registry.enqueue deviceId note).1) (registry.enqueue deviceId note).2 := by
  unfold enqueue trySend
  split
  · exact .notEnqueued deviceId note _
  · rename_i conn hc
    split
    · exact .notEnqueued deviceId note _
    · rename_i r hf
      obtain ⟨hr, -⟩ := Option.filter_eq_some_iff.mp hf
      split_ifs with hrm
      · exact .enqueued deviceId note conn r hc hr hrm
      · exact .notEnqueued deviceId note _

theorem acquireOwnership_spec (deviceId connectionId : String) :
    RegistryStep registry (.acquireOwnership deviceId connectionId)
      (.ownership (registry.acquireOwnership deviceId connectionId).1)
      (registry.acquireOwnership deviceId connectionId).2 := by
  unfold acquireOwnership
  cases ho : registry.isOwner deviceId connectionId with
  | false => exact .notGranted deviceId connectionId ho
  | true => exact .granted deviceId connectionId ho

theorem unregister_spec (hgs : registry.guards = []) (deviceId connectionId : String) :
    RegistryStep registry (.unregister deviceId connectionId)
      (.unregistered (registry.unregister deviceId connectionId).1) (registry.unregister deviceId connectionId).2 := by
  unfold unregister
  cases ho : registry.isOwner deviceId connectionId with
  | false => exact .notUnregistered deviceId connectionId ho
  | true =>
    obtain ⟨conn, hc, rfl⟩ := (isOwner_eq_true registry).mp ho
    have hs := RegistryStep.unregistered deviceId conn hgs hc
    simp only [hc]
    rw [sendSuperseded_connections]
    exact hs

theorem registryStep_spec (act : RegistryAction) :
    RegistryStep registry act (registryStep registry act).1 (registryStep registry act).2 := by
  cases act with
  | register deviceId connectionId =>
    unfold registryStep
    simp only
    split_ifs with hgs
    · exact .inserted deviceId connectionId (List.isEmpty_iff.mp hgs)
    · exact .waiting _
  | finishRegister i =>
    unfold registryStep
    simp only
    split
    · exact .idle _
    · rename_i n prev hre
      exact .registered i n prev hre
  | enqueue deviceId note => exact enqueue_spec registry deviceId note
  | acquireOwnership deviceId connectionId => exact acquireOwnership_spec registry deviceId connectionId
  | release i => exact .released i
  | unregister deviceId connectionId =>
    unfold registryStep
    simp only
    split_ifs with hgs
    · exact unregister_spec registry (List.isEmpty_iff.mp hgs) deviceId connectionId
    · exact .waiting _
  | receive n =>
    unfold registryStep
    simp only
    split
    · exact .idle _
    · rename_i r hf
      obtain ⟨hr, -⟩ := Option.filter_eq_some_iff.mp hf
      split
      · exact .idle _
      · rename_i note rest hq
        exact .received n r note rest hr hq
  | dropReceiver n => exact .dropped n

end Spec

/-! ### What is seen of a registration -/

def Registration.identity (r : Registration) : String × String := (r.deviceId, r.connectionId)

namespace ConnectionRegistry

variable (registry : ConnectionRegistry)

/-- The device and the connection of a registration. -/
def identity (m : ℕ) : Option (String × String) := registry.registrations[m]?.map Registration.identity

def firedOf (m : ℕ) : ℕ := registry.registrations[m]?.elim 0 (·.fired)

def queueOf (m : ℕ) : List String := registry.registrations[m]?.elim [] (·.queue)

def senderOf (deviceId : String) : Option ℕ := registry.connections[deviceId]?.bind (·.superseded)

/-- The places where the sender of the signal of registration `m` is: in the table, with a
register that is about to use it, or used. -/
def senders (deviceId : String) (m : ℕ) : ℕ :=
  (if registry.senderOf deviceId = some m then 1 else 0) +
    (registry.returning.filterMap Prod.snd).count m + registry.firedOf m

/-- Registration `k` is the next one after `m` for the device of both. -/
def Next (m k : ℕ) : Prop :=
  m < k ∧ ∃ deviceId c c', registry.identity m = some (deviceId, c) ∧ registry.identity k = some (deviceId, c') ∧
    ∀ j, m < j → j < k → ∀ c, registry.identity j ≠ some (deviceId, c)

end ConnectionRegistry

section Views

variable (registry : ConnectionRegistry) {id : String × String}

theorem identity_lt {m : ℕ} (h : registry.identity m = some id) : m < registry.registrations.length := by
  obtain ⟨r, hr, -⟩ := Option.map_eq_some_iff.mp h
  exact (List.getElem?_eq_some_iff.mp hr).1

theorem identity_register (d c : String) (m : ℕ) : (registry.register d c).identity m =
    if registry.registrations.length = m then some (d, c) else registry.identity m := by
  unfold identity register
  rw [get_append]
  split <;> rfl

theorem firedOf_register (d c : String) (m : ℕ) : (registry.register d c).firedOf m = registry.firedOf m :=
  seen_append (fun r : Option Registration => r.elim 0 (·.fired)) _ rfl

theorem queueOf_register (d c : String) (m : ℕ) : (registry.register d c).queueOf m = registry.queueOf m :=
  seen_append (fun r : Option Registration => r.elim [] (·.queue)) _ rfl

theorem senderOf_register (d c d' : String) : (registry.register d c).senderOf d' =
    if d = d' then some registry.registrations.length else registry.senderOf d' := by
  unfold senderOf register
  rw [get_insert]
  split <;> rfl

variable (n : ℕ) (f : Registration → Registration)

theorem identity_update (hf : ∀ r, (f r).identity = r.identity) (m : ℕ) :
    (registry.update n f).identity m = registry.identity m :=
  seen_modify_same (fun r : Option Registration => r.map Registration.identity)
    fun r => congrArg some (hf r)

theorem firedOf_update (hf : ∀ r, (f r).fired = r.fired) (m : ℕ) :
    (registry.update n f).firedOf m = registry.firedOf m :=
  seen_modify_same (fun r : Option Registration => r.elim 0 (·.fired)) hf

theorem queueOf_update (hf : ∀ r, (f r).queue = r.queue) (m : ℕ) :
    (registry.update n f).queueOf m = registry.queueOf m :=
  seen_modify_same (fun r : Option Registration => r.elim [] (·.queue)) hf

theorem queueOf_update_queue {n : ℕ} {r : Registration} (hr : registry.registrations[n]? = some r)
    (f : List String → List String) (m : ℕ) : (registry.update n fun r => { r with queue := f r.queue }).queueOf m =
      if n = m then f r.queue else registry.queueOf m :=
  seen_modify (fun r : Option Registration => r.elim [] (·.queue)) _ hr

theorem identity_sendSuperseded (sndr : Option ℕ) (m : ℕ) :
    (registry.sendSuperseded sndr).identity m = registry.identity m := by
  cases sndr with
  | none => rfl
  | some n => exact identity_update registry n (fun r => { r with fired := r.fired + 1 }) (fun _ => rfl) m

theorem map_identity_sendSuperseded (sndr : Option ℕ) :
    (registry.sendSuperseded sndr).registrations.map Registration.identity =
      registry.registrations.map Registration.identity := by
  cases sndr with
  | none => rfl
  | some =>
    refine map_modify_same _ ?_ _ _
    exact fun _ => rfl

theorem queueOf_sendSuperseded (sndr : Option ℕ) (m : ℕ) :
    (registry.sendSuperseded sndr).queueOf m = registry.queueOf m := by
  cases sndr with
  | none => rfl
  | some n => exact queueOf_update registry n (fun r => { r with fired := r.fired + 1 }) (fun _ => rfl) m

/-- A signal that is sent is sent once more than before. -/
theorem firedOf_sendSuperseded {sndr : Option ℕ} {m : ℕ} (hm : registry.identity m = some id) :
    (registry.sendSuperseded sndr).firedOf m = registry.firedOf m + if sndr = some m then 1 else 0 := by
  obtain ⟨r, hr, -⟩ := Option.map_eq_some_iff.mp hm
  cases sndr with
  | none => rfl
  | some n =>
    unfold sendSuperseded update firedOf
    rw [get_modify]
    by_cases hnm : n = m
    · rw [if_pos hnm, if_pos (congrArg some hnm), hr]
      rfl
    · rw [if_neg hnm, if_neg fun h => hnm (Option.some.inj h)]
      rfl

end Views

end Rctl.Signal
