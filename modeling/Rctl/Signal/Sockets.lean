/-
# Signal sockets

`signal-server/src/lib.rs`, `handle_socket` from the authenticated hello on, and the presence
table of the memory backend (`backend.rs`). A socket writes its presence, registers its
connection, serves its device, and at the end takes both back, in `remove_connection`. The two
tables have locks of their own, and between any two of its steps another socket may run.
-/
import Rctl.Signal.Registry

namespace Rctl.Signal

open OrdMap StateRun
open Std (TransCmp LawfulEqCmp)

inductive DeviceStatus
  | online
  | offline
  | busy
  deriving DecidableEq, Repr

structure OnlineDevice where
  accountId : String
  deviceId : String
  status : DeviceStatus
  lastSeenEpochMillis : UInt64
  connectionId : String
  deriving DecidableEq, Repr

inductive PresenceMutation
  | updated
  | missing
  | superseded
  deriving DecidableEq, Repr

/-- An account and one of its devices. -/
abbrev PresenceIdentity := String × String

def PresenceIdentity.cmp : PresenceIdentity → PresenceIdentity → Ordering :=
  compareLex (compareOn (·.1)) (compareOn (·.2))

instance : TransCmp PresenceIdentity.cmp := inferInstanceAs (TransCmp (compareLex _ _))

instance : LawfulEqCmp PresenceIdentity.cmp where
  eq_of_compare {a b} h := by
    simp only [PresenceIdentity.cmp, compareLex, compareOn, Ordering.then_eq_eq, Std.compare_eq_iff_eq] at h
    exact Prod.ext h.1 h.2

abbrev MemoryBackend := Std.ExtTreeMap PresenceIdentity OnlineDevice PresenceIdentity.cmp

namespace MemoryBackend

variable (online : MemoryBackend) (accountId deviceId connectionId : String)

def putPresence (device : OnlineDevice) : MemoryBackend :=
  online.insert (device.accountId, device.deviceId) device

def updatePresence (status : DeviceStatus) (lastSeenEpochMillis : UInt64) : PresenceMutation × MemoryBackend :=
  match online[(accountId, deviceId)]? with
  | none => (.missing, online)
  | some device =>
    if device.connectionId ≠ connectionId then (.superseded, online)
    else (.updated, online.modify (accountId, deviceId) fun device =>
      { device with status := status, lastSeenEpochMillis := lastSeenEpochMillis })

def refreshPresence : PresenceMutation :=
  match online[(accountId, deviceId)]? with
  | none => .missing
  | some device => if device.connectionId = connectionId then .updated else .superseded

def removePresence : Bool × MemoryBackend :=
  if online[(accountId, deviceId)]?.any (·.connectionId == connectionId) then
    (true, online.erase (accountId, deviceId))
  else (false, online)

end MemoryBackend

/-! ### One socket -/

/-- How far a socket has come; `n` is the number of its registration. -/
inductive Stage
  | authenticated
  /-- The presence is written. -/
  | present
  /-- The connection is in the registry; the register has not returned. -/
  | registering (n : ℕ)
  | serving (n : ℕ)
  /-- A notification was taken from the queue. -/
  | notified (n : ℕ)
  /-- The notification is being sent, under an ownership guard. -/
  | sending (n : ℕ)
  /-- The loop is over. -/
  | leaving (n : ℕ)
  | unregistered (n : ℕ)
  | gone
  deriving DecidableEq, Repr

structure Socket where
  deviceId : String
  connectionId : String
  stage : Stage
  deriving DecidableEq, Repr

structure SignalServer where
  connections : ConnectionRegistry
  online : MemoryBackend
  sockets : List Socket

inductive SocketAction
  /-- A socket whose hello was accepted. -/
  | accepted (deviceId connectionId : String)
  /-- The next step of a socket. -/
  | advance (i : ℕ) (now : UInt64)
  /-- In the loop: a notification arrives, the presence is refreshed, the device sets its
  status, or the loop ends. -/
  | notification (i : ℕ)
  | refresh (i : ℕ)
  | setDeviceStatus (i : ℕ) (status : DeviceStatus) (now : UInt64)
  | leave (i : ℕ)
  /-- Another device's request leaves a notification. -/
  | enqueue (deviceId notification : String)
  deriving DecidableEq, Repr

namespace SignalServer

def start (capacity : ℕ) : SignalServer := ⟨.new capacity, ∅, []⟩

-- every device belongs to one account
variable (accountOf : String → String) (server : SignalServer)

def setStage (i : ℕ) (stage : Stage) : SignalServer :=
  { server with sockets := server.sockets.modify i fun s => { s with stage := stage } }

def registry (action : RegistryAction) : RegistryReply × SignalServer :=
  let (reply, connections) := registryStep server.connections action
  (reply, { server with connections := connections })

/-- The register of connection `n` among those that are about to return. -/
def returningIndex (n : ℕ) : ℕ := server.connections.returning.findIdx (·.1 == n)

def guardIndex (socket : Socket) : ℕ :=
  server.connections.guards.findIdx (· == (socket.deviceId, socket.connectionId))

/-- The next step of a socket, as `handle_socket` has them in turn. A call that has to wait for
a lock is tried again. -/
def advance (i : ℕ) (socket : Socket) (now : UInt64) : SignalServer :=
  match socket.stage with
  | .authenticated =>
    let device := ⟨accountOf socket.deviceId, socket.deviceId, .online, now, socket.connectionId⟩
    { server with online := server.online.putPresence device }.setStage i .present
  | .present => match server.registry (.register socket.deviceId socket.connectionId) with
    | (.inserted n, server) => server.setStage i (.registering n)
    | (_, server) => server
  | .registering n => (server.registry (.finishRegister (server.returningIndex n))).2.setStage i (.serving n)
  | .notified n => match server.registry (.acquireOwnership socket.deviceId socket.connectionId) with
    | (.ownership true, server) => server.setStage i (.sending n)
    | (_, server) => server.setStage i (.leaving n)
  | .sending n => (server.registry (.release (server.guardIndex socket))).2.setStage i (.serving n)
  | .leaving n => match server.registry (.unregister socket.deviceId socket.connectionId) with
    | (.unregistered _, server) => server.setStage i (.unregistered n)
    | (_, server) => server
  | .unregistered n =>
    let online := (server.online.removePresence (accountOf socket.deviceId) socket.deviceId socket.connectionId).2
    ({ server with online := online }.registry (.dropReceiver n)).2.setStage i .gone
  | .serving _ | .gone => server

def serve (i : ℕ) (socket : Socket) (n : ℕ) : SocketAction → SignalServer
  | .notification _ => match server.registry (.receive n) with
    | (.received _ _, server) => server.setStage i (.notified n)
    | (_, server) => server
  | .refresh _ =>
    match server.online.refreshPresence (accountOf socket.deviceId) socket.deviceId socket.connectionId with
    | .updated => server
    | .missing | .superseded => server.setStage i (.leaving n)
  | .setDeviceStatus _ status now =>
    { server with online := (server.online.updatePresence (accountOf socket.deviceId) socket.deviceId
        socket.connectionId status now).2 }
  | .leave _ => server.setStage i (.leaving n)
  | _ => server

def whileServing (i : ℕ) (action : SocketAction) : SignalServer :=
  match server.sockets[i]? with
  | none => server
  | some socket => match socket.stage with
    | .serving n => server.serve accountOf i socket n action
    | _ => server

end SignalServer

def socketStep (accountOf : String → String) (server : SignalServer) (action : SocketAction) :
    Unit × SignalServer :=
  ((), match action with
  | .accepted deviceId connectionId =>
    { server with sockets := server.sockets ++ [⟨deviceId, connectionId, .authenticated⟩] }
  | .advance i now => match server.sockets[i]? with
    | none => server
    | some socket => server.advance accountOf i socket now
  | .notification i | .refresh i | .setDeviceStatus i _ _ | .leave i => server.whileServing accountOf i action
  | .enqueue deviceId notification => (server.registry (.enqueue deviceId notification)).2)

abbrev SocketEntry := Entry SignalServer SocketAction Unit

end Rctl.Signal
