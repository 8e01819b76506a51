/-
# Presence agrees with ownership

A device is present in the presence table and owned in the registry, and the two are written
one after the other. What a socket does is, seen through both tables, one of six changes
(`Change`): its presence is put, its connection inserted, then the connection is unregistered
and the presence removed, each only if it is still its own; or the tables stay as they are.

Two sockets of one device can put their presences in one order and register in the other, and
then the tables name different connections for as long as both serve. Where the socket that put its
presence last has not registered yet whenever one of the device registers, the tables agree whenever
every socket is between none of its steps.
-/
import Rctl.Signal.Sockets

namespace Rctl.Signal

open OrdMap StateRun

inductive Kind
  | fresh
  | present
  | registered
  | unregistered
  | gone
  deriving DecidableEq, Repr

def Stage.kind : Stage → Kind
  | .authenticated => .fresh
  | .present => .present
  | .registering _ | .serving _ | .notified _ | .sending _ | .leaving _ => .registered
  | .unregistered _ => .unregistered
  | .gone => .gone

def Socket.seen (s : Socket) : String × String × Kind := (s.deviceId, s.connectionId, s.stage.kind)

namespace SignalServer

def presenceOf (accountOf : String → String) (server : SignalServer) (d : String) : Option String :=
  server.online[(accountOf d, d)]?.map (·.connectionId)

def ownerOf (server : SignalServer) (d : String) : Option String :=
  server.connections.connections[d]?.map (·.connectionId)

def seen (server : SignalServer) (i : ℕ) : Option (String × String × Kind) :=
  server.sockets[i]?.map Socket.seen

end SignalServer

/-- A step that keeps to the order: a new socket has a connection id of its own, and when a socket
registers, the device's presence is that of a socket that has not registered yet. -/
def Orderly (accountOf : String → String) (e : SocketEntry) : Prop :=
  match e.call with
  | .accepted _ connectionId => ∀ socket ∈ e.pre.sockets, socket.connectionId ≠ connectionId
  | .advance i _ => e.pre.connections.guards.isEmpty = true → ∀ socket ∈ e.pre.sockets[i]?, socket.stage = .present →
    ∃ other ∈ e.pre.sockets, other.deviceId = socket.deviceId ∧ other.stage = .present ∧
      e.pre.presenceOf accountOf socket.deviceId = some other.connectionId
  | _ => True

instance (accountOf : String → String) (e : SocketEntry) : Decidable (Orderly accountOf e) := by
  unfold Orderly
  split <;> infer_instance

section

variable (accountOf : String → String)

/-- What a step that keeps to the order does to the tables. -/
inductive Change (server server' : SignalServer) : Prop
  | same (hseen : ∀ j, server'.seen j = server.seen j)
    (hpresence : ∀ d, server'.presenceOf accountOf d = server.presenceOf accountOf d)
    (howner : ∀ d, server'.ownerOf d = server.ownerOf d)
  | accepted (i : ℕ) (d c : String) (hi : server.seen i = none)
    (hnew : ∀ j d' k, server.seen j ≠ some (d', c, k))
    (hseen : ∀ j, server'.seen j = if i = j then some (d, c, .fresh) else server.seen j)
    (hpresence : ∀ d, server'.presenceOf accountOf d = server.presenceOf accountOf d)
    (howner : ∀ d, server'.ownerOf d = server.ownerOf d)
  | put (i : ℕ) (d c : String) (hi : server.seen i = some (d, c, .fresh))
    (hseen : ∀ j, server'.seen j = if i = j then some (d, c, .present) else server.seen j)
    (hpresence : ∀ d', server'.presenceOf accountOf d' = if d = d' then some c else server.presenceOf accountOf d')
    (howner : ∀ d, server'.ownerOf d = server.ownerOf d)
  | inserted (i : ℕ) (d c : String) (hi : server.seen i = some (d, c, .present))
    (hlast : ∃ j c', server.seen j = some (d, c', .present) ∧ server.presenceOf accountOf d = some c')
    (hseen : ∀ j, server'.seen j = if i = j then some (d, c, .registered) else server.seen j)
    (hpresence : ∀ d, server'.presenceOf accountOf d = server.presenceOf accountOf d)
    (howner : ∀ d', server'.ownerOf d' = if d = d' then some c else server.ownerOf d')
  | unregistered (i : ℕ) (d c : String) (hi : server.seen i = some (d, c, .registered))
    (hseen : ∀ j, server'.seen j = if i = j then some (d, c, .unregistered) else server.seen j)
    (hpresence : ∀ d, server'.presenceOf accountOf d = server.presenceOf accountOf d)
    (howner : ∀ d', server'.ownerOf d' = if d = d' ∧ server.ownerOf d = some c then none else server.ownerOf d')
  | removed (i : ℕ) (d c : String) (hi : server.seen i = some (d, c, .unregistered))
    (hseen : ∀ j, server'.seen j = if i = j then some (d, c, .gone) else server.seen j)
    (hpresence : ∀ d', server'.presenceOf accountOf d' =
      if d = d' ∧ server.presenceOf accountOf d = some c then none else server.presenceOf accountOf d')
    (howner : ∀ d, server'.ownerOf d = server.ownerOf d)

end

/-! ### The views after a step -/

open SignalServer

variable {accountOf : String → String} {server : SignalServer} {i : ℕ} {socket : Socket}

theorem seen_setStage (server : SignalServer) (hsoc : server.sockets[i]? = some socket) (stage : Stage) (j : ℕ) :
    (server.setStage i stage).seen j =
      if i = j then some (socket.deviceId, socket.connectionId, stage.kind) else server.seen j :=
  Records.seen_modify (fun s : Option Socket => s.map Socket.seen) _ hsoc

theorem seen_setStage_same (server : SignalServer) (hsoc : server.sockets[i]? = some socket) {stage : Stage}
    (hk : stage.kind = socket.stage.kind) (j : ℕ) : (server.setStage i stage).seen j = server.seen j := by
  rw [seen_setStage server hsoc]
  split_ifs with hij
  · rw [← hij, seen, hsoc, hk]
    rfl
  · rfl

theorem get_online_insert (online : MemoryBackend) (device : OnlineDevice)
    (hac : device.accountId = accountOf device.deviceId) (d : String) :
    (online.putPresence device)[(accountOf d, d)]?.map (·.connectionId) =
      if device.deviceId = d then some device.connectionId else online[(accountOf d, d)]?.map (·.connectionId) := by
  rw [MemoryBackend.putPresence, get_insert, hac]
  by_cases hd : device.deviceId = d
  · rw [if_pos hd, hd, if_pos rfl]
    rfl
  · rw [if_neg hd, if_neg fun h => hd (Prod.mk.inj h).2]

theorem get_online_updatePresence (online : MemoryBackend) (a d c : String) (status : DeviceStatus) (now : UInt64)
    (id : PresenceIdentity) :
    ((online.updatePresence a d c status now).2)[id]?.map (·.connectionId) = online[id]?.map (·.connectionId) := by
  unfold MemoryBackend.updatePresence
  split
  · rfl
  · split
    · rfl
    · rw [get_modify]
      split
      · rw [Option.map_map]
        rfl
      · rfl

theorem get_online_removePresence (online : MemoryBackend) (d c d' : String) :
    ((online.removePresence (accountOf d) d c).2)[(accountOf d', d')]?.map (·.connectionId) =
      if d = d' ∧ online[(accountOf d, d)]?.map (·.connectionId) = some c then none
      else online[(accountOf d', d')]?.map (·.connectionId) := by
  unfold MemoryBackend.removePresence
  have hany : (online[(accountOf d, d)]?.any (·.connectionId == c)) = true ↔
      online[(accountOf d, d)]?.map (·.connectionId) = some c := by
    cases online[(accountOf d, d)]? <;> simp
  by_cases hm : online[(accountOf d, d)]?.map (·.connectionId) = some c
  · rw [if_pos (hany.mpr hm), get_erase]
    by_cases hd : d = d'
    · subst hd
      rw [if_pos rfl, if_pos ⟨rfl, hm⟩]
      rfl
    · rw [if_neg fun h => hd (Prod.mk.inj h).2, if_neg fun h => hd h.1]
  · rw [if_neg fun h => hm (hany.mp h), if_neg fun h => hm h.2]

def RegistryAction.keepsTable : RegistryAction → Bool
  | .register _ _ | .unregister _ _ => false
  | _ => true

theorem connections_registryStep (reg : ConnectionRegistry) {act : RegistryAction}
    (hac : act.keepsTable = true) : (registryStep reg act).2.connections = reg.connections := by
  have hs := registryStep_spec reg act
  generalize (registryStep reg act).1 = out at hs
  generalize (registryStep reg act).2 = reg' at hs
  cases hs with
  | inserted | unregistered | notUnregistered => cases hac
  | registered _ _ prev => exact sendSuperseded_connections reg prev
  | _ => rfl

theorem owner_unregister (reg : ConnectionRegistry) (d c d' : String) :
    ((reg.unregister d c).2.connections)[d']?.map (·.connectionId) =
      if d = d' ∧ reg.connections[d]?.map (·.connectionId) = some c then none
      else reg.connections[d']?.map (·.connectionId) := by
  unfold ConnectionRegistry.unregister
  have ho : reg.isOwner d c = true ↔ reg.connections[d]?.map (·.connectionId) = some c := by
    rw [isOwner_eq_true, Option.map_eq_some_iff]
  cases hc : reg.isOwner d c with
  | false =>
    have hother : ¬ (d = d' ∧ reg.connections[d]?.map (·.connectionId) = some c) := by
      rintro ⟨-, hm⟩
      rw [ho.mpr hm] at hc
      cases hc
    rw [if_neg hother]
    rfl
  | true =>
    show ((reg.sendSuperseded _).connections.erase d)[d']?.map _ = _
    rw [sendSuperseded_connections, get_erase]
    by_cases hd : d = d'
    · rw [if_pos hd, if_pos ⟨hd, ho.mp hc⟩]
      rfl
    · rw [if_neg hd, if_neg fun h => hd h.1]

/-- A call on the registry that leaves its table alone is seen in neither table. -/
theorem registry_same (accountOf : String → String) (server : SignalServer) (act : RegistryAction)
    (hac : act.keepsTable = true) : (∀ j, (server.registry act).2.seen j = server.seen j) ∧
      (∀ d, (server.registry act).2.presenceOf accountOf d = server.presenceOf accountOf d) ∧
      ∀ d, (server.registry act).2.ownerOf d = server.ownerOf d := by
  refine ⟨fun j => rfl, fun d => rfl, fun d => ?_⟩
  show (registryStep server.connections act).2.connections[d]?.map _ = _
  rw [connections_registryStep server.connections hac]
  rfl

/-! ### Every step is one of the changes -/

variable {d c : String} {k : Kind}

section Steps

variable {n : ℕ}

theorem Change.refl (server : SignalServer) : Change accountOf server server :=
  .same (fun _ => rfl) (fun _ => rfl) fun _ => rfl

theorem seen_eq_some {j : ℕ} (h : server.seen j = some (d, c, k)) :
    ∃ s ∈ server.sockets, s.deviceId = d ∧ s.connectionId = c ∧ s.stage.kind = k := by
  obtain ⟨s, hs, hsn⟩ := Option.map_eq_some_iff.mp h
  obtain ⟨hd, hr⟩ := Prod.mk.inj hsn
  obtain ⟨hc, hk⟩ := Prod.mk.inj hr
  exact ⟨s, List.mem_of_getElem? hs, hd, hc, hk⟩

variable (hsoc : server.sockets[i]? = some socket)
include hsoc

/-- A call on the registry that leaves its table alone, after which the stage is of the same kind. -/
theorem change_registry (act : RegistryAction) (hac : act.keepsTable = true) (stage : Stage)
    (hk : stage.kind = socket.stage.kind) :
    Change accountOf server ((server.registry act).2.setStage i stage) := by
  obtain ⟨hs, hp, ho⟩ := registry_same accountOf server act hac
  refine .same (fun j => ?_) hp ho
  rw [seen_setStage_same (server.registry act).2 hsoc hk]
  exact hs j

theorem seen_of_stage : server.seen i = some (socket.deviceId, socket.connectionId, socket.stage.kind) := by
  rw [seen, hsoc]
  rfl

theorem change_put (hst : socket.stage = .authenticated)
    (now : UInt64) : Change accountOf server (server.advance accountOf i socket now) := by
  have hs := seen_of_stage hsoc
  rw [hst] at hs
  unfold advance
  rw [hst]
  refine .put i socket.deviceId socket.connectionId hs
    (fun j => seen_setStage { server with online := _ } hsoc .present j) (fun d => ?_) fun d => rfl
  exact get_online_insert server.online
    ⟨accountOf socket.deviceId, socket.deviceId, .online, now, socket.connectionId⟩ rfl d

theorem change_register (hst : socket.stage = .present)
    (hlast : server.connections.guards.isEmpty = true → ∃ other ∈ server.sockets,
      other.deviceId = socket.deviceId ∧ other.stage = .present ∧
        server.presenceOf accountOf socket.deviceId = some other.connectionId) (now : UInt64) :
    Change accountOf server (server.advance accountOf i socket now) := by
  have hsn := seen_of_stage hsoc
  rw [hst] at hsn
  unfold advance registry
  rw [hst]
  cases hgs : server.connections.guards.isEmpty with
  | false =>
    have hs : registryStep server.connections (.register socket.deviceId socket.connectionId) =
        (.waiting, server.connections) := if_neg (by simp [hgs])
    simp only [hs]
    exact .refl server
  | true =>
    have hs : registryStep server.connections (.register socket.deviceId socket.connectionId) =
        (.inserted server.connections.registrations.length,
          server.connections.register socket.deviceId socket.connectionId) := if_pos hgs
    simp only [hs]
    obtain ⟨other, hm, hd, hpr, hp⟩ := hlast hgs
    obtain ⟨j, hj⟩ := List.mem_iff_getElem?.mp hm
    have hj := seen_of_stage hj
    rw [hd, hpr] at hj
    refine .inserted i socket.deviceId socket.connectionId hsn ⟨j, _, hj, hp⟩ (fun j => ?_) (fun _ => rfl) fun d => ?_
    · exact seen_setStage { server with connections := server.connections.register _ _ } hsoc _ j
    · show ((server.connections.register _ _).connections)[d]?.map _ = _
      rw [ConnectionRegistry.register, get_insert]
      split <;> rfl

theorem change_unregister (hst : socket.stage = .leaving n)
    (now : UInt64) : Change accountOf server (server.advance accountOf i socket now) := by
  have hsn := seen_of_stage hsoc
  rw [hst] at hsn
  unfold advance registry
  rw [hst]
  cases hgs : server.connections.guards.isEmpty with
  | false =>
    have hs : registryStep server.connections (.unregister socket.deviceId socket.connectionId) =
        (.waiting, server.connections) := if_neg (by simp [hgs])
    simp only [hs]
    exact .refl server
  | true =>
    have hs : registryStep server.connections (.unregister socket.deviceId socket.connectionId) =
        (.unregistered (server.connections.unregister socket.deviceId socket.connectionId).1,
          (server.connections.unregister socket.deviceId socket.connectionId).2) := if_pos hgs
    simp only [hs]
    refine .unregistered i socket.deviceId socket.connectionId hsn (fun j => ?_) (fun _ => rfl) fun d => ?_
    · exact seen_setStage { server with connections := (server.connections.unregister _ _).2 } hsoc (.unregistered n) j
    · exact owner_unregister server.connections socket.deviceId socket.connectionId d

theorem change_remove (hst : socket.stage = .unregistered n)
    (now : UInt64) : Change accountOf server (server.advance accountOf i socket now) := by
  have hs := seen_of_stage hsoc
  rw [hst] at hs
  unfold advance
  rw [hst]
  refine .removed i socket.deviceId socket.connectionId hs (fun j => ?_) (fun d => ?_) fun _ => rfl
  · exact seen_setStage (registry _ (.dropReceiver n)).2 hsoc .gone j
  · exact get_online_removePresence server.online socket.deviceId socket.connectionId d

theorem advance_change (hlast : server.connections.guards.isEmpty = true → socket.stage = .present →
      ∃ other ∈ server.sockets, other.deviceId = socket.deviceId ∧ other.stage = .present ∧
        server.presenceOf accountOf socket.deviceId = some other.connectionId) (now : UInt64) :
    Change accountOf server (server.advance accountOf i socket now) := by
  cases hst : socket.stage with
  | authenticated => exact change_put hsoc hst now
  | present => exact change_register hsoc hst (fun hgs => hlast hgs hst) now
  | leaving => exact change_unregister hsoc hst now
  | unregistered => exact change_remove hsoc hst now
  | registering | sending =>
    unfold advance
    rw [hst]
    exact change_registry hsoc _ rfl _ (by rw [hst]; rfl)
  | notified n =>
    have hch (stage : Stage) (hk : stage.kind = .registered) : Change accountOf server _ :=
      change_registry hsoc (.acquireOwnership socket.deviceId socket.connectionId) rfl stage
        (by rw [hk, hst]; rfl)
    unfold advance
    rw [hst]
    generalize server.registry (.acquireOwnership socket.deviceId socket.connectionId) = res at hch
    simp only
    split
    · exact hch (.sending n) rfl
    · exact hch (.leaving n) rfl
  | serving n | gone =>
    unfold advance
    rw [hst]
    exact .refl server

theorem serve_change (hst : socket.stage = .serving n)
    (action : SocketAction) : Change accountOf server (server.serve accountOf i socket n action) := by
  have hl : Change accountOf server (server.setStage i (.leaving n)) :=
    .same (seen_setStage_same server hsoc (by rw [hst]; rfl)) (fun _ => rfl) fun _ => rfl
  cases action with
  | accepted | advance | enqueue => exact .refl server
  | leave => exact hl
  | notification =>
    have hch : Change accountOf server _ :=
      change_registry hsoc (.receive n) rfl (.notified n) (by rw [hst]; rfl)
    have hr := registry_same accountOf server (.receive n) rfl
    unfold serve
    generalize server.registry (.receive n) = result at hch hr
    simp only
    split
    · exact hch
    · exact .same hr.1 hr.2.1 hr.2.2
  | refresh =>
    unfold serve
    simp only
    split
    · exact .refl server
    · exact hl
    · exact hl
  | setDeviceStatus _ status now =>
    refine .same (fun _ => rfl) (fun d => ?_) fun _ => rfl
    exact get_online_updatePresence server.online _ _ _ status now (accountOf d, d)

omit hsoc in
/-- What every action does that keeps to the order is one of the changes. -/
theorem socketStep_change (server : SignalServer) (action : SocketAction)
    (ho : Orderly accountOf (entry (socketStep accountOf) server action)) :
    Change accountOf server (socketStep accountOf server action).2 := by
  have hs (i : ℕ) : Change accountOf server (server.whileServing accountOf i action) := by
    unfold whileServing
    split
    · exact .refl server
    · rename_i socket hsoc
      split
      · rename_i hst
        exact serve_change hsoc hst action
      · exact .refl server
  cases action with
  | accepted d c =>
    refine .accepted server.sockets.length d c ?_ (fun j d' k hj => ?_) (fun j => ?_) (fun _ => rfl) fun _ => rfl
    · rw [seen, List.getElem?_eq_none (Nat.le_refl _)]
      rfl
    · obtain ⟨other, hot, -, hc, -⟩ := seen_eq_some hj
      exact ho other hot hc
    · show (server.sockets ++ [_])[j]?.map Socket.seen = _
      rw [Records.get_append]
      split <;> rfl
  | advance i now =>
    unfold socketStep
    simp only
    split
    · exact .refl server
    · rename_i socket hsoc
      exact advance_change hsoc (fun hgs => ho hgs socket hsoc) now
  | notification i | refresh i | setDeviceStatus i | leave i => exact hs i
  | enqueue d notification =>
    obtain ⟨hsn, hp, hown⟩ := registry_same accountOf server (.enqueue d notification) rfl
    exact .same hsn hp hown

end Steps

/-! ### The invariant -/

/-- The presence is that of a socket about to register, or the tables agree, or the owner has
unregistered and has yet to remove its presence. -/
def Settled (accountOf : String → String) (server : SignalServer) (d : String) : Prop :=
  (∃ i c, server.seen i = some (d, c, .present) ∧ server.presenceOf accountOf d = some c) ∨
    server.presenceOf accountOf d = server.ownerOf d ∨
      server.ownerOf d = none ∧ ∃ i c, server.seen i = some (d, c, .unregistered) ∧
        server.presenceOf accountOf d = some c

structure PresenceInv (accountOf : String → String) (server : SignalServer) : Prop where
  /-- Connection ids are those of one socket. -/
  ids : ∀ i j d d' c k k', server.seen i = some (d, c, k) → server.seen j = some (d', c, k') → i = j
  owner : ∀ d c, server.ownerOf d = some c → ∃ i, server.seen i = some (d, c, .registered)
  settled : ∀ d, Settled accountOf server d

section Inv

variable {server server' : SignalServer} {k k' : Kind}

/-- What holds of the tables stays if the tables and the sockets it is about do. -/
theorem Settled.kept (hst : Settled accountOf server d)
    (hp : server'.presenceOf accountOf d = server.presenceOf accountOf d) (ho : server'.ownerOf d = server.ownerOf d)
    (hsn : ∀ a c k, k = .present ∨ k = .unregistered → server.seen a = some (d, c, k) →
      server.presenceOf accountOf d = some c → server'.seen a = some (d, c, k)) : Settled accountOf server' d := by
  rw [Settled, hp, ho]
  rcases hst with ⟨a, c, ha, hc⟩ | h | ⟨hno, a, c, ha, hc⟩
  · exact .inl ⟨a, c, hsn a c _ (.inl rfl) ha hc, hc⟩
  · exact .inr (.inl h)
  · exact .inr (.inr ⟨hno, a, c, hsn a c _ (.inr rfl) ha hc, hc⟩)

theorem presenceInv_start (cap : ℕ) : PresenceInv accountOf (.start cap) where
  ids := fun i j d d' c k k' h => by cases h
  owner := fun d c h => by simp [start, ownerOf, ConnectionRegistry.new] at h
  settled := fun d => .inr (.inl (by simp [start, ownerOf, presenceOf, ConnectionRegistry.new]))

section

variable (hI : PresenceInv accountOf server)
include hI

/-- A socket that moves on keeps its device and its connection. -/
theorem ids_of_moved (hi : server.seen i = some (d, c, k))
    (hs : ∀ j, server'.seen j = if i = j then some (d, c, k') else server.seen j) :
    ∀ i j d d' c k k', server'.seen i = some (d, c, k) → server'.seen j = some (d', c, k') → i = j := by
  have hbf : ∀ j d₁ c₁ k₁, server'.seen j = some (d₁, c₁, k₁) → ∃ k, server.seen j = some (d₁, c₁, k) := by
    intro j d₁ c₁ k₁ hj
    rw [hs] at hj
    split_ifs at hj with hij
    · cases hj
      exact ⟨k, hij ▸ hi⟩
    · exact ⟨k₁, hj⟩
  intro a b d₁ d₂ c₁ k₁ k₂ ha hb
  obtain ⟨_, ha⟩ := hbf a d₁ c₁ k₁ ha
  obtain ⟨_, hb⟩ := hbf b d₂ c₁ k₂ hb
  exact hI.ids a b d₁ d₂ c₁ _ _ ha hb

theorem settled_step (hch : Change accountOf server server') (d : String) : Settled accountOf server' d := by
  cases hch with
  | same hsn hp ho => exact (hI.settled d).kept (hp d) (ho d) fun a c₁ k _ ha _ => (hsn a).trans ha
  | accepted _ _ _ hi _ hsn hp ho => exact (hI.settled d).kept (hp d) (ho d) (by grind)
  | put i d' c hi hsn hp ho =>
    by_cases hd : d' = d
    · exact .inl ⟨i, c, by rw [hsn, if_pos rfl, hd], by rw [hp, if_pos hd]⟩
    · exact (hI.settled d).kept (by rw [hp, if_neg hd]) (ho d) (by grind)
  | inserted i d' c hi hla hsn hp ho =>
    by_cases hd : d' = d
    · subst hd
      obtain ⟨j, c', hj, hc⟩ := hla
      by_cases hij : i = j
      · -- the socket that put its presence last registers
        subst hij
        cases hi.symm.trans hj
        exact .inr (.inl (by rw [hp, ho, if_pos rfl, hc]))
      · exact .inl ⟨j, c', by rw [hsn, if_neg hij, hj], by rw [hp, hc]⟩
    · exact (hI.settled d).kept (hp d) (by rw [ho, if_neg hd]) (by grind)
  | unregistered i d' c hi hsn hp ho =>
    by_cases hmn : d' = d ∧ server.ownerOf d' = some c
    · obtain ⟨rfl, hc⟩ := hmn
      rw [Settled, hp, ho, if_pos ⟨rfl, hc⟩]
      rcases hI.settled d' with ⟨a, c₁, ha, hp⟩ | hold | ⟨hno, -⟩
      · exact .inl ⟨a, c₁, by grind, hp⟩
      · exact .inr (.inr ⟨rfl, i, c, by grind, hold.trans hc⟩)
      · cases hno.symm.trans hc
    · exact (hI.settled d).kept (hp d) (by rw [ho, if_neg hmn]) (by grind)
  | removed i d' c hi hsn hp ho =>
    by_cases hmn : d' = d ∧ server.presenceOf accountOf d' = some c
    · obtain ⟨rfl, hc⟩ := hmn
      rw [Settled, hp, ho, if_pos ⟨rfl, hc⟩]
      rcases hI.settled d' with ⟨a, c₁, ha, hp⟩ | hold | ⟨hno, -⟩
      · have := hI.ids a i d' d' c _ _ (Option.some.inj (hp.symm.trans hc) ▸ ha) hi
        grind
      · obtain ⟨a, ha⟩ := hI.owner d' c (hold.symm.trans hc)
        have := hI.ids a i d' d' c _ _ ha hi
        grind
      · exact .inr (.inl hno.symm)
    · refine (hI.settled d).kept (by rw [hp, if_neg hmn]) (ho d) fun a c₁ k hk ha hc => ?_
      rw [hsn, if_neg fun hia => ?_, ha]
      subst hia
      cases hi.symm.trans ha
      exact hmn ⟨rfl, hc⟩

theorem presenceInv_step (hch : Change accountOf server server') : PresenceInv accountOf server' := by
  refine ⟨?_, ?_, settled_step hI hch⟩
  · cases hch with
    | same hsn => simpa only [hsn] using hI.ids
    | accepted _ _ _ _ hn hsn =>
      intro a b d₁ d₂ c₁ k₁ k₂ ha hb
      have := hI.ids a b d₁ d₂ c₁ k₁ k₂
      grind
    | put _ _ _ hi hsn | inserted _ _ _ hi _ hsn | unregistered _ _ _ hi hsn | removed _ _ _ hi hsn =>
      exact ids_of_moved hI hi hsn
  · intro d₁ c₁ h
    cases hch with
    | same hsn _ ho | accepted _ _ _ _ _ hsn _ ho | put _ _ _ _ hsn _ ho
    | removed _ _ _ _ hsn _ ho =>
      obtain ⟨a, ha⟩ := hI.owner d₁ c₁ (ho d₁ ▸ h)
      exact ⟨a, by grind⟩
    | inserted i _ _ _ _ hsn _ ho =>
      rw [ho] at h
      split at h
      · exact ⟨i, by grind⟩
      · obtain ⟨a, ha⟩ := hI.owner d₁ c₁ h
        exact ⟨a, by grind⟩
    | unregistered _ _ _ _ hsn _ ho =>
      rw [ho] at h
      split at h
      · cases h
      · obtain ⟨a, ha⟩ := hI.owner d₁ c₁ h
        exact ⟨a, by grind⟩

end

end Inv

/-! ### Moments between the steps -/

/-- A socket that has done one of its steps and is about to do the next one. -/
def Stage.between : Stage → Bool
  | .present | .registering _ | .leaving _ | .unregistered _ => true
  | .authenticated | .serving _ | .notified _ | .sending _ | .gone => false

def Quiescent (server : SignalServer) (d : String) : Prop :=
  ∀ socket ∈ server.sockets, socket.deviceId = d → socket.stage.between = false

instance (server : SignalServer) (d : String) : Decidable (Quiescent server d) :=
  inferInstanceAs (Decidable (∀ socket ∈ server.sockets, socket.deviceId = d → socket.stage.between = false))

theorem Quiescent.seen_ne {d : String} (h : Quiescent server d) {c : String} (hk : k = .present ∨ k = .unregistered) :
    server.seen i ≠ some (d, c, k) := by
  intro hi
  obtain ⟨socket, hsoc, hd, -, hki⟩ := seen_eq_some hi
  have hb := h socket hsoc hd
  cases hst : socket.stage <;> rw [hst] at hki hb <;> subst hki <;>
    simp [Stage.kind, Stage.between] at *

/-- If the socket that put its presence last has not registered yet whenever one of the device
registers, the presence of a device and its owner are the same connection, or there is neither,
whenever none of the device's sockets is between two steps. -/
theorem presence_agrees_with_owner (accountOf : String → String) (capacity : ℕ) (actions : List SocketAction)
    (d : String) (horderly : ∀ e ∈ trace (socketStep accountOf) (.start capacity) actions, Orderly accountOf e)
    (hquiescent : Quiescent (final (socketStep accountOf) (.start capacity) actions) d) :
    (final (socketStep accountOf) (.start capacity) actions).presenceOf accountOf d =
      (final (socketStep accountOf) (.start capacity) actions).ownerOf d := by
  have hI : PresenceInv accountOf (final (socketStep accountOf) (.start capacity) actions) :=
    run_inv_of (socketStep accountOf)
      (fun server act horderly hI => presenceInv_step hI (socketStep_change server act horderly))
      actions (presenceInv_start capacity) horderly
  rcases hI.settled d with ⟨i, c, hi, -⟩ | ha | ⟨-, i, c, hi, -⟩
  · exact absurd hi (hquiescent.seen_ne (.inl rfl))
  · exact ha
  · exact absurd hi (hquiescent.seen_ne (.inr rfl))

def reconnect : List SocketAction :=
  [.accepted "phone" "a", .advance 0 1, .advance 0 1, .advance 0 1, .accepted "phone" "b", .advance 1 2,
    .advance 1 2, .advance 1 2, .leave 0, .advance 0 3, .advance 0 3]

theorem presence_agrees_with_owner_reconnect :
    (final (socketStep fun _ => "home") (.start 4) reconnect).presenceOf (fun _ => "home") "phone" =
      (final (socketStep fun _ => "home") (.start 4) reconnect).ownerOf "phone" :=
  presence_agrees_with_owner (fun _ => "home") 4 reconnect "phone" (by decide +kernel) (by decide +kernel)

/-- Two sockets of one device that put their presences in one order and register in the other. -/
def crossed : List SocketAction :=
  [.accepted "phone" "a", .accepted "phone" "b", .advance 0 1, .advance 1 1, .advance 1 2, .advance 1 2,
    .advance 0 3, .advance 0 3]

/-- Both serve, and the tables name different connections. When the socket that was superseded
has left, the device that is owned has no presence. -/
theorem presence_disagrees_when_crossed :
    let both := final (socketStep fun _ => "home") (.start 4) crossed
    let later := final (socketStep fun _ => "home") (.start 4) (crossed ++ [.leave 1, .advance 1 4, .advance 1 4])
    (Quiescent both "phone" ∧ both.presenceOf (fun _ => "home") "phone" = some "b" ∧
      both.ownerOf "phone" = some "a") ∧
    Quiescent later "phone" ∧ later.presenceOf (fun _ => "home") "phone" = none ∧
      later.ownerOf "phone" = some "a" := by
  decide +kernel

end Rctl.Signal
