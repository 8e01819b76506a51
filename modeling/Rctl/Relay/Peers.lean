/-
# The peers of a relayed session

`relay-server/src/lib.rs`, `SessionPeers`: for each session and transport the table holds the
connection of either role. Every operation runs under the lock of the table; `forward` holds
it only for the lookup, `findPeer` here, and sends the frame after that.

The table is read slot by slot: `slot sessions key role` is the peer of a role, and the lemmas
say what an operation does to every slot.
-/
import Rctl.Lib.OrdMap
import Rctl.Lib.Result
import Rctl.Protocol.Security

namespace Rctl.Relay

open Result OrdMap
open Std (ExtTreeMap TransCmp LawfulEqCmp)

abbrev SessionKey := U128 × TransportPath

/-- An order of the keys, for the map. -/
def SessionKey.cmp : SessionKey → SessionKey → Ordering :=
  compareLex (compareOn (·.1.toNat)) (compareOn (·.2.asStr))

instance : TransCmp SessionKey.cmp := inferInstanceAs (TransCmp (compareLex _ _))

instance : LawfulEqCmp SessionKey.cmp where
  eq_of_compare {a b} h := by
    simp only [SessionKey.cmp, compareLex, compareOn, Ordering.then_eq_eq, Std.compare_eq_iff_eq] at h
    exact Prod.ext (BitVec.eq_of_toNat_eq h.1) (TransportPath.asStr_inj h.2)

structure Peer where
  connectionId : UInt64
  /-- The sending end of the connection's channel. -/
  sender : ℕ
  deriving DecidableEq, Repr

structure PeerSet where
  controller : Option Peer
  controlled : Option Peer
  deriving DecidableEq, Repr

namespace PeerSet

def slot (peers : PeerSet) : SessionRole → Option Peer
  | .controller => peers.controller
  | .controlled => peers.controlled

def setSlot (peers : PeerSet) (role : SessionRole) (peer : Option Peer) : PeerSet :=
  match role with
  | .controller => { peers with controller := peer }
  | .controlled => { peers with controlled := peer }

def isEmpty (peers : PeerSet) : Bool := peers.controller.isNone && peers.controlled.isNone

theorem slot_setSlot (peers : PeerSet) (role r : SessionRole) (peer : Option Peer) :
    (peers.setSlot role peer).slot r = if role = r then peer else peers.slot r := by
  cases role <;> cases r <;> rfl

theorem isEmpty_iff (peers : PeerSet) : peers.isEmpty = true ↔ ∀ role, peers.slot role = none := by
  rw [isEmpty, Bool.and_eq_true, Option.isNone_iff_eq_none, Option.isNone_iff_eq_none]
  refine ⟨fun h role => ?_, fun h => ⟨h .controller, h .controlled⟩⟩
  cases role with
  | controller => exact h.1
  | controlled => exact h.2

end PeerSet

abbrev PeerTable := ExtTreeMap SessionKey PeerSet SessionKey.cmp

def slot (sessions : PeerTable) (key : SessionKey) (role : SessionRole) : Option Peer :=
  sessions[key]?.bind (·.slot role)

/-! ### The operations -/

/-- `entry(key).or_default()`. -/
def orDefault (sessions : PeerTable) (key : SessionKey) : PeerTable :=
  if sessions.contains key then sessions else sessions.insert key ⟨none, none⟩

def register (sessions : PeerTable) (key : SessionKey) (role : SessionRole) (peer : Peer) :
    Except String Unit × PeerTable :=
  let sessions := orDefault sessions key
  if (slot sessions key role).isSome then (.error "relay role already connected", sessions)
  else (.ok (), sessions.modify key (·.setSlot role (some peer)))

def findPeer (sessions : PeerTable) (key : SessionKey) (senderRole : SessionRole) : Except String ℕ := do
  let peers ← okOr sessions[key]? "relay session not paired"
  let peer ← okOr (match senderRole with
    | .controller => peers.controlled
    | .controlled => peers.controller) "relay peer not connected"
  return peer.sender

/-- The slot of the role is cleared if it holds the connection. -/
def withoutConnection (peers : PeerSet) (role : SessionRole) (connectionId : UInt64) : PeerSet :=
  if (peers.slot role).any (·.connectionId == connectionId) then peers.setSlot role none else peers

def remove (sessions : PeerTable) (key : SessionKey) (role : SessionRole) (connectionId : UInt64) : PeerTable :=
  match sessions[key]? with
  | none => sessions
  | some peers =>
    let peers := withoutConnection peers role connectionId
    if peers.isEmpty then sessions.erase key else sessions.insert key peers

/-! ### What they do to the slots -/

/-- No session is kept without a connection. -/
def Populated (sessions : PeerTable) : Prop :=
  ∀ (key : SessionKey) (peers : PeerSet), sessions[key]? = some peers → peers.isEmpty = false

section Slots

variable {sessions : PeerTable} {key : SessionKey} {role : SessionRole} {peer : Peer}

theorem get_orDefault (k : SessionKey) :
    (orDefault sessions key)[k]? = if key = k then some (sessions[k]?.getD ⟨none, none⟩) else sessions[k]? := by
  unfold orDefault
  split
  · rename_i hd
    rw [ExtTreeMap.contains_eq_isSome_getElem?] at hd
    split_ifs with hk
    · subst hk
      obtain ⟨peers, hp⟩ := Option.isSome_iff_exists.mp hd
      rw [hp, Option.getD_some]
    · rfl
  · rename_i hn
    rw [Bool.not_eq_true, contains_eq_false] at hn
    rw [get_insert]
    split_ifs with hk
    · subst hk
      rw [hn, Option.getD_none]
    · rfl

theorem slot_orDefault (k : SessionKey) (r : SessionRole) : slot (orDefault sessions key) k r = slot sessions k r := by
  rw [slot, slot, get_orDefault]
  split
  · cases sessions[k]? with
    | none => cases r <;> rfl
    | some => rfl
  · rfl

theorem register_fst : (register sessions key role peer).1 = .ok () ↔ slot sessions key role = none := by
  unfold register
  simp only [slot_orDefault]
  cases slot sessions key role <;> simp

/-- **A failed registration changes nothing.** -/
theorem register_of_error {e : String} (h : (register sessions key role peer).1 = .error e) :
    (register sessions key role peer).2 = sessions := by
  have ht : slot sessions key role ≠ none := by
    rw [ne_eq, ← register_fst, h]
    nofun
  unfold register
  simp only [slot_orDefault]
  rw [if_pos (Option.isSome_iff_ne_none.mpr ht)]
  unfold orDefault
  split_ifs with hn
  · rfl
  · rw [Bool.not_eq_true, contains_eq_false] at hn
    rw [slot, hn] at ht
    exact absurd rfl ht

theorem get_register (h : (register sessions key role peer).1 = .ok ()) (k : SessionKey) :
    (register sessions key role peer).2[k]? =
      if key = k then some ((sessions[k]?.getD ⟨none, none⟩).setSlot role (some peer)) else sessions[k]? := by
  rw [register_fst] at h
  unfold register
  simp only [slot_orDefault, h]
  rw [Option.isSome_none, if_neg Bool.false_ne_true, get_modify, get_orDefault]
  split <;> rfl

theorem slot_register (h : (register sessions key role peer).1 = .ok ()) (k : SessionKey) (r : SessionRole) :
    slot (register sessions key role peer).2 k r = if key = k ∧ role = r then some peer else slot sessions k r := by
  rw [slot, get_register h]
  by_cases hk : key = k
  · rw [if_pos hk, Option.bind_some, PeerSet.slot_setSlot, slot]
    simp only [hk, true_and]
    split
    · rfl
    · cases sessions[k]? with
      | none => cases r <;> rfl
      | some => rfl
  · rw [if_neg hk, if_neg fun hb => hk hb.1, slot]

theorem findPeer_eq_ok {sender : ℕ} (h : findPeer sessions key role = .ok sender) :
    ∃ peer, slot sessions key role.opposite = some peer ∧ peer.sender = sender := by
  simp only [findPeer, bind_eq_ok, okOr_eq_ok, pure_eq_ok] at h
  obtain ⟨peers, hp, peer, hpe, hs⟩ := h
  refine ⟨peer, ?_, hs⟩
  rw [slot, hp]
  cases role with
  | controller | controlled => exact hpe

theorem get_remove (connectionId : UInt64) (k : SessionKey) : (remove sessions key role connectionId)[k]? =
    if key = k then (sessions[k]?.map (withoutConnection · role connectionId)).filter (!·.isEmpty)
    else sessions[k]? := by
  unfold remove
  split
  · rename_i hn
    split_ifs with hk
    · subst hk
      rw [hn]
      rfl
    · rfl
  · rename_i peers hp
    cases he : (withoutConnection peers role connectionId).isEmpty with
    | true =>
      simp only [he, if_true]
      rw [get_erase]
      split_ifs with hk
      · subst hk
        rw [hp, Option.map_some, Option.filter_some, he]
        rfl
      · rfl
    | false =>
      simp only [he, Bool.false_eq_true, if_false]
      rw [get_insert]
      split_ifs with hk
      · subst hk
        rw [hp, Option.map_some, Option.filter_some, he]
        rfl
      · rfl

theorem slot_filter (peers : PeerSet) (r : SessionRole) :
    ((some peers).filter (!·.isEmpty)).bind (·.slot r) = peers.slot r := by
  rw [Option.filter_some]
  split_ifs with he
  · rfl
  · rw [Bool.not_eq_true, Bool.not_eq_false'] at he
    exact ((peers.isEmpty_iff.mp he) r).symm

/-- **A connection removes itself at most**: the slot of its role, if it holds that connection. -/
theorem slot_remove (connectionId : UInt64) (k : SessionKey) (r : SessionRole) :
    slot (remove sessions key role connectionId) k r =
      if key = k ∧ role = r ∧ (slot sessions key role).any (·.connectionId == connectionId) then none
      else slot sessions k r := by
  rw [slot, get_remove]
  by_cases hk : key = k
  · subst hk
    rw [if_pos rfl, slot, slot]
    cases sessions[key]? with
    | none => simp
    | some peers =>
      rw [Option.map_some, slot_filter, Option.bind_some, Option.bind_some, withoutConnection]
      by_cases ho : (peers.slot role).any (·.connectionId == connectionId) = true
      · rw [if_pos ho, PeerSet.slot_setSlot]
        simp only [ho, true_and, and_true]
      · rw [if_neg ho, if_neg fun ha => ho ha.2.2]
  · rw [if_neg hk, if_neg fun ha => hk ha.1, slot]

theorem populated_register (h : (register sessions key role peer).1 = .ok ()) (hs : Populated sessions) :
    Populated (register sessions key role peer).2 := by
  intro k peers hp
  rw [get_register h] at hp
  split at hp
  · cases hp
    rw [← Bool.not_eq_true, PeerSet.isEmpty_iff]
    intro he
    have hr := he role
    rw [PeerSet.slot_setSlot, if_pos rfl] at hr
    cases hr
  · exact hs k peers hp

theorem populated_remove (connectionId : UInt64) (hs : Populated sessions) :
    Populated (remove sessions key role connectionId) := by
  intro k peers hp
  rw [get_remove] at hp
  split at hp
  · have hf := (Option.filter_eq_some_iff.mp hp).2
    rwa [Bool.not_eq_true'] at hf
  · exact hs k peers hp

theorem eq_empty_of_slots (hs : Populated sessions) (h : ∀ key role, slot sessions key role = none) :
    sessions = ∅ := by
  refine ExtTreeMap.ext_getElem? fun key => ?_
  cases hp : sessions[key]? with
  | none => rfl
  | some peers =>
    have he : peers.isEmpty = true := by
      refine peers.isEmpty_iff.mpr fun role => ?_
      have hsl := h key role
      rwa [slot, hp] at hsl
    rw [hs key peers hp] at he
    cases he

end Slots

end Rctl.Relay
