/-
# Video packets that arrive in pairs

`NativeVideoPacketGroupAssembler.swift`: a packet is kept under the number of its group until the
other one of the group is inserted, and the two are emitted together. A group that would be one
too many takes the place of the group with the smallest number.

What is kept was inserted and its group has not left since (`kept_since`). While no group is one
too many, what is kept and emitted is read off the calls (`final_lossless`).

Key definitions: `insert`, `Leaves`, `Lossless`.
Key theorems: `kept_since`, `insert_lossless`, `packet_groups`.
-/
import Mathlib.Data.List.Perm.Subperm
import Rctl.Lib.Bytes
import Rctl.Lib.OrdMap
import Rctl.Lib.Past
import Rctl.Lib.Run

namespace Rctl.Ios

open ByteString StateRun OrdMap Past Std

structure PacketInsert where
  groupID : UInt64
  index : UInt32
  count : UInt32
  packet : Bytes

def PacketInsert.valid (c : PacketInsert) : Bool := c.count = 2 && c.index < 2

namespace NativeVideoPacketGroupAssembler

/-- The packets of the incomplete groups, by group and index. -/
abbrev Groups := ExtTreeMap UInt64 (ExtTreeMap UInt32 Bytes)

/-- The groups without the oldest one, if that of `groupID` would be one too many. -/
def makeRoom (maximum : ℕ) (groups : Groups) (groupID : UInt64) : Groups :=
  if groups[groupID]? = none ∧ maximum ≤ groups.size then
    match groups.minKey? with
    | some oldest => groups.erase oldest
    | none => groups
  else groups

def insert (maximum : ℕ) (groups : Groups) (c : PacketInsert) : Option (Bytes × Bytes) × Groups :=
  if c.valid then
    let groups := makeRoom maximum groups c.groupID
    let group := (groups[c.groupID]?.getD ∅).insert c.index c.packet
    match group[(0 : UInt32)]?, group[(1 : UInt32)]? with
    | some info, some data => (some (info, data), groups.erase c.groupID)
    | _, _ => (none, groups.insert c.groupID group)
  else (none, groups)

abbrev Call := Entry Groups PacketInsert (Option (Bytes × Bytes))

def Inserts (g : UInt64) (i : UInt32) (p : Bytes) (e : Call) : Prop := e.call = ⟨g, i, 2, p⟩

/-- The group is emitted or dropped. -/
def Leaves (g : UInt64) (e : Call) : Prop := e.call.groupID = g ∧ e.out ≠ none ∨ g ∈ e.pre ∧ g ∉ e.post

def inserted (g : UInt64) (cs : List PacketInsert) : List PacketInsert := cs.filter fun c => c.valid && c.groupID = g

/-- Each packet is inserted once, and there are never more groups begun and not completed than
the maximum. -/
structure Lossless (maximum : ℕ) (cs : List PacketInsert) : Prop where
  once : ∀ g, ((inserted g cs).map (·.index)).Nodup
  few : ∀ ds, ds <+: cs → ∀ gs : List UInt64, gs.Nodup → (∀ g ∈ gs, (inserted g ds).length = 1) → gs.length ≤ maximum

/-- The pairs emitted for a group, and the calls that emit them. -/
def emissions (g : UInt64) (log : List Call) : List (PacketInsert × Bytes × Bytes) :=
  log.filterMap fun e => if e.call.groupID = g then e.out.map (e.call, ·) else none

def pair (c d : PacketInsert) : Bytes × Bytes := if c.index = 0 then (c.packet, d.packet) else (d.packet, c.packet)

variable {m : ℕ} {gs : Groups} {c : PacketInsert} {g k : UInt64} {i : UInt32} {p : Bytes} {cs : List PacketInsert}

theorem index_of_valid (hv : c.valid = true) : c.index = 0 ∨ c.index = 1 := by
  simp only [PacketInsert.valid, Bool.and_eq_true, decide_eq_true_eq, UInt32.lt_iff_toNat_lt] at hv
  rw [← UInt32.toNat_inj, ← UInt32.toNat_inj]
  exact Nat.le_one_iff_eq_zero_or_eq_one.mp (Nat.le_of_lt_succ hv.2)

theorem makeRoom_cases (hm : 0 < m) (gs : Groups) (g : UInt64) :
    makeRoom m gs g = gs ∧ (gs[g]? = none → gs.size < m) ∨
    gs[g]? = none ∧ ∃ k ∈ gs, makeRoom m gs g = gs.erase k := by
  unfold makeRoom
  split_ifs with h
  · cases hk : gs.minKey? with
    | none =>
      rw [ExtTreeMap.minKey?_eq_none_iff] at hk
      exact .inl ⟨rfl, fun _ => by simpa [hk] using hm⟩
    | some k => exact .inr ⟨h.1, k, ExtTreeMap.minKey?_mem hk, rfl⟩
  · exact .inl ⟨rfl, fun hg => Nat.lt_of_not_le fun hle => h ⟨hg, hle⟩⟩

theorem makeRoom_self (hm : 0 < m) (gs : Groups) (g : UInt64) : (makeRoom m gs g)[g]? = gs[g]? := by
  obtain ⟨h, -⟩ | ⟨hg, k, -, h⟩ := makeRoom_cases hm gs g
  · rw [h]
  · rw [h, get_erase, hg, ite_self]

/-- What a call that is not ignored does. -/
theorem insert_cases (hm : 0 < m) (hv : c.valid = true) (gs : Groups) (group : ExtTreeMap UInt32 Bytes)
    (hgroup : group = (gs[c.groupID]?.getD ∅).insert c.index c.packet) :
    (∃ info data, group[(0 : UInt32)]? = some info ∧ group[(1 : UInt32)]? = some data ∧
      insert m gs c = (some (info, data), (makeRoom m gs c.groupID).erase c.groupID)) ∨
    insert m gs c = (none, (makeRoom m gs c.groupID).insert c.groupID group) := by
  simp only [insert, hv, if_true, makeRoom_self hm, ← hgroup]
  cases h0 : group[(0 : UInt32)]? with
  | none => exact .inr rfl
  | some info =>
    cases h1 : group[(1 : UInt32)]? with
    | none => exact .inr rfl
    | some data => exact .inl ⟨info, data, rfl, rfl, rfl⟩

theorem size_insert (hm : 0 < m) (h : gs.size ≤ m) (c : PacketInsert) : (insert m gs c).2.size ≤ m := by
  by_cases hv : c.valid = true
  · have hroom : (makeRoom m gs c.groupID).size ≤ m ∧ (gs[c.groupID]? = none → (makeRoom m gs c.groupID).size < m) := by
      obtain ⟨hr, hlt⟩ | ⟨-, k, hk, hr⟩ := makeRoom_cases hm gs c.groupID <;> rw [hr]
      · exact ⟨h, hlt⟩
      · simp only [ExtTreeMap.size_erase, ExtTreeMap.contains_iff_mem.mpr hk, if_true]
        omega
    obtain ⟨info, data, -, -, hi⟩ | hi := insert_cases hm hv gs _ rfl <;> rw [hi]
    · exact ExtTreeMap.size_erase_le.trans hroom.1
    · rw [ExtTreeMap.size_insert]
      split_ifs with hin
      · exact hroom.1
      · rw [Bool.not_eq_true, contains_eq_false, makeRoom_self hm] at hin
        exact hroom.2 hin
  · rwa [insert, if_neg hv]

/-! ### What is kept -/

def packetAt (gs : Groups) (g : UInt64) (i : UInt32) : Option Bytes := gs[g]?.bind (·[i]?)

theorem group_get (hv : c.valid = true) (h : ((gs[c.groupID]?.getD ∅).insert c.index c.packet)[i]? = some p) :
    if c.index = i then Inserts c.groupID i p (entry (insert m) gs c) else packetAt gs c.groupID i = some p := by
  rw [get_insert] at h
  split_ifs at h ⊢ with hi
  · simp only [PacketInsert.valid, Bool.and_eq_true, decide_eq_true_eq] at hv
    obtain ⟨g, i', n, p'⟩ := c
    simp_all [Inserts]
  · cases ho : gs[c.groupID]? with
    | none => simp [ho] at h
    | some group => simpa [packetAt, ho] using h

theorem kept_since (hm : 0 < m) {log : List Call}
    (h : ∀ g i p, packetAt gs g i = some p → Since (Inserts g i p) (¬ Leaves g ·) log) (c : PacketInsert)
    (g : UInt64) (i : UInt32) (p : Bytes) (hp : packetAt (insert m gs c).2 g i = some p) :
    Since (Inserts g i p) (¬ Leaves g ·) (log ++ [entry (insert m) gs c]) := by
  have hkept : Inserts g i p (entry (insert m) gs c) ∨
      packetAt gs g i = some p ∧ (c.groupID = g → (insert m gs c).1 = none) := by
    by_cases hv : c.valid = true
    · -- a group that is still there and is not that of the call was there before
      have hold : packetAt (makeRoom m gs c.groupID) g i = some p → packetAt gs g i = some p := by
        obtain ⟨hr, -⟩ | ⟨-, k, -, hr⟩ := makeRoom_cases hm gs c.groupID <;> rw [hr]
        · exact id
        · rw [packetAt, get_erase]
          split_ifs
          · simp
          · exact id
      obtain ⟨info, data, -, -, hi⟩ | hi := insert_cases hm hv gs _ rfl <;> rw [hi] at hp ⊢
      · rw [packetAt, get_erase] at hp
        split_ifs at hp with hg
        · cases hp
        · exact .inr ⟨hold hp, fun h => absurd h hg⟩
      · rw [packetAt, get_insert] at hp
        split_ifs at hp with hg
        · subst hg
          have hget := group_get (m := m) hv hp
          split_ifs at hget with hi
          · exact .inl hget
          · exact .inr ⟨hget, fun _ => rfl⟩
        · exact .inr ⟨hold hp, fun _ => rfl⟩
    · rw [insert, if_neg hv] at hp ⊢
      exact .inr ⟨hp, fun _ => rfl⟩
  refine since_snoc.mpr (hkept.imp_right fun ⟨hold, hout⟩ => ⟨?_, h g i p hold⟩)
  rintro (⟨hg, hne⟩ | ⟨-, hgone⟩)
  · exact hne (hout hg)
  · rw [ExtTreeMap.mem_iff_isSome_getElem?, Option.not_isSome_iff_eq_none, entry_post] at hgone
    simp [packetAt, hgone] at hp

/-! ### Without loss -/

def kept : List PacketInsert → Option (ExtTreeMap UInt32 Bytes)
  | [c] => some ((∅ : ExtTreeMap UInt32 Bytes).insert c.index c.packet)
  | _ => none

def emitted : List PacketInsert → List (PacketInsert × Bytes × Bytes)
  | [c, d] => [(d, pair c d)]
  | _ => []

theorem inserted_snoc (g : UInt64) (cs : List PacketInsert) (c : PacketInsert) :
    inserted g (cs ++ [c]) = if c.valid = true ∧ c.groupID = g then inserted g cs ++ [c] else inserted g cs := by
  rw [inserted, List.filter_append]
  split_ifs with h <;> simp [h, inserted]

theorem insert_lossless (h : Lossless m (cs ++ [c])) (hk : ∀ g, gs[g]? = kept (inserted g cs)) (hv : c.valid = true) :
    inserted c.groupID cs = [] ∧
      insert m gs c = (none, gs.insert c.groupID ((∅ : ExtTreeMap UInt32 Bytes).insert c.index c.packet)) ∨
    ∃ b, inserted c.groupID cs = [b] ∧ insert m gs c = (some (pair b c), gs.erase c.groupID) := by
  have hself := hk c.groupID
  have honce := h.once c.groupID
  rw [inserted_snoc, if_pos ⟨hv, rfl⟩] at honce
  have hidx : ∀ b ∈ inserted c.groupID cs, b.index = 0 ∨ b.index = 1 := by
    intro b hb
    simp only [inserted, List.mem_filter, Bool.and_eq_true] at hb
    exact index_of_valid hb.2.1
  have hc := index_of_valid hv
  rcases hold : inserted c.groupID cs with _ | ⟨b, _ | ⟨b', l⟩⟩
  · -- with the group that begins, there are not more than the maximum
    have hlt : gs.size + 1 ≤ m := by
      rw [← ExtTreeMap.length_keys]
      refine h.few _ (List.prefix_refl _) (c.groupID :: gs.keys) (List.nodup_cons.mpr ⟨?_, ExtTreeMap.nodup_keys⟩)
        (List.forall_mem_cons.mpr ⟨?_, fun g hg => ?_⟩)
      · rw [ExtTreeMap.mem_keys, ExtTreeMap.mem_iff_isSome_getElem?, hself, hold]
        simp [kept]
      · simp [inserted_snoc, hv, hold]
      · rw [ExtTreeMap.mem_keys, ExtTreeMap.mem_iff_isSome_getElem?, hk] at hg
        rw [inserted_snoc, if_neg (by rintro ⟨-, rfl⟩; simp [hold, kept] at hg)]
        unfold kept at hg
        split at hg
        · rename_i hone
          rw [hone, List.length_singleton]
        · cases hg
    refine .inl ⟨rfl, ?_⟩
    have hroom : makeRoom m gs c.groupID = gs := if_neg (by omega)
    rcases hc with hc | hc <;> simp [insert, hv, hroom, hself, hold, kept, hc]
  · refine .inr ⟨b, rfl, ?_⟩
    have hroom : makeRoom m gs c.groupID = gs := if_neg (by simp [hself, hold, kept])
    rcases hidx b (by simp [hold]) with hb | hb <;> rcases hc with hc | hc <;>
      simp_all [insert, kept, pair, ExtTreeMap.getElem_insert]
  · rcases hidx b (by simp [hold]) with hb | hb <;> rcases hidx b' (by simp [hold]) with hb' | hb' <;>
      rcases hc with hc | hc <;> simp_all

theorem final_lossless (cs : List PacketInsert) : Lossless m cs →
    (∀ g, (final (insert m) ∅ cs)[g]? = kept (inserted g cs)) ∧
    ∀ g, emissions g (trace (insert m) ∅ cs) = emitted (inserted g cs) := by
  induction cs using List.reverseRecOn with
  | nil => exact fun _ => ⟨fun g => by simp [inserted, kept], fun g => rfl⟩
  | append_singleton cs c ih =>
    intro h
    have hpre : cs <+: cs ++ [c] := List.prefix_append _ _
    obtain ⟨hk, he⟩ := ih ⟨fun g => ((hpre.sublist.filter _).map _).nodup (h.once g),
      fun ds hds => h.few ds (hds.trans hpre)⟩
    rw [final_append, trace_append]
    simp only [final_cons, final_nil, trace_cons, trace_nil, emissions, filterMap_snoc, inserted_snoc] at he ⊢
    by_cases hv : c.valid = true
    · obtain ⟨hold, hi⟩ | ⟨b, hold, hi⟩ := insert_lossless h hk hv <;> rw [hi] <;>
        refine ⟨fun g => ?_, fun g => ?_⟩ <;> rcases eq_or_ne c.groupID g with rfl | hg
      all_goals simp [*, get_insert, get_erase, kept, emitted]
    · simp [insert, hv, hk, he]

/-- There are never more incomplete groups than the maximum. A pair that is emitted was inserted for
one group that had not left in between. Without loss, a group of which both packets are inserted is
emitted once, by the call that inserts the second one. -/
theorem packet_groups (m : ℤ) (cs : List PacketInsert) :
    let maximum := (max 1 m).toNat
    let log := trace (insert maximum) ∅ cs
    (∀ e ∈ log, e.post.size ≤ maximum) ∧
    (∀ before e after info data, log = before ++ e :: after → e.out = some (info, data) →
      ∃ g, Inserts g 0 info e ∧ Since (Inserts g 1 data) (¬ Leaves g ·) before ∨
        Inserts g 1 data e ∧ Since (Inserts g 0 info) (¬ Leaves g ·) before) ∧
    (Lossless maximum cs → ∀ g c d, inserted g cs = [c, d] → emissions g log = [(d, pair c d)]) := by
  intro maximum log
  have hm : 0 < maximum := by
    show 0 < (max 1 m).toNat
    omega
  refine ⟨?_, ?_, ?_⟩
  · exact forall_trace _ (I := (·.size ≤ maximum)) (fun _ c h => size_insert hm h c) (fun _ c h => size_insert hm h c)
      (by simp)
  · intro before e after info data hlog hout
    obtain ⟨cs₁, c, -, -, rfl, rfl⟩ := trace_eq_append_cons _ hlog
    have hk := history_inv (insert maximum) (I := fun log gs => ∀ g i p, packetAt gs g i = some p →
      Since (Inserts g i p) (¬ Leaves g ·) log) (fun _ _ c h => kept_since hm h c) cs₁ [] ∅ (by simp [packetAt])
    rw [List.nil_append] at hk
    rw [entry_out] at hout
    generalize final (insert maximum) ∅ cs₁ = gs at hk hout ⊢
    by_cases hv : c.valid = true
    · obtain ⟨info', data', h0, h1, hi⟩ | hi := insert_cases hm hv gs _ rfl <;> rw [hi] at hout <;> cases hout
      have hinfo := group_get (m := maximum) hv h0
      have hdata := group_get (m := maximum) hv h1
      refine ⟨c.groupID, ?_⟩
      rcases index_of_valid hv with hi | hi
      · rw [if_pos hi] at hinfo
        rw [if_neg (by simp [hi])] at hdata
        exact .inl ⟨hinfo, hk _ _ _ hdata⟩
      · rw [if_neg (by simp [hi])] at hinfo
        rw [if_pos hi] at hdata
        exact .inr ⟨hdata, hk _ _ _ hinfo⟩
    · rw [insert, if_neg hv] at hout
      cases hout
  · intro h g c d hg
    rw [(final_lossless cs h).2, hg]
    rfl

/-- Two groups whose packets arrive in turns. -/
def interleaved : List PacketInsert := [⟨7, 1, 2, [1]⟩, ⟨9, 0, 2, [2]⟩, ⟨7, 0, 2, [3]⟩, ⟨9, 1, 2, [4]⟩]

theorem interleaved_lossless : Lossless 2 interleaved where
  once := fun g => by
    by_cases h7 : 7 = g
    · subst h7
      decide
    · by_cases h9 : 9 = g
      · subst h9
        decide
      · simp [inserted, interleaved, h7, h9]
  few := fun ds hds gs hnd hone => by
    have hsub : gs ⊆ [7, 9] := fun g hg => by
      obtain ⟨c, hc⟩ := List.length_pos_iff_exists_mem.mp (by rw [hone g hg]; exact Nat.one_pos)
      obtain ⟨hc, hv⟩ := List.mem_filter.mp hc
      have hids : ∀ c ∈ interleaved, c.groupID ∈ [7, 9] := by decide
      simp only [Bool.and_eq_true, decide_eq_true_eq] at hv
      exact hv.2 ▸ hids c (hds.subset hc)
    exact (List.subperm_of_subset hnd hsub).length_le

theorem packet_groups_interleaved : Lossless 2 interleaved ∧
    inserted 7 interleaved = [⟨7, 1, 2, [1]⟩, ⟨7, 0, 2, [3]⟩] ∧
    emissions 7 (trace (insert 2) ∅ interleaved) = [(⟨7, 0, 2, [3]⟩, [3], [1])] :=
  ⟨interleaved_lossless, rfl, (packet_groups 2 interleaved).2.2 interleaved_lossless 7 _ _ rfl⟩

end NativeVideoPacketGroupAssembler

end Rctl.Ios
