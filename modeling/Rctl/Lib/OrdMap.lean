/-
# Ordered maps, as a program uses them

`Std.ExtTreeMap` is a map kept in key order whose equality is that of the
entries. Programs read it by key, and loop over its values: they look for the
first value with a property, ask whether there is one, rewrite every value in
place, or drop the values that fail a test. The lemmas here read each of these
back by key.

What a program does to a map is often said key by key: a relation between the entry
before and the entry after. The lemmas `rel_*` give it for each operation, applied to a
map that is already so related to the first.
-/
import Mathlib.Data.List.Basic

namespace OrdMap

open Std ExtTreeMap

variable {K V : Type*} {cmp : K → K → Ordering} [TransCmp cmp]

/-- Some value satisfies `p`. -/
def anyValue (m : ExtTreeMap K V cmp) (p : V → Bool) : Bool := m.toList.any fun kv => p kv.2

/-- The first entry, in key order, whose value satisfies `p`. -/
def firstWith (m : ExtTreeMap K V cmp) (p : V → Bool) : Option (K × V) :=
  m.toList.find? fun kv => p kv.2

/-- Every value rewritten in place. -/
def mapValues (m : ExtTreeMap K V cmp) (f : V → V) : ExtTreeMap K V cmp := m.map fun _ v => f v

/-- The entries whose value satisfies `p`. -/
def retain (m : ExtTreeMap K V cmp) (p : V → Bool) : ExtTreeMap K V cmp := m.filter fun _ v => p v

@[simp] theorem get_retain (m : ExtTreeMap K V cmp) (p : V → Bool) (a : K) : (retain m p)[a]? = m[a]?.filter p := by
  rw [retain, getElem?_filter]
  cases m[a]? <;> simp [Option.filter]

theorem values_eq_map_snd (m : ExtTreeMap K V cmp) : m.values = m.toList.map Prod.snd := by
  rcases m with ⟨⟨m⟩⟩
  induction m using Quotient.inductionOn with
  | h m =>
    show m.inner.values = (DTreeMap.Internal.Impl.Const.toList m.inner).map Prod.snd
    rw [DTreeMap.Internal.Impl.values_eq_map_snd, DTreeMap.Internal.Impl.Const.toList_eq_toListModel_map, List.map_map]
    rfl

variable {m : ExtTreeMap K V cmp} {k : K}

theorem contains_eq_false : m.contains k = false ↔ m[k]? = none := by
  rw [contains_eq_isSome_getElem?, Option.isSome_eq_false_iff, Option.isNone_iff_eq_none]

section Lookup

variable [LawfulEqCmp cmp] {p : V → Bool}

@[simp] theorem get_mapValues (m : ExtTreeMap K V cmp) (f : V → V) (a : K) : (mapValues m f)[a]? = m[a]?.map f := by
  simp [mapValues]

variable {v : V}

theorem mem_values : v ∈ m.values ↔ ∃ k : K, m[k]? = some v := by
  simp only [values_eq_map_snd, List.mem_map, Prod.exists, exists_eq_right, mem_toList_iff_getElem?_eq_some]

/-- Where each value carries its own key, no key occurs twice among the values. -/
theorem nodup_map_values {key : V → K} (hk : ∀ (k : K) (v : V), m[k]? = some v → key v = k) (p : V → Bool) :
    ((m.values.filter p).map key).Nodup := by
  have hks : m.values.map key = m.toList.map Prod.fst := by
    rw [values_eq_map_snd, List.map_map]
    refine List.map_congr_left fun kv hkv => ?_
    exact hk kv.1 kv.2 (mem_toList_iff_getElem?_eq_some.mp hkv)
  have hnd : (m.values.map key).Nodup := by
    rw [hks, List.Nodup, List.pairwise_map]
    refine distinct_keys_toList.imp fun {a b} hne heq => hne ?_
    rw [heq]
    exact ReflCmp.compare_self
  exact hnd.sublist ((List.filter_sublist).map key)

theorem anyValue_eq_true : anyValue m p = true ↔ ∃ (k : K) (v : V), m[k]? = some v ∧ p v = true := by
  simp only [anyValue, List.any_eq_true, Prod.exists, mem_toList_iff_getElem?_eq_some]

theorem anyValue_eq_false : anyValue m p = false ↔ ∀ (k : K) (v : V), m[k]? = some v → p v = false := by
  rw [← Bool.not_eq_true, anyValue_eq_true]
  simp

theorem firstWith_eq_some (h : firstWith m p = some (k, v)) : m[k]? = some v ∧ p v = true :=
  ⟨mem_toList_iff_getElem?_eq_some.mp (List.mem_of_find?_eq_some h), List.find?_some (p := fun kv : K × V => p kv.2) h⟩

theorem firstWith_of_only (hg : m[k]? = some v) (hp : p v = true)
    (honly : ∀ k' v', m[k']? = some v' → p v' = true → k' = k) : firstWith m p = some (k, v) := by
  cases h : firstWith m p with
  | none =>
    have hn := List.find?_eq_none.mp h (k, v) (mem_toList_iff_getElem?_eq_some.mpr hg)
    exact absurd hp hn
  | some kv =>
    obtain ⟨hg', hp'⟩ := firstWith_eq_some h
    obtain rfl := honly _ _ hg' hp'
    rw [hg] at hg'
    cases hg'
    rfl

variable [DecidableEq K]

theorem get_insert (m : ExtTreeMap K V cmp) (k a : K) (v : V) :
    (m.insert k v)[a]? = if k = a then some v else m[a]? := by
  rw [getElem?_insert]
  simp only [LawfulEqCmp.compare_eq_iff_eq]

theorem get_modify (m : ExtTreeMap K V cmp) (k a : K) (f : V → V) :
    (m.modify k f)[a]? = if k = a then m[a]?.map f else m[a]? := by
  rw [getElem?_modify]
  simp only [LawfulEqCmp.compare_eq_iff_eq]
  split
  · rename_i h; rw [h]
  · rfl

theorem modify_modify (m : ExtTreeMap K V cmp) (k : K) (f g : V → V) :
    (m.modify k f).modify k g = m.modify k (g ∘ f) := by
  refine ext_getElem? fun a => ?_
  rw [get_modify, get_modify, get_modify]
  by_cases h : k = a
  · rw [if_pos h, if_pos h, if_pos h, Option.map_map]
  · rw [if_neg h, if_neg h, if_neg h]

theorem get_erase (m : ExtTreeMap K V cmp) (k a : K) : (m.erase k)[a]? = if k = a then none else m[a]? := by
  rw [getElem?_erase]
  simp only [LawfulEqCmp.compare_eq_iff_eq]

variable {f : V → V}

section Entries

variable {k a : K} {v x : V}

theorem of_get_insert (h : (m.insert k v)[a]? = some x) : k = a ∧ v = x ∨ m[a]? = some x := by
  rw [get_insert] at h
  split_ifs at h with hk
  · exact .inl ⟨hk, Option.some.inj h⟩
  · exact .inr h

theorem of_get_modify (h : (m.modify k f)[a]? = some x) :
    k = a ∧ (∃ v, m[a]? = some v ∧ f v = x) ∨ m[a]? = some x := by
  rw [get_modify] at h
  split_ifs at h with hk
  · exact .inl ⟨hk, Option.map_eq_some_iff.mp h⟩
  · exact .inr h

end Entries

/-! ### Changes key by key -/

section Pointwise

variable {R : Option V → Option V → Prop} {m m' : ExtTreeMap K V cmp} (a : K)

theorem rel_insert (hm : R m[a]? m'[a]?) (hk : k = a → R m[k]? (some v)) : R m[a]? (m'.insert k v)[a]? := by
  rw [get_insert]
  split_ifs with h
  · subst h
    exact hk rfl
  · exact hm

theorem rel_modify (hm : R m[a]? m'[a]?) (hk : k = a → ∀ v, m'[k]? = some v → R m[k]? (some (f v))) :
    R m[a]? (m'.modify k f)[a]? := by
  rw [get_modify]
  split_ifs with h
  · subst h
    cases hv : m'[k]? with
    | none => rw [hv] at hm; exact hm
    | some v => exact hk rfl v hv
  · exact hm

omit [DecidableEq K] in
theorem rel_mapValues (hn : R none none) (hs : ∀ v, R (some v) (some (f v))) : R m[a]? (mapValues m f)[a]? := by
  rw [get_mapValues]
  cases m[a]? with
  | none => exact hn
  | some v => exact hs v

end Pointwise

end Lookup

end OrdMap
