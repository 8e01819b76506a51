/-
# Numbered records

Records that are made one after the other and named by their place in the list. One of them
is changed in place, or a new one is added at the end. Of a record one mostly looks at some
part, and at a default where there is no record yet: `g` below is such a look.

* `get_modify`: a record after a change of one of them;
* `seen_modify`, `seen_modify_same`: what is seen of it, and where the change is not seen;
* `map_modify_same`: the same for what is seen of all of them;
* `get_append`, `seen_append`: a new record, and one that is seen as the default.
-/
import Mathlib.Data.List.Basic

namespace Records

variable {α β : Type*} {l : List α} {i j : ℕ} {a : α}

theorem get_modify (l : List α) (i j : ℕ) (f : α → α) : (l.modify i f)[j]? = if i = j then l[j]?.map f else l[j]? := by
  rw [List.getElem?_modify]
  split
  · rfl
  · exact Option.map_id'

theorem seen_modify (g : Option α → β) (f : α → α) (h : l[i]? = some a) :
    g (l.modify i f)[j]? = if i = j then g (some (f a)) else g l[j]? := by
  rw [get_modify]
  split_ifs with hij
  · rw [← hij, h, Option.map_some]
  · rfl

theorem seen_modify_same (g : Option α → β) {f : α → α} (hf : ∀ a, g (some (f a)) = g (some a)) :
    g (l.modify i f)[j]? = g l[j]? := by
  rw [get_modify]
  split
  · cases l[j]? with
    | none => rfl
    | some a => exact hf a
  · rfl

theorem map_modify_same (g : α → β) {f : α → α} (hf : ∀ a, g (f a) = g a) (l : List α) (i : ℕ) :
    (l.modify i f).map g = l.map g := by
  refine List.ext_getElem? fun j => ?_
  rw [List.getElem?_map, List.getElem?_map]
  exact seen_modify_same (fun a : Option α => a.map g) fun a => congrArg some (hf a)

theorem get_append (l : List α) (a : α) (i : ℕ) : (l ++ [a])[i]? = if l.length = i then some a else l[i]? := by
  rcases Nat.lt_trichotomy i l.length with hlt | rfl | hgt
  · rw [List.getElem?_append_left hlt, if_neg (by omega)]
  · rw [List.getElem?_concat_length, if_pos rfl]
  · rw [if_neg (by omega), List.getElem?_eq_none (by simp; omega), List.getElem?_eq_none (by omega)]

theorem seen_append (g : Option α → β) (l : List α) (hn : g (some a) = g none) : g (l ++ [a])[i]? = g l[i]? := by
  rw [get_append]
  split_ifs with hi
  · rw [hn, ← hi, List.getElem?_eq_none (Nat.le_refl _)]
  · rfl

end Records
