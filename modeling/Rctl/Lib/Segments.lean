/-
# Paths as segments

A path whose segments stand each behind a separator, and the removal of the segments `dot` and
`dotdot` from it: the first is skipped, the second takes the segment before it away, and a path that
ends in one of the two ends in an empty segment instead. What a group of segments does to those before
it is nothing where the segments cancel.
-/
import Mathlib.Data.List.Basic

namespace Segments

variable {γ : Type*} {slash : γ} {dot dotdot : List γ}

/-- The text before the first separator is determined. -/
theorem append_cons_inj : ∀ {a b x y : List γ}, slash ∉ a → slash ∉ b → a ++ slash :: x = b ++ slash :: y →
    a = b ∧ x = y
  | [], [], _, _, _, _, h => ⟨rfl, (List.cons.inj h).2⟩
  | [], _ :: _, _, _, _, hb, h => absurd List.mem_cons_self ((List.cons.inj h).1 ▸ hb)
  | _ :: _, [], _, _, ha, _, h => absurd List.mem_cons_self ((List.cons.inj h).1 ▸ ha)
  | c :: a, d :: b, x, y, ha, hb, h => by
    rw [List.cons_append, List.cons_append, List.cons.injEq] at h
    obtain ⟨rfl, h⟩ := h
    obtain ⟨rfl, rfl⟩ := append_cons_inj (List.not_mem_of_not_mem_cons ha) (List.not_mem_of_not_mem_cons hb) h
    exact ⟨rfl, rfl⟩

/-- So is the text behind the last one. -/
theorem append_cons_inj_right {a b x y : List γ} (ha : slash ∉ a) (hb : slash ∉ b)
    (h : x ++ slash :: a = y ++ slash :: b) : x = y ∧ a = b := by
  have hr := congrArg List.reverse h
  rw [List.reverse_append, List.reverse_append, List.reverse_cons, List.reverse_cons, List.append_assoc,
    List.append_assoc] at hr
  obtain ⟨hab, hxy⟩ := append_cons_inj (mt List.mem_reverse.mp ha) (mt List.mem_reverse.mp hb) hr
  exact ⟨List.reverse_inj.mp hxy, List.reverse_inj.mp hab⟩

/-- Each segment behind a separator. -/
def slashed (slash : γ) (segments : List (List γ)) : List γ := segments.flatMap (slash :: ·)

@[simp] theorem slashed_nil : slashed slash [] = [] := rfl

@[simp] theorem slashed_cons (seg : List γ) (segments : List (List γ)) :
    slashed slash (seg :: segments) = slash :: seg ++ slashed slash segments := List.flatMap_cons

theorem slashed_append (a b : List (List γ)) : slashed slash (a ++ b) = slashed slash a ++ slashed slash b :=
  List.flatMap_append

theorem slashed_eq_cons_intercalate : ∀ {segments : List (List γ)}, segments ≠ [] →
    slashed slash segments = slash :: [slash].intercalate segments
  | [], h => absurd rfl h
  | [seg], _ => by simp
  | seg :: next :: segments, _ => by
    rw [slashed_cons, slashed_eq_cons_intercalate (List.cons_ne_nil next segments)]
    simp

/-- A path is its last segment, or one segment and the path behind it. -/
theorem segments_induction {P : List (List γ) → Prop} (hl : ∀ last, P [last])
    (hcons : ∀ seg segments, segments ≠ [] → P segments → P (seg :: segments)) :
    ∀ segments, segments ≠ [] → P segments
  | [], hne => absurd rfl hne
  | [last], _ => hl last
  | seg :: next :: segments, _ =>
    hcons seg (next :: segments) (List.cons_ne_nil _ _)
      (segments_induction hl hcons (next :: segments) (List.cons_ne_nil _ _))

variable [DecidableEq γ] {segments : List (List γ)}

/-- A path that begins with a separator is its segments. -/
theorem slashed_splitOn (path : List γ) : slashed slash (path.splitOn slash) = slash :: path := by
  rw [slashed_eq_cons_intercalate (List.splitOn_ne_nil _ _), List.intercalate_splitOn]

theorem splitOn_slashed (hne : segments ≠ []) (hf : ∀ seg ∈ segments, slash ∉ seg) :
    (slashed slash segments).splitOn slash = [] :: segments := by
  have hjoin : slashed slash segments = [slash].intercalate ([] :: segments) := by
    obtain ⟨seg, segments, rfl⟩ := List.exists_cons_of_ne_nil hne
    rw [slashed_eq_cons_intercalate hne]
    rfl
  rw [hjoin]
  refine List.splitOn_intercalate slash ?_ (List.cons_ne_nil _ _)
  exact List.forall_mem_cons.mpr ⟨List.not_mem_nil, hf⟩

theorem not_mem_of_mem_splitOn : ∀ {path seg : List γ}, seg ∈ path.splitOn slash → slash ∉ seg
  | [], seg, h => by
    rw [List.splitOn_nil, List.mem_singleton] at h
    rw [h]
    exact List.not_mem_nil
  | c :: path, seg, h => by
    rw [List.splitOn, List.splitOnP_cons_eq_if_modifyHead, ← List.splitOn] at h
    by_cases hc : c = slash
    · rw [if_pos (beq_iff_eq.mpr hc), List.mem_cons] at h
      obtain rfl | h := h
      · exact List.not_mem_nil
      · exact not_mem_of_mem_splitOn h
    · rw [if_neg (by simpa using hc)] at h
      obtain ⟨first, rest, hsp⟩ := List.exists_cons_of_ne_nil (List.splitOn_ne_nil slash path)
      have hm : ∀ s ∈ first :: rest, slash ∉ s := fun s hs => not_mem_of_mem_splitOn (hsp ▸ hs)
      rw [hsp, List.modifyHead_cons, List.mem_cons] at h
      obtain rfl | h := h
      · exact List.not_mem_cons_of_ne_of_not_mem (Ne.symm hc) (hm first List.mem_cons_self)
      · exact hm seg (List.mem_cons_of_mem _ h)

/-- The path without its dot segments, behind the segments that are left of what came before. -/
def resolve (dot dotdot : List γ) : List (List γ) → List (List γ) → List (List γ)
  | [], out => out
  | [last], out =>
    if last = dot then out ++ [[]] else if last = dotdot then out.dropLast ++ [[]] else out ++ [last]
  | segment :: segments, out =>
    if segment = dot then resolve dot dotdot segments out
    else if segment = dotdot then resolve dot dotdot segments out.dropLast
    else resolve dot dotdot segments (out ++ [segment])

theorem resolve_singleton (last : List γ) (out : List (List γ)) : resolve dot dotdot [last] out =
    if last = dot then out ++ [[]] else if last = dotdot then out.dropLast ++ [[]] else out ++ [last] := rfl

theorem resolve_cons (seg : List γ) (hne : segments ≠ []) (out : List (List γ)) :
    resolve dot dotdot (seg :: segments) out = if seg = dot then resolve dot dotdot segments out
      else if seg = dotdot then resolve dot dotdot segments out.dropLast
      else resolve dot dotdot segments (out ++ [seg]) := by
  obtain ⟨next, segments, rfl⟩ := List.exists_cons_of_ne_nil hne
  rfl

theorem resolve_ne_nil (hne : segments ≠ []) : ∀ out, resolve dot dotdot segments out ≠ [] := by
  refine segments_induction (P := fun segments => ∀ out, resolve dot dotdot segments out ≠ []) (fun last out => ?_)
    (fun seg segments hne ih out => ?_) segments hne
  · rw [resolve_singleton]
    split
    · simp
    · split <;> simp
  · rw [resolve_cons seg hne]
    split
    · exact ih _
    · split
      · exact ih _
      · exact ih _

/-- Nothing is made up but the empty segment at the end. -/
theorem mem_resolve {s : List γ} (hne : segments ≠ []) :
    ∀ out, s ∈ resolve dot dotdot segments out → s ∈ out ∨ s = [] ∨ s ∈ segments ∧ s ≠ dot ∧ s ≠ dotdot := by
  refine segments_induction (P := fun segments => ∀ out, s ∈ resolve dot dotdot segments out →
    s ∈ out ∨ s = [] ∨ s ∈ segments ∧ s ≠ dot ∧ s ≠ dotdot) (fun last out h => ?_)
    (fun seg segments hne ih out h => ?_) segments hne
  · rw [resolve_singleton] at h
    split at h
    · rw [List.mem_append, List.mem_singleton] at h
      exact h.imp id .inl
    · split at h
      · rw [List.mem_append, List.mem_singleton] at h
        exact h.imp (fun h => List.dropLast_subset _ h) .inl
      · rename_i hd hdd
        rw [List.mem_append, List.mem_singleton] at h
        obtain h | rfl := h
        · exact .inl h
        · exact .inr (.inr ⟨List.mem_singleton_self _, hd, hdd⟩)
  · have hw : s ∈ segments ∧ s ≠ dot ∧ s ≠ dotdot → s ∈ seg :: segments ∧ s ≠ dot ∧ s ≠ dotdot :=
      fun h => ⟨List.mem_cons_of_mem _ h.1, h.2⟩
    rw [resolve_cons seg hne] at h
    split at h
    · exact (ih _ h).imp id (.imp id hw)
    · split at h
      · exact (ih _ h).imp (fun h => List.dropLast_subset _ h) (.imp id hw)
      · rename_i hd hdd
        obtain h | h := ih _ h
        · rw [List.mem_append, List.mem_singleton] at h
          obtain h | rfl := h
          · exact .inl h
          · exact .inr (.inr ⟨List.mem_cons_self, hd, hdd⟩)
        · exact .inr (h.imp id hw)

/-- A path without dot segments is left as it is. -/
theorem resolve_of_dotless (hne : segments ≠ []) : ∀ out,
    (∀ seg ∈ segments, seg ≠ dot ∧ seg ≠ dotdot) → resolve dot dotdot segments out = out ++ segments := by
  refine segments_induction (P := fun segments => ∀ out, (∀ seg ∈ segments, seg ≠ dot ∧ seg ≠ dotdot) →
    resolve dot dotdot segments out = out ++ segments) (fun last out h => ?_) (fun seg segments hne ih out h => ?_)
    segments hne
  · obtain ⟨hd, hdd⟩ := h last List.mem_cons_self
    rw [resolve_singleton, if_neg hd, if_neg hdd]
  · rw [List.forall_mem_cons] at h
    rw [resolve_cons seg hne, if_neg h.1.1, if_neg h.1.2, ih _ h.2, List.append_assoc, List.singleton_append]

/-! ### The segments that are left -/

/-- One segment on top of those that are left of what came before. -/
def push (dot dotdot : List γ) (out : List (List γ)) (segment : List γ) : List (List γ) :=
  if segment = dot then out else if segment = dotdot then out.dropLast else out ++ [segment]

/-- The segments are pushed one after the other; behind a dot segment at the end there is an empty
one. -/
theorem resolve_eq_foldl {last : List γ} : ∀ (init out : List (List γ)), resolve dot dotdot (init ++ [last]) out =
      (init ++ [last]).foldl (push dot dotdot) out ++ if last = dot ∨ last = dotdot then [[]] else []
  | [], out => by
    rw [List.nil_append, resolve_singleton, List.foldl_cons, List.foldl_nil, push]
    by_cases hd : last = dot
    · rw [if_pos hd, if_pos hd, if_pos (.inl hd)]
    · by_cases hdd : last = dotdot
      · rw [if_neg hd, if_neg hd, if_pos hdd, if_pos hdd, if_pos (.inr hdd)]
      · rw [if_neg hd, if_neg hd, if_neg hdd, if_neg hdd, if_neg (not_or.mpr ⟨hd, hdd⟩), List.append_nil]
  | seg :: init, out => by
    rw [List.cons_append, resolve_cons seg (by simp), List.foldl_cons, push]
    split
    · exact resolve_eq_foldl init out
    · split
      · exact resolve_eq_foldl init _
      · exact resolve_eq_foldl init _

/-! ### Segments that cancel -/

/-- Segments that leave what came before them as it was: each is a dot segment that is skipped, or is
taken away by a later one. -/
inductive Cancels (dot dotdot : List γ) : List (List γ) → Prop
  | nil : Cancels dot dotdot []
  | skip {rest : List (List γ)} (hrest : Cancels dot dotdot rest) : Cancels dot dotdot (dot :: rest)
  | pair {segment : List γ} {inner rest : List (List γ)} (hdot : segment ≠ dot) (hdotdot : segment ≠ dotdot)
      (hinner : Cancels dot dotdot inner) (hrest : Cancels dot dotdot rest) :
      Cancels dot dotdot (segment :: (inner ++ dotdot :: rest))

variable {inner rest : List (List γ)}

omit [DecidableEq γ] in
theorem Cancels.append (h : Cancels dot dotdot inner) (h' : Cancels dot dotdot rest) :
    Cancels dot dotdot (inner ++ rest) := by
  induction h with
  | nil => exact h'
  | skip _ ih => exact .skip ih
  | pair hd hdd hin _ _ ih =>
    rw [List.cons_append, List.append_assoc, List.cons_append]
    exact .pair hd hdd hin ih

theorem push_of_ne {seg : List γ} (hd : seg ≠ dot) (hdd : seg ≠ dotdot) (out : List (List γ)) :
    push dot dotdot out seg = out ++ [seg] := by
  rw [push, if_neg hd, if_neg hdd]

theorem Cancels.foldl (hne : dotdot ≠ dot) (h : Cancels dot dotdot inner) :
    ∀ out, inner.foldl (push dot dotdot) out = out := by
  induction h with
  | nil => exact fun _ => rfl
  | skip _ ih =>
    intro out
    rw [List.foldl_cons, push, if_pos rfl, ih]
  | pair hd hdd _ _ ihin ihr =>
    intro out
    rw [List.foldl_cons, push_of_ne hd hdd, List.foldl_append, ihin, List.foldl_cons, push, if_neg hne, if_pos rfl,
      List.dropLast_concat, ihr]

/-- Segments that cancel end in a dot segment. -/
theorem Cancels.last_dots {last : List γ} (hne : dotdot ≠ dot) (h : Cancels dot dotdot (inner ++ [last])) :
    last = dot ∨ last = dotdot := by
  by_contra hn
  obtain ⟨hd, hdd⟩ := not_or.mp hn
  have hnil := h.foldl hne []
  rw [List.foldl_append, List.foldl_cons, List.foldl_nil, push_of_ne hd hdd] at hnil
  simp at hnil

/-- The last segment that is left stands before segments that cancel. -/
theorem exists_cancels (segments left : List (List γ)) (x : List γ)
    (h : segments.foldl (push dot dotdot) [] = left ++ [x]) :
    ∃ front inner, segments = front ++ x :: inner ∧ front.foldl (push dot dotdot) [] = left ∧ x ≠ dot ∧ x ≠ dotdot ∧
      Cancels dot dotdot inner := by
  obtain rfl | ⟨init, last, rfl⟩ := List.eq_nil_or_concat segments
  · simp at h
  rw [List.concat_eq_append, List.foldl_append, List.foldl_cons, List.foldl_nil, push] at h
  rw [List.concat_eq_append]
  split at h
  · rename_i hl
    obtain ⟨front, inner, rfl, hf, hd, hdd, hc⟩ := exists_cancels init left x h
    exact ⟨front, inner ++ [last], by simp, hf, hd, hdd, hc.append (hl ▸ .skip .nil)⟩
  · split at h
    · -- the last segment takes `z` away, which stands behind `x`
      rename_i hl
      obtain hnil | ⟨kept, z, hkept⟩ := List.eq_nil_or_concat (init.foldl (push dot dotdot) [])
      · rw [hnil] at h
        simp at h
      rw [hkept, List.concat_eq_append, List.dropLast_concat] at h
      rw [List.concat_eq_append, h] at hkept
      obtain ⟨front', inner', rfl, hf', hzd, hz, hc'⟩ := exists_cancels init (left ++ [x]) z hkept
      obtain ⟨front, inner, rfl, hf, hd, hdd, hc⟩ := exists_cancels front' left x hf'
      refine ⟨front, inner ++ z :: (inner' ++ dotdot :: []), by simp [hl], hf, hd, hdd, ?_⟩
      exact hc.append (.pair hzd hz hc' .nil)
    · rename_i hd hdd
      obtain ⟨rfl, hx⟩ := List.append_inj' h rfl
      obtain rfl := List.singleton_inj.mp hx
      exact ⟨init, [], rfl, rfl, hd, hdd, .nil⟩
termination_by segments.length
decreasing_by all_goals simp_all

end Segments
