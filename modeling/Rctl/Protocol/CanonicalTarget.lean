/-
# Request targets in canonical form

`canonical_request_target` is a retraction: what it returns is accepted and returned unchanged, and
two targets have the same result exactly if they have the same path, normalised and without dot
segments, and the same query pairs, normalised, in any order.

The pieces: a normalised text is a row of raw bytes and upper-case escapes (`PercentNormal`), which
the normaliser leaves as it is; the loop that removes dot segments is `Segments.resolve` on the
segments of the path; and the text of a normalised query pair is parsed back to the pair.
-/
import Mathlib.Data.List.Lex
import Mathlib.Data.List.TakeWhile
import Mathlib.Data.Prod.Lex
import Rctl.Lib.Result
import Rctl.Lib.Segments
import Rctl.Protocol.RequestTarget

namespace Rctl

open ByteString Result Segments

/-! ### Percent encoding -/

/-- A set of bytes that may stand raw: the unreserved ones, and not the percent sign. -/
structure RawSet (isAllowedRaw : UInt8 → Bool) : Prop where
  percent : isAllowedRaw 0x25 = false
  unreserved : ∀ b, isUnreserved b = true → isAllowedRaw b = true

inductive PercentNormal (isAllowedRaw : UInt8 → Bool) : Bytes → Prop
  | nil : PercentNormal isAllowedRaw []
  | raw {b : UInt8} {rest : Bytes} : isAllowedRaw b = true → PercentNormal isAllowedRaw rest →
      PercentNormal isAllowedRaw (b :: rest)
  | escape {b : UInt8} {rest : Bytes} : isUnreserved b = false → PercentNormal isAllowedRaw rest →
      PercentNormal isAllowedRaw (percentEncoded b ++ rest)

theorem hexNibble_hexDigit_high (b : UInt8) : hexNibble (hexDigit (b >>> 4)) = some (b >>> 4) := by
  revert b
  exact forall_byte (by decide +kernel)

theorem hexNibble_hexDigit_low (b : UInt8) : hexNibble (hexDigit (b &&& 0x0f)) = some (b &&& 0x0f) := by
  revert b
  exact forall_byte (by decide +kernel)

theorem nibbles (b : UInt8) : (b >>> 4) <<< 4 ||| b &&& 0x0f = b := by
  revert b
  exact forall_byte (by decide +kernel)

theorem isUnreserved_hexDigit (b : UInt8) :
    isUnreserved (hexDigit (b >>> 4)) = true ∧ isUnreserved (hexDigit (b &&& 0x0f)) = true := by
  revert b
  exact forall_byte (by decide +kernel)

section Percent

variable {isAllowedRaw : UInt8 → Bool} {text : Bytes}

theorem normalizePercentEncoding_cons {b : UInt8} (hb : b ≠ 0x25) (rest : Bytes) :
    normalizePercentEncoding isAllowedRaw (b :: rest) = do
      let rest ← normalizePercentEncoding isAllowedRaw rest
      return (if isAllowedRaw b then [b] else percentEncoded b) ++ rest := by
  rw [normalizePercentEncoding, if_neg hb]
  intro high low rest' h
  exact absurd h hb

section

variable (hraw : RawSet isAllowedRaw)
include hraw

theorem normal_of_normalize :
    ∀ {text result : Bytes}, normalizePercentEncoding isAllowedRaw text = .ok result → PercentNormal isAllowedRaw
      result := by
  intro text
  fun_induction normalizePercentEncoding isAllowedRaw text with
  | case1 =>
    intro result h
    cases h
    exact .nil
  | case2 high low rest ih =>
    intro result h
    simp only [bind_eq_ok, pure_eq_ok] at h
    obtain ⟨high, -, low, -, rest, hrs, rfl⟩ := h
    split_ifs with hu
    · exact .raw (hraw.unreserved _ hu) (ih hrs)
    · exact .escape (Bool.eq_false_iff.mpr hu) (ih hrs)
  | case3 =>
    intro result h
    cases h
  | case4 b rest hno hp ih =>
    intro result h
    simp only [bind_eq_ok, pure_eq_ok] at h
    obtain ⟨rest, hrs, rfl⟩ := h
    split_ifs with hal
    · exact .raw hal (ih hrs)
    · refine .escape (Bool.eq_false_iff.mpr fun hu => hal ?_) (ih hrs)
      exact hraw.unreserved _ hu

section

variable (h : PercentNormal isAllowedRaw text)
include h

theorem normalize_of_normal : normalizePercentEncoding isAllowedRaw text = .ok text := by
  induction h with
  | nil => rfl
  | @raw b rest hal _ ih =>
    have hb : b ≠ 0x25 := by
      rintro rfl
      rw [hraw.percent] at hal
      cases hal
    rw [normalizePercentEncoding_cons hb, ih]
    simp [hal, bind, Except.bind, pure, Except.pure]
  | @escape b rest hr _ ih =>
    rw [percentEncoded, List.cons_append, List.cons_append, List.cons_append, List.nil_append,
      normalizePercentEncoding, hexNibble_hexDigit_high, hexNibble_hexDigit_low]
    simp only [Option.elim_some, bind, Except.bind, nibbles, ih, hr]
    rfl

theorem PercentNormal.mem : ∀ b ∈ text, isAllowedRaw b = true ∨ b = 0x25 := by
  induction h with
  | nil => simp
  | raw hal _ ih => exact List.forall_mem_cons.mpr ⟨.inl hal, ih⟩
  | @escape b rest _ _ ih =>
    obtain ⟨hh, hl⟩ := isUnreserved_hexDigit b
    simp only [percentEncoded, List.cons_append, List.forall_mem_cons]
    exact ⟨.inr trivial, .inl (hraw.unreserved _ hh), .inl (hraw.unreserved _ hl), ih⟩

/-- A byte that may not stand raw does not. -/
theorem PercentNormal.not_mem {b : UInt8} (hb : isAllowedRaw b = false) (hp : b ≠ 0x25) : b ∉ text := by
  intro hm
  obtain hal | heq := h.mem hraw b hm
  · rw [hb] at hal
    cases hal
  · exact hp heq

end

end

theorem PercentNormal.append {a b : Bytes} (ha : PercentNormal isAllowedRaw a) (hb : PercentNormal isAllowedRaw b) :
    PercentNormal isAllowedRaw (a ++ b) := by
  induction ha with
  | nil => exact hb
  | raw hal _ ih => exact .raw hal ih
  | escape hr _ ih =>
    exact .escape hr ih

theorem PercentNormal.mono {isAllowedRaw' : UInt8 → Bool}
    (hle : ∀ b, isAllowedRaw b = true → isAllowedRaw' b = true) (h : PercentNormal isAllowedRaw text) :
    PercentNormal isAllowedRaw' text := by
  induction h with
  | nil => exact .nil
  | raw hal _ ih => exact .raw (hle _ hal) ih
  | escape hr _ ih => exact .escape hr ih

theorem escape_split {separator c : UInt8} {rest a b : Bytes} (hs : isUnreserved separator = false)
    (heq : percentEncoded c ++ rest = a ++ separator :: b) :
    a = [] ∧ separator = 0x25 ∨ ∃ a', a = percentEncoded c ++ a' ∧ rest = a' ++ separator :: b := by
  have hdigit : ∀ d : UInt8, isUnreserved d = true → d ≠ separator := by
    rintro d hd rfl
    rw [hs] at hd
    cases hd
  obtain ⟨hh, hl⟩ := isUnreserved_hexDigit c
  simp only [percentEncoded, List.cons_append] at heq ⊢
  cases a with
  | nil => exact .inl ⟨rfl, (List.cons.inj heq).1.symm⟩
  | cons d a =>
    rw [List.cons_append, List.cons.injEq] at heq
    obtain ⟨rfl, heq⟩ := heq
    cases a with
    | nil => exact absurd (List.cons.inj heq).1 (hdigit _ hh)
    | cons d a =>
      rw [List.cons_append, List.cons.injEq] at heq
      obtain ⟨rfl, heq⟩ := heq
      cases a with
      | nil => exact absurd (List.cons.inj heq).1 (hdigit _ hl)
      | cons _ a =>
        rw [List.cons_append, List.cons.injEq] at heq
        obtain ⟨rfl, heq⟩ := heq
        exact .inr ⟨a, rfl, heq⟩

theorem PercentNormal.escapes (hp : isAllowedRaw 0x25 = false) (h : PercentNormal isAllowedRaw text) :
    ∀ before after, text = before ++ 0x25 :: after →
      ∃ b rest, 0x25 :: after = percentEncoded b ++ rest ∧ isUnreserved b = false := by
  induction h with
  | nil => intro before after heq; simp at heq
  | @raw c rest hal _ ih =>
    intro before after heq
    cases before with
    | nil =>
      obtain ⟨rfl, -⟩ := List.cons.inj heq
      rw [hp] at hal
      cases hal
    | cons _ before => exact ih before after (List.cons.inj heq).2
  | @escape c rest hreserved _ ih =>
    intro before after heq
    obtain ⟨rfl, -⟩ | ⟨before', -, hr⟩ := escape_split (by decide) heq
    · exact ⟨c, rest, heq.symm, hreserved⟩
    · exact ih before' after hr

/-- A raw separator parts a normalised text into two. -/
theorem PercentNormal.of_append_cons {sep : UInt8} (hs : isUnreserved sep = false)
    (hp : sep ≠ 0x25) (h : PercentNormal isAllowedRaw text) :
    ∀ a b, text = a ++ sep :: b → PercentNormal isAllowedRaw a ∧ PercentNormal isAllowedRaw b := by
  induction h with
  | nil => intro a b heq; simp at heq
  | @raw c rest hal hr ih =>
    intro a b heq
    cases a with
    | nil =>
      obtain ⟨rfl, rfl⟩ := List.cons.inj heq
      exact ⟨.nil, hr⟩
    | cons _ a =>
      rw [List.cons_append, List.cons.injEq] at heq
      obtain ⟨rfl, heq⟩ := heq
      obtain ⟨ha, hb⟩ := ih a b heq
      exact ⟨.raw hal ha, hb⟩
  | @escape c rest hreserved hr ih =>
    intro a b heq
    obtain ⟨-, h⟩ | ⟨a', rfl, hr⟩ := escape_split hs heq
    · exact absurd h hp
    · obtain ⟨ha, hb⟩ := ih a' b hr
      exact ⟨.escape hreserved ha, hb⟩

theorem PercentNormal.of_slashed {slash : UInt8} (hs : isUnreserved slash = false) (hp : slash ≠ 0x25)
    (hal : isAllowedRaw slash = true) : ∀ {segments : List Bytes},
      PercentNormal isAllowedRaw (slashed slash segments) → ∀ segment ∈ segments, PercentNormal isAllowedRaw segment
  | [], _ => by simp
  | [segment], h => by
    rw [slashed_cons, slashed_nil, List.append_nil] at h
    simpa using (h.of_append_cons hs hp [] segment rfl).2
  | segment :: next :: segments, h => by
    have htail := (h.of_append_cons hs hp [] (segment ++ slashed slash (next :: segments)) rfl).2
    obtain ⟨hg, hr⟩ := htail.of_append_cons hs hp segment (next ++ slashed slash segments) rfl
    have hn : PercentNormal isAllowedRaw (slashed slash (next :: segments)) := .raw hal hr
    exact List.forall_mem_cons.mpr ⟨hg, of_slashed hs hp hal hn⟩

theorem PercentNormal.slashed {slash : UInt8} (hal : isAllowedRaw slash = true) : ∀ {segments : List Bytes},
    (∀ segment ∈ segments, PercentNormal isAllowedRaw segment) → PercentNormal isAllowedRaw (slashed slash segments)
  | [], _ => .nil
  | segment :: segments, h => by
    rw [List.forall_mem_cons] at h
    exact .raw hal (h.1.append (slashed hal h.2))

end Percent

/-! ### Dot segments -/

/-- The two texts that are not segments of a canonical path. -/
def Dotless (segment : Bytes) : Prop := segment ≠ utf8 "." ∧ segment ≠ utf8 ".."

theorem stripFront_eq_some {p s rest : Bytes} : stripFront p s = some rest ↔ s = p ++ rest := by
  unfold stripFront
  constructor
  · intro h
    split at h
    · rename_i hp
      obtain ⟨tail, rfl⟩ := List.isPrefixOf_iff_prefix.mp hp
      cases h
      rw [List.drop_left]
    · cases h
  · rintro rfl
    rw [if_pos (List.isPrefixOf_iff_prefix.mpr (List.prefix_append _ _)), List.drop_left]

variable {path : Bytes} {pairs : List QueryPair} {segments : List Bytes} {segment dots : Bytes} {pair : QueryPair}
  {target : Bytes}

/-- Which input begins with `/`, the segment and `/`. -/
theorem stripFront_segment (hg : (0x2f : UInt8) ∉ segment) (hd : (0x2f : UInt8) ∉ dots) {rest : Bytes}
    (h : stripFront (0x2f :: dots ++ [0x2f]) (slashed 0x2f (segment :: segments)) = some rest) :
    segment = dots ∧ slashed 0x2f segments = 0x2f :: rest := by
  rw [stripFront_eq_some, slashed_cons] at h
  simp only [List.cons_append, List.append_assoc, List.nil_append, List.cons.injEq, true_and] at h
  cases segments with
  | nil =>
    rw [slashed_nil, List.append_nil] at h
    exact absurd (h ▸ List.mem_append_right _ List.mem_cons_self) hg
  | cons =>
    rw [slashed_cons, List.cons_append] at h ⊢
    obtain ⟨rfl, hr⟩ := append_cons_inj hg hd h
    exact ⟨rfl, by rw [hr]⟩

theorem removeLastPathSegment_slashed (out : List Bytes) (ho : ∀ segment ∈ out, (0x2f : UInt8) ∉ segment) :
    removeLastPathSegment (slashed 0x2f out) = slashed 0x2f out.dropLast := by
  induction out using List.reverseRecOn with
  | nil => rfl
  | append_singleton _ last =>
    have hl : (0x2f : UInt8) ∉ last := ho last (by simp)
    have ha : ∀ b ∈ last.reverse, (decide (b ≠ 0x2f)) = true := by
      intro b hb
      exact decide_eq_true fun h => hl (h ▸ List.mem_reverse.mp hb)
    rw [removeLastPathSegment, slashed_append, slashed_cons, slashed_nil, List.append_nil, List.reverse_append,
      List.reverse_cons, List.append_assoc, List.dropWhile_append_of_pos ha]
    simp

theorem slashed_eq_segment (hd : (0x2f : UInt8) ∉ dots)
    (h : slashed 0x2f (segment :: segments) = 0x2f :: dots) : segments = [] ∧ segment = dots := by
  rw [slashed_cons, List.cons_append, List.cons.injEq] at h
  cases segments with
  | nil => simpa using h.2
  | cons =>
    exact absurd (h.2 ▸ List.mem_append_right _ List.mem_cons_self) hd

theorem slash_not_mem_dots : (0x2f : UInt8) ∉ utf8 "." ∧ (0x2f : UInt8) ∉ utf8 ".." := by decide

theorem found_segment (dots : Bytes) (segments : List Bytes) : slashed 0x2f (dots :: segments) = 0x2f :: dots ∨
      ∃ rest, stripFront (0x2f :: dots ++ [0x2f]) (slashed 0x2f (dots :: segments)) = some rest := by
  cases segments with
  | nil => exact .inl (by simp)
  | cons next segments =>
    refine .inr ⟨next ++ slashed 0x2f segments, stripFront_eq_some.mpr ?_⟩
    simp

theorem segmentEnd_slashed (hf : (0x2f : UInt8) ∉ segment) :
    segmentEnd (slashed 0x2f (segment :: segments)) = (0x2f :: segment).length := by
  have ha : ∀ b ∈ segment, decide (b ≠ 0x2f) = true := fun b hb => decide_eq_true fun h => hf (h ▸ hb)
  rw [slashed_cons, List.cons_append, segmentEnd, List.takeWhile_append_of_pos ha]
  cases segments with
  | nil | cons => simp [Nat.add_comm]

theorem removeDotSegmentsLoop_cons (output : Bytes) (hfe : (0x2f : UInt8) ∉ segment) :
    removeDotSegmentsLoop (slashed 0x2f (segment :: segments)) output = if segment = utf8 "." then
        removeDotSegmentsLoop (if segments = [] then utf8 "/" else slashed 0x2f segments) output
      else if segment = utf8 ".." then
        removeDotSegmentsLoop (if segments = [] then utf8 "/" else slashed 0x2f segments) (removeLastPathSegment output)
      else removeDotSegmentsLoop (slashed 0x2f segments) (output ++ 0x2f :: segment) := by
  obtain ⟨hd, hdd⟩ := slash_not_mem_dots
  have hne : utf8 ".." ≠ utf8 "." := by decide
  have hrs {rest : Bytes} (h : slashed 0x2f segments = 0x2f :: rest) :
      (if segments = [] then utf8 "/" else slashed 0x2f segments) = 0x2f :: rest := by
    rw [if_neg, h]
    rintro rfl
    cases h
  rw [removeDotSegmentsLoop]
  split
  · rename_i h
    cases h
  · split
    · rename_i h
      cases h
    · split
      · rename_i rest h
        obtain ⟨rfl, hg⟩ := stripFront_segment hfe hd h
        rw [if_pos rfl, hrs hg]
      · split
        · rename_i h
          obtain ⟨rfl, rfl⟩ := slashed_eq_segment hd h
          rw [if_pos rfl, if_pos rfl]
        · split
          · rename_i rest h
            obtain ⟨rfl, hg⟩ := stripFront_segment hfe hdd h
            rw [if_neg hne, if_pos rfl, hrs hg]
          · split
            · rename_i h
              obtain ⟨rfl, rfl⟩ := slashed_eq_segment hdd h
              rw [if_neg hne, if_pos rfl, if_pos rfl]
            · rename_i hds hd' hup hup'
              have hn : segment ≠ utf8 "." := by
                rintro rfl
                obtain h | ⟨rest, h⟩ := found_segment (utf8 ".") segments
                · exact hd' h
                · cases hds.symm.trans h
              have hn' : segment ≠ utf8 ".." := by
                rintro rfl
                obtain h | ⟨rest, h⟩ := found_segment (utf8 "..") segments
                · exact hup' h
                · cases hup.symm.trans h
              rw [if_neg hn, if_neg hn', if_neg]
              · rw [segmentEnd_slashed hfe, slashed_cons, List.take_left, List.drop_left]
              · rintro (h | h) <;> cases h

theorem removeDotSegmentsLoop_nil (output : Bytes) : removeDotSegmentsLoop [] output = output := by
  rw [removeDotSegmentsLoop, dif_pos rfl]

theorem removeDotSegmentsLoop_slash (output : Bytes) : removeDotSegmentsLoop (utf8 "/") output = output ++ [0x2f] := by
  have hs : utf8 "/" = slashed 0x2f [[]] := by decide
  rw [hs, removeDotSegmentsLoop_cons output List.not_mem_nil, if_neg (by decide), if_neg (by decide), slashed_nil,
    removeDotSegmentsLoop_nil]

theorem removeDotSegmentsLoop_slashed (hne : segments ≠ []) : ∀ out : List Bytes,
    (∀ segment ∈ segments, (0x2f : UInt8) ∉ segment) → (∀ segment ∈ out, (0x2f : UInt8) ∉ segment) →
      removeDotSegmentsLoop (slashed 0x2f segments) (slashed 0x2f out) =
        slashed 0x2f (resolve (utf8 ".") (utf8 "..") segments out) := by
  refine segments_induction (P := fun segments => ∀ out : List Bytes, (∀ segment ∈ segments, (0x2f : UInt8) ∉ segment) →
    (∀ segment ∈ out, (0x2f : UInt8) ∉ segment) → removeDotSegmentsLoop (slashed 0x2f segments) (slashed 0x2f out) =
      slashed 0x2f (resolve (utf8 ".") (utf8 "..") segments out)) (fun last out hf ho => ?_)
    (fun segment segments hne ih out hf ho => ?_) segments hne
  · rw [removeDotSegmentsLoop_cons _ (hf last List.mem_cons_self), resolve_singleton, if_pos rfl,
      removeDotSegmentsLoop_slash, removeDotSegmentsLoop_slash, slashed_nil, removeDotSegmentsLoop_nil]
    split
    · rw [slashed_append]
      rfl
    · split
      · rw [removeLastPathSegment_slashed out ho, slashed_append]
        rfl
      · rw [slashed_append, slashed_cons, slashed_nil, List.append_nil]
  · rw [List.forall_mem_cons] at hf
    rw [removeDotSegmentsLoop_cons _ hf.1, resolve_cons segment hne]
    split
    · exact ih out hf.2 ho
    · split
      · rw [removeLastPathSegment_slashed out ho]
        exact ih _ hf.2 fun s hs => ho s (List.dropLast_subset _ hs)
      · have hsnoc : slashed 0x2f out ++ 0x2f :: segment = slashed 0x2f (out ++ [segment]) := by
          rw [slashed_append, slashed_cons, slashed_nil, List.append_nil]
        rw [hsnoc]
        refine ih _ hf.2 fun s hs => ?_
        rw [List.mem_append, List.mem_singleton] at hs
        obtain hs | rfl := hs
        · exact ho s hs
        · exact hf.1

theorem removeDotSegments_slashed (hne : segments ≠ []) (hf : ∀ segment ∈ segments, (0x2f : UInt8) ∉ segment) :
    removeDotSegments (slashed 0x2f segments) = slashed 0x2f (resolve (utf8 ".") (utf8 "..") segments []) :=
  removeDotSegmentsLoop_slashed hne [] hf (by simp)

/-- The segments of the path behind the leading slash, pushed one after the other on a stack. -/
def segmentStack (path : Bytes) : Bytes :=
  let segments := path.splitOn 0x2f
  let kept := segments.foldl (push (utf8 ".") (utf8 "..")) []
  let last := segments.getLast?
  0x2f :: [0x2f].intercalate (kept ++ if last = some (utf8 ".") ∨ last = some (utf8 "..") then [[]] else [])

theorem removeDotSegments_eq_segmentStack (path : Bytes) : removeDotSegments (0x2f :: path) = segmentStack path := by
  have hne := List.splitOn_ne_nil (0x2f : UInt8) path
  have hf : ∀ segment ∈ path.splitOn 0x2f, (0x2f : UInt8) ∉ segment := fun _ => not_mem_of_mem_splitOn
  rw [← slashed_splitOn, removeDotSegments_slashed hne hf, slashed_eq_cons_intercalate (resolve_ne_nil hne []),
    segmentStack]
  obtain ⟨init, last, hsplit⟩ := (List.eq_nil_or_concat' (path.splitOn 0x2f)).resolve_left hne
  simp only [hsplit, resolve_eq_foldl, List.getLast?_concat, Option.some.injEq]

/-! ### The path of a canonical target -/

def isAllowedInPath (b : UInt8) : Bool := isUnreserved b || (utf8 "/:@!$&'()*+,;=").contains b

theorem rawSet_path : RawSet isAllowedInPath :=
  ⟨by decide, fun b hb => by rw [isAllowedInPath, hb, Bool.true_or]⟩

theorem rawSet_query : RawSet isUnreserved := ⟨by decide, fun _ hb => hb⟩

/-- A path that is normalised and has no dot segments. -/
def CanonicalPath (path : Bytes) : Prop :=
  ∃ segments, segments ≠ [] ∧ path = slashed 0x2f segments ∧
    ∀ segment ∈ segments, (0x2f : UInt8) ∉ segment ∧ Dotless segment ∧ PercentNormal isAllowedInPath segment

theorem canonicalPath_of_normal (hn : PercentNormal isAllowedInPath (0x2f :: path)) :
    CanonicalPath (removeDotSegments (0x2f :: path)) := by
  have hne := List.splitOn_ne_nil (0x2f : UInt8) path
  have hfe : ∀ segment ∈ path.splitOn 0x2f, (0x2f : UInt8) ∉ segment := fun _ => not_mem_of_mem_splitOn
  rw [← slashed_splitOn] at hn ⊢
  have hnorm := hn.of_slashed (by decide) (by decide) (by decide)
  rw [removeDotSegments_slashed hne hfe]
  refine ⟨_, resolve_ne_nil hne [], rfl, fun segment hg => ?_⟩
  obtain h | rfl | ⟨hm, hd, hdd⟩ := mem_resolve hne [] hg
  · cases h
  · exact ⟨List.not_mem_nil, ⟨by decide, by decide⟩, .nil⟩
  · exact ⟨hfe segment hm, ⟨hd, hdd⟩, hnorm segment hm⟩

section

variable (h : CanonicalPath path)
include h

theorem CanonicalPath.normal : PercentNormal isAllowedInPath path := by
  obtain ⟨segments, -, rfl, hg⟩ := h
  exact .slashed (by decide) fun segment hs => (hg segment hs).2.2

theorem CanonicalPath.removeDotSegments : removeDotSegments path = path := by
  obtain ⟨segments, hne, rfl, hs⟩ := h
  rw [removeDotSegments_slashed hne fun segment hg => (hs segment hg).1,
    resolve_of_dotless hne [] fun segment hg => (hs segment hg).2.1, List.nil_append]

theorem CanonicalPath.dotless : ∀ segment ∈ splitAll 0x2f path, Dotless segment := by
  obtain ⟨segments, hne, rfl, hs⟩ := h
  rw [splitAll, splitOn_slashed hne fun segment hg => (hs segment hg).1]
  exact List.forall_mem_cons.mpr ⟨⟨by decide, by decide⟩, fun segment hg => (hs segment hg).2.1⟩

theorem CanonicalPath.head : path.head? = some 0x2f := by
  obtain ⟨segments, hne, rfl, -⟩ := h
  obtain ⟨segment, segments, rfl⟩ := List.exists_cons_of_ne_nil hne
  rfl

end

/-! ### The query -/

theorem splitOnce_of_not_mem {c : UInt8} {s : Bytes} (h : c ∉ s) : splitOnce c s = none := by
  have hnil : s.dropWhile (· ≠ c) = [] :=
    List.dropWhile_eq_nil_iff.mpr fun b hb => decide_eq_true fun heq => h (heq ▸ hb)
  rw [splitOnce, hnil]

theorem splitOnce_append {c : UInt8} {a : Bytes} (ha : c ∉ a) (b : Bytes) :
    splitOnce c (a ++ c :: b) = some (a, b) := by
  have hall : ∀ d ∈ a, decide (d ≠ c) = true := fun d hd => decide_eq_true fun heq => ha (heq ▸ hd)
  rw [splitOnce, List.dropWhile_append_of_pos hall, List.takeWhile_append_of_pos hall]
  simp

/-- The text before and after the first `c`, if there is one. -/
theorem splitOnce_spec (c : UInt8) (s : Bytes) :
    c ∉ s ∧ splitOnce c s = none ∨ ∃ a b, s = a ++ c :: b ∧ c ∉ a ∧ splitOnce c s = some (a, b) := by
  by_cases h : c ∈ s
  · obtain ⟨a, b, rfl, ha⟩ := List.eq_append_cons_of_mem h
    exact .inr ⟨a, b, rfl, ha, splitOnce_append ha b⟩
  · exact .inl ⟨h, splitOnce_of_not_mem h⟩

/-- A pair as the parser returns it. -/
structure CanonicalPair (pair : QueryPair) : Prop where
  key : PercentNormal isUnreserved pair.1
  key_ne : pair.1 ≠ []
  value : PercentNormal isUnreserved pair.2.1
  bare : pair.2.2 = false → pair.2.1 = []

theorem normalize_ne_nil {text res : Bytes} (h : normalizePercentEncoding isUnreserved text = .ok res)
    (hne : text ≠ []) : res ≠ [] := by
  revert h hne
  fun_induction normalizePercentEncoding isUnreserved text generalizing res with
  | case1 => exact fun _ hne => absurd rfl hne
  | case2 high low rest =>
    intro h _
    simp only [bind_eq_ok, pure_eq_ok] at h
    obtain ⟨high, -, low, -, rest, -, rfl⟩ := h
    split <;> simp [percentEncoded]
  | case3 =>
    intro h
    cases h
  | case4 _ rest =>
    intro h _
    simp only [bind_eq_ok, pure_eq_ok] at h
    obtain ⟨rest, -, rfl⟩ := h
    split <;> simp [percentEncoded]

theorem canonicalPair_of_parse {text : Bytes} (h : parseQueryPair text = .ok pair) : CanonicalPair pair := by
  unfold parseQueryPair at h
  split at h
  · cases h
  · rename_i hne
    obtain ⟨-, hsp⟩ | ⟨key, val, -, -, hsp⟩ := splitOnce_spec 0x3d text
    · rw [hsp] at h
      simp only [if_neg hne, bind_eq_ok, pure_eq_ok] at h
      obtain ⟨key, hk, val, hv, rfl⟩ := h
      cases hv
      exact ⟨normal_of_normalize rawSet_query hk, normalize_ne_nil hk hne, .nil, fun _ => rfl⟩
    · rw [hsp] at h
      simp only at h
      split at h
      · cases h
      · rename_i hkeyne
        simp only [bind_eq_ok, pure_eq_ok] at h
        obtain ⟨key, hk, val, hv, rfl⟩ := h
        exact ⟨normal_of_normalize rawSet_query hk, normalize_ne_nil hk hkeyne, normal_of_normalize rawSet_query hv,
          fun hf => absurd hf (by simp)⟩

theorem parseQueryPair_text (h : CanonicalPair pair) : parseQueryPair pair.text = .ok pair := by
  obtain ⟨key, value, hadEquals⟩ := pair
  have hk := h.key.not_mem rawSet_query (b := 0x3d) (by decide) (by decide)
  have hkeyNormal := normalize_of_normal rawSet_query h.key
  have hvalueNormal := normalize_of_normal rawSet_query h.value
  have hkeyne : key ≠ [] := h.key_ne
  unfold parseQueryPair
  cases hadEquals with
  | false =>
    obtain rfl : value = [] := h.bare rfl
    have ht : QueryPair.text (key, [], false) = key := by simp [QueryPair.text]
    rw [ht, splitOnce_of_not_mem hk]
    simp only [if_neg hkeyne, normalizeQueryComponent, hkeyNormal]
    rfl
  | true =>
    have ht : QueryPair.text (key, value, true) = key ++ 0x3d :: value := by simp [QueryPair.text]
    rw [ht, if_neg (by simp), splitOnce_append hk]
    simp only [if_neg hkeyne, normalizeQueryComponent, hkeyNormal, hvalueNormal]
    rfl

/-- Only unreserved bytes, the equals sign and escapes stand in the text of a pair. -/
theorem CanonicalPair.normal_text (h : CanonicalPair pair) :
    PercentNormal (fun b => isUnreserved b || b == 0x3d) pair.text := by
  have hle : ∀ b, isUnreserved b = true → (isUnreserved b || b == 0x3d) = true := fun b hb => by rw [hb, Bool.true_or]
  unfold QueryPair.text
  split
  · exact (h.key.mono hle).append (.raw (by decide) (h.value.mono hle))
  · rw [List.append_nil]
    exact h.key.mono hle

/-! ### The order of the pairs -/

namespace QueryPair

/-- The order of the components, one after the other. -/
theorem le_eq_lex : QueryPair.le = Prod.Lex (· < ·) (Prod.Lex (· < ·) (· ≤ ·)) := by
  funext a b
  simp only [QueryPair.le, Prod.lex_def, Bool.le_iff_imp]

instance : IsStrictOrder Bytes (· < ·) := {}

instance : Std.Total QueryPair.le := le_eq_lex ▸ inferInstance

instance : IsTrans QueryPair QueryPair.le := le_eq_lex ▸ inferInstance

instance : Std.Antisymm QueryPair.le := le_eq_lex ▸ inferInstance

theorem insertionSort_eq_of_perm {pairs' : List QueryPair} (h : pairs.Perm pairs') :
    pairs.insertionSort QueryPair.le = pairs'.insertionSort QueryPair.le := by
  refine List.Perm.eq_of_pairwise (fun _ _ _ _ => antisymm) (List.pairwise_insertionSort _ _)
    (List.pairwise_insertionSort _ _) ?_
  exact (List.perm_insertionSort _ _).trans (h.trans (List.perm_insertionSort _ _).symm)

end QueryPair

/-! ### The whole target -/

def pathPart (target : Bytes) : Bytes := ((splitOnce 0x3f target).map Prod.fst).getD target

/-- The query; an empty one counts as none. -/
def queryPart (target : Bytes) : Bytes := ((splitOnce 0x3f target).map Prod.snd).getD []

/-- The path, normalised and without dot segments. -/
def dotFreePath (target : Bytes) : Except CanonicalError Bytes :=
  (normalizePath (pathPart target)).map removeDotSegments

def queryPairs (target : Bytes) : Except CanonicalError (List QueryPair) :=
  if queryPart target = [] then .ok [] else (splitAll 0x26 (queryPart target)).mapM parseQueryPair

def renderTarget (path : Bytes) (pairs : List QueryPair) : Bytes :=
  if pairs = [] then path
  else path ++ 0x3f :: [0x26].intercalate ((pairs.insertionSort QueryPair.le).map QueryPair.text)

/-- The bytes that a target may have, its first byte, and no plus sign in the query. -/
structure Acceptable (target : Bytes) : Prop where
  head : target.head? = some 0x2f
  bytes : ∀ b ∈ target, b < 0x80 ∧ isAsciiControl b = false ∧ b ≠ 0x5c ∧ b ≠ 0x23
  plus : (0x2b : UInt8) ∉ queryPart target

theorem queryPairs_nil (h : queryPart target = []) : queryPairs target = .ok [] := if_pos h

theorem queryPairs_eq_ok (h : queryPairs target = .ok pairs) :
    (queryPart target = [] ↔ pairs = []) ∧ ∀ pair ∈ pairs, CanonicalPair pair := by
  unfold queryPairs at h
  split at h
  · rename_i hnil
    cases h
    exact ⟨⟨fun _ => rfl, fun _ => hnil⟩, by simp⟩
  · rename_i hne
    refine ⟨⟨fun hnil => absurd hnil hne, ?_⟩, fun pair hp => ?_⟩
    · rintro rfl
      have hl := map_of_mapM (k := fun _ => ()) (fun _ _ _ => rfl) h
      exact absurd (List.map_eq_nil_iff.mp hl.symm) (List.splitOn_ne_nil _ _)
    · obtain ⟨text, -, ht⟩ := exists_of_mem_mapM h hp
      exact canonicalPair_of_parse ht

theorem pathPart_eq_cons (h : target.head? = some 0x2f) : ∃ path, pathPart target = 0x2f :: path := by
  obtain ⟨-, hsp⟩ | ⟨path, query, rfl, -, hsp⟩ := splitOnce_spec 0x3f target
  · obtain ⟨rest, rfl⟩ := List.head?_eq_some_iff.mp h
    exact ⟨rest, by rw [pathPart, hsp]; rfl⟩
  · cases path with
    | nil => cases h
    | cons _ path =>
      cases h
      exact ⟨path, by rw [pathPart, hsp]; rfl⟩

theorem normalizePath_cons {res : Bytes} (h : normalizePath (0x2f :: path) = .ok res) :
    ∃ rest, res = 0x2f :: rest := by
  rw [normalizePath, normalizePercentEncoding_cons (by decide)] at h
  simp only [bind_eq_ok, pure_eq_ok] at h
  obtain ⟨rest, -, rfl⟩ := h
  exact ⟨rest, rfl⟩

theorem canonicalPath_of_dotFreePath (hh : target.head? = some 0x2f) (h : dotFreePath target = .ok path) :
    CanonicalPath path := by
  obtain ⟨raw, hraw⟩ := pathPart_eq_cons hh
  rw [dotFreePath, hraw, map_eq_ok] at h
  obtain ⟨normal, hn, rfl⟩ := h
  obtain ⟨rest, rfl⟩ := normalizePath_cons hn
  exact canonicalPath_of_normal (normal_of_normalize rawSet_path hn)

/-- The bytes a target may have, as the code checks them. -/
theorem plain_iff (val : Bytes) : (val = [] || val.head? ≠ some 0x2f || !val.all (fun b => b < 0x80) ||
      val.any (fun b => isAsciiControl b || b == 0x5c || b == 0x23)) = false ↔
    val.head? = some 0x2f ∧ ∀ b ∈ val, b < 0x80 ∧ isAsciiControl b = false ∧ b ≠ 0x5c ∧ b ≠ 0x23 := by
  simp only [Bool.or_eq_false_iff, decide_eq_false_iff_not, not_not, Bool.not_eq_false', List.all_eq_true,
    decide_eq_true_eq, List.any_eq_false, Bool.or_eq_true, not_or, Bool.not_eq_true, beq_iff_eq]
  constructor
  · rintro ⟨⟨⟨-, hh⟩, hascii⟩, hp⟩
    exact ⟨hh, fun b hb => ⟨hascii b hb, (hp b hb).1.1, (hp b hb).1.2, (hp b hb).2⟩⟩
  · rintro ⟨hh, ha⟩
    refine ⟨⟨⟨?_, hh⟩, fun b hb => (ha b hb).1⟩, fun b hb => ⟨⟨(ha b hb).2.1, (ha b hb).2.2.1⟩, (ha b hb).2.2.2⟩⟩
    rintro rfl
    cases hh

theorem path_check (h : CanonicalPath path) : (path = [] || path.head? ≠ some 0x2f) = false := by
  have hh := h.head
  have hne : path ≠ [] := by
    rintro rfl
    cases hh
  simp [hh, hne]

/-- The end of `canonical_request_target`, for the path and the query. -/
def renderQuery (path : Bytes) : Option Bytes → Except CanonicalError Bytes
  | none => .ok path
  | some [] => .ok path
  | some query =>
    if query.contains 0x2b then .error .invalidRequestTarget
    else do
      let pairs ← (splitAll 0x26 query).mapM parseQueryPair
      .ok (path ++ 0x3f :: [0x26].intercalate ((pairs.insertionSort QueryPair.le).map QueryPair.text))

theorem renderQuery_eq_ok {c : Bytes} : renderQuery path ((splitOnce 0x3f target).map Prod.snd) = .ok c ↔
    (0x2b : UInt8) ∉ queryPart target ∧ ∃ pairs, queryPairs target = .ok pairs ∧ c = renderTarget path pairs := by
  have hp : queryPart target = ((splitOnce 0x3f target).map Prod.snd).getD [] := rfl
  have hps (pairs : List QueryPair) (h : queryPairs target = .ok pairs) := (queryPairs_eq_ok h).1
  generalize (splitOnce 0x3f target).map Prod.snd = query at hp ⊢
  simp only [queryPairs, hp] at hps ⊢
  rcases query with - | - | ⟨b, query⟩
  · simp [renderQuery, renderTarget, eq_comm]
  · simp [renderQuery, renderTarget, eq_comm]
  · simp only [Option.getD_some, List.cons_ne_nil, false_iff] at hps ⊢
    rw [renderQuery, ite_error_eq_ok, bind_eq_ok, List.contains_iff_mem]
    · refine and_congr_right fun _ => exists_congr fun pairs => and_congr_right fun h => ?_
      rw [renderTarget, if_neg (hps pairs h), Except.ok.injEq, eq_comm]
    · nofun

theorem canonicalRequestTarget_eq (target : String) : canonicalRequestTarget target =
    if (utf8 target = [] || (utf8 target).head? ≠ some 0x2f || !(utf8 target).all (fun b => b < 0x80) ||
        (utf8 target).any (fun b => isAsciiControl b || b == 0x5c || b == 0x23)) = true then
      .error .invalidRequestTarget
    else normalizePath (pathPart (utf8 target)) >>= fun path =>
      if (removeDotSegments path = [] || (removeDotSegments path).head? ≠ some 0x2f) = true then
        .error .invalidRequestTarget
      else renderQuery (removeDotSegments path) ((splitOnce 0x3f (utf8 target)).map Prod.snd) := by
  unfold canonicalRequestTarget pathPart
  dsimp only
  cases splitOnce 0x3f (utf8 target) <;> rfl

/-- **What `canonical_request_target` accepts and returns.** -/
theorem canonicalRequestTarget_eq_ok {target : String} {c : Bytes} :
    canonicalRequestTarget target = .ok c ↔ Acceptable (utf8 target) ∧ ∃ path pairs,
      dotFreePath (utf8 target) = .ok path ∧ queryPairs (utf8 target) = .ok pairs ∧ c = renderTarget path pairs := by
  rw [canonicalRequestTarget_eq]
  simp only [ite_error_eq_ok, bind_eq_ok, Bool.not_eq_true, plain_iff, renderQuery_eq_ok]
  constructor
  · rintro ⟨⟨hh, hby⟩, path, hn, -, hplus, pairs, hps, rfl⟩
    exact ⟨⟨hh, hby, hplus⟩, _, pairs, map_eq_ok.mpr ⟨path, hn, rfl⟩, hps, rfl⟩
  · rintro ⟨ha, _, pairs, hpath, hps, rfl⟩
    have hc := path_check (canonicalPath_of_dotFreePath ha.head hpath)
    obtain ⟨path, hn, rfl⟩ := map_eq_ok.mp hpath
    exact ⟨⟨ha.head, ha.bytes⟩, path, hn, hc, ha.plus, pairs, hps, rfl⟩

/-! ### A canonical target is its own canonical form -/

/-- The bytes that stand raw in a canonical target. -/
def isAllowedInTarget (b : UInt8) : Bool := isAllowedInPath b || b == 0x3f

theorem rawSet_target : RawSet isAllowedInTarget :=
  ⟨by decide, fun b hb => by rw [isAllowedInTarget, rawSet_path.unreserved b hb, Bool.true_or]⟩

/-- None of them is a byte that a target may not have. -/
theorem plain_of_allowed (b : UInt8) : isAllowedInTarget b = true ∨ b = 0x25 →
    b < 0x80 ∧ isAsciiControl b = false ∧ b ≠ 0x5c ∧ b ≠ 0x23 := by
  revert b
  exact forall_byte (by decide +kernel)

def queryText (pairs : List QueryPair) : Bytes := [0x26].intercalate (pairs.map QueryPair.text)

theorem normal_queryText : ∀ {pairs : List QueryPair}, (∀ pair ∈ pairs, CanonicalPair pair) →
    PercentNormal (fun b => isUnreserved b || b == 0x3d || b == 0x26) (queryText pairs)
  | [], _ => .nil
  | [pair], h => by
    have ht := (h pair List.mem_cons_self).normal_text
    rw [queryText, List.map_cons, List.map_nil, List.intercalate_singleton]
    exact ht.mono fun b hb => by rw [hb, Bool.true_or]
  | pair :: next :: pairs, h => by
    rw [List.forall_mem_cons] at h
    have hr := normal_queryText h.2
    exact (h.1.normal_text.mono fun b hb => by rw [hb, Bool.true_or]).append (.raw (by decide) hr)

theorem queryText_ne_nil (hne : pairs ≠ []) (h : ∀ pair ∈ pairs, CanonicalPair pair) : queryText pairs ≠ [] := by
  obtain ⟨pair, pairs, rfl⟩ := List.exists_cons_of_ne_nil hne
  have hk := (h pair List.mem_cons_self).key_ne
  cases pairs with
  | nil =>
    rw [queryText, List.map_cons, QueryPair.text]
    simp [hk]
  | cons =>
    rw [queryText, List.map_cons]
    simp

theorem mapM_queryText (hne : pairs ≠ []) (h : ∀ pair ∈ pairs, CanonicalPair pair) :
    (splitAll 0x26 (queryText pairs)).mapM parseQueryPair = .ok pairs := by
  have hf : ∀ text ∈ pairs.map QueryPair.text, (0x26 : UInt8) ∉ text := by
    intro text ht hm
    obtain ⟨pair, hp, rfl⟩ := List.mem_map.mp ht
    exact (h pair hp).normal_text.not_mem ⟨by decide, fun b hb => by rw [hb, Bool.true_or]⟩ (by decide) (by decide) hm
  rw [splitAll, queryText, List.splitOn_intercalate _ hf (by simpa using hne)]
  exact mapM_map_of_forall fun pair hp => parseQueryPair_text (h pair hp)

theorem renderTarget_nil (path : Bytes) : renderTarget path [] = path := if_pos rfl

theorem renderTarget_of_ne (path : Bytes) (hne : pairs ≠ []) :
    renderTarget path pairs = path ++ 0x3f :: queryText (pairs.insertionSort QueryPair.le) := if_neg hne

theorem sorted_ne_nil (hne : pairs ≠ []) : pairs.insertionSort QueryPair.le ≠ [] := fun h =>
  hne (h ▸ (List.perm_insertionSort QueryPair.le pairs).symm).eq_nil

theorem canonicalPair_of_mem_sorted (hps : ∀ pair ∈ pairs, CanonicalPair pair) :
    ∀ pair ∈ pairs.insertionSort QueryPair.le, CanonicalPair pair := fun pair hp =>
  hps pair ((List.perm_insertionSort _ _).mem_iff.mp hp)

section

variable (hpath : CanonicalPath path)
include hpath

/-- The parts of a target that is put together from a canonical path and canonical pairs. -/
theorem parts_renderTarget (pairs : List QueryPair) :
    pathPart (renderTarget path pairs) = path ∧ queryPart (renderTarget path pairs) = if pairs = [] then [] else
      queryText (pairs.insertionSort QueryPair.le) := by
  have hf : (0x3f : UInt8) ∉ path := hpath.normal.not_mem rawSet_path (by decide) (by decide)
  by_cases hne : pairs = []
  · rw [hne, renderTarget_nil, pathPart, queryPart, splitOnce_of_not_mem hf]
    exact ⟨rfl, rfl⟩
  · rw [renderTarget_of_ne path hne, pathPart, queryPart, splitOnce_append hf, if_neg hne]
    exact ⟨rfl, rfl⟩

theorem dotFreePath_renderTarget : dotFreePath (renderTarget path pairs) = .ok path := by
  have hn : normalizePath path = .ok path := normalize_of_normal rawSet_path hpath.normal
  rw [dotFreePath, (parts_renderTarget hpath pairs).1, hn, Except.map, hpath.removeDotSegments]

section

variable (hps : ∀ pair ∈ pairs, CanonicalPair pair)
include hps

theorem queryPairs_renderTarget : queryPairs (renderTarget path pairs) = .ok (pairs.insertionSort QueryPair.le) := by
  have hq := (parts_renderTarget hpath pairs).2
  by_cases hne : pairs = []
  · rw [if_pos hne] at hq
    rw [queryPairs_nil hq, hne]
    rfl
  · rw [if_neg hne] at hq
    have ha := canonicalPair_of_mem_sorted hps
    rw [queryPairs, hq, if_neg (queryText_ne_nil (sorted_ne_nil hne) ha), mapM_queryText (sorted_ne_nil hne) ha]

theorem normal_renderTarget : PercentNormal isAllowedInTarget (renderTarget path pairs) := by
  have hf : PercentNormal isAllowedInTarget path :=
    hpath.normal.mono fun b hb => by rw [isAllowedInTarget, hb, Bool.true_or]
  by_cases hne : pairs = []
  · rw [hne]
    exact hf
  · rw [renderTarget_of_ne path hne]
    refine hf.append (.raw (by decide) ((normal_queryText (canonicalPair_of_mem_sorted hps)).mono fun b => ?_))
    revert b
    exact forall_byte (by decide +kernel)

theorem acceptable_renderTarget : Acceptable (renderTarget path pairs) := by
  refine ⟨?_, fun b hb => plain_of_allowed b ((normal_renderTarget hpath hps).mem rawSet_target b hb), ?_⟩
  · rw [renderTarget]
    split
    · exact hpath.head
    · rw [List.head?_append, hpath.head]
      rfl
  · rw [(parts_renderTarget hpath pairs).2]
    split
    · exact List.not_mem_nil
    · exact (normal_queryText (canonicalPair_of_mem_sorted hps)).not_mem
        ⟨by decide, fun b hb => by rw [hb, Bool.true_or, Bool.true_or]⟩ (by decide) (by decide)

end

end

theorem renderTarget_sorted (path : Bytes) (pairs : List QueryPair) :
    renderTarget path (pairs.insertionSort QueryPair.le) = renderTarget path pairs := by
  by_cases hne : pairs = []
  · rw [hne]
    rfl
  · rw [renderTarget_of_ne path (sorted_ne_nil hne), renderTarget_of_ne path hne,
      QueryPair.insertionSort_eq_of_perm (List.perm_insertionSort QueryPair.le pairs)]

/-! ### ASCII text -/

theorem utf8_singleton : ∀ n < 128, utf8 (String.singleton (Char.ofNat n)) = [UInt8.ofNat n] := by decide +kernel

/-- ASCII bytes are those of a string. -/
theorem exists_utf8_eq : ∀ {bs : Bytes}, (∀ b ∈ bs, b < 0x80) → ∃ text, utf8 text = bs
  | [], _ => ⟨"", by decide⟩
  | b :: bs, h => by
    rw [List.forall_mem_cons] at h
    obtain ⟨text, ht⟩ := exists_utf8_eq h.2
    refine ⟨String.singleton (Char.ofNat b.toNat) ++ text, ?_⟩
    rw [utf8_append, utf8_singleton b.toNat (UInt8.lt_iff_toNat_lt.mp h.1), ht, UInt8.ofNat_toNat,
      List.singleton_append]

/-- **Canonical request targets.** Let `c` be the result for an accepted target. It is ASCII text,
and as a target is accepted with the result `c`. It begins with a slash, no segment of its path is a
dot segment, each of its percent signs begins an upper-case escape of a byte that is not unreserved,
and its query pairs are sorted. Two accepted targets have the same result exactly if their paths,
normalised and without dot segments, are equal and their normalised pairs are the same up to order;
an empty query has no pairs. -/
theorem canonical_target :
    (∀ (target : String) (c : Bytes), canonicalRequestTarget target = .ok c →
      (∃ text, utf8 text = c) ∧ (∀ text, utf8 text = c → canonicalRequestTarget text = .ok c) ∧
      c.head? = some 0x2f ∧
      (∀ segment ∈ splitAll 0x2f (pathPart c), segment ≠ utf8 "." ∧ segment ≠ utf8 "..") ∧
      (∀ before after, c = before ++ 0x25 :: after →
        ∃ b rest, 0x25 :: after = percentEncoded b ++ rest ∧ isUnreserved b = false) ∧
      ∃ pairs, queryPairs c = .ok pairs ∧ pairs.Pairwise QueryPair.le) ∧
    ∀ (target target' : String) (c c' : Bytes), canonicalRequestTarget target = .ok c →
      canonicalRequestTarget target' = .ok c' → ∃ path path' pairs pairs',
        dotFreePath (utf8 target) = .ok path ∧ dotFreePath (utf8 target') = .ok path' ∧
        queryPairs (utf8 target) = .ok pairs ∧ queryPairs (utf8 target') = .ok pairs' ∧
        (c = c' ↔ path = path' ∧ pairs.Perm pairs') := by
  constructor
  · intro target c h
    obtain ⟨ha, path, pairs, hpath, hps, rfl⟩ := canonicalRequestTarget_eq_ok.mp h
    have hpath := canonicalPath_of_dotFreePath ha.head hpath
    have hps := (queryPairs_eq_ok hps).2
    have hr := acceptable_renderTarget hpath hps
    refine ⟨exists_utf8_eq fun b hb => (hr.bytes b hb).1, fun text htx => ?_, hr.head, ?_, ?_, ?_⟩
    · refine canonicalRequestTarget_eq_ok.mpr ?_
      rw [htx]
      exact ⟨hr, path, _, dotFreePath_renderTarget hpath, queryPairs_renderTarget hpath hps,
        (renderTarget_sorted path pairs).symm⟩
    · rw [(parts_renderTarget hpath pairs).1]
      exact hpath.dotless
    · exact (normal_renderTarget hpath hps).escapes rawSet_target.percent
    · exact ⟨_, queryPairs_renderTarget hpath hps, List.pairwise_insertionSort _ _⟩
  · intro target target' c c' h h'
    obtain ⟨ha, path, pairs, hpath, hps, rfl⟩ := canonicalRequestTarget_eq_ok.mp h
    obtain ⟨ha', path', pairs', hpath', hps', rfl⟩ := canonicalRequestTarget_eq_ok.mp h'
    have hc := canonicalPath_of_dotFreePath ha.head hpath
    have hc' := canonicalPath_of_dotFreePath ha'.head hpath'
    have hp := queryPairs_renderTarget hc (queryPairs_eq_ok hps).2
    have hp' := queryPairs_renderTarget hc' (queryPairs_eq_ok hps').2
    refine ⟨path, path', pairs, pairs', hpath, hpath', hps, hps', fun heq => ⟨?_, ?_⟩, ?_⟩
    · rw [← (parts_renderTarget hc pairs).1, heq, (parts_renderTarget hc' pairs').1]
    · rw [heq, hp'] at hp
      have hs := Except.ok.inj hp
      exact (List.perm_insertionSort QueryPair.le pairs).symm.trans (hs ▸ List.perm_insertionSort QueryPair.le pairs')
    · rintro ⟨rfl, hpm⟩
      rw [← renderTarget_sorted path pairs, QueryPair.insertionSort_eq_of_perm hpm, renderTarget_sorted]

theorem canonical_target_sample :
    canonicalRequestTarget "/a/b/%2e%2E/%7e%2f?b=2&a" = .ok (utf8 "/a/~%2F?a&b=2") ∧
      canonicalRequestTarget "/a/~%2F?a&b=2" = .ok (utf8 "/a/~%2F?a&b=2") := by
  have h : canonicalRequestTarget "/a/b/%2e%2E/%7e%2f?b=2&a" = .ok (utf8 "/a/~%2F?a&b=2") := by decide +kernel
  exact ⟨h, (canonical_target.1 _ _ h).2.1 _ rfl⟩

end Rctl
