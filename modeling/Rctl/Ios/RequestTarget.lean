/-
# The request target that the iOS client signs

`normalizedRequestTarget` of `RemoteControllerKit/Networking/APIClient.swift`, against
`canonical_request_target` of the server. The percent normaliser, the parsing of the query and its
order are the same. The dot segments are removed by another algorithm: the client keeps the segments
in a list, whose first is the empty one before the leading slash, and appends an empty segment for a
path that ends in a dot segment, but only if the list does not end in an empty segment already. So it
drops a slash where an empty segment stands before the dot segments at the end: `/a//.` is `/a//` for
the server and `/a/` for the client.

A `URL` is its percent-encoded path and query; its path has no question mark.
-/
import Rctl.Protocol.CanonicalTarget

namespace Rctl.Ios

open ByteString Result Segments

inductive APIClientError
  | invalidResponse
  deriving DecidableEq, Repr

structure URLComponents where
  percentEncodedPath : Bytes
  percentEncodedQuery : Option Bytes
  path_ends : (0x3f : UInt8) ∉ percentEncodedPath

def isUnreserved (byte : UInt8) : Bool :=
  (0x41 ≤ byte && byte ≤ 0x5a) || (0x61 ≤ byte && byte ≤ 0x7a) || (0x30 ≤ byte && byte ≤ 0x39) ||
    [0x2d, 0x2e, 0x5f, 0x7e].contains byte

def isPathByte (byte : UInt8) : Bool :=
  isUnreserved byte ||
    [0x2f, 0x3a, 0x40, 0x21, 0x24, 0x26, 0x27, 0x28, 0x29, 0x2a, 0x2b, 0x2c, 0x3b, 0x3d].contains byte

def hexNibble (byte : UInt8) : Option UInt8 :=
  if 0x30 ≤ byte && byte ≤ 0x39 then some (byte - 0x30)
  else if 0x41 ≤ byte && byte ≤ 0x46 then some (byte - 0x41 + 10)
  else if 0x61 ≤ byte && byte ≤ 0x66 then some (byte - 0x61 + 10)
  else none

def appendPercentEncoded (byte : UInt8) : Bytes :=
  let digits := utf8 "0123456789ABCDEF"
  [0x25, digits.getD (byte >>> 4).toNat 0, digits.getD (byte &&& 0x0f).toNat 0]

def normalizeBytes (allowed : UInt8 → Bool) : Bytes → Except APIClientError Bytes
  | [] => .ok []
  | 0x25 :: high :: low :: rest =>
    match hexNibble high, hexNibble low with
    | some high, some low => do
      let decoded := high <<< 4 ||| low
      let rest ← normalizeBytes allowed rest
      return (if isUnreserved decoded then [decoded] else appendPercentEncoded decoded) ++ rest
    | _, _ => .error .invalidResponse
  | byte :: rest =>
    if byte = 0x25 then .error .invalidResponse
    else do
      let rest ← normalizeBytes allowed rest
      return (if allowed byte then [byte] else appendPercentEncoded byte) ++ rest

def normalizePercentEncoding (value : Bytes) (allowed : UInt8 → Bool) : Except APIClientError Bytes := do
  ensure (value.all (· < 0x80)) .invalidResponse
  normalizeBytes allowed value

def hasSuffix (path suffix : Bytes) : Bool := suffix.isSuffixOf path

/-- One turn of the loop over the segments. -/
def keepSegment (segments : List Bytes) (segment : Bytes) : List Bytes :=
  if segment = utf8 "." then segments
  else if segment = utf8 ".." then if 1 < segments.length then segments.dropLast else segments
  else segments ++ [segment]

def removeDotSegments (path : Bytes) : Bytes :=
  let hasTrailingDirectory := hasSuffix path (utf8 "/") || hasSuffix path (utf8 "/.") || hasSuffix path (utf8 "/..")
  let segments := (path.splitOn 0x2f).foldl keepSegment []
  let segments := if hasTrailingDirectory && segments.getLast?.any (· ≠ []) then segments ++ [[]] else segments
  let result := [0x2f].intercalate segments
  if result = [] then utf8 "/" else result

def parsePair (pair : Bytes) : Except APIClientError QueryPair := do
  ensure (pair ≠ []) .invalidResponse
  let (key, value, separator) := match splitOnce 0x3d pair with
    | some (key, value) => (key, value, true)
    | none => (pair, [], false)
  ensure (key ≠ []) .invalidResponse
  let key ← normalizePercentEncoding key isUnreserved
  let value ← normalizePercentEncoding value isUnreserved
  return (key, value, separator)

/-- The order by which the pairs are sorted. -/
def precedes (lhs rhs : QueryPair) : Bool :=
  if lhs.1 ≠ rhs.1 then lhs.1 < rhs.1
  else if lhs.2.1 ≠ rhs.2.1 then lhs.2.1 < rhs.2.1
  else !lhs.2.2 && rhs.2.2

def URLComponents.encodedPath (components : URLComponents) : Bytes :=
  if components.percentEncodedPath = [] then utf8 "/" else components.percentEncodedPath

def normalizedRequestTarget (components : URLComponents) : Except APIClientError Bytes := do
  let path ← normalizePercentEncoding components.encodedPath isPathByte
  let path := removeDotSegments path
  match components.percentEncodedQuery with
  | none => return path
  | some query =>
    if query = [] then return path
    else do
      ensure (!query.contains 0x2b) .invalidResponse
      let pairs ← (query.splitOn 0x26).mapM parsePair
      let sorted := pairs.insertionSort fun lhs rhs => precedes rhs lhs = false
      return path ++ utf8 "?" ++ [0x26].intercalate (sorted.map QueryPair.text)

/-- What the client sends the request to, and the server canonicalises. -/
def URLComponents.requestTarget (components : URLComponents) : Bytes :=
  components.encodedPath ++
    match components.percentEncodedQuery with
    | none => []
    | some query => 0x3f :: query

/-! ### The same bytes -/

theorem isUnreserved_eq (byte : UInt8) : isUnreserved byte = Rctl.isUnreserved byte := by
  revert byte
  exact forall_byte (by decide +kernel)

theorem isPathByte_eq (byte : UInt8) : isPathByte byte = isAllowedInPath byte := by
  revert byte
  exact forall_byte (by decide +kernel)

theorem hexNibble_eq (byte : UInt8) : hexNibble byte = Rctl.hexNibble byte := by
  revert byte
  exact forall_byte (by decide +kernel)

theorem appendPercentEncoded_eq (byte : UInt8) : appendPercentEncoded byte = percentEncoded byte := by
  revert byte
  exact forall_byte (by decide +kernel)

variable {allowed : UInt8 → Bool} {value result : Bytes} {init : List Bytes} {segments : List Bytes}

theorem normalizeBytes_eq_ok (h : normalizeBytes allowed value = .ok result) :
    Rctl.normalizePercentEncoding allowed value = .ok result := by
  fun_induction normalizeBytes allowed value generalizing result with
  | case1 =>
    cases h
    rfl
  | case2 high low rest high' low' hl hh decoded =>
    rename_i ih
    simp only [bind_eq_ok, pure_eq_ok] at h
    obtain ⟨rest', hr, rfl⟩ := h
    rw [hexNibble_eq] at hh hl
    rw [Rctl.normalizePercentEncoding, hh, hl]
    simp only [bind_eq_ok, pure_eq_ok]
    refine ⟨high', rfl, low', rfl, rest', ih hr, ?_⟩
    rw [isUnreserved_eq, appendPercentEncoded_eq]
  | case3 | case4 => cases h
  | case5 _ _ _ hp ih =>
    simp only [bind_eq_ok, pure_eq_ok] at h
    obtain ⟨rest', hr, rfl⟩ := h
    rw [normalizePercentEncoding_cons hp]
    simp only [bind_eq_ok, pure_eq_ok]
    refine ⟨rest', ih hr, ?_⟩
    rw [appendPercentEncoded_eq]

theorem normalizePercentEncoding_eq_ok (h : normalizePercentEncoding value allowed = .ok result) :
    Rctl.normalizePercentEncoding allowed value = .ok result := by
  simp only [normalizePercentEncoding, bind_eq_ok] at h
  obtain ⟨-, -, h⟩ := h
  exact normalizeBytes_eq_ok h

theorem parsePair_eq_ok {text : Bytes} {pair : QueryPair} (h : parsePair text = .ok pair) :
    parseQueryPair text = .ok pair := by
  unfold parsePair at h
  unfold parseQueryPair
  obtain ⟨-, hsp⟩ | ⟨first, second, -, -, hsp⟩ := splitOnce_spec 0x3d text
  all_goals
    rw [hsp] at h ⊢
    simp only [bind_eq_ok, pure_eq_ok, ensure_eq_ok, decide_eq_true_eq] at h
    obtain ⟨-, hne, -, hkeyne, key, hk, value, hv, rfl⟩ := h
    rw [if_neg hne]
    simp only [if_neg hkeyne, bind_eq_ok]
    have hal : isUnreserved = Rctl.isUnreserved := funext isUnreserved_eq
    rw [hal] at hk hv
    exact ⟨key, normalizePercentEncoding_eq_ok hk, value, normalizePercentEncoding_eq_ok hv, rfl⟩

/-! ### The same order -/

theorem precedes_eq_false (a b : QueryPair) : precedes b a = false ↔ a.le b := by
  obtain ⟨ka, va, ea⟩ := a
  obtain ⟨kb, vb, eb⟩ := b
  have hn (x y : Bytes) (h : x < y) : x ≠ y ∧ ¬ y < x :=
    ⟨fun heq => List.lt_irrefl y (heq ▸ h), fun h' => List.lt_irrefl x (List.lt_trans h h')⟩
  obtain h | rfl | h := Std.lt_trichotomy ka kb
  · simp [precedes, QueryPair.le, h, hn _ _ h, (hn _ _ h).1.symm]
  · obtain h | rfl | h := Std.lt_trichotomy va vb
    · simp [precedes, QueryPair.le, h, hn _ _ h, (hn _ _ h).1.symm]
    · cases ea <;> cases eb <;> simp [precedes, QueryPair.le]
    · simp [precedes, QueryPair.le, h, hn _ _ h, (hn _ _ h).1.symm]
  · simp [precedes, QueryPair.le, h, hn _ _ h, (hn _ _ h).1.symm]

theorem sorted_eq (pairs : List QueryPair) :
    pairs.insertionSort (fun lhs rhs => precedes rhs lhs = false) = pairs.insertionSort QueryPair.le := by
  have hle : (fun lhs rhs => precedes rhs lhs = false) = QueryPair.le :=
    funext₂ fun lhs rhs => propext (precedes_eq_false lhs rhs)
  congr!

/-! ### Dot segments -/

theorem foldl_keepSegment : ∀ (segments out : List Bytes),
    segments.foldl keepSegment ([] :: out) = [] :: segments.foldl (push (utf8 ".") (utf8 "..")) out
  | [], _ => rfl
  | segment :: segments, out => by
    have ho : keepSegment ([] :: out) segment = [] :: push (utf8 ".") (utf8 "..") out segment := by
      unfold keepSegment push
      split
      · rfl
      · split
        · cases out with
          | nil => rfl
          | cons => simp
        · rfl
    rw [List.foldl_cons, List.foldl_cons, ho, foldl_keepSegment segments]

theorem hasSuffix_iff {path tail : Bytes} : hasSuffix path tail = true ↔ ∃ front, front ++ tail = path :=
  List.isSuffixOf_iff_suffix

theorem hasSuffix_segment {last dots : Bytes} (hl : (0x2f : UInt8) ∉ last) (hd : (0x2f : UInt8) ∉ dots) :
    hasSuffix (slashed 0x2f (init ++ [last])) (0x2f :: dots) = true ↔ last = dots := by
  rw [hasSuffix_iff, slashed_append, slashed_cons, slashed_nil, List.append_nil]
  constructor
  · rintro ⟨front, h⟩
    exact (append_cons_inj_right hd hl h).2.symm
  · rintro rfl
    exact ⟨_, rfl⟩

/-- An empty segment stands before dot segments at the end of the path, with only segments between
that those take away. -/
def LosesSlash (path : Bytes) : Prop :=
  ∃ front inner, path.splitOn 0x2f = front ++ [] :: inner ∧ front ≠ [] ∧ inner ≠ [] ∧
    Cancels (utf8 ".") (utf8 "..") inner

theorem push_nil (out : List Bytes) : push (utf8 ".") (utf8 "..") out [] = out ++ [[]] :=
  push_of_ne (by decide) (by decide) out

/-- A slash is lost where the path ends in a dot segment and the last segment that is left is empty. -/
theorem losesSlash_slashed {last : Bytes} (hfe : ∀ segment ∈ init ++ [last], (0x2f : UInt8) ∉ segment) :
    LosesSlash (slashed 0x2f (init ++ [last])) ↔ (last = utf8 "." ∨ last = utf8 "..") ∧
      ((init ++ [last]).foldl (push (utf8 ".") (utf8 "..")) []).getLast? = some [] := by
  unfold LosesSlash
  rw [splitOn_slashed (by simp) hfe]
  constructor
  · rintro ⟨front, inner, hs, hfr, hin, hc⟩
    obtain ⟨first, front, rfl⟩ := List.exists_cons_of_ne_nil hfr
    obtain rfl | ⟨inner, last', rfl⟩ := List.eq_nil_or_concat inner
    · exact absurd rfl hin
    rw [List.concat_eq_append] at hs hc
    have hs : init ++ [last] = (front ++ [] :: inner) ++ [last'] := by
      rw [List.append_assoc, List.cons_append]
      exact (List.cons.inj hs).2
    obtain ⟨-, hlast⟩ := List.append_inj' hs rfl
    obtain rfl := List.singleton_inj.mp hlast
    refine ⟨hc.last_dots (by decide), ?_⟩
    rw [hs, List.append_assoc, List.cons_append, List.foldl_append, List.foldl_cons, push_nil,
      hc.foldl (by decide), List.getLast?_concat]
  · rintro ⟨hds, hlast⟩
    obtain ⟨left, hleft⟩ := List.getLast?_eq_some_iff.mp hlast
    obtain ⟨front, inner, hs, -, -, -, hc⟩ := exists_cancels _ left [] hleft
    refine ⟨[] :: front, inner, by rw [hs, List.cons_append], List.cons_ne_nil _ _, ?_, hc⟩
    rintro rfl
    obtain ⟨-, hl⟩ := List.append_inj' hs rfl
    obtain rfl := List.singleton_inj.mp hl
    exact absurd hds (by decide)

/-- Joined, the segments behind the empty first one are a path. -/
theorem intercalate_cons_nil (hne : segments ≠ []) : [0x2f].intercalate ([] :: segments) = slashed 0x2f segments := by
  obtain ⟨seg, rest, rfl⟩ := List.exists_cons_of_ne_nil hne
  rw [slashed_eq_cons_intercalate hne]
  rfl

theorem slashed_ne_nil (hne : segments ≠ []) : slashed (0x2f : UInt8) segments ≠ [] := by
  rw [slashed_eq_cons_intercalate hne]
  exact List.cons_ne_nil _ _

theorem removeDotSegments_segments {last : Bytes} (hfe : ∀ segment ∈ init ++ [last], (0x2f : UInt8) ∉ segment)
    {left : List Bytes} (hlf : (init ++ [last]).foldl (push (utf8 ".") (utf8 "..")) [] = left) :
    removeDotSegments (slashed 0x2f (init ++ [last])) =
      if (last = [] ∨ last = utf8 "." ∨ last = utf8 "..") ∧ left.getLast?.any (· ≠ []) = true
      then slashed 0x2f (left ++ [[]]) else if left = [] then utf8 "/" else slashed 0x2f left := by
  have hla := hfe last (by simp)
  have ht : (hasSuffix (slashed 0x2f (init ++ [last])) (utf8 "/") ||
      hasSuffix (slashed 0x2f (init ++ [last])) (utf8 "/.") ||
      hasSuffix (slashed 0x2f (init ++ [last])) (utf8 "/..")) = true ↔
        last = [] ∨ last = utf8 "." ∨ last = utf8 ".." := by
    rw [Bool.or_eq_true, Bool.or_eq_true, or_assoc]
    exact or_congr (hasSuffix_segment hla List.not_mem_nil) (or_congr (hasSuffix_segment hla slash_not_mem_dots.1)
      (hasSuffix_segment hla slash_not_mem_dots.2))
  have hkp : ((slashed 0x2f (init ++ [last])).splitOn 0x2f).foldl keepSegment [] = [] :: left := by
    rw [splitOn_slashed (by simp) hfe, ← hlf]
    exact foldl_keepSegment _ []
  have hlastKept : ([] :: left).getLast?.any (fun segment : Bytes => decide (segment ≠ [])) =
      left.getLast?.any fun segment => decide (segment ≠ []) := by
    cases left with
    | nil => rfl
    | cons => rw [List.getLast?_cons_cons]
  unfold removeDotSegments
  simp only [hkp, hlastKept, Bool.and_eq_true, ht]
  split
  · rw [List.cons_append, intercalate_cons_nil (by simp), if_neg (slashed_ne_nil (by simp))]
  · by_cases hne : left = []
    · simp [hne]
    · rw [intercalate_cons_nil hne, if_neg (slashed_ne_nil hne), if_neg hne]

/-- **Where the two algorithms agree.** -/
theorem removeDotSegments_eq_iff {path : Bytes} :
    removeDotSegments (0x2f :: path) = Rctl.removeDotSegments (0x2f :: path) ↔ ¬ LosesSlash (0x2f :: path) := by
  have hfe : ∀ segment ∈ path.splitOn 0x2f, (0x2f : UInt8) ∉ segment := fun _ => not_mem_of_mem_splitOn
  obtain hnil | ⟨init, last, hg⟩ := List.eq_nil_or_concat (path.splitOn 0x2f)
  · exact absurd hnil (List.splitOn_ne_nil _ _)
  rw [List.concat_eq_append] at hg
  rw [← slashed_splitOn, hg]
  rw [hg] at hfe
  have hne : init ++ [last] ≠ [] := by simp
  rw [losesSlash_slashed hfe]
  generalize hlf : (init ++ [last]).foldl (push (utf8 ".") (utf8 "..")) [] = left
  have hs : Rctl.removeDotSegments (slashed 0x2f (init ++ [last])) =
      slashed 0x2f (left ++ if last = utf8 "." ∨ last = utf8 ".." then [[]] else []) := by
    rw [removeDotSegments_slashed hne hfe, resolve_eq_foldl, hlf]
  rw [removeDotSegments_segments hfe hlf, hs]
  by_cases hds : last = utf8 "." ∨ last = utf8 ".."
  · rw [if_pos hds]
    obtain rfl | ⟨front, final, rfl⟩ := List.eq_nil_or_concat left
    · rw [if_neg (by simp)]
      exact iff_of_true rfl (by simp)
    · rw [List.concat_eq_append, List.getLast?_concat]
      by_cases hf : final = []
      · -- The server's path ends in two slashes, and the client's in one.
        rw [if_neg (by simp [hf]), if_neg (by simp), slashed_append _ [[]]]
        refine iff_of_false (fun h => ?_) (fun h => h ⟨hds, congrArg some hf⟩)
        simp at h
      · rw [if_pos ⟨.inr hds, by simp [hf]⟩]
        exact iff_of_true rfl fun h => hf (Option.some.inj h.2)
  · rw [if_neg hds, List.append_nil]
    refine iff_of_true ?_ fun h => hds h.1
    obtain ⟨hd, hdd⟩ := not_or.mp hds
    have hp : left = init.foldl (push (utf8 ".") (utf8 "..")) [] ++ [last] := by
      rw [← hlf, List.foldl_append, List.foldl_cons, List.foldl_nil, push_of_ne hd hdd]
    rw [hp, if_neg, if_neg (by simp)]
    rintro ⟨hl', hany⟩
    rw [List.getLast?_concat, Option.any_some, decide_eq_true_eq] at hany
    exact hl'.elim hany hds

/-! ### The whole target -/

section Target

variable (components : URLComponents)

theorem not_mem_encodedPath : (0x3f : UInt8) ∉ components.encodedPath := by
  unfold URLComponents.encodedPath
  split
  · decide
  · exact components.path_ends

theorem pathPart_requestTarget : pathPart components.requestTarget = components.encodedPath := by
  unfold URLComponents.requestTarget
  cases components.percentEncodedQuery with
  | none =>
    rw [List.append_nil, pathPart, splitOnce_of_not_mem (not_mem_encodedPath components)]
    rfl
  | some =>
    rw [pathPart, splitOnce_append (not_mem_encodedPath components)]
    rfl

theorem queryPart_requestTarget : queryPart components.requestTarget = components.percentEncodedQuery.getD [] := by
  unfold URLComponents.requestTarget
  cases components.percentEncodedQuery with
  | none =>
    rw [List.append_nil, queryPart, splitOnce_of_not_mem (not_mem_encodedPath components)]
    rfl
  | some =>
    rw [queryPart, splitOnce_append (not_mem_encodedPath components)]
    rfl

/-- What the client signs: its path, and the pairs the server reads, in the server's order. -/
theorem normalizedRequestTarget_eq_ok {components : URLComponents} {signed : Bytes}
    (h : normalizedRequestTarget components = .ok signed) : ∃ path pairs,
      normalizePath components.encodedPath = .ok path ∧ queryPairs components.requestTarget = .ok pairs ∧
        signed = renderTarget (removeDotSegments path) pairs := by
  have hby : isPathByte = isAllowedInPath := funext isPathByte_eq
  simp only [normalizedRequestTarget, bind_eq_ok] at h
  obtain ⟨path, hp, h⟩ := h
  rw [hby] at hp
  have hp : normalizePath components.encodedPath = .ok path := normalizePercentEncoding_eq_ok hp
  have hq := queryPart_requestTarget components
  cases hs : components.percentEncodedQuery with
  | none =>
    rw [hs] at h hq
    cases h
    exact ⟨path, [], hp, queryPairs_nil hq, rfl⟩
  | some query =>
    rw [hs, Option.getD_some] at hq
    rw [hs] at h
    simp only at h
    split_ifs at h with hnil
    · cases h
      exact ⟨path, [], hp, queryPairs_nil (hq.trans hnil), rfl⟩
    · simp only [bind_eq_ok, pure_eq_ok] at h
      obtain ⟨-, -, pairs, hps, rfl⟩ := h
      have hps : queryPairs components.requestTarget = .ok pairs := by
        rw [queryPairs, hq, if_neg hnil]
        exact mapM_eq_ok_of_imp (fun _ _ => parsePair_eq_ok) hps
      have hs := mt (queryPairs_eq_ok hps).1.mpr (by rwa [hq])
      refine ⟨path, pairs, hp, hps, ?_⟩
      rw [renderTarget_of_ne _ hs, sorted_eq, List.append_assoc]
      rfl

omit components in
theorem renderTarget_inj {path path' : Bytes} {pairs : List QueryPair} :
    renderTarget path pairs = renderTarget path' pairs ↔ path = path' := by
  unfold renderTarget
  split
  · rfl
  · exact List.append_left_inj _

end Target

/-- **Client and server agree exactly where no slash is lost.** For every path and query that both
accept, the client signs what the server verifies against if and only if no empty segment of the
normalised path stands before dot segments at its end. -/
theorem request_target_agrees (components : URLComponents) (target : String)
    (htarget : utf8 target = components.requestTarget) (signed verified path : Bytes)
    (hclient : normalizedRequestTarget components = .ok signed)
    (hserver : canonicalRequestTarget target = .ok verified)
    (hpath : normalizePath components.encodedPath = .ok path) : signed = verified ↔ ¬ LosesSlash path := by
  obtain ⟨_, pairs, hpt, hps, rfl⟩ := normalizedRequestTarget_eq_ok hclient
  cases hpath.symm.trans hpt
  obtain ⟨ha, path', pairs', hp', hps', rfl⟩ := canonicalRequestTarget_eq_ok.mp hserver
  rw [htarget] at ha hp' hps'
  rw [hps] at hps'
  cases hps'
  obtain ⟨rest, hrs⟩ := pathPart_eq_cons ha.head
  rw [pathPart_requestTarget] at hrs
  rw [dotFreePath, pathPart_requestTarget, hpt] at hp'
  cases hp'
  rw [hrs] at hpt
  obtain ⟨tail, rfl⟩ := normalizePath_cons hpt
  rw [renderTarget_inj, removeDotSegments_eq_iff]

theorem request_target_agrees_sample : ∃ signed verified,
    normalizedRequestTarget ⟨utf8 "/a//b/..//c", some (utf8 "x&b=%7e"), by decide⟩ = .ok signed ∧
      canonicalRequestTarget "/a//b/..//c?x&b=%7e" = .ok verified ∧ (signed = verified ↔
        ¬ LosesSlash (utf8 "/a//b/..//c")) := by
  have hc : normalizedRequestTarget ⟨utf8 "/a//b/..//c", some (utf8 "x&b=%7e"), by decide⟩ =
      .ok (utf8 "/a///c?b=~&x") := by decide +kernel
  have hs : canonicalRequestTarget "/a//b/..//c?x&b=%7e" = .ok (utf8 "/a///c?b=~&x") := by decide +kernel
  exact ⟨_, _, hc, hs, request_target_agrees ⟨utf8 "/a//b/..//c", some (utf8 "x&b=%7e"), by decide⟩
    "/a//b/..//c?x&b=%7e" (by decide +kernel) _ _ _ hc hs (by decide +kernel)⟩

/-- **The client signs another target than the server verifies.** After a trailing dot segment the
client keeps one of the two slashes that the server leaves standing. -/
theorem signed_target_differs :
    normalizedRequestTarget ⟨utf8 "/a//.", none, by decide⟩ = .ok (utf8 "/a/") ∧
      canonicalRequestTarget "/a//." = .ok (utf8 "/a//") := by
  decide +kernel

end Rctl.Ios
