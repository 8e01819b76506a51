/-
# Request targets and the bindings built on them

The rest of `remote-protocol/src/canonical.rs`: an HTTP method is upper-cased, a
request target is normalised (percent encoding, dot segments, order of the query
pairs), and the API request, the operation and the idempotency binding are the
canonical bytes of the normalised values. All of it works on ASCII text, so the
strings here are their bytes.
-/
import Rctl.Protocol.Canonical
import Mathlib.Data.List.Sort

namespace Rctl

open ByteString

/-! ### Characters -/

def isAsciiAlphanumeric (b : UInt8) : Bool :=
  (0x30 ≤ b && b ≤ 0x39) || (0x41 ≤ b && b ≤ 0x5a) || (0x61 ≤ b && b ≤ 0x7a)

def isAsciiControl (b : UInt8) : Bool := b < 0x20 || b == 0x7f

def toAsciiUppercase (b : UInt8) : UInt8 := if 0x61 ≤ b && b ≤ 0x7a then b - 0x20 else b

def isUnreserved (b : UInt8) : Bool := isAsciiAlphanumeric b || (utf8 "-._~").contains b

def hexNibble (b : UInt8) : Option UInt8 :=
  if 0x30 ≤ b && b ≤ 0x39 then some (b - 0x30)
  else if 0x61 ≤ b && b ≤ 0x66 then some (b - 0x61 + 10)
  else if 0x41 ≤ b && b ≤ 0x46 then some (b - 0x41 + 10)
  else none

/-- The upper-case hexadecimal digit of a nibble. -/
def hexDigit (n : UInt8) : UInt8 := if n < 10 then 0x30 + n else 0x41 + (n - 10)

def percentEncoded (b : UInt8) : Bytes := [0x25, hexDigit (b >>> 4), hexDigit (b &&& 0x0f)]

/-! ### The method -/

def canonicalHttpMethod (method : String) : Except CanonicalError Bytes :=
  let bytes := utf8 method
  if bytes = [] || !bytes.all (fun b => b < 0x80) ||
      !bytes.all (fun b => isAsciiAlphanumeric b || (utf8 "!#$%&'*+-.^_`|~").contains b) then
    .error .invalidHttpMethod
  else .ok (bytes.map toAsciiUppercase)

/-! ### The path -/

/-- `normalize_percent_encoding`: an encoded byte is decoded if it is unreserved
and re-encoded in upper case if not; a raw byte that may not stand raw is
encoded. -/
def normalizePercentEncoding (isAllowedRaw : UInt8 → Bool) : Bytes → Except CanonicalError Bytes
  | [] => .ok []
  | 0x25 :: high :: low :: rest => do
    let high ← (hexNibble high).elim (.error .invalidRequestTarget) .ok
    let low ← (hexNibble low).elim (.error .invalidRequestTarget) .ok
    let decoded := (high <<< 4) ||| low
    let rest ← normalizePercentEncoding isAllowedRaw rest
    return (if isUnreserved decoded then [decoded] else percentEncoded decoded) ++ rest
  | b :: rest =>
    -- fewer than two bytes follow a percent sign
    if b = 0x25 then .error .invalidRequestTarget
    else do
      let rest ← normalizePercentEncoding isAllowedRaw rest
      return (if isAllowedRaw b then [b] else percentEncoded b) ++ rest

def normalizePath (path : Bytes) : Except CanonicalError Bytes :=
  normalizePercentEncoding (fun b => isUnreserved b || (utf8 "/:@!$&'()*+,;=").contains b) path

def normalizeQueryComponent (value : Bytes) : Except CanonicalError Bytes :=
  normalizePercentEncoding isUnreserved value

/-- What follows `p` in `s`, if `s` starts with it. -/
def stripFront (p s : Bytes) : Option Bytes := if p.isPrefixOf s then some (s.drop p.length) else none

theorem length_stripFront {p s r : Bytes} (h : stripFront p s = some r) : r.length + p.length = s.length := by
  unfold stripFront at h
  split at h
  · rename_i hp
    cases h
    have := (List.isPrefixOf_iff_prefix.mp hp).length_le
    simp only [List.length_drop]
    omega
  · cases h

/-- `output.truncate(output.rfind('/').unwrap_or(0))`. -/
def removeLastPathSegment (output : Bytes) : Bytes :=
  ((output.reverse.dropWhile (· ≠ 0x2f)).drop 1).reverse

/-- How far the first segment of a non-empty input reaches, its leading slash
included. -/
def segmentEnd : Bytes → ℕ
  | [] => 0
  | _ :: rest => 1 + (rest.takeWhile (· ≠ 0x2f)).length

theorem segmentEnd_pos {s : Bytes} (h : s ≠ []) : 0 < segmentEnd s := by
  cases s with
  | nil => exact absurd rfl h
  | cons => simp [segmentEnd]

-- The names of the tests are for the termination proof.
set_option linter.unusedVariables false in
def removeDotSegmentsLoop (input output : Bytes) : Bytes :=
  if hne : input = [] then output
  else match h1 : (stripFront (utf8 "../") input <|> stripFront (utf8 "./") input) with
  | some rest => removeDotSegmentsLoop rest output
  | none => match h2 : stripFront (utf8 "/./") input with
  | some rest => removeDotSegmentsLoop (0x2f :: rest) output
  | none =>
    if h3 : input = utf8 "/." then removeDotSegmentsLoop (utf8 "/") output
    else match h4 : stripFront (utf8 "/../") input with
    | some rest => removeDotSegmentsLoop (0x2f :: rest) (removeLastPathSegment output)
    | none =>
      if h5 : input = utf8 "/.." then removeDotSegmentsLoop (utf8 "/") (removeLastPathSegment output)
      else if input = utf8 "." ∨ input = utf8 ".." then output
      else removeDotSegmentsLoop (input.drop (segmentEnd input)) (output ++ input.take (segmentEnd input))
termination_by input.length
decreasing_by
  · have hl : ∀ p : Bytes, p.length ≠ 0 → stripFront p input = some rest → rest.length < input.length :=
      fun p hp h => by have := length_stripFront h; omega
    rcases hs : stripFront (utf8 "../") input with _ | r
    · rw [hs] at h1
      exact hl _ (by decide) h1
    · rw [hs] at h1
      cases h1
      exact hl _ (by decide) hs
  · have := length_stripFront h2
    have h3 : (utf8 "/./").length = 3 := by decide
    simp only [List.length_cons]
    omega
  · rw [h3]; decide
  · have := length_stripFront h4
    have h3 : (utf8 "/../").length = 4 := by decide
    simp only [List.length_cons]
    omega
  · rw [h5]; decide
  · have := segmentEnd_pos hne
    have := List.length_pos_iff.mpr hne
    simp only [List.length_drop]
    omega

def removeDotSegments (value : Bytes) : Bytes := removeDotSegmentsLoop value []

/-! ### The query -/

/-- `split_once`: the text before and after the first `c`. -/
def splitOnce (c : UInt8) (s : Bytes) : Option (Bytes × Bytes) :=
  match s.dropWhile (· ≠ c) with
  | [] => none
  | _ :: rest => some (s.takeWhile (· ≠ c), rest)

/-- `split`: the pieces between the `c`s. -/
def splitAll (c : UInt8) (s : Bytes) : List Bytes := s.splitOn c

/-- A query pair: key, value, and whether an equals sign stood between them. -/
abbrev QueryPair := Bytes × Bytes × Bool

/-- The order `sort_unstable` sorts the pairs by. -/
def QueryPair.le (a b : QueryPair) : Prop :=
  a.1 < b.1 ∨ a.1 = b.1 ∧ (a.2.1 < b.2.1 ∨ a.2.1 = b.2.1 ∧ (a.2.2 → b.2.2))

instance : DecidableRel QueryPair.le := fun _ _ => inferInstanceAs (Decidable (_ ∨ _))

def parseQueryPair (pair : Bytes) : Except CanonicalError QueryPair :=
  if pair = [] then .error .invalidRequestTarget
  else
    let (key, value, hadEquals) := match splitOnce 0x3d pair with
      | none => (pair, [], false)
      | some (key, value) => (key, value, true)
    if key = [] then .error .invalidRequestTarget
    else do
      let key ← normalizeQueryComponent key
      let value ← normalizeQueryComponent value
      return (key, value, hadEquals)

def QueryPair.text (p : QueryPair) : Bytes := p.1 ++ if p.2.2 then 0x3d :: p.2.1 else []

def canonicalRequestTarget (target : String) : Except CanonicalError Bytes :=
  let value := utf8 target
  if value = [] || value.head? ≠ some 0x2f || !value.all (fun b => b < 0x80) ||
      value.any (fun b => isAsciiControl b || b == 0x5c || b == 0x23) then
    .error .invalidRequestTarget
  else do
    let (path, query) := match splitOnce 0x3f value with
      | none => (value, none)
      | some (path, query) => (path, some query)
    let path ← normalizePath path
    let normalizedPath := removeDotSegments path
    if normalizedPath = [] || normalizedPath.head? ≠ some 0x2f then .error .invalidRequestTarget
    else match query with
    | none => .ok normalizedPath
    | some [] => .ok normalizedPath
    | some query =>
      if query.contains 0x2b then .error .invalidRequestTarget
      else do
        let pairs ← (splitAll 0x26 query).mapM parseQueryPair
        let pairs := pairs.insertionSort QueryPair.le
        .ok (normalizedPath ++ 0x3f :: [0x26].intercalate (pairs.map QueryPair.text))

/-! ### The bindings -/

def apiRequestFields (method path : Bytes) (bodyHash : Digest) (requestId deviceId accountId : String)
    (timestampEpochMillis : UInt64) (apiNonce : String) : List Field :=
  [⟨"method", method⟩,
   ⟨"path", path⟩,
   .array "body_hash" bodyHash,
   .str "request_id" requestId,
   .str "device_id" deviceId,
   .str "account_id" accountId,
   .u64 "timestamp" timestampEpochMillis,
   .str "api_nonce" apiNonce]

def canonicalApiRequestBytes (method requestTarget : String) (bodyHash : Digest)
    (requestId deviceId accountId : String) (timestampEpochMillis : UInt64) (apiNonce : String) :
    Except CanonicalError Bytes := do
  let method ← canonicalHttpMethod method
  let path ← canonicalRequestTarget requestTarget
  canonicalEncode "rctl-api-input-v1" (apiRequestFields method path bodyHash requestId deviceId accountId
    timestampEpochMillis apiNonce)

def operationBindingFields (accountId deviceId purpose : String) (method path : Bytes)
    (bodyHash : Digest) (requestId : String) (expiresAtEpochMillis : UInt64) : List Field :=
  [.str "account_id" accountId,
   .str "device_id" deviceId,
   .str "purpose" purpose,
   ⟨"method", method⟩,
   ⟨"path", path⟩,
   .array "body_hash" bodyHash,
   .str "request_id" requestId,
   .u64 "expires_at_epoch_millis" expiresAtEpochMillis]

def canonicalOperationBindingBytes (accountId deviceId purpose method requestTarget : String)
    (bodyHash : Digest) (requestId : String) (expiresAtEpochMillis : UInt64) :
    Except CanonicalError Bytes := do
  let method ← canonicalHttpMethod method
  let path ← canonicalRequestTarget requestTarget
  canonicalEncode "rctl-operation-binding-v1" (operationBindingFields accountId deviceId purpose method
    path bodyHash requestId expiresAtEpochMillis)

def idempotencyBindingFields (accountId deviceId : String) (method path : Bytes) (bodyHash : Digest) :
    List Field :=
  [.str "account_id" accountId,
   .str "device_id" deviceId,
   ⟨"method", method⟩,
   ⟨"path", path⟩,
   .array "body_hash" bodyHash]

def canonicalIdempotencyBindingBytes (accountId deviceId method requestTarget : String)
    (bodyHash : Digest) : Except CanonicalError Bytes := do
  let method ← canonicalHttpMethod method
  let path ← canonicalRequestTarget requestTarget
  canonicalEncode "rctl-idempotency-binding-v1" (idempotencyBindingFields accountId deviceId method path
    bodyHash)

end Rctl
