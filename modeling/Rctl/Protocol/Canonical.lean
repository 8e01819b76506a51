/-
# The canonical writer

`remote-protocol/src/canonical.rs`: every byte string that is hashed, signed or
authenticated is a row of named fields, each written as the length of the name
(four big-endian bytes), the name, the length of the value and the value. A
writer made by `new` starts with the field `domain`.

The row is read back without a parser: two finished writers that hold the same
bytes were given the same fields (`encodeFields_inj`), hence the same domain
(`canonicalEncode_inj`). Every push of the source is `pushField` of one `Field`,
and a `canonical_bytes` is `canonicalEncode` of a domain and the fields it
pushes, in order.
-/
import Rctl.Lib.Bytes

namespace Rctl

open ByteString

inductive CanonicalError
  | nameTooLong
  | valueTooLong
  | jsonCanonicalization
  | invalidHttpMethod
  | invalidRequestTarget
  deriving DecidableEq, Repr

def utf8 (s : String) : Bytes := s.toByteArray.data.toList

theorem utf8_append (a b : String) : utf8 (a ++ b) = utf8 a ++ utf8 b := by simp [utf8]

theorem utf8_inj {s t : String} (h : utf8 s = utf8 t) : s = t := by
  have hd : s.toByteArray.data = t.toByteArray.data := Array.toList_inj.mp h
  exact String.toByteArray_inj.mp (ByteArray.ext hd)

abbrev ByteArr (n : ℕ) := Vector UInt8 n

/-- The array whose bytes are the low bytes of `v`, most significant first. -/
def ByteArr.ofNat (n v : ℕ) : ByteArr n :=
  ⟨((List.range n).map fun i => UInt8.ofNat (v / 256 ^ (n - 1 - i))).toArray, by simp⟩

abbrev Digest := ByteArr 32

abbrev U128 := BitVec 128

theorem u16Bytes_inj {a b : UInt16} (h : toBeBytes 2 a.toNat = toBeBytes 2 b.toNat) : a = b :=
  UInt16.toNat_inj.mp (toBeBytes_inj a.toNat_lt b.toNat_lt h)

theorem u32Bytes_inj {a b : UInt32} (h : toBeBytes 4 a.toNat = toBeBytes 4 b.toNat) : a = b :=
  UInt32.toNat_inj.mp (toBeBytes_inj a.toNat_lt b.toNat_lt h)

theorem u64Bytes_inj {a b : UInt64} (h : toBeBytes 8 a.toNat = toBeBytes 8 b.toNat) : a = b :=
  UInt64.toNat_inj.mp (toBeBytes_inj a.toNat_lt b.toNat_lt h)

theorem u128Bytes_inj {a b : U128} (h : toBeBytes 16 a.toNat = toBeBytes 16 b.toNat) : a = b :=
  BitVec.eq_of_toNat_eq (toBeBytes_inj a.isLt b.isLt h)

def CANONICAL_LENGTH_BYTES : ℕ := 4

structure CanonicalWriter where
  bytes : Bytes
  deriving DecidableEq

namespace CanonicalWriter

def withoutDomain : CanonicalWriter := ⟨[]⟩

/-- The length of the name and of the value must fit a `u32`. -/
def pushField (w : CanonicalWriter) (name : String) (value : Bytes) :
    Except CanonicalError CanonicalWriter :=
  if 2 ^ 32 ≤ (utf8 name).length then .error .nameTooLong
  else if 2 ^ 32 ≤ value.length then .error .valueTooLong
  else .ok ⟨w.bytes ++ (toBeBytes CANONICAL_LENGTH_BYTES (utf8 name).length ++ (utf8 name ++
    (toBeBytes CANONICAL_LENGTH_BYTES value.length ++ value)))⟩

def new (domain : String) : Except CanonicalError CanonicalWriter :=
  withoutDomain.pushField "domain" (utf8 domain)

def finish (w : CanonicalWriter) : Bytes := w.bytes

end CanonicalWriter

/-! ### A row of fields -/

/-- A field as the writer is given it. -/
@[ext] structure Field where
  name : String
  value : Bytes
  deriving DecidableEq

namespace Field

def str (name value : String) : Field := ⟨name, utf8 value⟩

/-- `push_optional_str`: an absent value is written as the empty string. -/
def optionalStr (name : String) (value : Option String) : Field := ⟨name, utf8 (value.getD "")⟩

/-- `push_field` of a fixed-size array. -/
def array {n : ℕ} (name : String) (value : ByteArr n) : Field := ⟨name, value.toList⟩

def bool (name : String) (value : Bool) : Field := ⟨name, [if value then 1 else 0]⟩

def u16 (name : String) (value : UInt16) : Field := ⟨name, toBeBytes 2 value.toNat⟩

def u64 (name : String) (value : UInt64) : Field := ⟨name, toBeBytes 8 value.toNat⟩

def u128 (name : String) (value : U128) : Field := ⟨name, toBeBytes 16 value.toNat⟩

/-! What a field says about the value pushed. -/

@[simp] theorem str_inj {name a b : String} : str name a = str name b ↔ a = b :=
  ⟨fun h => utf8_inj (congrArg Field.value h), fun h => h ▸ rfl⟩

variable {name : String}

@[simp] theorem array_inj {n : ℕ} {a b : ByteArr n} : array name a = array name b ↔ a = b :=
  ⟨fun h => Vector.toList_inj.mp (congrArg Field.value h), fun h => h ▸ rfl⟩

@[simp] theorem u16_inj {a b : UInt16} : u16 name a = u16 name b ↔ a = b :=
  ⟨fun h => u16Bytes_inj (congrArg Field.value h), fun h => h ▸ rfl⟩

@[simp] theorem u64_inj {a b : UInt64} : u64 name a = u64 name b ↔ a = b :=
  ⟨fun h => u64Bytes_inj (congrArg Field.value h), fun h => h ▸ rfl⟩

@[simp] theorem u128_inj {a b : U128} : u128 name a = u128 name b ↔ a = b :=
  ⟨fun h => u128Bytes_inj (congrArg Field.value h), fun h => h ▸ rfl⟩

/-- An optional string is read back once its presence is known. -/
theorem optionalStr_inj {a b : Option String} (hs : a.isSome = b.isSome)
    (h : optionalStr name a = optionalStr name b) : a = b := by
  cases a with
  | none => cases b with
    | none => rfl
    | some => cases hs
  | some => cases b with
    | none => cases hs
    | some => exact congrArg some (utf8_inj (congrArg Field.value h))

end Field

/-- The lengths of a field fit the four-byte prefixes. -/
def Field.Fits (f : Field) : Prop := (utf8 f.name).length < 2 ^ 32 ∧ f.value.length < 2 ^ 32

def fieldBytes (f : Field) : Bytes :=
  lengthPrefixed CANONICAL_LENGTH_BYTES (utf8 f.name) ++
    lengthPrefixed CANONICAL_LENGTH_BYTES f.value

def CanonicalWriter.pushFields (w : CanonicalWriter) (fs : List Field) :
    Except CanonicalError CanonicalWriter :=
  fs.foldlM (fun w f => w.pushField f.name f.value) w

def canonicalEncode (domain : String) (fs : List Field) : Except CanonicalError Bytes := do
  let w ← CanonicalWriter.new domain
  let w ← w.pushFields fs
  return w.finish

open CanonicalWriter

theorem pushField_eq_ok {w w' : CanonicalWriter} {name : String} {val : Bytes} (h : w.pushField name val = .ok w') :
    Field.Fits ⟨name, val⟩ ∧ w'.bytes = w.bytes ++ fieldBytes ⟨name, val⟩ := by
  unfold pushField at h
  split at h
  · cases h
  · split at h
    · cases h
    · rename_i hn hv
      cases h
      exact ⟨⟨Nat.lt_of_not_le hn, Nat.lt_of_not_le hv⟩, by simp [fieldBytes, lengthPrefixed]⟩

theorem pushFields_eq_ok : ∀ {fs : List Field} {w w' : CanonicalWriter}, w.pushFields fs = .ok w' →
    (∀ f ∈ fs, f.Fits) ∧ w'.bytes = w.bytes ++ fs.flatMap fieldBytes
  | [], w, w', h => by
    cases h
    simp
  | f :: fs, w, w', h => by
    unfold pushFields at h
    rw [List.foldlM_cons] at h
    cases hf : w.pushField f.name f.value with
    | error => rw [hf] at h; cases h
    | ok w1 =>
      rw [hf] at h
      obtain ⟨hfit, hb⟩ := pushField_eq_ok hf
      obtain ⟨hft, hb'⟩ := @pushFields_eq_ok fs w1 w' h
      refine ⟨fun g hg => ?_, by rw [hb', hb, List.flatMap_cons, List.append_assoc]⟩
      rcases List.mem_cons.mp hg with rfl | hg
      · exact hfit
      · exact hft g hg

theorem canonicalEncode_eq_ok {domain : String} {fs : List Field} {b : Bytes} (h : canonicalEncode domain fs = .ok b) :
    (∀ f ∈ (⟨"domain", utf8 domain⟩ :: fs : List Field), f.Fits) ∧
      b = (⟨"domain", utf8 domain⟩ :: fs : List Field).flatMap fieldBytes := by
  have ha : withoutDomain.pushFields (⟨"domain", utf8 domain⟩ :: fs) = .ok ⟨b⟩ := by
    unfold pushFields
    rw [List.foldlM_cons]
    unfold canonicalEncode CanonicalWriter.new at h
    cases hd : withoutDomain.pushField "domain" (utf8 domain) with
    | error => rw [hd] at h; cases h
    | ok w =>
      rw [hd] at h
      change (w.pushFields fs).bind (fun w => .ok w.finish) = .ok b at h
      change w.pushFields fs = _
      cases hw : w.pushFields fs with
      | error => rw [hw] at h; cases h
      | ok => rw [hw] at h; cases h; rfl
  obtain ⟨hf, hb⟩ := pushFields_eq_ok ha
  exact ⟨hf, by simpa [withoutDomain] using hb⟩

/-- One field is read back whatever follows it. -/
theorem selfDelimiting_fieldBytes : SelfDelimiting Field.Fits fieldBytes := by
  have hp := selfDelimiting_lengthPrefixed CANONICAL_LENGTH_BYTES
  rintro ⟨n, v⟩ ⟨n', v'⟩ x y ⟨hn, hv⟩ ⟨hn', hv'⟩ h
  obtain ⟨he, hxy⟩ := hp.pair hp (utf8 n, v) (utf8 n', v') x y ⟨hn, hv⟩ ⟨hn', hv'⟩ h
  simp only [Prod.mk.injEq] at he
  exact ⟨Field.ext (utf8_inj he.1) he.2, hxy⟩

theorem fieldBytes_ne_nil (f : Field) : fieldBytes f ≠ [] := by
  intro h
  have := congrArg List.length h
  simp [fieldBytes, lengthPrefixed, CANONICAL_LENGTH_BYTES] at this

variable {fs gs : List Field}

/-- **Rows of fields are read back.** Equal bytes hold the same fields in the
same order. -/
theorem encodeFields_inj (hf : ∀ f ∈ fs, f.Fits) (hg : ∀ g ∈ gs, g.Fits)
    (h : fs.flatMap fieldBytes = gs.flatMap fieldBytes) : fs = gs :=
  selfDelimiting_fieldBytes.flatMap_inj (fun f _ => fieldBytes_ne_nil f) fs gs hf hg h

/-- **Messages are read back.** Equal finished writers have the same domain and
the same fields. -/
theorem canonicalEncode_inj {d d' : String} {b : Bytes} (h : canonicalEncode d fs = .ok b)
    (h' : canonicalEncode d' gs = .ok b) : d = d' ∧ fs = gs := by
  obtain ⟨hfit, hb⟩ := canonicalEncode_eq_ok h
  obtain ⟨hfit', hb'⟩ := canonicalEncode_eq_ok h'
  have he := encodeFields_inj hfit hfit' (hb.symm.trans hb')
  simp only [List.cons.injEq, Field.mk.injEq, true_and] at he
  exact ⟨utf8_inj he.1, he.2⟩

end Rctl
