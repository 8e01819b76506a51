/-
# Byte strings: big-endian integers and self-delimiting encodings

An encoding into byte strings is self-delimiting on a set of values when what
follows an encoded value never changes how it is read back: from
`enc a ++ x = enc b ++ y` one gets `a = b` and `x = y`. A length prefix makes
any byte string so, and pairs and lists of self-delimiting encodings are read
back in order. No parser is involved: everything is about the writer.
-/
import Mathlib.Data.List.Basic
import Mathlib.Data.List.Induction
import Mathlib.Data.Nat.Basic
import Mathlib.Tactic.Ring

namespace ByteString

/-- A byte string. -/
abbrev Bytes := List UInt8

/-- What holds of the first 256 numbers as bytes holds of every byte. -/
theorem forall_byte {P : UInt8 → Prop} (h : ∀ n < 256, P (UInt8.ofNat n)) (b : UInt8) : P b := by
  have hb := h b.toNat b.toNat_lt
  rwa [UInt8.ofNat_toNat] at hb

/-! ### Big-endian integers -/

/-- The low `w` bytes of `n`, most significant first. -/
def toBeBytes : ℕ → ℕ → Bytes
  | 0, _ => []
  | w + 1, n => toBeBytes w (n / 256) ++ [UInt8.ofNat n]

/-- The number a byte string reads as, most significant byte first. -/
def fromBeBytes (bs : Bytes) : ℕ := bs.foldl (fun acc b => acc * 256 + b.toNat) 0

@[simp] theorem length_toBeBytes : ∀ w n : ℕ, (toBeBytes w n).length = w
  | 0, _ => rfl
  | w + 1, n => by simp [toBeBytes, length_toBeBytes w]

theorem fromBeBytes_append_singleton (bs : Bytes) (b : UInt8) :
    fromBeBytes (bs ++ [b]) = fromBeBytes bs * 256 + b.toNat := by
  simp [fromBeBytes]

/-- Reading back the low `w` bytes gives the number modulo `256 ^ w`. -/
theorem fromBeBytes_toBeBytes : ∀ w n : ℕ, fromBeBytes (toBeBytes w n) = n % 256 ^ w
  | 0, n => by simp [toBeBytes, fromBeBytes, Nat.mod_one]
  | w + 1, n => by
    rw [toBeBytes, fromBeBytes_append_singleton, fromBeBytes_toBeBytes w, pow_succ, Nat.mul_comm (256 ^ w), Nat.mod_mul]
    simp only [UInt8.toNat_ofNat']
    omega

theorem toBeBytes_inj {w n m : ℕ} (hn : n < 256 ^ w) (hm : m < 256 ^ w)
    (h : toBeBytes w n = toBeBytes w m) : n = m := by
  have hv := congrArg fromBeBytes h
  rwa [fromBeBytes_toBeBytes, fromBeBytes_toBeBytes, Nat.mod_eq_of_lt hn, Nat.mod_eq_of_lt hm] at hv

/-- Dropping leading bytes leaves the low ones. -/
theorem drop_toBeBytes (k : ℕ) : ∀ w n : ℕ, (toBeBytes (k + w) n).drop k = toBeBytes w n
  | 0, n => by simp [toBeBytes]
  | w + 1, n => by
    rw [← Nat.add_assoc, toBeBytes, List.drop_append_of_le_length (by simp), drop_toBeBytes k w, toBeBytes]

theorem fromBeBytes_lt (bs : Bytes) : fromBeBytes bs < 256 ^ bs.length := by
  induction bs using List.reverseRecOn with
  | nil => simp [fromBeBytes]
  | append_singleton _ b =>
    have hb := b.toNat_lt
    rw [fromBeBytes_append_singleton, List.length_append, List.length_singleton]
    omega

/-- The bytes are read back from the number they read as. -/
theorem toBeBytes_fromBeBytes (bs : Bytes) : toBeBytes bs.length (fromBeBytes bs) = bs := by
  induction bs using List.reverseRecOn with
  | nil => rfl
  | append_singleton bs b ih =>
    have hb := b.toNat_lt
    have hd : (fromBeBytes bs * 256 + b.toNat) / 256 = fromBeBytes bs := by omega
    have hl : UInt8.ofNat (fromBeBytes bs * 256 + b.toNat) = b := by
      rw [← UInt8.toNat_inj, UInt8.toNat_ofNat']
      omega
    rw [fromBeBytes_append_singleton, List.length_append, List.length_singleton, toBeBytes, hd, ih, hl]

/-! ### Parts of a byte string -/

/-- `bytes[start..stop]`, unless it is out of bounds. -/
def slice (bytes : Bytes) (start stop : ℕ) : Option Bytes :=
  if start ≤ stop ∧ stop ≤ bytes.length then some ((bytes.drop start).take (stop - start)) else none

theorem slice_eq {bs : Bytes} {start stop : ℕ} (h : start ≤ stop) (h' : stop ≤ bs.length) :
    slice bs start stop = some ((bs.drop start).take (stop - start)) :=
  if_pos ⟨h, h'⟩

/-! ### Self-delimiting encodings -/

section SelfDelimiting

variable {α β γ : Type*} {P : α → Prop} {enc : α → List γ}

/-- On the values satisfying `P`, the encoding `enc` is read back whatever
follows it. -/
def SelfDelimiting (P : α → Prop) (enc : α → List γ) : Prop :=
  ∀ a b x y, P a → P b → enc a ++ x = enc b ++ y → a = b ∧ x = y

/-- Two self-delimiting encodings, one after the other. -/
theorem SelfDelimiting.pair {Q : β → Prop} {e : α → List γ} {f : β → List γ} (he : SelfDelimiting P e)
    (hf : SelfDelimiting Q f) : SelfDelimiting (fun p : α × β => P p.1 ∧ Q p.2) (fun p => e p.1 ++ f p.2) := by
  rintro ⟨a, b⟩ ⟨a', b'⟩ x y ⟨ha, hb⟩ ⟨ha', hb'⟩ h
  simp only [List.append_assoc] at h
  obtain ⟨rfl, h'⟩ := he a a' _ _ ha ha' h
  obtain ⟨rfl, rfl⟩ := hf b b' x y hb hb' h'
  exact ⟨rfl, rfl⟩

/-- A list of values is read back from their encodings in a row. -/
theorem SelfDelimiting.flatMap_inj (h : SelfDelimiting P enc) (hne : ∀ a, P a → enc a ≠ []) :
    ∀ xs ys : List α, (∀ x ∈ xs, P x) → (∀ y ∈ ys, P y) → xs.flatMap enc = ys.flatMap enc → xs = ys
  | [], [], _, _, _ => rfl
  | [], y :: ys, _, hy, he => by
    exact absurd (List.append_eq_nil_iff.mp he.symm).1 (hne y (hy y List.mem_cons_self))
  | x :: xs, [], hx, _, he => by
    exact absurd (List.append_eq_nil_iff.mp he).1 (hne x (hx x List.mem_cons_self))
  | x :: xs, y :: ys, hx, hy, he => by
    obtain ⟨rfl, ht⟩ := h x y _ _ (hx x List.mem_cons_self) (hy y List.mem_cons_self) he
    rw [flatMap_inj h hne xs ys (fun a ha => hx a (List.mem_cons_of_mem _ ha))
      (fun a ha => hy a (List.mem_cons_of_mem _ ha)) ht]

end SelfDelimiting

/-- A byte string behind its length in `w` big-endian bytes. -/
def lengthPrefixed (w : ℕ) (v : Bytes) : Bytes := toBeBytes w v.length ++ v

theorem selfDelimiting_lengthPrefixed (w : ℕ) :
    SelfDelimiting (fun v : Bytes => v.length < 256 ^ w) (lengthPrefixed w) := by
  intro u v x y hu hv h
  simp only [lengthPrefixed, List.append_assoc] at h
  obtain ⟨hl, ht⟩ := List.append_inj h (by simp)
  -- the prefixes agree, so the bodies have one length and split off alike
  exact List.append_inj ht (toBeBytes_inj hu hv hl)

end ByteString
