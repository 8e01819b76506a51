/-
# Single bits of a 64-bit word

A word used as a set of the numbers below 64: membership (`hasBit`), adding one
element (`hasBit_or_bit`) and shifting the set up (`hasBit_shiftLeft_or_one`). Arithmetic that
stops at an overflow is `checkedSub` and `checkedShl`.
-/
import Mathlib.Data.Nat.Bitwise

namespace Word

/-- Bit `i` of `w`, as a program tests it: by a mask. -/
def hasBit (w i : UInt64) : Bool := w &&& ((1 : UInt64) <<< i) != 0

/-- `a - b`, unless it overflows. -/
def checkedSub (a b : UInt64) : Option UInt64 := if b ≤ a then some (a - b) else none

/-- `a << n`, unless `n` is not below the width. -/
def checkedShl (a n : UInt64) : Option UInt64 := if n < 64 then some (a <<< n) else none

theorem hasBit_eq_testBit {w i : UInt64} (hi : i < 64) : hasBit w i = w.toNat.testBit i.toNat := by
  have hi' : i.toNat < 64 := hi
  have h1 : ((1 : UInt64) <<< i).toNat = 2 ^ i.toNat := by
    rw [UInt64.toNat_shiftLeft, Nat.mod_eq_of_lt hi', Nat.shiftLeft_eq]
    simp only [UInt64.toNat_one, one_mul]
    exact Nat.mod_eq_of_lt (Nat.pow_lt_pow_right (by decide) hi')
  have h2 : hasBit w i = (w.toNat &&& 2 ^ i.toNat != 0) := by
    unfold hasBit
    rw [← h1, ← UInt64.toNat_and, Bool.eq_iff_iff]
    simp only [bne_iff_ne, ne_eq, ← UInt64.toNat_inj, UInt64.toNat_zero]
  rw [h2, Nat.and_two_pow]
  cases w.toNat.testBit i.toNat <;> simp

theorem hasBit_one_zero : hasBit 1 0 = true := by decide

/-- The bits of `w` with bit `j` added. -/
theorem hasBit_or_bit {w i j : UInt64} (hi : i < 64) (hj : j < 64) :
    hasBit (w ||| ((1 : UInt64) <<< j)) i = (hasBit w i || i == j) := by
  have hi' : i.toNat < 64 := hi
  have hj' : j.toNat < 64 := hj
  rw [hasBit_eq_testBit hi, hasBit_eq_testBit hi, UInt64.toNat_or, Nat.testBit_or, UInt64.toNat_shiftLeft,
    Nat.testBit_mod_two_pow, Nat.testBit_shiftLeft]
  simp only [hi', decide_true, Bool.true_and, UInt64.toNat_one]
  congr 1
  rw [Bool.eq_iff_iff]
  simp only [Bool.and_eq_true, decide_eq_true_eq, beq_iff_eq, ← UInt64.toNat_inj,
    Nat.testBit_one_eq_true_iff_self_eq_zero]
  omega

/-- The bits of `w` shifted up by `n`, with bit 0 added. -/
theorem hasBit_shiftLeft_or_one {w i n : UInt64} (hi : i < 64) (hn : n < 64) :
    hasBit ((w <<< n) ||| 1) i = ((decide (n ≤ i) && hasBit w (i - n)) || i == 0) := by
  have hi' : i.toNat < 64 := hi
  have hn' : n.toNat < 64 := hn
  have ho : ((1 : UInt64)) = (1 : UInt64) <<< (0 : UInt64) := by decide
  rw [ho, hasBit_or_bit hi (by decide)]
  congr 1
  rw [hasBit_eq_testBit hi, UInt64.toNat_shiftLeft, Nat.mod_eq_of_lt hn', Nat.testBit_mod_two_pow]
  simp only [hi']
  by_cases h : n ≤ i
  · have h' : n.toNat ≤ i.toNat := h
    have hs : (i - n).toNat = i.toNat - n.toNat := UInt64.toNat_sub_of_le i n h
    have hlt : i - n < 64 := by
      show (i - n).toNat < 64
      omega
    rw [hasBit_eq_testBit hlt]
    simp [h, h']
  · have h' : ¬ n.toNat ≤ i.toNat := h
    simp [h, h']

/-- The distances of `a` below `c` and below `b` differ by that of `b` below `c`. -/
theorem sub_sub_sub {a b c : UInt64} (hab : a ≤ b) (hbc : b ≤ c) : c - b ≤ c - a ∧ c - a - (c - b) = b - a := by
  have hac : a ≤ c := UInt64.le_trans hab hbc
  have h1 : (c - a).toNat = c.toNat - a.toNat := UInt64.toNat_sub_of_le _ _ hac
  have h2 : (c - b).toNat = c.toNat - b.toNat := UInt64.toNat_sub_of_le _ _ hbc
  have h3 : (b - a).toNat = b.toNat - a.toNat := UInt64.toNat_sub_of_le _ _ hab
  rw [UInt64.le_iff_toNat_le] at hab hbc
  have hle : c - b ≤ c - a := UInt64.le_iff_toNat_le.mpr (by omega)
  refine ⟨hle, ?_⟩
  rw [← UInt64.toNat_inj, UInt64.toNat_sub_of_le _ _ hle]
  omega

end Word
