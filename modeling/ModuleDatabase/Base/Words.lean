import Mathlib.Data.Nat.Bitwise

namespace ModuleDatabase

/-!
# Machine words

Signed addition, where an overflow is no result, and what masks and the
conversions between widths do to the value of a word.
-/

/-- A mask that clears the low bits rounds down. -/
theorem and_mask {low high n : Nat} (width : n < 2 ^ (low + high)) :
    n &&& (2 ^ high - 1) <<< low = n / 2 ^ low * 2 ^ low := by
  have split : n / 2 ^ low * 2 ^ low = n >>> low <<< low := by
    rw [Nat.shiftLeft_eq, Nat.shiftRight_eq_div_pow]
  rw [split]
  apply Nat.eq_of_testBit_eq
  intro bit
  simp only [Nat.testBit_and, Nat.testBit_shiftLeft, Nat.testBit_two_pow_sub_one,
    Nat.testBit_shiftRight]
  by_cases above : low ≤ bit
  · have same : low + (bit - low) = bit := by omega
    rw [same]
    by_cases small : bit - low < high
    · simp [above, small]
    · have zero : n.testBit bit = false := by
        apply Nat.testBit_lt_two_pow
        calc
          n < 2 ^ (low + high) := width
          _ ≤ 2 ^ bit := Nat.pow_le_pow_right (by decide) (by omega)
      simp [zero]
  · simp [above]

section Signed

variable {w : Nat}

/-- Addition of signed words; an overflow has no result. -/
def addSigned (a b : BitVec w) : Option (BitVec w) :=
  if a.saddOverflow b then none else some (a + b)

theorem addSigned_of_bounds {a b : BitVec w} (above : -2 ^ (w - 1) ≤ a.toInt + b.toInt)
    (below : a.toInt + b.toInt < 2 ^ (w - 1)) : addSigned a b = some (a + b) := by
  have fits : a.saddOverflow b = false := by
    rw [BitVec.saddOverflow, Bool.or_eq_false_iff]
    exact ⟨decide_eq_false (by omega), decide_eq_false (by omega)⟩
  rw [addSigned, fits]
  rfl

theorem toInt_of_addSigned {a b sum : BitVec w} (added : addSigned a b = some sum) :
    sum.toInt = a.toInt + b.toInt := by
  rw [addSigned] at added
  split at added
  · exact absurd added (by simp)
  · rename_i fits
    rw [← Option.some.inj added]
    exact BitVec.toInt_add_of_not_saddOverflow fits

theorem toNat_of_nonneg {a : BitVec w} (nonneg : 0 ≤ a.toInt) : (a.toNat : Int) = a.toInt := by
  have small := a.isLt
  rw [BitVec.toInt_eq_toNat_cond] at nonneg ⊢
  split
  · rfl
  · rename_i big
    rw [if_neg big] at nonneg
    omega

/-- A word that is not negative is widened without a change of its value. -/
theorem toNat_signExtend_of_nonneg {a : BitVec w} {v : Nat} (wider : w ≤ v)
    (nonneg : 0 ≤ a.toInt) : (a.signExtend v).toNat = a.toNat := by
  have sign : a.msb = false := by
    rw [BitVec.msb_eq_toInt]
    exact decide_eq_false (by omega)
  rw [BitVec.signExtend_eq_setWidth_of_msb_false sign, BitVec.toNat_setWidth]
  exact Nat.mod_eq_of_lt (Nat.lt_of_lt_of_le a.isLt (Nat.pow_le_pow_right (by decide) wider))

end Signed

end ModuleDatabase
