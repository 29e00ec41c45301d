import Mathlib.Data.Rat.Floor
import Mathlib.Data.Nat.Bitwise

namespace Zenbedded.Foundation

/-! # Alignment to powers of two

The padding that brings a position to a multiple of an alignment, and the
mask-based form of it that C macros use on machine words.
-/

/-- Bytes between `position` and the next multiple of `alignment`. -/
def padding (alignment position : Nat) : Nat :=
  (alignment - position % alignment) % alignment

def alignTo (alignment position : Nat) : Nat := position + padding alignment position

theorem padding_lt {alignment : Nat} (positive : 0 < alignment) (position : Nat) :
    padding alignment position < alignment := Nat.mod_lt _ positive

theorem alignTo_ge (alignment position : Nat) : position ≤ alignTo alignment position :=
  Nat.le_add_right _ _

theorem padding_of_dvd {alignment position : Nat} (aligned : alignment ∣ position) :
    padding alignment position = 0 := by
  rw [padding, Nat.mod_eq_zero_of_dvd aligned, Nat.sub_zero, Nat.mod_self]

theorem alignTo_of_dvd {alignment position : Nat} (aligned : alignment ∣ position) :
    alignTo alignment position = position := by
  rw [alignTo, padding_of_dvd aligned, Nat.add_zero]

theorem alignTo_dvd {alignment : Nat} (positive : 0 < alignment) (position : Nat) :
    alignment ∣ alignTo alignment position := by
  have below := Nat.mod_lt position positive
  have split := Nat.mod_add_div position alignment
  apply Nat.dvd_of_mod_eq_zero
  unfold alignTo padding
  by_cases zero : position % alignment = 0
  · simp [zero]
  · rw [Nat.mod_eq_of_lt (show alignment - position % alignment < alignment by omega)]
    have whole : position + (alignment - position % alignment) =
        alignment * (position / alignment + 1) := by
      rw [Nat.mul_add]
      omega
    rw [whole, Nat.mul_mod_right]

theorem alignTo_eq_div {alignment : Nat} (positive : 0 < alignment) (position : Nat) :
    alignTo alignment position = (position + (alignment - 1)) / alignment * alignment := by
  have aligned := alignTo_dvd positive position
  obtain ⟨quotient, whole⟩ := aligned
  have near := padding_lt positive position
  have start : alignTo alignment position = position + padding alignment position := rfl
  have bounds : quotient * alignment ≤ position + (alignment - 1) ∧
      position + (alignment - 1) < (quotient + 1) * alignment := by
    rw [Nat.add_mul, Nat.mul_comm quotient]
    omega
  rw [whole, Nat.div_eq_of_lt_le bounds.1 bounds.2, Nat.mul_comm]

theorem alignTo_mono {alignment first second : Nat} (positive : 0 < alignment)
    (order : first ≤ second) : alignTo alignment first ≤ alignTo alignment second := by
  rw [alignTo_eq_div positive, alignTo_eq_div positive]
  exact Nat.mul_le_mul_right _ (Nat.div_le_div_right (Nat.add_le_add_right order _))

theorem toNat_and_not_mask {width shift : Nat} (word : BitVec width) (fits : shift < width) :
    (word &&& ~~~(BitVec.ofNat width (2 ^ shift - 1))).toNat =
      word.toNat / 2 ^ shift * 2 ^ shift := by
  have small : 2 ^ shift - 1 < 2 ^ width := by
    have larger := Nat.pow_lt_pow_right (a := 2) (by decide) fits
    have positive := Nat.two_pow_pos shift
    omega
  apply Nat.eq_of_testBit_eq
  intro bit
  simp only [BitVec.toNat_and, BitVec.toNat_not, BitVec.toNat_ofNat, Nat.mod_eq_of_lt small,
    Nat.testBit_and, Nat.testBit_mul_two_pow, Nat.testBit_div_two_pow]
  rw [Nat.sub_sub, Nat.add_comm 1, Nat.testBit_two_pow_sub_succ small, Nat.testBit_two_pow_sub_one]
  by_cases low : bit < shift
  · have above : ¬ shift ≤ bit := by omega
    simp [low, above]
  · have above : shift ≤ bit := by omega
    have place : bit - shift + shift = bit := by omega
    by_cases inside : bit < width
    · simp [low, above, place, inside]
    · have absent : word.toNat.testBit bit = false :=
        Nat.testBit_lt_two_pow (Nat.lt_of_lt_of_le word.isLt (Nat.pow_le_pow_right (by decide) (by omega)))
      simp [place, absent]

end Zenbedded.Foundation
