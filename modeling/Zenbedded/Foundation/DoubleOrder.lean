import Zenbedded.Foundation.Ieee754

namespace Zenbedded.Foundation

open Float.Model Float.Model.UnpackedFloat

/-! # The order of doubles

A comparison of two unpacked doubles goes by exponents first and mantissas second.
On doubles, whose mantissas have 53 bits but for the smallest exponent, this is the
order of the numbers that they stand for.
-/

/-- Of binary64, as `unpack` leaves it. -/
def Canonical : UnpackedFloat → Prop
  | .finite _ mantissa exponent _ =>
      mantissa < 2 ^ 53 ∧ -1074 ≤ exponent ∧ (2 ^ 52 ≤ mantissa ∨ exponent = -1074)
  | .infinity _ | .zero _ | .notANumber => True

theorem unpack_canonical (bits : BitVec 64) : Canonical (unpack .binary64 bits) := by
  let mantissa : BitVec 52 := @unpackMantissa .binary64 bits
  let exponent : BitVec 11 := @unpackExponent .binary64 bits
  have mantissaBound : mantissa.toNat < 2 ^ 52 := mantissa.isLt
  change Canonical (if exponent = -1#11 then if _ then _ else _
    else if exponent = 0#11 then if _ : mantissa = 0#52 then _ else _ else _)
  refine iteInduction (motive := Canonical) (fun _ => ?_) fun _ =>
    iteInduction (motive := Canonical) (fun subnormal => ?_) fun normal => ?_
  · exact iteInduction (motive := Canonical) (fun _ => trivial) fun _ => trivial
  · by_cases zero : mantissa = 0#52
    · rw [dif_pos zero]
      trivial
    rw [dif_neg zero]
    have smallest : (exponent.toNat : Int) - 1075 + 1 = -1074 := by
      rw [subnormal]
      rfl
    exact ⟨mantissaBound.trans (by decide), smallest.ge, Or.inr smallest⟩
  · have significand : (1#1 ++ mantissa).toNat = 2 ^ 52 + mantissa.toNat := by
      rw [BitVec.toNat_append, ← Nat.shiftLeft_add_eq_or_of_lt mantissaBound]
      rfl
    have large : -1074 ≤ (exponent.toNat : Int) - 1075 := by
      have nonzero : exponent.toNat ≠ 0 := fun zero => normal (BitVec.eq_of_toNat_eq zero)
      omega
    change (1#1 ++ mantissa).toNat < 2 ^ 53 ∧ -1074 ≤ (exponent.toNat : Int) - 1075 ∧
      (2 ^ 52 ≤ (1#1 ++ mantissa).toNat ∨ (exponent.toNat : Int) - 1075 = -1074)
    rw [significand]
    exact ⟨by omega, large, Or.inl (Nat.le_add_right _ _)⟩

theorem magnitude_lt_of_exponent {first second : Nat} {low high : Int} (bounded : first < 2 ^ 53)
    (normal : 2 ^ 52 ≤ second) (order : low < high) :
    (first : ℚ) * 2 ^ low < second * 2 ^ high := by
  have step : (2 : ℚ) ^ (low + 1) ≤ 2 ^ high := zpow_le_zpow_right₀ one_le_two order
  have positive : (0 : ℚ) < 2 ^ low := zpow_pos two_pos low
  have small : (first : ℚ) < 2 ^ 53 := by exact_mod_cast bounded
  have large : (2 : ℚ) ^ 52 ≤ second := by exact_mod_cast normal
  calc (first : ℚ) * 2 ^ low < 2 ^ 53 * 2 ^ low := mul_lt_mul_of_pos_right small positive
    _ = 2 ^ 52 * 2 ^ (low + 1) := by rw [zpow_add_one₀ two_ne_zero]; ring
    _ ≤ second * 2 ^ high :=
      mul_le_mul large step (zpow_nonneg zero_le_two _) (Nat.cast_nonneg _)

/-- Exponents decide, and mantissas where they are equal. -/
theorem compare_magnitude {first second : Nat} {low high : Int}
    (firstCanonical : first < 2 ^ 53 ∧ -1074 ≤ low ∧ (2 ^ 52 ≤ first ∨ low = -1074))
    (secondCanonical : second < 2 ^ 53 ∧ -1074 ≤ high ∧ (2 ^ 52 ≤ second ∨ high = -1074)) :
    (compare low high).then (compare first second) =
      compare ((first : ℚ) * 2 ^ low) (second * 2 ^ high) := by
  obtain ⟨firstBound, lowBound, firstNormal⟩ := firstCanonical
  obtain ⟨secondBound, highBound, secondNormal⟩ := secondCanonical
  rcases lt_trichotomy low high with order | rfl | order
  · have normal : 2 ^ 52 ≤ second := secondNormal.resolve_right (by omega)
    rw [compare_lt_iff_lt.mpr order,
      compare_lt_iff_lt.mpr (magnitude_lt_of_exponent firstBound normal order)]
    rfl
  · have positive : (0 : ℚ) < 2 ^ low := zpow_pos two_pos low
    rw [compare_eq_iff_eq.mpr rfl]
    rcases lt_trichotomy first second with less | rfl | greater
    · have scaled : (first : ℚ) * 2 ^ low < second * 2 ^ low :=
        mul_lt_mul_of_pos_right (by exact_mod_cast less) positive
      rw [compare_lt_iff_lt.mpr less, compare_lt_iff_lt.mpr scaled]
      rfl
    · rw [compare_eq_iff_eq.mpr rfl, compare_eq_iff_eq.mpr rfl]
      rfl
    · have scaled : (second : ℚ) * 2 ^ low < first * 2 ^ low :=
        mul_lt_mul_of_pos_right (by exact_mod_cast greater) positive
      rw [compare_gt_iff_gt.mpr greater, compare_gt_iff_gt.mpr scaled]
      rfl
  · have normal : 2 ^ 52 ≤ first := firstNormal.resolve_right (by omega)
    rw [compare_gt_iff_gt.mpr order,
      compare_gt_iff_gt.mpr (magnitude_lt_of_exponent secondBound normal order)]
    rfl

theorem number_finite_pos {mantissa : Nat} (exponent : Int) (positive : 0 < mantissa) :
    (0 : ℚ) < mantissa * 2 ^ exponent :=
  mul_pos (Nat.cast_pos.mpr positive) (zpow_pos two_pos exponent)

theorem compare_neg_neg (left right : ℚ) : compare (-left) (-right) = (compare left right).swap := by
  rcases lt_trichotomy left right with order | rfl | order
  · rw [compare_lt_iff_lt.mpr order, compare_gt_iff_gt.mpr (neg_lt_neg order)]
    rfl
  · rw [compare_eq_iff_eq.mpr rfl, compare_eq_iff_eq.mpr rfl]
    rfl
  · rw [compare_gt_iff_gt.mpr order, compare_lt_iff_lt.mpr (neg_lt_neg order)]
    rfl

/-- Comparing two doubles compares the numbers. -/
theorem compare_number {first second : UnpackedFloat} (firstCanonical : Canonical first)
    (secondCanonical : Canonical second) {left right : ℚ} (leftNumber : number first = some left)
    (rightNumber : number second = some right) :
    first.compare second = some (compare left right) := by
  cases first with
  | infinity sign => cases leftNumber
  | notANumber => cases leftNumber
  | zero firstSign =>
      cases leftNumber
      cases second with
      | infinity sign => cases rightNumber
      | notANumber => cases rightNumber
      | zero secondSign =>
          cases rightNumber
          rw [compare_eq_iff_eq.mpr rfl]
          rfl
      | finite sign mantissa exponent positive =>
          have magnitude := number_finite_pos exponent positive
          cases sign with
          | positive =>
              cases rightNumber
              rw [compare_lt_iff_lt.mpr magnitude]
              rfl
          | negative =>
              cases rightNumber
              rw [compare_gt_iff_gt.mpr (neg_neg_of_pos magnitude)]
              rfl
  | finite firstSign firstMantissa firstExponent firstPositive =>
      have firstMagnitude := number_finite_pos firstExponent firstPositive
      cases second with
      | infinity sign => cases rightNumber
      | notANumber => cases rightNumber
      | zero secondSign =>
          cases rightNumber
          cases firstSign with
          | positive =>
              cases leftNumber
              rw [compare_gt_iff_gt.mpr firstMagnitude]
              rfl
          | negative =>
              cases leftNumber
              rw [compare_lt_iff_lt.mpr (neg_neg_of_pos firstMagnitude)]
              rfl
      | finite secondSign secondMantissa secondExponent secondPositive =>
          have secondMagnitude := number_finite_pos secondExponent secondPositive
          have magnitudes := compare_magnitude firstCanonical secondCanonical
          cases firstSign with
          | positive =>
              cases leftNumber
              cases secondSign with
              | positive =>
                  cases rightNumber
                  exact congrArg some magnitudes
              | negative =>
                  cases rightNumber
                  rw [compare_gt_iff_gt.mpr ((neg_neg_of_pos secondMagnitude).trans firstMagnitude)]
                  rfl
          | negative =>
              cases leftNumber
              cases secondSign with
              | positive =>
                  cases rightNumber
                  rw [compare_lt_iff_lt.mpr ((neg_neg_of_pos firstMagnitude).trans secondMagnitude)]
                  rfl
              | negative =>
                  cases rightNumber
                  rw [compare_neg_neg, ← magnitudes]
                  rfl

def isFinite (value : BitVec 64) : Bool := (UnpackedFloat.unpack .binary64 value).isFinite

/-- `left < right`. -/
def lessThan (left right : BitVec 64) : Bool :=
  (UnpackedFloat.unpack .binary64 left).lt (UnpackedFloat.unpack .binary64 right)

def fabs (value : BitVec 64) : BitVec 64 :=
  UnpackedFloat.pack .binary64 (UnpackedFloat.unpack .binary64 value).abs

/-- `left + right`, rounded to nearest. -/
def plus (left right : BitVec 64) : BitVec 64 :=
  UnpackedFloat.pack .binary64 (add .binary64 (UnpackedFloat.unpack .binary64 left)
    (UnpackedFloat.unpack .binary64 right))

/-- `left * right`, rounded to nearest. -/
def multiply (left right : BitVec 64) : BitVec 64 :=
  UnpackedFloat.pack .binary64 (mul .binary64 (UnpackedFloat.unpack .binary64 left)
    (UnpackedFloat.unpack .binary64 right))

/-- `left / right`, rounded to nearest. -/
def divide (left right : BitVec 64) : BitVec 64 :=
  UnpackedFloat.pack .binary64 (div .binary64 (UnpackedFloat.unpack .binary64 left)
    (UnpackedFloat.unpack .binary64 right))

def ofInteger (integer : Int) : BitVec 64 := UnpackedFloat.pack .binary64 (ofInt .binary64 integer)

theorem isFinite_number {value : BitVec 64} (finite : isFinite value = true) :
    ∃ exact, number (UnpackedFloat.unpack .binary64 value) = some exact := by
  unfold isFinite at finite
  cases unpacked : UnpackedFloat.unpack .binary64 value with
  | infinity sign =>
      rw [unpacked] at finite
      cases finite
  | notANumber =>
      rw [unpacked] at finite
      cases finite
  | zero sign => exact ⟨0, rfl⟩
  | finite sign mantissa exponent positive =>
      cases sign with
      | positive => exact ⟨_, rfl⟩
      | negative => exact ⟨_, rfl⟩

theorem lessThan_iff {left right : BitVec 64} {first second : ℚ}
    (leftNumber : number (UnpackedFloat.unpack .binary64 left) = some first)
    (rightNumber : number (UnpackedFloat.unpack .binary64 right) = some second) :
    lessThan left right = true ↔ first < second := by
  have compared := compare_number (unpack_canonical left) (unpack_canonical right) leftNumber
    rightNumber
  have ordering : lessThan left right = (some (compare first second) == some .lt) :=
    congrArg (fun order => order == some Ordering.lt) compared
  rw [ordering, beq_iff_eq, Option.some.injEq, compare_lt_iff_lt]

end Zenbedded.Foundation
