import Mathlib.Data.Rat.Floor
import Zenbedded.Foundation.CStruct

namespace Zenbedded.Foundation

open Float.Model Float.Model.UnpackedFloat

/-! # IEEE 754 scalars

`float` and `double` are binary32 and binary64, over Lean's own model of these
formats.  A conversion to an integer truncates toward zero, and has no value
where the result is not in the range of the type.
-/

/-- The number that a float is, if it is one. -/
def number : UnpackedFloat → Option ℚ
  | .zero _ => some 0
  | .finite .positive mantissa exponent _ => some (mantissa * 2 ^ exponent)
  | .finite .negative mantissa exponent _ => some (-(mantissa * 2 ^ exponent))
  | .infinity _ | .notANumber => none

def truncate (value : ℚ) : Int := if 0 ≤ value then ⌊value⌋ else ⌈value⌉

theorem truncate_near (value : ℚ) : |(truncate value : ℚ) - value| < 1 := by
  unfold truncate
  split
  · have below := Int.floor_le value
    have above := Int.lt_floor_add_one value
    rw [abs_lt]
    constructor <;> linarith
  · have above := Int.le_ceil value
    have below := Int.ceil_lt_add_one value
    rw [abs_lt]
    constructor <;> linarith

theorem shiftRight_mantissa (extended : ExtendedMantissa) (count : Nat) :
    (extended >>> count).mantissa = extended.mantissa / 2 ^ count := by
  induction count with
  | zero => exact (Nat.div_one _).symm
  | succ count inductionHypothesis =>
      show ((extended >>> count).mantissa / 2) = _
      rw [inductionHypothesis, Nat.div_div_eq_div_mul, Nat.pow_succ]

theorem roundToInt_quotient (sign : Sign) (mantissa : Nat) (exponent : Int) :
    roundToInt sign mantissa exponent =
      sign.apply ((mantissa * 2 ^ exponent.toNat / 2 ^ (-exponent).toNat : Nat) : Int) := by
  have shift : (0 - (exponent - (exponent.toNat : Int))).toNat = (-exponent).toNat := by omega
  simp only [roundToInt, decreaseExponent, shiftToExponent, shiftRight_mantissa, sub_zero, shift,
    ExtendedMantissa.ofMantissaAndAccuracy, Nat.shiftLeft_eq]

theorem quotient_eq_floor (mantissa : Nat) (exponent : Int) :
    ((mantissa * 2 ^ exponent.toNat / 2 ^ (-exponent).toNat : Nat) : Int) =
      ⌊(mantissa : ℚ) * 2 ^ exponent⌋ := by
  rcases Int.le_total 0 exponent with whole | fraction
  · obtain ⟨count, rfl⟩ := Int.eq_ofNat_of_zero_le whole
    have none : (-(count : Int)).toNat = 0 := by omega
    have same : ((mantissa * 2 ^ count : Nat) : ℚ) = (mantissa : ℚ) * 2 ^ (count : Int) := by
      rw [zpow_natCast]
      push_cast
      rfl
    rw [none, Int.toNat_natCast, pow_zero, Nat.div_one, ← same, Int.floor_natCast]
  · obtain ⟨count, split⟩ := Int.eq_ofNat_of_zero_le (Int.neg_nonneg.mpr fraction)
    have negative : exponent = -(count : Int) := by omega
    subst negative
    have none : (-(count : Int)).toNat = 0 := by omega
    have same : (mantissa : ℚ) * 2 ^ (-(count : Int)) = (mantissa : ℚ) / ((2 ^ count : Nat) : ℚ) := by
      rw [zpow_neg, zpow_natCast]
      push_cast
      rfl
    rw [none, neg_neg, Int.toNat_natCast, pow_zero, Nat.mul_one, same,
      Rat.floor_natCast_div_natCast, Int.natCast_div]

/-- What a conversion to an integer makes of a number is the number truncated toward zero. -/
theorem roundToInt_eq_truncate {sign : Sign} {mantissa : Nat} {exponent : Int}
    {positive : 0 < mantissa} {value : ℚ}
    (isNumber : number (.finite sign mantissa exponent positive) = some value) :
    roundToInt sign mantissa exponent = truncate value := by
  have magnitude : (0 : ℚ) < mantissa * 2 ^ exponent :=
    mul_pos (Nat.cast_pos.mpr positive) (zpow_pos two_pos exponent)
  rw [roundToInt_quotient, quotient_eq_floor]
  cases sign with
  | positive =>
      cases isNumber
      rw [truncate, if_pos (le_of_lt magnitude)]
      rfl
  | negative =>
      cases isNumber
      rw [truncate, if_neg (by linarith), Int.ceil_neg]
      rfl

/-- The nearest float of another format. -/
def toFormat (format : Format) : UnpackedFloat → UnpackedFloat
  | .finite sign mantissa exponent _ => round format sign mantissa exponent
  | .zero sign => .zero sign
  | .infinity sign => .infinity sign
  | .notANumber => .notANumber

/-- The least and the greatest value of an integer type. -/
def CScalar.range : CScalar → Option (Int × Int)
  | .int32 => some (-2 ^ 31, 2 ^ 31 - 1)
  | .uint64 => some (0, 2 ^ 64 - 1)
  | .int16 => some (-2 ^ 15, 2 ^ 15 - 1)
  | .uint8 => some (0, 2 ^ 8 - 1)
  | .float | .double => none

/-- A conversion whose result has no value in the type is undefined. -/
def toInteger (width : Nat) (range : Int × Int) : UnpackedFloat → Option (BitVec width)
  | .zero _ => some 0
  | .finite sign mantissa exponent _ =>
      let integer := roundToInt sign mantissa exponent
      if range.1 ≤ integer ∧ integer ≤ range.2 then some (BitVec.ofInt width integer) else none
  | .infinity _ | .notANumber => none

/-- The integer that the bits of an integer type stand for. -/
def integerValue : (type : CScalar) → BitVec (8 * type.size) → Int
  | .int32, bits => bits.toInt
  | .int16, bits => bits.toInt
  | .uint64, bits => bits.toNat
  | .uint8, bits => bits.toNat
  | .float, bits => bits.toNat
  | .double, bits => bits.toNat

def fromDouble (value : BitVec 64) : (type : CScalar) → Option (BitVec (8 * type.size))
  | .double => some value
  | .float => some (pack .binary32 (toFormat .binary32 (unpack .binary64 value)))
  | .int32 => toInteger 32 (-2 ^ 31, 2 ^ 31 - 1) (unpack .binary64 value)
  | .uint64 => toInteger 64 (0, 2 ^ 64 - 1) (unpack .binary64 value)
  | .int16 => toInteger 16 (-2 ^ 15, 2 ^ 15 - 1) (unpack .binary64 value)
  | .uint8 => toInteger 8 (0, 2 ^ 8 - 1) (unpack .binary64 value)

def toDouble : (type : CScalar) → BitVec (8 * type.size) → BitVec 64
  | .double, bits => bits
  | .float, bits => pack .binary64 (toFormat .binary64 (unpack .binary32 bits))
  | .int32, bits => pack .binary64 (ofInt .binary64 (integerValue .int32 bits))
  | .uint64, bits => pack .binary64 (ofInt .binary64 (integerValue .uint64 bits))
  | .int16, bits => pack .binary64 (ofInt .binary64 (integerValue .int16 bits))
  | .uint8, bits => pack .binary64 (ofInt .binary64 (integerValue .uint8 bits))

theorem toDouble_zeros (type : CScalar) :
    toDouble type (ofWordBytes (8 * type.size) (List.replicate type.size 0)) = 0#64 := by
  cases type <;> decide

theorem fromDouble_zero (type : CScalar) : ∃ value, fromDouble 0#64 type = some value := by
  cases type <;> exact ⟨_, rfl⟩

def ieee754 : Scalars where
  Value type := BitVec (8 * type.size)
  encode := wordBytes
  decode type bytes := ofWordBytes (8 * type.size) bytes
  narrow type value := fromDouble value type
  widen {type} value := toDouble type value
  quietNan := packedNaN .binary64
  isNan value := (unpack .binary64 value).isNaN
  zero := 0#64
  encode_length := wordBytes_size
  decode_encode := ofWordBytes_wordBytes_size
  narrow_double := fun _ => rfl
  widen_double := fun _ => rfl
  decode_zeros := toDouble_zeros
  narrow_zero := fromDouble_zero
  isNan_quietNan := by decide
  isNan_zero := by decide

/-- A number that lies in the range of the type once it is truncated. -/
def Fits (type : CScalar) (value : BitVec 64) : Prop :=
  ∀ range, type.range = some range → ∃ exact, number (unpack .binary64 value) = some exact ∧
    range.1 ≤ truncate exact ∧ truncate exact ≤ range.2

theorem truncate_zero : truncate 0 = 0 := by
  rw [truncate, if_pos (le_refl _), Int.floor_zero]

/-- The conversion is defined on the numbers that fit, and truncates them. -/
theorem toInteger_eq_some_iff {width : Nat} {low high : Int} (low_le : low ≤ 0) (le_high : 0 ≤ high)
    {float : UnpackedFloat} {result : BitVec width} :
    toInteger width (low, high) float = some result ↔
      ∃ exact, number float = some exact ∧ low ≤ truncate exact ∧ truncate exact ≤ high ∧
        result = BitVec.ofInt width (truncate exact) := by
  cases float with
  | infinity sign =>
      have noNumber : number (.infinity sign) = none := rfl
      have undefined : toInteger width (low, high) (.infinity sign) = none := rfl
      simp [noNumber, undefined]
  | notANumber =>
      have noNumber : number .notANumber = none := rfl
      have undefined : toInteger width (low, high) .notANumber = none := rfl
      simp [noNumber, undefined]
  | zero sign =>
      have isNumber : number (.zero sign) = some 0 := rfl
      have converted : toInteger width (low, high) (.zero sign) = some 0 := rfl
      simp only [isNumber, converted, Option.some.injEq, exists_eq_left', truncate_zero, low_le,
        le_high, true_and]
      exact eq_comm
  | finite sign mantissa exponent positive =>
      have isNumber : ∃ exact, number (.finite sign mantissa exponent positive) = some exact := by
        cases sign with
        | positive => exact ⟨_, rfl⟩
        | negative => exact ⟨_, rfl⟩
      obtain ⟨exact, isNumber⟩ := isNumber
      have converted : toInteger width (low, high) (.finite sign mantissa exponent positive) =
          if low ≤ truncate exact ∧ truncate exact ≤ high then
            some (BitVec.ofInt width (truncate exact))
          else none := by
        rw [← roundToInt_eq_truncate isNumber]
        rfl
      rw [converted, isNumber]
      simp only [Option.some.injEq, exists_eq_left']
      split
      · rename_i inside
        simp only [inside.1, inside.2, true_and, Option.some.injEq]
        exact eq_comm
      · rename_i outside
        simp only [reduceCtorEq, false_iff]
        intro fits
        exact outside ⟨fits.1, fits.2.1⟩

theorem toInt_ofInt_inside {width : Nat} {integer : Int} (low : -2 ^ width ≤ integer)
    (high : integer < 2 ^ width) : (BitVec.ofInt (width + 1) integer).toInt = integer := by
  rw [BitVec.toInt_ofInt]
  apply Int.bmod_eq_of_le
  · rw [Nat.pow_succ]
    push_cast
    omega
  · rw [Nat.pow_succ]
    push_cast
    omega

theorem toNat_ofInt_inside {width : Nat} {integer : Int} (low : 0 ≤ integer)
    (high : integer < 2 ^ width) : ((BitVec.ofInt width integer).toNat : Int) = integer := by
  rw [BitVec.toNat_ofInt, Int.toNat_of_nonneg (Int.emod_nonneg _ (by positivity))]
  exact Int.emod_eq_of_lt low (by exact_mod_cast high)

theorem integerValue_ofInt {type : CScalar} {range : Int × Int} (isInteger : type.range = some range)
    {integer : Int} (low : range.1 ≤ integer) (high : integer ≤ range.2) :
    integerValue type (BitVec.ofInt (8 * type.size) integer) = integer := by
  cases type with
  | float | double => cases isInteger
  | int32 =>
      cases isInteger
      exact @toInt_ofInt_inside 31 integer low (by omega)
  | uint64 =>
      cases isInteger
      exact @toNat_ofInt_inside 64 integer low (by omega)
  | int16 =>
      cases isInteger
      exact @toInt_ofInt_inside 15 integer low (by omega)
  | uint8 =>
      cases isInteger
      exact @toNat_ofInt_inside 8 integer low (by omega)

theorem fromDouble_integer {type : CScalar} {range : Int × Int} (isInteger : type.range = some range)
    (value : BitVec 64) :
    fromDouble value type = toInteger (8 * type.size) range (unpack .binary64 value) := by
  cases type with
  | float | double => cases isInteger
  | int32 | uint64 | int16 | uint8 =>
      cases isInteger
      rfl

theorem range_zero {type : CScalar} {range : Int × Int} (isInteger : type.range = some range) :
    range.1 ≤ 0 ∧ 0 ≤ range.2 := by
  cases type with
  | float | double => cases isInteger
  | int32 | uint64 | int16 | uint8 =>
      cases isInteger
      decide

/-- Exactly the doubles that fit can be converted. -/
theorem fromDouble_defined_iff (type : CScalar) (value : BitVec 64) :
    (∃ result, fromDouble value type = some result) ↔ Fits type value := by
  cases isInteger : type.range with
  | none =>
      refine ⟨fun _ range impossible => ?_, fun _ => ?_⟩
      · rw [isInteger] at impossible
        cases impossible
      · cases type with
        | float | double => exact ⟨_, rfl⟩
        | int32 | uint64 | int16 | uint8 => cases isInteger
  | some range =>
      obtain ⟨low, high⟩ := range
      obtain ⟨low_le, le_high⟩ := range_zero isInteger
      simp only [fromDouble_integer isInteger, toInteger_eq_some_iff low_le le_high]
      constructor
      · intro converts range same
        rw [isInteger] at same
        cases same
        obtain ⟨result, exact, isNumber, below, above, _⟩ := converts
        exact ⟨exact, isNumber, below, above⟩
      · intro fits
        obtain ⟨exact, isNumber, below, above⟩ := fits (low, high) isInteger
        exact ⟨_, exact, isNumber, below, above, rfl⟩

instance (type : CScalar) (value : BitVec 64) : Decidable (Fits type value) :=
  decidable_of_iff ((fromDouble value type).isSome = true) <|
    Option.isSome_iff_exists.trans (fromDouble_defined_iff type value)

/-- The integer differs from the number by less than 1. -/
theorem fromDouble_near {type : CScalar} (isInteger : type.range.isSome) {value : BitVec 64}
    {result : BitVec (8 * type.size)} (converts : fromDouble value type = some result) :
    ∃ exact, number (unpack .binary64 value) = some exact ∧
      integerValue type result = truncate exact ∧
      |(integerValue type result : ℚ) - exact| < 1 := by
  obtain ⟨⟨low, high⟩, range⟩ := Option.isSome_iff_exists.mp isInteger
  obtain ⟨low_le, le_high⟩ := range_zero range
  rw [fromDouble_integer range, toInteger_eq_some_iff low_le le_high] at converts
  obtain ⟨exact, isNumber, below, above, rfl⟩ := converts
  have same := integerValue_ofInt range below above
  exact ⟨exact, isNumber, same, by rw [same]; exact truncate_near exact⟩

end Zenbedded.Foundation
