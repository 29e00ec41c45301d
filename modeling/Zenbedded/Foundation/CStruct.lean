import Mathlib.Data.List.Induction
import Zenbedded.Foundation.Alignment
import Zenbedded.Foundation.Bytes

namespace Zenbedded.Foundation

/-! # C structs

Structs of C scalars under `#pragma pack`: where each member starts, how large
the struct is, and the value of a member in the bytes of an object.
-/

inductive CScalar where
  | float
  | double
  | int32
  | uint64
  | int16
  | uint8
deriving Repr, DecidableEq

namespace CScalar

def spelling : CScalar → Text
  | .float => "float".toList
  | .double => "double".toList
  | .int32 => "int32_t".toList
  | .uint64 => "uint64_t".toList
  | .int16 => "int16_t".toList
  | .uint8 => "uint8_t".toList

def ofSpelling (text : Text) : Option CScalar :=
  [float, double, int32, uint64, int16, uint8].find? (·.spelling = text)

@[simp] theorem ofSpelling_spelling (type : CScalar) : ofSpelling type.spelling = some type := by
  cases type <;> rfl

/-- `sizeof`. -/
def size : CScalar → Nat
  | .float => 4
  | .double => 8
  | .int32 => 4
  | .uint64 => 8
  | .int16 => 2
  | .uint8 => 1

theorem size_pos (type : CScalar) : 0 < type.size := by
  cases type <;> decide

/-- Scalars are aligned to their size, or to the packing where that is smaller. -/
def alignment (pack : Option Nat) (type : CScalar) : Nat := min (pack.getD type.size) type.size

@[simp] theorem alignment_packed (type : CScalar) : type.alignment (some 1) = 1 :=
  Nat.min_eq_left type.size_pos

end CScalar

structure CMember where
  type : CScalar
  name : Text
deriving Repr, DecidableEq

/-- A struct type, with the packing in force where it is declared. -/
structure CStruct where
  pack : Option Nat
  members : List CMember
deriving Repr, DecidableEq

namespace CStruct

def endOf (pack : Option Nat) (members : List CMember) : Nat :=
  members.foldl (fun position member =>
    alignTo (member.type.alignment pack) position + member.type.size) 0

def offset (struct : CStruct) (index : Nat) : Option Nat :=
  struct.members[index]?.map fun member =>
    alignTo (member.type.alignment struct.pack) (endOf struct.pack (struct.members.take index))

def alignment (struct : CStruct) : Nat :=
  struct.members.foldl (fun widest member => max widest (member.type.alignment struct.pack)) 1

/-- `sizeof`: the end of the last member, padded for arrays of the struct. -/
def size (struct : CStruct) : Nat := alignTo struct.alignment (endOf struct.pack struct.members)

def packed (members : List CMember) : CStruct := { pack := some 1, members }

theorem endOf_packed (members : List CMember) :
    endOf (some 1) members = (members.map (·.type.size)).sum := by
  induction members using List.reverseRecOn with
  | nil => rfl
  | append_singleton members member ih =>
      rw [endOf, List.foldl_append, List.foldl_cons, List.foldl_nil, CScalar.alignment_packed,
        alignTo_of_dvd (Nat.one_dvd _), List.map_append, List.sum_append]
      exact congrArg (· + member.type.size) ih

/-- Nothing separates the members of a packed struct. -/
theorem offset_packed {members : List CMember} {index : Nat} (inside : index < members.length) :
    (packed members).offset index = some ((members.take index).map (·.type.size)).sum := by
  rw [offset, packed, List.getElem?_eq_getElem inside, Option.map_some, CScalar.alignment_packed,
    alignTo_of_dvd (Nat.one_dvd _), endOf_packed]

theorem alignment_packed (members : List CMember) : (packed members).alignment = 1 := by
  induction members using List.reverseRecOn with
  | nil => rfl
  | append_singleton members member ih =>
      rw [alignment, packed, List.foldl_append, List.foldl_cons, List.foldl_nil,
        CScalar.alignment_packed]
      exact congrArg (max · 1) ih

theorem size_packed (members : List CMember) :
    (packed members).size = (members.map (·.type.size)).sum := by
  rw [size, alignment_packed, alignTo_of_dvd (Nat.one_dvd _), packed, endOf_packed]

/-- The members of a packed struct are the parts of its bytes. -/
theorem partOffset_packed {members : List CMember} {parts : List Bytes}
    (sizes : parts.map List.length = members.map (·.type.size)) (index : Nat) :
    partOffset parts index = ((members.take index).map (·.type.size)).sum := by
  rw [partOffset, List.length_flatten, List.map_take, List.map_take, sizes]

theorem flatten_length_packed {members : List CMember} {parts : List Bytes}
    (sizes : parts.map List.length = members.map (·.type.size)) :
    parts.flatten.length = (packed members).size := by
  rw [List.length_flatten, sizes, size_packed]

/-- Any object of a packed struct falls into parts of the sizes of its members. -/
theorem exists_parts {sizes : List Nat} {object : Bytes} (length : object.length = sizes.sum) :
    ∃ parts : List Bytes, parts.flatten = object ∧ parts.map List.length = sizes := by
  induction sizes generalizing object with
  | nil => exact ⟨[], (List.length_eq_zero_iff.mp length).symm, rfl⟩
  | cons size sizes ih =>
      rw [List.sum_cons] at length
      have dropped : (object.drop size).length = sizes.sum := by
        rw [List.length_drop]
        omega
      obtain ⟨parts, whole, lengths⟩ := ih dropped
      refine ⟨object.take size :: parts, ?_, ?_⟩
      · rw [List.flatten_cons, whole, List.take_append_drop]
      · rw [List.map_cons, lengths, List.length_take, Nat.min_eq_left (by omega)]

end CStruct

/-- The scalar values of a platform: their bytes, and their conversions from and
to `double`.  A narrowing conversion C leaves undefined has no value. -/
structure Scalars where
  Value : CScalar → Type
  encode : {type : CScalar} → Value type → Bytes
  decode : (type : CScalar) → Bytes → Value type
  narrow : (type : CScalar) → Value .double → Option (Value type)
  widen : {type : CScalar} → Value type → Value .double
  quietNan : Value .double
  isNan : Value .double → Bool
  zero : Value .double
  encode_length : ∀ {type : CScalar} (value : Value type), (encode value).length = type.size
  decode_encode : ∀ {type : CScalar} (value : Value type), decode type (encode value) = value
  narrow_double : ∀ value : Value .double, narrow .double value = some value
  widen_double : ∀ value : Value .double, widen value = value
  decode_zeros : ∀ type : CScalar, widen (decode type (List.replicate type.size 0)) = zero
  narrow_zero : ∀ type : CScalar, ∃ value, narrow type zero = some value
  isNan_quietNan : isNan quietNan = true
  isNan_zero : isNan zero = false

namespace Scalars

variable (scalars : Scalars)

/-- A value together with its type. -/
abbrev Typed := Σ type : CScalar, scalars.Value type

def memberOf (struct : CStruct) (object : Bytes) (index : Nat) : Option scalars.Typed := do
  let member ← struct.members[index]?
  let offset ← struct.offset index
  let bytes ← (loadBytes object offset member.type.size).toOption
  return ⟨member.type, scalars.decode member.type bytes⟩

theorem memberOf_packed {members : List CMember} {parts : List Bytes} {index : Nat}
    {member : CMember} {bytes : Bytes}
    (sizes : parts.map List.length = members.map (·.type.size))
    (here : members[index]? = some member) (part : parts[index]? = some bytes) :
    scalars.memberOf (.packed members) parts.flatten index =
      some ⟨member.type, scalars.decode member.type bytes⟩ := by
  obtain ⟨inside, -⟩ := List.getElem?_eq_some_iff.mp here
  have size : bytes.length = member.type.size := by
    have same := congrArg (fun lengths : List Nat => lengths[index]?) sizes
    simpa only [List.getElem?_map, part, here, Option.map_some, Option.some.injEq] using same
  have loaded := loadBytes_part parts index part
  rw [CStruct.partOffset_packed sizes, size] at loaded
  have first : (CStruct.packed members).members[index]? = some member := here
  rw [memberOf, first, CStruct.offset_packed inside]
  simp only [Option.bind_eq_bind, Option.bind_some, loaded, Except.toOption, Option.pure_def]

end Scalars

def CScalar.one (type : CScalar) : BitVec (8 * type.size) :=
  BitVec.ofNat _ (match type with
    | .float => 0x3F800000
    | .double => 0x3FF0000000000000
    | .int32 | .uint64 | .int16 | .uint8 => 1)

theorem wordBytes_size {type : CScalar} (value : BitVec (8 * type.size)) :
    (wordBytes value).length = type.size := by
  rw [wordBytes_length]
  cases type <;> rfl

theorem ofWordBytes_wordBytes_size {type : CScalar} (value : BitVec (8 * type.size)) :
    ofWordBytes (8 * type.size) (wordBytes value) = value :=
  ofWordBytes_wordBytes (Nat.mul_mod_right 8 _) value

/-- Scalars as little-endian words.  The conversions know 0 and 1 of every type. -/
def littleEndian : Scalars where
  Value type := BitVec (8 * type.size)
  encode := wordBytes
  decode type bytes := ofWordBytes (8 * type.size) bytes
  narrow type value :=
    if value = 0 then some 0
    else if double : CScalar.double = type then some (double ▸ value)
    else if value = CScalar.one .double then some type.one
    else none
  widen {type} value :=
    if double : type = .double then double ▸ value
    else if value = type.one then CScalar.one .double
    else 0
  quietNan := 0x7FF8000000000000#64
  isNan value := decide (0x7FF0000000000000 < value.toNat % 2 ^ 63)
  zero := 0#64
  encode_length := wordBytes_size
  decode_encode := ofWordBytes_wordBytes_size
  narrow_double := by
    intro value
    by_cases zero : value = 0
    · rw [if_pos zero, zero]
    · rw [if_neg zero, dif_pos rfl]
  widen_double := by
    intro value
    exact dif_pos rfl
  decode_zeros := by
    intro type
    cases type <;> rfl
  narrow_zero := by
    intro type
    exact ⟨0, if_pos rfl⟩
  isNan_quietNan := by decide
  isNan_zero := by decide

end Zenbedded.Foundation
