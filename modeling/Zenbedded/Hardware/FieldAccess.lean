import Zenbedded.Schema.Agreement

namespace Zenbedded.Hardware

open Zenbedded.Foundation Zenbedded.Schema

/-! # Field access

Reading and writing one field of a buffer through the schema.  Each branch
copies a variable of its own C type and converts it from or to `double`.
-/

variable (scalars : Scalars)

abbrev Double := scalars.Value .double

/-- Undefined behaviour of a field access. -/
inductive AccessFault where
  | memory (fault : Fault)
  | element (index size : Nat)
  | conversion (type : CScalar)
deriving Repr, DecidableEq

def loadScalar (type : CScalar) (buffer : Bytes) (offset : Nat) :
    Except AccessFault (scalars.Value type) :=
  match loadBytes buffer offset type.size with
  | .error fault => .error (.memory fault)
  | .ok bytes => .ok (scalars.decode type bytes)

def storeScalar {type : CScalar} (buffer : Bytes) (offset : Nat) (value : scalars.Value type) :
    Except AccessFault Bytes :=
  match storeBytes buffer offset (scalars.encode value) with
  | .error fault => .error (.memory fault)
  | .ok after => .ok after

/-- `static_cast` from `double`. -/
def castScalar (type : CScalar) (value : Double scalars) :
    Except AccessFault (scalars.Value type) :=
  match scalars.narrow type value with
  | none => .error (.conversion type)
  | some narrowed => .ok narrowed

def readField (fields : List FlatField) (buffer : Bytes) (fieldIndex : Nat) :
    Except AccessFault (Double scalars) :=
  match fields[fieldIndex]? with
  | none => .ok scalars.zero
  | some field =>
      match field.type with
      | .float32 => (loadScalar scalars .float buffer field.byteOffset).map scalars.widen
      | .float64 => loadScalar scalars .double buffer field.byteOffset
      | .int32 => (loadScalar scalars .int32 buffer field.byteOffset).map scalars.widen
      | .uint64 => (loadScalar scalars .uint64 buffer field.byteOffset).map scalars.widen
      | .int16 => (loadScalar scalars .int16 buffer field.byteOffset).map scalars.widen
      | .uint8 => (loadScalar scalars .uint8 buffer field.byteOffset).map scalars.widen

def readStateField (schema : InterfaceSchema) (buffer : Bytes) (fieldIndex : Nat) :
    Except AccessFault (Double scalars) :=
  readField scalars schema.stateFlatFields buffer fieldIndex

def readCommandField (schema : InterfaceSchema) (buffer : Bytes) (fieldIndex : Nat) :
    Except AccessFault (Double scalars) :=
  readField scalars schema.commandFlatFields buffer fieldIndex

def writeCommandField (schema : InterfaceSchema) (buffer : Bytes) (fieldIndex : Nat)
    (value : Double scalars) : Except AccessFault Bytes :=
  match schema.commandFlatFields[fieldIndex]? with
  | none => .ok buffer
  | some field =>
      match field.type with
      | .float32 => do
          let narrowed ← castScalar scalars .float value
          storeScalar scalars buffer field.byteOffset narrowed
      | .float64 => storeScalar scalars buffer field.byteOffset value
      | .int32 => do
          let narrowed ← castScalar scalars .int32 value
          storeScalar scalars buffer field.byteOffset narrowed
      | .uint64 => do
          let narrowed ← castScalar scalars .uint64 value
          storeScalar scalars buffer field.byteOffset narrowed
      | .int16 => do
          let narrowed ← castScalar scalars .int16 value
          storeScalar scalars buffer field.byteOffset narrowed
      | .uint8 => do
          let narrowed ← castScalar scalars .uint8 value
          storeScalar scalars buffer field.byteOffset narrowed

variable {scalars}

/-- The branches differ in the C type alone. -/
theorem readField_eq {fields : List FlatField} {fieldIndex : Nat} {field : FlatField}
    (here : fields[fieldIndex]? = some field) (buffer : Bytes) :
    readField scalars fields buffer fieldIndex =
      (loadScalar scalars field.type.scalar buffer field.byteOffset).map scalars.widen := by
  obtain ⟨component, name, type, byteOffset⟩ := field
  rw [readField, here]
  cases type with
  | float64 =>
      simp only [FieldType.scalar]
      cases loadScalar scalars .double buffer byteOffset with
      | error fault => rfl
      | ok value => exact congrArg Except.ok (scalars.widen_double value).symm
  | float32 => rfl
  | int32 => rfl
  | uint64 => rfl
  | int16 => rfl
  | uint8 => rfl

theorem writeCommandField_eq {schema : InterfaceSchema} {fieldIndex : Nat} {field : FlatField}
    (here : schema.commandFlatFields[fieldIndex]? = some field) (buffer : Bytes)
    (value : Double scalars) :
    writeCommandField scalars schema buffer fieldIndex value =
      (castScalar scalars field.type.scalar value >>= fun narrowed =>
        storeScalar scalars buffer field.byteOffset narrowed) := by
  obtain ⟨component, name, type, byteOffset⟩ := field
  rw [writeCommandField, here]
  cases type with
  | float64 =>
      simp only [FieldType.scalar, castScalar, scalars.narrow_double]
      rfl
  | float32 => rfl
  | int32 => rfl
  | uint64 => rfl
  | int16 => rfl
  | uint8 => rfl

/-- The value of a field in the bytes of a section. -/
def fieldValue (scalars : Scalars) (payload : Bytes) (field : FlatField) : Double scalars :=
  scalars.widen (scalars.decode field.type.scalar
    ((payload.drop field.byteOffset).take field.type.scalar.size))

theorem readField_ok {fields : List FlatField} {fieldIndex : Nat} {field : FlatField}
    {buffer : Bytes} (here : fields[fieldIndex]? = some field)
    (room : field.byteOffset + fieldByteSize field.type ≤ buffer.length) :
    readField scalars fields buffer fieldIndex = .ok (fieldValue scalars buffer field) := by
  have loaded := loadBytes_ok room
  rw [← FieldType.scalar_size] at loaded
  rw [readField_eq here, loadScalar, loaded]
  rfl

/-- The parts of a buffer that hold the fields of a section. -/
def PartsOf (fields : List FlatField) (parts : List Bytes) : Prop :=
  parts.map List.length = fields.map fun field => field.type.scalar.size

theorem PartsOf.members {fields : List FlatField} {parts : List Bytes}
    (sizes : PartsOf fields parts) :
    parts.map List.length = (fields.map FlatField.member).map (·.type.size) := by
  rw [sizes, List.map_map]
  rfl

theorem PartsOf.length {fields : List FlatField} {parts : List Bytes}
    (sizes : PartsOf fields parts) : parts.length = fields.length := by
  have same := congrArg List.length sizes
  rwa [List.length_map, List.length_map] at same

theorem PartsOf.offset {layout : Layout} {parts : List Bytes} {index : Nat} {field : FlatField}
    (packed : layout.Packed) (sizes : PartsOf layout.fields parts)
    (here : layout.fields[index]? = some field) : partOffset parts index = field.byteOffset := by
  have inside := (List.getElem?_eq_some_iff.mp here).1
  have offset := packed.offsets index field here
  rw [structOf, CStruct.offset_packed (by rw [List.length_map]; exact inside)] at offset
  rw [CStruct.partOffset_packed sizes.members]
  exact Option.some.inj offset

theorem PartsOf.flatten_length {layout : Layout} {parts : List Bytes} (packed : layout.Packed)
    (sizes : PartsOf layout.fields parts) : parts.flatten.length = layout.bufferSize := by
  rw [CStruct.flatten_length_packed sizes.members]
  exact packed.size

/-- Any buffer of the size of a section falls into the parts of its fields. -/
theorem exists_partsOf {layout : Layout} {buffer : Bytes} (packed : layout.Packed)
    (size : buffer.length = layout.bufferSize) :
    ∃ parts, parts.flatten = buffer ∧ PartsOf layout.fields parts := by
  apply CStruct.exists_parts
  rw [size, ← packed.size, structOf, CStruct.size_packed, List.map_map]
  rfl

theorem PartsOf.part {fields : List FlatField} {parts : List Bytes} {index : Nat}
    {field : FlatField} (sizes : PartsOf fields parts) (here : fields[index]? = some field) :
    ∃ part, parts[index]? = some part ∧ part.length = field.type.scalar.size := by
  have inside : index < parts.length := by
    rw [sizes.length]
    exact (List.getElem?_eq_some_iff.mp here).1
  refine ⟨parts[index], List.getElem?_eq_getElem inside, ?_⟩
  have same := congrArg (fun lengths : List Nat => lengths[index]?) sizes
  simpa only [List.getElem?_map, List.getElem?_eq_getElem inside, here, Option.map_some,
    Option.some.injEq] using same

/-- Every field lies inside a buffer of the size of its section. -/
theorem Packed.room {layout : Layout} {index : Nat} {field : FlatField} {buffer : Bytes}
    (packed : layout.Packed) (size : buffer.length = layout.bufferSize)
    (here : layout.fields[index]? = some field) :
    field.byteOffset + fieldByteSize field.type ≤ buffer.length := by
  obtain ⟨parts, rfl, sizes⟩ := exists_partsOf packed size
  obtain ⟨part, place, length⟩ := sizes.part here
  rw [← sizes.offset packed here, partOffset, flatten_part place, ← FieldType.scalar_size, ← length]
  simp only [List.length_append]
  omega

theorem fieldValue_parts {layout : Layout} {parts : List Bytes} {index : Nat} {field : FlatField}
    {part : Bytes} (packed : layout.Packed) (sizes : PartsOf layout.fields parts)
    (here : layout.fields[index]? = some field) (place : parts[index]? = some part) :
    fieldValue scalars parts.flatten field =
      scalars.widen (scalars.decode field.type.scalar part) := by
  obtain ⟨_, same, length⟩ := sizes.part here
  cases place.symm.trans same
  rw [fieldValue, ← length, ← sizes.offset packed here, partOffset, flatten_part place,
    List.drop_left, List.take_left]

theorem writeCommandField_parts {schema : InterfaceSchema} {layout : Layout} {parts : List Bytes}
    {index : Nat} {field : FlatField} {value : Double scalars}
    {narrowed : scalars.Value field.type.scalar} (packed : layout.Packed)
    (fields : schema.commandFlatFields = layout.fields) (sizes : PartsOf layout.fields parts)
    (here : layout.fields[index]? = some field)
    (defined : scalars.narrow field.type.scalar value = some narrowed) :
    writeCommandField scalars schema parts.flatten index value =
        .ok (parts.set index (scalars.encode narrowed)).flatten ∧
      PartsOf layout.fields (parts.set index (scalars.encode narrowed)) := by
  obtain ⟨part, place, length⟩ := sizes.part here
  have stored := storeBytes_part rfl index place
    ((scalars.encode_length narrowed).trans length.symm)
  rw [sizes.offset packed here] at stored
  rw [writeCommandField_eq (fields ▸ here), castScalar, defined]
  simp only [bind, Except.bind, storeScalar, stored.1]
  exact ⟨trivial, stored.2.trans sizes⟩

end Zenbedded.Hardware
