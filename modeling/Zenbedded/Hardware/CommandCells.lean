import Mathlib.Data.List.Induction
import Zenbedded.Foundation.Ieee754
import Zenbedded.Hardware.Cycle

namespace Zenbedded.Hardware

open Zenbedded.Foundation Zenbedded.Schema

/-! # The command buffer as cells

A cell for each command field, which keeps what the field's type keeps of a
value.  The bytes of the buffer are an implementation of the cells.
-/

variable {scalars : Scalars} {schema : InterfaceSchema}

/-- A call of `write_command_field`. -/
abbrev FieldWrite (scalars : Scalars) := Nat × Double scalars

/-- The conversion to the type of a field and back. -/
def stored (scalars : Scalars) (field : FlatField) (value : Double scalars) :
    Option (Double scalars) :=
  (scalars.narrow field.type.scalar value).map scalars.widen

/-- The conversion is defined, or there is no such field. -/
def Defined (schema : InterfaceSchema) (write : FieldWrite scalars) : Prop :=
  ∀ field, schema.commandFlatFields[write.1]? = some field →
    (scalars.narrow field.type.scalar write.2).isSome

def commandCells (scalars : Scalars) (schema : InterfaceSchema) (buffer : Bytes) :
    List (Double scalars) :=
  schema.commandFlatFields.map (fieldValue scalars buffer)

def writeCell (schema : InterfaceSchema) (cells : List (Double scalars))
    (write : FieldWrite scalars) : List (Double scalars) :=
  match schema.commandFlatFields[write.1]? with
  | none => cells
  | some field =>
      match stored scalars field write.2 with
      | none => cells
      | some value => cells.set write.1 value

/-- The last value that was written to a cell. -/
def lastWritten (writes : List (FieldWrite scalars)) (index : Nat) : Option (Double scalars) :=
  writes.reverse.lookup index

theorem lastWritten_append (writes : List (FieldWrite scalars)) (write : FieldWrite scalars)
    (index : Nat) : lastWritten (writes ++ [write]) index =
      if index = write.1 then some write.2 else lastWritten writes index := by
  rw [lastWritten, List.reverse_append, List.reverse_singleton, List.singleton_append,
    List.lookup_cons]
  by_cases here : index = write.1
  · rw [if_pos here, here, beq_self_eq_true]
  · rw [if_neg here, beq_eq_false_iff_ne.mpr here]
    rfl

theorem writeCell_length (cells : List (Double scalars)) (write : FieldWrite scalars) :
    (writeCell schema cells write).length = cells.length := by
  unfold writeCell
  split
  · rfl
  · split
    · rfl
    · exact List.length_set ..

theorem writeCells_length (cells : List (Double scalars)) (writes : List (FieldWrite scalars)) :
    (writes.foldl (writeCell schema) cells).length = cells.length := by
  induction writes generalizing cells with
  | nil => rfl
  | cons write writes inductionHypothesis =>
      rw [List.foldl_cons, inductionHypothesis, writeCell_length]

theorem writeCell_other {cells : List (Double scalars)} {write : FieldWrite scalars} {index : Nat}
    (apart : index ≠ write.1) : (writeCell schema cells write)[index]? = cells[index]? := by
  unfold writeCell
  split
  · rfl
  · split
    · rfl
    · exact List.getElem?_set_ne (Ne.symm apart)

/-- A cell holds the last value that was written to it, as its type keeps it. -/
theorem writeCells_getElem? {cells : List (Double scalars)} {writes : List (FieldWrite scalars)}
    (count : cells.length = schema.commandFlatFields.length)
    (defined : ∀ write ∈ writes, Defined schema write) {index : Nat} {field : FlatField}
    (here : schema.commandFlatFields[index]? = some field) :
    (writes.foldl (writeCell schema) cells)[index]? =
      match lastWritten writes index with
      | none => cells[index]?
      | some value => stored scalars field value := by
  induction writes using List.reverseRecOn with
  | nil => rfl
  | append_singleton writes write inductionHypothesis =>
      have earlier := inductionHypothesis fun write member =>
        defined write (List.mem_append_left _ member)
      rw [List.foldl_append, List.foldl_cons, List.foldl_nil, lastWritten_append]
      by_cases same : index = write.1
      · obtain ⟨narrowed, converts⟩ := Option.isSome_iff_exists.mp
          (defined write (List.mem_append_right _ (List.mem_singleton_self _)) field (same ▸ here))
        have keeps : stored scalars field write.2 = some (scalars.widen narrowed) := by
          rw [stored, converts, Option.map_some]
        have inside : write.1 < (writes.foldl (writeCell schema) cells).length := by
          rw [writeCells_length, count, ← same]
          exact (List.getElem?_eq_some_iff.mp here).1
        rw [if_pos same, writeCell, ← same, here]
        simp only [keeps]
        exact List.getElem?_set_self (same ▸ inside)
      · rw [if_neg same, writeCell_other same, earlier]

theorem fieldValue_append {front : Bytes} {field : FlatField}
    (room : field.byteOffset + fieldByteSize field.type ≤ front.length) (rest : Bytes) :
    fieldValue scalars (front ++ rest) field = fieldValue scalars front field := by
  rw [← FieldType.scalar_size] at room
  have enough : field.type.scalar.size ≤ (front.drop field.byteOffset).length := by
    rw [List.length_drop]
    omega
  rw [fieldValue, fieldValue, List.drop_append_of_le_length (by omega),
    List.take_append_of_le_length enough]

/-- A write replaces one part of the section, and touches nothing behind the section. -/
theorem writeCommandField_append {parts : List Bytes} (rest : Bytes) {index : Nat}
    {field : FlatField} {value : Double scalars} {narrowed : scalars.Value field.type.scalar}
    (laid : Laid schema) (sizes : PartsOf schema.commandFlatFields parts)
    (here : schema.commandFlatFields[index]? = some field)
    (defined : scalars.narrow field.type.scalar value = some narrowed) :
    writeCommandField scalars schema (parts.flatten ++ rest) index value =
      .ok ((parts.set index (scalars.encode narrowed)).flatten ++ rest) := by
  have written := (writeCommandField_parts laid.command rfl sizes here defined).1
  have room := Packed.room laid.command (PartsOf.flatten_length laid.command sizes) here
  rw [← FieldType.scalar_size, ← scalars.encode_length narrowed] at room
  rw [writeCommandField_eq here, castScalar, defined] at written ⊢
  simp only [bind, Except.bind, storeScalar] at written ⊢
  cases result : storeBytes parts.flatten field.byteOffset (scalars.encode narrowed) with
  | error fault =>
      rw [result] at written
      contradiction
  | ok after =>
      rw [result] at written
      cases written
      rw [storeBytes_append room rest result]

theorem commandCells_length (buffer : Bytes) :
    (commandCells scalars schema buffer).length = schema.commandFlatFields.length :=
  List.length_map _

theorem commandCells_parts {parts : List Bytes} (rest : Bytes) (laid : Laid schema)
    (sizes : PartsOf schema.commandFlatFields parts) {index : Nat} {field : FlatField}
    (here : schema.commandFlatFields[index]? = some field) :
    (commandCells scalars schema (parts.flatten ++ rest))[index]? =
      parts[index]?.map fun part => scalars.widen (scalars.decode field.type.scalar part) := by
  have room := Packed.room laid.command (PartsOf.flatten_length laid.command sizes) here
  obtain ⟨part, place, _⟩ := sizes.part here
  rw [commandCells, List.getElem?_map, here, place, Option.map_some, Option.map_some,
    fieldValue_append room, fieldValue_parts laid.command sizes here place]

/-- Replacing the part of a field sets its cell. -/
theorem commandCells_set {parts : List Bytes} (rest : Bytes) (laid : Laid schema)
    (sizes : PartsOf schema.commandFlatFields parts) {index : Nat} {field : FlatField}
    {value : Double scalars} {narrowed : scalars.Value field.type.scalar}
    (here : schema.commandFlatFields[index]? = some field)
    (converts : scalars.narrow field.type.scalar value = some narrowed)
    (resized : PartsOf schema.commandFlatFields (parts.set index (scalars.encode narrowed))) :
    commandCells scalars schema ((parts.set index (scalars.encode narrowed)).flatten ++ rest) =
      writeCell schema (commandCells scalars schema (parts.flatten ++ rest)) (index, value) := by
  apply List.ext_getElem?
  intro other
  cases there : schema.commandFlatFields[other]? with
  | none =>
      rw [List.getElem?_eq_none, List.getElem?_eq_none]
      · rw [writeCell_length, commandCells_length]
        exact List.getElem?_eq_none_iff.mp there
      · rw [commandCells_length]
        exact List.getElem?_eq_none_iff.mp there
  | some otherField =>
      rw [commandCells_parts rest laid resized there]
      by_cases apart : other = index
      · subst apart
        cases here.symm.trans there
        have cellCount : other < (commandCells scalars schema (parts.flatten ++ rest)).length := by
          rw [commandCells_length]
          exact (List.getElem?_eq_some_iff.mp here).1
        have partCount : other < parts.length := by
          rw [PartsOf.length sizes]
          exact (List.getElem?_eq_some_iff.mp here).1
        rw [writeCell, here]
        simp only [stored, converts, Option.map_some]
        rw [List.getElem?_set_self cellCount, List.getElem?_set_self partCount,
          Option.map_some, scalars.decode_encode]
      · rw [writeCell_other apart, commandCells_parts rest laid sizes there,
          List.getElem?_set_ne (Ne.symm apart)]

/-- The bytes implement the cells. -/
theorem writeCommandField_cells (laid : Laid schema) {buffer : Bytes}
    (room : schema.commandBufferSize ≤ buffer.length) {write : FieldWrite scalars}
    (defined : Defined schema write) :
    ∃ after, writeCommandField scalars schema buffer write.1 write.2 = .ok after ∧
      after.length = buffer.length ∧
      after.drop schema.commandBufferSize = buffer.drop schema.commandBufferSize ∧
      commandCells scalars schema after =
        writeCell schema (commandCells scalars schema buffer) write := by
  obtain ⟨index, value⟩ := write
  cases here : schema.commandFlatFields[index]? with
  | none =>
      refine ⟨buffer, ?_, rfl, rfl, ?_⟩
      · rw [writeCommandField, here]
      · rw [writeCell, here]
  | some field =>
      obtain ⟨narrowed, converts⟩ := Option.isSome_iff_exists.mp (defined field here)
      have size : (buffer.take schema.commandBufferSize).length =
          (commandLayout schema).bufferSize := List.length_take_of_le room
      obtain ⟨parts, whole, sizes⟩ := exists_partsOf laid.command size
      have split : buffer = parts.flatten ++ buffer.drop schema.commandBufferSize := by
        rw [whole, List.take_append_drop]
      have length : parts.flatten.length = schema.commandBufferSize :=
        PartsOf.flatten_length laid.command sizes
      generalize buffer.drop schema.commandBufferSize = rest at split
      subst split
      have fields : schema.commandFlatFields = (commandLayout schema).fields := rfl
      obtain ⟨_, resized⟩ := writeCommandField_parts laid.command fields sizes here converts
      have same : (parts.set index (scalars.encode narrowed)).flatten.length =
          schema.commandBufferSize := PartsOf.flatten_length laid.command resized
      refine ⟨_, writeCommandField_append rest laid sizes here converts, ?_, ?_, ?_⟩
      · rw [List.length_append, List.length_append, length, same]
      · exact List.drop_left' same
      · exact commandCells_set rest laid sizes here converts resized

def writeFields (scalars : Scalars) (schema : InterfaceSchema)
    (writes : List (FieldWrite scalars)) (buffer : Bytes) : Except AccessFault Bytes :=
  writes.foldlM (fun buffer write => writeCommandField scalars schema buffer write.1 write.2) buffer

theorem writeFields_cells (laid : Laid schema) {buffer : Bytes}
    (room : schema.commandBufferSize ≤ buffer.length) {writes : List (FieldWrite scalars)}
    (defined : ∀ write ∈ writes, Defined schema write) :
    ∃ after, writeFields scalars schema writes buffer = .ok after ∧
      after.length = buffer.length ∧
      after.drop schema.commandBufferSize = buffer.drop schema.commandBufferSize ∧
      commandCells scalars schema after =
        writes.foldl (writeCell schema) (commandCells scalars schema buffer) := by
  induction writes generalizing buffer with
  | nil => exact ⟨buffer, rfl, rfl, rfl, rfl⟩
  | cons write writes inductionHypothesis =>
      obtain ⟨next, written, length, beyond, cells⟩ :=
        writeCommandField_cells laid room (defined write List.mem_cons_self)
      obtain ⟨after, run, lengthAfter, beyondAfter, cellsAfter⟩ :=
        inductionHypothesis (length ▸ room) fun write member =>
          defined write (List.mem_cons_of_mem _ member)
      refine ⟨after, ?_, lengthAfter.trans length, beyondAfter.trans beyond, ?_⟩
      · rw [writeFields, List.foldlM_cons, written]
        exact run
      · rw [cellsAfter, cells, List.foldl_cons]

theorem readCommandField_cell (laid : Laid schema) {buffer : Bytes}
    (room : schema.commandBufferSize ≤ buffer.length) {index : Nat} {field : FlatField}
    (here : schema.commandFlatFields[index]? = some field) :
    readCommandField scalars schema buffer index = .ok (fieldValue scalars buffer field) := by
  have size : (buffer.take schema.commandBufferSize).length =
      (commandLayout schema).bufferSize := List.length_take_of_le room
  have inside := Packed.room laid.command size here
  rw [size] at inside
  exact readField_ok here (Nat.le_trans inside room)

/-- After any writes, each field reads as the last value written to it, converted to its type and
back, or as it did at first; nothing else has changed. -/
theorem commandFields_independent (scalars : Scalars) {yaml : YamlCpp} {yamlText : Text}
    {schema : InterfaceSchema} (parsed : InterfaceSchema.fromYaml yaml yamlText = schema)
    (valid : schema.valid = true) (initial : Bytes)
    (room : schema.commandBufferSize ≤ initial.length) (writes : List (FieldWrite scalars))
    (defined : ∀ write ∈ writes, Defined schema write) :
    ∃ final, writeFields scalars schema writes initial = .ok final ∧
      final.length = initial.length ∧
      (∀ position, schema.commandBufferSize ≤ position → final[position]? = initial[position]?) ∧
      (∀ (index : Nat) (field : FlatField), schema.commandFlatFields[index]? = some field →
        (∀ value, lastWritten writes index = some value →
          ∃ narrowed, scalars.narrow field.type.scalar value = some narrowed ∧
            readCommandField scalars schema final index = .ok (scalars.widen narrowed)) ∧
        (lastWritten writes index = none →
          readCommandField scalars schema final index =
            .ok (fieldValue scalars initial field))) ∧
      ∀ (index : Nat) (value : Double scalars) (buffer : Bytes),
        schema.commandFlatFields.length ≤ index →
          writeCommandField scalars schema buffer index value = .ok buffer := by
  have laid : Laid schema := by
    rw [← parsed] at valid ⊢
    exact laid_of_valid valid
  obtain ⟨final, run, length, beyond, cells⟩ := writeFields_cells laid room defined
  refine ⟨final, run, length, ?_, ?_, ?_⟩
  · intro position outside
    have same := congrArg (fun bytes : Bytes => bytes[position - schema.commandBufferSize]?) beyond
    simpa only [List.getElem?_drop, Nat.add_sub_cancel' outside] using same
  · intro index field here
    have read : readCommandField scalars schema final index =
        .ok (fieldValue scalars final field) := readCommandField_cell laid (length ▸ room) here
    have cell := writeCells_getElem? (commandCells_length initial) defined here
    rw [← cells, commandCells, List.getElem?_map, here, Option.map_some] at cell
    constructor
    · intro value last
      rw [last] at cell
      obtain ⟨narrowed, converts, same⟩ := Option.map_eq_some_iff.mp cell.symm
      exact ⟨narrowed, converts, by rw [read, same]⟩
    · intro never
      rw [never] at cell
      simp only [commandCells, List.getElem?_map, here, Option.map_some] at cell
      rw [read, Option.some.inj cell]
  · intro index value buffer outside
    rw [writeCommandField, List.getElem?_eq_none outside]

/-- 100 and 1.0, a value for a field that does not exist, and -2.5 over the 1.0. -/
def fourWrites : List (FieldWrite ieee754) :=
  [(0, 0x4059000000000000#64), (1, 0x3FF0000000000000#64), (5, 0x3FF0000000000000#64),
    (1, 0xC004000000000000#64)]

theorem fourWrites_defined : ∀ write ∈ fourWrites, Defined twoFieldSchema write := by
  intro write member
  simp only [fourWrites, List.mem_cons, List.not_mem_nil, or_false] at member
  rcases member with rfl | rfl | rfl | rfl
  · intro field here
    cases here
    decide
  · intro field here
    cases here
    decide
  · intro field here
    cases here
  · intro field here
    cases here
    decide

/-- Both fields keep what they got last, 100 and -2, and the byte behind the section stays. -/
theorem commandFields_independent_fourWrites :
    ∃ final, writeFields ieee754 twoFieldSchema fourWrites [0, 0, 0, 7] = .ok final ∧
      final[3]? = some 7 ∧
      readCommandField ieee754 twoFieldSchema final 0 = .ok 0x4059000000000000#64 ∧
      readCommandField ieee754 twoFieldSchema final 1 = .ok 0xC000000000000000#64 := by
  obtain ⟨final, run, -, beyond, cells, -⟩ := commandFields_independent ieee754
    (twoFieldSchema_parsed []) rfl [0, 0, 0, 7] (by decide) fourWrites fourWrites_defined
  obtain ⟨first, firstConverts, firstRead⟩ := (cells 0 _ rfl).1 0x4059000000000000#64 rfl
  obtain ⟨second, secondConverts, secondRead⟩ := (cells 1 _ rfl).1 0xC004000000000000#64 rfl
  refine ⟨final, run, (beyond 3 (Nat.le_refl 3)).trans rfl, ?_, ?_⟩
  · cases firstConverts
    exact firstRead
  · cases secondConverts
    exact secondRead

end Zenbedded.Hardware
