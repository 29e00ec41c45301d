import Zenbedded.Schema.HeaderText

namespace Zenbedded.Schema

open Zenbedded.Foundation

/-! # One layout from three producers

The field offsets of the host, the struct in the header the host writes and the
struct in the header the generator writes.
-/

variable {yaml : YamlCpp} {yamlText header : Text} {root : Node}

/-- The declarations of the two sections, as the host finds them. -/
def hostDeclarations : Node → Option (List (List Declaration) × List (List Declaration))
  | .mapping entries => do
      let stateNode ← entries.lookup InterfaceSchema.stateKey
      let commandNode ← entries.lookup InterfaceSchema.commandKey
      let state ← sectionDeclarations Node.lenientEntries stateNode
      let command ← sectionDeclarations Node.lenientEntries commandNode
      return (state, command)
  | .null | .scalar _ | .sequence _ => none

/-- The declarations of the two sections, as the generator finds them. -/
def generatorDeclarations : Node → Option (List (List Declaration) × List (List Declaration))
  | .mapping entries => do
      let state ← sectionDeclarations Node.strictEntries
        ((entries.lookup InterfaceSchema.stateKey).getD (.mapping []))
      let command ← sectionDeclarations Node.strictEntries
        ((entries.lookup InterfaceSchema.commandKey).getD (.mapping []))
      return (state, command)
  | .null | .scalar _ | .sequence _ => none

theorem parseSection_error {sectionNode : Node}
    (unread : sectionDeclarations Node.lenientEntries sectionNode = none) :
    ∃ failure, parseSection sectionNode = .error failure := by
  cases result : parseSection sectionNode with
  | error failure => exact ⟨failure, rfl⟩
  | ok layout =>
      obtain ⟨declarations, reads, -⟩ := parseSection_ok_iff.mp result
      rw [unread] at reads
      contradiction

/-- The host accepts exactly the documents it finds declarations in. -/
theorem fromRoot_spec (yaml : YamlCpp) (root : Node) :
    match hostDeclarations root with
    | some (state, command) =>
        InterfaceSchema.fromRoot yaml root = .parsed (layoutOf state) (layoutOf command)
    | none => (InterfaceSchema.fromRoot yaml root).valid = false := by
  cases root with
  | null => rfl
  | scalar text => rfl
  | sequence items => rfl
  | mapping entries =>
      delta hostDeclarations InterfaceSchema.fromRoot
      simp only [Node.subscript]
      cases entries.lookup InterfaceSchema.stateKey with
      | none => rfl
      | some stateNode =>
          cases entries.lookup InterfaceSchema.commandKey with
          | none => rfl
          | some commandNode =>
              simp only [Option.bind_eq_bind, Option.bind_some]
              cases states : sectionDeclarations Node.lenientEntries stateNode with
              | none =>
                  obtain ⟨failure, failed⟩ := parseSection_error states
                  simp only [failed]
                  rfl
              | some state =>
                  simp only [parseSection_ok_iff.mpr ⟨state, states, rfl⟩]
                  cases commands : sectionDeclarations Node.lenientEntries commandNode with
                  | none =>
                      obtain ⟨failure, failed⟩ := parseSection_error commands
                      simp only [failed]
                      rfl
                  | some command =>
                      simp only [parseSection_ok_iff.mpr ⟨command, commands, rfl⟩]
                      rfl

theorem fromYaml_loaded (loaded : yaml.load yamlText = .ok root) :
    InterfaceSchema.fromYaml yaml yamlText = InterfaceSchema.fromRoot yaml root := by
  rw [InterfaceSchema.fromYaml, loaded]

theorem fromRoot_valid_iff :
    (InterfaceSchema.fromRoot yaml root).valid = true ↔ ∃ declared,
      hostDeclarations root = some declared ∧
      InterfaceSchema.fromRoot yaml root = .parsed (layoutOf declared.1) (layoutOf declared.2) := by
  have spec := fromRoot_spec yaml root
  cases reads : hostDeclarations root with
  | none =>
      rw [reads] at spec
      simp [spec]
  | some declared =>
      rw [reads] at spec
      simp only [spec, Option.some.injEq, exists_eq_left', iff_true]
      rfl

/-- The generator completes on exactly the documents it finds declarations in. -/
theorem generateHeader_declares_iff :
    generateHeader root = .ok header ↔ ∃ declared, generatorDeclarations root = some declared ∧
      header = payloadHeader (linesOf declared.1) (linesOf declared.2) := by
  rw [generateHeader_ok_iff]
  cases root with
  | null => exact ⟨by rintro ⟨_, _, reads, -⟩; contradiction, by rintro ⟨_, reads, -⟩; contradiction⟩
  | scalar text =>
      exact ⟨by rintro ⟨_, _, reads, -⟩; contradiction, by rintro ⟨_, reads, -⟩; contradiction⟩
  | sequence items =>
      exact ⟨by rintro ⟨_, _, reads, -⟩; contradiction, by rintro ⟨_, reads, -⟩; contradiction⟩
  | mapping entries =>
      delta generatorDeclarations
      simp only [sectionLines_ok_iff, Option.bind_eq_bind, Option.bind_eq_some_iff, Option.pure_def,
        Option.some.injEq]
      constructor
      · rintro ⟨_, _, ⟨state, states, rfl⟩, ⟨command, commands, rfl⟩, text⟩
        exact ⟨(state, command), ⟨state, states, command, commands, rfl⟩, text⟩
      · rintro ⟨_, ⟨state, states, command, commands, rfl⟩, text⟩
        exact ⟨_, _, ⟨state, states, rfl⟩, ⟨command, commands, rfl⟩, text⟩

/-- Where both programs accept a document, they found the same declarations. -/
theorem declarations_agree {host generator : List (List Declaration) × List (List Declaration)}
    (hostReads : hostDeclarations root = some host)
    (generatorReads : generatorDeclarations root = some generator) : host = generator := by
  cases root with
  | null => contradiction
  | scalar text => contradiction
  | sequence items => contradiction
  | mapping entries =>
      obtain ⟨stateNode, states, hostReads⟩ := Option.bind_eq_some_iff.mp hostReads
      obtain ⟨commandNode, commands, hostReads⟩ := Option.bind_eq_some_iff.mp hostReads
      delta generatorDeclarations at generatorReads
      simp only [states, commands, Option.getD_some] at generatorReads
      obtain ⟨state, stateStrict, generatorReads⟩ := Option.bind_eq_some_iff.mp generatorReads
      obtain ⟨command, commandStrict, generatorReads⟩ := Option.bind_eq_some_iff.mp generatorReads
      rw [sectionDeclarations_of_strict stateStrict, sectionDeclarations_of_strict commandStrict]
        at hostReads
      exact Option.some.inj (hostReads.symm.trans generatorReads)

/-- The offsets, types and size of one section's fields are those of its struct. -/
structure SectionAgrees (fields : List FlatField) (bufferSize : Nat) : Prop where
  members : ∀ index field, fields[index]? = some field →
    ∃ member, (structOf fields).members[index]? = some member ∧
      member.type.spelling = fieldTypeToCType field.type ∧
      member.type.size = fieldByteSize field.type ∧
      (structOf fields).offset index = some field.byteOffset
  count : (structOf fields).members.length = fields.length
  size : (structOf fields).size = bufferSize

theorem sectionAgrees (declarations : List (List Declaration)) :
    SectionAgrees (layoutOf declarations).fields (layoutOf declarations).bufferSize where
  members := by
    intro index field here
    have packed := (section_layout declarations).1
    refine ⟨field.member, ?_, FieldType.scalar_spelling _, FieldType.scalar_size _,
      packed.offsets index field here⟩
    rw [structOf, CStruct.packed, List.getElem?_map, here, Option.map_some]
  count := List.length_map _
  size := (section_layout declarations).1.size

/-- The lines of a section with a field, as the generator joins them. -/
theorem joined_lines {declarations : List (List Declaration)}
    (nonempty : (layoutOf declarations).fields ≠ []) :
    joinLines (linesOf declarations).fields ++ ['\n'] =
      (layoutOf declarations).fields.flatMap InterfaceSchema.fieldLine := by
  have same := (section_layout declarations).2
  rw [joinLines_eq, same.text]
  intro empty
  rw [← List.length_eq_zero_iff, same.count, List.length_eq_zero_iff] at empty
  exact nonempty empty

/-- The two headers are one text, and it declares the layout the host works with. -/
theorem producers_agree (loaded : yaml.load yamlText = .ok root)
    (host : (InterfaceSchema.fromYaml yaml yamlText).valid = true)
    (generator : generateHeader root = .ok header)
    (states : (InterfaceSchema.fromYaml yaml yamlText).stateFlatFields ≠ [])
    (commands : (InterfaceSchema.fromYaml yaml yamlText).commandFlatFields ≠ []) :
    ∃ schema, InterfaceSchema.fromYaml yaml yamlText = schema ∧
      schema.writeCHeader = some header ∧
      macroBody stateMacro (tokens header) = some (Nat.toDigits 10 schema.stateBufferSize) ∧
      macroBody commandMacro (tokens header) = some (Nat.toDigits 10 schema.commandBufferSize) ∧
      SectionAgrees schema.stateFlatFields schema.stateBufferSize ∧
      SectionAgrees schema.commandFlatFields schema.commandBufferSize ∧
      (Compiles schema.stateFlatFields → Compiles schema.commandFlatFields →
        Header.read header =
          some (declaredHeader schema.stateFlatFields schema.commandFlatFields)) := by
  rw [fromYaml_loaded loaded] at host states commands ⊢
  obtain ⟨declared, hostReads, parsed⟩ := fromRoot_valid_iff.mp host
  obtain ⟨_, generatorReads, text⟩ := generateHeader_declares_iff.mp generator
  cases declarations_agree hostReads generatorReads
  rw [parsed] at states commands ⊢
  rw [payloadHeader_eq, joined_lines states, joined_lines commands,
    (section_layout declared.1).2.size, (section_layout declared.2).2.size] at text
  subst text
  exact ⟨_, rfl, writeCHeader_parsed _ _, macroBody_state _ _ _ _, macroBody_command _ _ _ _,
    sectionAgrees _, sectionAgrees _, fun state command => read_headerText state command _ _⟩

/-- A loader that knows one document. -/
def YamlCpp.knowing (root : Node) : YamlCpp :=
  { load := fun _ => .ok root, what := fun _ => "".toList }

theorem fromYaml_knowing {declared : List (List Declaration) × List (List Declaration)}
    (reads : hostDeclarations root = some declared) (yamlText : Text) :
    InterfaceSchema.fromYaml (.knowing root) yamlText =
      .parsed (layoutOf declared.1) (layoutOf declared.2) := by
  have spec := fromRoot_spec (.knowing root) root
  rw [reads] at spec
  exact spec

/-- Two fields in each section, the wider one behind the narrower one. -/
def twoFields : Node :=
  .mapping
    [(InterfaceSchema.stateKey, .mapping [("j".toList, .mapping
        [("p".toList, .scalar "int16".toList), ("v".toList, .scalar "float64".toList)])]),
      (InterfaceSchema.commandKey, .mapping [("j".toList, .mapping
        [("e".toList, .scalar "uint8".toList), ("p".toList, .scalar "int16".toList)])])]

def twoFields.declarations : List (List Declaration) × List (List Declaration) :=
  ([[{ component := "j".toList, field := "p".toList, type := .int16 },
      { component := "j".toList, field := "v".toList, type := .float64 }]],
    [[{ component := "j".toList, field := "e".toList, type := .uint8 },
      { component := "j".toList, field := "p".toList, type := .int16 }]])

theorem twoFields.host : hostDeclarations twoFields = some declarations := rfl

theorem twoFields.generator : generatorDeclarations twoFields = some declarations := rfl

theorem producers_agree_twoFields :
    ∃ header schema, InterfaceSchema.fromYaml (.knowing twoFields) [] = schema ∧
      schema.stateFlatFields.map FlatField.byteOffset = [0, 2] ∧ schema.stateBufferSize = 10 ∧
      schema.commandFlatFields.map FlatField.byteOffset = [0, 1] ∧ schema.commandBufferSize = 3 ∧
      generateHeader twoFields = .ok header ∧ schema.writeCHeader = some header ∧
      SectionAgrees schema.stateFlatFields schema.stateBufferSize ∧
      SectionAgrees schema.commandFlatFields schema.commandBufferSize := by
  have parsed := fromYaml_knowing twoFields.host []
  have generator := generateHeader_declares_iff.mpr ⟨_, twoFields.generator, rfl⟩
  obtain ⟨schema, same, written, -, -, state, command, -⟩ := producers_agree rfl
    (by rw [parsed]; rfl) generator (by rw [parsed]; exact List.cons_ne_nil _ _)
    (by rw [parsed]; exact List.cons_ne_nil _ _)
  refine ⟨_, schema, same, ?_, ?_, ?_, ?_, generator, written, state, command⟩
  · rw [← same, parsed]
    rfl
  · rw [← same, parsed]
    rfl
  · rw [← same, parsed]
    rfl
  · rw [← same, parsed]
    rfl

end Zenbedded.Schema
