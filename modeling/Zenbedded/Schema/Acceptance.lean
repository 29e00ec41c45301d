import Zenbedded.Schema.Agreement

namespace Zenbedded.Schema

open Zenbedded.Foundation

/-! # Which documents each program accepts

The host wants both sections and reads an empty node as an empty mapping; the
generator does without a section but wants mappings where it iterates.
-/

variable {entriesOf : Node → Option (List (Text × Node))} {yaml : YamlCpp} {yamlText : Text}
  {root : Node}

def FieldsKnown (fields : List (Text × Node)) : Prop :=
  ∀ entry ∈ fields, entry.2.fieldType ≠ none

/-- A mapping of mappings of known types, where `entriesOf` says what counts as a mapping. -/
def WellFormed (entriesOf : Node → Option (List (Text × Node))) (sectionNode : Node) : Prop :=
  ∃ components, entriesOf sectionNode = some components ∧
    ∀ component ∈ components, ∃ fields, entriesOf component.2 = some fields ∧ FieldsKnown fields

theorem componentDeclarations_ne_none_iff {component : Text × Node} :
    componentDeclarations entriesOf component ≠ none ↔
      ∃ fields, entriesOf component.2 = some fields ∧ FieldsKnown fields := by
  obtain ⟨name, node⟩ := component
  simp only [componentDeclarations]
  cases entriesOf node with
  | none => simp
  | some fields =>
      simp only [Option.bind_eq_bind, Option.bind_some, mapM_ne_none_iff, Option.some.injEq,
        exists_eq_left', FieldsKnown, fieldDeclaration, ne_eq, Option.map_eq_none_iff]

theorem sectionDeclarations_ne_none_iff {sectionNode : Node} :
    sectionDeclarations entriesOf sectionNode ≠ none ↔ WellFormed entriesOf sectionNode := by
  simp only [sectionDeclarations, WellFormed]
  cases entriesOf sectionNode with
  | none => simp
  | some components =>
      simp only [Option.bind_eq_bind, Option.bind_some, mapM_ne_none_iff, Option.some.injEq,
        exists_eq_left', componentDeclarations_ne_none_iff]

theorem host_accepts_iff (loaded : yaml.load yamlText = .ok root) :
    (InterfaceSchema.fromYaml yaml yamlText).valid = true ↔ hostDeclarations root ≠ none := by
  rw [fromYaml_loaded loaded]
  have spec := fromRoot_spec yaml root
  cases reads : hostDeclarations root with
  | none =>
      rw [reads] at spec
      simp [spec]
  | some declared =>
      rw [reads] at spec
      simp only [spec, ne_eq, reduceCtorEq, not_false_eq_true, iff_true]
      rfl

theorem generator_accepts_iff :
    (∃ header, generateHeader root = .ok header) ↔ generatorDeclarations root ≠ none := by
  constructor
  · rintro ⟨header, completed⟩
    obtain ⟨declared, reads, -⟩ := generateHeader_declares_iff.mp completed
    rw [reads]
    exact Option.some_ne_none _
  · intro found
    obtain ⟨declared, reads⟩ := Option.ne_none_iff_exists'.mp found
    exact ⟨_, generateHeader_declares_iff.mpr ⟨declared, reads, rfl⟩⟩

theorem host_sections_iff {entries : List (Text × Node)} :
    hostDeclarations (.mapping entries) ≠ none ↔
      ∃ state command, entries.lookup InterfaceSchema.stateKey = some state ∧
        entries.lookup InterfaceSchema.commandKey = some command ∧
        WellFormed Node.lenientEntries state ∧ WellFormed Node.lenientEntries command := by
  simp only [hostDeclarations, ← sectionDeclarations_ne_none_iff]
  cases entries.lookup InterfaceSchema.stateKey with
  | none => simp
  | some state =>
      cases entries.lookup InterfaceSchema.commandKey with
      | none => simp
      | some command =>
          simp only [Option.bind_eq_bind, Option.bind_some, Option.some.injEq, exists_and_left,
            exists_eq_left']
          cases sectionDeclarations Node.lenientEntries state <;>
            cases sectionDeclarations Node.lenientEntries command <;> simp

/-- A section the generator does not find counts as empty. -/
def sectionOrEmpty (entries : List (Text × Node)) (key : Text) : Node :=
  (entries.lookup key).getD (.mapping [])

theorem generator_sections_iff {entries : List (Text × Node)} :
    generatorDeclarations (.mapping entries) ≠ none ↔
      WellFormed Node.strictEntries (sectionOrEmpty entries InterfaceSchema.stateKey) ∧
        WellFormed Node.strictEntries (sectionOrEmpty entries InterfaceSchema.commandKey) := by
  simp only [generatorDeclarations, ← sectionDeclarations_ne_none_iff, sectionOrEmpty]
  cases sectionDeclarations Node.strictEntries
      ((entries.lookup InterfaceSchema.stateKey).getD (.mapping [])) <;>
    cases sectionDeclarations Node.strictEntries
      ((entries.lookup InterfaceSchema.commandKey).getD (.mapping [])) <;> simp

theorem wellFormed_of_strict {sectionNode : Node}
    (strict : WellFormed Node.strictEntries sectionNode) :
    WellFormed Node.lenientEntries sectionNode := by
  obtain ⟨components, here, each⟩ := strict
  refine ⟨components, lenientEntries_of_strict here, ?_⟩
  intro component inside
  obtain ⟨fields, mapping, known⟩ := each component inside
  exact ⟨fields, lenientEntries_of_strict mapping, known⟩

def LacksSection (entries : List (Text × Node)) : Prop :=
  entries.lookup InterfaceSchema.stateKey = none ∨ entries.lookup InterfaceSchema.commandKey = none

/-- Whether what is there is well-formed, for one reading of empty nodes. -/
def SectionsWellFormed (entriesOf : Node → Option (List (Text × Node)))
    (entries : List (Text × Node)) : Prop :=
  WellFormed entriesOf (sectionOrEmpty entries InterfaceSchema.stateKey) ∧
    WellFormed entriesOf (sectionOrEmpty entries InterfaceSchema.commandKey)

/-- A document that lacks a section is malformed elsewhere too, and one with both
sections is well-formed without taking an empty node for a mapping, or not at all. -/
def AcceptedAlike : Node → Prop
  | .mapping entries =>
      (LacksSection entries → ¬ SectionsWellFormed Node.strictEntries entries) ∧
        (¬ LacksSection entries → SectionsWellFormed Node.lenientEntries entries →
          SectionsWellFormed Node.strictEntries entries)
  | .null | .scalar _ | .sequence _ => True

theorem host_mapping_iff {entries : List (Text × Node)} :
    hostDeclarations (.mapping entries) ≠ none ↔
      ¬ LacksSection entries ∧ SectionsWellFormed Node.lenientEntries entries := by
  simp only [host_sections_iff, LacksSection, SectionsWellFormed, sectionOrEmpty]
  cases entries.lookup InterfaceSchema.stateKey with
  | none => simp
  | some state =>
      cases entries.lookup InterfaceSchema.commandKey with
      | none => simp
      | some command => simp

/-- The programs agree on a document exactly when it is `AcceptedAlike`. -/
theorem acceptance_agrees_iff (loaded : yaml.load yamlText = .ok root) :
    ((InterfaceSchema.fromYaml yaml yamlText).valid = true ↔
      ∃ header, generateHeader root = .ok header) ↔ AcceptedAlike root := by
  rw [host_accepts_iff loaded, generator_accepts_iff]
  cases root with
  | null => simp [hostDeclarations, generatorDeclarations, AcceptedAlike]
  | scalar text => simp [hostDeclarations, generatorDeclarations, AcceptedAlike]
  | sequence items => simp [hostDeclarations, generatorDeclarations, AcceptedAlike]
  | mapping entries =>
      have weaker : SectionsWellFormed Node.strictEntries entries →
          SectionsWellFormed Node.lenientEntries entries :=
        And.imp wellFormed_of_strict wellFormed_of_strict
      rw [host_mapping_iff, generator_sections_iff]
      change _ ↔ (_ → ¬ SectionsWellFormed Node.strictEntries entries) ∧ _
      by_cases lacks : LacksSection entries
      · simp only [lacks, not_true_eq_false, false_and, false_iff, forall_const, false_imp_iff,
          and_true]
        exact Iff.rfl
      · simp only [lacks, not_false_eq_true, true_and, forall_const, false_imp_iff]
        exact ⟨fun agree lenient => agree.mp lenient, fun strict => ⟨strict, weaker⟩⟩

theorem acceptance_agrees_twoFields :
    ((InterfaceSchema.fromYaml (.knowing twoFields) []).valid = true ↔
        ∃ header, generateHeader twoFields = .ok header) ↔ AcceptedAlike twoFields :=
  acceptance_agrees_iff rfl

/-- A document without a command section is the generator's, not the host's. -/
theorem acceptance_differs :
    ¬ ∀ (yaml : YamlCpp) (yamlText : Text) (root : Node), yaml.load yamlText = .ok root →
      ((InterfaceSchema.fromYaml yaml yamlText).valid = true ↔
        ∃ header, generateHeader root = .ok header) := by
  intro agree
  let root : Node := .mapping
    [(InterfaceSchema.stateKey,
      .mapping [("j".toList, .mapping [("p".toList, .scalar "float32".toList)])])]
  have different : InterfaceSchema.commandKey ≠ InterfaceSchema.stateKey := by
    delta InterfaceSchema.commandKey InterfaceSchema.stateKey
    simp
  have missing : hostDeclarations root = none := by
    simp only [root, hostDeclarations, List.lookup_cons, beq_eq_false_iff_ne.mpr different,
      List.lookup_nil]
    rfl
  have found : generatorDeclarations root ≠ none := by
    simp only [root, generatorDeclarations, List.lookup_cons, beq_self_eq_true,
      beq_eq_false_iff_ne.mpr different, List.lookup_nil]
    exact Option.some_ne_none _
  have same := agree (.knowing root) [] root rfl
  rw [host_accepts_iff rfl, generator_accepts_iff, missing] at same
  exact same.mpr found rfl

end Zenbedded.Schema
