import Zenbedded.Schema.PayloadHeader

namespace Zenbedded.Schema

open Zenbedded.Foundation

/-! # What a section declares

One reading of a section as a list of declarations, and the two programs as
folds over it: the host lays the fields out with it, the generator adds up
sizes and lines.
-/

structure Declaration where
  component : Text
  field : Text
  type : FieldType
deriving Repr, DecidableEq

namespace Node

def fieldType : Node → Option FieldType
  | .scalar typeStr => match parseFieldType typeStr with
    | (type, []) => some type
    | _ => none
  | .null | .sequence _ | .mapping _ => none

/-- Entries where a mapping is asked for. -/
def strictEntries : Node → Option (List (Text × Node))
  | .mapping entries => some entries
  | .null | .scalar _ | .sequence _ => none

/-- Entries where an empty node passes for an empty mapping. -/
def lenientEntries : Node → Option (List (Text × Node))
  | .mapping entries => some entries
  | .null | .scalar _ | .sequence [] => some []
  | .sequence (_ :: _) => none

end Node

variable (entriesOf : Node → Option (List (Text × Node)))

def fieldDeclaration (component : Text) : Text × Node → Option Declaration
  | (field, node) => node.fieldType.map fun type => { component, field, type }

def componentDeclarations : Text × Node → Option (List Declaration)
  | (component, fields) => do (← entriesOf fields).mapM (fieldDeclaration component)

/-- What each component of a section declares. -/
def sectionDeclarations (sectionNode : Node) : Option (List (List Declaration)) := do
  (← entriesOf sectionNode).mapM (componentDeclarations entriesOf)

variable {entriesOf}

theorem lenientEntries_of_strict {node : Node} {entries : List (Text × Node)}
    (strict : node.strictEntries = some entries) : node.lenientEntries = some entries := by
  cases node with
  | mapping listed => exact strict
  | null => contradiction
  | scalar text => contradiction
  | sequence items => contradiction

theorem mapM_of_imp {Event Seen : Type} {first second : Event → Option Seen}
    (imp : ∀ event seen, first event = some seen → second event = some seen)
    {events : List Event} {seen : List Seen} (views : events.mapM first = some seen) :
    events.mapM second = some seen := by
  induction events generalizing seen with
  | nil => exact views
  | cons event events ih =>
      rw [List.mapM_cons] at views ⊢
      obtain ⟨head, first, views⟩ := Option.bind_eq_some_iff.mp views
      obtain ⟨tail, rest, same⟩ := Option.bind_eq_some_iff.mp views
      exact Option.bind_eq_some_iff.mpr ⟨head, imp event head first,
        Option.bind_eq_some_iff.mpr ⟨tail, ih rest, same⟩⟩

theorem componentDeclarations_of_strict {entry : Text × Node} {declarations : List Declaration}
    (strict : componentDeclarations Node.strictEntries entry = some declarations) :
    componentDeclarations Node.lenientEntries entry = some declarations := by
  obtain ⟨entries, here, views⟩ := Option.bind_eq_some_iff.mp strict
  exact Option.bind_eq_some_iff.mpr ⟨entries, lenientEntries_of_strict here, views⟩

/-- Where both readings find a section, they find the same. -/
theorem sectionDeclarations_of_strict {sectionNode : Node} {declarations : List (List Declaration)}
    (strict : sectionDeclarations Node.strictEntries sectionNode = some declarations) :
    sectionDeclarations Node.lenientEntries sectionNode = some declarations := by
  obtain ⟨entries, here, views⟩ := Option.bind_eq_some_iff.mp strict
  exact Option.bind_eq_some_iff.mpr ⟨entries, lenientEntries_of_strict here,
    mapM_of_imp (fun _ _ => componentDeclarations_of_strict) views⟩

/-- The generator knows the names the host knows, with the host's sizes and C types. -/
theorem typeMap_lookup (node : Node) (typeStr : Text) (scalar : node = .scalar typeStr) :
    typeMap.lookup typeStr =
      node.fieldType.map fun type => (fieldTypeToCType type, fieldByteSize type) := by
  subst scalar
  simp only [typeMap, List.lookup_cons, List.lookup_nil, Node.fieldType, parseFieldType]
  by_cases float32 : typeStr = "float32".toList
  · subst float32; rfl
  by_cases float64 : typeStr = "float64".toList
  · subst float64; rfl
  by_cases double : typeStr = "double".toList
  · subst double; rfl
  by_cases int32 : typeStr = "int32".toList
  · subst int32; rfl
  by_cases uint64 : typeStr = "uint64".toList
  · subst uint64; rfl
  by_cases int16 : typeStr = "int16".toList
  · subst int16; rfl
  by_cases uint8 : typeStr = "uint8".toList
  · subst uint8; rfl
  simp only [if_neg, float32, float64, double, int32, uint64, int16, uint8, or_self,
    not_false_eq_true, beq_eq_false_iff_ne.mpr, ne_eq]
  rfl

def Layout.push (layout : Layout) (declaration : Declaration) : Layout :=
  { fields := layout.fields ++ [
      { component := declaration.component
        field := declaration.field
        type := declaration.type
        byteOffset := layout.bufferSize }]
    bufferSize := layout.bufferSize + fieldByteSize declaration.type }

/-- The entries a loop over a node visits, where every one has a key. -/
theorem iterate_of_entries {node : Node} {entries : List (Text × Node)}
    (lenient : node.lenientEntries = some entries) :
    node.iterate = entries.map fun entry => (some entry.1, entry.2) := by
  cases node with
  | mapping listed =>
      cases lenient
      rfl
  | null =>
      cases lenient
      rfl
  | scalar text =>
      cases lenient
      rfl
  | sequence items =>
      cases items with
      | nil =>
          cases lenient
          rfl
      | cons item items => contradiction

theorem iterate_of_noEntries {node : Node} (lenient : node.lenientEntries = none) :
    ∃ item items, node.iterate = (none, item) :: items := by
  cases node with
  | mapping listed => contradiction
  | null => contradiction
  | scalar text => contradiction
  | sequence items =>
      cases items with
      | nil => contradiction
      | cons item items => exact ⟨item, _, rfl⟩

/-- The loops over a node, as a loop over its entries. -/
theorem foldsThrough_iterate {State Seen Failure : Type}
    {step : State → Option Text × Node → Except Failure State}
    {view : Text × Node → Option Seen} {push : State → Seen → State}
    (keyed : FoldsThrough (fun state (entry : Text × Node) => step state (some entry.1, entry.2))
      view push)
    (keyless : ∀ state node, ∃ error, step state (none, node) = .error error) :
    FoldsThrough (fun state (node : Node) => node.iterate.foldlM step state)
      (fun node => do (← node.lenientEntries).mapM view)
      (fun state seen => seen.foldl push state) where
  seen := by
    intro state node seen views
    obtain ⟨entries, here, each⟩ := Option.bind_eq_some_iff.mp views
    rw [iterate_of_entries here, List.foldlM_map]
    exact keyed.foldlM.seen state entries seen each
  unseen := by
    intro state node views
    cases lenient : node.lenientEntries with
    | none =>
        obtain ⟨item, items, visits⟩ := iterate_of_noEntries lenient
        obtain ⟨error, failed⟩ := keyless state item
        exact ⟨error, by rw [visits, List.foldlM_cons, failed]; rfl⟩
    | some entries =>
        rw [lenient] at views
        rw [iterate_of_entries lenient, List.foldlM_map]
        exact keyed.foldlM.unseen state entries views

theorem foldsThrough_parseField (component : Text) :
    FoldsThrough (fun layout (entry : Text × Node) =>
        parseField component layout (some entry.1, entry.2))
      (fieldDeclaration component) Layout.push where
  seen := by
    rintro layout ⟨field, node⟩ declaration views
    obtain ⟨type, typed, rfl⟩ := Option.map_eq_some_iff.mp views
    cases node with
    | null => contradiction
    | sequence items => contradiction
    | mapping entries => contradiction
    | scalar typeStr =>
        simp only [Node.fieldType] at typed
        split at typed
        · next parsed known =>
            cases typed
            simp only [parseField, keyAsString, Node.asString, known, Layout.push]
        · contradiction
  unseen := by
    rintro layout ⟨field, node⟩ views
    have untyped := Option.map_eq_none_iff.mp views
    cases node with
    | null => exact ⟨_, rfl⟩
    | sequence items => exact ⟨_, rfl⟩
    | mapping entries => exact ⟨_, rfl⟩
    | scalar typeStr =>
        simp only [Node.fieldType] at untyped
        split at untyped
        · contradiction
        · next unknown =>
            simp only [parseField, keyAsString, Node.asString]
            split
            · next known => exact absurd known (unknown _)
            · exact ⟨_, rfl⟩

def Layout.pushAll (layout : Layout) (declarations : List Declaration) : Layout :=
  declarations.foldl Layout.push layout

theorem foldsThrough_parseComponent :
    FoldsThrough (fun layout (entry : Text × Node) =>
        parseComponent layout (some entry.1, entry.2))
      (componentDeclarations Node.lenientEntries) Layout.pushAll where
  seen := by
    rintro layout ⟨component, node⟩
    exact (foldsThrough_iterate (foldsThrough_parseField component)
      fun _ _ => ⟨_, rfl⟩).seen layout node
  unseen := by
    rintro layout ⟨component, node⟩
    exact (foldsThrough_iterate (foldsThrough_parseField component)
      fun _ _ => ⟨_, rfl⟩).unseen layout node

/-- The layout of a list of declarations: running offsets from 0. -/
def layoutOf (declarations : List (List Declaration)) : Layout :=
  declarations.foldl Layout.pushAll .empty

theorem parseSection_ok_iff {sectionNode : Node} {layout : Layout} :
    parseSection sectionNode = .ok layout ↔
      ∃ declarations, sectionDeclarations Node.lenientEntries sectionNode = some declarations ∧
        layout = layoutOf declarations :=
  (foldsThrough_iterate foldsThrough_parseComponent fun _ _ => ⟨_, rfl⟩).ok_iff

def SectionLines.push (lines : SectionLines) (declaration : Declaration) : SectionLines :=
  { size := lines.size + fieldByteSize declaration.type
    fields := lines.fields ++ ["  ".toList ++ fieldTypeToCType declaration.type ++ " ".toList ++
      declaration.component ++ "_".toList ++ declaration.field ++ ";".toList] }

def SectionLines.pushAll (lines : SectionLines) (declarations : List Declaration) :
    SectionLines :=
  declarations.foldl SectionLines.push lines

theorem foldsThrough_addField (word component : Text) :
    FoldsThrough (addField word component) (fieldDeclaration component) SectionLines.push where
  seen := by
    rintro lines ⟨field, node⟩ declaration views
    obtain ⟨type, typed, rfl⟩ := Option.map_eq_some_iff.mp views
    cases node with
    | null => contradiction
    | sequence items => contradiction
    | mapping entries => contradiction
    | scalar typeStr =>
        have known := typeMap_lookup _ typeStr rfl
        rw [typed, Option.map_some] at known
        rw [addField, known]
        rfl
  unseen := by
    rintro lines ⟨field, node⟩ views
    have untyped := Option.map_eq_none_iff.mp views
    cases node with
    | null => exact ⟨_, rfl⟩
    | sequence items => exact ⟨_, rfl⟩
    | mapping entries => exact ⟨_, rfl⟩
    | scalar typeStr =>
        have unknown := typeMap_lookup _ typeStr rfl
        rw [untyped, Option.map_none] at unknown
        rw [addField, unknown]
        exact ⟨_, rfl⟩

/-- The loops over a dictionary, as a loop over its entries. -/
theorem foldsThrough_items {State Seen : Type}
    {step : State → Text × Node → Except GeneratorError State}
    {view : Text × Node → Option Seen} {push : State → Seen → State}
    (each : FoldsThrough step view push) :
    FoldsThrough (fun state (node : Node) => do (← node.items).foldlM step state)
      (fun node => do (← node.strictEntries).mapM view)
      (fun state seen => seen.foldl push state) where
  seen := by
    intro state node seen views
    obtain ⟨entries, here, seenEach⟩ := Option.bind_eq_some_iff.mp views
    cases node with
    | null => contradiction
    | scalar text => contradiction
    | sequence items => contradiction
    | mapping listed =>
        cases here
        exact each.foldlM.seen state entries seen seenEach
  unseen := by
    intro state node views
    cases node with
    | null => exact ⟨_, rfl⟩
    | scalar text => exact ⟨_, rfl⟩
    | sequence items => exact ⟨_, rfl⟩
    | mapping listed => exact each.foldlM.unseen state listed views

theorem foldsThrough_addComponent (word : Text) :
    FoldsThrough (addComponent word) (componentDeclarations Node.strictEntries)
      SectionLines.pushAll where
  seen := by
    rintro lines ⟨component, node⟩
    exact (foldsThrough_items (foldsThrough_addField word component)).seen lines node
  unseen := by
    rintro lines ⟨component, node⟩
    exact (foldsThrough_items (foldsThrough_addField word component)).unseen lines node

def linesOf (declarations : List (List Declaration)) : SectionLines :=
  declarations.foldl SectionLines.pushAll { size := 0, fields := [] }

theorem sectionLines_ok_iff {word key : Text} {entries : List (Text × Node)}
    {lines : SectionLines} :
    sectionLines word key (.mapping entries) = .ok lines ↔
      ∃ declarations, sectionDeclarations Node.strictEntries
          ((entries.lookup key).getD (.mapping [])) = some declarations ∧
        lines = linesOf declarations :=
  (foldsThrough_items (foldsThrough_addComponent word)).ok_iff

end Zenbedded.Schema
