import Zenbedded.Foundation.CHeader
import Zenbedded.Schema.Declarations

namespace Zenbedded.Schema

open Zenbedded.Foundation

/-! # The text of the header

What the two programs write for a section, and what a compiler reads back.
-/

def FlatField.member (field : FlatField) : CMember :=
  { type := field.type.scalar, name := field.component ++ "_".toList ++ field.field }

/-- The struct that the lines of a header declare. -/
def structOf (fields : List FlatField) : CStruct := .packed (fields.map FlatField.member)

theorem fieldLine_eq (field : FlatField) : InterfaceSchema.fieldLine field = field.member.line := by
  delta InterfaceSchema.fieldLine CMember.line
  simp only [FlatField.member, FieldType.scalar_spelling, List.append_assoc]

theorem fieldLine_newline (field : FlatField) :
    InterfaceSchema.fieldLine field = "  ".toList ++ fieldTypeToCType field.type ++ " ".toList ++
      field.component ++ "_".toList ++ field.field ++ ";".toList ++ ['\n'] := by
  have newline : ";\n".toList = ";".toList ++ ['\n'] := by simp
  delta InterfaceSchema.fieldLine
  rw [newline, ← List.append_assoc]

/-- The offsets and the size of a layout are those of the packed struct. -/
structure Layout.Packed (layout : Layout) : Prop where
  offsets : ∀ index field, layout.fields[index]? = some field →
    (structOf layout.fields).offset index = some field.byteOffset
  size : (structOf layout.fields).size = layout.bufferSize

theorem structOf_append_size (fields : List FlatField) (field : FlatField) :
    (structOf (fields ++ [field])).size = (structOf fields).size + fieldByteSize field.type := by
  simp only [structOf, CStruct.size_packed, List.map_append, List.sum_append, List.map_cons,
    List.map_nil, List.sum_singleton, FlatField.member, FieldType.scalar_size]

theorem structOf_offset {fields : List FlatField} {index : Nat} (inside : index < fields.length) :
    (structOf fields).offset index = some (structOf (fields.take index)).size := by
  rw [structOf, CStruct.offset_packed (by rw [List.length_map]; exact inside), structOf,
    CStruct.size_packed]
  simp only [List.map_take]

theorem Layout.Packed.push {layout : Layout} (packed : layout.Packed) (declaration : Declaration) :
    (layout.push declaration).Packed where
  offsets := by
    intro index field here
    rw [Layout.push] at here ⊢
    have inside := (List.getElem?_eq_some_iff.mp here).1
    rw [structOf_offset inside]
    rcases Nat.lt_or_eq_of_le (Nat.le_of_lt_succ (by simpa using inside)) with before | rfl
    · rw [List.getElem?_append_left before] at here
      rw [List.take_append_of_le_length (Nat.le_of_lt before), ← structOf_offset before]
      exact packed.offsets index field here
    · rw [List.getElem?_concat_length] at here
      cases here
      rw [List.take_left, packed.size]
  size := by
    rw [Layout.push, structOf_append_size, packed.size]

theorem Layout.Packed.empty : Layout.empty.Packed where
  offsets := by
    intro index field here
    contradiction
  size := rfl

/-- The generator's lines say of a section what its layout says. -/
structure SameSection (layout : Layout) (lines : SectionLines) : Prop where
  size : lines.size = layout.bufferSize
  text : lines.fields.flatMap (· ++ ['\n']) = layout.fields.flatMap InterfaceSchema.fieldLine
  count : lines.fields.length = layout.fields.length

theorem SameSection.push {layout : Layout} {lines : SectionLines}
    (same : SameSection layout lines) (declaration : Declaration) :
    SameSection (layout.push declaration) (lines.push declaration) where
  size := by
    rw [SectionLines.push, Layout.push, same.size]
  text := by
    simp only [SectionLines.push, Layout.push, List.flatMap_append, same.text, List.flatMap_cons,
      List.flatMap_nil, List.append_nil, fieldLine_newline]
  count := by
    simp only [SectionLines.push, Layout.push, List.length_append, same.count, List.length_cons,
      List.length_nil]

theorem SameSection.empty : SameSection .empty { size := 0, fields := [] } where
  size := rfl
  text := rfl
  count := rfl

/-- Both programs end with the same section, laid out as the packed struct. -/
theorem section_layout (declarations : List (List Declaration)) :
    (layoutOf declarations).Packed ∧
      SameSection (layoutOf declarations) (linesOf declarations) := by
  have run : ∀ (flat : List Declaration) (layout : Layout) (lines : SectionLines),
      layout.Packed → SameSection layout lines →
      (flat.foldl Layout.push layout).Packed ∧
        SameSection (flat.foldl Layout.push layout) (flat.foldl SectionLines.push lines) := by
    intro flat
    induction flat with
    | nil =>
        intro layout lines packed same
        exact ⟨packed, same⟩
    | cons declaration flat ih =>
        intro layout lines packed same
        exact ih _ _ (packed.push declaration) (same.push declaration)
  have flat := run declarations.flatten _ _ Layout.Packed.empty SameSection.empty
  rw [List.foldl_flatten, List.foldl_flatten] at flat
  exact flat

theorem joinLines_eq {lines : List Text} (nonempty : lines ≠ []) :
    joinLines lines ++ ['\n'] = lines.flatMap (· ++ ['\n']) := by
  induction lines with
  | nil => contradiction
  | cons line lines ih =>
      cases lines with
      | nil => simp [joinLines]
      | cons next lines =>
          have rest := ih (List.cons_ne_nil _ _)
          rw [List.flatMap_cons, ← rest, joinLines, joinLines, List.intercalate_cons_cons]
          simp only [List.append_assoc]

def headerOpening : Text :=
  "#ifndef ZENBEDDED_SCHEMA__GENERATED__INTERFACE_DATA_H_\n".toList ++
  ("#define ZENBEDDED_SCHEMA__GENERATED__INTERFACE_DATA_H_\n".toList ++
  ("\n".toList ++ ("#include <stdint.h>\n".toList ++ "\n".toList)))

def headerEnding : Text :=
  "\x7d zenbedded_command_t;\n".toList ++ ("#pragma pack(pop)\n".toList ++ ("\n".toList ++
  "#endif  // ZENBEDDED_SCHEMA__GENERATED__INTERFACE_DATA_H_\n".toList))

/-- The header, by what the two sections contribute. -/
def headerText (stateSize commandSize : Nat) (stateLines commandLines : Text) : Text :=
  headerOpening ++
  ("#define ZENBEDDED_STATE_BYTE_SIZE ".toList ++ (Nat.toDigits 10 stateSize ++ ("\n".toList ++
  ("#define ZENBEDDED_COMMAND_BYTE_SIZE ".toList ++ (Nat.toDigits 10 commandSize ++ ("\n".toList ++
  ("\n".toList ++ ("#pragma pack(push, 1)\n".toList ++
  ("typedef struct\n".toList ++ ("\x7b\n".toList ++ (stateLines ++
  ("\x7d zenbedded_state_t;\n".toList ++ ("\n".toList ++
  ("typedef struct\n".toList ++ ("\x7b\n".toList ++ (commandLines ++ headerEnding))))))))))))))))

theorem guardLines :
    "#ifndef ZENBEDDED_SCHEMA__GENERATED__INTERFACE_DATA_H_\n".toList =
        "#ifndef ".toList ++ (InterfaceSchema.guard ++ "\n".toList) ∧
      "#define ZENBEDDED_SCHEMA__GENERATED__INTERFACE_DATA_H_\n".toList =
        "#define ".toList ++ (InterfaceSchema.guard ++ "\n".toList) ∧
      "#endif  // ZENBEDDED_SCHEMA__GENERATED__INTERFACE_DATA_H_\n".toList =
        "#endif  // ".toList ++ (InterfaceSchema.guard ++ "\n".toList) := by
  delta InterfaceSchema.guard
  simp only [String.reduceToList, List.cons_append, List.nil_append, and_self]

/-- Where the host ends a line and leaves one blank in one string. -/
theorem blankLines :
    "\n\n".toList = "\n".toList ++ "\n".toList ∧
      "#include <stdint.h>\n\n".toList = "#include <stdint.h>\n".toList ++ "\n".toList ∧
      "typedef struct\n\x7b\n".toList = "typedef struct\n".toList ++ "\x7b\n".toList ∧
      "\x7d zenbedded_state_t;\n\n".toList = "\x7d zenbedded_state_t;\n".toList ++ "\n".toList ∧
      "#pragma pack(pop)\n\n".toList = "#pragma pack(pop)\n".toList ++ "\n".toList := by
  simp only [String.reduceToList, List.cons_append, List.nil_append, and_self]

theorem writeCHeader_parsed (state command : Layout) :
    (InterfaceSchema.parsed state command).writeCHeader =
      some (headerText state.bufferSize command.bufferSize
        (state.fields.flatMap InterfaceSchema.fieldLine)
        (command.fields.flatMap InterfaceSchema.fieldLine)) := by
  obtain ⟨ifndef, define, endif⟩ := guardLines
  obtain ⟨blank, included, typedef, state_t, pop⟩ := blankLines
  delta InterfaceSchema.writeCHeader headerText headerOpening headerEnding
  simp only [InterfaceSchema.parsed, InterfaceSchema.failed, Bool.true_eq_false, ↓reduceIte, ifndef,
    define, endif, blank, included, typedef, state_t, pop, List.append_assoc]

theorem payloadHeader_eq (state command : SectionLines) :
    payloadHeader state command = headerText state.size command.size
      (joinLines state.fields ++ ['\n']) (joinLines command.fields ++ ['\n']) := by
  delta payloadHeader headerText headerOpening headerEnding
  simp only [List.append_assoc]
  rfl

theorem generateHeader_ok_iff {data : Node} {header : Text} :
    generateHeader data = .ok header ↔
      ∃ state command, sectionLines "state".toList InterfaceSchema.stateKey data = .ok state ∧
        sectionLines "command".toList InterfaceSchema.commandKey data = .ok command ∧
        header = payloadHeader state command := by
  rw [generateHeader, bind_ok_iff]
  apply exists_congr
  intro state
  rw [bind_ok_iff, ← exists_and_left]
  apply exists_congr
  intro command
  rw [← and_assoc, ← and_assoc]
  exact and_congr_right fun _ => ⟨fun text => (Except.ok.inj text).symm, congrArg Except.ok ∘ Eq.symm⟩

def stateMacro : Text := "ZENBEDDED_STATE_BYTE_SIZE".toList

def commandMacro : Text := "ZENBEDDED_COMMAND_BYTE_SIZE".toList

def openingTokens : List Token :=
  [.directive "#ifndef ZENBEDDED_SCHEMA__GENERATED__INTERFACE_DATA_H_".toList,
    .directive "#define ZENBEDDED_SCHEMA__GENERATED__INTERFACE_DATA_H_".toList,
    .directive "#include <stdint.h>".toList]

def sizeToken (name : Text) (size : Nat) : Token :=
  .directive (macroStart name ++ Nat.toDigits 10 size)

def structTokens : List Token := [.word "typedef".toList, .word "struct".toList, .mark '\x7b']

def endingTokens : List Token :=
  [.mark '\x7d', .word "zenbedded_command_t".toList, .mark ';',
    .directive "#pragma pack(pop)".toList,
    .directive "#endif  // ZENBEDDED_SCHEMA__GENERATED__INTERFACE_DATA_H_".toList]

theorem lex_ifndef (rest : Text) :
    lex .lineStart ("#ifndef ZENBEDDED_SCHEMA__GENERATED__INTERFACE_DATA_H_\n".toList ++ rest) =
      .directive "#ifndef ZENBEDDED_SCHEMA__GENERATED__INTERFACE_DATA_H_".toList ::
        lex .lineStart rest := by
  simp only [String.reduceToList, List.cons_append, List.nil_append]
  rfl

theorem lex_guardDefine (rest : Text) :
    lex .lineStart ("#define ZENBEDDED_SCHEMA__GENERATED__INTERFACE_DATA_H_\n".toList ++ rest) =
      .directive "#define ZENBEDDED_SCHEMA__GENERATED__INTERFACE_DATA_H_".toList ::
        lex .lineStart rest := by
  simp only [String.reduceToList, List.cons_append, List.nil_append]
  rfl

theorem lex_include (rest : Text) :
    lex .lineStart ("\n".toList ++ ("#include <stdint.h>\n".toList ++ ("\n".toList ++ rest))) =
      .directive "#include <stdint.h>".toList :: lex .lineStart rest := by
  simp only [String.reduceToList, List.cons_append, List.nil_append]
  rfl

theorem lex_opening (rest : Text) :
    lex .lineStart (headerOpening ++ rest) = openingTokens ++ lex .lineStart rest := by
  delta headerOpening openingTokens
  simp only [List.append_assoc]
  rw [lex_ifndef, lex_guardDefine, lex_include]
  rfl

theorem newline_not_mem_toDigits (size : Nat) : '\n' ∉ Nat.toDigits 10 size := by
  intro inside
  have digit := Nat.isDigit_of_mem_toDigits (by decide) (by decide) inside
  contradiction

theorem lex_stateSize (size : Nat) (rest : Text) :
    lex .lineStart ("#define ZENBEDDED_STATE_BYTE_SIZE ".toList ++ (Nat.toDigits 10 size ++
      ("\n".toList ++ rest))) = sizeToken stateMacro size :: lex .lineStart rest := by
  have start : "#define ZENBEDDED_STATE_BYTE_SIZE ".toList = macroStart stateMacro := by
    delta macroStart stateMacro
    simp
  rw [start]
  exact lex_define (by delta stateMacro; simp) (newline_not_mem_toDigits size) rest

theorem lex_commandSize (size : Nat) (rest : Text) :
    lex .lineStart ("#define ZENBEDDED_COMMAND_BYTE_SIZE ".toList ++ (Nat.toDigits 10 size ++
      ("\n".toList ++ rest))) = sizeToken commandMacro size :: lex .lineStart rest := by
  have start : "#define ZENBEDDED_COMMAND_BYTE_SIZE ".toList = macroStart commandMacro := by
    delta macroStart commandMacro
    simp
  rw [start]
  exact lex_define (by delta commandMacro; simp) (newline_not_mem_toDigits size) rest

theorem lex_packPush (rest : Text) :
    lex .lineStart ("\n".toList ++ ("#pragma pack(push, 1)\n".toList ++ rest)) =
      .directive "#pragma pack(push, 1)".toList :: lex .lineStart rest := by
  simp only [String.reduceToList, List.cons_append, List.nil_append]
  rfl

theorem lex_struct (rest : Text) :
    lex .lineStart ("typedef struct\n".toList ++ ("\x7b\n".toList ++ rest)) =
      structTokens ++ lex .lineStart rest := by
  delta structTokens
  simp only [String.reduceToList, List.cons_append, List.nil_append]
  rfl

theorem lex_state (rest : Text) :
    lex .lineStart ("\x7d zenbedded_state_t;\n".toList ++ ("\n".toList ++ rest)) =
      [.mark '\x7d', .word "zenbedded_state_t".toList, .mark ';'] ++ lex .lineStart rest := by
  simp only [String.reduceToList, List.cons_append, List.nil_append]
  rfl

theorem lex_command (rest : Text) :
    lex .lineStart ("\x7d zenbedded_command_t;\n".toList ++ rest) =
      [.mark '\x7d', .word "zenbedded_command_t".toList, .mark ';'] ++ lex .lineStart rest := by
  simp only [String.reduceToList, List.cons_append, List.nil_append]
  rfl

theorem lex_packPop (rest : Text) :
    lex .lineStart ("#pragma pack(pop)\n".toList ++ ("\n".toList ++ rest)) =
      .directive "#pragma pack(pop)".toList :: lex .lineStart rest := by
  simp only [String.reduceToList, List.cons_append, List.nil_append]
  rfl

theorem lex_endif :
    lex .lineStart "#endif  // ZENBEDDED_SCHEMA__GENERATED__INTERFACE_DATA_H_\n".toList =
      [.directive "#endif  // ZENBEDDED_SCHEMA__GENERATED__INTERFACE_DATA_H_".toList] := by
  simp only [String.reduceToList]
  rfl

theorem lex_ending : lex .lineStart headerEnding = endingTokens := by
  delta headerEnding endingTokens
  rw [lex_command, lex_packPop, lex_endif]
  rfl

/-- The macros come before anything a schema's names can contribute. -/
theorem tokens_headerText (stateSize commandSize : Nat) (stateLines commandLines : Text) :
    ∃ rest, tokens (headerText stateSize commandSize stateLines commandLines) =
      openingTokens ++ sizeToken stateMacro stateSize :: sizeToken commandMacro commandSize ::
        rest := by
  delta headerText
  rw [tokens, lex_opening, lex_stateSize, lex_commandSize]
  exact ⟨_, rfl⟩

theorem macroBody_state (stateSize commandSize : Nat) (stateLines commandLines : Text) :
    macroBody stateMacro (tokens (headerText stateSize commandSize stateLines commandLines)) =
      some (Nat.toDigits 10 stateSize) := by
  obtain ⟨rest, split⟩ := tokens_headerText stateSize commandSize stateLines commandLines
  rw [split]
  delta openingTokens
  simp only [List.cons_append, List.nil_append]
  rw [macroBody_other (by delta macroStart stateMacro; simp),
    macroBody_other (by delta macroStart stateMacro; simp),
    macroBody_other (by delta macroStart stateMacro; simp), sizeToken, macroBody_define]

theorem macroBody_command (stateSize commandSize : Nat) (stateLines commandLines : Text) :
    macroBody commandMacro (tokens (headerText stateSize commandSize stateLines commandLines)) =
      some (Nat.toDigits 10 commandSize) := by
  obtain ⟨rest, split⟩ := tokens_headerText stateSize commandSize stateLines commandLines
  rw [split]
  delta openingTokens
  simp only [List.cons_append, List.nil_append]
  rw [macroBody_other (by delta macroStart commandMacro; simp),
    macroBody_other (by delta macroStart commandMacro; simp),
    macroBody_other (by delta macroStart commandMacro; simp), sizeToken,
    macroBody_other (by delta macroStart commandMacro stateMacro; simp), sizeToken,
    macroBody_define]

/-- The member names are identifiers a struct can declare together. -/
structure Compiles (fields : List FlatField) : Prop where
  identifiers : ∀ field ∈ fields, isIdentifier field.member.name = true
  distinct : (fields.map fun field => field.member.name).Nodup

theorem Compiles.lex_lines {fields : List FlatField} (compiles : Compiles fields) (rest : Text) :
    lex .lineStart (fields.flatMap InterfaceSchema.fieldLine ++ rest) =
      (fields.map FlatField.member).flatMap CMember.tokens ++ lex .lineStart rest := by
  have lines : fields.flatMap InterfaceSchema.fieldLine =
      (fields.map FlatField.member).flatMap CMember.line := by
    rw [List.flatMap_map]
    exact List.flatMap_congr fun field _ => fieldLine_eq field
  rw [lines, CMember.lex_lines]
  intro member inside
  obtain ⟨field, listed, rfl⟩ := List.mem_map.mp inside
  exact compiles.identifiers field listed

theorem Compiles.read_fields {fields : List FlatField} (compiles : Compiles fields)
    (packs : List Nat) (structs : List (Text × CStruct)) :
    ((fields.map FlatField.member).flatMap CMember.tokens).foldlM Header.step
        { packs, mode := .body [], structs } =
      some { packs, mode := .body (fields.map FlatField.member), structs } := by
  apply CMember.read_members
  · intro member inside
    obtain ⟨field, listed, rfl⟩ := List.mem_map.mp inside
    exact compiles.identifiers field listed
  · rw [List.nil_append, List.map_map]
    exact compiles.distinct

def stateStruct : Text := "zenbedded_state_t".toList

def commandStruct : Text := "zenbedded_command_t".toList

theorem read_opening : openingTokens.foldlM Header.step .empty = some .empty := by
  delta openingTokens
  simp only [List.foldlM_cons, List.foldlM_nil, Header.step_directive, Option.bind_eq_bind,
    Option.bind_some, Header.empty]
  rw [Header.packsAfter_other (by simp), Header.packsAfter_other (by simp),
    Header.packsAfter_other (by simp)]
  rfl

theorem read_size (name : Text) (size : Nat) (header : Header) :
    Header.step header (sizeToken name size) = some header := by
  rw [sizeToken, Header.step_directive, Header.packsAfter_other]
  delta macroStart
  simp

theorem read_struct (packs : List Nat) (structs : List (Text × CStruct)) :
    structTokens.foldlM Header.step { packs, mode := .top, structs } =
      some { packs, mode := .body [], structs } := rfl

theorem read_ending {structs : List (Text × CStruct)}
    (new : commandStruct ∉ structs.map Prod.fst) (members : List CMember) :
    endingTokens.foldlM Header.step { packs := [1], mode := .body members, structs } =
      some { packs := [], mode := .top,
             structs := structs ++ [(commandStruct, { pack := some 1, members })] } := by
  have split : endingTokens = [.mark '\x7d', .word commandStruct, .mark ';'] ++
      [.directive "#pragma pack(pop)".toList,
        .directive "#endif  // ZENBEDDED_SCHEMA__GENERATED__INTERFACE_DATA_H_".toList] := by
    delta endingTokens commandStruct
    rfl
  rw [split, List.foldlM_append, Header.read_close (by delta commandStruct; simp; rfl) new]
  simp only [Option.bind_eq_bind, Option.bind_some, List.foldlM_cons, List.foldlM_nil,
    Header.step_directive, Header.packsAfter_pop]
  rw [Header.packsAfter_other (by simp)]
  rfl

/-- The structs that a compiler finds in the header. -/
def declaredHeader (states commands : List FlatField) : Header :=
  { packs := [], mode := .top,
    structs := [(stateStruct, structOf states), (commandStruct, structOf commands)] }

theorem read_headerText {states commands : List FlatField} (statesCompile : Compiles states)
    (commandsCompile : Compiles commands) (stateSize commandSize : Nat) :
    Header.read (headerText stateSize commandSize (states.flatMap InterfaceSchema.fieldLine)
        (commands.flatMap InterfaceSchema.fieldLine)) = some (declaredHeader states commands) := by
  have state : stateStruct ∉ ([] : List (Text × CStruct)).map Prod.fst := List.not_mem_nil
  have command : commandStruct ∉ [(stateStruct, structOf states)].map Prod.fst := by
    delta commandStruct stateStruct
    simp
  have closed : [Token.mark '\x7d', .word "zenbedded_state_t".toList, .mark ';'].foldlM Header.step
      { packs := [1], mode := .body (states.map FlatField.member), structs := [] } =
        some { packs := [1], mode := .top, structs := [(stateStruct, structOf states)] } :=
    Header.read_close (by delta stateStruct; simp; rfl) state 1 [] _
  delta headerText
  rw [Header.read, tokens, lex_opening, lex_stateSize, lex_commandSize, lex_packPush, lex_struct,
    statesCompile.lex_lines, lex_state, lex_struct, commandsCompile.lex_lines, lex_ending,
    List.foldlM_append, read_opening, Option.bind_eq_bind, Option.bind_some, List.foldlM_cons,
    read_size, Option.bind_eq_bind, Option.bind_some, List.foldlM_cons, read_size,
    Option.bind_eq_bind, Option.bind_some, List.foldlM_cons, Header.step_directive,
    Header.packsAfter_push, Option.bind_eq_bind, Option.bind_some]
  rw [List.foldlM_append, Header.empty, read_struct, Option.bind_eq_bind, Option.bind_some,
    List.foldlM_append, statesCompile.read_fields, Option.bind_eq_bind, Option.bind_some,
    List.foldlM_append]
  rw [closed, Option.bind_eq_bind, Option.bind_some]
  rw [List.foldlM_append, read_struct, Option.bind_eq_bind, Option.bind_some,
    List.foldlM_append, commandsCompile.read_fields, Option.bind_eq_bind, Option.bind_some]
  exact read_ending command _

end Zenbedded.Schema
