import Zenbedded.Schema.InterfaceSchema

namespace Zenbedded.Schema

open Zenbedded.Foundation

/-! # The firmware's header generator

`generate_header` on the document its YAML loader delivers.  An exception and
`sys.exit` both end it before the header is written.
-/

def typeMap : List (Text × (Text × Nat)) :=
  [("float32".toList, ("float".toList, 4)),
    ("float64".toList, ("double".toList, 8)),
    ("double".toList, ("double".toList, 8)),
    ("int32".toList, ("int32_t".toList, 4)),
    ("uint64".toList, ("uint64_t".toList, 8)),
    ("int16".toList, ("int16_t".toList, 2)),
    ("uint8".toList, ("uint8_t".toList, 1))]

inductive GeneratorError where
  /-- `sys.exit(1)` after the message. -/
  | unknownType (message : Text)
  | attributeError
  | unhashableType
deriving Repr, DecidableEq

namespace Node

/-- `node.get(key, {})`; only a dictionary has `get`. -/
def getOrEmpty (key : Text) : Node → Except GeneratorError Node
  | .mapping entries => .ok ((entries.lookup key).getD (.mapping []))
  | .null | .scalar _ | .sequence _ => .error .attributeError

def items : Node → Except GeneratorError (List (Text × Node))
  | .mapping entries => .ok entries
  | .null | .scalar _ | .sequence _ => .error .attributeError

end Node

/-- Sizes and lines so far. -/
structure SectionLines where
  size : Nat
  fields : List Text
deriving Repr, DecidableEq

def unknownTypeMessage (word comp field ftype : Text) : Text :=
  "Error: Unknown type '".toList ++ ftype ++ "' in ".toList ++ word ++ " ".toList ++ comp ++
    ".".toList ++ field

def addField (word comp : Text) (lines : SectionLines) :
    Text × Node → Except GeneratorError SectionLines
  | (_, .sequence _) | (_, .mapping _) => .error .unhashableType
  | (field, .null) => .error (.unknownType (unknownTypeMessage word comp field "None".toList))
  | (field, .scalar ftype) =>
      match typeMap.lookup ftype with
      | none => .error (.unknownType (unknownTypeMessage word comp field ftype))
      | some (ctype, size) => .ok {
          size := lines.size + size
          fields := lines.fields ++ ["  ".toList ++ ctype ++ " ".toList ++ comp ++ "_".toList ++
            field ++ ";".toList] }

def addComponent (word : Text) (lines : SectionLines) :
    Text × Node → Except GeneratorError SectionLines
  | (comp, fields) => do
      let entries ← fields.items
      entries.foldlM (addField word comp) lines

def sectionLines (word key : Text) (data : Node) : Except GeneratorError SectionLines := do
  let components ← (← data.getOrEmpty key).items
  components.foldlM (addComponent word) { size := 0, fields := [] }

/-- `chr(10).join(lines)`. -/
def joinLines (lines : List Text) : Text := List.intercalate ['\n'] lines

/-- The `header` f-string. -/
def payloadHeader (state command : SectionLines) : Text :=
  "#ifndef ZENBEDDED_SCHEMA__GENERATED__INTERFACE_DATA_H_\n".toList ++
  "#define ZENBEDDED_SCHEMA__GENERATED__INTERFACE_DATA_H_\n".toList ++
  "\n".toList ++
  "#include <stdint.h>\n".toList ++
  "\n".toList ++
  "#define ZENBEDDED_STATE_BYTE_SIZE ".toList ++ Nat.toDigits 10 state.size ++ "\n".toList ++
  "#define ZENBEDDED_COMMAND_BYTE_SIZE ".toList ++ Nat.toDigits 10 command.size ++ "\n".toList ++
  "\n".toList ++
  "#pragma pack(push, 1)\n".toList ++
  "typedef struct\n".toList ++
  "\x7b\n".toList ++
  joinLines state.fields ++ "\n".toList ++
  "\x7d zenbedded_state_t;\n".toList ++
  "\n".toList ++
  "typedef struct\n".toList ++
  "\x7b\n".toList ++
  joinLines command.fields ++ "\n".toList ++
  "\x7d zenbedded_command_t;\n".toList ++
  "#pragma pack(pop)\n".toList ++
  "\n".toList ++
  "#endif  // ZENBEDDED_SCHEMA__GENERATED__INTERFACE_DATA_H_\n".toList

def generateHeader (data : Node) : Except GeneratorError Text := do
  let state ← sectionLines "state".toList "state_interfaces".toList data
  let command ← sectionLines "command".toList "command_interfaces".toList data
  return payloadHeader state command

end Zenbedded.Schema
