import Zenbedded.Foundation.CStruct

namespace Zenbedded.Schema

open Zenbedded.Foundation

/-! # The host's schema parser

`InterfaceSchema`: the schema document becomes two flat lists of fields with
running byte offsets, and these are written out as a C header.  The document is
the tree the YAML library delivers; its exceptions leave the schema as far as
it was filled.
-/

/-- A YAML document; a mapping lists its entries in order. -/
inductive Node where
  | null
  | scalar (text : Text)
  | sequence (items : List Node)
  | mapping (entries : List (Text × Node))
deriving Repr

inductive YamlException where
  | parser (message : Text)
  | badSubscript (key : Text)
  | invalidNode
  | badConversion
deriving Repr, DecidableEq

structure YamlCpp where
  load : Text → Except YamlException Node
  what : YamlException → Text

namespace Node

/-- `root[key]`; `none` is the undefined node. -/
def subscript (key : Text) : Node → Except YamlException (Option Node)
  | .null | .sequence _ => .ok none
  | .scalar _ => .error (.badSubscript key)
  | .mapping entries => .ok (entries.lookup key)

/-- What a `for` loop visits.  An item of a sequence has no key. -/
def iterate : Node → List (Option Text × Node)
  | .null | .scalar _ => []
  | .sequence items => items.map fun item => (none, item)
  | .mapping entries => entries.map fun (key, value) => (some key, value)

/-- `as<std::string>()`. -/
def asString : Node → Except YamlException Text
  | .null => .ok "null".toList
  | .scalar text => .ok text
  | .sequence _ | .mapping _ => .error .badConversion

end Node

def keyAsString : Option Text → Except YamlException Text
  | none => .error .invalidNode
  | some key => .ok key

inductive FieldType where
  | float32
  | float64
  | int32
  | uint64
  | int16
  | uint8
deriving Repr, DecidableEq

/-- The type and the error; a type comes with an error too. -/
def parseFieldType (typeStr : Text) : FieldType × Text :=
  if typeStr = "float32".toList then (.float32, [])
  else if typeStr = "float64".toList ∨ typeStr = "double".toList then (.float64, [])
  else if typeStr = "int32".toList then (.int32, [])
  else if typeStr = "uint64".toList then (.uint64, [])
  else if typeStr = "int16".toList then (.int16, [])
  else if typeStr = "uint8".toList then (.uint8, [])
  else (.float32, "Unknown type: ".toList ++ typeStr)

def fieldTypeToCType : FieldType → Text
  | .float32 => "float".toList
  | .float64 => "double".toList
  | .int32 => "int32_t".toList
  | .uint64 => "uint64_t".toList
  | .int16 => "int16_t".toList
  | .uint8 => "uint8_t".toList

def fieldByteSize : FieldType → Nat
  | .float32 => 4
  | .float64 => 8
  | .int32 => 4
  | .uint64 => 8
  | .int16 => 2
  | .uint8 => 1

/-- The C type of the variable a field is copied from or into. -/
def FieldType.scalar : FieldType → CScalar
  | .float32 => .float
  | .float64 => .double
  | .int32 => .int32
  | .uint64 => .uint64
  | .int16 => .int16
  | .uint8 => .uint8

@[simp] theorem FieldType.scalar_spelling (type : FieldType) :
    type.scalar.spelling = fieldTypeToCType type := by
  cases type <;> rfl

@[simp] theorem FieldType.scalar_size (type : FieldType) :
    type.scalar.size = fieldByteSize type := by
  cases type <;> rfl

structure FlatField where
  component : Text
  field : Text
  type : FieldType
  byteOffset : Nat
deriving Repr, DecidableEq

/-- The field list and the buffer size of one section. -/
structure Layout where
  fields : List FlatField
  bufferSize : Nat
deriving Repr, DecidableEq

def Layout.empty : Layout := { fields := [], bufferSize := 0 }

/-- Why parsing ends early. -/
inductive Stop where
  | rejected (error : Text)
  | thrown (exception : YamlException)
deriving Repr, DecidableEq

def Stop.error (yaml : YamlCpp) : Stop → Text
  | .rejected error => error
  | .thrown exception => "YAML parse error: ".toList ++ yaml.what exception

def parseField (componentName : Text) (layout : Layout) :
    Option Text × Node → Except (Layout × Stop) Layout
  | (key, node) =>
      match keyAsString key with
      | .error exception => .error (layout, .thrown exception)
      | .ok fieldName =>
          match node.asString with
          | .error exception => .error (layout, .thrown exception)
          | .ok typeStr =>
              match parseFieldType typeStr with
              | (type, []) => .ok {
                  fields := layout.fields ++ [
                    { component := componentName
                      field := fieldName
                      type
                      byteOffset := layout.bufferSize }]
                  bufferSize := layout.bufferSize + fieldByteSize type }
              | (_, typeError) => .error (layout, .rejected
                  ("Field '".toList ++ fieldName ++ "' in component '".toList ++ componentName ++
                    "': ".toList ++ typeError))

def parseComponentFields (componentNode : Node) (componentName : Text) (layout : Layout) :
    Except (Layout × Stop) Layout :=
  componentNode.iterate.foldlM (parseField componentName) layout

def parseComponent (layout : Layout) : Option Text × Node → Except (Layout × Stop) Layout
  | (key, component) =>
      match keyAsString key with
      | .error exception => .error (layout, .thrown exception)
      | .ok name => parseComponentFields component name layout

def parseSection (sectionNode : Node) : Except (Layout × Stop) Layout :=
  sectionNode.iterate.foldlM parseComponent .empty

structure InterfaceSchema where
  valid : Bool
  error : Text
  stateFlatFields : List FlatField
  stateBufferSize : Nat
  commandFlatFields : List FlatField
  commandBufferSize : Nat
deriving Repr, DecidableEq

namespace InterfaceSchema

def failed (state command : Layout) (error : Text) : InterfaceSchema :=
  { valid := false
    error
    stateFlatFields := state.fields
    stateBufferSize := state.bufferSize
    commandFlatFields := command.fields
    commandBufferSize := command.bufferSize }

def parsed (state command : Layout) : InterfaceSchema :=
  { failed state command [] with valid := true }

def stateKey : Text := "state_interfaces".toList

def commandKey : Text := "command_interfaces".toList

def missing (key : Text) : Text := "Missing '".toList ++ key ++ "' in schema".toList

/-- The body of the `try` block once the document is loaded. -/
def fromRoot (yaml : YamlCpp) (root : Node) : InterfaceSchema :=
  match root.subscript stateKey with
  | .error exception => failed .empty .empty (Stop.error yaml (.thrown exception))
  | .ok none => failed .empty .empty (missing stateKey)
  | .ok (some stateNode) =>
      match root.subscript commandKey with
      | .error exception => failed .empty .empty (Stop.error yaml (.thrown exception))
      | .ok none => failed .empty .empty (missing commandKey)
      | .ok (some commandNode) =>
          match parseSection stateNode with
          | .error (state, stop) => failed state .empty (stop.error yaml)
          | .ok state =>
              match parseSection commandNode with
              | .error (command, stop) => failed state command (stop.error yaml)
              | .ok command => parsed state command

def fromYaml (yaml : YamlCpp) (yamlText : Text) : InterfaceSchema :=
  match yaml.load yamlText with
  | .error exception => failed .empty .empty (Stop.error yaml (.thrown exception))
  | .ok root => fromRoot yaml root

def fieldLine (field : FlatField) : Text :=
  "  ".toList ++ fieldTypeToCType field.type ++ " ".toList ++ field.component ++ "_".toList ++
    field.field ++ ";\n".toList

def guard : Text := "ZENBEDDED_SCHEMA__GENERATED__INTERFACE_DATA_H_".toList

/-- The text of the header; `none` where the schema is invalid. -/
def writeCHeader (schema : InterfaceSchema) : Option Text :=
  if schema.valid = false then none
  else some <|
    "#ifndef ".toList ++ guard ++ "\n".toList ++
    "#define ".toList ++ guard ++ "\n\n".toList ++
    "#include <stdint.h>\n\n".toList ++
    "#define ZENBEDDED_STATE_BYTE_SIZE ".toList ++ Nat.toDigits 10 schema.stateBufferSize ++
      "\n".toList ++
    "#define ZENBEDDED_COMMAND_BYTE_SIZE ".toList ++ Nat.toDigits 10 schema.commandBufferSize ++
      "\n\n".toList ++
    "#pragma pack(push, 1)\n".toList ++
    "typedef struct\n\x7b\n".toList ++
    schema.stateFlatFields.flatMap fieldLine ++
    "\x7d zenbedded_state_t;\n\n".toList ++
    "typedef struct\n\x7b\n".toList ++
    schema.commandFlatFields.flatMap fieldLine ++
    "\x7d zenbedded_command_t;\n".toList ++
    "#pragma pack(pop)\n\n".toList ++
    "#endif  // ".toList ++ guard ++ "\n".toList

end InterfaceSchema

end Zenbedded.Schema
