import Zenbedded.Hardware.ZenbeddedHardware

namespace Zenbedded.Hardware

open Zenbedded.Foundation Zenbedded.Schema

/-! # One control cycle

What `read` makes of a payload, what `write` makes of the commands, and the
sizes that no event changes.
-/

variable {scalars : Scalars}

def stateLayout (schema : InterfaceSchema) : Layout :=
  { fields := schema.stateFlatFields, bufferSize := schema.stateBufferSize }

def commandLayout (schema : InterfaceSchema) : Layout :=
  { fields := schema.commandFlatFields, bufferSize := schema.commandBufferSize }

/-- Both sections are laid out as packed structs. -/
structure Laid (schema : InterfaceSchema) : Prop where
  state : (stateLayout schema).Packed
  command : (commandLayout schema).Packed

/-- A schema that the parser accepts is laid out. -/
theorem laid_of_valid {yaml : YamlCpp} {yamlText : Text}
    (valid : (InterfaceSchema.fromYaml yaml yamlText).valid = true) :
    Laid (InterfaceSchema.fromYaml yaml yamlText) := by
  cases loaded : yaml.load yamlText with
  | error exception =>
      rw [InterfaceSchema.fromYaml, loaded] at valid
      contradiction
  | ok root =>
      rw [fromYaml_loaded loaded] at valid ⊢
      obtain ⟨declared, -, parsed⟩ := fromRoot_valid_iff.mp valid
      rw [parsed]
      exact ⟨(section_layout declared.1).1, (section_layout declared.2).1⟩

/-- The state values in a payload. -/
def decodeStates (scalars : Scalars) (schema : InterfaceSchema) (payload : Bytes) :
    List (Double scalars) :=
  schema.stateFlatFields.map (fieldValue scalars payload)

theorem readAll_ok {schema : InterfaceSchema} {payload : Bytes} {states : List (Double scalars)}
    (laid : Laid schema) (size : payload.length = schema.stateBufferSize)
    (count : states.length = schema.stateFlatFields.length) :
    ZenbeddedHardware.readAll schema payload states = .ok (decodeStates scalars schema payload) := by
  -- After `index` iterations the first `index` values are those of the payload.
  let Filled (index : Nat) (current : List (Double scalars)) : Prop :=
    current.length = schema.stateFlatFields.length ∧
      ∀ earlier, earlier < index →
        current[earlier]? = (decodeStates scalars schema payload)[earlier]?
  have iterate : ∀ index current, index < schema.stateFlatFields.length → Filled index current →
      ∃ next, ZenbeddedHardware.readOne schema payload current index = .ok next ∧
        Filled (index + 1) next := by
    rintro index current inside ⟨length, values⟩
    have here := List.getElem?_eq_getElem inside
    have room := Packed.room laid.state size here
    refine ⟨current.set index (fieldValue scalars payload schema.stateFlatFields[index]), ?_, ?_, ?_⟩
    · simp only [ZenbeddedHardware.readOne, readStateField, readField_ok here room, bind,
        Except.bind, length, if_pos inside]
    · rw [List.length_set, length]
    · intro earlier before
      rcases Nat.lt_or_eq_of_le (Nat.le_of_lt_succ before) with passed | rfl
      · rw [List.getElem?_set_ne (Nat.ne_of_gt passed)]
        exact values earlier passed
      · rw [List.getElem?_set_self (by rw [length]; exact inside), decodeStates,
          List.getElem?_map, here]
        rfl
  obtain ⟨after, loop, length, values⟩ := foldlM_range_ok _ Filled _ iterate
    ⟨count, fun _ none => absurd none (Nat.not_lt_zero _)⟩
  have same : after = decodeStates scalars schema payload := by
    apply List.ext_getElem?
    intro index
    rcases Nat.lt_or_ge index schema.stateFlatFields.length with inside | outside
    · exact values index inside
    · rw [List.getElem?_eq_none (by rw [length]; exact outside),
        List.getElem?_eq_none (by rw [decodeStates, List.length_map]; exact outside)]
  rw [← same]
  exact loop

def encodeField (scalars : Scalars) : FlatField × Double scalars → Option Bytes
  | (field, value) => (scalars.narrow field.type.scalar value).map scalars.encode

/-- The bytes of each command in the type of its field; `none` where a conversion
is undefined. -/
def encodeCommands (scalars : Scalars) (schema : InterfaceSchema)
    (commands : List (Double scalars)) : Option (List Bytes) :=
  (schema.commandFlatFields.zip commands).mapM (encodeField scalars)

theorem encodeCommands_length {schema : InterfaceSchema} {commands : List (Double scalars)}
    {encoded : List Bytes} (count : commands.length = schema.commandFlatFields.length)
    (defined : encodeCommands scalars schema commands = some encoded) :
    encoded.length = schema.commandFlatFields.length := by
  rw [mapM_some_length defined, List.length_zip, count, Nat.min_self]

theorem encodeCommands_getElem? {schema : InterfaceSchema} {commands : List (Double scalars)}
    {encoded : List Bytes} (defined : encodeCommands scalars schema commands = some encoded)
    {index : Nat} {field : FlatField} {value : Double scalars}
    (here : schema.commandFlatFields[index]? = some field)
    (commanded : commands[index]? = some value) :
    ∃ narrowed, scalars.narrow field.type.scalar value = some narrowed ∧
      encoded[index]? = some (scalars.encode narrowed) := by
  have both : (schema.commandFlatFields.zip commands)[index]? = some (field, value) :=
    List.getElem?_zip_eq_some.mpr ⟨here, commanded⟩
  obtain ⟨bytes, encodes, place⟩ := mapM_some_getElem? defined both
  obtain ⟨narrowed, converts, rfl⟩ := Option.map_eq_some_iff.mp encodes
  exact ⟨narrowed, converts, place⟩

theorem writeAll_ok {schema : InterfaceSchema} {commands : List (Double scalars)} {buffer : Bytes}
    {encoded : List Bytes} (laid : Laid schema)
    (size : buffer.length = schema.commandBufferSize)
    (count : commands.length = schema.commandFlatFields.length)
    (defined : encodeCommands scalars schema commands = some encoded) :
    ZenbeddedHardware.writeAll schema commands buffer = .ok encoded.flatten ∧
      PartsOf schema.commandFlatFields encoded := by
  -- After `index` iterations the first `index` parts are those of the commands.
  let Patched (index : Nat) (current : Bytes) : Prop :=
    ∃ parts : List Bytes, parts.flatten = current ∧ PartsOf schema.commandFlatFields parts ∧
      ∀ earlier, earlier < index → parts[earlier]? = encoded[earlier]?
  have iterate : ∀ index current, index < schema.commandFlatFields.length →
      Patched index current →
      ∃ next, ZenbeddedHardware.writeOne schema commands current index = .ok next ∧
        Patched (index + 1) next := by
    rintro index current inside ⟨parts, rfl, sizes, written⟩
    have here := List.getElem?_eq_getElem inside
    have commanded := List.getElem?_eq_getElem (count ▸ inside : index < commands.length)
    obtain ⟨narrowed, converts, place⟩ := encodeCommands_getElem? defined here commanded
    obtain ⟨stored, resized⟩ := writeCommandField_parts laid.command rfl sizes here converts
    refine ⟨_, ?_, _, rfl, resized, ?_⟩
    · rw [ZenbeddedHardware.writeOne, commanded]
      exact stored
    · intro earlier before
      rcases Nat.lt_or_eq_of_le (Nat.le_of_lt_succ before) with passed | rfl
      · rw [List.getElem?_set_ne (Nat.ne_of_gt passed)]
        exact written earlier passed
      · rw [List.getElem?_set_self (by rw [sizes.length]; exact inside), place]
  obtain ⟨parts, whole, sizes⟩ := exists_partsOf laid.command size
  obtain ⟨after, loop, current, flat, parted, written⟩ := foldlM_range_ok _ Patched _ iterate
    ⟨parts, whole, sizes, fun _ none => absurd none (Nat.not_lt_zero _)⟩
  have same : current = encoded := by
    apply List.ext_getElem?
    intro index
    rcases Nat.lt_or_ge index schema.commandFlatFields.length with inside | outside
    · exact written index inside
    · rw [List.getElem?_eq_none (by rw [parted.length]; exact outside),
        List.getElem?_eq_none (by rw [encodeCommands_length count defined]; exact outside)]
  subst same flat
  exact ⟨loop, parted⟩

/-- Where a conversion is undefined, no cycle writes a command at all. -/
theorem encodeCommands_of_writeAll {schema : InterfaceSchema} {commands : List (Double scalars)}
    {buffer after : Bytes}
    (written : ZenbeddedHardware.writeAll schema commands buffer = .ok after) :
    ∃ encoded, encodeCommands scalars schema commands = some encoded := by
  apply Option.ne_none_iff_exists'.mp
  apply mapM_ne_none_iff.mpr
  intro pair inside
  obtain ⟨field, value⟩ := pair
  obtain ⟨index, here⟩ := List.mem_iff_getElem?.mp inside
  obtain ⟨listed, commanded⟩ := List.getElem?_zip_eq_some.mp here
  obtain ⟨before, next, step⟩ := foldlM_range_each written index
    (List.getElem?_eq_some_iff.mp listed).1
  rw [ZenbeddedHardware.writeOne, commanded] at step
  simp only [writeCommandField_eq listed, castScalar] at step
  cases converts : scalars.narrow field.type.scalar value with
  | none =>
      rw [converts] at step
      contradiction
  | some narrowed => simp [encodeField, converts]

/-- What on_init sizes, and nothing resizes. -/
structure Ready (schema : InterfaceSchema) (hardware : ZenbeddedHardware scalars) : Prop where
  fixed : hardware.schema = schema
  states : hardware.hwStates.length = schema.stateFlatFields.length
  commands : hardware.hwCommands.length = schema.commandFlatFields.length
  commandBuffer : hardware.commandBuffer.length = schema.commandBufferSize

theorem onInit_ready {baseSucceeds : Bool} {hardwareParameters : Text → Option Text}
    {fromYamlFile : Text → InterfaceSchema} {hardware : ZenbeddedHardware scalars}
    (initialised : ZenbeddedHardware.onInit scalars baseSucceeds hardwareParameters fromYamlFile =
      some hardware) :
    ∃ schemaPath, hardwareParameters "schema_path".toList = some schemaPath ∧
      (fromYamlFile schemaPath).valid = true ∧ Ready (fromYamlFile schemaPath) hardware ∧
      hardware.hwStates = List.replicate (fromYamlFile schemaPath).stateFlatFields.length
        scalars.quietNan ∧
      hardware.hwCommands = List.replicate (fromYamlFile schemaPath).commandFlatFields.length
        scalars.quietNan ∧
      hardware.stateBuffer = RealtimeBuffer.initial.writeFromNonRT
        (List.replicate (fromYamlFile schemaPath).stateBufferSize 0) ∧
      hardware.session = none ∧ hardware.stateSub = none ∧ hardware.commandPub = none := by
  delta ZenbeddedHardware.onInit at initialised
  cases baseSucceeds with
  | false => contradiction
  | true =>
      simp only [Bool.true_eq_false, ↓reduceIte, Option.bind_eq_bind] at initialised
      obtain ⟨zenohEndpoint, -, initialised⟩ := Option.bind_eq_some_iff.mp initialised
      obtain ⟨stateTopic, -, initialised⟩ := Option.bind_eq_some_iff.mp initialised
      obtain ⟨commandTopic, -, initialised⟩ := Option.bind_eq_some_iff.mp initialised
      obtain ⟨schemaPath, path, initialised⟩ := Option.bind_eq_some_iff.mp initialised
      refine ⟨schemaPath, path, ?_⟩
      cases valid : (fromYamlFile schemaPath).valid with
      | false =>
          rw [valid] at initialised
          contradiction
      | true =>
          rw [valid] at initialised
          cases initialised
          refine ⟨rfl, ⟨rfl, ?_, ?_, ?_⟩, rfl, rfl, rfl, rfl, rfl, rfl⟩
          · exact List.length_replicate
          · exact List.length_replicate
          · exact List.length_replicate

section

variable {schema : InterfaceSchema} {hardware : ZenbeddedHardware scalars}

/-- A payload of the right size sets every state, any other sets none. -/
theorem readFrom_spec (laid : Laid schema) (ready : Ready schema hardware) (payload : Bytes) :
    hardware.readFrom payload = .ok (if payload.length = schema.stateBufferSize then
      { hardware with hwStates := decodeStates scalars schema payload } else hardware) := by
  delta ZenbeddedHardware.readFrom
  rw [ready.fixed]
  by_cases size : payload.length = schema.stateBufferSize
  · rw [if_pos size, if_pos size, readAll_ok laid size ready.states]
    rfl
  · rw [if_neg size, if_neg size]

/-- A cycle publishes the encoded commands, whatever the buffer held, or has no publisher. -/
theorem write_spec (laid : Laid schema) (ready : Ready schema hardware)
    {after : ZenbeddedHardware scalars} {bytes : Option Bytes} :
    hardware.write = .ok (after, bytes) ↔
      (hardware.commandPub = none ∧ after = hardware ∧ bytes = none) ∨
      (hardware.commandPub.isSome = true ∧
        ∃ encoded, encodeCommands scalars schema hardware.hwCommands = some encoded ∧
          after = { hardware with commandBuffer := encoded.flatten } ∧
          bytes = some encoded.flatten) := by
  delta ZenbeddedHardware.write
  rw [ready.fixed]
  cases publisher : hardware.commandPub with
  | none =>
      simp only [Option.isNone_none, ↓reduceIte, Except.ok.injEq, Prod.mk.injEq, true_and,
        Option.isSome_none, Bool.false_eq_true, false_and, or_false]
      exact and_congr eq_comm eq_comm
  | some endpoint =>
      simp only [Option.isNone_some, Bool.false_eq_true, ↓reduceIte, reduceCtorEq, false_and,
        Option.isSome_some, true_and, false_or, bind_ok_iff]
      constructor
      · intro written
        obtain ⟨buffer, loop, same⟩ := written
        obtain ⟨encoded, defined⟩ := encodeCommands_of_writeAll loop
        rw [(writeAll_ok laid ready.commandBuffer ready.commands defined).1] at loop
        cases loop
        cases same
        exact ⟨encoded, defined, rfl, rfl⟩
      · intro result
        obtain ⟨encoded, defined, rfl, rfl⟩ := result
        exact ⟨_, (writeAll_ok laid ready.commandBuffer ready.commands defined).1, rfl⟩

/-- The hardware after `read`. -/
def afterRead (schema : InterfaceSchema) (hardware : ZenbeddedHardware scalars) (choice : Nat) :
    ZenbeddedHardware scalars :=
  { hardware with
    stateBuffer := hardware.stateBuffer.readFromRT choice
    hwStates :=
      if (hardware.stateBuffer.readFromRT choice).held.length = schema.stateBufferSize then
        decodeStates scalars schema (hardware.stateBuffer.readFromRT choice).held
      else hardware.hwStates }

theorem Ready.stateBuffer (ready : Ready schema hardware) (stateBuffer : RealtimeBuffer) :
    Ready schema { hardware with stateBuffer } :=
  ⟨ready.fixed, ready.states, ready.commands, ready.commandBuffer⟩

/-- `read` never leaves the payload it looks at. -/
theorem read_spec (laid : Laid schema) (ready : Ready schema hardware) (choice : Nat) :
    hardware.read choice = .ok (afterRead schema hardware choice) := by
  delta ZenbeddedHardware.read
  rw [readFrom_spec laid (ready.stateBuffer _), afterRead]
  split
  · rfl
  · rfl

end

section

variable {schema : InterfaceSchema} {system after : System scalars}

theorem Ready.activated {hardware : ZenbeddedHardware scalars} (ready : Ready schema hardware)
    (id : Nat) (creation : Creation) : Ready schema (hardware.onActivate id creation).1 := by
  obtain ⟨fixed, states, commands, commandBuffer⟩ := ready
  delta ZenbeddedHardware.onActivate
  dsimp only
  split
  · exact ⟨fixed, states, commands, commandBuffer⟩
  · split
    · exact ⟨fixed, states, commands, commandBuffer⟩
    · split
      · exact ⟨fixed, states, commands, commandBuffer⟩
      · exact ⟨fixed, by rw [List.length_map, states], by rw [List.length_map, commands],
          commandBuffer⟩

theorem step_ready (laid : Laid schema) (event : Event scalars)
    (ready : Ready schema system.hardware) (stepped : system.step event = .ok after) :
    Ready schema after.hardware := by
  cases event with
  | payload bytes =>
      simp only [System.step] at stepped
      split at stepped
      · cases stepped
        simp only [ZenbeddedHardware.onSample]
        split
        · exact ready
        · exact ready.stateBuffer _
      · cases stepped
        exact ready
  | command index value =>
      cases stepped
      exact ⟨ready.fixed, ready.states, by rw [List.length_set, ready.commands],
        ready.commandBuffer⟩
  | read choice =>
      rw [System.step, read_spec laid ready] at stepped
      cases stepped
      refine ⟨ready.fixed, ?_, ready.commands, ready.commandBuffer⟩
      simp only [afterRead]
      split
      · exact List.length_map _
      · exact ready.states
  | write =>
      obtain ⟨result, written, same⟩ := bind_ok_iff.mp stepped
      cases same
      rcases (write_spec laid ready).mp written with ⟨-, unchanged, -⟩ | ⟨-, encoded, defined, rewritten, -⟩
      · rw [unchanged]
        exact ready
      · rw [rewritten]
        refine ⟨ready.fixed, ready.states, ready.commands, ?_⟩
        exact PartsOf.flatten_length laid.command
          (writeAll_ok laid ready.commandBuffer ready.commands defined).2
  | activate creation =>
      cases stepped
      exact ready.activated _ _
  | deactivate =>
      cases stepped
      exact ⟨ready.fixed, ready.states, ready.commands, ready.commandBuffer⟩

/-- The sizes hold in every state of a run. -/
theorem run_ready (laid : Laid schema) {events : List (Event scalars)}
    (ready : Ready schema system.hardware) (run : system.run events = .ok after) :
    Ready schema after.hardware :=
  foldlM_invariant (fun system : System scalars => Ready schema system.hardware)
    (fun _ event _ ready stepped => step_ready laid event ready stepped) ready run

theorem run_concat {events : List (Event scalars)} {event : Event scalars} :
    system.run (events ++ [event]) = .ok after ↔
      ∃ middle, system.run events = .ok middle ∧ middle.step event = .ok after := by
  rw [System.run, List.foldlM_append, bind_ok_iff]
  constructor
  · rintro ⟨middle, run, last⟩
    rw [List.foldlM_cons, bind_ok_iff] at last
    obtain ⟨_, stepped, same⟩ := last
    cases same
    exact ⟨middle, run, stepped⟩
  · rintro ⟨middle, run, stepped⟩
    refine ⟨middle, run, ?_⟩
    rw [List.foldlM_cons, stepped]
    rfl

end

/-- A document with one field in each section. -/
def oneField : Node :=
  .mapping
    [(InterfaceSchema.stateKey,
        .mapping [("j".toList, .mapping [("p".toList, .scalar "float32".toList)])]),
      (InterfaceSchema.commandKey,
        .mapping [("j".toList, .mapping [("p".toList, .scalar "int16".toList)])])]

def oneFieldSchema : InterfaceSchema :=
  .parsed (layoutOf [[{ component := "j".toList, field := "p".toList, type := .float32 }]])
    (layoutOf [[{ component := "j".toList, field := "p".toList, type := .int16 }]])

def oneFieldYaml : YamlCpp := .knowing oneField

theorem oneFieldSchema_parsed (yamlText : Text) :
    InterfaceSchema.fromYaml oneFieldYaml yamlText = oneFieldSchema := by
  have reads : hostDeclarations oneField =
      some ([[{ component := "j".toList, field := "p".toList, type := .float32 }]],
        [[{ component := "j".toList, field := "p".toList, type := .int16 }]]) := rfl
  exact fromYaml_knowing reads yamlText

def oneFieldHost : ZenbeddedHardware littleEndian :=
  { zenohEndpoint := []
    stateTopic := []
    commandTopic := []
    zenohMode := []
    schema := oneFieldSchema
    hwStates := [littleEndian.quietNan]
    hwCommands := [littleEndian.quietNan]
    stateBuffer := RealtimeBuffer.initial.writeFromNonRT [0, 0, 0, 0]
    commandBuffer := [0, 0]
    session := none
    stateSub := none
    commandPub := none }

theorem oneFieldHost_initialised :
    ZenbeddedHardware.onInit littleEndian true (fun _ => some [])
      (InterfaceSchema.fromYaml oneFieldYaml) = some oneFieldHost := by
  delta ZenbeddedHardware.onInit
  simp only [oneFieldSchema_parsed]
  rfl

def twoFieldSchema : InterfaceSchema :=
  .parsed (layoutOf twoFields.declarations.1) (layoutOf twoFields.declarations.2)

def twoFieldYaml : YamlCpp := .knowing twoFields

theorem twoFieldSchema_parsed (yamlText : Text) :
    InterfaceSchema.fromYaml twoFieldYaml yamlText = twoFieldSchema :=
  fromYaml_knowing twoFields.host yamlText

theorem twoFieldSchema_file (schemaPath : Text) : (some [] : Option Text) = some schemaPath →
    InterfaceSchema.fromYaml twoFieldYaml schemaPath =
      InterfaceSchema.fromYaml twoFieldYaml [] := by
  intro _
  rw [twoFieldSchema_parsed, twoFieldSchema_parsed]

def twoFieldHost (scalars : Scalars) : ZenbeddedHardware scalars :=
  { zenohEndpoint := []
    stateTopic := []
    commandTopic := []
    zenohMode := []
    schema := twoFieldSchema
    hwStates := [scalars.quietNan, scalars.quietNan]
    hwCommands := [scalars.quietNan, scalars.quietNan]
    stateBuffer := RealtimeBuffer.initial.writeFromNonRT (List.replicate 10 0)
    commandBuffer := List.replicate 3 0
    session := none
    stateSub := none
    commandPub := none }

theorem twoFieldHost_initialised (scalars : Scalars) :
    ZenbeddedHardware.onInit scalars true (fun _ => some [])
      (InterfaceSchema.fromYaml twoFieldYaml) = some (twoFieldHost scalars) := by
  delta ZenbeddedHardware.onInit
  simp only [twoFieldSchema_parsed]
  rfl

end Zenbedded.Hardware
