import Zenbedded.Hardware.Cycle
import Zenbedded.Rcl.Codecs

namespace Zenbedded.Hardware

open Zenbedded.Foundation Zenbedded.Schema
open Zenbedded.Transport (Platform)
open Zenbedded.Rcl (RawValue)

/-! # Host and firmware exchange structs

The bytes of the host, copied by the firmware's `RawCodec` into the structs of
the generated header, and the other way round.
-/

variable {scalars : Scalars} {platform : Platform} {schema : InterfaceSchema}

/-- Member by member, a struct holds commands converted to its types. -/
def HoldsCommands (scalars : Scalars) (fields : List FlatField) (commands : List (Double scalars))
    (object : Bytes) : Prop :=
  ∀ index field command, fields[index]? = some field → commands[index]? = some command →
    ∃ narrowed, scalars.narrow field.type.scalar command = some narrowed ∧
      scalars.memberOf (structOf fields) object index = some ⟨field.type.scalar, narrowed⟩

/-- Member by member, states are the values of a struct widened to `double`. -/
def HoldsStates (scalars : Scalars) (fields : List FlatField) (object : Bytes)
    (states : List (Double scalars)) : Prop :=
  ∀ index field, fields[index]? = some field →
    ∃ member, scalars.memberOf (structOf fields) object index = some member ∧
      member.1 = field.type.scalar ∧ states[index]? = some (scalars.widen member.2)

theorem memberOf_parts {fields : List FlatField} {parts : List Bytes} {index : Nat}
    {field : FlatField} {part : Bytes} (sizes : PartsOf fields parts)
    (here : fields[index]? = some field) (place : parts[index]? = some part) :
    scalars.memberOf (structOf fields) parts.flatten index =
      some ⟨field.type.scalar, scalars.decode field.type.scalar part⟩ := by
  have listed : (fields.map FlatField.member)[index]? = some field.member := by
    rw [List.getElem?_map, here, Option.map_some]
  exact scalars.memberOf_packed sizes.members listed place

theorem holdsCommands_encoded {commands : List (Double scalars)} {encoded : List Bytes}
    (sizes : PartsOf schema.commandFlatFields encoded)
    (defined : encodeCommands scalars schema commands = some encoded) :
    HoldsCommands scalars schema.commandFlatFields commands encoded.flatten := by
  intro index field command here commanded
  obtain ⟨narrowed, converts, place⟩ := encodeCommands_getElem? defined here commanded
  refine ⟨narrowed, converts, ?_⟩
  rw [memberOf_parts sizes here place, scalars.decode_encode]

theorem holdsStates_decoded {object : Bytes} (laid : Laid schema)
    (size : object.length = schema.stateBufferSize) :
    HoldsStates scalars schema.stateFlatFields object (decodeStates scalars schema object) := by
  obtain ⟨parts, rfl, sizes⟩ := exists_partsOf laid.state size
  intro index field here
  obtain ⟨part, place, -⟩ := sizes.part here
  refine ⟨_, memberOf_parts sizes here place, rfl, ?_⟩
  rw [decodeStates, List.getElem?_map, here, Option.map_some,
    fieldValue_parts laid.state sizes here place]

/-- `RawCodec::read` of a buffer of the size of the struct copies it. -/
theorem rawRead_whole {size bufferSize : platform.SizeT} {buffer : Bytes}
    (whole : buffer.length = size.toNat) (given : bufferSize.toNat = buffer.length)
    (out : RawValue size) :
    Rcl.RawCodec.read size () buffer bufferSize out = .ok (true, ⟨buffer, whole⟩) := by
  have enough : ¬ bufferSize < size := by
    rw [BitVec.lt_def, given, whole]
    exact Nat.lt_irrefl _
  have loaded : loadBytes buffer 0 size.toNat = .ok buffer := by
    rw [loadBytes_ok (by omega), List.drop_zero, ← whole, List.take_length]
  rw [Rcl.RawCodec.read, if_neg enough, loadExact_ok loaded]
  rfl

/-- The payload that `RawCodec::write` leaves at the start of a buffer. -/
theorem rawWrite_payload {size : platform.SizeT} {buffer stored : Bytes} {value : RawValue size}
    (written : Rcl.RawCodec.write size () value buffer = .ok stored) :
    stored.take size.toNat = value.val := by
  rw [storeBytes_result written, overwrite, List.take_zero, List.nil_append]
  exact List.take_left' value.property

/-- What a cycle publishes is the command struct, whatever the buffer held. -/
def CommandsArrive (scalars : Scalars) (platform : Platform) (schema : InterfaceSchema)
    (hardware : ZenbeddedHardware scalars) : Prop :=
  ∀ (commands : List (Double scalars)) (left : Bytes),
    commands.length = schema.commandFlatFields.length →
    left.length = schema.commandBufferSize →
    (∀ (index : Nat) (field : FlatField) command, schema.commandFlatFields[index]? = some field →
      commands[index]? = some command → scalars.narrow field.type.scalar command ≠ none) →
    hardware.commandPub.isSome = true →
    ∃ after published,
      ZenbeddedHardware.write { hardware with hwCommands := commands, commandBuffer := left } =
        .ok (after, some published) ∧
      published.length = (structOf schema.commandFlatFields).size ∧
      ∀ (size bufferSize : platform.SizeT) (out : RawValue size),
        size.toNat = (structOf schema.commandFlatFields).size →
        bufferSize.toNat = published.length →
        ∃ value : RawValue size,
          Rcl.RawCodec.read size () published bufferSize out = .ok (true, value) ∧
          HoldsCommands scalars schema.commandFlatFields commands value.val

/-- What `read` makes of a state struct is its members as `double`. -/
def StatesArrive (scalars : Scalars) (platform : Platform) (schema : InterfaceSchema)
    (hardware : ZenbeddedHardware scalars) : Prop :=
  ∀ (size : platform.SizeT) (value : RawValue size) (buffer stored : Bytes),
    size.toNat = (structOf schema.stateFlatFields).size →
    Rcl.RawCodec.write size () value buffer = .ok stored →
    ∃ after, hardware.readFrom (stored.take size.toNat) = .ok after ∧
      HoldsStates scalars schema.stateFlatFields value.val after.hwStates

variable {hardware : ZenbeddedHardware scalars}

theorem commandsArrive (laid : Laid schema) (ready : Ready schema hardware) :
    CommandsArrive scalars platform schema hardware := by
  intro commands left count size defined publisher
  have encodes : encodeCommands scalars schema commands ≠ none := by
    apply mapM_ne_none_iff.mpr
    intro pair inside
    obtain ⟨field, command⟩ := pair
    obtain ⟨index, here⟩ := List.mem_iff_getElem?.mp inside
    obtain ⟨listed, commanded⟩ := List.getElem?_zip_eq_some.mp here
    have converts := defined index field command listed commanded
    simpa only [encodeField, ne_eq, Option.map_eq_none_iff] using converts
  obtain ⟨encoded, encoding⟩ := Option.ne_none_iff_exists'.mp encodes
  obtain ⟨-, parted⟩ := writeAll_ok laid size count encoding
  have commanding : Ready schema { hardware with hwCommands := commands, commandBuffer := left } :=
    ⟨ready.fixed, ready.states, count, size⟩
  have length : encoded.flatten.length = (structOf schema.commandFlatFields).size :=
    (PartsOf.flatten_length laid.command parted).trans laid.command.size.symm
  refine ⟨_, encoded.flatten, (write_spec laid commanding).mpr
    (.inr ⟨publisher, encoded, encoding, rfl, rfl⟩), length, ?_⟩
  intro size bufferSize out whole given
  exact ⟨_, rawRead_whole (length.trans whole.symm) given out,
    holdsCommands_encoded parted encoding⟩

theorem statesArrive (laid : Laid schema) (ready : Ready schema hardware) :
    StatesArrive scalars platform schema hardware := by
  intro size value buffer stored whole written
  rw [rawWrite_payload written]
  have fits : value.val.length = schema.stateBufferSize := by
    rw [value.property, whole]
    exact laid.state.size
  refine ⟨_, readFrom_spec laid ready value.val, ?_⟩
  rw [if_pos fits]
  exact holdsStates_decoded laid fits

/-- Host and firmware exchange the right values after any run of the host. -/
theorem tier2_exchange (scalars : Scalars) (platform : Platform) {yaml : YamlCpp}
    {yamlText header : Text} {root : Node} {baseSucceeds : Bool}
    {hardwareParameters : Text → Option Text} {fromYamlFile : Text → InterfaceSchema}
    {hardware : ZenbeddedHardware scalars} {events : List (Event scalars)}
    {system : System scalars} (loaded : yaml.load yamlText = .ok root)
    (generator : generateHeader root = .ok header)
    (file : ∀ schemaPath, hardwareParameters "schema_path".toList = some schemaPath →
      fromYamlFile schemaPath = InterfaceSchema.fromYaml yaml yamlText)
    (initialised : ZenbeddedHardware.onInit scalars baseSucceeds hardwareParameters fromYamlFile =
      some hardware)
    (states : hardware.schema.stateFlatFields ≠ [])
    (commands : hardware.schema.commandFlatFields ≠ [])
    (stateNames : Compiles hardware.schema.stateFlatFields)
    (commandNames : Compiles hardware.schema.commandFlatFields)
    (run : (System.start hardware).run events = .ok system) :
    Header.read header = some
        (declaredHeader hardware.schema.stateFlatFields hardware.schema.commandFlatFields) ∧
      CommandsArrive scalars platform hardware.schema system.hardware ∧
      StatesArrive scalars platform hardware.schema system.hardware := by
  obtain ⟨schemaPath, path, valid, ready, -⟩ := onInit_ready initialised
  rw [file schemaPath path] at valid ready
  rw [ready.fixed] at states commands stateNames commandNames ⊢
  have laid := laid_of_valid valid
  have later := run_ready laid ready run
  obtain ⟨schema, same, -, -, -, -, -, reads⟩ :=
    producers_agree loaded valid generator states commands
  subst same
  exact ⟨reads stateNames commandNames, commandsArrive laid later, statesArrive laid later⟩

theorem twoFields_compile :
    Compiles twoFieldSchema.stateFlatFields ∧ Compiles twoFieldSchema.commandFlatFields := by
  constructor
  · refine ⟨?_, List.pairwise_pair.mpr (by decide)⟩
    intro field inside
    rcases List.mem_pair.mp inside with rfl | rfl
    · exact (by decide : isIdentifier ("j".toList ++ "_".toList ++ "p".toList) = true)
    · exact (by decide : isIdentifier ("j".toList ++ "_".toList ++ "v".toList) = true)
  · refine ⟨?_, List.pairwise_pair.mpr (by decide)⟩
    intro field inside
    rcases List.mem_pair.mp inside with rfl | rfl
    · exact (by decide : isIdentifier ("j".toList ++ "_".toList ++ "e".toList) = true)
    · exact (by decide : isIdentifier ("j".toList ++ "_".toList ++ "p".toList) = true)

/-- After an activation and a cycle in which only the second command is set. -/
theorem tier2_exchange_twoFields :
    ∃ header system, generateHeader twoFields = .ok header ∧
      (System.start (twoFieldHost littleEndian)).run
        [.activate ⟨true, true, true⟩, .command 1 (CScalar.one .double), .write] = .ok system ∧
      system.published = [[0, 1, 0]] ∧
      Header.read header = some
        (declaredHeader twoFieldSchema.stateFlatFields twoFieldSchema.commandFlatFields) ∧
      CommandsArrive littleEndian .host64 twoFieldSchema system.hardware ∧
      StatesArrive littleEndian .host64 twoFieldSchema system.hardware := by
  have generator := generateHeader_declares_iff.mpr ⟨_, twoFields.generator, rfl⟩
  obtain ⟨system, run, published⟩ : ∃ system, (System.start (twoFieldHost littleEndian)).run
      [.activate ⟨true, true, true⟩, .command 1 (CScalar.one .double), .write] = .ok system ∧
      system.published = [[0, 1, 0]] := ⟨_, rfl, rfl⟩
  refine ⟨_, system, generator, run, published, ?_⟩
  exact tier2_exchange littleEndian .host64 (rfl : twoFieldYaml.load [] = .ok _) generator
    (fun schemaPath _ => by rw [twoFieldSchema_parsed, twoFieldSchema_parsed])
    (twoFieldHost_initialised littleEndian) (List.cons_ne_nil _ _) (List.cons_ne_nil _ _)
    twoFields_compile.1 twoFields_compile.2 run

end Zenbedded.Hardware
