import Zenbedded.Tier2.FirmwareLoop
import Zenbedded.Foundation.DoubleOrder

namespace Zenbedded.Demos

open Zenbedded.Foundation Zenbedded.Schema Zenbedded.Tier2
open Zenbedded.Transport (Platform ZenbeddedSub ZenohTransport Double)
open Zenbedded.Hardware (ZenbeddedHardware RealtimeBuffer Laid PartsOf HoldsCommands)
open Zenbedded.Rcl (RawValue ZenbeddedClient)

/-! # The ping-pong of the end-to-end test

The firmware moves on by a step in every cycle and reports half the last effort as
its velocity, so that a host can tell from a velocity that its command arrived.
-/

variable {platform : Platform} {width : Nat} {Callback : Type}

/-- 0.01 -/
def positionStep : Double := 0x3F847AE147AE147B

/-- 0.5 -/
def velocityFactor : Double := 0x3FE0000000000000

/-- `current_state`, and the only member of `latest_cmd`. -/
structure TestMotor where
  position : Double
  velocity : Double
  effort : Double
deriving Repr, DecidableEq

theorem size_toNat {size : Nat} (small : size < 2 ^ 32) :
    (BitVec.ofNat platform.sizeBits size).toNat = size := by
  have wide : 2 ^ 32 ≤ 2 ^ platform.sizeBits := Nat.pow_le_pow_right two_pos platform.wide
  rw [BitVec.toNat_ofNat, Nat.mod_eq_of_lt (small.trans_le wide)]

/-- Two `double` members. -/
def zenbeddedStateSize : platform.SizeT := BitVec.ofNat _ 16

/-- One `double` member. -/
def zenbeddedCommandSize : platform.SizeT := BitVec.ofNat _ 8

theorem stateBytes_length (position velocity : Double) :
    (arrayBytes [position, velocity]).length = (zenbeddedStateSize : platform.SizeT).toNat := by
  rw [arrayBytes_length, zenbeddedStateSize, size_toNat (by decide)]
  rfl

namespace TestMotor

/-- The body of the loop between `read_command` and `write_state`. -/
def cycle (motor : TestMotor) (received : Option (RawValue (zenbeddedCommandSize : platform.SizeT))) :
    TestMotor :=
  let effort := match received with
    | some cmd => ofWordBytes 64 cmd.val
    | none => motor.effort
  { position := plus motor.position positionStep
    velocity := multiply effort velocityFactor
    effort }

end TestMotor

/-- `cmd` is not initialised before a call of `read_command`. -/
def testMotor (cmd : RawValue (zenbeddedCommandSize : platform.SizeT)) :
    Firmware (zenbeddedStateSize : platform.SizeT) zenbeddedCommandSize where
  Memory := TestMotor
  start := { position := 0, velocity := 0, effort := 0 }
  cycle := TestMotor.cycle
  state motor := ⟨arrayBytes [motor.position, motor.velocity], stateBytes_length _ _⟩
  cmd

/-- The position after so many cycles. -/
def travelled : Nat → Double
  | 0 => 0
  | cycles + 1 => plus (travelled cycles) positionStep

/-- The states of cycles with these efforts, the newest first. -/
def echoed : List Double → List (List Double)
  | [] => []
  | effort :: older =>
      [travelled (older.length + 1), multiply effort velocityFactor] :: echoed older

/-- `read_command` makes a command with this effort of a payload. -/
def Receives (cmd : RawValue (zenbeddedCommandSize : platform.SizeT)) (payload : Bytes)
    (effort : Double) : Prop :=
  ∃ value, (testMotor cmd).receive payload = some (some value) ∧ ofWordBytes 64 value.val = effort

theorem testMotor_echoes {cmd : RawValue (zenbeddedCommandSize : platform.SizeT)}
    {payloads : List Bytes} {efforts : List Double}
    (received : List.Forall₂ (Receives cmd) payloads efforts) :
    ((testMotor cmd).after payloads).position = travelled efforts.length ∧
      (testMotor cmd).written payloads = (echoed efforts).map arrayBytes := by
  induction received with
  | nil => exact ⟨rfl, rfl⟩
  | @cons payload effort payloads efforts receives _ inductionHypothesis =>
      obtain ⟨position, written⟩ := inductionHypothesis
      obtain ⟨value, accepted, decoded⟩ := receives
      have here : (testMotor cmd).after (payload :: payloads) =
          { position := travelled (efforts.length + 1)
            velocity := multiply effort velocityFactor
            effort } := by
        rw [Firmware.after, accepted, travelled, ← position, ← decoded]
        rfl
      refine ⟨congrArg TestMotor.position here, ?_⟩
      rw [Firmware.written, here, written]
      rfl

/-- A section of `float64` fields. -/
def Doubles (fields : List FlatField) (count : Nat) : Prop :=
  fields.map FlatField.type = List.replicate count .float64

theorem Doubles.length {fields : List FlatField} {count : Nat} (doubles : Doubles fields count) :
    fields.length = count := by
  simpa using congrArg List.length doubles

theorem Doubles.isDouble {fields : List FlatField} {count : Nat} (doubles : Doubles fields count)
    {field : FlatField} (listed : field ∈ fields) : field.type = .float64 := by
  have typed : field.type ∈ List.replicate count FieldType.float64 :=
    doubles ▸ List.mem_map_of_mem listed
  exact (List.mem_replicate.mp typed).2

theorem Doubles.partsOf {fields : List FlatField} {words : List Double}
    (doubles : Doubles fields words.length) : PartsOf fields (words.map wordBytes) := by
  have widths : (words.map wordBytes).map List.length = List.replicate words.length 8 := by
    rw [List.map_map]
    exact List.map_eq_replicate_iff.mpr fun word _ => wordBytes_length word
  have sizes : fields.map (fun field => field.type.scalar.size) =
      List.replicate words.length 8 := by
    rw [← doubles.length]
    apply List.map_eq_replicate_iff.mpr
    intro field listed
    rw [doubles.isDouble listed]
    rfl
  rw [PartsOf, widths, sizes]

theorem decode_double {type : FieldType} (isDouble : type = .float64) (word : Double) :
    ieee754.widen (ieee754.decode type.scalar (wordBytes word)) = word := by
  subst isDouble
  exact ofWordBytes_wordBytes rfl word

/-- Doubles are read as they are. -/
theorem decodeStates_doubles {schema : InterfaceSchema} (laid : Laid schema) {states : List Double}
    (doubles : Doubles schema.stateFlatFields states.length) :
    Hardware.decodeStates ieee754 schema (arrayBytes states) = states := by
  refine List.ext_getElem (α := Double) ?_ fun index inside within => ?_
  · exact (List.length_map _).trans doubles.length
  · have listed : index < schema.stateFlatFields.length := within.trans_eq doubles.length.symm
    have here := List.getElem?_eq_getElem listed
    have place : (states.map wordBytes)[index]? = some (wordBytes states[index]) := by
      rw [List.getElem?_map, List.getElem?_eq_getElem within]
      rfl
    have value : Hardware.fieldValue ieee754 (arrayBytes states) schema.stateFlatFields[index] = _ :=
      Hardware.fieldValue_parts laid.state doubles.partsOf here place
    have isDouble := doubles.isDouble (List.getElem_mem listed)
    exact (List.getElem_map _).trans (value.trans (decode_double isDouble _))

/-- The effort of a command is its only double. -/
theorem holdsCommands_double {fields : List FlatField} (doubles : Doubles fields 1)
    {effort : Double} {object : Bytes} (holds : HoldsCommands ieee754 fields [effort] object)
    (size : object.length = 8) : ofWordBytes 64 object = effort := by
  obtain ⟨field, rfl⟩ := List.length_eq_one_iff.mp doubles.length
  obtain ⟨component, name, type, byteOffset⟩ := field
  have isDouble : type = .float64 := doubles.isDouble List.mem_cons_self
  subst isDouble
  obtain ⟨narrowed, converts, member⟩ := holds 0 _ effort rfl rfl
  have sizes : PartsOf [⟨component, name, .float64, byteOffset⟩] [object] := by
    rw [PartsOf, List.map_singleton, size]
    rfl
  have only := @Hardware.memberOf_parts ieee754 _ _ 0 _ object sizes rfl rfl
  rw [List.flatten_singleton, member] at only
  cases converts
  cases only
  rfl

/-- The effort of a command vector, and zero where there is none yet. -/
def effortOf : Option (List Double) → Double
  | some (effort :: _) => effort
  | _ => 0

theorem readAs_receives {schema : InterfaceSchema} (doubles : Doubles schema.commandFlatFields 1)
    (cmd : RawValue (zenbeddedCommandSize : platform.SizeT)) {payload : Bytes}
    {origin : Option (List Double)} (single : ∀ vector, origin = some vector → vector.length = 1)
    (reads : ReadAs ieee754 schema (zenbeddedCommandSize : platform.SizeT) payload origin) :
    Receives cmd payload (effortOf origin) := by
  obtain ⟨value, read, meaning⟩ := reads cmd
  have accepted : (testMotor cmd).receive payload = some (some value) := by
    have yields : Rcl.RawCodec.read zenbeddedCommandSize () payload zenbeddedCommandSize
        (testMotor cmd).cmd = .ok (true, value) := read
    rw [Firmware.receive, yields]
    rfl
  have size : (zenbeddedCommandSize : platform.SizeT).toNat = 8 := size_toNat (by decide)
  refine ⟨value, accepted, ?_⟩
  cases origin with
  | none =>
      have zeros : value.val = List.replicate 8 0 := size ▸ meaning
      rw [zeros]
      rfl
  | some vector =>
      obtain ⟨effort, rfl⟩ := List.length_eq_one_iff.mp (single vector rfl)
      exact holdsCommands_double doubles meaning (value.property.trans size)

theorem received_efforts {schema : InterfaceSchema} (doubles : Doubles schema.commandFlatFields 1)
    (cmd : RawValue (zenbeddedCommandSize : platform.SizeT)) {payloads : List Bytes}
    {origins : List (Option (List Double))}
    (reads : List.Forall₂ (ReadAs ieee754 schema (zenbeddedCommandSize : platform.SizeT)) payloads
      origins) (single : ∀ vector, some vector ∈ origins → vector.length = 1) :
    List.Forall₂ (Receives cmd) payloads (origins.map effortOf) := by
  induction reads with
  | nil => exact .nil
  | cons here _ inductionHypothesis =>
      refine .cons (readAs_receives doubles cmd ?_ here) (inductionHypothesis ?_)
      · rintro vector rfl
        exact single vector List.mem_cons_self
      · intro vector member
        exact single vector (List.mem_cons_of_mem _ member)

theorem echoed_states {efforts states : List Double} (member : states ∈ echoed efforts) :
    ∃ position, ∃ effort ∈ efforts, states = [position, multiply effort velocityFactor] := by
  induction efforts with
  | nil => cases member
  | cons effort older inductionHypothesis =>
      rcases List.mem_cons.mp member with rfl | older
      · exact ⟨_, effort, List.mem_cons_self, rfl⟩
      · obtain ⟨position, earlier, listed, same⟩ := inductionHypothesis older
        exact ⟨position, earlier, List.mem_cons_of_mem _ listed, same⟩

/-- The host decodes what the cycles wrote. -/
theorem decoded_echoes {schema : InterfaceSchema} (laid : Laid schema)
    (doubles : Doubles schema.stateFlatFields 2) {efforts : List Double} {structs : List Bytes}
    (written : Samples structs ((echoed efforts).map arrayBytes ++ [List.replicate 16 0])) :
    Samples (structs.map (Hardware.decodeStates ieee754 schema)) (echoed efforts ++ [[0, 0]]) := by
  have pair (position velocity : Double) : Hardware.decodeStates ieee754 schema
      (arrayBytes [position, velocity]) = [position, velocity] := decodeStates_doubles laid doubles
  have zeros : List.replicate 16 0 = arrayBytes [(0 : Double), 0] := rfl
  have same : (echoed efforts).map (Hardware.decodeStates ieee754 schema ∘ arrayBytes) =
      (echoed efforts).map id := by
    apply List.map_congr_left
    intro states member
    obtain ⟨position, effort, _, rfl⟩ := echoed_states member
    exact pair position _
  have decoded := written.map (Hardware.decodeStates ieee754 schema)
  rw [List.map_append, List.map_map, List.map_singleton, zeros, pair, same, List.map_id] at decoded
  exact decoded

/-- Every vector that the host commands has one effort. -/
theorem sampled_efforts {vectors : List (List Double)} {origins : List (Option (List Double))}
    (order : Samples origins (vectors.map some ++ [none]))
    (single : ∀ vector ∈ vectors, vector.length = 1) :
    ∃ commands, vectors = commands.map ([·]) ∧ Samples (origins.map effortOf) (commands ++ [0]) := by
  refine ⟨vectors.map fun vector => effortOf (some vector), ?_, ?_⟩
  · rw [List.map_map]
    conv_lhs => rw [← List.map_id vectors]
    apply List.map_congr_left
    intro vector member
    obtain ⟨effort, rfl⟩ := List.length_eq_one_iff.mp (single vector member)
    rfl
  · have seen := order.map effortOf
    rw [List.map_append, List.map_map] at seen
    exact seen

/-- What the host reads follows what it has commanded, through a cycle of the firmware for each
state, and a velocity other than zero is half an effort that it has commanded.  In both buffers each
attempt sees fewer than 2^w commits. -/
theorem pingPong {config : Rcl.Config} {yaml : YamlCpp} {files : Text → Text}
    {baseSucceeds : Bool} {hardwareParameters : Text → Option Text}
    {hardware : ZenbeddedHardware ieee754}
    (initialised : ZenbeddedHardware.onInit ieee754 baseSucceeds hardwareParameters
      (fun path => InterfaceSchema.fromYaml yaml (files path)) = some hardware)
    (states : Doubles hardware.schema.stateFlatFields 2)
    (command : Doubles hardware.schema.commandFlatFields 1)
    {client : ZenbeddedClient platform width Unit Unit}
    (deployed : Deployed config hardware.schema zenbeddedStateSize zenbeddedCommandSize client)
    {sub : ZenbeddedSub Callback} {cmd : RawValue (zenbeddedCommandSize : platform.SizeT)}
    {trace : List (Event ieee754)} {loop : Loop ieee754 (testMotor cmd) width}
    (reaches : Reaches (Loop.Step sub) (Loop.start (testMotor cmd) hardware client) trace loop)
    (briskCommands : Rcl.Brisk width (commandTrace trace))
    (briskStates : Rcl.Brisk width (stateTrace trace)) :
    ∃ commands efforts : List Double, commanded trace = commands.map ([·]) ∧
      efforts.length = (copied trace).length ∧ Samples efforts (commands ++ [0]) ∧
      Samples (statesRead hardware.schema trace) (echoed efforts ++ [[0, 0]]) ∧
      ∀ read ∈ statesRead hardware.schema trace, ∃ velocity : Double, read[1]? = some velocity ∧
        (velocity = 0 ∨ ∃ effort ∈ commands, velocity = multiply effort velocityFactor) := by
  obtain ⟨laid, ready⟩ := onInit_laid initialised
  have linked := loop_reaches reaches
  obtain ⟨origins, order, each⟩ := returned_origins laid ready deployed linked briskCommands
  obtain ⟨structs, written, sizes, read⟩ := statesRead_structs laid ready
    (onInit_stateBuffer initialised) deployed linked briskStates
  have single := commanded_length laid ready linked
  rw [command.length] at single
  have received : List.Forall₂ (Receives cmd) (copied trace) (origins.map effortOf) := by
    apply received_efforts command cmd each
    intro vector member
    rcases List.mem_append.mp (order.mem member) with listed | absent
    · obtain ⟨_, published, same⟩ := List.mem_map.mp listed
      cases same
      exact single vector published
    · cases List.mem_singleton.mp absent
  obtain ⟨commands, vectors, efforts⟩ := sampled_efforts order single
  have whole := written.trans
    (.of_sublist ((committed_written reaches).append (List.Sublist.refl _)))
  rw [(testMotor_echoes received).2, zenbeddedStateSize, size_toNat (by decide)] at whole
  have seen := decoded_echoes laid states whole
  rw [← read] at seen
  have count : (copied trace).length = origins.length := each.length_eq
  refine ⟨commands, origins.map effortOf, vectors, ?_, efforts, seen, ?_⟩
  · exact (List.length_map _).trans count.symm
  · intro states member
    rcases List.mem_append.mp (seen.mem member) with echo | first
    · obtain ⟨position, effort, listed, rfl⟩ := echoed_states echo
      refine ⟨_, rfl, ?_⟩
      rcases List.mem_append.mp (efforts.mem listed) with published | none
      · exact Or.inr ⟨effort, published, rfl⟩
      · rw [List.mem_singleton.mp none]
        exact Or.inl rfl
    · rw [List.mem_singleton.mp first]
      exact ⟨0, rfl, Or.inl rfl⟩

/-- The interface schema of the program. -/
def testMotorDocument : Node :=
  .mapping
    [(InterfaceSchema.stateKey, .mapping [("test_motor".toList, .mapping
        [("position".toList, .scalar "float64".toList),
          ("velocity".toList, .scalar "float64".toList)])]),
      (InterfaceSchema.commandKey, .mapping [("test_motor".toList, .mapping
        [("effort".toList, .scalar "float64".toList)])])]

def testMotorField (field : Text) : Declaration :=
  { component := "test_motor".toList, field, type := .float64 }

def testMotorSchema : InterfaceSchema :=
  .parsed
    (layoutOf [[testMotorField "position".toList, testMotorField "velocity".toList]])
    (layoutOf [[testMotorField "effort".toList]])

theorem testMotorSchema_parsed (yamlText : Text) :
    InterfaceSchema.fromYaml (.knowing testMotorDocument) yamlText = testMotorSchema := by
  have reads : hostDeclarations testMotorDocument =
      some ([[testMotorField "position".toList, testMotorField "velocity".toList]],
        [[testMotorField "effort".toList]]) := rfl
  exact fromYaml_knowing reads yamlText

def testMotorHost : ZenbeddedHardware ieee754 :=
  { zenohEndpoint := []
    stateTopic := []
    commandTopic := []
    zenohMode := []
    schema := testMotorSchema
    hwStates := [ieee754.quietNan, ieee754.quietNan]
    hwCommands := [ieee754.quietNan]
    stateBuffer := RealtimeBuffer.initial.writeFromNonRT (List.replicate 16 0)
    commandBuffer := List.replicate 8 0
    session := none
    stateSub := none
    commandPub := none }

theorem testMotorHost_initialised :
    ZenbeddedHardware.onInit ieee754 true (fun _ => some [])
      (InterfaceSchema.fromYaml (.knowing testMotorDocument)) = some testMotorHost := by
  delta ZenbeddedHardware.onInit
  simp only [testMotorSchema_parsed]
  rfl

theorem testMotor_deployed :
    ∃ client : ZenbeddedClient Platform.host64 64 Unit Unit,
      Deployed Rcl.Config.tier2Default testMotorSchema zenbeddedStateSize zenbeddedCommandSize
        client := by
  obtain ⟨client, left, run, live⟩ : ∃ (client : ZenbeddedClient Platform.host64 64 Unit Unit)
      (left : ZenohTransport Unit),
      (Rcl.RawClient.new Rcl.Config.tier2Default).init Rcl.Config.tier2Default
        (Rcl.RawCodec.state zenbeddedStateSize) (Rcl.RawCodec.command zenbeddedCommandSize)
        Rcl.ZenohOutcomes.good () 100 () () [] ZenohTransport.start = .ok (0, client, left) ∧
      client.initialized = true := ⟨_, _, rfl, rfl⟩
  exact ⟨client, ⟨_, _, _, _, _, _, left, rfl, run⟩, live, rfl, rfl⟩

def noEffort : RawValue (zenbeddedCommandSize : Platform.host64.SizeT) :=
  ⟨List.replicate 8 0, rfl⟩

def testMotorLoop : Loop ieee754 (testMotor noEffort) 64 :=
  { link :=
      { host := Hardware.System.start testMotorHost
        toFirmware := []
        toHost := []
        commands := Rcl.System.start fun _ => List.replicate 256 0
        states := Rcl.System.start fun _ => List.replicate 256 0
        tmp := none }
    pc := .reading
    memory := (testMotor noEffort).start }

theorem testMotor_start {client : ZenbeddedClient Platform.host64 64 Unit Unit}
    (deployed : Deployed Rcl.Config.tier2Default testMotorSchema zenbeddedStateSize
      zenbeddedCommandSize client) :
    Loop.start (testMotor noEffort) testMotorHost client = testMotorLoop := by
  obtain ⟨stateBuffer, cmdBuffer, count, _⟩ := deployed.clean
  simp only [Loop.start, Link.start, stateBuffer, cmdBuffer, count]
  rfl

/-- A command gets through, the firmware makes a cycle, and its state gets back. -/
def echo (effort : Double) (choice : Nat) :
    List (LoopAction ieee754 (zenbeddedStateSize : Platform.host64.SizeT)) :=
  List.flatten
    [[.other (.host (.command 0 effort)), .other (.host .write), .other .deliverCommand],
      List.replicate 11 (.other .advanceCallback), List.replicate 31 .application,
      List.replicate 20 (.other .publishState),
      [.other (.put true), .other .deliverState, .other (.host (.read choice))]]

/-- The host commands an effort of 4 and then one of 1. -/
def twoEchoes : List (LoopAction ieee754 (zenbeddedStateSize : Platform.host64.SizeT)) :=
  .other (.host (.activate ⟨true, true, true⟩)) ::
    (echo (show Double from 0x4010000000000000) 2 ++ echo (show Double from 0x3FF0000000000000) 3)

theorem twoEchoes_run :
    (perform (fun action loop => loop.act oneSub action) testMotorLoop twoEchoes.reverse).map
        (fun run => ((statesRead testMotorSchema run.1 : List (List (BitVec 64))),
          (commanded run.1 : List (List (BitVec 64))), Rcl.commits (commandTrace run.1),
          Rcl.commits (stateTrace run.1))) =
      some ([[0x3F947AE147AE147B, 0x3FE0000000000000], [0x3F847AE147AE147B, 0x4000000000000000]],
        [[0x3FF0000000000000], [0x4010000000000000]], 2, 2) := by
  decide +kernel

theorem pingPong_twoEchoes :
    ∃ (client : ZenbeddedClient Platform.host64 64 Unit Unit) (trace : List (Event ieee754))
      (loop : Loop ieee754 (testMotor noEffort) 64) (commands efforts : List Double),
      perform (fun action loop => loop.act oneSub action)
        (Loop.start (testMotor noEffort) testMotorHost client) twoEchoes.reverse =
          some (trace, loop) ∧
      [[0x3FF0000000000000], [0x4010000000000000]] = commands.map ([·]) ∧
      Samples efforts (commands ++ [0]) ∧
      Samples [[0x3F947AE147AE147B, 0x3FE0000000000000], [0x3F847AE147AE147B, 0x4000000000000000]]
        (echoed efforts ++ [[0, 0]]) := by
  obtain ⟨client, deployed⟩ := testMotor_deployed
  obtain ⟨⟨trace, loop⟩, run, seen⟩ := Option.map_eq_some_iff.mp twoEchoes_run
  obtain ⟨read, seen⟩ := Prod.mk.inj seen
  obtain ⟨vectors, seen⟩ := Prod.mk.inj seen
  obtain ⟨few, rare⟩ := Prod.mk.inj seen
  rw [← testMotor_start deployed] at run
  have reaches : Reaches (Loop.Step oneSub) (Loop.start (testMotor noEffort) testMotorHost client)
      trace loop := perform_reaches (fun action _ _ _ acted => ⟨action, acted⟩) run
  obtain ⟨commands, efforts, same, _, order, states, _⟩ := pingPong testMotorHost_initialised rfl rfl
    deployed reaches (Rcl.brisk_of_few (by rw [few]; decide))
    (Rcl.brisk_of_few (by rw [rare]; decide))
  refine ⟨client, trace, loop, commands, efforts, run, vectors.symm.trans same, order, ?_⟩
  exact read ▸ states

end Zenbedded.Demos
