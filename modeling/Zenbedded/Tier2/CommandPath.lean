import Zenbedded.Rcl.Delivery
import Zenbedded.Tier2.Link

namespace Zenbedded.Tier2

open Zenbedded.Foundation Zenbedded.Schema
open Zenbedded.Transport (Platform ZenbeddedSub internalSubHandler ZenohTransport)
open Zenbedded.Hardware (Double ZenbeddedHardware Laid Ready HoldsCommands)
open Zenbedded.Rcl (RawValue ZenbeddedClient)

/-! # From the command interfaces to `read_command`

Commands are encoded, published, perhaps lost, delivered, written byte by byte and
read while they are written.  What is read are whole commands, in the order in
which the host wrote them.
-/

variable {platform : Platform} {width : Nat} {Callback : Type} {scalars : Scalars}
  {schema : InterfaceSchema} {stateSize cmdSize : platform.SizeT}

/-- The client is initialised and its structs are those of the schema. -/
structure Deployed (config : Rcl.Config) (schema : InterfaceSchema)
    (stateSize cmdSize : platform.SizeT) (client : ZenbeddedClient platform width Unit Unit) :
    Prop where
  initialised : ∃ (before : ZenbeddedClient platform width Unit Unit) (zenoh : Rcl.ZenohOutcomes)
    (controlFreq : BitVec 32) (scratch : Bytes) (code : Int) (transport left : ZenohTransport Unit),
    before.initialized = false ∧
      before.init config (Rcl.RawCodec.state stateSize) (Rcl.RawCodec.command cmdSize) zenoh () controlFreq
        () () scratch transport = .ok (code, client, left)
  live : client.initialized = true
  stateStruct : stateSize.toNat = (structOf schema.stateFlatFields).size
  commandStruct : cmdSize.toNat = (structOf schema.commandFlatFields).size

theorem cleared_setSlot (size : Nat) (index : Rcl.SlotIdx) :
    (Rcl.DoubleBuffer.cleared size : Rcl.DoubleBuffer width).setSlot index
      ((Rcl.DoubleBuffer.cleared size : Rcl.DoubleBuffer width).slots index) =
      Rcl.DoubleBuffer.cleared size := by
  simp [Rcl.DoubleBuffer.setSlot]

theorem rawLayOut_clean {config : Rcl.Config} {scratch : Bytes}
    {client laid : ZenbeddedClient platform width Unit Unit}
    (run : client.layOut config (Rcl.RawCodec.state stateSize) (Rcl.RawCodec.command cmdSize) () () scratch =
      .ok laid) :
    laid.stateBuffer = Rcl.DoubleBuffer.cleared config.maxStateBufferSize ∧
      laid.cmdBuffer = Rcl.DoubleBuffer.cleared config.maxCmdBufferSize ∧
      laid.cmdAcceptedCount = 0 := by
  cases run
  refine ⟨?_, rfl, rfl⟩
  exact (congrArg (fun buffer : Rcl.DoubleBuffer width => buffer.setSlot 1 (buffer.slots 1))
    (cleared_setSlot _ 0)).trans (cleared_setSlot _ 1)

theorem Deployed.clean {config : Rcl.Config} {client : ZenbeddedClient platform width Unit Unit}
    (deployed : Deployed config schema stateSize cmdSize client) :
    client.stateBuffer = Rcl.DoubleBuffer.cleared config.maxStateBufferSize ∧
      client.cmdBuffer = Rcl.DoubleBuffer.cleared config.maxCmdBufferSize ∧
      client.cmdAcceptedCount = 0 ∧ stateSize.toNat ≤ config.maxStateBufferSize ∧
      cmdSize.toNat ≤ config.maxCmdBufferSize := by
  obtain ⟨before, zenoh, controlFreq, scratch, code, transport, left, fresh, run⟩ :=
    deployed.initialised
  obtain ⟨laid, laidRun, accepted⟩ := Rcl.init_accepted fresh run deployed.live
  obtain ⟨stateBuffer, cmdBuffer, count⟩ := rawLayOut_clean laidRun
  exact ⟨accepted.stateBuffer.trans stateBuffer, accepted.cmdBuffer.trans cmdBuffer,
    accepted.count.trans count, accepted.stateFits, accepted.cmdFits⟩

theorem Deployed.commands_start {config : Rcl.Config}
    {client : ZenbeddedClient platform width Unit Unit}
    (deployed : Deployed config schema stateSize cmdSize client)
    (hardware : ZenbeddedHardware scalars) :
    (Link.start hardware client).commands =
      Rcl.System.start fun _ => List.replicate config.maxCmdBufferSize 0 := by
  obtain ⟨_, cmdBuffer, count, _⟩ := deployed.clean
  simp only [Link.start, cmdBuffer, count]
  rfl

theorem Deployed.states_start {config : Rcl.Config}
    {client : ZenbeddedClient platform width Unit Unit}
    (deployed : Deployed config schema stateSize cmdSize client)
    (hardware : ZenbeddedHardware scalars) :
    (Link.start hardware client).states =
      Rcl.System.start fun _ => List.replicate config.maxStateBufferSize 0 := by
  obtain ⟨stateBuffer, _⟩ := deployed.clean
  simp only [Link.start, stateBuffer]
  rfl

/-- The payloads published, the newest first. -/
def sent (trace : List (Event scalars)) : List Bytes := trace.flatMap fun event => event.sent.reverse

def Event.commanded : Event scalars → List (List (Double scalars))
  | .wrote vector published => published.map fun _ => vector
  | _ => []

/-- The command vectors behind them. -/
def commanded (trace : List (Event scalars)) : List (List (Double scalars)) :=
  trace.flatMap Event.commanded

def Encodes (schema : InterfaceSchema) (payload : Bytes) (commands : List (Double scalars)) :
    Prop :=
  ∃ encoded, Hardware.encodeCommands scalars schema commands = some encoded ∧
    Hardware.PartsOf schema.commandFlatFields encoded ∧ payload = encoded.flatten

section

variable {sub : ZenbeddedSub Callback} {first link : Link scalars width}
  {trace : List (Event scalars)}

theorem link_ready (laid : Laid schema) (ready : Ready schema first.host.hardware)
    (reaches : Reaches (Link.Step sub cmdSize stateSize) first trace link) :
    Ready schema link.host.hardware := by
  induction reaches with
  | start => exact ready
  | step _ moved inductionHypothesis =>
      cases moved.cases with
      | host outside stepped => exact Hardware.step_ready laid _ inductionHypothesis stepped
      | arrives last stepped => exact Hardware.step_ready laid _ inductionHypothesis stepped
      | losesCommand | refusesCommand | beginsCommand | advancesCommand | readsCommand |
          beginsState | advancesState | publishesState | puts | failsPut | losesState =>
          exact inductionHypothesis

theorem observe_encodes {before after : Hardware.System scalars} (laid : Laid schema)
    (ready : Ready schema before.hardware) {event : Hardware.Event scalars}
    (stepped : before.step event = .ok after) :
    List.Forall₂ (Encodes schema) (observe event before after).sent.reverse
      (observe event before after).commanded := by
  cases event with
  | payload | command | read | activate | deactivate => exact .nil
  | write =>
      obtain ⟨⟨hardware, bytes⟩, written, same⟩ := bind_ok_iff.mp stepped
      cases same
      have published : (observe .write before { before with
          hardware, published := before.published ++ bytes.toList }) =
            .wrote before.hardware.hwCommands bytes.toList := by
        simp [observe]
      rw [published]
      rcases (Hardware.write_spec laid ready).mp written with ⟨_, _, rfl⟩ |
        ⟨_, encoded, defined, _, rfl⟩
      · exact .nil
      · have parted := (Hardware.writeAll_ok laid ready.commandBuffer ready.commands defined).2
        exact .cons ⟨encoded, defined, parted, rfl⟩ .nil

/-- Each payload encodes the command vector of its `write`. -/
theorem sent_encodes (laid : Laid schema) (ready : Ready schema first.host.hardware)
    (reaches : Reaches (Link.Step sub cmdSize stateSize) first trace link) :
    List.Forall₂ (Encodes schema) (sent trace) (commanded trace) := by
  induction reaches with
  | start => exact .nil
  | step reaches moved inductionHypothesis =>
      cases moved.cases with
      | host outside stepped =>
          have here := observe_encodes laid (link_ready laid ready reaches) stepped
          exact List.rel_append here inductionHypothesis
      | losesCommand | refusesCommand | beginsCommand | advancesCommand | readsCommand |
          beginsState | advancesState | publishesState | puts | failsPut | losesState | arrives =>
          exact inductionHypothesis

/-- There is a command for every field. -/
theorem commanded_length (laid : Laid schema) (ready : Ready schema first.host.hardware)
    (reaches : Reaches (Link.Step sub cmdSize stateSize) first trace link) :
    ∀ vector ∈ commanded trace, vector.length = schema.commandFlatFields.length := by
  induction reaches with
  | start => exact List.forall_mem_nil _
  | step reaches moved inductionHypothesis =>
      cases moved.cases with
      | @host hostEvent host outside stepped =>
          have before := link_ready laid ready reaches
          intro vector member
          rcases List.mem_append.mp member with here | older
          · cases hostEvent with
            | payload | command | read | activate | deactivate => cases here
            | write =>
                obtain ⟨_, _, rfl⟩ := List.mem_map.mp here
                exact before.commands
          · exact inductionHypothesis vector older
      | losesCommand | refusesCommand | beginsCommand | advancesCommand | readsCommand |
          beginsState | advancesState | publishesState | puts | failsPut | losesState | arrives =>
          exact inductionHypothesis

/-- What is on its way or has been delivered was sent, in this order. -/
theorem commands_inOrder
    (reaches : Reaches (Link.Step sub cmdSize stateSize) first trace link)
    (empty : first.toFirmware = []) (idle : first.commands.shared.writer = .idle) :
    (link.toFirmware ++ Rcl.begun (commandTrace trace) link.commands.shared).Sublist
      (sent trace) := by
  induction reaches with
  | start =>
      rw [empty, Rcl.begun, idle]
      exact .slnil
  | @step trace link event after _ moved inductionHypothesis =>
      cases moved.cases with
      | host outside stepped =>
          rename_i hostEvent host
          have unseen : commandTrace (observe hostEvent link.host host :: trace) =
              commandTrace trace := by
            cases hostEvent with
            | payload | command | read | write | activate | deactivate => rfl
          rw [unseen, List.append_assoc]
          exact (List.Sublist.refl _).append inductionHypothesis
      | losesCommand index =>
          exact ((List.eraseIdx_sublist _ _).append (List.Sublist.refl _)).trans inductionHypothesis
      | refusesCommand last _ =>
          rw [last] at inductionHypothesis
          exact ((List.sublist_append_left _ _).append (List.Sublist.refl _)).trans
            inductionHypothesis
      | @beginsCommand rest payload bytes writerEvent shared last taken begins =>
          obtain ⟨rfl, _⟩ := Rcl.acceptedSample_some taken
          rw [last, List.append_assoc, List.singleton_append] at inductionHypothesis
          have grown := Rcl.begun_beginWrite begins (commandTrace trace)
          exact grown ▸ inductionHypothesis
      | advancesCommand advanced =>
          have same := Rcl.begun_advanceWriter advanced (commandTrace trace)
          exact same ▸ inductionHypothesis
      | @readsCommand readerEvent commands acted same =>
          have unchanged := Rcl.begun_reader () readerEvent (commandTrace trace) commands.shared
          rw [same] at unchanged
          rw [← unchanged, ← same] at inductionHypothesis
          exact inductionHypothesis
      | beginsState | advancesState | publishesState | puts | failsPut | losesState | arrives =>
          exact inductionHypothesis

end

/-- What `read_command` makes of a payload: no command yet, or a whole one. -/
def ReadAs (scalars : Scalars) (schema : InterfaceSchema) (cmdSize : platform.SizeT)
    (payload : Bytes) (origin : Option (List (Double scalars))) : Prop :=
  ∀ out : RawValue cmdSize, ∃ value : RawValue cmdSize,
    Rcl.RawCodec.read cmdSize () payload cmdSize out = .ok (true, value) ∧
      match origin with
      | none => value.val = List.replicate cmdSize.toNat 0
      | some commands => HoldsCommands scalars schema.commandFlatFields commands value.val

theorem readAs_zeros (schema : InterfaceSchema) :
    ReadAs scalars schema cmdSize (List.replicate cmdSize.toNat 0) none := by
  intro out
  have whole : (List.replicate cmdSize.toNat (0 : UInt8)).length = cmdSize.toNat :=
    List.length_replicate
  exact ⟨⟨_, whole⟩, Hardware.rawRead_whole whole whole.symm out, rfl⟩

theorem Encodes.readAs (laid : Laid schema)
    (commandStruct : cmdSize.toNat = (structOf schema.commandFlatFields).size) {payload : Bytes}
    {commands : List (Double scalars)} (encodes : Encodes schema payload commands) :
    ReadAs scalars schema cmdSize payload (some commands) := by
  obtain ⟨encoded, defined, parted, rfl⟩ := encodes
  intro out
  have whole : encoded.flatten.length = cmdSize.toNat := by
    rw [commandStruct, Hardware.PartsOf.flatten_length laid.command parted]
    exact laid.command.size.symm
  exact ⟨⟨_, whole⟩, Hardware.rawRead_whole whole whole.symm out,
    Hardware.holdsCommands_encoded parted defined⟩

/-- Reads of a run on a schema that is laid out. -/
theorem returned_origins {config : Rcl.Config} {hardware : ZenbeddedHardware scalars}
    (laid : Laid hardware.schema) (ready : Ready hardware.schema hardware)
    {client : ZenbeddedClient platform width Unit Unit}
    (deployed : Deployed config hardware.schema stateSize cmdSize client)
    {sub : ZenbeddedSub Callback} {trace : List (Event scalars)} {link : Link scalars width}
    (reaches : Reaches (Link.Step sub cmdSize stateSize) (Link.start hardware client) trace link)
    (brisk : Rcl.Brisk width (commandTrace trace)) :
    ∃ origins, Samples origins ((commanded trace).map some ++ [none]) ∧
      List.Forall₂ (ReadAs scalars hardware.schema cmdSize) (Rcl.returned () (commandTrace trace))
        origins := by
  obtain ⟨-, -, -, -, fits⟩ := deployed.clean
  have buffer := command_projection reaches
  rw [deployed.commands_start] at buffer
  have sampled := Rcl.returned_samples_committed buffer
    (fun _ => fits.trans_eq List.length_replicate.symm) brisk ()
  rw [List.take_replicate, Nat.min_eq_left fits] at sampled
  have inOrder : (Rcl.committed (commandTrace trace)).Sublist (sent trace) :=
    ((List.sublist_append_right _ _).trans (List.sublist_append_right _ _)).trans
      (commands_inOrder reaches rfl rfl)
  have fromSent := sampled.trans (.of_sublist (inOrder.append (List.Sublist.refl _)))
  have encodes := sent_encodes laid ready reaches
  have meaning : List.Forall₂ (ReadAs scalars hardware.schema cmdSize)
      (sent trace ++ [List.replicate cmdSize.toNat 0]) ((commanded trace).map some ++ [none]) := by
    apply List.rel_append
    · rw [List.forall₂_map_right_iff]
      exact encodes.imp fun _ _ encoded => encoded.readAs laid deployed.commandStruct
    · exact .cons (readAs_zeros hardware.schema) .nil
  obtain ⟨origins, order, each⟩ := fromSent.stand meaning
  exact ⟨origins, order, each⟩

/-- What an accepted schema gives the interface. -/
theorem onInit_laid {yaml : YamlCpp} {files : Text → Text} {baseSucceeds : Bool}
    {hardwareParameters : Text → Option Text} {hardware : ZenbeddedHardware scalars}
    (initialised : ZenbeddedHardware.onInit scalars baseSucceeds hardwareParameters
      (fun path => InterfaceSchema.fromYaml yaml (files path)) = some hardware) :
    Laid hardware.schema ∧ Ready hardware.schema hardware := by
  obtain ⟨schemaPath, path, valid, ready, -⟩ := Hardware.onInit_ready initialised
  have fixed := ready.fixed
  rw [← fixed] at valid ready
  rw [fixed] at valid ⊢
  exact ⟨Hardware.laid_of_valid valid, fixed ▸ ready⟩

/-- Whatever is lost and however the threads interleave, with fewer than 2^w commits in each attempt,
`read_command` yields zeros at first and then commands of the host, each whole and none behind one
read before. -/
theorem commands_endToEnd {config : Rcl.Config} {yaml : YamlCpp} {files : Text → Text}
    {baseSucceeds : Bool} {hardwareParameters : Text → Option Text}
    {hardware : ZenbeddedHardware scalars}
    (initialised : ZenbeddedHardware.onInit scalars baseSucceeds hardwareParameters
      (fun path => InterfaceSchema.fromYaml yaml (files path)) = some hardware)
    {client : ZenbeddedClient platform width Unit Unit}
    (deployed : Deployed config hardware.schema stateSize cmdSize client)
    {sub : ZenbeddedSub Callback} {trace : List (Event scalars)} {link : Link scalars width}
    (reaches : Reaches (Link.Step sub cmdSize stateSize) (Link.start hardware client) trace link)
    (brisk : Rcl.Brisk width (commandTrace trace)) :
    ∃ origins, Samples origins ((commanded trace).map some ++ [none]) ∧
      List.Forall₂ (ReadAs scalars hardware.schema cmdSize) (Rcl.returned () (commandTrace trace))
        origins := by
  obtain ⟨laid, ready⟩ := onInit_laid initialised
  exact returned_origins laid ready deployed reaches brisk

def oneSub : ZenbeddedSub Unit := ⟨true, true, some (), [], []⟩

theorem oneField_deployed :
    ∃ client : ZenbeddedClient Platform.host64 64 Unit Unit,
      Deployed Rcl.Config.tier2Default Hardware.oneFieldSchema 4 2 client := by
  obtain ⟨client, left, run, live⟩ : ∃ (client : ZenbeddedClient Platform.host64 64 Unit Unit)
      (left : ZenohTransport Unit),
      (Rcl.RawClient.new Rcl.Config.tier2Default).init Rcl.Config.tier2Default
        (Rcl.RawCodec.state 4) (Rcl.RawCodec.command 2) Rcl.ZenohOutcomes.good () 100 () () []
        ZenohTransport.start = .ok (0, client, left) ∧ client.initialized = true := ⟨_, _, rfl, rfl⟩
  exact ⟨client, ⟨_, _, _, _, _, _, left, rfl, run⟩, live, rfl, rfl⟩

def oneFieldLink : Link littleEndian 64 :=
  { host := Hardware.System.start Hardware.oneFieldHost
    toFirmware := []
    toHost := []
    commands := Rcl.System.start fun _ => List.replicate 256 0
    states := Rcl.System.start fun _ => List.replicate 256 0
    tmp := none }

theorem oneField_start {client : ZenbeddedClient Platform.host64 64 Unit Unit}
    (deployed : Deployed Rcl.Config.tier2Default Hardware.oneFieldSchema 4 2 client) :
    Link.start Hardware.oneFieldHost client = oneFieldLink := by
  obtain ⟨stateBuffer, cmdBuffer, count, _⟩ := deployed.clean
  simp only [Link.start, stateBuffer, cmdBuffer, count]
  rfl

/-- The host writes a command, and the firmware gets it and reads it. -/
def commandRound (value : Double littleEndian) :
    List (Action littleEndian (4 : Platform.host64.SizeT)) :=
  List.flatten
    [[.host (.command 0 value), .host .write, .deliverCommand], List.replicate 5 .advanceCallback,
      List.replicate 6 .readCommand]

def twoCommands : List (Action littleEndian (4 : Platform.host64.SizeT)) :=
  .host (.activate ⟨true, true, true⟩) ::
    (commandRound (CScalar.one .double) ++ commandRound littleEndian.zero)

theorem twoCommands_run :
    (perform (fun action link => link.act oneSub (2 : Platform.host64.SizeT) action) oneFieldLink
      twoCommands.reverse).map (fun run => (Rcl.returned () (commandTrace run.1),
        Rcl.commits (commandTrace run.1), (commanded run.1 : List (List (BitVec 64))))) =
      some ([[0, 0], [1, 0]], 2, [[0], [0x3FF0000000000000]]) := by
  decide +kernel

theorem commands_endToEnd_twoCommands :
    ∃ (client : ZenbeddedClient Platform.host64 64 Unit Unit) (trace : List (Event littleEndian))
      (link : Link littleEndian 64) (origins : List (Option (List (Double littleEndian)))),
      perform (fun action link => link.act oneSub 2 action)
        (Link.start Hardware.oneFieldHost client) twoCommands.reverse = some (trace, link) ∧
      Rcl.returned () (commandTrace trace) = [[0, 0], [1, 0]] ∧
      Samples origins [some [littleEndian.zero], some [CScalar.one .double], none] ∧
      List.Forall₂ (ReadAs littleEndian Hardware.oneFieldSchema (2 : Platform.host64.SizeT))
        [[0, 0], [1, 0]] origins := by
  obtain ⟨client, deployed⟩ := oneField_deployed
  obtain ⟨⟨trace, link⟩, run, seen⟩ := Option.map_eq_some_iff.mp twoCommands_run
  obtain ⟨read, seen⟩ := Prod.mk.inj seen
  obtain ⟨few, vectors⟩ := Prod.mk.inj seen
  rw [← oneField_start deployed] at run
  have reaches : Reaches (Link.Step oneSub (2 : Platform.host64.SizeT) 4)
      (Link.start Hardware.oneFieldHost client) trace link :=
    perform_reaches (fun action _ _ _ acted => ⟨action, acted⟩) run
  obtain ⟨origins, order, each⟩ := commands_endToEnd Hardware.oneFieldHost_initialised deployed
    reaches (Rcl.brisk_of_few (by rw [few]; decide))
  have newestFirst : commanded trace = [[littleEndian.zero], [CScalar.one .double]] := vectors
  rw [newestFirst] at order
  rw [read] at each
  exact ⟨client, trace, link, origins, run, read, order, each⟩

end Zenbedded.Tier2
