import Zenbedded.Tier2.CommandPath
import Zenbedded.Rcl.Attempts

namespace Zenbedded.Tier2

open Zenbedded.Foundation Zenbedded.Schema
open Zenbedded.Transport (Platform ZenbeddedSub internalSubHandler receiveBound)
open Zenbedded.Hardware (Double ZenbeddedHardware Laid Ready)
open Zenbedded.Rcl (ZenbeddedClient)

/-! # The last command arrives

Earlier commands may be lost.  Once the callback has worked through what is on its
way, `read_command` yields the last command, and the callback gets there on its own.
-/

variable {platform : Platform} {width : Nat} {Callback : Type} {scalars : Scalars}
  {schema : InterfaceSchema} {stateSize cmdSize : platform.SizeT}

/-- The last command published, with its payload, unless a sample was lost since. -/
def lastWritten : List (Event scalars) → Option (List (Double scalars) × Bytes)
  | [] => none
  | .wrote vector published :: trace =>
      match published.getLast? with
      | some payload => some (vector, payload)
      | none => lastWritten trace
  | .lostCommand :: _ => none
  | _ :: trace => lastWritten trace

/-- Samples of the size of a command pass the handler and the callback. -/
structure Passes (sub : ZenbeddedSub Callback) (cmdSize : platform.SizeT) : Prop where
  callback : sub.callback.isSome
  nonempty : 0 < cmdSize.toNat
  bounded : cmdSize.toNat ≤ receiveBound .tier2

theorem Passes.accepted {sub : ZenbeddedSub Callback} (passes : Passes sub cmdSize)
    {payload : Bytes} (size : payload.length = cmdSize.toNat) :
    Rcl.acceptedSample .tier2 sub cmdSize.toNat payload = some payload := by
  obtain ⟨callback, subscriber⟩ := Option.isSome_iff_exists.mp passes.callback
  have nonempty := passes.nonempty
  have bounded := passes.bounded
  have handled : internalSubHandler .tier2 sub payload = some (callback, payload) := by
    rw [internalSubHandler, subscriber]
    exact if_neg (by omega)
  rw [Rcl.acceptedSample, handled]
  exact if_neg (not_not.mpr size)

theorem Encodes.length {payload : Bytes} {commands : List (Double scalars)} (laid : Laid schema)
    (commandStruct : cmdSize.toNat = (structOf schema.commandFlatFields).size)
    (encodes : Encodes schema payload commands) : payload.length = cmdSize.toNat := by
  obtain ⟨encoded, _, parted, rfl⟩ := encodes
  rw [commandStruct, Hardware.PartsOf.flatten_length laid.command parted]
  exact laid.command.size.symm

section

variable {sub : ZenbeddedSub Callback} {first link : Link scalars width}
  {trace : List (Event scalars)}

theorem observe_lastWritten {before after : Hardware.System scalars} (laid : Laid schema)
    (ready : Ready schema before.hardware) {event : Hardware.Event scalars}
    (stepped : before.step event = .ok after) (trace : List (Event scalars)) :
    ((observe event before after).sent = [] ∧
        lastWritten (observe event before after :: trace) = lastWritten trace) ∨
      ∃ vector payload, (observe event before after).sent = [payload] ∧
        Encodes schema payload vector ∧
        lastWritten (observe event before after :: trace) = some (vector, payload) := by
  have encodes := observe_encodes laid ready stepped
  cases event with
  | payload | command | read | activate | deactivate => exact Or.inl ⟨rfl, rfl⟩
  | write =>
      obtain ⟨⟨hardware, bytes⟩, _, same⟩ := bind_ok_iff.mp stepped
      cases same
      have seen : observe .write before { before with
          hardware, published := before.published ++ bytes.toList } =
            .wrote before.hardware.hwCommands bytes.toList := by
        simp [observe]
      rw [seen] at encodes ⊢
      cases bytes with
      | none => exact Or.inl ⟨rfl, rfl⟩
      | some payload =>
          cases encodes with
          | cons here _ => exact Or.inr ⟨_, payload, rfl, here, rfl⟩

theorem sent_size (laid : Laid schema) (ready : Ready schema first.host.hardware)
    (commandStruct : cmdSize.toNat = (structOf schema.commandFlatFields).size)
    (reaches : Reaches (Link.Step sub cmdSize stateSize) first trace link) :
    ∀ payload ∈ sent trace, payload.length = cmdSize.toNat := by
  have encodes := sent_encodes laid ready reaches
  have both := encodes.imp fun _ _ encoded =>
    And.intro (Encodes.length laid commandStruct encoded) encoded
  exact ((List.forall₂_and_left _ _).mp both).1

/-- The last command is the newest of what is on its way or has been begun. -/
theorem lastWritten_newest (laid : Laid schema) (ready : Ready schema first.host.hardware)
    (commandStruct : cmdSize.toNat = (structOf schema.commandFlatFields).size)
    (passes : Passes sub cmdSize)
    (reaches : Reaches (Link.Step sub cmdSize stateSize) first trace link)
    (empty : first.toFirmware = []) (idle : first.commands.shared.writer = .idle)
    {vector : List (Double scalars)} {payload : Bytes}
    (last : lastWritten trace = some (vector, payload)) :
    Encodes schema payload vector ∧
      (link.toFirmware ++ Rcl.begun (commandTrace trace) link.commands.shared).head? =
        some payload := by
  induction reaches with
  | start => cases last
  | @step trace link event after reaches moved inductionHypothesis =>
      cases moved.cases with
      | @host hostEvent host outside stepped =>
          have unseen : commandTrace (observe hostEvent link.host host :: trace) =
              commandTrace trace := by
            cases hostEvent with
            | payload | command | read | write | activate | deactivate => rfl
          rw [unseen]
          rcases observe_lastWritten laid (link_ready laid ready reaches) stepped trace with
            ⟨none, same⟩ | ⟨other, bytes, one, encodes, newest⟩
          · rw [same] at last
            rw [none]
            exact inductionHypothesis last
          · rw [newest] at last
            cases last
            rw [one]
            exact ⟨encodes, rfl⟩
      | losesCommand => cases last
      | @refusesCommand rest refusedPayload queue refused =>
          have member : refusedPayload ∈ sent trace := by
            apply (commands_inOrder reaches empty idle).subset
            rw [queue]
            simp
          have size := sent_size laid ready commandStruct reaches _ member
          rw [passes.accepted size] at refused
          cases refused
      | @beginsCommand rest bytes taken writerEvent shared queue passed begins =>
          obtain ⟨rfl, _⟩ := Rcl.acceptedSample_some passed
          have grown := Rcl.begun_beginWrite begins (commandTrace trace)
          have before := inductionHypothesis last
          rw [queue, List.append_assoc, List.singleton_append] at before
          exact grown ▸ before
      | advancesCommand advanced =>
          have same := Rcl.begun_advanceWriter advanced (commandTrace trace)
          exact same ▸ inductionHypothesis last
      | @readsCommand readerEvent commands acted same =>
          have unchanged := Rcl.begun_reader () readerEvent (commandTrace trace) commands.shared
          rw [same] at unchanged
          have before := inductionHypothesis last
          rw [← unchanged, ← same] at before
          exact before
      | beginsState | advancesState | publishesState | puts | failsPut | losesState | arrives =>
          exact inductionHypothesis last

/-- A step of the callback, and none of any other thread: it takes the next sample, or stores or
commits what it has taken. -/
def Link.CallbackStep (sub : ZenbeddedSub Callback) (cmdSize : platform.SizeT)
    (link : Link scalars width) (event : Event scalars) (after : Link scalars width) : Prop :=
  link.deliverCommand sub cmdSize = some (event, after) ∨
    link.actCommands cmdSize .advanceWriter = some (event, after)

theorem Link.CallbackStep.step {event : Event scalars} {after : Link scalars width}
    (moved : link.CallbackStep sub cmdSize event after) :
    Link.Step sub cmdSize stateSize link event after := by
  rcases moved with delivered | advanced
  · exact ⟨.deliverCommand, delivered⟩
  · exact ⟨.advanceCallback, advanced⟩

theorem actCommands_event {action : Rcl.Action Unit} {event : Event scalars}
    {after : Link scalars width} (acted : link.actCommands cmdSize action = some (event, after)) :
    ∃ seen, event = .commands seen := by
  obtain ⟨⟨seen, commands⟩, _, same⟩ := Option.bind_eq_some_iff.mp acted
  cases same
  exact ⟨seen, rfl⟩

theorem Link.CallbackStep.lastWritten {event : Event scalars} {after : Link scalars width}
    (moved : link.CallbackStep sub cmdSize event after) (trace : List (Event scalars)) :
    lastWritten (event :: trace) = lastWritten trace := by
  rcases moved with delivered | advanced
  · rw [Link.deliverCommand] at delivered
    split at delivered
    · cases delivered
    · split at delivered
      · cases delivered
        rfl
      · obtain ⟨seen, rfl⟩ := actCommands_event delivered
        rfl
  · obtain ⟨seen, rfl⟩ := actCommands_event advanced
    rfl

/-- The steps that the callback still takes, at most. -/
def Link.backlog (cmdSize : platform.SizeT) (link : Link scalars width) : Nat :=
  link.toFirmware.length * (cmdSize.toNat + 4) + link.commands.shared.writer.remaining

structure Link.Settled (link : Link scalars width) : Prop where
  empty : link.toFirmware = []
  idle : link.commands.shared.writer = .idle

theorem beginWrite_remaining {shared after : Rcl.Shared width} {write : Rcl.Write}
    {event : Rcl.WriterEvent} {size : Nat} (whole : write.Whole size)
    (begins : shared.beginWrite write = some (event, after)) :
    after.writer.remaining = size + 3 := by
  unfold Rcl.Shared.beginWrite at begins
  split at begins
  · cases begins
    have length : write.stores.length = size := by
      rw [whole.stores, ← whole.length, ← List.length_map Prod.snd, Rcl.memcpyStores_snd]
    exact congrArg (· + 3) length
  · cases begins

theorem deliverCommand_backlog {rest : List Bytes} {payload : Bytes}
    (queue : link.toFirmware = rest ++ [payload]) (idle : link.commands.shared.writer = .idle) :
    ∃ event after, link.CallbackStep sub cmdSize event after ∧
      after.backlog cmdSize < link.backlog cmdSize := by
  have last : link.toFirmware.getLast? = some payload := by
    rw [queue, List.getLast?_append_cons]
    rfl
  have shorter : rest.length * (cmdSize.toNat + 4) + (cmdSize.toNat + 4) ≤
      link.backlog cmdSize := by
    rw [Link.backlog, queue, List.length_append, List.length_singleton, Nat.succ_mul]
    exact Nat.le_add_right _ _
  cases passed : Rcl.acceptedSample .tier2 sub cmdSize.toNat payload with
  | none =>
      have delivers : link.deliverCommand sub cmdSize =
          some (.internal, { link with toFirmware := rest }) := by
        rw [Link.deliverCommand, last, queue, List.dropLast_concat]
        dsimp only
        rw [passed]
      refine ⟨_, _, Or.inl delivers, ?_⟩
      rw [Link.backlog, idle]
      simp only [Rcl.WriterPc.remaining]
      omega
  | some bytes =>
      obtain ⟨rfl, size⟩ := Rcl.acceptedSample_some passed
      obtain ⟨shared, begins⟩ : ∃ shared,
          link.commands.shared.beginWrite (.command bytes) = some (.internal, shared) := by
        rw [Rcl.Shared.beginWrite, idle]
        exact ⟨_, rfl⟩
      have writes := beginWrite_remaining (Rcl.whole_command size) begins
      have delivers : link.deliverCommand sub cmdSize = Link.actCommands cmdSize
          (.beginWrite (.command bytes)) { link with toFirmware := rest } := by
        rw [Link.deliverCommand, last, queue, List.dropLast_concat]
        dsimp only
        rw [passed]
      rw [Link.actCommands, Rcl.System.act, begins] at delivers
      refine ⟨_, _, Or.inl delivers, ?_⟩
      rw [Link.backlog]
      dsimp only
      omega

theorem advanceCallback_backlog {event : Rcl.WriterEvent} {shared : Rcl.Shared width}
    (advanced : link.commands.shared.advanceWriter = some (event, shared)) :
    ∃ event after, link.CallbackStep sub cmdSize event after ∧
      after.backlog cmdSize < link.backlog cmdSize := by
  have fewer := Rcl.advanceWriter_remaining advanced
  have acted : link.actCommands cmdSize .advanceWriter =
      some (.commands (.writer event), { link with
        commands := { link.commands with shared } }) := by
    rw [Link.actCommands, Rcl.System.act, advanced]
    rfl
  refine ⟨_, _, Or.inr acted, ?_⟩
  rw [Link.backlog, Link.backlog]
  exact Nat.add_lt_add_left fewer _

/-- From any state of a run the callback alone gets to the end of what is on its way. -/
theorem callback_settles {slots : Rcl.SlotIdx → Bytes} (start : first.commands = .start slots)
    (room : ∀ index, cmdSize.toNat ≤ (slots index).length)
    (reaches : Reaches (Link.Step sub cmdSize stateSize) first trace link) :
    ∃ later after, Reaches (Link.CallbackStep sub cmdSize) link later after ∧ after.Settled := by
  induction measured : link.backlog cmdSize using Nat.strong_induction_on generalizing trace link with
  | _ backlog inductionHypothesis =>
      have goOn {event : Event scalars} {next : Link scalars width}
          (moved : link.CallbackStep sub cmdSize event next)
          (fewer : next.backlog cmdSize < link.backlog cmdSize) :
          ∃ later after, Reaches (Link.CallbackStep sub cmdSize) link later after ∧
            after.Settled := by
        obtain ⟨later, after, further, settled⟩ :=
          inductionHypothesis _ (measured ▸ fewer) (reaches.step moved.step) rfl
        exact ⟨_, after, (Reaches.step .start moved).trans further, settled⟩
      by_cases idle : link.commands.shared.writer = .idle
      · cases queue : link.toFirmware using List.reverseRecOn with
        | nil => exact ⟨[], link, .start, queue, idle⟩
        | append_singleton rest payload =>
            obtain ⟨event, next, moved, fewer⟩ :=
              @deliverCommand_backlog _ _ _ _ cmdSize sub link rest payload queue idle
            exact goOn moved fewer
      · have buffer := command_projection reaches
        rw [start] at buffer
        have plain := buffer.mono fun _ _ _ step => step.step
        have capacity (index : Rcl.SlotIdx) :
            cmdSize.toNat ≤ (link.commands.shared.buffer.slots index).length :=
          (room index).trans_eq (Rcl.slots_length plain index).symm
        obtain ⟨event, shared, advanced⟩ :=
          (Rcl.OnlyWhole.reaches buffer).advances capacity idle
        obtain ⟨event, next, moved, fewer⟩ :=
          @advanceCallback_backlog _ _ _ _ cmdSize sub link _ _ advanced
        exact goOn moved fewer

/-- `read_command` copies the payload when nobody else takes a step. -/
def Link.Reads (cmdSize : platform.SizeT) (link : Link scalars width) (payload : Bytes) : Prop :=
  ∃ pc, Rcl.ReaderRun cmdSize.toNat link.commands.shared.buffer .idle pc ∧
    Rcl.readerStep cmdSize.toNat link.commands.shared.buffer pc =
      some (.returned (some payload), .idle)

theorem Link.Settled.reads (settled : link.Settled) {slots : Rcl.SlotIdx → Bytes}
    (buffer : Reaches (Rcl.WholeStep cmdSize.toNat) (.start slots) (commandTrace trace)
      link.commands) (room : ∀ index, cmdSize.toNat ≤ (slots index).length) {payload : Bytes}
    (newest : (link.toFirmware ++ Rcl.begun (commandTrace trace) link.commands.shared).head? =
      some payload) : link.Reads cmdSize payload := by
  have idle : Rcl.begun (commandTrace trace) link.commands.shared =
      Rcl.committed (commandTrace trace) := by
    rw [Rcl.begun, settled.idle]
    rfl
  rw [settled.empty, idle, List.nil_append] at newest
  obtain ⟨earlier, committed⟩ := List.head?_eq_some_iff.mp newest
  have active := Rcl.active_newest buffer room
  rw [committed, List.cons_append, List.head?_cons] at active
  have content := Option.some.inj active
  have plain := buffer.mono fun _ _ _ step => step.step
  have capacity : cmdSize.toNat ≤ (link.commands.shared.buffer.slots
      link.commands.shared.buffer.activeIdx).length :=
    (room _).trans_eq (Rcl.slots_length plain _).symm
  obtain ⟨pc, bytes, whole, run, returns⟩ := Rcl.readFromBuffer_run capacity
  rw [Rcl.DoubleBuffer.readFromBuffer_ok capacity, ← content] at whole
  cases whole
  exact ⟨pc, run, returns⟩

end

/-- If the last command published is not lost, the callback gets to it from wherever the link
stands by its own steps, and `read_command` then yields it, whatever became of earlier ones. -/
theorem lastCommand_arrives {config : Rcl.Config} {yaml : YamlCpp} {files : Text → Text}
    {baseSucceeds : Bool} {hardwareParameters : Text → Option Text}
    {hardware : ZenbeddedHardware scalars}
    (initialised : ZenbeddedHardware.onInit scalars baseSucceeds hardwareParameters
      (fun path => InterfaceSchema.fromYaml yaml (files path)) = some hardware)
    {client : ZenbeddedClient platform width Unit Unit}
    (deployed : Deployed config hardware.schema stateSize cmdSize client)
    {sub : ZenbeddedSub Callback} (passes : Passes sub cmdSize) {trace : List (Event scalars)}
    {link : Link scalars width}
    (reaches : Reaches (Link.Step sub cmdSize stateSize) (Link.start hardware client) trace link)
    {vector : List (Double scalars)} {payload : Bytes}
    (last : lastWritten trace = some (vector, payload)) :
    ReadAs scalars hardware.schema cmdSize payload (some vector) ∧
      (link.Settled → link.Reads cmdSize payload) ∧
      ∃ later after, Reaches (Link.CallbackStep sub cmdSize) link later after ∧
        after.Settled ∧ after.Reads cmdSize payload := by
  obtain ⟨laid, ready⟩ := onInit_laid initialised
  obtain ⟨-, -, -, -, fits⟩ := deployed.clean
  have start := deployed.commands_start hardware
  have room (index : Rcl.SlotIdx) : cmdSize.toNat ≤
      ((fun _ => List.replicate config.maxCmdBufferSize (0 : UInt8)) index : Bytes).length :=
    fits.trans_eq List.length_replicate.symm
  -- in this run and in every continuation of it that keeps the last command
  have settles {trace : List (Event scalars)} {link : Link scalars width}
      (reaches : Reaches (Link.Step sub cmdSize stateSize) (Link.start hardware client) trace link)
      (last : lastWritten trace = some (vector, payload)) (settled : link.Settled) :
      link.Reads cmdSize payload := by
    have buffer := command_projection reaches
    rw [start] at buffer
    exact settled.reads buffer room (lastWritten_newest laid ready deployed.commandStruct passes
      reaches rfl rfl last).2
  obtain ⟨encodes, -⟩ := lastWritten_newest laid ready deployed.commandStruct passes reaches rfl rfl
    last
  refine ⟨encodes.readAs laid deployed.commandStruct, settles reaches last, ?_⟩
  obtain ⟨later, after, further, settled⟩ := callback_settles start room reaches
  have kept : lastWritten (later ++ trace) = some (vector, payload) := by
    clear settled
    induction further with
    | start => exact last
    | step _ moved inductionHypothesis =>
        rw [List.cons_append, moved.lastWritten]
        exact inductionHypothesis
  have whole := reaches.trans (further.mono fun _ _ _ moved => moved.step)
  exact ⟨later, after, further, settled, settles whole kept settled⟩

/-- The first of two commands is lost and the second still on its way, while the control thread
holds a copy of a state and the application is in the middle of storing the next one. -/
def busyElsewhere : List (Action littleEndian (4 : Platform.host64.SizeT)) :=
  List.flatten
    [[.host (.activate ⟨true, true, true⟩), .host .write, .loseCommand 0,
        .host (.command 0 (CScalar.one .double)), .host .write, .writeState ⟨[0, 0, 64, 64], rfl⟩],
      List.replicate 6 .advanceWriteState, List.replicate 8 .publishState,
      [.writeState ⟨[0, 0, 96, 64], rfl⟩, .advanceWriteState, .advanceWriteState]]

set_option maxRecDepth 8192 in
theorem lastCommand_arrives_busyElsewhere :
    ∃ (client : ZenbeddedClient Platform.host64 64 Unit Unit) (trace : List (Event littleEndian))
      (link : Link littleEndian 64),
      perform (fun action link => link.act oneSub (2 : Platform.host64.SizeT) action)
        (Link.start Hardware.oneFieldHost client) busyElsewhere.reverse = some (trace, link) ∧
      link.toFirmware = [[1, 0]] ∧ link.tmp = some [0, 0, 64, 64] ∧
      ∃ later after,
        Reaches (Link.CallbackStep oneSub (2 : Platform.host64.SizeT)) link later after ∧
        after.Settled ∧ after.Reads (2 : Platform.host64.SizeT) [1, 0] := by
  obtain ⟨client, deployed⟩ := oneField_deployed
  obtain ⟨trace, link, run, queue, held, last⟩ : ∃ trace link,
      perform (fun action link => link.act oneSub (2 : Platform.host64.SizeT) action)
        (Link.start Hardware.oneFieldHost client) busyElsewhere.reverse = some (trace, link) ∧
      link.toFirmware = [[1, 0]] ∧ link.tmp = some [0, 0, 64, 64] ∧
      lastWritten trace = some ([CScalar.one .double], [1, 0]) := by
    rw [oneField_start deployed]
    exact ⟨_, _, rfl, rfl, rfl, rfl⟩
  have reaches : Reaches (Link.Step oneSub (2 : Platform.host64.SizeT) 4)
      (Link.start Hardware.oneFieldHost client) trace link :=
    perform_reaches (fun action _ _ _ acted => ⟨action, acted⟩) run
  have passes : Passes oneSub (2 : Platform.host64.SizeT) := ⟨rfl, by decide, by decide⟩
  obtain ⟨-, -, later, after, further, settled, reads⟩ :=
    lastCommand_arrives Hardware.oneFieldHost_initialised deployed passes reaches last
  exact ⟨client, trace, link, run, queue, held, later, after, further, settled, reads⟩

end Zenbedded.Tier2
