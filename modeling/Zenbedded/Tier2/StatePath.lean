import Zenbedded.Tier2.CommandPath

namespace Zenbedded.Tier2

open Zenbedded.Foundation Zenbedded.Schema
open Zenbedded.Transport (Platform ZenbeddedSub)
open Zenbedded.Hardware (Double ZenbeddedHardware RealtimeBuffer Laid Ready HoldsStates)
open Zenbedded.Rcl (RawValue ZenbeddedClient)

/-! # From `write_state` to the state interfaces

The copy that is published is put, perhaps lost, delivered to the callback of the
host, and found by `read` in a buffer that may still give it an older vector.
-/

variable {platform : Platform} {width : Nat} {Callback : Type} {scalars : Scalars}
  {schema : InterfaceSchema} {stateSize cmdSize : platform.SizeT}

def Event.payload : Event scalars → Option Bytes
  | .arrived payload => some payload
  | _ => none

/-- The samples whose callback has run at the host. -/
def arrived (trace : List (Event scalars)) : List Bytes := trace.filterMap Event.payload

theorem observe_payload (event : Hardware.Event scalars) (before after : Hardware.System scalars) :
    (observe event before after).payload = none := by
  cases event with
  | payload | command | read | write | activate | deactivate => rfl

theorem observe_state (event : Hardware.Event scalars) (before after : Hardware.System scalars) :
    (observe event before after).state = none := by
  cases event with
  | payload | command | read | write | activate | deactivate => rfl

section

variable {sub : ZenbeddedSub Callback} {first link : Link scalars width}
  {trace : List (Event scalars)}

/-- What is on its way or has arrived was copied by `zenoh_publish_state`, in this order. -/
theorem states_inOrder (reaches : Reaches (Link.Step sub cmdSize stateSize) first trace link)
    (free : first.tmp = none) (empty : first.toHost = []) :
    (link.tmp.toList ++ (link.toHost ++ arrived trace)).Sublist
      (Rcl.returned () (stateTrace trace)) := by
  induction reaches with
  | start =>
      rw [free, empty]
      exact .slnil
  | @step trace link event after _ moved inductionHypothesis =>
      cases moved.cases with
      | @host hostEvent host _ _ =>
          have unseen : arrived (observe hostEvent link.host host :: trace) = arrived trace :=
            List.filterMap_cons_none (observe_payload ..)
          have unstored : stateTrace (observe hostEvent link.host host :: trace) =
              stateTrace trace := List.filterMap_cons_none (observe_state ..)
          rw [unseen, unstored]
          exact inductionHypothesis
      | losesCommand | refusesCommand | beginsCommand | advancesCommand | readsCommand |
          beginsState | advancesState => exact inductionHypothesis
      | @publishesState readerEvent states free acted same =>
          rw [free] at inductionHypothesis
          have copied : Rcl.returned () (stateTrace (.states (.reader () readerEvent) :: trace)) =
              ((Rcl.Event.reader () readerEvent).result ()).toList ++
                Rcl.returned () (stateTrace trace) := by
            cases result : (Rcl.Event.reader () readerEvent).result () with
            | none => exact List.filterMap_cons_none result
            | some bytes => exact List.filterMap_cons_some result
          rw [copied]
          exact (List.Sublist.refl _).append inductionHypothesis
      | puts held =>
          rw [held] at inductionHypothesis
          exact inductionHypothesis
      | failsPut held =>
          rw [held] at inductionHypothesis
          exact (List.sublist_cons_self _ _).trans inductionHypothesis
      | losesState index =>
          exact ((List.Sublist.refl _).append
            ((List.eraseIdx_sublist _ _).append (List.Sublist.refl _))).trans inductionHypothesis
      | @arrives rest payload host last stepped =>
          rw [last, List.append_assoc, List.singleton_append] at inductionHypothesis
          exact inductionHypothesis

end

/-- The vectors up to the one last read, the newest first. -/
def upToSeen (buffer : RealtimeBuffer) : List Bytes :=
  (buffer.written.take (buffer.seen + 1)).reverse

theorem upToSeen_held (buffer : RealtimeBuffer) :
    upToSeen buffer = buffer.held :: (buffer.written.take buffer.seen).reverse := by
  have here : buffer.written[buffer.seen]? = some buffer.held :=
    List.getElem?_eq_getElem buffer.inRange
  rw [upToSeen, List.take_add_one, here, List.reverse_append]
  rfl

theorem upToSeen_write (buffer : RealtimeBuffer) (vector : Bytes) :
    upToSeen (buffer.writeFromNonRT vector) = upToSeen buffer := by
  have inRange : buffer.seen + 1 ≤ buffer.written.length := buffer.inRange
  simp only [upToSeen, RealtimeBuffer.writeFromNonRT]
  rw [List.take_append_of_le_length inRange]

/-- A read only moves on. -/
theorem upToSeen_read (buffer : RealtimeBuffer) (choice : Nat) :
    ∃ newer, upToSeen (buffer.readFromRT choice) = newer ++ upToSeen buffer := by
  have further : buffer.seen + 1 ≤ (buffer.readFromRT choice).seen + 1 :=
    Nat.succ_le_succ (Nat.le_max_left ..)
  have prefixed : (buffer.written.take (buffer.seen + 1)) <+:
      (buffer.written.take ((buffer.readFromRT choice).seen + 1)) :=
    List.take_prefix_take_left further
  obtain ⟨rest, split⟩ := prefixed
  refine ⟨rest.reverse, ?_⟩
  rw [upToSeen, upToSeen, ← List.reverse_append, split]
  rfl

def Event.vector : Event scalars → Option Bytes
  | .read held _ => some held
  | _ => none

/-- The vectors that the reads of the host got. -/
def vectors (trace : List (Event scalars)) : List Bytes := trace.filterMap Event.vector

/-- The buffer holds samples that have arrived behind what `on_init` has put there, and reads
follow its order. -/
structure Fed (schema : InterfaceSchema) (trace : List (Event scalars)) (buffer : RealtimeBuffer) :
    Prop where
  written : ∃ accepted : List Bytes,
    buffer.written.reverse = accepted ++ [List.replicate schema.stateBufferSize 0, []] ∧
      accepted.Sublist (arrived trace) ∧
      ∀ vector ∈ accepted, vector.length = schema.stateBufferSize
  read : Samples (vectors trace) (upToSeen buffer)

theorem Fed.quiet {trace : List (Event scalars)} {buffer : RealtimeBuffer}
    (fed : Fed schema trace buffer) {event : Event scalars} (noRead : event.vector = none) :
    Fed schema (event :: trace) buffer := by
  obtain ⟨⟨accepted, whole, order, sizes⟩, read⟩ := fed
  have unread : vectors (event :: trace) = vectors trace := List.filterMap_cons_none noRead
  have later : (arrived trace).Sublist (arrived (event :: trace)) :=
    (List.sublist_cons_self event trace).filterMap _
  exact ⟨⟨accepted, whole, order.trans later, sizes⟩, unread ▸ read⟩

theorem Fed.arrives {trace : List (Event scalars)} {buffer : RealtimeBuffer}
    (fed : Fed schema trace buffer) {payload : Bytes}
    (size : payload.length = schema.stateBufferSize) :
    Fed schema (.arrived payload :: trace) (buffer.writeFromNonRT payload) := by
  obtain ⟨⟨accepted, whole, order, sizes⟩, read⟩ := fed
  refine ⟨⟨payload :: accepted, ?_, order.cons_cons payload, ?_⟩, ?_⟩
  · rw [RealtimeBuffer.writeFromNonRT, List.reverse_append, whole]
    rfl
  · intro vector member
    rcases List.mem_cons.mp member with rfl | older
    · exact size
    · exact sizes vector older
  · rw [upToSeen_write]
    exact read

theorem Fed.reads {trace : List (Event scalars)} {buffer : RealtimeBuffer}
    (fed : Fed schema trace buffer) (choice : Nat) (states : List (Double scalars)) :
    Fed schema (.read (buffer.readFromRT choice).held states :: trace)
      (buffer.readFromRT choice) := by
  obtain ⟨⟨accepted, whole, order, sizes⟩, read⟩ := fed
  obtain ⟨newer, further⟩ := upToSeen_read buffer choice
  refine ⟨⟨accepted, whole, order, sizes⟩, ?_⟩
  have seen := read.grown newer
  rw [← further, upToSeen_held] at seen
  rw [upToSeen_held]
  exact seen.seen

theorem onActivate_stateBuffer (hardware : ZenbeddedHardware scalars) (id : Nat)
    (creation : Hardware.Creation) :
    (hardware.onActivate id creation).1.stateBuffer = hardware.stateBuffer := by
  delta ZenbeddedHardware.onActivate
  dsimp only
  split
  · rfl
  · split
    · rfl
    · split
      · rfl
      · rfl

/-- A step of the host other than the arrival of a sample. -/
theorem Fed.observe {trace : List (Event scalars)} {before after : Hardware.System scalars}
    (laid : Laid schema) (ready : Ready schema before.hardware)
    (fed : Fed schema trace before.hardware.stateBuffer) {event : Hardware.Event scalars}
    (outside : ∀ payload, event ≠ .payload payload) (stepped : before.step event = .ok after) :
    Fed schema (Tier2.observe event before after :: trace) after.hardware.stateBuffer := by
  cases event with
  | payload bytes => exact absurd rfl (outside bytes)
  | command index value =>
      cases stepped
      exact fed.quiet rfl
  | read choice =>
      rw [Hardware.System.step, Hardware.read_spec laid ready] at stepped
      cases stepped
      exact fed.reads choice _
  | write =>
      obtain ⟨⟨hardware, bytes⟩, written, same⟩ := bind_ok_iff.mp stepped
      cases same
      rcases (Hardware.write_spec laid ready).mp written with ⟨_, rfl, _⟩ | ⟨_, _, _, rfl, _⟩
      · exact fed.quiet rfl
      · exact fed.quiet rfl
  | activate creation =>
      cases stepped
      rw [onActivate_stateBuffer]
      exact fed.quiet rfl
  | deactivate =>
      cases stepped
      exact fed.quiet rfl

theorem Fed.onSample {trace : List (Event scalars)} {before after : Hardware.System scalars}
    (ready : Ready schema before.hardware) (fed : Fed schema trace before.hardware.stateBuffer)
    {payload : Bytes} (stepped : before.step (.payload payload) = .ok after) :
    Fed schema (.arrived payload :: trace) after.hardware.stateBuffer := by
  rw [Hardware.System.step] at stepped
  split at stepped
  · cases stepped
    rw [ZenbeddedHardware.onSample, ready.fixed]
    split
    · exact fed.quiet rfl
    · rename_i size
      exact fed.arrives (not_not.mp size)
  · cases stepped
    exact fed.quiet rfl

def Event.decoded (schema : InterfaceSchema) : Event scalars → Option (List (Double scalars))
  | .read held decoded => if held.length = schema.stateBufferSize then some decoded else none
  | _ => none

/-- The state interfaces after each `read` that found a vector of the right size. -/
def statesRead (schema : InterfaceSchema) (trace : List (Event scalars)) :
    List (List (Double scalars)) :=
  trace.filterMap (Event.decoded schema)

def sized (schema : InterfaceSchema) (vector : Bytes) : Bool :=
  vector.length = schema.stateBufferSize

theorem observe_decoded {before after : Hardware.System scalars} (laid : Laid schema)
    (ready : Ready schema before.hardware) {event : Hardware.Event scalars}
    (stepped : before.step event = .ok after) :
    (observe event before after).decoded schema =
      ((observe event before after).vector.filter (sized schema)).map
        (Hardware.decodeStates scalars schema) := by
  cases event with
  | payload | command | write | activate | deactivate => rfl
  | read choice =>
      rw [Hardware.System.step, Hardware.read_spec laid ready] at stepped
      cases stepped
      simp only [observe, Event.decoded, Event.vector, Hardware.afterRead, Option.filter_some, sized,
        decide_eq_true_eq]
      split
      · rfl
      · rfl

section

variable {sub : ZenbeddedSub Callback} {first link : Link scalars width}
  {trace : List (Event scalars)}

theorem link_fed (laid : Laid schema) (ready : Ready schema first.host.hardware)
    (initial : Fed schema ([] : List (Event scalars)) first.host.hardware.stateBuffer)
    (reaches : Reaches (Link.Step sub cmdSize stateSize) first trace link) :
    Fed schema trace link.host.hardware.stateBuffer := by
  induction reaches with
  | start => exact initial
  | step reaches moved inductionHypothesis =>
      have readyNow := link_ready laid ready reaches
      cases moved.cases with
      | host outside stepped => exact inductionHypothesis.observe laid readyNow outside stepped
      | arrives last stepped => exact inductionHypothesis.onSample readyNow stepped
      | losesCommand | refusesCommand | beginsCommand | advancesCommand | readsCommand |
          beginsState | advancesState | publishesState | puts | failsPut | losesState =>
          exact inductionHypothesis.quiet rfl

theorem statesRead_decoded (laid : Laid schema) (ready : Ready schema first.host.hardware)
    (reaches : Reaches (Link.Step sub cmdSize stateSize) first trace link) :
    statesRead schema trace =
      ((vectors trace).filter (sized schema)).map (Hardware.decodeStates scalars schema) := by
  induction reaches with
  | start => rfl
  | @step trace link event after reaches moved inductionHypothesis =>
      have here : event.decoded schema =
          (event.vector.filter (sized schema)).map (Hardware.decodeStates scalars schema) := by
        cases moved.cases with
        | host outside stepped => exact observe_decoded laid (link_ready laid ready reaches) stepped
        | losesCommand | refusesCommand | beginsCommand | advancesCommand | readsCommand |
            beginsState | advancesState | publishesState | puts | failsPut | losesState | arrives =>
            rfl
      simp only [statesRead, vectors, List.filterMap_cons] at inductionHypothesis ⊢
      rw [here, inductionHypothesis]
      cases event.vector with
      | none => rfl
      | some vector =>
          simp only [Option.filter_some, List.filter_cons]
          by_cases whole : sized schema vector = true
          · simp only [if_pos whole]
            rfl
          · simp only [if_neg whole]
            rfl

end

/-- What `read` finds are samples accepted, and at first zeros. -/
theorem Fed.sized {trace : List (Event scalars)} {buffer : RealtimeBuffer}
    (fed : Fed schema trace buffer) :
    ∃ accepted : List Bytes, accepted.Sublist (arrived trace) ∧
      Samples ((vectors trace).filter (Tier2.sized schema))
        (accepted ++ [List.replicate schema.stateBufferSize 0]) := by
  obtain ⟨⟨accepted, whole, order, sizes⟩, read⟩ := fed
  refine ⟨accepted, order, ?_⟩
  have within : (upToSeen buffer).Sublist buffer.written.reverse :=
    (List.take_sublist _ _).reverse
  have found := (read.trans (.of_sublist within)).filter (Tier2.sized schema)
  have kept : accepted.filter (Tier2.sized schema) = accepted :=
    List.filter_eq_self.mpr fun vector member => by simpa [Tier2.sized] using sizes vector member
  rw [whole, List.filter_append, kept] at found
  apply found.trans
  -- with no state at all the default vector is one of zeros, too
  by_cases none : schema.stateBufferSize = 0
  · have twice : Samples ((accepted ++ [[]]) ++ [[]]) (accepted ++ [([] : Bytes)]) :=
      (Samples.of_sublist (List.Sublist.refl _)).oldest
    simpa [Tier2.sized, none] using twice
  · have alone : Samples (accepted ++ [List.replicate schema.stateBufferSize 0])
        (accepted ++ [List.replicate schema.stateBufferSize (0 : UInt8)]) :=
      .of_sublist (List.Sublist.refl _)
    simpa [Tier2.sized, Ne.symm none] using alone

/-- What the host reads in a run on a schema that is laid out. -/
theorem statesRead_structs {config : Rcl.Config} {hardware : ZenbeddedHardware scalars}
    (laid : Laid hardware.schema) (ready : Ready hardware.schema hardware)
    (stateBuffer : hardware.stateBuffer = RealtimeBuffer.initial.writeFromNonRT
      (List.replicate hardware.schema.stateBufferSize 0))
    {client : ZenbeddedClient platform width Unit Unit}
    (deployed : Deployed config hardware.schema stateSize cmdSize client)
    {sub : ZenbeddedSub Callback} {trace : List (Event scalars)} {link : Link scalars width}
    (reaches : Reaches (Link.Step sub cmdSize stateSize) (Link.start hardware client) trace link)
    (brisk : Rcl.Brisk width (stateTrace trace)) :
    ∃ structs : List Bytes, Samples structs
        (Rcl.committed (stateTrace trace) ++ [List.replicate stateSize.toNat 0]) ∧
      (∀ struct ∈ structs, struct.length = hardware.schema.stateBufferSize) ∧
      statesRead hardware.schema trace =
        structs.map (Hardware.decodeStates scalars hardware.schema) := by
  have same : stateSize.toNat = hardware.schema.stateBufferSize := by
    rw [deployed.stateStruct]
    exact laid.state.size
  obtain ⟨-, -, -, fits, -⟩ := deployed.clean
  have buffer := state_projection reaches
  rw [deployed.states_start] at buffer
  have sampled := Rcl.returned_samples_committed buffer
    (fun _ => fits.trans_eq List.length_replicate.symm) brisk ()
  rw [List.take_replicate, Nat.min_eq_left fits] at sampled
  have inOrder : (arrived trace).Sublist (Rcl.returned () (stateTrace trace)) :=
    ((List.sublist_append_right _ _).trans (List.sublist_append_right _ _)).trans
      (states_inOrder reaches rfl rfl)
  have initial : Fed hardware.schema ([] : List (Event scalars)) hardware.stateBuffer := by
    rw [stateBuffer]
    exact ⟨⟨[], rfl, .slnil, by simp⟩, .none _⟩
  obtain ⟨accepted, order, found⟩ := (link_fed laid ready initial reaches).sized
  have origin : Samples accepted
      (Rcl.committed (stateTrace trace) ++ [List.replicate stateSize.toNat 0]) :=
    (Samples.of_sublist (order.trans inOrder)).trans sampled
  rw [same] at origin ⊢
  refine ⟨_, found.trans origin.oldest, ?_, statesRead_decoded laid ready reaches⟩
  intro struct member
  exact of_decide_eq_true (List.mem_filter.mp member).2

theorem onInit_stateBuffer {yaml : YamlCpp} {files : Text → Text} {baseSucceeds : Bool}
    {hardwareParameters : Text → Option Text} {hardware : ZenbeddedHardware scalars}
    (initialised : ZenbeddedHardware.onInit scalars baseSucceeds hardwareParameters
      (fun path => InterfaceSchema.fromYaml yaml (files path)) = some hardware) :
    hardware.stateBuffer = RealtimeBuffer.initial.writeFromNonRT
      (List.replicate hardware.schema.stateBufferSize 0) := by
  obtain ⟨schemaPath, path, valid, ready, -, -, stateBuffer, -⟩ :=
    Hardware.onInit_ready initialised
  rw [ready.fixed]
  exact stateBuffer

/-- The state interfaces hold zeros at first and then structs that `write_state` has committed, each
whole and none behind one read before, with fewer than 2^w commits in each attempt to publish. -/
theorem states_endToEnd {config : Rcl.Config} {yaml : YamlCpp} {files : Text → Text}
    {baseSucceeds : Bool} {hardwareParameters : Text → Option Text}
    {hardware : ZenbeddedHardware scalars}
    (initialised : ZenbeddedHardware.onInit scalars baseSucceeds hardwareParameters
      (fun path => InterfaceSchema.fromYaml yaml (files path)) = some hardware)
    {client : ZenbeddedClient platform width Unit Unit}
    (deployed : Deployed config hardware.schema stateSize cmdSize client)
    {sub : ZenbeddedSub Callback} {trace : List (Event scalars)} {link : Link scalars width}
    (reaches : Reaches (Link.Step sub cmdSize stateSize) (Link.start hardware client) trace link)
    (brisk : Rcl.Brisk width (stateTrace trace)) :
    ∃ structs, Samples structs
        (Rcl.committed (stateTrace trace) ++ [List.replicate stateSize.toNat 0]) ∧
      List.Forall₂ (HoldsStates scalars hardware.schema.stateFlatFields) structs
        (statesRead hardware.schema trace) := by
  obtain ⟨laid, ready⟩ := onInit_laid initialised
  obtain ⟨structs, order, sizes, read⟩ :=
    statesRead_structs laid ready (onInit_stateBuffer initialised) deployed reaches brisk
  refine ⟨structs, order, ?_⟩
  rw [read, List.forall₂_map_right_iff, List.forall₂_same]
  intro struct member
  exact Hardware.holdsStates_decoded laid (sizes struct member)

/-- The firmware writes and publishes a state, and the host gets it and reads it. -/
def stateRound (value : RawValue (4 : Platform.host64.SizeT)) (choice : Nat) :
    List (Action littleEndian (4 : Platform.host64.SizeT)) :=
  List.flatten
    [[.writeState value], List.replicate 6 .advanceWriteState, List.replicate 8 .publishState,
      [.put true, .deliverState, .host (.read choice)]]

def twoStates : List (Action littleEndian (4 : Platform.host64.SizeT)) :=
  .host (.activate ⟨true, true, true⟩) ::
    (stateRound ⟨[0, 0, 128, 63], rfl⟩ 2 ++ stateRound ⟨[0, 0, 0, 0], rfl⟩ 3)

theorem twoStates_run :
    (perform (fun action link => link.act oneSub (2 : Platform.host64.SizeT) action) oneFieldLink
      twoStates.reverse).map (fun run =>
        ((statesRead Hardware.oneFieldSchema run.1 : List (List (BitVec 64))),
          Rcl.commits (stateTrace run.1), Rcl.committed (stateTrace run.1))) =
      some ([[0], [0x3FF0000000000000]], 2, [[0, 0, 0, 0], [0, 0, 128, 63]]) := by
  decide +kernel

theorem states_endToEnd_twoStates :
    ∃ (client : ZenbeddedClient Platform.host64 64 Unit Unit) (trace : List (Event littleEndian))
      (link : Link littleEndian 64) (structs : List Bytes),
      perform (fun action link => link.act oneSub (2 : Platform.host64.SizeT) action)
        (Link.start Hardware.oneFieldHost client) twoStates.reverse = some (trace, link) ∧
      statesRead Hardware.oneFieldSchema trace = [[littleEndian.zero], [CScalar.one .double]] ∧
      Samples structs [[0, 0, 0, 0], [0, 0, 128, 63], [0, 0, 0, 0]] ∧
      List.Forall₂ (HoldsStates littleEndian Hardware.oneFieldSchema.stateFlatFields) structs
        [[littleEndian.zero], [CScalar.one .double]] := by
  obtain ⟨client, deployed⟩ := oneField_deployed
  obtain ⟨⟨trace, link⟩, run, seen⟩ := Option.map_eq_some_iff.mp twoStates_run
  obtain ⟨vectors, seen⟩ := Prod.mk.inj seen
  obtain ⟨few, written⟩ := Prod.mk.inj seen
  have read : statesRead Hardware.oneFieldSchema trace =
      [[littleEndian.zero], [CScalar.one .double]] := vectors
  rw [← oneField_start deployed] at run
  have reaches : Reaches (Link.Step oneSub (2 : Platform.host64.SizeT) 4)
      (Link.start Hardware.oneFieldHost client) trace link :=
    perform_reaches (fun action _ _ _ acted => ⟨action, acted⟩) run
  obtain ⟨structs, order, each⟩ := states_endToEnd Hardware.oneFieldHost_initialised deployed
    reaches (Rcl.brisk_of_few (by rw [few]; decide))
  rw [written] at order
  have inSchema : Hardware.oneFieldHost.schema = Hardware.oneFieldSchema := rfl
  rw [inSchema, read] at each
  exact ⟨client, trace, link, structs, run, read, order, each⟩

end Zenbedded.Tier2
