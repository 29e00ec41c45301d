import Mathlib.Data.List.Flatten
import Zenbedded.Hardware.Resources

namespace Zenbedded.Hardware

open Zenbedded.Foundation Zenbedded.Schema
open ZenbeddedHardware (orZero)

/-! # What an activation starts from

The commands a cycle publishes and the states a read leaves, compared with what
controllers and firmware have sent since the activation.
-/

variable {scalars : Scalars} {schema : InterfaceSchema} {hardware : ZenbeddedHardware scalars}
  {system after : System scalars} {later : List (Event scalars)}

def Creation.Complete (creation : Creation) : Prop :=
  creation.session = true ∧ creation.subscriber = true ∧ creation.publisher = true

instance (creation : Creation) : Decidable creation.Complete :=
  inferInstanceAs (Decidable (_ ∧ _ ∧ _))

def commandAfter (commands : List (Double scalars)) : Event scalars → List (Double scalars)
  | .command index value => commands.set index value
  | .activate creation => if creation.Complete then commands.map orZero else commands
  | _ => commands

/-- The commands as controllers have set them since, 0 where none has. -/
def commandsSince (scalars : Scalars) (schema : InterfaceSchema) (later : List (Event scalars)) :
    List (Double scalars) :=
  later.foldl commandAfter (List.replicate schema.commandFlatFields.length scalars.zero)

def payloadsSince (later : List (Event scalars)) : List Bytes :=
  later.filterMap fun
    | .payload bytes => some bytes
    | _ => none

/-- Every state is 0 or comes from one of the payloads. -/
def StatesFrom (scalars : Scalars) (schema : InterfaceSchema) (payloads : List Bytes)
    (states : List (Double scalars)) : Prop :=
  ∀ (index : Nat) (value : Double scalars), states[index]? = some value → value = scalars.zero ∨
    ∃ payload ∈ payloads, payload.length = schema.stateBufferSize ∧
      (decodeStates scalars schema payload)[index]? = some value

/-- An activation from which controllers and firmware decide every value anew. -/
def StartsAfresh (schema : InterfaceSchema) (active : System scalars) : Prop :=
  ∀ later system, active.run later = .ok system →
    (∀ encoded, system.hardware.commandPub.isSome = true →
      encodeCommands scalars schema (commandsSince scalars schema later) = some encoded →
      ∃ after, system.hardware.write = .ok (after, some encoded.flatten)) ∧
    ∀ choice after, system.hardware.read choice = .ok after →
      StatesFrom scalars schema (payloadsSince later) after.hwStates

/-- Before the activation every command is NaN or is sent as 0 is, and whatever the
real-time buffer can still deliver leaves every state 0. -/
structure Fresh (schema : InterfaceSchema) (hardware : ZenbeddedHardware scalars) : Prop where
  commands : ∀ (index : Nat) (field : FlatField) (value : Double scalars),
    schema.commandFlatFields[index]? = some field →
    hardware.hwCommands[index]? = some value →
    encodeField scalars (field, orZero value) = encodeField scalars (field, scalars.zero)
  states : ∀ (index : Nat) (vector : Bytes), hardware.stateBuffer.seen ≤ index →
    hardware.stateBuffer.written[index]? = some vector →
    ∀ value ∈ (if vector.length = schema.stateBufferSize then decodeStates scalars schema vector
      else hardware.hwStates.map orZero), value = scalars.zero

theorem commandsSince_append (later : List (Event scalars)) (event : Event scalars) :
    commandsSince scalars schema (later ++ [event]) =
      commandAfter (commandsSince scalars schema later) event := by
  rw [commandsSince, List.foldl_append]
  rfl

/-- Without a command since, the commands are all 0. -/
theorem commandsSince_none (none : ∀ index value, Event.command index value ∉ later) :
    commandsSince scalars schema later =
      List.replicate schema.commandFlatFields.length scalars.zero := by
  induction later using List.reverseRecOn with
  | nil => rfl
  | append_singleton later event ih =>
      rw [commandsSince_append, ih fun index value inside =>
        none index value (List.mem_append_left _ inside)]
      cases event with
      | command index value =>
          exact absurd (List.mem_append_right _ (List.mem_singleton_self _)) (none index value)
      | activate creation =>
          simp only [commandAfter]
          split
          · rw [List.map_replicate, orZero, scalars.isNan_zero, if_neg Bool.false_ne_true]
          · rfl
      | payload bytes => rfl
      | read choice => rfl
      | write => rfl
      | deactivate => rfl

theorem StatesFrom.more {payloads : List Bytes} {states : List (Double scalars)}
    (fresh : StatesFrom scalars schema payloads states) (more : List Bytes) :
    StatesFrom scalars schema (payloads ++ more) states := by
  intro index value here
  rcases fresh index value here with zero | ⟨payload, inside, decoded⟩
  · exact .inl zero
  · exact .inr ⟨payload, List.mem_append_left _ inside, decoded⟩

theorem orZero_eq (value : Double scalars) : orZero value = value ∨ orZero value = scalars.zero := by
  rw [orZero]
  split
  · exact .inr rfl
  · exact .inl rfl

theorem StatesFrom.orZero {payloads : List Bytes} {states : List (Double scalars)}
    (fresh : StatesFrom scalars schema payloads states) :
    StatesFrom scalars schema payloads (states.map orZero) := by
  intro index value here
  rw [List.getElem?_map] at here
  obtain ⟨old, listed, rfl⟩ := Option.map_eq_some_iff.mp here
  rcases orZero_eq old with same | zero
  · rw [same]
    exact fresh index old listed
  · exact .inl zero

theorem RealtimeBuffer.written_seen (buffer : RealtimeBuffer) :
    buffer.written[buffer.seen]? = some buffer.held :=
  List.getElem?_eq_getElem buffer.inRange

theorem RealtimeBuffer.seen_readFromRT (buffer : RealtimeBuffer) (choice : Nat) :
    buffer.seen ≤ (buffer.readFromRT choice).seen := Nat.le_max_left _ _

/-- Any vector not older than the one last read can be read next. -/
theorem RealtimeBuffer.held_readFromRT {buffer : RealtimeBuffer} {index : Nat} {vector : Bytes}
    (recent : buffer.seen ≤ index) (here : buffer.written[index]? = some vector) :
    (buffer.readFromRT index).held = vector := by
  have inside := (List.getElem?_eq_some_iff.mp here).1
  have place : (buffer.readFromRT index).seen = index := by
    simp only [readFromRT]
    omega
  have held := (buffer.readFromRT index).written_seen
  rw [place] at held
  exact Option.some.inj (held.symm.trans here)

/-- Commands and states since an activation, with what is left of the time before it. -/
structure SinceActivation (schema : InterfaceSchema) (later : List (Event scalars))
    (hardware : ZenbeddedHardware scalars) : Prop where
  count : (commandsSince scalars schema later).length = schema.commandFlatFields.length
  commands : ∀ (index : Nat) (field : FlatField) (value since : Double scalars),
    schema.commandFlatFields[index]? = some field →
    hardware.hwCommands[index]? = some value →
    (commandsSince scalars schema later)[index]? = some since →
    value = since ∨ (scalars.isNan value = false ∧ since = scalars.zero ∧
      encodeField scalars (field, value) = encodeField scalars (field, scalars.zero))
  vectors : ∀ (index : Nat) (vector : Bytes), hardware.stateBuffer.seen ≤ index →
    hardware.stateBuffer.written[index]? = some vector →
    StatesFrom scalars schema (payloadsSince later)
      (if vector.length = schema.stateBufferSize then decodeStates scalars schema vector
        else hardware.hwStates)

/-- An event that touches neither commands nor states keeps the invariant. -/
theorem SinceActivation.quiet {event : Event scalars} {next : ZenbeddedHardware scalars}
    (since : SinceActivation schema later hardware)
    (command : ∀ commands : List (Double scalars), commandAfter commands event = commands)
    (hwCommands : next.hwCommands = hardware.hwCommands)
    (stateBuffer : next.stateBuffer = hardware.stateBuffer)
    (hwStates : next.hwStates = hardware.hwStates) :
    SinceActivation schema (later ++ [event]) next where
  count := by
    rw [commandsSince_append, command]
    exact since.count
  commands := by
    rw [commandsSince_append, command, hwCommands]
    exact since.commands
  vectors := by
    intro index vector recent here
    rw [stateBuffer] at recent here
    rw [hwStates, payloadsSince, List.filterMap_append]
    exact (since.vectors index vector recent here).more _

theorem SinceActivation.payload (since : SinceActivation schema later hardware) {bytes : Bytes}
    (size : bytes.length = schema.stateBufferSize) :
    SinceActivation schema (later ++ [.payload bytes])
      { hardware with stateBuffer := hardware.stateBuffer.writeFromNonRT bytes } where
  count := by
    rw [commandsSince_append]
    exact since.count
  commands := by
    rw [commandsSince_append]
    exact since.commands
  vectors := by
    intro index vector recent here
    rw [payloadsSince, List.filterMap_append]
    simp only [RealtimeBuffer.writeFromNonRT] at recent here
    rcases Nat.lt_or_ge index hardware.stateBuffer.written.length with old | new
    · rw [List.getElem?_append_left old] at here
      exact (since.vectors index vector recent here).more _
    · rw [List.getElem?_append_right new, List.getElem?_singleton] at here
      split at here
      · cases here
        rw [if_pos size]
        intro place value decoded
        exact .inr ⟨bytes, List.mem_append_right _ (List.mem_singleton_self bytes), size, decoded⟩
      · contradiction

theorem SinceActivation.command (since : SinceActivation schema later hardware) (place : Nat)
    (set : Double scalars) :
    SinceActivation schema (later ++ [.command place set])
      { hardware with hwCommands := hardware.hwCommands.set place set } where
  count := by
    rw [commandsSince_append, commandAfter, List.length_set]
    exact since.count
  commands := by
    intro index field value now listed here there
    rw [commandsSince_append, commandAfter] at there
    rw [List.getElem?_set] at here there
    by_cases same : place = index
    · rw [if_pos same] at here there
      split at here
      · split at there
        · cases here
          cases there
          exact .inl rfl
        · contradiction
      · contradiction
    · rw [if_neg same] at here there
      exact since.commands index field value now listed here there
  vectors := by
    intro index vector recent here
    rw [payloadsSince, List.filterMap_append]
    exact (since.vectors index vector recent here).more _

theorem SinceActivation.read (since : SinceActivation schema later hardware) (choice : Nat) :
    StatesFrom scalars schema (payloadsSince later) (afterRead schema hardware choice).hwStates ∧
      SinceActivation schema (later ++ [.read choice]) (afterRead schema hardware choice) := by
  have newer := hardware.stateBuffer.seen_readFromRT choice
  have states := since.vectors _ _ newer (hardware.stateBuffer.readFromRT choice).written_seen
  refine ⟨states, ?_, ?_, ?_⟩
  · rw [commandsSince_append]
    exact since.count
  · rw [commandsSince_append]
    exact since.commands
  · intro index vector recent here
    rw [payloadsSince, List.filterMap_append]
    have old := since.vectors index vector (Nat.le_trans newer recent) here
    split
    · next size =>
        rw [if_pos size] at old
        exact old.more _
    · exact states.more _

theorem SinceActivation.activate (since : SinceActivation schema later hardware)
    {creation : Creation} (complete : creation.Complete) {next : ZenbeddedHardware scalars}
    (stateBuffer : next.stateBuffer = hardware.stateBuffer)
    (hwStates : next.hwStates = hardware.hwStates.map orZero)
    (hwCommands : next.hwCommands = hardware.hwCommands.map orZero) :
    SinceActivation schema (later ++ [.activate creation]) next where
  count := by
    rw [commandsSince_append, commandAfter, if_pos complete, List.length_map]
    exact since.count
  commands := by
    intro index field value now listed here there
    rw [commandsSince_append, commandAfter, if_pos complete, List.getElem?_map] at there
    rw [hwCommands, List.getElem?_map] at here
    obtain ⟨old, oldHere, rfl⟩ := Option.map_eq_some_iff.mp here
    obtain ⟨sinceOld, oldThere, rfl⟩ := Option.map_eq_some_iff.mp there
    rcases since.commands index field old sinceOld listed oldHere oldThere with
      rfl | ⟨number, rfl, alike⟩
    · exact .inl rfl
    · have kept : orZero old = old := by rw [orZero, number, if_neg Bool.false_ne_true]
      have zero : orZero scalars.zero = scalars.zero := by
        rw [orZero, scalars.isNan_zero, if_neg Bool.false_ne_true]
      rw [kept, zero]
      exact .inr ⟨number, rfl, alike⟩
  vectors := by
    intro index vector recent here
    rw [stateBuffer] at recent here
    rw [payloadsSince, List.filterMap_append, hwStates]
    have old := since.vectors index vector recent here
    split
    · next size =>
        rw [if_pos size] at old
        exact old.more _
    · next size =>
        rw [if_neg size] at old
        exact old.orZero.more _

theorem step_since (laid : Laid schema) (event : Event scalars)
    (ready : Ready schema system.hardware) (since : SinceActivation schema later system.hardware)
    (stepped : system.step event = .ok after) :
    SinceActivation schema (later ++ [event]) after.hardware := by
  cases event with
  | payload bytes =>
      simp only [System.step] at stepped
      split at stepped
      · cases stepped
        simp only [ZenbeddedHardware.onSample]
        split
        · exact since.quiet (fun _ => rfl) rfl rfl rfl
        · next size =>
            rw [ready.fixed] at size
            exact since.payload (not_not.mp size)
      · cases stepped
        exact since.quiet (fun _ => rfl) rfl rfl rfl
  | command index value =>
      cases stepped
      exact since.command index value
  | read choice =>
      rw [System.step, read_spec laid ready] at stepped
      cases stepped
      exact (since.read choice).2
  | write =>
      obtain ⟨result, written, same⟩ := bind_ok_iff.mp stepped
      cases same
      rcases (write_spec laid ready).mp written with ⟨-, unchanged, -⟩ | ⟨-, encoded, -, rewritten, -⟩
      · rw [unchanged]
        exact since.quiet (fun _ => rfl) rfl rfl rfl
      · rw [rewritten]
        exact since.quiet (fun _ => rfl) rfl rfl rfl
  | activate creation =>
      cases stepped
      by_cases complete : creation.Complete
      · obtain ⟨next, activated, -, stateBuffer, hwStates, hwCommands⟩ :=
          onActivate_success system.hardware system.opened complete.1 complete.2.1 complete.2.2
        rw [activated]
        exact since.activate complete stateBuffer hwStates hwCommands
      · obtain ⟨next, failed, -, stateBuffer, hwStates, hwCommands⟩ :=
          onActivate_failure system.hardware system.opened complete
        rw [failed]
        exact since.quiet (fun _ => if_neg complete) hwCommands stateBuffer hwStates
  | deactivate =>
      cases stepped
      exact since.quiet (fun _ => rfl) rfl rfl rfl

theorem run_since (laid : Laid schema) (ready : Ready schema system.hardware)
    (since : SinceActivation schema ([] : List (Event scalars)) system.hardware)
    (run : system.run later = .ok after) : SinceActivation schema later after.hardware := by
  induction later using List.reverseRecOn generalizing after with
  | nil =>
      cases run
      exact since
  | append_singleton events event ih =>
      obtain ⟨before, first, last⟩ := run_concat.mp run
      exact step_since laid event (run_ready laid ready first) (ih first) last

theorem encodeCommands_congr {first second : List (Double scalars)}
    (firstCount : first.length = schema.commandFlatFields.length)
    (secondCount : second.length = schema.commandFlatFields.length)
    (alike : ∀ (index : Nat) (field : FlatField) (one other : Double scalars),
      schema.commandFlatFields[index]? = some field → first[index]? = some one →
      second[index]? = some other →
      encodeField scalars (field, one) = encodeField scalars (field, other)) :
    encodeCommands scalars schema first = encodeCommands scalars schema second := by
  rw [encodeCommands, encodeCommands]
  generalize schema.commandFlatFields = fields at firstCount secondCount alike
  induction fields generalizing first second with
  | nil => rfl
  | cons field fields ih =>
      cases first with
      | nil => contradiction
      | cons one first =>
          cases second with
          | nil => contradiction
          | cons other second =>
              rw [List.zip_cons_cons, List.zip_cons_cons, List.mapM_cons, List.mapM_cons,
                alike 0 field one other rfl rfl rfl,
                ih (Nat.succ.inj firstCount) (Nat.succ.inj secondCount)
                  fun index => alike (index + 1)]

/-- Equal bytes encode each command alike. -/
theorem encodeCommands_inj {first second : List (Double scalars)} {encoded other : List Bytes}
    (laid : Laid schema) (firstCount : first.length = schema.commandFlatFields.length)
    (secondCount : second.length = schema.commandFlatFields.length)
    (firstDefined : encodeCommands scalars schema first = some encoded)
    (secondDefined : encodeCommands scalars schema second = some other)
    (same : encoded.flatten = other.flatten) : encoded = other := by
  have zeros : (List.replicate schema.commandBufferSize (0 : UInt8)).length =
      schema.commandBufferSize := List.length_replicate
  have firstParts := (writeAll_ok laid zeros firstCount firstDefined).2
  have secondParts := (writeAll_ok laid zeros secondCount secondDefined).2
  exact List.eq_iff_flatten_eq.mpr ⟨same, firstParts.trans secondParts.symm⟩

theorem zeroCommands_defined (scalars : Scalars) (schema : InterfaceSchema) :
    ∃ encoded, encodeCommands scalars schema
      (List.replicate schema.commandFlatFields.length scalars.zero) = some encoded := by
  apply Option.ne_none_iff_exists'.mp
  apply mapM_ne_none_iff.mpr
  intro pair inside
  obtain ⟨field, value⟩ := pair
  obtain ⟨index, here⟩ := List.mem_iff_getElem?.mp inside
  obtain ⟨-, commanded⟩ := List.getElem?_zip_eq_some.mp here
  have zero : value = scalars.zero :=
    List.eq_of_mem_replicate (List.mem_of_getElem? commanded)
  obtain ⟨narrowed, defined⟩ := scalars.narrow_zero field.type.scalar
  rw [encodeField, zero, defined]
  exact Option.some_ne_none _

theorem Fresh.since (fresh : Fresh schema hardware) {next : ZenbeddedHardware scalars}
    (stateBuffer : next.stateBuffer = hardware.stateBuffer)
    (hwStates : next.hwStates = hardware.hwStates.map orZero)
    (hwCommands : next.hwCommands = hardware.hwCommands.map orZero) :
    SinceActivation schema ([] : List (Event scalars)) next where
  count := List.length_replicate
  commands := by
    intro index field value since listed here there
    rw [hwCommands, List.getElem?_map] at here
    obtain ⟨old, oldHere, rfl⟩ := Option.map_eq_some_iff.mp here
    have zero : since = scalars.zero := List.eq_of_mem_replicate (List.mem_of_getElem? there)
    cases number : scalars.isNan old with
    | true =>
        left
        rw [zero, orZero, if_pos number]
    | false =>
        right
        refine ⟨?_, zero, fresh.commands index field old listed oldHere⟩
        rw [orZero, number, if_neg Bool.false_ne_true]
        exact number
  vectors := by
    intro index vector recent here place value listed
    rw [stateBuffer] at recent here
    rw [hwStates] at listed
    exact .inl (fresh.states index vector recent here value (List.mem_of_getElem? listed))

theorem startsAfresh_of_since (laid : Laid schema) (ready : Ready schema system.hardware)
    (since : SinceActivation schema ([] : List (Event scalars)) system.hardware) :
    StartsAfresh schema system := by
  intro later state run
  have stateReady := run_ready laid ready run
  have stateSince := run_since laid ready since run
  constructor
  · intro encoded publisher defined
    have same : encodeCommands scalars schema state.hardware.hwCommands =
        encodeCommands scalars schema (commandsSince scalars schema later) := by
      apply encodeCommands_congr stateReady.commands stateSince.count
      intro index field value now listed here there
      rcases stateSince.commands index field value now listed here there with
        rfl | ⟨-, rfl, alike⟩
      · rfl
      · exact alike
    rw [defined] at same
    exact ⟨_, (write_spec laid stateReady).mpr (.inr ⟨publisher, encoded, same, rfl, rfl⟩)⟩
  · intro choice read done
    rw [read_spec laid stateReady] at done
    cases done
    exact (stateSince.read choice).1

theorem fresh_of_startsAfresh (laid : Laid schema)
    (stateBuffer : system.hardware.stateBuffer = hardware.stateBuffer)
    (hwStates : system.hardware.hwStates = hardware.hwStates.map orZero)
    (hwCommands : system.hardware.hwCommands = hardware.hwCommands.map orZero)
    (publisher : system.hardware.commandPub.isSome = true)
    (systemReady : Ready schema system.hardware) (afresh : StartsAfresh schema system) :
    Fresh schema hardware where
  commands := by
    intro index field value listed here
    obtain ⟨zeros, defined⟩ := zeroCommands_defined scalars schema
    obtain ⟨after, written⟩ := (afresh [] system rfl).1 zeros publisher defined
    rcases (write_spec laid systemReady).mp written with ⟨-, -, none⟩ | ⟨-, encoded, first, -, bytes⟩
    · contradiction
    · have same := encodeCommands_inj laid systemReady.commands List.length_replicate first defined
        (Option.some.inj bytes).symm
      have there : system.hardware.hwCommands[index]? = some (orZero value) := by
        rw [hwCommands, List.getElem?_map, here, Option.map_some]
      have inside := (List.getElem?_eq_some_iff.mp listed).1
      have zero : (List.replicate schema.commandFlatFields.length scalars.zero)[index]? =
          some scalars.zero := List.getElem?_replicate_of_lt inside
      obtain ⟨narrowed, converts, place⟩ := encodeCommands_getElem? first listed there
      obtain ⟨zeroNarrowed, zeroConverts, zeroPlace⟩ := encodeCommands_getElem? defined listed zero
      rw [same] at place
      rw [encodeField, encodeField, converts, zeroConverts, Option.map_some, Option.map_some]
      exact place.symm.trans zeroPlace
  states := by
    intro index vector recent here value inside
    rw [← stateBuffer] at recent here
    have read := (afresh [] system rfl).2 index _ (read_spec laid systemReady index)
    obtain ⟨place, listed⟩ := List.mem_iff_getElem?.mp inside
    rw [← hwStates] at listed
    have held := RealtimeBuffer.held_readFromRT recent here
    simp only [afterRead, held] at read
    rcases read place value listed with zero | ⟨payload, none, -⟩
    · exact zero
    · contradiction

/-- Every activation of a run starts afresh exactly where nothing was left over. -/
theorem activation_startsAfresh_iff (scalars : Scalars) {yaml : YamlCpp} {yamlText : Text}
    {baseSucceeds : Bool} {hardwareParameters : Text → Option Text}
    {fromYamlFile : Text → InterfaceSchema} {hardware : ZenbeddedHardware scalars}
    {creation : Creation} (complete : creation.Complete)
    (file : ∀ schemaPath, hardwareParameters "schema_path".toList = some schemaPath →
      fromYamlFile schemaPath = InterfaceSchema.fromYaml yaml yamlText)
    (initialised : ZenbeddedHardware.onInit scalars baseSucceeds hardwareParameters fromYamlFile =
      some hardware) (before : List (Event scalars)) {system active : System scalars}
    (run : (System.start hardware).run before = .ok system)
    (activated : system.step (.activate creation) = .ok active) :
    StartsAfresh hardware.schema active ↔ Fresh hardware.schema system.hardware := by
  obtain ⟨schemaPath, path, valid, ready, -⟩ := onInit_ready initialised
  rw [file schemaPath path] at valid ready
  have laid := laid_of_valid valid
  rw [ready.fixed]
  have systemReady := run_ready laid ready run
  have activeReady := step_ready laid _ systemReady activated
  obtain ⟨next, done, holding, stateBuffer, hwStates, hwCommands⟩ :=
    onActivate_success system.hardware system.opened complete.1 complete.2.1 complete.2.2
  cases activated
  rw [done] at activeReady ⊢
  obtain ⟨_, _, commandPub, -, -, publisher, -⟩ := holding
  constructor
  · apply fresh_of_startsAfresh laid stateBuffer hwStates hwCommands _ activeReady
    rw [publisher]
    rfl
  · intro fresh
    exact startsAfresh_of_since laid activeReady (fresh.since stateBuffer hwStates hwCommands)

/-- A session that ends with the second command back at 0 and a payload of zeros read. -/
def clearedSession : List (Event littleEndian) :=
  [.activate ⟨true, true, true⟩, .command 1 (CScalar.one .double), .write,
    .payload [1, 0, 0, 0, 0, 0, 0, 0, 240, 63], .read 2, .command 1 littleEndian.zero,
    .payload (List.replicate 10 0), .read 3, .deactivate]

theorem clearedSession_run :
    ∃ system, (System.start (twoFieldHost littleEndian)).run clearedSession = .ok system ∧
      system.published = [[0, 1, 0]] ∧ Fresh twoFieldSchema system.hardware := by
  obtain ⟨system, run, published, commands, recent⟩ : ∃ system,
      (System.start (twoFieldHost littleEndian)).run clearedSession = .ok system ∧
      system.published = [[0, 1, 0]] ∧
      system.hardware.hwCommands = [littleEndian.zero, littleEndian.zero] ∧
      system.hardware.stateBuffer.written.drop system.hardware.stateBuffer.seen =
        [List.replicate 10 0] := ⟨_, rfl, rfl, rfl, rfl⟩
  refine ⟨system, run, published, ?_⟩
  constructor
  · intro index field value listed here
    rw [commands] at here
    rcases List.mem_pair.mp (List.mem_of_getElem? here) with rfl | rfl
    · rfl
    · rfl
  · intro index vector later here value inside
    rw [← Nat.add_sub_cancel' later, ← List.getElem?_drop, recent] at here
    rw [List.mem_singleton.mp (List.mem_of_getElem? here)] at inside
    rcases List.mem_pair.mp inside with same | same
    · exact same
    · exact same

/-- The activation after that session. -/
theorem activation_startsAfresh_clearedSession :
    ∃ system active,
      (System.start (twoFieldHost littleEndian)).run clearedSession = .ok system ∧
      system.step (.activate ⟨true, true, true⟩) = .ok active ∧
      StartsAfresh twoFieldSchema active := by
  have complete : Creation.Complete ⟨true, true, true⟩ := ⟨rfl, rfl, rfl⟩
  obtain ⟨system, run, -, fresh⟩ := clearedSession_run
  exact ⟨system, _, run, rfl, (activation_startsAfresh_iff littleEndian complete
    twoFieldSchema_file (twoFieldHost_initialised littleEndian) clearedSession run rfl).mpr fresh⟩

/-- A command of the first session is sent in the second. -/
theorem activation_repeatsCommand :
    ¬ ∀ (before : List (Event littleEndian)) (creation : Creation)
        (system active : System littleEndian), creation.Complete →
      (System.start oneFieldHost).run before = .ok system →
      system.step (.activate creation) = .ok active → StartsAfresh oneFieldSchema active := by
  intro afresh
  have second := afresh
    [.activate ⟨true, true, true⟩, .command 0 (CScalar.one .double), .deactivate]
    ⟨true, true, true⟩ _ _ ⟨rfl, rfl, rfl⟩ rfl rfl
  obtain ⟨after, written⟩ := (second [] _ rfl).1 [[0, 0]] rfl rfl
  have sent : (some [1, 0] : Option Bytes) = some [0, 0] := congrArg
    (fun result : Except AccessFault (ZenbeddedHardware littleEndian × Option Bytes) =>
      (result.toOption.bind Prod.snd : Option Bytes)) written
  contradiction

end Zenbedded.Hardware
