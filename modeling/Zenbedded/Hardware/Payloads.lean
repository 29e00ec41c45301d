import Zenbedded.Hardware.Cycle

namespace Zenbedded.Hardware

open Zenbedded.Foundation Zenbedded.Schema

/-! # State payloads

Every vector of the real-time buffer but its default is a payload of the size of
the state section, so a read takes all states from one of them or none.
-/

variable {scalars : Scalars} {schema : InterfaceSchema} {system after : System scalars}
  {events : List (Event scalars)}

/-- The zero vector of `on_init` and the payloads of a run. -/
def offered (schema : InterfaceSchema) (events : List (Event scalars)) : List Bytes :=
  List.replicate schema.stateBufferSize 0 :: events.filterMap fun
    | .payload bytes => some bytes
    | _ => none

/-- The buffer holds its default vector, then offered vectors of the right size. -/
structure Buffered (schema : InterfaceSchema) (events : List (Event scalars))
    (buffer : RealtimeBuffer) : Prop where
  default : buffer.written[0]? = some []
  vectors : ∀ index vector, buffer.written[index + 1]? = some vector →
    vector ∈ offered schema events ∧ vector.length = schema.stateBufferSize

theorem Buffered.more {buffer : RealtimeBuffer} (buffered : Buffered schema events buffer)
    (later : List (Event scalars)) : Buffered schema (events ++ later) buffer where
  default := buffered.default
  vectors := by
    intro index vector here
    obtain ⟨inside, size⟩ := buffered.vectors index vector here
    refine ⟨?_, size⟩
    rw [offered, List.filterMap_append, ← List.cons_append]
    exact List.mem_append_left _ inside

theorem Buffered.write {buffer : RealtimeBuffer} {bytes : Bytes}
    (buffered : Buffered schema events buffer) (inside : bytes ∈ offered schema events)
    (size : bytes.length = schema.stateBufferSize) :
    Buffered schema events (buffer.writeFromNonRT bytes) where
  default := by
    have nonempty : 0 < buffer.written.length := (List.getElem?_eq_some_iff.mp buffered.default).1
    rw [RealtimeBuffer.writeFromNonRT, List.getElem?_append_left nonempty]
    exact buffered.default
  vectors := by
    intro index vector here
    rw [RealtimeBuffer.writeFromNonRT] at here
    rcases Nat.lt_or_ge (index + 1) buffer.written.length with old | new
    · rw [List.getElem?_append_left old] at here
      exact buffered.vectors index vector here
    · rw [List.getElem?_append_right new, List.getElem?_singleton] at here
      split at here
      · cases here
        exact ⟨inside, size⟩
      · contradiction

theorem Buffered.initial (schema : InterfaceSchema) :
    Buffered schema ([] : List (Event scalars)) (RealtimeBuffer.initial.writeFromNonRT
      (List.replicate schema.stateBufferSize 0)) := by
  have start : Buffered schema ([] : List (Event scalars)) .initial := by
    refine ⟨rfl, ?_⟩
    intro index vector here
    contradiction
  exact start.write List.mem_cons_self List.length_replicate

/-- A vector the reader can get is the default or an offered one of the right size. -/
theorem Buffered.held {buffer : RealtimeBuffer} (buffered : Buffered schema events buffer) :
    buffer.held = [] ∨
      (buffer.held ∈ offered schema events ∧ buffer.held.length = schema.stateBufferSize) := by
  have here : buffer.written[buffer.seen]? = some buffer.held :=
    List.getElem?_eq_getElem buffer.inRange
  cases place : buffer.seen with
  | zero =>
      rw [place, buffered.default] at here
      exact .inl (Option.some.inj here).symm
  | succ index =>
      rw [place] at here
      exact .inr (buffered.vectors index _ here)

theorem Buffered.read {buffer : RealtimeBuffer} (buffered : Buffered schema events buffer)
    (choice : Nat) : Buffered schema events (buffer.readFromRT choice) :=
  ⟨buffered.default, buffered.vectors⟩

theorem step_buffered (laid : Laid schema) (event : Event scalars)
    (ready : Ready schema system.hardware)
    (buffered : Buffered schema events system.hardware.stateBuffer)
    (stepped : system.step event = .ok after) :
    Buffered schema (events ++ [event]) after.hardware.stateBuffer := by
  have kept := buffered.more [event]
  cases event with
  | payload bytes =>
      simp only [System.step] at stepped
      split at stepped
      · cases stepped
        simp only [ZenbeddedHardware.onSample, ready.fixed]
        split
        · exact kept
        · next size =>
            apply kept.write _ (not_not.mp size)
            rw [offered, List.filterMap_append, ← List.cons_append]
            exact List.mem_append_right _ (List.mem_singleton_self bytes)
      · cases stepped
        exact kept
  | command index value =>
      cases stepped
      exact kept
  | read choice =>
      rw [System.step, read_spec laid ready] at stepped
      cases stepped
      exact kept.read choice
  | write =>
      obtain ⟨result, written, same⟩ := bind_ok_iff.mp stepped
      cases same
      rcases (write_spec laid ready).mp written with ⟨-, unchanged, -⟩ | ⟨-, encoded, -, rewritten, -⟩
      · rw [unchanged]
        exact kept
      · rw [rewritten]
        exact kept
  | activate creation =>
      cases stepped
      delta ZenbeddedHardware.onActivate
      dsimp only
      split
      · exact kept
      · split
        · exact kept
        · split
          · exact kept
          · exact kept
  | deactivate =>
      cases stepped
      exact kept

theorem run_buffered (laid : Laid schema) (ready : Ready schema system.hardware)
    (buffered : Buffered schema ([] : List (Event scalars)) system.hardware.stateBuffer)
    (run : system.run events = .ok after) :
    Buffered schema events after.hardware.stateBuffer := by
  induction events using List.reverseRecOn generalizing after with
  | nil =>
      cases run
      exact buffered
  | append_singleton events event ih =>
      obtain ⟨before, first, last⟩ := run_concat.mp run
      exact step_buffered laid event (run_ready laid ready first) (ih first) last

/-- A read that changes anything takes every state from one offered payload. -/
theorem read_allOrNothing (laid : Laid schema) (ready : Ready schema system.hardware)
    (buffered : Buffered schema events system.hardware.stateBuffer) (choice : Nat) :
    ∃ after, system.step (.read choice) = .ok after ∧
      (after.hardware.hwStates = system.hardware.hwStates ∨
        ∃ payload ∈ offered schema events, payload.length = schema.stateBufferSize ∧
          (∀ field ∈ schema.stateFlatFields,
            field.byteOffset + fieldByteSize field.type ≤ payload.length) ∧
          after.hardware.hwStates = decodeStates scalars schema payload) := by
  refine ⟨{ system with hardware := afterRead schema system.hardware choice }, ?_, ?_⟩
  · rw [System.step, read_spec laid ready]
    rfl
  · simp only [afterRead]
    split
    · next size =>
        right
        refine ⟨(system.hardware.stateBuffer.readFromRT choice).held, ?_, size, ?_, rfl⟩
        · rcases (buffered.read choice).held with default | ⟨inside, -⟩
          · -- An empty section: the default vector is the zero vector.
            rw [default] at size ⊢
            rw [offered, ← size]
            exact List.mem_cons_self
          · exact inside
        · intro field listed
          obtain ⟨index, here⟩ := List.mem_iff_getElem?.mp listed
          exact Packed.room laid.state size here
    · exact .inl rfl

/-- Anything but a payload of the wrong size. -/
def rightSize (schema : InterfaceSchema) : Event scalars → Bool
  | .payload bytes => bytes.length = schema.stateBufferSize
  | _ => true

theorem step_wrongSize (ready : Ready schema system.hardware) {event : Event scalars}
    (wrong : rightSize schema event = false) : system.step event = .ok system := by
  cases event with
  | payload bytes =>
      have size : bytes.length ≠ schema.stateBufferSize := of_decide_eq_false wrong
      simp only [System.step, ZenbeddedHardware.onSample, ready.fixed, if_pos size, ite_self]
  | command index value => contradiction
  | read choice => contradiction
  | write => contradiction
  | activate creation => contradiction
  | deactivate => contradiction

theorem run_rightSize (laid : Laid schema) (ready : Ready schema system.hardware) :
    system.run (events.filter (rightSize schema)) = system.run events := by
  induction events generalizing system with
  | nil => rfl
  | cons event events ih =>
      rw [List.filter_cons]
      cases size : rightSize schema event with
      | false =>
          rw [if_neg Bool.false_ne_true, ih ready, System.run, System.run, List.foldlM_cons,
            step_wrongSize ready size]
          rfl
      | true =>
          rw [if_pos rfl, System.run, System.run, List.foldlM_cons, List.foldlM_cons]
          cases step : system.step event with
          | error fault => rfl
          | ok next => exact ih (step_ready laid event ready step)

/-- In every run a read sets all states from one payload or none, and payloads of the
wrong size change nothing. -/
theorem states_allOrNothing (scalars : Scalars) {yaml : YamlCpp} {yamlText : Text}
    {baseSucceeds : Bool} {hardwareParameters : Text → Option Text}
    {fromYamlFile : Text → InterfaceSchema} {hardware : ZenbeddedHardware scalars}
    (file : ∀ schemaPath, hardwareParameters "schema_path".toList = some schemaPath →
      fromYamlFile schemaPath = InterfaceSchema.fromYaml yaml yamlText)
    (initialised : ZenbeddedHardware.onInit scalars baseSucceeds hardwareParameters fromYamlFile =
      some hardware) :
    (∀ (events : List (Event scalars)) (system : System scalars) (choice : Nat),
      (System.start hardware).run events = .ok system →
      ∃ after, system.step (.read choice) = .ok after ∧
        (after.hardware.hwStates = system.hardware.hwStates ∨
          ∃ payload ∈ offered hardware.schema events,
            payload.length = hardware.schema.stateBufferSize ∧
            (∀ field ∈ hardware.schema.stateFlatFields,
              field.byteOffset + fieldByteSize field.type ≤ payload.length) ∧
            after.hardware.hwStates = decodeStates scalars hardware.schema payload)) ∧
      ∀ events : List (Event scalars),
        (System.start hardware).run (events.filter (rightSize hardware.schema)) =
          (System.start hardware).run events := by
  obtain ⟨schemaPath, path, valid, ready, -, -, buffer, -⟩ := onInit_ready initialised
  rw [file schemaPath path] at valid ready buffer
  have laid := laid_of_valid valid
  rw [ready.fixed]
  constructor
  · intro events system choice run
    have start : Buffered (InterfaceSchema.fromYaml yaml yamlText) ([] : List (Event scalars))
        hardware.stateBuffer := by
      rw [buffer]
      exact Buffered.initial _
    exact read_allOrNothing laid (run_ready laid ready run) (run_buffered laid ready start run)
      choice
  · intro events
    exact run_rightSize laid ready

/-- A payload, one of another size, and another payload. -/
def threePayloads : List (Event littleEndian) :=
  [.activate ⟨true, true, true⟩, .payload [1, 0, 0, 0, 0, 0, 0, 0, 240, 63], .payload [1],
    .payload [0, 0, 0, 0, 0, 0, 0, 0, 240, 63]]

/-- The read gets the first one, both fields of it. -/
theorem states_allOrNothing_threePayloads :
    ∃ system after, (System.start (twoFieldHost littleEndian)).run threePayloads = .ok system ∧
      system.step (.read 2) = .ok after ∧
      after.hardware.hwStates = [CScalar.one .double, CScalar.one .double] ∧
      (System.start (twoFieldHost littleEndian)).run
          (threePayloads.filter (rightSize twoFieldSchema)) = .ok system := by
  have both := states_allOrNothing littleEndian twoFieldSchema_file
    (twoFieldHost_initialised littleEndian)
  obtain ⟨system, run⟩ : ∃ system,
      (System.start (twoFieldHost littleEndian)).run threePayloads = .ok system := ⟨_, rfl⟩
  obtain ⟨after, stepped, -⟩ := both.1 threePayloads system 2 run
  refine ⟨system, after, run, stepped, ?_, (both.2 threePayloads).trans run⟩
  cases run
  cases stepped
  rfl

end Zenbedded.Hardware
