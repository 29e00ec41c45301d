import Zenbedded.Foundation.Ieee754
import Zenbedded.Hardware.Activation
import Zenbedded.Hardware.Exchange

namespace Zenbedded.Hardware

open Zenbedded.Foundation Zenbedded.Schema
open ZenbeddedHardware (orZero)

/-! # Commands of integer fields

`write_command_field` casts whatever a controller has set last.  Only `on_activate`
looks at the commands before, and it replaces NaN alone.
-/

variable {schema : InterfaceSchema} {hardware : ZenbeddedHardware ieee754}
  {system after : System ieee754}

/-- Every command of an integer field is a number that truncates into the field's range. -/
def CommandsFit (schema : InterfaceSchema) (commands : List (Double ieee754)) : Prop :=
  ∀ (index : Nat) (field : FlatField) (value : Double ieee754),
    schema.commandFlatFields[index]? = some field → commands[index]? = some value →
      Fits field.type.scalar value

/-- The cycle publishes bytes in which each integer is the command, but for less than 1. -/
def DeliversIntegers (schema : InterfaceSchema) (hardware : ZenbeddedHardware ieee754) : Prop :=
  ∃ after object, hardware.write = .ok (after, some object) ∧
    ∀ (index : Nat) (field : FlatField) (value : Double ieee754),
      schema.commandFlatFields[index]? = some field → field.type.scalar.range.isSome →
      hardware.hwCommands[index]? = some value →
        ∃ (integer : ieee754.Value field.type.scalar) (exact : ℚ),
          ieee754.memberOf (structOf schema.commandFlatFields) object index =
            some ⟨field.type.scalar, integer⟩ ∧
          number (Float.Model.UnpackedFloat.unpack .binary64 value) = some exact ∧
          |(integerValue field.type.scalar integer : ℚ) - exact| < 1

theorem encodeCommands_defined_iff {commands : List (Double ieee754)} :
    (∃ encoded, encodeCommands ieee754 schema commands = some encoded) ↔
      CommandsFit schema commands := by
  rw [← Option.ne_none_iff_exists', encodeCommands, mapM_ne_none_iff]
  constructor
  · intro defined index field value here commanded
    have both : (schema.commandFlatFields.zip commands)[index]? = some (field, value) :=
      List.getElem?_zip_eq_some.mpr ⟨here, commanded⟩
    have encodes := defined (field, value) (List.mem_of_getElem? both)
    obtain ⟨bytes, encodes⟩ := Option.ne_none_iff_exists'.mp encodes
    obtain ⟨narrowed, converts, _⟩ := Option.map_eq_some_iff.mp encodes
    exact (fromDouble_defined_iff _ value).mp ⟨narrowed, converts⟩
  · intro fit pair inside
    obtain ⟨field, value⟩ := pair
    obtain ⟨index, here⟩ := List.mem_iff_getElem?.mp inside
    obtain ⟨listed, commanded⟩ := List.getElem?_zip_eq_some.mp here
    obtain ⟨narrowed, converts⟩ :=
      (fromDouble_defined_iff _ value).mpr (fit index field value listed commanded)
    have narrows : ieee754.narrow field.type.scalar value = some narrowed := converts
    rw [encodeField, narrows]
    exact Option.some_ne_none _

/-- An active cycle delivers every integer exactly when the commands fit. -/
theorem deliversIntegers_iff (laid : Laid schema) (ready : Ready schema hardware)
    (active : hardware.commandPub.isSome = true) :
    DeliversIntegers schema hardware ↔ CommandsFit schema hardware.hwCommands := by
  rw [← encodeCommands_defined_iff]
  constructor
  · intro delivers
    obtain ⟨after, object, written, _⟩ := delivers
    rcases (write_spec laid ready).mp written with ⟨_, _, none⟩ | ⟨_, encoded, defined, _⟩
    · cases none
    · exact ⟨encoded, defined⟩
  · intro defined
    obtain ⟨encoded, defined⟩ := defined
    refine ⟨_, encoded.flatten,
      (write_spec laid ready).mpr (Or.inr ⟨active, encoded, defined, rfl, rfl⟩), ?_⟩
    intro index field value here isInteger commanded
    have sizes := (writeAll_ok laid ready.commandBuffer ready.commands defined).2
    obtain ⟨integer, converts, member⟩ :=
      holdsCommands_encoded sizes defined index field value here commanded
    obtain ⟨exact, isNumber, _, near⟩ := fromDouble_near isInteger converts
    exact ⟨integer, exact, member, isNumber, near⟩

/-- What is set on a command interface, by the events before, the newest first. -/
def lastSet (index : Nat) : List (Event ieee754) → Double ieee754
  | [] => ieee754.quietNan
  | .command other value :: earlier => if other = index then value else lastSet index earlier
  | .activate creation :: earlier =>
      if creation.Complete then orZero (lastSet index earlier) else lastSet index earlier
  | _ :: earlier => lastSet index earlier

/-- Whether the publisher is there, by the events before, the newest first. -/
def publishing : List (Event ieee754) → Bool
  | [] => false
  | .activate creation :: earlier => creation.Complete || publishing earlier
  | .deactivate :: _ => false
  | _ :: earlier => publishing earlier

/-- What is set last on each integer field truncates into the field's range. -/
def LastSetFit (schema : InterfaceSchema) (earlier : List (Event ieee754)) : Prop :=
  ∀ (index : Nat) (field : FlatField), schema.commandFlatFields[index]? = some field →
    Fits field.type.scalar (lastSet index earlier)

/-- The hardware is where the events have brought it. -/
structure Tracks (schema : InterfaceSchema) (earlier : List (Event ieee754))
    (hardware : ZenbeddedHardware ieee754) : Prop where
  commands : ∀ index, index < schema.commandFlatFields.length →
    hardware.hwCommands[index]? = some (lastSet index earlier)
  publisher : hardware.commandPub.isSome = publishing earlier

theorem Tracks.commandsFit_iff {earlier : List (Event ieee754)}
    (tracks : Tracks schema earlier hardware) :
    CommandsFit schema hardware.hwCommands ↔ LastSetFit schema earlier := by
  constructor
  · intro fit index field here
    exact fit index field _ here (tracks.commands index (List.getElem?_eq_some_iff.mp here).1)
  · intro fit index field value here commanded
    rw [tracks.commands index (List.getElem?_eq_some_iff.mp here).1] at commanded
    cases commanded
    exact fit index field here

/-- An event that says nothing of commands and publisher. -/
theorem Tracks.quiet {earlier : List (Event ieee754)} {event : Event ieee754}
    {next : ZenbeddedHardware ieee754} (tracks : Tracks schema earlier hardware)
    (values : ∀ index, lastSet index (event :: earlier) = lastSet index earlier)
    (still : publishing (event :: earlier) = publishing earlier)
    (commands : next.hwCommands = hardware.hwCommands)
    (publisher : next.commandPub = hardware.commandPub) : Tracks schema (event :: earlier) next where
  commands := by
    intro index inside
    rw [commands, values]
    exact tracks.commands index inside
  publisher := by
    rw [publisher, still]
    exact tracks.publisher

theorem Tracks.command {earlier : List (Event ieee754)} (ready : Ready schema hardware)
    (tracks : Tracks schema earlier hardware) (place : Nat) (value : Double ieee754) :
    Tracks schema (.command place value :: earlier)
      { hardware with hwCommands := hardware.hwCommands.set place value } where
  commands := by
    intro index inside
    rw [lastSet]
    by_cases here : place = index
    · subst here
      rw [if_pos rfl]
      exact List.getElem?_set_self (ready.commands ▸ inside)
    · rw [if_neg here]
      exact (List.getElem?_set_ne here).trans (tracks.commands index inside)
  publisher := tracks.publisher

theorem Tracks.activate {earlier : List (Event ieee754)} (tracks : Tracks schema earlier hardware)
    (id : Nat) (creation : Creation) :
    Tracks schema (.activate creation :: earlier) (hardware.onActivate id creation).1 := by
  by_cases complete : creation.Complete
  · obtain ⟨next, done, ⟨_, _, endpoint, _, _, publisher, _⟩, _, _, commands⟩ :=
      onActivate_success hardware id complete.1 complete.2.1 complete.2.2
    rw [done]
    constructor
    · intro index inside
      rw [lastSet, if_pos complete, commands, List.getElem?_map, tracks.commands index inside,
        Option.map_some]
    · rw [publisher, publishing, decide_eq_true complete]
      rfl
  · obtain ⟨commands, publisher⟩ : (hardware.onActivate id creation).1.hwCommands =
          hardware.hwCommands ∧
        (hardware.onActivate id creation).1.commandPub = hardware.commandPub := by
      obtain ⟨session, subscriber, publisher⟩ := creation
      cases session with
      | false => exact ⟨rfl, rfl⟩
      | true =>
          cases subscriber with
          | false => exact ⟨rfl, rfl⟩
          | true =>
              cases publisher with
              | false => exact ⟨rfl, rfl⟩
              | true => exact absurd ⟨rfl, rfl, rfl⟩ complete
    refine tracks.quiet (fun index => ?_) ?_ commands publisher
    · rw [lastSet, if_neg complete]
    · rw [publishing, decide_eq_false complete, Bool.false_or]

theorem step_tracks (laid : Laid schema) {earlier : List (Event ieee754)}
    (event : Event ieee754) (ready : Ready schema system.hardware)
    (tracks : Tracks schema earlier system.hardware) (stepped : system.step event = .ok after) :
    Tracks schema (event :: earlier) after.hardware := by
  cases event with
  | payload bytes =>
      simp only [System.step] at stepped
      split at stepped
      · cases stepped
        simp only [ZenbeddedHardware.onSample]
        split
        · exact tracks.quiet (fun _ => rfl) rfl rfl rfl
        · exact tracks.quiet (fun _ => rfl) rfl rfl rfl
      · cases stepped
        exact tracks.quiet (fun _ => rfl) rfl rfl rfl
  | command index value =>
      cases stepped
      exact tracks.command ready index value
  | read choice =>
      rw [System.step, read_spec laid ready] at stepped
      cases stepped
      exact tracks.quiet (fun _ => rfl) rfl rfl rfl
  | write =>
      obtain ⟨result, written, same⟩ := bind_ok_iff.mp stepped
      cases same
      rcases (write_spec laid ready).mp written with ⟨-, unchanged, -⟩ | ⟨-, encoded, -, rewritten, -⟩
      · rw [unchanged]
        exact tracks.quiet (fun _ => rfl) rfl rfl rfl
      · rw [rewritten]
        exact tracks.quiet (fun _ => rfl) rfl rfl rfl
  | activate creation =>
      cases stepped
      exact tracks.activate _ creation
  | deactivate =>
      cases stepped
      exact ⟨tracks.commands, rfl⟩

theorem run_tracks (laid : Laid schema) {events : List (Event ieee754)}
    (ready : Ready schema system.hardware) (tracks : Tracks schema [] system.hardware)
    (run : system.run events = .ok after) : Tracks schema events.reverse after.hardware := by
  induction events using List.reverseRecOn generalizing after with
  | nil =>
      cases run
      exact tracks
  | append_singleton events event inductionHypothesis =>
      obtain ⟨middle, first, last⟩ := run_concat.mp run
      rw [List.reverse_concat]
      exact step_tracks laid event (run_ready laid ready first) (inductionHypothesis first) last

/-- Only the cast of a command can fail. -/
theorem step_defined (laid : Laid schema) {event : Event ieee754}
    (ready : Ready schema system.hardware)
    (fit : event = .write → system.hardware.commandPub.isSome = true →
      CommandsFit schema system.hardware.hwCommands) : ∃ after, system.step event = .ok after := by
  cases event with
  | payload bytes =>
      simp only [System.step]
      split
      · exact ⟨_, rfl⟩
      · exact ⟨_, rfl⟩
  | command | activate | deactivate => exact ⟨_, rfl⟩
  | read choice =>
      rw [System.step, read_spec laid ready]
      exact ⟨_, rfl⟩
  | write =>
      obtain ⟨result, written⟩ : ∃ result, system.hardware.write = .ok result := by
        cases publisher : system.hardware.commandPub with
        | none => exact ⟨_, (write_spec laid ready).mpr (Or.inl ⟨publisher, rfl, rfl⟩)⟩
        | some endpoint =>
            have active : system.hardware.commandPub.isSome = true := by
              rw [publisher]
              rfl
            obtain ⟨encoded, defined⟩ := encodeCommands_defined_iff.mpr (fit rfl active)
            exact ⟨_, (write_spec laid ready).mpr (Or.inr ⟨active, encoded, defined, rfl, rfl⟩)⟩
      rw [System.step, written]
      exact ⟨_, rfl⟩

/-- A run gets past every active cycle before which the commands fit. -/
theorem run_defined (laid : Laid schema) {events : List (Event ieee754)}
    (ready : Ready schema system.hardware) (tracks : Tracks schema [] system.hardware)
    (fit : ∀ before rest, events = before ++ .write :: rest → publishing before.reverse = true →
      LastSetFit schema before.reverse) : ∃ after, system.run events = .ok after := by
  induction events using List.reverseRecOn with
  | nil => exact ⟨system, rfl⟩
  | append_singleton events event inductionHypothesis =>
      obtain ⟨middle, run⟩ := inductionHypothesis fun before rest split active =>
        fit before (rest ++ [event]) (by rw [split, List.append_assoc, List.cons_append]) active
      have tracked := run_tracks laid ready tracks run
      obtain ⟨after, stepped⟩ := step_defined laid (run_ready laid ready run) fun isWrite active =>
        tracked.commandsFit_iff.mpr (fit events [] (isWrite ▸ rfl) (tracked.publisher ▸ active))
      exact ⟨after, run_concat.mpr ⟨middle, run, stepped⟩⟩

/-- An active cycle after any run delivers every integer exactly when what was set last on each
fits; and the active cycles of a run are all reached and deliver exactly when it fits at each. -/
theorem integerCommands_delivered_iff {yaml : YamlCpp} {yamlText : Text} {baseSucceeds : Bool}
    {hardwareParameters : Text → Option Text} {fromYamlFile : Text → InterfaceSchema}
    {hardware : ZenbeddedHardware ieee754}
    (file : ∀ schemaPath, hardwareParameters "schema_path".toList = some schemaPath →
      fromYamlFile schemaPath = InterfaceSchema.fromYaml yaml yamlText)
    (initialised : ZenbeddedHardware.onInit ieee754 baseSucceeds hardwareParameters fromYamlFile =
      some hardware) (events : List (Event ieee754)) :
    (∀ system, (System.start hardware).run events = .ok system →
      system.hardware.commandPub.isSome = true →
        (DeliversIntegers hardware.schema system.hardware ↔
          LastSetFit hardware.schema events.reverse)) ∧
      ((∀ before rest, events = before ++ .write :: rest → publishing before.reverse = true →
          ∃ system, (System.start hardware).run before = .ok system ∧
            DeliversIntegers hardware.schema system.hardware) ↔
        ∀ before rest, events = before ++ .write :: rest → publishing before.reverse = true →
          LastSetFit hardware.schema before.reverse) := by
  obtain ⟨schemaPath, path, valid, ready, _, commands, _, _, _, inactive⟩ := onInit_ready initialised
  rw [file schemaPath path] at valid ready commands
  have laid := laid_of_valid valid
  rw [ready.fixed]
  have start : Tracks (InterfaceSchema.fromYaml yaml yamlText) [] hardware := by
    constructor
    · intro index inside
      rw [commands, List.getElem?_replicate_of_lt inside]
      rfl
    · rw [inactive]
      rfl
  have delivers {events : List (Event ieee754)} {system : System ieee754}
      (run : (System.start hardware).run events = .ok system)
      (active : system.hardware.commandPub.isSome = true) :
      DeliversIntegers (InterfaceSchema.fromYaml yaml yamlText) system.hardware ↔
        LastSetFit (InterfaceSchema.fromYaml yaml yamlText) events.reverse :=
    (deliversIntegers_iff laid (run_ready laid ready run) active).trans
      (run_tracks laid ready start run).commandsFit_iff
  refine ⟨fun system => delivers, ?_⟩
  constructor
  · intro all before rest split active
    obtain ⟨system, run, delivered⟩ := all before rest split active
    exact (delivers run ((run_tracks laid ready start run).publisher.trans active)).mp delivered
  · intro fit before rest split active
    obtain ⟨system, run⟩ : ∃ system, (System.start hardware).run before = .ok system :=
      run_defined laid ready start fun first later inner =>
        fit first (later ++ .write :: rest) (by rw [split, inner]; simp)
    exact ⟨system, run, (delivers run ((run_tracks laid ready start run).publisher.trans active)).mpr
      (fit before rest split active)⟩

/-- 40000 and -1 do not fit the `int16_t` and the `uint8_t`, but they are replaced each time before
the next active cycle: by NaN, which the activation replaces, by 100 and by -2.5. -/
def replacedRun : List (Event ieee754) :=
  [.command 1 0x40E3880000000000#64, .write, .command 1 ieee754.quietNan,
    .activate ⟨true, true, true⟩, .command 0 0xBFF0000000000000#64,
    .command 0 0x4059000000000000#64, .write, .command 1 0x40E3880000000000#64,
    .command 1 0xC004000000000000#64]

theorem replacedRun_lastSet : LastSetFit twoFieldSchema replacedRun.reverse := by
  intro index field here
  cases index with
  | zero =>
      cases here
      show Fits .uint8 0x4059000000000000#64
      decide
  | succ index =>
      cases index with
      | zero =>
          cases here
          show Fits .int16 0xC004000000000000#64
          decide
      | succ index => cases here

theorem integerCommands_delivered_iff_replacedRun : ∃ system,
    (System.start (twoFieldHost ieee754)).run replacedRun = .ok system ∧
      system.published = [[100, 0, 0]] ∧ DeliversIntegers twoFieldSchema system.hardware := by
  have cycle := (integerCommands_delivered_iff twoFieldSchema_file
    (twoFieldHost_initialised ieee754) replacedRun).1
  obtain ⟨system, run, published, active⟩ : ∃ system,
      (System.start (twoFieldHost ieee754)).run replacedRun = .ok system ∧
        system.published = [[100, 0, 0]] ∧ system.hardware.commandPub.isSome = true :=
    ⟨_, rfl, rfl, rfl⟩
  exact ⟨system, run, published, (cycle system run active).mpr replacedRun_lastSet⟩

/-- The cast of 40000 to the `int16_t` is undefined, and nothing on the way prevents it. -/
theorem integerCommands_not_delivered :
    ¬ ∀ (events : List (Event ieee754)) (system : System ieee754),
      (System.start (twoFieldHost ieee754)).run events = .ok system →
      system.hardware.commandPub.isSome = true →
        DeliversIntegers twoFieldSchema system.hardware := by
  intro delivered
  obtain ⟨after, object, written, _⟩ := delivered
    [.activate ⟨true, true, true⟩, .command 1 0x40E3880000000000#64] _ rfl rfl
  cases written

end Zenbedded.Hardware
