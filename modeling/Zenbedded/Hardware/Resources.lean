import Zenbedded.Hardware.Cycle

namespace Zenbedded.Hardware

open Zenbedded.Foundation Zenbedded.Schema

/-! # Zenoh resources

Session, subscriber and publisher across activations and deactivations.
-/

variable {scalars : Scalars} {hardware : ZenbeddedHardware scalars}

namespace ZenbeddedHardware

/-- No Zenoh object is left. -/
structure Released (hardware : ZenbeddedHardware scalars) : Prop where
  session : hardware.session = none
  stateSub : hardware.stateSub = none
  commandPub : hardware.commandPub = none

/-- All three are there, on one session. -/
def Holding (hardware : ZenbeddedHardware scalars) : Prop :=
  ∃ session stateSub commandPub, hardware.session = some session ∧
    hardware.stateSub = some stateSub ∧ hardware.commandPub = some commandPub ∧
    stateSub.session = session.id ∧ commandPub.session = session.id

end ZenbeddedHardware

/-- An activation that creates everything, or fails at the session with nothing held. -/
def CleanActivation (hardware : ZenbeddedHardware scalars) (creation : Creation) : Prop :=
  (creation.session = true ∧ creation.subscriber = true ∧ creation.publisher = true) ∨
    (creation.session = false ∧ hardware.Released)

/-- What the lifecycle calls leave of the resources. -/
def ReleasesResources (hardware : ZenbeddedHardware scalars) (id : Nat) :
    Event scalars → Prop
  | .activate creation =>
      match hardware.onActivate id creation with
      | (after, .error) => after.Released
      | (after, .success) => after.Holding
  | .deactivate => hardware.onDeactivate.1.Released
  | _ => True

theorem onActivate_success (hardware : ZenbeddedHardware scalars) (id : Nat)
    {creation : Creation} (session : creation.session = true)
    (subscriber : creation.subscriber = true) (publisher : creation.publisher = true) :
    ∃ after, hardware.onActivate id creation = (after, .success) ∧ after.Holding ∧
      after.stateBuffer = hardware.stateBuffer ∧
      after.hwStates = hardware.hwStates.map ZenbeddedHardware.orZero ∧
      after.hwCommands = hardware.hwCommands.map ZenbeddedHardware.orZero := by
  simp only [ZenbeddedHardware.onActivate, session, subscriber, publisher, Bool.true_eq_false,
    ↓reduceIte]
  exact ⟨_, rfl, ⟨_, _, _, rfl, rfl, rfl, rfl, rfl⟩, rfl, rfl, rfl⟩

/-- An activation that fails keeps every object there is, and the session it opened. -/
theorem onActivate_failure (hardware : ZenbeddedHardware scalars) (id : Nat)
    {creation : Creation} (incomplete : ¬ (creation.session = true ∧ creation.subscriber = true ∧
      creation.publisher = true)) :
    ∃ after, hardware.onActivate id creation = (after, .error) ∧
      (after.Released ↔ creation.session = false ∧ hardware.Released) ∧
      after.stateBuffer = hardware.stateBuffer ∧ after.hwStates = hardware.hwStates ∧
      after.hwCommands = hardware.hwCommands := by
  obtain ⟨session, subscriber, publisher⟩ := creation
  cases session with
  | false => exact ⟨hardware, rfl, ⟨fun released => ⟨rfl, released⟩, And.right⟩, rfl, rfl, rfl⟩
  | true =>
      have kept : ∀ after : ZenbeddedHardware scalars, after.session.isSome = true →
          (after.Released ↔ (true = false ∧ hardware.Released)) := by
        intro after holds
        constructor
        · intro released
          rw [released.session] at holds
          contradiction
        · intro never
          exact absurd never.1 Bool.noConfusion
      cases subscriber with
      | false => exact ⟨_, rfl, kept _ rfl, rfl, rfl, rfl⟩
      | true =>
          cases publisher with
          | false => exact ⟨_, rfl, kept _ rfl, rfl, rfl, rfl⟩
          | true => exact absurd ⟨rfl, rfl, rfl⟩ incomplete

/-- A deactivation releases everything, an activation exactly where it is clean. -/
theorem activate_releases_iff (id : Nat) (creation : Creation) :
    ReleasesResources hardware id (.activate creation) ↔ CleanActivation hardware creation := by
  rw [ReleasesResources, CleanActivation]
  by_cases complete : creation.session = true ∧ creation.subscriber = true ∧
      creation.publisher = true
  · obtain ⟨after, activated, holding, -⟩ :=
      onActivate_success hardware id complete.1 complete.2.1 complete.2.2
    rw [activated]
    exact ⟨fun _ => .inl complete, fun _ => holding⟩
  · obtain ⟨after, failed, released, -⟩ := onActivate_failure hardware id complete
    rw [failed]
    exact released.trans ⟨.inr, fun clean => clean.resolve_left complete⟩

theorem deactivate_released : hardware.onDeactivate.1.Released := ⟨rfl, rfl, rfl⟩

/-- Without a subscriber and a publisher nothing is received and nothing is sent. -/
theorem released_silent {system : System scalars} (released : system.hardware.Released) :
    (∀ bytes, system.step (.payload bytes) = .ok system) ∧ system.step .write = .ok system := by
  constructor
  · intro bytes
    simp only [System.step, released.stateSub, Option.isSome_none, Bool.false_eq_true, ↓reduceIte]
  · simp only [System.step, ZenbeddedHardware.write, released.commandPub, Option.isNone_none,
      ↓reduceIte, bind, Except.bind, pure, Except.pure, Option.toList_none, List.append_nil]

/-- Resources are held only while active in exactly the runs whose activations are clean. -/
theorem resources_onlyWhileActive_iff (system : System scalars) (events : List (Event scalars)) :
    ((∀ before event rest state, events = before ++ event :: rest →
        system.run before = .ok state →
        ReleasesResources state.hardware state.opened event ∧
          ∀ after, state.step event = .ok after → after.hardware.Released →
            (∀ bytes, after.step (.payload bytes) = .ok after) ∧ after.step .write = .ok after) ↔
      ∀ before creation rest state, events = before ++ .activate creation :: rest →
        system.run before = .ok state → CleanActivation state.hardware creation) := by
  constructor
  · intro releases before creation rest state split run
    exact (activate_releases_iff state.opened creation).mp
      (releases before _ rest state split run).1
  · intro clean before event rest state split run
    refine ⟨?_, fun after _ => released_silent⟩
    cases event with
    | activate creation =>
        exact (activate_releases_iff state.opened creation).mpr
          (clean before creation rest state split run)
    | deactivate => exact deactivate_released
    | payload bytes => trivial
    | command index value => trivial
    | read choice => trivial
    | write => trivial

/-- A subscriber that cannot be created leaves the session behind. -/
theorem resources_leftBehind :
    ¬ ∀ (events : List (Event littleEndian)) (event : Event littleEndian)
        (state : System littleEndian),
      (System.start oneFieldHost).run events = .ok state →
      ReleasesResources state.hardware state.opened event := by
  intro releases
  have released := releases [] (.activate ⟨true, false, true⟩) _ rfl
  exact absurd released.session (Option.some_ne_none _)

end Zenbedded.Hardware
