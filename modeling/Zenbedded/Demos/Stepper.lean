import Zenbedded.Demos.Watchdog
import Zenbedded.Foundation.DoubleOrder

namespace Zenbedded.Demos

open Zenbedded.Foundation Zenbedded.Transport Zenbedded.Rcl

/-! # The stepper behind the control loop

`set_stepper_angular_vel` of both tiers, in IEEE arithmetic, and a driver whose
calls may fail.  Each cycle of the loop ends with it, so what the driver does
follows from the velocities that the watchdog lets through.
-/

def kMinMicrostepIntervalNs : Nat := 20000

def kMaxMicrostepIntervalNs : Nat := 1000000000

def motorStepsPerRev : BitVec 32 := 200

/-- `micro_steps_per_rev`, an `int32_t`. -/
def microStepsPerRev (microStepRes : BitVec 32) : Int := (motorStepsPerRev * microStepRes).toInt

/-- `2 * M_PI`. -/
def twoPi : Double := multiply (ofInteger 2) 0x400921FB54442D18

inductive Direction where
  | positive
  | negative
deriving Repr, DecidableEq

/-- The calls that the program makes to the stepper's driver. -/
inductive DriverCall where
  | stop
  | setMicrostepInterval (ns : BitVec 64)
  | run (direction : Direction)
deriving Repr, DecidableEq

def intervalNs (microStepRes : BitVec 32) (radsPerSec : Double) : Double :=
  let microstepsPerSec :=
    divide (multiply (fabs radsPerSec) (ofInteger (microStepsPerRev microStepRes))) twoPi
  divide (ofInteger 1000000000) microstepsPerSec

/-- The interval to be set, or none to stop. -/
def wantedInterval (microStepRes : BitVec 32) (radsPerSec : Double) : Option Double :=
  if ¬ isFinite radsPerSec ∨ ¬ nonzero radsPerSec then none
  else
    let interval := intervalNs microStepRes radsPerSec
    if ¬ isFinite interval ∨ lessThan interval (ofInteger kMinMicrostepIntervalNs) ∨
        lessThan (ofInteger kMaxMicrostepIntervalNs) interval then none
    else some interval

/-- The driver's answers to the first and to the second call of one invocation. -/
structure Answers where
  first : Bool
  second : Bool
deriving Repr, DecidableEq

/-- The calls made and whether each succeeded; none where the cast to `uint64_t` is undefined. -/
def setStepperAngularVel (microStepRes : BitVec 32) (radsPerSec : Double) (answers : Answers) :
    Option (List (DriverCall × Bool)) :=
  match wantedInterval microStepRes radsPerSec with
  | none => some [(.stop, answers.first)]
  | some interval =>
      match fromDouble interval .uint64 with
      | none => none
      | some ns =>
          if answers.first then
            let direction := if lessThan 0 radsPerSec then Direction.positive else .negative
            some [(.setMicrostepInterval ns, true), (.run direction, answers.second)]
          else some [(.setMicrostepInterval ns, false)]

structure Stepper where
  interval : BitVec 64
  /-- Where it is running to. -/
  motion : Option Direction
deriving Repr, DecidableEq

/-- What a call that succeeds is assumed to do to the stepper. -/
def DriverCall.effect : DriverCall → Stepper → Stepper
  | .stop, stepper => { stepper with motion := none }
  | .setMicrostepInterval ns, stepper => { stepper with interval := ns }
  | .run direction, stepper => { stepper with motion := some direction }

/-- Zephyr's driver is assumed to change nothing in a call that fails. -/
def Stepper.after (stepper : Stepper) (calls : List (DriverCall × Bool)) : Stepper :=
  calls.foldl (fun stepper (call, succeeded) =>
    if succeeded then call.effect stepper else stepper) stepper

structure Rig (width : Nat) where
  pendulum : Pendulum width
  stepper : Stepper

structure RigEvent where
  event : PendulumEvent
  calls : List (DriverCall × Bool)
deriving Repr, DecidableEq

variable {width : Nat}

namespace Rig

def start (slots : SlotIdx → Bytes) (interval : BitVec 64) : Rig width :=
  { pendulum := Pendulum.start slots, stepper := ⟨interval, none⟩ }

def act (size : Nat) (decode : Bytes → Option Double) (microStepRes : BitVec 32)
    (action : PendulumAction × Answers) (rig : Rig width) : Option (RigEvent × Rig width) :=
  match rig.pendulum.act size decode action.1 with
  | none => none
  | some (.velocitySet value, pendulum) =>
      (setStepperAngularVel microStepRes value action.2).map fun calls =>
        (⟨.velocitySet value, calls⟩, { pendulum, stepper := rig.stepper.after calls })
  | some (event, pendulum) => some (⟨event, []⟩, { rig with pendulum })

def Step (size : Nat) (decode : Bytes → Option Double) (microStepRes : BitVec 32)
    (rig : Rig width) (event : RigEvent) (after : Rig width) : Prop :=
  ∃ action, rig.act size decode microStepRes action = some (event, after)

end Rig

/-- What the loop did. -/
def loopTrace (trace : List RigEvent) : List PendulumEvent := trace.map RigEvent.event

/-- An A4988 can step at this interval. -/
def Steppable (ns : BitVec 64) : Prop :=
  kMinMicrostepIntervalNs ≤ ns.toNat ∧ ns.toNat ≤ kMaxMicrostepIntervalNs

theorem number_bounds :
    number (Float.Model.UnpackedFloat.unpack .binary64 (ofInteger kMinMicrostepIntervalNs)) =
        some 20000 ∧
      number (Float.Model.UnpackedFloat.unpack .binary64 (ofInteger kMaxMicrostepIntervalNs)) =
        some 1000000000 := by
  constructor
  · show some (((5497558138880000 : Nat) : ℚ) * 2 ^ (-38 : Int)) = some 20000
    norm_num
  · show some (((8388608000000000 : Nat) : ℚ) * 2 ^ (-23 : Int)) = some 1000000000
    norm_num

theorem wantedInterval_bounded {microStepRes : BitVec 32} {radsPerSec interval : Double}
    (wanted : wantedInterval microStepRes radsPerSec = some interval) :
    ∃ ns : BitVec 64, fromDouble interval .uint64 = some ns ∧ Steppable ns := by
  unfold wantedInterval at wanted
  split at wanted
  · cases wanted
  · dsimp only at wanted
    split at wanted
    · cases wanted
    · rename_i inside
      cases wanted
      push Not at inside
      obtain ⟨finite, lower, upper⟩ := inside
      obtain ⟨exact, isNumber⟩ := isFinite_number finite
      have least : ¬ exact < 20000 := by
        rw [← lessThan_iff isNumber number_bounds.1]
        exact lower
      have greatest : ¬ 1000000000 < exact := by
        rw [← lessThan_iff number_bounds.2 isNumber]
        exact upper
      have floored : truncate exact = ⌊exact⌋ := if_pos (by linarith)
      have low : 20000 ≤ ⌊exact⌋ := Int.le_floor.mpr (by push_cast; linarith)
      have high : ⌊exact⌋ ≤ 1000000000 := Int.floor_le_iff.mpr (by push_cast; linarith)
      have converted : fromDouble (intervalNs microStepRes radsPerSec) .uint64 =
          some (BitVec.ofInt 64 (truncate exact)) :=
        (toInteger_eq_some_iff (le_refl 0) (show (0 : Int) ≤ 2 ^ 64 - 1 by decide)).mpr
          ⟨exact, isNumber, by omega, by omega, rfl⟩
      have value := @toNat_ofInt_inside 64 (truncate exact) (by omega) (by omega)
      refine ⟨_, converted, ?_, ?_⟩
      · show 20000 ≤ _
        omega
      · show _ ≤ 1000000000
        omega

/-- The calls of one invocation: stop, a failed interval, or an interval and a run. -/
inductive Invocation : List (DriverCall × Bool) → Prop
  | stops (succeeded : Bool) : Invocation [(.stop, succeeded)]
  | fails {ns : BitVec 64} (steppable : Steppable ns) :
      Invocation [(.setMicrostepInterval ns, false)]
  | runs {ns : BitVec 64} (steppable : Steppable ns) (direction : Direction) (succeeded : Bool) :
      Invocation [(.setMicrostepInterval ns, true), (.run direction, succeeded)]

theorem Invocation.steppable {calls : List (DriverCall × Bool)} (invocation : Invocation calls)
    {ns : BitVec 64} {succeeded : Bool}
    (called : (DriverCall.setMicrostepInterval ns, succeeded) ∈ calls) : Steppable ns := by
  cases invocation with
  | stops | fails | runs => simp_all

/-- The cast is never undefined. -/
theorem setStepperAngularVel_defined (microStepRes : BitVec 32) (radsPerSec : Double)
    (answers : Answers) :
    ∃ calls, setStepperAngularVel microStepRes radsPerSec answers = some calls ∧
      Invocation calls := by
  unfold setStepperAngularVel
  cases wanted : wantedInterval microStepRes radsPerSec with
  | none => exact ⟨_, rfl, .stops _⟩
  | some interval =>
      obtain ⟨ns, converted, steppable⟩ := wantedInterval_bounded wanted
      simp only [converted]
      cases answers.first with
      | false => exact ⟨_, rfl, .fails steppable⟩
      | true => exact ⟨_, rfl, .runs steppable _ _⟩

theorem setStepperAngularVel_zero (microStepRes : BitVec 32) {radsPerSec : Double}
    (zero : nonzero radsPerSec = false) (answers : Answers) :
    setStepperAngularVel microStepRes radsPerSec answers = some [(.stop, answers.first)] := by
  have stops : wantedInterval microStepRes radsPerSec = none := by
    rw [wantedInterval, if_pos]
    exact Or.inr (by simp [zero])
  rw [setStepperAngularVel, stops]

section

variable {size : Nat} {decode : Bytes → Option Double} {microStepRes : BitVec 32}
  {rig after : Rig width} {event : RigEvent} {trace : List RigEvent}

/-- A step of the loop, and the calls that end a cycle. -/
theorem rig_step (step : rig.Step size decode microStepRes event after) :
    rig.pendulum.Step size decode event.event after.pendulum ∧
      after.stepper = rig.stepper.after event.calls ∧
      (event.calls = [] ∨ ∃ value answers, event.event = .velocitySet value ∧
        setStepperAngularVel microStepRes value answers = some event.calls) := by
  obtain ⟨action, acted⟩ := step
  unfold Rig.act at acted
  split at acted
  · cases acted
  · rename_i value pendulum moved
    obtain ⟨calls, called, result⟩ := Option.map_eq_some_iff.mp acted
    cases result
    exact ⟨⟨action.1, moved⟩, rfl, Or.inr ⟨value, action.2, rfl, called⟩⟩
  · rename_i moved
    cases acted
    exact ⟨⟨action.1, moved⟩, rfl, Or.inl rfl⟩

theorem Rig.Step.velocity {value : Double} {calls : List (DriverCall × Bool)}
    (step : rig.Step size decode microStepRes ⟨.velocitySet value, calls⟩ after) :
    ∃ answers, setStepperAngularVel microStepRes value answers = some calls := by
  obtain ⟨action, acted⟩ := step
  unfold Rig.act at acted
  split at acted
  · cases acted
  · rename_i other pendulum moved
    obtain ⟨given, called, result⟩ := Option.map_eq_some_iff.mp acted
    cases result
    exact ⟨action.2, called⟩
  · rename_i other event pendulum loops moved
    cases acted
    exact (loops value rfl).elim

theorem rig_reaches {first : Rig width}
    (reaches : Reaches (Rig.Step size decode microStepRes) first trace rig) :
    Reaches (Pendulum.Step size decode) first.pendulum (loopTrace trace) rig.pendulum := by
  induction reaches with
  | start => exact .start
  | step _ moved inductionHypothesis => exact inductionHypothesis.step (rig_step moved).1

/-- A stepper that runs does so at an interval that the driver can step at. -/
def Stepper.Bounded (stepper : Stepper) : Prop :=
  stepper.motion ≠ none → Steppable stepper.interval

theorem Stepper.Bounded.invoke {stepper : Stepper} (bounded : stepper.Bounded)
    {calls : List (DriverCall × Bool)} (invocation : Invocation calls) :
    (stepper.after calls).Bounded := by
  cases invocation with
  | stops succeeded =>
      cases succeeded with
      | false => exact bounded
      | true => exact fun running => absurd rfl running
  | fails => exact bounded
  | runs steppable direction succeeded =>
      cases succeeded with
      | false => exact fun _ => steppable
      | true => exact fun _ => steppable

theorem rig_invocation (step : rig.Step size decode microStepRes event after) :
    event.calls = [] ∨ Invocation event.calls := by
  obtain ⟨_, _, none | ⟨value, answers, _, called⟩⟩ := rig_step step
  · exact Or.inl none
  · obtain ⟨calls, same, invocation⟩ := setStepperAngularVel_defined microStepRes value answers
    rw [called] at same
    cases same
    exact Or.inr invocation

theorem rig_bounded {slots : SlotIdx → Bytes} {interval : BitVec 64}
    (reaches : Reaches (Rig.Step size decode microStepRes) (Rig.start slots interval) trace rig) :
    rig.stepper.Bounded := by
  apply reaches.invariant fun _ rig => rig.stepper.Bounded
  · exact fun running => absurd rfl running
  · intro _ state event after bounded step
    rw [(rig_step step).2.1]
    rcases rig_invocation step with none | invocation
    · rw [none]
      exact bounded
    · exact bounded.invoke invocation

/-- No command yet, or too long ago. -/
def Halting (trace : List PendulumEvent) : Prop :=
  ¬ Changed trace ∨ kCommandTimeoutCycles.toNat < unchangedCycles trace

theorem Halting.cons {event : PendulumEvent} {trace : List PendulumEvent} (halting : Halting trace)
    (unchanged : event.isChange = false) : Halting (event :: trace) := by
  rcases halting with none | late
  · refine Or.inl ?_
    rw [Changed.cons]
    simpa [unchanged] using none
  · refine Or.inr (late.trans_le ?_)
    rw [unchangedCycles, unchangedCycles, since_unmarked unchanged]
    exact (List.sublist_cons_self _ _).countP_le

/-- While the loop is halting, a cycle can only stop the stepper. -/
theorem halting_stops {slots : SlotIdx → Bytes} {interval : BitVec 64}
    (decodes : ∀ bytes : Bytes, bytes.length = size → (decode bytes).isSome)
    (reaches : Reaches (Rig.Step size decode microStepRes) (Rig.start slots interval) trace rig)
    (halting : Halting (loopTrace trace)) (step : rig.Step size decode microStepRes event after) :
    event.calls = [] ∨ ∃ succeeded, event.calls = [(.stop, succeeded)] := by
  obtain ⟨moved, _, none | ⟨value, answers, sets, called⟩⟩ := rig_step step
  · exact Or.inl none
  · rw [sets] at moved
    have watched := velocity_set (Watched.reaches decodes (rig_reaches reaches)) moved
    have zero : nonzero value = false := by
      by_cases late : kCommandTimeoutCycles.toNat < unchangedCycles (loopTrace trace)
      · exact watched.2 late
      · rw [(watched.1 (Nat.not_lt.mp late)).unchanged (halting.resolve_right late)]
        rfl
    rw [setStepperAngularVel_zero microStepRes zero] at called
    exact Or.inr ⟨answers.first, (Option.some.inj called).symm⟩

theorem Stepper.stopped {stepper : Stepper} (still : stepper.motion = none)
    {calls : List (DriverCall × Bool)}
    (stops : calls = [] ∨ ∃ succeeded, calls = [(.stop, succeeded)]) :
    (stepper.after calls).motion = none := by
  rcases stops with rfl | ⟨succeeded, rfl⟩
  · exact still
  · cases succeeded with
    | false => exact still
    | true => rfl

/-- A stepper that stands while the loop is halting stands until a cycle sees a new command,
whatever the driver answers. -/
theorem halting_stands {slots : SlotIdx → Bytes} {interval : BitVec 64}
    (decodes : ∀ bytes : Bytes, bytes.length = size → (decode bytes).isSome)
    {middle : Rig width} {older newer : List RigEvent}
    (before : Reaches (Rig.Step size decode microStepRes) (Rig.start slots interval) older middle)
    (halting : Halting (loopTrace older)) (still : middle.stepper.motion = none)
    (later : Reaches (Rig.Step size decode microStepRes) middle newer rig)
    (unchanged : ∀ event ∈ newer, event.event.isChange = false) :
    rig.stepper.motion = none ∧ Halting (loopTrace (newer ++ older)) := by
  induction later with
  | start => exact ⟨still, halting⟩
  | @step newer rig event after reaches step inductionHypothesis =>
      obtain ⟨stands, halts⟩ := inductionHypothesis fun event member =>
        unchanged event (List.mem_cons_of_mem _ member)
      refine ⟨?_, halts.cons (unchanged event List.mem_cons_self)⟩
      rw [(rig_step step).2.1]
      exact Stepper.stopped stands (halting_stops decodes (before.trans reaches) halts step)

end

/-- How the stepper moves in a run of the loop. -/
structure RigGuarantees (decode : Bytes → Option Double) (microStepRes : BitVec 32)
    (trace : List RigEvent) (rig : Rig width) : Prop where
  /-- No cycle gets stuck in an undefined cast. -/
  defined : ∀ value answers, ∃ calls, setStepperAngularVel microStepRes value answers = some calls
  bounded : rig.stepper.Bounded
  intervals : ∀ event ∈ trace, ∀ ns succeeded,
    (DriverCall.setMicrostepInterval ns, succeeded) ∈ event.calls → Steppable ns
  velocity : ∀ newer older value calls, trace = newer ++ ⟨.velocitySet value, calls⟩ :: older →
    (unchangedCycles (loopTrace older) ≤ kCommandTimeoutCycles.toNat →
      Current decode (loopTrace older) value) ∧
      ∃ answers, setStepperAngularVel microStepRes value answers = some calls
  /-- Nothing moves before the first command. -/
  still : ¬ Changed (loopTrace trace) → rig.stepper.motion = none
  late : ∀ newer older event, trace = newer ++ event :: older →
    kCommandTimeoutCycles.toNat < unchangedCycles (loopTrace older) →
      event.calls = [] ∨ ∃ succeeded, event.calls = [(.stop, succeeded)]
  /-- One stop that succeeds after the timeout holds until the next command. -/
  halted : ∀ newer older event, trace = newer ++ event :: older →
    kCommandTimeoutCycles.toNat < unchangedCycles (loopTrace older) →
      event.calls = [(.stop, true)] → (∀ later ∈ newer, later.event.isChange = false) →
        rig.stepper.motion = none

theorem rig_guarantees {platform : Platform} {size : Nat} {decode : Bytes → Option Double}
    (program : Program platform size decode) (microStepRes : BitVec 32) (slots : SlotIdx → Bytes)
    (interval : BitVec 64) {trace : List RigEvent} {rig : Rig width}
    (reaches : Reaches (Rig.Step size decode microStepRes) (Rig.start slots interval) trace rig) :
    RigGuarantees decode microStepRes trace rig := by
  have decodes : ∀ bytes : Bytes, bytes.length = size → (decode bytes).isSome :=
    fun _ whole => program.decodes whole
  refine ⟨?_, rig_bounded reaches, ?_, ?_, ?_, ?_, ?_⟩
  · intro value answers
    obtain ⟨calls, called, _⟩ := setStepperAngularVel_defined microStepRes value answers
    exact ⟨calls, called⟩
  · intro event member ns succeeded called
    obtain ⟨newer, older, rfl⟩ := List.append_of_mem member
    obtain ⟨_, prior, _⟩ := reaches.split
    cases prior with
    | step _ step =>
        rcases rig_invocation step with none | invocation
        · rw [none] at called
          cases called
        · exact invocation.steppable called
  · rintro newer older value calls rfl
    obtain ⟨_, prior, _⟩ := reaches.split
    cases prior with
    | step before step =>
        have moved := (rig_step step).1
        refine ⟨(velocity_set (Watched.reaches decodes (rig_reaches before)) moved).1, ?_⟩
        exact step.velocity
  · intro unchanged
    refine (halting_stands decodes .start (Or.inl ?_) rfl reaches ?_).1
    · rintro ⟨event, member, _⟩
      cases member
    · intro event member
      by_contra changes
      exact unchanged ⟨event.event, List.mem_map_of_mem member, Bool.eq_true_of_not_eq_false changes⟩
  · rintro newer older event rfl late
    obtain ⟨_, prior, _⟩ := reaches.split
    cases prior with
    | step before step => exact halting_stops decodes before (Or.inr late) step
  · rintro newer older event rfl late stop unchanged
    obtain ⟨middle, prior, later⟩ := reaches.split
    have stands : middle.stepper.motion = none := by
      cases prior with
      | step before step =>
          rw [(rig_step step).2.1, stop]
          rfl
    have halting : Halting (loopTrace (event :: older)) := by
      cases prior with
      | step before step =>
          have own : event.event.isChange = false := by
            obtain ⟨_, _, none | ⟨value, _, sets, _⟩⟩ := rig_step step
            · rw [none] at stop
              cases stop
            · rw [sets]
              rfl
          exact Halting.cons (Or.inr late) own
    exact (halting_stands decodes prior halting stands later unchanged).1

/-- Two commands are read.  The driver refuses to turn at first, and does in the cycle after. -/
def twoSteps : List (PendulumAction × Answers) :=
  List.flatten
    [List.replicate 2 (.loop, ⟨true, true⟩), List.replicate 14 (.loop, ⟨true, false⟩),
      List.replicate 11 (.advanceCallback, ⟨true, true⟩),
      [(.callback [0, 0, 0, 0, 0, 0, 240, 191], ⟨true, true⟩)],
      oneCycle.map fun action => (action, ⟨true, true⟩)]

theorem twoSteps_run :
    (perform (fun action rig => rig.act 8 hostVelocity 16 action)
      (Rig.start (fun _ => noCommand) 0 : Rig 32) twoSteps).map
        (fun run => (run.1.reverse.flatMap RigEvent.calls, run.2.stepper)) =
      some ([(.setMicrostepInterval 981747, true), (.run .positive, true),
          (.setMicrostepInterval 1963495, true), (.run .negative, false),
          (.setMicrostepInterval 1963495, true), (.run .negative, true)],
        ⟨1963495, some .negative⟩) := by
  decide +kernel

theorem rig_guarantees_twoSteps : ∃ (trace : List RigEvent) (rig : Rig 32),
    perform (fun action rig => rig.act 8 hostVelocity 16 action)
      (Rig.start (fun _ => noCommand) 0) twoSteps = some (trace, rig) ∧
      rig.stepper = ⟨1963495, some .negative⟩ ∧ RigGuarantees hostVelocity 16 trace rig := by
  obtain ⟨⟨trace, rig⟩, performed, seen⟩ := Option.map_eq_some_iff.mp twoSteps_run
  have reaches : Reaches (Rig.Step 8 hostVelocity 16) (Rig.start (fun _ => noCommand) 0) trace
      rig := perform_reaches (fun action _ _ _ acted => ⟨action, acted⟩) performed
  have program : Program Platform.host64 8 hostVelocity := .tier2 _
  exact ⟨trace, rig, performed, (Prod.mk.inj seen).2, rig_guarantees program 16 _ 0 reaches⟩

end Zenbedded.Demos
