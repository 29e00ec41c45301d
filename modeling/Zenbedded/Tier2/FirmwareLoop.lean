import Zenbedded.Tier2.CommandPath
import Zenbedded.Tier2.StatePath

namespace Zenbedded.Tier2

open Zenbedded.Foundation Zenbedded.Schema
open Zenbedded.Transport (Platform ZenbeddedSub)
open Zenbedded.Hardware (ZenbeddedHardware)
open Zenbedded.Rcl (RawValue ZenbeddedClient)

/-! # The loop of the firmware

An application that reads a command, works on it and writes a state, again and
again, closes the loop between the two halves of a link.
-/

variable {platform : Platform} {width : Nat} {Callback : Type} {scalars : Scalars}
  {stateSize cmdSize : platform.SizeT}

structure Firmware (stateSize cmdSize : platform.SizeT) where
  Memory : Type
  start : Memory
  /-- What a cycle makes of what `read_command` yields, if it returns true. -/
  cycle : Memory → Option (RawValue cmdSize) → Memory
  state : Memory → RawValue stateSize
  /-- The local that `read_command` fills in. -/
  cmd : RawValue cmdSize

inductive LoopPc where
  /-- In `read_command`. -/
  | reading
  /-- Before `write_state`. -/
  | writing
  | storing
deriving Repr, DecidableEq

/-- The steps that a loop takes instead. -/
def Action.isApplication : Action scalars stateSize → Bool
  | .readCommand | .writeState _ | .advanceWriteState => true
  | _ => false

namespace Firmware

variable (firmware : Firmware stateSize cmdSize)

/-- What `read_command` yields of the bytes that it copied; a fault has no next state. -/
def receive (bytes : Bytes) : Option (Option (RawValue cmdSize)) :=
  match Rcl.RawCodec.read cmdSize () bytes cmdSize firmware.cmd with
  | .error _ => none
  | .ok (accepted, value) => some (if accepted then some value else none)

/-- The memory after cycles that copied these bytes, the newest first. -/
def after : List Bytes → firmware.Memory
  | [] => firmware.start
  | bytes :: older => firmware.cycle (after older) (firmware.receive bytes).join

/-- The states that these cycles write, the newest first. -/
def written : List Bytes → List Bytes
  | [] => []
  | bytes :: older => (firmware.state (firmware.after (bytes :: older))).val :: written older

end Firmware

structure Loop (scalars : Scalars) (firmware : Firmware stateSize cmdSize) (width : Nat) where
  link : Link scalars width
  pc : LoopPc
  memory : firmware.Memory

inductive LoopAction (scalars : Scalars) (stateSize : platform.SizeT) where
  | application
  | other (action : Action scalars stateSize)

namespace Loop

variable {firmware : Firmware stateSize cmdSize}

def start (firmware : Firmware stateSize cmdSize) (hardware : ZenbeddedHardware scalars)
    (client : ZenbeddedClient platform width Unit Unit) : Loop scalars firmware width :=
  { link := Link.start hardware client, pc := .reading, memory := firmware.start }

/-- Attempts are repeated until one has copied a payload. -/
def afterRead (event : Event scalars) (link : Link scalars width)
    (loop : Loop scalars firmware width) : Option (Loop scalars firmware width) :=
  match event.command.bind (Rcl.Event.result ()) with
  | none => some { loop with link }
  | some bytes => (firmware.receive bytes).map fun received =>
      { link, pc := .writing, memory := firmware.cycle loop.memory received }

def application (sub : ZenbeddedSub Callback) (loop : Loop scalars firmware width) :
    Option (Event scalars × Loop scalars firmware width) :=
  match loop.pc with
  | .reading => do
      let (event, link) ← loop.link.act sub cmdSize (.readCommand : Action scalars stateSize)
      let after ← loop.afterRead event link
      return (event, after)
  | .writing => do
      let (event, link) ← loop.link.act sub cmdSize (.writeState (firmware.state loop.memory))
      return (event, { loop with link, pc := .storing })
  | .storing => do
      let (event, link) ← loop.link.act sub cmdSize (.advanceWriteState : Action scalars stateSize)
      return (event, { loop with
        link, pc := if link.states.shared.writer = .idle then .reading else .storing })

def act (sub : ZenbeddedSub Callback) (loop : Loop scalars firmware width) :
    LoopAction scalars stateSize → Option (Event scalars × Loop scalars firmware width)
  | .application => loop.application sub
  | .other action =>
      if action.isApplication then none
      else (loop.link.act sub cmdSize action).map fun (event, link) => (event, { loop with link })

def Step (sub : ZenbeddedSub Callback) (loop : Loop scalars firmware width) (event : Event scalars)
    (after : Loop scalars firmware width) : Prop :=
  ∃ action, loop.act sub action = some (event, after)

end Loop

section

variable {sub : ZenbeddedSub Callback} {firmware : Firmware stateSize cmdSize}
  {loop after : Loop scalars firmware width} {event : Event scalars}

/-- A step of the loop. -/
inductive LoopStep (sub : ZenbeddedSub Callback) (loop : Loop scalars firmware width) :
    Event scalars → Loop scalars firmware width → Prop
  | attempts {event : Event scalars} {link : Link scalars width} (reading : loop.pc = .reading)
      (acted : loop.link.act sub cmdSize (.readCommand : Action scalars stateSize) =
        some (event, link)) (again : event.command.bind (Rcl.Event.result ()) = none) :
      LoopStep sub loop event { loop with link }
  | receives {event : Event scalars} {link : Link scalars width} {bytes : Bytes}
      {received : Option (RawValue cmdSize)} (reading : loop.pc = .reading)
      (acted : loop.link.act sub cmdSize (.readCommand : Action scalars stateSize) =
        some (event, link)) (copied : event.command.bind (Rcl.Event.result ()) = some bytes)
      (receives : firmware.receive bytes = some received) :
      LoopStep sub loop event
        { link, pc := .writing, memory := firmware.cycle loop.memory received }
  | begins {event : Event scalars} {link : Link scalars width} (writing : loop.pc = .writing)
      (acted : loop.link.act sub cmdSize (.writeState (firmware.state loop.memory)) =
        some (event, link)) :
      LoopStep sub loop event { loop with link, pc := .storing }
  | stores {event : Event scalars} {link : Link scalars width} (storing : loop.pc = .storing)
      (acted : loop.link.act sub cmdSize (.advanceWriteState : Action scalars stateSize) =
        some (event, link)) :
      LoopStep sub loop event { loop with
        link, pc := if link.states.shared.writer = .idle then .reading else .storing }
  | other {event : Event scalars} {link : Link scalars width} (action : Action scalars stateSize)
      (foreign : action.isApplication = false)
      (acted : loop.link.act sub cmdSize action = some (event, link)) :
      LoopStep sub loop event { loop with link }

theorem Loop.Step.cases (step : Loop.Step sub loop event after) : LoopStep sub loop event after := by
  obtain ⟨action, acted⟩ := step
  cases action with
  | other action =>
      rw [Loop.act] at acted
      split at acted
      · cases acted
      · rename_i foreign
        obtain ⟨⟨seen, link⟩, moved, result⟩ := Option.map_eq_some_iff.mp acted
        cases result
        exact .other action (by simpa using foreign) moved
  | application =>
      rw [Loop.act, Loop.application] at acted
      split at acted
      · rename_i reading
        obtain ⟨⟨seen, link⟩, moved, rest⟩ := Option.bind_eq_some_iff.mp acted
        obtain ⟨next, reads, result⟩ := Option.bind_eq_some_iff.mp rest
        cases result
        unfold Loop.afterRead at reads
        split at reads
        · rename_i again
          cases reads
          exact .attempts reading moved again
        · rename_i bytes copied
          obtain ⟨received, receives, result⟩ := Option.map_eq_some_iff.mp reads
          cases result
          exact .receives reading moved copied receives
      · rename_i writing
        obtain ⟨⟨seen, link⟩, moved, result⟩ := Option.bind_eq_some_iff.mp acted
        cases result
        exact .begins writing moved
      · rename_i storing
        obtain ⟨⟨seen, link⟩, moved, result⟩ := Option.bind_eq_some_iff.mp acted
        cases result
        exact .stores storing moved

/-- The loop is one of the ways in which an application can use the link. -/
theorem loop_reaches {first : Loop scalars firmware width} {trace : List (Event scalars)}
    (reaches : Reaches (Loop.Step sub) first trace loop) :
    Reaches (Link.Step sub cmdSize stateSize) first.link trace loop.link := by
  induction reaches with
  | start => exact .start
  | step _ moved inductionHypothesis =>
      cases moved.cases with
      | attempts _ acted => exact inductionHypothesis.step ⟨_, acted⟩
      | receives _ acted => exact inductionHypothesis.step ⟨_, acted⟩
      | begins _ acted => exact inductionHypothesis.step ⟨_, acted⟩
      | stores _ acted => exact inductionHypothesis.step ⟨_, acted⟩
      | other _ _ acted => exact inductionHypothesis.step ⟨_, acted⟩

end

/-- A step that neither yields a command nor writes a state. -/
structure Foreign (link : Link scalars width) (event : Event scalars) (after : Link scalars width) :
    Prop where
  command : event.command.bind (Rcl.Event.result ()) = none
  state : ∀ writerEvent, event.state ≠ some (.writer writerEvent)
  shared : after.states.shared = link.states.shared

section

variable {sub : ZenbeddedSub Callback} {link after : Link scalars width} {event : Event scalars}
  {trace : List (Event scalars)}

theorem act_foreign {action : Action scalars stateSize} (foreign : action.isApplication = false)
    (acted : link.act sub cmdSize action = some (event, after)) : Foreign link event after := by
  cases action with
  | readCommand | writeState | advanceWriteState => cases foreign
  | loseCommand | loseState =>
      cases acted
      exact ⟨rfl, by simp [Event.state], rfl⟩
  | host hostEvent =>
      have outside : ∀ payload, hostEvent ≠ .payload payload := by
        rintro payload rfl
        cases acted
      rw [act_host outside, Link.actHost] at acted
      split at acted
      · cases acted
      · cases acted
        cases hostEvent with
        | payload | command | read | write | activate | deactivate =>
            exact ⟨rfl, by simp [observe, Event.state], rfl⟩
  | deliverCommand =>
      rw [Link.act, Link.deliverCommand] at acted
      split at acted
      · cases acted
      · split at acted
        · cases acted
          exact ⟨rfl, by simp [Event.state], rfl⟩
        · obtain ⟨⟨moved, commands⟩, began, result⟩ := Option.bind_eq_some_iff.mp acted
          cases result
          obtain ⟨⟨writerEvent, shared⟩, begins, result⟩ := Option.bind_eq_some_iff.mp began
          cases result
          exact ⟨rfl, by simp [Event.state], rfl⟩
  | advanceCallback =>
      obtain ⟨⟨moved, commands⟩, advanced, result⟩ := Option.bind_eq_some_iff.mp acted
      cases result
      obtain ⟨⟨writerEvent, shared⟩, advances, result⟩ := Option.bind_eq_some_iff.mp advanced
      cases result
      exact ⟨rfl, by simp [Event.state], rfl⟩
  | publishState =>
      rw [Link.act, Link.publishState] at acted
      split at acted
      · cases acted
      · obtain ⟨⟨moved, states⟩, advanced, result⟩ := Option.bind_eq_some_iff.mp acted
        cases result
        obtain ⟨readerEvent, rfl, same⟩ := readerAct advanced
        exact ⟨rfl, by simp [Event.state], same⟩
  | put accepted =>
      rw [Link.act] at acted
      split at acted
      · cases acted
      · split at acted
        · cases acted
          exact ⟨rfl, by simp [Event.state], rfl⟩
        · cases acted
          exact ⟨rfl, by simp [Event.state], rfl⟩
  | deliverState =>
      rw [Link.act, Link.deliverState] at acted
      split at acted
      · cases acted
      · split at acted
        · cases acted
        · cases acted
          exact ⟨rfl, by simp [Event.state], rfl⟩

/-- The payloads that `read_command` copied, the newest first. -/
def copied (trace : List (Event scalars)) : List Bytes := Rcl.returned () (commandTrace trace)

theorem copied_cons (event : Event scalars) (trace : List (Event scalars)) :
    copied (event :: trace) = (event.command.bind (Rcl.Event.result ())).toList ++ copied trace := by
  rw [copied, commandTrace, List.filterMap_cons]
  cases event.command with
  | none => rfl
  | some moved =>
      rw [Rcl.returned, List.filterMap_cons, Option.bind_some]
      cases moved.result () with
      | none => rfl
      | some bytes => rfl

/-- The states that the loop has begun to write, the newest first. -/
def begunStates (trace : List (Event scalars)) (link : Link scalars width) : List Bytes :=
  Rcl.begun (stateTrace trace) link.states.shared

theorem Foreign.begunStates (foreign : Foreign link event after) (trace : List (Event scalars)) :
    begunStates (event :: trace) after = begunStates trace link := by
  rw [Tier2.begunStates, Tier2.begunStates, foreign.shared, stateTrace, List.filterMap_cons]
  cases seen : event.state with
  | none => rfl
  | some moved =>
      cases moved with
      | writer writerEvent => exact absurd seen (foreign.state writerEvent)
      | reader reader readerEvent => exact Rcl.begun_reader reader readerEvent _ _

theorem readCommand_states (acted : link.act sub cmdSize
    (.readCommand : Action scalars stateSize) = some (event, after)) :
    event.state = none ∧ after.states = link.states := by
  obtain ⟨⟨moved, commands⟩, advanced, result⟩ := Option.bind_eq_some_iff.mp acted
  cases result
  exact ⟨rfl, rfl⟩

theorem writeState_begun {value : RawValue stateSize}
    (acted : link.act sub cmdSize (.writeState value) = some (event, after))
    (trace : List (Event scalars)) :
    event.command = none ∧
      begunStates (event :: trace) after = value.val :: begunStates trace link := by
  obtain ⟨⟨moved, states⟩, began, result⟩ := Option.bind_eq_some_iff.mp acted
  cases result
  obtain ⟨⟨writerEvent, shared⟩, begins, result⟩ := Option.bind_eq_some_iff.mp began
  cases result
  have grown := Rcl.begun_beginWrite begins (stateTrace trace)
  rw [Rcl.Write.payload, Rcl.memcpyStores_snd] at grown
  exact ⟨rfl, grown⟩

theorem advanceWriteState_begun (acted : link.act sub cmdSize
    (.advanceWriteState : Action scalars stateSize) = some (event, after))
    (trace : List (Event scalars)) :
    event.command = none ∧ begunStates (event :: trace) after = begunStates trace link := by
  obtain ⟨⟨moved, states⟩, advanced, result⟩ := Option.bind_eq_some_iff.mp acted
  cases result
  obtain ⟨⟨writerEvent, shared⟩, advances, result⟩ := Option.bind_eq_some_iff.mp advanced
  cases result
  exact ⟨rfl, Rcl.begun_advanceWriter advances (stateTrace trace)⟩

end

/-- The cycles whose state is begun. -/
def LoopPc.begunCycles : LoopPc → List Bytes → List Bytes
  | .writing, cycles => cycles.tail
  | .reading, cycles | .storing, cycles => cycles

structure LoopInvariant {firmware : Firmware stateSize cmdSize} (trace : List (Event scalars))
    (loop : Loop scalars firmware width) : Prop where
  memory : loop.memory = firmware.after (copied trace)
  states : begunStates trace loop.link = firmware.written (loop.pc.begunCycles (copied trace))
  writing : loop.pc = .writing → copied trace ≠ []

section

variable {sub : ZenbeddedSub Callback} {firmware : Firmware stateSize cmdSize}
  {loop after : Loop scalars firmware width} {event : Event scalars}
  {trace : List (Event scalars)}

theorem LoopInvariant.step (invariant : LoopInvariant trace loop)
    (step : Loop.Step sub loop event after) : LoopInvariant (event :: trace) after := by
  obtain ⟨memory, states, writing⟩ := invariant
  cases step.cases with
  | @attempts link reading acted again =>
      have same : copied (event :: trace) = copied trace := by
        rw [copied_cons, again]
        rfl
      obtain ⟨quiet, kept⟩ := readCommand_states acted
      refine ⟨by rw [same, memory], ?_, by rwa [same]⟩
      rw [same, ← states, begunStates, begunStates, kept, stateTrace,
        List.filterMap_cons_none quiet, stateTrace]
  | @receives link bytes received reading acted copies receives =>
      have grown : copied (event :: trace) = bytes :: copied trace := by
        rw [copied_cons, copies]
        rfl
      obtain ⟨quiet, kept⟩ := readCommand_states acted
      refine ⟨?_, ?_, fun _ => by simp [grown]⟩
      · rw [grown, Firmware.after, memory, receives]
        rfl
      · rw [reading] at states
        rw [grown, begunStates, kept, stateTrace, List.filterMap_cons_none quiet]
        exact states
  | @begins link atWrite acted =>
      obtain ⟨quiet, grown⟩ := writeState_begun acted trace
      have same : copied (event :: trace) = copied trace := by
        rw [copied_cons, quiet]
        rfl
      refine ⟨by rw [same, memory], ?_, fun stores => by cases stores⟩
      rw [atWrite] at states
      obtain ⟨bytes, older, cycles⟩ := List.exists_cons_of_ne_nil (writing atWrite)
      rw [cycles] at states memory same
      rw [same, grown, states, memory]
      rfl
  | @stores link storing acted =>
      obtain ⟨quiet, kept⟩ := advanceWriteState_begun acted trace
      have same : copied (event :: trace) = copied trace := by
        rw [copied_cons, quiet]
        rfl
      rw [storing] at states
      refine ⟨by rw [same, memory], ?_, ?_⟩
      · rw [same, kept, states]
        dsimp only
        split
        · rfl
        · rfl
      · dsimp only
        split
        · intro writes
          cases writes
        · intro writes
          cases writes
  | @other link action outside acted =>
      have foreign := act_foreign outside acted
      have same : copied (event :: trace) = copied trace := by
        rw [copied_cons, foreign.command]
        rfl
      exact ⟨by rw [same, memory], by rw [same, foreign.begunStates, states], by rwa [same]⟩

theorem loopInvariant_reaches {hardware : ZenbeddedHardware scalars}
    {client : ZenbeddedClient platform width Unit Unit}
    (reaches : Reaches (Loop.Step sub) (Loop.start firmware hardware client) trace loop) :
    LoopInvariant trace loop := by
  apply reaches.invariant LoopInvariant
  · exact ⟨rfl, rfl, fun writes => by cases writes⟩
  · intro _ _ _ _ invariant step
    exact invariant.step step

/-- The states committed are those of the cycles, but for what is not committed yet. -/
theorem committed_written {hardware : ZenbeddedHardware scalars}
    {client : ZenbeddedClient platform width Unit Unit}
    (reaches : Reaches (Loop.Step sub) (Loop.start firmware hardware client) trace loop) :
    (Rcl.committed (stateTrace trace)).Sublist (firmware.written (copied trace)) := by
  have invariant := loopInvariant_reaches reaches
  have begun : (firmware.written (loop.pc.begunCycles (copied trace))).Sublist
      (firmware.written (copied trace)) := by
    cases pc : loop.pc with
    | reading | storing => exact List.Sublist.refl _
    | writing =>
        cases copied trace with
        | nil => exact List.Sublist.refl _
        | cons bytes older => exact List.sublist_cons_self _ _
  rw [← invariant.states] at begun
  exact (List.sublist_append_right _ _).trans begun

end

end Zenbedded.Tier2
