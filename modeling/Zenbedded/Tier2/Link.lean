import Zenbedded.Hardware.Exchange
import Zenbedded.Rcl.Delivery
import Zenbedded.Rcl.InitResult
import Zenbedded.Rcl.WholePayloads

namespace Zenbedded.Tier2

open Zenbedded.Foundation Zenbedded.Schema
open Zenbedded.Transport (Platform ZenbeddedSub)
open Zenbedded.Hardware (Double ZenbeddedHardware)
open Zenbedded.Rcl (RawValue ZenbeddedClient)

/-! # Host and firmware, linked

The hardware interface, an initialised Tier 2 client and the samples between them,
which arrive in order where they arrive.  The firmware has three threads: the
callback of the subscriber writes commands, the control thread publishes states,
and the application reads the ones and writes the others.
-/

variable {platform : Platform} {width : Nat} {Callback : Type}

variable (scalars : Scalars)

structure Link (width : Nat) where
  host : Hardware.System scalars
  /-- Samples on their way, the newest first. -/
  toFirmware : List Bytes
  toHost : List Bytes
  commands : Rcl.System Unit width
  states : Rcl.System Unit width
  /-- What `zenoh_publish_state` has copied and not yet put. -/
  tmp : Option Bytes

inductive Action (stateSize : platform.SizeT) where
  /-- Whatever happens at the host but the arrival of a sample. -/
  | host (event : Hardware.Event scalars)
  | loseCommand (index : Nat)
  | deliverCommand
  | advanceCallback
  | readCommand
  | writeState (value : RawValue stateSize)
  | advanceWriteState
  | publishState
  /-- The put of `zenoh_publish_state` and its outcome. -/
  | put (accepted : Bool)
  | loseState (index : Nat)
  | deliverState

inductive Event where
  | internal
  /-- A `write` of the host, with what it published. -/
  | wrote (commands : List (Double scalars)) (published : List Bytes)
  | lostCommand
  | commands (event : Rcl.Event Unit)
  | states (event : Rcl.Event Unit)
  | lostState
  | arrived (payload : Bytes)
  /-- A `read` of the host, with the vector that it got and the states after it. -/
  | read (held : Bytes) (states : List (Double scalars))

variable {scalars}

/-- What a step of the host looks like from outside. -/
def observe (event : Hardware.Event scalars) (before after : Hardware.System scalars) :
    Event scalars :=
  match event with
  | .write =>
      .wrote before.hardware.hwCommands (after.published.drop before.published.length)
  | .read _ => .read after.hardware.stateBuffer.held after.hardware.hwStates
  | _ => .internal

def Event.sent : Event scalars → List Bytes
  | .wrote _ published => published
  | _ => []

namespace Link

variable (sub : ZenbeddedSub Callback) {stateSize : platform.SizeT} (cmdSize : platform.SizeT)

def actHost (event : Hardware.Event scalars) (link : Link scalars width) :
    Option (Event scalars × Link scalars width) :=
  match link.host.step event with
  | .error _ => none
  | .ok host =>
      let seen := observe event link.host host
      some (seen, { link with host, toFirmware := seen.sent.reverse ++ link.toFirmware })

def actCommands (action : Rcl.Action Unit) (link : Link scalars width) :
    Option (Event scalars × Link scalars width) := do
  let (event, commands) ← link.commands.act cmdSize.toNat action
  return (.commands event, { link with commands })

def deliverCommand (link : Link scalars width) : Option (Event scalars × Link scalars width) :=
  match link.toFirmware.getLast? with
  | none => none
  | some payload =>
      let taken := { link with toFirmware := link.toFirmware.dropLast }
      match Rcl.acceptedSample .tier2 sub cmdSize.toNat payload with
      | none => some (.internal, taken)
      | some bytes => taken.actCommands cmdSize (.beginWrite (.command bytes))

def actStates (stateSize : platform.SizeT) (action : Rcl.Action Unit) (link : Link scalars width) :
    Option (Event scalars × Link scalars width) := do
  let (event, states) ← link.states.act stateSize.toNat action
  return (.states event, { link with states })

/-- A step of the loop of `zenoh_publish_state`, which ends with a copy in `tmp`. -/
def publishState (stateSize : platform.SizeT) (link : Link scalars width) :
    Option (Event scalars × Link scalars width) :=
  match link.tmp with
  | some _ => none
  | none => do
      let (event, states) ← link.states.act stateSize.toNat (.advanceReader ())
      return (.states event, { link with states, tmp := event.result () })

def deliverState (link : Link scalars width) : Option (Event scalars × Link scalars width) :=
  match link.toHost.getLast? with
  | none => none
  | some payload =>
      match link.host.step (.payload payload) with
      | .error _ => none
      | .ok host => some (.arrived payload, { link with host, toHost := link.toHost.dropLast })

def act (link : Link scalars width) :
    Action scalars stateSize → Option (Event scalars × Link scalars width)
  | .host (.payload _) => none
  | .host event => link.actHost event
  | .loseCommand index =>
      some (.lostCommand, { link with toFirmware := link.toFirmware.eraseIdx index })
  | .deliverCommand => link.deliverCommand sub cmdSize
  | .advanceCallback => link.actCommands cmdSize .advanceWriter
  | .readCommand => link.actCommands cmdSize (.advanceReader ())
  | .writeState value =>
      link.actStates stateSize (.beginWrite (.state (Rcl.memcpyStores 0 value.val)))
  | .advanceWriteState => link.actStates stateSize .advanceWriter
  | .publishState => link.publishState stateSize
  | .put accepted =>
      match link.tmp with
      | none => none
      | some bytes =>
          if accepted then
            some (.internal, { link with tmp := none, toHost := bytes :: link.toHost })
          else some (.lostState, { link with tmp := none })
  | .loseState index => some (.lostState, { link with toHost := link.toHost.eraseIdx index })
  | .deliverState => link.deliverState

def Step (stateSize : platform.SizeT) (link : Link scalars width) (event : Event scalars)
    (after : Link scalars width) : Prop :=
  ∃ action : Action scalars stateSize, link.act sub cmdSize action = some (event, after)

/-- Nothing is on its way, and the client is as `init` has left it. -/
def start (hardware : ZenbeddedHardware scalars) (client : ZenbeddedClient platform width Unit Unit) :
    Link scalars width :=
  { host := Hardware.System.start hardware
    toFirmware := []
    toHost := []
    commands :=
      { shared := ⟨client.cmdBuffer, client.cmdAcceptedCount, .idle⟩, readers := fun _ => .idle }
    states := { shared := ⟨client.stateBuffer, 0, .idle⟩, readers := fun _ => .idle }
    tmp := none }

end Link

inductive LinkStep (sub : ZenbeddedSub Callback) (cmdSize stateSize : platform.SizeT)
    (link : Link scalars width) : Event scalars → Link scalars width → Prop
  | host {event : Hardware.Event scalars} {host : Hardware.System scalars}
      (outside : ∀ payload, event ≠ .payload payload) (stepped : link.host.step event = .ok host) :
      LinkStep sub cmdSize stateSize link (observe event link.host host) { link with
        host, toFirmware := (observe event link.host host).sent.reverse ++ link.toFirmware }
  | losesCommand (index : Nat) :
      LinkStep sub cmdSize stateSize link .lostCommand { link with
        toFirmware := link.toFirmware.eraseIdx index }
  | refusesCommand {rest : List Bytes} {payload : Bytes}
      (last : link.toFirmware = rest ++ [payload])
      (refused : Rcl.acceptedSample .tier2 sub cmdSize.toNat payload = none) :
      LinkStep sub cmdSize stateSize link .internal { link with toFirmware := rest }
  | beginsCommand {rest : List Bytes} {payload bytes : Bytes} {event : Rcl.WriterEvent}
      {shared : Rcl.Shared width} (last : link.toFirmware = rest ++ [payload])
      (taken : Rcl.acceptedSample .tier2 sub cmdSize.toNat payload = some bytes)
      (begins : link.commands.shared.beginWrite (.command bytes) = some (event, shared)) :
      LinkStep sub cmdSize stateSize link (.commands (.writer event)) { link with
        toFirmware := rest, commands := { link.commands with shared } }
  | advancesCommand {event : Rcl.WriterEvent} {shared : Rcl.Shared width}
      (advanced : link.commands.shared.advanceWriter = some (event, shared)) :
      LinkStep sub cmdSize stateSize link (.commands (.writer event)) { link with
        commands := { link.commands with shared } }
  | readsCommand {event : Rcl.ReaderEvent} {commands : Rcl.System Unit width}
      (acted : link.commands.act cmdSize.toNat (.advanceReader ()) =
        some (.reader () event, commands)) (same : commands.shared = link.commands.shared) :
      LinkStep sub cmdSize stateSize link (.commands (.reader () event)) { link with commands }
  | beginsState (value : RawValue stateSize) {event : Rcl.WriterEvent} {shared : Rcl.Shared width}
      (begins : link.states.shared.beginWrite (.state (Rcl.memcpyStores 0 value.val)) =
        some (event, shared)) :
      LinkStep sub cmdSize stateSize link (.states (.writer event)) { link with
        states := { link.states with shared } }
  | advancesState {event : Rcl.WriterEvent} {shared : Rcl.Shared width}
      (advanced : link.states.shared.advanceWriter = some (event, shared)) :
      LinkStep sub cmdSize stateSize link (.states (.writer event)) { link with
        states := { link.states with shared } }
  | publishesState {event : Rcl.ReaderEvent} {states : Rcl.System Unit width}
      (free : link.tmp = none)
      (acted : link.states.act stateSize.toNat (.advanceReader ()) =
        some (.reader () event, states)) (same : states.shared = link.states.shared) :
      LinkStep sub cmdSize stateSize link (.states (.reader () event)) { link with
        states, tmp := (Rcl.Event.reader () event).result () }
  | puts {bytes : Bytes} (held : link.tmp = some bytes) :
      LinkStep sub cmdSize stateSize link .internal { link with
        tmp := none, toHost := bytes :: link.toHost }
  | failsPut {bytes : Bytes} (held : link.tmp = some bytes) :
      LinkStep sub cmdSize stateSize link .lostState { link with tmp := none }
  | losesState (index : Nat) :
      LinkStep sub cmdSize stateSize link .lostState { link with
        toHost := link.toHost.eraseIdx index }
  | arrives {rest : List Bytes} {payload : Bytes} {host : Hardware.System scalars}
      (last : link.toHost = rest ++ [payload]) (stepped : link.host.step (.payload payload) = .ok host) :
      LinkStep sub cmdSize stateSize link (.arrived payload) { link with host, toHost := rest }

theorem readerAct {size : Nat} {system after : Rcl.System Unit width} {event : Rcl.Event Unit}
    (acted : system.act size (.advanceReader ()) = some (event, after)) :
    ∃ readerEvent, event = .reader () readerEvent ∧ after.shared = system.shared := by
  obtain ⟨⟨readerEvent, pc⟩, _, result⟩ := Option.bind_eq_some_iff.mp acted
  cases result
  exact ⟨readerEvent, rfl, rfl⟩

section

variable {sub : ZenbeddedSub Callback} {cmdSize stateSize : platform.SizeT}
  {link after : Link scalars width} {event : Event scalars}

theorem deliverCommand_step (acted : link.deliverCommand sub cmdSize = some (event, after)) :
    LinkStep sub cmdSize stateSize link event after := by
  unfold Link.deliverCommand at acted
  split at acted
  · cases acted
  · rename_i payload last
    obtain ⟨rest, queue⟩ := List.getLast?_eq_some_iff.mp last
    rw [queue, List.dropLast_concat] at acted
    split at acted
    · rename_i refused
      cases acted
      exact .refusesCommand queue refused
    · rename_i bytes taken
      obtain ⟨⟨begun, commands⟩, began, result⟩ := Option.bind_eq_some_iff.mp acted
      cases result
      obtain ⟨⟨writerEvent, shared⟩, begins, result⟩ := Option.bind_eq_some_iff.mp began
      cases result
      exact .beginsCommand queue taken begins

theorem deliverState_step (acted : link.deliverState = some (event, after)) :
    LinkStep sub cmdSize stateSize link event after := by
  unfold Link.deliverState at acted
  split at acted
  · cases acted
  · rename_i payload last
    obtain ⟨rest, queue⟩ := List.getLast?_eq_some_iff.mp last
    rw [queue, List.dropLast_concat] at acted
    split at acted
    · cases acted
    · rename_i host stepped
      cases acted
      exact .arrives queue stepped

theorem act_host {hostEvent : Hardware.Event scalars}
    (outside : ∀ payload, hostEvent ≠ .payload payload) :
    link.act sub cmdSize (.host hostEvent : Action scalars stateSize) = link.actHost hostEvent := by
  cases hostEvent with
  | payload bytes => exact absurd rfl (outside bytes)
  | command | read | write | activate | deactivate => rfl

theorem actHost_step {hostEvent : Hardware.Event scalars}
    (outside : ∀ payload, hostEvent ≠ .payload payload)
    (acted : link.actHost hostEvent = some (event, after)) :
    LinkStep sub cmdSize stateSize link event after := by
  unfold Link.actHost at acted
  split at acted
  · cases acted
  · rename_i host stepped
    cases acted
    exact .host outside stepped

/-- What an action does to the link, and why it could. -/
theorem Link.Step.cases (step : Link.Step sub cmdSize stateSize link event after) :
    LinkStep sub cmdSize stateSize link event after := by
  obtain ⟨action, acted⟩ := step
  cases action with
  | host hostEvent =>
      have outside : ∀ payload, hostEvent ≠ .payload payload := by
        rintro payload rfl
        cases acted
      rw [act_host outside] at acted
      exact actHost_step outside acted
  | loseCommand index =>
      cases acted
      exact .losesCommand index
  | deliverCommand => exact deliverCommand_step acted
  | advanceCallback =>
      obtain ⟨⟨moved, commands⟩, advanced, result⟩ := Option.bind_eq_some_iff.mp acted
      cases result
      obtain ⟨⟨writerEvent, shared⟩, advances, result⟩ := Option.bind_eq_some_iff.mp advanced
      cases result
      exact .advancesCommand advances
  | readCommand =>
      obtain ⟨⟨moved, commands⟩, advanced, result⟩ := Option.bind_eq_some_iff.mp acted
      cases result
      obtain ⟨readerEvent, rfl, same⟩ := readerAct advanced
      exact .readsCommand advanced same
  | writeState value =>
      obtain ⟨⟨moved, states⟩, began, result⟩ := Option.bind_eq_some_iff.mp acted
      cases result
      obtain ⟨⟨writerEvent, shared⟩, begins, result⟩ := Option.bind_eq_some_iff.mp began
      cases result
      exact .beginsState value begins
  | advanceWriteState =>
      obtain ⟨⟨moved, states⟩, advanced, result⟩ := Option.bind_eq_some_iff.mp acted
      cases result
      obtain ⟨⟨writerEvent, shared⟩, advances, result⟩ := Option.bind_eq_some_iff.mp advanced
      cases result
      exact .advancesState advances
  | publishState =>
      rw [Link.act, Link.publishState] at acted
      split at acted
      · cases acted
      · rename_i free
        obtain ⟨⟨moved, states⟩, advanced, result⟩ := Option.bind_eq_some_iff.mp acted
        cases result
        obtain ⟨readerEvent, rfl, same⟩ := readerAct advanced
        exact .publishesState free advanced same
  | put accepted =>
      rw [Link.act] at acted
      split at acted
      · cases acted
      · rename_i bytes held
        split at acted
        · cases acted
          exact .puts held
        · cases acted
          exact .failsPut held
  | loseState index =>
      cases acted
      exact .losesState index
  | deliverState => exact deliverState_step acted

end

def Event.command : Event scalars → Option (Rcl.Event Unit)
  | .commands event => some event
  | _ => none

def Event.state : Event scalars → Option (Rcl.Event Unit)
  | .states event => some event
  | _ => none

/-- What happened at the command buffer. -/
def commandTrace (trace : List (Event scalars)) : List (Rcl.Event Unit) :=
  trace.filterMap Event.command

def stateTrace (trace : List (Event scalars)) : List (Rcl.Event Unit) :=
  trace.filterMap Event.state

section

variable {sub : ZenbeddedSub Callback} {cmdSize stateSize : platform.SizeT}
  {first link : Link scalars width} {trace : List (Event scalars)}

theorem command_projection
    (reaches : Reaches (Link.Step sub cmdSize stateSize) first trace link) :
    Reaches (Rcl.WholeStep cmdSize.toNat) first.commands (commandTrace trace) link.commands := by
  induction reaches with
  | start => exact .start
  | @step trace link event after _ moved inductionHypothesis =>
      cases moved.cases with
      | host outside stepped =>
          rename_i hostEvent host
          cases hostEvent with
          | payload | command | read | write | activate | deactivate => exact inductionHypothesis
      | losesCommand | refusesCommand | beginsState | advancesState | publishesState | puts |
          failsPut | losesState | arrives => exact inductionHypothesis
      | @beginsCommand rest payload bytes writerEvent shared last taken begins =>
          have acted : link.commands.act cmdSize.toNat (.beginWrite (.command bytes)) =
              some (.writer writerEvent, { link.commands with shared }) := by
            rw [Rcl.System.act, begins]
            rfl
          apply inductionHypothesis.step ⟨.beginWrite (.command bytes), _, acted⟩
          intro write same
          cases same
          obtain ⟨rfl, size⟩ := Rcl.acceptedSample_some taken
          exact Rcl.whole_command size
      | @advancesCommand writerEvent shared advanced =>
          have acted : link.commands.act cmdSize.toNat .advanceWriter =
              some (.writer writerEvent, { link.commands with shared }) := by
            rw [Rcl.System.act, advanced]
            rfl
          apply inductionHypothesis.step ⟨.advanceWriter, _, acted⟩
          intro write begins
          cases begins
      | readsCommand acted _ =>
          apply inductionHypothesis.step ⟨.advanceReader (), _, acted⟩
          intro write begins
          cases begins

theorem state_projection
    (reaches : Reaches (Link.Step sub cmdSize stateSize) first trace link) :
    Reaches (Rcl.WholeStep stateSize.toNat) first.states (stateTrace trace) link.states := by
  induction reaches with
  | start => exact .start
  | @step trace link event after _ moved inductionHypothesis =>
      cases moved.cases with
      | host outside stepped =>
          rename_i hostEvent host
          cases hostEvent with
          | payload | command | read | write | activate | deactivate => exact inductionHypothesis
      | losesCommand | refusesCommand | beginsCommand | advancesCommand | readsCommand | puts |
          failsPut | losesState | arrives => exact inductionHypothesis
      | @beginsState value writerEvent shared begins =>
          have acted : link.states.act stateSize.toNat
              (.beginWrite (.state (Rcl.memcpyStores 0 value.val))) =
                some (.writer writerEvent, { link.states with shared }) := by
            rw [Rcl.System.act, begins]
            rfl
          apply inductionHypothesis.step ⟨_, _, acted⟩
          intro write same
          cases same
          exact Rcl.whole_state value.property
      | @advancesState writerEvent shared advanced =>
          have acted : link.states.act stateSize.toNat .advanceWriter =
              some (.writer writerEvent, { link.states with shared }) := by
            rw [Rcl.System.act, advanced]
            rfl
          apply inductionHypothesis.step ⟨.advanceWriter, _, acted⟩
          intro write begins
          cases begins
      | publishesState _ acted _ =>
          apply inductionHypothesis.step ⟨.advanceReader (), _, acted⟩
          intro write begins
          cases begins

end

end Zenbedded.Tier2
