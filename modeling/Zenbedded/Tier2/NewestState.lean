import Zenbedded.Rcl.Attempts
import Zenbedded.Tier2.StatePath

namespace Zenbedded.Tier2

open Zenbedded.Foundation Zenbedded.Schema
open Zenbedded.Transport (Platform ZenbeddedSub)
open Zenbedded.Hardware (ZenbeddedHardware RealtimeBuffer Laid Ready HoldsStates)
open Zenbedded.Rcl (ZenbeddedClient)

/-! # The newest state arrives

Wherever the application stands, also in the middle of `write_state`, the other
threads and the network get the state committed last to the host.
-/

variable {platform : Platform} {width : Nat} {Callback : Type} {scalars : Scalars}
  {schema : InterfaceSchema} {stateSize cmdSize : platform.SizeT}

/-- What the control thread, the network and `read` do without losing anything. -/
def Action.publishes : Action scalars stateSize → Bool
  | .publishState | .put true | .deliverState | .host (.read _) => true
  | _ => false

def Link.Publishes (sub : ZenbeddedSub Callback) (cmdSize stateSize : platform.SizeT)
    (link : Link scalars width) (event : Event scalars) (after : Link scalars width) : Prop :=
  ∃ action : Action scalars stateSize,
    action.publishes = true ∧ link.act sub cmdSize action = some (event, after)

section

variable {sub : ZenbeddedSub Callback} {link after : Link scalars width}

/-- What the control thread does not touch before its put. -/
structure Untouched (link after : Link scalars width) : Prop where
  shared : after.states.shared = link.states.shared
  host : after.host = link.host
  toHost : after.toHost = link.toHost

/-- An attempt of the control thread to copy a state. -/
theorem publishes_attempt (sub : ZenbeddedSub Callback) (cmdSize : platform.SizeT)
    {buffer : Rcl.DoubleBuffer width} {pc : Rcl.ReaderPc width} {result : Option Bytes}
    (attempt : Rcl.ReadAttempt stateSize.toNat buffer pc result)
    (same : link.states.shared.buffer = buffer) (here : link.states.readers () = pc)
    (free : link.tmp = none) :
    ∃ later after, Reaches (Link.Publishes sub cmdSize stateSize) link later after ∧
      Untouched link after ∧ after.states.readers () = .idle ∧ after.tmp = result := by
  induction attempt generalizing link with
  | @returns pc result last =>
      have acted : link.act sub cmdSize (.publishState : Action scalars stateSize) =
          some (.states (.reader () (.returned result)), { link with
            states := { link.states with
              readers := Function.update link.states.readers () .idle }
            tmp := result }) := by
        rw [Link.act, Link.publishState, free, Rcl.System.act, here, same, last]
        rfl
      exact ⟨_, _, .step .start ⟨_, rfl, acted⟩, ⟨rfl, rfl, rfl⟩, rfl, rfl⟩
  | @goesOn pc next event result step silent rest inductionHypothesis =>
      have acted : link.act sub cmdSize (.publishState : Action scalars stateSize) =
          some (.states (.reader () event), { link with
            states := { link.states with
              readers := Function.update link.states.readers () next }
            tmp := none }) := by
        rw [Link.act, Link.publishState, free, Rcl.System.act, here, same, step]
        exact congrArg (fun tmp => some (Event.states (.reader () event), { link with
          states := { link.states with
            readers := Function.update link.states.readers () next }
          tmp })) silent
      obtain ⟨later, after, further, untouched, idle, copied⟩ :=
        @inductionHypothesis { link with
          states := { link.states with
            readers := Function.update link.states.readers () next }
          tmp := none } same rfl rfl
      exact ⟨_, after, (Reaches.step .start ⟨_, rfl, acted⟩).trans further,
        ⟨untouched.shared, untouched.host, untouched.toHost⟩, idle, copied⟩

theorem publishes_put {bytes : Bytes} (held : link.tmp = some bytes) :
    Link.Publishes sub cmdSize stateSize link .internal
      { link with tmp := none, toHost := bytes :: link.toHost } := by
  refine ⟨.put true, rfl, ?_⟩
  rw [Link.act, held]
  rfl

/-- Whatever it holds is put. -/
theorem publishes_rest (sub : ZenbeddedSub Callback) (cmdSize stateSize : platform.SizeT)
    (link : Link scalars width) :
    ∃ later after, Reaches (Link.Publishes sub cmdSize stateSize) link later after ∧
      after.tmp = none ∧ after.states = link.states ∧ after.host = link.host := by
  cases held : link.tmp with
  | none => exact ⟨[], link, .start, held, rfl, rfl⟩
  | some bytes => exact ⟨_, _, .step .start (publishes_put held), rfl, rfl, rfl⟩

/-- The control thread gets to put the state committed last. -/
theorem publishes_newest (sub : ZenbeddedSub Callback) (cmdSize : platform.SizeT)
    (room : ∀ index, stateSize.toNat ≤ (link.states.shared.buffer.slots index).length) :
    ∃ later after, Reaches (Link.Publishes sub cmdSize stateSize) link later after ∧
      after.host = link.host ∧ after.tmp = none ∧
      ∃ queue, after.toHost = (link.states.shared.buffer.slots
        link.states.shared.buffer.activeIdx).take stateSize.toNat :: queue := by
  -- an attempt that is under way may still copy an older state
  obtain ⟨first, free, put, empty, states, host⟩ := publishes_rest sub cmdSize stateSize link
  rw [← states] at room ⊢
  obtain ⟨result, attempt⟩ := Rcl.readAttempt_ends room (free.states.readers ())
  obtain ⟨second, copied, attempted, untouched, idle, _⟩ :=
    publishes_attempt sub cmdSize attempt rfl rfl empty
  obtain ⟨third, ready, cleared, none, kept, sameHost⟩ :=
    publishes_rest sub cmdSize stateSize copied
  have fresh := Rcl.readAttempt_fresh (room free.states.shared.buffer.activeIdx)
  have shared : ready.states.shared = free.states.shared := by rw [kept, untouched.shared]
  have waiting : ready.states.readers () = .idle := by rw [kept, idle]
  obtain ⟨fourth, newest, freshly, unchanged, _, holds⟩ :=
    publishes_attempt sub cmdSize fresh (congrArg _ shared) waiting none
  refine ⟨_, _, (((put.trans attempted).trans cleared).trans freshly).step (publishes_put holds),
    ?_, rfl, _, rfl⟩
  exact unchanged.host.trans (sameHost.trans (untouched.host.trans host))

/-- A host with a subscriber takes every sample off the network. -/
theorem publishes_arrival (sub : ZenbeddedSub Callback) (cmdSize stateSize : platform.SizeT)
    {rest : List Bytes} {payload : Bytes} (laid : Laid schema)
    (ready : Ready schema link.host.hardware) (active : link.host.hardware.stateSub.isSome = true)
    (queue : link.toHost = rest ++ [payload]) :
    ∃ event after, Link.Publishes sub cmdSize stateSize link event after ∧ after.toHost = rest ∧
      after.tmp = link.tmp ∧ Ready schema after.host.hardware ∧
      after.host.hardware.stateSub.isSome = true ∧
      after.host.hardware.stateBuffer = (link.host.hardware.onSample payload).stateBuffer := by
  have last : link.toHost.getLast? = some payload := by
    rw [queue, List.getLast?_append_cons]
    rfl
  have stepped : link.host.step (.payload payload) =
      .ok { link.host with hardware := link.host.hardware.onSample payload } := by
    rw [Hardware.System.step, if_pos active]
  have acted : link.act sub cmdSize (.deliverState : Action scalars stateSize) =
      some (.arrived payload, { link with
        host := { link.host with hardware := link.host.hardware.onSample payload }
        toHost := rest }) := by
    rw [Link.act, Link.deliverState, last, queue, List.dropLast_concat]
    dsimp only
    rw [stepped]
  have still : (link.host.hardware.onSample payload).stateSub.isSome = true := by
    rw [ZenbeddedHardware.onSample]
    split
    · exact active
    · exact active
  exact ⟨_, _, ⟨_, rfl, acted⟩, rfl, rfl, Hardware.step_ready laid _ ready stepped, still, rfl⟩

/-- Samples arrive in order, so that the newest is the last that the host stores. -/
theorem publishes_arrivals (sub : ZenbeddedSub Callback) (cmdSize stateSize : platform.SizeT)
    {struct : Bytes} (laid : Laid schema) (size : struct.length = schema.stateBufferSize)
    {queue : List Bytes}
    (ready : Ready schema link.host.hardware) (active : link.host.hardware.stateSub.isSome = true)
    (onTheirWay : link.toHost = struct :: queue) :
    ∃ later after, Reaches (Link.Publishes sub cmdSize stateSize) link later after ∧
      after.toHost = [] ∧ after.tmp = link.tmp ∧ Ready schema after.host.hardware ∧
      after.host.hardware.stateBuffer.written.getLast? = some struct := by
  induction queue using List.reverseRecOn generalizing link with
  | nil =>
      obtain ⟨event, after, arrives, empty, free, readyAfter, _, stored⟩ :=
        publishes_arrival sub cmdSize stateSize laid ready active
          (show link.toHost = [] ++ [struct] from onTheirWay)
      refine ⟨_, after, .step .start arrives, empty, free, readyAfter, ?_⟩
      rw [stored, ZenbeddedHardware.onSample, ready.fixed, if_neg (not_not.mpr size)]
      exact List.getLast?_concat
  | append_singleton queue oldest inductionHypothesis =>
      obtain ⟨event, middle, arrives, rest, free, readyAfter, stillActive, _⟩ :=
        publishes_arrival sub cmdSize stateSize laid ready active
          (show link.toHost = (struct :: queue) ++ [oldest] from onTheirWay)
      obtain ⟨later, after, further, empty, same, readyLast, stored⟩ :=
        inductionHypothesis readyAfter stillActive rest
      exact ⟨_, after, (Reaches.step .start arrives).trans further, empty, same.trans free,
        readyLast, stored⟩

theorem held_newest {buffer : RealtimeBuffer} {vector : Bytes}
    (last : buffer.written.getLast? = some vector)
    (newest : buffer.written.length = buffer.seen + 1) : buffer.held = vector := by
  have here : buffer.written[buffer.seen]? = some buffer.held :=
    List.getElem?_eq_getElem buffer.inRange
  rw [List.getLast?_eq_getElem?, newest, Nat.add_sub_cancel, here] at last
  exact Option.some.inj last

/-- A read that gets the vector written last leaves no other to the reads after it. -/
theorem readFromRT_newest {buffer : RealtimeBuffer} {vector : Bytes}
    (last : buffer.written.getLast? = some vector) :
    (buffer.readFromRT buffer.written.length).held = vector ∧
      ∀ choice, ((buffer.readFromRT buffer.written.length).readFromRT choice).held = vector := by
  have inRange := buffer.inRange
  refine ⟨@held_newest (buffer.readFromRT buffer.written.length) _ last ?_, fun choice =>
    @held_newest ((buffer.readFromRT buffer.written.length).readFromRT choice) _ last ?_⟩
  · simp only [RealtimeBuffer.readFromRT]
    omega
  · simp only [RealtimeBuffer.readFromRT]
    omega

/-- The host has the state and nothing else is on its way to it. -/
structure Link.Shows (schema : InterfaceSchema) (struct : Bytes) (link : Link scalars width) :
    Prop where
  states : HoldsStates scalars schema.stateFlatFields struct link.host.hardware.hwStates
  nothingHeld : link.tmp = none
  nothingSent : link.toHost = []
  /-- Every further read finds it. -/
  stays : ∀ choice, (link.host.hardware.stateBuffer.readFromRT choice).held = struct

theorem publishes_read (sub : ZenbeddedSub Callback) (cmdSize stateSize : platform.SizeT)
    {struct : Bytes} (laid : Laid schema) (size : struct.length = schema.stateBufferSize)
    (ready : Ready schema link.host.hardware)
    (last : link.host.hardware.stateBuffer.written.getLast? = some struct)
    (free : link.tmp = none) (empty : link.toHost = []) :
    ∃ event after, Link.Publishes sub cmdSize stateSize link event after ∧
      after.Shows schema struct := by
  let choice := link.host.hardware.stateBuffer.written.length
  obtain ⟨first, found⟩ := readFromRT_newest last
  have outside : ∀ payload, (.read choice : Hardware.Event scalars) ≠ .payload payload := by
    intro payload same
    cases same
  have stepped : link.host.step (.read choice) =
      .ok { link.host with hardware := Hardware.afterRead schema link.host.hardware choice } := by
    rw [Hardware.System.step, Hardware.read_spec laid ready]
    rfl
  have acted := @act_host _ _ _ _ sub cmdSize stateSize link _ outside
  rw [Link.actHost, stepped] at acted
  refine ⟨_, _, ⟨_, rfl, acted⟩, ?_, free, empty, found⟩
  have decoded : (Hardware.afterRead schema link.host.hardware choice).hwStates =
      Hardware.decodeStates scalars schema struct := by
    rw [Hardware.afterRead]
    dsimp only
    rw [first, if_pos size]
  rw [decoded]
  exact Hardware.holdsStates_decoded laid size

end

/-- The state committed last, zeros at first, gets to the host without the application and with
nothing lost, whatever was lost before. -/
theorem newestState_arrives {config : Rcl.Config} {yaml : YamlCpp} {files : Text → Text}
    {baseSucceeds : Bool} {hardwareParameters : Text → Option Text}
    {hardware : ZenbeddedHardware scalars}
    (initialised : ZenbeddedHardware.onInit scalars baseSucceeds hardwareParameters
      (fun path => InterfaceSchema.fromYaml yaml (files path)) = some hardware)
    {client : ZenbeddedClient platform width Unit Unit}
    (deployed : Deployed config hardware.schema stateSize cmdSize client)
    {sub : ZenbeddedSub Callback} {trace : List (Event scalars)} {link : Link scalars width}
    (reaches : Reaches (Link.Step sub cmdSize stateSize) (Link.start hardware client) trace link)
    (active : link.host.hardware.stateSub.isSome = true) {struct : Bytes}
    (newest : (Rcl.committed (stateTrace trace) ++ [List.replicate stateSize.toNat 0]).head? =
      some struct) :
    ∃ later after, Reaches (Link.Publishes sub cmdSize stateSize) link later after ∧
      after.Shows hardware.schema struct := by
  obtain ⟨laid, ready⟩ := onInit_laid initialised
  obtain ⟨-, -, -, fits, -⟩ := deployed.clean
  have buffer := state_projection reaches
  rw [deployed.states_start] at buffer
  have start (index : Rcl.SlotIdx) : stateSize.toNat ≤
      ((fun _ => List.replicate config.maxStateBufferSize (0 : UInt8)) index : Bytes).length :=
    fits.trans_eq List.length_replicate.symm
  have room (index : Rcl.SlotIdx) :
      stateSize.toNat ≤ (link.states.shared.buffer.slots index).length :=
    (start index).trans_eq (Rcl.slots_length (buffer.mono fun _ _ _ step => step.step) index).symm
  have content := Rcl.active_newest buffer start
  rw [List.take_replicate, Nat.min_eq_left fits, newest] at content
  cases content
  obtain ⟨first, put, published, host, free, queue, onTheirWay⟩ :=
    publishes_newest sub cmdSize room
  have size : ((link.states.shared.buffer.slots link.states.shared.buffer.activeIdx).take
      stateSize.toNat).length = hardware.schema.stateBufferSize := by
    rw [List.length_take, Nat.min_eq_left (room _), deployed.stateStruct]
    exact laid.state.size
  have readyNow := link_ready laid ready reaches
  rw [← host] at readyNow active
  obtain ⟨second, stored, arrived, empty, still, readyLast, last⟩ :=
    publishes_arrivals sub cmdSize stateSize laid size readyNow active onTheirWay
  obtain ⟨event, after, read, shows⟩ :=
    publishes_read sub cmdSize stateSize laid size readyLast last (still.trans free) empty
  exact ⟨_, after, (published.trans arrived).step read, shows⟩

/-- The only copy of a state is not put, and the next state is half stored. -/
def halfStored : List (Action littleEndian (4 : Platform.host64.SizeT)) :=
  List.flatten
    [[.host (.activate ⟨true, true, true⟩), .writeState ⟨[0, 0, 192, 63], rfl⟩],
      List.replicate 6 .advanceWriteState, List.replicate 8 .publishState,
      [.put false, .writeState ⟨[0, 0, 32, 64], rfl⟩, .advanceWriteState, .advanceWriteState]]

set_option maxRecDepth 8192 in
theorem newestState_arrives_halfStored :
    ∃ (client : ZenbeddedClient Platform.host64 64 Unit Unit) (trace : List (Event littleEndian))
      (link : Link littleEndian 64),
      perform (fun action link => link.act oneSub (2 : Platform.host64.SizeT) action)
        (Link.start Hardware.oneFieldHost client) halfStored.reverse = some (trace, link) ∧
      link.states.shared.writer ≠ .idle ∧ link.toHost = [] ∧
      ∃ later after,
        Reaches (Link.Publishes oneSub (2 : Platform.host64.SizeT) (4 : Platform.host64.SizeT)) link
          later after ∧
        after.Shows Hardware.oneFieldSchema [0, 0, 192, 63] := by
  obtain ⟨client, deployed⟩ := oneField_deployed
  obtain ⟨trace, link, run, busy, lost, active, written⟩ : ∃ trace link,
      perform (fun action link => link.act oneSub (2 : Platform.host64.SizeT) action)
        (Link.start Hardware.oneFieldHost client) halfStored.reverse = some (trace, link) ∧
      link.states.shared.writer = .storing 0 (.state (Rcl.memcpyStores 0 [0, 0, 32, 64]))
        (Rcl.memcpyStores 2 [32, 64]) ∧
      link.toHost = [] ∧ link.host.hardware.stateSub.isSome = true ∧
      Rcl.committed (stateTrace trace) = [[0, 0, 192, 63]] := by
    rw [oneField_start deployed]
    exact ⟨_, _, rfl, rfl, rfl, rfl, rfl⟩
  have reaches : Reaches (Link.Step oneSub (2 : Platform.host64.SizeT) 4)
      (Link.start Hardware.oneFieldHost client) trace link :=
    perform_reaches (fun action _ _ _ acted => ⟨action, acted⟩) run
  obtain ⟨later, after, published, shows⟩ := newestState_arrives Hardware.oneFieldHost_initialised
    deployed reaches active (congrArg List.head? (congrArg (· ++ _) written))
  exact ⟨client, trace, link, run, by simp [busy], lost, later, after, published,
    shows⟩

end Zenbedded.Tier2
