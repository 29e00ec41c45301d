import Zenbedded.Rcl.CommandCounter
import Zenbedded.Rcl.CommandValues

namespace Zenbedded.Demos

open Zenbedded.Foundation Zenbedded.Transport Zenbedded.Rcl

/-! # The control loop of the inverted pendulum

`main` of both tiers, as far as it concerns commands: the counter of accepted
commands, the watchdog on it, and the velocity given to the stepper.  The
transport callback runs between any two accesses.
-/

def kControlPeriodMs : Nat := 10

def kCommandTimeoutMs : Nat := 200

def kCommandTimeoutCycles : BitVec 32 := BitVec.ofNat 32 (kCommandTimeoutMs / kControlPeriodMs)

/-- `value != 0.0`, which is false of both zeros only. -/
def nonzero (value : Double) : Bool := value ≠ 0 ∧ value ≠ BitVec.intMin 64

/-- What Tier 1 passes to `client.init` for its commands. -/
def tier1Params : JointCommandCodec.InitParams :=
  { frameId := some ⟨[98, 97, 115, 101, 95, 108, 105, 110, 107], by decide⟩
    jointNames := [⟨[115, 116, 101, 112, 112, 101, 114, 95, 109, 111, 116, 111, 114], by decide⟩,
      ⟨[109, 97, 103, 110, 101, 116, 105, 99, 95, 101, 110, 99, 111, 100, 101, 114], by decide⟩]
    numJoints := 2
    interfaceName := some ⟨[118, 101, 108, 111, 99, 105, 116, 121], by decide⟩
    joints := rfl }

/-- `cmd[0]`, where `cmd` is not initialised before the call. -/
def tier1Velocity {platform : Platform} (ctx : JointCommandCtx platform) (cmd : List Double)
    (payload : Bytes) : Option Double :=
  match JointCommandCodec.read ctx payload ctx.payloadSize ⟨0, 0, some cmd⟩ with
  | .ok (true, value) => value.values.bind List.head?
  | _ => none

/-- `zenbedded_command_t` has the stepper's velocity as its only member. -/
def commandSize {platform : Platform} : platform.SizeT := 8

/-- `cmd_val.stepper_motor_velocity`, where `cmd_val` is not initialised before the call. -/
def tier2Velocity {platform : Platform} (cmdVal : RawValue (commandSize : platform.SizeT))
    (payload : Bytes) : Option Double :=
  match RawCodec.read commandSize () payload commandSize cmdVal with
  | .ok (true, value) => some (ofWordBytes 64 value.val)
  | _ => none

/-- The payloads that a program takes, and the velocity that it reads from one. -/
inductive Program (platform : Platform) : Nat → (Bytes → Option Double) → Prop
  | tier1 (config : Config) {before ctx : JointCommandCtx platform} {scratch template : Bytes}
      (size : scratch.length = config.maxCmdBufferSize)
      (laidOut : JointCommandCodec.init before tier1Params scratch = .ok (ctx, template))
      (cmd : List Double) (two : cmd.length = 2) :
      Program platform ctx.payloadSize.toNat (tier1Velocity ctx cmd)
  | tier2 (cmdVal : RawValue (commandSize : platform.SizeT)) :
      Program platform (commandSize : platform.SizeT).toNat (tier2Velocity cmdVal)

inductive LoopPc where
  /-- Before the read of the counter that precedes the loop. -/
  | starting
  | counting
  /-- In `client.read_command`. -/
  | reading
  /-- Before `set_stepper_angular_vel`. -/
  | setting
deriving Repr, DecidableEq

structure Pendulum (width : Nat) where
  /-- The command buffer, with the loop as its reader. -/
  commands : System Unit width
  loop : LoopPc
  lastCommandCount : BitVec 32
  cyclesSinceCommand : BitVec 32
  stepperAngularVelocity : Double

inductive PendulumEvent where
  | buffer (event : Event Unit)
  /-- The callback was called with a payload of another size. -/
  | dropped
  | initialCount (value : BitVec 32)
  /-- A cycle read the counter, and found it changed or not. -/
  | counted (value : BitVec 32) (changed : Bool)
  | velocitySet (value : Double)
deriving Repr, DecidableEq

inductive PendulumAction where
  | callback (payload : Bytes)
  | advanceCallback
  | loop
deriving Repr, DecidableEq

variable {width : Nat}

namespace Pendulum

def start (slots : SlotIdx → Bytes) : Pendulum width :=
  { commands := System.start slots
    loop := .starting
    lastCommandCount := 0
    cyclesSinceCommand := 0
    stepperAngularVelocity := 0 }

/-- `accepted_command_count()`. -/
def acceptedCommandCount (pendulum : Pendulum width) : BitVec 32 :=
  pendulum.commands.shared.acceptedCount.setWidth 32

/-- `on_transport_cmd_cb` up to its first load. -/
def callback (size : Nat) (payload : Bytes) (pendulum : Pendulum width) :
    Option (PendulumEvent × Pendulum width) :=
  if payload.length ≠ size then some (.dropped, pendulum)
  else (pendulum.commands.act size (.beginWrite (.command payload))).map
    fun (event, commands) => (.buffer event, { pendulum with commands })

def advanceCallback (size : Nat) (pendulum : Pendulum width) :
    Option (PendulumEvent × Pendulum width) :=
  (pendulum.commands.act size .advanceWriter).map
    fun (event, commands) => (.buffer event, { pendulum with commands })

/-- The cycle's read of the counter, and the branch that it takes. -/
def count (pendulum : Pendulum width) : PendulumEvent × Pendulum width :=
  let commandCount := pendulum.acceptedCommandCount
  if commandCount ≠ pendulum.lastCommandCount then
    (.counted commandCount true, { pendulum with
      lastCommandCount := commandCount, cyclesSinceCommand := 0, loop := .reading })
  else if pendulum.cyclesSinceCommand < kCommandTimeoutCycles then
    (.counted commandCount false, { pendulum with
      cyclesSinceCommand := pendulum.cyclesSinceCommand + 1, loop := .setting })
  else if nonzero pendulum.stepperAngularVelocity then
    (.counted commandCount false, { pendulum with
      stepperAngularVelocity := 0, loop := .setting })
  else (.counted commandCount false, { pendulum with loop := .setting })

/-- What the step of an attempt means to the loop: it retries until one returns true. -/
def afterRead (decode : Bytes → Option Double) (event : Event Unit) (pendulum : Pendulum width) :
    Pendulum width :=
  match event with
  | .reader _ (.returned (some bytes)) => { pendulum with
      stepperAngularVelocity := (decode bytes).getD pendulum.stepperAngularVelocity
      loop := .setting }
  | _ => pendulum

/-- `decode` is the velocity that `client.read_command` takes from a payload, if it returns true. -/
def loopStep (size : Nat) (decode : Bytes → Option Double) (pendulum : Pendulum width) :
    Option (PendulumEvent × Pendulum width) :=
  match pendulum.loop with
  | .starting =>
      let commandCount := pendulum.acceptedCommandCount
      some (.initialCount commandCount, { pendulum with
        lastCommandCount := commandCount, cyclesSinceCommand := 0, loop := .counting })
  | .counting => some pendulum.count
  | .reading => (pendulum.commands.act size (.advanceReader ())).map
      fun (event, commands) =>
        (.buffer event, { pendulum with commands }.afterRead decode event)
  | .setting => some (.velocitySet pendulum.stepperAngularVelocity,
      { pendulum with loop := .counting })

def act (size : Nat) (decode : Bytes → Option Double) (action : PendulumAction)
    (pendulum : Pendulum width) : Option (PendulumEvent × Pendulum width) :=
  match action with
  | .callback payload => pendulum.callback size payload
  | .advanceCallback => pendulum.advanceCallback size
  | .loop => pendulum.loopStep size decode

def Step (size : Nat) (decode : Bytes → Option Double) (pendulum : Pendulum width)
    (event : PendulumEvent) (after : Pendulum width) : Prop :=
  ∃ action, pendulum.act size decode action = some (event, after)

end Pendulum

def PendulumEvent.ofBuffer : PendulumEvent → Option (Event Unit)
  | .buffer event => some event
  | _ => none

/-- What happened to the command buffer. -/
def bufferTrace (trace : List PendulumEvent) : List (Event Unit) :=
  trace.filterMap PendulumEvent.ofBuffer

/-- The value that a read of the counter returned. -/
def PendulumEvent.count : PendulumEvent → Option (BitVec 32)
  | .initialCount value => some value
  | .counted value _ => some value
  | _ => none

def PendulumEvent.isCount (event : PendulumEvent) : Bool := event.count.isSome

def PendulumEvent.isChange : PendulumEvent → Bool
  | .counted _ true => true
  | _ => false

def PendulumEvent.isUnchanged : PendulumEvent → Bool
  | .counted _ false => true
  | _ => false

def PendulumEvent.velocityRead (decode : Bytes → Option Double) : PendulumEvent → Option Double
  | .buffer (.reader _ (.returned (some bytes))) => decode bytes
  | _ => none

/-- The cycles since the last one that saw a change. -/
def unchangedCycles (trace : List PendulumEvent) : Nat :=
  (since PendulumEvent.isChange trace).countP PendulumEvent.isUnchanged

/-- The velocities read in the last cycle that saw a change, and since. -/
def velocitiesRead (decode : Bytes → Option Double) (trace : List PendulumEvent) : List Double :=
  (since PendulumEvent.isChange trace).filterMap (PendulumEvent.velocityRead decode)

end Zenbedded.Demos
