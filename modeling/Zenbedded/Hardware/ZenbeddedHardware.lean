import Zenbedded.Hardware.FieldAccess

namespace Zenbedded.Hardware

open Zenbedded.Foundation Zenbedded.Schema

/-! # The hardware interface

`ZenbeddedHardware` between the controllers and Zenoh.  Whether a Zenoh object
could be created, and which vector the real-time side of the buffer gets, are
arguments of the functions that ask for it.
-/

/-- The vectors ever written, the default one first, and the one last read. -/
structure RealtimeBuffer where
  written : List Bytes
  seen : Nat
  inRange : seen < written.length
deriving DecidableEq

namespace RealtimeBuffer

def initial : RealtimeBuffer := { written := [[]], seen := 0, inRange := Nat.one_pos }

def writeFromNonRT (buffer : RealtimeBuffer) (vector : Bytes) : RealtimeBuffer :=
  { written := buffer.written ++ [vector]
    seen := buffer.seen
    inRange := by
      rw [List.length_append]
      exact Nat.lt_add_right _ buffer.inRange }

/-- A read gets a vector that was written, and never an older one than before. -/
def readFromRT (buffer : RealtimeBuffer) (choice : Nat) : RealtimeBuffer :=
  { written := buffer.written
    seen := max buffer.seen (min choice (buffer.written.length - 1))
    inRange := by
      have inRange := buffer.inRange
      omega }

def held (buffer : RealtimeBuffer) : Bytes := buffer.written.get ⟨buffer.seen, buffer.inRange⟩

end RealtimeBuffer

structure Session where
  id : Nat
  connectEndpoints : Text
  mode : Text
deriving Repr, DecidableEq

/-- A subscriber or publisher, with the session it was declared on. -/
structure Endpoint where
  session : Nat
  keyexpr : Text
deriving Repr, DecidableEq

variable (scalars : Scalars)

structure ZenbeddedHardware where
  zenohEndpoint : Text
  stateTopic : Text
  commandTopic : Text
  zenohMode : Text
  schema : InterfaceSchema
  hwStates : List (Double scalars)
  hwCommands : List (Double scalars)
  stateBuffer : RealtimeBuffer
  commandBuffer : Bytes
  session : Option Session
  stateSub : Option Endpoint
  commandPub : Option Endpoint

/-- Which of the objects that `on_activate` creates could be created. -/
structure Creation where
  session : Bool
  subscriber : Bool
  publisher : Bool
deriving Repr, DecidableEq

inductive CallbackReturn where
  | success
  | error
deriving Repr, DecidableEq

namespace ZenbeddedHardware

variable {scalars}

/-- `none` is `CallbackReturn::ERROR`. -/
def onInit (scalars : Scalars) (baseSucceeds : Bool) (hardwareParameters : Text → Option Text)
    (fromYamlFile : Text → InterfaceSchema) : Option (ZenbeddedHardware scalars) := do
  if baseSucceeds = false then none
  let zenohEndpoint ← hardwareParameters "zenoh_endpoint".toList
  let stateTopic ← hardwareParameters "state_topic".toList
  let commandTopic ← hardwareParameters "command_topic".toList
  let zenohMode := (hardwareParameters "zenoh_mode".toList).getD "client".toList
  let schemaPath ← hardwareParameters "schema_path".toList
  let schema := fromYamlFile schemaPath
  if schema.valid = false then none
  return {
    zenohEndpoint, stateTopic, commandTopic, zenohMode, schema
    hwStates := List.replicate schema.stateFlatFields.length scalars.quietNan
    hwCommands := List.replicate schema.commandFlatFields.length scalars.quietNan
    stateBuffer := RealtimeBuffer.initial.writeFromNonRT
      (List.replicate schema.stateBufferSize 0)
    commandBuffer := List.replicate schema.commandBufferSize 0
    session := none
    stateSub := none
    commandPub := none }

/-- The callback of the state subscriber. -/
def onSample (hardware : ZenbeddedHardware scalars) (bytes : Bytes) : ZenbeddedHardware scalars :=
  if bytes.length ≠ hardware.schema.stateBufferSize then hardware
  else { hardware with stateBuffer := hardware.stateBuffer.writeFromNonRT bytes }

/-- A value at the start of an activation. -/
def orZero (value : Double scalars) : Double scalars :=
  if scalars.isNan value = true then scalars.zero else value

/-- `id` names the session this activation opens. -/
def onActivate (hardware : ZenbeddedHardware scalars) (id : Nat) (creation : Creation) :
    ZenbeddedHardware scalars × CallbackReturn :=
  if creation.session = false then (hardware, .error)
  else
    let opened := { hardware with
      session := some
        { id
          connectEndpoints := "[\"".toList ++ hardware.zenohEndpoint ++ "\"]".toList
          mode := "\"".toList ++ hardware.zenohMode ++ "\"".toList } }
    if creation.subscriber = false then (opened, .error)
    else
      let subscribed := { opened with
        stateSub := some { session := id, keyexpr := hardware.stateTopic } }
      if creation.publisher = false then (subscribed, .error)
      else
        ({ subscribed with
            commandPub := some { session := id, keyexpr := hardware.commandTopic }
            hwStates := hardware.hwStates.map orZero
            hwCommands := hardware.hwCommands.map orZero }, .success)

def onDeactivate (hardware : ZenbeddedHardware scalars) :
    ZenbeddedHardware scalars × CallbackReturn :=
  ({ hardware with stateSub := none, commandPub := none, session := none }, .success)

def readOne (schema : InterfaceSchema) (buffer : Bytes) (states : List (Double scalars))
    (index : Nat) : Except AccessFault (List (Double scalars)) := do
  let value ← readStateField scalars schema buffer index
  if index < states.length then .ok (states.set index value)
  else .error (.element index states.length)

def readAll (schema : InterfaceSchema) (buffer : Bytes) (states : List (Double scalars)) :
    Except AccessFault (List (Double scalars)) :=
  (List.range schema.stateFlatFields.length).foldlM (readOne schema buffer) states

/-- `read` with what the real-time buffer gave. -/
def readFrom (hardware : ZenbeddedHardware scalars) (buffer : Bytes) :
    Except AccessFault (ZenbeddedHardware scalars) :=
  if buffer.length = hardware.schema.stateBufferSize then do
    let hwStates ← readAll hardware.schema buffer hardware.hwStates
    return { hardware with hwStates }
  else .ok hardware

def read (hardware : ZenbeddedHardware scalars) (choice : Nat) :
    Except AccessFault (ZenbeddedHardware scalars) :=
  let stateBuffer := hardware.stateBuffer.readFromRT choice
  readFrom { hardware with stateBuffer } stateBuffer.held

def writeOne (schema : InterfaceSchema) (commands : List (Double scalars)) (buffer : Bytes)
    (index : Nat) : Except AccessFault Bytes :=
  match commands[index]? with
  | none => .error (.element index commands.length)
  | some value => writeCommandField scalars schema buffer index value

def writeAll (schema : InterfaceSchema) (commands : List (Double scalars)) (buffer : Bytes) :
    Except AccessFault Bytes :=
  (List.range schema.commandFlatFields.length).foldlM (writeOne schema commands) buffer

/-- The bytes are what is published, if anything is. -/
def write (hardware : ZenbeddedHardware scalars) :
    Except AccessFault (ZenbeddedHardware scalars × Option Bytes) :=
  if hardware.commandPub.isNone = true then .ok (hardware, none)
  else do
    let commandBuffer ← writeAll hardware.schema hardware.hwCommands hardware.commandBuffer
    return ({ hardware with commandBuffer }, some commandBuffer)

end ZenbeddedHardware

/-- The hardware, the sessions opened so far and the bytes published so far. -/
structure System where
  hardware : ZenbeddedHardware scalars
  opened : Nat
  published : List Bytes

inductive Event where
  /-- A sample on the state topic. -/
  | payload (bytes : Bytes)
  /-- A controller sets a command interface. -/
  | command (index : Nat) (value : Double scalars)
  | read (choice : Nat)
  | write
  | activate (creation : Creation)
  | deactivate

namespace System

variable {scalars}

/-- Only a declared subscriber has its callback run. -/
def step (system : System scalars) : Event scalars → Except AccessFault (System scalars)
  | .payload bytes =>
      if system.hardware.stateSub.isSome = true then
        .ok { system with hardware := system.hardware.onSample bytes }
      else .ok system
  | .command index value =>
      .ok { system with hardware :=
        { system.hardware with hwCommands := system.hardware.hwCommands.set index value } }
  | .read choice => do
      let hardware ← system.hardware.read choice
      return { system with hardware }
  | .write => do
      let (hardware, bytes) ← system.hardware.write
      return { system with hardware, published := system.published ++ bytes.toList }
  | .activate creation =>
      .ok { system with
        hardware := (system.hardware.onActivate system.opened creation).1
        opened := system.opened + 1 }
  | .deactivate => .ok { system with hardware := system.hardware.onDeactivate.1 }

def run (system : System scalars) (events : List (Event scalars)) :
    Except AccessFault (System scalars) :=
  events.foldlM step system

def start (hardware : ZenbeddedHardware scalars) : System scalars :=
  { hardware, opened := 0, published := [] }

end System

end Zenbedded.Hardware
