import Zenbedded.Rcl.Codecs
import Zenbedded.Rcl.DoubleBuffer
import Zenbedded.Transport.ZenohTransport

namespace Zenbedded.Rcl

open Zenbedded.Foundation Zenbedded.Transport

/-! # The client

`ZenbeddedClientBase` and the template over it, called from one thread.  Return
codes are those of the source: zero, or a negated `errno`.
-/

/-- What Kconfig fixes at build time. -/
structure Config where
  tier : Tier
  domainId : BitVec 32
  nodeName : Text
  maxStateBufferSize : Nat
  maxCmdBufferSize : Nat
  pubTopic : Text
  subTopic : Text
  stateMsgType : Text
  cmdMsgType : Text
  stateRange : 32 ≤ maxStateBufferSize ∧ maxStateBufferSize ≤ 2048
  cmdRange : 32 ≤ maxCmdBufferSize ∧ maxCmdBufferSize ≤ 2048

/-- The type names that `init_base` passes on: none in Tier 2. -/
def Config.stateType (config : Config) : Option Text :=
  match config.tier with
  | .tier1 => some config.stateMsgType
  | .tier2 => none

def Config.cmdType (config : Config) : Option Text :=
  match config.tier with
  | .tier1 => some config.cmdMsgType
  | .tier2 => none

/-- The defaults of Kconfig for Tier 1. -/
def Config.tier1Default : Config :=
  { tier := .tier1
    domainId := 0
    nodeName := "zenbedded_node".toList
    maxStateBufferSize := 256
    maxCmdBufferSize := 256
    pubTopic := "zenbedded/state".toList
    subTopic := "zenbedded/cmd".toList
    stateMsgType := "sensor_msgs::msg::dds_::JointState_".toList
    cmdMsgType := "control_msgs::msg::dds_::JointCommand_".toList
    stateRange := by decide
    cmdRange := by decide }

def eio : Int := 5
def enomem : Int := 12
def enodev : Int := 19
def einval : Int := 22

/-- What the Zenoh calls of one initialisation answer. -/
structure ZenohOutcomes where
  /-- The id of the session that `z_open` opens, if it succeeds. -/
  opened : Option Bytes
  publisher : Bool
  subscriber : Bool
  gid : Bytes

structure ZenohOutcomes.AllSucceed (zenoh : ZenohOutcomes) : Prop where
  opened : zenoh.opened.isSome
  publisher : zenoh.publisher = true
  subscriber : zenoh.subscriber = true

variable {platform : Platform} {width : Nat}

structure ZenbeddedClientBase (platform : Platform) (width : Nat) where
  initialized : Bool
  statePayloadSize : platform.SizeT
  cmdPayloadSize : platform.SizeT
  pub : Option Endpoint
  sub : Option Endpoint
  stateBuffer : DoubleBuffer width
  cmdBuffer : DoubleBuffer width
  cmdAcceptedCount : BitVec width
  controlFreq : BitVec 32
  controlThreadRunning : Bool
  controlThreadStarted : Bool

namespace ZenbeddedClientBase

def resetBuffers (config : Config) (client : ZenbeddedClientBase platform width) :
    ZenbeddedClientBase platform width :=
  { client with
    stateBuffer := DoubleBuffer.cleared config.maxStateBufferSize
    cmdBuffer := DoubleBuffer.cleared config.maxCmdBufferSize
    cmdAcceptedCount := 0 }

/-- The constructor. -/
def new (config : Config) : ZenbeddedClientBase platform width :=
  { initialized := false
    statePayloadSize := 0
    cmdPayloadSize := 0
    pub := none
    sub := none
    stateBuffer := DoubleBuffer.cleared config.maxStateBufferSize
    cmdBuffer := DoubleBuffer.cleared config.maxCmdBufferSize
    cmdAcceptedCount := 0
    controlFreq := 0
    controlThreadRunning := false
    controlThreadStarted := false }

def stopThread (client : ZenbeddedClientBase platform width) : ZenbeddedClientBase platform width :=
  if client.controlThreadStarted then
    { client with
      controlThreadRunning := false, controlThreadStarted := false, controlFreq := 0 }
  else client

def startThread (controlFreq : BitVec 32) (client : ZenbeddedClientBase platform width) :
    Int × ZenbeddedClientBase platform width :=
  if client.initialized then
    if controlFreq = 0 then (-einval, client)
    else
      let client := if client.controlThreadStarted then client.stopThread else client
      (0, { client with controlFreq, controlThreadRunning := true, controlThreadStarted := true })
  else (-enodev, client)

variable {Callback : Type}

def initBase (config : Config) (zenoh : ZenohOutcomes) (onTransportCmdCb : Callback)
    (controlFreq : BitVec 32) (statePayloadSize cmdPayloadSize : platform.SizeT)
    (client : ZenbeddedClientBase platform width) (transport : ZenohTransport Callback) :
    Int × ZenbeddedClientBase platform width × ZenohTransport Callback :=
  if client.initialized then (0, client, transport)
  else
    let client := { client with statePayloadSize }
    if config.maxStateBufferSize < statePayloadSize.toNat then (-enomem, client, transport)
    else
      let client := { client with cmdPayloadSize }
      if config.maxCmdBufferSize < cmdPayloadSize.toNat then (-enomem, client, transport)
      else
        let (opened, transport) := zenbeddedTransportInit config.tier config.domainId
          config.nodeName zenoh.opened transport
        if opened ≠ 0 then (-eio, client, transport)
        else
          let (pub, transport) := zenbeddedTransportDeclarePublisher config.tier config.pubTopic
            config.stateType zenoh.publisher zenoh.gid transport
          let client := { client with pub }
          if pub = none then (-eio, client, transport)
          else
            let (sub, transport) := zenbeddedTransportDeclareSubscriber config.tier
              config.subTopic config.cmdType onTransportCmdCb zenoh.subscriber transport
            let client := { client with sub }
            if sub = none then (-eio, client, transport)
            else
              let client := { client with initialized := true, controlFreq }
              let (code, client) := client.startThread controlFreq
              (code, client, transport)

def destroy (client : ZenbeddedClientBase platform width) (transport : ZenohTransport Callback) :
    ZenbeddedClientBase platform width × ZenohTransport Callback :=
  if client.initialized then
    ({ client.stopThread with pub := none, sub := none, initialized := false },
      zenbeddedTransportDestroy transport)
  else (client, transport)

/-- A write that took `data` and committed it; the memory accesses of the step. -/
def writeCommandToBuffer (data : Bytes) (client : ZenbeddedClientBase platform width) :
    Except Fault (ZenbeddedClientBase platform width) := do
  let cmdBuffer ← client.cmdBuffer.writeToBuffer data
  return { client with cmdBuffer, cmdAcceptedCount := client.cmdAcceptedCount + 1 }

/-- Samples of another size are dropped. -/
def onTransportCmdCb (payload : Bytes) (client : ZenbeddedClientBase platform width) :
    Except Fault (ZenbeddedClientBase platform width) :=
  if payload.length ≠ client.cmdPayloadSize.toNat then .ok client
  else client.writeCommandToBuffer payload

/-- The retry loop ends at its first attempt when nobody writes. -/
def readLatestCommandRaw (client : ZenbeddedClientBase platform width) : Except Fault Bytes := do
  let (_, data) ← client.cmdBuffer.readFromBuffer client.cmdPayloadSize.toNat
  return data

/-- The bytes that `zenoh_publish_state` copies out and sends. -/
def statePayload (client : ZenbeddedClientBase platform width) : Except Fault Bytes := do
  let (_, data) ← client.stateBuffer.readFromBuffer client.statePayloadSize.toNat
  return data

/-- `now` and `accepted` are the clock and the outcome of the put. -/
def zenohPublishState (config : Config) (now : BitVec 64) (accepted : Bool)
    (client : ZenbeddedClientBase platform width) (transport : ZenohTransport Callback) :
    Except Fault (Int × Option Put × ZenohTransport Callback) :=
  if client.initialized then do
    let payload ← client.statePayload
    return zenbeddedTransportPublish config.tier client.pub payload now accepted transport
  else .ok (-enodev, none, transport)

end ZenbeddedClientBase

structure ZenbeddedClient (platform : Platform) (width : Nat) (StateCtx CommandCtx : Type) extends
    ZenbeddedClientBase platform width where
  stateCtx : StateCtx
  cmdCtx : CommandCtx

namespace ZenbeddedClient

def new (config : Config) {StateCtx CommandCtx : Type} (stateCtx : StateCtx)
    (cmdCtx : CommandCtx) : ZenbeddedClient platform width StateCtx CommandCtx :=
  { ZenbeddedClientBase.new config with stateCtx, cmdCtx }

variable {Callback StateCtx CommandCtx StateParams CommandParams StateValue CommandValue : Type}

section

variable (config : Config) (stateCodec : StateCodec platform StateCtx StateParams StateValue)
  (commandCodec : CommandCodec platform CommandCtx CommandParams CommandValue)

/-- The part of `init` before `init_base`: reset the buffers, lay the state
template out in both slots and the command in an uninitialised `scratch`. -/
def layOut (stateParams : StateParams) (cmdParams : CommandParams) (scratch : Bytes)
    (client : ZenbeddedClient platform width StateCtx CommandCtx) :
    Except Fault (ZenbeddedClient platform width StateCtx CommandCtx) := do
  let base := client.toZenbeddedClientBase.resetBuffers config
  let (stateCtx, first) ← stateCodec.init client.stateCtx stateParams (base.stateBuffer.slots 0)
  let stateBuffer := base.stateBuffer.setSlot 0 first
  let (stateCtx, second) ← stateCodec.init stateCtx stateParams (stateBuffer.slots 1)
  let stateBuffer := stateBuffer.setSlot 1 second
  let (cmdCtx, _) ← commandCodec.init client.cmdCtx cmdParams scratch
  return { base with stateBuffer, stateCtx, cmdCtx }

def init (zenoh : ZenohOutcomes) (onTransportCmdCb : Callback) (controlFreq : BitVec 32)
    (stateParams : StateParams) (cmdParams : CommandParams) (scratch : Bytes)
    (client : ZenbeddedClient platform width StateCtx CommandCtx)
    (transport : ZenohTransport Callback) :
    Except Fault
      (Int × ZenbeddedClient platform width StateCtx CommandCtx × ZenohTransport Callback) :=
  if client.initialized then .ok (0, client, transport)
  else do
    let client ← client.layOut config stateCodec commandCodec stateParams cmdParams scratch
    let (code, base, transport) := client.toZenbeddedClientBase.initBase config zenoh
      onTransportCmdCb controlFreq (stateCodec.payloadSize client.stateCtx)
      (commandCodec.payloadSize client.cmdCtx) transport
    return (code, { client with toZenbeddedClientBase := base }, transport)

end

section

variable (stateCodec : StateCodec platform StateCtx StateParams StateValue)
  (commandCodec : CommandCodec platform CommandCtx CommandParams CommandValue)

def writeState (value : StateValue) (client : ZenbeddedClient platform width StateCtx CommandCtx) :
    Except Fault (ZenbeddedClient platform width StateCtx CommandCtx) :=
  if client.initialized then do
    let index := client.stateBuffer.prepareWriteSlot
    let bytes ← stateCodec.write client.stateCtx value (client.stateBuffer.slots index)
    return { client with
      stateBuffer := (client.stateBuffer.setSlot index bytes).commitWriteSlot index }
  else .ok client

def readCommand (out : CommandValue)
    (client : ZenbeddedClient platform width StateCtx CommandCtx) :
    Except Fault (Bool × CommandValue) :=
  if client.initialized then do
    let data ← client.readLatestCommandRaw
    commandCodec.read client.cmdCtx data client.cmdPayloadSize out
  else .ok (false, out)

end

end ZenbeddedClient

end Zenbedded.Rcl
