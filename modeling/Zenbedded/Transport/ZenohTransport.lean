import Mathlib.Data.List.FinRange
import Mathlib.Logic.Function.Basic
import Zenbedded.Foundation.Bytes

namespace Zenbedded.Transport

open Zenbedded.Foundation

/-! # The Zenoh transport

The process-wide session with its pools of publishers and subscribers.  What a
Zenoh call answers is an argument of the function that makes it.  Endpoints are
pool indices; `Callback` stands for a subscriber's function and user data.
-/

inductive Tier where
  | tier1
  | tier2
deriving Repr, DecidableEq

def keyexprMaxLen : Nat := 512

/-- What `snprintf` leaves in an array of `size` characters. -/
def snprintf (size : Nat) (text : Text) : Text := text.take (size - 1)

def decimal (value : BitVec 32) : Text := Nat.toDigits 10 value.toNat

def hexByte (byte : UInt8) : Text :=
  [Nat.digitChar (byte.toNat / 16), Nat.digitChar (byte.toNat % 16)]

def rihsLedger : List (Text × Text) :=
  [("sensor_msgs::msg::dds_::JointState_".toList,
      "RIHS01_a13ee3a330e346c9d87b5aa18d24e11690752bd33a0350f11c5882bc9179260e".toList),
    ("control_msgs::msg::dds_::JointCommand_".toList,
      "RIHS01_6080a1df9d28b6badffa5efb27d4ba4ae657c4f6dd2b519b178a32db12405985".toList),
    ("sensor_msgs::msg::dds_::Imu_".toList,
      "RIHS01_7d9a00ff131080897a5ec7e26e315954b8eae3353c3f995c55faf71574000b5b".toList)]

def zenbeddedGetRihsHash (typeName : Text) : Text :=
  (rihsLedger.lookup typeName).getD "UNKNOWN_HASH".toList

def cleanTopic : Text → Text
  | '/' :: rest => rest
  | topicName => topicName

/-- Only Tier 1 passes a type name, and it always does. -/
def topicKeyexpr (tier : Tier) (domainId : BitVec 32) (topicName : Text) (typeName : Option Text) :
    Text :=
  match tier with
  | .tier1 =>
      let typeName := typeName.getD []
      snprintf keyexprMaxLen (decimal domainId ++ '/' :: cleanTopic topicName ++ '/' :: typeName ++
        '/' :: zenbeddedGetRihsHash typeName)
  | .tier2 => snprintf keyexprMaxLen (cleanTopic topicName)

def nodeLvKeyexpr (domainId : BitVec 32) (zid : Bytes) (nodeName : Text) : Text :=
  snprintf keyexprMaxLen ("@ros2_lv/".toList ++ decimal domainId ++ '/' :: zid.flatMap hexByte ++
    "/0/0/NN/%/%/".toList ++ nodeName)

def endpointLvKeyexpr (kind : Text) (domainId : BitVec 32) (zid : Bytes) (nodeName topicName : Text)
    (typeName : Option Text) : Text :=
  let typeName := typeName.getD []
  snprintf keyexprMaxLen ("@ros2_lv/".toList ++ decimal domainId ++ '/' :: zid.flatMap hexByte ++
    "/0/10/".toList ++ kind ++ "/%/%/".toList ++ nodeName ++ "/%".toList ++ cleanTopic topicName ++
    '/' :: typeName ++ '/' :: zenbeddedGetRihsHash typeName ++ "/::,7:,:,:,,".toList)

structure RmwZenohAttachment where
  sequenceNumber : BitVec 64
  timestampNs : BitVec 64
  gidLength : UInt8
  gid : Bytes
deriving Repr, DecidableEq

structure ZenbeddedPub where
  inUse : Bool
  /-- `z_pub` holds a declared Zenoh publisher. -/
  declared : Bool
  topicKeyexpr : Text
  attachment : RmwZenohAttachment
  lvKeyexpr : Text
deriving Repr, DecidableEq

structure ZenbeddedSub (Callback : Type) where
  inUse : Bool
  /-- `z_sub` holds a declared Zenoh subscriber. -/
  declared : Bool
  callback : Option Callback
  topicKeyexpr : Text
  lvKeyexpr : Text
deriving Repr, DecidableEq

def maxEndpoints : Nat := 10

abbrev Endpoint := Fin maxEndpoints

structure ZenohTransport (Callback : Type) where
  isInitialized : Bool
  currentDomainId : BitVec 32
  currentNodeName : Text
  /-- The id of the open session. -/
  zid : Bytes
  nodeLvStr : Text
  pubPool : Endpoint → ZenbeddedPub
  subPool : Endpoint → ZenbeddedSub Callback

variable {Callback : Type}

def ZenohTransport.start : ZenohTransport Callback :=
  { isInitialized := false
    currentDomainId := 0
    currentNodeName := []
    zid := []
    nodeLvStr := []
    pubPool := fun _ => ⟨false, false, [], ⟨0, 0, 0, []⟩, []⟩
    subPool := fun _ => ⟨false, false, none, [], []⟩ }

def firstFree (inUse : Endpoint → Bool) : Option Endpoint :=
  (List.finRange maxEndpoints).find? fun index => !inUse index

def ZenohTransport.setPub (transport : ZenohTransport Callback) (index : Endpoint)
    (pub : ZenbeddedPub) : ZenohTransport Callback :=
  { transport with pubPool := Function.update transport.pubPool index pub }

def ZenohTransport.setSub (transport : ZenohTransport Callback) (index : Endpoint)
    (sub : ZenbeddedSub Callback) : ZenohTransport Callback :=
  { transport with subPool := Function.update transport.subPool index sub }

/-- `opened` is the id of the session that `z_open` opens, if it succeeds. -/
def zenbeddedTransportInit (tier : Tier) (domainId : BitVec 32) (nodeName : Text)
    (opened : Option Bytes) (transport : ZenohTransport Callback) : Int × ZenohTransport Callback :=
  if transport.isInitialized then (0, transport)
  else
    let transport :=
      { transport with currentDomainId := domainId, currentNodeName := nodeName.take 63 }
    match opened with
    | none => (-1, transport)
    | some zid =>
        let transport :=
          match tier with
          | .tier1 =>
              { transport with nodeLvStr := nodeLvKeyexpr domainId zid transport.currentNodeName }
          | .tier2 => transport
        (0, { transport with zid, isInitialized := true })

def zenbeddedTransportDestroy (transport : ZenohTransport Callback) : ZenohTransport Callback :=
  if transport.isInitialized then
    { transport with
      isInitialized := false
      pubPool := fun index =>
        let pub := transport.pubPool index
        if pub.inUse then { pub with inUse := false, declared := false } else pub
      subPool := fun index =>
        let sub := transport.subPool index
        if sub.inUse then { sub with inUse := false, declared := false } else sub }
  else transport

/-- `accepted` is the outcome of `z_declare_publisher`, `gid` the random bytes. -/
def zenbeddedTransportDeclarePublisher (tier : Tier) (topicName : Text) (typeName : Option Text)
    (accepted : Bool) (gid : Bytes) (transport : ZenohTransport Callback) :
    Option Endpoint × ZenohTransport Callback :=
  if transport.isInitialized then
    match firstFree fun index => (transport.pubPool index).inUse with
    | none => (none, transport)
    | some index =>
        let pub := { transport.pubPool index with
          topicKeyexpr := topicKeyexpr tier transport.currentDomainId topicName typeName }
        if accepted then
          let pub := { pub with inUse := true, declared := true }
          match tier with
          | .tier1 =>
              (some index, transport.setPub index { pub with
                attachment := { pub.attachment with sequenceNumber := 0, gidLength := 16, gid }
                lvKeyexpr := endpointLvKeyexpr "MP".toList transport.currentDomainId transport.zid
                  transport.currentNodeName topicName typeName })
          | .tier2 => (some index, transport.setPub index pub)
        else (none, transport.setPub index { pub with inUse := false })
  else (none, transport)

def zenbeddedTransportDeclareSubscriber (tier : Tier) (topicName : Text) (typeName : Option Text)
    (callback : Callback) (accepted : Bool) (transport : ZenohTransport Callback) :
    Option Endpoint × ZenohTransport Callback :=
  if transport.isInitialized then
    match firstFree fun index => (transport.subPool index).inUse with
    | none => (none, transport)
    | some index =>
        let sub := { transport.subPool index with
          callback := some callback
          topicKeyexpr := topicKeyexpr tier transport.currentDomainId topicName typeName }
        if accepted then
          let sub := { sub with inUse := true, declared := true }
          match tier with
          | .tier1 =>
              (some index, transport.setSub index { sub with
                lvKeyexpr := endpointLvKeyexpr "MS".toList transport.currentDomainId transport.zid
                  transport.currentNodeName topicName typeName })
          | .tier2 => (some index, transport.setSub index sub)
        else (none, transport.setSub index { sub with inUse := false })
  else (none, transport)

/-- What is handed to `z_publisher_put`: the payload and, in Tier 1, the attachment. -/
structure Put where
  endpoint : Endpoint
  payload : Bytes
  attachment : Option RmwZenohAttachment
deriving Repr, DecidableEq

/-- `now` is the wall clock in nanoseconds, `accepted` the outcome of the put. -/
def zenbeddedTransportPublish (tier : Tier) (pub : Option Endpoint) (payload : Bytes)
    (now : BitVec 64) (accepted : Bool) (transport : ZenohTransport Callback) :
    Int × Option Put × ZenohTransport Callback :=
  match pub with
  | none => (-1, none, transport)
  | some index =>
      let pub := transport.pubPool index
      if pub.inUse then
        let code := if accepted then 0 else -1
        match tier with
        | .tier1 =>
            let attachment := { pub.attachment with
              sequenceNumber := pub.attachment.sequenceNumber + 1, timestampNs := now }
            (code, some ⟨index, payload, some attachment⟩,
              transport.setPub index { pub with attachment })
        | .tier2 => (code, some ⟨index, payload, none⟩, transport)
      else (-1, none, transport)

/-- The receive bound of `internal_sub_handler`. -/
def receiveBound : Tier → Nat
  | .tier1 => 1024
  | .tier2 => 64

/-- The call that an inbound sample leads to: the subscriber's callback and the bytes. -/
def internalSubHandler (tier : Tier) (sub : ZenbeddedSub Callback) (payload : Bytes) :
    Option (Callback × Bytes) :=
  match sub.callback with
  | none => none
  | some callback =>
      if payload.length = 0 ∨ receiveBound tier < payload.length then none
      else some (callback, payload)

end Zenbedded.Transport
