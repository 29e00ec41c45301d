import Zenbedded.Foundation.Trace
import Zenbedded.Transport.EndpointPools

namespace Zenbedded.Transport

open Zenbedded.Foundation

/-! # Runs of transport calls

Any sequence of calls with any outcomes.  What a run did to Zenoh is read from
the calls it made, not from the pools.
-/

variable {Callback : Type}

/-- The calls into Zenoh that concern an endpoint. -/
inductive ZenohCall where
  /-- `z_declare_publisher` or `z_declare_subscriber` that answered `Z_OK`. -/
  | declare (slot : Slot)
  | undeclare (slot : Slot)
  | put (index : Endpoint)
deriving Repr, DecidableEq

inductive Request (Callback : Type) where
  | init (domainId : BitVec 32) (nodeName : Text) (opened : Option Bytes)
  | declarePublisher (topicName : Text) (typeName : Option Text) (accepted : Bool) (gid : Bytes)
  | declareSubscriber (topicName : Text) (typeName : Option Text) (callback : Callback)
      (accepted : Bool)
  | publish (pub : Option Endpoint) (payload : Bytes) (now : BitVec 64) (accepted : Bool)
  | destroy

def Request.isDestroy : Request Callback → Bool
  | .destroy => true
  | _ => false

inductive Answer where
  | code (code : Int)
  | handle (slot : Option Slot)
  | done
deriving Repr, DecidableEq

def Answer.returned : Answer → Option Slot
  | .handle slot => slot
  | _ => none

def declarePublisherCalls (accepted : Bool) (transport : ZenohTransport Callback) :
    List ZenohCall :=
  if transport.isInitialized then
    match firstFree fun index => (transport.pubPool index).inUse with
    | none => []
    | some index => if accepted then [.declare (.pub index)] else []
  else []

def declareSubscriberCalls (accepted : Bool) (transport : ZenohTransport Callback) :
    List ZenohCall :=
  if transport.isInitialized then
    match firstFree fun index => (transport.subPool index).inUse with
    | none => []
    | some index => if accepted then [.declare (.sub index)] else []
  else []

/-- The order in which `destroy` visits the pools. -/
def slots : List Slot :=
  (List.finRange maxEndpoints).map Slot.pub ++ (List.finRange maxEndpoints).map Slot.sub

def destroyCalls (transport : ZenohTransport Callback) : List ZenohCall :=
  if transport.isInitialized then (slots.filter transport.inUse).map ZenohCall.undeclare else []

def serve (tier : Tier) (transport : ZenohTransport Callback) :
    Request Callback → Answer × List ZenohCall × ZenohTransport Callback
  | .init domainId nodeName opened =>
      let (code, after) := zenbeddedTransportInit tier domainId nodeName opened transport
      (.code code, [], after)
  | .declarePublisher topicName typeName accepted gid =>
      let (handle, after) :=
        zenbeddedTransportDeclarePublisher tier topicName typeName accepted gid transport
      (.handle (handle.map Slot.pub), declarePublisherCalls accepted transport, after)
  | .declareSubscriber topicName typeName callback accepted =>
      let (handle, after) :=
        zenbeddedTransportDeclareSubscriber tier topicName typeName callback accepted transport
      (.handle (handle.map Slot.sub), declareSubscriberCalls accepted transport, after)
  | .publish pub payload now accepted =>
      let (code, put, after) := zenbeddedTransportPublish tier pub payload now accepted transport
      (.code code, (put.map fun put => ZenohCall.put put.endpoint).toList, after)
  | .destroy => (.done, destroyCalls transport, zenbeddedTransportDestroy transport)

structure Served (Callback : Type) where
  request : Request Callback
  answer : Answer
  calls : List ZenohCall

def Served.step (tier : Tier) (before : ZenohTransport Callback) (served : Served Callback)
    (after : ZenohTransport Callback) : Prop :=
  serve tier before served.request = (served.answer, served.calls, after)

def Served.isDestroy (served : Served Callback) : Bool := served.request.isDestroy

def Served.returned (served : Served Callback) : Option Slot := served.answer.returned

/-- Serves the requests in order, from a state with its trace. -/
def serveAll (tier : Tier) (trace : List (Served Callback)) (transport : ZenohTransport Callback) :
    List (Request Callback) → List (Served Callback) × ZenohTransport Callback
  | [] => (trace, transport)
  | request :: rest =>
      let (answer, calls, after) := serve tier transport request
      serveAll tier (⟨request, answer, calls⟩ :: trace) after rest

theorem serveAll_reaches {tier : Tier} {start transport : ZenohTransport Callback}
    {trace : List (Served Callback)} (reached : Reaches (Served.step tier) start trace transport)
    (requests : List (Request Callback)) :
    let served := serveAll tier trace transport requests
    Reaches (Served.step tier) start served.1 served.2 := by
  induction requests generalizing trace transport with
  | nil => exact reached
  | cons request rest inductionHypothesis => exact inductionHypothesis (reached.step rfl)

/-- The handles returned since the last `destroy`. -/
def handles (trace : List (Served Callback)) : List Slot :=
  (since Served.isDestroy trace).filterMap Served.returned

/-- The calls of a run, the newest first. -/
def zenohCalls (trace : List (Served Callback)) : List ZenohCall :=
  trace.flatMap fun served => served.calls.reverse

def ZenohCall.concerns (slot : Slot) : ZenohCall → Bool
  | .declare other => other = slot
  | .undeclare other => other = slot
  | .put _ => false

/-- The last call that declared or undeclared the endpoint of the slot declared it. -/
def CurrentlyDeclared (trace : List (Served Callback)) (slot : Slot) : Prop :=
  (zenohCalls trace).find? (ZenohCall.concerns slot) = some (.declare slot)

/-- What a call can do to the pools. -/
inductive Effect (before : ZenohTransport Callback) (served : Served Callback)
    (after : ZenohTransport Callback) : Prop
  | kept (running : served.isDestroy = false) (nothing : served.returned = none)
      (quiet : ∀ slot, ∀ call ∈ served.calls, call.concerns slot = false)
      (sameUse : after.inUse = before.inUse) (sameDeclared : after.declared = before.declared)
      (session : before.isInitialized = true → after.isInitialized = true)
  | taken (slot : Slot) (running : served.isDestroy = false)
      (returned : served.returned = some slot)
      (call : served.calls = [.declare slot]) (unused : before.inUse slot = false)
      (use : after.inUse = Function.update before.inUse slot true)
      (declared : after.declared = Function.update before.declared slot true)
      (session : after.isInitialized = true)
  | swept (destroying : served.isDestroy = true)
      (nothing : served.returned = none) (calls : served.calls = destroyCalls before)
      (destroyed : after = zenbeddedTransportDestroy before)

/-- Either declaration, by what it returns. -/
theorem DeclareOutcome.effect {tier : Tier} {kind : Endpoint → Slot} {topicName : Text}
    {typeName : Option Text} {accepted : Bool} {before after : ZenohTransport Callback}
    {handle : Option Endpoint} {request : Request Callback}
    (outcome : DeclareOutcome tier kind topicName typeName accepted before handle after)
    (running : request.isDestroy = false) :
    Effect before ⟨request, .handle (handle.map kind),
      (handle.map fun index => ZenohCall.declare (kind index)).toList⟩ after := by
  cases outcome with
  | closed | full => exact .kept running rfl (by simp) rfl rfl id
  | refused index _ unused _ only still declared =>
      exact .kept running rfl (by simp) (only.flag_same (still.trans unused.symm))
        (only.flag_same declared) (only.session.trans ·)
  | taken index session unused _ only used declared _ =>
      refine .taken (kind index) running rfl rfl unused ?_ ?_ (only.session.trans session)
      · rw [← used]
        exact only.flag ..
      · rw [← declared]
        exact only.flag ..

theorem declarePublisherCalls_eq (tier : Tier) (topicName : Text) (typeName : Option Text)
    (accepted : Bool) (gid : Bytes) (transport : ZenohTransport Callback) :
    declarePublisherCalls accepted transport =
      ((zenbeddedTransportDeclarePublisher tier topicName typeName accepted gid transport).1.map
        fun index => ZenohCall.declare (.pub index)).toList := by
  rw [declarePublisherCalls, zenbeddedTransportDeclarePublisher]
  cases transport.isInitialized with
  | false => rfl
  | true =>
      cases firstFree fun index => (transport.pubPool index).inUse with
      | none => rfl
      | some index =>
          cases accepted with
          | false => rfl
          | true =>
              cases tier with
              | tier1 => rfl
              | tier2 => rfl

theorem declareSubscriberCalls_eq (tier : Tier) (topicName : Text) (typeName : Option Text)
    (callback : Callback) (accepted : Bool) (transport : ZenohTransport Callback) :
    declareSubscriberCalls accepted transport =
      ((zenbeddedTransportDeclareSubscriber tier topicName typeName callback accepted
        transport).1.map fun index => ZenohCall.declare (.sub index)).toList := by
  rw [declareSubscriberCalls, zenbeddedTransportDeclareSubscriber]
  cases transport.isInitialized with
  | false => rfl
  | true =>
      cases firstFree fun index => (transport.subPool index).inUse with
      | none => rfl
      | some index =>
          cases accepted with
          | false => rfl
          | true =>
              cases tier with
              | tier1 => rfl
              | tier2 => rfl

theorem publish_unused {transport : ZenohTransport Callback} {index : Endpoint}
    (unused : transport.inUse (.pub index) = false) (tier : Tier) (payload : Bytes)
    (now : BitVec 64) (accepted : Bool) :
    zenbeddedTransportPublish tier (some index) payload now accepted transport =
      (-1, none, transport) :=
  if_neg (Bool.eq_false_iff.mp unused)

theorem publish_used {transport : ZenohTransport Callback} {index : Endpoint}
    (used : transport.inUse (.pub index) = true) (tier : Tier) (payload : Bytes)
    (now : BitVec 64) (accepted : Bool) :
    ∃ attachment after, zenbeddedTransportPublish tier (some index) payload now accepted transport =
        (if accepted then 0 else -1, some ⟨index, payload, attachment⟩, after) ∧
      after.inUse = transport.inUse ∧ after.declared = transport.declared ∧
      after.isInitialized = transport.isInitialized := by
  cases tier with
  | tier1 =>
      refine ⟨_, _, if_pos used, ?_, ?_, rfl⟩
      · exact (setPub_onlyChanges ..).flag_same (setPub_inUse ..)
      · exact (setPub_onlyChanges ..).flag_same (setPub_declared ..)
  | tier2 => exact ⟨_, _, if_pos used, rfl, rfl, rfl⟩

theorem publish_effect (tier : Tier) (transport : ZenohTransport Callback)
    (pub : Option Endpoint) (payload : Bytes) (now : BitVec 64) (accepted : Bool) :
    let request := Request.publish pub payload now accepted
    let served := serve tier transport request
    Effect transport ⟨request, served.1, served.2.1⟩ served.2.2 := by
  simp only [serve]
  cases pub with
  | none => exact .kept rfl rfl (by simp [zenbeddedTransportPublish]) rfl rfl id
  | some index =>
      cases state : transport.inUse (.pub index) with
      | false =>
          rw [publish_unused state]
          exact .kept rfl rfl (by simp) rfl rfl id
      | true =>
          obtain ⟨attachment, after, run, sameUse, sameDeclared, session⟩ :=
            publish_used state tier payload now accepted
          rw [run]
          exact .kept rfl rfl (by simp [ZenohCall.concerns]) sameUse sameDeclared
            (session.trans ·)

theorem init_effect (tier : Tier) (transport : ZenohTransport Callback)
    (domainId : BitVec 32) (nodeName : Text) (opened : Option Bytes) :
    let request := Request.init domainId nodeName opened
    let served := serve tier transport request
    Effect transport ⟨request, served.1, served.2.1⟩ served.2.2 := by
  simp only [serve, zenbeddedTransportInit]
  cases already : transport.isInitialized with
  | true => exact .kept rfl rfl (by simp) rfl rfl id
  | false =>
      cases opened with
      | none => exact .kept rfl rfl (by simp) rfl rfl (by simp [already])
      | some zid =>
          cases tier with
          | tier1 => exact .kept rfl rfl (by simp) rfl rfl (fun _ => rfl)
          | tier2 => exact .kept rfl rfl (by simp) rfl rfl (fun _ => rfl)

theorem Served.step_effect {tier : Tier} {before after : ZenohTransport Callback}
    {served : Served Callback} (taken : Served.step tier before served after) :
    Effect before served after := by
  obtain ⟨request, answer, calls⟩ := served
  have result : serve tier before request = (answer, calls, after) := taken
  have effect : Effect before
      ⟨request, (serve tier before request).1, (serve tier before request).2.1⟩
      (serve tier before request).2.2 := by
    cases request with
    | init domainId nodeName opened => exact init_effect tier before domainId nodeName opened
    | declarePublisher topicName typeName accepted gid =>
        simp only [serve]
        rw [declarePublisherCalls_eq tier topicName typeName accepted gid]
        exact (declarePublisher_outcome rfl).effect rfl
    | declareSubscriber topicName typeName callback accepted =>
        simp only [serve]
        rw [declareSubscriberCalls_eq tier topicName typeName callback accepted]
        exact (declareSubscriber_outcome rfl).1.effect rfl
    | publish pub payload now accepted =>
        exact publish_effect tier before pub payload now accepted
    | destroy => exact .swept rfl rfl rfl rfl
  rwa [result] at effect

end Zenbedded.Transport
