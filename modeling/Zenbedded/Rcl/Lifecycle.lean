import Zenbedded.Foundation.Trace
import Zenbedded.Rcl.Client

namespace Zenbedded.Rcl

open Zenbedded.Foundation Zenbedded.Transport

/-! # The client and its control thread

The calls of one application thread, cut into the accesses to what they share
with the control thread, between any steps of it.  A join that succeeds and an
abort leave a thread that takes no step; nothing else is assumed of the kernel.
-/

/-- What is left of a call.  The functions stand for their next evaluation, after
which their accesses are pending. -/
inductive Statement (platform : Platform) where
  | initBase (zenoh : ZenohOutcomes) (controlFreq : BitVec 32)
      (statePayloadSize cmdPayloadSize : platform.SizeT)
  | startThread (controlFreq : BitVec 32)
  | stopThread
  | destroy
  | setPayloadSizes (statePayloadSize cmdPayloadSize : platform.SizeT)
  | transportInit (opened : Option Bytes)
  | declarePublisher (accepted : Bool) (gid : Bytes)
  | declareSubscriber (accepted : Bool)
  | transportDestroy
  /-- `zenbedded_transport_destroy` returns. -/
  | transportDestroyed
  | clearHandles
  | setInitialized (value : Bool)
  | setControlFreq (controlFreq : BitVec 32)
  | setRunning (value : Bool)
  | setStarted (value : Bool)
  | kThreadCreate
  | kThreadJoin
  | kThreadAbort
  | kSleep

/-- Where a control thread is in `control_thread_fn`. -/
inductive ThreadPc where
  | notCreated
  /-- Before it evaluates `1000 / control_freq_`. -/
  | entering
  | testing
  /-- In `zenoh_publish_state`, before the test of `initialized_`. -/
  | publishing
  /-- Before the call of `zenbedded_transport_publish`. -/
  | putting
  | sleeping
  | clearing
  | returned
  /-- Joined or aborted. -/
  | reaped
deriving Repr, DecidableEq

def ThreadPc.alive : ThreadPc → Bool
  | .notCreated | .returned | .reaped => false
  | _ => true

inductive Call (platform : Platform) where
  | init (zenoh : ZenohOutcomes) (controlFreq : BitVec 32)
      (statePayloadSize cmdPayloadSize : platform.SizeT)
  | startThread (controlFreq : BitVec 32)
  | stopThread
  | destroy
  | destructor

/-- `init` is the template's call of `init_base`, with the sizes the codecs laid out. -/
def Call.statement {platform : Platform} : Call platform → Statement platform
  | .init zenoh controlFreq statePayloadSize cmdPayloadSize =>
      .initBase zenoh controlFreq statePayloadSize cmdPayloadSize
  | .startThread controlFreq => .startThread controlFreq
  | .stopThread => .stopThread
  | .destroy | .destructor => .destroy

/-- Control threads are numbered in the order of their creation, from one. -/
inductive LifecycleEvent where
  | internal
  | created (thread : Nat)
  | reaped (thread : Nat)
  /-- The thread evaluates `1000 / control_freq_`. -/
  | divided (thread : Nat) (controlFreq : BitVec 32)
  /-- The thread calls `zenbedded_transport_publish`. -/
  | published (thread : Nat)
  /-- `zenbedded_transport_init` succeeded. -/
  | opened
  /-- `zenbedded_transport_destroy` is called. -/
  | destroying
deriving Repr, DecidableEq

structure Lifecycle (platform : Platform) (width : Nat) (Callback : Type) where
  client : ZenbeddedClientBase platform width
  transport : ZenohTransport Callback
  pending : List (Statement platform)
  /-- What the last call that answers returned. -/
  code : Int
  /-- The thread that `control_thread_` holds. -/
  controlThread : Nat
  threads : Nat → ThreadPc

variable {platform : Platform} {width : Nat} {Callback : Type}

namespace Lifecycle

def start (config : Config) : Lifecycle platform width Callback :=
  { client := ZenbeddedClientBase.new config
    transport := ZenohTransport.start
    pending := []
    code := 0
    controlThread := 0
    threads := fun _ => .notCreated }

/-- The call returns `code`. -/
def returns (code : Int) (state : Lifecycle platform width Callback) :
    Lifecycle platform width Callback :=
  { state with pending := [], code }

def atCall (state : Lifecycle platform width Callback) (call : Call platform) :
    Lifecycle platform width Callback :=
  { state with pending := [call.statement] }

def setThread (state : Lifecycle platform width Callback) (thread : Nat) (pc : ThreadPc) :
    Lifecycle platform width Callback :=
  { state with threads := Function.update state.threads thread pc }

end Lifecycle

namespace Statement

def launch (controlFreq : BitVec 32) : List (Statement platform) :=
  [.setControlFreq controlFreq, .setRunning true, .kThreadCreate, .setStarted true]

def halt : List (Statement platform) :=
  [.setRunning false, .kThreadJoin, .setStarted false, .setControlFreq 0]

def teardown : List (Statement platform) :=
  [.transportDestroy, .transportDestroyed, .clearHandles, .setInitialized false]

/-- `init_base` behind its checks of the sizes. -/
def bringUp (zenoh : ZenohOutcomes) (controlFreq : BitVec 32) : List (Statement platform) :=
  [.transportInit zenoh.opened, .declarePublisher zenoh.publisher zenoh.gid,
    .declareSubscriber zenoh.subscriber, .setInitialized true, .setControlFreq controlFreq,
    .startThread controlFreq]

variable (config : Config) (onTransportCmdCb : Callback)

/-- One statement, before `rest` of the call; `joined` is the outcome of a join. -/
def execute (joined : Bool) (rest : List (Statement platform))
    (state : Lifecycle platform width Callback) :
    Statement platform → LifecycleEvent × Lifecycle platform width Callback
  | .initBase zenoh controlFreq statePayloadSize cmdPayloadSize =>
      if state.client.initialized then (.internal, state.returns 0)
      else (.internal, { state with
        pending := .setPayloadSizes statePayloadSize cmdPayloadSize ::
          bringUp zenoh controlFreq ++ rest })
  | .startThread controlFreq =>
      if state.client.initialized then
        if controlFreq = 0 then (.internal, state.returns (-einval))
        else if state.client.controlThreadStarted then
          (.internal, { state with
            code := 0, pending := .stopThread :: .kSleep :: launch controlFreq ++ rest })
        else (.internal, { state with code := 0, pending := launch controlFreq ++ rest })
      else (.internal, state.returns (-enodev))
  | .stopThread =>
      if state.client.controlThreadStarted then
        (.internal, { state with pending := halt ++ rest })
      else (.internal, { state with pending := rest })
  | .destroy =>
      if state.client.initialized then
        (.internal, { state with pending := .stopThread :: teardown ++ rest })
      else (.internal, { state with pending := rest })
  | .setPayloadSizes statePayloadSize cmdPayloadSize =>
      let client := { state.client with statePayloadSize }
      if config.maxStateBufferSize < statePayloadSize.toNat then
        (.internal, { state with client }.returns (-enomem))
      else
        let client := { client with cmdPayloadSize }
        if config.maxCmdBufferSize < cmdPayloadSize.toNat then
          (.internal, { state with client }.returns (-enomem))
        else (.internal, { state with client, pending := rest })
  | .transportInit opened =>
      let (code, transport) := zenbeddedTransportInit config.tier config.domainId
        config.nodeName opened state.transport
      if code ≠ 0 then (.internal, { state with transport }.returns (-eio))
      else (.opened, { state with transport, pending := rest })
  | .declarePublisher accepted gid =>
      let (pub, transport) := zenbeddedTransportDeclarePublisher config.tier config.pubTopic
        config.stateType accepted gid state.transport
      let client := { state.client with pub }
      if pub = none then (.internal, { state with client, transport }.returns (-eio))
      else (.internal, { state with client, transport, pending := rest })
  | .declareSubscriber accepted =>
      let (sub, transport) := zenbeddedTransportDeclareSubscriber config.tier config.subTopic
        config.cmdType onTransportCmdCb accepted state.transport
      let client := { state.client with sub }
      if sub = none then (.internal, { state with client, transport }.returns (-eio))
      else (.internal, { state with client, transport, pending := rest })
  | .transportDestroy => (.destroying, { state with pending := rest })
  | .transportDestroyed =>
      (.internal, { state with
        transport := zenbeddedTransportDestroy state.transport, pending := rest })
  | .clearHandles =>
      (.internal, { state with
        client := { state.client with pub := none, sub := none }, pending := rest })
  | .setInitialized value =>
      (.internal, { state with
        client := { state.client with initialized := value }, pending := rest })
  | .setControlFreq controlFreq =>
      (.internal, { state with client := { state.client with controlFreq }, pending := rest })
  | .setRunning value =>
      (.internal, { state with
        client := { state.client with controlThreadRunning := value }, pending := rest })
  | .setStarted value =>
      (.internal, { state with
        client := { state.client with controlThreadStarted := value }, pending := rest })
  | .kThreadCreate =>
      let thread := state.controlThread + 1
      (.created thread, { state.setThread thread .entering with
        controlThread := thread, pending := rest })
  | .kThreadJoin =>
      if joined then
        (.reaped state.controlThread, { state.setThread state.controlThread .reaped with
          pending := rest })
      else (.internal, { state with pending := .kThreadAbort :: rest })
  | .kThreadAbort =>
      (.reaped state.controlThread, { state.setThread state.controlThread .reaped with
        pending := rest })
  | .kSleep => (.internal, { state with pending := rest })

end Statement

/-- `payload`, `now` and `accepted` are what is published, the clock and the outcome of the put. -/
def controlThreadFn (config : Config) (thread : Nat) (payload : Bytes) (now : BitVec 64)
    (accepted : Bool) (state : Lifecycle platform width Callback) :
    Option (LifecycleEvent × Lifecycle platform width Callback) :=
  match state.threads thread with
  | .notCreated | .returned | .reaped => none
  | .entering =>
      some (.divided thread state.client.controlFreq, state.setThread thread .testing)
  | .testing =>
      if state.client.controlThreadRunning then
        some (.internal, state.setThread thread .publishing)
      else some (.internal, state.setThread thread .clearing)
  | .publishing =>
      if state.client.initialized then some (.internal, state.setThread thread .putting)
      else some (.internal, state.setThread thread .sleeping)
  | .putting =>
      let (_, _, transport) := zenbeddedTransportPublish config.tier state.client.pub payload now
        accepted state.transport
      some (.published thread, { state.setThread thread .sleeping with transport })
  | .sleeping => some (.internal, state.setThread thread .testing)
  | .clearing =>
      some (.internal, { state.setThread thread .returned with
        client := { state.client with controlThreadRunning := false } })

/-- A step of the application or of a control thread. -/
inductive LifecycleStep (config : Config) (onTransportCmdCb : Callback) :
    Lifecycle platform width Callback → LifecycleEvent → Lifecycle platform width Callback → Prop
  | call {state : Lifecycle platform width Callback} (call : Call platform)
      (idle : state.pending = []) :
      LifecycleStep config onTransportCmdCb state .internal (state.atCall call)
  | statement {state after : Lifecycle platform width Callback} {event : LifecycleEvent}
      {statement : Statement platform} {rest : List (Statement platform)} (joined : Bool)
      (next : state.pending = statement :: rest)
      (executed : statement.execute config onTransportCmdCb joined rest state = (event, after)) :
      LifecycleStep config onTransportCmdCb state event after
  | thread {state after : Lifecycle platform width Callback} {event : LifecycleEvent}
      (thread : Nat) (payload : Bytes) (now : BitVec 64) (accepted : Bool)
      (taken : controlThreadFn config thread payload now accepted state = some (event, after)) :
      LifecycleStep config onTransportCmdCb state event after

section

variable {config : Config} {onTransportCmdCb : Callback}
  {state after : Lifecycle platform width Callback}

/-- Some run leads from the one state to the other. -/
def Alone (config : Config) (onTransportCmdCb : Callback)
    (before after : Lifecycle platform width Callback) : Prop :=
  ∃ trace, Reaches (LifecycleStep config onTransportCmdCb) before trace after

theorem Alone.refl (state : Lifecycle platform width Callback) :
    Alone config onTransportCmdCb state state :=
  ⟨[], .start⟩

theorem Alone.trans {first second third : Lifecycle platform width Callback}
    (left : Alone config onTransportCmdCb first second)
    (right : Alone config onTransportCmdCb second third) :
    Alone config onTransportCmdCb first third := by
  obtain ⟨earlier, before⟩ := left
  obtain ⟨later, behind⟩ := right
  exact ⟨later ++ earlier, before.trans behind⟩

/-- The next statement, whose join succeeds if it is one. -/
theorem Alone.next (state : Lifecycle platform width Callback) (statement : Statement platform)
    (rest : List (Statement platform)) (next : state.pending = statement :: rest) :
    Alone config onTransportCmdCb state
      (statement.execute config onTransportCmdCb true rest state).2 :=
  ⟨_, Reaches.start.step (.statement true next rfl)⟩

variable (config onTransportCmdCb)

theorem alone_halt (state : Lifecycle platform width Callback) (rest : List (Statement platform)) :
    Alone config onTransportCmdCb { state with pending := Statement.halt ++ rest }
      { state.setThread state.controlThread .reaped with
        client := { state.client with
          controlThreadRunning := false, controlThreadStarted := false, controlFreq := 0 }
        pending := rest } := by
  have run : Alone config onTransportCmdCb { state with pending := Statement.halt ++ rest } _ :=
    (((Alone.next _ _ _ rfl).trans (Alone.next _ _ _ rfl)).trans (Alone.next _ _ _ rfl)).trans
      (Alone.next _ _ _ rfl)
  exact run

theorem alone_launch (state : Lifecycle platform width Callback) (controlFreq : BitVec 32)
    (rest : List (Statement platform)) :
    Alone config onTransportCmdCb { state with pending := Statement.launch controlFreq ++ rest }
      { state.setThread (state.controlThread + 1) .entering with
        controlThread := state.controlThread + 1
        client := { state.client with
          controlFreq, controlThreadRunning := true, controlThreadStarted := true }
        pending := rest } := by
  have run : Alone config onTransportCmdCb
      { state with pending := Statement.launch controlFreq ++ rest } _ :=
    (((Alone.next _ _ _ rfl).trans (Alone.next _ _ _ rfl)).trans (Alone.next _ _ _ rfl)).trans
      (Alone.next _ _ _ rfl)
  exact run

theorem alone_stopThread (state : Lifecycle platform width Callback)
    (rest : List (Statement platform)) :
    ∃ threads, Alone config onTransportCmdCb { state with pending := .stopThread :: rest }
      { state with client := state.client.stopThread, threads, pending := rest } := by
  have enters : Alone config onTransportCmdCb { state with pending := .stopThread :: rest } _ :=
    Alone.next _ _ _ rfl
  simp only [Statement.execute] at enters
  cases started : state.client.controlThreadStarted with
  | false =>
      rw [if_neg (by simp [started])] at enters
      rw [ZenbeddedClientBase.stopThread, if_neg (by simp [started])]
      exact ⟨state.threads, enters⟩
  | true =>
      rw [if_pos started] at enters
      rw [ZenbeddedClientBase.stopThread, if_pos started]
      exact ⟨_, enters.trans (alone_halt config onTransportCmdCb state rest)⟩

theorem alone_startThread (state : Lifecycle platform width Callback) (controlFreq : BitVec 32) :
    ∃ controlThread threads,
      Alone config onTransportCmdCb { state with pending := [.startThread controlFreq] }
        { state with
          code := (state.client.startThread controlFreq).1
          client := (state.client.startThread controlFreq).2
          pending := [], controlThread, threads } := by
  have enters : Alone config onTransportCmdCb
      { state with pending := [.startThread controlFreq] } _ := Alone.next _ _ _ rfl
  simp only [Statement.execute] at enters
  unfold ZenbeddedClientBase.startThread
  cases initialized : state.client.initialized with
  | false =>
      rw [if_neg (by simp [initialized])] at enters
      exact ⟨state.controlThread, state.threads, enters⟩
  | true =>
      rw [if_pos initialized] at enters
      by_cases zero : controlFreq = 0
      · rw [if_pos zero] at enters
        rw [if_pos zero]
        exact ⟨state.controlThread, state.threads, enters⟩
      · rw [if_neg zero] at enters
        rw [if_neg zero]
        cases started : state.client.controlThreadStarted with
        | false =>
            rw [if_neg (by simp [started])] at enters
            exact ⟨_, _, enters.trans (alone_launch config onTransportCmdCb
              { state with code := 0 } controlFreq [])⟩
        | true =>
            rw [if_pos started] at enters
            obtain ⟨threads, stops⟩ := alone_stopThread config onTransportCmdCb
              { state with code := 0 } (.kSleep :: Statement.launch controlFreq)
            have sleeps : Alone config onTransportCmdCb _ _ := Alone.next
              { state with
                code := 0, client := state.client.stopThread, threads
                pending := .kSleep :: Statement.launch controlFreq } _ _ rfl
            have launches := alone_launch config onTransportCmdCb
              { state with code := 0, client := state.client.stopThread, threads } controlFreq []
            exact ⟨_, _, ((enters.trans stops).trans sleeps).trans launches⟩

theorem alone_destroy (state : Lifecycle platform width Callback) :
    ∃ threads, Alone config onTransportCmdCb { state with pending := [.destroy] }
      { state with
        client := (state.client.destroy state.transport).1
        transport := (state.client.destroy state.transport).2
        pending := [], threads } := by
  have enters : Alone config onTransportCmdCb { state with pending := [.destroy] } _ :=
    Alone.next _ _ _ rfl
  simp only [Statement.execute] at enters
  unfold ZenbeddedClientBase.destroy
  cases initialized : state.client.initialized with
  | false =>
      rw [if_neg (by simp [initialized])] at enters
      exact ⟨state.threads, enters⟩
  | true =>
      rw [if_pos initialized] at enters
      obtain ⟨threads, stops⟩ := alone_stopThread config onTransportCmdCb state Statement.teardown
      have destroys : Alone config onTransportCmdCb
          { state with
            client := state.client.stopThread, threads, pending := Statement.teardown } _ :=
        (((Alone.next _ _ _ rfl).trans (Alone.next _ _ _ rfl)).trans (Alone.next _ _ _ rfl)).trans
          (Alone.next _ _ _ rfl)
      exact ⟨threads, (enters.trans stops).trans destroys⟩

theorem alone_initBase (state : Lifecycle platform width Callback) (zenoh : ZenohOutcomes)
    (controlFreq : BitVec 32) (statePayloadSize cmdPayloadSize : platform.SizeT) :
    ∃ controlThread threads, Alone config onTransportCmdCb
      { state with pending := [.initBase zenoh controlFreq statePayloadSize cmdPayloadSize] }
      (let (code, client, transport) := state.client.initBase config zenoh onTransportCmdCb
        controlFreq statePayloadSize cmdPayloadSize state.transport
      { state with code, client, transport, pending := [], controlThread, threads }) := by
  have enters : Alone config onTransportCmdCb { state with
      pending := [.initBase zenoh controlFreq statePayloadSize cmdPayloadSize] } _ :=
    Alone.next _ _ _ rfl
  simp only [Statement.execute] at enters
  unfold ZenbeddedClientBase.initBase
  by_cases initialized : state.client.initialized = true
  · rw [if_pos initialized] at enters
    rw [if_pos initialized]
    exact ⟨state.controlThread, state.threads, enters⟩
  rw [if_neg initialized] at enters
  rw [if_neg initialized]
  have sizes := enters.trans (Alone.next _ _ _ rfl)
  simp only [Statement.execute] at sizes
  dsimp only
  by_cases tooLarge : config.maxStateBufferSize < statePayloadSize.toNat
  · rw [if_pos tooLarge] at sizes
    rw [if_pos tooLarge]
    exact ⟨state.controlThread, state.threads, sizes⟩
  rw [if_neg tooLarge] at sizes
  rw [if_neg tooLarge]
  by_cases commandTooLarge : config.maxCmdBufferSize < cmdPayloadSize.toNat
  · rw [if_pos commandTooLarge] at sizes
    rw [if_pos commandTooLarge]
    exact ⟨state.controlThread, state.threads, sizes⟩
  rw [if_neg commandTooLarge] at sizes
  rw [if_neg commandTooLarge]
  have opens := sizes.trans (Alone.next _ _ _ rfl)
  simp only [Statement.execute] at opens
  generalize zenbeddedTransportInit config.tier config.domainId config.nodeName zenoh.opened
    state.transport = session at opens
  obtain ⟨openCode, opened⟩ := session
  by_cases refused : openCode ≠ 0
  · rw [if_pos refused] at opens
    simp only [if_pos refused]
    exact ⟨state.controlThread, state.threads, opens⟩
  rw [if_neg refused] at opens
  simp only [if_neg refused]
  have publishes := opens.trans (Alone.next _ _ _ rfl)
  simp only [Statement.execute] at publishes
  generalize zenbeddedTransportDeclarePublisher config.tier config.pubTopic config.stateType
    zenoh.publisher zenoh.gid opened = publisher at publishes
  obtain ⟨pub, held⟩ := publisher
  by_cases noPublisher : pub = none
  · rw [if_pos noPublisher] at publishes
    simp only [if_pos noPublisher]
    exact ⟨state.controlThread, state.threads, publishes⟩
  rw [if_neg noPublisher] at publishes
  simp only [if_neg noPublisher]
  have subscribes := publishes.trans (Alone.next _ _ _ rfl)
  simp only [Statement.execute] at subscribes
  generalize zenbeddedTransportDeclareSubscriber config.tier config.subTopic config.cmdType
    onTransportCmdCb zenoh.subscriber held = subscriber at subscribes
  obtain ⟨sub, finished⟩ := subscriber
  by_cases noSubscriber : sub = none
  · rw [if_pos noSubscriber] at subscribes
    simp only [if_pos noSubscriber]
    exact ⟨state.controlThread, state.threads, subscribes⟩
  rw [if_neg noSubscriber] at subscribes
  simp only [if_neg noSubscriber]
  have marks := (subscribes.trans (Alone.next _ _ _ rfl)).trans (Alone.next _ _ _ rfl)
  obtain ⟨controlThread, threads, starts⟩ := alone_startThread config onTransportCmdCb
    { state with
      transport := finished
      client := { state.client with
        statePayloadSize, cmdPayloadSize, pub, sub, initialized := true, controlFreq } } controlFreq
  exact ⟨controlThread, threads, marks.trans starts⟩

end

end Zenbedded.Rcl
