import Zenbedded.Rcl.InitOutcome

namespace Zenbedded.Rcl

open Zenbedded.Foundation Zenbedded.Transport

/-! # Delivery of commands

An inbound sample passes the transport's handler and the client's size check and
lands in the command buffer.  An initialised client stays ready for the next
sample, whatever samples and state writes came before.
-/

variable {platform : Platform} {width : Nat} {Callback : Type}
variable {StateCtx CommandCtx StateParams CommandParams StateValue CommandValue : Type}

/-- What happens to an initialised client between two reads. -/
inductive ClientEvent (StateValue : Type) where
  | sample (payload : Bytes)
  | state (value : StateValue)

/-- The subscriber's user data is the client. -/
def ZenbeddedClient.receive (tier : Tier) (sub : ZenbeddedSub Callback) (payload : Bytes)
    (client : ZenbeddedClient platform width StateCtx CommandCtx) :
    Except Fault (ZenbeddedClient platform width StateCtx CommandCtx) :=
  match internalSubHandler tier sub payload with
  | none => .ok client
  | some (_, bytes) => do
      let base ← client.onTransportCmdCb bytes
      return { client with toZenbeddedClientBase := base }

/-- A sample that `internal_sub_handler` and `on_transport_cmd_cb` let pass to the buffer. -/
def acceptedSample (tier : Tier) (sub : ZenbeddedSub Callback) (size : Nat) (payload : Bytes) :
    Option Bytes :=
  match internalSubHandler tier sub payload with
  | none => none
  | some (_, bytes) => if bytes.length ≠ size then none else some bytes

theorem acceptedSample_some {tier : Tier} {sub : ZenbeddedSub Callback} {size : Nat}
    {payload bytes : Bytes} (accepted : acceptedSample tier sub size payload = some bytes) :
    bytes = payload ∧ payload.length = size := by
  unfold acceptedSample at accepted
  split at accepted
  · cases accepted
  · rename_i callback received handled
    split at accepted
    · cases accepted
    · rename_i sameSize
      cases accepted
      unfold internalSubHandler at handled
      split at handled
      · cases handled
      · split at handled
        · cases handled
        · cases handled
          exact ⟨rfl, not_not.mp sameSize⟩

def ClientEvent.step (tier : Tier) (stateCodec : StateCodec platform StateCtx StateParams StateValue)
    (sub : ZenbeddedSub Callback) (client : ZenbeddedClient platform width StateCtx CommandCtx) :
    ClientEvent StateValue → Except Fault (ZenbeddedClient platform width StateCtx CommandCtx)
  | .sample payload => client.receive tier sub payload
  | .state value => client.writeState stateCodec value

structure Ready (client : ZenbeddedClientBase platform width) (capacity : Nat)
    (cmdPayloadSize : platform.SizeT) : Prop where
  initialized : client.initialized = true
  size : client.cmdPayloadSize = cmdPayloadSize
  sized : client.cmdBuffer.Sized capacity

/-- A sample of the right size is taken, counted, and what a reader then copies. -/
theorem Ready.onTransportCmdCb {client : ZenbeddedClientBase platform width} {capacity : Nat}
    {cmdPayloadSize : platform.SizeT} (ready : Ready client capacity cmdPayloadSize)
    (fits : cmdPayloadSize.toNat ≤ capacity) {payload : Bytes}
    (sameSize : payload.length = cmdPayloadSize.toNat) :
    ∃ delivered, client.onTransportCmdCb payload = .ok delivered ∧
      Ready delivered capacity cmdPayloadSize ∧
      delivered.cmdAcceptedCount = client.cmdAcceptedCount + 1 ∧
      delivered.readLatestCommandRaw = .ok payload := by
  obtain ⟨buffer, written, sized, reads⟩ :=
    DoubleBuffer.writeToBuffer_reads ready.sized (sameSize ▸ fits)
  refine ⟨{ client with cmdBuffer := buffer, cmdAcceptedCount := client.cmdAcceptedCount + 1 },
    ?_, ⟨ready.initialized, ready.size, sized⟩, rfl, ?_⟩
  · simp only [ZenbeddedClientBase.onTransportCmdCb, ready.size, sameSize, ne_eq, not_true_eq_false,
      ↓reduceIte, ZenbeddedClientBase.writeCommandToBuffer, written, bind, Except.bind]
    rfl
  · rw [sameSize] at reads
    simp only [ZenbeddedClientBase.readLatestCommandRaw, ready.size, reads, bind, Except.bind]
    rfl

theorem Ready.dropped {client : ZenbeddedClientBase platform width} {capacity : Nat}
    {cmdPayloadSize : platform.SizeT} (ready : Ready client capacity cmdPayloadSize)
    {payload : Bytes} (other : payload.length ≠ cmdPayloadSize.toNat) :
    client.onTransportCmdCb payload = .ok client := by
  rw [ZenbeddedClientBase.onTransportCmdCb, ready.size, if_pos other]

theorem Ready.callback {client after : ZenbeddedClientBase platform width} {capacity : Nat}
    {cmdPayloadSize : platform.SizeT} (ready : Ready client capacity cmdPayloadSize)
    (fits : cmdPayloadSize.toNat ≤ capacity) {payload : Bytes}
    (run : client.onTransportCmdCb payload = .ok after) : Ready after capacity cmdPayloadSize := by
  by_cases sameSize : payload.length = cmdPayloadSize.toNat
  · obtain ⟨delivered, taken, readyAfter, _⟩ := ready.onTransportCmdCb fits sameSize
    rw [taken] at run
    cases run
    exact readyAfter
  · rw [ready.dropped sameSize] at run
    cases run
    exact ready

theorem Ready.step {tier : Tier} {stateCodec : StateCodec platform StateCtx StateParams StateValue}
    {sub : ZenbeddedSub Callback} {client after : ZenbeddedClient platform width StateCtx CommandCtx}
    {capacity : Nat} {cmdPayloadSize : platform.SizeT}
    (ready : Ready client.toZenbeddedClientBase capacity cmdPayloadSize)
    (fits : cmdPayloadSize.toNat ≤ capacity) {event : ClientEvent StateValue}
    (run : event.step tier stateCodec sub client = .ok after) :
    Ready after.toZenbeddedClientBase capacity cmdPayloadSize ∧ after.cmdCtx = client.cmdCtx := by
  cases event with
  | sample payload =>
      rw [ClientEvent.step, ZenbeddedClient.receive] at run
      cases handled : internalSubHandler tier sub payload with
      | none =>
          rw [handled] at run
          cases run
          exact ⟨ready, rfl⟩
      | some call =>
          rw [handled] at run
          obtain ⟨base, taken, run⟩ := bind_ok_iff.mp run
          cases run
          exact ⟨ready.callback fits taken, rfl⟩
  | state value =>
      rw [ClientEvent.step, ZenbeddedClient.writeState, if_pos ready.initialized] at run
      obtain ⟨bytes, _, run⟩ := bind_ok_iff.mp run
      cases run
      exact ⟨⟨ready.initialized, ready.size, ready.sized⟩, rfl⟩

theorem Ready.run {tier : Tier} {stateCodec : StateCodec platform StateCtx StateParams StateValue}
    {sub : ZenbeddedSub Callback} {client after : ZenbeddedClient platform width StateCtx CommandCtx}
    {capacity : Nat} {cmdPayloadSize : platform.SizeT}
    (ready : Ready client.toZenbeddedClientBase capacity cmdPayloadSize)
    (fits : cmdPayloadSize.toNat ≤ capacity) {events : List (ClientEvent StateValue)}
    (run : events.foldlM (ClientEvent.step tier stateCodec sub) client = .ok after) :
    Ready after.toZenbeddedClientBase capacity cmdPayloadSize ∧ after.cmdCtx = client.cmdCtx := by
  refine foldlM_invariant (fun current => Ready current.toZenbeddedClientBase capacity
    cmdPayloadSize ∧ current.cmdCtx = client.cmdCtx) ?_ ⟨ready, rfl⟩ run
  intro current event next invariant stepped
  obtain ⟨readyNow, sameCtx⟩ := invariant
  obtain ⟨readyNext, ctxNext⟩ := readyNow.step fits stepped
  exact ⟨readyNext, ctxNext.trans sameCtx⟩

/-- The sample reaches the callback, is counted, and is what the next
`read_command` decodes. -/
def Delivers (tier : Tier) (commandCodec : CommandCodec platform CommandCtx CommandParams CommandValue)
    (onTransportCmdCb : Callback) (sub : ZenbeddedSub Callback)
    (client : ZenbeddedClient platform width StateCtx CommandCtx) (sample : Bytes) : Prop :=
  internalSubHandler tier sub sample = some (onTransportCmdCb, sample) ∧
    ∃ delivered, client.receive tier sub sample = .ok delivered ∧
      delivered.cmdAcceptedCount = client.cmdAcceptedCount + 1 ∧
      ∀ out, delivered.readCommand commandCodec out =
        commandCodec.read client.cmdCtx sample client.cmdPayloadSize out

theorem internalSubHandler_passes_iff {tier : Tier} {sub : ZenbeddedSub Callback}
    {callback : Callback} (subscriber : sub.callback = some callback) {payload : Bytes}
    (nonempty : 1 ≤ payload.length) :
    internalSubHandler tier sub payload = some (callback, payload) ↔
      payload.length ≤ receiveBound tier := by
  have notEmpty : payload.length ≠ 0 := by omega
  simp [internalSubHandler, subscriber, notEmpty]

theorem delivers_iff {client : ZenbeddedClient platform width StateCtx CommandCtx} {capacity : Nat}
    {cmdPayloadSize : platform.SizeT}
    (ready : Ready client.toZenbeddedClientBase capacity cmdPayloadSize)
    (fits : cmdPayloadSize.toNat ≤ capacity) (positive : 1 ≤ cmdPayloadSize.toNat) {tier : Tier}
    (commandCodec : CommandCodec platform CommandCtx CommandParams CommandValue)
    {onTransportCmdCb : Callback} {sub : ZenbeddedSub Callback}
    (subscriber : sub.callback = some onTransportCmdCb) {sample : Bytes}
    (sameSize : sample.length = cmdPayloadSize.toNat) :
    Delivers tier commandCodec onTransportCmdCb sub client sample ↔
      cmdPayloadSize.toNat ≤ receiveBound tier := by
  have passes := @internalSubHandler_passes_iff _ tier _ _ subscriber sample (sameSize ▸ positive)
  rw [sameSize] at passes
  constructor
  · intro delivers
    exact passes.mp delivers.1
  · intro inside
    obtain ⟨base, taken, readyAfter, counted, reads⟩ := ready.onTransportCmdCb fits sameSize
    refine ⟨passes.mpr inside, { client with toZenbeddedClientBase := base }, ?_, counted, ?_⟩
    · simp only [ZenbeddedClient.receive, passes.mpr inside, taken, bind, Except.bind]
      rfl
    · intro out
      rw [ZenbeddedClient.readCommand, if_pos readyAfter.initialized]
      simp only [reads, bind, Except.bind, readyAfter.size, ready.size]

/-- A size within the capacity passes `init_base`. -/
theorem initBase_ready {config : Config} {zenoh : ZenohOutcomes} (onTransportCmdCb : Callback)
    {controlFreq : BitVec 32} (positiveFreq : controlFreq ≠ 0)
    {client : ZenbeddedClientBase platform width} (fresh : client.initialized = false)
    (sized : client.cmdBuffer.Sized config.maxCmdBufferSize) {transport : ZenohTransport Callback}
    (declares : Declares zenoh transport) {statePayloadSize cmdPayloadSize : platform.SizeT}
    (stateFits : statePayloadSize.toNat ≤ config.maxStateBufferSize)
    (cmdFits : cmdPayloadSize.toNat ≤ config.maxCmdBufferSize) :
    ∃ base left sub, client.initBase config zenoh onTransportCmdCb controlFreq statePayloadSize
        cmdPayloadSize transport = (0, base, left) ∧ base.sub = some sub ∧
      (left.subPool sub).callback = some onTransportCmdCb ∧
      Ready base config.maxCmdBufferSize cmdPayloadSize := by
  obtain ⟨pub, sub, left, subscriber, run⟩ :=
    initBase_starts fresh stateFits cmdFits onTransportCmdCb positiveFreq declares
  exact ⟨_, left, sub, run, rfl, subscriber, ⟨rfl, rfl, sized⟩⟩

/-- Of the sizes that `init_base` accepts, those within the receive bound are delivered. -/
theorem acceptedSize_delivered_iff (config : Config)
    (stateCodec : StateCodec platform StateCtx StateParams StateValue)
    (commandCodec : CommandCodec platform CommandCtx CommandParams CommandValue)
    (zenoh : ZenohOutcomes) (onTransportCmdCb : Callback) {controlFreq : BitVec 32}
    (positiveFreq : controlFreq ≠ 0) {client : ZenbeddedClient platform width StateCtx CommandCtx}
    (fresh : client.initialized = false)
    (sized : client.cmdBuffer.Sized config.maxCmdBufferSize) {transport : ZenohTransport Callback}
    (declares : Declares zenoh transport) {statePayloadSize cmdPayloadSize : platform.SizeT}
    (stateFits : statePayloadSize.toNat ≤ config.maxStateBufferSize)
    (positive : 1 ≤ cmdPayloadSize.toNat)
    (cmdFits : cmdPayloadSize.toNat ≤ config.maxCmdBufferSize) :
    ∃ base left sub, client.initBase config zenoh onTransportCmdCb controlFreq statePayloadSize
        cmdPayloadSize transport = (0, base, left) ∧ base.sub = some sub ∧
      ∀ (events : List (ClientEvent StateValue))
        (current : ZenbeddedClient platform width StateCtx CommandCtx),
        events.foldlM (ClientEvent.step config.tier stateCodec (left.subPool sub))
            { client with toZenbeddedClientBase := base } = .ok current →
        ∀ sample : Bytes, sample.length = cmdPayloadSize.toNat →
          (Delivers config.tier commandCodec onTransportCmdCb (left.subPool sub) current sample ↔
            cmdPayloadSize.toNat ≤ receiveBound config.tier) := by
  obtain ⟨base, left, sub, run, endpoint, subscriber, ready⟩ := initBase_ready onTransportCmdCb
    positiveFreq fresh sized declares stateFits cmdFits
  refine ⟨base, left, sub, run, endpoint, ?_⟩
  intro events current reached sample sameSize
  obtain ⟨readyNow, _⟩ := Ready.run ready cmdFits reached
  exact delivers_iff readyNow cmdFits positive commandCodec subscriber sameSize

def Config.tier2Default : Config := { Config.tier1Default with tier := .tier2 }

/-- A client for raw structs. -/
def RawClient.new (config : Config) : ZenbeddedClient Platform.host64 64 Unit Unit :=
  ZenbeddedClient.new config () ()

theorem acceptedSize_delivered_64 :
    ∃ (base : ZenbeddedClientBase Platform.host64 64) (left : ZenohTransport Unit)
        (sub : Endpoint) (current : ZenbeddedClient Platform.host64 64 Unit Unit),
      (RawClient.new Config.tier2Default).initBase Config.tier2Default ZenohOutcomes.good () 100
          8 64 ZenohTransport.start = (0, base, left) ∧
        current.toZenbeddedClientBase = base ∧
        Delivers Config.tier2Default.tier (RawCodec.command 64) () (left.subPool sub) current
          (List.replicate 64 0) := by
  obtain ⟨base, left, sub, run, _, delivers⟩ := acceptedSize_delivered_iff Config.tier2Default
    (RawCodec.state (8 : Platform.host64.SizeT)) (RawCodec.command (64 : Platform.host64.SizeT))
    ZenohOutcomes.good () (show (100 : BitVec 32) ≠ 0 by decide)
    (show (RawClient.new Config.tier2Default).initialized = false from rfl)
    (DoubleBuffer.cleared_sized _) good_declares
    (show (8 : Platform.host64.SizeT).toNat ≤ Config.tier2Default.maxStateBufferSize by decide)
    (show 1 ≤ (64 : Platform.host64.SizeT).toNat by decide) (by decide)
  exact ⟨base, left, sub, _, run, rfl, (delivers [] _ rfl _ List.length_replicate).mpr (by decide)⟩

/-- In Tier 2 a command of 65 bytes is accepted by `init_base` and dropped by the handler. -/
theorem acceptedSize_not_delivered_65 :
    ∃ (base : ZenbeddedClientBase Platform.host64 64) (left : ZenohTransport Unit)
        (sub : Endpoint) (current : ZenbeddedClient Platform.host64 64 Unit Unit),
      (RawClient.new Config.tier2Default).initBase Config.tier2Default ZenohOutcomes.good () 100
          8 65 ZenohTransport.start = (0, base, left) ∧ base.sub = some sub ∧
        current.toZenbeddedClientBase = base ∧
        ¬ Delivers Config.tier2Default.tier (RawCodec.command 65) () (left.subPool sub) current
          (List.replicate 65 0) := by
  obtain ⟨base, left, sub, run, endpoint, subscriber, ready⟩ := @initBase_ready Platform.host64 64
    _ Config.tier2Default _ () 100 (by decide)
    (RawClient.new Config.tier2Default).toZenbeddedClientBase rfl (DoubleBuffer.cleared_sized _) _
    good_declares 8 65 (by decide) (by decide)
  refine ⟨base, left, sub, { RawClient.new Config.tier2Default with
    toZenbeddedClientBase := base }, run, endpoint, rfl, ?_⟩
  intro delivers
  have inside := (@delivers_iff _ _ _ _ _ _ _ _ _ _ ready (by decide) (by decide) _ _ _ _
    subscriber (List.replicate 65 0) List.length_replicate).mp delivers
  exact absurd inside (by decide)

end Zenbedded.Rcl
