import Zenbedded.Rcl.InitOutcome

namespace Zenbedded.Rcl

open Zenbedded.Foundation Zenbedded.Transport

/-! # What an initialised client holds

Inversion lemmas for `layOut`, `init_base` and `init`, and what they leave in a
client of the Tier 1 codecs.
-/

variable {platform : Platform} {width : Nat} {Callback : Type}
variable {StateCtx CommandCtx StateParams CommandParams StateValue CommandValue : Type}

/-- Both slots and the scratch have been laid out by the codecs. -/
structure LaidOut (config : Config)
    (stateCodec : StateCodec platform StateCtx StateParams StateValue)
    (commandCodec : CommandCodec platform CommandCtx CommandParams CommandValue)
    (stateParams : StateParams) (cmdParams : CommandParams) (scratch : Bytes)
    (stateBuffer : DoubleBuffer width) (stateCtx : StateCtx) (cmdCtx : CommandCtx) : Prop where
  active : stateBuffer.activeIdx = 0
  first : ∃ before after, stateCodec.init before stateParams
    (List.replicate config.maxStateBufferSize 0) = .ok (after, stateBuffer.slots 0)
  second : ∃ before, stateCodec.init before stateParams
    (List.replicate config.maxStateBufferSize 0) = .ok (stateCtx, stateBuffer.slots 1)
  command : ∃ before written, commandCodec.init before cmdParams scratch = .ok (cmdCtx, written)

theorem layOut_laidOut {config : Config}
    {stateCodec : StateCodec platform StateCtx StateParams StateValue}
    {commandCodec : CommandCodec platform CommandCtx CommandParams CommandValue}
    {stateParams : StateParams} {cmdParams : CommandParams} {scratch : Bytes}
    {client laid : ZenbeddedClient platform width StateCtx CommandCtx}
    (run : client.layOut config stateCodec commandCodec stateParams cmdParams scratch = .ok laid) :
    LaidOut config stateCodec commandCodec stateParams cmdParams scratch laid.stateBuffer
        laid.stateCtx laid.cmdCtx ∧
      laid.cmdBuffer = DoubleBuffer.cleared config.maxCmdBufferSize ∧
      laid.cmdAcceptedCount = 0 := by
  obtain ⟨first, firstRun, run⟩ := bind_ok_iff.mp run
  obtain ⟨second, secondRun, run⟩ := bind_ok_iff.mp run
  obtain ⟨command, commandRun, run⟩ := bind_ok_iff.mp run
  cases run
  exact ⟨⟨rfl, ⟨_, _, firstRun⟩, ⟨_, secondRun⟩, ⟨_, _, commandRun⟩⟩, rfl, rfl⟩

/-- What `init_base` leaves as it was, and the sizes it has accepted. -/
structure Accepted (config : Config) (client after : ZenbeddedClientBase platform width)
    (statePayloadSize cmdPayloadSize : platform.SizeT) : Prop where
  stateBuffer : after.stateBuffer = client.stateBuffer
  cmdBuffer : after.cmdBuffer = client.cmdBuffer
  count : after.cmdAcceptedCount = client.cmdAcceptedCount
  stateSize : after.statePayloadSize = statePayloadSize
  cmdSize : after.cmdPayloadSize = cmdPayloadSize
  stateFits : statePayloadSize.toNat ≤ config.maxStateBufferSize
  cmdFits : cmdPayloadSize.toNat ≤ config.maxCmdBufferSize

theorem Accepted.startThread {config : Config}
    {client declared : ZenbeddedClientBase platform width}
    {statePayloadSize cmdPayloadSize : platform.SizeT}
    (accepted : Accepted config client declared statePayloadSize cmdPayloadSize)
    (live : declared.initialized = true) (controlFreq : BitVec 32) :
    Accepted config client (declared.startThread controlFreq).2 statePayloadSize
      cmdPayloadSize := by
  obtain ⟨stateBuffer, cmdBuffer, count, stateSize, cmdSize, stateFits, cmdFits⟩ := accepted
  by_cases positive : controlFreq ≠ 0
  · rw [startThread_positive live positive]
    exact ⟨stateBuffer, cmdBuffer, count, stateSize, cmdSize, stateFits, cmdFits⟩
  · rw [not_not.mp positive, startThread_zero live]
    exact ⟨stateBuffer, cmdBuffer, count, stateSize, cmdSize, stateFits, cmdFits⟩

/-- A client becomes initialised only behind both declarations. -/
theorem initBase_live {config : Config} {client after : ZenbeddedClientBase platform width}
    (fresh : client.initialized = false) {statePayloadSize cmdPayloadSize : platform.SizeT}
    {zenoh : ZenohOutcomes} {onTransportCmdCb : Callback} {controlFreq : BitVec 32}
    {transport left : ZenohTransport Callback} {code : Int}
    (run : client.initBase config zenoh onTransportCmdCb controlFreq statePayloadSize
      cmdPayloadSize transport = (code, after, left))
    (live : after.initialized = true) :
    Accepted config client after statePayloadSize cmdPayloadSize := by
  unfold ZenbeddedClientBase.initBase at run
  simp only [fresh, Bool.false_eq_true, ↓reduceIte] at run
  split at run
  · cases run
    exact Bool.noConfusion live
  rename_i stateFits
  split at run
  · cases run
    exact Bool.noConfusion live
  rename_i cmdFits
  split at run
  · cases run
    exact Bool.noConfusion live
  split at run
  · cases run
    exact Bool.noConfusion live
  split at run
  · cases run
    exact Bool.noConfusion live
  · cases run
    apply Accepted.startThread
    · exact ⟨rfl, rfl, rfl, rfl, rfl, Nat.not_lt.mp stateFits, Nat.not_lt.mp cmdFits⟩
    · rfl

/-- The client that `init` has made, from the one that it laid out. -/
theorem init_live {config : Config}
    {stateCodec : StateCodec platform StateCtx StateParams StateValue}
    {commandCodec : CommandCodec platform CommandCtx CommandParams CommandValue}
    {stateParams : StateParams} {cmdParams : CommandParams} {scratch : Bytes}
    {client ready : ZenbeddedClient platform width StateCtx CommandCtx}
    (fresh : client.initialized = false) {zenoh : ZenohOutcomes} {onTransportCmdCb : Callback}
    {controlFreq : BitVec 32} {transport left : ZenohTransport Callback} {code : Int}
    (run : client.init config stateCodec commandCodec zenoh onTransportCmdCb controlFreq stateParams
      cmdParams scratch transport = .ok (code, ready, left))
    (live : ready.initialized = true) :
    LaidOut config stateCodec commandCodec stateParams cmdParams scratch ready.stateBuffer
        ready.stateCtx ready.cmdCtx ∧
      ready.cmdBuffer = DoubleBuffer.cleared config.maxCmdBufferSize ∧
      ready.statePayloadSize = stateCodec.payloadSize ready.stateCtx ∧
      ready.cmdPayloadSize = commandCodec.payloadSize ready.cmdCtx ∧
      ready.statePayloadSize.toNat ≤ config.maxStateBufferSize ∧
      ready.cmdPayloadSize.toNat ≤ config.maxCmdBufferSize := by
  rw [ZenbeddedClient.init, if_neg (by simp [fresh])] at run
  obtain ⟨laid, laidRun, run⟩ := bind_ok_iff.mp run
  obtain ⟨laidOut, cleared, _⟩ := layOut_laidOut laidRun
  generalize result : laid.toZenbeddedClientBase.initBase config zenoh onTransportCmdCb controlFreq
    (stateCodec.payloadSize laid.stateCtx) (commandCodec.payloadSize laid.cmdCtx) transport =
    outcome at run
  obtain ⟨outcomeCode, base, outcomeTransport⟩ := outcome
  cases run
  have accepted := initBase_live ((layOut_initialized laidRun).trans fresh) result live
  exact ⟨accepted.stateBuffer.symm ▸ laidOut, accepted.cmdBuffer.trans cleared,
    accepted.stateSize, accepted.cmdSize, accepted.stateSize ▸ accepted.stateFits,
    accepted.cmdSize ▸ accepted.cmdFits⟩

/-- The buffers of that client are those of the layout. -/
theorem init_accepted {config : Config}
    {stateCodec : StateCodec platform StateCtx StateParams StateValue}
    {commandCodec : CommandCodec platform CommandCtx CommandParams CommandValue}
    {stateParams : StateParams} {cmdParams : CommandParams} {scratch : Bytes}
    {client ready : ZenbeddedClient platform width StateCtx CommandCtx}
    (fresh : client.initialized = false) {zenoh : ZenohOutcomes} {onTransportCmdCb : Callback}
    {controlFreq : BitVec 32} {transport left : ZenohTransport Callback} {code : Int}
    (run : client.init config stateCodec commandCodec zenoh onTransportCmdCb controlFreq stateParams
      cmdParams scratch transport = .ok (code, ready, left))
    (live : ready.initialized = true) :
    ∃ laid, client.layOut config stateCodec commandCodec stateParams cmdParams scratch = .ok laid ∧
      Accepted config laid.toZenbeddedClientBase ready.toZenbeddedClientBase
        (stateCodec.payloadSize laid.stateCtx) (commandCodec.payloadSize laid.cmdCtx) := by
  rw [ZenbeddedClient.init, if_neg (by simp [fresh])] at run
  obtain ⟨laid, laidRun, run⟩ := bind_ok_iff.mp run
  generalize result : laid.toZenbeddedClientBase.initBase config zenoh onTransportCmdCb controlFreq
    (stateCodec.payloadSize laid.stateCtx) (commandCodec.payloadSize laid.cmdCtx) transport =
    outcome at run
  obtain ⟨outcomeCode, base, outcomeTransport⟩ := outcome
  cases run
  exact ⟨laid, laidRun, initBase_live ((layOut_initialized laidRun).trans fresh) result live⟩

end Zenbedded.Rcl
