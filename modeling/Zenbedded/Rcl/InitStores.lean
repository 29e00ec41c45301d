import Zenbedded.Rcl.Client
import Zenbedded.Transport.StoreBounds

namespace Zenbedded.Rcl

open Zenbedded.Foundation Zenbedded.Transport

/-! # Stores made by the Tier 1 initialisation

`init` lays the messages out in the buffers first and compares the sizes with
the capacities afterwards.  A store is out of range exactly when a template ends
behind its buffer; the size check only sees layouts whose template fits.
-/

variable {platform : Platform} {width : Nat} {Callback : Type}

abbrev Tier1Client (platform : Platform) (width : Nat) :=
  ZenbeddedClient platform width (JointStateCtx platform) (JointCommandCtx platform)

def tier1Init (config : Config) (zenoh : ZenohOutcomes) (onTransportCmdCb : Callback)
    (controlFreq : BitVec 32) (stateParams : JointStateCodec.InitParams)
    (cmdParams : JointCommandCodec.InitParams) (scratch : Bytes)
    (client : Tier1Client platform width) (transport : ZenohTransport Callback) :
    Except Fault (Int × Tier1Client platform width × ZenohTransport Callback) :=
  client.init config (JointStateCodec.codec platform) (JointCommandCodec.codec platform) zenoh
    onTransportCmdCb controlFreq stateParams cmdParams scratch transport

def JointStateCodec.InitParams.templateEnd (params : InitParams) : Nat :=
  jointStateTemplateEnd (OptionalString.value params.frameId) params.jointNames
    (8 * params.numJoints).toNat

def JointStateCodec.InitParams.layoutSize (params : InitParams) : Nat :=
  (jointStateLayout params.frameId params.jointNames params.numJoints).payload

def JointCommandCodec.InitParams.templateEnd (params : InitParams) : Nat :=
  jointCommandTemplateEnd (OptionalString.value params.frameId) params.jointNames
    (OptionalString.value params.interfaceName)

def JointCommandCodec.InitParams.layoutSize (params : InitParams) : Nat :=
  (jointCommandLayout params.frameId params.jointNames params.numJoints
    params.interfaceName).payload

theorem Config.state_modest (config : Config) : Modest config.maxStateBufferSize := by
  have range := config.stateRange
  unfold Modest
  omega

theorem Config.cmd_modest (config : Config) : Modest config.maxCmdBufferSize := by
  have range := config.cmdRange
  unfold Modest
  omega

theorem JointStateCodec.init_ok_iff (ctx : JointStateCtx platform) (params : InitParams)
    {buffer : Bytes} (modest : Modest buffer.length) :
    (∃ result, JointStateCodec.init ctx params buffer = .ok result) ↔
      params.templateEnd ≤ buffer.length :=
  zcdrInitJointState_ok_iff params.joints modest

theorem JointCommandCodec.init_ok_iff (ctx : JointCommandCtx platform) (params : InitParams)
    {buffer : Bytes} (modest : Modest buffer.length) :
    (∃ result, JointCommandCodec.init ctx params buffer = .ok result) ↔
      params.templateEnd ≤ buffer.length :=
  zcdrInitJointCommand_ok_iff params.joints modest

/-- A template that fits leaves offsets that the target represents, and the context holds them. -/
theorem JointStateCodec.init_at (ctx : JointStateCtx platform) {after : JointStateCtx platform}
    {params : InitParams} {buffer written : Bytes} (modest : Modest buffer.length)
    (run : JointStateCodec.init ctx params buffer = .ok (after, written)) :
    after.At params.numJoints
      (jointStateLayout params.frameId params.jointNames params.numJoints) := by
  have wide : 3 * 2 ^ 29 + 7 < 2 ^ platform.sizeBits := platform.representable (by decide)
  have fits := (JointStateCodec.init_ok_iff ctx params modest).mp ⟨_, run⟩
  have size := jointStateLayout_payload_le params.joints fits
  unfold Modest at modest
  exact zcdrInitJointState_at run (by omega)

theorem JointStateCodec.init_payloadSize (ctx : JointStateCtx platform)
    {after : JointStateCtx platform} {params : InitParams} {buffer written : Bytes}
    (modest : Modest buffer.length)
    (run : JointStateCodec.init ctx params buffer = .ok (after, written)) :
    (JointStateCodec.payloadSize after).toNat = params.layoutSize :=
  (init_at ctx modest run).payload

theorem JointCommandCodec.init_at (ctx : JointCommandCtx platform)
    {after : JointCommandCtx platform} {params : InitParams} {buffer written : Bytes}
    (modest : Modest buffer.length)
    (run : JointCommandCodec.init ctx params buffer = .ok (after, written)) :
    after.At params.numJoints (jointCommandLayout params.frameId params.jointNames
      params.numJoints params.interfaceName) := by
  have wide : 3 * 2 ^ 29 + 7 < 2 ^ platform.sizeBits := platform.representable (by decide)
  have fits := (JointCommandCodec.init_ok_iff ctx params modest).mp ⟨_, run⟩
  have size := jointCommandLayout_payload_le params.joints fits
  unfold Modest at modest
  exact zcdrInitJointCommand_at run (by omega)

theorem JointCommandCodec.init_payloadSize (ctx : JointCommandCtx platform)
    {after : JointCommandCtx platform} {params : InitParams} {buffer written : Bytes}
    (modest : Modest buffer.length)
    (run : JointCommandCodec.init ctx params buffer = .ok (after, written)) :
    (JointCommandCodec.payloadSize after).toNat = params.layoutSize :=
  (init_at ctx modest run).payload

theorem layOut_ok_iff (config : Config) (stateParams : JointStateCodec.InitParams)
    (cmdParams : JointCommandCodec.InitParams) {scratch : Bytes}
    (size : scratch.length = config.maxCmdBufferSize) (client : Tier1Client platform width) :
    (∃ laid, client.layOut config (JointStateCodec.codec platform)
        (JointCommandCodec.codec platform) stateParams cmdParams scratch = .ok laid) ↔
      stateParams.templateEnd ≤ config.maxStateBufferSize ∧
        cmdParams.templateEnd ≤ config.maxCmdBufferSize := by
  have cleared (index : SlotIdx) : ((client.toZenbeddedClientBase.resetBuffers
      config).stateBuffer.slots index) = List.replicate config.maxStateBufferSize 0 := rfl
  have slot : (List.replicate config.maxStateBufferSize (0 : UInt8)).length =
      config.maxStateBufferSize := List.length_replicate
  have state (ctx : JointStateCtx platform) := JointStateCodec.init_ok_iff ctx stateParams
    (show Modest (List.replicate config.maxStateBufferSize (0 : UInt8)).length by
      rw [slot]; exact config.state_modest)
  have cmd := JointCommandCodec.init_ok_iff client.cmdCtx cmdParams
    (show Modest scratch.length by rw [size]; exact config.cmd_modest)
  rw [slot] at state
  rw [size] at cmd
  constructor
  · intro laid
    obtain ⟨_, run⟩ := laid
    obtain ⟨first, firstRun, run⟩ := bind_ok_iff.mp run
    obtain ⟨second, secondRun, run⟩ := bind_ok_iff.mp run
    obtain ⟨command, commandRun, run⟩ := bind_ok_iff.mp run
    exact ⟨(state client.stateCtx).mp ⟨first, firstRun⟩, cmd.mp ⟨command, commandRun⟩⟩
  · intro fits
    obtain ⟨stateFits, cmdFits⟩ := fits
    obtain ⟨first, firstRun⟩ := (state client.stateCtx).mpr stateFits
    obtain ⟨second, secondRun⟩ := (state first.1).mpr stateFits
    obtain ⟨command, commandRun⟩ := cmd.mpr cmdFits
    refine ⟨_, bind_ok_iff.mpr ⟨first, firstRun, bind_ok_iff.mpr ⟨second, ?_, bind_ok_iff.mpr
      ⟨command, commandRun, rfl⟩⟩⟩⟩
    exact secondRun

/-- The sizes that `layOut` leaves in the contexts. -/
theorem layOut_sizes {config : Config} {stateParams : JointStateCodec.InitParams}
    {cmdParams : JointCommandCodec.InitParams} {scratch : Bytes}
    (size : scratch.length = config.maxCmdBufferSize) {client laid : Tier1Client platform width}
    (run : client.layOut config (JointStateCodec.codec platform)
      (JointCommandCodec.codec platform) stateParams cmdParams scratch = .ok laid) :
    (JointStateCodec.payloadSize laid.stateCtx).toNat = stateParams.layoutSize ∧
      (JointCommandCodec.payloadSize laid.cmdCtx).toNat = cmdParams.layoutSize ∧
      laid.initialized = client.initialized := by
  obtain ⟨first, firstRun, run⟩ := bind_ok_iff.mp run
  obtain ⟨second, secondRun, run⟩ := bind_ok_iff.mp run
  obtain ⟨command, commandRun, run⟩ := bind_ok_iff.mp run
  cases run
  have modest : Modest (List.replicate config.maxStateBufferSize (0 : UInt8)).length := by
    rw [List.length_replicate]
    exact config.state_modest
  have scratchModest : Modest scratch.length := by
    rw [size]
    exact config.cmd_modest
  exact ⟨JointStateCodec.init_payloadSize first.1 modest secondRun,
    JointCommandCodec.init_payloadSize client.cmdCtx scratchModest commandRun, rfl⟩

theorem initBase_too_large {config : Config} {client : ZenbeddedClientBase platform width}
    (fresh : client.initialized = false) {stateSize cmdSize : platform.SizeT}
    (large : config.maxStateBufferSize < stateSize.toNat ∨
      config.maxCmdBufferSize < cmdSize.toNat)
    (zenoh : ZenohOutcomes) (onTransportCmdCb : Callback) (controlFreq : BitVec 32)
    (transport : ZenohTransport Callback) :
    (client.initBase config zenoh onTransportCmdCb controlFreq stateSize cmdSize transport).1 =
      -enomem := by
  unfold ZenbeddedClientBase.initBase
  simp only [fresh, Bool.false_eq_true, ↓reduceIte]
  split
  · rfl
  · rename_i small
    rw [if_pos (large.resolve_left small)]

theorem tier1Init_ok_iff (config : Config) (stateParams : JointStateCodec.InitParams)
    (cmdParams : JointCommandCodec.InitParams) {scratch : Bytes}
    (size : scratch.length = config.maxCmdBufferSize) {client : Tier1Client platform width}
    (fresh : client.initialized = false) (zenoh : ZenohOutcomes) (onTransportCmdCb : Callback)
    (controlFreq : BitVec 32) (transport : ZenohTransport Callback) :
    (∃ result, tier1Init config zenoh onTransportCmdCb controlFreq stateParams cmdParams scratch
        client transport = .ok result) ↔
      stateParams.templateEnd ≤ config.maxStateBufferSize ∧
        cmdParams.templateEnd ≤ config.maxCmdBufferSize := by
  rw [← layOut_ok_iff config stateParams cmdParams size client]
  simp only [tier1Init, ZenbeddedClient.init, fresh, Bool.false_eq_true, ↓reduceIte]
  constructor
  · intro initialised
    obtain ⟨_, run⟩ := initialised
    obtain ⟨laid, laidRun, _⟩ := bind_ok_iff.mp run
    exact ⟨laid, laidRun⟩
  · intro laidOut
    obtain ⟨laid, laidRun⟩ := laidOut
    exact ⟨_, bind_ok_iff.mpr ⟨laid, laidRun, rfl⟩⟩

/-- No store is out of range, and layouts that are too large are reported. -/
def StoresInside (config : Config) (zenoh : ZenohOutcomes) (onTransportCmdCb : Callback)
    (controlFreq : BitVec 32) (stateParams : JointStateCodec.InitParams)
    (cmdParams : JointCommandCodec.InitParams) (scratch : Bytes)
    (client : Tier1Client platform width) (transport : ZenohTransport Callback) : Prop :=
  ∃ code after left,
    tier1Init config zenoh onTransportCmdCb controlFreq stateParams cmdParams scratch client
        transport = .ok (code, after, left) ∧
      (config.maxStateBufferSize < stateParams.layoutSize ∨
        config.maxCmdBufferSize < cmdParams.layoutSize → code = -enomem)

theorem storesInside_iff (config : Config) (stateParams : JointStateCodec.InitParams)
    (cmdParams : JointCommandCodec.InitParams) {scratch : Bytes}
    (size : scratch.length = config.maxCmdBufferSize) {client : Tier1Client platform width}
    (fresh : client.initialized = false) (zenoh : ZenohOutcomes) (onTransportCmdCb : Callback)
    (controlFreq : BitVec 32) (transport : ZenohTransport Callback) :
    StoresInside config zenoh onTransportCmdCb controlFreq stateParams cmdParams scratch client
        transport ↔
      stateParams.templateEnd ≤ config.maxStateBufferSize ∧
        cmdParams.templateEnd ≤ config.maxCmdBufferSize := by
  rw [← tier1Init_ok_iff config stateParams cmdParams size fresh zenoh onTransportCmdCb
    controlFreq transport]
  constructor
  · intro inside
    obtain ⟨code, after, left, run, _⟩ := inside
    exact ⟨_, run⟩
  · intro initialised
    obtain ⟨⟨code, after, left⟩, run⟩ := initialised
    refine ⟨code, after, left, run, ?_⟩
    intro large
    simp only [tier1Init, ZenbeddedClient.init, fresh, Bool.false_eq_true, ↓reduceIte] at run
    obtain ⟨laid, laidRun, run⟩ := bind_ok_iff.mp run
    obtain ⟨stateSize, cmdSize, unchanged⟩ := layOut_sizes size laidRun
    cases run
    rw [← stateSize, ← cmdSize] at large
    exact initBase_too_large (unchanged.trans fresh) large zenoh onTransportCmdCb controlFreq
      transport

def Tier1Client.new (config : Config) : Tier1Client platform width :=
  ZenbeddedClient.new config ⟨0, 0, 0, 0, 0, 0⟩ ⟨0, 0, 0, 0⟩

def ZenohOutcomes.good : ZenohOutcomes :=
  { opened := some (List.replicate 16 0)
    publisher := true
    subscriber := true
    gid := List.replicate 16 0 }

theorem joint1_terminated : 0 ∉ ([97] : Bytes) := by decide

def joint1 : CString := ⟨[97], joint1_terminated⟩

def oneJointState (frameId : Option CString) : JointStateCodec.InitParams :=
  { frameId, jointNames := [joint1], numJoints := 1, joints := rfl }

def oneJointCommand : JointCommandCodec.InitParams :=
  { frameId := none, jointNames := [joint1], numJoints := 1, interfaceName := none, joints := rfl }

theorem storesInside_one_joint :
    StoresInside Config.tier1Default ZenohOutcomes.good () 100 (oneJointState none)
      oneJointCommand (List.replicate 256 0)
      (Tier1Client.new Config.tier1Default : Tier1Client Platform.host64 64)
      ZenohTransport.start :=
  (storesInside_iff _ _ _ List.length_replicate rfl _ _ _ _).mpr (by decide)

def longFrameId : CString :=
  { chars := List.replicate 300 97
    nulFree := fun member => absurd (List.eq_of_mem_replicate member) (by decide) }

/-- A `frame_id` longer than the slot is stored behind the slot's end. -/
theorem not_storesInside_longFrameId :
    ¬ StoresInside Config.tier1Default ZenohOutcomes.good () 100 (oneJointState (some longFrameId))
      oneJointCommand (List.replicate 256 0)
      (Tier1Client.new Config.tier1Default : Tier1Client Platform.host64 64)
      ZenohTransport.start := by
  intro inside
  obtain ⟨code, after, left, run, _⟩ := inside
  have fits := (tier1Init_ok_iff _ _ _ List.length_replicate rfl _ _ _ _).mp ⟨_, run⟩
  have frame : stringEnd 8 longFrameId ≤ (oneJointState (some longFrameId)).templateEnd :=
    stringEnd_le_templateEnd _ _ _
  have length : longFrameId.strlen = 300 := List.length_replicate
  rw [stringEnd, length] at frame
  have whole := Nat.le_trans frame fits.1
  exact absurd whole (by decide)

end Zenbedded.Rcl
