import Zenbedded.Rcl.Delivery
import Zenbedded.Rcl.InitResult
import Zenbedded.Transport.Messages

namespace Zenbedded.Rcl

open Zenbedded.Foundation Zenbedded.Foundation.Cdr Zenbedded.Transport

/-! # What an accepted Tier 1 command sets

The client compares the number of bytes and nothing else, and the decoder trusts
the configured offsets.  The values close the message, so a message of the right
size with one value for each joint is decoded value by value, whatever it names.
-/

variable {platform : Platform} {width : Nat} {Callback : Type}
variable {StateCtx StateParams StateValue : Type}

theorem JointCommand.encode_values {message : JointCommand} (filled : message.values ≠ [])
    (pad : Nat → UInt8) :
    ∃ head, encode (message.emitter pad) =
      (⟨wordBytes message.sec, wordBytes message.nanosec, head, arrayBytes message.values⟩ :
        JointCommandParts).payload := by
  rw [encode, JointCommand.emitter, emit_stamp, Emitter.sequence_primitive pad (by decide) filled,
    ← Emitter.andThen_assoc, ← Emitter.andThen_assoc, ← Emitter.andThen_assoc,
    Emitter.andThen_apply, Emitter.raw_apply]
  generalize ((((Emitter.string pad message.frameId).andThen
    (Emitter.sequence pad (Emitter.string pad) message.jointNames)).andThen
      (Emitter.string pad message.interfaceName)).andThen _) 8 = head
  exact ⟨head, by simp [JointCommandParts.payload, JointCommandParts.list]⟩

abbrev JointCommandClient (platform : Platform) (width : Nat) (StateCtx : Type) :=
  ZenbeddedClient platform width StateCtx (JointCommandCtx platform)

/-- The client takes samples of the layout's size, and its context holds the layout. -/
structure TakesCommands (client : JointCommandClient platform width StateCtx) (capacity : Nat)
    (params : JointCommandCodec.InitParams) : Prop where
  narrow : (8 * params.numJoints).toNat = 8 * params.numJoints.toNat
  points : client.cmdCtx.At params.numJoints (jointCommandLayout params.frameId params.jointNames
    params.numJoints params.interfaceName)
  fits : (JointCommandCodec.payloadSize client.cmdCtx).toNat ≤ capacity
  ready : Ready client.toZenbeddedClientBase capacity (JointCommandCodec.payloadSize client.cmdCtx)

theorem init_takesCommands {config : Config}
    {stateCodec : StateCodec platform StateCtx StateParams StateValue}
    {stateParams : StateParams} {params : JointCommandCodec.InitParams} {scratch : Bytes}
    (size : scratch.length = config.maxCmdBufferSize)
    {client ready : JointCommandClient platform width StateCtx}
    (fresh : client.initialized = false) {zenoh : ZenohOutcomes} {onTransportCmdCb : Callback}
    {controlFreq : BitVec 32} {transport left : ZenohTransport Callback} {code : Int}
    (run : client.init config stateCodec (JointCommandCodec.codec platform) zenoh onTransportCmdCb
      controlFreq stateParams params scratch transport = .ok (code, ready, left))
    (live : ready.initialized = true) :
    TakesCommands ready config.maxCmdBufferSize params := by
  obtain ⟨laidOut, cleared, _, cmdSize, _, cmdFits⟩ := init_live fresh run live
  obtain ⟨before, written, layout⟩ := laidOut.command
  have modest : Modest scratch.length := by
    rw [size]
    exact config.cmd_modest
  have template := (JointCommandCodec.init_ok_iff before params modest).mp ⟨_, layout⟩
  have narrow := narrow_of_names modest params.joints
    (Nat.le_trans (headEnd_le_commandTemplateEnd _ _ _) template)
  refine ⟨narrow, JointCommandCodec.init_at before modest layout, ?_, live, cmdSize, ?_⟩
  · rw [cmdSize] at cmdFits
    exact cmdFits
  · rw [cleared]
    exact DoubleBuffer.cleared_sized _

theorem TakesCommands.run {tier : Tier}
    {stateCodec : StateCodec platform StateCtx StateParams StateValue} {sub : ZenbeddedSub Callback}
    {client after : JointCommandClient platform width StateCtx} {capacity : Nat}
    {params : JointCommandCodec.InitParams} (takes : TakesCommands client capacity params)
    {events : List (ClientEvent StateValue)}
    (run : events.foldlM (ClientEvent.step tier stateCodec sub) client = .ok after) :
    TakesCommands after capacity params := by
  obtain ⟨ready, sameCtx⟩ := takes.ready.run takes.fits run
  rw [← sameCtx] at ready
  exact ⟨takes.narrow, sameCtx ▸ takes.points, sameCtx ▸ takes.fits, ready⟩

/-- A message of the right size with one value for each joint has its values where
the layout expects them. -/
theorem TakesCommands.offsets {client : JointCommandClient platform width StateCtx}
    {capacity : Nat} {params : JointCommandCodec.InitParams}
    (takes : TakesCommands client capacity params) {parts : JointCommandParts}
    (sized : parts.Sized (8 * params.numJoints.toNat))
    (size : parts.payload.length = (JointCommandCodec.payloadSize client.cmdCtx).toNat) :
    client.cmdCtx.At params.numJoints parts.offsets := by
  obtain ⟨joints, timestamp, values, payload⟩ := takes.points
  have total : parts.payload.length = 12 + parts.head.length + 8 * params.numJoints.toNat :=
    congrArg JointCommandOffsets.payload (JointCommandParts.offsets_eq sized)
  have layoutTotal : parts.payload.length = _ := size.trans payload
  simp only [jointCommandLayout, jointCommandOffsets, takes.narrow] at values layoutTotal
  refine ⟨joints, timestamp, ?_, size.symm⟩
  rw [values, JointCommandParts.offsets_eq sized]
  show _ = 12 + parts.head.length
  omega

theorem TakesCommands.readCommand {client : JointCommandClient platform width StateCtx}
    {capacity : Nat} {params : JointCommandCodec.InitParams}
    (takes : TakesCommands client capacity params) {message : JointCommand}
    (count : message.values.length = params.numJoints.toNat) (joints : params.jointNames ≠ [])
    {pad : Nat → UInt8}
    (accepted : (encode (message.emitter pad)).length = client.cmdPayloadSize.toNat)
    {out : JointCommandCodec.Value}
    (room : ∀ array ∈ out.values, array.length = params.numJoints.toNat) :
    ∃ base, client.onTransportCmdCb (encode (message.emitter pad)) = .ok base ∧
      base.cmdAcceptedCount = client.cmdAcceptedCount + 1 ∧
      ({ client with toZenbeddedClientBase := base } :
          JointCommandClient platform width StateCtx).readCommand
            (JointCommandCodec.codec platform) out =
        .ok (true, ⟨message.sec, message.nanosec, out.values.map fun _ => message.values⟩) := by
  rw [takes.ready.size] at accepted
  obtain ⟨base, taken, readyAfter, counted, reads⟩ :=
    takes.ready.onTransportCmdCb takes.fits accepted
  refine ⟨base, taken, counted, ?_⟩
  have filled : message.values ≠ [] := by
    intro empty
    rw [empty, List.length_nil, ← params.joints] at count
    exact joints (List.eq_nil_of_length_eq_zero count.symm)
  obtain ⟨head, parts⟩ := JointCommand.encode_values filled pad
  have sized : (⟨wordBytes message.sec, wordBytes message.nanosec, head,
      arrayBytes message.values⟩ : JointCommandParts).Sized (8 * params.numJoints.toNat) :=
    ⟨wordBytes_length _, wordBytes_length _, by rw [arrayBytes_length, count]⟩
  rw [parts] at reads accepted
  have outputRoom : ∀ array ∈ (⟨some out.stampSec, some out.stampNanosec, out.values⟩ :
      JointCommandOut).values, array.length = params.numJoints.toNat := room
  have decoded := zcdrDeserializeJointCommand_parts (takes.offsets sized accepted) sized
    takes.narrow outputRoom (Nat.le_of_eq accepted) []
  rw [ZenbeddedClient.readCommand, if_pos readyAfter.initialized]
  rw [List.append_nil] at decoded
  simp only [reads, bind, Except.bind, readyAfter.size, JointCommandCodec.codec,
    JointCommandCodec.read, decoded, pure, Except.pure]
  simp only [JointCommandParts.read, Option.map_some, Option.getD_some,
    ofWordBytes_wordBytes (show 32 % 8 = 0 by decide), ← count,
    ofArrayBytes_arrayBytes (show 64 % 8 = 0 by decide)]

/-- The message pairs the name with the value. -/
def Carries (message : JointCommand) (name : Bytes) (value : Double) : Prop :=
  ∃ index : Nat, message.jointNames[index]? = some name ∧ message.values[index]? = some value

/-- The values go to the interface and to the joints that the message names. -/
structure AppliedAsNamed (params : JointCommandCodec.InitParams) (message : JointCommand)
    (values : List Double) : Prop where
  interfaceName : message.interfaceName = (OptionalString.value params.interfaceName).chars
  joints : ∀ name ∈ params.jointNames, name.chars ∈ message.jointNames
  values : ∀ (index : Nat) name value, params.jointNames[index]? = some name →
    values[index]? = some value → Carries message name.chars value

/-- A message that lists the configured joints in their order is applied as it names them. -/
theorem appliedAsNamed_of_listed {params : JointCommandCodec.InitParams} {message : JointCommand}
    (interfaceName : message.interfaceName = (OptionalString.value params.interfaceName).chars)
    (listed : message.jointNames = params.jointNames.map CString.chars) :
    AppliedAsNamed params message message.values := by
  refine ⟨interfaceName, ?_, ?_⟩
  · intro name member
    rw [listed]
    exact List.mem_map_of_mem member
  · intro index name value named given
    refine ⟨index, ?_, given⟩
    rw [listed, List.getElem?_map, named]
    rfl

/-- An accepted message with one value for each joint sets the values in its own
order; its names are not looked at. -/
theorem acceptedCommand_values {config : Config}
    {stateCodec : StateCodec platform StateCtx StateParams StateValue}
    {stateParams : StateParams} {params : JointCommandCodec.InitParams}
    (joints : params.jointNames ≠ []) {scratch : Bytes}
    (size : scratch.length = config.maxCmdBufferSize)
    {client ready current : JointCommandClient platform width StateCtx}
    (fresh : client.initialized = false) {zenoh : ZenohOutcomes} {onTransportCmdCb : Callback}
    {controlFreq : BitVec 32} {transport left : ZenohTransport Callback} {code : Int}
    (run : client.init config stateCodec (JointCommandCodec.codec platform) zenoh onTransportCmdCb
      controlFreq stateParams params scratch transport = .ok (code, ready, left))
    (live : ready.initialized = true) {sub : ZenbeddedSub Callback}
    {events : List (ClientEvent StateValue)}
    (reached : events.foldlM (ClientEvent.step config.tier stateCodec sub) ready = .ok current)
    {message : JointCommand} (count : message.values.length = params.jointNames.length)
    {pad : Nat → UInt8}
    (accepted : (encode (message.emitter pad)).length = current.cmdPayloadSize.toNat)
    {out : JointCommandCodec.Value}
    (room : ∀ array ∈ out.values, array.length = params.jointNames.length) :
    (∃ base, current.onTransportCmdCb (encode (message.emitter pad)) = .ok base ∧
      base.cmdAcceptedCount = current.cmdAcceptedCount + 1 ∧
      ({ current with toZenbeddedClientBase := base } :
          JointCommandClient platform width StateCtx).readCommand
            (JointCommandCodec.codec platform) out =
        .ok (true, ⟨message.sec, message.nanosec, out.values.map fun _ => message.values⟩)) ∧
      (message.interfaceName = (OptionalString.value params.interfaceName).chars →
        message.jointNames = params.jointNames.map CString.chars →
        AppliedAsNamed params message message.values) := by
  have takes := (init_takesCommands size fresh run live).run reached
  rw [params.joints] at count room
  exact ⟨takes.readCommand count joints accepted room, appliedAsNamed_of_listed⟩

def twoJoints : JointCommandCodec.InitParams :=
  { frameId := none
    jointNames := [⟨[97], joint1_terminated⟩, ⟨[98], by decide⟩]
    numJoints := 2
    interfaceName := some ⟨[112], by decide⟩
    joints := rfl }

/-- The configured joints in the other order, and another interface. -/
def swapped : JointCommand :=
  { sec := 0
    nanosec := 0
    frameId := []
    jointNames := [[98], [97]]
    interfaceName := [118]
    values := [1, 2] }

def twoJointsAttempt : Attempt JointStateCodec.InitParams JointCommandCodec.InitParams :=
  { Attempt.oneJoint ZenohOutcomes.good 100 with cmdParams := twoJoints }

theorem twoJoints_starts : ∃ (ready : HostClient) (left : ZenohTransport Unit),
    twoJointsAttempt.run Config.tier1Default (JointStateCodec.codec Platform.host64)
        (JointCommandCodec.codec Platform.host64) () (Tier1Client.new Config.tier1Default)
        ZenohTransport.start = .ok (0, ready, left) ∧
      ready.initialized = true := by
  have templates : (oneJointState none).templateEnd ≤ Config.tier1Default.maxStateBufferSize ∧
      twoJoints.templateEnd ≤ Config.tier1Default.maxCmdBufferSize := by decide
  have stateFits : (oneJointState none).layoutSize ≤ Config.tier1Default.maxStateBufferSize := by
    decide
  have cmdFits : twoJoints.layoutSize ≤ Config.tier1Default.maxCmdBufferSize := by decide
  have size : twoJointsAttempt.scratch.length = Config.tier1Default.maxCmdBufferSize :=
    List.length_replicate
  have fits := @Attempt.tier1_fits Platform.host64 64 _ _ size templates stateFits cmdFits
    (Tier1Client.new Config.tier1Default)
  obtain ⟨ready, left, run, live, _⟩ := @Attempt.run_starts _ _ _ _ _ _ _ _ _ _ _ _ ()
    twoJointsAttempt (Tier1Client.new Config.tier1Default) rfl fits _ good_declares (by decide)
  exact ⟨ready, left, run, live⟩

theorem swapped_accepted {ready : HostClient}
    (takes : TakesCommands ready Config.tier1Default.maxCmdBufferSize twoJoints) :
    (encode (swapped.emitter fun _ => 0)).length = ready.cmdPayloadSize.toNat := by
  rw [takes.ready.size]
  exact (show (encode (swapped.emitter fun _ => 0)).length = twoJoints.layoutSize by decide).trans
    takes.points.payload.symm

def oneArray : JointCommandCodec.Value := ⟨0, 0, some [0, 0]⟩

theorem oneArray_room : ∀ array ∈ oneArray.values, array.length = 2 := by
  simp [oneArray]

theorem acceptedCommand_values_swapped : ∃ (ready : HostClient) (left : ZenohTransport Unit),
    twoJointsAttempt.run Config.tier1Default (JointStateCodec.codec Platform.host64)
        (JointCommandCodec.codec Platform.host64) () (Tier1Client.new Config.tier1Default)
        ZenohTransport.start = .ok (0, ready, left) ∧
      ∃ base, ready.onTransportCmdCb (encode (swapped.emitter fun _ => 0)) = .ok base ∧
        base.cmdAcceptedCount = ready.cmdAcceptedCount + 1 ∧
        ({ ready with toZenbeddedClientBase := base } : HostClient).readCommand
            (JointCommandCodec.codec Platform.host64) oneArray =
          .ok (true, ⟨0, 0, some [1, 2]⟩) := by
  obtain ⟨ready, left, run, live⟩ := twoJoints_starts
  have size : twoJointsAttempt.scratch.length = Config.tier1Default.maxCmdBufferSize :=
    List.length_replicate
  have takes := init_takesCommands size rfl run live
  obtain ⟨base, taken, counted, read⟩ := (acceptedCommand_values (by decide) size rfl run live
    (show List.foldlM (ClientEvent.step Config.tier1Default.tier
      (JointStateCodec.codec Platform.host64) (left.subPool ⟨0, by decide⟩)) ready [] = .ok ready
      from rfl) rfl (swapped_accepted takes) oneArray_room).1
  exact ⟨ready, left, run, base, taken, counted, read⟩

/-- The value that the message carries for the second joint is set for the first. -/
theorem swapped_not_appliedAsNamed : ∃ (ready : HostClient) (left : ZenohTransport Unit),
    twoJointsAttempt.run Config.tier1Default (JointStateCodec.codec Platform.host64)
        (JointCommandCodec.codec Platform.host64) () (Tier1Client.new Config.tier1Default)
        ZenohTransport.start = .ok (0, ready, left) ∧
      swapped.Encodable ∧
      ∃ base, ready.onTransportCmdCb (encode (swapped.emitter fun _ => 0)) = .ok base ∧
        base.cmdAcceptedCount = ready.cmdAcceptedCount + 1 ∧
        ({ ready with toZenbeddedClientBase := base } : HostClient).readCommand
            (JointCommandCodec.codec Platform.host64) oneArray =
          .ok (true, ⟨0, 0, some [1, 2]⟩) ∧
        swapped.interfaceName ≠ (OptionalString.value twoJoints.interfaceName).chars ∧
        ¬ Carries swapped [97] 1 := by
  obtain ⟨ready, left, run, live⟩ := twoJoints_starts
  have size : twoJointsAttempt.scratch.length = Config.tier1Default.maxCmdBufferSize :=
    List.length_replicate
  have takes := init_takesCommands size rfl run live
  obtain ⟨base, taken, counted, read⟩ := @TakesCommands.readCommand _ _ _ _ _ _ takes swapped rfl
    (by decide) _ (swapped_accepted takes) oneArray oneArray_room
  refine ⟨ready, left, run, ⟨by decide, by decide, by decide, by decide, by decide⟩, base, taken,
    counted, read, by decide, ?_⟩
  intro carries
  obtain ⟨index, named, given⟩ := carries
  match index with
  | 0 => exact absurd named (by decide)
  | 1 => exact absurd given (by decide)
  | index + 2 => exact absurd named (by simp [swapped])

end Zenbedded.Rcl
