import Zenbedded.Transport.Messages

namespace Zenbedded.Transport

open Zenbedded.Foundation Zenbedded.Foundation.Cdr

/-! # Reading a peer's messages

The deserializers never parse: they load at the offsets of their own layout
pass.  These are the offsets of the reference encoding exactly when the array
size `8 * num_joints` does not wrap as a `uint32_t`.
-/

variable {platform : Platform}

theorem arraySize_wraps_iff (numJoints : BitVec 32) :
    (8 * numJoints).toNat = 8 * numJoints.toNat ↔ numJoints.toNat < 2 ^ 29 := by
  rw [BitVec.toNat_mul, show (8 : BitVec 32).toNat = 8 from rfl]
  omega

theorem arraySize_le (numJoints : BitVec 32) : (8 * numJoints).toNat ≤ 8 * numJoints.toNat := by
  rw [BitVec.toNat_mul]
  exact Nat.mod_le _ _

/-- A message is read back: the sizes agree, and every output that is not NULL
receives the message's value, whatever follows the message. -/
def JointStateCtx.ReadsBack (ctx : JointStateCtx platform) (numJoints : Nat)
    (pad : Nat → UInt8) (message : JointState) : Prop :=
  (encode (message.emitter pad)).length = ctx.payloadSize.toNat ∧
    ∀ (trailing : Bytes) (bufferSize : platform.SizeT) (out : JointStateOut),
      bufferSize.toNat = (encode (message.emitter pad) ++ trailing).length →
      out.Room numJoints →
      zcdrDeserializeJointState ctx (encode (message.emitter pad) ++ trailing) bufferSize out =
        .ok (true,
          { stampSec := out.stampSec.map fun _ => message.sec
            stampNanosec := out.stampNanosec.map fun _ => message.nanosec
            positions := out.positions.map fun _ => message.position
            velocities := out.velocities.map fun _ => message.velocity
            efforts := out.efforts.map fun _ => message.effort })

def JointCommandCtx.ReadsBack (ctx : JointCommandCtx platform) (numJoints : Nat)
    (pad : Nat → UInt8) (message : JointCommand) : Prop :=
  (encode (message.emitter pad)).length = ctx.payloadSize.toNat ∧
    ∀ (trailing : Bytes) (bufferSize : platform.SizeT) (out : JointCommandOut),
      bufferSize.toNat = (encode (message.emitter pad) ++ trailing).length →
      (∀ array ∈ out.values, array.length = numJoints) →
      zcdrDeserializeJointCommand ctx (encode (message.emitter pad) ++ trailing) bufferSize out =
        .ok (true,
          { stampSec := out.stampSec.map fun _ => message.sec
            stampNanosec := out.stampNanosec.map fun _ => message.nanosec
            values := out.values.map fun _ => message.values })

theorem OptionalString.value_short {text : Option CString} {chars : Bytes}
    (same : chars = (OptionalString.value text).chars) (short : chars.length + 1 < 2 ^ 32) :
    (OptionalString.value text).strlen + 1 < 2 ^ 32 := by
  rw [CString.strlen, ← same]
  exact short

theorem names_short {names : List CString} {texts : List Bytes}
    (same : texts = names.map CString.chars) (short : ∀ text ∈ texts, text.length + 1 < 2 ^ 32) :
    ∀ name ∈ names, name.strlen + 1 < 2 ^ 32 := by
  intro name member
  subst texts
  exact short name.chars (List.mem_map_of_mem member)

theorem JointState.strings {message : JointState} {frameId : Option CString}
    {jointNames : List CString} {numJoints : BitVec 32}
    (joints : jointNames.length = numJoints.toNat)
    (matching : message.Matches (OptionalString.value frameId) jointNames)
    (encodable : message.Encodable) :
    Strings (OptionalString.value frameId) jointNames numJoints where
  joints := joints
  frameId := OptionalString.value_short matching.frameId encodable.frameId
  names := names_short matching.name encodable.names

theorem JointCommand.strings {message : JointCommand} {frameId interfaceName : Option CString}
    {jointNames : List CString} {numJoints : BitVec 32}
    (joints : jointNames.length = numJoints.toNat)
    (matching : message.Matches (OptionalString.value frameId) jointNames
      (OptionalString.value interfaceName))
    (encodable : message.Encodable) :
    Strings (OptionalString.value frameId) jointNames numJoints where
  joints := joints
  frameId := OptionalString.value_short matching.frameId encodable.frameId
  names := names_short matching.jointNames encodable.names

theorem JointState.encode_length {message : JointState} {frameId : Option CString}
    {jointNames : List CString} {numJoints : BitVec 32}
    (joints : jointNames.length = numJoints.toNat) (nonempty : jointNames ≠ [])
    (encodable : message.Encodable)
    (matching : message.Matches (OptionalString.value frameId) jointNames) (pad : Nat → UInt8) :
    (encode (message.emitter pad)).length = (jointStateOffsets (OptionalString.value frameId)
      jointNames (8 * numJoints.toNat)).payload := by
  rw [@JointState.encode_parts Platform.host64 _ _ _ _
      (message.strings joints matching encodable) matching nonempty pad,
    ← JointStateParts.ofMessage_offsets joints matching pad]
  rfl

theorem JointCommand.encode_length {message : JointCommand}
    {frameId interfaceName : Option CString} {jointNames : List CString} {numJoints : BitVec 32}
    (joints : jointNames.length = numJoints.toNat) (nonempty : jointNames ≠ [])
    (encodable : message.Encodable)
    (matching : message.Matches (OptionalString.value frameId) jointNames
      (OptionalString.value interfaceName)) (pad : Nat → UInt8) :
    (encode (message.emitter pad)).length = (jointCommandOffsets (OptionalString.value frameId)
      jointNames (OptionalString.value interfaceName) (8 * numJoints.toNat)).payload := by
  rw [@JointCommand.encode_parts Platform.host64 _ _ _ _ _
      (message.strings joints matching encodable)
      (OptionalString.value_short matching.interfaceName encodable.interfaceName) matching
      nonempty pad,
    ← JointCommandParts.ofMessage_offsets joints matching pad]
  rfl

theorem jointState_readsBack_iff {frameId : Option CString} {jointNames : List CString}
    {numJoints : BitVec 32} (joints : jointNames.length = numJoints.toNat)
    (nonempty : jointNames ≠ []) {scratch after : Bytes} {ctx : JointStateCtx platform}
    (run : zcdrInitJointState frameId jointNames numJoints scratch = .ok (ctx, after))
    {message : JointState} (encodable : message.Encodable)
    (matching : message.Matches (OptionalString.value frameId) jointNames) (pad : Nat → UInt8)
    (addressable : (encode (message.emitter pad)).length < 2 ^ platform.sizeBits) :
    ctx.ReadsBack jointNames.length pad message ↔ jointNames.length < 2 ^ 29 := by
  have strings := message.strings joints matching encodable
  have encoded := @JointState.encode_parts platform _ _ _ _ strings matching nonempty pad
  have offsets := @JointStateParts.ofMessage_offsets platform _ _ _ _ joints matching pad
  have sized := @JointStateParts.ofMessage_sized platform _ _ _ _ joints matching pad
  have size := message.encode_length joints nonempty encodable matching pad
  have laid : jointStateLayout frameId jointNames numJoints =
      jointStateOffsets (OptionalString.value frameId) jointNames (8 * numJoints).toNat := by
    rw [jointStateLayout, ← joints, List.take_length]
  rw [joints, ← arraySize_wraps_iff]
  constructor
  · rintro ⟨same, -⟩
    by_contra wraps
    -- A wrapped array size makes the layout shorter than the message.
    have shorter := jointStateOffsets_payload_lt (OptionalString.value frameId) jointNames
      (Nat.lt_of_le_of_ne (arraySize_le numJoints) wraps)
    have points := zcdrInitJointState_at run (by rw [laid]; omega)
    rw [points.payload, laid] at same
    omega
  · intro narrow
    have points := zcdrInitJointState_at run (by rw [laid, narrow]; omega)
    rw [laid, narrow, ← offsets] at points
    refine ⟨by rw [encoded, points.payload]; rfl, ?_⟩
    intro trailing bufferSize out sizeGiven room
    rw [encoded, List.length_append] at sizeGiven
    rw [encoded, zcdrDeserializeJointState_parts points sized narrow room (by omega)]
    have array (values : List Double) (length : values.length = jointNames.length) :
        ofArrayBytes 64 numJoints.toNat (arrayBytes values) = values := by
      rw [← joints, ← length, ofArrayBytes_arrayBytes (by decide)]
    have word (value : BitVec 32) := ofWordBytes_wordBytes (by decide) value
    simp only [JointStateParts.read, JointStateParts.ofMessage, JointStateParts.laidOut, word,
      array _ matching.position, array _ matching.velocity, array _ matching.effort]

theorem jointCommand_readsBack_iff {frameId interfaceName : Option CString}
    {jointNames : List CString} {numJoints : BitVec 32}
    (joints : jointNames.length = numJoints.toNat) (nonempty : jointNames ≠ [])
    {scratch after : Bytes} {ctx : JointCommandCtx platform}
    (run : zcdrInitJointCommand frameId jointNames numJoints interfaceName scratch =
      .ok (ctx, after))
    {message : JointCommand} (encodable : message.Encodable)
    (matching : message.Matches (OptionalString.value frameId) jointNames
      (OptionalString.value interfaceName)) (pad : Nat → UInt8)
    (addressable : (encode (message.emitter pad)).length < 2 ^ platform.sizeBits) :
    ctx.ReadsBack jointNames.length pad message ↔ jointNames.length < 2 ^ 29 := by
  have strings := message.strings joints matching encodable
  have interfaceShort := OptionalString.value_short matching.interfaceName encodable.interfaceName
  have encoded := @JointCommand.encode_parts platform _ _ _ _ _ strings interfaceShort matching
    nonempty pad
  have offsets := @JointCommandParts.ofMessage_offsets platform _ _ _ _ _ joints matching pad
  have sized := @JointCommandParts.ofMessage_sized platform _ _ _ _ _ joints matching pad
  have size := message.encode_length joints nonempty encodable matching pad
  have laid : jointCommandLayout frameId jointNames numJoints interfaceName =
      jointCommandOffsets (OptionalString.value frameId) jointNames
        (OptionalString.value interfaceName) (8 * numJoints).toNat := by
    rw [jointCommandLayout, ← joints, List.take_length]
  rw [joints, ← arraySize_wraps_iff]
  constructor
  · rintro ⟨same, -⟩
    by_contra wraps
    have shorter := jointCommandOffsets_payload_lt (OptionalString.value frameId) jointNames
      (OptionalString.value interfaceName) (Nat.lt_of_le_of_ne (arraySize_le numJoints) wraps)
    have points := zcdrInitJointCommand_at run (by rw [laid]; omega)
    rw [points.payload, laid] at same
    omega
  · intro narrow
    have points := zcdrInitJointCommand_at run (by rw [laid, narrow]; omega)
    rw [laid, narrow, ← offsets] at points
    refine ⟨by rw [encoded, points.payload]; rfl, ?_⟩
    intro trailing bufferSize out sizeGiven room
    rw [encoded, List.length_append] at sizeGiven
    rw [encoded, zcdrDeserializeJointCommand_parts points sized narrow room (by omega)]
    have values : ofArrayBytes 64 numJoints.toNat (arrayBytes message.values) = message.values := by
      rw [← joints, ← matching.values, ofArrayBytes_arrayBytes (by decide)]
    have word (value : BitVec 32) := ofWordBytes_wordBytes (by decide) value
    simp only [JointCommandParts.read, JointCommandParts.ofMessage, JointCommandParts.laidOut, word,
      values]

/-- Messages of a ROS 2 peer are read back exactly when there are fewer than
`2 ^ 29` joints, for both message types. -/
theorem peerMessages_readsBack_iff (frameId : Option CString) {jointNames : List CString}
    {numJoints : BitVec 32} (joints : jointNames.length = numJoints.toNat)
    (nonempty : jointNames ≠ []) (pad : Nat → UInt8) :
    (∀ (scratch after : Bytes) (ctx : JointStateCtx platform) (message : JointState),
      zcdrInitJointState frameId jointNames numJoints scratch = .ok (ctx, after) →
      message.Encodable → message.Matches (OptionalString.value frameId) jointNames →
      (encode (message.emitter pad)).length < 2 ^ platform.sizeBits →
      (ctx.ReadsBack jointNames.length pad message ↔ jointNames.length < 2 ^ 29)) ∧
    ∀ (interfaceName : Option CString) (scratch after : Bytes) (ctx : JointCommandCtx platform)
      (message : JointCommand),
      zcdrInitJointCommand frameId jointNames numJoints interfaceName scratch =
        .ok (ctx, after) →
      message.Encodable →
      message.Matches (OptionalString.value frameId) jointNames
        (OptionalString.value interfaceName) →
      (encode (message.emitter pad)).length < 2 ^ platform.sizeBits →
      (ctx.ReadsBack jointNames.length pad message ↔ jointNames.length < 2 ^ 29) := by
  constructor
  · intro scratch after ctx message run encodable matching addressable
    exact jointState_readsBack_iff joints nonempty run encodable matching pad addressable
  · intro interfaceName scratch after ctx message run encodable matching addressable
    exact jointCommand_readsBack_iff joints nonempty run encodable matching pad addressable

def jointA : CString := ⟨[97], by decide⟩

theorem peerMessages_readsBack_iff_one_joint :
    (∃ (ctx : JointStateCtx Platform.host64) (after : Bytes),
      zcdrInitJointState none [jointA] 1 (List.replicate 128 0) = .ok (ctx, after) ∧
      (ctx.ReadsBack 1 (fun _ => 0) ⟨1, 2, [], [[97]], [3], [4], [5]⟩ ↔ 1 < 2 ^ 29)) ∧
    ∃ (ctx : JointCommandCtx Platform.host64) (after : Bytes),
      zcdrInitJointCommand none [jointA] 1 none (List.replicate 128 0) = .ok (ctx, after) ∧
      (ctx.ReadsBack 1 (fun _ => 0) ⟨1, 2, [], [[97]], [], [3]⟩ ↔ 1 < 2 ^ 29) := by
  obtain ⟨state, command⟩ := @peerMessages_readsBack_iff Platform.host64 none [jointA] 1 rfl
    (by decide) (fun _ => 0)
  constructor
  · obtain ⟨ctx, run⟩ := @zcdrInitJointState_ok Platform.host64 none [jointA] 1
      (List.replicate 128 0) (by rw [List.length_replicate]; decide) (by decide)
    exact ⟨ctx, _, run, state _ _ ctx _ run (by constructor <;> decide)
      (by constructor <;> rfl) (by decide)⟩
  · obtain ⟨ctx, run⟩ := @zcdrInitJointCommand_ok Platform.host64 none [jointA] 1 none
      (List.replicate 128 0) (by rw [List.length_replicate]; decide) (by decide)
    exact ⟨ctx, _, run, command none _ _ ctx _ run (by constructor <;> decide)
      (by constructor <;> rfl) (by decide)⟩

/-- Zero stamps, empty names and zero doubles. -/
def JointState.blank (joints : Nat) : JointState :=
  { sec := 0
    nanosec := 0
    frameId := []
    name := List.replicate joints []
    position := List.replicate joints 0
    velocity := List.replicate joints 0
    effort := List.replicate joints 0 }

theorem JointState.blank_encodable {joints : Nat} (countable : joints < 2 ^ 32) :
    (JointState.blank joints).Encodable := by
  constructor
  · exact (by decide : 0 + 1 < 2 ^ 32)
  · simpa [JointState.blank] using countable
  · intro text member
    rw [List.eq_of_mem_replicate member]
    decide
  · simpa [JointState.blank] using countable
  · simpa [JointState.blank] using countable
  · simpa [JointState.blank] using countable

theorem JointState.blank_matches (joints : Nat) :
    (JointState.blank joints).Matches CString.empty (List.replicate joints CString.empty) := by
  constructor <;> simp [JointState.blank, CString.empty]

theorem namesEnd_blank_le (joints position : Nat) :
    namesEnd position (List.replicate joints CString.empty) ≤ position + 8 * joints := by
  induction joints generalizing position with
  | zero => exact Nat.le_refl _
  | succ joints ih =>
      have rest := ih (stringEnd (alignTo 4 position) CString.empty)
      have near := padding_lt (show 0 < 4 by decide) position
      rw [List.replicate_succ, namesEnd]
      simp only [stringEnd, alignTo, CString.strlen, CString.empty, List.length_nil] at rest ⊢
      omega

theorem countEnd_le (position : Nat) : countEnd position ≤ position + 14 := by
  have inner := padding_lt (show 0 < 4 by decide) position
  have outer := padding_lt (show 0 < 8 by decide) (alignTo 4 position + 4)
  unfold countEnd
  unfold alignTo at outer ⊢
  omega

theorem blankLayout_le (joints array : Nat) :
    (jointStateOffsets CString.empty (List.replicate joints CString.empty) array).payload ≤
      80 + 8 * joints + 3 * array := by
  have names := namesEnd_blank_le joints (alignTo 4 (stringEnd 8 CString.empty) + 4)
  have start : alignTo 4 (stringEnd 8 CString.empty) + 4 = 20 := by decide
  have position := countEnd_le (headEnd CString.empty (List.replicate joints CString.empty))
  have velocity := countEnd_le
    (countEnd (headEnd CString.empty (List.replicate joints CString.empty)) + array)
  have effort := countEnd_le (countEnd
    (countEnd (headEnd CString.empty (List.replicate joints CString.empty)) + array) + array)
  simp only [jointStateOffsets, cdrHeaderSize]
  rw [start] at names
  simp only [headEnd, start] at position velocity effort ⊢
  omega

theorem blankJoints_not_readsBack {joints : Nat} (wide : 2 ^ 29 ≤ joints)
    (countable : joints < 2 ^ 32) :
    ∃ (ctx : JointStateCtx Platform.host64) (after : Bytes),
      zcdrInitJointState none (List.replicate joints CString.empty) (BitVec.ofNat 32 joints)
        (List.replicate (2 ^ 38) 0) = .ok (ctx, after) ∧
      ¬ ctx.ReadsBack joints (fun _ => 0) (JointState.blank joints) := by
  have count : (BitVec.ofNat 32 joints).toNat = joints :=
    Layout.toNat_ofNat_of_lt joints countable
  have length : (List.replicate joints CString.empty).length = (BitVec.ofNat 32 joints).toNat := by
    rw [List.length_replicate, count]
  have wrapped := arraySize_le (BitVec.ofNat 32 joints)
  have layoutSize := blankLayout_le joints (8 * BitVec.ofNat 32 joints).toNat
  have laid : jointStateLayout none (List.replicate joints CString.empty) (BitVec.ofNat 32 joints) =
      jointStateOffsets CString.empty (List.replicate joints CString.empty)
        (8 * BitVec.ofNat 32 joints).toNat := by
    rw [jointStateLayout, ← length, List.take_length]
    rfl
  have addressable : (2 : Nat) ^ 38 < 2 ^ Platform.host64.sizeBits :=
    Nat.pow_lt_pow_right (by decide) (by decide)
  obtain ⟨ctx, run⟩ := @zcdrInitJointState_ok Platform.host64 none
    (List.replicate joints CString.empty) (BitVec.ofNat 32 joints) (List.replicate (2 ^ 38) 0)
    (by rw [laid, List.length_replicate]; omega) (by rw [laid]; omega)
  have nonempty : List.replicate joints CString.empty ≠ [] := by
    intro none
    have zero := congrArg List.length none
    rw [List.length_replicate, List.length_nil] at zero
    omega
  have messageSize := blankLayout_le joints (8 * joints)
  have encoded := @JointState.encode_length (JointState.blank joints) none _ _ length nonempty
    (JointState.blank_encodable countable) (JointState.blank_matches joints) (fun _ => 0)
  have iff := jointState_readsBack_iff length nonempty run (JointState.blank_encodable countable)
    (JointState.blank_matches joints) (fun _ => 0) (by
      rw [encoded, count]
      exact Nat.lt_of_le_of_lt messageSize (by omega))
  rw [List.length_replicate] at iff
  exact ⟨ctx, _, run, fun back => Nat.not_lt.mpr wide (iff.mp back)⟩

/-- `2 ^ 29` joints: the payload size of the layout falls short of the message. -/
theorem jointState_not_readsBack :
    ∃ (ctx : JointStateCtx Platform.host64) (after : Bytes),
      zcdrInitJointState none (List.replicate (2 ^ 29) CString.empty) (BitVec.ofNat 32 (2 ^ 29))
        (List.replicate (2 ^ 38) 0) = .ok (ctx, after) ∧
      ¬ ctx.ReadsBack (2 ^ 29) (fun _ => 0) (JointState.blank (2 ^ 29)) :=
  blankJoints_not_readsBack (Nat.le_refl _) (by decide)

end Zenbedded.Transport
