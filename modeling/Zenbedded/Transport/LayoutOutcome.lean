import Zenbedded.Transport.Template

namespace Zenbedded.Transport

open Zenbedded.Foundation Zenbedded.Foundation.Cdr

/-! # Outcome of the layout functions

The offsets in the context and the bytes in the buffer after `zcdrInit*`, for
every target whose `size_t` can hold the size of the payload.
-/

variable {platform : Platform}

theorem countEnd_ge (position : Nat) : position + 4 ≤ countEnd position := by
  have inner := alignTo_ge 4 position
  have outer := alignTo_ge 8 (alignTo 4 position + 4)
  unfold countEnd
  omega

theorem countEnd_mono {first second : Nat} (order : first ≤ second) :
    countEnd first ≤ countEnd second :=
  alignTo_mono (by decide) (Nat.add_le_add_right (alignTo_mono (by decide) order) 4)

theorem jointStateOffsets_payload_lt {first second : Nat} (frameId : CString)
    (jointNames : List CString) (order : first < second) :
    (jointStateOffsets frameId jointNames first).payload <
      (jointStateOffsets frameId jointNames second).payload := by
  have velocity := countEnd_mono
    (Nat.add_le_add_left (Nat.le_of_lt order) (countEnd (headEnd frameId jointNames)))
  have effort := countEnd_mono (Nat.add_le_add velocity (Nat.le_of_lt order))
  simp only [jointStateOffsets]
  omega

theorem jointCommandOffsets_payload_lt {first second : Nat} (frameId : CString)
    (jointNames : List CString) (interfaceName : CString) (order : first < second) :
    (jointCommandOffsets frameId jointNames interfaceName first).payload <
      (jointCommandOffsets frameId jointNames interfaceName second).payload := by
  simp only [jointCommandOffsets]
  omega

theorem layout_cursor {ops : LayoutOps platform} {position : Nat} {out after : Out platform}
    (start : out.cursor.toNat = cdrHeaderSize + position)
    (bounded : cdrHeaderSize + Layout.endsAt ops position < 2 ^ platform.sizeBits)
    (run : layout ops out = .ok after) :
    after.cursor.toNat = cdrHeaderSize + Layout.endsAt ops position :=
  Layout.exec_cursor start (Layout.steady_of_endsAt bounded) run

theorem layout_holds {ops : LayoutOps platform} {position final : Nat} {old written : Bytes}
    {out : Out platform} (holds : Layout.Holds cdrHeaderSize old written position out)
    (ends : Layout.endsAt ops position = final) (room : cdrHeaderSize + final ≤ old.length)
    (bounded : cdrHeaderSize + final < 2 ^ platform.sizeBits) :
    ∃ after, layout ops out = .ok after ∧
      Layout.Holds cdrHeaderSize old
        (written ++ Layout.emit (Layout.residue cdrHeaderSize old) ops position) final after := by
  subst final
  exact Layout.exec_holds holds room bounded

theorem header_ok {outBuffer : Bytes} (room : cdrHeaderSize ≤ outBuffer.length) :
    layout [.put encapsulation] (⟨outBuffer, 0⟩ : Out platform) =
      .ok ⟨overwrite outBuffer 0 encapsulation, 4⟩ := by
  have zero : (0 : platform.SizeT).toNat = 0 := by simp
  have four : 0 + BitVec.ofNat platform.sizeBits encapsulation.length = 4 := by
    simp [encapsulation]
  simp only [layout, Layout.exec, Layout.Op.exec, zero, four,
    storeBytes_ok (show 0 + encapsulation.length ≤ outBuffer.length from room)]
  rfl

theorem header_room {outBuffer : Bytes} {header : Out platform}
    (run : layout [.put encapsulation] ⟨outBuffer, 0⟩ = .ok header) :
    cdrHeaderSize ≤ outBuffer.length := by
  obtain ⟨next, stored, -⟩ := bind_ok_iff.mp run
  simp only [Layout.Op.exec, Except.map] at stored
  split at stored
  · contradiction
  · rename_i buffer kept
    have room := storeBytes_room (by decide) kept
    simpa [encapsulation, cdrHeaderSize] using room

theorem header_cursor (outBuffer : Bytes) :
    (⟨overwrite outBuffer 0 encapsulation, 4⟩ : Out platform).cursor.toNat = cdrHeaderSize + 0 :=
  Layout.toNat_ofNat_of_lt 4 (platform.representable (by decide))

theorem header_holds (outBuffer : Bytes) :
    Layout.Holds cdrHeaderSize outBuffer encapsulation 0
      (⟨overwrite outBuffer 0 encapsulation, 4⟩ : Out platform) where
  length := rfl
  buffer := by simp [overwrite, encapsulation, cdrHeaderSize]
  cursor := header_cursor outBuffer

theorem endsAt_skip_eight (ops : LayoutOps platform) :
    Layout.endsAt (.skip 8 :: ops) 0 = Layout.endsAt ops 8 := by
  have eight : (8 : platform.SizeT).toNat = 8 :=
    Layout.toNat_ofNat_of_lt 8 (platform.representable (by decide))
  simp only [Layout.endsAt, Layout.Op.next, eight, Nat.zero_add]

theorem endsAt_skip_array (numJoints : BitVec 32) (position : Nat) :
    Layout.endsAt ([.skip (arraySize numJoints)] : LayoutOps platform) position =
      position + (8 * numJoints).toNat := by
  simp only [Layout.endsAt, Layout.Op.next, arraySize_toNat]

/-- The offsets that the arguments of `zcdrInitJointState` ask for. -/
def jointStateLayout (frameId : Option CString) (jointNames : List CString)
    (numJoints : BitVec 32) : JointStateOffsets :=
  jointStateOffsets (OptionalString.value frameId) (jointNames.take numJoints.toNat)
    (8 * numJoints).toNat

def jointCommandLayout (frameId : Option CString) (jointNames : List CString)
    (numJoints : BitVec 32) (interfaceName : Option CString) : JointCommandOffsets :=
  jointCommandOffsets (OptionalString.value frameId) (jointNames.take numJoints.toNat)
    (OptionalString.value interfaceName) (8 * numJoints).toNat

theorem zcdrInitJointState_at {frameId : Option CString} {jointNames : List CString}
    {numJoints : BitVec 32} {outBuffer after : Bytes} {ctx : JointStateCtx platform}
    (run : zcdrInitJointState frameId jointNames numJoints outBuffer = .ok (ctx, after))
    (bounded : (jointStateLayout frameId jointNames numJoints).payload < 2 ^ platform.sizeBits) :
    ctx.At numJoints (jointStateLayout frameId jointNames numJoints) := by
  rw [zcdrInitJointState_layout] at run
  obtain ⟨header, headerRun, run⟩ := bind_ok_iff.mp run
  obtain ⟨position, positionRun, run⟩ := bind_ok_iff.mp run
  obtain ⟨velocity, velocityRun, run⟩ := bind_ok_iff.mp run
  obtain ⟨effort, effortRun, run⟩ := bind_ok_iff.mp run
  obtain ⟨payload, payloadRun, run⟩ := bind_ok_iff.mp run
  cases run
  rw [header_ok (header_room headerRun)] at headerRun
  cases headerRun
  simp only [jointStateLayout, jointStateOffsets] at bounded ⊢
  generalize headSize : headEnd (OptionalString.value frameId)
    (jointNames.take numJoints.toNat) = head at bounded ⊢
  have velocityStart := countEnd_ge (countEnd head + (8 * numJoints).toNat)
  have effortStart :=
    countEnd_ge (countEnd (countEnd head + (8 * numJoints).toNat) + (8 * numJoints).toNat)
  have positionAt := layout_cursor (header_cursor outBuffer)
    (by rw [endsAt_skip_eight, endsAt_jointStateOps, headSize]; omega) positionRun
  rw [endsAt_skip_eight, endsAt_jointStateOps, headSize] at positionAt
  have velocityAt := layout_cursor positionAt (by rw [endsAt_nextArrayOps]; omega) velocityRun
  rw [endsAt_nextArrayOps] at velocityAt
  have effortAt := layout_cursor velocityAt (by rw [endsAt_nextArrayOps]; omega) effortRun
  rw [endsAt_nextArrayOps] at effortAt
  have payloadAt := layout_cursor effortAt (by rw [endsAt_skip_array]; omega) payloadRun
  rw [endsAt_skip_array, ← Nat.add_assoc] at payloadAt
  exact ⟨rfl, header_cursor outBuffer, positionAt, velocityAt, effortAt, payloadAt⟩

theorem zcdrInitJointCommand_at {frameId : Option CString} {jointNames : List CString}
    {numJoints : BitVec 32} {interfaceName : Option CString} {outBuffer after : Bytes}
    {ctx : JointCommandCtx platform}
    (run : zcdrInitJointCommand frameId jointNames numJoints interfaceName outBuffer =
      .ok (ctx, after))
    (bounded : (jointCommandLayout frameId jointNames numJoints interfaceName).payload <
      2 ^ platform.sizeBits) :
    ctx.At numJoints (jointCommandLayout frameId jointNames numJoints interfaceName) := by
  rw [zcdrInitJointCommand_layout] at run
  obtain ⟨header, headerRun, run⟩ := bind_ok_iff.mp run
  obtain ⟨values, valuesRun, run⟩ := bind_ok_iff.mp run
  obtain ⟨payload, payloadRun, run⟩ := bind_ok_iff.mp run
  cases run
  rw [header_ok (header_room headerRun)] at headerRun
  cases headerRun
  simp only [jointCommandLayout, jointCommandOffsets] at bounded ⊢
  have valuesAt := layout_cursor (header_cursor outBuffer)
    (by rw [endsAt_skip_eight, endsAt_jointCommandOps]; omega) valuesRun
  rw [endsAt_skip_eight, endsAt_jointCommandOps] at valuesAt
  have payloadAt := layout_cursor valuesAt (by rw [endsAt_skip_array]; omega) payloadRun
  rw [endsAt_skip_array, ← Nat.add_assoc] at payloadAt
  exact ⟨rfl, header_cursor outBuffer, valuesAt, payloadAt⟩

/-- Parts around the head and the counts that the layout operations write. -/
def JointStateParts.laidOut (platform : Platform) (pad : Nat → UInt8) (frameId : CString)
    (names : List CString) (numJoints : BitVec 32) (array : Nat)
    (sec nanosec position velocity effort : Bytes) : JointStateParts :=
  let positionStart := countEnd (headEnd frameId names)
  let velocityStart := countEnd (positionStart + array)
  let head : LayoutOps platform := jointStateOps frameId names numJoints
  let count : LayoutOps platform := countOps numJoints
  { sec, nanosec, position, velocity, effort
    head := Layout.emit pad head 8
    velocityCount := Layout.emit pad count (positionStart + array)
    effortCount := Layout.emit pad count (velocityStart + array) }

/-- The parts after the layout pass: what it does not store, the buffer held before. -/
def JointStateParts.initial (platform : Platform) (outBuffer : Bytes) (frameId : Option CString)
    (jointNames : List CString) (numJoints : BitVec 32) : JointStateParts :=
  let pad := Layout.residue cdrHeaderSize outBuffer
  let names := jointNames.take numJoints.toNat
  let array := (8 * numJoints).toNat
  let positionStart := countEnd (headEnd (OptionalString.value frameId) names)
  let velocityStart := countEnd (positionStart + array)
  let effortStart := countEnd (velocityStart + array)
  laidOut platform pad (OptionalString.value frameId) names numJoints array (Layout.gap pad 4 0)
    (Layout.gap pad 4 4) (Layout.gap pad array positionStart) (Layout.gap pad array velocityStart)
    (Layout.gap pad array effortStart)

def JointCommandParts.laidOut (platform : Platform) (pad : Nat → UInt8) (frameId : CString)
    (names : List CString) (interfaceName : CString) (numJoints : BitVec 32)
    (sec nanosec values : Bytes) : JointCommandParts :=
  let head : LayoutOps platform := jointCommandOps frameId names interfaceName numJoints
  { sec, nanosec, values
    head := Layout.emit pad head 8 }

def JointCommandParts.initial (platform : Platform) (outBuffer : Bytes)
    (frameId : Option CString) (jointNames : List CString) (numJoints : BitVec 32)
    (interfaceName : Option CString) : JointCommandParts :=
  let pad := Layout.residue cdrHeaderSize outBuffer
  let names := jointNames.take numJoints.toNat
  let valuesStart := countEnd (stringEnd
    (alignTo 4 (headEnd (OptionalString.value frameId) names)) (OptionalString.value interfaceName))
  laidOut platform pad (OptionalString.value frameId) names (OptionalString.value interfaceName)
    numJoints (Layout.gap pad 4 0) (Layout.gap pad 4 4)
    (Layout.gap pad (8 * numJoints).toNat valuesStart)

theorem emit_skip_eight (pad : Nat → UInt8) (rest : LayoutOps platform) :
    Layout.emit pad (.skip 8 :: rest) 0 =
      Layout.gap pad 4 0 ++ (Layout.gap pad 4 4 ++ Layout.emit pad rest 8) := by
  have eight : (8 : platform.SizeT).toNat = 8 :=
    Layout.toNat_ofNat_of_lt 8 (platform.representable (by decide))
  rw [Layout.emit, Emitter.andThen_apply, Layout.Op.endsAt_emit, Layout.Op.next, Layout.Op.emit,
    eight, Layout.gap_add pad 4 4 0, List.append_assoc]

theorem emit_nextArrayOps (pad : Nat → UInt8) (numJoints : BitVec 32) (position : Nat) :
    Layout.emit pad (nextArrayOps numJoints : LayoutOps platform) position =
      Layout.gap pad (8 * numJoints).toNat position ++
        Layout.emit pad (countOps numJoints : LayoutOps platform)
          (position + (8 * numJoints).toNat) := by
  rw [nextArrayOps, Layout.emit, Emitter.andThen_apply, Layout.Op.endsAt_emit, Layout.Op.next,
    Layout.Op.emit, arraySize_toNat]

theorem emit_skip_array (pad : Nat → UInt8) (numJoints : BitVec 32) (position : Nat) :
    Layout.emit pad ([.skip (arraySize numJoints)] : LayoutOps platform) position =
      Layout.gap pad (8 * numJoints).toNat position := by
  rw [Layout.emit, Layout.emit, Emitter.andThen_raw_nil, Layout.Op.emit, arraySize_toNat]

theorem zcdrInitJointState_ok {frameId : Option CString} {jointNames : List CString}
    {numJoints : BitVec 32} {outBuffer : Bytes}
    (room : (jointStateLayout frameId jointNames numJoints).payload ≤ outBuffer.length)
    (bounded : (jointStateLayout frameId jointNames numJoints).payload < 2 ^ platform.sizeBits) :
    ∃ ctx : JointStateCtx platform,
      zcdrInitJointState frameId jointNames numJoints outBuffer =
        .ok (ctx, (JointStateParts.initial platform outBuffer frameId jointNames
          numJoints).payload ++
            outBuffer.drop (jointStateLayout frameId jointNames numJoints).payload) := by
  simp only [jointStateLayout, jointStateOffsets] at room bounded ⊢
  have headerRoom : cdrHeaderSize ≤ outBuffer.length := by omega
  have ends : Layout.endsAt ((.skip 8 :: jointStateOps (OptionalString.value frameId)
      (jointNames.take numJoints.toNat) numJoints) ++ (nextArrayOps numJoints ++
        (nextArrayOps numJoints ++ [.skip (arraySize numJoints)])) : LayoutOps platform) 0 =
      countEnd (countEnd (countEnd (headEnd (OptionalString.value frameId)
        (jointNames.take numJoints.toNat)) + (8 * numJoints).toNat) + (8 * numJoints).toNat) +
          (8 * numJoints).toNat := by
    simp only [Layout.endsAt_append, endsAt_skip_eight, endsAt_jointStateOps,
      endsAt_nextArrayOps, endsAt_skip_array]
  obtain ⟨payload, run, holds⟩ := layout_holds (header_holds outBuffer) ends (by omega) (by omega)
  rw [layout_append] at run
  obtain ⟨position, positionRun, run⟩ := bind_ok_iff.mp run
  rw [layout_append] at run
  obtain ⟨velocity, velocityRun, run⟩ := bind_ok_iff.mp run
  rw [layout_append] at run
  obtain ⟨effort, effortRun, payloadRun⟩ := bind_ok_iff.mp run
  have contents := holds.buffer
  simp only [Layout.emit_append, Emitter.andThen_apply, Layout.endsAt_emit, endsAt_skip_eight,
    endsAt_jointStateOps, endsAt_nextArrayOps, emit_skip_eight, emit_nextArrayOps,
    emit_skip_array] at contents
  refine ⟨⟨numJoints, 4, position.cursor, velocity.cursor, effort.cursor, payload.cursor⟩, ?_⟩
  rw [zcdrInitJointState_layout, header_ok headerRoom]
  simp only [bind, Except.bind, positionRun, velocityRun, effortRun, payloadRun, pure, Except.pure,
    contents]
  simp [JointStateParts.payload, JointStateParts.list, JointStateParts.initial,
    JointStateParts.laidOut, Nat.add_assoc]

theorem zcdrInitJointCommand_ok {frameId : Option CString} {jointNames : List CString}
    {numJoints : BitVec 32} {interfaceName : Option CString} {outBuffer : Bytes}
    (room : (jointCommandLayout frameId jointNames numJoints interfaceName).payload ≤
      outBuffer.length)
    (bounded : (jointCommandLayout frameId jointNames numJoints interfaceName).payload <
      2 ^ platform.sizeBits) :
    ∃ ctx : JointCommandCtx platform,
      zcdrInitJointCommand frameId jointNames numJoints interfaceName outBuffer =
        .ok (ctx, (JointCommandParts.initial platform outBuffer frameId jointNames numJoints
          interfaceName).payload ++
            outBuffer.drop (jointCommandLayout frameId jointNames numJoints
              interfaceName).payload) := by
  simp only [jointCommandLayout, jointCommandOffsets] at room bounded ⊢
  have headerRoom : cdrHeaderSize ≤ outBuffer.length := by omega
  have ends : Layout.endsAt ((.skip 8 :: jointCommandOps (OptionalString.value frameId)
      (jointNames.take numJoints.toNat) (OptionalString.value interfaceName) numJoints) ++
        [.skip (arraySize numJoints)] : LayoutOps platform) 0 =
      countEnd (stringEnd (alignTo 4 (headEnd (OptionalString.value frameId)
        (jointNames.take numJoints.toNat))) (OptionalString.value interfaceName)) +
          (8 * numJoints).toNat := by
    simp only [Layout.endsAt_append, endsAt_skip_eight, endsAt_jointCommandOps, endsAt_skip_array]
  obtain ⟨payload, run, holds⟩ := layout_holds (header_holds outBuffer) ends (by omega) (by omega)
  rw [layout_append] at run
  obtain ⟨values, valuesRun, payloadRun⟩ := bind_ok_iff.mp run
  have contents := holds.buffer
  simp only [Layout.emit_append, Emitter.andThen_apply, Layout.endsAt_emit, endsAt_skip_eight,
    endsAt_jointCommandOps, emit_skip_eight, emit_skip_array] at contents
  refine ⟨⟨numJoints, 4, values.cursor, payload.cursor⟩, ?_⟩
  rw [zcdrInitJointCommand_layout, header_ok headerRoom]
  simp only [bind, Except.bind, valuesRun, payloadRun, pure, Except.pure, contents]
  simp [JointCommandParts.payload, JointCommandParts.list, JointCommandParts.initial,
    JointCommandParts.laidOut, Nat.add_assoc]

theorem Layout.emit_length (pad : Nat → UInt8) (ops : LayoutOps platform) (position : Nat) :
    position + (Layout.emit pad ops position).length = Layout.endsAt ops position :=
  Layout.endsAt_emit pad ops position

theorem JointStateParts.laidOut_offsets {pad : Nat → UInt8} {frameId : CString}
    {names : List CString} {numJoints : BitVec 32} {array : Nat}
    {sec nanosec position velocity effort : Bytes}
    (sized : (JointStateParts.laidOut platform pad frameId names numJoints array sec nanosec
      position velocity effort).Sized array) :
    (JointStateParts.laidOut platform pad frameId names numJoints array sec nanosec position
      velocity effort).offsets = jointStateOffsets frameId names array := by
  have head := Layout.emit_length pad
    (jointStateOps frameId names numJoints : LayoutOps platform) 8
  have count (position : Nat) :=
    Layout.emit_length pad (countOps numJoints : LayoutOps platform) position
  simp only [endsAt_jointStateOps, endsAt_countOps] at head count
  rw [JointStateParts.offsets_eq sized]
  simp only [JointStateParts.laidOut, jointStateOffsets, ← head, ← count,
    JointStateOffsets.mk.injEq, cdrHeaderSize]
  omega

theorem JointStateParts.initial_sized (outBuffer : Bytes) (frameId : Option CString)
    (jointNames : List CString) (numJoints : BitVec 32) :
    (JointStateParts.initial platform outBuffer frameId jointNames numJoints).Sized
      (8 * numJoints).toNat := by
  constructor <;> simp [JointStateParts.initial, JointStateParts.laidOut]

theorem JointStateParts.initial_offsets (outBuffer : Bytes) (frameId : Option CString)
    (jointNames : List CString) (numJoints : BitVec 32) :
    (JointStateParts.initial platform outBuffer frameId jointNames numJoints).offsets =
      jointStateLayout frameId jointNames numJoints :=
  laidOut_offsets (initial_sized outBuffer frameId jointNames numJoints)

theorem JointCommandParts.laidOut_offsets {pad : Nat → UInt8} {frameId : CString}
    {names : List CString} {interfaceName : CString} {numJoints : BitVec 32} {array : Nat}
    {sec nanosec values : Bytes}
    (sized : (JointCommandParts.laidOut platform pad frameId names interfaceName numJoints sec
      nanosec values).Sized array) :
    (JointCommandParts.laidOut platform pad frameId names interfaceName numJoints sec nanosec
      values).offsets = jointCommandOffsets frameId names interfaceName array := by
  have head := Layout.emit_length pad
    (jointCommandOps frameId names interfaceName numJoints : LayoutOps platform) 8
  rw [endsAt_jointCommandOps] at head
  rw [JointCommandParts.offsets_eq sized]
  simp only [JointCommandParts.laidOut, jointCommandOffsets, ← head,
    JointCommandOffsets.mk.injEq, cdrHeaderSize]
  omega

theorem JointCommandParts.initial_sized (outBuffer : Bytes) (frameId : Option CString)
    (jointNames : List CString) (numJoints : BitVec 32) (interfaceName : Option CString) :
    (JointCommandParts.initial platform outBuffer frameId jointNames numJoints
      interfaceName).Sized (8 * numJoints).toNat := by
  constructor <;> simp [JointCommandParts.initial, JointCommandParts.laidOut]

theorem JointCommandParts.initial_offsets (outBuffer : Bytes) (frameId : Option CString)
    (jointNames : List CString) (numJoints : BitVec 32) (interfaceName : Option CString) :
    (JointCommandParts.initial platform outBuffer frameId jointNames numJoints
      interfaceName).offsets = jointCommandLayout frameId jointNames numJoints interfaceName :=
  laidOut_offsets (initial_sized outBuffer frameId jointNames numJoints interfaceName)

end Zenbedded.Transport
