import Zenbedded.Transport.AccessBounds

namespace Zenbedded.Transport

open Zenbedded.Foundation Zenbedded.Foundation.Cdr

/-! # Layouts that keep every access in its place

What `zcdrInit*` computes for a layout below `2 ^ 32` bytes, and what the calls
that rely on it may then touch.  Buffers have as many bytes as the payload or
more, so a store behind the payload would fault in the smallest of them.
-/

variable {platform : Platform}

/-- A call that stored in the payload, but not in its template. -/
structure Patched (template : List Span) (payload : Nat) (before after : Bytes) : Prop where
  length : after.length = before.length
  behind : ∀ index, payload ≤ index → after[index]? = before[index]?
  template : ∀ span ∈ template, Keeps before after span

theorem Patched.refl (template : List Span) (payload : Nat) (buffer : Bytes) :
    Patched template payload buffer buffer :=
  ⟨rfl, fun _ _ => rfl, fun _ _ _ _ => rfl⟩

theorem Patched.trans {template : List Span} {payload : Nat} {first second third : Bytes}
    (left : Patched template payload first second) (right : Patched template payload second third) :
    Patched template payload first third := by
  refine ⟨right.length.trans left.length, ?_, ?_⟩
  · intro index behind
    exact (right.behind index behind).trans (left.behind index behind)
  · intro span member index inside
    exact (right.template span member index inside).trans (left.template span member index inside)

theorem keeps_of_disjoint {before after : Bytes} {span : Span} {touched : List Span}
    (frame : ∀ index, (∀ other ∈ touched, ¬ other.Contains index) → after[index]? = before[index]?)
    (apart : ∀ other ∈ touched, span.Disjoint other) : Keeps before after span := by
  intro index inside
  exact frame index fun other member => (apart other member).not_contains inside

/-- What is stored only in spans that are apart from the template patches the payload. -/
theorem patched_of_frame {template touched : List Span} {payload : Nat} {before after : Bytes}
    (length : after.length = before.length)
    (frame : ∀ index, (∀ other ∈ touched, ¬ other.Contains index) → after[index]? = before[index]?)
    (disjoint : (template ++ touched).Pairwise Span.Disjoint)
    (bounded : ∀ span ∈ touched, span.stop ≤ payload) : Patched template payload before after := by
  obtain ⟨_, _, apart⟩ := List.pairwise_append.mp disjoint
  refine ⟨length, ?_, ?_⟩
  · intro index behind
    refine frame index fun other member inside => ?_
    have stops := bounded other member
    have upper := inside.2
    omega
  · intro span member
    exact keeps_of_disjoint frame fun other touches => apart span member other touches

/-- The call that a value makes. -/
def JointStateValue.store (ctx : JointStateCtx platform) (call : JointStateValue)
    (buffer : Bytes) : Except Fault Bytes :=
  zcdrSerializeJointState ctx call.stampSec call.stampNanosec call.positions call.velocities
    call.efforts buffer

structure JointStateCtx.Safe (ctx : JointStateCtx platform) (template : List Span) : Prop where
  disjoint : (template ++ ctx.dynamic).Pairwise Span.Disjoint
  bounded : ∀ span ∈ template ++ ctx.dynamic, span.stop ≤ ctx.payloadSize.toNat
  aligned : ctx.offsetPosition.toNat % 8 = 4 ∧ ctx.offsetVelocity.toNat % 8 = 4 ∧
    ctx.offsetEffort.toNat % 8 = 4
  serialize : ∀ (call : JointStateValue) (buffer : Bytes),
    ctx.payloadSize.toNat ≤ buffer.length → ∃ after, call.store ctx buffer = .ok after ∧
      Patched template ctx.payloadSize.toNat buffer after ∧
      (call.positions = none → Keeps buffer after (ctx.array ctx.offsetPosition)) ∧
      (call.velocities = none → Keeps buffer after (ctx.array ctx.offsetVelocity)) ∧
      (call.efforts = none → Keeps buffer after (ctx.array ctx.offsetEffort))
  history : ∀ (calls : List JointStateValue) (buffer : Bytes),
    ctx.payloadSize.toNat ≤ buffer.length →
      ∃ after, serializeCalls ctx calls buffer = .ok after ∧
        Patched template ctx.payloadSize.toNat buffer after
  deserialize : ∀ (bufferSize : platform.SizeT) (buffer : Bytes),
    buffer.length = bufferSize.toNat → ∀ out index size,
      zcdrDeserializeJointState ctx buffer bufferSize out ≠ .error (.load index size)
  refused : ∀ (bufferSize : platform.SizeT) (buffer : Bytes) out after,
    zcdrDeserializeJointState ctx buffer bufferSize out = .ok (false, after) → after = out

theorem JointStateCtx.Inside.mono {ctx : JointStateCtx platform} {length longer : Nat}
    (inside : ctx.Inside length) (order : length ≤ longer) : ctx.Inside longer :=
  ⟨inside.timestamp, inside.narrow, fun span member =>
    Nat.le_trans (inside.bounded span member) order⟩

theorem JointStateCtx.store_patches {ctx : JointStateCtx platform} {template : List Span}
    (disjoint : (template ++ ctx.dynamic).Pairwise Span.Disjoint)
    (inside : ctx.Inside ctx.payloadSize.toNat) (call : JointStateValue) {buffer : Bytes}
    (room : ctx.payloadSize.toNat ≤ buffer.length) :
    ∃ after, call.store ctx buffer = .ok after ∧
      Patched template ctx.payloadSize.toNat buffer after ∧
      (call.positions = none → Keeps buffer after (ctx.array ctx.offsetPosition)) ∧
      (call.velocities = none → Keeps buffer after (ctx.array ctx.offsetVelocity)) ∧
      (call.efforts = none → Keeps buffer after (ctx.array ctx.offsetEffort)) := by
  obtain ⟨after, stored, length, frame⟩ := zcdrSerializeJointState_within (inside.mono room)
    call.stampSec call.stampNanosec call.positions call.velocities call.efforts
  have offDynamic : ∀ index, (∀ span ∈ ctx.dynamic, ¬ span.Contains index) →
      after[index]? = buffer[index]? := by
    intro index outside
    simp only [JointStateCtx.dynamic, List.forall_mem_cons] at outside
    obtain ⟨offStamp, offPosition, offVelocity, offEffort, -⟩ := outside
    exact frame index offStamp (fun _ => offPosition) (fun _ => offVelocity) fun _ => offEffort
  -- An array that is NULL is apart from the stamp and from the other two.
  have dynamicApart := (List.pairwise_append.mp disjoint).2.1
  simp only [JointStateCtx.dynamic, List.pairwise_cons, List.forall_mem_cons] at dynamicApart
  obtain ⟨⟨stampPosition, stampVelocity, stampEffort, -⟩, ⟨positionVelocity, positionEffort, -⟩,
    ⟨velocityEffort, -⟩, -⟩ := dynamicApart
  refine ⟨after, stored, patched_of_frame length offDynamic disjoint inside.bounded, ?_, ?_, ?_⟩
  · intro null index here
    exact frame index (stampPosition.symm.not_contains here)
      (fun given => by rw [null] at given; contradiction)
      (fun _ => positionVelocity.not_contains here) fun _ => positionEffort.not_contains here
  · intro null index here
    exact frame index (stampVelocity.symm.not_contains here)
      (fun _ => positionVelocity.symm.not_contains here)
      (fun given => by rw [null] at given; contradiction)
      fun _ => velocityEffort.not_contains here
  · intro null index here
    exact frame index (stampEffort.symm.not_contains here)
      (fun _ => positionEffort.symm.not_contains here)
      (fun _ => velocityEffort.symm.not_contains here)
      fun given => by rw [null] at given; contradiction

theorem JointStateCtx.calls_patch {ctx : JointStateCtx platform} {template : List Span}
    (disjoint : (template ++ ctx.dynamic).Pairwise Span.Disjoint)
    (inside : ctx.Inside ctx.payloadSize.toNat) (calls : List JointStateValue) {buffer : Bytes}
    (room : ctx.payloadSize.toNat ≤ buffer.length) :
    ∃ after, serializeCalls ctx calls buffer = .ok after ∧
      Patched template ctx.payloadSize.toNat buffer after := by
  induction calls generalizing buffer with
  | nil => exact ⟨buffer, rfl, Patched.refl _ _ _⟩
  | cons call rest inductionHypothesis =>
      obtain ⟨next, stored, patched, _⟩ := store_patches disjoint inside call room
      obtain ⟨after, later, others⟩ := inductionHypothesis (by rw [patched.length]; exact room)
      exact ⟨after, bind_ok_iff.mpr ⟨next, stored, later⟩, patched.trans others⟩

theorem jointState_safe {frameId : Option CString} {jointNames : List CString}
    {numJoints : BitVec 32} (joints : jointNames.length = numJoints.toNat)
    (small : jointStateSize (OptionalString.value frameId) jointNames < 2 ^ 32)
    {outBuffer : Bytes}
    (room : jointStateSize (OptionalString.value frameId) jointNames ≤ outBuffer.length) :
    let template := jointStateTemplate platform (OptionalString.value frameId) jointNames numJoints
    ∃ (ctx : JointStateCtx platform) (after : Bytes),
      zcdrInitJointState frameId jointNames numJoints outBuffer = .ok (ctx, after) ∧
      ctx.payloadSize.toNat = jointStateSize (OptionalString.value frameId) jointNames ∧
      (∀ index, (∀ span ∈ template, ¬ span.Contains index) →
        after[index]? = outBuffer[index]?) ∧ ctx.Safe template := by
  obtain ⟨_, narrow, size⟩ := strings_of_small joints small
  have laid : jointStateLayout frameId jointNames numJoints =
      jointStateOffsets (OptionalString.value frameId) jointNames (8 * numJoints).toNat := by
    rw [jointStateLayout, ← joints, List.take_length]
  rw [← narrow] at size
  have addressable : (jointStateLayout frameId jointNames numJoints).payload <
      2 ^ platform.sizeBits := by
    rw [laid, ← size]
    exact platform.representable small
  obtain ⟨ctx, run⟩ := @zcdrInitJointState_ok platform frameId jointNames numJoints outBuffer
    (by rw [laid, ← size]; exact room) addressable
  have points := zcdrInitJointState_at run addressable
  rw [laid] at points
  obtain ⟨disjoint, bounded⟩ := jointState_spans narrow points
  have aligned := jointStateOffsets_aligned (OptionalString.value frameId) jointNames
    (8 * numJoints).toNat
  have inside : ctx.Inside ctx.payloadSize.toNat :=
    ⟨points.timestamp, by rw [points.numJoints, narrow], fun span member =>
      bounded span (List.mem_append_right _ member)⟩
  refine ⟨ctx, _, run, points.payload.trans size.symm, ?_, ?_⟩
  · intro index outside
    exact zcdrInitJointState_frame joints run addressable outside
  · refine
      { disjoint, bounded
        aligned := ?_
        serialize := fun call _ enough => JointStateCtx.store_patches disjoint inside call enough
        history := fun calls _ enough => JointStateCtx.calls_patch disjoint inside calls enough
        deserialize := fun _ _ sized => zcdrDeserializeJointState_within inside sized
        refused := fun _ _ _ _ => zcdrDeserializeJointState_refused }
    rw [points.position, points.velocity, points.effort]
    exact aligned

structure JointCommandValue where
  stampSec : BitVec 32
  stampNanosec : BitVec 32
  values : Option (List Double)
deriving Repr, DecidableEq

def JointCommandValue.store (ctx : JointCommandCtx platform) (call : JointCommandValue)
    (buffer : Bytes) : Except Fault Bytes :=
  zcdrSerializeJointCommand ctx call.stampSec call.stampNanosec call.values buffer

structure JointCommandCtx.Safe (ctx : JointCommandCtx platform) (template : List Span) : Prop where
  disjoint : (template ++ ctx.dynamic).Pairwise Span.Disjoint
  bounded : ∀ span ∈ template ++ ctx.dynamic, span.stop ≤ ctx.payloadSize.toNat
  aligned : ctx.offsetValues.toNat % 8 = 4
  serialize : ∀ (call : JointCommandValue) (buffer : Bytes),
    ctx.payloadSize.toNat ≤ buffer.length → ∃ after, call.store ctx buffer = .ok after ∧
      Patched template ctx.payloadSize.toNat buffer after ∧
      (call.values = none → Keeps buffer after ctx.array)
  history : ∀ (calls : List JointCommandValue) (buffer : Bytes),
    ctx.payloadSize.toNat ≤ buffer.length →
      ∃ after, calls.foldlM (fun buffer call => call.store ctx buffer) buffer = .ok after ∧
        Patched template ctx.payloadSize.toNat buffer after
  deserialize : ∀ (bufferSize : platform.SizeT) (buffer : Bytes),
    buffer.length = bufferSize.toNat → ∀ out index size,
      zcdrDeserializeJointCommand ctx buffer bufferSize out ≠ .error (.load index size)
  refused : ∀ (bufferSize : platform.SizeT) (buffer : Bytes) out after,
    zcdrDeserializeJointCommand ctx buffer bufferSize out = .ok (false, after) → after = out

theorem JointCommandCtx.Inside.mono {ctx : JointCommandCtx platform} {length longer : Nat}
    (inside : ctx.Inside length) (order : length ≤ longer) : ctx.Inside longer :=
  ⟨inside.timestamp, inside.narrow, fun span member =>
    Nat.le_trans (inside.bounded span member) order⟩

theorem JointCommandCtx.store_patches {ctx : JointCommandCtx platform} {template : List Span}
    (disjoint : (template ++ ctx.dynamic).Pairwise Span.Disjoint)
    (inside : ctx.Inside ctx.payloadSize.toNat) (call : JointCommandValue) {buffer : Bytes}
    (room : ctx.payloadSize.toNat ≤ buffer.length) :
    ∃ after, call.store ctx buffer = .ok after ∧
      Patched template ctx.payloadSize.toNat buffer after ∧
      (call.values = none → Keeps buffer after ctx.array) := by
  obtain ⟨after, stored, length, frame⟩ := zcdrSerializeJointCommand_within (inside.mono room)
    call.stampSec call.stampNanosec call.values
  have offDynamic : ∀ index, (∀ span ∈ ctx.dynamic, ¬ span.Contains index) →
      after[index]? = buffer[index]? := by
    intro index outside
    simp only [JointCommandCtx.dynamic, List.forall_mem_cons] at outside
    obtain ⟨offStamp, offValues, -⟩ := outside
    exact frame index offStamp fun _ => offValues
  have dynamicApart := (List.pairwise_append.mp disjoint).2.1
  simp only [JointCommandCtx.dynamic, List.pairwise_cons, List.forall_mem_cons] at dynamicApart
  obtain ⟨⟨stampValues, -⟩, -⟩ := dynamicApart
  refine ⟨after, stored, patched_of_frame length offDynamic disjoint inside.bounded, ?_⟩
  intro null index here
  exact frame index (stampValues.symm.not_contains here)
    fun given => by rw [null] at given; contradiction

theorem JointCommandCtx.calls_patch {ctx : JointCommandCtx platform} {template : List Span}
    (disjoint : (template ++ ctx.dynamic).Pairwise Span.Disjoint)
    (inside : ctx.Inside ctx.payloadSize.toNat) (calls : List JointCommandValue) {buffer : Bytes}
    (room : ctx.payloadSize.toNat ≤ buffer.length) :
    ∃ after, calls.foldlM (fun buffer call => call.store ctx buffer) buffer = .ok after ∧
      Patched template ctx.payloadSize.toNat buffer after := by
  induction calls generalizing buffer with
  | nil => exact ⟨buffer, rfl, Patched.refl _ _ _⟩
  | cons call rest inductionHypothesis =>
      obtain ⟨next, stored, patched, _⟩ := store_patches disjoint inside call room
      obtain ⟨after, later, others⟩ := inductionHypothesis (by rw [patched.length]; exact room)
      refine ⟨after, ?_, patched.trans others⟩
      rw [List.foldlM_cons]
      exact bind_ok_iff.mpr ⟨next, stored, later⟩

theorem jointCommand_safe {frameId : Option CString} {jointNames : List CString}
    {numJoints : BitVec 32} (joints : jointNames.length = numJoints.toNat)
    {interfaceName : Option CString}
    (small : jointCommandSize (OptionalString.value frameId) jointNames
      (OptionalString.value interfaceName) < 2 ^ 32) {outBuffer : Bytes}
    (room : jointCommandSize (OptionalString.value frameId) jointNames
      (OptionalString.value interfaceName) ≤ outBuffer.length) :
    let template := jointCommandTemplate platform (OptionalString.value frameId) jointNames
      (OptionalString.value interfaceName) numJoints
    ∃ (ctx : JointCommandCtx platform) (after : Bytes),
      zcdrInitJointCommand frameId jointNames numJoints interfaceName outBuffer =
        .ok (ctx, after) ∧
      ctx.payloadSize.toNat = jointCommandSize (OptionalString.value frameId) jointNames
        (OptionalString.value interfaceName) ∧
      (∀ index, (∀ span ∈ template, ¬ span.Contains index) →
        after[index]? = outBuffer[index]?) ∧ ctx.Safe template := by
  obtain ⟨narrow, size⟩ := commandStrings_of_small joints small
  have laid : jointCommandLayout frameId jointNames numJoints interfaceName =
      jointCommandOffsets (OptionalString.value frameId) jointNames
        (OptionalString.value interfaceName) (8 * numJoints).toNat := by
    rw [jointCommandLayout, ← joints, List.take_length]
  rw [← narrow] at size
  have addressable : (jointCommandLayout frameId jointNames numJoints interfaceName).payload <
      2 ^ platform.sizeBits := by
    rw [laid, ← size]
    exact platform.representable small
  obtain ⟨ctx, run⟩ := @zcdrInitJointCommand_ok platform frameId jointNames numJoints
    interfaceName outBuffer (by rw [laid, ← size]; exact room) addressable
  have points := zcdrInitJointCommand_at run addressable
  rw [laid] at points
  obtain ⟨disjoint, bounded⟩ := jointCommand_spans narrow points
  have inside : ctx.Inside ctx.payloadSize.toNat :=
    ⟨points.timestamp, by rw [points.numJoints, narrow], fun span member =>
      bounded span (List.mem_append_right _ member)⟩
  refine ⟨ctx, _, run, points.payload.trans size.symm, ?_, ?_⟩
  · intro index outside
    exact zcdrInitJointCommand_frame joints run addressable outside
  · refine
      { disjoint, bounded
        aligned := ?_
        serialize := fun call _ enough => JointCommandCtx.store_patches disjoint inside call enough
        history := fun calls _ enough => JointCommandCtx.calls_patch disjoint inside calls enough
        deserialize := fun _ _ sized => zcdrDeserializeJointCommand_within inside sized
        refused := fun _ _ _ _ => zcdrDeserializeJointCommand_refused }
    rw [points.values]
    exact jointCommandOffsets_aligned _ _ _ _

theorem layouts_safe (platform : Platform) (frameId interfaceName : Option CString)
    {jointNames : List CString} {numJoints : BitVec 32}
    (joints : jointNames.length = numJoints.toNat) (outBuffer : Bytes) :
    (jointStateSize (OptionalString.value frameId) jointNames < 2 ^ 32 →
      jointStateSize (OptionalString.value frameId) jointNames ≤ outBuffer.length →
      let template := jointStateTemplate platform (OptionalString.value frameId) jointNames
        numJoints
      ∃ (ctx : JointStateCtx platform) (after : Bytes),
        zcdrInitJointState frameId jointNames numJoints outBuffer = .ok (ctx, after) ∧
        ctx.payloadSize.toNat = jointStateSize (OptionalString.value frameId) jointNames ∧
        (∀ index, (∀ span ∈ template, ¬ span.Contains index) →
          after[index]? = outBuffer[index]?) ∧ ctx.Safe template) ∧
    (jointCommandSize (OptionalString.value frameId) jointNames
        (OptionalString.value interfaceName) < 2 ^ 32 →
      jointCommandSize (OptionalString.value frameId) jointNames
        (OptionalString.value interfaceName) ≤ outBuffer.length →
      let template := jointCommandTemplate platform (OptionalString.value frameId) jointNames
        (OptionalString.value interfaceName) numJoints
      ∃ (ctx : JointCommandCtx platform) (after : Bytes),
        zcdrInitJointCommand frameId jointNames numJoints interfaceName outBuffer =
          .ok (ctx, after) ∧
        ctx.payloadSize.toNat = jointCommandSize (OptionalString.value frameId) jointNames
          (OptionalString.value interfaceName) ∧
        (∀ index, (∀ span ∈ template, ¬ span.Contains index) →
          after[index]? = outBuffer[index]?) ∧ ctx.Safe template) :=
  ⟨fun small room => jointState_safe joints small room,
    fun small room => jointCommand_safe joints small room⟩

theorem layouts_safe_one_joint :
    (∃ (ctx : JointStateCtx Platform.host64) (after : Bytes),
      zcdrInitJointState none [jointA] 1 (List.replicate 128 0) = .ok (ctx, after) ∧
      ctx.Safe (jointStateTemplate Platform.host64 CString.empty [jointA] 1)) ∧
    ∃ (ctx : JointCommandCtx Platform.host64) (after : Bytes),
      zcdrInitJointCommand none [jointA] 1 none (List.replicate 128 0) = .ok (ctx, after) ∧
      ctx.Safe (jointCommandTemplate Platform.host64 CString.empty [jointA] CString.empty 1) := by
  have joints : [jointA].length = (1 : BitVec 32).toNat := rfl
  obtain ⟨state, command⟩ :=
    layouts_safe Platform.host64 none none joints (List.replicate 128 0)
  obtain ⟨stateCtx, stateAfter, stateRun, _, _, stateSafe⟩ := state (by decide)
    (by rw [List.length_replicate]; decide)
  obtain ⟨ctx, after, run, _, _, safe⟩ := command (by decide)
    (by rw [List.length_replicate]; decide)
  exact ⟨⟨stateCtx, stateAfter, stateRun, stateSafe⟩, ctx, after, run, safe⟩

end Zenbedded.Transport
