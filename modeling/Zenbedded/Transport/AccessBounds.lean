import Zenbedded.Foundation.Spans
import Zenbedded.Transport.Conformance

namespace Zenbedded.Transport

open Zenbedded.Foundation Zenbedded.Foundation.Cdr

/-! # What the serializers touch

The context of a layout points at the stamp and at the arrays; everything else
that the layout pass stored is its template.  The functions that only copy at
these offsets rely on the two being apart.
-/

variable {platform : Platform}

def Keeps (before after : Bytes) (span : Span) : Prop :=
  ∀ index, span.Contains index → after[index]? = before[index]?

theorem storeBytes_within (buffer source : Bytes) (start : Nat)
    (room : start + source.length ≤ buffer.length) :
    ∃ after, storeBytes buffer start source = .ok after ∧ after.length = buffer.length ∧
      ∀ index, ¬ (⟨start, source.length⟩ : Span).Contains index →
        after[index]? = buffer[index]? := by
  refine ⟨_, storeBytes_ok room, overwrite_length room, ?_⟩
  intro index outside
  exact overwrite_getElem?_of_outside room outside

/-- A NULL array is not copied, any other one at most as far as the context says. -/
theorem copyIn_within (buffer : Bytes) (offset count : platform.SizeT)
    (room : offset.toNat + count.toNat ≤ buffer.length) (values : Option (List Double)) :
    ∃ after, copyIn buffer offset count values = .ok after ∧ after.length = buffer.length ∧
      ∀ index, (values.isSome = true →
        ¬ (⟨offset.toNat, count.toNat⟩ : Span).Contains index) → after[index]? = buffer[index]? := by
  cases values with
  | none => exact ⟨buffer, rfl, rfl, fun _ _ => rfl⟩
  | some array =>
      have short : ((arrayBytes array).take count.toNat).length ≤ count.toNat :=
        List.length_take_le _ _
      obtain ⟨after, stored, length, frame⟩ := storeBytes_within buffer
        ((arrayBytes array).take count.toNat) offset.toNat (by omega)
      refine ⟨after, stored, length, ?_⟩
      intro index outside
      refine frame index fun inside => outside rfl ⟨inside.1, ?_⟩
      exact Nat.lt_of_lt_of_le inside.2 (Nat.add_le_add_left short _)

theorem copyOutWord_within (buffer : Bytes) (offset : platform.SizeT)
    (room : offset.toNat + 4 ≤ buffer.length) (out : Option (BitVec 32)) :
    ∃ loaded, copyOutWord buffer offset out = .ok loaded := by
  cases out with
  | none => exact ⟨none, rfl⟩
  | some old =>
      rw [copyOutWord, loadBytes_ok room]
      exact ⟨_, rfl⟩

theorem bind_ne_error {first : Except Fault α} {next : α → Except Fault β} {fault : Fault}
    (here : first ≠ .error fault) (later : ∀ value, next value ≠ .error fault) :
    first >>= next ≠ .error fault := by
  cases first with
  | error other =>
      intro failed
      cases failed
      exact here rfl
  | ok value => exact later value

theorem copyOut_ne_load {buffer : Bytes} {offset count : platform.SizeT}
    (room : offset.toNat + count.toNat ≤ buffer.length) (out : Option (List Double))
    (index size : Nat) : copyOut buffer offset count out ≠ .error (.load index size) := by
  cases out with
  | none => exact fun failed => by contradiction
  | some old =>
      rw [copyOut, loadBytes_ok room]
      refine bind_ne_error (fun failed => by contradiction) fun bytes => ?_
      exact bind_ne_error storeBytes_ne_load fun new failed => by contradiction

theorem storeStamp_within {buffer : Bytes} {offset : platform.SizeT}
    (timestamp : offset.toNat = cdrHeaderSize) (room : offset.toNat + 8 ≤ buffer.length)
    (stampSec stampNanosec : BitVec 32) :
    ∃ first after, storeBytes buffer offset.toNat (wordBytes stampSec) = .ok first ∧
      storeBytes first (offset + 4).toNat (wordBytes stampNanosec) = .ok after ∧
      after.length = buffer.length ∧
      ∀ index, ¬ (⟨offset.toNat, 8⟩ : Span).Contains index → after[index]? = buffer[index]? := by
  rw [stampOffset_add_four timestamp]
  rw [timestamp, cdrHeaderSize] at room ⊢
  obtain ⟨first, secStored, secLength, secFrame⟩ := storeBytes_within buffer
    (wordBytes stampSec) 4 (by rw [wordBytes_length]; omega)
  obtain ⟨after, nanosecStored, nanosecLength, nanosecFrame⟩ := storeBytes_within
    first (wordBytes stampNanosec) 8
    (by rw [wordBytes_length, secLength]; omega)
  refine ⟨first, after, secStored, nanosecStored, nanosecLength.trans secLength, ?_⟩
  intro index outside
  simp only [Span.Contains, Span.stop] at outside
  rw [wordBytes_length] at secFrame nanosecFrame
  rw [nanosecFrame index ?_, secFrame index ?_]
  · intro inWord
    obtain ⟨lower, upper⟩ := inWord
    simp only [Span.stop] at lower upper
    omega
  · intro inWord
    obtain ⟨lower, upper⟩ := inWord
    simp only [Span.stop] at lower upper
    omega

theorem loadStamp_within (buffer : Bytes) {offset : platform.SizeT}
    (timestamp : offset.toNat = cdrHeaderSize) (room : offset.toNat + 8 ≤ buffer.length)
    (sec nanosec : Option (BitVec 32)) :
    ∃ secLoaded nanosecLoaded, copyOutWord buffer offset sec = .ok secLoaded ∧
      copyOutWord buffer (offset + 4) nanosec = .ok nanosecLoaded := by
  obtain ⟨secLoaded, first⟩ := copyOutWord_within buffer offset
    (by omega) sec
  obtain ⟨nanosecLoaded, second⟩ := copyOutWord_within buffer (offset + 4)
    (by
      rw [stampOffset_add_four timestamp]
      rw [timestamp, cdrHeaderSize] at room
      omega)
    nanosec
  exact ⟨secLoaded, nanosecLoaded, first, second⟩

theorem countEnd_aligned (position : Nat) : (cdrHeaderSize + countEnd position) % 8 = 4 := by
  have whole : 8 ∣ countEnd position := alignTo_dvd (by decide) _
  rw [cdrHeaderSize]
  omega

theorem skipped_array (numJoints : BitVec 32) (position : Nat) :
    Layout.skipped cdrHeaderSize ([.skip (arraySize numJoints)] : LayoutOps platform) position =
      [⟨cdrHeaderSize + position, (8 * numJoints).toNat⟩] := by
  simp only [Layout.skipped, Layout.Op.skipped, arraySize_toNat]
  rfl

theorem spans_behind_header (pass : LayoutOps platform) :
    let spans := ⟨0, cdrHeaderSize⟩ :: Layout.stored cdrHeaderSize pass 0 ++
      Layout.skipped cdrHeaderSize pass 0
    spans.Pairwise Span.Disjoint ∧
      ∀ span ∈ spans, span.stop ≤ cdrHeaderSize + Layout.endsAt pass 0 := by
  refine ⟨List.Pairwise.cons ?_ (Layout.spans_disjoint cdrHeaderSize pass 0), ?_⟩
  · intro span member
    exact Or.inl (Layout.span_within member).1
  · intro span member
    rcases List.mem_cons.mp member with isHeader | behind
    · rw [isHeader]
      exact Nat.le_add_right _ _
    · exact (Layout.span_within behind).2

/-- Header and pass change only what they store to. -/
theorem pass_frame {pass : LayoutOps platform} {outBuffer : Bytes} {header after : Out platform}
    (headerRun : layout [.put encapsulation] ⟨outBuffer, 0⟩ = .ok header)
    (run : layout pass header = .ok after)
    (bounded : cdrHeaderSize + Layout.endsAt pass 0 < 2 ^ platform.sizeBits) {index : Nat}
    (outside : ∀ span ∈ (⟨0, cdrHeaderSize⟩ :: Layout.stored cdrHeaderSize pass 0 : List Span),
      ¬ span.Contains index) : after.buffer[index]? = outBuffer[index]? := by
  have room := header_room headerRun
  rw [header_ok room] at headerRun
  cases headerRun
  rw [Layout.exec_frame (header_cursor outBuffer) bounded run fun span member =>
    outside span (List.mem_cons_of_mem _ member)]
  exact overwrite_getElem?_of_outside (by simpa [encapsulation, cdrHeaderSize] using room)
    (outside _ (List.mem_cons_self ..))

/-- Behind the encapsulation header, everything in one pass. -/
def jointStatePass (platform : Platform) (frameId : CString) (jointNames : List CString)
    (numJoints : BitVec 32) : LayoutOps platform :=
  (.skip 8 :: jointStateOps frameId jointNames numJoints) ++
    (nextArrayOps numJoints ++ (nextArrayOps numJoints ++ [.skip (arraySize numJoints)]))

/-- The header, and each length, string and count that the layout pass stores. -/
def jointStateTemplate (platform : Platform) (frameId : CString) (jointNames : List CString)
    (numJoints : BitVec 32) : List Span :=
  ⟨0, cdrHeaderSize⟩ ::
    Layout.stored cdrHeaderSize (jointStatePass platform frameId jointNames numJoints) 0

namespace JointStateCtx

def stamp (ctx : JointStateCtx platform) : Span := ⟨ctx.offsetTimestamp.toNat, 8⟩

def array (ctx : JointStateCtx platform) (offset : platform.SizeT) : Span :=
  ⟨offset.toNat, 8 * ctx.numJoints.toNat⟩

/-- What the serializer stores to. -/
def dynamic (ctx : JointStateCtx platform) : List Span :=
  [ctx.stamp, ctx.array ctx.offsetPosition, ctx.array ctx.offsetVelocity,
    ctx.array ctx.offsetEffort]

end JointStateCtx

theorem skipped_names (names : List CString) (position : Nat) :
    Layout.skipped cdrHeaderSize (names.flatMap nameOps : LayoutOps platform) position = [] := by
  induction names generalizing position with
  | nil => rfl
  | cons name rest inductionHypothesis =>
      rw [List.flatMap_cons, Layout.skipped_append, inductionHypothesis, List.append_nil]
      rfl

theorem skipped_headOps (frameId : CString) (jointNames : List CString) (numJoints : BitVec 32)
    (position : Nat) :
    Layout.skipped cdrHeaderSize (headOps frameId jointNames numJoints : LayoutOps platform)
      position = [] := by
  rw [headOps, Layout.skipped_append, Layout.skipped_append, skipped_names]
  rfl

theorem skipped_nextArrayOps (numJoints : BitVec 32) (position : Nat) :
    Layout.skipped cdrHeaderSize (nextArrayOps numJoints : LayoutOps platform) position =
      [⟨cdrHeaderSize + position, (8 * numJoints).toNat⟩] := by
  simp only [nextArrayOps, Layout.skipped, Layout.Op.skipped, arraySize_toNat]
  rfl

theorem endsAt_jointStatePass (frameId : CString) (jointNames : List CString)
    (numJoints : BitVec 32) :
    cdrHeaderSize + Layout.endsAt (jointStatePass platform frameId jointNames numJoints) 0 =
      (jointStateOffsets frameId jointNames (8 * numJoints).toNat).payload := by
  simp only [jointStatePass, Layout.endsAt_append, endsAt_skip_eight, endsAt_jointStateOps,
    endsAt_nextArrayOps, endsAt_skip_array, jointStateOffsets, Nat.add_assoc]

theorem skipped_jointStatePass {ctx : JointStateCtx platform} {frameId : CString}
    {jointNames : List CString} {numJoints : BitVec 32}
    (narrow : (8 * numJoints).toNat = 8 * numJoints.toNat)
    (points : ctx.At numJoints (jointStateOffsets frameId jointNames (8 * numJoints).toNat)) :
    Layout.skipped cdrHeaderSize (jointStatePass platform frameId jointNames numJoints) 0 =
      ctx.dynamic := by
  have eight : (8 : platform.SizeT).toNat = 8 :=
    Layout.toNat_ofNat_of_lt 8 (platform.representable (by decide))
  have head (position : Nat) : Layout.skipped cdrHeaderSize
      (jointStateOps frameId jointNames numJoints : LayoutOps platform) position = [] := by
    rw [jointStateOps, Layout.skipped_append, skipped_headOps]
    rfl
  have first : Layout.skipped cdrHeaderSize
      (.skip 8 :: jointStateOps frameId jointNames numJoints : LayoutOps platform) 0 =
        [⟨cdrHeaderSize, 8⟩] := by
    rw [Layout.skipped, head, Layout.Op.skipped, eight]
    rfl
  obtain ⟨joints, timestamp, position, velocity, effort, -⟩ := points
  simp only [jointStateOffsets] at position velocity effort
  rw [jointStatePass, Layout.skipped_append, first, Layout.skipped_append, Layout.skipped_append]
  simp only [skipped_nextArrayOps, skipped_array, endsAt_skip_eight, endsAt_jointStateOps,
    endsAt_nextArrayOps, JointStateCtx.dynamic, JointStateCtx.stamp, JointStateCtx.array, joints,
    timestamp, position, velocity, effort, narrow, List.cons_append, List.nil_append]

/-- The spans of a layout whose size does not wrap. -/
theorem jointState_spans {ctx : JointStateCtx platform} {frameId : CString}
    {jointNames : List CString} {numJoints : BitVec 32}
    (narrow : (8 * numJoints).toNat = 8 * numJoints.toNat)
    (points : ctx.At numJoints (jointStateOffsets frameId jointNames (8 * numJoints).toNat)) :
    let spans := jointStateTemplate platform frameId jointNames numJoints ++ ctx.dynamic
    spans.Pairwise Span.Disjoint ∧ ∀ span ∈ spans, span.stop ≤ ctx.payloadSize.toNat := by
  have spans := spans_behind_header (jointStatePass platform frameId jointNames numJoints)
  rw [skipped_jointStatePass narrow points, endsAt_jointStatePass, ← points.payload] at spans
  exact spans

theorem jointStateOffsets_aligned (frameId : CString) (jointNames : List CString) (array : Nat) :
    let offsets := jointStateOffsets frameId jointNames array
    offsets.position % 8 = 4 ∧ offsets.velocity % 8 = 4 ∧ offsets.effort % 8 = 4 :=
  ⟨countEnd_aligned _, countEnd_aligned _, countEnd_aligned _⟩

/-- The layout pass changes only its template. -/
theorem zcdrInitJointState_frame {frameId : Option CString} {jointNames : List CString}
    {numJoints : BitVec 32} (joints : jointNames.length = numJoints.toNat)
    {outBuffer after : Bytes} {ctx : JointStateCtx platform}
    (run : zcdrInitJointState frameId jointNames numJoints outBuffer = .ok (ctx, after))
    (bounded : (jointStateLayout frameId jointNames numJoints).payload < 2 ^ platform.sizeBits)
    {index : Nat} (outside : ∀ span ∈ jointStateTemplate platform (OptionalString.value frameId)
      jointNames numJoints, ¬ span.Contains index) : after[index]? = outBuffer[index]? := by
  have all : jointNames.take numJoints.toNat = jointNames := by
    rw [← joints, List.take_length]
  rw [zcdrInitJointState_layout, all] at run
  obtain ⟨header, headerRun, run⟩ := bind_ok_iff.mp run
  obtain ⟨position, positionRun, run⟩ := bind_ok_iff.mp run
  obtain ⟨velocity, velocityRun, run⟩ := bind_ok_iff.mp run
  obtain ⟨effort, effortRun, run⟩ := bind_ok_iff.mp run
  obtain ⟨payload, payloadRun, run⟩ := bind_ok_iff.mp run
  cases run
  have pass : layout (jointStatePass platform (OptionalString.value frameId) jointNames numJoints)
      header = .ok payload := by
    rw [jointStatePass, layout_append]
    refine bind_ok_iff.mpr ⟨position, positionRun, ?_⟩
    rw [layout_append]
    refine bind_ok_iff.mpr ⟨velocity, velocityRun, ?_⟩
    rw [layout_append]
    exact bind_ok_iff.mpr ⟨effort, effortRun, payloadRun⟩
  refine pass_frame headerRun pass ?_ outside
  rw [endsAt_jointStatePass]
  rw [jointStateLayout, all] at bounded
  exact bounded

/-- Words that are stored and loaded in an array of `length` bytes stay inside it. -/
structure JointStateCtx.Inside (ctx : JointStateCtx platform) (length : Nat) : Prop where
  timestamp : ctx.offsetTimestamp.toNat = cdrHeaderSize
  narrow : (8 * ctx.numJoints).toNat = 8 * ctx.numJoints.toNat
  bounded : ∀ span ∈ ctx.dynamic, span.stop ≤ length

theorem zcdrSerializeJointState_within {ctx : JointStateCtx platform} {buffer : Bytes}
    (inside : ctx.Inside buffer.length) (stampSec stampNanosec : BitVec 32)
    (positions velocities efforts : Option (List Double)) :
    ∃ after, zcdrSerializeJointState ctx stampSec stampNanosec positions velocities efforts
        buffer = .ok after ∧ after.length = buffer.length ∧
      ∀ index, ¬ ctx.stamp.Contains index →
        (positions.isSome = true → ¬ (ctx.array ctx.offsetPosition).Contains index) →
        (velocities.isSome = true → ¬ (ctx.array ctx.offsetVelocity).Contains index) →
        (efforts.isSome = true → ¬ (ctx.array ctx.offsetEffort).Contains index) →
        after[index]? = buffer[index]? := by
  obtain ⟨timestamp, narrow, bounded⟩ := inside
  have size : (arraySize ctx.numJoints : platform.SizeT).toNat = 8 * ctx.numJoints.toNat := by
    rw [arraySize_toNat, narrow]
  simp only [JointStateCtx.dynamic, List.forall_mem_cons, JointStateCtx.stamp,
    JointStateCtx.array, Span.stop] at bounded
  obtain ⟨stampRoom, positionRoom, velocityRoom, effortRoom, -⟩ := bounded
  obtain ⟨first, second, secStored, nanosecStored, stampLength, stampFrame⟩ :=
    storeStamp_within timestamp stampRoom stampSec stampNanosec
  obtain ⟨third, positionStored, positionLength, positionFrame⟩ := copyIn_within
    second ctx.offsetPosition (arraySize ctx.numJoints)
    (by rw [size, stampLength]; exact positionRoom) positions
  obtain ⟨fourth, velocityStored, velocityLength, velocityFrame⟩ := copyIn_within
    third ctx.offsetVelocity (arraySize ctx.numJoints)
    (by rw [size, positionLength, stampLength]; exact velocityRoom) velocities
  obtain ⟨after, effortStored, effortLength, effortFrame⟩ := copyIn_within
    fourth ctx.offsetEffort (arraySize ctx.numJoints)
    (by rw [size, velocityLength, positionLength, stampLength]; exact effortRoom)
    efforts
  refine ⟨after, ?_, ?_, ?_⟩
  · simp only [zcdrSerializeJointState, secStored, nanosecStored, positionStored, velocityStored,
      effortStored, bind, Except.bind]
  · rw [effortLength, velocityLength, positionLength, stampLength]
  · intro index offStamp offPosition offVelocity offEffort
    rw [size] at positionFrame velocityFrame effortFrame
    rw [effortFrame index offEffort, velocityFrame index offVelocity,
      positionFrame index offPosition, stampFrame index offStamp]

theorem zcdrDeserializeJointState_within {ctx : JointStateCtx platform} {buffer : Bytes}
    (inside : ctx.Inside ctx.payloadSize.toNat) {bufferSize : platform.SizeT}
    (sized : buffer.length = bufferSize.toNat) (out : JointStateOut) (index size : Nat) :
    zcdrDeserializeJointState ctx buffer bufferSize out ≠ .error (.load index size) := by
  obtain ⟨timestamp, narrow, bounded⟩ := inside
  have bytes : (arraySize ctx.numJoints : platform.SizeT).toNat = 8 * ctx.numJoints.toNat := by
    rw [arraySize_toNat, narrow]
  simp only [JointStateCtx.dynamic, List.forall_mem_cons, JointStateCtx.stamp,
    JointStateCtx.array, Span.stop] at bounded
  obtain ⟨stampRoom, positionRoom, velocityRoom, effortRoom, -⟩ := bounded
  unfold zcdrDeserializeJointState
  split
  · exact fun failed => by contradiction
  · rename_i accepted
    rw [BitVec.lt_def, Nat.not_lt] at accepted
    obtain ⟨sec, nanosec, secLoaded, nanosecLoaded⟩ := loadStamp_within buffer
      timestamp (by omega) out.stampSec out.stampNanosec
    rw [secLoaded, nanosecLoaded]
    refine bind_ne_error (fun failed => by contradiction) fun _ => ?_
    refine bind_ne_error (fun failed => by contradiction) fun _ => ?_
    refine bind_ne_error (copyOut_ne_load (by omega) _ _ _) fun _ => ?_
    refine bind_ne_error (copyOut_ne_load (by omega) _ _ _) fun _ => ?_
    refine bind_ne_error (copyOut_ne_load (by omega) _ _ _) fun _ => ?_
    exact fun failed => by contradiction

theorem zcdrDeserializeJointState_refused {ctx : JointStateCtx platform} {buffer : Bytes}
    {bufferSize : platform.SizeT} {out after : JointStateOut}
    (refused : zcdrDeserializeJointState ctx buffer bufferSize out = .ok (false, after)) :
    after = out := by
  unfold zcdrDeserializeJointState at refused
  split at refused
  · cases refused
    rfl
  · obtain ⟨_, -, refused⟩ := bind_ok_iff.mp refused
    obtain ⟨_, -, refused⟩ := bind_ok_iff.mp refused
    obtain ⟨_, -, refused⟩ := bind_ok_iff.mp refused
    obtain ⟨_, -, refused⟩ := bind_ok_iff.mp refused
    obtain ⟨_, -, refused⟩ := bind_ok_iff.mp refused
    cases refused

def jointCommandPass (platform : Platform) (frameId : CString) (jointNames : List CString)
    (interfaceName : CString) (numJoints : BitVec 32) : LayoutOps platform :=
  (.skip 8 :: jointCommandOps frameId jointNames interfaceName numJoints) ++
    [.skip (arraySize numJoints)]

/-- The header, and each length, string and count that the layout pass stores. -/
def jointCommandTemplate (platform : Platform) (frameId : CString) (jointNames : List CString)
    (interfaceName : CString) (numJoints : BitVec 32) : List Span :=
  ⟨0, cdrHeaderSize⟩ :: Layout.stored cdrHeaderSize
    (jointCommandPass platform frameId jointNames interfaceName numJoints) 0

namespace JointCommandCtx

def stamp (ctx : JointCommandCtx platform) : Span := ⟨ctx.offsetTimestamp.toNat, 8⟩

def array (ctx : JointCommandCtx platform) : Span :=
  ⟨ctx.offsetValues.toNat, 8 * ctx.numJoints.toNat⟩

/-- What the serializer stores to. -/
def dynamic (ctx : JointCommandCtx platform) : List Span := [ctx.stamp, ctx.array]

end JointCommandCtx

theorem endsAt_jointCommandPass (frameId : CString) (jointNames : List CString)
    (interfaceName : CString) (numJoints : BitVec 32) :
    cdrHeaderSize + Layout.endsAt
        (jointCommandPass platform frameId jointNames interfaceName numJoints) 0 =
      (jointCommandOffsets frameId jointNames interfaceName (8 * numJoints).toNat).payload := by
  simp only [jointCommandPass, Layout.endsAt_append, endsAt_skip_eight, endsAt_jointCommandOps,
    endsAt_skip_array, jointCommandOffsets, Nat.add_assoc]

theorem skipped_jointCommandPass {ctx : JointCommandCtx platform} {frameId : CString}
    {jointNames : List CString} {interfaceName : CString} {numJoints : BitVec 32}
    (narrow : (8 * numJoints).toNat = 8 * numJoints.toNat)
    (points : ctx.At numJoints
      (jointCommandOffsets frameId jointNames interfaceName (8 * numJoints).toNat)) :
    Layout.skipped cdrHeaderSize
      (jointCommandPass platform frameId jointNames interfaceName numJoints) 0 = ctx.dynamic := by
  have eight : (8 : platform.SizeT).toNat = 8 :=
    Layout.toNat_ofNat_of_lt 8 (platform.representable (by decide))
  have head (position : Nat) : Layout.skipped cdrHeaderSize
      (jointCommandOps frameId jointNames interfaceName numJoints : LayoutOps platform)
        position = [] := by
    rw [jointCommandOps, Layout.skipped_append, Layout.skipped_append, skipped_headOps]
    rfl
  have first : Layout.skipped cdrHeaderSize (.skip 8 ::
      jointCommandOps frameId jointNames interfaceName numJoints : LayoutOps platform) 0 =
        [⟨cdrHeaderSize, 8⟩] := by
    rw [Layout.skipped, head, Layout.Op.skipped, eight]
    rfl
  obtain ⟨joints, timestamp, values, -⟩ := points
  simp only [jointCommandOffsets] at values
  rw [jointCommandPass, Layout.skipped_append, first]
  simp only [skipped_array, endsAt_skip_eight, endsAt_jointCommandOps, JointCommandCtx.dynamic,
    JointCommandCtx.stamp, JointCommandCtx.array, joints, timestamp, values, narrow,
    List.cons_append, List.nil_append]

theorem jointCommand_spans {ctx : JointCommandCtx platform} {frameId : CString}
    {jointNames : List CString} {interfaceName : CString} {numJoints : BitVec 32}
    (narrow : (8 * numJoints).toNat = 8 * numJoints.toNat)
    (points : ctx.At numJoints
      (jointCommandOffsets frameId jointNames interfaceName (8 * numJoints).toNat)) :
    let spans := jointCommandTemplate platform frameId jointNames interfaceName numJoints ++
      ctx.dynamic
    spans.Pairwise Span.Disjoint ∧ ∀ span ∈ spans, span.stop ≤ ctx.payloadSize.toNat := by
  have spans := spans_behind_header
    (jointCommandPass platform frameId jointNames interfaceName numJoints)
  rw [skipped_jointCommandPass narrow points, endsAt_jointCommandPass, ← points.payload] at spans
  exact spans

theorem jointCommandOffsets_aligned (frameId : CString) (jointNames : List CString)
    (interfaceName : CString) (array : Nat) :
    (jointCommandOffsets frameId jointNames interfaceName array).values % 8 = 4 :=
  countEnd_aligned _

theorem zcdrInitJointCommand_frame {frameId : Option CString} {jointNames : List CString}
    {numJoints : BitVec 32} (joints : jointNames.length = numJoints.toNat)
    {interfaceName : Option CString} {outBuffer after : Bytes} {ctx : JointCommandCtx platform}
    (run : zcdrInitJointCommand frameId jointNames numJoints interfaceName outBuffer =
      .ok (ctx, after))
    (bounded : (jointCommandLayout frameId jointNames numJoints interfaceName).payload <
      2 ^ platform.sizeBits)
    {index : Nat} (outside : ∀ span ∈ jointCommandTemplate platform (OptionalString.value frameId)
      jointNames (OptionalString.value interfaceName) numJoints, ¬ span.Contains index) :
    after[index]? = outBuffer[index]? := by
  have all : jointNames.take numJoints.toNat = jointNames := by
    rw [← joints, List.take_length]
  rw [zcdrInitJointCommand_layout, all] at run
  obtain ⟨header, headerRun, run⟩ := bind_ok_iff.mp run
  obtain ⟨values, valuesRun, run⟩ := bind_ok_iff.mp run
  obtain ⟨payload, payloadRun, run⟩ := bind_ok_iff.mp run
  cases run
  have pass : layout (jointCommandPass platform (OptionalString.value frameId) jointNames
      (OptionalString.value interfaceName) numJoints) header = .ok payload := by
    rw [jointCommandPass, layout_append]
    exact bind_ok_iff.mpr ⟨values, valuesRun, payloadRun⟩
  refine pass_frame headerRun pass ?_ outside
  rw [endsAt_jointCommandPass]
  rw [jointCommandLayout, all] at bounded
  exact bounded

/-- Words that are stored and loaded in an array of `length` bytes stay inside it. -/
structure JointCommandCtx.Inside (ctx : JointCommandCtx platform) (length : Nat) : Prop where
  timestamp : ctx.offsetTimestamp.toNat = cdrHeaderSize
  narrow : (8 * ctx.numJoints).toNat = 8 * ctx.numJoints.toNat
  bounded : ∀ span ∈ ctx.dynamic, span.stop ≤ length

theorem zcdrSerializeJointCommand_within {ctx : JointCommandCtx platform} {buffer : Bytes}
    (inside : ctx.Inside buffer.length) (stampSec stampNanosec : BitVec 32)
    (values : Option (List Double)) :
    ∃ after, zcdrSerializeJointCommand ctx stampSec stampNanosec values buffer = .ok after ∧
      after.length = buffer.length ∧
      ∀ index, ¬ ctx.stamp.Contains index →
        (values.isSome = true → ¬ ctx.array.Contains index) → after[index]? = buffer[index]? := by
  obtain ⟨timestamp, narrow, bounded⟩ := inside
  have size : (arraySize ctx.numJoints : platform.SizeT).toNat = 8 * ctx.numJoints.toNat := by
    rw [arraySize_toNat, narrow]
  simp only [JointCommandCtx.dynamic, List.forall_mem_cons, JointCommandCtx.stamp,
    JointCommandCtx.array, Span.stop] at bounded
  obtain ⟨stampRoom, valuesRoom, -⟩ := bounded
  obtain ⟨first, second, secStored, nanosecStored, stampLength, stampFrame⟩ :=
    storeStamp_within timestamp stampRoom stampSec stampNanosec
  obtain ⟨after, valuesStored, valuesLength, valuesFrame⟩ := copyIn_within
    second ctx.offsetValues (arraySize ctx.numJoints)
    (by rw [size, stampLength]; exact valuesRoom) values
  rw [size] at valuesFrame
  refine ⟨after, ?_, valuesLength.trans stampLength, ?_⟩
  · simp only [zcdrSerializeJointCommand, secStored, nanosecStored, valuesStored, bind, Except.bind]
  · intro index offStamp offValues
    rw [valuesFrame index offValues, stampFrame index offStamp]

theorem zcdrDeserializeJointCommand_within {ctx : JointCommandCtx platform} {buffer : Bytes}
    (inside : ctx.Inside ctx.payloadSize.toNat) {bufferSize : platform.SizeT}
    (sized : buffer.length = bufferSize.toNat) (out : JointCommandOut) (index size : Nat) :
    zcdrDeserializeJointCommand ctx buffer bufferSize out ≠ .error (.load index size) := by
  obtain ⟨timestamp, narrow, bounded⟩ := inside
  have bytes : (arraySize ctx.numJoints : platform.SizeT).toNat = 8 * ctx.numJoints.toNat := by
    rw [arraySize_toNat, narrow]
  simp only [JointCommandCtx.dynamic, List.forall_mem_cons, JointCommandCtx.stamp,
    JointCommandCtx.array, Span.stop] at bounded
  obtain ⟨stampRoom, valuesRoom, -⟩ := bounded
  unfold zcdrDeserializeJointCommand
  split
  · exact fun failed => by contradiction
  · rename_i accepted
    rw [BitVec.lt_def, Nat.not_lt] at accepted
    obtain ⟨sec, nanosec, secLoaded, nanosecLoaded⟩ := loadStamp_within buffer
      timestamp (by omega) out.stampSec out.stampNanosec
    rw [secLoaded, nanosecLoaded]
    refine bind_ne_error (fun failed => by contradiction) fun _ => ?_
    refine bind_ne_error (fun failed => by contradiction) fun _ => ?_
    refine bind_ne_error (copyOut_ne_load (by omega) _ _ _) fun _ => ?_
    exact fun failed => by contradiction

theorem zcdrDeserializeJointCommand_refused {ctx : JointCommandCtx platform} {buffer : Bytes}
    {bufferSize : platform.SizeT} {out after : JointCommandOut}
    (refused : zcdrDeserializeJointCommand ctx buffer bufferSize out = .ok (false, after)) :
    after = out := by
  unfold zcdrDeserializeJointCommand at refused
  split at refused
  · cases refused
    rfl
  · obtain ⟨_, -, refused⟩ := bind_ok_iff.mp refused
    obtain ⟨_, -, refused⟩ := bind_ok_iff.mp refused
    obtain ⟨_, -, refused⟩ := bind_ok_iff.mp refused
    cases refused

end Zenbedded.Transport
