import Zenbedded.Transport.ReadBack
import Zenbedded.Transport.History

namespace Zenbedded.Transport

open Zenbedded.Foundation Zenbedded.Foundation.Cdr

/-! # Serialized JointState payloads are CDR

A zero-filled buffer that went through `zcdrInitJointState` and any history of
serializer calls is read by the reference reader.  With joints the payload is
the reference encoding itself; without, it is that encoding followed by zeros,
since the layout pass pads behind the count of an empty array and CDR does not.
-/

variable {platform : Platform}

def namesSize (position : Nat) : List CString → Nat
  | [] => position
  | name :: rest => namesSize (alignTo 4 position + 4 + (name.strlen + 1)) rest

def headSize (frameId : CString) (jointNames : List CString) : Nat :=
  namesSize (alignTo 4 (8 + 4 + (frameId.strlen + 1)) + 4) jointNames

def jointStateSize (frameId : CString) (jointNames : List CString) : Nat :=
  let array := 8 * jointNames.length
  let position := countEnd (headSize frameId jointNames)
  let velocity := countEnd (position + array)
  let effort := countEnd (velocity + array)
  cdrHeaderSize + effort + array

theorem namesSize_ge (position : Nat) (names : List CString) : position ≤ namesSize position names := by
  induction names generalizing position with
  | nil => exact Nat.le_refl _
  | cons name rest ih =>
      have start := alignTo_ge 4 position
      have later := ih (alignTo 4 position + 4 + (name.strlen + 1))
      rw [namesSize]
      omega

theorem namesEnd_of_small {position : Nat} {names : List CString}
    (small : namesSize position names < 2 ^ 32) :
    (∀ name ∈ names, name.strlen + 1 < 2 ^ 32) ∧
      namesEnd position names = namesSize position names := by
  induction names generalizing position with
  | nil => exact ⟨by simp, rfl⟩
  | cons name rest ih =>
      rw [namesSize] at small
      have later := namesSize_ge (alignTo 4 position + 4 + (name.strlen + 1)) rest
      have short : name.strlen + 1 < 2 ^ 32 := by omega
      obtain ⟨others, ends⟩ := ih small
      constructor
      · intro other member
        rcases List.mem_cons.mp member with rfl | tail
        · exact short
        · exact others other tail
      · rw [namesEnd, stringEnd, Nat.mod_eq_of_lt short, ends, namesSize]

theorem headEnd_of_small {frameId : CString} {jointNames : List CString}
    (small : headSize frameId jointNames < 2 ^ 32) :
    frameId.strlen + 1 < 2 ^ 32 ∧ (∀ name ∈ jointNames, name.strlen + 1 < 2 ^ 32) ∧
      headEnd frameId jointNames = headSize frameId jointNames := by
  rw [headSize] at small ⊢
  have names := namesSize_ge (alignTo 4 (8 + 4 + (frameId.strlen + 1)) + 4) jointNames
  have frame := alignTo_ge 4 (8 + 4 + (frameId.strlen + 1))
  have frameShort : frameId.strlen + 1 < 2 ^ 32 := by omega
  obtain ⟨namesShort, namesSame⟩ := namesEnd_of_small small
  refine ⟨frameShort, namesShort, ?_⟩
  rw [headEnd, stringEnd, Nat.mod_eq_of_lt frameShort, namesSame]

/-- A layout below `2 ^ 32` bytes has nothing that wraps. -/
theorem strings_of_small {frameId : CString} {jointNames : List CString} {numJoints : BitVec 32}
    (joints : jointNames.length = numJoints.toNat)
    (small : jointStateSize frameId jointNames < 2 ^ 32) :
    Strings frameId jointNames numJoints ∧ (8 * numJoints).toNat = 8 * numJoints.toNat ∧
      jointStateSize frameId jointNames =
        (jointStateOffsets frameId jointNames (8 * numJoints.toNat)).payload := by
  simp only [jointStateSize, cdrHeaderSize] at small
  have position := countEnd_ge (headSize frameId jointNames)
  have velocity := countEnd_ge (countEnd (headSize frameId jointNames) + 8 * jointNames.length)
  have effort := countEnd_ge (countEnd (countEnd (headSize frameId jointNames) +
    8 * jointNames.length) + 8 * jointNames.length)
  obtain ⟨frameShort, namesShort, same⟩ := @headEnd_of_small frameId jointNames (by omega)
  refine ⟨⟨joints, frameShort, namesShort⟩, ?_, ?_⟩
  · rw [arraySize_wraps_iff]
    omega
  · simp only [jointStateSize, jointStateOffsets, same, joints]

/-- The size of a JointCommand layout. -/
def jointCommandSize (frameId : CString) (jointNames : List CString) (interfaceName : CString) :
    Nat :=
  cdrHeaderSize + countEnd (alignTo 4 (headSize frameId jointNames) + 4 +
    (interfaceName.strlen + 1)) + 8 * jointNames.length

theorem commandStrings_of_small {frameId : CString} {jointNames : List CString}
    {interfaceName : CString} {numJoints : BitVec 32}
    (joints : jointNames.length = numJoints.toNat)
    (small : jointCommandSize frameId jointNames interfaceName < 2 ^ 32) :
    (8 * numJoints).toNat = 8 * numJoints.toNat ∧
      jointCommandSize frameId jointNames interfaceName =
        (jointCommandOffsets frameId jointNames interfaceName (8 * numJoints.toNat)).payload := by
  rw [jointCommandSize, cdrHeaderSize] at small
  have values := countEnd_ge (alignTo 4 (headSize frameId jointNames) + 4 +
    (interfaceName.strlen + 1))
  have start := alignTo_ge 4 (headSize frameId jointNames)
  obtain ⟨_, _, same⟩ := @headEnd_of_small frameId jointNames (by omega)
  have short : interfaceName.strlen + 1 < 2 ^ 32 := by omega
  constructor
  · rw [arraySize_wraps_iff]
    omega
  · rw [jointCommandSize, jointCommandOffsets, same, stringEnd, Nat.mod_eq_of_lt short, joints]

def zeroArray (count : Nat) : List Double := List.replicate count 0

def JointState.ofHistory (frameId : Option CString) (jointNames : List CString)
    (before : List JointStateValue) (last : JointStateValue) : JointState :=
  let history := before ++ [last]
  let zeros := zeroArray jointNames.length
  { sec := last.stampSec
    nanosec := last.stampNanosec
    frameId := (OptionalString.value frameId).chars
    name := jointNames.map CString.chars
    position := lastArray JointStateValue.positions history zeros
    velocity := lastArray JointStateValue.velocities history zeros
    effort := lastArray JointStateValue.efforts history zeros }

theorem lastArray_length {select : JointStateValue → Option (List Double)}
    {history : List JointStateValue} {initial : List Double} {count : Nat}
    (lengths : ∀ call ∈ history, ∀ array ∈ select call, array.length = count)
    (start : initial.length = count) : (lastArray select history initial).length = count := by
  induction history generalizing initial with
  | nil => exact start
  | cons call rest ih =>
      rw [lastArray_cons]
      apply ih (fun other member => lengths other (List.mem_cons_of_mem _ member))
      cases given : select call with
      | none => exact start
      | some array => exact lengths call (List.mem_cons_self ..) array given

theorem JointState.ofHistory_matches {frameId : Option CString} {jointNames : List CString}
    {before : List JointStateValue} {last : JointStateValue}
    (lengths : ∀ call ∈ before ++ [last], call.Sized jointNames.length) :
    (JointState.ofHistory frameId jointNames before last).Matches (OptionalString.value frameId)
      jointNames where
  frameId := rfl
  name := rfl
  position := lastArray_length (fun call member => (lengths call member).positions)
    List.length_replicate
  velocity := lastArray_length (fun call member => (lengths call member).velocities)
    List.length_replicate
  effort := lastArray_length (fun call member => (lengths call member).efforts)
    List.length_replicate

theorem residue_zero (capacity : Nat) :
    Layout.residue cdrHeaderSize (List.replicate capacity 0) = fun _ => 0 := by
  funext position
  rw [Layout.residue, List.getD_eq_getElem?_getD, List.getElem?_replicate]
  split <;> rfl

theorem gap_zero (count position : Nat) :
    Layout.gap (fun _ => 0) (8 * count) position = arrayBytes (zeroArray count) := by
  rw [zeroArray, arrayBytes_replicate_zero, Layout.gap, List.map_const', List.length_range]

/-- A zero-filled buffer holds arrays of zeros after the layout pass. -/
theorem JointStateParts.initial_arrays {frameId : Option CString} {jointNames : List CString}
    {numJoints : BitVec 32} (joints : jointNames.length = numJoints.toNat)
    (narrow : (8 * numJoints).toNat = 8 * numJoints.toNat) (capacity : Nat) :
    let parts := JointStateParts.initial platform (List.replicate capacity 0) frameId jointNames
      numJoints
    parts.position = arrayBytes (zeroArray jointNames.length) ∧
      parts.velocity = arrayBytes (zeroArray jointNames.length) ∧
      parts.effort = arrayBytes (zeroArray jointNames.length) := by
  simp only [JointStateParts.initial, JointStateParts.laidOut, residue_zero, narrow, gap_zero,
    joints, and_self]

/-- After its history a zero-filled buffer holds the parts of the message. -/
theorem JointStateParts.initial_calls {frameId : Option CString} {jointNames : List CString}
    {numJoints : BitVec 32} (joints : jointNames.length = numJoints.toNat)
    (narrow : (8 * numJoints).toNat = 8 * numJoints.toNat) (capacity : Nat)
    (before : List JointStateValue) (last : JointStateValue) :
    (JointStateParts.initial platform (List.replicate capacity 0) frameId jointNames
        numJoints).calls (before ++ [last]) =
      JointStateParts.ofMessage platform (fun _ => 0) (OptionalString.value frameId) jointNames
        numJoints (JointState.ofHistory frameId jointNames before last) := by
  have all : jointNames.take numJoints.toNat = jointNames := by
    rw [← joints, List.take_length]
  have zeros := @initial_arrays platform frameId _ _ joints narrow capacity
  generalize initial : JointStateParts.initial platform (List.replicate capacity 0) frameId
    jointNames numJoints = parts at zeros
  simp only [JointStateParts.initial, residue_zero, narrow, all, gap_zero] at initial
  obtain ⟨position, velocity, effort⟩ := JointStateParts.calls_arrays zeros.1 zeros.2.1 zeros.2.2
    (before ++ [last])
  obtain ⟨sec, nanosec⟩ := parts.calls_stamp before last
  obtain ⟨head, velocityCount, effortCount⟩ := parts.calls_fixed (before ++ [last])
  ext1
  · exact sec
  · exact nanosec
  · rw [head, ← initial]; rfl
  · exact position
  · rw [velocityCount, ← initial]; rfl
  · exact velocity
  · rw [effortCount, ← initial]; rfl
  · exact effort

/-- Every byte is zero, so only the number of bytes matters. -/
def Blank (emitter : Emitter) : Prop :=
  ∀ position, emitter position = List.replicate (emitter.endsAt position - position) 0

theorem Blank.andThen {first second : Emitter} (left : Blank first) (right : Blank second) :
    Blank (first.andThen second) := by
  intro position
  have middle : position ≤ first.endsAt position := Nat.le_add_right _ _
  have ends : first.endsAt position ≤ second.endsAt (first.endsAt position) :=
    Nat.le_add_right _ _
  rw [Emitter.andThen_apply, left position, right (first.endsAt position),
    Emitter.endsAt_andThen, List.replicate_append_replicate]
  congr 1
  omega

theorem Blank.align (alignment : Nat) : Blank (Emitter.align (fun _ => 0) alignment) := by
  intro position
  rw [Emitter.endsAt, Nat.add_sub_cancel_left, Emitter.align_length, Emitter.align,
    List.map_const', List.length_range]

theorem Blank.raw (count : Nat) : Blank (Emitter.raw (List.replicate count 0)) := by
  intro position
  rw [Emitter.endsAt_raw, List.length_replicate, Nat.add_sub_cancel_left, Emitter.raw_apply]

theorem blank_primitive : Blank (Emitter.primitive (fun _ => 0) (0 : BitVec 32)) :=
  (Blank.align 4).andThen (Blank.raw 4)

theorem blank_emptySequence :
    Blank (Emitter.sequence (fun _ => 0) (Emitter.primitive (fun _ => 0)) ([] : List Double)) :=
  blank_primitive.andThen (Blank.raw 0)

theorem blank_countOps : Blank (Layout.emit (fun _ => 0) (countOps 0 : LayoutOps platform)) := by
  rw [emit_countOps]
  exact blank_primitive.andThen (Blank.align 8)

/-- The layout pads behind each count, so its three counts reach at least as far. -/
theorem emptySequences_end_le (position : Nat) :
    alignTo 4 (alignTo 4 (alignTo 4 position + 4) + 4) + 4 ≤
      countEnd (countEnd (countEnd position)) := by
  have step {first second : Nat} (order : first ≤ second) :
      alignTo 4 first + 4 ≤ countEnd second :=
    Nat.le_trans (Nat.add_le_add_right (alignTo_mono (by decide) order) 4) (alignTo_ge 8 _)
  exact step (step (step (Nat.le_refl position)))

theorem JointState.payload_without_joints {message : JointState} {frameId : CString}
    (frameShort : frameId.strlen + 1 < 2 ^ 32) (matching : message.Matches frameId []) :
    ∃ count, (JointStateParts.ofMessage platform (fun _ => 0) frameId [] 0 message).payload =
      encode (message.emitter fun _ => 0) ++ List.replicate count 0 := by
  obtain ⟨frame, name, position, velocity, effort⟩ := matching
  have positionEmpty := List.eq_nil_of_length_eq_zero position
  have velocityEmpty := List.eq_nil_of_length_eq_zero velocity
  have effortEmpty := List.eq_nil_of_length_eq_zero effort
  have head := @emit_headOps platform (fun _ => 0) frameId [] 0 rfl frameShort (by simp)
  generalize front : (Emitter.string (fun _ => 0) frameId.chars).andThen (Emitter.sequence
    (fun _ => 0) (Emitter.string fun _ => 0) (([] : List CString).map CString.chars)) = strings
    at head
  generalize sequence : Emitter.sequence (fun _ => 0) (Emitter.primitive fun _ => 0)
    ([] : List Double) = empty
  have emptyEnds (start : Nat) : empty.endsAt start = alignTo 4 start + 4 := by
    rw [← sequence, Emitter.endsAt_sequence]
    rfl
  have emptyBlank : Blank empty := sequence ▸ blank_emptySequence
  have stringsEnd : strings.endsAt 8 = headEnd frameId [] := by
    rw [Emitter.endsAt, ← head, Layout.emit_length, endsAt_headOps]
  have encoded : encode (message.emitter fun _ => 0) = encapsulation ++ (wordBytes message.sec ++
      (wordBytes message.nanosec ++ (strings 8 ++
        (empty.andThen (empty.andThen empty)) (headEnd frameId [])))) := by
    rw [encode, JointState.emitter, frame, name, positionEmpty, velocityEmpty, effortEmpty,
      sequence, emit_stamp, ← Emitter.andThen_assoc, front, Emitter.andThen_apply, stringsEnd]
  generalize counts : Layout.emit (fun _ => 0) (countOps 0 : LayoutOps platform) = count
  have countBlank : Blank count := counts ▸ blank_countOps
  have countEnds (start : Nat) : count.endsAt start = countEnd start := by
    rw [← counts, emit_countOps_endsAt]
  have laid : (JointStateParts.ofMessage platform (fun _ => 0) frameId [] 0 message).payload =
      encapsulation ++ (wordBytes message.sec ++ (wordBytes message.nanosec ++ (strings 8 ++
        (count.andThen (count.andThen count)) (headEnd frameId [])))) := by
    simp only [JointStateParts.payload, JointStateParts.list, JointStateParts.ofMessage,
      JointStateParts.laidOut, jointStateOps, Layout.emit_append, Emitter.andThen_apply, counts,
      head, Layout.endsAt_emit, endsAt_headOps, positionEmpty, velocityEmpty, effortEmpty,
      countEnds]
    simp
  have covered := emptySequences_end_le (headEnd frameId [])
  have started := alignTo_ge 4 (headEnd frameId [])
  have second := alignTo_ge 4 (alignTo 4 (headEnd frameId []) + 4)
  have third := alignTo_ge 4 (alignTo 4 (alignTo 4 (headEnd frameId []) + 4) + 4)
  refine ⟨countEnd (countEnd (countEnd (headEnd frameId []))) -
    (alignTo 4 (alignTo 4 (alignTo 4 (headEnd frameId []) + 4) + 4) + 4), ?_⟩
  rw [laid, encoded, countBlank.andThen (countBlank.andThen countBlank) (headEnd frameId []),
    emptyBlank.andThen (emptyBlank.andThen emptyBlank) (headEnd frameId [])]
  simp only [Emitter.endsAt_andThen, countEnds, emptyEnds, List.append_assoc,
    List.replicate_append_replicate]
  congr 6
  omega

theorem JointState.Matches.encodable {message : JointState} {frameId : CString}
    {names : List CString} {numJoints : BitVec 32} (strings : Strings frameId names numJoints)
    (matching : message.Matches frameId names) : message.Encodable := by
  have countable : names.length < 2 ^ 32 := by
    rw [strings.joints]
    exact numJoints.isLt
  refine ⟨?_, ?_, ?_, ?_, ?_, ?_⟩
  · rw [matching.frameId]
    exact strings.frameId
  · rw [matching.name, List.length_map]
    exact countable
  · intro text member
    rw [matching.name] at member
    obtain ⟨name, inside, rfl⟩ := List.mem_map.mp member
    exact strings.names name inside
  · rw [matching.position]
    exact countable
  · rw [matching.velocity]
    exact countable
  · rw [matching.effort]
    exact countable

theorem JointState.decode_payload {message : JointState} {frameId : CString}
    {names : List CString} {numJoints : BitVec 32} (strings : Strings frameId names numJoints)
    (matching : message.Matches frameId names) :
    decode JointState.reader (JointStateParts.ofMessage platform (fun _ => 0) frameId names
      numJoints message).payload = some message := by
  have reads := JointState.reads (matching.encodable strings) fun _ => 0
  cases names with
  | nil =>
      have none : numJoints = 0 := BitVec.eq_of_toNat_eq strings.joints.symm
      subst none
      obtain ⟨count, laid⟩ := @JointState.payload_without_joints platform message frameId
        strings.frameId matching
      rw [laid]
      exact decode_encode reads _
  | cons name rest =>
      have encoded := @JointState.encode_parts platform message frameId (name :: rest) numJoints
        strings matching (List.cons_ne_nil _ _) fun _ => 0
      have whole := decode_encode reads []
      rw [List.append_nil, encoded] at whole
      exact whole

/-- Prepare one zero-filled buffer and make every call of the history on it. -/
def serializeHistory (platform : Platform) (frameId : Option CString) (jointNames : List CString)
    (numJoints : BitVec 32) (capacity : Nat) (history : List JointStateValue) :
    Except Fault (JointStateCtx platform × Bytes) := do
  let (ctx, buffer) ← zcdrInitJointState frameId jointNames numJoints (List.replicate capacity 0)
  let buffer ← serializeCalls ctx history buffer
  return (ctx, buffer)

theorem serializeHistory_conforms (frameId : Option CString) {jointNames : List CString}
    {numJoints : BitVec 32} (joints : jointNames.length = numJoints.toNat)
    (small : jointStateSize (OptionalString.value frameId) jointNames < 2 ^ 32) {capacity : Nat}
    (room : jointStateSize (OptionalString.value frameId) jointNames ≤ capacity)
    {before : List JointStateValue} {last : JointStateValue}
    (lengths : ∀ call ∈ before ++ [last], call.Sized jointNames.length) :
    ∃ (ctx : JointStateCtx platform) (buffer : Bytes),
      serializeHistory platform frameId jointNames numJoints capacity (before ++ [last]) =
        .ok (ctx, buffer) ∧
      ctx.payloadSize.toNat ≤ buffer.length ∧
      decode JointState.reader (buffer.take ctx.payloadSize.toNat) =
        some (JointState.ofHistory frameId jointNames before last) := by
  obtain ⟨strings, narrow, size⟩ := strings_of_small joints small
  have matching := @JointState.ofHistory_matches frameId jointNames before last lengths
  have laid : jointStateLayout frameId jointNames numJoints =
      jointStateOffsets (OptionalString.value frameId) jointNames (8 * numJoints.toNat) := by
    rw [jointStateLayout, ← narrow, ← joints, List.take_length]
  have addressable := platform.representable small
  obtain ⟨ctx, run⟩ := @zcdrInitJointState_ok platform frameId jointNames numJoints
    (List.replicate capacity 0) (by rw [laid, ← size, List.length_replicate]; exact room)
    (by rw [laid, ← size]; exact addressable)
  have points := zcdrInitJointState_at run (by rw [laid, ← size]; exact addressable)
  rw [← @JointStateParts.initial_offsets platform (List.replicate capacity 0)] at points
  have sized := @JointStateParts.initial_sized platform (List.replicate capacity 0) frameId
    jointNames numJoints
  rw [narrow] at sized
  rw [joints] at lengths
  have calls := fun rest => serializeCalls_parts points sized narrow lengths rest
  have written := @JointStateParts.initial_calls platform frameId jointNames numJoints joints
    narrow capacity before last
  have total : ctx.payloadSize.toNat = (JointStateParts.ofMessage platform (fun _ => 0)
      (OptionalString.value frameId) jointNames numJoints
        (JointState.ofHistory frameId jointNames before last)).payload.length := by
    rw [points.payload, ← JointStateParts.calls_offsets sized lengths, written]
    rfl
  have prepared : serializeHistory platform frameId jointNames numJoints capacity
      (before ++ [last]) = .ok (ctx, (JointStateParts.ofMessage platform (fun _ => 0)
        (OptionalString.value frameId) jointNames numJoints
          (JointState.ofHistory frameId jointNames before last)).payload ++
        (List.replicate capacity 0).drop
          (jointStateLayout frameId jointNames numJoints).payload) := by
    simp only [serializeHistory, run, calls, bind, Except.bind, written]
    rfl
  refine ⟨ctx, _, prepared, ?_, ?_⟩
  · rw [total, List.length_append]
    exact Nat.le_add_right _ _
  · rw [total, List.take_left]
    exact JointState.decode_payload strings matching

theorem serializeHistory_conforms_one_joint :
    ∃ (ctx : JointStateCtx Platform.host64) (buffer : Bytes),
      serializeHistory Platform.host64 none [jointA] 1 128
        ([⟨1, 2, none, some [7], none⟩] ++ [⟨3, 4, some [8], none, none⟩]) = .ok (ctx, buffer) ∧
      ctx.payloadSize.toNat ≤ buffer.length ∧
      decode JointState.reader (buffer.take ctx.payloadSize.toNat) =
        some ⟨3, 4, [], [[97]], [8], [7], [0]⟩ :=
  serializeHistory_conforms none rfl (by decide) (by decide) (by
    intro call member
    rcases List.mem_cons.mp member with rfl | member
    · constructor <;> simp [jointA]
    · rw [List.mem_singleton.mp member]
      constructor <;> simp [jointA])

end Zenbedded.Transport
