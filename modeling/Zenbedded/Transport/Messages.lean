import Zenbedded.Transport.LayoutOutcome

namespace Zenbedded.Transport

open Zenbedded.Foundation Zenbedded.Foundation.Cdr

/-! # Messages and their reference encoding

`sensor_msgs/JointState` and the JointCommand message (header, joint names,
interface name, values) with the encoder and the reader that the CDR rules give
for them.  The layout passes are related to these encoders at the end.
-/

structure JointState where
  sec : BitVec 32
  nanosec : BitVec 32
  frameId : Bytes
  name : List Bytes
  position : List Double
  velocity : List Double
  effort : List Double
deriving Repr, DecidableEq

namespace JointState

def emitter (pad : Nat → UInt8) (message : JointState) : Emitter :=
  (Emitter.primitive pad message.sec).andThen <|
  (Emitter.primitive pad message.nanosec).andThen <|
  (Emitter.string pad message.frameId).andThen <|
  (Emitter.sequence pad (Emitter.string pad) message.name).andThen <|
  (Emitter.sequence pad (Emitter.primitive pad) message.position).andThen <|
  (Emitter.sequence pad (Emitter.primitive pad) message.velocity).andThen <|
  Emitter.sequence pad (Emitter.primitive pad) message.effort

def reader : Reader JointState := do
  let sec ← Reader.primitive 32
  let nanosec ← Reader.primitive 32
  let frameId ← Reader.string
  let name ← Reader.sequence Reader.string
  let position ← Reader.sequence (Reader.primitive 64)
  let velocity ← Reader.sequence (Reader.primitive 64)
  let effort ← Reader.sequence (Reader.primitive 64)
  return { sec, nanosec, frameId, name, position, velocity, effort }

/-- Every length fits the 32-bit word that CDR gives it. -/
structure Encodable (message : JointState) : Prop where
  frameId : message.frameId.length + 1 < 2 ^ 32
  name : message.name.length < 2 ^ 32
  names : ∀ text ∈ message.name, text.length + 1 < 2 ^ 32
  position : message.position.length < 2 ^ 32
  velocity : message.velocity.length < 2 ^ 32
  effort : message.effort.length < 2 ^ 32

theorem reads {message : JointState} (encodable : message.Encodable) (pad : Nat → UInt8) :
    Reads reader (message.emitter pad) message := by
  have word (value : BitVec 32) := Reads.primitive (by decide) pad value
  have doubles (values : List Double) (short : values.length < 2 ^ 32) :=
    Reads.sequence pad short fun value _ => Reads.primitive (by decide) pad value
  refine (word _).bind <| (word _).bind <| (Reads.string pad encodable.frameId).bind <|
    (Reads.sequence pad encodable.name fun text member =>
      Reads.string pad (encodable.names text member)).bind <|
    (doubles _ encodable.position).bind <| (doubles _ encodable.velocity).bind <|
    (doubles _ encodable.effort).map _

end JointState

structure JointCommand where
  sec : BitVec 32
  nanosec : BitVec 32
  frameId : Bytes
  jointNames : List Bytes
  interfaceName : Bytes
  values : List Double
deriving Repr, DecidableEq

namespace JointCommand

def emitter (pad : Nat → UInt8) (message : JointCommand) : Emitter :=
  (Emitter.primitive pad message.sec).andThen <|
  (Emitter.primitive pad message.nanosec).andThen <|
  (Emitter.string pad message.frameId).andThen <|
  (Emitter.sequence pad (Emitter.string pad) message.jointNames).andThen <|
  (Emitter.string pad message.interfaceName).andThen <|
  Emitter.sequence pad (Emitter.primitive pad) message.values

def reader : Reader JointCommand := do
  let sec ← Reader.primitive 32
  let nanosec ← Reader.primitive 32
  let frameId ← Reader.string
  let jointNames ← Reader.sequence Reader.string
  let interfaceName ← Reader.string
  let values ← Reader.sequence (Reader.primitive 64)
  return { sec, nanosec, frameId, jointNames, interfaceName, values }

structure Encodable (message : JointCommand) : Prop where
  frameId : message.frameId.length + 1 < 2 ^ 32
  jointNames : message.jointNames.length < 2 ^ 32
  names : ∀ text ∈ message.jointNames, text.length + 1 < 2 ^ 32
  interfaceName : message.interfaceName.length + 1 < 2 ^ 32
  values : message.values.length < 2 ^ 32

theorem reads {message : JointCommand} (encodable : message.Encodable) (pad : Nat → UInt8) :
    Reads reader (message.emitter pad) message := by
  have word (value : BitVec 32) := Reads.primitive (by decide) pad value
  refine (word _).bind <| (word _).bind <| (Reads.string pad encodable.frameId).bind <|
    (Reads.sequence pad encodable.jointNames fun text member =>
      Reads.string pad (encodable.names text member)).bind <|
    (Reads.string pad encodable.interfaceName).bind <|
    (Reads.sequence pad encodable.values fun value _ =>
      Reads.primitive (by decide) pad value).map _

end JointCommand

variable {platform : Platform}

theorem emit_nameOps (pad : Nat → UInt8) {text : CString} (short : text.strlen + 1 < 2 ^ 32) :
    Layout.emit pad (nameOps text : LayoutOps platform) = Emitter.string pad text.chars := by
  have whole : text.bytes.take (BitVec.ofNat 32 (text.strlen + 1)).toNat = text.chars ++ [0] := by
    rw [Layout.toNat_ofNat_of_lt _ short, ← CString.bytes_length, List.take_length]
    rfl
  simp only [nameOps, stringOps, Layout.emit, Layout.Op.emit, whole, Emitter.string,
    Emitter.primitive, Emitter.andThen_raw_nil, Emitter.andThen_assoc]
  rfl

/-- At an aligned position a string needs no padding. -/
theorem emit_stringOps (pad : Nat → UInt8) {text : CString} (short : text.strlen + 1 < 2 ^ 32)
    {position : Nat} (aligned : 4 ∣ position) :
    Layout.emit pad (stringOps text : LayoutOps platform) position =
      Emitter.string pad text.chars position := by
  have named : Layout.emit pad (nameOps text : LayoutOps platform) position =
      Emitter.string pad text.chars position := by rw [emit_nameOps pad short]
  rw [← named, nameOps, Layout.emit, Emitter.andThen_apply, Layout.Op.endsAt_emit,
    show Layout.Op.next (.align shift4 : Layout.Op platform.sizeBits) position = alignTo 4 position
      from rfl, alignTo_of_dvd aligned,
    show Layout.Op.emit pad (.align shift4 : Layout.Op platform.sizeBits) position =
      Emitter.align pad 4 position from rfl, Emitter.align_of_dvd pad aligned, List.nil_append]

theorem emit_names (pad : Nat → UInt8) {names : List CString}
    (short : ∀ name ∈ names, name.strlen + 1 < 2 ^ 32) :
    Layout.emit pad (names.flatMap nameOps : LayoutOps platform) =
      Emitter.elements (Emitter.string pad) (names.map CString.chars) := by
  induction names with
  | nil => rfl
  | cons name rest ih =>
      rw [List.flatMap_cons, Layout.emit_append, emit_nameOps pad (short name (List.mem_cons_self ..)),
        ih fun other member => short other (List.mem_cons_of_mem _ member)]
      rfl

theorem emit_countOps (pad : Nat → UInt8) (numJoints : BitVec 32) :
    Layout.emit pad (countOps numJoints : LayoutOps platform) =
      (Emitter.primitive pad numJoints).andThen (Emitter.align pad 8) := by
  simp only [countOps, Layout.emit, Emitter.andThen_raw_nil, Emitter.primitive,
    Emitter.andThen_assoc]
  rfl

theorem emit_headOps (pad : Nat → UInt8) {frameId : CString} {names : List CString}
    {numJoints : BitVec 32} (joints : names.length = numJoints.toNat)
    (frameShort : frameId.strlen + 1 < 2 ^ 32)
    (short : ∀ name ∈ names, name.strlen + 1 < 2 ^ 32) :
    Layout.emit pad (headOps frameId names numJoints : LayoutOps platform) 8 =
      (Emitter.string pad frameId.chars).andThen
        (Emitter.sequence pad (Emitter.string pad) (names.map CString.chars)) 8 := by
  have count : Layout.emit pad ([.align shift4, .put (wordBytes numJoints)] : LayoutOps platform) =
      Emitter.primitive pad numJoints := by
    simp only [Layout.emit, Emitter.andThen_raw_nil, Emitter.primitive]
    rfl
  have length : BitVec.ofNat 32 (names.map CString.chars).length = numJoints := by
    rw [List.length_map, joints, BitVec.ofNat_toNat, BitVec.setWidth_eq]
  rw [headOps, Layout.emit_append, Layout.emit_append, count, emit_names pad short,
    Emitter.andThen_assoc, Emitter.sequence, length]
  simp only [Emitter.andThen_apply, Emitter.endsAt,
    emit_stringOps pad frameShort (show 4 ∣ 8 by decide)]

/-- Joint names and `frame_id` that CDR can represent. -/
structure Strings (frameId : CString) (names : List CString) (numJoints : BitVec 32) : Prop where
  joints : names.length = numJoints.toNat
  frameId : frameId.strlen + 1 < 2 ^ 32
  names : ∀ name ∈ names, name.strlen + 1 < 2 ^ 32

def JointStateParts.ofMessage (platform : Platform) (pad : Nat → UInt8) (frameId : CString)
    (names : List CString) (numJoints : BitVec 32) (message : JointState) : JointStateParts :=
  laidOut platform pad frameId names numJoints (8 * numJoints.toNat) (wordBytes message.sec)
    (wordBytes message.nanosec) (arrayBytes message.position) (arrayBytes message.velocity)
    (arrayBytes message.effort)

def JointCommandParts.ofMessage (platform : Platform) (pad : Nat → UInt8) (frameId : CString)
    (names : List CString) (interfaceName : CString) (numJoints : BitVec 32)
    (message : JointCommand) : JointCommandParts :=
  laidOut platform pad frameId names interfaceName numJoints (wordBytes message.sec)
    (wordBytes message.nanosec) (arrayBytes message.values)

/-- The arrays of the message have one element for each joint, and its strings are given. -/
structure JointState.Matches (message : JointState) (frameId : CString) (names : List CString) :
    Prop where
  frameId : message.frameId = frameId.chars
  name : message.name = names.map CString.chars
  position : message.position.length = names.length
  velocity : message.velocity.length = names.length
  effort : message.effort.length = names.length

structure JointCommand.Matches (message : JointCommand) (frameId : CString)
    (names : List CString) (interfaceName : CString) : Prop where
  frameId : message.frameId = frameId.chars
  jointNames : message.jointNames = names.map CString.chars
  interfaceName : message.interfaceName = interfaceName.chars
  values : message.values.length = names.length

theorem emit_stamp (pad : Nat → UInt8) (sec nanosec : BitVec 32) (tail : Emitter) :
    (Emitter.primitive pad sec).andThen ((Emitter.primitive pad nanosec).andThen tail) 0 =
      wordBytes sec ++ (wordBytes nanosec ++ tail 8) := by
  rw [Emitter.andThen_apply, Emitter.endsAt_primitive, Emitter.andThen_apply,
    Emitter.endsAt_primitive, Emitter.primitive_of_dvd pad sec (by decide),
    Emitter.primitive_of_dvd pad nanosec (by decide)]
  rfl

/-- A sequence of doubles with one element for each joint. -/
theorem emit_array (pad : Nat → UInt8) {values : List Double} {numJoints : BitVec 32}
    (length : values.length = numJoints.toNat) (nonempty : values ≠ []) :
    Emitter.sequence pad (Emitter.primitive pad) values =
      (Layout.emit pad (countOps numJoints : LayoutOps platform)).andThen
        (Emitter.raw (arrayBytes values)) := by
  have count : BitVec.ofNat 32 values.length = numJoints := by
    rw [length, BitVec.ofNat_toNat, BitVec.setWidth_eq]
  rw [Emitter.sequence_primitive pad (by decide) nonempty, count, emit_countOps]

theorem emit_countOps_endsAt (pad : Nat → UInt8) (numJoints : BitVec 32) (position : Nat) :
    (Layout.emit pad (countOps numJoints : LayoutOps platform)).endsAt position =
      countEnd position := by
  rw [Layout.endsAt_emit, endsAt_countOps]

/-- With at least one joint the layout pass writes exactly what CDR asks for. -/
theorem JointState.encode_parts {message : JointState} {frameId : CString}
    {names : List CString} {numJoints : BitVec 32} (strings : Strings frameId names numJoints)
    (matching : message.Matches frameId names) (nonempty : names ≠ []) (pad : Nat → UInt8) :
    encode (message.emitter pad) =
      (JointStateParts.ofMessage platform pad frameId names numJoints message).payload := by
  have array (values : List Double) (length : values.length = names.length) :
      Emitter.sequence pad (Emitter.primitive pad) values =
        (Layout.emit pad (countOps numJoints : LayoutOps platform)).andThen
          (Emitter.raw (arrayBytes values)) := by
    apply emit_array pad (length.trans strings.joints)
    intro empty
    rw [empty, List.length_nil] at length
    exact nonempty (List.eq_nil_of_length_eq_zero length.symm)
  have head := @emit_headOps platform pad _ _ _ strings.joints strings.frameId strings.names
  have front : (((Emitter.string pad frameId.chars).andThen
      (Emitter.sequence pad (Emitter.string pad) (names.map CString.chars))).andThen
        (Layout.emit pad (countOps numJoints : LayoutOps platform))) 8 =
      Layout.emit pad (jointStateOps frameId names numJoints : LayoutOps platform) 8 := by
    rw [jointStateOps, Layout.emit_append]
    exact Emitter.andThen_congr head.symm _
  have frontEnd : (((Emitter.string pad frameId.chars).andThen
      (Emitter.sequence pad (Emitter.string pad) (names.map CString.chars))).andThen
        (Layout.emit pad (countOps numJoints : LayoutOps platform))).endsAt 8 =
      countEnd (headEnd frameId names) := by
    rw [Emitter.endsAt, front, Layout.emit_length, endsAt_jointStateOps]
  rw [encode, JointState.emitter, matching.frameId, matching.name, array _ matching.position,
    array _ matching.velocity, array _ matching.effort, emit_stamp]
  rw [← Emitter.andThen_assoc, Emitter.andThen_assoc (Layout.emit pad _), ← Emitter.andThen_assoc,
    Emitter.andThen_apply, front, frontEnd]
  simp only [Emitter.andThen_apply, Emitter.raw_apply, Emitter.endsAt_raw,
    Emitter.endsAt_andThen, emit_countOps_endsAt, arrayBytes_length, matching.position,
    matching.velocity, strings.joints]
  simp [JointStateParts.payload, JointStateParts.list, JointStateParts.ofMessage,
    JointStateParts.laidOut]

theorem JointCommand.encode_parts {message : JointCommand} {frameId : CString}
    {names : List CString} {interfaceName : CString} {numJoints : BitVec 32}
    (strings : Strings frameId names numJoints) (interfaceShort : interfaceName.strlen + 1 < 2 ^ 32)
    (matching : message.Matches frameId names interfaceName) (nonempty : names ≠ [])
    (pad : Nat → UInt8) :
    encode (message.emitter pad) =
      (JointCommandParts.ofMessage platform pad frameId names interfaceName numJoints
        message).payload := by
  have filled : message.values ≠ [] := by
    intro empty
    have length := matching.values
    rw [empty, List.length_nil] at length
    exact nonempty (List.eq_nil_of_length_eq_zero length.symm)
  have array := @emit_array platform pad _ _ (matching.values.trans strings.joints) filled
  have head := @emit_headOps platform pad _ _ _ strings.joints strings.frameId strings.names
  have front : ((((Emitter.string pad frameId.chars).andThen
      (Emitter.sequence pad (Emitter.string pad) (names.map CString.chars))).andThen
        (Emitter.string pad interfaceName.chars)).andThen
          (Layout.emit pad (countOps numJoints : LayoutOps platform))) 8 =
      Layout.emit pad (jointCommandOps frameId names interfaceName numJoints :
        LayoutOps platform) 8 := by
    rw [jointCommandOps, Layout.emit_append, Layout.emit_append, emit_nameOps pad interfaceShort]
    exact Emitter.andThen_congr (Emitter.andThen_congr head.symm _) _
  rw [encode, JointCommand.emitter, matching.frameId, matching.jointNames,
    matching.interfaceName, array, emit_stamp]
  rw [← Emitter.andThen_assoc, ← Emitter.andThen_assoc, ← Emitter.andThen_assoc,
    Emitter.andThen_apply, front]
  simp [JointCommandParts.payload, JointCommandParts.list, JointCommandParts.ofMessage,
    JointCommandParts.laidOut]

theorem JointStateParts.ofMessage_sized {message : JointState} {frameId : CString}
    {names : List CString} {numJoints : BitVec 32} (joints : names.length = numJoints.toNat)
    (matching : message.Matches frameId names) (pad : Nat → UInt8) :
    (JointStateParts.ofMessage platform pad frameId names numJoints message).Sized
      (8 * numJoints.toNat) := by
  constructor <;> simp [JointStateParts.ofMessage, JointStateParts.laidOut, matching.position,
    matching.velocity, matching.effort, joints]

theorem JointStateParts.ofMessage_offsets {message : JointState} {frameId : CString}
    {names : List CString} {numJoints : BitVec 32} (joints : names.length = numJoints.toNat)
    (matching : message.Matches frameId names) (pad : Nat → UInt8) :
    (JointStateParts.ofMessage platform pad frameId names numJoints message).offsets =
      jointStateOffsets frameId names (8 * numJoints.toNat) :=
  laidOut_offsets (ofMessage_sized joints matching pad)

theorem JointCommandParts.ofMessage_sized {message : JointCommand} {frameId : CString}
    {names : List CString} {interfaceName : CString} {numJoints : BitVec 32}
    (joints : names.length = numJoints.toNat)
    (matching : message.Matches frameId names interfaceName) (pad : Nat → UInt8) :
    (JointCommandParts.ofMessage platform pad frameId names interfaceName numJoints message).Sized
      (8 * numJoints.toNat) := by
  constructor <;> simp [JointCommandParts.ofMessage, JointCommandParts.laidOut, matching.values,
    joints]

theorem JointCommandParts.ofMessage_offsets {message : JointCommand} {frameId : CString}
    {names : List CString} {interfaceName : CString} {numJoints : BitVec 32}
    (joints : names.length = numJoints.toNat)
    (matching : message.Matches frameId names interfaceName) (pad : Nat → UInt8) :
    (JointCommandParts.ofMessage platform pad frameId names interfaceName numJoints
        message).offsets =
      jointCommandOffsets frameId names interfaceName (8 * numJoints.toNat) :=
  laidOut_offsets (ofMessage_sized joints matching pad)

end Zenbedded.Transport
