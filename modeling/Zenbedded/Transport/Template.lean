import Zenbedded.Transport.Layout

namespace Zenbedded.Transport

open Zenbedded.Foundation Zenbedded.Foundation.Cdr

/-! # Payloads in parts

A payload is a sequence of parts of which the serializers replace some and the
deserializers load some.  A context that points at these parts makes both of
them work on the parts alone, whatever follows the payload.
-/

variable {platform : Platform}

theorem stampOffset_add_four {offset : platform.SizeT} (timestamp : offset.toNat = cdrHeaderSize) :
    (offset + 4).toNat = 8 := by
  have four : (4 : platform.SizeT).toNat = 4 :=
    Layout.toNat_ofNat_of_lt 4 (platform.representable (by decide))
  rw [BitVec.toNat_add, timestamp, four]
  exact Nat.mod_eq_of_lt (platform.representable (by decide))

theorem arraySize_toNat (numJoints : BitVec 32) :
    (arraySize numJoints : platform.SizeT).toNat = (8 * numJoints).toNat := setWidth_toNat _

/-- What an array part holds once a pointer that may be NULL has been copied to it. -/
def copied (old : Bytes) : Option (List Double) → Bytes
  | none => old
  | some values => arrayBytes values

theorem copied_length {old : Bytes} {count : Nat} {values : Option (List Double)}
    (size : old.length = 8 * count) (lengths : ∀ array ∈ values, array.length = count) :
    (copied old values).length = 8 * count := by
  cases values with
  | none => exact size
  | some array => rw [copied, arrayBytes_length, lengths array rfl]

theorem copyIn_part {original parts : List Bytes} {count : Nat} {old : Bytes}
    {offset size : platform.SizeT} {values : Option (List Double)}
    (sizes : parts.map List.length = original.map List.length) (index : Nat)
    (part : parts[index]? = some old) (start : offset.toNat = partOffset original index)
    (bytes : size.toNat = 8 * count) (room : old.length = 8 * count)
    (lengths : ∀ array ∈ values, array.length = count) :
    copyIn parts.flatten offset size values =
        .ok (parts.set index (copied old values)).flatten ∧
      (parts.set index (copied old values)).map List.length = original.map List.length := by
  cases values with
  | none =>
      obtain ⟨inside, here⟩ := List.getElem?_eq_some_iff.mp part
      rw [copyIn, copied, ← here, List.set_getElem_self]
      exact ⟨rfl, sizes⟩
  | some array =>
      have whole : (arrayBytes array).length = 8 * count := by
        rw [arrayBytes_length, lengths array rfl]
      rw [copyIn, copied, start, bytes, ← whole, List.take_length]
      exact storeBytes_part sizes index part (whole.trans room.symm)

theorem copyOutWord_part (parts : List Bytes) (index : Nat) {bytes : Bytes}
    {offset : platform.SizeT} (part : parts[index]? = some bytes)
    (start : offset.toNat = partOffset parts index) (size : bytes.length = 4)
    (out : Option (BitVec 32)) :
    copyOutWord parts.flatten offset out = .ok (out.map fun _ => ofWordBytes 32 bytes) := by
  cases out with
  | none => rfl
  | some old =>
      rw [copyOutWord, start, ← size, loadBytes_part parts index part]
      rfl

theorem copyOut_part (parts : List Bytes) (index : Nat) {bytes : Bytes}
    {offset size : platform.SizeT} {count : Nat} {out : Option (List Double)}
    (part : parts[index]? = some bytes) (start : offset.toNat = partOffset parts index)
    (whole : size.toNat = 8 * count) (room : bytes.length = 8 * count)
    (lengths : ∀ array ∈ out, array.length = count) :
    copyOut parts.flatten offset size out =
      .ok (out.map fun _ => ofArrayBytes 64 count bytes) := by
  cases out with
  | none => rfl
  | some old =>
      have same := lengths old rfl
      have equal : (arrayBytes old).length = bytes.length := by
        rw [arrayBytes_length, same, room]
      have stored := storeBytes_segment [] (arrayBytes old) [] bytes equal
      simp only [List.nil_append, List.append_nil, List.length_nil] at stored
      rw [copyOut, start, whole, ← room, loadBytes_part parts index part]
      simp only [bind, Except.bind, pure, Except.pure, stored, same, Option.map_some]

/-- A JointState payload behind its header: `head`, `velocityCount` and
`effortCount` are what the layout pass writes between the replaceable parts. -/
@[ext] structure JointStateParts where
  sec : Bytes
  nanosec : Bytes
  head : Bytes
  position : Bytes
  velocityCount : Bytes
  velocity : Bytes
  effortCount : Bytes
  effort : Bytes
deriving Repr, DecidableEq

namespace JointStateParts

def list (parts : JointStateParts) (rest : Bytes) : List Bytes :=
  [encapsulation, parts.sec, parts.nanosec, parts.head, parts.position, parts.velocityCount,
    parts.velocity, parts.effortCount, parts.effort, rest]

def payload (parts : JointStateParts) : Bytes := (parts.list []).flatten

theorem list_flatten (parts : JointStateParts) (rest : Bytes) :
    (parts.list rest).flatten = parts.payload ++ rest := by
  simp [payload, list]

structure Sized (parts : JointStateParts) (arrayBytes : Nat) : Prop where
  sec : parts.sec.length = 4
  nanosec : parts.nanosec.length = 4
  position : parts.position.length = arrayBytes
  velocity : parts.velocity.length = arrayBytes
  effort : parts.effort.length = arrayBytes

def offsets (parts : JointStateParts) : JointStateOffsets :=
  { position := partOffset (parts.list []) 4
    velocity := partOffset (parts.list []) 6
    effort := partOffset (parts.list []) 8
    payload := parts.payload.length }

theorem offsets_eq {parts : JointStateParts} {size : Nat} (sized : parts.Sized size) :
    parts.offsets =
      { position := 12 + parts.head.length
        velocity := 12 + parts.head.length + size + parts.velocityCount.length
        effort := 12 + parts.head.length + size + parts.velocityCount.length + size +
          parts.effortCount.length
        payload := 12 + parts.head.length + size + parts.velocityCount.length + size +
          parts.effortCount.length + size } := by
  simp only [offsets, partOffset, payload, list, JointStateOffsets.mk.injEq, List.take_succ_cons,
    List.take_zero, List.length_flatten, List.map_cons, List.map_nil, List.sum_cons, List.sum_nil,
    sized.sec, sized.nanosec, sized.position, sized.velocity, sized.effort, encapsulation,
    List.length_cons, List.length_nil]
  omega

def write (parts : JointStateParts) (stampSec stampNanosec : BitVec 32)
    (positions velocities efforts : Option (List Double)) : JointStateParts :=
  { parts with
    sec := wordBytes stampSec
    nanosec := wordBytes stampNanosec
    position := copied parts.position positions
    velocity := copied parts.velocity velocities
    effort := copied parts.effort efforts }

theorem write_sized {parts : JointStateParts} {count : Nat} (sized : parts.Sized (8 * count))
    (stampSec stampNanosec : BitVec 32) {positions velocities efforts : Option (List Double)}
    (positionLengths : ∀ array ∈ positions, array.length = count)
    (velocityLengths : ∀ array ∈ velocities, array.length = count)
    (effortLengths : ∀ array ∈ efforts, array.length = count) :
    (parts.write stampSec stampNanosec positions velocities efforts).Sized (8 * count) where
  sec := wordBytes_length _
  nanosec := wordBytes_length _
  position := copied_length sized.position positionLengths
  velocity := copied_length sized.velocity velocityLengths
  effort := copied_length sized.effort effortLengths

/-- Around the same fixed parts, payloads of one size are equal only if all parts are. -/
theorem payload_inj {first second : JointStateParts} {size : Nat} (sizedFirst : first.Sized size)
    (sizedSecond : second.Sized size) (head : first.head = second.head)
    (velocityCount : first.velocityCount = second.velocityCount)
    (effortCount : first.effortCount = second.effortCount)
    (same : first.payload = second.payload) : first = second := by
  simp only [payload, list, List.flatten_cons, List.flatten_nil, List.append_nil, head,
    velocityCount, effortCount] at same
  have tail := List.append_cancel_left same
  obtain ⟨sec, tail⟩ := List.append_inj tail (sizedFirst.sec.trans sizedSecond.sec.symm)
  obtain ⟨nanosec, tail⟩ :=
    List.append_inj tail (sizedFirst.nanosec.trans sizedSecond.nanosec.symm)
  have tail := List.append_cancel_left tail
  obtain ⟨position, tail⟩ :=
    List.append_inj tail (sizedFirst.position.trans sizedSecond.position.symm)
  have tail := List.append_cancel_left tail
  obtain ⟨velocity, tail⟩ :=
    List.append_inj tail (sizedFirst.velocity.trans sizedSecond.velocity.symm)
  have effort := List.append_cancel_left tail
  exact JointStateParts.ext sec nanosec head position velocityCount velocity effortCount effort

def read (parts : JointStateParts) (count : Nat) (out : JointStateOut) : JointStateOut :=
  { stampSec := out.stampSec.map fun _ => ofWordBytes 32 parts.sec
    stampNanosec := out.stampNanosec.map fun _ => ofWordBytes 32 parts.nanosec
    positions := out.positions.map fun _ => ofArrayBytes 64 count parts.position
    velocities := out.velocities.map fun _ => ofArrayBytes 64 count parts.velocity
    efforts := out.efforts.map fun _ => ofArrayBytes 64 count parts.effort }

end JointStateParts

/-- Every array that is not NULL has `count` elements. -/
structure JointStateOut.Room (out : JointStateOut) (count : Nat) : Prop where
  positions : ∀ array ∈ out.positions, array.length = count
  velocities : ∀ array ∈ out.velocities, array.length = count
  efforts : ∀ array ∈ out.efforts, array.length = count

theorem zcdrSerializeJointState_parts {ctx : JointStateCtx platform} {numJoints : BitVec 32}
    {parts : JointStateParts} (points : ctx.At numJoints parts.offsets)
    (sized : parts.Sized (8 * numJoints.toNat))
    (narrow : (8 * numJoints).toNat = 8 * numJoints.toNat)
    (stampSec stampNanosec : BitVec 32) {positions velocities efforts : Option (List Double)}
    (positionLengths : ∀ array ∈ positions, array.length = numJoints.toNat)
    (velocityLengths : ∀ array ∈ velocities, array.length = numJoints.toNat)
    (effortLengths : ∀ array ∈ efforts, array.length = numJoints.toNat) (rest : Bytes) :
    zcdrSerializeJointState ctx stampSec stampNanosec positions velocities efforts
        (parts.payload ++ rest) =
      .ok ((parts.write stampSec stampNanosec positions velocities efforts).payload ++ rest) := by
  obtain ⟨joints, timestamp, position, velocity, effort, -⟩ := points
  have bytes : (arraySize numJoints : platform.SizeT).toNat = 8 * numJoints.toNat := by
    rw [arraySize_toNat, narrow]
  obtain ⟨secStored, secSizes⟩ := storeBytes_part (Eq.refl ((parts.list rest).map List.length)) 1
    rfl ((wordBytes_length stampSec).trans sized.sec.symm)
  obtain ⟨nanosecStored, nanosecSizes⟩ := storeBytes_part secSizes 2 rfl
    ((wordBytes_length stampNanosec).trans sized.nanosec.symm)
  obtain ⟨positionCopied, positionSizes⟩ := copyIn_part nanosecSizes 4 rfl position bytes
    sized.position positionLengths
  obtain ⟨velocityCopied, velocitySizes⟩ := copyIn_part positionSizes 6 rfl velocity bytes
    sized.velocity velocityLengths
  obtain ⟨effortCopied, _⟩ := copyIn_part velocitySizes 8 rfl effort bytes
    sized.effort effortLengths
  have secStart : partOffset (parts.list rest) 1 = ctx.offsetTimestamp.toNat := timestamp.symm
  have nanosecStart : partOffset (parts.list rest) 2 = (ctx.offsetTimestamp + 4).toNat := by
    rw [stampOffset_add_four timestamp]
    simp [partOffset, JointStateParts.list, sized.sec, encapsulation]
  rw [secStart] at secStored
  rw [nanosecStart] at nanosecStored
  simp only [zcdrSerializeJointState, joints, ← JointStateParts.list_flatten, secStored,
    nanosecStored, positionCopied, velocityCopied, effortCopied, bind, Except.bind]
  rfl

theorem zcdrDeserializeJointState_parts {ctx : JointStateCtx platform} {numJoints : BitVec 32}
    {parts : JointStateParts} (points : ctx.At numJoints parts.offsets)
    (sized : parts.Sized (8 * numJoints.toNat))
    (narrow : (8 * numJoints).toNat = 8 * numJoints.toNat) {out : JointStateOut}
    (room : out.Room numJoints.toNat) {bufferSize : platform.SizeT}
    (enough : parts.payload.length ≤ bufferSize.toNat) (rest : Bytes) :
    zcdrDeserializeJointState ctx (parts.payload ++ rest) bufferSize out =
      .ok (true, parts.read numJoints.toNat out) := by
  obtain ⟨joints, timestamp, position, velocity, effort, payload⟩ := points
  have bytes : (arraySize numJoints : platform.SizeT).toNat = 8 * numJoints.toNat := by
    rw [arraySize_toNat, narrow]
  have accepted : ¬ bufferSize < ctx.payloadSize := by
    rw [BitVec.lt_def, payload]
    exact Nat.not_lt.mpr enough
  have nanosecStart : (ctx.offsetTimestamp + 4).toNat = partOffset (parts.list rest) 2 := by
    rw [stampOffset_add_four timestamp]
    simp [partOffset, JointStateParts.list, sized.sec, encapsulation]
  have secRead := copyOutWord_part (parts.list rest) 1 rfl timestamp sized.sec out.stampSec
  have nanosecRead := copyOutWord_part (parts.list rest) 2 rfl nanosecStart sized.nanosec
    out.stampNanosec
  have positionRead := copyOut_part (parts.list rest) 4 rfl position bytes sized.position
    room.positions
  have velocityRead := copyOut_part (parts.list rest) 6 rfl velocity bytes sized.velocity
    room.velocities
  have effortRead := copyOut_part (parts.list rest) 8 rfl effort bytes sized.effort room.efforts
  simp only [zcdrDeserializeJointState, if_neg accepted, joints, ← JointStateParts.list_flatten,
    secRead, nanosecRead, positionRead, velocityRead, effortRead, bind, Except.bind]
  rfl

structure JointCommandParts where
  sec : Bytes
  nanosec : Bytes
  head : Bytes
  values : Bytes
deriving Repr, DecidableEq

namespace JointCommandParts

def list (parts : JointCommandParts) (rest : Bytes) : List Bytes :=
  [encapsulation, parts.sec, parts.nanosec, parts.head, parts.values, rest]

def payload (parts : JointCommandParts) : Bytes := (parts.list []).flatten

theorem list_flatten (parts : JointCommandParts) (rest : Bytes) :
    (parts.list rest).flatten = parts.payload ++ rest := by
  simp [payload, list]

structure Sized (parts : JointCommandParts) (arrayBytes : Nat) : Prop where
  sec : parts.sec.length = 4
  nanosec : parts.nanosec.length = 4
  values : parts.values.length = arrayBytes

def offsets (parts : JointCommandParts) : JointCommandOffsets :=
  { values := partOffset (parts.list []) 4
    payload := parts.payload.length }

theorem offsets_eq {parts : JointCommandParts} {size : Nat} (sized : parts.Sized size) :
    parts.offsets =
      { values := 12 + parts.head.length
        payload := 12 + parts.head.length + size } := by
  simp only [offsets, partOffset, payload, list, JointCommandOffsets.mk.injEq,
    List.take_succ_cons, List.take_zero, List.length_flatten, List.map_cons, List.map_nil,
    List.sum_cons, List.sum_nil, sized.sec, sized.nanosec, sized.values, encapsulation,
    List.length_cons, List.length_nil]
  omega

def read (parts : JointCommandParts) (count : Nat) (out : JointCommandOut) : JointCommandOut :=
  { stampSec := out.stampSec.map fun _ => ofWordBytes 32 parts.sec
    stampNanosec := out.stampNanosec.map fun _ => ofWordBytes 32 parts.nanosec
    values := out.values.map fun _ => ofArrayBytes 64 count parts.values }

end JointCommandParts

theorem zcdrDeserializeJointCommand_parts {ctx : JointCommandCtx platform} {numJoints : BitVec 32}
    {parts : JointCommandParts} (points : ctx.At numJoints parts.offsets)
    (sized : parts.Sized (8 * numJoints.toNat))
    (narrow : (8 * numJoints).toNat = 8 * numJoints.toNat) {out : JointCommandOut}
    (room : ∀ array ∈ out.values, array.length = numJoints.toNat) {bufferSize : platform.SizeT}
    (enough : parts.payload.length ≤ bufferSize.toNat) (rest : Bytes) :
    zcdrDeserializeJointCommand ctx (parts.payload ++ rest) bufferSize out =
      .ok (true, parts.read numJoints.toNat out) := by
  obtain ⟨joints, timestamp, values, payload⟩ := points
  have bytes : (arraySize numJoints : platform.SizeT).toNat = 8 * numJoints.toNat := by
    rw [arraySize_toNat, narrow]
  have accepted : ¬ bufferSize < ctx.payloadSize := by
    rw [BitVec.lt_def, payload]
    exact Nat.not_lt.mpr enough
  have nanosecStart : (ctx.offsetTimestamp + 4).toNat = partOffset (parts.list rest) 2 := by
    rw [stampOffset_add_four timestamp]
    simp [partOffset, JointCommandParts.list, sized.sec, encapsulation]
  have secRead := copyOutWord_part (parts.list rest) 1 rfl timestamp sized.sec out.stampSec
  have nanosecRead := copyOutWord_part (parts.list rest) 2 rfl nanosecStart sized.nanosec
    out.stampNanosec
  have valuesRead := copyOut_part (parts.list rest) 4 rfl values bytes sized.values room
  simp only [zcdrDeserializeJointCommand, if_neg accepted, joints,
    ← JointCommandParts.list_flatten, secRead, nanosecRead, valuesRead, bind, Except.bind]
  rfl

end Zenbedded.Transport
