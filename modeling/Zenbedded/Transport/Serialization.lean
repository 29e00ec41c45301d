import Zenbedded.Foundation.LayoutPass

namespace Zenbedded.Transport

open Zenbedded.Foundation

/-! # The `zcdr_*` serializer

The Tier 1 CDR code.  `zcdrInit*` lays the message out once and records the
offsets of everything that changes; `zcdrSerialize*` and `zcdrDeserialize*`
only copy at these offsets.

`size_t` is a word of `sizeBits` bits, `uint32_t` one of 32 bits, and the
conversions between them are the ones C makes.  A `double` is its 64-bit word.
-/

/-- The target the code is compiled for: `size_t` holds every `uint32_t`. -/
structure Platform where
  sizeBits : Nat
  wide : 32 ≤ sizeBits

def Platform.host64 : Platform := ⟨64, by decide⟩

abbrev Platform.SizeT (platform : Platform) := BitVec platform.sizeBits

abbrev Double := BitVec 64

variable {platform : Platform}

def cdrHeaderSize : Nat := 4

def alignUp (offset alignment : platform.SizeT) : platform.SizeT :=
  BitVec.ofNat _ cdrHeaderSize +
    (((offset - BitVec.ofNat _ cdrHeaderSize) + alignment - 1) &&& ~~~(alignment - 1))

abbrev Out (platform : Platform) := Layout.Out platform.sizeBits

namespace Out

def memcpy (out : Out platform) (source : Bytes) : Except Fault (Out platform) :=
  (storeBytes out.buffer out.cursor.toNat source).map fun buffer => { out with buffer }

def advance (out : Out platform) (count : platform.SizeT) : Out platform :=
  { out with cursor := out.cursor + count }

def align (out : Out platform) (alignment : platform.SizeT) : Out platform :=
  { out with cursor := alignUp out.cursor alignment }

def putU32 (out : Out platform) (value : BitVec 32) : Except Fault (Out platform) := do
  let out ← out.memcpy (wordBytes value)
  return out.advance 4

/-- A length word and the characters with their NUL.  The length is a
`uint32_t`, so it is also the number of bytes that are copied. -/
def putString (out : Out platform) (text : CString) : Except Fault (Out platform) := do
  let length := BitVec.ofNat 32 (text.strlen + 1)
  let out ← out.putU32 length
  let out ← out.memcpy (text.bytes.take length.toNat)
  return out.advance (length.setWidth _)

def putOptionalString (out : Out platform) : Option CString → Except Fault (Out platform)
  | some text => out.putString text
  | none => do
      let out ← out.putU32 1
      let out ← out.memcpy [0]
      return out.advance 1

def putNames (out : Out platform) : List CString → Except Fault (Out platform)
  | [] => return out
  | name :: rest => do
      let out ← (out.align 4).putString name
      putNames out rest

def putCount (out : Out platform) (numJoints : BitVec 32) : Except Fault (Out platform) := do
  let out ← (out.align 4).putU32 numJoints
  return out.align 8

end Out

/-- `8 * num_joints`, a 32-bit product that is then widened to `size_t`. -/
def arraySize (numJoints : BitVec 32) : platform.SizeT := (8 * numJoints).setWidth _

structure JointStateCtx (platform : Platform) where
  numJoints : BitVec 32
  offsetTimestamp : platform.SizeT
  offsetPosition : platform.SizeT
  offsetVelocity : platform.SizeT
  offsetEffort : platform.SizeT
  payloadSize : platform.SizeT
deriving Repr, DecidableEq

def zcdrInitJointState (frameId : Option CString) (jointNames : List CString)
    (numJoints : BitVec 32) (outBuffer : Bytes) :
    Except Fault (JointStateCtx platform × Bytes) := do
  let out : Out platform := ⟨outBuffer, 0⟩
  let out ← out.memcpy [0x00, 0x01, 0x00, 0x00]
  let out := out.advance 4
  let offsetTimestamp := out.cursor
  let out := out.advance 8
  let out ← out.putOptionalString frameId
  let out ← (out.align 4).putU32 numJoints
  let out ← out.putNames (jointNames.take numJoints.toNat)
  let out ← out.putCount numJoints
  let offsetPosition := out.cursor
  let out := out.advance (arraySize numJoints)
  let out ← out.putCount numJoints
  let offsetVelocity := out.cursor
  let out := out.advance (arraySize numJoints)
  let out ← out.putCount numJoints
  let offsetEffort := out.cursor
  let out := out.advance (arraySize numJoints)
  return ({ numJoints, offsetTimestamp, offsetPosition, offsetVelocity, offsetEffort,
            payloadSize := out.cursor }, out.buffer)

/-- Copy `count` bytes of an array of doubles, unless the pointer is NULL. -/
def copyIn (outBuffer : Bytes) (offset count : platform.SizeT) :
    Option (List Double) → Except Fault Bytes
  | none => .ok outBuffer
  | some values => storeBytes outBuffer offset.toNat ((arrayBytes values).take count.toNat)

def zcdrSerializeJointState (ctx : JointStateCtx platform) (stampSec stampNanosec : BitVec 32)
    (positions velocities efforts : Option (List Double)) (outBuffer : Bytes) :
    Except Fault Bytes := do
  let outBuffer ← storeBytes outBuffer ctx.offsetTimestamp.toNat (wordBytes stampSec)
  let outBuffer ← storeBytes outBuffer (ctx.offsetTimestamp + 4).toNat (wordBytes stampNanosec)
  let outBuffer ← copyIn outBuffer ctx.offsetPosition (arraySize ctx.numJoints) positions
  let outBuffer ← copyIn outBuffer ctx.offsetVelocity (arraySize ctx.numJoints) velocities
  copyIn outBuffer ctx.offsetEffort (arraySize ctx.numJoints) efforts

/-- Where a deserializer stores its results: `none` is a NULL pointer, `some`
holds what the destination contains. -/
structure JointStateOut where
  stampSec : Option (BitVec 32)
  stampNanosec : Option (BitVec 32)
  positions : Option (List Double)
  velocities : Option (List Double)
  efforts : Option (List Double)
deriving Repr, DecidableEq

def copyOutWord (inBuffer : Bytes) (offset : platform.SizeT) :
    Option (BitVec 32) → Except Fault (Option (BitVec 32))
  | none => .ok none
  | some _ => do
      let bytes ← loadBytes inBuffer offset.toNat 4
      return some (ofWordBytes 32 bytes)

/-- Load `count` bytes into an array of doubles that may be NULL.  The array
keeps what it held behind them. -/
def copyOut (inBuffer : Bytes) (offset count : platform.SizeT) :
    Option (List Double) → Except Fault (Option (List Double))
  | none => .ok none
  | some old => do
      let bytes ← loadBytes inBuffer offset.toNat count.toNat
      let new ← storeBytes (arrayBytes old) 0 bytes
      return some (ofArrayBytes 64 old.length new)

def zcdrDeserializeJointState (ctx : JointStateCtx platform) (inBuffer : Bytes)
    (bufferSize : platform.SizeT) (out : JointStateOut) : Except Fault (Bool × JointStateOut) :=
  if bufferSize < ctx.payloadSize then .ok (false, out)
  else do
    let stampSec ← copyOutWord inBuffer ctx.offsetTimestamp out.stampSec
    let stampNanosec ← copyOutWord inBuffer (ctx.offsetTimestamp + 4) out.stampNanosec
    let positions ← copyOut inBuffer ctx.offsetPosition (arraySize ctx.numJoints) out.positions
    let velocities ← copyOut inBuffer ctx.offsetVelocity (arraySize ctx.numJoints) out.velocities
    let efforts ← copyOut inBuffer ctx.offsetEffort (arraySize ctx.numJoints) out.efforts
    return (true, { stampSec, stampNanosec, positions, velocities, efforts })

structure JointCommandCtx (platform : Platform) where
  numJoints : BitVec 32
  offsetTimestamp : platform.SizeT
  offsetValues : platform.SizeT
  payloadSize : platform.SizeT
deriving Repr, DecidableEq

def zcdrInitJointCommand (frameId : Option CString) (jointNames : List CString)
    (numJoints : BitVec 32) (interfaceName : Option CString) (outBuffer : Bytes) :
    Except Fault (JointCommandCtx platform × Bytes) := do
  let out : Out platform := ⟨outBuffer, 0⟩
  let out ← out.memcpy [0x00, 0x01, 0x00, 0x00]
  let out := out.advance 4
  let offsetTimestamp := out.cursor
  let out := out.advance 8
  let out ← out.putOptionalString frameId
  let out ← (out.align 4).putU32 numJoints
  let out ← out.putNames (jointNames.take numJoints.toNat)
  let out ← (out.align 4).putOptionalString interfaceName
  let out ← out.putCount numJoints
  let offsetValues := out.cursor
  let out := out.advance (arraySize numJoints)
  return ({ numJoints, offsetTimestamp, offsetValues, payloadSize := out.cursor }, out.buffer)

def zcdrSerializeJointCommand (ctx : JointCommandCtx platform) (stampSec stampNanosec : BitVec 32)
    (values : Option (List Double)) (outBuffer : Bytes) : Except Fault Bytes := do
  let outBuffer ← storeBytes outBuffer ctx.offsetTimestamp.toNat (wordBytes stampSec)
  let outBuffer ← storeBytes outBuffer (ctx.offsetTimestamp + 4).toNat (wordBytes stampNanosec)
  copyIn outBuffer ctx.offsetValues (arraySize ctx.numJoints) values

structure JointCommandOut where
  stampSec : Option (BitVec 32)
  stampNanosec : Option (BitVec 32)
  values : Option (List Double)
deriving Repr, DecidableEq

def zcdrDeserializeJointCommand (ctx : JointCommandCtx platform) (inBuffer : Bytes)
    (bufferSize : platform.SizeT) (out : JointCommandOut) :
    Except Fault (Bool × JointCommandOut) :=
  if bufferSize < ctx.payloadSize then .ok (false, out)
  else do
    let stampSec ← copyOutWord inBuffer ctx.offsetTimestamp out.stampSec
    let stampNanosec ← copyOutWord inBuffer (ctx.offsetTimestamp + 4) out.stampNanosec
    let values ← copyOut inBuffer ctx.offsetValues (arraySize ctx.numJoints) out.values
    return (true, { stampSec, stampNanosec, values })

end Zenbedded.Transport
