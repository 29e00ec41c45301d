import Zenbedded.Transport.History

namespace Zenbedded.Rcl

open Zenbedded.Foundation Zenbedded.Transport

/-! # Codecs

The contract between the client and a message type, and its three instances.
A codec fills a buffer once (`init`) and then patches it (`write`) or decodes
it (`read`).
-/

structure StateCodec (platform : Platform) (Ctx InitParams Value : Type) where
  init : Ctx → InitParams → Bytes → Except Fault (Ctx × Bytes)
  payloadSize : Ctx → platform.SizeT
  write : Ctx → Value → Bytes → Except Fault Bytes

structure CommandCodec (platform : Platform) (Ctx InitParams Value : Type) where
  init : Ctx → InitParams → Bytes → Except Fault (Ctx × Bytes)
  payloadSize : Ctx → platform.SizeT
  read : Ctx → Bytes → platform.SizeT → Value → Except Fault (Bool × Value)

variable {platform : Platform}

/-- An object of a trivially copyable type is its bytes. -/
abbrev RawValue (size : platform.SizeT) := { bytes : Bytes // bytes.length = size.toNat }

namespace RawCodec

def init : Unit → Unit → Bytes → Except Fault (Unit × Bytes) := fun _ _ buffer => .ok ((), buffer)

def payloadSize (size : platform.SizeT) : Unit → platform.SizeT := fun _ => size

def write (size : platform.SizeT) (_ : Unit) (value : RawValue size) (buffer : Bytes) :
    Except Fault Bytes :=
  storeBytes buffer 0 value.val

def read (size : platform.SizeT) (_ : Unit) (buffer : Bytes) (bufferSize : platform.SizeT)
    (out : RawValue size) : Except Fault (Bool × RawValue size) :=
  if bufferSize < size then .ok (false, out)
  else (loadExact buffer 0 size.toNat).map fun value => (true, value)

def state (size : platform.SizeT) : StateCodec platform Unit Unit (RawValue size) :=
  { init, payloadSize := payloadSize size, write := write size }

def command (size : platform.SizeT) : CommandCodec platform Unit Unit (RawValue size) :=
  { init, payloadSize := payloadSize size, read := read size }

end RawCodec

namespace JointStateCodec

structure InitParams where
  frameId : Option CString
  jointNames : List CString
  numJoints : BitVec 32
  /-- `joint_names` points at `num_joints` strings. -/
  joints : jointNames.length = numJoints.toNat

def init (_ : JointStateCtx platform) (params : InitParams) (buffer : Bytes) :
    Except Fault (JointStateCtx platform × Bytes) :=
  zcdrInitJointState params.frameId params.jointNames params.numJoints buffer

def payloadSize (ctx : JointStateCtx platform) : platform.SizeT := ctx.payloadSize

def write (ctx : JointStateCtx platform) (value : JointStateValue) (buffer : Bytes) :
    Except Fault Bytes :=
  zcdrSerializeJointState ctx value.stampSec value.stampNanosec value.positions value.velocities
    value.efforts buffer

def codec (platform : Platform) :
    StateCodec platform (JointStateCtx platform) InitParams JointStateValue :=
  { init, payloadSize, write }

end JointStateCodec

namespace JointCommandCodec

structure InitParams where
  frameId : Option CString
  jointNames : List CString
  numJoints : BitVec 32
  interfaceName : Option CString
  joints : jointNames.length = numJoints.toNat

structure Value where
  stampSec : BitVec 32
  stampNanosec : BitVec 32
  values : Option (List Double)
deriving Repr, DecidableEq

def init (_ : JointCommandCtx platform) (params : InitParams) (buffer : Bytes) :
    Except Fault (JointCommandCtx platform × Bytes) :=
  zcdrInitJointCommand params.frameId params.jointNames params.numJoints params.interfaceName buffer

def payloadSize (ctx : JointCommandCtx platform) : platform.SizeT := ctx.payloadSize

def read (ctx : JointCommandCtx platform) (buffer : Bytes) (size : platform.SizeT) (out : Value) :
    Except Fault (Bool × Value) := do
  let (accepted, result) ← zcdrDeserializeJointCommand ctx buffer size
    { stampSec := some out.stampSec, stampNanosec := some out.stampNanosec, values := out.values }
  return (accepted,
    { stampSec := result.stampSec.getD out.stampSec
      stampNanosec := result.stampNanosec.getD out.stampNanosec
      values := result.values })

def codec (platform : Platform) :
    CommandCodec platform (JointCommandCtx platform) InitParams Value :=
  { init, payloadSize, read }

end JointCommandCodec

end Zenbedded.Rcl
