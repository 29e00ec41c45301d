import Zenbedded.Transport.Serialization

namespace Zenbedded.Transport

open Zenbedded.Foundation Zenbedded.Foundation.Cdr

/-! # What the layout passes compute

`zcdrInitJointState` and `zcdrInitJointCommand` are layout passes.  This module
gives the operations they perform, the offsets that come out of them, and the
bytes they leave in the buffer.
-/

variable {platform : Platform}

abbrev LayoutOps (platform : Platform) := List (Layout.Op platform.sizeBits)

def shift4 : Fin platform.sizeBits := ⟨2, Nat.lt_of_lt_of_le (by decide) platform.wide⟩

def shift8 : Fin platform.sizeBits := ⟨3, Nat.lt_of_lt_of_le (by decide) platform.wide⟩

def stringOps (text : CString) : LayoutOps platform :=
  [.put (wordBytes (BitVec.ofNat 32 (text.strlen + 1))),
    .put (text.bytes.take (BitVec.ofNat 32 (text.strlen + 1)).toNat)]

def nameOps (name : CString) : LayoutOps platform := .align shift4 :: stringOps name

def countOps (numJoints : BitVec 32) : LayoutOps platform :=
  [.align shift4, .put (wordBytes numJoints), .align shift8]

/-- `frame_id` and the names, behind the stamp. -/
def headOps (frameId : CString) (jointNames : List CString) (numJoints : BitVec 32) :
    LayoutOps platform :=
  stringOps frameId ++ [.align shift4, .put (wordBytes numJoints)] ++ jointNames.flatMap nameOps

def jointStateOps (frameId : CString) (jointNames : List CString) (numJoints : BitVec 32) :
    LayoutOps platform :=
  headOps frameId jointNames numJoints ++ countOps numJoints

def jointCommandOps (frameId : CString) (jointNames : List CString) (interfaceName : CString)
    (numJoints : BitVec 32) : LayoutOps platform :=
  headOps frameId jointNames numJoints ++ nameOps interfaceName ++ countOps numJoints

/-- The room of one array and the count of the next one. -/
def nextArrayOps (numJoints : BitVec 32) : LayoutOps platform :=
  .skip (arraySize numJoints) :: countOps numJoints

abbrev layout (ops : LayoutOps platform) (out : Out platform) : Except Fault (Out platform) :=
  Layout.exec cdrHeaderSize ops out

theorem layout_append (first second : LayoutOps platform) (out : Out platform) :
    layout (first ++ second) out = layout first out >>= layout second :=
  Layout.exec_append _ _ _ _

theorem layout_skip (count : platform.SizeT) (rest : LayoutOps platform) (out : Out platform) :
    layout (.skip count :: rest) out = layout rest (out.advance count) := rfl

def OptionalString.value (text : Option CString) : CString := text.getD CString.empty

theorem wordBytes_advance (out : Out platform) (word : BitVec 32) :
    out.putU32 word = Layout.Op.exec cdrHeaderSize (.put (wordBytes word)) out := by
  simp only [Out.putU32, Out.memcpy, Layout.Op.exec]
  cases storeBytes out.buffer out.cursor.toNat (wordBytes word) with
  | error fault => rfl
  | ok buffer =>
      simp only [Except.map, bind, Except.bind, Out.advance, wordBytes_length]
      rfl

theorem align_four (out : Out platform) :
    Except.ok (out.align 4) = Layout.Op.exec cdrHeaderSize (.align shift4) out := rfl

theorem memcpy_advance (out : Out platform) (source : Bytes) (count : platform.SizeT)
    (counted : count = BitVec.ofNat _ source.length) :
    (do
      let out ← out.memcpy source
      return out.advance count) = Layout.Op.exec cdrHeaderSize (.put source) out := by
  subst counted
  simp only [Out.memcpy, Layout.Op.exec]
  cases storeBytes out.buffer out.cursor.toNat source <;> rfl

theorem Platform.representable (platform : Platform) {value : Nat} (small : value < 2 ^ 32) :
    value < 2 ^ platform.sizeBits :=
  Nat.lt_of_lt_of_le small (Nat.pow_le_pow_right (by decide) platform.wide)

theorem setWidth_toNat (count : BitVec 32) :
    (count.setWidth platform.sizeBits).toNat = count.toNat := by
  rw [BitVec.toNat_setWidth]
  exact Nat.mod_eq_of_lt (platform.representable count.isLt)

/-- Only as many bytes as the `uint32_t` length says, and never more than there are. -/
theorem stored_length (text : CString) :
    (text.bytes.take (BitVec.ofNat 32 (text.strlen + 1)).toNat).length =
      (text.strlen + 1) % 2 ^ 32 := by
  rw [List.length_take, CString.bytes_length, BitVec.toNat_ofNat]
  exact Nat.min_eq_left (Nat.mod_le _ _)

theorem putString_layout (out : Out platform) (text : CString) :
    out.putString text = layout (stringOps text) out := by
  have counted : (BitVec.ofNat 32 (text.strlen + 1)).setWidth platform.sizeBits =
      BitVec.ofNat platform.sizeBits
        (text.bytes.take (BitVec.ofNat 32 (text.strlen + 1)).toNat).length := by
    apply BitVec.eq_of_toNat_eq
    have small : (text.strlen + 1) % 2 ^ 32 < 2 ^ 32 := Nat.mod_lt _ (by decide)
    rw [setWidth_toNat, stored_length, BitVec.toNat_ofNat,
      Layout.toNat_ofNat_of_lt _ (platform.representable small)]
  simp only [Out.putString, stringOps, layout, Layout.exec, wordBytes_advance]
  congr 1
  funext next
  rw [memcpy_advance next _ _ counted]
  cases Layout.Op.exec cdrHeaderSize _ next <;> rfl

theorem putOptionalString_layout (out : Out platform) (text : Option CString) :
    out.putOptionalString text = layout (stringOps (OptionalString.value text)) out := by
  cases text with
  | some text => exact putString_layout out text
  | none =>
      have one : (BitVec.ofNat 32 1).setWidth platform.sizeBits = 1 := by
        apply BitVec.eq_of_toNat_eq
        rw [setWidth_toNat]
        exact (Layout.toNat_ofNat_of_lt 1 (platform.representable (by decide))).symm
      rw [← putString_layout]
      simp only [Out.putOptionalString, Out.putString, OptionalString.value, Option.getD_none,
        CString.strlen, CString.bytes, CString.empty, List.length_nil, Nat.zero_add, one]
      rfl

theorem putNames_layout (out : Out platform) (names : List CString) :
    out.putNames names = layout (names.flatMap nameOps) out := by
  induction names generalizing out with
  | nil => rfl
  | cons name rest ih =>
      rw [List.flatMap_cons, layout_append, Out.putNames, putString_layout]
      simp only [nameOps, Layout.exec, ← align_four]
      exact bind_congr fun next => ih next

theorem putCount_layout (out : Out platform) (numJoints : BitVec 32) :
    out.putCount numJoints = layout (countOps numJoints) out := by
  simp only [Out.putCount, wordBytes_advance, countOps, layout, Layout.exec, ← align_four]
  rfl

/-- Behind a string whose length word is at `position`. -/
def stringEnd (position : Nat) (text : CString) : Nat :=
  position + 4 + (text.strlen + 1) % 2 ^ 32

def namesEnd (position : Nat) : List CString → Nat
  | [] => position
  | name :: rest => namesEnd (stringEnd (alignTo 4 position) name) rest

/-- Where the elements of an array start whose count comes next. -/
def countEnd (position : Nat) : Nat := alignTo 8 (alignTo 4 position + 4)

/-- Behind the names; the stamp takes the first eight bytes. -/
def headEnd (frameId : CString) (jointNames : List CString) : Nat :=
  namesEnd (alignTo 4 (stringEnd 8 frameId) + 4) jointNames

theorem endsAt_stringOps (text : CString) (position : Nat) :
    Layout.endsAt (stringOps text : LayoutOps platform) position = stringEnd position text := by
  simp only [stringOps, Layout.endsAt, Layout.Op.next, stored_length, wordBytes_length]
  rfl

theorem endsAt_names (names : List CString) (position : Nat) :
    Layout.endsAt (names.flatMap nameOps : LayoutOps platform) position =
      namesEnd position names := by
  induction names generalizing position with
  | nil => rfl
  | cons name rest ih =>
      rw [List.flatMap_cons, Layout.endsAt_append, ih, nameOps, Layout.endsAt, endsAt_stringOps]
      rfl

theorem endsAt_countOps (numJoints : BitVec 32) (position : Nat) :
    Layout.endsAt (countOps numJoints : LayoutOps platform) position = countEnd position := by
  simp only [countOps, Layout.endsAt, Layout.Op.next, wordBytes_length]
  rfl

theorem endsAt_nextArrayOps (numJoints : BitVec 32) (position : Nat) :
    Layout.endsAt (nextArrayOps numJoints : LayoutOps platform) position =
      countEnd (position + (8 * numJoints).toNat) := by
  rw [nextArrayOps, Layout.endsAt, endsAt_countOps, Layout.Op.next, arraySize, setWidth_toNat]

theorem endsAt_headOps (frameId : CString) (jointNames : List CString) (numJoints : BitVec 32) :
    Layout.endsAt (headOps frameId jointNames numJoints : LayoutOps platform) 8 =
      headEnd frameId jointNames := by
  simp only [headOps, Layout.endsAt, Layout.endsAt_append, endsAt_stringOps, endsAt_names,
    Layout.Op.next, wordBytes_length]
  rfl

theorem endsAt_jointStateOps (frameId : CString) (jointNames : List CString)
    (numJoints : BitVec 32) :
    Layout.endsAt (jointStateOps frameId jointNames numJoints : LayoutOps platform) 8 =
      countEnd (headEnd frameId jointNames) := by
  rw [jointStateOps, Layout.endsAt_append, endsAt_headOps, endsAt_countOps]

theorem endsAt_jointCommandOps (frameId : CString) (jointNames : List CString)
    (interfaceName : CString) (numJoints : BitVec 32) :
    Layout.endsAt (jointCommandOps frameId jointNames interfaceName numJoints :
        LayoutOps platform) 8 =
      countEnd (stringEnd (alignTo 4 (headEnd frameId jointNames)) interfaceName) := by
  rw [jointCommandOps, Layout.endsAt_append, Layout.endsAt_append, endsAt_headOps, nameOps,
    Layout.endsAt, endsAt_stringOps, endsAt_countOps]
  rfl

/-- Byte offsets in the payload; the encapsulation header comes first. -/
structure JointStateOffsets where
  position : Nat
  velocity : Nat
  effort : Nat
  payload : Nat
deriving Repr, DecidableEq

def jointStateOffsets (frameId : CString) (jointNames : List CString) (arrayBytes : Nat) :
    JointStateOffsets :=
  let position := countEnd (headEnd frameId jointNames)
  let velocity := countEnd (position + arrayBytes)
  let effort := countEnd (velocity + arrayBytes)
  { position := cdrHeaderSize + position
    velocity := cdrHeaderSize + velocity
    effort := cdrHeaderSize + effort
    payload := cdrHeaderSize + effort + arrayBytes }

/-- The context holds the offsets, as machine words that did not wrap. -/
structure JointStateCtx.At (ctx : JointStateCtx platform) (numJoints : BitVec 32)
    (offsets : JointStateOffsets) : Prop where
  numJoints : ctx.numJoints = numJoints
  timestamp : ctx.offsetTimestamp.toNat = cdrHeaderSize
  position : ctx.offsetPosition.toNat = offsets.position
  velocity : ctx.offsetVelocity.toNat = offsets.velocity
  effort : ctx.offsetEffort.toNat = offsets.effort
  payload : ctx.payloadSize.toNat = offsets.payload

structure JointCommandOffsets where
  values : Nat
  payload : Nat
deriving Repr, DecidableEq

def jointCommandOffsets (frameId : CString) (jointNames : List CString) (interfaceName : CString)
    (arrayBytes : Nat) : JointCommandOffsets :=
  let values := countEnd (stringEnd (alignTo 4 (headEnd frameId jointNames)) interfaceName)
  { values := cdrHeaderSize + values
    payload := cdrHeaderSize + values + arrayBytes }

structure JointCommandCtx.At (ctx : JointCommandCtx platform) (numJoints : BitVec 32)
    (offsets : JointCommandOffsets) : Prop where
  numJoints : ctx.numJoints = numJoints
  timestamp : ctx.offsetTimestamp.toNat = cdrHeaderSize
  values : ctx.offsetValues.toNat = offsets.values
  payload : ctx.payloadSize.toNat = offsets.payload

theorem memcpy_header (outBuffer : Bytes) :
    (do
      let out ← Out.memcpy (⟨outBuffer, 0⟩ : Out platform) encapsulation
      return out.advance 4) = layout [.put encapsulation] ⟨outBuffer, 0⟩ := by
  rw [memcpy_advance _ encapsulation 4 rfl, layout, Layout.exec]
  cases Layout.Op.exec cdrHeaderSize (.put encapsulation) (⟨outBuffer, 0⟩ : Out platform) <;> rfl

theorem putHead_layout (out : Out platform) (frameId : Option CString) (jointNames : List CString)
    (numJoints : BitVec 32) :
    (do
      let out ← out.putOptionalString frameId
      let out ← (out.align 4).putU32 numJoints
      out.putNames jointNames) =
      layout (headOps (OptionalString.value frameId) jointNames numJoints) out := by
  have count (next : Out platform) :
      layout [.align shift4, .put (wordBytes numJoints)] next =
        (next.align 4).putU32 numJoints := by
    rw [wordBytes_advance, layout, Layout.exec, ← align_four]
    exact bind_pure (m := Except Fault) _
  rw [headOps, layout_append, layout_append, putOptionalString_layout, bind_assoc]
  refine bind_congr fun next => ?_
  rw [count]
  exact bind_congr fun last => putNames_layout last jointNames

theorem zcdrInitJointState_layout (frameId : Option CString) (jointNames : List CString)
    (numJoints : BitVec 32) (outBuffer : Bytes) :
    (zcdrInitJointState frameId jointNames numJoints outBuffer :
        Except Fault (JointStateCtx platform × Bytes)) = (do
      let header ← layout [.put encapsulation] ⟨outBuffer, 0⟩
      let position ← layout (.skip 8 :: jointStateOps (OptionalString.value frameId)
        (jointNames.take numJoints.toNat) numJoints) header
      let velocity ← layout (nextArrayOps numJoints) position
      let effort ← layout (nextArrayOps numJoints) velocity
      let payload ← layout [.skip (arraySize numJoints)] effort
      return ({ numJoints
                offsetTimestamp := header.cursor
                offsetPosition := position.cursor
                offsetVelocity := velocity.cursor
                offsetEffort := effort.cursor
                payloadSize := payload.cursor }, payload.buffer)) := by
  simp only [← memcpy_header, layout_skip, jointStateOps, layout_append, ← putHead_layout,
    zcdrInitJointState, bind_assoc, pure_bind, putCount_layout]
  rfl

theorem zcdrInitJointCommand_layout (frameId : Option CString) (jointNames : List CString)
    (numJoints : BitVec 32) (interfaceName : Option CString) (outBuffer : Bytes) :
    (zcdrInitJointCommand frameId jointNames numJoints interfaceName outBuffer :
        Except Fault (JointCommandCtx platform × Bytes)) = (do
      let header ← layout [.put encapsulation] ⟨outBuffer, 0⟩
      let values ← layout (.skip 8 :: jointCommandOps (OptionalString.value frameId)
        (jointNames.take numJoints.toNat) (OptionalString.value interfaceName) numJoints) header
      let payload ← layout [.skip (arraySize numJoints)] values
      return ({ numJoints
                offsetTimestamp := header.cursor
                offsetValues := values.cursor
                payloadSize := payload.cursor }, payload.buffer)) := by
  have name (out : Out platform) : layout (nameOps (OptionalString.value interfaceName)) out =
      (out.align 4).putOptionalString interfaceName := by
    rw [putOptionalString_layout]
    rfl
  simp only [← memcpy_header, layout_skip, jointCommandOps, layout_append, ← putHead_layout,
    zcdrInitJointCommand, bind_assoc, pure_bind, putCount_layout, name]
  rfl

end Zenbedded.Transport
