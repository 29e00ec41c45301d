import Zenbedded.Transport.LayoutOutcome

namespace Zenbedded.Transport

open Zenbedded.Foundation

/-! # Histories of serializer calls

Each call of `zcdrSerializeJointState` patches the same buffer.  What a history
leaves there is the stamp of its last call and, for each array, the last one
that was not NULL.
-/

variable {platform : Platform}

structure JointStateValue where
  stampSec : BitVec 32
  stampNanosec : BitVec 32
  positions : Option (List Double)
  velocities : Option (List Double)
  efforts : Option (List Double)
deriving Repr, DecidableEq

structure JointStateValue.Sized (call : JointStateValue) (count : Nat) : Prop where
  positions : ∀ array ∈ call.positions, array.length = count
  velocities : ∀ array ∈ call.velocities, array.length = count
  efforts : ∀ array ∈ call.efforts, array.length = count

def serializeCalls (ctx : JointStateCtx platform) : List JointStateValue → Bytes → Except Fault Bytes
  | [], buffer => .ok buffer
  | call :: rest, buffer => do
      let buffer ← zcdrSerializeJointState ctx call.stampSec call.stampNanosec call.positions
        call.velocities call.efforts buffer
      serializeCalls ctx rest buffer

namespace JointStateParts

def call (parts : JointStateParts) (call : JointStateValue) : JointStateParts :=
  parts.write call.stampSec call.stampNanosec call.positions call.velocities call.efforts

def calls (parts : JointStateParts) (history : List JointStateValue) : JointStateParts :=
  history.foldl JointStateParts.call parts

theorem call_sized {parts : JointStateParts} {count : Nat} (sized : parts.Sized (8 * count))
    {call : JointStateValue} (lengths : call.Sized count) :
    (parts.call call).Sized (8 * count) :=
  write_sized sized _ _ lengths.positions lengths.velocities lengths.efforts

theorem call_offsets {parts : JointStateParts} {count : Nat} (sized : parts.Sized (8 * count))
    {call : JointStateValue} (lengths : call.Sized count) :
    (parts.call call).offsets = parts.offsets := by
  rw [offsets_eq (call_sized sized lengths), offsets_eq sized]
  rfl

theorem calls_sized {parts : JointStateParts} {count : Nat} (sized : parts.Sized (8 * count))
    {history : List JointStateValue} (lengths : ∀ call ∈ history, call.Sized count) :
    (parts.calls history).Sized (8 * count) := by
  induction history generalizing parts with
  | nil => exact sized
  | cons call rest ih =>
      exact ih (call_sized sized (lengths call (List.mem_cons_self ..)))
        fun other member => lengths other (List.mem_cons_of_mem _ member)

theorem calls_offsets {parts : JointStateParts} {count : Nat} (sized : parts.Sized (8 * count))
    {history : List JointStateValue} (lengths : ∀ call ∈ history, call.Sized count) :
    (parts.calls history).offsets = parts.offsets := by
  induction history generalizing parts with
  | nil => rfl
  | cons call rest ih =>
      have first := lengths call (List.mem_cons_self ..)
      have others := fun other member => lengths other (List.mem_cons_of_mem call member)
      exact (ih (call_sized sized first) others).trans (call_offsets sized first)

theorem calls_append (parts : JointStateParts) (before after : List JointStateValue) :
    parts.calls (before ++ after) = (parts.calls before).calls after :=
  List.foldl_append

end JointStateParts

theorem serializeCalls_parts {ctx : JointStateCtx platform} {numJoints : BitVec 32}
    {parts : JointStateParts} (points : ctx.At numJoints parts.offsets)
    (sized : parts.Sized (8 * numJoints.toNat))
    (narrow : (8 * numJoints).toNat = 8 * numJoints.toNat) {history : List JointStateValue}
    (lengths : ∀ call ∈ history, call.Sized numJoints.toNat) (rest : Bytes) :
    serializeCalls ctx history (parts.payload ++ rest) =
      .ok ((parts.calls history).payload ++ rest) := by
  induction history generalizing parts with
  | nil => rfl
  | cons call later ih =>
      have first := lengths call (List.mem_cons_self ..)
      have others := fun other member => lengths other (List.mem_cons_of_mem call member)
      have stored := zcdrSerializeJointState_parts points sized narrow call.stampSec
        call.stampNanosec first.positions first.velocities first.efforts rest
      have next : ctx.At numJoints (parts.call call).offsets := by
        rw [JointStateParts.call_offsets sized first]
        exact points
      rw [serializeCalls, stored]
      exact ih next (JointStateParts.call_sized sized first) others

/-- The last array of the history that was not NULL, `initial` if there was none. -/
def lastArray (select : JointStateValue → Option (List Double)) (history : List JointStateValue)
    (initial : List Double) : List Double :=
  (history.filterMap select).getLast?.getD initial

theorem lastArray_cons (select : JointStateValue → Option (List Double)) (call : JointStateValue)
    (rest : List JointStateValue) (initial : List Double) :
    lastArray select (call :: rest) initial =
      lastArray select rest ((select call).getD initial) := by
  cases given : select call with
  | none => simp [lastArray, given]
  | some array => simp [lastArray, given, List.getLast?_cons]

theorem lastArray_append (select : JointStateValue → Option (List Double))
    (before after : List JointStateValue) (initial : List Double) :
    lastArray select (before ++ after) initial =
      lastArray select after (lastArray select before initial) := by
  induction before generalizing initial with
  | nil => rfl
  | cons call rest ih => rw [List.cons_append, lastArray_cons, lastArray_cons, ih]

theorem copied_arrayBytes (initial : List Double) (values : Option (List Double)) :
    copied (arrayBytes initial) values = arrayBytes (values.getD initial) := by
  cases values with
  | none => rfl
  | some array => rfl

/-- The arrays of a history, from arrays that the buffer held before. -/
theorem JointStateParts.calls_arrays {parts : JointStateParts}
    {position velocity effort : List Double} (positionHeld : parts.position = arrayBytes position)
    (velocityHeld : parts.velocity = arrayBytes velocity)
    (effortHeld : parts.effort = arrayBytes effort) (history : List JointStateValue) :
    (parts.calls history).position =
        arrayBytes (lastArray JointStateValue.positions history position) ∧
      (parts.calls history).velocity =
        arrayBytes (lastArray JointStateValue.velocities history velocity) ∧
      (parts.calls history).effort =
        arrayBytes (lastArray JointStateValue.efforts history effort) := by
  induction history generalizing parts position velocity effort with
  | nil => exact ⟨positionHeld, velocityHeld, effortHeld⟩
  | cons call rest ih =>
      simp only [lastArray_cons]
      refine ih ?_ ?_ ?_
      · rw [← copied_arrayBytes, ← positionHeld]
        rfl
      · rw [← copied_arrayBytes, ← velocityHeld]
        rfl
      · rw [← copied_arrayBytes, ← effortHeld]
        rfl

/-- What a history leaves fixed: everything but the stamp and the arrays. -/
theorem JointStateParts.calls_fixed (parts : JointStateParts) (history : List JointStateValue) :
    (parts.calls history).head = parts.head ∧
      (parts.calls history).velocityCount = parts.velocityCount ∧
      (parts.calls history).effortCount = parts.effortCount := by
  induction history generalizing parts with
  | nil => exact ⟨rfl, rfl, rfl⟩
  | cons call rest ih => exact ih (parts.call call)

theorem JointStateParts.calls_stamp (parts : JointStateParts) (before : List JointStateValue)
    (last : JointStateValue) :
    (parts.calls (before ++ [last])).sec = wordBytes last.stampSec ∧
      (parts.calls (before ++ [last])).nanosec = wordBytes last.stampNanosec := by
  rw [JointStateParts.calls_append]
  exact ⟨rfl, rfl⟩

end Zenbedded.Transport
