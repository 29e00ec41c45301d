import Mathlib.Logic.Function.Basic
import Zenbedded.Foundation.Bytes

namespace Zenbedded.Rcl

open Zenbedded.Foundation

/-! # The double buffer

Two slots, a version counter for each, and the index of the slot that readers
use.  The functions here run alone; `Interleaving` takes them apart into the
atomic steps that a writer and its readers really perform.
-/

abbrev SlotIdx := Fin 2

instance slotIdx_nonempty : NeZero 2 := ⟨by decide⟩

/-- `idx ^ 1`. -/
def otherSlot : SlotIdx → SlotIdx
  | 0 => 1
  | 1 => 0

@[simp] theorem otherSlot_otherSlot (index : SlotIdx) : otherSlot (otherSlot index) = index := by
  revert index
  decide

theorem otherSlot_ne (index : SlotIdx) : otherSlot index ≠ index := by
  revert index
  decide

/-- Counters are `atomic_t`, a word of `width` bits. -/
structure DoubleBuffer (width : Nat) where
  slots : SlotIdx → Bytes
  version : SlotIdx → BitVec width
  activeIdx : SlotIdx

namespace DoubleBuffer

variable {width : Nat}

/-- Every counter and every byte is zero. -/
def cleared (size : Nat) : DoubleBuffer width :=
  { slots := fun _ => List.replicate size 0
    version := fun _ => 0
    activeIdx := 0 }

def setSlot (buffer : DoubleBuffer width) (index : SlotIdx) (bytes : Bytes) : DoubleBuffer width :=
  { buffer with slots := Function.update buffer.slots index bytes }

def prepareWriteSlot (buffer : DoubleBuffer width) : SlotIdx := otherSlot buffer.activeIdx

def incVersion (buffer : DoubleBuffer width) (index : SlotIdx) : DoubleBuffer width :=
  { buffer with version := Function.update buffer.version index (buffer.version index + 1) }

def setActiveIdx (buffer : DoubleBuffer width) (index : SlotIdx) : DoubleBuffer width :=
  { buffer with activeIdx := index }

def commitWriteSlot (buffer : DoubleBuffer width) (index : SlotIdx) : DoubleBuffer width :=
  (buffer.incVersion index).setActiveIdx index

def writeToBuffer (buffer : DoubleBuffer width) (data : Bytes) :
    Except Fault (DoubleBuffer width) := do
  let index := buffer.prepareWriteSlot
  let bytes ← storeBytes (buffer.slots index) 0 data
  return (buffer.setSlot index bytes).commitWriteSlot index

/-- The copy, and whether index and version are still what they were. -/
def readFromBuffer (buffer : DoubleBuffer width) (size : Nat) : Except Fault (Bool × Bytes) := do
  let readIdx := buffer.activeIdx
  let verBefore := buffer.version readIdx
  let bytes ← loadBytes (buffer.slots readIdx) 0 size
  return (buffer.activeIdx = readIdx ∧ buffer.version readIdx = verBefore, bytes)

@[simp] theorem setSlot_activeIdx (buffer : DoubleBuffer width) (index : SlotIdx) (bytes : Bytes) :
    (buffer.setSlot index bytes).activeIdx = buffer.activeIdx := rfl

@[simp] theorem setSlot_version (buffer : DoubleBuffer width) (index : SlotIdx) (bytes : Bytes) :
    (buffer.setSlot index bytes).version = buffer.version := rfl

@[simp] theorem setSlot_same (buffer : DoubleBuffer width) (index : SlotIdx) (bytes : Bytes) :
    (buffer.setSlot index bytes).slots index = bytes := Function.update_self ..

@[simp] theorem setSlot_other {buffer : DoubleBuffer width} {index other : SlotIdx} (bytes : Bytes)
    (apart : other ≠ index) : (buffer.setSlot index bytes).slots other = buffer.slots other :=
  Function.update_of_ne apart ..

@[simp] theorem commitWriteSlot_activeIdx (buffer : DoubleBuffer width) (index : SlotIdx) :
    (buffer.commitWriteSlot index).activeIdx = index := rfl

@[simp] theorem commitWriteSlot_slots (buffer : DoubleBuffer width) (index : SlotIdx) :
    (buffer.commitWriteSlot index).slots = buffer.slots := rfl

/-- Alone, a reader succeeds at its first attempt. -/
theorem readFromBuffer_ok {buffer : DoubleBuffer width} {size : Nat}
    (room : size ≤ (buffer.slots buffer.activeIdx).length) :
    buffer.readFromBuffer size =
      .ok (true, (buffer.slots buffer.activeIdx).take size) := by
  have loaded : loadBytes (buffer.slots buffer.activeIdx) 0 size =
      .ok ((buffer.slots buffer.activeIdx).take size) := by
    rw [loadBytes_ok (by omega), List.drop_zero]
  simp [readFromBuffer, loaded, bind, Except.bind, pure, Except.pure]

theorem writeToBuffer_ok {buffer : DoubleBuffer width} {data : Bytes}
    (room : data.length ≤ (buffer.slots (otherSlot buffer.activeIdx)).length) :
    buffer.writeToBuffer data =
      .ok ((buffer.setSlot (otherSlot buffer.activeIdx)
        (overwrite (buffer.slots (otherSlot buffer.activeIdx)) 0 data)).commitWriteSlot
          (otherSlot buffer.activeIdx)) := by
  have stored : storeBytes (buffer.slots (otherSlot buffer.activeIdx)) 0 data =
      .ok (overwrite (buffer.slots (otherSlot buffer.activeIdx)) 0 data) :=
    storeBytes_ok (by omega)
  simp only [writeToBuffer, prepareWriteSlot, stored, bind, Except.bind]
  rfl

/-- Both slots have `capacity` bytes. -/
def Sized (buffer : DoubleBuffer width) (capacity : Nat) : Prop :=
  ∀ index, (buffer.slots index).length = capacity

theorem cleared_sized (capacity : Nat) :
    (cleared capacity : DoubleBuffer width).Sized capacity :=
  fun _ => List.length_replicate

theorem Sized.setSlot {buffer : DoubleBuffer width} {capacity : Nat}
    (sized : buffer.Sized capacity) (index : SlotIdx) {bytes : Bytes}
    (length : bytes.length = capacity) : (buffer.setSlot index bytes).Sized capacity := by
  intro other
  by_cases here : other = index
  · rw [here, setSlot_same, length]
  · rw [setSlot_other bytes here, sized]

theorem Sized.commitWriteSlot {buffer : DoubleBuffer width} {capacity : Nat}
    (sized : buffer.Sized capacity) (index : SlotIdx) :
    (buffer.commitWriteSlot index).Sized capacity := sized

/-- What was written last is what the next read copies. -/
theorem writeToBuffer_reads {buffer : DoubleBuffer width} {capacity : Nat}
    (sized : buffer.Sized capacity) {data : Bytes} (room : data.length ≤ capacity) :
    ∃ after : DoubleBuffer width, buffer.writeToBuffer data = .ok after ∧ after.Sized capacity ∧
      after.readFromBuffer data.length = .ok (true, data) := by
  have length := sized (otherSlot buffer.activeIdx)
  have written : (overwrite (buffer.slots (otherSlot buffer.activeIdx)) 0 data).length =
      capacity := by
    rw [overwrite_length (by omega), length]
  refine ⟨_, writeToBuffer_ok (by omega), (sized.setSlot _ written).commitWriteSlot _, ?_⟩
  rw [readFromBuffer_ok (by simp only [commitWriteSlot_activeIdx, commitWriteSlot_slots,
    setSlot_same, written, room])]
  simp [overwrite]

end DoubleBuffer

end Zenbedded.Rcl
