import Mathlib.Data.List.Basic
import Zenbedded.Foundation.Cdr

namespace Zenbedded.Foundation.Layout

open Zenbedded.Foundation.Cdr

/-! # Layout passes

A layout pass walks a bounded array with a machine-word cursor: it stores
bytes, rounds the cursor up with a mask, and skips over room that is filled in
later.  The passes are finite lists of such operations, so three facts about
them are proved once: where the cursor ends, when every store is inside the
array, and what the array holds afterwards.

Positions are relative to `origin`, the size of a header that alignment does
not count.
-/

structure Out (width : Nat) where
  buffer : Bytes
  cursor : BitVec width
deriving Repr, DecidableEq

inductive Op (width : Nat) where
  | put (source : Bytes)
  /-- Round up to a multiple of `2 ^ shift`, a power that is a machine word itself. -/
  | align (shift : Fin width)
  | skip (count : BitVec width)
deriving Repr, DecidableEq

variable {width : Nat}

def maskAlign (origin alignment offset : BitVec width) : BitVec width :=
  origin + (((offset - origin) + alignment - 1) &&& ~~~(alignment - 1))

def Op.exec (origin : Nat) : Op width → Out width → Except Fault (Out width)
  | .put source, out =>
      (storeBytes out.buffer out.cursor.toNat source).map fun buffer =>
        ⟨buffer, out.cursor + BitVec.ofNat width source.length⟩
  | .align shift, out =>
      .ok { out with
        cursor := maskAlign (BitVec.ofNat width origin) (BitVec.ofNat width (2 ^ shift.val)) out.cursor }
  | .skip count, out => .ok { out with cursor := out.cursor + count }

def exec (origin : Nat) : List (Op width) → Out width → Except Fault (Out width)
  | [], out => .ok out
  | op :: rest, out => op.exec origin out >>= exec origin rest

@[simp] theorem exec_nil (origin : Nat) (out : Out width) : exec origin [] out = .ok out := rfl

theorem exec_append (origin : Nat) (first second : List (Op width)) (out : Out width) :
    exec origin (first ++ second) out = exec origin first out >>= exec origin second := by
  induction first generalizing out with
  | nil => rfl
  | cons op rest ih =>
      simp only [List.cons_append, exec]
      cases op.exec origin out with
      | error fault => rfl
      | ok next => exact ih next

def Op.next : Op width → Nat → Nat
  | .put source, position => position + source.length
  | .align shift, position => alignTo (2 ^ shift.val) position
  | .skip count, position => position + count.toNat

def endsAt : List (Op width) → Nat → Nat
  | [], position => position
  | op :: rest, position => endsAt rest (op.next position)

theorem endsAt_append (first second : List (Op width)) (position : Nat) :
    endsAt (first ++ second) position = endsAt second (endsAt first position) := by
  induction first generalizing position with
  | nil => rfl
  | cons op rest ih => exact ih _

theorem Op.next_ge (op : Op width) (position : Nat) : position ≤ op.next position := by
  cases op with
  | put source => exact Nat.le_add_right _ _
  | align shift => exact alignTo_ge _ _
  | skip count => exact Nat.le_add_right _ _

theorem endsAt_ge (ops : List (Op width)) (position : Nat) : position ≤ endsAt ops position := by
  induction ops generalizing position with
  | nil => exact Nat.le_refl _
  | cons op rest ih => exact Nat.le_trans (op.next_ge position) (ih _)

/-- Every store of the pass is inside an array of `capacity` bytes. -/
def Fits (origin capacity : Nat) : List (Op width) → Nat → Prop
  | [], _ => True
  | op :: rest, position =>
      (match op with
        | .put source => source = [] ∨ origin + position + source.length ≤ capacity
        | _ => True) ∧ Fits origin capacity rest (op.next position)

/-- The cursor does not wrap for as long as the stores before it were inside. -/
def Steady (origin capacity : Nat) : List (Op width) → Nat → Prop
  | [], _ => True
  | op :: rest, position =>
      (match op with
        | .put source => source = [] ∨ origin + position + source.length ≤ capacity
        | _ => True) →
      origin + op.next position < 2 ^ width ∧ Steady origin capacity rest (op.next position)

theorem fits_append (origin capacity : Nat) (first second : List (Op width)) (position : Nat) :
    Fits origin capacity (first ++ second) position ↔
      Fits origin capacity first position ∧ Fits origin capacity second (endsAt first position) := by
  induction first generalizing position with
  | nil => simp [Fits, endsAt]
  | cons op rest ih => simp only [List.cons_append, Fits, endsAt, ih, and_assoc]

theorem steady_append (origin capacity : Nat) (first second : List (Op width)) (position : Nat) :
    Steady origin capacity (first ++ second) position ↔
      Steady origin capacity first position ∧
        (Fits origin capacity first position →
          Steady origin capacity second (endsAt first position)) := by
  induction first generalizing position with
  | nil => simp [Steady, Fits, endsAt]
  | cons op rest ih =>
      simp only [List.cons_append, Steady, Fits, endsAt, ih]
      tauto

/-- A pass whose end is representable never wraps. -/
theorem steady_of_endsAt {origin capacity : Nat} {ops : List (Op width)} {position : Nat}
    (bounded : origin + endsAt ops position < 2 ^ width) : Steady origin capacity ops position := by
  induction ops generalizing position with
  | nil => trivial
  | cons op rest ih =>
      intro _
      have below := endsAt_ge rest (op.next position)
      simp only [endsAt] at bounded
      exact ⟨by omega, ih bounded⟩

theorem toNat_ofNat_of_lt (value : Nat) (small : value < 2 ^ width) :
    (BitVec.ofNat width value).toNat = value := by
  rw [BitVec.toNat_ofNat, Nat.mod_eq_of_lt small]

theorem toNat_sub_of_eq_add {offset base : BitVec width} {distance : Nat}
    (apart : offset.toNat = base.toNat + distance) : (offset - base).toNat = distance := by
  have bound := offset.isLt
  have below := base.isLt
  rw [BitVec.toNat_sub, apart,
    show 2 ^ width - base.toNat + (base.toNat + distance) = distance + 2 ^ width by omega,
    Nat.add_mod_right, Nat.mod_eq_of_lt (by omega)]

theorem ofNat_pred {value : Nat} (positive : 0 < value) (small : value < 2 ^ width) :
    BitVec.ofNat width value - 1 = BitVec.ofNat width (value - 1) := by
  apply BitVec.eq_of_toNat_eq
  have one : (1 : BitVec width).toNat = 1 := toNat_ofNat_of_lt 1 (by omega)
  rw [toNat_ofNat_of_lt _ (by omega)]
  apply toNat_sub_of_eq_add
  rw [toNat_ofNat_of_lt _ small, one]
  omega

/-- Rounding up to a representable position does not wrap on the way. -/
theorem add_pred_lt_of_alignTo {shift : Fin width} {position : Nat}
    (bounded : alignTo (2 ^ shift.val) position < 2 ^ width) :
    position + (2 ^ shift.val - 1) < 2 ^ width := by
  have positive := Nat.two_pow_pos shift.val
  have start := alignTo_ge (2 ^ shift.val) position
  obtain ⟨quotient, whole⟩ := alignTo_dvd positive position
  obtain ⟨modulus, split⟩ := Nat.pow_dvd_pow 2 (Nat.le_of_lt shift.isLt)
  have below : quotient < modulus := by
    apply Nat.lt_of_mul_lt_mul_left (a := 2 ^ shift.val)
    omega
  have step : 2 ^ shift.val * (quotient + 1) ≤ 2 ^ shift.val * modulus :=
    Nat.mul_le_mul_left _ below
  rw [Nat.mul_add] at step
  omega

theorem maskAlign_toNat {origin position : Nat} {shift : Fin width} {offset : BitVec width}
    (start : offset.toNat = origin + position)
    (bounded : origin + alignTo (2 ^ shift.val) position < 2 ^ width) :
    (maskAlign (BitVec.ofNat width origin) (BitVec.ofNat width (2 ^ shift.val)) offset).toNat =
      origin + alignTo (2 ^ shift.val) position := by
  have positive := Nat.two_pow_pos shift.val
  have small : 2 ^ shift.val < 2 ^ width := Nat.pow_lt_pow_right (by decide) shift.isLt
  have origin_word : (BitVec.ofNat width origin).toNat = origin := toNat_ofNat_of_lt _ (by omega)
  have base : (offset - BitVec.ofNat width origin).toNat = position :=
    toNat_sub_of_eq_add (by rw [start, origin_word])
  have mask := ofNat_pred positive small
  have sum : (offset - BitVec.ofNat width origin + BitVec.ofNat width (2 ^ shift.val) - 1).toNat =
      position + (2 ^ shift.val - 1) := by
    rw [BitVec.sub_eq_add_neg, BitVec.add_assoc, ← BitVec.sub_eq_add_neg, mask, BitVec.toNat_add,
      base, toNat_ofNat_of_lt _ (by omega), Nat.mod_eq_of_lt (add_pred_lt_of_alignTo (by omega))]
  rw [maskAlign, mask, BitVec.toNat_add, toNat_and_not_mask _ shift.isLt, sum,
    ← alignTo_eq_div positive, origin_word, Nat.mod_eq_of_lt bounded]

theorem Op.exec_cursor {origin position : Nat} {op : Op width} {out after : Out width}
    (start : out.cursor.toNat = origin + position)
    (bounded : origin + op.next position < 2 ^ width)
    (run : op.exec origin out = .ok after) :
    after.cursor.toNat = origin + op.next position := by
  cases op with
  | put source =>
      simp only [Op.exec, Except.map] at run
      split at run
      · contradiction
      · cases run
        simp only [Op.next] at bounded ⊢
        rw [BitVec.toNat_add, start, toNat_ofNat_of_lt _ (by omega), Nat.mod_eq_of_lt (by omega)]
        omega
  | align shift =>
      cases run
      exact maskAlign_toNat start bounded
  | skip count =>
      cases run
      simp only [Op.next] at bounded ⊢
      rw [BitVec.toNat_add, start, Nat.mod_eq_of_lt (by omega)]
      omega

theorem Op.exec_length {origin : Nat} {op : Op width} {out after : Out width}
    (run : op.exec origin out = .ok after) : after.buffer.length = out.buffer.length := by
  cases op with
  | put source =>
      simp only [Op.exec, Except.map] at run
      split at run
      · contradiction
      · rename_i buffer stored
        cases run
        exact storeBytes_length stored
  | align shift => cases run; rfl
  | skip count => cases run; rfl

theorem exec_length {origin : Nat} {ops : List (Op width)} {out after : Out width}
    (run : exec origin ops out = .ok after) : after.buffer.length = out.buffer.length := by
  induction ops generalizing out with
  | nil => cases run; rfl
  | cons op rest ih =>
      obtain ⟨middle, first, remaining⟩ := bind_ok_iff.mp run
      exact (ih remaining).trans (Op.exec_length first)

theorem Op.exec_ok_iff {origin position : Nat} (op : Op width) (out : Out width)
    (start : out.cursor.toNat = origin + position) :
    (∃ after, op.exec origin out = .ok after) ↔
      match op with
      | .put source => source = [] ∨ origin + position + source.length ≤ out.buffer.length
      | _ => True := by
  cases op with
  | put source =>
      simp only [Op.exec, start]
      constructor
      · rintro ⟨after, run⟩
        by_cases empty : source = []
        · exact Or.inl empty
        · cases stored : storeBytes out.buffer (origin + position) source with
          | error fault => simp [stored, Except.map] at run
          | ok buffer => exact Or.inr (storeBytes_room empty stored)
      · rintro (rfl | room)
        · exact ⟨_, rfl⟩
        · rw [storeBytes_ok room]
          exact ⟨_, rfl⟩
  | align shift => exact ⟨fun _ => trivial, fun _ => ⟨_, rfl⟩⟩
  | skip count => exact ⟨fun _ => trivial, fun _ => ⟨_, rfl⟩⟩

theorem exec_ok_iff {origin : Nat} {ops : List (Op width)} {position : Nat} {out : Out width}
    (start : out.cursor.toNat = origin + position)
    (steady : Steady origin out.buffer.length ops position) :
    (∃ after, exec origin ops out = .ok after) ↔ Fits origin out.buffer.length ops position := by
  induction ops generalizing out position with
  | nil => exact ⟨fun _ => trivial, fun _ => ⟨out, rfl⟩⟩
  | cons op rest ih =>
      have here := op.exec_ok_iff out start
      constructor
      · rintro ⟨after, run⟩
        obtain ⟨next, first, rest_run⟩ := bind_ok_iff.mp run
        have room := here.mp ⟨next, first⟩
        obtain ⟨bounded, remaining⟩ := steady room
        have cursor := Op.exec_cursor start bounded first
        have length := Op.exec_length first
        rw [← length] at remaining ⊢
        exact ⟨by rw [length]; exact room, (ih cursor remaining).mp ⟨after, rest_run⟩⟩
      · rintro ⟨room, fits⟩
        obtain ⟨next, first⟩ := here.mpr room
        obtain ⟨bounded, remaining⟩ := steady room
        have length := Op.exec_length first
        rw [← length] at remaining fits
        obtain ⟨after, run⟩ := (ih (Op.exec_cursor start bounded first) remaining).mpr fits
        exact ⟨after, bind_ok_iff.mpr ⟨next, first, run⟩⟩

theorem exec_cursor {origin : Nat} {ops : List (Op width)} {position : Nat}
    {out after : Out width} (start : out.cursor.toNat = origin + position)
    (steady : Steady origin out.buffer.length ops position)
    (run : exec origin ops out = .ok after) :
    after.cursor.toNat = origin + endsAt ops position := by
  induction ops generalizing out position with
  | nil => cases run; exact start
  | cons op rest ih =>
      obtain ⟨next, first, rest_run⟩ := bind_ok_iff.mp run
      obtain ⟨bounded, remaining⟩ := steady ((op.exec_ok_iff out start).mp ⟨next, first⟩)
      rw [← Op.exec_length first] at remaining
      exact ih (Op.exec_cursor start bounded first) remaining rest_run

/-- Room that a pass jumps over keeps what the array held there. -/
def gap (pad : Nat → UInt8) (count : Nat) : Emitter := fun position =>
  (List.range count).map fun index => pad (position + index)

@[simp] theorem gap_length (pad : Nat → UInt8) (count position : Nat) :
    (gap pad count position).length = count := by simp [gap]

theorem gap_add (pad : Nat → UInt8) (first second position : Nat) :
    gap pad (first + second) position = gap pad first position ++ gap pad second (position + first) := by
  simp only [gap, List.range_add, List.map_append, List.map_map, Nat.add_assoc]
  rfl

def Op.emit (pad : Nat → UInt8) : Op width → Emitter
  | .put source => Emitter.raw source
  | .align shift => Emitter.align pad (2 ^ shift.val)
  | .skip count => gap pad count.toNat

def emit (pad : Nat → UInt8) : List (Op width) → Emitter
  | [] => Emitter.raw []
  | op :: rest => (op.emit pad).andThen (emit pad rest)

theorem emit_append (pad : Nat → UInt8) (first second : List (Op width)) :
    emit pad (first ++ second) = (emit pad first).andThen (emit pad second) := by
  induction first with
  | nil => simp [emit]
  | cons op rest ih => simp only [List.cons_append, emit, ih, Emitter.andThen_assoc]

@[simp] theorem Op.endsAt_emit (pad : Nat → UInt8) (op : Op width) (position : Nat) :
    (op.emit pad).endsAt position = op.next position := by
  cases op with
  | put source => rfl
  | align shift => exact Emitter.endsAt_align _ _ _
  | skip count => simp [Op.emit, Op.next, gap, Emitter.endsAt]

theorem endsAt_emit (pad : Nat → UInt8) (ops : List (Op width)) (position : Nat) :
    (emit pad ops).endsAt position = endsAt ops position := by
  induction ops generalizing position with
  | nil => rfl
  | cons op rest ih => rw [emit, Emitter.endsAt_andThen, Op.endsAt_emit, ih, endsAt]

def residue (origin : Nat) (old : Bytes) : Nat → UInt8 := fun position =>
  old.getD (origin + position) 0

theorem gap_residue {origin count position : Nat} {old : Bytes}
    (room : origin + position + count ≤ old.length) :
    gap (residue origin old) count position = (old.drop (origin + position)).take count := by
  apply List.ext_getElem
  · simp only [gap, List.length_map, List.length_range, List.length_take, List.length_drop]
    omega
  · intro index left right
    simp only [gap, List.length_map, List.length_range] at left
    simp [gap, residue, List.getElem?_eq_getElem (show origin + (position + index) < old.length by omega),
      Nat.add_assoc]

/-- The array holds `written` in front and is unchanged behind the cursor. -/
structure Holds (origin : Nat) (old written : Bytes) (position : Nat) (out : Out width) : Prop where
  length : written.length = origin + position
  buffer : out.buffer = written ++ old.drop (origin + position)
  cursor : out.cursor.toNat = origin + position

theorem Holds.gap {origin count position : Nat} {old written : Bytes} {out : Out width}
    (holds : Holds origin old written position out)
    (room : origin + position + count ≤ old.length) :
    out.buffer = (written ++ gap (residue origin old) count position) ++
      old.drop (origin + (position + count)) := by
  have split := List.take_append_drop count (old.drop (origin + position))
  rw [List.drop_drop] at split
  rw [holds.buffer, gap_residue room, List.append_assoc, ← Nat.add_assoc, split]

theorem Op.exec_holds {origin position : Nat} (op : Op width) {old written : Bytes}
    {out : Out width} (holds : Holds origin old written position out)
    (room : origin + op.next position ≤ old.length)
    (bounded : origin + op.next position < 2 ^ width) :
    ∃ after, op.exec origin out = .ok after ∧
      Holds origin old (written ++ op.emit (residue origin old) position) (op.next position)
        after := by
  have size : out.buffer.length = old.length := by
    have below := op.next_ge position
    rw [holds.buffer, List.length_append, holds.length, List.length_drop]
    omega
  have succeeds : ∃ after, op.exec origin out = .ok after := by
    rw [op.exec_ok_iff out holds.cursor]
    cases op with
    | put source =>
        simp only [Op.next] at room
        exact Or.inr (by omega)
    | _ => trivial
  obtain ⟨after, run⟩ := succeeds
  have emitted : (op.emit (residue origin old) position).length = op.next position - position := by
    have ends := op.endsAt_emit (residue origin old) position
    simp only [Emitter.endsAt] at ends
    omega
  have below := op.next_ge position
  refine ⟨after, run, ?_, ?_, Op.exec_cursor holds.cursor bounded run⟩
  · rw [List.length_append, holds.length, emitted]
    omega
  · cases op with
    | put source =>
        simp only [Op.next] at room
        simp only [Op.exec, holds.cursor, storeBytes_ok (show origin + position + source.length ≤
          out.buffer.length by omega), Except.map, Except.ok.injEq] at run
        subst after
        have ends : origin + (position + source.length) = written.length + source.length := by
          rw [holds.length, Nat.add_assoc]
        simp only [overwrite, holds.buffer, Op.emit, Emitter.raw_apply, Op.next, ends]
        rw [← holds.length, List.take_left, List.drop_append, List.drop_eq_nil_of_le (by omega),
          List.drop_drop, List.nil_append, Nat.add_sub_cancel_left]
    | align shift =>
        cases run
        exact holds.gap (by simpa only [Op.next, alignTo, Nat.add_assoc] using room)
    | skip count =>
        cases run
        exact holds.gap (by simpa only [Op.next, Nat.add_assoc] using room)

theorem exec_holds {origin position : Nat} {ops : List (Op width)} {old written : Bytes}
    {out : Out width} (holds : Holds origin old written position out)
    (room : origin + endsAt ops position ≤ old.length)
    (bounded : origin + endsAt ops position < 2 ^ width) :
    ∃ after, exec origin ops out = .ok after ∧
      Holds origin old (written ++ emit (residue origin old) ops position) (endsAt ops position)
        after := by
  induction ops generalizing out position written with
  | nil => exact ⟨out, rfl, by simpa only [emit, Emitter.raw_apply, List.append_nil, endsAt] using holds⟩
  | cons op rest ih =>
      simp only [endsAt] at room bounded
      have below := endsAt_ge rest (op.next position)
      obtain ⟨next, first, held⟩ := op.exec_holds holds (by omega) (by omega)
      obtain ⟨after, run, finished⟩ := ih held room bounded
      refine ⟨after, bind_ok_iff.mpr ⟨next, first, run⟩, ?_⟩
      rw [List.append_assoc] at finished
      simpa only [emit, Emitter.andThen_apply, Op.endsAt_emit, endsAt] using finished

end Zenbedded.Foundation.Layout
