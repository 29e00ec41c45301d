import Zenbedded.Transport.LayoutOutcome

namespace Zenbedded.Transport

open Zenbedded.Foundation Zenbedded.Foundation.Cdr

/-! # When the layout functions stay inside the buffer

The layout functions store as they go, so whether a store is out of range
depends only on where the last one ends: the last count of the template.  The
array behind it is skipped, not stored.
-/

variable {platform : Platform}

/-- Buffers so small that a cursor which is at most a padding beyond them does not wrap. -/
def Modest (capacity : Nat) : Prop := capacity < 2 ^ 29

theorem stringEnd_ge (position : Nat) (text : CString) : position + 4 ≤ stringEnd position text := by
  unfold stringEnd
  omega

theorem alignTo_four_le (position : Nat) : alignTo 4 position ≤ position + 3 := by
  have near := padding_lt (show 0 < 4 by decide) position
  unfold alignTo
  omega

theorem alignTo_eight_le (position : Nat) : alignTo 8 position ≤ position + 7 := by
  have near := padding_lt (show 0 < 8 by decide) position
  unfold alignTo
  omega

/-- Every name takes at least its length word. -/
theorem namesEnd_ge (position : Nat) (names : List CString) :
    position + 4 * names.length ≤ namesEnd position names := by
  induction names generalizing position with
  | nil => exact Nat.le_refl _
  | cons name rest ih =>
      have start := alignTo_ge 4 position
      have first := stringEnd_ge (alignTo 4 position) name
      have later := ih (stringEnd (alignTo 4 position) name)
      rw [namesEnd, List.length_cons]
      omega

theorem fits_stringOps_iff {capacity position : Nat} {text : CString} :
    Layout.Fits cdrHeaderSize capacity (stringOps text : LayoutOps platform) position ↔
      cdrHeaderSize + stringEnd position text ≤ capacity := by
  have word : wordBytes (BitVec.ofNat 32 (text.strlen + 1)) ≠ [] :=
    List.ne_nil_of_length_pos (by rw [wordBytes_length]; decide)
  have length := stored_length text
  simp only [stringOps, Layout.Fits, Layout.Op.next, word, false_or, wordBytes_length, and_true,
    length, stringEnd]
  constructor
  · rintro ⟨first, empty | room⟩
    · rw [empty, List.length_nil] at length
      omega
    · omega
  · intro room
    exact ⟨by omega, Or.inr (by omega)⟩

theorem steady_stringOps {capacity : Nat} (modest : Modest capacity) (text : CString)
    (position : Nat) :
    Layout.Steady cdrHeaderSize capacity (stringOps text : LayoutOps platform) position := by
  have wide : 2 ^ 29 < 2 ^ platform.sizeBits := platform.representable (by decide)
  unfold Modest at modest
  have word : wordBytes (BitVec.ofNat 32 (text.strlen + 1)) ≠ [] :=
    List.ne_nil_of_length_pos (by rw [wordBytes_length]; decide)
  simp only [stringOps, Layout.Steady, Layout.Op.next, word, false_or, wordBytes_length]
  intro first
  refine ⟨by omega, ?_⟩
  rintro (empty | room)
  · rw [empty, List.length_nil]
    exact ⟨by omega, trivial⟩
  · exact ⟨by omega, trivial⟩

theorem fits_nameOps_iff {capacity position : Nat} {name : CString} :
    Layout.Fits cdrHeaderSize capacity (nameOps name : LayoutOps platform) position ↔
      cdrHeaderSize + stringEnd (alignTo 4 position) name ≤ capacity := by
  simp only [nameOps, Layout.Fits, true_and]
  exact fits_stringOps_iff

theorem steady_nameOps {capacity position : Nat} (modest : Modest capacity) (name : CString)
    (start : cdrHeaderSize + position ≤ capacity) :
    Layout.Steady cdrHeaderSize capacity (nameOps name : LayoutOps platform) position := by
  have wide : 2 ^ 29 + 8 < 2 ^ platform.sizeBits := platform.representable (by decide)
  have near := alignTo_four_le position
  unfold Modest at modest
  intro _
  exact ⟨Nat.lt_of_le_of_lt (Nat.add_le_add_left near _) (by omega),
    steady_stringOps modest name _⟩

theorem endsAt_nameOps (name : CString) (position : Nat) :
    Layout.endsAt (nameOps name : LayoutOps platform) position =
      stringEnd (alignTo 4 position) name := by
  rw [nameOps, Layout.endsAt, endsAt_stringOps]
  rfl

theorem fits_names_iff {capacity position : Nat} {names : List CString}
    (start : cdrHeaderSize + position ≤ capacity) :
    Layout.Fits cdrHeaderSize capacity (names.flatMap nameOps : LayoutOps platform) position ↔
      cdrHeaderSize + namesEnd position names ≤ capacity := by
  induction names generalizing position with
  | nil => exact ⟨fun _ => start, fun _ => trivial⟩
  | cons name rest ih =>
      have later := namesEnd_ge (stringEnd (alignTo 4 position) name) rest
      rw [List.flatMap_cons, Layout.fits_append, fits_nameOps_iff, endsAt_nameOps, namesEnd]
      constructor
      · rintro ⟨first, others⟩
        exact (ih first).mp others
      · intro room
        have first : cdrHeaderSize + stringEnd (alignTo 4 position) name ≤ capacity := by omega
        exact ⟨first, (ih first).mpr room⟩

theorem steady_names {capacity position : Nat} (modest : Modest capacity) (names : List CString)
    (start : cdrHeaderSize + position ≤ capacity) :
    Layout.Steady cdrHeaderSize capacity (names.flatMap nameOps : LayoutOps platform)
      position := by
  induction names generalizing position with
  | nil => trivial
  | cons name rest ih =>
      rw [List.flatMap_cons, Layout.steady_append, fits_nameOps_iff, endsAt_nameOps]
      exact ⟨steady_nameOps modest name start, ih⟩

theorem fits_count_iff {capacity position : Nat} (numJoints : BitVec 32)
    {rest : LayoutOps platform} :
    Layout.Fits cdrHeaderSize capacity (.align shift4 :: .put (wordBytes numJoints) :: rest)
        position ↔
      cdrHeaderSize + (alignTo 4 position + 4) ≤ capacity ∧
        Layout.Fits cdrHeaderSize capacity rest (alignTo 4 position + 4) := by
  have word : wordBytes numJoints ≠ [] :=
    List.ne_nil_of_length_pos (by rw [wordBytes_length]; decide)
  simp only [Layout.Fits, Layout.Op.next, word, false_or, true_and, wordBytes_length,
    Nat.add_assoc]
  rfl

theorem steady_count {capacity position : Nat} (modest : Modest capacity) (numJoints : BitVec 32)
    (start : cdrHeaderSize + position ≤ 7 * capacity + 16) {rest : LayoutOps platform}
    (others : cdrHeaderSize + (alignTo 4 position + 4) ≤ capacity →
      Layout.Steady cdrHeaderSize capacity rest (alignTo 4 position + 4)) :
    Layout.Steady cdrHeaderSize capacity (.align shift4 :: .put (wordBytes numJoints) :: rest)
      position := by
  have wide : 7 * 2 ^ 29 + 64 < 2 ^ platform.sizeBits := platform.representable (by decide)
  have near := alignTo_four_le position
  unfold Modest at modest
  have word : wordBytes numJoints ≠ [] :=
    List.ne_nil_of_length_pos (by rw [wordBytes_length]; decide)
  intro _
  refine ⟨Nat.lt_of_le_of_lt (Nat.add_le_add_left near _) (by omega), ?_⟩
  rintro (empty | room)
  · exact absurd empty word
  · rw [wordBytes_length] at room
    have inside : cdrHeaderSize + (alignTo 4 position + 4) ≤ capacity := room
    have next : Layout.Op.next (.put (wordBytes numJoints) : Layout.Op platform.sizeBits)
        (alignTo 4 position) = alignTo 4 position + 4 := by
      rw [Layout.Op.next, wordBytes_length]
    change cdrHeaderSize + Layout.Op.next (.put (wordBytes numJoints) :
      Layout.Op platform.sizeBits) (alignTo 4 position) < _ ∧ Layout.Steady _ _ rest
        (Layout.Op.next (.put (wordBytes numJoints) : Layout.Op platform.sizeBits)
          (alignTo 4 position))
    rw [next]
    exact ⟨by omega, others inside⟩

theorem fits_countOps_iff {capacity position : Nat} {numJoints : BitVec 32} :
    Layout.Fits cdrHeaderSize capacity (countOps numJoints : LayoutOps platform) position ↔
      cdrHeaderSize + (alignTo 4 position + 4) ≤ capacity := by
  rw [countOps, fits_count_iff]
  exact and_iff_left ⟨trivial, trivial⟩

theorem steady_countOps {capacity position : Nat} (modest : Modest capacity)
    (numJoints : BitVec 32) (start : cdrHeaderSize + position ≤ 7 * capacity + 16) :
    Layout.Steady cdrHeaderSize capacity (countOps numJoints : LayoutOps platform) position := by
  have wide : 2 ^ 29 + 16 < 2 ^ platform.sizeBits := platform.representable (by decide)
  have near := alignTo_eight_le (alignTo 4 position + 4)
  apply steady_count modest numJoints start
  intro inside _
  unfold Modest at modest
  exact ⟨Nat.lt_of_le_of_lt (Nat.add_le_add_left near _) (by omega), trivial⟩

theorem fits_nextArrayOps_iff {capacity position : Nat} {numJoints : BitVec 32} :
    Layout.Fits cdrHeaderSize capacity (nextArrayOps numJoints : LayoutOps platform) position ↔
      cdrHeaderSize + (alignTo 4 (position + (8 * numJoints).toNat) + 4) ≤ capacity := by
  simp only [nextArrayOps, Layout.Fits, Layout.Op.next, arraySize_toNat, true_and]
  exact fits_countOps_iff

theorem steady_nextArrayOps {capacity position : Nat} (modest : Modest capacity)
    (numJoints : BitVec 32) (start : cdrHeaderSize + position ≤ capacity + 8)
    (array : (8 * numJoints).toNat ≤ 2 * capacity) :
    Layout.Steady cdrHeaderSize capacity (nextArrayOps numJoints : LayoutOps platform)
      position := by
  have wide : 7 * 2 ^ 29 + 64 < 2 ^ platform.sizeBits := platform.representable (by decide)
  unfold Modest at modest
  intro _
  rw [Layout.Op.next, arraySize_toNat]
  exact ⟨by omega, steady_countOps modest numJoints (by omega)⟩

theorem endsAt_framed (frameId : CString) (numJoints : BitVec 32) :
    Layout.endsAt (stringOps frameId ++ [.align shift4, .put (wordBytes numJoints)] :
      LayoutOps platform) 8 = alignTo 4 (stringEnd 8 frameId) + 4 := by
  simp only [Layout.endsAt_append, endsAt_stringOps, Layout.endsAt, Layout.Op.next,
    wordBytes_length]
  rfl

theorem fits_headOps_iff {capacity : Nat} (frameId : CString) (names : List CString)
    (numJoints : BitVec 32) :
    Layout.Fits cdrHeaderSize capacity (headOps frameId names numJoints : LayoutOps platform) 8 ↔
      cdrHeaderSize + headEnd frameId names ≤ capacity := by
  have frame := alignTo_ge 4 (stringEnd 8 frameId)
  have later := namesEnd_ge (alignTo 4 (stringEnd 8 frameId) + 4) names
  rw [headOps, Layout.fits_append, Layout.fits_append, fits_stringOps_iff, endsAt_stringOps,
    fits_count_iff, endsAt_framed]
  simp only [Layout.Fits, and_true]
  constructor
  · rintro ⟨⟨_, counted⟩, others⟩
    exact (fits_names_iff counted).mp others
  · intro room
    rw [headEnd] at room
    have counted : cdrHeaderSize + (alignTo 4 (stringEnd 8 frameId) + 4) ≤ capacity := by omega
    exact ⟨⟨by omega, counted⟩, (fits_names_iff counted).mpr room⟩

theorem steady_headOps {capacity : Nat} (modest : Modest capacity) (frameId : CString)
    (names : List CString) (numJoints : BitVec 32) :
    Layout.Steady cdrHeaderSize capacity (headOps frameId names numJoints : LayoutOps platform)
      8 := by
  rw [headOps, Layout.steady_append, Layout.steady_append, Layout.fits_append,
    fits_stringOps_iff, endsAt_stringOps, fits_count_iff, endsAt_framed]
  refine ⟨⟨steady_stringOps modest frameId 8, ?_⟩, ?_⟩
  · intro framed
    exact steady_count modest numJoints (by omega) fun _ => trivial
  · rintro ⟨_, counted, _⟩
    exact steady_names modest names counted

/-- Where the last store of the JointState layout ends: the count of the efforts. -/
def jointStateTemplateEnd (frameId : CString) (jointNames : List CString) (array : Nat) : Nat :=
  let position := countEnd (headEnd frameId jointNames)
  let velocity := countEnd (position + array)
  cdrHeaderSize + (alignTo 4 (velocity + array) + 4)

/-- Where the last store of the JointCommand layout ends: the count of the values. -/
def jointCommandTemplateEnd (frameId : CString) (jointNames : List CString)
    (interfaceName : CString) : Nat :=
  cdrHeaderSize +
    (alignTo 4 (stringEnd (alignTo 4 (headEnd frameId jointNames)) interfaceName) + 4)

theorem headEnd_le_templateEnd (frameId : CString) (jointNames : List CString) (array : Nat) :
    cdrHeaderSize + headEnd frameId jointNames ≤ jointStateTemplateEnd frameId jointNames array := by
  have position := countEnd_ge (headEnd frameId jointNames)
  have velocity := countEnd_ge (countEnd (headEnd frameId jointNames) + array)
  have effort := alignTo_ge 4 (countEnd (countEnd (headEnd frameId jointNames) + array) + array)
  simp only [jointStateTemplateEnd]
  omega

theorem headEnd_le_commandTemplateEnd (frameId : CString) (jointNames : List CString)
    (interfaceName : CString) :
    cdrHeaderSize + headEnd frameId jointNames ≤
      jointCommandTemplateEnd frameId jointNames interfaceName := by
  have start := alignTo_ge 4 (headEnd frameId jointNames)
  have interface := stringEnd_ge (alignTo 4 (headEnd frameId jointNames)) interfaceName
  have count := alignTo_ge 4 (stringEnd (alignTo 4 (headEnd frameId jointNames)) interfaceName)
  rw [jointCommandTemplateEnd]
  omega

/-- Whatever comes later, the template holds the whole `frame_id`. -/
theorem stringEnd_le_templateEnd (frameId : CString) (jointNames : List CString) (array : Nat) :
    stringEnd 8 frameId ≤ jointStateTemplateEnd frameId jointNames array := by
  have frame := alignTo_ge 4 (stringEnd 8 frameId)
  have names := namesEnd_ge (alignTo 4 (stringEnd 8 frameId) + 4) jointNames
  have head := headEnd_le_templateEnd frameId jointNames array
  rw [← headEnd] at names
  omega

/-- Once the names fit, the arrays of as many joints are not much larger than the buffer. -/
theorem array_le_of_names {capacity : Nat} {frameId : CString} {names : List CString}
    {numJoints : BitVec 32} (joints : names.length = numJoints.toNat)
    (room : cdrHeaderSize + headEnd frameId names ≤ capacity) :
    (8 * numJoints).toNat ≤ 2 * capacity := by
  have many := namesEnd_ge (alignTo 4 (stringEnd 8 frameId) + 4) names
  have wrapped : (8 * numJoints).toNat ≤ 8 * numJoints.toNat := by
    rw [BitVec.toNat_mul]
    exact Nat.mod_le _ _
  rw [headEnd] at room
  omega

/-- In a modest buffer the names of as many joints leave `8 * num_joints` unwrapped. -/
theorem narrow_of_names {capacity : Nat} (modest : Modest capacity) {frameId : CString}
    {names : List CString} {numJoints : BitVec 32} (joints : names.length = numJoints.toNat)
    (room : cdrHeaderSize + headEnd frameId names ≤ capacity) :
    (8 * numJoints).toNat = 8 * numJoints.toNat := by
  have many := namesEnd_ge (alignTo 4 (stringEnd 8 frameId) + 4) names
  rw [← headEnd] at many
  rw [BitVec.toNat_mul]
  apply Nat.mod_eq_of_lt
  unfold Modest at modest
  simp only [BitVec.reduceToNat]
  omega

theorem jointState_fits_iff {capacity : Nat} (frameId : CString) (names : List CString)
    (numJoints : BitVec 32) :
    Layout.Fits cdrHeaderSize capacity (jointStateOps frameId names numJoints ++
        (nextArrayOps numJoints ++ nextArrayOps numJoints) : LayoutOps platform) 8 ↔
      jointStateTemplateEnd frameId names (8 * numJoints).toNat ≤ capacity := by
  have head := alignTo_ge 4 (headEnd frameId names)
  have position := alignTo_ge 8 (alignTo 4 (headEnd frameId names) + 4)
  have second := alignTo_ge 4 (countEnd (headEnd frameId names) + (8 * numJoints).toNat)
  have velocity := alignTo_ge 8
    (alignTo 4 (countEnd (headEnd frameId names) + (8 * numJoints).toNat) + 4)
  have third := alignTo_ge 4 (countEnd (countEnd (headEnd frameId names) +
    (8 * numJoints).toNat) + (8 * numJoints).toNat)
  rw [← countEnd] at position velocity
  rw [Layout.fits_append, Layout.fits_append, endsAt_jointStateOps, endsAt_nextArrayOps,
    jointStateOps, Layout.fits_append, fits_headOps_iff, endsAt_headOps, fits_countOps_iff,
    fits_nextArrayOps_iff, fits_nextArrayOps_iff, jointStateTemplateEnd]
  omega

theorem jointState_steady {capacity : Nat} (modest : Modest capacity) (frameId : CString)
    {names : List CString} {numJoints : BitVec 32} (joints : names.length = numJoints.toNat) :
    Layout.Steady cdrHeaderSize capacity (jointStateOps frameId names numJoints ++
      (nextArrayOps numJoints ++ nextArrayOps numJoints) : LayoutOps platform) 8 := by
  rw [jointStateOps, Layout.steady_append, Layout.steady_append, Layout.steady_append,
    Layout.fits_append, fits_headOps_iff, endsAt_headOps, fits_countOps_iff,
    fits_nextArrayOps_iff, Layout.endsAt_append, endsAt_headOps, endsAt_countOps,
    endsAt_nextArrayOps]
  have position := alignTo_eight_le (alignTo 4 (headEnd frameId names) + 4)
  have velocity := alignTo_eight_le
    (alignTo 4 (countEnd (headEnd frameId names) + (8 * numJoints).toNat) + 4)
  rw [← countEnd] at position velocity
  refine ⟨⟨steady_headOps modest frameId names numJoints, ?_⟩, ?_⟩
  · intro named
    exact steady_countOps modest numJoints (by omega)
  · rintro ⟨named, counted⟩
    have array := array_le_of_names joints named
    refine ⟨steady_nextArrayOps modest numJoints (by omega) array, ?_⟩
    intro next
    exact steady_nextArrayOps modest numJoints (by omega) array

theorem jointCommand_fits_iff {capacity : Nat} (frameId : CString) (names : List CString)
    (interfaceName : CString) (numJoints : BitVec 32) :
    Layout.Fits cdrHeaderSize capacity
        (jointCommandOps frameId names interfaceName numJoints : LayoutOps platform) 8 ↔
      jointCommandTemplateEnd frameId names interfaceName ≤ capacity := by
  have head := alignTo_ge 4 (headEnd frameId names)
  have named := stringEnd_ge (alignTo 4 (headEnd frameId names)) interfaceName
  have count := alignTo_ge 4 (stringEnd (alignTo 4 (headEnd frameId names)) interfaceName)
  rw [jointCommandOps, Layout.fits_append, Layout.fits_append, fits_headOps_iff,
    Layout.endsAt_append, endsAt_headOps, fits_nameOps_iff, endsAt_nameOps, fits_countOps_iff,
    jointCommandTemplateEnd]
  omega

theorem jointCommand_steady {capacity : Nat} (modest : Modest capacity) (frameId : CString)
    (names : List CString) (interfaceName : CString) (numJoints : BitVec 32) :
    Layout.Steady cdrHeaderSize capacity
      (jointCommandOps frameId names interfaceName numJoints : LayoutOps platform) 8 := by
  rw [jointCommandOps, Layout.steady_append, Layout.steady_append, Layout.fits_append,
    fits_headOps_iff, endsAt_headOps, fits_nameOps_iff, Layout.endsAt_append, endsAt_headOps,
    endsAt_nameOps]
  refine ⟨⟨steady_headOps modest frameId names numJoints, ?_⟩, ?_⟩
  · exact steady_nameOps modest interfaceName
  · rintro ⟨_, named⟩
    exact steady_countOps modest numJoints (by omega)

/-- A pass behind the header, with the stamp skipped. -/
theorem layout_ok_iff {outBuffer : Bytes}
    (room : cdrHeaderSize ≤ outBuffer.length) {ops : LayoutOps platform}
    (steady : Layout.Steady cdrHeaderSize outBuffer.length ops 8) :
    (∃ after, layout (.skip 8 :: ops) ⟨overwrite outBuffer 0 encapsulation, 4⟩ = .ok after) ↔
      Layout.Fits cdrHeaderSize outBuffer.length ops 8 := by
  have eight : (8 : platform.SizeT).toNat = 8 :=
    Layout.toNat_ofNat_of_lt 8 (platform.representable (by decide))
  have length : (overwrite outBuffer 0 encapsulation).length = outBuffer.length :=
    overwrite_length (by simpa [encapsulation, cdrHeaderSize] using room)
  have skipped : (⟨overwrite outBuffer 0 encapsulation, 4 + 8⟩ : Out platform).cursor.toNat =
      cdrHeaderSize + 8 := by
    have four : (4 : platform.SizeT).toNat = 4 :=
      Layout.toNat_ofNat_of_lt 4 (platform.representable (by decide))
    rw [BitVec.toNat_add, four, eight]
    exact Nat.mod_eq_of_lt (platform.representable (by decide))
  rw [layout_skip]
  rw [← length] at steady ⊢
  exact Layout.exec_ok_iff skipped steady

theorem zcdrInitJointState_ok_iff {frameId : Option CString} {jointNames : List CString}
    {numJoints : BitVec 32} (joints : jointNames.length = numJoints.toNat) {outBuffer : Bytes}
    (modest : Modest outBuffer.length) :
    (∃ result : JointStateCtx platform × Bytes,
        zcdrInitJointState frameId jointNames numJoints outBuffer = .ok result) ↔
      jointStateTemplateEnd (OptionalString.value frameId) jointNames (8 * numJoints).toNat ≤
        outBuffer.length := by
  have all : jointNames.take numJoints.toNat = jointNames := by
    rw [← joints, List.take_length]
  have steady := @jointState_steady platform _ modest (OptionalString.value frameId) _ _ joints
  rw [zcdrInitJointState_layout, all, ← @jointState_fits_iff platform]
  constructor
  · rintro ⟨result, run⟩
    obtain ⟨header, headerRun, run⟩ := bind_ok_iff.mp run
    have room := header_room headerRun
    rw [header_ok room] at headerRun
    cases headerRun
    obtain ⟨position, positionRun, run⟩ := bind_ok_iff.mp run
    obtain ⟨velocity, velocityRun, run⟩ := bind_ok_iff.mp run
    obtain ⟨effort, effortRun, run⟩ := bind_ok_iff.mp run
    rw [← layout_ok_iff room steady]
    refine ⟨effort, ?_⟩
    rw [← List.cons_append, layout_append, positionRun]
    change layout (nextArrayOps numJoints ++ nextArrayOps numJoints) position = _
    rw [layout_append, velocityRun]
    exact effortRun
  · intro fits
    have room : cdrHeaderSize ≤ outBuffer.length := by
      rw [jointState_fits_iff, jointStateTemplateEnd] at fits
      omega
    obtain ⟨effort, run⟩ := (layout_ok_iff room steady).mpr fits
    rw [← List.cons_append, layout_append] at run
    obtain ⟨position, positionRun, run⟩ := bind_ok_iff.mp run
    rw [layout_append] at run
    obtain ⟨velocity, velocityRun, effortRun⟩ := bind_ok_iff.mp run
    rw [header_ok room]
    simp only [bind, Except.bind, positionRun, velocityRun, effortRun]
    exact ⟨_, rfl⟩

theorem zcdrInitJointCommand_ok_iff {frameId : Option CString} {jointNames : List CString}
    {numJoints : BitVec 32} (joints : jointNames.length = numJoints.toNat)
    {interfaceName : Option CString} {outBuffer : Bytes} (modest : Modest outBuffer.length) :
    (∃ result : JointCommandCtx platform × Bytes,
        zcdrInitJointCommand frameId jointNames numJoints interfaceName outBuffer = .ok result) ↔
      jointCommandTemplateEnd (OptionalString.value frameId) jointNames
        (OptionalString.value interfaceName) ≤ outBuffer.length := by
  have all : jointNames.take numJoints.toNat = jointNames := by
    rw [← joints, List.take_length]
  have steady := @jointCommand_steady platform _ modest (OptionalString.value frameId) jointNames
    (OptionalString.value interfaceName) numJoints
  rw [zcdrInitJointCommand_layout, all,
    ← @jointCommand_fits_iff platform _ _ _ _ numJoints]
  constructor
  · rintro ⟨result, run⟩
    obtain ⟨header, headerRun, run⟩ := bind_ok_iff.mp run
    have room := header_room headerRun
    rw [header_ok room] at headerRun
    cases headerRun
    obtain ⟨values, valuesRun, run⟩ := bind_ok_iff.mp run
    exact (layout_ok_iff room steady).mp ⟨values, valuesRun⟩
  · intro fits
    have room : cdrHeaderSize ≤ outBuffer.length := by
      rw [jointCommand_fits_iff, jointCommandTemplateEnd] at fits
      omega
    obtain ⟨values, run⟩ := (layout_ok_iff room steady).mpr fits
    rw [header_ok room]
    simp only [bind, Except.bind, run]
    exact ⟨_, rfl⟩

theorem jointStateLayout_payload_le {frameId : Option CString} {jointNames : List CString}
    {numJoints : BitVec 32} (joints : jointNames.length = numJoints.toNat) {capacity : Nat}
    (fits : jointStateTemplateEnd (OptionalString.value frameId) jointNames
      (8 * numJoints).toNat ≤ capacity) :
    (jointStateLayout frameId jointNames numJoints).payload ≤ 3 * capacity + 7 := by
  have array := array_le_of_names joints
    (Nat.le_trans (headEnd_le_templateEnd (OptionalString.value frameId) jointNames _) fits)
  have all : jointNames.take numJoints.toNat = jointNames := by
    rw [← joints, List.take_length]
  simp only [jointStateTemplateEnd] at fits
  simp only [jointStateLayout, jointStateOffsets, all]
  generalize head : headEnd (OptionalString.value frameId) jointNames = names at fits ⊢
  have position := countEnd_ge names
  have velocity := countEnd_ge (countEnd names + (8 * numJoints).toNat)
  have effort := alignTo_ge 4
    (countEnd (countEnd names + (8 * numJoints).toNat) + (8 * numJoints).toNat)
  have last := alignTo_eight_le (alignTo 4
    (countEnd (countEnd names + (8 * numJoints).toNat) + (8 * numJoints).toNat) + 4)
  rw [← countEnd] at last
  omega

theorem jointCommandLayout_payload_le {frameId : Option CString} {jointNames : List CString}
    {numJoints : BitVec 32} (joints : jointNames.length = numJoints.toNat)
    {interfaceName : Option CString} {capacity : Nat}
    (fits : jointCommandTemplateEnd (OptionalString.value frameId) jointNames
      (OptionalString.value interfaceName) ≤ capacity) :
    (jointCommandLayout frameId jointNames numJoints interfaceName).payload ≤
      3 * capacity + 7 := by
  have array := array_le_of_names joints (Nat.le_trans (headEnd_le_commandTemplateEnd
    (OptionalString.value frameId) jointNames (OptionalString.value interfaceName)) fits)
  have all : jointNames.take numJoints.toNat = jointNames := by
    rw [← joints, List.take_length]
  rw [jointCommandTemplateEnd] at fits
  simp only [jointCommandLayout, jointCommandOffsets, all]
  generalize head : headEnd (OptionalString.value frameId) jointNames = names at fits ⊢
  have start := alignTo_ge 4 names
  have interface := stringEnd_ge (alignTo 4 names) (OptionalString.value interfaceName)
  have count := alignTo_ge 4 (stringEnd (alignTo 4 names) (OptionalString.value interfaceName))
  have last := alignTo_eight_le
    (alignTo 4 (stringEnd (alignTo 4 names) (OptionalString.value interfaceName)) + 4)
  rw [← countEnd] at last
  omega

end Zenbedded.Transport
