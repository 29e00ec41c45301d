import Zenbedded.Rcl.InitResult
import Zenbedded.Transport.Conformance

namespace Zenbedded.Rcl

open Zenbedded.Foundation Zenbedded.Transport

/-! # Histories of state writes

`write_state` patches the two slots in turn, so a slot holds what every other
write of the history left there.  A NULL array keeps the bytes of the write
before the last, which is why a repeated write can change the payload.
-/

variable {platform : Platform} {width : Nat} {Callback : Type}
variable {CommandCtx CommandParams CommandValue : Type}

abbrev JointStateClient (platform : Platform) (width : Nat) (CommandCtx : Type) :=
  ZenbeddedClient platform width (JointStateCtx platform) CommandCtx

/-- The writes that land in a slot: the first one goes to slot 1. -/
def slotWrites {Value : Type} (slot : SlotIdx) (history : List Value) : List Value :=
  (history.zipIdx.filter fun entry => (entry.2 + 1) % 2 = slot.val).map Prod.fst

theorem slotWrites_append {Value : Type} (slot : SlotIdx) (history : List Value) (last : Value) :
    slotWrites slot (history ++ [last]) =
      if (history.length + 1) % 2 = slot.val then slotWrites slot history ++ [last]
      else slotWrites slot history := by
  rw [slotWrites, List.zipIdx_append, List.filter_append, List.map_append, ← slotWrites]
  by_cases lands : (history.length + 1) % 2 = slot.val
  · simp [lands]
  · simp [lands]

theorem slotWrites_sub {Value : Type} {slot : SlotIdx} {history : List Value} {value : Value}
    (member : value ∈ slotWrites slot history) : value ∈ history := by
  obtain ⟨entry, kept, same⟩ := List.mem_map.mp member
  rw [← same]
  exact List.fst_mem_of_mem_zipIdx (List.mem_of_mem_filter kept)

/-- After `history` each slot holds what its own writes left. -/
structure HoldsHistory (client : JointStateClient platform width CommandCtx)
    (numJoints : BitVec 32) (parts : JointStateParts) (rest : Bytes)
    (history : List JointStateValue) : Prop where
  initialized : client.initialized = true
  active : client.stateBuffer.activeIdx.val = history.length % 2
  slots : ∀ slot, client.stateBuffer.slots slot =
    (parts.calls (slotWrites slot history)).payload ++ rest
  points : client.stateCtx.At numJoints parts.offsets
  size : client.statePayloadSize.toNat = parts.payload.length

theorem otherSlot_val {slot : SlotIdx} {count : Nat} (parity : slot.val = count % 2) :
    (otherSlot slot).val = (count + 1) % 2 := by
  match slot with
  | 0 =>
      have even : 0 = count % 2 := parity
      show 1 = (count + 1) % 2
      omega
  | 1 =>
      have odd : 1 = count % 2 := parity
      show 0 = (count + 1) % 2
      omega

section

variable {client : JointStateClient platform width CommandCtx} {numJoints : BitVec 32}
  {parts : JointStateParts} {rest : Bytes} {history : List JointStateValue}
  (sized : parts.Sized (8 * numJoints.toNat))
  (narrow : (8 * numJoints).toNat = 8 * numJoints.toNat)
  (lengths : ∀ call ∈ history, call.Sized numJoints.toNat)

include sized lengths in
theorem slot_sized (slot : SlotIdx) :
    (parts.calls (slotWrites slot history)).Sized (8 * numJoints.toNat) :=
  JointStateParts.calls_sized sized fun call member => lengths call (slotWrites_sub member)

include sized lengths in
theorem slot_offsets (slot : SlotIdx) :
    (parts.calls (slotWrites slot history)).offsets = parts.offsets :=
  JointStateParts.calls_offsets sized fun call member => lengths call (slotWrites_sub member)

include sized narrow lengths in
/-- A write lands in the slot that is not active and makes it the active one. -/
theorem HoldsHistory.writeState (holds : HoldsHistory client numJoints parts rest history)
    {value : JointStateValue} (valueSized : value.Sized numJoints.toNat) :
    ∃ after, client.writeState (JointStateCodec.codec platform) value = .ok after ∧
      HoldsHistory after numJoints parts rest (history ++ [value]) := by
  have target := otherSlot_val holds.active
  generalize slot : otherSlot client.stateBuffer.activeIdx = index at target
  have points : client.stateCtx.At numJoints
      (parts.calls (slotWrites index history)).offsets := by
    rw [slot_offsets sized lengths]
    exact holds.points
  have stored := zcdrSerializeJointState_parts points (slot_sized sized lengths index) narrow
    value.stampSec value.stampNanosec valueSized.positions valueSized.velocities
    valueSized.efforts rest
  rw [← holds.slots] at stored
  have lands : slotWrites index (history ++ [value]) = slotWrites index history ++ [value] := by
    rw [slotWrites_append, if_pos target.symm]
  refine ⟨{ client with
    stateBuffer := (client.stateBuffer.setSlot index
      (((parts.calls (slotWrites index history)).call value).payload ++ rest)).commitWriteSlot
        index }, ?_, ⟨holds.initialized, ?_, ?_, holds.points, holds.size⟩⟩
  · simp only [ZenbeddedClient.writeState, holds.initialized, ↓reduceIte,
      DoubleBuffer.prepareWriteSlot, slot, JointStateCodec.codec, JointStateCodec.write, stored,
      bind, Except.bind]
    rfl
  · rw [DoubleBuffer.commitWriteSlot_activeIdx, target, List.length_append, List.length_singleton]
  · intro other
    by_cases here : other = index
    · rw [here, DoubleBuffer.commitWriteSlot_slots, DoubleBuffer.setSlot_same, lands,
        JointStateParts.calls_append]
      rfl
    · have misses : (history.length + 1) % 2 ≠ other.val := by
        intro same
        exact here (Fin.ext (same.symm.trans target.symm))
      rw [DoubleBuffer.commitWriteSlot_slots, DoubleBuffer.setSlot_other _ here, holds.slots,
        slotWrites_append, if_neg misses]

end

/-- A run of writes from a client that holds `done`. -/
theorem HoldsHistory.writeStates {numJoints : BitVec 32} {parts : JointStateParts} {rest : Bytes}
    (sized : parts.Sized (8 * numJoints.toNat))
    (narrow : (8 * numJoints).toNat = 8 * numJoints.toNat) {done more : List JointStateValue}
    {client : JointStateClient platform width CommandCtx}
    (holds : HoldsHistory client numJoints parts rest done)
    (lengths : ∀ call ∈ done ++ more, call.Sized numJoints.toNat) :
    ∃ after, more.foldlM (fun current value =>
        current.writeState (JointStateCodec.codec platform) value) client = .ok after ∧
      HoldsHistory after numJoints parts rest (done ++ more) := by
  induction more generalizing done client with
  | nil => exact ⟨client, rfl, (List.append_nil done).symm ▸ holds⟩
  | cons value more inductionHypothesis =>
      have before : ∀ call ∈ done, call.Sized numJoints.toNat := by
        intro call member
        exact lengths call (List.mem_append_left _ member)
      obtain ⟨next, written, holdsNext⟩ := holds.writeState sized narrow before
        (lengths value (List.mem_append_right _ (List.mem_cons_self ..)))
      rw [List.append_cons] at lengths
      obtain ⟨after, run, holdsAfter⟩ := inductionHypothesis holdsNext lengths
      refine ⟨after, ?_, ?_⟩
      · rw [List.foldlM_cons, written]
        exact run
      · rw [List.append_cons]
        exact holdsAfter

/-- What is published is the payload of the active slot. -/
theorem HoldsHistory.statePayload {client : JointStateClient platform width CommandCtx}
    {numJoints : BitVec 32} {parts : JointStateParts} {rest : Bytes}
    {history : List JointStateValue} (sized : parts.Sized (8 * numJoints.toNat))
    (lengths : ∀ call ∈ history, call.Sized numJoints.toNat)
    (holds : HoldsHistory client numJoints parts rest history) :
    client.statePayload =
      .ok (parts.calls (slotWrites client.stateBuffer.activeIdx history)).payload := by
  have same : (parts.calls (slotWrites client.stateBuffer.activeIdx history)).payload.length =
      parts.payload.length :=
    congrArg JointStateOffsets.payload (slot_offsets sized lengths client.stateBuffer.activeIdx)
  have room : client.statePayloadSize.toNat ≤
      (client.stateBuffer.slots client.stateBuffer.activeIdx).length := by
    rw [holds.size, holds.slots, List.length_append, same]
    exact Nat.le_add_right _ _
  rw [ZenbeddedClientBase.statePayload, DoubleBuffer.readFromBuffer_ok room, holds.size, holds.slots,
    ← same, List.take_left]
  rfl

/-- The parts that the layout pass leaves in a zero-filled slot. -/
def JointStateCodec.InitParams.parts (platform : Platform) (capacity : Nat)
    (params : InitParams) : JointStateParts :=
  JointStateParts.initial platform (List.replicate capacity 0) params.frameId params.jointNames
    params.numJoints

theorem JointStateCodec.init_slot (ctx : JointStateCtx platform) {after : JointStateCtx platform}
    {params : InitParams} {capacity : Nat} (modest : Modest capacity) {bytes : Bytes}
    (run : JointStateCodec.init ctx params (List.replicate capacity 0) = .ok (after, bytes))
    (fits : params.layoutSize ≤ capacity) :
    after.At params.numJoints (params.parts platform capacity).offsets ∧
      bytes = (params.parts platform capacity).payload ++
        (List.replicate capacity 0).drop params.layoutSize := by
  have wide : capacity < 2 ^ platform.sizeBits := platform.representable (by
    unfold Modest at modest
    omega)
  have room : params.layoutSize ≤ (List.replicate capacity (0 : UInt8)).length := by
    rw [List.length_replicate]
    exact fits
  obtain ⟨ctx', stored⟩ := @zcdrInitJointState_ok platform params.frameId params.jointNames
    params.numJoints _ room (Nat.lt_of_le_of_lt fits wide)
  have points := JointStateCodec.init_at ctx (by rw [List.length_replicate]; exact modest) run
  rw [JointStateCodec.init, stored] at run
  cases run
  refine ⟨?_, rfl⟩
  rw [JointStateCodec.InitParams.parts, JointStateParts.initial_offsets]
  exact points

theorem JointStateCodec.init_narrow (ctx : JointStateCtx platform) {params : InitParams}
    {buffer : Bytes} (modest : Modest buffer.length)
    {result : JointStateCtx platform × Bytes}
    (run : JointStateCodec.init ctx params buffer = .ok result) :
    (8 * params.numJoints).toNat = 8 * params.numJoints.toNat := by
  have fits := (JointStateCodec.init_ok_iff ctx params modest).mp ⟨result, run⟩
  exact narrow_of_names modest params.joints (Nat.le_trans (headEnd_le_templateEnd _ _ _) fits)

/-- Both slots hold the template with arrays of zeros, and nothing has been written yet. -/
structure Prepared (client : JointStateClient platform width CommandCtx) (numJoints : BitVec 32)
    (parts : JointStateParts) (rest : Bytes) : Prop where
  narrow : (8 * numJoints).toNat = 8 * numJoints.toNat
  sized : parts.Sized (8 * numJoints.toNat)
  position : parts.position = arrayBytes (zeroArray numJoints.toNat)
  velocity : parts.velocity = arrayBytes (zeroArray numJoints.toNat)
  effort : parts.effort = arrayBytes (zeroArray numJoints.toNat)
  holds : HoldsHistory client numJoints parts rest []

theorem init_prepared {config : Config}
    {commandCodec : CommandCodec platform CommandCtx CommandParams CommandValue}
    {stateParams : JointStateCodec.InitParams} {cmdParams : CommandParams} {scratch : Bytes}
    {client ready : JointStateClient platform width CommandCtx}
    (fresh : client.initialized = false) {zenoh : ZenohOutcomes} {onTransportCmdCb : Callback}
    {controlFreq : BitVec 32} {transport left : ZenohTransport Callback} {code : Int}
    (run : client.init config (JointStateCodec.codec platform) commandCodec zenoh onTransportCmdCb
      controlFreq stateParams cmdParams scratch transport = .ok (code, ready, left))
    (live : ready.initialized = true) :
    Prepared ready stateParams.numJoints (stateParams.parts platform config.maxStateBufferSize)
      ((List.replicate config.maxStateBufferSize 0).drop stateParams.layoutSize) := by
  obtain ⟨laidOut, _, stateSize, _, stateFits, _⟩ := init_live fresh run live
  obtain ⟨before, after, firstRun⟩ := laidOut.first
  obtain ⟨between, secondRun⟩ := laidOut.second
  have modest : Modest (List.replicate config.maxStateBufferSize (0 : UInt8)).length := by
    rw [List.length_replicate]
    exact config.state_modest
  have layoutSize := JointStateCodec.init_payloadSize between modest secondRun
  have fits : stateParams.layoutSize ≤ config.maxStateBufferSize := by
    rw [stateSize] at stateFits
    exact layoutSize ▸ stateFits
  obtain ⟨_, firstBytes⟩ := JointStateCodec.init_slot before config.state_modest firstRun fits
  obtain ⟨points, secondBytes⟩ := JointStateCodec.init_slot between config.state_modest secondRun fits
  have narrow := JointStateCodec.init_narrow between modest secondRun
  obtain ⟨position, velocity, effort⟩ := @JointStateParts.initial_arrays platform
    stateParams.frameId _ _ stateParams.joints narrow config.maxStateBufferSize
  rw [stateParams.joints] at position velocity effort
  refine ⟨narrow, narrow ▸ JointStateParts.initial_sized _ _ _ _, position, velocity, effort, live,
    ?_, ?_, points, ?_⟩
  · rw [laidOut.active]
    rfl
  · intro slot
    match slot with
    | 0 => exact firstBytes
    | 1 => exact secondBytes
  · rw [stateSize]
    exact points.payload

def arraysOf : List (JointStateValue → Option (List Double)) :=
  [JointStateValue.positions, JointStateValue.velocities, JointStateValue.efforts]

/-- The last array that the writes into a slot have passed, zeros if there was none. -/
def heldArray (count : Nat) (select : JointStateValue → Option (List Double)) (slot : SlotIdx)
    (history : List JointStateValue) : List Double :=
  lastArray select (slotWrites slot history) (zeroArray count)

/-- Where the value brings no array, the two slots hold the same one. -/
def RepeatNeutral (count : Nat) (history : List JointStateValue) (value : JointStateValue) : Prop :=
  ∀ select ∈ arraysOf, select value = none →
    heldArray count select 0 history = heldArray count select 1 history

instance (count : Nat) (history : List JointStateValue) (value : JointStateValue) :
    Decidable (RepeatNeutral count history value) :=
  inferInstanceAs (Decidable (∀ select ∈ arraysOf, select value = none →
    heldArray count select 0 history = heldArray count select 1 history))

/-- After `history` the payload behind one write of `value` and behind two is the same. -/
def RepeatKeepsPayload (client : JointStateClient platform width CommandCtx)
    (history : List JointStateValue) (value : JointStateValue) : Prop :=
  ∃ before once twice payload,
    history.foldlM (fun current value =>
        current.writeState (JointStateCodec.codec platform) value) client = .ok before ∧
      before.writeState (JointStateCodec.codec platform) value = .ok once ∧
      once.writeState (JointStateCodec.codec platform) value = .ok twice ∧
      once.statePayload = .ok payload ∧ twice.statePayload = .ok payload

theorem arrayBytes_inj {first second : List Double} (length : first.length = second.length)
    (same : arrayBytes first = arrayBytes second) : first = second := by
  have read := congrArg (ofArrayBytes 64 first.length) same
  rw [ofArrayBytes_arrayBytes (by decide), length, ofArrayBytes_arrayBytes (by decide)] at read
  exact read

theorem lastArray_last (select : JointStateValue → Option (List Double))
    (history : List JointStateValue) (value : JointStateValue) (initial : List Double) :
    lastArray select (history ++ [value]) initial =
      (select value).getD (lastArray select history initial) := by
  rw [lastArray_append, lastArray_cons]
  rfl

theorem lastArray_sized {count : Nat} {history : List JointStateValue}
    (lengths : ∀ call ∈ history, call.Sized count) {select : JointStateValue → Option (List Double)}
    (member : select ∈ arraysOf) {initial : List Double} (start : initial.length = count) :
    (lastArray select history initial).length = count := by
  refine lastArray_length ?_ start
  intro call inHistory
  simp only [arraysOf, List.mem_cons, List.not_mem_nil, or_false] at member
  rcases member with rfl | rfl | rfl
  · exact (lengths call inHistory).positions
  · exact (lengths call inHistory).velocities
  · exact (lengths call inHistory).efforts

theorem getD_eq_iff {Value : Type} (given : Option Value) (first second : Value) :
    given.getD first = given.getD second ↔ (given = none → first = second) := by
  cases given with
  | none => simp
  | some value => simp

/-- Two histories with the same last call leave the same payload exactly when
they leave the same arrays. -/
theorem calls_payload_eq_iff {parts : JointStateParts} {count : Nat}
    (sized : parts.Sized (8 * count)) (position : parts.position = arrayBytes (zeroArray count))
    (velocity : parts.velocity = arrayBytes (zeroArray count))
    (effort : parts.effort = arrayBytes (zeroArray count)) {first second : List JointStateValue}
    (firstLengths : ∀ call ∈ first, call.Sized count)
    (secondLengths : ∀ call ∈ second, call.Sized count) {last : JointStateValue}
    (lastSized : last.Sized count) :
    (parts.calls (first ++ [last])).payload = (parts.calls (second ++ [last])).payload ↔
      ∀ select ∈ arraysOf, select last = none →
        lastArray select first (zeroArray count) = lastArray select second (zeroArray count) := by
  have lengths {history : List JointStateValue} (others : ∀ call ∈ history, call.Sized count) :
      ∀ call ∈ history ++ [last], call.Sized count := by
    intro call member
    rcases List.mem_append.mp member with before | final
    · exact others call before
    · rw [List.mem_singleton.mp final]
      exact lastSized
  have zeros : (zeroArray count).length = count := List.length_replicate
  obtain ⟨firstHead, firstVelocities, firstEfforts⟩ := parts.calls_fixed (first ++ [last])
  obtain ⟨secondHead, secondVelocities, secondEfforts⟩ := parts.calls_fixed (second ++ [last])
  obtain ⟨firstSec, firstNanosec⟩ := parts.calls_stamp first last
  obtain ⟨secondSec, secondNanosec⟩ := parts.calls_stamp second last
  have firstArrays := JointStateParts.calls_arrays position velocity effort (first ++ [last])
  have secondArrays := JointStateParts.calls_arrays position velocity effort (second ++ [last])
  have bytes {select : JointStateValue → Option (List Double)} (member : select ∈ arraysOf) :
      arrayBytes (lastArray select (first ++ [last]) (zeroArray count)) =
          arrayBytes (lastArray select (second ++ [last]) (zeroArray count)) ↔
        (select last = none →
          lastArray select first (zeroArray count) = lastArray select second (zeroArray count)) := by
    rw [← getD_eq_iff, ← lastArray_last, ← lastArray_last]
    refine ⟨arrayBytes_inj ?_, congrArg arrayBytes⟩
    rw [lastArray_sized (lengths firstLengths) member zeros,
      lastArray_sized (lengths secondLengths) member zeros]
  constructor
  · intro same
    have equal := JointStateParts.payload_inj
      (JointStateParts.calls_sized sized (lengths firstLengths))
      (JointStateParts.calls_sized sized (lengths secondLengths)) (firstHead.trans secondHead.symm)
      (firstVelocities.trans secondVelocities.symm) (firstEfforts.trans secondEfforts.symm) same
    rw [equal] at firstArrays
    intro select member
    apply (bytes member).mp
    simp only [arraysOf, List.mem_cons, List.not_mem_nil, or_false] at member
    rcases member with rfl | rfl | rfl
    · exact firstArrays.1.symm.trans secondArrays.1
    · exact firstArrays.2.1.symm.trans secondArrays.2.1
    · exact firstArrays.2.2.symm.trans secondArrays.2.2
  · intro arrays
    have sameArray {select : JointStateValue → Option (List Double)} (member : select ∈ arraysOf) :=
      (bytes member).mpr (arrays select member)
    refine congrArg JointStateParts.payload (JointStateParts.ext (firstSec.trans secondSec.symm)
      (firstNanosec.trans secondNanosec.symm) (firstHead.trans secondHead.symm) ?_
      (firstVelocities.trans secondVelocities.symm) ?_ (firstEfforts.trans secondEfforts.symm) ?_)
    · rw [firstArrays.1, secondArrays.1, sameArray (by simp [arraysOf])]
    · rw [firstArrays.2.1, secondArrays.2.1, sameArray (by simp [arraysOf])]
    · rw [firstArrays.2.2, secondArrays.2.2, sameArray (by simp [arraysOf])]

/-- The slot of the next write has the arrays of the writes that went there before. -/
theorem slotWrites_next {Value : Type} {slot : SlotIdx} {history : List Value} {value : Value}
    (lands : slot.val = (history ++ [value]).length % 2) :
    slotWrites slot (history ++ [value]) = slotWrites slot history ++ [value] := by
  rw [List.length_append, List.length_singleton] at lands
  rw [slotWrites_append, if_pos lands.symm]

theorem slotWrites_after {Value : Type} {slot : SlotIdx} {history : List Value} {value : Value}
    (lands : slot.val = (history ++ [value] ++ [value]).length % 2) :
    slotWrites slot (history ++ [value] ++ [value]) = slotWrites slot history ++ [value] := by
  have misses : ¬ (history.length + 1) % 2 = slot.val := by
    simp only [List.length_append, List.length_singleton] at lands
    omega
  rw [slotWrites_next lands, slotWrites_append, if_neg misses]

theorem sized_append {count : Nat} {history : List JointStateValue}
    (lengths : ∀ call ∈ history, call.Sized count) {value : JointStateValue}
    (valueSized : value.Sized count) : ∀ call ∈ history ++ [value], call.Sized count := by
  intro call member
  rcases List.mem_append.mp member with before | final
  · exact lengths call before
  · rw [List.mem_singleton.mp final]
    exact valueSized

/-- The two writes of a value land in the two slots. -/
theorem HoldsHistory.repeated {before : JointStateClient platform width CommandCtx}
    {numJoints : BitVec 32} {parts : JointStateParts} {rest : Bytes}
    {history : List JointStateValue} (sized : parts.Sized (8 * numJoints.toNat))
    (narrow : (8 * numJoints).toNat = 8 * numJoints.toNat)
    (holds : HoldsHistory before numJoints parts rest history)
    (lengths : ∀ call ∈ history, call.Sized numJoints.toNat) {value : JointStateValue}
    (valueSized : value.Sized numJoints.toNat) :
    ∃ once twice slot,
      before.writeState (JointStateCodec.codec platform) value = .ok once ∧
      once.writeState (JointStateCodec.codec platform) value = .ok twice ∧
      once.statePayload = .ok (parts.calls (slotWrites slot history ++ [value])).payload ∧
      twice.statePayload =
        .ok (parts.calls (slotWrites (otherSlot slot) history ++ [value])).payload := by
  have longer := sized_append lengths valueSized
  obtain ⟨once, onceRun, holdsOnce⟩ := holds.writeState sized narrow lengths valueSized
  obtain ⟨twice, twiceRun, holdsTwice⟩ := holdsOnce.writeState sized narrow longer valueSized
  have other : twice.stateBuffer.activeIdx = otherSlot once.stateBuffer.activeIdx := by
    apply Fin.ext
    rw [holdsTwice.active, otherSlot_val holdsOnce.active, List.length_append,
      List.length_singleton]
  refine ⟨once, twice, once.stateBuffer.activeIdx, onceRun, twiceRun, ?_, ?_⟩
  · rw [holdsOnce.statePayload sized longer, slotWrites_next holdsOnce.active]
  · rw [holdsTwice.statePayload sized (sized_append longer valueSized),
      slotWrites_after holdsTwice.active, other]

theorem Prepared.repeat_iff {ready : JointStateClient platform width CommandCtx}
    {numJoints : BitVec 32} {parts : JointStateParts} {rest : Bytes}
    (prepared : Prepared ready numJoints parts rest) {history : List JointStateValue}
    (lengths : ∀ call ∈ history, call.Sized numJoints.toNat) {value : JointStateValue}
    (valueSized : value.Sized numJoints.toNat) :
    RepeatKeepsPayload ready history value ↔ RepeatNeutral numJoints.toNat history value := by
  obtain ⟨narrow, sized, position, velocity, effort, holds⟩ := prepared
  obtain ⟨before, beforeRun, holdsBefore⟩ := holds.writeStates sized narrow lengths
  obtain ⟨once, twice, slot, onceRun, twiceRun, oncePayload, twicePayload⟩ :=
    holdsBefore.repeated sized narrow lengths valueSized
  have compare (slot other : SlotIdx) := calls_payload_eq_iff sized position velocity effort
    (fun call member => lengths call (@slotWrites_sub _ slot _ _ member))
    (fun call member => lengths call (@slotWrites_sub _ other _ _ member)) valueSized
  have keeps : RepeatKeepsPayload ready history value ↔
      (parts.calls (slotWrites slot history ++ [value])).payload =
        (parts.calls (slotWrites (otherSlot slot) history ++ [value])).payload := by
    constructor
    · intro keeping
      obtain ⟨before', once', twice', payload, run, runOnce, runTwice, first, second⟩ := keeping
      cases beforeRun.symm.trans run
      cases onceRun.symm.trans runOnce
      cases twiceRun.symm.trans runTwice
      exact Except.ok.inj
        ((oncePayload.symm.trans first).trans (second.symm.trans twicePayload))
    · intro same
      exact ⟨before, once, twice, _, beforeRun, onceRun, twiceRun, oncePayload, same ▸ twicePayload⟩
  rw [keeps, RepeatNeutral]
  match slot with
  | 0 => exact compare 0 1
  | 1 =>
      rw [eq_comm]
      exact compare 0 1

/-- A repeated write changes the payload unless each array that it leaves out is the
same in both slots. -/
theorem writeState_repeat_iff {config : Config}
    {commandCodec : CommandCodec platform CommandCtx CommandParams CommandValue}
    {stateParams : JointStateCodec.InitParams} {cmdParams : CommandParams} {scratch : Bytes}
    {client ready : JointStateClient platform width CommandCtx}
    (fresh : client.initialized = false) {zenoh : ZenohOutcomes} {onTransportCmdCb : Callback}
    {controlFreq : BitVec 32} {transport left : ZenohTransport Callback} {code : Int}
    (run : client.init config (JointStateCodec.codec platform) commandCodec zenoh onTransportCmdCb
      controlFreq stateParams cmdParams scratch transport = .ok (code, ready, left))
    (live : ready.initialized = true) {history : List JointStateValue}
    (lengths : ∀ call ∈ history, call.Sized stateParams.numJoints.toNat)
    {value : JointStateValue} (valueSized : value.Sized stateParams.numJoints.toNat) :
    RepeatKeepsPayload ready history value ↔
      RepeatNeutral stateParams.numJoints.toNat history value :=
  (init_prepared fresh run live).repeat_iff lengths valueSized

/-- A value of one joint that brings positions, and velocities if they are given. -/
def oneJointValue (velocities : Option (List Double)) : JointStateValue :=
  { stampSec := 0
    stampNanosec := 0
    positions := some [1]
    velocities
    efforts := none }

theorem oneJointValue_sized {velocities : Option (List Double)}
    (length : ∀ array ∈ velocities, array.length = 1) :
    (oneJointValue velocities).Sized (oneJointState none).numJoints.toNat where
  positions := by simp [oneJointValue, oneJointState]
  velocities := length
  efforts := by simp [oneJointValue]

theorem oneJoint_starts : ∃ (ready : HostClient) (left : ZenohTransport Unit),
    (Attempt.oneJoint ZenohOutcomes.good 100).run Config.tier1Default
        (JointStateCodec.codec Platform.host64) (JointCommandCodec.codec Platform.host64) ()
        (Tier1Client.new Config.tier1Default) ZenohTransport.start = .ok (0, ready, left) ∧
      ready.initialized = true := by
  obtain ⟨ready, left, run, live, _⟩ := @Attempt.run_starts _ _ _ _ _ _ _ _ _ _ _ _ ()
    (Attempt.oneJoint ZenohOutcomes.good 100) (Tier1Client.new Config.tier1Default) rfl
    (Attempt.oneJoint_fits _ _ _) _ good_declares (by decide)
  exact ⟨ready, left, run, live⟩

theorem writeState_repeat_one_joint : ∃ (ready : HostClient) (left : ZenohTransport Unit),
    (Attempt.oneJoint ZenohOutcomes.good 100).run Config.tier1Default
        (JointStateCodec.codec Platform.host64) (JointCommandCodec.codec Platform.host64) ()
        (Tier1Client.new Config.tier1Default) ZenohTransport.start = .ok (0, ready, left) ∧
      RepeatKeepsPayload ready [oneJointValue none] (oneJointValue none) := by
  obtain ⟨ready, left, run, live⟩ := oneJoint_starts
  have sized := @oneJointValue_sized none (by simp)
  refine ⟨ready, left, run, (writeState_repeat_iff rfl run live ?_ sized).mpr (by decide)⟩
  intro call member
  rw [List.mem_singleton.mp member]
  exact sized

/-- The first value brings a velocity, the repeated one does not. -/
theorem writeState_not_repeat_one_joint : ∃ (ready : HostClient) (left : ZenohTransport Unit),
    (Attempt.oneJoint ZenohOutcomes.good 100).run Config.tier1Default
        (JointStateCodec.codec Platform.host64) (JointCommandCodec.codec Platform.host64) ()
        (Tier1Client.new Config.tier1Default) ZenohTransport.start = .ok (0, ready, left) ∧
      ready.initialized = true ∧
      ¬ RepeatKeepsPayload ready [oneJointValue (some [1])] (oneJointValue none) := by
  obtain ⟨ready, left, run, live⟩ := oneJoint_starts
  have sized := @oneJointValue_sized none (by simp)
  have prepared := init_prepared rfl run live
  refine ⟨ready, left, run, live, ?_⟩
  rw [prepared.repeat_iff ?_ sized]
  · decide
  · intro call member
    rw [List.mem_singleton.mp member]
    exact oneJointValue_sized (by simp)

end Zenbedded.Rcl
