import Mathlib.Data.List.Infix
import Zenbedded.Rcl.StateHistory
import Zenbedded.Rcl.SuccessiveReads
import Zenbedded.Rcl.Undisturbed

namespace Zenbedded.Rcl

open Zenbedded.Foundation Zenbedded.Foundation.Cdr Zenbedded.Transport

/-! # What Tier 1 publishes while states are written

The codec stores its bytes one after another into the slot that is not active, and
any number of threads may be publishing meanwhile.  What they put is CDR, and each
message is the one that the writes into one slot have made.
-/

variable {platform : Platform} {width : Nat} {Callback : Type}
variable {CommandCtx CommandParams CommandValue : Type}

/-- The stores of one `copyIn`. -/
def arrayStores (offset count : platform.SizeT) : Option (List Double) → List ByteStore
  | none => []
  | some values => memcpyStores offset.toNat ((arrayBytes values).take count.toNat)

/-- The stores of `zcdr_serialize_joint_state`, in its order. -/
def serializeStores (ctx : JointStateCtx platform) (value : JointStateValue) : List ByteStore :=
  let count := arraySize ctx.numJoints
  memcpyStores ctx.offsetTimestamp.toNat (wordBytes value.stampSec) ++
    memcpyStores (ctx.offsetTimestamp + 4).toNat (wordBytes value.stampNanosec) ++
    arrayStores ctx.offsetPosition count value.positions ++
    arrayStores ctx.offsetVelocity count value.velocities ++
    arrayStores ctx.offsetEffort count value.efforts

theorem patch_append (first second : List ByteStore) (bytes : Bytes) :
    patch (first ++ second) bytes = patch second (patch first bytes) :=
  List.foldl_append

theorem copyIn_patch {buffer after : Bytes} {offset count : platform.SizeT}
    {values : Option (List Double)} (copied : copyIn buffer offset count values = .ok after) :
    patch (arrayStores offset count values) buffer = after := by
  cases values with
  | none =>
      cases copied
      rfl
  | some array => exact (storeBytes_patch copied).1

theorem serializeStores_patch {ctx : JointStateCtx platform} {value : JointStateValue}
    {before after : Bytes} (written : JointStateCodec.write ctx value before = .ok after) :
    patch (serializeStores ctx value) before = after := by
  obtain ⟨sec, secStored, written⟩ := bind_ok_iff.mp written
  obtain ⟨nanosec, nanosecStored, written⟩ := bind_ok_iff.mp written
  obtain ⟨position, positionCopied, written⟩ := bind_ok_iff.mp written
  obtain ⟨velocity, velocityCopied, effortCopied⟩ := bind_ok_iff.mp written
  simp only [serializeStores, patch_append]
  rw [(storeBytes_patch secStored).1, (storeBytes_patch nanosecStored).1,
    copyIn_patch positionCopied, copyIn_patch velocityCopied, copyIn_patch effortCopied]

/-- The active slot after `count` writes. -/
def activeSlot (count : Nat) : SlotIdx := ⟨count % 2, Nat.mod_lt _ (by decide)⟩

/-- The stamp of the last write, and for each array the last one that a write into the same
slot has passed. -/
def publishedMessage (frameId : Option CString) (jointNames : List CString)
    (history : List JointStateValue) : JointState :=
  let held select := heldArray jointNames.length select (activeSlot history.length) history
  { sec := (history.getLast?.map JointStateValue.stampSec).getD 0
    nanosec := (history.getLast?.map JointStateValue.stampNanosec).getD 0
    frameId := (OptionalString.value frameId).chars
    name := jointNames.map CString.chars
    position := held JointStateValue.positions
    velocity := held JointStateValue.velocities
    effort := held JointStateValue.efforts }

/-- The messages after each write and at first, the newest first. -/
def publishedMessages (frameId : Option CString) (jointNames : List CString)
    (history : List JointStateValue) : List JointState :=
  (history.inits.map (publishedMessage frameId jointNames)).reverse

theorem publishedMessages_last (frameId : Option CString) (jointNames : List CString)
    (history : List JointStateValue) (value : JointStateValue) :
    publishedMessages frameId jointNames (history ++ [value]) =
      publishedMessage frameId jointNames (history ++ [value]) ::
        publishedMessages frameId jointNames history := by
  simp [publishedMessages, List.inits_append]

theorem publishedMessage_matches {frameId : Option CString} {jointNames : List CString}
    {history : List JointStateValue}
    (lengths : ∀ call ∈ history, call.Sized jointNames.length) :
    (publishedMessage frameId jointNames history).Matches (OptionalString.value frameId)
      jointNames := by
  have held (select) (member : select ∈ arraysOf) :
      (heldArray jointNames.length select (activeSlot history.length) history).length =
        jointNames.length :=
    lastArray_sized (fun call inSlot => lengths call (slotWrites_sub inSlot)) member
      List.length_replicate
  exact ⟨rfl, rfl, held _ (by simp [arraysOf]), held _ (by simp [arraysOf]),
    held _ (by simp [arraysOf])⟩

/-- The template that nobody has written to. -/
theorem initial_message {frameId : Option CString} {jointNames : List CString}
    {numJoints : BitVec 32} (joints : jointNames.length = numJoints.toNat)
    (narrow : (8 * numJoints).toNat = 8 * numJoints.toNat) (capacity : Nat) :
    JointStateParts.initial platform (List.replicate capacity 0) frameId jointNames numJoints =
      JointStateParts.ofMessage platform (fun _ => 0) (OptionalString.value frameId) jointNames
        numJoints (publishedMessage frameId jointNames []) := by
  have all : jointNames.take numJoints.toNat = jointNames := by
    rw [← joints, List.take_length]
  obtain ⟨position, velocity, effort⟩ := @JointStateParts.initial_arrays platform frameId _ _ joints
    narrow capacity
  have stamp (position : Nat) :
      Layout.gap (fun _ => 0) 4 position = wordBytes (0 : BitVec 32) := by
    rw [Layout.gap]
    decide
  ext1
  · simp only [JointStateParts.initial, residue_zero]
    exact stamp 0
  · simp only [JointStateParts.initial, residue_zero]
    exact stamp 4
  · simp only [JointStateParts.initial, residue_zero, all]
    rfl
  · exact position
  · simp only [JointStateParts.initial, residue_zero, all, narrow]
    rfl
  · exact velocity
  · simp only [JointStateParts.initial, residue_zero, all, narrow]
    rfl
  · exact effort

/-- The active slot holds the message. -/
theorem activeSlot_message {frameId : Option CString} {jointNames : List CString}
    {numJoints : BitVec 32} (joints : jointNames.length = numJoints.toNat)
    (narrow : (8 * numJoints).toNat = 8 * numJoints.toNat) (capacity : Nat)
    (history : List JointStateValue) :
    (JointStateParts.initial platform (List.replicate capacity 0) frameId jointNames
        numJoints).calls (slotWrites (activeSlot history.length) history) =
      JointStateParts.ofMessage platform (fun _ => 0) (OptionalString.value frameId) jointNames
        numJoints (publishedMessage frameId jointNames history) := by
  rcases List.eq_nil_or_concat history with rfl | ⟨before, last, rfl⟩
  · exact initial_message joints narrow capacity
  · rw [List.concat_eq_append, slotWrites_next rfl,
      JointStateParts.initial_calls joints narrow capacity]
    congr 1
    rw [publishedMessage, JointState.ofHistory]
    simp only [heldArray, slotWrites_next (Eq.refl (activeSlot (before ++ [last]).length).val),
      List.getLast?_concat, Option.map_some, Option.getD_some]

theorem sized_last {count : Nat} {history : List JointStateValue} {value : JointStateValue}
    (lengths : ∀ call ∈ history ++ [value], call.Sized count) :
    (∀ call ∈ history, call.Sized count) ∧ value.Sized count :=
  ⟨fun call member => lengths call (List.mem_append_left _ member),
    lengths value (List.mem_append_right _ (List.mem_singleton_self value))⟩

theorem activeSlot_succ (count : Nat) : activeSlot (count + 1) = otherSlot (activeSlot count) :=
  Fin.ext (otherSlot_val rfl).symm

/-- What a history leaves in the active slot and in the other one. -/
def historyContents (parts : JointStateParts) (rest : Bytes) (history : List JointStateValue) :
    Contents :=
  let active := activeSlot history.length
  { front := (parts.calls (slotWrites active history)).payload ++ rest
    back := (parts.calls (slotWrites (otherSlot active) history)).payload ++ rest }

section

variable {Reader : Type} {ctx : JointStateCtx platform} {numJoints : BitVec 32}
  {parts : JointStateParts} {rest : Bytes} {history : List JointStateValue}

/-- The writes committed in a run, in their order. -/
def committedWrites (trace : List (Event Reader)) : List Write :=
  (trace.filterMap Event.committed).reverse

/-- The writes committed are those of `write_state` with the values of a history. -/
def WritesHistory (ctx : JointStateCtx platform) (trace : List (Event Reader))
    (history : List JointStateValue) : Prop :=
  committedWrites trace = history.map fun value => Write.state (serializeStores ctx value)

theorem WritesHistory.quiet {event : Event Reader} {trace : List (Event Reader)}
    (writes : WritesHistory ctx (event :: trace) history) (uncommitted : event.committed = none) :
    WritesHistory ctx trace history := by
  rw [WritesHistory, committedWrites, List.filterMap_cons_none uncommitted] at writes
  exact writes

theorem WritesHistory.commit {write : Write} {trace : List (Event Reader)}
    (writes : WritesHistory ctx (.writer (.commit write) :: trace) history) :
    ∃ before value, history = before ++ [value] ∧ WritesHistory ctx trace before ∧
      write = .state (serializeStores ctx value) := by
  have grown : committedWrites (Event.writer (.commit write) :: trace) =
      committedWrites trace ++ [write] := List.reverse_cons
  rw [WritesHistory, grown] at writes
  obtain ⟨before, last, rfl, earlier, newest⟩ := List.map_eq_append_iff.mp writes.symm
  obtain ⟨value, rfl, rfl⟩ := List.map_eq_singleton_iff.mp newest
  exact ⟨before, value, rfl, earlier.symm, rfl⟩

variable (points : ctx.At numJoints parts.offsets) (sized : parts.Sized (8 * numJoints.toNat))
  (narrow : (8 * numJoints).toNat = 8 * numJoints.toNat)

include points sized narrow in
/-- A commit patches the slot that was not active and makes it the active one. -/
theorem historyContents_commit (lengths : ∀ call ∈ history, call.Sized numJoints.toNat)
    {value : JointStateValue} (valueSized : value.Sized numJoints.toNat) :
    (WriterEvent.commit (.state (serializeStores ctx value))).effect
        (historyContents parts rest history) = historyContents parts rest (history ++ [value]) := by
  have here := otherSlot_val (Eq.refl (activeSlot history.length).val)
  generalize slot : otherSlot (activeSlot history.length) = target at here
  have next : activeSlot (history ++ [value]).length = target := by
    rw [List.length_append, List.length_singleton, activeSlot_succ, slot]
  have lands : slotWrites target (history ++ [value]) = slotWrites target history ++ [value] := by
    rw [slotWrites_append, if_pos here.symm]
  have misses : slotWrites (otherSlot target) (history ++ [value]) =
      slotWrites (activeSlot history.length) history := by
    rw [← slot, otherSlot_otherSlot, slotWrites_append, if_neg]
    show ¬ (history.length + 1) % 2 = history.length % 2
    omega
  have pointsHere : ctx.At numJoints (parts.calls (slotWrites target history)).offsets := by
    rw [slot_offsets sized lengths]
    exact points
  have stored : JointStateCodec.write ctx value
      ((parts.calls (slotWrites target history)).payload ++ rest) =
        .ok (((parts.calls (slotWrites target history)).call value).payload ++ rest) :=
    zcdrSerializeJointState_parts pointsHere (slot_sized sized lengths target) narrow
      value.stampSec value.stampNanosec valueSized.positions valueSized.velocities
      valueSized.efforts rest
  have patched := serializeStores_patch stored
  rw [historyContents, historyContents, next, lands, misses, slot, JointStateParts.calls_append]
  simp only [WriterEvent.effect, Contents.commit, Write.apply, Write.stores, patched]
  rfl

include points sized narrow in
theorem contentsAfter_history {trace : List (Event Reader)}
    (writes : WritesHistory ctx trace history)
    (lengths : ∀ call ∈ history, call.Sized numJoints.toNat) :
    contentsAfter (historyContents parts rest []) trace = historyContents parts rest history := by
  induction trace generalizing history with
  | nil =>
      rw [List.map_eq_nil_iff.mp (Eq.symm writes)]
      rfl
  | cons event trace inductionHypothesis =>
      cases event with
      | reader reader event => exact inductionHypothesis (writes.quiet rfl) lengths
      | writer event =>
          cases event with
          | internal | increment | counted =>
              exact inductionHypothesis (writes.quiet rfl) lengths
          | commit write =>
              obtain ⟨before, value, rfl, earlier, rfl⟩ := writes.commit
              obtain ⟨beforeSized, valueSized⟩ := sized_last lengths
              have contents := inductionHypothesis earlier beforeSized
              rw [← historyContents_commit points sized narrow beforeSized valueSized, ← contents]
              rfl

include points sized narrow in
theorem fronts_history {trace : List (Event Reader)} (writes : WritesHistory ctx trace history)
    (lengths : ∀ call ∈ history, call.Sized numJoints.toNat) :
    fronts (historyContents parts rest []) trace =
      (history.inits.map fun before => (historyContents parts rest before).front).reverse := by
  induction trace generalizing history with
  | nil =>
      rw [List.map_eq_nil_iff.mp (Eq.symm writes)]
      rfl
  | cons event trace inductionHypothesis =>
      cases event with
      | reader reader event => exact inductionHypothesis (writes.quiet rfl) lengths
      | writer event =>
          cases event with
          | internal | increment | counted =>
              exact inductionHypothesis (writes.quiet rfl) lengths
          | commit write =>
              have contents := @contentsAfter_history _ _ _ _ _ rest _ points sized narrow _ writes
                lengths
              obtain ⟨before, value, rfl, earlier, rfl⟩ := writes.commit
              have older := inductionHypothesis earlier (sized_last lengths).1
              rw [fronts, if_pos (by rfl), older, contents]
              simp [List.inits_append]

end

/-- The state buffer as `init` leaves it, with nobody at work. -/
def ZenbeddedClientBase.stateSystem (Reader : Type)
    (client : ZenbeddedClientBase platform width) : System Reader width :=
  { shared := { buffer := client.stateBuffer, acceptedCount := 0, writer := .idle }
    readers := fun _ => .idle }

section

variable {config : Config}
  {commandCodec : CommandCodec platform CommandCtx CommandParams CommandValue}
  {stateParams : JointStateCodec.InitParams} {cmdParams : CommandParams} {scratch : Bytes}
  {client ready : JointStateClient platform width CommandCtx} {zenoh : ZenohOutcomes}
  {onTransportCmdCb : Callback} {controlFreq : BitVec 32}
  {transport left : ZenohTransport Callback} {code : Int}

theorem init_stateSystem (fresh : client.initialized = false)
    (run : client.init config (JointStateCodec.codec platform) commandCodec zenoh onTransportCmdCb
      controlFreq stateParams cmdParams scratch transport = .ok (code, ready, left))
    (live : ready.initialized = true) (Reader : Type) :
    ready.stateSystem Reader = System.start ready.stateBuffer.slots := by
  obtain ⟨laid, laidRun, accepted⟩ := init_accepted fresh run live
  obtain ⟨first, firstRun, laidRun⟩ := bind_ok_iff.mp laidRun
  obtain ⟨second, secondRun, laidRun⟩ := bind_ok_iff.mp laidRun
  obtain ⟨command, commandRun, laidRun⟩ := bind_ok_iff.mp laidRun
  cases laidRun
  rw [ZenbeddedClientBase.stateSystem, accepted.stateBuffer]
  rfl

/-- Every payload that a thread puts is read as a message, and the messages sample those of the
history in its order.  The layout takes less than 2^32 bytes, each attempt sees fewer than 2^w
commits. -/
theorem publications_conform (fresh : client.initialized = false)
    (run : client.init config (JointStateCodec.codec platform) commandCodec zenoh onTransportCmdCb
      controlFreq stateParams cmdParams scratch transport = .ok (code, ready, left))
    (live : ready.initialized = true)
    (small : jointStateSize (OptionalString.value stateParams.frameId) stateParams.jointNames <
      2 ^ 32)
    {Reader : Type} [DecidableEq Reader] {trace : List (Event Reader)}
    {system : System Reader width}
    (reaches : Reaches (System.Step ready.statePayloadSize.toNat) (ready.stateSystem Reader) trace
      system)
    (brisk : Brisk width trace) {history : List JointStateValue}
    (writes : WritesHistory ready.stateCtx trace history)
    (lengths : ∀ call ∈ history, call.Sized stateParams.numJoints.toNat) (reader : Reader) :
    ∃ messages,
      Samples messages (publishedMessages stateParams.frameId stateParams.jointNames history) ∧
      List.Forall₂ (fun payload message => decode JointState.reader payload = some message)
        (returned reader trace) messages := by
  obtain ⟨_, sized, _, _, _, holds⟩ := init_prepared fresh run live
  have joints := stateParams.joints
  obtain ⟨strings, narrow, _⟩ := strings_of_small joints small
  rw [init_stateSystem fresh run live] at reaches
  have start : initialContents ready.stateBuffer.slots = historyContents
      (stateParams.parts platform config.maxStateBufferSize)
      ((List.replicate config.maxStateBufferSize 0).drop stateParams.layoutSize) [] := by
    rw [initialContents, holds.slots, holds.slots]
    rfl
  have sampled := returned_samples_whole reaches brisk reader
  rw [start, fronts_history holds.points sized narrow writes lengths, List.map_reverse,
    List.map_map] at sampled
  apply sampled.stand
  rw [publishedMessages, List.forall₂_reverse_iff, List.forall₂_map_left_iff,
    List.forall₂_map_right_iff, List.forall₂_same]
  intro before isPrefix
  have beforeSized : ∀ call ∈ before, call.Sized stateParams.numJoints.toNat := fun call member =>
    lengths call (((List.mem_inits _ _).mp isPrefix).subset member)
  have size : ((stateParams.parts platform config.maxStateBufferSize).calls
      (slotWrites (activeSlot before.length) before)).payload.length =
        (stateParams.parts platform config.maxStateBufferSize).payload.length :=
    congrArg JointStateOffsets.payload (slot_offsets sized beforeSized (activeSlot before.length))
  have front : ((historyContents (stateParams.parts platform config.maxStateBufferSize)
      ((List.replicate config.maxStateBufferSize 0).drop stateParams.layoutSize) before).front).take
        ready.statePayloadSize.toNat =
      ((stateParams.parts platform config.maxStateBufferSize).calls
        (slotWrites (activeSlot before.length) before)).payload := by
    rw [holds.size, ← size]
    exact List.take_left
  rw [Function.comp_apply, front, JointStateCodec.InitParams.parts,
    activeSlot_message joints narrow]
  exact JointState.decode_payload strings (publishedMessage_matches (joints ▸ beforeSized))

end

/-- Two writes of one joint, the second with a velocity, each published once. -/
def twoPublications (ctx : JointStateCtx Platform.host64) : List (Action Unit) :=
  List.flatten
    [[.beginWrite (.state (serializeStores ctx (oneJointValue none)))],
      List.replicate 18 .advanceWriter, List.replicate 80 (.advanceReader ()),
      [.beginWrite (.state (serializeStores ctx (oneJointValue (some [2]))))],
      List.replicate 26 .advanceWriter, List.replicate 80 (.advanceReader ())]

set_option maxRecDepth 16384 in
theorem publications_conform_twoWrites :
    ∃ (ready : HostClient) (left : ZenohTransport Unit) (trace : List (Event Unit))
      (system : System Unit 64) (first second : Bytes) (messages : List JointState),
      (Attempt.oneJoint ZenohOutcomes.good 100).run Config.tier1Default
          (JointStateCodec.codec Platform.host64) (JointCommandCodec.codec Platform.host64) ()
          (Tier1Client.new Config.tier1Default) ZenohTransport.start = .ok (0, ready, left) ∧
      System.run 76 (ready.stateSystem Unit) (twoPublications ready.stateCtx) =
        some (trace, system) ∧
      returned () trace = [second, first] ∧
      Samples messages [⟨0, 0, [], [[97]], [1], [2], [0]⟩, ⟨0, 0, [], [[97]], [1], [0], [0]⟩,
        ⟨0, 0, [], [[97]], [0], [0], [0]⟩] ∧
      List.Forall₂ (fun payload message => decode JointState.reader payload = some message)
        [second, first] messages := by
  obtain ⟨ready, left, trace, system, first, second, run, live, size, ran, published, writes, few⟩ :
      ∃ (ready : HostClient) (left : ZenohTransport Unit) (trace : List (Event Unit))
        (system : System Unit 64) (first second : Bytes),
        (Attempt.oneJoint ZenohOutcomes.good 100).run Config.tier1Default
            (JointStateCodec.codec Platform.host64) (JointCommandCodec.codec Platform.host64) ()
            (Tier1Client.new Config.tier1Default) ZenohTransport.start = .ok (0, ready, left) ∧
        ready.initialized = true ∧ ready.statePayloadSize.toNat = 76 ∧
        System.run 76 (ready.stateSystem Unit) (twoPublications ready.stateCtx) =
          some (trace, system) ∧
        returned () trace = [second, first] ∧
        WritesHistory ready.stateCtx trace [oneJointValue none, oneJointValue (some [2])] ∧
        commits trace = 2 :=
    ⟨_, _, _, _, _, _, rfl, rfl, rfl, rfl, rfl, rfl, rfl⟩
  have reaches := System.run_reaches ran
  rw [← size] at reaches
  have sized : ∀ call ∈ [oneJointValue none, oneJointValue (some [2])],
      call.Sized (oneJointState none).numJoints.toNat := by
    intro call member
    rcases List.mem_pair.mp member with rfl | rfl
    · exact oneJointValue_sized (by simp)
    · exact oneJointValue_sized (by simp)
  obtain ⟨messages, order, each⟩ := publications_conform rfl run live (by decide) reaches
    (brisk_of_few (by rw [few]; decide)) writes sized ()
  rw [published] at each
  exact ⟨ready, left, trace, system, first, second, messages, run, ran, published, order, each⟩

end Zenbedded.Rcl
