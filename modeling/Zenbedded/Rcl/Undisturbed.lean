import Mathlib.Logic.Relation
import Zenbedded.Rcl.Client
import Zenbedded.Rcl.Stability

namespace Zenbedded.Rcl

open Zenbedded.Foundation Zenbedded.Transport

/-! # Undisturbed runs

The functions that run alone are what the single steps add up to when nobody
else takes one: the buffer operations, a codec's stores, and a read.
-/

variable {width : Nat}

/-- Any number of steps of the writer behind its first load. -/
def WriterRun : Shared width → Shared width → Prop :=
  Relation.ReflTransGen fun shared after => ∃ event, shared.advanceWriter = some (event, after)

theorem setSlot_setSlot (buffer : DoubleBuffer width) (index : SlotIdx) (first second : Bytes) :
    (buffer.setSlot index first).setSlot index second = buffer.setSlot index second := by
  simp [DoubleBuffer.setSlot]

theorem stores_run {shared : Shared width} {target : SlotIdx} {write : Write}
    {pending : List ByteStore} (storing : shared.writer = .storing target write pending)
    (inside : ∀ store ∈ pending, store.1 < (shared.buffer.slots target).length) :
    WriterRun shared { shared with
      buffer := shared.buffer.setSlot target (patch pending (shared.buffer.slots target))
      writer := .storing target write [] } := by
  induction pending generalizing shared with
  | nil =>
      have same : shared.buffer.setSlot target (shared.buffer.slots target) = shared.buffer := by
        simp [DoubleBuffer.setSlot]
      rw [patch, List.foldl_nil, same, ← storing]
      exact .refl
  | cons store rest inductionHypothesis =>
      obtain ⟨position, byte⟩ := store
      have here := inside _ (List.mem_cons_self ..)
      have stepped : shared.advanceWriter = some (.internal, { shared with
          buffer := shared.buffer.setSlot target ((shared.buffer.slots target).set position byte)
          writer := .storing target write rest }) := by
        simp only [Shared.advanceWriter, storing, storeByte, if_pos here]
      refine .head ⟨_, stepped⟩ ?_
      have later := @inductionHypothesis { shared with
          buffer := shared.buffer.setSlot target ((shared.buffer.slots target).set position byte)
          writer := .storing target write rest } rfl (by
        intro other member
        rw [DoubleBuffer.setSlot_same, List.length_set]
        exact inside other (List.mem_cons_of_mem _ member))
      rw [DoubleBuffer.setSlot_same, setSlot_setSlot] at later
      exact later

/-- A write from its first load to its commit. -/
theorem write_run {shared : Shared width} (idle : shared.writer = .idle) {write : Write}
    (inside : ∀ store ∈ write.stores,
      store.1 < (shared.buffer.slots (otherSlot shared.buffer.activeIdx)).length) :
    ∃ begun, shared.beginWrite write = some (.internal, begun) ∧
      WriterRun begun { shared with
        buffer := (shared.buffer.setSlot (otherSlot shared.buffer.activeIdx) (write.apply
          (shared.buffer.slots (otherSlot shared.buffer.activeIdx)))).commitWriteSlot
            (otherSlot shared.buffer.activeIdx)
        writer := write.afterCommit } := by
  have begins : shared.beginWrite write = some (.internal, { shared with
      writer := .storing (otherSlot shared.buffer.activeIdx) write write.stores }) := by
    simp only [Shared.beginWrite, idle]
  have stored := @stores_run width { shared with
    writer := .storing (otherSlot shared.buffer.activeIdx) write write.stores } _ write _ rfl inside
  exact ⟨_, begins, (stored.tail ⟨_, rfl⟩).tail ⟨_, rfl⟩⟩

theorem memcpyStores_inside {index : Nat} {source : Bytes} {capacity : Nat}
    (room : index + source.length ≤ capacity) :
    ∀ store ∈ memcpyStores index source, store.1 < capacity := by
  induction source generalizing index with
  | nil => simp [memcpyStores]
  | cons byte rest inductionHypothesis =>
      simp only [List.length_cons] at room
      intro store member
      rcases List.mem_cons.mp member with rfl | later
      · show index < capacity
        omega
      · exact inductionHypothesis (by omega) store later

theorem storeBytes_patch {buffer source after : Bytes} {index : Nat}
    (stored : storeBytes buffer index source = .ok after) :
    patch (memcpyStores index source) buffer = after ∧
      ∀ store ∈ memcpyStores index source, store.1 < buffer.length := by
  cases source with
  | nil =>
      cases stored
      exact ⟨rfl, by simp [memcpyStores]⟩
  | cons byte rest =>
      have room := storeBytes_room (by simp) stored
      rw [storeBytes_result stored]
      exact ⟨patch_memcpyStores room, memcpyStores_inside room⟩

/-- `write_command_to_buffer` in one go. -/
theorem writeCommandToBuffer_run {shared : Shared width} (idle : shared.writer = .idle)
    {data : Bytes} {after : DoubleBuffer width}
    (written : shared.buffer.writeToBuffer data = .ok after) :
    ∃ begun, shared.beginWrite (.command data) = some (.internal, begun) ∧
      WriterRun begun
        { buffer := after, acceptedCount := shared.acceptedCount + 1, writer := .idle } := by
  obtain ⟨bytes, stored, committed⟩ := bind_ok_iff.mp written
  cases committed
  obtain ⟨patched, inside⟩ := storeBytes_patch stored
  obtain ⟨begun, begins, run⟩ := @write_run width shared idle (.command data) inside
  rw [Write.apply, Write.stores] at run
  rw [← patched]
  exact ⟨begun, begins, run.tail ⟨.counted, rfl⟩⟩

/-- A function on buffers that only stores bytes inside them. -/
def Stores (before after : Bytes) : Prop :=
  ∃ stores, patch stores before = after ∧ ∀ store ∈ stores, store.1 < before.length

theorem Stores.refl (bytes : Bytes) : Stores bytes bytes := ⟨[], rfl, by simp⟩

theorem Stores.trans {first second third : Bytes} (left : Stores first second)
    (right : Stores second third) : Stores first third := by
  obtain ⟨leftStores, leftPatched, leftInside⟩ := left
  obtain ⟨rightStores, rightPatched, rightInside⟩ := right
  have length : second.length = first.length := by
    rw [← leftPatched, patch_length]
  refine ⟨leftStores ++ rightStores, ?_, ?_⟩
  · rw [patch, List.foldl_append]
    exact (congrArg (patch rightStores) leftPatched).trans rightPatched
  · intro store member
    rcases List.mem_append.mp member with here | later
    · exact leftInside store here
    · exact length ▸ rightInside store later

theorem Stores.storeBytes {buffer source after : Bytes} {index : Nat}
    (stored : storeBytes buffer index source = .ok after) : Stores buffer after :=
  ⟨memcpyStores index source, storeBytes_patch stored⟩

theorem Stores.copyIn {platform : Platform} {buffer after : Bytes} {offset count : platform.SizeT}
    {values : Option (List Double)} (copied : copyIn buffer offset count values = .ok after) :
    Stores buffer after := by
  cases values with
  | none =>
      cases copied
      exact .refl buffer
  | some array => exact .storeBytes copied

/-- A codec whose `write` only stores bytes into the slot that it is given. -/
def StateCodec.StoresOnly {platform : Platform} {Ctx InitParams Value : Type}
    (codec : StateCodec platform Ctx InitParams Value) : Prop :=
  ∀ ctx value before after, codec.write ctx value before = .ok after → Stores before after

theorem RawCodec.state_storesOnly {platform : Platform} (size : platform.SizeT) :
    (RawCodec.state size).StoresOnly :=
  fun _ _ _ _ written => .storeBytes written

theorem JointStateCodec.codec_storesOnly (platform : Platform) :
    (JointStateCodec.codec platform).StoresOnly := by
  intro ctx value before after written
  obtain ⟨sec, secStored, written⟩ := bind_ok_iff.mp written
  obtain ⟨nanosec, nanosecStored, written⟩ := bind_ok_iff.mp written
  obtain ⟨position, positionCopied, written⟩ := bind_ok_iff.mp written
  obtain ⟨velocity, velocityCopied, effortCopied⟩ := bind_ok_iff.mp written
  have stamp := (Stores.storeBytes secStored).trans (.storeBytes nanosecStored)
  exact ((stamp.trans (.copyIn positionCopied)).trans (.copyIn velocityCopied)).trans
    (.copyIn effortCopied)

/-- `write_state` in one go. -/
theorem writeState_run {platform : Platform} {StateCtx CommandCtx InitParams Value : Type}
    {codec : StateCodec platform StateCtx InitParams Value} (storesOnly : codec.StoresOnly)
    {client after : ZenbeddedClient platform width StateCtx CommandCtx}
    (live : client.initialized = true) {value : Value}
    (written : client.writeState codec value = .ok after) {shared : Shared width}
    (idle : shared.writer = .idle) (same : shared.buffer = client.stateBuffer) :
    ∃ write begun, shared.beginWrite write = some (.internal, begun) ∧
      WriterRun begun { shared with buffer := after.stateBuffer } := by
  rw [ZenbeddedClient.writeState, if_pos live] at written
  obtain ⟨bytes, stored, committed⟩ := bind_ok_iff.mp written
  cases committed
  obtain ⟨stores, patched, inside⟩ := storesOnly _ _ _ _ stored
  rw [DoubleBuffer.prepareWriteSlot, ← same] at patched inside
  obtain ⟨begun, begins, run⟩ := @write_run width shared idle (.state stores) inside
  rw [Write.apply, Write.stores, patched, same, Write.afterCommit, ← idle] at run
  exact ⟨.state stores, begun, begins, run⟩

/-- Steps of one reader while nobody else takes any. -/
def ReaderRun (size : Nat) (buffer : DoubleBuffer width) : ReaderPc width → ReaderPc width → Prop :=
  Relation.ReflTransGen fun pc next => ∃ event, readerStep size buffer pc = some (event, next)

theorem copy_run {size : Nat} {buffer : DoubleBuffer width} {readIdx : SlotIdx}
    {verBefore : BitVec width} (room : size ≤ (buffer.slots readIdx).length) {count : Nat}
    (short : count ≤ size) :
    ReaderRun size buffer (.copying readIdx verBefore [])
      (.copying readIdx verBefore ((buffer.slots readIdx).take count)) := by
  induction count with
  | zero =>
      rw [List.take_zero]
      exact .refl
  | succ count inductionHypothesis =>
      have inside : count < (buffer.slots readIdx).length := by omega
      have length : ((buffer.slots readIdx).take count).length = count := by
        rw [List.length_take]
        omega
      refine (inductionHypothesis (by omega)).tail ⟨.internal, ?_⟩
      rw [readerStep, length, if_pos (by omega), List.getElem?_eq_getElem inside, List.take_add_one,
        List.getElem?_eq_getElem inside]
      rfl

/-- `read_*_from_buffer` in one go. -/
theorem readFromBuffer_run {size : Nat} {buffer : DoubleBuffer width}
    (room : size ≤ (buffer.slots buffer.activeIdx).length) :
    ∃ pc bytes, buffer.readFromBuffer size = .ok (true, bytes) ∧
      ReaderRun size buffer .idle pc ∧
      readerStep size buffer pc = some (.returned (some bytes), .idle) := by
  have begun : ReaderRun size buffer .idle
      (.copying buffer.activeIdx (buffer.version buffer.activeIdx) []) :=
    (Relation.ReflTransGen.single ⟨.firstLoad, rfl⟩).tail ⟨.internal, rfl⟩
  have copied := begun.trans (copy_run room (Nat.le_refl size))
  have length : ((buffer.slots buffer.activeIdx).take size).length = size := by
    rw [List.length_take]
    omega
  refine ⟨.rechecking buffer.activeIdx (buffer.version buffer.activeIdx)
    ((buffer.slots buffer.activeIdx).take size), _, DoubleBuffer.readFromBuffer_ok room,
    copied.tail ⟨.secondLoad, ?_⟩, ?_⟩
  · rw [readerStep, length, if_neg (Nat.lt_irrefl size), if_pos rfl]
  · rw [readerStep, if_pos rfl]

end Zenbedded.Rcl
