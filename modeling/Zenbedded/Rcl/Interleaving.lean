import Zenbedded.Foundation.Trace
import Zenbedded.Rcl.DoubleBuffer

namespace Zenbedded.Rcl

open Zenbedded.Foundation

/-! # The double buffer, one access at a time

One writer and any number of readers over sequentially consistent memory.  Each
step is one atomic load, one atomic store or increment, or the store or the copy
of one byte.
-/

/-- A position and the byte stored there. -/
abbrev ByteStore := Nat × UInt8

def memcpyStores (index : Nat) : Bytes → List ByteStore
  | [] => []
  | byte :: rest => (index, byte) :: memcpyStores (index + 1) rest

def patch (stores : List ByteStore) (bytes : Bytes) : Bytes :=
  stores.foldl (fun bytes store => bytes.set store.1 store.2) bytes

/-- `write_command_to_buffer` with its data, or the stores of a codec between
`prepare_state_write_slot` and `commit_state_write_slot`. -/
inductive Write where
  | command (data : Bytes)
  | state (stores : List ByteStore)
deriving Repr, DecidableEq

def Write.stores : Write → List ByteStore
  | .command data => memcpyStores 0 data
  | .state stores => stores

/-- What the slot holds once every store has been made. -/
def Write.apply (write : Write) (bytes : Bytes) : Bytes := patch write.stores bytes

inductive WriterPc where
  | idle
  | storing (target : SlotIdx) (write : Write) (pending : List ByteStore)
  /-- The version is incremented, the active index not yet stored. -/
  | committing (target : SlotIdx) (write : Write)
  /-- `cmd_accepted_count_` is not yet incremented. -/
  | counting
deriving Repr, DecidableEq

inductive WriterEvent where
  | internal
  | increment (index : SlotIdx)
  | commit (write : Write)
  | counted
deriving Repr, DecidableEq

/-- The buffer, the counter and the program counter of their only writer. -/
structure Shared (width : Nat) where
  buffer : DoubleBuffer width
  acceptedCount : BitVec width
  writer : WriterPc

variable {width : Nat}

/-- Only a command is counted. -/
def Write.afterCommit : Write → WriterPc
  | .command _ => .counting
  | .state _ => .idle

namespace Shared

/-- The load of the active index, with which a write starts. -/
def beginWrite (write : Write) (shared : Shared width) : Option (WriterEvent × Shared width) :=
  match shared.writer with
  | .idle => some (.internal, { shared with
      writer := .storing (otherSlot shared.buffer.activeIdx) write write.stores })
  | _ => none

def advanceWriter (shared : Shared width) : Option (WriterEvent × Shared width) :=
  match shared.writer with
  | .idle => none
  | .storing target write ((position, byte) :: pending) =>
      match storeByte (shared.buffer.slots target) position byte with
      | .error _ => none
      | .ok bytes => some (.internal, { shared with
          buffer := shared.buffer.setSlot target bytes
          writer := .storing target write pending })
  | .storing target write [] => some (.increment target, { shared with
      buffer := shared.buffer.incVersion target
      writer := .committing target write })
  | .committing target write => some (.commit write, { shared with
      buffer := shared.buffer.setActiveIdx target
      writer := write.afterCommit })
  | .counting => some (.counted, { shared with
      acceptedCount := shared.acceptedCount + 1
      writer := .idle })

end Shared

/-- The steps of the writer. -/
inductive WriterStep : Shared width → WriterEvent → Shared width → Prop
  | begins {shared : Shared width} (write : Write) (idle : shared.writer = .idle) :
      WriterStep shared .internal { shared with
        writer := .storing (otherSlot shared.buffer.activeIdx) write write.stores }
  | stores {shared : Shared width} {target : SlotIdx} {write : Write} {position : Nat}
      {byte : UInt8} {pending : List ByteStore}
      (storing : shared.writer = .storing target write ((position, byte) :: pending)) :
      WriterStep shared .internal { shared with
        buffer := shared.buffer.setSlot target ((shared.buffer.slots target).set position byte)
        writer := .storing target write pending }
  | increments {shared : Shared width} {target : SlotIdx} {write : Write}
      (stored : shared.writer = .storing target write []) :
      WriterStep shared (.increment target) { shared with
        buffer := shared.buffer.incVersion target
        writer := .committing target write }
  | commits {shared : Shared width} {target : SlotIdx} {write : Write}
      (committing : shared.writer = .committing target write) :
      WriterStep shared (.commit write) { shared with
        buffer := shared.buffer.setActiveIdx target
        writer := write.afterCommit }
  | counts {shared : Shared width} (counting : shared.writer = .counting) :
      WriterStep shared .counted { shared with
        acceptedCount := shared.acceptedCount + 1
        writer := .idle }

theorem Shared.beginWrite_step {write : Write} {shared after : Shared width} {event : WriterEvent}
    (run : shared.beginWrite write = some (event, after)) : WriterStep shared event after := by
  unfold Shared.beginWrite at run
  split at run
  · rename_i idle
    cases run
    exact .begins write idle
  · cases run

theorem Shared.advanceWriter_step {shared after : Shared width} {event : WriterEvent}
    (run : shared.advanceWriter = some (event, after)) : WriterStep shared event after := by
  unfold Shared.advanceWriter at run
  split at run
  · cases run
  · rename_i target write position byte pending storing
    by_cases inside : position < (shared.buffer.slots target).length
    · simp only [storeByte, if_pos inside] at run
      cases run
      exact .stores storing
    · simp only [storeByte, if_neg inside] at run
      cases run
  · rename_i stored
    cases run
    exact .increments stored
  · rename_i committing
    cases run
    exact .commits committing
  · rename_i counting
    cases run
    exact .counts counting

inductive ReaderPc (width : Nat) where
  | idle
  | loadingVersion (readIdx : SlotIdx)
  | copying (readIdx : SlotIdx) (verBefore : BitVec width) (copied : Bytes)
  /-- The active index has been seen again, the version not yet. -/
  | rechecking (readIdx : SlotIdx) (verBefore : BitVec width) (copied : Bytes)
deriving Repr, DecidableEq

inductive ReaderEvent where
  | internal
  | firstLoad
  | secondLoad
  /-- False, or true with the bytes that were copied. -/
  | returned (result : Option Bytes)
deriving Repr, DecidableEq

/-- One step of an attempt to read `size` bytes. -/
def readerStep (size : Nat) (buffer : DoubleBuffer width) :
    ReaderPc width → Option (ReaderEvent × ReaderPc width)
  | .idle => some (.firstLoad, .loadingVersion buffer.activeIdx)
  | .loadingVersion readIdx => some (.internal, .copying readIdx (buffer.version readIdx) [])
  | .copying readIdx verBefore copied =>
      if copied.length < size then
        match (buffer.slots readIdx)[copied.length]? with
        | none => none
        | some byte => some (.internal, .copying readIdx verBefore (copied ++ [byte]))
      else if buffer.activeIdx = readIdx then some (.secondLoad, .rechecking readIdx verBefore copied)
      else some (.returned none, .idle)
  | .rechecking readIdx verBefore copied =>
      some (.returned (if buffer.version readIdx = verBefore then some copied else none), .idle)

structure System (Reader : Type) (width : Nat) where
  shared : Shared width
  readers : Reader → ReaderPc width

inductive Action (Reader : Type) where
  | beginWrite (write : Write)
  | advanceWriter
  | advanceReader (reader : Reader)
deriving Repr, DecidableEq

inductive Event (Reader : Type) where
  | writer (event : WriterEvent)
  | reader (reader : Reader) (event : ReaderEvent)
deriving Repr, DecidableEq

variable {Reader : Type}

/-- Nothing is committed and nobody is under way. -/
def System.start (slots : SlotIdx → Bytes) : System Reader width :=
  { shared := { buffer := ⟨slots, fun _ => 0, 0⟩, acceptedCount := 0, writer := .idle }
    readers := fun _ => .idle }

variable [DecidableEq Reader]

def System.act (size : Nat) (system : System Reader width) :
    Action Reader → Option (Event Reader × System Reader width)
  | .beginWrite write => do
      let (event, shared) ← system.shared.beginWrite write
      return (.writer event, { system with shared })
  | .advanceWriter => do
      let (event, shared) ← system.shared.advanceWriter
      return (.writer event, { system with shared })
  | .advanceReader reader => do
      let (event, pc) ← readerStep size system.shared.buffer (system.readers reader)
      return (.reader reader event, { system with
        readers := Function.update system.readers reader pc })

def System.Step (size : Nat) (system : System Reader width) (event : Event Reader)
    (after : System Reader width) : Prop :=
  ∃ action, system.act size action = some (event, after)

/-- A step is one of the writer or one of a reader. -/
theorem System.Step.cases {size : Nat} {system after : System Reader width} {event : Event Reader}
    (step : system.Step size event after) :
    (∃ writerEvent shared, event = .writer writerEvent ∧
        WriterStep system.shared writerEvent shared ∧ after = { system with shared }) ∨
      ∃ reader readerEvent pc, event = .reader reader readerEvent ∧
        readerStep size system.shared.buffer (system.readers reader) = some (readerEvent, pc) ∧
        after = { system with readers := Function.update system.readers reader pc } := by
  obtain ⟨action, run⟩ := step
  cases action with
  | beginWrite write =>
      obtain ⟨⟨writerEvent, shared⟩, begun, result⟩ := Option.bind_eq_some_iff.mp run
      cases result
      exact Or.inl ⟨writerEvent, shared, rfl, Shared.beginWrite_step begun, rfl⟩
  | advanceWriter =>
      obtain ⟨⟨writerEvent, shared⟩, advanced, result⟩ := Option.bind_eq_some_iff.mp run
      cases result
      exact Or.inl ⟨writerEvent, shared, rfl, Shared.advanceWriter_step advanced, rfl⟩
  | advanceReader reader =>
      obtain ⟨⟨readerEvent, pc⟩, advanced, result⟩ := Option.bind_eq_some_iff.mp run
      cases result
      exact Or.inr ⟨reader, readerEvent, pc, rfl, advanced, rfl⟩

/-- A run of given actions, with its trace. -/
def System.run (size : Nat) (start : System Reader width) (actions : List (Action Reader)) :
    Option (List (Event Reader) × System Reader width) :=
  actions.foldlM (fun (trace, system) action =>
    (system.act size action).map fun (event, after) => (event :: trace, after)) ([], start)

theorem System.run_reaches {size : Nat} {start system : System Reader width}
    {actions : List (Action Reader)} {trace : List (Event Reader)}
    (run : System.run size start actions = some (trace, system)) :
    Reaches (System.Step size) start trace system := by
  have extend (actions : List (Action Reader)) : ∀ {before : List (Event Reader)}
      {current : System Reader width}, Reaches (System.Step size) start before current →
      actions.foldlM (fun (trace, system) action =>
        (System.act size system action).map fun (event, after) => (event :: trace, after))
          (before, current) = some (trace, system) →
      Reaches (System.Step size) start trace system := by
    induction actions with
    | nil =>
        intro before current reaches finished
        cases finished
        exact reaches
    | cons action actions inductionHypothesis =>
        intro before current reaches continued
        rw [List.foldlM_cons] at continued
        obtain ⟨⟨middle, next⟩, first, rest⟩ := Option.bind_eq_some_iff.mp continued
        obtain ⟨⟨event, after⟩, acted, same⟩ := Option.map_eq_some_iff.mp first
        cases same
        exact inductionHypothesis (reaches.step ⟨action, acted⟩) rest
  exact extend actions .start run

end Zenbedded.Rcl
