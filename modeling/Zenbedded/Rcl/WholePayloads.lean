import Zenbedded.Rcl.SuccessiveReads
import Zenbedded.Rcl.Undisturbed

namespace Zenbedded.Rcl

open Zenbedded.Foundation

/-! # Writes of whole payloads

Where every write stores a payload of one size from the start of its slot, what
earlier writes left in the slot does not matter, and the fronts are the payloads.
-/

variable {Reader : Type} {width : Nat}

def Write.payload : Write → Bytes
  | .command data => data
  | .state stores => stores.map Prod.snd

/-- The write stores `size` bytes in order, from the start of the slot. -/
structure Write.Whole (size : Nat) (write : Write) : Prop where
  length : write.payload.length = size
  stores : write.stores = memcpyStores 0 write.payload

theorem memcpyStores_snd (index : Nat) (source : Bytes) :
    (memcpyStores index source).map Prod.snd = source := by
  induction source generalizing index with
  | nil => rfl
  | cons byte rest inductionHypothesis =>
      rw [memcpyStores, List.map_cons, inductionHypothesis]

theorem whole_command {data : Bytes} {size : Nat} (length : data.length = size) :
    (Write.command data).Whole size := ⟨length, rfl⟩

/-- The stores of `RawCodec::write`. -/
theorem whole_state {value : Bytes} {size : Nat} (length : value.length = size) :
    (Write.state (memcpyStores 0 value)).Whole size := by
  have same : (Write.state (memcpyStores 0 value)).payload = value := memcpyStores_snd 0 value
  constructor
  · rw [same, length]
  · rw [same, Write.stores]

theorem Write.Whole.apply {size : Nat} {write : Write} (whole : write.Whole size) {back : Bytes}
    (room : size ≤ back.length) : (write.apply back).take size = write.payload := by
  have length := whole.length
  have stored : write.apply back = overwrite back 0 write.payload := by
    rw [Write.apply, whole.stores, patch_memcpyStores (by omega)]
  rw [stored, ← length, overwrite, List.take_zero, List.nil_append, List.take_left]

def Event.payload (event : Event Reader) : Option Bytes := event.committed.map Write.payload

/-- The payloads committed. -/
def committed (trace : List (Event Reader)) : List Bytes := trace.filterMap Event.payload

/-- The payloads of the writes begun, of which the last one may be under way. -/
def begun (trace : List (Event Reader)) (shared : Shared width) : List Bytes :=
  (shared.writer.write.map Write.payload).toList ++ committed trace

theorem committed_quiet {event : Event Reader} (quiet : event.committed = none)
    (trace : List (Event Reader)) : committed (event :: trace) = committed trace :=
  List.filterMap_cons_none (by rw [Event.payload, quiet, Option.map_none])

theorem begun_beginWrite {shared after : Shared width} {write : Write} {event : WriterEvent}
    (begins : shared.beginWrite write = some (event, after)) (trace : List (Event Reader)) :
    begun (.writer event :: trace) after = write.payload :: begun trace shared := by
  unfold Shared.beginWrite at begins
  split at begins
  · rename_i idle
    cases begins
    rw [begun, begun, idle, committed_quiet rfl]
    rfl
  · cases begins

theorem begun_advanceWriter {shared after : Shared width} {event : WriterEvent}
    (advanced : shared.advanceWriter = some (event, after)) (trace : List (Event Reader)) :
    begun (.writer event :: trace) after = begun trace shared := by
  unfold Shared.advanceWriter at advanced
  split at advanced
  · cases advanced
  · rename_i target write position byte pending storing
    split at advanced
    · cases advanced
    · cases advanced
      rw [begun, begun, storing, committed_quiet rfl]
      rfl
  · rename_i target write stored
    cases advanced
    rw [begun, begun, stored, committed_quiet rfl]
    rfl
  · rename_i target write committing
    cases advanced
    rw [begun, begun, committing]
    cases write with
    | command data => rfl
    | state stores => rfl
  · rename_i counting
    cases advanced
    rw [begun, begun, counting, committed_quiet rfl]
    rfl

theorem begun_reader (reader : Reader) (event : ReaderEvent) (trace : List (Event Reader))
    (shared : Shared width) : begun (.reader reader event :: trace) shared = begun trace shared := by
  rw [begun, begun, committed_quiet rfl]

theorem contentsAfter_room {size : Nat} {start : Contents} (front : size ≤ start.front.length)
    (back : size ≤ start.back.length) (trace : List (Event Reader)) :
    size ≤ (contentsAfter start trace).front.length ∧
      size ≤ (contentsAfter start trace).back.length := by
  induction trace with
  | nil => exact ⟨front, back⟩
  | cons event trace inductionHypothesis =>
      obtain ⟨frontRoom, backRoom⟩ := inductionHypothesis
      cases event with
      | reader reader event => exact ⟨frontRoom, backRoom⟩
      | writer event =>
          cases event with
          | internal | increment | counted => exact ⟨frontRoom, backRoom⟩
          | commit write =>
              refine ⟨?_, frontRoom⟩
              exact backRoom.trans_eq (patch_length write.stores _).symm

theorem fronts_committed {size : Nat} {start : Contents} (front : size ≤ start.front.length)
    (back : size ≤ start.back.length) {trace : List (Event Reader)}
    (whole : ∀ write, (Event.writer (.commit write) : Event Reader) ∈ trace → write.Whole size) :
    (fronts start trace).map (·.take size) = committed trace ++ [start.front.take size] := by
  induction trace with
  | nil => rfl
  | cons event trace inductionHypothesis =>
      have earlier := inductionHypothesis fun write member =>
        whole write (List.mem_cons_of_mem _ member)
      cases event with
      | reader reader event => exact earlier
      | writer event =>
          cases event with
          | internal | increment | counted => exact earlier
          | commit write =>
              have written := (whole write List.mem_cons_self).apply
                (contentsAfter_room front back trace).2
              have grown : committed (Event.writer (.commit write) :: trace) =
                  write.payload :: committed trace := rfl
              rw [grown, List.cons_append, ← earlier, ← written]
              rfl

/-- The steps that the write under way still takes, at most. -/
def WriterPc.remaining : WriterPc → Nat
  | .idle => 0
  | .counting => 1
  | .committing _ _ => 2
  | .storing _ _ pending => pending.length + 3

theorem advanceWriter_remaining {shared after : Shared width} {event : WriterEvent}
    (advanced : shared.advanceWriter = some (event, after)) :
    after.writer.remaining < shared.writer.remaining := by
  unfold Shared.advanceWriter at advanced
  split at advanced
  · cases advanced
  · rename_i target write position byte pending storing
    split at advanced
    · cases advanced
    · cases advanced
      rw [storing]
      exact Nat.lt_succ_self _
  · rename_i target write stored
    cases advanced
    rw [stored]
    exact Nat.lt_succ_self _
  · rename_i target write committing
    cases advanced
    rw [committing]
    cases write with
    | command data => exact Nat.lt_succ_self _
    | state stores => exact Nat.zero_lt_succ _
  · rename_i counting
    cases advanced
    rw [counting]
    exact Nat.zero_lt_one

def WriterPc.Whole (size : Nat) : WriterPc → Prop
  | .storing _ write pending => write.Whole size ∧ pending <:+ write.stores
  | .committing _ write => write.Whole size
  | .idle | .counting => True

structure OnlyWhole (size : Nat) (trace : List (Event Reader)) (shared : Shared width) : Prop where
  underWay : shared.writer.Whole size
  committed : ∀ write, (Event.writer (.commit write) : Event Reader) ∈ trace → write.Whole size

theorem OnlyWhole.quiet {size : Nat} {trace : List (Event Reader)} {shared after : Shared width}
    (only : OnlyWhole size trace shared) {event : Event Reader} (quiet : event.isCommit = false)
    (underWay : after.writer.Whole size) : OnlyWhole size (event :: trace) after := by
  refine ⟨underWay, ?_⟩
  intro write member
  rcases List.mem_cons.mp member with now | earlier
  · rw [← now] at quiet
    cases quiet
  · exact only.committed write earlier

theorem OnlyWhole.advanceWriter {size : Nat} {trace : List (Event Reader)}
    {shared after : Shared width} {event : WriterEvent}
    (only : OnlyWhole size trace shared) (advanced : shared.advanceWriter = some (event, after)) :
    OnlyWhole size (.writer event :: trace) after := by
  have underWay := only.underWay
  unfold Shared.advanceWriter at advanced
  split at advanced
  · cases advanced
  · rename_i target write position byte pending storing
    split at advanced
    · cases advanced
    · cases advanced
      rw [storing] at underWay
      exact only.quiet rfl ⟨underWay.1, (List.suffix_cons _ _).trans underWay.2⟩
  · rename_i target write stored
    cases advanced
    rw [stored] at underWay
    exact only.quiet rfl underWay.1
  · rename_i target write committing
    cases advanced
    rw [committing] at underWay
    constructor
    · cases write with
      | command data => trivial
      | state stores => trivial
    · intro other member
      rcases List.mem_cons.mp member with now | earlier
      · cases now
        exact underWay
      · exact only.committed other earlier
  · rename_i counting
    cases advanced
    exact only.quiet rfl trivial

/-- No store of a whole payload falls behind the end of a slot, so a write is never stuck. -/
theorem OnlyWhole.advances {size : Nat} {trace : List (Event Reader)} {shared : Shared width}
    (only : OnlyWhole size trace shared) (room : ∀ index, size ≤ (shared.buffer.slots index).length)
    (busy : shared.writer ≠ .idle) : ∃ event after, shared.advanceWriter = some (event, after) := by
  have underWay := only.underWay
  unfold Shared.advanceWriter
  cases writer : shared.writer with
  | idle => exact absurd writer busy
  | committing target write => exact ⟨_, _, rfl⟩
  | counting => exact ⟨_, _, rfl⟩
  | storing target write pending =>
      cases pending with
      | nil => exact ⟨_, _, rfl⟩
      | cons store pending =>
          rw [writer] at underWay
          obtain ⟨whole, suffix⟩ := underWay
          rw [whole.stores] at suffix
          have fits : 0 + write.payload.length ≤ (shared.buffer.slots target).length := by
            rw [Nat.zero_add, whole.length]
            exact room target
          have stored : storeByte (shared.buffer.slots target) store.1 store.2 =
              .ok ((shared.buffer.slots target).set store.1 store.2) :=
            if_pos (memcpyStores_inside fits store (suffix.subset List.mem_cons_self))
          dsimp only
          rw [stored]
          exact ⟨_, _, rfl⟩

section

variable [DecidableEq Reader] {size : Nat} {slots : SlotIdx → Bytes}
  {trace : List (Event Reader)} {system : System Reader width}

/-- A step of a buffer into which only whole payloads are written. -/
def WholeStep (size : Nat) (system : System Reader width) (event : Event Reader)
    (after : System Reader width) : Prop :=
  ∃ action : Action Reader, (∀ write, action = .beginWrite write → write.Whole size) ∧
    system.act size action = some (event, after)

theorem WholeStep.step {after : System Reader width} {event : Event Reader}
    (step : WholeStep size system event after) : system.Step size event after := by
  obtain ⟨action, _, acted⟩ := step
  exact ⟨action, acted⟩

theorem OnlyWhole.step {after : System Reader width} {event : Event Reader}
    (only : OnlyWhole size trace system.shared) (step : WholeStep size system event after) :
    OnlyWhole size (event :: trace) after.shared := by
  obtain ⟨action, whole, acted⟩ := step
  cases action with
  | beginWrite write =>
      obtain ⟨⟨writerEvent, shared⟩, begins, result⟩ := Option.bind_eq_some_iff.mp acted
      cases result
      unfold Shared.beginWrite at begins
      split at begins
      · cases begins
        exact only.quiet rfl ⟨whole write rfl, List.suffix_refl _⟩
      · cases begins
  | advanceWriter =>
      obtain ⟨⟨writerEvent, shared⟩, advanced, result⟩ := Option.bind_eq_some_iff.mp acted
      cases result
      exact only.advanceWriter advanced
  | advanceReader reader =>
      obtain ⟨⟨readerEvent, pc⟩, advanced, result⟩ := Option.bind_eq_some_iff.mp acted
      cases result
      exact only.quiet rfl only.underWay

theorem OnlyWhole.reaches
    (reaches : Reaches (WholeStep size) (System.start slots) trace system) :
    OnlyWhole size trace system.shared := by
  apply reaches.invariant (fun trace system => OnlyWhole size trace system.shared)
  · constructor
    · trivial
    · intro write member
      cases member
  · intro _ _ _ _ only step
    exact only.step step

/-- A reader's results sample the payloads committed, and what slot 0 held at first. -/
theorem returned_samples_committed
    (reaches : Reaches (WholeStep size) (System.start slots) trace system)
    (room : ∀ index, size ≤ (slots index).length) (brisk : Brisk width trace) (reader : Reader) :
    Samples (returned reader trace) (committed trace ++ [(slots 0).take size]) := by
  have sampled := returned_samples_whole (reaches.mono fun _ _ _ step => step.step) brisk reader
  rw [fronts_committed (room 0) (room 1) (OnlyWhole.reaches reaches).committed] at sampled
  exact sampled

end

end Zenbedded.Rcl
