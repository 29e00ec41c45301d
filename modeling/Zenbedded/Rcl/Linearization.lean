import Zenbedded.Rcl.Stability

namespace Zenbedded.Rcl

open Zenbedded.Foundation

/-! # Reads linearize at their second load of the active index

A reader's invariant keeps what it has copied tied to its slot for as long as
the slot's version stands still, and the second load ties the copy to the last
commit.  Fewer than `2 ^ width` commits in an attempt cannot bring the version
back to where it was.
-/

variable {Reader : Type} {width : Nat}

variable [DecidableEq Reader]

def Event.isFirstLoad (reader : Reader) : Event Reader → Bool
  | .reader other .firstLoad => other = reader
  | _ => false

def Event.isSecondLoad (reader : Reader) : Event Reader → Bool
  | .reader other .secondLoad => other = reader
  | _ => false

/-- The events since the reader's last attempt has started. -/
def attempt (reader : Reader) (trace : List (Event Reader)) : List (Event Reader) :=
  since (Event.isFirstLoad reader) trace

/-- The events before the reader's last second load of the active index. -/
def beforeSecondLoad (reader : Reader) (trace : List (Event Reader)) : List (Event Reader) :=
  upTo (Event.isSecondLoad reader) trace

def ReaderInvariant (size : Nat) (start : Contents) (trace : List (Event Reader))
    (shared : Shared width) (reader : Reader) : ReaderPc width → Prop
  | .idle => True
  | .loadingVersion readIdx => Paid shared readIdx (attempt reader trace)
  | .copying readIdx verBefore copied =>
      Paid shared readIdx (attempt reader trace) ∧ copied.length ≤ size ∧
        ∃ earlier, Tracks shared readIdx verBefore earlier (attempt reader trace) ∧
          Intact shared readIdx earlier copied (attempt reader trace)
  | .rechecking readIdx verBefore copied =>
      Paid shared readIdx (attempt reader trace) ∧ copied.length = size ∧
        ∃ earlier, Tracks shared readIdx verBefore earlier (attempt reader trace) ∧
          (increments readIdx (attempt reader trace) = earlier →
            copied = (contentsAfter start (beforeSecondLoad reader trace)).front.take size)

theorem attempt_writer (reader : Reader) (event : WriterEvent) (trace : List (Event Reader)) :
    attempt reader (.writer event :: trace) = .writer event :: attempt reader trace :=
  since_unmarked rfl trace

theorem beforeSecondLoad_writer (reader : Reader) (event : WriterEvent)
    (trace : List (Event Reader)) :
    beforeSecondLoad reader (.writer event :: trace) = beforeSecondLoad reader trace :=
  upTo_unmarked rfl trace

theorem attempt_other {reader other : Reader} (apart : other ≠ reader) (event : ReaderEvent)
    (trace : List (Event Reader)) :
    attempt reader (.reader other event :: trace) =
      .reader other event :: attempt reader trace := by
  refine since_unmarked ?_ trace
  cases event with
  | firstLoad => simp [Event.isFirstLoad, apart]
  | internal => rfl
  | secondLoad => rfl
  | returned result => rfl

theorem beforeSecondLoad_other {reader other : Reader} (apart : other ≠ reader)
    (event : ReaderEvent) (trace : List (Event Reader)) :
    beforeSecondLoad reader (.reader other event :: trace) = beforeSecondLoad reader trace := by
  refine upTo_unmarked ?_ trace
  cases event with
  | firstLoad => rfl
  | internal => rfl
  | secondLoad => simp [Event.isSecondLoad, apart]
  | returned result => rfl

/-- A step of the writer leaves every reader's invariant in place. -/
theorem ReaderInvariant.writer {size : Nat} {start contents : Contents}
    {trace : List (Event Reader)} {shared after : Shared width} {event : WriterEvent}
    (holds : WriterInvariant contents shared) (step : WriterStep shared event after)
    {reader : Reader} {pc : ReaderPc width}
    (invariant : ReaderInvariant size start trace shared reader pc) :
    ReaderInvariant size start (.writer event :: trace) after reader pc := by
  cases pc with
  | idle => trivial
  | loadingVersion readIdx =>
      rw [ReaderInvariant, attempt_writer]
      exact Paid.writer holds step invariant
  | copying readIdx verBefore copied =>
      obtain ⟨paid, short, earlier, tracks, intact⟩ := invariant
      rw [ReaderInvariant, attempt_writer]
      exact ⟨Paid.writer holds step paid, short, earlier, tracks.writer step,
        Intact.writer holds step tracks.past intact⟩
  | rechecking readIdx verBefore copied =>
      obtain ⟨paid, whole, earlier, tracks, seen⟩ := invariant
      rw [ReaderInvariant, attempt_writer, beforeSecondLoad_writer]
      refine ⟨Paid.writer holds step paid, whole, earlier, tracks.writer step, ?_⟩
      intro count
      have past := tracks.past
      rw [increments_cons] at count
      exact seen (by omega)

/-- So does a step of another reader. -/
theorem ReaderInvariant.other {size : Nat} {start : Contents} {trace : List (Event Reader)}
    {shared : Shared width} {reader other : Reader} (apart : other ≠ reader) (event : ReaderEvent)
    {pc : ReaderPc width} (invariant : ReaderInvariant size start trace shared reader pc) :
    ReaderInvariant size start (.reader other event :: trace) shared reader pc := by
  have sameCount (index : SlotIdx) (events : List (Event Reader)) :
      increments index (.reader other event :: events) = increments index events := rfl
  cases pc with
  | idle => trivial
  | loadingVersion readIdx =>
      rw [ReaderInvariant, attempt_other apart]
      exact Paid.quiet invariant Iff.rfl rfl rfl
  | copying readIdx verBefore copied =>
      obtain ⟨paid, short, earlier, tracks, intact⟩ := invariant
      rw [ReaderInvariant, attempt_other apart]
      exact ⟨paid.quiet Iff.rfl rfl rfl, short, earlier, tracks.quiet rfl rfl,
        intact.quiet (fun stable => ⟨stable, rfl⟩) rfl⟩
  | rechecking readIdx verBefore copied =>
      obtain ⟨paid, whole, earlier, tracks, seen⟩ := invariant
      rw [ReaderInvariant, attempt_other apart, beforeSecondLoad_other apart]
      exact ⟨paid.quiet Iff.rfl rfl rfl, whole, earlier, tracks.quiet rfl rfl,
        fun count => seen ((sameCount _ _).symm.trans count)⟩

/-- A reader's own step keeps its invariant. -/
theorem ReaderInvariant.own {size : Nat} {start : Contents} {trace : List (Event Reader)}
    {shared : Shared width} (holds : WriterInvariant (contentsAfter start trace) shared)
    {reader : Reader} {pc next : ReaderPc width} {event : ReaderEvent}
    (run : readerStep size shared.buffer pc = some (event, next))
    (invariant : ReaderInvariant size start trace shared reader pc) :
    ReaderInvariant size start (.reader reader event :: trace) shared reader next := by
  have later {other : ReaderEvent} (noFirst : Event.isFirstLoad reader (.reader reader other) = false) :
      attempt reader (.reader reader other :: trace) =
        .reader reader other :: attempt reader trace := since_unmarked noFirst trace
  cases pc with
  | idle =>
      cases run
      have begun : attempt reader (.reader reader .firstLoad :: trace) = [] :=
        since_marked (by simp [Event.isFirstLoad]) trace
      rw [ReaderInvariant, begun]
      exact ⟨fun _ => Nat.le_refl 0, fun torn => absurd (Or.inl rfl) torn⟩
  | loadingVersion readIdx =>
      cases run
      rw [ReaderInvariant, later rfl]
      refine ⟨Paid.quiet invariant Iff.rfl rfl rfl, Nat.zero_le _,
        increments readIdx (attempt reader trace), ⟨Nat.le_refl _, ?_⟩, fun _ _ => ?_⟩
      · have none : increments readIdx (.reader reader .internal :: attempt reader trace) =
            increments readIdx (attempt reader trace) := rfl
        rw [none, Nat.sub_self]
        exact (BitVec.add_zero _).symm
      · rw [List.length_nil, List.take_zero]
  | copying readIdx verBefore copied =>
      obtain ⟨paid, short, earlier, tracks, intact⟩ := invariant
      rw [readerStep] at run
      by_cases unfinished : copied.length < size
      · rw [if_pos unfinished] at run
        cases loaded : (shared.buffer.slots readIdx)[copied.length]? with
        | none =>
            rw [loaded] at run
            cases run
        | some byte =>
            rw [loaded] at run
            cases run
            rw [ReaderInvariant, later rfl]
            refine ⟨paid.quiet Iff.rfl rfl rfl, ?_, earlier, tracks.quiet rfl rfl, ?_⟩
            · rw [List.length_append, List.length_singleton]
              exact unfinished
            · intro stable count
              have before := intact stable count
              rw [List.length_append, List.length_singleton, List.take_add_one, loaded, ← before]
              rfl
      · rw [if_neg unfinished] at run
        have whole : copied.length = size := by omega
        by_cases active : shared.buffer.activeIdx = readIdx
        · rw [if_pos active] at run
          cases run
          have seen : beforeSecondLoad reader (.reader reader .secondLoad :: trace) = trace :=
            upTo_marked (by simp [Event.isSecondLoad]) trace
          rw [ReaderInvariant, later rfl, seen]
          refine ⟨paid.quiet Iff.rfl rfl rfl, whole, earlier, tracks.quiet rfl rfl, ?_⟩
          intro count
          have copiedAll := intact (Or.inl active) count
          rw [copiedAll, whole, ← holds.1, active]
        · rw [if_neg active] at run
          cases run
          trivial
  | rechecking readIdx verBefore copied =>
      cases run
      trivial

structure SystemInvariant (size : Nat) (start : Contents) (trace : List (Event Reader))
    (system : System Reader width) : Prop where
  writer : WriterInvariant (contentsAfter start trace) system.shared
  readers : ∀ reader, ReaderInvariant size start trace system.shared reader (system.readers reader)

theorem SystemInvariant.start (size : Nat) (slots : SlotIdx → Bytes) :
    SystemInvariant size (initialContents slots) []
      (System.start slots : System Reader width) :=
  ⟨⟨rfl, rfl⟩, fun _ => trivial⟩

theorem SystemInvariant.step {size : Nat} {start : Contents} {trace : List (Event Reader)}
    {system after : System Reader width} {event : Event Reader}
    (invariant : SystemInvariant size start trace system) (step : system.Step size event after) :
    SystemInvariant size start (event :: trace) after := by
  obtain ⟨writerHolds, readersHold⟩ := invariant
  rcases step.cases with ⟨writerEvent, shared, rfl, moved, rfl⟩ |
    ⟨reader, readerEvent, pc, rfl, moved, rfl⟩
  · exact ⟨writerHolds.step moved, fun other => (readersHold other).writer writerHolds moved⟩
  · refine ⟨writerHolds, ?_⟩
    intro other
    show ReaderInvariant size start _ system.shared other
      (Function.update system.readers reader pc other)
    by_cases here : other = reader
    · rw [here, Function.update_self]
      exact (readersHold reader).own writerHolds moved
    · rw [Function.update_of_ne here]
      exact (readersHold other).other (fun same => here same.symm) readerEvent

theorem SystemInvariant.reaches {size : Nat} {slots : SlotIdx → Bytes}
    {trace : List (Event Reader)} {system : System Reader width}
    (reaches : Reaches (System.Step size) (System.start slots) trace system) :
    SystemInvariant size (initialContents slots) trace system :=
  reaches.invariant _ (SystemInvariant.start size slots)
    fun _ _ _ _ invariant step => invariant.step step

theorem readerStep_true {size : Nat} {buffer : DoubleBuffer width} {pc next : ReaderPc width}
    {bytes : Bytes} (run : readerStep size buffer pc = some (.returned (some bytes), next)) :
    ∃ readIdx, pc = .rechecking readIdx (buffer.version readIdx) bytes := by
  cases pc with
  | idle => cases run
  | loadingVersion readIdx => cases run
  | copying readIdx verBefore copied =>
      rw [readerStep] at run
      split at run
      · split at run
        · cases run
        · cases run
      · split at run
        · cases run
        · cases run
  | rechecking readIdx verBefore copied =>
      rw [readerStep] at run
      split at run
      · rename_i same
        cases run
        exact ⟨readIdx, by rw [same]⟩
      · cases run

/-- An attempt that returns true has copied the whole payload. -/
theorem read_length {size : Nat} {slots : SlotIdx → Bytes} {trace : List (Event Reader)}
    {system after : System Reader width}
    (reaches : Reaches (System.Step size) (System.start slots) trace system) {reader : Reader}
    {bytes : Bytes} (returns : system.Step size (.reader reader (.returned (some bytes))) after) :
    bytes.length = size := by
  rcases returns.cases with ⟨_, _, isWriter, _⟩ | ⟨_, _, pc, same, moved, _⟩
  · cases isWriter
  · cases same
    obtain ⟨readIdx, atRecheck⟩ := readerStep_true moved
    have held := (SystemInvariant.reaches reaches).readers reader
    rw [atRecheck] at held
    exact held.2.1

/-- As long as no version wraps, what an attempt returns is the payload of the commit that was the
last one at its second load of the active index. -/
theorem read_of_unwrapped {size : Nat} {slots : SlotIdx → Bytes} {trace : List (Event Reader)}
    {system after : System Reader width}
    (reaches : Reaches (System.Step size) (System.start slots) trace system) {reader : Reader}
    {bytes : Bytes} (returns : system.Step size (.reader reader (.returned (some bytes))) after)
    (unwrapped : ∀ readIdx verBefore copied,
      system.readers reader = .rechecking readIdx verBefore copied →
        increments readIdx (attempt reader trace) < 2 ^ width) :
    bytes.length = size ∧
      bytes = (contentsAfter (initialContents slots)
        (beforeSecondLoad reader trace)).front.take size ∧
      (lastCommit (beforeSecondLoad reader trace) = none → bytes = (slots 0).take size) ∧
      ∀ data : Bytes, lastCommit (beforeSecondLoad reader trace) = some (.command data) →
        data.length = size → bytes = data := by
  have invariant := SystemInvariant.reaches reaches
  rcases returns.cases with ⟨_, _, isWriter, _⟩ | ⟨_, _, pc, same, moved, _⟩
  · cases isWriter
  · cases same
    obtain ⟨readIdx, atRecheck⟩ := readerStep_true moved
    have held := invariant.readers reader
    rw [atRecheck] at held
    obtain ⟨paid, whole, earlier, tracks, seen⟩ := held
    have payload := seen (tracks.none_of_same (unwrapped _ _ _ atRecheck))
    refine ⟨whole, payload, ?_, ?_⟩
    · intro none
      rw [contentsAfter_of_none none] at payload
      exact payload
    · intro data last sameSize
      obtain ⟨back, front⟩ := @front_of_lastCommit Reader (initialContents slots) _ _ last
      rw [front] at payload
      have room : data.length ≤ back.length := by
        have length := congrArg List.length payload
        rw [whole, List.length_take, Write.apply, patch_length] at length
        omega
      rw [payload, ← sameSize, command_apply room]

/-- An attempt that returns true has copied the whole payload of the commit that was
the last one at its second load of the active index. -/
theorem read_linearizes {size : Nat} {slots : SlotIdx → Bytes} {trace : List (Event Reader)}
    {system after : System Reader width}
    (reaches : Reaches (System.Step size) (System.start slots) trace system) {reader : Reader}
    {bytes : Bytes} (returns : system.Step size (.reader reader (.returned (some bytes))) after)
    (few : commits (attempt reader trace) < 2 ^ width) :
    bytes.length = size ∧
      bytes = (contentsAfter (initialContents slots)
        (beforeSecondLoad reader trace)).front.take size ∧
      (lastCommit (beforeSecondLoad reader trace) = none → bytes = (slots 0).take size) ∧
      ∀ data : Bytes, lastCommit (beforeSecondLoad reader trace) = some (.command data) →
        data.length = size → bytes = data := by
  apply read_of_unwrapped reaches returns
  intro readIdx verBefore copied rechecking
  have held := (SystemInvariant.reaches reaches).readers reader
  rw [rechecking] at held
  obtain ⟨paid, _⟩ := held
  by_cases stable : Stable system.shared readIdx
  · exact Nat.lt_of_le_of_lt (paid.stable stable) few
  · exact Nat.lt_trans (paid.torn stable) few

/-- An attempt copies a byte of the first slot before two commands are committed and one after
them, which it notices.  The next attempt copies the second command. -/
def tornAttempt : List (Action Unit) :=
  List.flatten
    [List.replicate 3 (.advanceReader ()),
      .beginWrite (.command [7, 8]) :: List.replicate 5 .advanceWriter,
      .beginWrite (.command [9, 10]) :: List.replicate 5 .advanceWriter,
      List.replicate 8 (.advanceReader ())]

theorem read_linearizes_tornAttempt :
    ∃ (trace : List (Event Unit)) (system after : System Unit 32),
      System.run 2 (System.start fun _ => [0, 0]) tornAttempt = some (trace, system) ∧
        .reader () (.returned none) ∈ trace ∧
        system.Step 2 (.reader () (.returned (some [9, 10]))) after ∧
        [9, 10] = (contentsAfter (initialContents fun _ => [0, 0])
          (beforeSecondLoad () trace)).front.take 2 := by
  obtain ⟨⟨trace, system⟩, run⟩ : ∃ result, System.run 2
      (System.start fun _ => [0, 0] : System Unit 32) tornAttempt = some result := ⟨_, rfl⟩
  have few : commits (attempt () trace) < 2 ^ 32 := by
    cases run
    decide
  have noticed : .reader () (.returned none) ∈ trace := by
    cases run
    decide
  have returns : ∃ after, system.Step 2 (.reader () (.returned (some [9, 10]))) after := by
    cases run
    exact ⟨_, .advanceReader (), rfl⟩
  obtain ⟨after, returns⟩ := returns
  exact ⟨trace, system, after, run, noticed, returns,
    (read_linearizes (System.run_reaches run) returns few).2.1⟩

end Zenbedded.Rcl
