import Zenbedded.Rcl.Linearization

namespace Zenbedded.Rcl

open Zenbedded.Foundation

/-! # What a retry costs

An attempt fails only if the writer stored the active index while it lasted.
The version of a slot is incremented before that store, but of the slot that is
not active.
-/

variable {Reader : Type} {width : Nat}

def ReaderPc.readIdx : ReaderPc width → Option SlotIdx
  | .idle => none
  | .loadingVersion readIdx => some readIdx
  | .copying readIdx _ _ => some readIdx
  | .rechecking readIdx _ _ => some readIdx

/-- The accesses an attempt has made. -/
def ReaderPc.progress (size : Nat) : ReaderPc width → Nat
  | .idle => 0
  | .loadingVersion _ => 1
  | .copying _ _ copied => copied.length + 2
  | .rechecking .. => size + 3

/-- Attempts under way. -/
def ReaderPc.underWay : ReaderPc width → Nat
  | .idle => 0
  | _ => 1

theorem WriterStep.activeIdx {shared after : Shared width} {event : WriterEvent}
    (step : WriterStep shared event after)
    (noCommit : (Event.writer event : Event Reader).isCommit = false) :
    after.buffer.activeIdx = shared.buffer.activeIdx := by
  cases step with
  | commits => cases noCommit
  | begins | stores | increments | counts => rfl

section

variable [DecidableEq Reader]

/-- Without a commit since an attempt began, the slot it reads is active. -/
def Unflipped (trace : List (Event Reader)) (system : System Reader width) : Prop :=
  ∀ reader readIdx, (system.readers reader).readIdx = some readIdx →
    commits (attempt reader trace) = 0 → system.shared.buffer.activeIdx = readIdx

theorem Unflipped.start (slots : SlotIdx → Bytes) :
    Unflipped [] (System.start slots : System Reader width) := by
  intro reader readIdx reading
  cases reading

theorem attempt_own {reader : Reader} {event : ReaderEvent}
    (later : event ≠ .firstLoad) (trace : List (Event Reader)) :
    attempt reader (.reader reader event :: trace) =
      .reader reader event :: attempt reader trace := by
  refine since_unmarked ?_ trace
  cases event with
  | firstLoad => contradiction
  | internal | secondLoad | returned => rfl

/-- What one step of an attempt does to the reader's program counter. -/
theorem readerStep_readIdx {size : Nat} {buffer : DoubleBuffer width} {pc next : ReaderPc width}
    {event : ReaderEvent} {readIdx : SlotIdx}
    (run : readerStep size buffer pc = some (event, next)) (reading : next.readIdx = some readIdx) :
    event = .firstLoad ∧ readIdx = buffer.activeIdx ∨
      event ≠ .firstLoad ∧ pc.readIdx = some readIdx := by
  cases pc with
  | idle =>
      cases run
      exact Or.inl ⟨rfl, (Option.some.inj reading).symm⟩
  | loadingVersion before =>
      cases run
      exact Or.inr ⟨by simp, reading⟩
  | copying before verBefore copied =>
      rw [readerStep] at run
      split at run
      · split at run
        · cases run
        · cases run
          exact Or.inr ⟨by simp, reading⟩
      · split at run
        · cases run
          exact Or.inr ⟨by simp, reading⟩
        · cases run
          cases reading
  | rechecking before verBefore copied =>
      cases run
      cases reading

theorem Unflipped.step {size : Nat} {trace : List (Event Reader)}
    {system after : System Reader width} {event : Event Reader}
    (unflipped : Unflipped trace system) (step : system.Step size event after) :
    Unflipped (event :: trace) after := by
  intro reader readIdx reading none
  rcases step.cases with ⟨writerEvent, shared, rfl, moved, rfl⟩ |
    ⟨mover, readerEvent, pc, rfl, moved, rfl⟩
  · rw [attempt_writer, commits_cons] at none
    have noCommit : (Event.writer writerEvent : Event Reader).isCommit = false := by
      by_contra committed
      simp [committed] at none
    have before := unflipped reader readIdx reading (by omega)
    exact (moved.activeIdx noCommit).trans before
  · by_cases own : mover = reader
    · subst own
      simp only [Function.update_self] at reading
      rcases readerStep_readIdx moved reading with ⟨_, active⟩ | ⟨later, before⟩
      · exact active.symm
      · rw [attempt_own later] at none
        exact unflipped mover readIdx before none
    · simp only [Function.update_of_ne (Ne.symm own)] at reading
      rw [attempt_other own] at none
      exact unflipped reader readIdx reading none

theorem Unflipped.reaches {size : Nat} {slots : SlotIdx → Bytes} {trace : List (Event Reader)}
    {system : System Reader width}
    (reaches : Reaches (System.Step size) (System.start slots) trace system) :
    Unflipped trace system :=
  reaches.invariant _ (Unflipped.start slots) fun _ _ _ _ unflipped step => unflipped.step step

theorem readerStep_false {size : Nat} {buffer : DoubleBuffer width} {pc next : ReaderPc width}
    (run : readerStep size buffer pc = some (.returned none, next)) :
    next = .idle ∧ ((∃ readIdx verBefore copied, pc = .copying readIdx verBefore copied ∧
        buffer.activeIdx ≠ readIdx) ∨
      ∃ readIdx verBefore copied, pc = .rechecking readIdx verBefore copied ∧
        buffer.version readIdx ≠ verBefore) := by
  cases pc with
  | idle => cases run
  | loadingVersion readIdx => cases run
  | copying readIdx verBefore copied =>
      rw [readerStep] at run
      split at run
      · split at run
        · cases run
        · cases run
      · split at run
        · cases run
        · rename_i flipped
          cases run
          exact ⟨rfl, Or.inl ⟨readIdx, verBefore, copied, rfl, flipped⟩⟩
  | rechecking readIdx verBefore copied =>
      rw [readerStep] at run
      split at run
      · cases run
      · rename_i moved
        cases run
        exact ⟨rfl, Or.inr ⟨readIdx, verBefore, copied, rfl, moved⟩⟩

/-- An attempt that fails has seen the writer store the active index. -/
theorem failure_paid {size : Nat} {slots : SlotIdx → Bytes} {trace : List (Event Reader)}
    {system : System Reader width}
    (reaches : Reaches (System.Step size) (System.start slots) trace system) {reader : Reader}
    {next : ReaderPc width}
    (fails : readerStep size system.shared.buffer (system.readers reader) =
      some (.returned none, next)) :
    0 < commits (attempt reader trace) := by
  by_contra none
  have zero : commits (attempt reader trace) = 0 := by omega
  have unflipped := Unflipped.reaches reaches reader
  have invariant := (SystemInvariant.reaches reaches).readers reader
  rcases (readerStep_false fails).2 with ⟨readIdx, verBefore, copied, pc, flipped⟩ |
    ⟨readIdx, verBefore, copied, pc, moved⟩
  · exact flipped (unflipped readIdx (by rw [pc]; rfl) zero)
  · have active := unflipped readIdx (by rw [pc]; rfl) zero
    rw [pc] at invariant
    obtain ⟨paid, _, earlier, tracks, _⟩ := invariant
    have few := paid.stable (Or.inl active)
    have past := tracks.past
    have unmoved := tracks.version
    rw [show increments readIdx (attempt reader trace) - earlier = 0 by omega] at unmoved
    exact moved (unmoved.trans (BitVec.add_zero verBefore))

def Event.isFailure (reader : Reader) : Event Reader → Bool
  | .reader other (.returned none) => other = reader
  | _ => false

def Event.isSuccess (reader : Reader) : Event Reader → Bool
  | .reader other (.returned (some _)) => other = reader
  | _ => false

def Event.isAccess (reader : Reader) : Event Reader → Bool
  | .reader other _ => other = reader
  | .writer _ => false

/-- The attempts that a reader started. -/
def attempts (reader : Reader) (trace : List (Event Reader)) : Nat :=
  trace.countP (Event.isFirstLoad reader)

def failures (reader : Reader) (trace : List (Event Reader)) : Nat :=
  trace.countP (Event.isFailure reader)

def accesses (reader : Reader) (trace : List (Event Reader)) : Nat :=
  trace.countP (Event.isAccess reader)

@[simp] theorem attempts_cons (reader : Reader) (event : Event Reader)
    (trace : List (Event Reader)) :
    attempts reader (event :: trace) =
      attempts reader trace + if event.isFirstLoad reader then 1 else 0 :=
  List.countP_cons ..

@[simp] theorem failures_cons (reader : Reader) (event : Event Reader)
    (trace : List (Event Reader)) :
    failures reader (event :: trace) =
      failures reader trace + if event.isFailure reader then 1 else 0 :=
  List.countP_cons ..

@[simp] theorem accesses_cons (reader : Reader) (event : Event Reader)
    (trace : List (Event Reader)) :
    accesses reader (event :: trace) =
      accesses reader trace + if event.isAccess reader then 1 else 0 :=
  List.countP_cons ..

/-- The loop of a reader that was idle after `earlier` and has not succeeded since. -/
structure RetryInvariant (size : Nat) (reader : Reader) (earlier events : List (Event Reader))
    (pc : ReaderPc width) : Prop where
  begun : attempts reader events = failures reader events + pc.underWay
  paid : failures reader events + pc.underWay * commits (attempt reader (events ++ earlier)) ≤
    commits events
  spent : accesses reader events ≤ failures reader events * (size + 4) + pc.progress size

theorem RetryInvariant.start (size : Nat) (reader : Reader) (earlier : List (Event Reader)) :
    RetryInvariant size reader earlier [] (ReaderPc.idle : ReaderPc width) :=
  ⟨rfl, by simp [failures, commits, ReaderPc.underWay], by simp [accesses]⟩

/-- A step of somebody else. -/
theorem RetryInvariant.elsewhere {size : Nat} {reader : Reader}
    {earlier events : List (Event Reader)} {pc : ReaderPc width} {event : Event Reader}
    (invariant : RetryInvariant size reader earlier events pc)
    (access : event.isAccess reader = false)
    (same : attempt reader (event :: (events ++ earlier)) =
      event :: attempt reader (events ++ earlier)) :
    RetryInvariant size reader earlier (event :: events) pc := by
  obtain ⟨begun, paid, spent⟩ := invariant
  have noLoad : event.isFirstLoad reader = false := by
    cases event with
    | writer event => rfl
    | reader other event =>
        cases event with
        | firstLoad => exact access
        | internal | secondLoad | returned => rfl
  have noFailure : event.isFailure reader = false := by
    cases event with
    | writer event => rfl
    | reader other event =>
        cases event with
        | internal | firstLoad | secondLoad => rfl
        | returned result =>
            cases result with
            | none => exact access
            | some bytes => rfl
  refine ⟨by simpa [noLoad, noFailure] using begun, ?_, by simpa [access, noFailure] using spent⟩
  rw [List.cons_append, same]
  have under : pc.underWay ≤ 1 := by cases pc <;> simp [ReaderPc.underWay]
  simp only [failures_cons, noFailure, commits_cons, Bool.false_eq_true, if_false, Nat.mul_add]
  have more := Nat.mul_le_mul_right (if event.isCommit = true then 1 else 0) under
  omega

/-- A step of an attempt starts it, goes on with it, or ends it. -/
inductive AttemptStep (size : Nat) (pc next : ReaderPc width) : ReaderEvent → Prop
  | starts (idle : pc.underWay = 0) (fresh : pc.progress size = 0) (busy : next.underWay = 1)
      (first : next.progress size = 1) : AttemptStep size pc next .firstLoad
  | continues {event : ReaderEvent} (which : event = .internal ∨ event = .secondLoad)
      (busy : pc.underWay = 1) (still : next.underWay = 1)
      (more : next.progress size = pc.progress size + 1) : AttemptStep size pc next event
  | ends (result : Option Bytes) (busy : pc.underWay = 1) (bound : pc.progress size ≤ size + 3)
      (idle : next = .idle) : AttemptStep size pc next (.returned result)

theorem readerStep_attempt {size : Nat} {buffer : DoubleBuffer width} {pc next : ReaderPc width}
    {event : ReaderEvent} (run : readerStep size buffer pc = some (event, next))
    (short : ∀ readIdx verBefore copied, pc = .copying readIdx verBefore copied →
      copied.length ≤ size) : AttemptStep size pc next event := by
  cases pc with
  | idle =>
      cases run
      exact .starts rfl rfl rfl rfl
  | loadingVersion readIdx =>
      cases run
      exact .continues (Or.inl rfl) rfl rfl rfl
  | copying readIdx verBefore copied =>
      have room := short readIdx verBefore copied rfl
      rw [readerStep] at run
      split at run
      · split at run
        · cases run
        · cases run
          exact .continues (Or.inl rfl) rfl rfl (by simp [ReaderPc.progress])
      · rename_i whole
        split at run
        · cases run
          exact .continues (Or.inr rfl) rfl rfl (by simp only [ReaderPc.progress]; omega)
        · cases run
          exact .ends none rfl (by simp only [ReaderPc.progress]; omega) rfl
  | rechecking readIdx verBefore copied =>
      cases run
      exact .ends _ rfl (Nat.le_refl _) rfl

/-- A step of the loop that does not end it. -/
theorem RetryInvariant.own {size : Nat} {reader : Reader} {earlier events : List (Event Reader)}
    {pc next : ReaderPc width} {event : ReaderEvent}
    (invariant : RetryInvariant size reader earlier events pc)
    (step : AttemptStep size pc next event)
    (failed : event = .returned none → 0 < commits (attempt reader (events ++ earlier)))
    (unfinished : (Event.reader reader event).isSuccess reader = false) :
    RetryInvariant size reader earlier (.reader reader event :: events) next := by
  obtain ⟨begun, paid, spent⟩ := invariant
  cases step with
  | starts idle fresh busy first =>
      have restarted : attempt reader (.reader reader .firstLoad :: (events ++ earlier)) = [] :=
        since_marked (by simp [Event.isFirstLoad]) _
      rw [idle] at begun paid
      rw [fresh] at spent
      refine ⟨?_, ?_, ?_⟩
      · simpa [Event.isFirstLoad, Event.isFailure, busy] using begun
      · rw [List.cons_append, restarted]
        simpa [Event.isFailure, commits, Event.isCommit] using paid
      · simpa [Event.isAccess, Event.isFailure, first] using spent
  | continues which busy still more =>
      have quiet : (Event.reader reader event).isFirstLoad reader = false ∧
          (Event.reader reader event).isFailure reader = false := by
        rcases which with internal | secondLoad
        · rw [internal]
          exact ⟨rfl, rfl⟩
        · rw [secondLoad]
          exact ⟨rfl, rfl⟩
      have later : event ≠ .firstLoad := by
        intro first
        rw [first] at which
        simp at which
      rw [busy] at begun paid
      refine ⟨?_, ?_, ?_⟩
      · simpa [quiet, still] using begun
      · rw [List.cons_append, attempt_own later]
        simpa [quiet, still, Event.isCommit] using paid
      · simp only [accesses_cons, failures_cons, quiet, more, Event.isAccess]
        simp only [decide_true, if_true, Bool.false_eq_true, if_false, Nat.add_zero]
        omega
  | ends result busy bound idle =>
      cases result with
      | some bytes => simp [Event.isSuccess] at unfinished
      | none =>
          have cost := failed rfl
          rw [busy] at begun paid
          subst idle
          refine ⟨?_, ?_, ?_⟩
          · simpa [Event.isFirstLoad, Event.isFailure, ReaderPc.underWay] using begun
          · simp only [failures_cons, commits_cons, Event.isFailure, Event.isCommit,
              ReaderPc.underWay, decide_true, if_true, Bool.false_eq_true, if_false]
            omega
          · simp only [accesses_cons, failures_cons, Event.isFailure, Event.isAccess,
              ReaderPc.progress, decide_true, if_true, Nat.add_mul, Nat.one_mul]
            omega

theorem RetryInvariant.step {size : Nat} {slots : SlotIdx → Bytes}
    {earlier events : List (Event Reader)} {system after : System Reader width}
    {event : Event Reader} {reader : Reader}
    (reaches : Reaches (System.Step size) (System.start slots) (events ++ earlier) system)
    (invariant : RetryInvariant size reader earlier events (system.readers reader))
    (step : system.Step size event after) (unfinished : event.isSuccess reader = false) :
    RetryInvariant size reader earlier (event :: events) (after.readers reader) := by
  rcases step.cases with ⟨writerEvent, shared, rfl, moved, rfl⟩ |
    ⟨mover, readerEvent, pc, rfl, moved, rfl⟩
  · exact invariant.elsewhere rfl (attempt_writer reader writerEvent _)
  · by_cases own : mover = reader
    · subst own
      simp only [Function.update_self]
      refine invariant.own (readerStep_attempt moved ?_) ?_ unfinished
      · intro readIdx verBefore copied copying
        have holds := (SystemInvariant.reaches reaches).readers mover
        rw [copying] at holds
        exact holds.2.1
      · intro failed
        subst failed
        exact failure_paid reaches moved
    · simp only [Function.update_of_ne (Ne.symm own)]
      exact invariant.elsewhere (by simpa [Event.isAccess] using own) (attempt_other own _ _)

theorem RetryInvariant.reaches {size : Nat} {slots : SlotIdx → Bytes}
    {earlier events : List (Event Reader)} {system after : System Reader width} {reader : Reader}
    (reaches : Reaches (System.Step size) (System.start slots) earlier system)
    (idle : system.readers reader = .idle)
    (loops : Reaches (System.Step size) system events after)
    (unfinished : ∀ event ∈ events, event.isSuccess reader = false) :
    RetryInvariant size reader earlier events (after.readers reader) := by
  induction loops with
  | start =>
      rw [idle]
      exact RetryInvariant.start size reader earlier
  | step before taken inductionHypothesis =>
      have invariant := inductionHypothesis fun event member =>
        unfinished event (List.mem_cons_of_mem _ member)
      exact invariant.step (reaches.trans before) taken (unfinished _ List.mem_cons_self)

/-- No step changes the size of a slot. -/
theorem slots_length {size : Nat} {slots : SlotIdx → Bytes} {trace : List (Event Reader)}
    {system : System Reader width}
    (reaches : Reaches (System.Step size) (System.start slots) trace system) (index : SlotIdx) :
    (system.shared.buffer.slots index).length = (slots index).length := by
  induction reaches with
  | start => rfl
  | step _ taken inductionHypothesis =>
      rcases taken.cases with ⟨writerEvent, shared, rfl, moved, rfl⟩ |
        ⟨mover, readerEvent, pc, rfl, moved, rfl⟩
      · cases moved with
        | @stores target write position byte pending storing =>
            by_cases here : index = target
            · rw [here, DoubleBuffer.setSlot_same, List.length_set, ← here, inductionHypothesis]
            · exact (congrArg List.length (DoubleBuffer.setSlot_other _ here)).trans
                inductionHypothesis
        | begins | increments | commits | counts => exact inductionHypothesis
      · exact inductionHypothesis

/-- A reader is never stuck. -/
theorem readerStep_enabled {size : Nat} {buffer : DoubleBuffer width} (pc : ReaderPc width)
    (room : ∀ index, size ≤ (buffer.slots index).length) :
    ∃ event next, readerStep size buffer pc = some (event, next) := by
  cases pc with
  | idle => exact ⟨_, _, rfl⟩
  | loadingVersion readIdx => exact ⟨_, _, rfl⟩
  | copying readIdx verBefore copied =>
      rw [readerStep]
      by_cases unfinished : copied.length < size
      · have inside : copied.length < (buffer.slots readIdx).length := by
          have long := room readIdx
          omega
        rw [if_pos unfinished, List.getElem?_eq_getElem inside]
        exact ⟨_, _, rfl⟩
      · rw [if_neg unfinished]
        by_cases active : buffer.activeIdx = readIdx
        · rw [if_pos active]
          exact ⟨_, _, rfl⟩
        · rw [if_neg active]
          exact ⟨_, _, rfl⟩
  | rechecking readIdx verBefore copied => exact ⟨_, _, rfl⟩

/-- What a retry loop that began after `earlier`, and whose steps are among `events`, has cost. -/
structure LoopPaid (size : Nat) (reader : Reader) (events : List (Event Reader)) : Prop where
  attempts : attempts reader events ≤ commits events + 1
  first : commits events = 0 → failures reader events = 0
  ends : (commits events + 1) * (size + 4) ≤ accesses reader events →
    ∃ event ∈ events, event.isSuccess reader = true

theorem RetryInvariant.paidFor {size : Nat} {reader : Reader} {earlier events : List (Event Reader)}
    {pc : ReaderPc width} (invariant : RetryInvariant size reader earlier events pc)
    (bound : pc.progress size ≤ size + 3) :
    attempts reader events ≤ commits events + 1 ∧
      (commits events = 0 → failures reader events = 0) ∧
      accesses reader events < (commits events + 1) * (size + 4) := by
  obtain ⟨begun, paid, spent⟩ := invariant
  have under : pc.underWay ≤ 1 := by cases pc <;> simp [ReaderPc.underWay]
  have few : failures reader events ≤ commits events := by omega
  have cost := Nat.mul_le_mul_right (size + 4) few
  refine ⟨by omega, by omega, ?_⟩
  rw [Nat.add_mul, Nat.one_mul]
  omega

theorem progress_le {size : Nat} {slots : SlotIdx → Bytes} {trace : List (Event Reader)}
    {system : System Reader width}
    (reaches : Reaches (System.Step size) (System.start slots) trace system) (reader : Reader) :
    (system.readers reader).progress size ≤ size + 3 := by
  have holds := (SystemInvariant.reaches reaches).readers reader
  cases pc : system.readers reader with
  | idle => exact Nat.zero_le _
  | loadingVersion readIdx => simp [ReaderPc.progress]
  | copying readIdx verBefore copied =>
      rw [pc] at holds
      have short := holds.2.1
      simp only [ReaderPc.progress]
      omega
  | rechecking readIdx verBefore copied => exact Nat.le_refl _

theorem quiet_of_success {event : Event Reader} {reader : Reader}
    (succeeds : event.isSuccess reader = true) :
    event.isFirstLoad reader = false ∧ event.isFailure reader = false := by
  cases event with
  | writer event => cases succeeds
  | reader other event =>
      cases event with
      | internal | firstLoad | secondLoad => cases succeeds
      | returned result =>
          cases result with
          | none => cases succeeds
          | some bytes => exact ⟨rfl, rfl⟩

/-- Every failed attempt saw a commit, and a retry loop makes one attempt more than there are
commits while it lasts.  It gets on as long as the slots hold what it reads. -/
theorem retries_paid {size : Nat} {slots : SlotIdx → Bytes} {earlier events : List (Event Reader)}
    {system after : System Reader width}
    (reaches : Reaches (System.Step size) (System.start slots) earlier system)
    (loops : Reaches (System.Step size) system events after) (reader : Reader) :
    (∀ next, after.Step size (.reader reader (.returned none)) next →
      0 < commits (attempt reader (events ++ earlier))) ∧
    (system.readers reader = .idle → (∀ event ∈ events.tail, event.isSuccess reader = false) →
      LoopPaid size reader events) ∧
    ((∀ index, size ≤ (slots index).length) →
      ∃ event next, after.Step size (.reader reader event) next) := by
  refine ⟨?_, ?_, ?_⟩
  · intro next fails
    rcases fails.cases with ⟨_, _, other, _, _⟩ | ⟨mover, readerEvent, pc, same, moved, _⟩
    · cases other
    · cases same
      exact failure_paid (reaches.trans loops) moved
  · intro idle running
    cases loops with
    | start => exact ⟨Nat.zero_le _, fun _ => rfl, by simp [accesses]⟩
    | @step older middle newest _ before taken =>
        have paid := (RetryInvariant.reaches reaches idle before running).paidFor
          (progress_le (reaches.trans before) reader)
        obtain ⟨attempts_le, first, short⟩ := paid
        by_cases succeeds : newest.isSuccess reader = true
        · obtain ⟨noLoad, noFailure⟩ := quiet_of_success succeeds
          refine ⟨?_, ?_, fun _ => ⟨newest, List.mem_cons_self, succeeds⟩⟩
          · simp only [attempts_cons, commits_cons, noLoad, Bool.false_eq_true, if_false]
            omega
          · simp only [failures_cons, commits_cons, noFailure, Bool.false_eq_true, if_false]
            omega
        · have unfinished : ∀ event ∈ newest :: older, event.isSuccess reader = false := by
            intro event member
            rcases List.mem_cons.mp member with here | earlier
            · rw [here]
              simpa using succeeds
            · exact running event earlier
          obtain ⟨attempts_le, first, short⟩ :=
            (RetryInvariant.reaches reaches idle (before.step taken) unfinished).paidFor
              (progress_le (reaches.trans (before.step taken)) reader)
          exact ⟨attempts_le, first, fun enough => absurd enough (Nat.not_le.mpr short)⟩
  · intro room
    have long (index : SlotIdx) : size ≤ (after.shared.buffer.slots index).length := by
      rw [slots_length (reaches.trans loops)]
      exact room index
    obtain ⟨event, pc, run⟩ := readerStep_enabled (after.readers reader) long
    have acted : after.act size (.advanceReader reader) = some (.reader reader event,
        { after with readers := Function.update after.readers reader pc }) := by
      simp only [System.act, run]
      rfl
    exact ⟨event, _, .advanceReader reader, acted⟩

end

/-- The writer is suspended between its increment of the version and its store of the index. -/
theorem retries_paid_suspended :
    ∃ (events : List (Event Unit)) (system after : System Unit 32),
      system.shared.writer = .committing 1 (.command [7]) ∧
        Reaches (System.Step 1) system events after ∧ LoopPaid 1 () events ∧
          (Event.reader () (.returned (some [0]))) ∈ events := by
  obtain ⟨earlier, system, events, after, suspends, reads, writer, idle, running, returned⟩ :
      ∃ (earlier : List (Event Unit)) (system : System Unit 32) (events : List (Event Unit))
        (after : System Unit 32),
        System.run 1 (System.start fun _ => [0])
          [.beginWrite (.command [7]), .advanceWriter, .advanceWriter] = some (earlier, system) ∧
        System.run 1 system (List.replicate 5 (.advanceReader ())) = some (events, after) ∧
        system.shared.writer = .committing 1 (.command [7]) ∧ system.readers () = .idle ∧
        (∀ event ∈ events.tail, event.isSuccess () = false) ∧
        (Event.reader () (.returned (some [0]))) ∈ events :=
    ⟨_, _, _, _, rfl, rfl, rfl, rfl, by decide, List.mem_cons_self⟩
  have loops := System.run_reaches reads
  have paid := (retries_paid (System.run_reaches suspends) loops ()).2.1 idle running
  exact ⟨events, system, after, writer, loops, paid, returned⟩

end Zenbedded.Rcl
