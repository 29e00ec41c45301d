import Zenbedded.Rcl.Retries

namespace Zenbedded.Rcl

open Zenbedded.Foundation

/-! # The counter of accepted commands

It is incremented after the commit of each command, by the same writer.  So it is
never ahead of the commits, and behind by at most one.
-/

variable {Reader : Type} {width : Nat}

def Event.isCounted : Event Reader → Bool
  | .writer .counted => true
  | _ => false

def counted (trace : List (Event Reader)) : Nat := trace.countP Event.isCounted

@[simp] theorem counted_cons (event : Event Reader) (trace : List (Event Reader)) :
    counted (event :: trace) = counted trace + if event.isCounted then 1 else 0 :=
  List.countP_cons ..

theorem counted_append (newer older : List (Event Reader)) :
    counted (newer ++ older) = counted newer + counted older := List.countP_append

theorem commits_append (newer older : List (Event Reader)) :
    commits (newer ++ older) = commits newer + commits older := List.countP_append

/-- A write that is a command of the size that the callback lets pass. -/
def Write.IsCommand (size : Nat) : Write → Prop
  | .command data => data.length = size
  | .state _ => False

def WriterPc.write : WriterPc → Option Write
  | .storing _ write _ => some write
  | .committing _ write => some write
  | _ => none

def Action.IsCommand (size : Nat) : Action Reader → Prop
  | .beginWrite write => write.IsCommand size
  | _ => True

/-- A step of the command buffer, which only the callback writes. -/
def CommandStep [DecidableEq Reader] (size : Nat) (system : System Reader width)
    (event : Event Reader) (after : System Reader width) : Prop :=
  ∃ action : Action Reader, action.IsCommand size ∧ system.act size action = some (event, after)

theorem CommandStep.step [DecidableEq Reader] {size : Nat} {system after : System Reader width}
    {event : Event Reader} (step : CommandStep size system event after) :
    system.Step size event after := by
  obtain ⟨action, _, acted⟩ := step
  exact ⟨action, acted⟩

/-- The write that is under way is a command, and the commits are counted up to the last one. -/
structure CounterInvariant (size : Nat) (trace : List (Event Reader)) (shared : Shared width) :
    Prop where
  value : shared.acceptedCount = BitVec.ofNat width (counted trace)
  commits_eq : commits trace = counted trace + if shared.writer = .counting then 1 else 0
  underWay : ∀ write, shared.writer.write = some write → write.IsCommand size
  committed : ∀ write, (Event.writer (.commit write) : Event Reader) ∈ trace →
    write.IsCommand size

theorem CounterInvariant.start (size : Nat) (slots : SlotIdx → Bytes) :
    CounterInvariant size ([] : List (Event Reader))
      (System.start slots : System Reader width).shared := by
  refine ⟨rfl, rfl, ?_, ?_⟩
  · intro write underWay
    cases underWay
  · intro write member
    cases member

theorem CounterInvariant.reader {size : Nat} {trace : List (Event Reader)} {shared : Shared width}
    (invariant : CounterInvariant size trace shared) (reader : Reader) (event : ReaderEvent) :
    CounterInvariant size (.reader reader event :: trace) shared := by
  obtain ⟨value, commits_eq, underWay, committed⟩ := invariant
  refine ⟨?_, ?_, underWay, ?_⟩
  · simpa [Event.isCounted] using value
  · simpa [Event.isCounted, Event.isCommit] using commits_eq
  · intro write member
    exact committed write (by simpa using member)

theorem CounterInvariant.writer {size : Nat} {trace : List (Event Reader)}
    {shared after : Shared width} {event : WriterEvent}
    (invariant : CounterInvariant size trace shared) (step : WriterStep shared event after)
    (begins : ∀ write, shared.writer = .idle → after.writer.write = some write →
      write.IsCommand size) :
    CounterInvariant size (.writer event :: trace) after := by
  obtain ⟨value, commits_eq, underWay, committed⟩ := invariant
  cases step with
  | begins write idle =>
      rw [idle] at commits_eq
      refine ⟨by simpa [Event.isCounted] using value, ?_, fun write => begins write idle, ?_⟩
      · simpa [Event.isCounted, Event.isCommit] using commits_eq
      · intro write member
        exact committed write (by simpa using member)
  | stores storing =>
      rw [storing] at commits_eq underWay
      refine ⟨by simpa [Event.isCounted] using value, ?_, underWay, ?_⟩
      · simpa [Event.isCounted, Event.isCommit] using commits_eq
      · intro write member
        exact committed write (by simpa using member)
  | increments stored =>
      rw [stored] at commits_eq underWay
      refine ⟨by simpa [Event.isCounted] using value, ?_, underWay, ?_⟩
      · simpa [Event.isCounted, Event.isCommit] using commits_eq
      · intro write member
        exact committed write (by simpa using member)
  | @commits target write committing =>
      have command := underWay write (by rw [committing]; rfl)
      rw [committing] at commits_eq
      cases write with
      | state stores => cases command
      | command data =>
          refine ⟨by simpa [Event.isCounted] using value, ?_, ?_, ?_⟩
          · simpa [Event.isCounted, Event.isCommit, Write.afterCommit] using commits_eq
          · intro write next
            cases next
          · intro write member
            rcases List.mem_cons.mp member with now | earlier
            · cases now
              exact command
            · exact committed write earlier
  | counts counting =>
      rw [counting] at commits_eq
      refine ⟨?_, ?_, ?_, ?_⟩
      · rw [counted_cons]
        simp [value, Event.isCounted, BitVec.ofNat_add]
      · simpa [Event.isCounted, Event.isCommit] using commits_eq
      · intro write next
        cases next
      · intro write member
        exact committed write (by simpa using member)

theorem CounterInvariant.counted_le {size : Nat} {trace : List (Event Reader)}
    {shared : Shared width} (invariant : CounterInvariant size trace shared) :
    counted trace ≤ commits trace ∧ commits trace ≤ counted trace + 1 := by
  have same := invariant.commits_eq
  split at same
  · omega
  · omega

section

variable [DecidableEq Reader]

theorem CounterInvariant.step {size : Nat} {trace : List (Event Reader)}
    {system after : System Reader width} {event : Event Reader}
    (invariant : CounterInvariant size trace system.shared)
    (step : CommandStep size system event after) :
    CounterInvariant size (event :: trace) after.shared := by
  obtain ⟨action, command, acted⟩ := step
  cases action with
  | beginWrite write =>
      obtain ⟨⟨writerEvent, shared⟩, begun, result⟩ := Option.bind_eq_some_iff.mp acted
      cases result
      apply invariant.writer (Shared.beginWrite_step begun)
      intro next idle underWay
      simp only [Shared.beginWrite, idle] at begun
      cases begun
      cases underWay
      exact command
  | advanceWriter =>
      obtain ⟨⟨writerEvent, shared⟩, advanced, result⟩ := Option.bind_eq_some_iff.mp acted
      cases result
      apply invariant.writer (Shared.advanceWriter_step advanced)
      intro next idle
      simp [Shared.advanceWriter, idle] at advanced
  | advanceReader reader =>
      obtain ⟨⟨readerEvent, pc⟩, advanced, result⟩ := Option.bind_eq_some_iff.mp acted
      cases result
      exact invariant.reader reader readerEvent

theorem CounterInvariant.reaches {size : Nat} {slots : SlotIdx → Bytes}
    {trace : List (Event Reader)} {system : System Reader width}
    (reaches : Reaches (CommandStep size) (System.start slots) trace system) :
    CounterInvariant size trace system.shared :=
  reaches.invariant (fun trace system => CounterInvariant size trace system.shared)
    (CounterInvariant.start size slots) fun _ _ _ _ invariant step => invariant.step step

/-- In any part of a run there is at most one commit more than there are increments of the
counter. -/
theorem commits_le_counted {size : Nat} {slots : SlotIdx → Bytes}
    {before during : List (Event Reader)} {middle after : System Reader width}
    (reaches : Reaches (CommandStep size) (System.start slots) before middle)
    (later : Reaches (CommandStep size) middle during after) :
    commits during ≤ counted during + 1 := by
  have first := (CounterInvariant.reaches reaches).counted_le
  have last := (CounterInvariant.reaches (reaches.trans later)).counted_le
  rw [commits_append, counted_append] at last
  omega

end

/-- Commits alternate between the slots, and each increments its own slot's version first. -/
structure Alternates (shared : Shared width) (index : SlotIdx) (events : List (Event Reader)) :
    Prop where
  active : shared.buffer.activeIdx = index → 2 * increments index events ≤ commits events
  torn : ¬ Stable shared index → 2 * increments index events + 1 ≤ commits events
  bound : 2 * increments index events ≤ commits events + 1

theorem Alternates.quiet {shared after : Shared width} {index : SlotIdx}
    {events : List (Event Reader)} (alternates : Alternates shared index events)
    (sameIdx : after.buffer.activeIdx = shared.buffer.activeIdx)
    (same : Stable after index ↔ Stable shared index) {event : Event Reader}
    (noCommit : event.isCommit = false) (noIncrement : event.isIncrement index = false) :
    Alternates after index (event :: events) := by
  obtain ⟨active, torn, bound⟩ := alternates
  refine ⟨?_, ?_, ?_⟩
  · intro here
    simpa [noCommit, noIncrement] using active (sameIdx.symm.trans here)
  · intro unstable
    simpa [noCommit, noIncrement] using torn (fun stable => unstable (same.mpr stable))
  · simpa [noCommit, noIncrement] using bound

theorem Alternates.writer {shared after : Shared width} {event : WriterEvent} {contents : Contents}
    (holds : WriterInvariant contents shared) (step : WriterStep shared event after)
    {index : SlotIdx} {events : List (Event Reader)} (alternates : Alternates shared index events) :
    Alternates after index (.writer event :: events) := by
  have back := holds.2
  cases step with
  | begins write idle =>
      refine alternates.quiet ?_ ?_ rfl rfl
      · rfl
      · rw [stable_iff (by simp), stable_iff (by simp [idle])]
  | stores storing =>
      refine alternates.quiet ?_ ?_ rfl rfl
      · rfl
      · rw [stable_iff (by simp), stable_iff (by simp [storing])]
        rfl
  | counts counting =>
      refine alternates.quiet ?_ ?_ rfl rfl
      · rfl
      · rw [stable_iff (by simp), stable_iff (by simp [counting])]
  | @increments target write stored =>
      obtain ⟨active, torn, bound⟩ := alternates
      rw [stored] at back
      have settled := stable_of_committing (holds.step (.increments stored)) rfl index
      by_cases here : shared.buffer.activeIdx = index
      · have apart : target ≠ index := by
          rw [back.1, ← here]
          exact otherSlot_ne _
        refine ⟨?_, fun unstable => absurd settled unstable, ?_⟩
        · intro _
          simpa [Event.isCommit, Event.isIncrement, apart] using active here
        · simpa [Event.isCommit, Event.isIncrement, apart] using bound
      · have same : target = index := back.1.trans (eq_other here).symm
        have before := torn (by rw [stable_iff (by simp [stored])]; exact here)
        refine ⟨fun moved => absurd moved here, fun unstable => absurd settled unstable, ?_⟩
        rw [same, increments_increment, commits_cons]
        simp only [Event.isCommit, Bool.false_eq_true, if_false]
        omega
  | @commits target write committing =>
      obtain ⟨active, torn, bound⟩ := alternates
      rw [committing] at back
      have more : commits (.writer (.commit write) :: events) = commits events + 1 := by
        simp [Event.isCommit]
      have same : increments index (.writer (.commit write) :: events) =
          increments index events := by
        simp [Event.isIncrement]
      refine ⟨?_, ?_, ?_⟩
      · intro _
        rw [more, same]
        exact bound
      · intro unstable
        have apart : target ≠ index := fun here => unstable (Or.inl here)
        have before : shared.buffer.activeIdx = index := by
          rw [eq_other apart, back.1, otherSlot_otherSlot]
        rw [more, same]
        exact Nat.succ_le_succ (active before)
      · rw [more, same]
        omega

section

variable [DecidableEq Reader]

/-- The slot that an attempt reads, since the attempt began. -/
def AttemptsAlternate (trace : List (Event Reader)) (system : System Reader width) : Prop :=
  ∀ reader readIdx, (system.readers reader).readIdx = some readIdx →
    Alternates system.shared readIdx (attempt reader trace)

theorem AttemptsAlternate.step {size : Nat} {slots : SlotIdx → Bytes} {trace : List (Event Reader)}
    {system after : System Reader width} {event : Event Reader}
    (reaches : Reaches (System.Step size) (System.start slots) trace system)
    (alternate : AttemptsAlternate trace system) (step : system.Step size event after) :
    AttemptsAlternate (event :: trace) after := by
  intro reader readIdx reading
  rcases step.cases with ⟨writerEvent, shared, rfl, moved, rfl⟩ |
    ⟨mover, readerEvent, pc, rfl, moved, rfl⟩
  · rw [attempt_writer]
    exact (alternate reader readIdx reading).writer (SystemInvariant.reaches reaches).writer moved
  · by_cases own : mover = reader
    · subst own
      simp only [Function.update_self] at reading
      rcases readerStep_readIdx moved reading with ⟨first, active⟩ | ⟨later, before⟩
      · have begun : attempt mover (.reader mover readerEvent :: trace) = [] :=
          since_marked (by simp [first, Event.isFirstLoad]) trace
        rw [begun]
        exact ⟨fun _ => Nat.le_refl 0, fun unstable => absurd (Or.inl active.symm) unstable,
          Nat.zero_le _⟩
      · rw [attempt_own later]
        exact (alternate mover readIdx before).quiet rfl Iff.rfl rfl rfl
    · simp only [Function.update_of_ne (Ne.symm own)] at reading
      rw [attempt_other own]
      exact (alternate reader readIdx reading).quiet rfl Iff.rfl rfl rfl

theorem AttemptsAlternate.reaches {size : Nat} {slots : SlotIdx → Bytes}
    {trace : List (Event Reader)} {system : System Reader width}
    (reaches : Reaches (System.Step size) (System.start slots) trace system) :
    AttemptsAlternate trace system := by
  induction reaches with
  | start =>
      intro reader readIdx reading
      cases reading
  | step before taken inductionHypothesis => exact inductionHypothesis.step before taken

/-- The loads of an attempt that began in the part `during` of a run. -/
structure BegunIn (reader : Reader) (during : List (Event Reader)) (pc : ReaderPc width) :
    Prop where
  first : pc ≠ .idle → ∃ event ∈ during, Event.isFirstLoad reader event = true
  second : (∃ readIdx verBefore copied, pc = .rechecking readIdx verBefore copied) →
    ∃ event ∈ during, Event.isSecondLoad reader event = true

theorem BegunIn.more {reader : Reader} {during : List (Event Reader)} {pc : ReaderPc width}
    (begun : BegunIn reader during pc) (event : Event Reader) :
    BegunIn reader (event :: during) pc := by
  constructor
  · intro busy
    obtain ⟨load, member, marked⟩ := begun.first busy
    exact ⟨load, List.mem_cons_of_mem _ member, marked⟩
  · intro rechecking
    obtain ⟨load, member, marked⟩ := begun.second rechecking
    exact ⟨load, List.mem_cons_of_mem _ member, marked⟩

theorem BegunIn.own {size : Nat} {reader : Reader} {during : List (Event Reader)}
    {pc next : ReaderPc width} {buffer : DoubleBuffer width} {event : ReaderEvent}
    (begun : BegunIn reader during pc)
    (run : readerStep size buffer pc = some (event, next)) :
    BegunIn reader (.reader reader event :: during) next := by
  have tail : BegunIn reader (.reader reader event :: during) pc := begun.more _
  cases pc with
  | idle =>
      cases run
      refine ⟨fun _ => ⟨_, List.mem_cons_self, by simp [Event.isFirstLoad]⟩, ?_⟩
      intro rechecking
      simp at rechecking
  | loadingVersion readIdx =>
      cases run
      refine ⟨fun _ => tail.first (by simp), ?_⟩
      intro rechecking
      simp at rechecking
  | copying readIdx verBefore copied =>
      rw [readerStep] at run
      split at run
      · split at run
        · cases run
        · cases run
          refine ⟨fun _ => tail.first (by simp), ?_⟩
          intro rechecking
          simp at rechecking
      · split at run
        · cases run
          exact ⟨fun _ => tail.first (by simp),
            fun _ => ⟨_, List.mem_cons_self, by simp [Event.isSecondLoad]⟩⟩
        · cases run
          refine ⟨fun busy => absurd rfl busy, ?_⟩
          intro rechecking
          simp at rechecking
  | rechecking readIdx verBefore copied =>
      cases run
      refine ⟨fun busy => absurd rfl busy, ?_⟩
      intro rechecking
      simp at rechecking

theorem BegunIn.reaches {size : Nat} {during : List (Event Reader)}
    {middle system : System Reader width} {reader : Reader}
    (idle : middle.readers reader = .idle)
    (later : Reaches (System.Step size) middle during system) :
    BegunIn reader during (system.readers reader) := by
  induction later with
  | start =>
      rw [idle]
      refine ⟨fun busy => absurd rfl busy, ?_⟩
      intro rechecking
      simp at rechecking
  | step _ taken inductionHypothesis =>
      rcases taken.cases with ⟨writerEvent, shared, rfl, moved, rfl⟩ |
        ⟨mover, readerEvent, pc, rfl, moved, rfl⟩
      · exact inductionHypothesis.more _
      · by_cases own : mover = reader
        · subst own
          simp only [Function.update_self]
          exact inductionHypothesis.own moved
        · simp only [Function.update_of_ne (Ne.symm own)]
          exact inductionHypothesis.more _

end

def Event.acceptedData : Event Reader → Option Bytes
  | .writer (.commit (.command data)) => some data
  | _ => none

/-- The accepted commands, in the order of their acceptance. -/
def accepted (trace : List (Event Reader)) : List Bytes :=
  (trace.filterMap Event.acceptedData).reverse

theorem accepted_append (newer older : List (Event Reader)) :
    accepted (newer ++ older) = accepted older ++ accepted newer := by
  simp [accepted]

theorem accepted_length {size : Nat} {trace : List (Event Reader)}
    (committed : ∀ write, (Event.writer (.commit write) : Event Reader) ∈ trace →
      write.IsCommand size) : (accepted trace).length = commits trace := by
  induction trace with
  | nil => rfl
  | cons event trace inductionHypothesis =>
      have rest := inductionHypothesis fun write member =>
        committed write (List.mem_cons_of_mem _ member)
      have split : accepted (event :: trace) = accepted trace ++ accepted [event] :=
        accepted_append [event] trace
      rw [split, List.length_append, commits_cons, rest]
      cases event with
      | reader reader event => rfl
      | writer event =>
          cases event with
          | internal | increment | counted => rfl
          | commit write =>
              cases write with
              | command data => rfl
              | state stores => exact absurd (committed _ List.mem_cons_self) id

theorem accepted_last {trace : List (Event Reader)} {data : Bytes}
    (last : lastCommit trace = some (.command data)) :
    ∃ earlier, accepted trace = earlier ++ [data] := by
  induction trace with
  | nil => cases last
  | cons event trace inductionHypothesis =>
      cases event with
      | reader reader event => exact inductionHypothesis last
      | writer event =>
          cases event with
          | internal | increment | counted => exact inductionHypothesis last
          | commit write =>
              cases last
              exact ⟨accepted trace, accepted_append [_] trace⟩

theorem commits_of_none {trace : List (Event Reader)} (none : lastCommit trace = none) :
    commits trace = 0 := by
  induction trace with
  | nil => rfl
  | cons event trace inductionHypothesis =>
      cases event with
      | reader reader event => exact inductionHypothesis none
      | writer event =>
          cases event with
          | internal | increment | counted => exact inductionHypothesis none
          | commit write => cases none

theorem lastCommit_mem {trace : List (Event Reader)} {write : Write}
    (last : lastCommit trace = some write) :
    (Event.writer (.commit write) : Event Reader) ∈ trace := by
  obtain ⟨event, member, committed⟩ := List.exists_of_findSome?_eq_some last
  cases event with
  | reader reader event => cases committed
  | writer event =>
      cases event with
      | internal | increment | counted => cases committed
      | commit other =>
          cases committed
          exact member

section

variable [DecidableEq Reader] {size : Nat} {slots : SlotIdx → Bytes}
  {before during : List (Event Reader)} {middle system after : System Reader width}
  {reader : Reader} {bytes : Bytes}

/-- While the counter moves by less than `2 ^ 32`, no version wraps. -/
theorem increments_unwrapped (wide : 32 ≤ width)
    (reaches : Reaches (CommandStep size) (System.start slots) before middle)
    (idle : middle.readers reader = .idle)
    (later : Reaches (CommandStep size) middle during system)
    (few : counted during < 2 ^ 32) {readIdx : SlotIdx}
    (reading : (system.readers reader).readIdx = some readIdx) :
    increments readIdx (attempt reader (during ++ before)) < 2 ^ width := by
  have plain := (reaches.trans later).mono fun _ _ _ step => step.step
  have begun := BegunIn.reaches idle (later.mono fun _ _ _ step => step.step)
  have busy : system.readers reader ≠ .idle := by
    intro none
    rw [none] at reading
    cases reading
  have inside : attempt reader (during ++ before) = attempt reader during :=
    since_append (begun.first busy) before
  have alternates := (AttemptsAlternate.reaches plain reader readIdx reading).bound
  have fewer : commits (attempt reader during) ≤ commits during :=
    (List.takeWhile_sublist _).countP_le
  have paid := commits_le_counted reaches later
  have enough : 2 ^ 32 ≤ 2 ^ width := Nat.pow_le_pow_right (by decide) wide
  rw [inside] at alternates ⊢
  omega

/-- What is read after `k` commands were counted is the `k`-th one or a later one, or what the
buffer held at first if none was counted. -/
theorem read_afterCount (wide : 32 ≤ width)
    (reaches : Reaches (CommandStep size) (System.start slots) before middle)
    (idle : middle.readers reader = .idle)
    (later : Reaches (CommandStep size) middle during system)
    (few : counted during < 2 ^ 32)
    (returns : system.Step size (.reader reader (.returned (some bytes))) after) :
    (counted before = 0 ∧ bytes = (slots 0).take size) ∨
      ∃ place, counted before ≤ place + 1 ∧
        (accepted (during ++ before))[place]? = some bytes := by
  have whole := reaches.trans later
  have plain := whole.mono fun _ _ _ step => step.step
  have counter := CounterInvariant.reaches whole
  have unwrapped (readIdx : SlotIdx) (verBefore : BitVec width) (copied : Bytes)
      (rechecking : system.readers reader = .rechecking readIdx verBefore copied) :
      increments readIdx (attempt reader (during ++ before)) < 2 ^ width :=
    increments_unwrapped wide reaches idle later few (by rw [rechecking]; rfl)
  obtain ⟨_, _, initial, payload⟩ := read_of_unwrapped plain returns unwrapped
  have begun := BegunIn.reaches idle (later.mono fun _ _ _ step => step.step)
  have secondLoad : ∃ event ∈ during, Event.isSecondLoad reader event = true := by
    rcases returns.cases with ⟨_, _, isWriter, _⟩ | ⟨_, _, pc, same, moved, _⟩
    · cases isWriter
    · cases same
      obtain ⟨readIdx, rechecking⟩ := readerStep_true moved
      exact begun.second ⟨_, _, _, rechecking⟩
  -- the second load of the index lies behind the read of the counter
  have seen : beforeSecondLoad reader (during ++ before) =
      beforeSecondLoad reader during ++ before := upTo_append secondLoad before
  have within : beforeSecondLoad reader during <:+ during :=
    (List.tail_suffix _).trans (List.dropWhile_suffix _)
  obtain ⟨newer, split⟩ := within
  have total : during ++ before = newer ++ beforeSecondLoad reader (during ++ before) := by
    rw [seen, ← List.append_assoc, split]
  have committed (write : Write)
      (member : (Event.writer (.commit write) : Event Reader) ∈
        beforeSecondLoad reader (during ++ before)) : write.IsCommand size := by
    apply counter.committed write
    rw [total]
    exact List.mem_append_right _ member
  have before_le : counted before ≤ commits (beforeSecondLoad reader (during ++ before)) := by
    have first := (CounterInvariant.reaches reaches).counted_le.1
    rw [seen, commits_append]
    omega
  have length := accepted_length committed
  cases last : lastCommit (beforeSecondLoad reader (during ++ before)) with
  | none =>
      left
      rw [commits_of_none last] at before_le
      exact ⟨by omega, initial last⟩
  | some write =>
      right
      have command := committed write (lastCommit_mem last)
      cases write with
      | state stores => cases command
      | command data =>
          obtain ⟨earlier, order⟩ := accepted_last last
          rw [order, List.length_append, List.length_singleton] at length
          refine ⟨earlier.length, by omega, ?_⟩
          have all : accepted (during ++ before) = earlier ++ data :: accepted newer := by
            rw [total, accepted_append, order, List.append_assoc, List.singleton_append]
          rw [payload data last command, all]
          simp

/-- Two reads of the counter that return the same value. -/
theorem commits_of_sameCount (reaches : Reaches (CommandStep size) (System.start slots) before
      middle)
    (later : Reaches (CommandStep size) middle during system) (few : counted during < 2 ^ 32)
    (same : BitVec.ofNat 32 (counted (during ++ before)) = BitVec.ofNat 32 (counted before)) :
    commits during ≤ 1 := by
  have paid := commits_le_counted reaches later
  have values := congrArg BitVec.toNat same
  rw [counted_append, BitVec.toNat_ofNat, BitVec.toNat_ofNat] at values
  omega

end

end Zenbedded.Rcl
