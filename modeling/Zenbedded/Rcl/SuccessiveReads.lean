import Zenbedded.Foundation.Samples
import Zenbedded.Rcl.CommandCounter

namespace Zenbedded.Rcl

open Zenbedded.Foundation

/-! # Reads that follow one another

What the front held after each commit is a history.  The reads of one reader, and
reads of any readers that do not overlap, sample it: none goes back behind another.
-/

variable {Reader : Type} {width : Nat}

/-- What the front held after each commit, and at first. -/
def fronts (start : Contents) : List (Event Reader) → List Bytes
  | [] => [start.front]
  | event :: trace =>
      if event.isCommit then (contentsAfter start (event :: trace)).front :: fronts start trace
      else fronts start trace

theorem effect_quiet {event : Event Reader} (quiet : event.isCommit = false) (contents : Contents) :
    event.effect contents = contents := by
  cases event with
  | reader reader event => rfl
  | writer event =>
      cases event with
      | commit write => cases quiet
      | internal | increment | counted => rfl

theorem fronts_head (start : Contents) (trace : List (Event Reader)) :
    ∃ older, fronts start trace = (contentsAfter start trace).front :: older := by
  induction trace with
  | nil => exact ⟨[], rfl⟩
  | cons event trace inductionHypothesis =>
      rw [fronts]
      split
      · exact ⟨_, rfl⟩
      · rename_i uncommitted
        have same : contentsAfter start (event :: trace) = contentsAfter start trace :=
          effect_quiet (by simpa using uncommitted) _
        rw [same]
        exact inductionHypothesis

theorem fronts_append (start : Contents) (newer older : List (Event Reader)) :
    ∃ later, fronts start (newer ++ older) = later ++ fronts start older := by
  induction newer with
  | nil => exact ⟨[], rfl⟩
  | cons event newer inductionHypothesis =>
      obtain ⟨later, split⟩ := inductionHypothesis
      rw [List.cons_append, fronts, split]
      by_cases committed : event.isCommit = true
      · rw [if_pos committed]
        exact ⟨_ :: later, rfl⟩
      · rw [if_neg committed]
        exact ⟨later, rfl⟩

/-- Fewer than `2 ^ width` commits fall into each attempt that returns true. -/
def Brisk [DecidableEq Reader] (width : Nat) (trace : List (Event Reader)) : Prop :=
  ∀ newer older reader bytes,
    trace = newer ++ .reader reader (.returned (some bytes)) :: older →
    commits (attempt reader older) < 2 ^ width

section

variable [DecidableEq Reader] {size : Nat} {slots : SlotIdx → Bytes}
  {trace : List (Event Reader)} {system : System Reader width}

theorem Brisk.older (newer : List (Event Reader)) {older : List (Event Reader)}
    (brisk : Brisk width (newer ++ older)) : Brisk width older := by
  intro later earlier reader bytes split
  apply brisk (newer ++ later) earlier reader bytes
  rw [split, List.append_assoc]

theorem suffix_beforeSecondLoad (reader : Reader) (trace : List (Event Reader)) :
    beforeSecondLoad reader trace <:+ trace :=
  (List.tail_suffix _).trans (List.dropWhile_suffix _)

/-- A read returns what the front held at its second load. -/
theorem read_front (reaches : Reaches (System.Step size) (System.start slots) trace system)
    {after : System Reader width} {reader : Reader} {bytes : Bytes}
    (returns : system.Step size (.reader reader (.returned (some bytes))) after)
    (few : commits (attempt reader trace) < 2 ^ width) :
    bytes = (contentsAfter (initialContents slots)
      (beforeSecondLoad reader trace)).front.take size := by
  apply (read_of_unwrapped reaches returns _).2.1
  intro readIdx verBefore copied rechecking
  have held := (SystemInvariant.reaches reaches).readers reader
  rw [rechecking] at held
  obtain ⟨paid, _⟩ := held
  by_cases stable : Stable system.shared readIdx
  · exact Nat.lt_of_le_of_lt (paid.stable stable) few
  · exact Nat.lt_trans (paid.torn stable) few

def Event.result (reader : Reader) : Event Reader → Option Bytes
  | .reader other (.returned bytes) => if other = reader then bytes else none
  | _ => none

/-- What the attempts of a reader returned that returned true. -/
def returned (reader : Reader) (trace : List (Event Reader)) : List Bytes :=
  trace.filterMap (Event.result reader)

theorem returned_quiet {reader : Reader} {event : Event Reader}
    (quiet : event.result reader = none) (trace : List (Event Reader)) :
    returned reader (event :: trace) = returned reader trace :=
  List.filterMap_cons_none quiet

theorem beforeSecondLoad_own {reader : Reader} {event : ReaderEvent}
    (other : event ≠ .secondLoad) (trace : List (Event Reader)) :
    beforeSecondLoad reader (.reader reader event :: trace) = beforeSecondLoad reader trace := by
  apply upTo_unmarked
  cases event with
  | secondLoad => contradiction
  | firstLoad | internal | returned => rfl

/-- A reader's results sample the fronts up to its last second load. -/
theorem returned_samples
    (reaches : Reaches (System.Step size) (System.start slots) trace system)
    (brisk : Brisk width trace) (reader : Reader) :
    Samples (returned reader trace)
      ((fronts (initialContents slots) (beforeSecondLoad reader trace)).map (·.take size)) := by
  induction reaches with
  | start => exact .none _
  | @step trace state event after reaches taken inductionHypothesis =>
      have earlier := inductionHypothesis (Brisk.older [event] brisk)
      rcases taken.cases with ⟨writerEvent, shared, rfl, _, _⟩ |
        ⟨mover, readerEvent, pc, rfl, _, _⟩
      · rw [returned_quiet rfl, beforeSecondLoad_writer]
        exact earlier
      · by_cases own : mover = reader
        · subst own
          cases readerEvent with
          | firstLoad | internal =>
              rw [returned_quiet rfl, beforeSecondLoad_own (by simp)]
              exact earlier
          | secondLoad =>
              have now : beforeSecondLoad mover (.reader mover .secondLoad :: trace) = trace :=
                upTo_marked (by simp [Event.isSecondLoad]) trace
              obtain ⟨newer, split⟩ := suffix_beforeSecondLoad mover trace
              obtain ⟨later, grown⟩ := fronts_append (initialContents slots) newer
                (beforeSecondLoad mover trace)
              rw [split] at grown
              rw [returned_quiet rfl, now, grown, List.map_append]
              exact earlier.grown _
          | returned result =>
              rw [beforeSecondLoad_own (by simp)]
              cases result with
              | none =>
                  rw [returned_quiet (by simp [Event.result])]
                  exact earlier
              | some bytes =>
                  have front := read_front reaches taken (brisk [] trace mover bytes rfl)
                  obtain ⟨older, head⟩ := fronts_head (initialContents slots)
                    (beforeSecondLoad mover trace)
                  have added : returned mover (.reader mover (.returned (some bytes)) :: trace) =
                      bytes :: returned mover trace :=
                    List.filterMap_cons_some (by simp [Event.result])
                  rw [head, List.map_cons, ← front] at earlier ⊢
                  rw [added]
                  exact .seen earlier
        · rw [beforeSecondLoad_other own, returned_quiet]
          · exact earlier
          · cases readerEvent with
            | returned result => simp [Event.result, own]
            | firstLoad | internal | secondLoad => rfl

/-- So they sample the fronts of the whole run. -/
theorem returned_samples_whole
    (reaches : Reaches (System.Step size) (System.start slots) trace system)
    (brisk : Brisk width trace) (reader : Reader) :
    Samples (returned reader trace) ((fronts (initialContents slots) trace).map (·.take size)) := by
  obtain ⟨newer, split⟩ := suffix_beforeSecondLoad reader trace
  obtain ⟨later, grown⟩ := fronts_append (initialContents slots) newer
    (beforeSecondLoad reader trace)
  rw [split] at grown
  rw [grown, List.map_append]
  exact (returned_samples reaches brisk reader).grown _

theorem readerStep_rechecking {buffer : DoubleBuffer width} {pc : ReaderPc width}
    {event : ReaderEvent} {readIdx : SlotIdx} {verBefore : BitVec width} {copied : Bytes}
    (run : readerStep size buffer pc = some (event, .rechecking readIdx verBefore copied)) :
    event = .secondLoad := by
  cases pc with
  | idle => cases run
  | loadingVersion before => cases run
  | copying before version bytes =>
      rw [readerStep] at run
      split at run
      · split at run
        · cases run
        · cases run
      · split at run
        · cases run
          rfl
        · cases run
  | rechecking before version bytes => cases run

/-- A reader that has seen the active index again did so in its present attempt. -/
def SecondLoaded (trace : List (Event Reader)) (system : System Reader width) : Prop :=
  ∀ reader readIdx verBefore copied,
    system.readers reader = .rechecking readIdx verBefore copied →
    ∃ event ∈ attempt reader trace, Event.isSecondLoad reader event = true

theorem SecondLoaded.step {after : System Reader width} {event : Event Reader}
    (loaded : SecondLoaded trace system) (step : system.Step size event after) :
    SecondLoaded (event :: trace) after := by
  intro reader readIdx verBefore copied rechecking
  rcases step.cases with ⟨writerEvent, shared, rfl, _, rfl⟩ | ⟨mover, readerEvent, pc, rfl, moved, rfl⟩
  · rw [attempt_writer]
    obtain ⟨load, member, marked⟩ := loaded reader readIdx verBefore copied rechecking
    exact ⟨load, List.mem_cons_of_mem _ member, marked⟩
  · by_cases own : mover = reader
    · subst own
      simp only [Function.update_self] at rechecking
      rw [rechecking] at moved
      cases readerStep_rechecking moved
      rw [attempt_own (by simp)]
      exact ⟨_, List.mem_cons_self, by simp [Event.isSecondLoad]⟩
    · simp only [Function.update_of_ne (Ne.symm own)] at rechecking
      rw [attempt_other own]
      obtain ⟨load, member, marked⟩ := loaded reader readIdx verBefore copied rechecking
      exact ⟨load, List.mem_cons_of_mem _ member, marked⟩

theorem SecondLoaded.reaches
    (reaches : Reaches (System.Step size) (System.start slots) trace system) :
    SecondLoaded trace system := by
  apply reaches.invariant SecondLoaded
  · intro reader readIdx verBefore copied rechecking
    cases rechecking
  · intro _ _ _ _ loaded step
    exact loaded.step step

/-- The results of reads each of which began after the one before had returned. -/
inductive Successive : List (Event Reader) → List Bytes → Prop
  | none : Successive [] []
  | other {trace : List (Event Reader)} {results : List Bytes} (event : Event Reader)
      (earlier : Successive trace results) : Successive (event :: trace) results
  | read {before during : List (Event Reader)} {results : List Bytes} {reader : Reader}
      (bytes : Bytes) (earlier : Successive before results)
      (began : ∃ event ∈ during, Event.isFirstLoad reader event = true) :
      Successive (.reader reader (.returned (some bytes)) :: (during ++ before)) (bytes :: results)

theorem Successive.others {trace : List (Event Reader)} {results : List Bytes}
    (earlier : Successive trace results) (newer : List (Event Reader)) :
    Successive (newer ++ trace) results := by
  induction newer with
  | nil => exact earlier
  | cons event newer inductionHypothesis => exact .other event inductionHypothesis

/-- The second load of a read that began after `before` lies after `before`. -/
theorem beforeSecondLoad_began {before during : List (Event Reader)} {reader : Reader}
    {after : System Reader width} {bytes : Bytes}
    (reaches : Reaches (System.Step size) (System.start slots) (during ++ before) system)
    (returns : system.Step size (.reader reader (.returned (some bytes))) after)
    (began : ∃ event ∈ during, Event.isFirstLoad reader event = true) :
    beforeSecondLoad reader (during ++ before) = beforeSecondLoad reader during ++ before := by
  apply upTo_append
  rcases returns.cases with ⟨_, _, isWriter, _⟩ | ⟨_, _, pc, same, moved, _⟩
  · cases isWriter
  · cases same
    obtain ⟨readIdx, rechecking⟩ := readerStep_true moved
    obtain ⟨load, member, marked⟩ := SecondLoaded.reaches reaches _ _ _ _ rechecking
    rw [attempt, since_append began] at member
    exact ⟨load, (List.takeWhile_sublist _).subset member, marked⟩

/-- Reads that follow one another see the commits in their order, whoever makes them. -/
theorem successive_samples
    (reaches : Reaches (System.Step size) (System.start slots) trace system)
    (brisk : Brisk width trace) {results : List Bytes} (successive : Successive trace results) :
    Samples results ((fronts (initialContents slots) trace).map (·.take size)) := by
  induction successive generalizing system with
  | none => exact .none _
  | @other trace results event _ inductionHypothesis =>
      obtain ⟨later, grown⟩ := fronts_append (initialContents slots) [event] trace
      rw [List.singleton_append] at grown
      rw [grown, List.map_append]
      cases reaches with
      | step older _ => exact (inductionHypothesis older (Brisk.older [event] brisk)).grown _
  | @read before during results reader bytes _ began inductionHypothesis =>
      cases reaches with
      | @step _ current _ _ reaches returns =>
          obtain ⟨middle, older, _⟩ := reaches.split
          have earlier := inductionHypothesis older
            (Brisk.older (.reader reader (.returned (some bytes)) :: during) brisk)
          have front := read_front reaches returns (brisk [] _ reader bytes rfl)
          rw [beforeSecondLoad_began reaches returns began] at front
          -- the history at the second load, then at the return
          obtain ⟨later, grown⟩ := fronts_append (initialContents slots)
            (beforeSecondLoad reader during) before
          obtain ⟨rest, head⟩ := fronts_head (initialContents slots)
            (beforeSecondLoad reader during ++ before)
          have seen := earlier.grown (later.map (·.take size))
          rw [← List.map_append, ← grown, head, List.map_cons, ← front] at seen
          obtain ⟨newer, split⟩ := suffix_beforeSecondLoad reader during
          obtain ⟨last, whole⟩ := fronts_append (initialContents slots)
            (.reader reader (.returned (some bytes)) :: newer)
            (beforeSecondLoad reader during ++ before)
          have same : (.reader reader (.returned (some bytes)) :: newer) ++
              (beforeSecondLoad reader during ++ before) =
                .reader reader (.returned (some bytes)) :: (during ++ before) := by
            rw [List.cons_append, ← List.append_assoc, split]
          rw [same, head] at whole
          rw [whole, List.map_append, List.map_cons, ← front]
          exact seen.seen.grown _

theorem brisk_of_few (few : commits trace < 2 ^ width) : Brisk width trace := by
  intro newer older reader bytes split
  have within : commits (attempt reader older) ≤ commits older :=
    (List.takeWhile_sublist _).countP_le
  rw [split, commits_append, commits_cons] at few
  omega

end

/-- One reader gets the first command, another one later the second. -/
def oneAfterAnother : List (Action Bool) :=
  [.beginWrite (.command [7]), .advanceWriter, .advanceWriter, .advanceWriter, .advanceWriter,
    .advanceReader true, .advanceReader true, .advanceReader true, .advanceReader true,
    .advanceReader true, .beginWrite (.command [8]), .advanceWriter, .advanceWriter,
    .advanceWriter, .advanceWriter, .advanceReader false, .advanceReader false,
    .advanceReader false, .advanceReader false, .advanceReader false]

theorem successive_samples_oneAfterAnother :
    ∃ (trace : List (Event Bool)) (system : System Bool 32),
      System.run 1 (System.start fun _ => [0]) oneAfterAnother = some (trace, system) ∧
        Successive trace [[8], [7]] ∧
        Samples [[8], [7]] ((fronts (initialContents fun _ => [0]) trace).map (·.take 1)) := by
  obtain ⟨⟨trace, system⟩, run⟩ : ∃ result, System.run 1
      (System.start fun _ => [0] : System Bool 32) oneAfterAnother = some result := ⟨_, rfl⟩
  have few : commits trace < 2 ^ 32 := by
    cases run
    decide
  have successive : Successive trace [[8], [7]] := by
    cases run
    let wrote (index : SlotIdx) (byte : UInt8) : List (Event Bool) :=
      [.writer .counted, .writer (.commit (.command [byte])), .writer (.increment index),
        .writer .internal, .writer .internal]
    let reading (reader : Bool) : List (Event Bool) :=
      [.reader reader .secondLoad, .reader reader .internal, .reader reader .internal,
        .reader reader .firstLoad]
    have began (reader : Bool) : ∃ event ∈ reading reader,
        Event.isFirstLoad reader event = true :=
      ⟨.reader reader .firstLoad, by simp [reading], by simp [Event.isFirstLoad]⟩
    have first : Successive (.reader true (.returned (some [7])) :: (reading true ++ wrote 1 7))
        [[7]] := .read [7] (Successive.none.others (wrote 1 7)) (began true)
    exact .read [8] (first.others (wrote 0 8)) (began false)
  exact ⟨trace, system, run, successive,
    successive_samples (System.run_reaches run) (brisk_of_few few) successive⟩

end Zenbedded.Rcl
