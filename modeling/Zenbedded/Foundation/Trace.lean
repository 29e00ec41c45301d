import Mathlib.Data.Rat.Floor
import Mathlib.Data.List.Basic

namespace Zenbedded.Foundation

/-! # Traces of a transition system

A trace lists the events of a run, the newest first, so that a step is a `cons`.
-/

variable {State Event : Type}

/-- The states that a run from `start` reaches, with the trace of the run. -/
inductive Reaches (step : State → Event → State → Prop) (start : State) :
    List Event → State → Prop
  | start : Reaches step start [] start
  | step {trace state event after} (reaches : Reaches step start trace state)
      (taken : step state event after) : Reaches step start (event :: trace) after

/-- What holds at the start and is kept by every step holds in every reachable state. -/
theorem Reaches.invariant {step : State → Event → State → Prop} {start : State}
    (Invariant : List Event → State → Prop) (initial : Invariant [] start)
    (preserved : ∀ trace state event after, Invariant trace state → step state event after →
      Invariant (event :: trace) after)
    {trace : List Event} {state : State} (reaches : Reaches step start trace state) :
    Invariant trace state := by
  induction reaches with
  | start => exact initial
  | step _ taken inductionHypothesis => exact preserved _ _ _ _ inductionHypothesis taken

theorem Reaches.mono {step wider : State → Event → State → Prop}
    (widens : ∀ before event after, step before event after → wider before event after)
    {start state : State} {trace : List Event} (reaches : Reaches step start trace state) :
    Reaches wider start trace state := by
  induction reaches with
  | start => exact .start
  | step _ taken inductionHypothesis => exact inductionHypothesis.step (widens _ _ _ taken)

theorem Reaches.trans {step : State → Event → State → Prop} {first second third : State}
    {earlier later : List Event} (left : Reaches step first earlier second)
    (right : Reaches step second later third) : Reaches step first (later ++ earlier) third := by
  induction right with
  | start => exact left
  | step _ taken inductionHypothesis => exact inductionHypothesis.step taken

/-- A run can be taken apart at any of its states. -/
theorem Reaches.split {step : State → Event → State → Prop} {start state : State}
    {later earlier : List Event} (reaches : Reaches step start (later ++ earlier) state) :
    ∃ middle, Reaches step start earlier middle ∧ Reaches step middle later state := by
  induction later generalizing state with
  | nil => exact ⟨state, reaches, .start⟩
  | cons event later inductionHypothesis =>
      cases reaches with
      | step before taken =>
          obtain ⟨middle, first, second⟩ := inductionHypothesis before
          exact ⟨middle, first, second.step taken⟩

/-- A run of chosen actions, which are listed newest first. -/
def perform {Action : Type} (act : Action → State → Option (Event × State)) (start : State) :
    List Action → Option (List Event × State)
  | [] => some ([], start)
  | action :: earlier => do
      let (trace, before) ← perform act start earlier
      let (event, after) ← act action before
      return (event :: trace, after)

theorem perform_reaches {Action : Type} {act : Action → State → Option (Event × State)}
    {step : State → Event → State → Prop}
    (sound : ∀ action before event after, act action before = some (event, after) →
      step before event after)
    {start state : State} {actions : List Action} {trace : List Event}
    (performed : perform act start actions = some (trace, state)) :
    Reaches step start trace state := by
  induction actions generalizing trace state with
  | nil =>
      cases performed
      exact .start
  | cons action earlier inductionHypothesis =>
      simp only [perform, Option.bind_eq_bind, Option.bind_eq_some_iff] at performed
      obtain ⟨⟨before, middle⟩, reached, ⟨event, last⟩, acted, result⟩ := performed
      cases result
      exact (inductionHypothesis reached).step (sound action middle event last acted)

/-- The events after the last marked one. -/
def since (mark : Event → Bool) (trace : List Event) : List Event :=
  trace.takeWhile fun event => !mark event

/-- The events before the last marked one. -/
def upTo (mark : Event → Bool) (trace : List Event) : List Event :=
  (trace.dropWhile fun event => !mark event).tail

@[simp] theorem since_marked {mark : Event → Bool} {event : Event} (marked : mark event = true)
    (trace : List Event) : since mark (event :: trace) = [] := by
  simp [since, marked]

@[simp] theorem since_unmarked {mark : Event → Bool} {event : Event} (unmarked : mark event = false)
    (trace : List Event) : since mark (event :: trace) = event :: since mark trace := by
  simp [since, unmarked]

@[simp] theorem upTo_marked {mark : Event → Bool} {event : Event} (marked : mark event = true)
    (trace : List Event) : upTo mark (event :: trace) = trace := by
  simp [upTo, marked]

@[simp] theorem upTo_unmarked {mark : Event → Bool} {event : Event} (unmarked : mark event = false)
    (trace : List Event) : upTo mark (event :: trace) = upTo mark trace := by
  simp [upTo, unmarked]

theorem marked_tail {mark : Event → Bool} {first : Event} {rest : List Event}
    (marked : ∃ event ∈ first :: rest, mark event = true) (unmarked : mark first = false) :
    ∃ event ∈ rest, mark event = true := by
  obtain ⟨event, member, held⟩ := marked
  rcases List.mem_cons.mp member with same | tail
  · rw [same, unmarked] at held
    contradiction
  · exact ⟨event, tail, held⟩

/-- The last marked event stands between what comes after it and what comes before. -/
theorem last_marked {mark : Event → Bool} {trace : List Event}
    (marked : ∃ event ∈ trace, mark event = true) :
    ∃ newer event older, trace = newer ++ event :: older ∧ mark event = true ∧
      ∀ other ∈ newer, mark other = false := by
  induction trace with
  | nil =>
      obtain ⟨event, member, _⟩ := marked
      cases member
  | cons first trace inductionHypothesis =>
      by_cases here : mark first = true
      · exact ⟨[], first, trace, rfl, here, by simp⟩
      · have unmarked : mark first = false := by simpa using here
        obtain ⟨newer, event, older, rfl, found, rest⟩ :=
          inductionHypothesis (marked_tail marked unmarked)
        refine ⟨first :: newer, event, older, rfl, found, ?_⟩
        intro other member
        rcases List.mem_cons.mp member with same | tail
        · rw [same, unmarked]
        · exact rest other tail

theorem since_append {mark : Event → Bool} {during : List Event}
    (marked : ∃ event ∈ during, mark event = true) (before : List Event) :
    since mark (during ++ before) = since mark during := by
  induction during with
  | nil =>
      obtain ⟨event, member, _⟩ := marked
      cases member
  | cons first during inductionHypothesis =>
      by_cases here : mark first = true
      · rw [List.cons_append, since_marked here, since_marked here]
      · have unmarked : mark first = false := by simpa using here
        rw [List.cons_append, since_unmarked unmarked, since_unmarked unmarked,
          inductionHypothesis (marked_tail marked unmarked)]

theorem upTo_append {mark : Event → Bool} {during : List Event}
    (marked : ∃ event ∈ during, mark event = true) (before : List Event) :
    upTo mark (during ++ before) = upTo mark during ++ before := by
  induction during with
  | nil =>
      obtain ⟨event, member, _⟩ := marked
      cases member
  | cons first during inductionHypothesis =>
      by_cases here : mark first = true
      · rw [List.cons_append, upTo_marked here, upTo_marked here]
      · have unmarked : mark first = false := by simpa using here
        rw [List.cons_append, upTo_unmarked unmarked, upTo_unmarked unmarked,
          inductionHypothesis (marked_tail marked unmarked)]

end Zenbedded.Foundation
