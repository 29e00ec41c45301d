import Mathlib.Data.Rat.Floor
import Mathlib.Data.List.Basic

namespace Zenbedded.Foundation

/-! # Samples of a history

A history grows, and somebody looks at its newest entry now and then.  Entries may
be missed and may be seen more than once, but nobody goes back.  Both lists have
the newest entry first.
-/

variable {Value Other : Type}

inductive Samples : List Value → List Value → Prop
  | none (history : List Value) : Samples [] history
  | missed {samples history : List Value} (value : Value) (earlier : Samples samples history) :
      Samples samples (value :: history)
  | seen {samples history : List Value} {value : Value}
      (earlier : Samples samples (value :: history)) : Samples (value :: samples) (value :: history)

namespace Samples

theorem grown {samples history : List Value} (sampled : Samples samples history)
    (newer : List Value) : Samples samples (newer ++ history) := by
  induction newer with
  | nil => exact sampled
  | cons value newer inductionHypothesis => exact .missed value inductionHypothesis

theorem mem {samples history : List Value} (sampled : Samples samples history) {value : Value}
    (member : value ∈ samples) : value ∈ history := by
  induction sampled with
  | none history => cases member
  | missed other _ inductionHypothesis =>
      exact List.mem_cons_of_mem other (inductionHypothesis member)
  | seen _ inductionHypothesis =>
      rcases List.mem_cons.mp member with rfl | older
      · exact List.mem_cons_self
      · exact inductionHypothesis older

/-- What is seen once each, in order. -/
theorem of_sublist {samples history : List Value} (sublist : samples.Sublist history) :
    Samples samples history := by
  induction sublist with
  | slnil => exact .none []
  | cons value _ inductionHypothesis => exact .missed value inductionHypothesis
  | cons_cons value _ inductionHypothesis => exact .seen (.missed value inductionHypothesis)

/-- Samples of samples are samples. -/
theorem trans {outer samples history : List Value} (second : Samples outer samples)
    (first : Samples samples history) : Samples outer history := by
  induction first generalizing outer with
  | none history =>
      cases second
      exact .none history
  | missed value _ inductionHypothesis => exact .missed value (inductionHypothesis second)
  | @seen samples history value _ inductionHypothesis =>
      generalize entries : value :: samples = whole at second
      induction second with
      | none _ => exact .none _
      | missed other earlier _ =>
          cases entries
          exact inductionHypothesis earlier
      | seen _ again =>
          cases entries
          exact .seen (again rfl)

theorem map (view : Value → Other) {samples history : List Value}
    (sampled : Samples samples history) : Samples (samples.map view) (history.map view) := by
  induction sampled with
  | none history => exact .none _
  | missed value _ inductionHypothesis => exact .missed _ inductionHypothesis
  | seen _ inductionHypothesis => exact .seen inductionHypothesis

/-- The oldest entry may be seen first. -/
theorem oldest {samples history : List Value} {value : Value}
    (sampled : Samples samples (history ++ [value])) :
    Samples (samples ++ [value]) (history ++ [value]) := by
  generalize entries : history ++ [value] = whole at sampled
  induction sampled generalizing history with
  | none whole =>
      rw [← entries]
      exact (Samples.seen (.none [value])).grown history
  | @missed samples whole newest earlier inductionHypothesis =>
      cases history with
      | nil =>
          cases entries
          cases earlier
          exact .seen (.none [value])
      | cons first history =>
          cases entries
          exact .missed _ (inductionHypothesis rfl)
  | seen _ inductionHypothesis => exact .seen (inductionHypothesis entries)

theorem filter (keep : Value → Bool) {samples history : List Value}
    (sampled : Samples samples history) :
    Samples (samples.filter keep) (history.filter keep) := by
  induction sampled with
  | none history => exact .none _
  | missed value _ inductionHypothesis =>
      rw [List.filter_cons]
      split
      · exact .missed value inductionHypothesis
      · exact inductionHypothesis
  | @seen samples history value _ inductionHypothesis =>
      rw [List.filter_cons] at inductionHypothesis ⊢
      rw [List.filter_cons]
      by_cases kept : keep value = true
      · rw [if_pos kept] at inductionHypothesis ⊢
        rw [if_pos kept]
        exact .seen inductionHypothesis
      · rw [if_neg kept] at inductionHypothesis ⊢
        rw [if_neg kept]
        exact inductionHypothesis

/-- Where each entry of a history stands for something, so does each sample, in the same order. -/
theorem stand {Stands : Value → Other → Prop} {samples history : List Value}
    (sampled : Samples samples history) {meaning : List Other}
    (stands : List.Forall₂ Stands history meaning) :
    ∃ chosen, Samples chosen meaning ∧ List.Forall₂ Stands samples chosen := by
  induction sampled generalizing meaning with
  | none history => exact ⟨[], .none _, .nil⟩
  | missed value _ inductionHypothesis =>
      cases stands with
      | cons _ rest =>
          obtain ⟨chosen, inOrder, each⟩ := inductionHypothesis rest
          exact ⟨chosen, .missed _ inOrder, each⟩
  | seen _ inductionHypothesis =>
      cases stands with
      | cons here rest =>
          obtain ⟨chosen, inOrder, each⟩ := inductionHypothesis (.cons here rest)
          exact ⟨_, .seen inOrder, .cons here each⟩

end Samples

end Zenbedded.Foundation
