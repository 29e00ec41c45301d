import Zenbedded.Rcl.WholePayloads

namespace Zenbedded.Rcl

open Zenbedded.Foundation

/-! # Attempts to the end

A reader whose writer rests ends its attempt, wherever it stands in it, and an
attempt that begins then returns what the active slot holds.
-/

variable {width : Nat} {size : Nat} {buffer : DoubleBuffer width}

/-- The rest of an attempt, while nobody else takes a step. -/
inductive ReadAttempt (size : Nat) (buffer : DoubleBuffer width) :
    ReaderPc width → Option Bytes → Prop
  | returns {pc : ReaderPc width} {result : Option Bytes}
      (last : readerStep size buffer pc = some (.returned result, .idle)) :
      ReadAttempt size buffer pc result
  | goesOn {pc next : ReaderPc width} {event : ReaderEvent} {result : Option Bytes}
      (step : readerStep size buffer pc = some (event, next))
      (silent : (Event.reader () event).result () = none) (rest : ReadAttempt size buffer next result) :
      ReadAttempt size buffer pc result

/-- Whether the attempt succeeds is settled by then, and what it copies. -/
theorem readAttempt_copying {readIdx : SlotIdx} (room : size ≤ (buffer.slots readIdx).length)
    (verBefore : BitVec width) (copied : Bytes) :
    ReadAttempt size buffer (.copying readIdx verBefore copied)
      (if buffer.activeIdx = readIdx ∧ buffer.version readIdx = verBefore then
        some (copied ++ ((buffer.slots readIdx).take size).drop copied.length) else none) := by
  induction missing : size - copied.length generalizing copied with
  | zero =>
      have full : ¬ copied.length < size := by omega
      have nothing : ((buffer.slots readIdx).take size).drop copied.length = [] := by
        rw [List.drop_eq_nil_iff, List.length_take]
        omega
      rw [nothing, List.append_nil]
      by_cases active : buffer.activeIdx = readIdx
      · refine @ReadAttempt.goesOn _ _ _ _ (.rechecking readIdx verBefore copied) .secondLoad _ ?_ rfl
          (.returns ?_)
        · rw [readerStep, if_neg full, if_pos active]
        · rw [readerStep]
          simp only [active, true_and]
      · rw [if_neg fun both => active both.1]
        apply ReadAttempt.returns
        rw [readerStep, if_neg full, if_neg active]
  | succ missing inductionHypothesis =>
      have short : copied.length < size := by omega
      have inside : copied.length < (buffer.slots readIdx).length := by omega
      have grown := inductionHypothesis (copied ++ [(buffer.slots readIdx)[copied.length]])
        (by rw [List.length_append, List.length_singleton]; omega)
      have same : copied ++ [(buffer.slots readIdx)[copied.length]] ++
          ((buffer.slots readIdx).take size).drop
            (copied ++ [(buffer.slots readIdx)[copied.length]]).length =
          copied ++ ((buffer.slots readIdx).take size).drop copied.length := by
        have place : copied.length < ((buffer.slots readIdx).take size).length := by
          rw [List.length_take]
          omega
        rw [List.append_assoc, List.length_append, List.length_singleton,
          List.drop_eq_getElem_cons place, List.getElem_take]
        rfl
      rw [same] at grown
      refine @ReadAttempt.goesOn _ _ _ _ _ .internal _ ?_ rfl grown
      rw [readerStep, if_pos short, List.getElem?_eq_getElem inside]

/-- An attempt ends wherever it stands. -/
theorem readAttempt_ends (room : ∀ index, size ≤ (buffer.slots index).length) (pc : ReaderPc width) :
    ∃ result, ReadAttempt size buffer pc result := by
  have loading (readIdx : SlotIdx) : ∃ result, ReadAttempt size buffer (.loadingVersion readIdx) result :=
    ⟨_, .goesOn rfl rfl (readAttempt_copying (room readIdx) _ [])⟩
  cases pc with
  | idle =>
      obtain ⟨result, rest⟩ := loading buffer.activeIdx
      exact ⟨result, .goesOn rfl rfl rest⟩
  | loadingVersion readIdx => exact loading readIdx
  | copying readIdx verBefore copied => exact ⟨_, readAttempt_copying (room readIdx) verBefore copied⟩
  | rechecking readIdx verBefore copied => exact ⟨_, .returns rfl⟩

/-- A new attempt returns the start of the active slot. -/
theorem readAttempt_fresh (room : size ≤ (buffer.slots buffer.activeIdx).length) :
    ReadAttempt size buffer .idle (some ((buffer.slots buffer.activeIdx).take size)) := by
  have copied := readAttempt_copying room (buffer.version buffer.activeIdx) []
  rw [if_pos ⟨rfl, rfl⟩, List.nil_append, List.length_nil, List.drop_zero] at copied
  exact .goesOn rfl rfl (.goesOn rfl rfl copied)

/-- The active slot holds what was committed last, also while another write is under way. -/
theorem active_newest {Reader : Type} [DecidableEq Reader] {slots : SlotIdx → Bytes}
    {trace : List (Event Reader)} {system : System Reader width}
    (reaches : Reaches (WholeStep size) (System.start slots) trace system)
    (room : ∀ index, size ≤ (slots index).length) :
    (committed trace ++ [(slots 0).take size]).head? =
      some ((system.shared.buffer.slots system.shared.buffer.activeIdx).take size) := by
  have plain := reaches.mono fun _ _ _ step => step.step
  have front := (SystemInvariant.reaches plain).writer.1
  have fronts := @fronts_committed _ _ (initialContents slots) (room 0) (room 1) _
    (OnlyWhole.reaches reaches).committed
  obtain ⟨older, head⟩ := fronts_head (initialContents slots) trace
  rw [head, List.map_cons] at fronts
  have first : (slots 0).take size = (initialContents slots).front.take size := rfl
  rw [first, ← fronts, front]
  rfl

end Zenbedded.Rcl
