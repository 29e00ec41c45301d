import Zenbedded.Foundation.LayoutPass

namespace Zenbedded.Foundation

/-! # Which bytes an access touches

A span is a range of indices.  Stores leave every byte outside their span alone,
and the spans that one layout pass stores to or skips over never overlap.
-/

structure Span where
  start : Nat
  size : Nat
deriving Repr, DecidableEq

namespace Span

def stop (span : Span) : Nat := span.start + span.size

def Contains (span : Span) (index : Nat) : Prop := span.start ≤ index ∧ index < span.stop

def Disjoint (first second : Span) : Prop :=
  first.stop ≤ second.start ∨ second.stop ≤ first.start

theorem Disjoint.symm {first second : Span} (apart : first.Disjoint second) :
    second.Disjoint first := Or.symm apart

theorem Disjoint.not_contains {first second : Span} (apart : first.Disjoint second) {index : Nat}
    (inside : first.Contains index) : ¬ second.Contains index := by
  intro both
  obtain ⟨lower, upper⟩ := inside
  obtain ⟨otherLower, otherUpper⟩ := both
  rcases apart with before | behind
  · omega
  · omega

end Span

theorem overwrite_getElem?_of_outside {buffer source : Bytes} {start index : Nat}
    (room : start + source.length ≤ buffer.length)
    (outside : ¬ (⟨start, source.length⟩ : Span).Contains index) :
    (overwrite buffer start source)[index]? = buffer[index]? := by
  have front : (buffer.take start).length = start := by
    rw [List.length_take]
    omega
  rw [overwrite]
  rcases Nat.lt_or_ge index start with before | behind
  · rw [List.append_assoc, List.getElem?_append_left (by omega), List.getElem?_take_of_lt before]
  · have beyond : start + source.length ≤ index := by
      refine Nat.not_lt.mp fun below => outside ⟨behind, below⟩
    rw [List.getElem?_append_right (by rw [List.length_append]; omega), List.getElem?_drop,
      List.length_append, front]
    congr 1
    omega

theorem storeBytes_frame {buffer source after : Bytes} {start index : Nat}
    (stored : storeBytes buffer start source = .ok after)
    (outside : ¬ (⟨start, source.length⟩ : Span).Contains index) :
    after[index]? = buffer[index]? := by
  cases source with
  | nil =>
      cases stored
      rfl
  | cons byte rest =>
      have room := storeBytes_room (List.cons_ne_nil byte rest) stored
      rw [storeBytes_result stored]
      exact overwrite_getElem?_of_outside room outside

theorem storeBytes_ne_load {buffer source : Bytes} {start index size : Nat} :
    storeBytes buffer start source ≠ .error (.load index size) := by
  induction source generalizing buffer start with
  | nil => exact fun failed => by contradiction
  | cons byte rest inductionHypothesis =>
      intro failed
      by_cases inside : start < buffer.length
      · rw [storeBytes, storeByte, if_pos inside] at failed
        exact inductionHypothesis failed
      · rw [storeBytes, storeByte, if_neg inside] at failed
        cases failed

namespace Layout

variable {width : Nat}

/-- What the operation stores to. -/
def Op.stored (origin position : Nat) : Op width → List Span
  | .put source => [⟨origin + position, source.length⟩]
  | .align _ => []
  | .skip _ => []

/-- What the operation leaves for later stores. -/
def Op.skipped (origin position : Nat) : Op width → List Span
  | .put _ => []
  | .align _ => []
  | .skip count => [⟨origin + position, count.toNat⟩]

def stored (origin : Nat) : List (Op width) → Nat → List Span
  | [], _ => []
  | op :: rest, position => op.stored origin position ++ stored origin rest (op.next position)

def skipped (origin : Nat) : List (Op width) → Nat → List Span
  | [], _ => []
  | op :: rest, position => op.skipped origin position ++ skipped origin rest (op.next position)

theorem skipped_append (origin : Nat) (first second : List (Op width)) (position : Nat) :
    skipped origin (first ++ second) position =
      skipped origin first position ++ skipped origin second (endsAt first position) := by
  induction first generalizing position with
  | nil => rfl
  | cons op rest inductionHypothesis =>
      simp only [List.cons_append, skipped, endsAt, inductionHypothesis, List.append_assoc]

/-- Between the cursor before and the cursor behind. -/
theorem Op.span_within {origin position : Nat} {op : Op width} {span : Span}
    (member : span ∈ op.stored origin position ++ op.skipped origin position) :
    origin + position ≤ span.start ∧ span.stop ≤ origin + op.next position := by
  cases op with
  | put source =>
      cases List.mem_singleton.mp member
      exact ⟨Nat.le_refl _, Nat.le_of_eq (Nat.add_assoc _ _ _)⟩
  | align shift => cases member
  | skip count =>
      cases List.mem_singleton.mp member
      exact ⟨Nat.le_refl _, Nat.le_of_eq (Nat.add_assoc _ _ _)⟩

theorem span_within {origin position : Nat} {ops : List (Op width)} {span : Span}
    (member : span ∈ stored origin ops position ++ skipped origin ops position) :
    origin + position ≤ span.start ∧ span.stop ≤ origin + endsAt ops position := by
  induction ops generalizing position with
  | nil => cases member
  | cons op rest inductionHypothesis =>
      have split : span ∈ op.stored origin position ++ op.skipped origin position ∨
          span ∈ stored origin rest (op.next position) ++ skipped origin rest (op.next position) := by
        simp only [stored, skipped, List.mem_append] at member ⊢
        tauto
      have grows := op.next_ge position
      have ends := endsAt_ge rest (op.next position)
      rw [endsAt]
      rcases split with here | later
      · obtain ⟨lower, upper⟩ := Op.span_within here
        exact ⟨lower, by omega⟩
      · obtain ⟨lower, upper⟩ := inductionHypothesis later
        exact ⟨by omega, upper⟩

/-- Everything that a pass stores to or skips over is apart. -/
theorem spans_disjoint (origin : Nat) (ops : List (Op width)) (position : Nat) :
    (stored origin ops position ++ skipped origin ops position).Pairwise Span.Disjoint := by
  induction ops generalizing position with
  | nil => exact List.Pairwise.nil
  | cons op rest inductionHypothesis =>
      have later := inductionHypothesis (op.next position)
      have behind : ∀ span ∈ stored origin rest (op.next position) ++
          skipped origin rest (op.next position), origin + op.next position ≤ span.start :=
        fun span member => (span_within member).1
      cases op with
      | put source =>
          refine List.Pairwise.cons ?_ later
          intro span member
          exact Or.inl (Nat.le_trans (Nat.le_of_eq (Nat.add_assoc _ _ _)) (behind span member))
      | align shift => exact later
      | skip count =>
          refine (List.pairwise_middle Span.Disjoint.symm).mpr (List.Pairwise.cons ?_ later)
          intro span member
          exact Or.inl (Nat.le_trans (Nat.le_of_eq (Nat.add_assoc _ _ _)) (behind span member))

/-- A pass changes only what it stores to. -/
theorem exec_frame {origin position : Nat} {ops : List (Op width)} {out after : Out width}
    (start : out.cursor.toNat = origin + position)
    (bounded : origin + endsAt ops position < 2 ^ width) (run : exec origin ops out = .ok after)
    {index : Nat} (outside : ∀ span ∈ stored origin ops position, ¬ span.Contains index) :
    after.buffer[index]? = out.buffer[index]? := by
  induction ops generalizing out position with
  | nil =>
      cases run
      rfl
  | cons op rest inductionHypothesis =>
      obtain ⟨next, first, remaining⟩ := bind_ok_iff.mp run
      have ends := endsAt_ge rest (op.next position)
      rw [endsAt] at bounded
      have cursor := Op.exec_cursor start (by omega) first
      rw [inductionHypothesis cursor bounded remaining fun span member =>
        outside span (List.mem_append_right _ member)]
      cases op with
      | put source =>
          simp only [Op.exec, Except.map] at first
          split at first
          · contradiction
          · rename_i buffer kept
            cases first
            rw [start] at kept
            exact storeBytes_frame kept
              (outside _ (List.mem_append_left _ (List.mem_singleton_self _)))
      | align shift =>
          cases first
          rfl
      | skip count =>
          cases first
          rfl

end Layout

end Zenbedded.Foundation
