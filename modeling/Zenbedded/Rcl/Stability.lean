import Zenbedded.Rcl.Interleaving

namespace Zenbedded.Rcl

open Zenbedded.Foundation

/-! # What the writer leaves alone

Abstractly the buffer is a pair of byte strings: a commit patches the back one
and swaps.  The writer's invariant says that the slots are this pair up to the
stores still pending.  For a slot that somebody reads, increments of its version
are counted against commits, and stores are confined to times when it is not
stable.
-/

variable {Reader : Type} {width : Nat}

/-- What readers see, and what the next write patches. -/
structure Contents where
  front : Bytes
  back : Bytes
deriving Repr, DecidableEq

def Contents.commit (contents : Contents) (write : Write) : Contents :=
  { front := write.apply contents.back, back := contents.front }

def WriterEvent.effect : WriterEvent → Contents → Contents
  | .commit write, contents => contents.commit write
  | _, contents => contents

def Event.effect : Event Reader → Contents → Contents
  | .writer event, contents => event.effect contents
  | .reader _ _, contents => contents

/-- The contents after the commits of a trace. -/
def contentsAfter (start : Contents) (trace : List (Event Reader)) : Contents :=
  trace.foldr Event.effect start

def initialContents (slots : SlotIdx → Bytes) : Contents := ⟨slots 0, slots 1⟩

theorem patch_memcpyStores {buffer source : Bytes} {index : Nat}
    (room : index + source.length ≤ buffer.length) :
    patch (memcpyStores index source) buffer = overwrite buffer index source := by
  induction source generalizing buffer index with
  | nil => simp [memcpyStores, patch]
  | cons byte rest inductionHypothesis =>
      simp only [List.length_cons] at room
      have stored := @inductionHypothesis (buffer.set index byte) (index + 1)
        (by simp only [List.length_set]; omega)
      rw [overwrite_set byte (by omega)] at stored
      exact stored

theorem patch_length (stores : List ByteStore) (bytes : Bytes) :
    (patch stores bytes).length = bytes.length := by
  induction stores generalizing bytes with
  | nil => rfl
  | cons store rest inductionHypothesis =>
      exact (inductionHypothesis (bytes.set store.1 store.2)).trans List.length_set

theorem command_apply {data back : Bytes} (room : data.length ≤ back.length) :
    ((Write.command data).apply back).take data.length = data := by
  rw [Write.apply, Write.stores, patch_memcpyStores (by omega)]
  simp [overwrite]

def Event.committed : Event Reader → Option Write
  | .writer (.commit write) => some write
  | _ => none

/-- The most recent commit of a trace. -/
def lastCommit (trace : List (Event Reader)) : Option Write := trace.findSome? Event.committed

theorem contentsAfter_of_none {start : Contents} {trace : List (Event Reader)}
    (none : lastCommit trace = none) : contentsAfter start trace = start := by
  induction trace with
  | nil => rfl
  | cons event trace inductionHypothesis =>
      cases event with
      | reader reader event => exact inductionHypothesis none
      | writer event =>
          cases event with
          | commit committed => cases none
          | internal => exact inductionHypothesis none
          | increment index => exact inductionHypothesis none
          | counted => exact inductionHypothesis none

theorem front_of_lastCommit {start : Contents} {trace : List (Event Reader)} {write : Write}
    (last : lastCommit trace = some write) :
    ∃ back, (contentsAfter start trace).front = write.apply back := by
  induction trace with
  | nil => cases last
  | cons event trace inductionHypothesis =>
      cases event with
      | reader reader event => exact inductionHypothesis last
      | writer event =>
          cases event with
          | commit committed =>
              cases last
              exact ⟨_, rfl⟩
          | internal => exact inductionHypothesis last
          | increment index => exact inductionHypothesis last
          | counted => exact inductionHypothesis last

def Event.isCommit : Event Reader → Bool
  | .writer (.commit _) => true
  | _ => false

def Event.isIncrement (index : SlotIdx) : Event Reader → Bool
  | .writer (.increment other) => other = index
  | _ => false

def commits (trace : List (Event Reader)) : Nat := trace.countP Event.isCommit

def increments (index : SlotIdx) (trace : List (Event Reader)) : Nat :=
  trace.countP (Event.isIncrement index)

@[simp] theorem commits_cons (event : Event Reader) (trace : List (Event Reader)) :
    commits (event :: trace) = commits trace + if event.isCommit then 1 else 0 :=
  List.countP_cons ..

@[simp] theorem increments_cons (index : SlotIdx) (event : Event Reader)
    (trace : List (Event Reader)) :
    increments index (event :: trace) =
      increments index trace + if event.isIncrement index then 1 else 0 :=
  List.countP_cons ..

theorem increments_increment (index : SlotIdx) (trace : List (Event Reader)) :
    increments index (.writer (.increment index) :: trace) = increments index trace + 1 := by
  simp [Event.isIncrement]

/-- The slot that is not active, up to what the writer still has to do. -/
def WriterInvariant (contents : Contents) (shared : Shared width) : Prop :=
  shared.buffer.slots shared.buffer.activeIdx = contents.front ∧
    match shared.writer with
    | .idle | .counting =>
        shared.buffer.slots (otherSlot shared.buffer.activeIdx) = contents.back
    | .storing target write pending =>
        target = otherSlot shared.buffer.activeIdx ∧
          patch pending (shared.buffer.slots target) = write.apply contents.back
    | .committing target write =>
        target = otherSlot shared.buffer.activeIdx ∧
          shared.buffer.slots target = write.apply contents.back

theorem WriterInvariant.step {contents : Contents} {shared after : Shared width}
    {event : WriterEvent} (holds : WriterInvariant contents shared)
    (step : WriterStep shared event after) :
    WriterInvariant (event.effect contents) after := by
  obtain ⟨front, back⟩ := holds
  cases step with
  | begins write idle =>
      rw [idle] at back
      exact ⟨front, rfl, by rw [back]; rfl⟩
  | @stores target write position byte pending storing =>
      rw [storing] at back
      obtain ⟨isOther, patched⟩ := back
      refine ⟨?_, isOther, ?_⟩
      · have apart : shared.buffer.activeIdx ≠ target := by
          rw [isOther]
          exact (otherSlot_ne _).symm
        exact (DoubleBuffer.setSlot_other _ apart).trans front
      · rw [DoubleBuffer.setSlot_same]
        exact patched
  | increments stored =>
      rw [stored] at back
      exact ⟨front, back⟩
  | @commits target write committing =>
      rw [committing] at back
      obtain ⟨isOther, patched⟩ := back
      have previous : shared.buffer.slots (otherSlot target) = contents.front := by
        rw [isOther, otherSlot_otherSlot]
        exact front
      cases write with
      | command data => exact ⟨patched, previous⟩
      | state stores => exact ⟨patched, previous⟩
  | counts counting =>
      rw [counting] at back
      exact ⟨front, back⟩

/-- No store is made to the slot until another slot is committed. -/
def Stable (shared : Shared width) (index : SlotIdx) : Prop :=
  shared.buffer.activeIdx = index ∨ ∃ write, shared.writer = .committing index write

/-- Increments of the slot's version are paid for by commits, one in advance while
the slot may be written. -/
structure Paid (shared : Shared width) (index : SlotIdx) (events : List (Event Reader)) : Prop where
  stable : Stable shared index → increments index events ≤ commits events
  torn : ¬ Stable shared index → increments index events < commits events

theorem stable_iff {shared : Shared width} {index : SlotIdx}
    (writing : ∀ write, shared.writer ≠ .committing index write) :
    Stable shared index ↔ shared.buffer.activeIdx = index := by
  simp [Stable, writing]

theorem eq_other {index active : SlotIdx} (apart : active ≠ index) : index = otherSlot active := by
  revert index active
  decide

/-- While the index is about to be stored nobody stores to either slot. -/
theorem stable_of_committing {contents : Contents} {shared : Shared width}
    (holds : WriterInvariant contents shared) {target : SlotIdx} {write : Write}
    (committing : shared.writer = .committing target write) (index : SlotIdx) :
    Stable shared index := by
  obtain ⟨_, back⟩ := holds
  rw [committing] at back
  by_cases active : shared.buffer.activeIdx = index
  · exact Or.inl active
  · refine Or.inr ⟨write, ?_⟩
    rw [committing, back.1, eq_other active]

theorem Paid.quiet {shared after : Shared width} {index : SlotIdx} {events : List (Event Reader)}
    (paid : Paid shared index events) (same : Stable after index ↔ Stable shared index)
    {event : Event Reader} (noCommit : event.isCommit = false)
    (noIncrement : event.isIncrement index = false) : Paid after index (event :: events) := by
  constructor
  · intro stable
    simpa [noCommit, noIncrement] using paid.stable (same.mp stable)
  · intro torn
    simpa [noCommit, noIncrement] using paid.torn (fun stable => torn (same.mpr stable))

theorem Paid.writer {shared after : Shared width} {event : WriterEvent} {contents : Contents}
    (holds : WriterInvariant contents shared) (step : WriterStep shared event after)
    {index : SlotIdx} {events : List (Event Reader)} (paid : Paid shared index events) :
    Paid after index (.writer event :: events) := by
  have back := holds.2
  cases step with
  | begins write idle =>
      refine paid.quiet ?_ rfl rfl
      rw [stable_iff (by simp), stable_iff (by simp [idle])]
  | stores storing =>
      refine paid.quiet ?_ rfl rfl
      rw [stable_iff (by simp), stable_iff (by simp [storing])]
      rfl
  | @increments target write stored =>
      rw [stored] at back
      have settled := stable_of_committing (holds.step (.increments stored)) rfl index
      refine ⟨fun _ => ?_, fun torn => absurd settled torn⟩
      by_cases active : shared.buffer.activeIdx = index
      · have apart : target ≠ index := by
          rw [back.1, ← active]
          exact otherSlot_ne _
        have before := paid.stable (Or.inl active)
        simpa [Event.isCommit, Event.isIncrement, apart] using before
      · have here : target = index := back.1.trans (eq_other active).symm
        have before := paid.torn (by rw [stable_iff (by simp [stored])]; exact active)
        rw [here, increments_increment]
        exact before
  | @commits target write committing =>
      have before := paid.stable (stable_of_committing holds committing index)
      have more : increments index (.writer (.commit write) :: events) <
          commits (.writer (.commit write) :: events) := by
        simp only [increments_cons, commits_cons, Event.isCommit, Event.isIncrement]
        simpa using Nat.lt_succ_of_le before
      exact ⟨fun _ => Nat.le_of_lt more, fun _ => more⟩
  | counts counting =>
      refine paid.quiet ?_ rfl rfl
      rw [stable_iff (by simp), stable_iff (by simp [counting])]

/-- The version has moved by the increments since it was loaded, which was when
`earlier` of them had been made. -/
structure Tracks (shared : Shared width) (index : SlotIdx) (verBefore : BitVec width)
    (earlier : Nat) (events : List (Event Reader)) : Prop where
  past : earlier ≤ increments index events
  version : shared.buffer.version index =
    verBefore + BitVec.ofNat width (increments index events - earlier)

theorem Tracks.quiet {shared after : Shared width} {index : SlotIdx} {verBefore : BitVec width}
    {earlier : Nat} {events : List (Event Reader)}
    (tracks : Tracks shared index verBefore earlier events)
    (same : after.buffer.version index = shared.buffer.version index) {event : Event Reader}
    (noIncrement : event.isIncrement index = false) :
    Tracks after index verBefore earlier (event :: events) := by
  have count : increments index (event :: events) = increments index events := by
    simp [noIncrement]
  exact ⟨count ▸ tracks.past, by rw [same, tracks.version, count]⟩

theorem Tracks.writer {shared after : Shared width} {event : WriterEvent}
    (step : WriterStep shared event after) {index : SlotIdx} {verBefore : BitVec width}
    {earlier : Nat} {events : List (Event Reader)}
    (tracks : Tracks shared index verBefore earlier events) :
    Tracks after index verBefore earlier (.writer event :: events) := by
  cases step with
  | begins write idle =>
      apply tracks.quiet
      · rfl
      · rfl
  | stores storing =>
      apply tracks.quiet
      · rfl
      · rfl
  | @increments target write stored =>
      by_cases here : target = index
      · rw [here]
        have past := tracks.past
        have moved : (shared.buffer.incVersion index).version index =
            shared.buffer.version index + 1 := Function.update_self ..
        constructor
        · rw [increments_increment]
          exact Nat.le_succ_of_le past
        · rw [moved, tracks.version, increments_increment, Nat.sub_add_comm past,
            BitVec.ofNat_add, BitVec.add_assoc]
          rfl
      · apply tracks.quiet (Function.update_of_ne (fun same => here same.symm) ..)
        simp [Event.isIncrement, here]
  | commits committing =>
      apply tracks.quiet
      · rfl
      · rfl
  | counts counting =>
      apply tracks.quiet
      · rfl
      · rfl

/-- Below `2 ^ width` increments an unchanged version means none at all. -/
theorem Tracks.none_of_same {shared : Shared width} {index : SlotIdx} {earlier : Nat}
    {events : List (Event Reader)}
    (tracks : Tracks shared index (shared.buffer.version index) earlier events)
    (few : increments index events < 2 ^ width) : increments index events = earlier := by
  have past := tracks.past
  have moved := tracks.version
  have zero : BitVec.ofNat width (increments index events - earlier) = 0 :=
    BitVec.add_right_eq_self.mp moved.symm
  have steps := congrArg BitVec.toNat zero
  rw [BitVec.toNat_ofNat, Nat.mod_eq_of_lt (by omega)] at steps
  have none : increments index events - earlier = 0 := by simpa using steps
  omega

/-- What has been copied is what the slot holds, unless the slot was touched since
its version was loaded. -/
def Intact (shared : Shared width) (index : SlotIdx) (earlier : Nat) (copied : Bytes)
    (events : List (Event Reader)) : Prop :=
  Stable shared index → increments index events = earlier →
    copied = (shared.buffer.slots index).take copied.length

theorem Intact.quiet {shared after : Shared width} {index : SlotIdx} {earlier : Nat}
    {copied : Bytes} {events : List (Event Reader)}
    (intact : Intact shared index earlier copied events)
    (same : Stable after index → Stable shared index ∧
      after.buffer.slots index = shared.buffer.slots index) {event : Event Reader}
    (noIncrement : event.isIncrement index = false) :
    Intact after index earlier copied (event :: events) := by
  intro stable count
  obtain ⟨before, unchanged⟩ := same stable
  rw [unchanged]
  exact intact before (by simpa [noIncrement] using count)

theorem Intact.writer {shared after : Shared width} {event : WriterEvent} {contents : Contents}
    (holds : WriterInvariant contents shared) (step : WriterStep shared event after)
    {index : SlotIdx} {earlier : Nat} {copied : Bytes} {events : List (Event Reader)}
    (past : earlier ≤ increments index events)
    (intact : Intact shared index earlier copied events) :
    Intact after index earlier copied (.writer event :: events) := by
  have back := holds.2
  cases step with
  | begins write idle =>
      refine intact.quiet ?_ rfl
      intro stable
      rw [stable_iff (by simp)] at stable
      exact ⟨Or.inl stable, rfl⟩
  | @stores target write position byte pending storing =>
      rw [storing] at back
      refine intact.quiet ?_ rfl
      intro stable
      rw [stable_iff (by simp)] at stable
      have active : shared.buffer.activeIdx = index := stable
      have apart : index ≠ target := by
        rw [back.1, active]
        exact (otherSlot_ne _).symm
      exact ⟨Or.inl active, DoubleBuffer.setSlot_other _ apart⟩
  | @increments target write stored =>
      rw [stored] at back
      by_cases here : target = index
      · intro _ count
        rw [here, increments_increment] at count
        omega
      · refine intact.quiet ?_ (by simp [Event.isIncrement, here])
        intro _
        refine ⟨Or.inl ?_, rfl⟩
        have active := eq_other here
        rw [active, back.1, otherSlot_otherSlot]
  | commits committing =>
      refine intact.quiet ?_ rfl
      intro _
      exact ⟨stable_of_committing holds committing index, rfl⟩
  | counts counting =>
      refine intact.quiet ?_ rfl
      intro stable
      rw [stable_iff (by simp)] at stable
      exact ⟨Or.inl stable, rfl⟩

end Zenbedded.Rcl
