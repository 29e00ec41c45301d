import Zenbedded.Demos.Pendulum
import Zenbedded.Transport.AccessBounds

namespace Zenbedded.Demos

open Zenbedded.Foundation Zenbedded.Transport Zenbedded.Rcl

/-! # What the watchdog guarantees

The loop's variables are what the trace says of the cycles since the counter last
changed.  With the counter's coherence this bounds how stale a velocity can be.
-/

variable {width : Nat} {size : Nat} {decode : Bytes → Option Double}
  {pendulum after : Pendulum width} {event : PendulumEvent} {trace : List PendulumEvent}

/-- What a step does to the buffer and to the loop. -/
inductive PendulumEffect (size : Nat) (decode : Bytes → Option Double)
    (pendulum after : Pendulum width) : PendulumEvent → Prop
  | writer (event : WriterEvent) (commands : System Unit width)
      (step : CommandStep size pendulum.commands (.writer event) commands)
      (readers : commands.readers = pendulum.commands.readers)
      (next : after = { pendulum with commands }) :
      PendulumEffect size decode pendulum after (.buffer (.writer event))
  | dropped (same : after = pendulum) : PendulumEffect size decode pendulum after .dropped
  | initial (starting : pendulum.loop = .starting)
      (next : after = { pendulum with
        lastCommandCount := pendulum.acceptedCommandCount, cyclesSinceCommand := 0,
        loop := .counting }) :
      PendulumEffect size decode pendulum after (.initialCount pendulum.acceptedCommandCount)
  | counts {event : PendulumEvent} (counting : pendulum.loop = .counting)
      (next : pendulum.count = (event, after)) : PendulumEffect size decode pendulum after event
  | attempts (reading : pendulum.loop = .reading) (event : ReaderEvent)
      (commands : System Unit width)
      (step : CommandStep size pendulum.commands (.reader () event) commands)
      (unfinished : ∀ bytes, event ≠ .returned (some bytes))
      (next : after = { pendulum with commands }) :
      PendulumEffect size decode pendulum after (.buffer (.reader () event))
  | reads (reading : pendulum.loop = .reading) (bytes : Bytes) (commands : System Unit width)
      (step : CommandStep size pendulum.commands (.reader () (.returned (some bytes))) commands)
      (idle : commands.readers () = .idle)
      (next : after = { pendulum with
        commands, loop := .setting
        stepperAngularVelocity := (decode bytes).getD pendulum.stepperAngularVelocity }) :
      PendulumEffect size decode pendulum after (.buffer (.reader () (.returned (some bytes))))
  | sets (setting : pendulum.loop = .setting) (next : after = { pendulum with loop := .counting }) :
      PendulumEffect size decode pendulum after (.velocitySet pendulum.stepperAngularVelocity)

theorem step_effect (step : pendulum.Step size decode event after) :
    PendulumEffect size decode pendulum after event := by
  obtain ⟨action, acted⟩ := step
  cases action with
  | callback payload =>
      simp only [Pendulum.act, Pendulum.callback] at acted
      split at acted
      · cases acted
        exact .dropped rfl
      · rename_i sized
        have sameSize : payload.length = size := Decidable.not_not.mp sized
        obtain ⟨⟨own, commands⟩, begun, result⟩ := Option.map_eq_some_iff.mp acted
        cases result
        have command : CommandStep size pendulum.commands own commands :=
          ⟨.beginWrite (.command payload), sameSize, begun⟩
        obtain ⟨⟨writerEvent, shared⟩, _, same⟩ := Option.bind_eq_some_iff.mp begun
        cases same
        exact .writer writerEvent _ command rfl rfl
  | advanceCallback =>
      obtain ⟨⟨own, commands⟩, advanced, result⟩ := Option.map_eq_some_iff.mp acted
      cases result
      have command : CommandStep size pendulum.commands own commands :=
        ⟨.advanceWriter, trivial, advanced⟩
      obtain ⟨⟨writerEvent, shared⟩, _, same⟩ := Option.bind_eq_some_iff.mp advanced
      cases same
      exact .writer writerEvent _ command rfl rfl
  | loop =>
      simp only [Pendulum.act, Pendulum.loopStep] at acted
      split at acted
      · rename_i pc
        cases acted
        exact .initial pc rfl
      · rename_i pc
        exact .counts pc (Option.some.inj acted)
      · rename_i pc
        obtain ⟨⟨own, commands⟩, advanced, result⟩ := Option.map_eq_some_iff.mp acted
        have command : CommandStep size pendulum.commands own commands :=
          ⟨.advanceReader (), trivial, advanced⟩
        obtain ⟨⟨readerEvent, next⟩, run, same⟩ := Option.bind_eq_some_iff.mp advanced
        cases same
        cases result
        cases readerEvent with
        | internal | firstLoad | secondLoad => exact .attempts pc _ _ command (by simp) rfl
        | returned answer =>
            cases answer with
            | none => exact .attempts pc _ _ command (by simp) rfl
            | some bytes =>
                have idle : next = .idle := by
                  obtain ⟨readIdx, rechecking⟩ := readerStep_true run
                  rw [rechecking] at run
                  exact (Prod.mk.inj (Option.some.inj run)).2.symm
                exact .reads pc bytes _ command (by simp [idle]) rfl
      · rename_i pc
        cases acted
        exact .sets pc rfl

/-- Whichever branch a cycle takes, it keeps what it read. -/
theorem count_spec (next : pendulum.count = (event, after)) :
    ∃ changed, event = .counted pendulum.acceptedCommandCount changed ∧
      (changed = true ↔ pendulum.acceptedCommandCount ≠ pendulum.lastCommandCount) ∧
      after.commands = pendulum.commands ∧
      after.lastCommandCount = pendulum.acceptedCommandCount ∧ after.loop ≠ .starting := by
  unfold Pendulum.count at next
  dsimp only at next
  split at next
  · rename_i differs
    cases next
    exact ⟨true, rfl, by simp [differs], rfl, rfl, by simp⟩
  · rename_i same
    have equal : pendulum.acceptedCommandCount = pendulum.lastCommandCount :=
      Decidable.not_not.mp same
    split at next
    · cases next
      exact ⟨false, rfl, by simp [equal], rfl, equal.symm, by simp⟩
    split at next
    · cases next
      exact ⟨false, rfl, by simp [equal], rfl, equal.symm, by simp⟩
    · cases next
      exact ⟨false, rfl, by simp [equal], rfl, equal.symm, by simp⟩

def Changed (trace : List PendulumEvent) : Prop :=
  ∃ event ∈ trace, event.isChange = true

/-- The velocity that the last cycle to see a change read, or zero if there was none. -/
structure Current (decode : Bytes → Option Double) (trace : List PendulumEvent)
    (velocity : Double) : Prop where
  changed : Changed trace → velocitiesRead decode trace = [velocity]
  unchanged : ¬ Changed trace → velocity = 0

/-- The loop's variables, in terms of the cycles since the counter last changed. -/
inductive Watched (decode : Bytes → Option Double) (trace : List PendulumEvent)
    (pendulum : Pendulum width) : Prop
  | reading (pc : pendulum.loop = .reading) (changed : Changed trace)
      (none : unchangedCycles trace = 0) (unread : velocitiesRead decode trace = [])
      (cycles : pendulum.cyclesSinceCommand = 0)
  | between (pc : pendulum.loop ≠ .reading)
      (begun : pendulum.loop = .starting → unchangedCycles trace = 0)
      (cycles : pendulum.cyclesSinceCommand.toNat =
        min (unchangedCycles trace) kCommandTimeoutCycles.toNat)
      (current : unchangedCycles trace ≤ kCommandTimeoutCycles.toNat →
        Current decode trace pendulum.stepperAngularVelocity)
      (stopped : kCommandTimeoutCycles.toNat < unchangedCycles trace →
        nonzero pendulum.stepperAngularVelocity = false)

theorem Watched.start (decode : Bytes → Option Double) (slots : SlotIdx → Bytes) :
    Watched decode [] (Pendulum.start slots : Pendulum width) := by
  refine .between (by simp [Pendulum.start]) (fun _ => rfl) rfl ?_ ?_
  · intro _
    refine ⟨?_, fun _ => rfl⟩
    intro changed
    obtain ⟨event, member, _⟩ := changed
    cases member
  · intro late
    exact absurd late (Nat.not_lt_zero _)

/-- An event that the watchdog does not notice. -/
structure Silent (decode : Bytes → Option Double) (event : PendulumEvent) : Prop where
  change : event.isChange = false
  unchanged : event.isUnchanged = false
  velocity : event.velocityRead decode = none

theorem Changed.cons (event : PendulumEvent) (trace : List PendulumEvent) :
    Changed (event :: trace) ↔ event.isChange = true ∨ Changed trace := by
  simp [Changed]

theorem Silent.unchangedCycles (silent : Silent decode event) (trace : List PendulumEvent) :
    unchangedCycles (event :: trace) = Demos.unchangedCycles trace := by
  simp [Demos.unchangedCycles, since_unmarked silent.change, silent.unchanged]

theorem Silent.velocitiesRead (silent : Silent decode event) (trace : List PendulumEvent) :
    velocitiesRead decode (event :: trace) = Demos.velocitiesRead decode trace := by
  simp [Demos.velocitiesRead, since_unmarked silent.change, silent.velocity]

theorem Silent.current (silent : Silent decode event) {velocity : Double}
    (current : Current decode trace velocity) : Current decode (event :: trace) velocity := by
  obtain ⟨changed, unchanged⟩ := current
  constructor
  · rw [Changed.cons, silent.change, silent.velocitiesRead]
    simpa using changed
  · rw [Changed.cons, silent.change]
    simpa using unchanged

theorem Watched.silent (watched : Watched decode trace pendulum) (silent : Silent decode event)
    (loop : after.loop = pendulum.loop)
    (cycles : after.cyclesSinceCommand = pendulum.cyclesSinceCommand)
    (velocity : after.stepperAngularVelocity = pendulum.stepperAngularVelocity) :
    Watched decode (event :: trace) after := by
  cases watched with
  | reading pc changed none unread zero =>
      exact .reading (loop.trans pc) ((Changed.cons event trace).mpr (Or.inr changed))
        ((silent.unchangedCycles trace).trans none) ((silent.velocitiesRead trace).trans unread)
        (cycles.trans zero)
  | between pc begun counts current stopped =>
      refine .between (by rw [loop]; exact pc) ?_ ?_ ?_ ?_
      · rw [loop, silent.unchangedCycles]
        exact begun
      · rw [cycles, silent.unchangedCycles]
        exact counts
      · rw [velocity, silent.unchangedCycles]
        exact fun soon => silent.current (current soon)
      · rw [velocity, silent.unchangedCycles]
        exact stopped

theorem unchangedCycles_change (value : BitVec 32) (trace : List PendulumEvent) :
    unchangedCycles (.counted value true :: trace) = 0 := by
  rw [unchangedCycles, since_marked rfl]
  rfl

theorem unchangedCycles_same (value : BitVec 32) (trace : List PendulumEvent) :
    unchangedCycles (.counted value false :: trace) = unchangedCycles trace + 1 := by
  rw [unchangedCycles, since_unmarked rfl, List.countP_cons]
  rfl

theorem velocitiesRead_same (value : BitVec 32) (trace : List PendulumEvent) :
    velocitiesRead decode (.counted value false :: trace) = velocitiesRead decode trace := by
  rw [velocitiesRead, since_unmarked rfl, List.filterMap_cons_none rfl]
  rfl

theorem Changed.same (value : BitVec 32) (trace : List PendulumEvent) :
    Changed (.counted value false :: trace) ↔ Changed trace := by
  simp [Changed.cons, PendulumEvent.isChange]

theorem Current.same {velocity : Double} (current : Current decode trace velocity)
    (value : BitVec 32) : Current decode (.counted value false :: trace) velocity := by
  obtain ⟨changed, unchanged⟩ := current
  constructor
  · rw [Changed.same, velocitiesRead_same]
    exact changed
  · rw [Changed.same]
    exact unchanged

theorem kCommandTimeoutCycles_toNat : kCommandTimeoutCycles.toNat = 20 := by decide

/-- From the limit on a cycle counts no further, and the velocity is 0. -/
theorem Watched.timedOut {value : BitVec 32}
    (late : kCommandTimeoutCycles.toNat ≤ unchangedCycles trace)
    (cycles : after.cyclesSinceCommand.toNat =
      min (unchangedCycles trace) kCommandTimeoutCycles.toNat)
    (setting : after.loop = .setting) (stopped : nonzero after.stepperAngularVelocity = false) :
    Watched decode (.counted value false :: trace) after := by
  refine .between (by simp [setting]) (by simp [setting]) ?_ ?_ (fun _ => stopped)
  · rw [unchangedCycles_same]
    exact cycles.trans (by omega)
  · rw [unchangedCycles_same]
    intro soon
    omega

theorem Watched.counts (watched : Watched decode trace pendulum)
    (counting : pendulum.loop = .counting) (next : pendulum.count = (event, after)) :
    Watched decode (event :: trace) after := by
  cases watched with
  | reading pc =>
      rw [counting] at pc
      cases pc
  | between pc begun counts current stopped =>
      unfold Pendulum.count at next
      dsimp only at next
      split at next
      · cases next
        refine .reading rfl ((Changed.cons _ _).mpr (Or.inl rfl)) (unchangedCycles_change _ _) ?_ rfl
        rw [velocitiesRead, since_marked rfl]
        rfl
      split at next
      · rename_i early
        cases next
        rw [BitVec.lt_def, counts] at early
        have soon : unchangedCycles trace < kCommandTimeoutCycles.toNat := by omega
        refine .between (by simp) (by simp) ?_ ?_ ?_
        · rw [unchangedCycles_same, BitVec.toNat_add, counts]
          rw [kCommandTimeoutCycles_toNat] at soon ⊢
          have one : (1 : BitVec 32).toNat = 1 := rfl
          omega
        · intro _
          exact (current (by omega)).same _
        · rw [unchangedCycles_same]
          intro late
          omega
      · rename_i late
        rw [BitVec.lt_def, counts] at late
        have timedOut : kCommandTimeoutCycles.toNat ≤ unchangedCycles trace := by omega
        split at next
        · cases next
          exact .timedOut timedOut counts rfl rfl
        · rename_i still
          cases next
          exact .timedOut timedOut counts rfl (by simpa using still)

theorem Watched.reads (watched : Watched decode trace pendulum) (reading : pendulum.loop = .reading)
    {bytes : Bytes} {velocity : Double} (decoded : decode bytes = some velocity)
    (loop : after.loop = .setting) (cycles : after.cyclesSinceCommand = pendulum.cyclesSinceCommand)
    (taken : after.stepperAngularVelocity = velocity) :
    Watched decode (.buffer (.reader () (.returned (some bytes))) :: trace) after := by
  cases watched with
  | between pc => exact absurd reading pc
  | reading pc changed none unread zero =>
      have same : unchangedCycles (.buffer (.reader () (.returned (some bytes))) :: trace) = 0 := by
        rw [unchangedCycles, since_unmarked rfl, List.countP_cons_of_neg (by simp
          [PendulumEvent.isUnchanged])]
        exact none
      have read : velocitiesRead decode (.buffer (.reader () (.returned (some bytes))) :: trace) =
          [velocity] := by
        have here : PendulumEvent.velocityRead decode
            (.buffer (.reader () (.returned (some bytes)))) = some velocity := decoded
        rw [velocitiesRead, since_unmarked rfl, List.filterMap_cons_some here]
        exact congrArg (velocity :: ·) unread
      refine .between (by simp [loop]) (by simp [loop]) ?_ ?_ ?_
      · rw [same, cycles, zero]
        rfl
      · intro _
        refine ⟨fun _ => by rw [read, taken], fun never => absurd ?_ never⟩
        exact (Changed.cons _ _).mpr (Or.inr changed)
      · rw [same]
        intro late
        exact absurd late (Nat.not_lt_zero _)

theorem Watched.step (watched : Watched decode trace pendulum)
    (effect : PendulumEffect size decode pendulum after event)
    (decodes : ∀ bytes commands, pendulum.commands.Step size
      (.reader () (.returned (some bytes))) commands → (decode bytes).isSome) :
    Watched decode (event :: trace) after := by
  cases effect with
  | writer event commands step readers next =>
      rw [next]
      exact watched.silent ⟨rfl, rfl, rfl⟩ rfl rfl rfl
  | dropped same =>
      rw [same]
      exact watched.silent ⟨rfl, rfl, rfl⟩ rfl rfl rfl
  | initial starting next =>
      have silent : Silent decode (.initialCount pendulum.acceptedCommandCount) := ⟨rfl, rfl, rfl⟩
      cases watched with
      | reading pc =>
          rw [starting] at pc
          cases pc
      | between pc begun cycles current stopped =>
          have none := (silent.unchangedCycles trace).trans (begun starting)
          rw [next]
          refine .between (by simp) (fun _ => none) ?_ ?_ ?_
          · rw [none]
            rfl
          · intro _
            exact silent.current (current (by rw [begun starting]; exact Nat.zero_le _))
          · rw [none]
            intro late
            exact absurd late (Nat.not_lt_zero _)
  | counts counting next => exact watched.counts counting next
  | attempts reading event commands step unfinished next =>
      have silent : Silent decode (.buffer (.reader () event)) := by
        refine ⟨rfl, rfl, ?_⟩
        cases event with
        | internal | firstLoad | secondLoad => rfl
        | returned answer =>
            cases answer with
            | none => rfl
            | some bytes => exact absurd rfl (unfinished bytes)
      rw [next]
      exact watched.silent silent rfl rfl rfl
  | reads reading bytes commands step idle next =>
      obtain ⟨velocity, decoded⟩ := Option.isSome_iff_exists.mp (decodes bytes commands step.step)
      rw [next]
      exact watched.reads reading decoded rfl rfl (by rw [decoded, Option.getD_some])
  | sets setting next =>
      cases watched with
      | reading pc =>
          rw [setting] at pc
          cases pc
      | between pc begun cycles current stopped =>
          have silent : Silent decode (.velocitySet pendulum.stepperAngularVelocity) :=
            ⟨rfl, rfl, rfl⟩
          rw [next]
          refine .between (by simp) (by simp) ?_ ?_ ?_
          · rw [silent.unchangedCycles]
            exact cycles
          · rw [silent.unchangedCycles]
            exact fun soon => silent.current (current soon)
          · rw [silent.unchangedCycles]
            exact stopped

theorem bufferTrace_append (newer older : List PendulumEvent) :
    bufferTrace (newer ++ older) = bufferTrace newer ++ bufferTrace older :=
  List.filterMap_append

theorem PendulumEffect.commands (effect : PendulumEffect size decode pendulum after event) :
    Reaches (CommandStep size) pendulum.commands (bufferTrace [event]) after.commands := by
  cases effect with
  | writer event commands step readers next =>
      rw [next]
      exact Reaches.start.step step
  | dropped same =>
      rw [same]
      exact .start
  | initial starting next =>
      rw [next]
      exact .start
  | counts counting next =>
      obtain ⟨changed, rfl, flag, commands, last, loop⟩ := count_spec next
      rw [commands]
      exact .start
  | attempts reading event commands step unfinished next =>
      rw [next]
      exact Reaches.start.step step
  | reads reading bytes commands step idle next =>
      rw [next]
      exact Reaches.start.step step
  | sets setting next =>
      rw [next]
      exact .start

/-- The value of the last read of the counter. -/
def lastCount (trace : List PendulumEvent) : Option (BitVec 32) :=
  trace.findSome? PendulumEvent.count

/-- Outside `reading` no read is under way, and the loop remembers the last count. -/
structure LoopInvariant (trace : List PendulumEvent) (pendulum : Pendulum width) : Prop where
  idle : pendulum.loop ≠ .reading → pendulum.commands.readers () = .idle
  last : lastCount trace = if pendulum.loop = .starting then none else some pendulum.lastCommandCount

theorem LoopInvariant.step (invariant : LoopInvariant trace pendulum)
    (effect : PendulumEffect size decode pendulum after event) :
    LoopInvariant (event :: trace) after := by
  obtain ⟨idle, last⟩ := invariant
  cases effect with
  | writer event commands step readers next =>
      rw [next]
      exact ⟨fun elsewhere => by rw [readers]; exact idle elsewhere, last⟩
  | dropped same =>
      rw [same]
      exact ⟨idle, last⟩
  | initial starting next =>
      rw [next]
      refine ⟨fun _ => idle (by simp [starting]), ?_⟩
      rw [if_neg (by simp)]
      rfl
  | counts counting next =>
      obtain ⟨changed, rfl, flag, commands, count, loop⟩ := count_spec next
      refine ⟨fun _ => by rw [commands]; exact idle (by simp [counting]), ?_⟩
      rw [if_neg loop, count]
      rfl
  | attempts reading event commands step unfinished next =>
      rw [next]
      exact ⟨fun elsewhere => absurd reading elsewhere, last⟩
  | reads reading bytes commands step done next =>
      rw [next]
      refine ⟨fun _ => done, ?_⟩
      rw [reading] at last
      exact last
  | sets setting next =>
      rw [next]
      refine ⟨fun _ => idle (by simp [setting]), ?_⟩
      rw [setting] at last
      exact last

theorem LoopInvariant.reaches {slots : SlotIdx → Bytes}
    (reaches : Reaches (Pendulum.Step size decode) (Pendulum.start slots) trace pendulum) :
    LoopInvariant trace pendulum :=
  reaches.invariant LoopInvariant ⟨fun _ => rfl, rfl⟩
    fun _ _ _ _ invariant taken => invariant.step (step_effect taken)

theorem commands_reaches (reaches : Reaches (Pendulum.Step size decode) pendulum trace after) :
    Reaches (CommandStep size) pendulum.commands (bufferTrace trace) after.commands := by
  induction reaches with
  | start => exact .start
  | @step trace middle event after _ taken inductionHypothesis =>
      have split : bufferTrace (event :: trace) = bufferTrace [event] ++ bufferTrace trace :=
        bufferTrace_append [event] trace
      rw [split]
      exact inductionHypothesis.trans (step_effect taken).commands

theorem Watched.reaches {slots : SlotIdx → Bytes}
    (decodes : ∀ bytes : Bytes, bytes.length = size → (decode bytes).isSome)
    (reaches : Reaches (Pendulum.Step size decode) (Pendulum.start slots) trace pendulum) :
    Watched decode trace pendulum := by
  induction reaches with
  | start => exact Watched.start decode slots
  | step before taken inductionHypothesis =>
      apply inductionHypothesis.step (step_effect taken)
      intro bytes commands returns
      have buffer := (commands_reaches before).mono fun _ _ _ step => step.step
      exact decodes bytes (read_length buffer returns)

theorem setWidth_counted (wide : 32 ≤ width) (count : Nat) :
    (BitVec.ofNat width count).setWidth 32 = BitVec.ofNat 32 count :=
  BitVec.setWidth_ofNat_of_le wide count

/-- A read of the counter returns how many commands were counted, and no other read is under way. -/
theorem counter_read {slots : SlotIdx → Bytes} (wide : 32 ≤ width)
    (reaches : Reaches (Pendulum.Step size decode) (Pendulum.start slots) trace pendulum)
    (taken : pendulum.Step size decode event after) {value : BitVec 32}
    (count : event.count = some value) :
    value = BitVec.ofNat 32 (counted (bufferTrace trace)) ∧
      after.commands.readers () = .idle := by
  have idle := (LoopInvariant.reaches reaches).idle
  have accepted : pendulum.acceptedCommandCount = BitVec.ofNat 32 (counted (bufferTrace trace)) := by
    have shown := (CounterInvariant.reaches (commands_reaches reaches)).value
    rw [Pendulum.acceptedCommandCount, shown, setWidth_counted wide]
  cases step_effect taken with
  | writer | dropped | attempts | reads | sets => cases count
  | initial starting next =>
      cases count
      rw [next]
      exact ⟨accepted, idle (by simp [starting])⟩
  | counts counting next =>
      obtain ⟨changed, rfl, flag, commands, last, loop⟩ := count_spec next
      cases count
      rw [commands]
      exact ⟨accepted, idle (by simp [counting])⟩

theorem returned_step {bytes : Bytes}
    (taken : pendulum.Step size decode (.buffer (.reader () (.returned (some bytes)))) after) :
    ∃ commands, CommandStep size pendulum.commands (.reader () (.returned (some bytes)))
      commands := by
  cases step_effect taken with
  | counts counting next =>
      obtain ⟨changed, impossible, _⟩ := count_spec next
      cases impossible
  | attempts reading event commands step => exact ⟨commands, step⟩
  | reads reading bytes commands step => exact ⟨commands, step⟩

theorem bufferTrace_count (counts : event.isCount = true) (older : List PendulumEvent) :
    bufferTrace (event :: older) = bufferTrace older := by
  cases event with
  | buffer | dropped | velocitySet => cases counts
  | initialCount | counted => rfl

/-- Fewer than `2 ^ 32` commands are counted between two reads of the counter. -/
def Paced (trace : List PendulumEvent) : Prop :=
  ∀ newer during first older, trace = newer ++ during ++ first :: older →
    first.isCount = true → (∀ event ∈ during, event.isCount = false) →
      counted (bufferTrace during) < 2 ^ 32

/-- The first contents of the buffer if no command was counted, else the last command
counted by then or a later one. -/
def ReadsCurrent (size : Nat) (slots : SlotIdx → Bytes) (older before : List PendulumEvent)
    (bytes : Bytes) : Prop :=
  (counted (bufferTrace older) = 0 ∧ bytes = (slots 0).take size) ∨
    ∃ place, counted (bufferTrace older) ≤ place + 1 ∧
      (accepted (bufferTrace before))[place]? = some bytes

theorem reads_afterCount {slots : SlotIdx → Bytes} (wide : 32 ≤ width) {during : List PendulumEvent}
    {first : PendulumEvent} {older : List PendulumEvent} {bytes : Bytes}
    (reaches : Reaches (Pendulum.Step size decode) (Pendulum.start slots)
      (.buffer (.reader () (.returned (some bytes))) :: (during ++ first :: older)) after)
    (paced : Paced (.buffer (.reader () (.returned (some bytes))) :: (during ++ first :: older)))
    (counts : first.isCount = true) :
    ReadsCurrent size slots older (during ++ first :: older) bytes := by
  have marked : ∃ event ∈ during ++ [first], event.isCount = true := ⟨first, by simp, counts⟩
  obtain ⟨quiet, last, rest, split, isLast, noCount⟩ := last_marked marked
  have whole : during ++ first :: older = quiet ++ last :: (rest ++ older) := by
    rw [← List.singleton_append, ← List.append_assoc, split]
    simp
  rw [whole] at reaches paced ⊢
  have few : counted (bufferTrace quiet) < 2 ^ 32 :=
    paced [_] quiet last (rest ++ older) rfl isLast noCount
  cases reaches with
  | step before taken =>
      obtain ⟨middle, counting, later⟩ := before.split
      cases counting with
      | step earlier counted =>
          obtain ⟨value, count⟩ := Option.isSome_iff_exists.mp isLast
          obtain ⟨_, idle⟩ := counter_read wide earlier counted count
          have first := commands_reaches (earlier.step counted)
          obtain ⟨commands, returns⟩ := returned_step taken
          have read := read_afterCount wide first idle (commands_reaches later) few returns.step
          rw [← bufferTrace_append, bufferTrace_count isLast, bufferTrace_append rest older,
            counted_append] at read
          rcases read with ⟨none, initial⟩ | ⟨place, late, found⟩
          · exact Or.inl ⟨by omega, initial⟩
          · exact Or.inr ⟨place, by omega, found⟩

theorem flips_betweenCounts {slots : SlotIdx → Bytes} (wide : 32 ≤ width)
    {during : List PendulumEvent} {first second : PendulumEvent} {older : List PendulumEvent}
    (reaches : Reaches (Pendulum.Step size decode) (Pendulum.start slots)
      (second :: (during ++ first :: older)) after)
    {value : BitVec 32} (earlier : first.count = some value) (later : second.count = some value)
    (few : counted (bufferTrace during) < 2 ^ 32) : commits (bufferTrace during) ≤ 1 := by
  have counts : first.isCount = true := Option.isSome_iff_exists.mpr ⟨value, earlier⟩
  cases reaches with
  | step before last =>
      obtain ⟨middle, counting, between⟩ := before.split
      obtain ⟨sameLater, _⟩ := counter_read wide before last later
      cases counting with
      | step started taken =>
          obtain ⟨sameEarlier, _⟩ := counter_read wide started taken earlier
          refine commits_of_sameCount (commands_reaches (started.step taken))
            (commands_reaches between) few ?_
          rw [← bufferTrace_append, ← sameLater, bufferTrace_count counts, ← sameEarlier]

theorem Paced.suffix {newer older : List PendulumEvent} (paced : Paced (newer ++ older)) :
    Paced older := by
  intro later during first earlier split
  apply paced (newer ++ later) during first earlier
  rw [split]
  simp

theorem tier2Velocity_isSome {platform : Platform}
    (cmdVal : RawValue (commandSize : platform.SizeT)) {payload : Bytes}
    (size : payload.length = (commandSize : platform.SizeT).toNat) :
    (tier2Velocity cmdVal payload).isSome := by
  have loaded : loadBytes payload 0 (commandSize : platform.SizeT).toNat = .ok payload := by
    rw [loadBytes_ok (by omega), List.drop_zero, ← size, List.take_length]
  rw [tier2Velocity, RawCodec.read, if_neg (by simp), loadExact_ok loaded]
  rfl

theorem copyOut_some {platform : Platform} {buffer : Bytes} {offset count : platform.SizeT}
    (room : offset.toNat + count.toNat ≤ buffer.length) {array : List Double}
    (size : count.toNat = 8 * array.length) :
    ∃ bytes, copyOut buffer offset count (some array) =
      .ok (some (ofArrayBytes 64 array.length bytes)) := by
  have length := loadBytes_ok room
  have fits : 0 + ((buffer.drop offset.toNat).take count.toNat).length ≤
      (arrayBytes array).length := by
    rw [List.length_take, List.length_drop, arrayBytes_length]
    omega
  rw [copyOut, length]
  simp only [bind, Except.bind, storeBytes_ok fits]
  exact ⟨_, rfl⟩

theorem tier1_layout : jointCommandLayout tier1Params.frameId tier1Params.jointNames
    tier1Params.numJoints tier1Params.interfaceName = ⟨100, 116⟩ := by decide

theorem tier1Velocity_isSome {platform : Platform} {ctx : JointCommandCtx platform}
    (points : ctx.At 2 ⟨100, 116⟩) {cmd : List Double} (two : cmd.length = 2) {payload : Bytes}
    (size : payload.length = ctx.payloadSize.toNat) : (tier1Velocity ctx cmd payload).isSome := by
  obtain ⟨joints, timestamp, values, whole⟩ := points
  have array : (arraySize ctx.numJoints : platform.SizeT).toNat = 16 := by
    rw [arraySize_toNat, joints]
    rfl
  dsimp only at values whole
  obtain ⟨sec, nanosec, secLoaded, nanosecLoaded⟩ := loadStamp_within payload timestamp
    (by rw [timestamp, cdrHeaderSize]; omega) (some 0) (some 0)
  have valuesRead : ∃ bytes, copyOut payload ctx.offsetValues (arraySize ctx.numJoints) (some cmd) =
      .ok (some (ofArrayBytes 64 cmd.length bytes)) := copyOut_some (by omega) (by omega)
  obtain ⟨bytes, valuesLoaded⟩ := valuesRead
  have nonempty : ∃ first rest, ofArrayBytes 64 cmd.length bytes = first :: rest := by
    rw [two]
    exact ⟨_, _, rfl⟩
  obtain ⟨first, rest, split⟩ := nonempty
  have read : JointCommandCodec.read ctx payload ctx.payloadSize ⟨0, 0, some cmd⟩ =
      .ok (true, ⟨sec.getD 0, nanosec.getD 0, some (first :: rest)⟩) := by
    simp only [JointCommandCodec.read, zcdrDeserializeJointCommand, secLoaded, nanosecLoaded,
      valuesLoaded, split, BitVec.lt_irrefl, if_false, bind, Except.bind, pure, Except.pure]
  rw [tier1Velocity, read]
  rfl

/-- In both programs `read_command` returns true for every command that the callback accepts. -/
theorem Program.decodes {platform : Platform} (program : Program platform size decode)
    {bytes : Bytes} (whole : bytes.length = size) : (decode bytes).isSome := by
  cases program with
  | tier1 config scratchSize laidOut cmd two =>
      have points := JointCommandCodec.init_at _ (scratchSize ▸ config.cmd_modest) laidOut
      rw [tier1_layout] at points
      exact tier1Velocity_isSome points two whole
  | tier2 cmdVal => exact tier2Velocity_isSome cmdVal whole

/-- What the counter, the commands that are read and the velocities that are set show in a run. -/
structure Guarantees (size : Nat) (decode : Bytes → Option Double) (slots : SlotIdx → Bytes)
    (trace : List PendulumEvent) : Prop where
  counter : ∀ newer event older value, trace = newer ++ event :: older →
    event.count = some value → value = BitVec.ofNat 32 (counted (bufferTrace older))
  changed : ∀ newer older value changed, trace = newer ++ .counted value changed :: older →
    (changed = true ↔ lastCount older ≠ some value)
  reads : ∀ newer during first older bytes,
    trace = newer ++ .buffer (.reader () (.returned (some bytes))) :: (during ++ first :: older) →
      first.isCount = true → ReadsCurrent size slots older (during ++ first :: older) bytes
  flips : ∀ newer second during first older value,
    trace = newer ++ second :: (during ++ first :: older) → first.count = some value →
      second.count = some value → counted (bufferTrace during) < 2 ^ 32 →
        commits (bufferTrace during) ≤ 1
  velocity : ∀ newer older value, trace = newer ++ .velocitySet value :: older →
    (unchangedCycles older ≤ kCommandTimeoutCycles.toNat → Current decode older value) ∧
      (kCommandTimeoutCycles.toNat < unchangedCycles older → nonzero value = false)

theorem counted_changed {slots : SlotIdx → Bytes} {value : BitVec 32} {changed : Bool}
    (reaches : Reaches (Pendulum.Step size decode) (Pendulum.start slots) trace pendulum)
    (taken : pendulum.Step size decode (.counted value changed) after) :
    changed = true ↔ lastCount trace ≠ some value := by
  cases step_effect taken with
  | counts counting next =>
      obtain ⟨flag, same, correct, _⟩ := count_spec next
      cases same
      rw [(LoopInvariant.reaches reaches).last, if_neg (by simp [counting]), correct]
      simp [eq_comm]

theorem velocity_set {value : Double} (watched : Watched decode trace pendulum)
    (taken : pendulum.Step size decode (.velocitySet value) after) :
    (unchangedCycles trace ≤ kCommandTimeoutCycles.toNat → Current decode trace value) ∧
      (kCommandTimeoutCycles.toNat < unchangedCycles trace → nonzero value = false) := by
  cases step_effect taken with
  | counts counting next =>
      obtain ⟨changed, impossible, _⟩ := count_spec next
      cases impossible
  | sets setting next =>
      cases watched with
      | reading pc =>
          rw [setting] at pc
          cases pc
      | between pc begun cycles current stopped => exact ⟨current, stopped⟩

theorem watchdog_guarantees {platform : Platform} (program : Program platform size decode)
    (wide : 32 ≤ width) (slots : SlotIdx → Bytes) {trace : List PendulumEvent}
    {pendulum : Pendulum width}
    (reaches : Reaches (Pendulum.Step size decode) (Pendulum.start slots) trace pendulum)
    (paced : Paced trace) : Guarantees size decode slots trace := by
  refine ⟨?_, ?_, ?_, ?_, ?_⟩
  · intro newer event older value split count
    rw [split] at reaches
    obtain ⟨after, prior, _⟩ := reaches.split
    cases prior with
    | step before taken => exact (counter_read wide before taken count).1
  · intro newer older value changed split
    rw [split] at reaches
    obtain ⟨after, prior, _⟩ := reaches.split
    cases prior with
    | step before taken => exact counted_changed before taken
  · intro newer during first older bytes split counts
    rw [split] at reaches paced
    obtain ⟨after, prior, _⟩ := reaches.split
    exact reads_afterCount wide prior paced.suffix counts
  · intro newer second during first older value split earlier later few
    rw [split] at reaches
    obtain ⟨after, prior, _⟩ := reaches.split
    exact flips_betweenCounts wide prior earlier later few
  · intro newer older value split
    rw [split] at reaches
    obtain ⟨after, prior, _⟩ := reaches.split
    cases prior with
    | step before taken =>
        exact velocity_set (Watched.reaches (fun _ whole => program.decodes whole) before) taken

theorem paced_of_few (few : counted (bufferTrace trace) < 2 ^ 32) : Paced trace := by
  intro newer during first older split _ _
  rw [split, bufferTrace_append, bufferTrace_append, counted_append, counted_append] at few
  omega

def oneCommand : Bytes := [0, 0, 0, 0, 0, 0, 0, 64]

def oneCycle : List PendulumAction :=
  List.flatten [List.replicate 14 .loop, List.replicate 11 .advanceCallback,
    [.callback oneCommand], [.loop]]

def noCommand : Bytes := [0, 0, 0, 0, 0, 0, 0, 0]

def hostVelocity : Bytes → Option Double :=
  tier2Velocity (⟨noCommand, rfl⟩ : RawValue (commandSize : Platform.host64.SizeT))

def runOneCycle : Option (List PendulumEvent × Pendulum 32) :=
  perform (fun action pendulum => pendulum.act 8 hostVelocity action)
    (Pendulum.start fun _ => noCommand) oneCycle

theorem watchdog_guarantees_oneCycle : ∃ (trace : List PendulumEvent) (pendulum : Pendulum 32),
    runOneCycle = some (trace, pendulum) ∧
      trace.head? = some (.velocitySet 0x4000000000000000) ∧
      Guarantees 8 hostVelocity (fun _ => noCommand) trace := by
  obtain ⟨⟨trace, pendulum⟩, performed⟩ : ∃ result, runOneCycle = some result := ⟨_, rfl⟩
  have reaches : Reaches (Pendulum.Step 8 hostVelocity) (Pendulum.start fun _ => noCommand) trace
      pendulum := by
    refine perform_reaches ?_ performed
    intro action before event after acted
    exact ⟨action, acted⟩
  have few : counted (bufferTrace trace) < 2 ^ 32 := by
    cases performed
    decide
  have program : Program Platform.host64 8 hostVelocity := .tier2 _
  refine ⟨trace, pendulum, performed, ?_,
    watchdog_guarantees program (Nat.le_refl 32) _ reaches (paced_of_few few)⟩
  cases performed
  rfl

end Zenbedded.Demos
