import Zenbedded.Rcl.LifecycleRuns

namespace Zenbedded.Rcl

open Zenbedded.Foundation Zenbedded.Transport

/-! # The pace of the control thread

`control_thread_fn` with the clock that it reads.  Time passes anywhere between
two accesses, a publication may take as long as it likes, and a sleep ends no
earlier than asked for; `k_uptime_get_32` wraps.
-/

/-- The kernel's clock, in units that divide a millisecond. -/
structure Clock where
  unitsPerMs : Nat
  positive : 0 < unitsPerMs

namespace Clock

variable (clock : Clock)

/-- In milliseconds. -/
def uptime (time : Nat) : Nat := time / clock.unitsPerMs

def kUptimeGet32 (time : Nat) : BitVec 32 := BitVec.ofNat 32 (clock.uptime time)

theorem uptime_mono {earlier later : Nat} (order : earlier ≤ later) :
    clock.uptime earlier ≤ clock.uptime later := Nat.div_le_div_right order

theorem uptime_add (time ms : Nat) :
    clock.uptime (time + ms * clock.unitsPerMs) = clock.uptime time + ms :=
  Nat.add_mul_div_right time ms clock.positive

end Clock

/-- `MAX(1000 / control_freq_, 1)`. -/
def periodMs (controlFreq : BitVec 32) : BitVec 32 :=
  if 1 < 1000 / controlFreq then 1000 / controlFreq else 1

def sleepMs (period diff : BitVec 32) : BitVec 32 := if period ≤ diff then 1 else period - diff

inductive Pacing where
  /-- Before `prev_time` is read. -/
  | unread
  | cycling (prevTime : BitVec 32)
  /-- In `k_sleep`. -/
  | asleep (wakes : Nat)
deriving Repr, DecidableEq

/-- The locals of `control_thread_fn`. -/
structure Locals where
  periodMs : BitVec 32
  pacing : Pacing
deriving Repr, DecidableEq

/-- The next access to what is shared, if it is that one's turn at `time`; a division by zero is
undefined. -/
def Locals.access (time : Nat) (controlFreq : BitVec 32) (locals : Locals) :
    ThreadPc → Option Locals
  | .entering => if controlFreq = 0 then none else some ⟨Rcl.periodMs controlFreq, .unread⟩
  | .testing =>
      match locals.pacing with
      | .cycling _ => some locals
      | _ => none
  | .sleeping =>
      match locals.pacing with
      | .asleep wakes => if wakes ≤ time then some { locals with pacing := .unread } else none
      | _ => none
  | _ => some locals

inductive PacedEvent where
  | lifecycle (event : LifecycleEvent)
  /-- The thread reads `prev_time`. -/
  | cycle (thread : Nat)
  /-- The thread calls `k_sleep`. -/
  | sleep (thread : Nat) (ms : BitVec 32)
deriving Repr, DecidableEq

/-- The thread reads the clock, before its loop, after its sleep or for `diff`. -/
def Locals.uptime (clock : Clock) (thread time : Nat) (locals : Locals) :
    ThreadPc → Option (PacedEvent × Locals)
  | .testing =>
      match locals.pacing with
      | .unread =>
          some (.cycle thread, { locals with pacing := .cycling (clock.kUptimeGet32 time) })
      | _ => none
  | .sleeping =>
      match locals.pacing with
      | .cycling prevTime =>
          let ms := sleepMs locals.periodMs (clock.kUptimeGet32 time - prevTime)
          some (.sleep thread ms,
            { locals with pacing := .asleep (time + ms.toNat * clock.unitsPerMs) })
      | _ => none
  | _ => none

structure Timed where
  event : PacedEvent
  time : Nat
deriving Repr, DecidableEq

structure Paced (platform : Platform) (width : Nat) (Callback : Type) where
  lifecycle : Lifecycle platform width Callback
  time : Nat
  locals : Nat → Locals

inductive PacedAction (platform : Platform) where
  | application (action : LifecycleAction platform)
  | thread (thread : Nat) (payload : Bytes) (now : BitVec 64) (accepted : Bool)
  | uptime (thread : Nat)

variable {platform : Platform} {width : Nat} {Callback : Type}

namespace Paced

def start (config : Config) : Paced platform width Callback :=
  { lifecycle := Lifecycle.start config, time := 0, locals := fun _ => ⟨0, .unread⟩ }

/-- What happens at `time`, which is not before the last event. -/
def act (clock : Clock) (config : Config) (onTransportCmdCb : Callback)
    (action : PacedAction platform × Nat) (paced : Paced platform width Callback) :
    Option (Timed × Paced platform width Callback) :=
  let time := action.2
  if time < paced.time then none
  else
    match action.1 with
    | .application (.thread _ _ _ _) => none
    | .application action =>
        (paced.lifecycle.act config onTransportCmdCb action).map fun (event, lifecycle) =>
          (⟨.lifecycle event, time⟩, { paced with lifecycle, time })
    | .thread thread payload now accepted =>
        match (paced.locals thread).access time paced.lifecycle.client.controlFreq
            (paced.lifecycle.threads thread) with
        | none => none
        | some locals =>
            (controlThreadFn config thread payload now accepted paced.lifecycle).map
              fun (event, lifecycle) => (⟨.lifecycle event, time⟩,
                ⟨lifecycle, time, Function.update paced.locals thread locals⟩)
    | .uptime thread =>
        ((paced.locals thread).uptime clock thread time (paced.lifecycle.threads thread)).map
          fun (event, locals) => (⟨event, time⟩,
            { paced with time, locals := Function.update paced.locals thread locals })

def Step (clock : Clock) (config : Config) (onTransportCmdCb : Callback)
    (paced : Paced platform width Callback) (event : Timed)
    (after : Paced platform width Callback) : Prop :=
  ∃ action, paced.act clock config onTransportCmdCb action = some (event, after)

end Paced

/-- What one thread does at `time`. -/
inductive PaceStep (clock : Clock) (thread time : Nat) :
    ThreadPc → Locals → PacedEvent → ThreadPc → Locals → Prop
  | divides {locals : Locals} {controlFreq : BitVec 32} (defined : controlFreq ≠ 0) :
      PaceStep clock thread time .entering locals (.lifecycle (.divided thread controlFreq))
        .testing ⟨periodMs controlFreq, .unread⟩
  | starts {locals : Locals} (unread : locals.pacing = .unread) :
      PaceStep clock thread time .testing locals (.cycle thread) .testing
        { locals with pacing := .cycling (clock.kUptimeGet32 time) }
  | moves {pc next : ThreadPc} {locals : Locals} (runs : pc = .testing ∨ pc = .publishing)
      (cycling : pc = .testing → ∃ prevTime, locals.pacing = .cycling prevTime)
      (goes : next = .publishing ∨ next = .putting ∨ next = .sleeping ∨ next = .clearing) :
      PaceStep clock thread time pc locals (.lifecycle .internal) next locals
  | publishes {locals : Locals} :
      PaceStep clock thread time .putting locals (.lifecycle (.published thread)) .sleeping locals
  | sleeps {locals : Locals} {prevTime ms : BitVec 32} (cycling : locals.pacing = .cycling prevTime)
      (asked : ms = sleepMs locals.periodMs (clock.kUptimeGet32 time - prevTime)) :
      PaceStep clock thread time .sleeping locals (.sleep thread ms) .sleeping
        { locals with pacing := .asleep (time + ms.toNat * clock.unitsPerMs) }
  | wakes {locals : Locals} {wakes : Nat} (asleep : locals.pacing = .asleep wakes)
      (due : wakes ≤ time) :
      PaceStep clock thread time .sleeping locals (.lifecycle .internal) .testing
        { locals with pacing := .unread }
  | returns {locals : Locals} :
      PaceStep clock thread time .clearing locals (.lifecycle .internal) .returned locals

/-- An event that another thread or the application can cause. -/
def PacedEvent.Foreign (thread : Nat) : PacedEvent → Prop
  | .lifecycle (.divided other _) | .lifecycle (.published other) | .cycle other
  | .sleep other _ => other ≠ thread
  | .lifecycle _ => True

/-- A step of another thread or of the application, which can create the thread or reap it. -/
structure Elsewhere (thread : Nat) (paced : Paced platform width Callback) (event : PacedEvent)
    (after : Paced platform width Callback) : Prop where
  event : event.Foreign thread
  locals : after.locals thread = paced.locals thread
  pc : after.lifecycle.threads thread = paced.lifecycle.threads thread ∨
    after.lifecycle.threads thread = .entering ∨ after.lifecycle.threads thread = .reaped

section

variable {clock : Clock} {config : Config} {onTransportCmdCb : Callback} {thread : Nat}

theorem reaped_pc (state : Lifecycle platform width Callback) (thread : Nat) :
    Function.update state.threads state.controlThread .reaped thread = state.threads thread ∨
      Function.update state.threads state.controlThread .reaped thread = .entering ∨
      Function.update state.threads state.controlThread .reaped thread = .reaped := by
  by_cases here : thread = state.controlThread
  · rw [here]
    exact Or.inr (Or.inr (Function.update_self ..))
  · exact Or.inl (Function.update_of_ne here ..)

theorem execute_pc {joined : Bool} {statement : Statement platform}
    {rest : List (Statement platform)} {state after : Lifecycle platform width Callback}
    {event : LifecycleEvent}
    (executed : statement.execute config onTransportCmdCb joined rest state = (event, after)) :
    (PacedEvent.lifecycle event).Foreign thread ∧
      (after.threads thread = state.threads thread ∨ after.threads thread = .entering ∨
        after.threads thread = .reaped) := by
  cases statement with
  | initBase | startThread | stopThread | destroy | setPayloadSizes | transportInit
  | declarePublisher | declareSubscriber =>
      simp only [Statement.execute] at executed
      repeat' split at executed
      all_goals
        cases executed
        exact ⟨trivial, Or.inl rfl⟩
  | transportDestroy | transportDestroyed | clearHandles | setInitialized | setControlFreq
  | setRunning | setStarted | kSleep =>
      cases executed
      exact ⟨trivial, Or.inl rfl⟩
  | kThreadCreate =>
      cases executed
      refine ⟨trivial, ?_⟩
      by_cases here : thread = state.controlThread + 1
      · rw [here]
        exact Or.inr (Or.inl (Function.update_self ..))
      · exact Or.inl (Function.update_of_ne here ..)
  | kThreadJoin =>
      simp only [Statement.execute] at executed
      split at executed
      · cases executed
        exact ⟨trivial, reaped_pc state thread⟩
      · cases executed
        exact ⟨trivial, Or.inl rfl⟩
  | kThreadAbort =>
      cases executed
      exact ⟨trivial, reaped_pc state thread⟩

/-- Another thread moves. -/
theorem controlThreadFn_elsewhere {mover : Nat} {payload : Bytes} {now : BitVec 64}
    {accepted : Bool} {state after : Lifecycle platform width Callback} {event : LifecycleEvent}
    (taken : controlThreadFn config mover payload now accepted state = some (event, after))
    (other : thread ≠ mover) :
    (PacedEvent.lifecycle event).Foreign thread ∧ after.threads thread = state.threads thread := by
  have untouched (pc : ThreadPc) : Function.update state.threads mover pc thread =
      state.threads thread := Function.update_of_ne other ..
  cases pc : state.threads mover with
  | notCreated | returned | reaped => simp [controlThreadFn, pc] at taken
  | entering | putting =>
      simp only [controlThreadFn, pc] at taken
      cases taken
      exact ⟨other.symm, untouched _⟩
  | testing | publishing =>
      simp only [controlThreadFn, pc] at taken
      split at taken
      · cases taken
        exact ⟨trivial, untouched _⟩
      · cases taken
        exact ⟨trivial, untouched _⟩
  | sleeping | clearing =>
      simp only [controlThreadFn, pc] at taken
      cases taken
      exact ⟨trivial, untouched _⟩

theorem controlThreadFn_pace {payload : Bytes} {now : BitVec 64} {accepted : Bool}
    {state after : Lifecycle platform width Callback} {event : LifecycleEvent} {time : Nat}
    {locals next : Locals}
    (turn : locals.access time state.client.controlFreq (state.threads thread) = some next)
    (taken : controlThreadFn config thread payload now accepted state = some (event, after)) :
    PaceStep clock thread time (state.threads thread) locals (.lifecycle event)
      (after.threads thread) next := by
  cases pc : state.threads thread with
  | notCreated | returned | reaped => simp [controlThreadFn, pc] at taken
  | entering =>
      simp only [controlThreadFn, pc] at taken
      cases taken
      simp only [Locals.access, pc] at turn
      split at turn
      · cases turn
      · rename_i defined
        cases turn
        simpa [Lifecycle.setThread] using PaceStep.divides defined
  | testing =>
      simp only [Locals.access, pc] at turn
      split at turn
      · rename_i prevTime cycling
        cases turn
        simp only [controlThreadFn, pc] at taken
        split at taken
        · cases taken
          simpa [Lifecycle.setThread] using
            PaceStep.moves (Or.inl rfl) (fun _ => ⟨prevTime, cycling⟩) (Or.inl rfl)
        · cases taken
          have step : PaceStep clock thread time .testing locals (.lifecycle .internal) .clearing
              locals := .moves (Or.inl rfl) (fun _ => ⟨prevTime, cycling⟩) (by simp)
          simpa [Lifecycle.setThread] using step
      · cases turn
  | publishing =>
      simp only [Locals.access, pc] at turn
      cases turn
      have step {next : ThreadPc} (goes : next = .putting ∨ next = .sleeping) :
          PaceStep clock thread time .publishing locals (.lifecycle .internal) next locals :=
        .moves (Or.inr rfl) (fun testing => by cases testing) (by tauto)
      simp only [controlThreadFn, pc] at taken
      split at taken
      · cases taken
        simpa [Lifecycle.setThread] using step (Or.inl rfl)
      · cases taken
        simpa [Lifecycle.setThread] using step (Or.inr rfl)
  | putting =>
      simp only [Locals.access, pc] at turn
      cases turn
      simp only [controlThreadFn, pc] at taken
      cases taken
      simpa [Lifecycle.setThread] using PaceStep.publishes
  | sleeping =>
      simp only [Locals.access, pc] at turn
      split at turn
      · rename_i wakes asleep
        split at turn
        · rename_i due
          cases turn
          simp only [controlThreadFn, pc] at taken
          cases taken
          simpa [Lifecycle.setThread] using PaceStep.wakes asleep due
        · cases turn
      · cases turn
  | clearing =>
      simp only [Locals.access, pc] at turn
      cases turn
      simp only [controlThreadFn, pc] at taken
      cases taken
      simpa [Lifecycle.setThread] using PaceStep.returns

theorem uptime_pace {time : Nat} {pc : ThreadPc} {locals next : Locals} {event : PacedEvent}
    (read : locals.uptime clock thread time pc = some (event, next)) :
    PaceStep clock thread time pc locals event pc next := by
  unfold Locals.uptime at read
  split at read
  · split at read
    · rename_i unread
      cases read
      exact .starts unread
    · cases read
  · split at read
    · rename_i prevTime cycling
      cases read
      exact .sleeps cycling rfl
    · cases read
  · cases read

theorem uptime_foreign {time mover : Nat} {pc : ThreadPc} {locals next : Locals}
    {event : PacedEvent} (read : locals.uptime clock mover time pc = some (event, next))
    (other : thread ≠ mover) : event.Foreign thread := by
  unfold Locals.uptime at read
  split at read
  · split at read
    · cases read
      exact other.symm
    · cases read
  · split at read
    · cases read
      exact other.symm
    · cases read
  · cases read

theorem uptime_clock {mover time : Nat} {pc : ThreadPc} {locals next : Locals}
    (event : LifecycleEvent) :
    locals.uptime clock mover time pc ≠ some (.lifecycle event, next) := by
  unfold Locals.uptime
  intro read
  split at read
  · split at read <;> cases read
  · split at read <;> cases read
  · cases read

/-- A step of the system is one of the thread's or happens elsewhere. -/
theorem paced_step (thread : Nat) {paced after : Paced platform width Callback} {event : Timed}
    (step : paced.Step clock config onTransportCmdCb event after) :
    paced.time ≤ event.time ∧ after.time = event.time ∧
      (Elsewhere thread paced event.event after ∨
        PaceStep clock thread event.time (paced.lifecycle.threads thread) (paced.locals thread)
          event.event (after.lifecycle.threads thread) (after.locals thread)) := by
  obtain ⟨⟨action, time⟩, acted⟩ := step
  simp only [Paced.act] at acted
  split at acted
  · cases acted
  rename_i order
  have later : paced.time ≤ time := Nat.not_lt.mp order
  split at acted
  · cases acted
  · rename_i action application
    obtain ⟨⟨event, lifecycle⟩, moved, result⟩ := Option.map_eq_some_iff.mp acted
    cases result
    refine ⟨later, rfl, Or.inl ?_⟩
    unfold Lifecycle.act at moved
    split at moved
    · cases moved
      exact ⟨trivial, rfl, Or.inl rfl⟩
    · obtain ⟨foreign, pc⟩ := execute_pc (Option.some.inj moved)
      exact ⟨foreign, rfl, pc⟩
    · exact (application _ _ _ _ rfl).elim
    · cases moved
  · rename_i mover payload now accepted
    split at acted
    · cases acted
    · rename_i locals turn
      obtain ⟨⟨event, lifecycle⟩, moved, result⟩ := Option.map_eq_some_iff.mp acted
      cases result
      refine ⟨later, rfl, ?_⟩
      by_cases own : thread = mover
      · subst own
        refine Or.inr ?_
        simpa using controlThreadFn_pace turn moved
      · obtain ⟨foreign, pc⟩ := controlThreadFn_elsewhere moved own
        exact Or.inl ⟨foreign, Function.update_of_ne own .., Or.inl pc⟩
  · rename_i mover
    obtain ⟨⟨event, locals⟩, read, result⟩ := Option.map_eq_some_iff.mp acted
    cases result
    refine ⟨later, rfl, ?_⟩
    by_cases own : thread = mover
    · subst own
      refine Or.inr ?_
      simpa using uptime_pace read
    · exact Or.inl ⟨uptime_foreign read own, Function.update_of_ne own .., Or.inl rfl⟩

end

/-- The run without its clock. -/
def lifecycleTrace (trace : List Timed) : List LifecycleEvent :=
  trace.filterMap fun timed =>
    match timed.event with
    | .lifecycle event => some event
    | .cycle _ | .sleep _ _ => none

/-- The clock allows no step that the client and its thread could not take. -/
theorem paced_lifecycle {clock : Clock} {config : Config} {onTransportCmdCb : Callback}
    {trace : List Timed} {paced : Paced platform width Callback}
    (reaches : Reaches (Paced.Step clock config onTransportCmdCb) (Paced.start config) trace
      paced) :
    Reaches (LifecycleStep config onTransportCmdCb) (Lifecycle.start config)
      (lifecycleTrace trace) paced.lifecycle := by
  induction reaches with
  | start => exact .start
  | step _ step inductionHypothesis =>
      obtain ⟨⟨action, time⟩, acted⟩ := step
      simp only [Paced.act] at acted
      split at acted
      · cases acted
      split at acted
      · cases acted
      · obtain ⟨⟨event, lifecycle⟩, moved, result⟩ := Option.map_eq_some_iff.mp acted
        cases result
        exact inductionHypothesis.step (Lifecycle.act_step moved)
      · split at acted
        · cases acted
        · obtain ⟨⟨event, lifecycle⟩, moved, result⟩ := Option.map_eq_some_iff.mp acted
          cases result
          exact inductionHypothesis.step (.thread _ _ _ _ moved)
      · rename_i mover
        obtain ⟨⟨event, locals⟩, read, result⟩ := Option.map_eq_some_iff.mp acted
        cases result
        cases event with
        | lifecycle event => exact absurd read (uptime_clock _)
        | cycle | sleep => exact inductionHypothesis

end Zenbedded.Rcl
