import Zenbedded.Rcl.Lifecycle

namespace Zenbedded.Rcl

open Zenbedded.Foundation Zenbedded.Transport

/-! # Where a call is

`Phase` lists what can be pending, and what the shared variables then say.
-/

variable {platform : Platform} {width : Nat} {Callback : Type}

/-- Created and neither joined nor aborted. -/
def ThreadPc.outstanding : ThreadPc → Bool
  | .notCreated | .reaped => false
  | _ => true

theorem ThreadPc.outstanding_of_alive {pc : ThreadPc} (alive : pc.alive = true) :
    pc.outstanding = true := by
  cases pc with
  | notCreated | returned | reaped => contradiction
  | entering | testing | publishing | putting | sleeping | clearing => rfl

def LifecycleEvent.isDestroying : LifecycleEvent → Bool
  | .destroying => true
  | _ => false

/-- `zenbedded_transport_init` succeeded after the last call of `zenbedded_transport_destroy`. -/
def openedSince (trace : List LifecycleEvent) : Bool :=
  decide (LifecycleEvent.opened ∈ since LifecycleEvent.isDestroying trace)

def LifecycleEvent.opens (opened : Bool) : LifecycleEvent → Bool
  | .opened => true
  | .destroying => false
  | _ => opened

theorem openedSince_cons (event : LifecycleEvent) (trace : List LifecycleEvent) :
    openedSince (event :: trace) = event.opens (openedSince trace) := by
  unfold openedSince
  cases event with
  | destroying =>
      rw [since_marked rfl]
      rfl
  | opened =>
      rw [since_unmarked rfl]
      simp [LifecycleEvent.opens]
  | internal | created | reaped | divided | published =>
      rw [since_unmarked rfl]
      simp [LifecycleEvent.opens]

/-- What a call's progress depends on. -/
structure View where
  initialized : Bool
  started : Bool
  controlFreq : BitVec 32
  /-- `control_thread_` holds a thread that is neither joined nor aborted. -/
  outstanding : Bool
  opened : Bool

def Lifecycle.view (opened : Bool) (state : Lifecycle platform width Callback) : View :=
  { initialized := state.client.initialized
    started := state.client.controlThreadStarted
    controlFreq := state.client.controlFreq
    outstanding := (state.threads state.controlThread).outstanding
    opened }

/-- No control thread. -/
structure NoThread (started outstanding : Bool) : Prop where
  started : started = false
  outstanding : outstanding = false

structure SessionReady (initialized opened : Bool) : Prop where
  initialized : initialized = true
  opened : opened = true

/-- What a control thread relies on. -/
structure ThreadReady (initialized opened : Bool) (controlFreq : BitVec 32) : Prop
    extends SessionReady initialized opened where
  nonzero : controlFreq ≠ 0

namespace View

def Down (view : View) : Prop := NoThread view.started view.outstanding

def Ready (view : View) : Prop := SessionReady view.initialized view.opened

def Up (view : View) : Prop := ThreadReady view.initialized view.opened view.controlFreq

/-- Between calls. -/
structure Resting (view : View) : Prop where
  started : view.started = view.outstanding
  up : view.outstanding = true → view.Up
  opened : view.initialized = true → view.opened = true

theorem Down.resting {view : View} (down : view.Down)
    (opened : view.initialized = true → view.opened = true) : view.Resting := by
  refine ⟨down.started.trans down.outstanding.symm, ?_, opened⟩
  intro outstanding
  rw [down.outstanding] at outstanding
  contradiction

theorem Resting.down {view : View} (resting : view.Resting) (stopped : view.started = false) :
    view.Down :=
  ⟨stopped, resting.started.symm.trans stopped⟩

theorem Resting.down_of_fresh {view : View} (resting : view.Resting)
    (fresh : view.initialized = false) : view.Down := by
  have outstanding : view.outstanding = false := by
    by_contra alive
    have initialized := (resting.up (by simpa using alive)).initialized
    rw [fresh] at initialized
    contradiction
  exact ⟨resting.started.trans outstanding, outstanding⟩

end View

namespace Statement

/-- What can follow `stop_thread` in a call. -/
inductive AfterStop : List (Statement platform) → Prop
  | finished : AfterStop []
  | restart {controlFreq : BitVec 32} (nonzero : controlFreq ≠ 0) :
      AfterStop (.kSleep :: launch controlFreq)
  | teardown : AfterStop teardown

/-- The pending statements of a call, and what holds where it is. -/
inductive Phase (view : View) : List (Statement platform) → Prop
  | resting (resting : view.Resting) : Phase view []
  | calling (resting : view.Resting) (call : Call platform) : Phase view [call.statement]
  | sizing (down : view.Down) (fresh : view.initialized = false) {zenoh : ZenohOutcomes}
      {controlFreq : BitVec 32} {statePayloadSize cmdPayloadSize : platform.SizeT} :
      Phase view (.setPayloadSizes statePayloadSize cmdPayloadSize :: bringUp zenoh controlFreq)
  | opening (down : view.Down) (fresh : view.initialized = false) {zenoh : ZenohOutcomes}
      {controlFreq : BitVec 32} : Phase view (bringUp zenoh controlFreq)
  | publisher (down : view.Down) (fresh : view.initialized = false) (opened : view.opened = true)
      {zenoh : ZenohOutcomes} {controlFreq : BitVec 32} :
      Phase view (bringUp zenoh controlFreq).tail
  | subscriber (down : view.Down) (fresh : view.initialized = false) (opened : view.opened = true)
      {accepted : Bool} {controlFreq : BitVec 32} :
      Phase view [.declareSubscriber accepted, .setInitialized true, .setControlFreq controlFreq,
        .startThread controlFreq]
  | marking (down : view.Down) (opened : view.opened = true) {controlFreq : BitVec 32} :
      Phase view [.setInitialized true, .setControlFreq controlFreq, .startThread controlFreq]
  | timing (down : view.Down) (opened : view.opened = true) {controlFreq : BitVec 32} :
      Phase view [.setControlFreq controlFreq, .startThread controlFreq]
  | launching (down : view.Down) (ready : view.Ready) {controlFreq : BitVec 32}
      (nonzero : controlFreq ≠ 0) : Phase view (launch controlFreq)
  | running (down : view.Down) (up : view.Up) :
      Phase view [.setRunning true, .kThreadCreate, .setStarted true]
  | creating (down : view.Down) (up : view.Up) : Phase view [.kThreadCreate, .setStarted true]
  | launched (outstanding : view.outstanding = true) (up : view.Up) : Phase view [.setStarted true]
  | stopping (resting : view.Resting) (ready : view.Ready) {rest : List (Statement platform)}
      (following : AfterStop rest) : Phase view (.stopThread :: rest)
  | halting (up : view.Up) {rest : List (Statement platform)} (following : AfterStop rest) :
      Phase view (halt ++ rest)
  | joining (up : view.Up) {rest : List (Statement platform)} (following : AfterStop rest) :
      Phase view (.kThreadJoin :: .setStarted false :: .setControlFreq 0 :: rest)
  | aborting (up : view.Up) {rest : List (Statement platform)} (following : AfterStop rest) :
      Phase view (.kThreadAbort :: .setStarted false :: .setControlFreq 0 :: rest)
  | reaped (outstanding : view.outstanding = false) (ready : view.Ready)
      {rest : List (Statement platform)} (following : AfterStop rest) :
      Phase view (.setStarted false :: .setControlFreq 0 :: rest)
  | halted (down : view.Down) (ready : view.Ready) {rest : List (Statement platform)}
      (following : AfterStop rest) : Phase view (.setControlFreq 0 :: rest)
  | pausing (down : view.Down) (ready : view.Ready) {controlFreq : BitVec 32}
      (nonzero : controlFreq ≠ 0) : Phase view (.kSleep :: launch controlFreq)
  | tearing (down : view.Down) {statement : Statement platform} {rest : List (Statement platform)}
      (suffix : statement :: rest <:+ teardown) : Phase view (statement :: rest)

theorem AfterStop.phase {view : View} {rest : List (Statement platform)} (following : AfterStop rest)
    (down : view.Down) (ready : view.Ready) : Phase view rest := by
  cases following with
  | finished => exact .resting (down.resting fun _ => ready.opened)
  | restart nonzero => exact .pausing down ready nonzero
  | teardown => exact .tearing down (List.suffix_refl _)

/-- At any time, what an outstanding thread relies on holds. -/
theorem Phase.up {view : View} {pending : List (Statement platform)} (phase : Phase view pending)
    (outstanding : view.outstanding = true) : view.Up := by
  have absurdDown (down : view.Down) : view.Up := by
    rw [down.outstanding] at outstanding
    contradiction
  cases phase with
  | resting resting | calling resting | stopping resting => exact resting.up outstanding
  | running down up | creating down up | launched _ up | halting up | joining up | aborting up =>
      exact up
  | reaped reaped =>
      rw [reaped] at outstanding
      contradiction
  | sizing down | opening down | publisher down | subscriber down | marking down | timing down
  | launching down | halted down | pausing down | tearing down => exact absurdDown down

section

variable {config : Config} {onTransportCmdCb : Callback} {joined opened : Bool}
  {statement : Statement platform} {rest : List (Statement platform)}
  {state after : Lifecycle platform width Callback} {event : LifecycleEvent}

/-- What the first statement of a call leaves pending. -/
theorem Phase.execute_call (resting : (state.view opened).Resting) (call : Call platform)
    (executed : call.statement.execute config onTransportCmdCb joined [] state = (event, after)) :
    Phase (after.view (event.opens opened)) after.pending := by
  cases call with
  | init zenoh controlFreq statePayloadSize cmdPayloadSize =>
      simp only [Call.statement, Statement.execute] at executed
      split at executed
      · cases executed
        exact .resting resting
      · rename_i fresh
        cases executed
        have closed : (state.view opened).initialized = false := Bool.eq_false_iff.mpr fresh
        exact .sizing (resting.down_of_fresh closed) closed
  | startThread controlFreq =>
      simp only [Call.statement, Statement.execute] at executed
      split at executed
      · rename_i initialized
        have ready : (state.view opened).Ready := ⟨initialized, resting.opened initialized⟩
        split at executed
        · cases executed
          exact .resting resting
        · rename_i nonzero
          split at executed
          · cases executed
            exact .stopping resting ready (.restart nonzero)
          · rename_i stopped
            cases executed
            exact .launching (resting.down (Bool.eq_false_iff.mpr stopped)) ready nonzero
      · cases executed
        exact .resting resting
  | stopThread =>
      simp only [Call.statement, Statement.execute] at executed
      split at executed
      · rename_i started
        cases executed
        exact .halting (resting.up (resting.started.symm.trans started)) .finished
      · cases executed
        exact .resting resting
  | destroy | destructor =>
      simp only [Call.statement, Statement.execute] at executed
      split at executed
      · rename_i initialized
        cases executed
        exact .stopping resting ⟨initialized, resting.opened initialized⟩ .teardown
      · cases executed
        exact .resting resting

/-- What the checks of the payload sizes leave pending. -/
theorem Phase.execute_sizing (down : (state.view opened).Down)
    (fresh : (state.view opened).initialized = false) {zenoh : ZenohOutcomes}
    {controlFreq : BitVec 32} {statePayloadSize cmdPayloadSize : platform.SizeT}
    (executed : (Statement.setPayloadSizes statePayloadSize cmdPayloadSize).execute config
      onTransportCmdCb joined (bringUp zenoh controlFreq) state = (event, after)) :
    Phase (after.view (event.opens opened)) after.pending := by
  have fails : (state.view opened).initialized = true → (state.view opened).opened = true := by
    simp [fresh]
  simp only [Statement.execute] at executed
  split at executed
  · cases executed
    exact .resting (down.resting fails)
  · split at executed
    · cases executed
      exact .resting (down.resting fails)
    · cases executed
      exact .opening down fresh

/-- What a statement of `destroy` leaves pending, once the thread is stopped. -/
theorem Phase.execute_teardown (down : (state.view opened).Down)
    (suffix : statement :: rest <:+ teardown)
    (executed : statement.execute config onTransportCmdCb joined rest state = (event, after)) :
    Phase (after.view (event.opens opened)) after.pending := by
  simp only [teardown, List.suffix_cons_iff, List.suffix_nil, List.cons.injEq, reduceCtorEq,
    or_false] at suffix
  rcases suffix with first | second | third | fourth
  · obtain ⟨here, next⟩ := first
    subst here next
    cases executed
    refine .tearing ?_ (List.suffix_cons _ _)
    exact down
  · obtain ⟨here, next⟩ := second
    subst here next
    cases executed
    exact .tearing down ⟨[_, _], rfl⟩
  · obtain ⟨here, next⟩ := third
    subst here next
    cases executed
    exact .tearing down ⟨[_, _, _], rfl⟩
  · obtain ⟨here, next⟩ := fourth
    subst here next
    cases executed
    refine .resting (View.Down.resting down ?_)
    intro initialized
    cases initialized

/-- What a statement leaves pending. -/
theorem Phase.execute
    (phase : Phase (state.view opened) (statement :: rest))
    (executed : statement.execute config onTransportCmdCb joined rest state = (event, after)) :
    Phase (after.view (event.opens opened)) after.pending := by
  cases phase with
  | calling resting call =>
      exact execute_call resting call executed
  | sizing down fresh =>
      exact execute_sizing down fresh executed
  | opening down fresh =>
      simp only [Statement.execute] at executed
      split at executed
      · cases executed
        exact .resting (down.resting (by simp [fresh]))
      · cases executed
        refine .publisher ?_ ?_ ?_
        · exact down
        · exact fresh
        · rfl
  | publisher down fresh opened =>
      simp only [Statement.execute] at executed
      split at executed
      · cases executed
        exact .resting (down.resting fun _ => opened)
      · cases executed
        exact .subscriber down fresh opened
  | subscriber down fresh opened =>
      simp only [Statement.execute] at executed
      split at executed
      · cases executed
        exact .resting (down.resting fun _ => opened)
      · cases executed
        exact .marking down opened
  | marking down opened =>
      cases executed
      refine .timing ?_ ?_
      · exact down
      · exact opened
  | @timing down opened controlFreq =>
      cases executed
      refine .calling ?_ (.startThread controlFreq)
      exact View.Down.resting down fun _ => opened
  | launching down ready nonzero =>
      cases executed
      exact .running down ⟨ready, nonzero⟩
  | running down up =>
      cases executed
      exact .creating down up
  | creating down up =>
      cases executed
      exact .launched (by simp [Lifecycle.view, Lifecycle.setThread, ThreadPc.outstanding]) up
  | launched outstanding up =>
      cases executed
      exact .resting ⟨outstanding.symm, fun _ => up, fun _ => up.opened⟩
  | stopping resting ready following =>
      simp only [Statement.execute] at executed
      split at executed
      · rename_i started
        cases executed
        exact .halting (resting.up (resting.started.symm.trans started)) following
      · rename_i stopped
        cases executed
        exact following.phase (resting.down (Bool.eq_false_iff.mpr stopped)) ready
  | halting up following =>
      cases executed
      exact .joining up following
  | joining up following =>
      simp only [Statement.execute] at executed
      split at executed
      · cases executed
        refine .reaped ?_ ?_ following
        · simp [Lifecycle.view, Lifecycle.setThread, ThreadPc.outstanding]
        · exact up.toSessionReady
      · cases executed
        exact .aborting up following
  | aborting up following =>
      cases executed
      refine .reaped ?_ ?_ following
      · simp [Lifecycle.view, Lifecycle.setThread, ThreadPc.outstanding]
      · exact up.toSessionReady
  | reaped outstanding ready following =>
      cases executed
      refine .halted ⟨?_, ?_⟩ ?_ following
      · rfl
      · exact outstanding
      · exact ready
  | halted down ready following =>
      cases executed
      exact following.phase down ready
  | pausing down ready nonzero =>
      cases executed
      exact .launching down ready nonzero
  | tearing down suffix =>
      exact execute_teardown down suffix executed

end

/-- A thread is created, and the transport destroyed, while there is no control thread. -/
theorem Phase.down {view : View} {pending rest : List (Statement platform)}
    {statement : Statement platform} (phase : Phase view pending)
    (next : pending = statement :: rest)
    (which : statement = .kThreadCreate ∨ statement = .transportDestroy) : view.Down := by
  cases phase with
  | resting => cases next
  | calling _ call =>
      cases next
      cases call <;> simp [Call.statement] at which
  | launched | stopping | halting | joining | aborting | reaped =>
      cases next
      simp at which
  | sizing down | opening down | publisher down | subscriber down | marking down | timing down
  | launching down | running down | creating down | halted down | pausing down | tearing down =>
      exact down

end Statement

end Zenbedded.Rcl
