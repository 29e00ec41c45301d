import Zenbedded.Rcl.LifecyclePhases

namespace Zenbedded.Rcl

open Zenbedded.Foundation Zenbedded.Transport

/-! # What the calls keep of the control thread

One invariant for the runs: the phase of the call, the threads the run created,
and what a thread that is neither joined nor aborted relies on.
-/

variable {platform : Platform} {width : Nat} {Callback : Type}

/-- What a step does to the control threads. -/
inductive ThreadsEffect (state after : Lifecycle platform width Callback) : LifecycleEvent → Prop
  | kept {event : LifecycleEvent} (quiet : event = .internal ∨ event = .opened)
      (threads : after.threads = state.threads)
      (current : after.controlThread = state.controlThread) : ThreadsEffect state after event
  | destroying (none : (state.threads state.controlThread).outstanding = false)
      (threads : after.threads = state.threads)
      (current : after.controlThread = state.controlThread) :
      ThreadsEffect state after .destroying
  | created (none : (state.threads state.controlThread).outstanding = false)
      (threads : after.threads =
        Function.update state.threads (state.controlThread + 1) .entering)
      (current : after.controlThread = state.controlThread + 1) :
      ThreadsEffect state after (.created (state.controlThread + 1))
  | reaped
      (threads : after.threads = Function.update state.threads state.controlThread .reaped)
      (current : after.controlThread = state.controlThread) :
      ThreadsEffect state after (.reaped state.controlThread)
  | moved {event : LifecycleEvent} (thread : Nat) (pc : ThreadPc)
      (alive : (state.threads thread).alive = true) (outstanding : pc.outstanding = true)
      (threads : after.threads = Function.update state.threads thread pc)
      (current : after.controlThread = state.controlThread)
      (which : event = .internal ∨ event = .divided thread state.client.controlFreq ∨
        event = .published thread) :
      ThreadsEffect state after event

theorem execute_threads {config : Config} {onTransportCmdCb : Callback} {joined opened : Bool}
    {statement : Statement platform} {rest : List (Statement platform)}
    {state after : Lifecycle platform width Callback} {event : LifecycleEvent}
    (phase : Statement.Phase (state.view opened) (statement :: rest))
    (executed : statement.execute config onTransportCmdCb joined rest state = (event, after)) :
    ThreadsEffect state after event := by
  cases statement with
  | initBase | startThread | stopThread | destroy | setPayloadSizes | transportInit
  | declarePublisher | declareSubscriber =>
      simp only [Statement.execute] at executed
      repeat' split at executed
      all_goals
        cases executed
        exact .kept (by simp) rfl rfl
  | transportDestroyed | clearHandles | setInitialized | setControlFreq | setRunning
  | setStarted | kSleep =>
      cases executed
      exact .kept (Or.inl rfl) rfl rfl
  | transportDestroy =>
      cases executed
      exact .destroying (phase.down rfl (Or.inr rfl)).outstanding rfl rfl
  | kThreadCreate =>
      cases executed
      exact .created (phase.down rfl (Or.inl rfl)).outstanding rfl rfl
  | kThreadJoin =>
      simp only [Statement.execute] at executed
      split at executed
      · cases executed
        exact .reaped rfl rfl
      · cases executed
        exact .kept (Or.inl rfl) rfl rfl
  | kThreadAbort =>
      cases executed
      exact .reaped rfl rfl

theorem update_outstanding {threads : Nat → ThreadPc} {thread : Nat} {pc : ThreadPc}
    (alive : (threads thread).alive = true) (outstanding : pc.outstanding = true) (other : Nat) :
    (Function.update threads thread pc other).outstanding = (threads other).outstanding := by
  by_cases here : other = thread
  · rw [here, Function.update_self, outstanding]
    exact (ThreadPc.outstanding_of_alive alive).symm
  · rw [Function.update_of_ne here]

section

variable {config : Config} {thread : Nat} {payload : Bytes} {now : BitVec 64} {accepted : Bool}
  {state after : Lifecycle platform width Callback} {event : LifecycleEvent}

theorem controlThreadFn_threads
    (taken : controlThreadFn config thread payload now accepted state = some (event, after)) :
    ThreadsEffect state after event := by
  cases pc : state.threads thread with
  | notCreated | returned | reaped => simp [controlThreadFn, pc] at taken
  | entering =>
      simp only [controlThreadFn, pc] at taken
      cases taken
      exact .moved thread .testing (by rw [pc]; rfl) rfl rfl rfl (Or.inr (Or.inl rfl))
  | testing =>
      simp only [controlThreadFn, pc] at taken
      split at taken
      · cases taken
        exact .moved thread .publishing (by rw [pc]; rfl) rfl rfl rfl (Or.inl rfl)
      · cases taken
        exact .moved thread .clearing (by rw [pc]; rfl) rfl rfl rfl (Or.inl rfl)
  | publishing =>
      simp only [controlThreadFn, pc] at taken
      split at taken
      · cases taken
        exact .moved thread .putting (by rw [pc]; rfl) rfl rfl rfl (Or.inl rfl)
      · cases taken
        exact .moved thread .sleeping (by rw [pc]; rfl) rfl rfl rfl (Or.inl rfl)
  | putting =>
      simp only [controlThreadFn, pc] at taken
      cases taken
      exact .moved thread .sleeping (by rw [pc]; rfl) rfl rfl rfl (Or.inr (Or.inr rfl))
  | sleeping =>
      simp only [controlThreadFn, pc] at taken
      cases taken
      exact .moved thread .testing (by rw [pc]; rfl) rfl rfl rfl (Or.inl rfl)
  | clearing =>
      simp only [controlThreadFn, pc] at taken
      cases taken
      exact .moved thread .returned (by rw [pc]; rfl) rfl rfl rfl (Or.inl rfl)

/-- A control thread writes none of the variables that the calls test. -/
theorem controlThreadFn_view
    (taken : controlThreadFn config thread payload now accepted state = some (event, after))
    (opened : Bool) :
    after.pending = state.pending ∧ after.view (event.opens opened) = state.view opened := by
  have same (pc : ThreadPc) (alive : (state.threads thread).alive = true)
      (outstanding : pc.outstanding = true) :=
    update_outstanding alive outstanding state.controlThread
  cases pc : state.threads thread with
  | notCreated | returned | reaped => simp [controlThreadFn, pc] at taken
  | entering | putting | sleeping | clearing =>
      simp only [controlThreadFn, pc] at taken
      cases taken
      refine ⟨rfl, ?_⟩
      simp only [Lifecycle.view, Lifecycle.setThread, LifecycleEvent.opens]
      rw [same _ (by rw [pc]; rfl) rfl]
  | testing | publishing =>
      simp only [controlThreadFn, pc] at taken
      split at taken
      all_goals
        cases taken
        refine ⟨rfl, ?_⟩
        simp only [Lifecycle.view, Lifecycle.setThread, LifecycleEvent.opens]
        rw [same _ (by rw [pc]; rfl) rfl]

end

/-- The run created the thread and neither joined nor aborted it. -/
def Outstanding (trace : List LifecycleEvent) (thread : Nat) : Prop :=
  .created thread ∈ trace ∧ .reaped thread ∉ trace

/-- Every publication is made by a thread created, on a session opened, after the last call of
`zenbedded_transport_destroy`. -/
def PublishesAfterDestroy (trace : List LifecycleEvent) : Prop :=
  ∀ newer older thread, trace = newer ++ .published thread :: older →
    .created thread ∈ since LifecycleEvent.isDestroying older ∧ openedSince older = true

/-- The threads agree with what the run did to them. -/
structure ThreadsRecorded (trace : List LifecycleEvent)
    (state : Lifecycle platform width Callback) : Prop where
  recorded : ∀ thread, (state.threads thread).outstanding = true ↔ Outstanding trace thread
  sole : ∀ thread, (state.threads thread).outstanding = true → thread = state.controlThread
  bounded : ∀ thread, .reaped thread ∈ trace → thread ≤ state.controlThread
  fresh : ∀ thread, (state.threads thread).outstanding = true →
    .created thread ∈ since LifecycleEvent.isDestroying trace

structure LifecycleInvariant (trace : List LifecycleEvent)
    (state : Lifecycle platform width Callback) : Prop
    extends ThreadsRecorded trace state where
  phase : Statement.Phase (state.view (openedSince trace)) state.pending
  divided : ∀ thread controlFreq, .divided thread controlFreq ∈ trace → controlFreq ≠ 0
  published : PublishesAfterDestroy trace

variable {state after : Lifecycle platform width Callback} {trace : List LifecycleEvent}
  {event : LifecycleEvent}

theorem lifecycleInvariant_start (config : Config) :
    LifecycleInvariant [] (Lifecycle.start config : Lifecycle platform width Callback) := by
  refine ⟨⟨?_, ?_, ?_, ?_⟩, .resting ⟨rfl, ?_, ?_⟩, ?_, ?_⟩
  · intro thread
    constructor
    · intro outstanding
      cases outstanding
    · intro outstanding
      cases outstanding.1
  · intro thread outstanding
    cases outstanding
  · intro thread reaped
    cases reaped
  · intro thread outstanding
    cases outstanding
  · intro outstanding
    cases outstanding
  · intro initialized
    cases initialized
  · intro thread controlFreq divided
    cases divided
  · intro newer older thread split
    simp at split

/-- A step that creates and reaps nothing. -/
theorem ThreadsRecorded.same (recorded : ThreadsRecorded trace state)
    (outstanding : ∀ thread,
      (after.threads thread).outstanding = (state.threads thread).outstanding)
    (current : after.controlThread = state.controlThread)
    (silent : ∀ thread, event ≠ .created thread ∧ event ≠ .reaped thread)
    (keeps : event.isDestroying = false) : ThreadsRecorded (event :: trace) after := by
  refine ⟨?_, ?_, ?_, ?_⟩
  · intro thread
    obtain ⟨notCreated, notReaped⟩ := silent thread
    rw [outstanding, recorded.recorded]
    simp [Outstanding, notCreated.symm, notReaped.symm]
  · intro thread holds
    rw [outstanding] at holds
    rw [current]
    exact recorded.sole thread holds
  · intro thread reaped
    rw [current]
    exact recorded.bounded thread ((List.mem_cons.mp reaped).resolve_left (silent thread).2.symm)
  · intro thread holds
    rw [outstanding] at holds
    rw [since_unmarked keeps]
    exact List.mem_cons_of_mem _ (recorded.fresh thread holds)

theorem ThreadsRecorded.none (recorded : ThreadsRecorded trace state)
    (none : (state.threads state.controlThread).outstanding = false) (thread : Nat) :
    (state.threads thread).outstanding = false := by
  by_contra holds
  have current := recorded.sole thread (by simpa using holds)
  rw [current, none] at holds
  exact holds rfl

/-- Where no thread is outstanding, the run must have none either. -/
theorem ThreadsRecorded.of_none
    (none : ∀ thread, (after.threads thread).outstanding = false)
    (unrecorded : ∀ thread, ¬ Outstanding trace thread)
    (bounded : ∀ thread, .reaped thread ∈ trace → thread ≤ after.controlThread) :
    ThreadsRecorded trace after := by
  refine ⟨?_, ?_, bounded, ?_⟩
  · intro thread
    rw [none]
    constructor
    · intro holds
      contradiction
    · intro outstanding
      exact absurd outstanding (unrecorded thread)
  · intro thread holds
    rw [none] at holds
    contradiction
  · intro thread holds
    rw [none] at holds
    contradiction

theorem ThreadsRecorded.destroying (recorded : ThreadsRecorded trace state)
    (none : (state.threads state.controlThread).outstanding = false)
    (threads : after.threads = state.threads)
    (current : after.controlThread = state.controlThread) :
    ThreadsRecorded (.destroying :: trace) after := by
  have gone := recorded.none none
  apply ThreadsRecorded.of_none
  · intro thread
    rw [threads]
    exact gone thread
  · intro thread outstanding
    have before : Outstanding trace thread :=
      ⟨by simpa using outstanding.1, fun reaped => outstanding.2 (List.mem_cons_of_mem _ reaped)⟩
    have holds := (recorded.recorded thread).mpr before
    rw [gone] at holds
    contradiction
  · intro thread reaped
    rw [current]
    exact recorded.bounded thread (by simpa using reaped)

theorem ThreadsRecorded.created (recorded : ThreadsRecorded trace state)
    (none : (state.threads state.controlThread).outstanding = false)
    (threads : after.threads = Function.update state.threads (state.controlThread + 1) .entering)
    (current : after.controlThread = state.controlThread + 1) :
    ThreadsRecorded (.created (state.controlThread + 1) :: trace) after := by
  have gone := recorded.none none
  have others {thread : Nat} (apart : thread ≠ state.controlThread + 1) :
      (after.threads thread).outstanding = false := by
    rw [threads, Function.update_of_ne apart]
    exact gone thread
  have mine : (after.threads (state.controlThread + 1)).outstanding = true := by
    rw [threads, Function.update_self]
    rfl
  -- The handle is new: the threads reaped so far have smaller numbers.
  have unreaped : .reaped (state.controlThread + 1) ∉ trace := by
    intro reaped
    have bounded := recorded.bounded _ reaped
    omega
  refine ⟨?_, ?_, ?_, ?_⟩
  · intro thread
    by_cases here : thread = state.controlThread + 1
    · subst here
      simp [mine, Outstanding, unreaped]
    · have before := recorded.recorded thread
      rw [gone thread] at before
      rw [others here, before]
      simp [Outstanding, here]
  · intro thread holds
    rw [current]
    by_contra apart
    rw [others apart] at holds
    contradiction
  · intro thread reaped
    have bounded := recorded.bounded thread (by simpa using reaped)
    omega
  · intro thread holds
    by_cases here : thread = state.controlThread + 1
    · rw [here, since_unmarked rfl]
      exact List.mem_cons_self
    · rw [others here] at holds
      contradiction

theorem ThreadsRecorded.reaped (recorded : ThreadsRecorded trace state)
    (threads : after.threads = Function.update state.threads state.controlThread .reaped)
    (current : after.controlThread = state.controlThread) :
    ThreadsRecorded (.reaped state.controlThread :: trace) after := by
  apply ThreadsRecorded.of_none
  · intro thread
    by_cases here : thread = state.controlThread
    · rw [here, threads, Function.update_self]
      rfl
    · rw [threads, Function.update_of_ne here]
      by_contra holds
      exact here (recorded.sole thread (by simpa using holds))
  · intro thread outstanding
    obtain ⟨created, unreaped⟩ := outstanding
    have before : Outstanding trace thread :=
      ⟨by simpa using created, fun reaped => unreaped (List.mem_cons_of_mem _ reaped)⟩
    have sole := recorded.sole thread ((recorded.recorded thread).mpr before)
    rw [sole] at unreaped
    exact unreaped List.mem_cons_self
  · intro thread reaped
    rw [current]
    rcases List.mem_cons.mp reaped with now | earlier
    · cases now
      exact Nat.le_refl _
    · exact recorded.bounded thread earlier

theorem ThreadsRecorded.step (recorded : ThreadsRecorded trace state)
    (effect : ThreadsEffect state after event) : ThreadsRecorded (event :: trace) after := by
  cases effect with
  | kept quiet threads current =>
      refine recorded.same (fun thread => by rw [threads]) current ?_ ?_
      · intro thread
        rcases quiet with internal | opened
        · simp [internal]
        · simp [opened]
      · rcases quiet with internal | opened
        · rw [internal]
          rfl
        · rw [opened]
          rfl
  | moved thread pc alive outstanding threads current which =>
      refine recorded.same ?_ current ?_ ?_
      · intro other
        rw [threads]
        exact update_outstanding alive outstanding other
      · intro other
        rcases which with internal | divided | published
        · simp [internal]
        · simp [divided]
        · simp [published]
      · rcases which with internal | divided | published
        · rw [internal]
          rfl
        · rw [divided]
          rfl
        · rw [published]
          rfl
  | destroying none threads current => exact recorded.destroying none threads current
  | created none threads current => exact recorded.created none threads current
  | reaped threads current => exact recorded.reaped threads current

/-- While a thread is outstanding, what it relies on holds. -/
theorem LifecycleInvariant.up (invariant : LifecycleInvariant trace state) {thread : Nat}
    (outstanding : (state.threads thread).outstanding = true) :
    (state.view (openedSince trace)).Up := by
  have current := invariant.sole thread outstanding
  rw [current] at outstanding
  exact invariant.phase.up outstanding

theorem LifecycleInvariant.step (invariant : LifecycleInvariant trace state)
    (phase : Statement.Phase (after.view (openedSince (event :: trace))) after.pending)
    (effect : ThreadsEffect state after event) : LifecycleInvariant (event :: trace) after := by
  refine ⟨invariant.toThreadsRecorded.step effect, phase, ?_, ?_⟩
  · intro thread controlFreq divided
    rcases List.mem_cons.mp divided with now | earlier
    · subst now
      cases effect with
      | kept quiet => simp at quiet
      | moved mover pc alive outstanding threads current which =>
          have up := invariant.up (ThreadPc.outstanding_of_alive alive)
          obtain ⟨_, frequency⟩ : thread = mover ∧ controlFreq = state.client.controlFreq := by
            simpa using which
          rw [frequency]
          exact up.nonzero
    · exact invariant.divided thread controlFreq earlier
  · intro newer older thread split
    cases newer with
    | nil =>
        obtain ⟨now, earlier⟩ := List.cons.inj split
        subst now earlier
        cases effect with
        | kept quiet => simp at quiet
        | moved mover pc alive outstanding threads current which =>
            have before := ThreadPc.outstanding_of_alive alive
            have mine : thread = mover := by simpa using which
            rw [mine]
            exact ⟨invariant.fresh mover before, (invariant.up before).opened⟩
    | cons first newer =>
        exact invariant.published newer older thread (List.cons.inj split).2

/-- What the calls keep, whatever the control thread does between their statements. -/
structure LifecycleKept (trace : List LifecycleEvent)
    (state : Lifecycle platform width Callback) : Prop where
  oneAlive : ∀ first second, (state.threads first).alive = true →
    (state.threads second).alive = true → first = second
  started_iff : state.pending = [] →
    (state.client.controlThreadStarted = true ↔ ∃ thread, Outstanding trace thread)
  divided : ∀ thread controlFreq, .divided thread controlFreq ∈ trace → controlFreq ≠ 0
  published : PublishesAfterDestroy trace
  /-- From the call of `zenbedded_transport_destroy` to the next session. -/
  closed : openedSince trace = false → ∀ thread, (state.threads thread).alive = false
  uninitialized : state.client.initialized = false →
    ∀ thread, (state.threads thread).alive = false

theorem LifecycleInvariant.kept (invariant : LifecycleInvariant trace state) :
    LifecycleKept trace state := by
  have outstanding {thread : Nat} (alive : (state.threads thread).alive = true) :=
    ThreadPc.outstanding_of_alive alive
  refine ⟨?_, ?_, invariant.divided, invariant.published, ?_, ?_⟩
  · intro first second firstAlive secondAlive
    rw [invariant.sole first (outstanding firstAlive),
      invariant.sole second (outstanding secondAlive)]
  · intro idle
    have phase := invariant.phase
    rw [idle] at phase
    cases phase with
    | resting resting =>
        rw [show state.client.controlThreadStarted = _ from resting.started]
        constructor
        · intro holds
          exact ⟨_, (invariant.recorded _).mp holds⟩
        · intro recorded
          obtain ⟨thread, recorded⟩ := recorded
          have holds := (invariant.recorded thread).mpr recorded
          rwa [invariant.sole thread holds] at holds
  · intro closed thread
    by_contra alive
    have opened := (invariant.up (outstanding (by simpa using alive))).opened
    rw [show openedSince trace = true from opened] at closed
    contradiction
  · intro down thread
    by_contra alive
    have initialized := (invariant.up (outstanding (by simpa using alive))).initialized
    rw [show state.client.initialized = true from initialized] at down
    contradiction

theorem lifecycle_kept {config : Config} {onTransportCmdCb : Callback}
    (reaches : Reaches (LifecycleStep config onTransportCmdCb) (Lifecycle.start config) trace
      state) : LifecycleKept trace state := by
  have invariant : LifecycleInvariant trace state := by
    apply reaches.invariant LifecycleInvariant (lifecycleInvariant_start config)
    intro trace state event after invariant taken
    cases taken with
    | call call idle =>
        have phase := invariant.phase
        rw [idle] at phase
        cases phase with
        | resting resting =>
            refine invariant.step ?_ (.kept (Or.inl rfl) rfl rfl)
            rw [openedSince_cons]
            exact .calling resting call
    | statement joined next executed =>
        have phase := invariant.phase
        rw [next] at phase
        refine invariant.step ?_ (execute_threads phase executed)
        rw [openedSince_cons]
        exact phase.execute executed
    | thread thread payload now accepted moved =>
        obtain ⟨pending, view⟩ := controlThreadFn_view moved (openedSince trace)
        refine invariant.step ?_ (controlThreadFn_threads moved)
        rw [openedSince_cons, view, pending]
        exact invariant.phase
  exact invariant.kept

inductive LifecycleAction (platform : Platform) where
  | call (call : Call platform)
  | statement (joined : Bool)
  | thread (thread : Nat) (payload : Bytes) (now : BitVec 64) (accepted : Bool)

def Lifecycle.act (config : Config) (onTransportCmdCb : Callback)
    (action : LifecycleAction platform) (state : Lifecycle platform width Callback) :
    Option (LifecycleEvent × Lifecycle platform width Callback) :=
  match action, state.pending with
  | .call call, [] => some (.internal, state.atCall call)
  | .statement joined, statement :: rest =>
      some (statement.execute config onTransportCmdCb joined rest state)
  | .thread thread payload now accepted, _ =>
      controlThreadFn config thread payload now accepted state
  | _, _ => none

theorem Lifecycle.act_step {config : Config} {onTransportCmdCb : Callback}
    {action : LifecycleAction platform}
    (acted : state.act config onTransportCmdCb action = some (event, after)) :
    LifecycleStep config onTransportCmdCb state event after := by
  cases action with
  | call call =>
      cases idle : state.pending with
      | nil =>
          simp only [act, idle] at acted
          cases acted
          exact .call call idle
      | cons statement rest => simp [act, idle] at acted
  | statement joined =>
      cases next : state.pending with
      | nil => simp [act, next] at acted
      | cons statement rest =>
          simp only [act, next] at acted
          exact .statement joined next (Option.some.inj acted)
  | thread thread payload now accepted => exact .thread thread payload now accepted acted

namespace PublishOnce

/-- `init`, the control thread's first publication, and a `destroy` whose join times out. -/
def actions : List (LifecycleAction Platform.host64) :=
  List.flatten [List.replicate 7 (.statement true), [.statement false],
    List.replicate 3 (.statement true), [.call .destroy], List.replicate 4 (.thread 1 [] 0 true),
    List.replicate 12 (.statement true), [.call (.init ⟨some [], true, true, []⟩ 100 0 0)]]

def events : List LifecycleEvent :=
  List.flatten [List.replicate 3 .internal, [.destroying], List.replicate 2 .internal, [.reaped 1],
    List.replicate 5 .internal, [.published 1], List.replicate 2 .internal, [.divided 1 100],
    [.internal, .created 1], List.replicate 7 .internal, [.opened], List.replicate 3 .internal]

theorem performed :
    (perform (Lifecycle.act Config.tier1Default ()) (Lifecycle.start Config.tier1Default :
      Lifecycle Platform.host64 32 Unit) actions).map Prod.fst = some events := by
  decide

end PublishOnce

theorem lifecycle_kept_publishOnce :
    ∃ state : Lifecycle Platform.host64 32 Unit, LifecycleKept PublishOnce.events state := by
  obtain ⟨⟨trace, state⟩, performed, same⟩ := Option.map_eq_some_iff.mp PublishOnce.performed
  have reaches : Reaches (LifecycleStep Config.tier1Default ())
      (Lifecycle.start Config.tier1Default) trace state := by
    refine perform_reaches ?_ performed
    intro action before event after acted
    exact Lifecycle.act_step acted
  rw [show trace = PublishOnce.events from same] at reaches
  exact ⟨state, lifecycle_kept reaches⟩

end Zenbedded.Rcl
