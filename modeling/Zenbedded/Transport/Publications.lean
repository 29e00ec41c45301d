import Mathlib.Data.List.Range
import Zenbedded.Foundation.Trace
import Zenbedded.Transport.EndpointPools

namespace Zenbedded.Transport

open Zenbedded.Foundation

/-! # Concurrent publications of one publisher

`zenbedded_transport_publish` of Tier 1, one access to the attachment at a time.
`z_bytes_from_static_buf` only aliases the attachment, so a put transmits what
the struct holds when it is made.
-/

/-- Where a caller is in `zenbedded_transport_publish`. -/
inductive PublishPc where
  | idle
  /-- The wall clock is read, the sequence number not yet. -/
  | reading (payload : Bytes) (now : BitVec 64)
  | incrementing (payload : Bytes) (now : BitVec 64) (number : BitVec 64)
  | stamping (payload : Bytes) (now : BitVec 64)
  | putting (payload : Bytes)
deriving Repr, DecidableEq

/-- The sequence number is incremented for this call and not yet transmitted. -/
def PublishPc.incremented : PublishPc → Bool
  | .stamping .. => true
  | .putting _ => true
  | _ => false

/-- Between its read of the sequence number and its put. -/
def PublishPc.holdsNumber : PublishPc → Bool
  | .incrementing .. => true
  | pc => pc.incremented

structure Publishing (Thread Callback : Type) where
  transport : ZenohTransport Callback
  callers : Thread → PublishPc

inductive PublishEvent where
  | internal
  /-- The call returned before any put. -/
  | rejected
  /-- The put was made and the call returned. -/
  | transmitted (put : Put) (code : Int)
deriving Repr, DecidableEq

def PublishEvent.put : PublishEvent → Option Put
  | .transmitted put _ => some put
  | _ => none

def PublishEvent.code : PublishEvent → Option Int
  | .internal => none
  | .rejected => some (-1)
  | .transmitted _ code => some code

variable {Thread Callback : Type}

def ZenohTransport.sequenceNumber (transport : ZenohTransport Callback) (index : Endpoint) :
    BitVec 64 :=
  (transport.pubPool index).attachment.sequenceNumber

def ZenohTransport.setAttachment (transport : ZenohTransport Callback) (index : Endpoint)
    (attachment : RmwZenohAttachment) : ZenohTransport Callback :=
  transport.setPub index { transport.pubPool index with attachment }

@[simp] theorem setAttachment_pub (transport : ZenohTransport Callback) (index : Endpoint)
    (attachment : RmwZenohAttachment) :
    (transport.setAttachment index attachment).pubPool index =
      { transport.pubPool index with attachment } := by
  simp [ZenohTransport.setAttachment]

@[simp] theorem setAttachment_setAttachment (transport : ZenohTransport Callback)
    (index : Endpoint) (first second : RmwZenohAttachment) :
    (transport.setAttachment index first).setAttachment index second =
      transport.setAttachment index second := by
  simp [ZenohTransport.setAttachment, ZenohTransport.setPub]

namespace Publishing

variable [DecidableEq Thread]

def setCaller (state : Publishing Thread Callback) (thread : Thread) (pc : PublishPc) :
    Publishing Thread Callback :=
  { state with callers := Function.update state.callers thread pc }

/-- A call up to its read of the wall clock. -/
def call (index : Endpoint) (thread : Thread) (payload : Bytes) (now : BitVec 64)
    (state : Publishing Thread Callback) : Option (PublishEvent × Publishing Thread Callback) :=
  match state.callers thread with
  | .idle =>
      if (state.transport.pubPool index).inUse then
        some (.internal, state.setCaller thread (.reading payload now))
      else some (.rejected, state)
  | _ => none

/-- The next access of a call; `accepted` is the outcome of a put. -/
def advance (index : Endpoint) (thread : Thread) (accepted : Bool)
    (state : Publishing Thread Callback) : Option (PublishEvent × Publishing Thread Callback) :=
  let attachment := (state.transport.pubPool index).attachment
  match state.callers thread with
  | .idle => none
  | .reading payload now =>
      some (.internal,
        state.setCaller thread (.incrementing payload now attachment.sequenceNumber))
  | .incrementing payload now number =>
      some (.internal, { state.setCaller thread (.stamping payload now) with
        transport := state.transport.setAttachment index
          { attachment with sequenceNumber := number + 1 } })
  | .stamping payload now =>
      some (.internal, { state.setCaller thread (.putting payload) with
        transport := state.transport.setAttachment index { attachment with timestampNs := now } })
  | .putting payload =>
      some (.transmitted ⟨index, payload, some attachment⟩ (if accepted then 0 else -1),
        state.setCaller thread .idle)

end Publishing

/-- A step of one caller, and what it did. -/
inductive PublishStep [DecidableEq Thread] (index : Endpoint) :
    Publishing Thread Callback → Thread × PublishEvent → Publishing Thread Callback → Prop
  | call {state after : Publishing Thread Callback} {thread : Thread} {event : PublishEvent}
      (payload : Bytes) (now : BitVec 64)
      (taken : state.call index thread payload now = some (event, after)) :
      PublishStep index state (thread, event) after
  | advance {state after : Publishing Thread Callback} {thread : Thread} {event : PublishEvent}
      (accepted : Bool) (taken : state.advance index thread accepted = some (event, after)) :
      PublishStep index state (thread, event) after

/-- Newest first. -/
def transmitted (trace : List (Thread × PublishEvent)) : List Put :=
  trace.filterMap fun event => event.2.put

/-- What the completed calls returned, newest first. -/
def returned (trace : List (Thread × PublishEvent)) : List Int :=
  trace.filterMap fun event => event.2.code

def Put.sequenceNumber (put : Put) : Option Int :=
  put.attachment.map fun attachment => attachment.sequenceNumber.toInt

/-- `1` to `count`. -/
def firstNumbers (count : Nat) : List (Option Int) :=
  (List.range count).map fun place : Nat => some ((place : Int) + 1)

/-- Every message carries a number, none twice, and they are `1` to the number of calls. -/
structure NumbersCount (trace : List (Thread × PublishEvent)) : Prop where
  unique : ((transmitted trace).map Put.sequenceNumber).Nodup
  exact : ((transmitted trace).map Put.sequenceNumber).Perm (firstNumbers (returned trace).length)

theorem firstNumbers_succ (count : Nat) :
    (some (count + 1 : Int) :: firstNumbers count).Perm (firstNumbers (count + 1)) := by
  unfold firstNumbers
  rw [List.range_succ, List.map_append]
  exact (List.perm_append_singleton _ _).symm

theorem firstNumbers_nodup (count : Nat) : (firstNumbers count).Nodup := by
  refine List.Nodup.map ?_ List.nodup_range
  intro left right same
  have equal : (left : Int) + 1 = right + 1 := Option.some.inj same
  omega

section

variable {index : Endpoint} {state after : Publishing Thread Callback} {thread : Thread}

/-- An increment is made while no other call is between its read of the number and its put,
and does not overflow. -/
def Publishing.Careful (state : Publishing Thread Callback) (thread : Thread) : Prop :=
  ∀ payload now number, state.callers thread = .incrementing payload now number →
    number.toInt + 1 < 2 ^ 63 ∧
      ∀ other, other ≠ thread → (state.callers other).holdsNumber = false

/-- At most one call is between its increment and its put, and the number it will transmit is
the next one. -/
structure NumbersInvariant (index : Endpoint) (trace : List (Thread × PublishEvent))
    (state : Publishing Thread Callback) : Prop where
  inUse : (state.transport.pubPool index).inUse = true
  counted : ((transmitted trace).map Put.sequenceNumber).Perm
    (firstNumbers (returned trace).length)
  current : ∀ thread payload now number, state.callers thread = .incrementing payload now number →
    number = state.transport.sequenceNumber index
  alone : ∀ first second, (state.callers first).incremented = true →
    (state.callers second).incremented = true → first = second
  settled : (∀ thread, (state.callers thread).incremented = false) →
    (state.transport.sequenceNumber index).toInt = (returned trace).length
  ahead : ∀ thread, (state.callers thread).incremented = true →
    (state.transport.sequenceNumber index).toInt = (returned trace).length + 1

theorem PublishPc.incremented_of_holds {pc : PublishPc} (free : pc.holdsNumber = false) :
    pc.incremented = false := by
  cases pc with
  | idle | reading | incrementing => rfl
  | stamping | putting => exact free

theorem toInt_succ {number : BitVec 64} (small : number.toInt + 1 < 2 ^ 63) :
    (number + 1).toInt = number.toInt + 1 := by
  have lower := BitVec.le_toInt number
  rw [BitVec.toInt_add]
  exact Int.bmod_eq_of_le (by simp; omega) (by simp; omega)

/-- A step that neither increments nor puts. -/
theorem NumbersInvariant.unnumbered {trace : List (Thread × PublishEvent)}
    (invariant : NumbersInvariant index trace state)
    (inUse : (after.transport.pubPool index).inUse = (state.transport.pubPool index).inUse)
    (number_eq : after.transport.sequenceNumber index = state.transport.sequenceNumber index)
    (incremented : ∀ other,
      (after.callers other).incremented = (state.callers other).incremented)
    (holding : ∀ other payload now number,
      after.callers other = .incrementing payload now number →
        state.callers other = .incrementing payload now number ∨
          number = state.transport.sequenceNumber index) :
    NumbersInvariant index ((thread, .internal) :: trace) after := by
  refine ⟨inUse.trans invariant.inUse, invariant.counted, ?_, ?_, ?_, ?_⟩
  · intro other payload now number pc
    rw [number_eq]
    rcases holding other payload now number pc with before | read
    · exact invariant.current other payload now number before
    · exact read
  · intro first second firstHolds secondHolds
    rw [incremented] at firstHolds secondHolds
    exact invariant.alone first second firstHolds secondHolds
  · intro free
    rw [number_eq]
    exact invariant.settled fun other => (incremented other).symm.trans (free other)
  · intro other holds
    rw [incremented] at holds
    rw [number_eq]
    exact invariant.ahead other holds

end

section

variable [DecidableEq Thread] {index : Endpoint} {state after : Publishing Thread Callback}
  {thread : Thread} {event : PublishEvent}

namespace Publishing

@[simp] theorem setCaller_same (state : Publishing Thread Callback) (thread : Thread)
    (pc : PublishPc) : (state.setCaller thread pc).callers thread = pc :=
  Function.update_self ..

theorem setCaller_other {other : Thread} (apart : other ≠ thread) (pc : PublishPc) :
    (state.setCaller thread pc).callers other = state.callers other :=
  Function.update_of_ne apart ..

@[simp] theorem setCaller_transport (state : Publishing Thread Callback) (thread : Thread)
    (pc : PublishPc) : (state.setCaller thread pc).transport = state.transport := rfl

end Publishing

/-- What one step does to the caller, the publisher and the trace. -/
inductive PublishEffect (index : Endpoint) (state : Publishing Thread Callback) (thread : Thread)
    (after : Publishing Thread Callback) : PublishEvent → Prop
  | rejected (unused : (state.transport.pubPool index).inUse = false) (same : after = state) :
      PublishEffect index state thread after .rejected
  | started (payload : Bytes) (now : BitVec 64)
      (pc : state.callers thread = .idle)
      (next : after = state.setCaller thread (.reading payload now)) :
      PublishEffect index state thread after .internal
  | read (payload : Bytes) (now : BitVec 64)
      (pc : state.callers thread = .reading payload now)
      (next : after = state.setCaller thread
        (.incrementing payload now (state.transport.sequenceNumber index))) :
      PublishEffect index state thread after .internal
  | incremented (payload : Bytes) (now number : BitVec 64)
      (pc : state.callers thread = .incrementing payload now number)
      (callers : after.callers = (state.setCaller thread (.stamping payload now)).callers)
      (inUse : (after.transport.pubPool index).inUse = (state.transport.pubPool index).inUse)
      (number_eq : after.transport.sequenceNumber index = number + 1) :
      PublishEffect index state thread after .internal
  | stamped (payload : Bytes) (now : BitVec 64)
      (pc : state.callers thread = .stamping payload now)
      (callers : after.callers = (state.setCaller thread (.putting payload)).callers)
      (inUse : (after.transport.pubPool index).inUse = (state.transport.pubPool index).inUse)
      (number_eq : after.transport.sequenceNumber index = state.transport.sequenceNumber index) :
      PublishEffect index state thread after .internal
  | transmitted (payload : Bytes) (code : Int)
      (pc : state.callers thread = .putting payload)
      (next : after = state.setCaller thread .idle) :
      PublishEffect index state thread after (.transmitted
        ⟨index, payload, some (state.transport.pubPool index).attachment⟩ code)

theorem publishStep_effect (step : PublishStep index state (thread, event) after) :
    PublishEffect index state thread after event := by
  cases step with
  | call payload now taken =>
      cases pc : state.callers thread with
      | idle =>
          cases used : (state.transport.pubPool index).inUse with
          | false =>
              simp only [Publishing.call, pc, used, Bool.false_eq_true, if_false] at taken
              cases taken
              exact .rejected used rfl
          | true =>
              simp only [Publishing.call, pc, used, if_true] at taken
              cases taken
              exact .started payload now pc rfl
      | reading | incrementing | stamping | putting => simp [Publishing.call, pc] at taken
  | advance accepted taken =>
      cases pc : state.callers thread with
      | idle => simp [Publishing.advance, pc] at taken
      | reading payload now =>
          simp only [Publishing.advance, pc] at taken
          cases taken
          exact .read payload now pc rfl
      | incrementing payload now number =>
          simp only [Publishing.advance, pc] at taken
          cases taken
          exact .incremented payload now number pc rfl (by simp)
            (by simp [ZenohTransport.sequenceNumber])
      | stamping payload now =>
          simp only [Publishing.advance, pc] at taken
          cases taken
          exact .stamped payload now pc rfl (by simp) (by simp [ZenohTransport.sequenceNumber])
      | putting payload =>
          simp only [Publishing.advance, pc] at taken
          cases taken
          exact .transmitted payload _ pc rfl

/-- A step whose increment, if it makes one, is careful. -/
def CarefulStep (index : Endpoint) (state : Publishing Thread Callback)
    (event : Thread × PublishEvent) (after : Publishing Thread Callback) : Prop :=
  state.Careful event.1 ∧ PublishStep index state event after

/-- The caller's own step keeps what its new program counter keeps. -/
theorem Publishing.setCaller_keeps {Result : Type} (of : PublishPc → Result) {pc : PublishPc}
    (same : of pc = of (state.callers thread)) (other : Thread) :
    of ((state.setCaller thread pc).callers other) = of (state.callers other) := by
  by_cases here : other = thread
  · rw [here, Publishing.setCaller_same, same]
  · rw [Publishing.setCaller_other here]

theorem Publishing.setCaller_incrementing {pc : PublishPc} {other : Thread} {payload : Bytes}
    {now number : BitVec 64}
    (apart : ∀ payload now number, pc ≠ .incrementing payload now number)
    (holds : (state.setCaller thread pc).callers other = .incrementing payload now number) :
    other ≠ thread ∧ state.callers other = .incrementing payload now number := by
  by_cases here : other = thread
  · rw [here, Publishing.setCaller_same] at holds
    exact absurd holds (apart payload now number)
  · rw [Publishing.setCaller_other here] at holds
    exact ⟨here, holds⟩

/-- The increment of a careful step is the only one under way. -/
theorem NumbersInvariant.incremented {trace : List (Thread × PublishEvent)}
    (invariant : NumbersInvariant index trace state) (careful : state.Careful thread)
    {payload : Bytes} {now number : BitVec 64}
    (pc : state.callers thread = .incrementing payload now number)
    (callers : after.callers = (state.setCaller thread (.stamping payload now)).callers)
    (inUse : (after.transport.pubPool index).inUse = (state.transport.pubPool index).inUse)
    (number_eq : after.transport.sequenceNumber index = number + 1) :
    NumbersInvariant index ((thread, .internal) :: trace) after := by
  obtain ⟨small, free⟩ := careful payload now number pc
  have stale := invariant.current thread payload now number pc
  have unheld : ∀ other, (state.callers other).incremented = false := by
    intro other
    by_cases here : other = thread
    · rw [here, pc]
      rfl
    · exact PublishPc.incremented_of_holds (free other here)
  have owner : ∀ other, (after.callers other).incremented = true → other = thread := by
    intro other holds
    by_contra apart
    rw [callers, Publishing.setCaller_other apart, unheld] at holds
    contradiction
  have next : (after.transport.sequenceNumber index).toInt = (returned trace).length + 1 := by
    rw [number_eq, toInt_succ small, stale, invariant.settled unheld]
  refine ⟨inUse.trans invariant.inUse, invariant.counted, ?_, ?_, ?_, fun _ _ => next⟩
  · intro other payload now number holds
    rw [callers] at holds
    obtain ⟨apart, before⟩ := Publishing.setCaller_incrementing (by simp) holds
    have quiet := free other apart
    rw [before] at quiet
    contradiction
  · intro first second firstHolds secondHolds
    rw [owner first firstHolds, owner second secondHolds]
  · intro none
    have holds := none thread
    rw [callers, Publishing.setCaller_same] at holds
    contradiction

/-- The caller that transmits was the one behind its increment. -/
theorem NumbersInvariant.transmitted {trace : List (Thread × PublishEvent)}
    (invariant : NumbersInvariant index trace state) {payload : Bytes}
    (pc : state.callers thread = .putting payload) (code : Int) :
    NumbersInvariant index ((thread, .transmitted
      ⟨index, payload, some (state.transport.pubPool index).attachment⟩ code) :: trace)
      (state.setCaller thread .idle) := by
  have mine : (state.callers thread).incremented = true := by
    rw [pc]
    rfl
  have number := invariant.ahead thread mine
  have unheld : ∀ other,
      ((state.setCaller thread .idle).callers other).incremented = false := by
    intro other
    by_cases here : other = thread
    · rw [here, Publishing.setCaller_same]
      rfl
    · rw [Publishing.setCaller_other here]
      by_contra holds
      exact here (invariant.alone other thread (by simpa using holds) mine)
  refine ⟨invariant.inUse, ?_, ?_, ?_, ?_, ?_⟩
  · refine List.Perm.trans ?_ (firstNumbers_succ (returned trace).length)
    rw [← number]
    exact invariant.counted.cons _
  · intro other payload now number holds
    obtain ⟨_, before⟩ := Publishing.setCaller_incrementing (by simp) holds
    exact invariant.current other payload now number before
  · intro first second firstHolds
    rw [unheld] at firstHolds
    contradiction
  · intro _
    exact number
  · intro other holds
    rw [unheld] at holds
    contradiction

theorem NumbersInvariant.preserved {trace : List (Thread × PublishEvent)}
    (invariant : NumbersInvariant index trace state) (careful : state.Careful thread)
    (effect : PublishEffect index state thread after event) :
    NumbersInvariant index ((thread, event) :: trace) after := by
  cases effect with
  | rejected unused same =>
      rw [invariant.inUse] at unused
      contradiction
  | started payload now pc next =>
      subst next
      refine invariant.unnumbered rfl rfl ?_ ?_
      · exact Publishing.setCaller_keeps PublishPc.incremented (by rw [pc]; rfl)
      · intro other payload now number holds
        exact Or.inl (Publishing.setCaller_incrementing (by simp) holds).2
  | read payload now pc next =>
      subst next
      refine invariant.unnumbered rfl rfl ?_ ?_
      · exact Publishing.setCaller_keeps PublishPc.incremented (by rw [pc]; rfl)
      · intro other payload now number holds
        by_cases here : other = thread
        · rw [here, Publishing.setCaller_same] at holds
          cases holds
          exact Or.inr rfl
        · rw [Publishing.setCaller_other here] at holds
          exact Or.inl holds
  | incremented payload now number pc callers inUse number_eq =>
      exact invariant.incremented careful pc callers inUse number_eq
  | stamped payload now pc callers inUse number_eq =>
      refine invariant.unnumbered inUse number_eq ?_ ?_
      · rw [callers]
        exact Publishing.setCaller_keeps PublishPc.incremented (by rw [pc]; rfl)
      · intro other payload now number holds
        rw [callers] at holds
        exact Or.inl (Publishing.setCaller_incrementing (by simp) holds).2
  | transmitted payload code pc next =>
      subst next
      exact invariant.transmitted pc code

end

def Publishing.start (transport : ZenohTransport Callback) : Publishing Thread Callback :=
  { transport, callers := fun _ => .idle }

theorem declarePublisher_sequenceNumber {topicName : Text} {typeName : Option Text}
    {accepted : Bool} {gid : Bytes} {transport after : ZenohTransport Callback} {index : Endpoint}
    (run : zenbeddedTransportDeclarePublisher .tier1 topicName typeName accepted gid transport =
      (some index, after)) :
    after.sequenceNumber index = 0 := by
  unfold zenbeddedTransportDeclarePublisher at run
  split at run
  · cases found : firstFree fun index => (transport.pubPool index).inUse with
    | none =>
        rw [found] at run
        cases run
    | some free =>
        rw [found] at run
        cases accepted with
        | false => cases run
        | true =>
            cases run
            simp [ZenohTransport.sequenceNumber]
  · cases run

theorem numbersInvariant_start {transport : ZenohTransport Callback} {index : Endpoint}
    (inUse : (transport.pubPool index).inUse = true)
    (fresh : transport.sequenceNumber index = 0) :
    NumbersInvariant index [] (Publishing.start transport : Publishing Thread Callback) := by
  refine ⟨inUse, List.Perm.refl _, ?_, ?_, ?_, ?_⟩
  · intro thread payload now number holds
    cases holds
  · intro first second holds
    cases holds
  · intro _
    change (transport.sequenceNumber index).toInt = 0
    rw [fresh]
    rfl
  · intro thread holds
    cases holds

variable [DecidableEq Thread]

section

variable {before transport : ZenohTransport Callback} {topicName : Text} {typeName : Option Text}
  {accepted : Bool} {gid : Bytes} {index : Endpoint} {trace : List (Thread × PublishEvent)}
  {state : Publishing Thread Callback}

theorem numbersInvariant_of_careful
    (declares : zenbeddedTransportDeclarePublisher .tier1 topicName typeName accepted gid before =
      (some index, transport))
    (reaches : Reaches (CarefulStep index) (Publishing.start transport) trace state) :
    NumbersInvariant index trace state := by
  have declared := (declarePublisher_outcome declares).returned.2.2
  refine reaches.invariant (NumbersInvariant index)
    (numbersInvariant_start declared.inUse (declarePublisher_sequenceNumber declares)) ?_
  intro trace state event after invariant taken
  obtain ⟨careful, step⟩ := taken
  exact invariant.preserved careful (publishStep_effect step)

/-- As long as every increment is careful, the transmitted numbers count the calls. -/
theorem numbersCount_of_careful
    (declares : zenbeddedTransportDeclarePublisher .tier1 topicName typeName accepted gid before =
      (some index, transport))
    (reaches : Reaches (CarefulStep index) (Publishing.start transport) trace state) :
    NumbersCount trace := by
  have counted := (numbersInvariant_of_careful declares reaches).counted
  exact ⟨counted.nodup_iff.mpr (firstNumbers_nodup _), counted⟩

/-- A caller that is the only one is careful for as long as the numbers last. -/
theorem careful_of_sole [Subsingleton Thread]
    (declares : zenbeddedTransportDeclarePublisher .tier1 topicName typeName accepted gid before =
      (some index, transport))
    (reaches : Reaches (PublishStep index) (Publishing.start transport) trace state)
    (few : (returned trace).length + 1 < 2 ^ 63) :
    Reaches (CarefulStep index) (Publishing.start transport) trace state := by
  induction reaches with
  | start => exact .start
  | @step trace state event after _ taken inductionHypothesis =>
      have shorter : (returned trace).length ≤ (returned (event :: trace)).length := by
        unfold returned
        exact ((List.sublist_cons_self event trace).filterMap _).length_le
      have reached := inductionHypothesis (by omega)
      have invariant := numbersInvariant_of_careful declares reached
      refine reached.step ⟨?_, taken⟩
      intro payload now number increments
      have unheld : ∀ thread, (state.callers thread).incremented = false := by
        intro thread
        rw [Subsingleton.elim thread event.1, increments]
        rfl
      have current := invariant.settled unheld
      rw [← invariant.current _ _ _ _ increments] at current
      exact ⟨by omega, fun other apart => absurd (Subsingleton.elim other event.1) apart⟩

end

theorem careful_of_pc {index : Endpoint} {state after : Publishing Thread Callback}
    {thread : Thread} {event : PublishEvent} (step : PublishStep index state (thread, event) after)
    (apart : ∀ payload now number, state.callers thread ≠ .incrementing payload now number) :
    CarefulStep index state (thread, event) after :=
  ⟨fun payload now number holds => absurd holds (apart payload now number), step⟩

/-- The accesses of one call behind its test, made in one piece.  They are careful if no other call
holds a number. -/
theorem publish_rest (index : Endpoint) {state : Publishing Thread Callback} {thread : Thread}
    {payload : Bytes} {now : BitVec 64} (reads : state.callers thread = .reading payload now)
    (accepted : Bool) :
    let attachment := (state.transport.pubPool index).attachment
    let stamped := { attachment with
      sequenceNumber := attachment.sequenceNumber + 1, timestampNs := now }
    let after := { state.setCaller thread .idle with
      transport := state.transport.setAttachment index stamped }
    ∃ trace, Reaches (PublishStep index) state trace after ∧
      transmitted trace = [⟨index, payload, some stamped⟩] ∧
      returned trace = [if accepted then 0 else -1] ∧
      ((∀ other, other ≠ thread → (state.callers other).holdsNumber = false) →
        attachment.sequenceNumber.toInt + 1 < 2 ^ 63 →
          Reaches (CarefulStep index) state trace after) := by
  intro attachment stamped after
  let incremented := { attachment with sequenceNumber := attachment.sequenceNumber + 1 }
  let incrementing :=
    state.setCaller thread (.incrementing payload now attachment.sequenceNumber)
  let stamping := { incrementing.setCaller thread (.stamping payload now) with
    transport := state.transport.setAttachment index incremented }
  let putting := { stamping.setCaller thread (.putting payload) with
    transport := state.transport.setAttachment index stamped }
  have loads : PublishStep index state (thread, .internal) incrementing :=
    .advance accepted (by simp [Publishing.advance, reads, incrementing, attachment])
  have increments : PublishStep index incrementing (thread, .internal) stamping :=
    .advance accepted (by
      simp [Publishing.advance, incrementing, stamping, attachment, incremented])
  have stamps : PublishStep index stamping (thread, .internal) putting :=
    .advance accepted (by simp [Publishing.advance, stamping, putting, stamped, incremented])
  have puts : PublishStep index putting (thread, .transmitted ⟨index, payload, some stamped⟩
      (if accepted then 0 else -1)) (putting.setCaller thread .idle) :=
    .advance accepted (by simp [Publishing.advance, putting])
  have back : putting.setCaller thread .idle = after := by
    simp [Publishing.setCaller, incrementing, stamping, putting, after]
  rw [back] at puts
  refine ⟨_, (((Reaches.start.step loads).step increments).step stamps).step puts, rfl, rfl, ?_⟩
  intro free small
  have loaded := Reaches.start.step (careful_of_pc loads (by simp [reads]))
  have incrementsCarefully : CarefulStep index incrementing (thread, .internal) stamping := by
    refine ⟨?_, increments⟩
    intro payload now number holds
    rw [show incrementing.callers thread = _ from Publishing.setCaller_same ..] at holds
    cases holds
    refine ⟨small, fun other apart => ?_⟩
    rw [show incrementing.callers other = _ from Publishing.setCaller_other apart _]
    exact free other apart
  exact ((loaded.step incrementsCarefully).step
    (careful_of_pc stamps (by simp [stamping]))).step (careful_of_pc puts (by simp [putting]))

/-- The accesses of one call, made in one piece, are `zenbedded_transport_publish`. -/
theorem publish_alone (index : Endpoint) {state : Publishing Thread Callback} {thread : Thread}
    (idle : state.callers thread = .idle) (payload : Bytes) (now : BitVec 64) (accepted : Bool) :
    let (code, put, transport) :=
      zenbeddedTransportPublish .tier1 (some index) payload now accepted state.transport
    ∃ trace, Reaches (PublishStep index) state trace { state with transport } ∧
      transmitted trace = put.toList ∧ returned trace = [code] := by
  cases used : (state.transport.pubPool index).inUse with
  | false =>
      simp only [zenbeddedTransportPublish, used, Bool.false_eq_true, if_false]
      refine ⟨[(thread, .rejected)], Reaches.start.step (.call payload now ?_), rfl, rfl⟩
      simp [Publishing.call, idle, used]
  | true =>
      unfold zenbeddedTransportPublish
      dsimp only
      rw [if_pos used]
      let reading := state.setCaller thread (.reading payload now)
      have calls : PublishStep index state (thread, .internal) reading :=
        .call payload now (by simp [Publishing.call, idle, used, reading])
      obtain ⟨trace, rest, puts, codes, _⟩ :=
        publish_rest index (show reading.callers thread = _ from Publishing.setCaller_same ..) accepted
      have back : reading.setCaller thread .idle = state := by
        simp [Publishing.setCaller, reading, ← idle]
      rw [back] at rest
      refine ⟨_, (Reaches.start.step calls).trans rest, ?_, ?_⟩
      · rw [transmitted, List.filterMap_append]
        exact congrArg (· ++ _) puts
      · rw [returned, List.filterMap_append]
        exact congrArg (· ++ _) codes

inductive PublishAction (Thread : Type) where
  | call (thread : Thread) (payload : Bytes) (now : BitVec 64)
  | advance (thread : Thread) (accepted : Bool)
deriving Repr, DecidableEq

def Publishing.act (index : Endpoint) (action : PublishAction Thread)
    (state : Publishing Thread Callback) :
    Option ((Thread × PublishEvent) × Publishing Thread Callback) :=
  match action with
  | .call thread payload now =>
      (state.call index thread payload now).map fun (event, after) => ((thread, event), after)
  | .advance thread accepted =>
      (state.advance index thread accepted).map fun (event, after) => ((thread, event), after)

theorem Publishing.act_step {index : Endpoint} {state after : Publishing Thread Callback}
    {action : PublishAction Thread} {event : Thread × PublishEvent}
    (acted : state.act index action = some (event, after)) :
    PublishStep index state event after := by
  cases action with
  | call thread payload now =>
      obtain ⟨⟨own, last⟩, taken, result⟩ := Option.map_eq_some_iff.mp acted
      cases result
      exact .call payload now taken
  | advance thread accepted =>
      obtain ⟨⟨own, last⟩, taken, result⟩ := Option.map_eq_some_iff.mp acted
      cases result
      exact .advance accepted taken

namespace Overlap

def gid : Bytes := List.replicate 16 0

def session : ZenohTransport Unit := { ZenohTransport.start with isInitialized := true }

def publisher : Endpoint := ⟨0, by decide⟩

def transport : ZenohTransport Unit :=
  (zenbeddedTransportDeclarePublisher .tier1 [] none true gid session).2

/-- Both callers increment before either puts. -/
def actions : List (PublishAction Bool) :=
  [.advance true true, .advance false true,
    .advance true true, .advance true true, .advance true true, .call true [] 0,
    .advance false true, .advance false true, .advance false true, .call false [] 0]

def put : Put := ⟨publisher, [], some ⟨2, 0, 16, gid⟩⟩

def trace : List (Bool × PublishEvent) :=
  (true, .transmitted put 0) :: (false, .transmitted put 0) ::
    (List.replicate 4 (true, .internal) ++ List.replicate 4 (false, .internal))

theorem performed :
    (perform (Publishing.act publisher) (Publishing.start transport) actions).map Prod.fst =
      some trace := by
  decide

end Overlap

/-- Two callers are in the function at once, and the second reads its number when the first one has
put. -/
theorem numbersCount_of_careful_inTurn :
    ∃ trace state, Reaches (CarefulStep Overlap.publisher)
        (Publishing.start Overlap.transport : Publishing Bool Unit) trace state ∧
      (transmitted trace).map Put.sequenceNumber = [some 2, some 1] ∧ NumbersCount trace := by
  have declares : zenbeddedTransportDeclarePublisher .tier1 [] none true Overlap.gid
      Overlap.session = (some Overlap.publisher, Overlap.transport) := rfl
  let start : Publishing Bool Unit := Publishing.start Overlap.transport
  let first := start.setCaller true (.reading [] 0)
  let both := first.setCaller false (.reading [] 0)
  have calls : PublishStep Overlap.publisher start (true, .internal) first := .call [] 0 rfl
  have callsToo : PublishStep Overlap.publisher first (false, .internal) both := .call [] 0 rfl
  have called := (Reaches.start.step (careful_of_pc calls (by simp [start, Publishing.start]))).step
    (careful_of_pc callsToo (by simp [first, start, Publishing.setCaller, Publishing.start]))
  obtain ⟨earlier, _, puts, _, careful⟩ :=
    publish_rest Overlap.publisher (rfl : both.callers true = .reading [] 0) true
  have once := called.trans (careful (by decide) (by decide))
  let second : Publishing Bool Unit := { both.setCaller true .idle with
    transport := both.transport.setAttachment Overlap.publisher ⟨1, 0, 16, Overlap.gid⟩ }
  obtain ⟨later, _, putsToo, _, carefulToo⟩ :=
    publish_rest Overlap.publisher (rfl : second.callers false = .reading [] 0) true
  have twice := once.trans (carefulToo (by decide) (by decide))
  refine ⟨_, _, twice, ?_, numbersCount_of_careful declares twice⟩
  rw [transmitted, List.filterMap_append, List.filterMap_append]
  rw [transmitted] at puts putsToo
  rw [puts, putsToo]
  rfl

/-- Each call increments once, and both transmit the second number. -/
theorem numbers_not_always_counted :
    ¬ ∀ (before transport : ZenohTransport Unit) (topicName : Text) (typeName : Option Text)
      (accepted : Bool) (gid : Bytes) (index : Endpoint),
      zenbeddedTransportDeclarePublisher .tier1 topicName typeName accepted gid before =
        (some index, transport) →
      ∀ (trace : List (Bool × PublishEvent)) (state : Publishing Bool Unit),
        Reaches (PublishStep index) (Publishing.start transport) trace state →
        NumbersCount trace := by
  intro always
  obtain ⟨⟨trace, state⟩, performed, same⟩ := Option.map_eq_some_iff.mp Overlap.performed
  have reaches : Reaches (PublishStep Overlap.publisher) (Publishing.start Overlap.transport)
      trace state := by
    refine perform_reaches ?_ performed
    intro action before event after acted
    exact Publishing.act_step acted
  have counts := always Overlap.session Overlap.transport [] none true Overlap.gid
    Overlap.publisher rfl trace state reaches
  rw [show trace = Overlap.trace from same] at counts
  exact absurd counts.unique (by decide)

end Zenbedded.Transport
