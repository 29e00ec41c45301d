import Zenbedded.Rcl.Pacing

namespace Zenbedded.Rcl

open Zenbedded.Foundation Zenbedded.Transport

/-! # How often the state is published

The uptime that the thread has read, the publications so far and the period: a
sleep never ends before the next publication is due.
-/

variable {platform : Platform} {width : Nat} {Callback : Type}

theorem sleepMs_bounds {period diff : BitVec 32} (positive : 1 ≤ period.toNat) :
    1 ≤ (sleepMs period diff).toNat ∧ (sleepMs period diff).toNat ≤ period.toNat := by
  unfold sleepMs
  split
  · exact ⟨le_refl 1, positive⟩
  · rename_i early
    have less : diff.toNat < period.toNat := Nat.not_le.mp early
    rw [BitVec.toNat_sub_of_le (BitVec.le_def.mpr less.le)]
    omega

/-- A sleep reaches the end of the period, also where the uptime wrapped since `prev_time`. -/
theorem sleepMs_reaches {period : BitVec 32} {earlier uptime : Nat} (order : earlier ≤ uptime) :
    earlier + period.toNat ≤
      uptime + (sleepMs period (BitVec.ofNat 32 uptime - BitVec.ofNat 32 earlier)).toNat := by
  have diff : (BitVec.ofNat 32 uptime - BitVec.ofNat 32 earlier).toNat =
      (uptime - earlier) % 2 ^ 32 := by
    simp only [BitVec.toNat_sub, BitVec.toNat_ofNat]
    omega
  have wrapped := Nat.mod_le (uptime - earlier) (2 ^ 32)
  unfold sleepMs
  split
  · rename_i late
    have more : period.toNat ≤ (uptime - earlier) % 2 ^ 32 := by
      rw [← diff]
      exact late
    omega
  · rename_i early
    have less : (BitVec.ofNat 32 uptime - BitVec.ofNat 32 earlier).toNat < period.toNat :=
      Nat.not_le.mp early
    rw [BitVec.toNat_sub_of_le (BitVec.le_def.mpr less.le), diff]
    omega

theorem periodMs_toNat (controlFreq : BitVec 32) :
    (periodMs controlFreq).toNat = max (1000 / controlFreq.toNat) 1 := by
  have quotient : (1000 / controlFreq).toNat = 1000 / controlFreq.toNat := BitVec.toNat_udiv
  unfold periodMs
  split
  · rename_i large
    have more : 1 < 1000 / controlFreq.toNat := by
      rw [← quotient]
      exact large
    omega
  · rename_i small
    have less : 1000 / controlFreq.toNat ≤ 1 := by
      rw [← quotient]
      exact Nat.not_lt.mp small
    exact (max_eq_right less).symm

def Timed.isPublication (thread : Nat) (event : Timed) : Bool :=
  event.event = .lifecycle (.published thread)

def publicationsOf (thread : Nat) (trace : List Timed) : List Timed :=
  trace.filter (Timed.isPublication thread)

section

variable {clock : Clock} {thread begins : Nat} {period : BitVec 32} {trace : List Timed}

/-- At `uptime` a period has passed since `begins` for each publication. -/
def Due (clock : Clock) (thread begins : Nat) (period : BitVec 32) (trace : List Timed)
    (uptime : Nat) : Prop :=
  clock.uptime begins + (publicationsOf thread trace).length * period.toNat ≤ uptime

/-- At `time` each publication is a millisecond ago. -/
def Rested (clock : Clock) (thread : Nat) (trace : List Timed) (time : Nat) : Prop :=
  ∀ publication ∈ publicationsOf thread trace, publication.time + clock.unitsPerMs ≤ time

/-- What the thread's locals say of its publications. -/
inductive OnSchedule (clock : Clock) (thread begins : Nat) (period : BitVec 32)
    (trace : List Timed) (time : Nat) : ThreadPc → Pacing → Prop
  | waking (due : Due clock thread begins period trace (clock.uptime time))
      (rested : Rested clock thread trace time) :
      OnSchedule clock thread begins period trace time .testing .unread
  | running {pc : ThreadPc} {uptime : Nat} (runs : pc = .testing ∨ pc = .publishing ∨ pc = .putting)
      (read : uptime ≤ clock.uptime time) (due : Due clock thread begins period trace uptime)
      (rested : Rested clock thread trace time) :
      OnSchedule clock thread begins period trace time pc (.cycling (BitVec.ofNat 32 uptime))
  | sleepless {uptime : Nat} (read : uptime ≤ clock.uptime time)
      (due : Due clock thread begins period trace (uptime + period.toNat)) :
      OnSchedule clock thread begins period trace time .sleeping
        (.cycling (BitVec.ofNat 32 uptime))
  | asleep {wakes : Nat} (due : Due clock thread begins period trace (clock.uptime wakes))
      (rested : Rested clock thread trace wakes) :
      OnSchedule clock thread begins period trace time .sleeping (.asleep wakes)
  | idle {pc : ThreadPc} {pacing : Pacing} (still : pc = .notCreated ∨ pc = .entering ∨
      pc = .clearing ∨ pc = .returned ∨ pc = .reaped) :
      OnSchedule clock thread begins period trace time pc pacing

structure Schedule (clock : Clock) (thread begins : Nat) (period : BitVec 32) (trace : List Timed)
    (time : Nat) (pc : ThreadPc) (locals : Locals) : Prop where
  held : locals.periodMs = period
  onSchedule : OnSchedule clock thread begins period trace time pc locals.pacing
  limit : Due clock thread begins period trace (clock.uptime time + period.toNat)
  past : ∀ event ∈ publicationsOf thread trace, event.time ≤ time
  apart : (publicationsOf thread trace).Pairwise fun later earlier =>
    earlier.time + clock.unitsPerMs ≤ later.time
  sleeps : ∀ ms time, ⟨.sleep thread ms, time⟩ ∈ trace → 1 ≤ ms.toNat ∧ ms.toNat ≤ period.toNat

theorem publicationsOf_other (trace : List Timed) {event : Timed}
    (other : event.event ≠ .lifecycle (.published thread)) :
    publicationsOf thread (event :: trace) = publicationsOf thread trace := by
  simp [publicationsOf, Timed.isPublication, other]

theorem publicationsOf_published (thread : Nat) (trace : List Timed) (time : Nat) :
    publicationsOf thread (⟨.lifecycle (.published thread), time⟩ :: trace) =
      ⟨.lifecycle (.published thread), time⟩ :: publicationsOf thread trace := by
  simp [publicationsOf, Timed.isPublication]

theorem Due.mono {earlier later : Nat} (due : Due clock thread begins period trace earlier)
    (order : earlier ≤ later) : Due clock thread begins period trace later := Nat.le_trans due order

theorem Rested.mono {earlier later : Nat} (rested : Rested clock thread trace earlier)
    (order : earlier ≤ later) : Rested clock thread trace later :=
  fun publication member => (rested publication member).trans order

theorem OnSchedule.mono {time later : Nat} {pc : ThreadPc} {pacing : Pacing}
    (schedule : OnSchedule clock thread begins period trace time pc pacing)
    (order : time ≤ later) : OnSchedule clock thread begins period trace later pc pacing := by
  have uptime := clock.uptime_mono order
  cases schedule with
  | waking due rested => exact .waking (due.mono uptime) (rested.mono order)
  | running runs read due rested => exact .running runs (read.trans uptime) due (rested.mono order)
  | sleepless read due => exact .sleepless (read.trans uptime) due
  | asleep due rested => exact .asleep due rested
  | idle still => exact .idle still

theorem OnSchedule.congr {other : List Timed} {time : Nat} {pc : ThreadPc} {pacing : Pacing}
    (same : publicationsOf thread other = publicationsOf thread trace)
    (schedule : OnSchedule clock thread begins period trace time pc pacing) :
    OnSchedule clock thread begins period other time pc pacing := by
  have due {uptime : Nat} (due : Due clock thread begins period trace uptime) :
      Due clock thread begins period other uptime := by rwa [Due, same]
  have rested {bound : Nat} (rested : Rested clock thread trace bound) :
      Rested clock thread other bound := by rwa [Rested, same]
  cases schedule with
  | waking isDue isRested => exact .waking (due isDue) (rested isRested)
  | running runs read isDue isRested => exact .running runs read (due isDue) (rested isRested)
  | sleepless read isDue => exact .sleepless read (due isDue)
  | asleep isDue isRested => exact .asleep (due isDue) (rested isRested)
  | idle still => exact .idle still

/-- The parts that an event which is no publication can change. -/
theorem Schedule.quiet {time later : Nat} {pc next : ThreadPc} {locals after : Locals}
    {event : PacedEvent} (schedule : Schedule clock thread begins period trace time pc locals)
    (order : time ≤ later) (held : after.periodMs = locals.periodMs)
    (other : event ≠ .lifecycle (.published thread))
    (sleeps : ∀ ms, event = .sleep thread ms → 1 ≤ ms.toNat ∧ ms.toNat ≤ period.toNat)
    (onSchedule : OnSchedule clock thread begins period trace later next after.pacing) :
    Schedule clock thread begins period (⟨event, later⟩ :: trace) later next after := by
  have same : publicationsOf thread (⟨event, later⟩ :: trace) = publicationsOf thread trace :=
    publicationsOf_other trace other
  refine ⟨held.trans schedule.held, onSchedule.congr same, ?_, ?_, ?_, ?_⟩
  · rw [Due, same]
    exact schedule.limit.mono (Nat.add_le_add_right (clock.uptime_mono order) _)
  · rw [same]
    exact fun publication member => (schedule.past publication member).trans order
  · rw [same]
    exact schedule.apart
  · intro ms moment member
    rcases List.mem_cons.mp member with now | before
    · exact sleeps ms (congrArg Timed.event now).symm
    · exact schedule.sleeps ms moment before

theorem Schedule.publish {time later : Nat} {locals : Locals}
    (schedule : Schedule clock thread begins period trace time .putting locals)
    (order : time ≤ later) :
    Schedule clock thread begins period (⟨.lifecycle (.published thread), later⟩ :: trace) later
      .sleeping locals := by
  obtain ⟨held, onSchedule, limit, past, apart, sleeps⟩ := schedule
  have published := publicationsOf_published thread trace later
  have counted {uptime : Nat} (due : Due clock thread begins period trace uptime) :
      Due clock thread begins period (⟨.lifecycle (.published thread), later⟩ :: trace)
        (uptime + period.toNat) := by
    rw [Due, published, List.length_cons, Nat.succ_mul, ← Nat.add_assoc]
    exact Nat.add_le_add_right due _
  obtain ⟨moment, pacing⟩ := locals
  cases onSchedule with
  | running runs read due rested =>
      have uptime := read.trans (clock.uptime_mono order)
      refine ⟨held, .sleepless uptime (counted due), ?_, ?_, ?_, ?_⟩
      · exact (counted due).mono (Nat.add_le_add_right uptime _)
      · rw [published]
        intro publication member
        rcases List.mem_cons.mp member with rfl | before
        · exact le_refl later
        · exact (past publication before).trans order
      · rw [published]
        exact List.pairwise_cons.mpr ⟨rested.mono order, apart⟩
      · intro ms moment member
        rcases List.mem_cons.mp member with now | before
        · cases now
        · exact sleeps ms moment before
  | idle still => simp at still

theorem Schedule.elsewhere {time later : Nat} {pc next : ThreadPc} {locals : Locals}
    {event : PacedEvent} (schedule : Schedule clock thread begins period trace time pc locals)
    (order : time ≤ later) (foreign : event.Foreign thread)
    (pcs : next = pc ∨ next = .entering ∨ next = .reaped) :
    Schedule clock thread begins period (⟨event, later⟩ :: trace) later next locals := by
  refine schedule.quiet order rfl ?_ ?_ ?_
  · rintro rfl
    exact foreign rfl
  · rintro ms rfl
    exact (foreign rfl).elim
  · rcases pcs with rfl | rfl | rfl
    · exact schedule.onSchedule.mono order
    · exact .idle (by simp)
    · exact .idle (by simp)

theorem Schedule.pace {time later : Nat} {pc next : ThreadPc} {locals after : Locals}
    {event : PacedEvent} (positive : 1 ≤ period.toNat)
    (schedule : Schedule clock thread begins period trace time pc locals) (order : time ≤ later)
    (step : PaceStep clock thread later pc locals event next after)
    (undivided : ∀ controlFreq, event ≠ .lifecycle (.divided thread controlFreq)) :
    Schedule clock thread begins period (⟨event, later⟩ :: trace) later next after := by
  have onSchedule := schedule.onSchedule
  have uptime := clock.uptime_mono order
  cases step with
  | divides => exact (undivided _ rfl).elim
  | starts unread =>
      refine schedule.quiet order rfl (by simp) (by simp) ?_
      rw [unread] at onSchedule
      cases onSchedule with
      | waking due rested =>
          exact .running (Or.inl rfl) (le_refl _) (due.mono uptime) (rested.mono order)
      | idle still => simp at still
  | moves runs cycling goes =>
      refine schedule.quiet order rfl (by simp) (by simp) ?_
      obtain ⟨moment, pacing⟩ := locals
      cases onSchedule with
      | waking => exact absurd (cycling rfl) (by simp)
      | @running _ read test isRead due rested =>
          rcases goes with rfl | rfl | rfl | rfl
          · exact .running (by simp) (isRead.trans uptime) due (rested.mono order)
          · exact .running (by simp) (isRead.trans uptime) due (rested.mono order)
          · exact .sleepless (isRead.trans uptime) (due.mono (Nat.le_add_right _ _))
          · exact .idle (by simp)
      | sleepless | asleep => simp at runs
      | idle still => rcases runs with rfl | rfl <;> simp at still
  | publishes => exact schedule.publish order
  | @sleeps _ prevTime ms cycling asked =>
      have bounds : 1 ≤ ms.toNat ∧ ms.toNat ≤ period.toNat := by
        rw [asked, schedule.held]
        exact sleepMs_bounds positive
      refine schedule.quiet order rfl (by simp) ?_ ?_
      · intro other same
        cases same
        exact bounds
      rw [cycling] at onSchedule
      cases onSchedule with
      | @sleepless read isRead due =>
          refine .asleep ?_ ?_
          · rw [clock.uptime_add, asked, schedule.held]
            exact due.mono (sleepMs_reaches (isRead.trans uptime))
          · intro publication member
            have past := (schedule.past publication member).trans order
            exact Nat.add_le_add past (Nat.le_mul_of_pos_left _ bounds.1)
      | running runs => simp at runs
      | idle still => simp at still
  | wakes asleep due =>
      refine schedule.quiet order rfl (by simp) (by simp) ?_
      rw [asleep] at onSchedule
      cases onSchedule with
      | asleep isDue rested => exact .waking (isDue.mono (clock.uptime_mono due)) (rested.mono due)
      | idle still => simp at still
  | returns => exact schedule.quiet order rfl (by simp) (by simp) (.idle (by simp))

theorem PaceStep.divided {time : Nat} {pc next : ThreadPc} {locals after : Locals}
    {controlFreq : BitVec 32}
    (step : PaceStep clock thread time pc locals (.lifecycle (.divided thread controlFreq)) next
      after) : controlFreq ≠ 0 ∧ next = .testing ∧ after = ⟨periodMs controlFreq, .unread⟩ := by
  cases step with
  | divides defined => exact ⟨defined, rfl, rfl⟩

theorem schedule_divided (clock : Clock) (thread begins : Nat) (period : BitVec 32) :
    Schedule clock thread begins period [] begins .testing ⟨period, .unread⟩ := by
  refine ⟨rfl, .waking (by simp [Due, publicationsOf]) ?_, ?_, ?_, .nil, ?_⟩
  · intro publication member
    cases member
  · simp [Due, publicationsOf]
  · intro publication member
    cases member
  · intro ms moment member
    cases member

theorem schedule_reaches {config : Config} {onTransportCmdCb : Callback}
    {middle paced : Paced platform width Callback} (positive : 1 ≤ period.toNat)
    (divided : Schedule clock thread begins period [] middle.time
      (middle.lifecycle.threads thread) (middle.locals thread))
    (reaches : Reaches (Paced.Step clock config onTransportCmdCb) middle trace paced)
    (undivided : ∀ event ∈ trace, ∀ controlFreq,
      event.event ≠ .lifecycle (.divided thread controlFreq)) :
    Schedule clock thread begins period trace paced.time (paced.lifecycle.threads thread)
      (paced.locals thread) := by
  induction reaches with
  | start => exact divided
  | @step trace paced event after _ step inductionHypothesis =>
      have schedule := inductionHypothesis fun event member =>
        undivided event (List.mem_cons_of_mem _ member)
      obtain ⟨order, time, elsewhere | own⟩ := paced_step thread step
      · rw [time, elsewhere.locals]
        exact schedule.elsewhere order elsewhere.event elsewhere.pc
      · rw [time]
        exact schedule.pace positive order own (undivided event List.mem_cons_self)

end

/-- The integer division makes the period too short for some frequencies: 300 Hz publishes at
333 Hz, and everything from 501 Hz at 1000 Hz. -/
theorem requested_iff {controlFreq : Nat} (positive : 0 < controlFreq) :
    (∀ elapsed, elapsed / max (1000 / controlFreq) 1 ≤ elapsed * controlFreq / 1000) ↔
      controlFreq ∣ 1000 ∨ 1000 ≤ controlFreq := by
  constructor
  · intro bounded
    by_cases large : 1000 ≤ controlFreq
    · exact Or.inr large
    · have whole : 1 ≤ 1000 / controlFreq := (Nat.le_div_iff_mul_le positive).mpr (by omega)
      have one := bounded (1000 / controlFreq)
      rw [max_eq_left whole, Nat.div_self whole, Nat.le_div_iff_mul_le (by decide)] at one
      have exact : 1000 / controlFreq * controlFreq = 1000 :=
        Nat.le_antisymm (Nat.div_mul_le_self 1000 controlFreq) (by omega)
      exact Or.inl ⟨1000 / controlFreq, by rw [Nat.mul_comm, exact]⟩
  · intro divides elapsed
    have enough : 1000 ≤ max (1000 / controlFreq) 1 * controlFreq := by
      rcases divides with exact | large
      · calc 1000 = 1000 / controlFreq * controlFreq := (Nat.div_mul_cancel exact).symm
          _ ≤ max (1000 / controlFreq) 1 * controlFreq :=
            Nat.mul_le_mul_right _ (Nat.le_max_left _ _)
      · calc 1000 ≤ 1 * controlFreq := by omega
          _ ≤ max (1000 / controlFreq) 1 * controlFreq :=
            Nat.mul_le_mul_right _ (Nat.le_max_right _ _)
    rw [Nat.le_div_iff_mul_le (by decide)]
    calc elapsed / max (1000 / controlFreq) 1 * 1000
        ≤ elapsed / max (1000 / controlFreq) 1 * (max (1000 / controlFreq) 1 * controlFreq) :=
          Nat.mul_le_mul_left _ enough
      _ = elapsed / max (1000 / controlFreq) 1 * max (1000 / controlFreq) 1 * controlFreq :=
          (Nat.mul_assoc ..).symm
      _ ≤ elapsed * controlFreq := Nat.mul_le_mul_right _ (Nat.div_mul_le_self _ _)

/-- The publications of a thread since it divided by `controlFreq`. -/
structure PacingGuarantees (clock : Clock) (thread begins : Nat) (controlFreq : BitVec 32)
    (trace : List Timed) (time : Nat) : Prop where
  rate : (publicationsOf thread trace).length ≤
    1 + (clock.uptime time - clock.uptime begins) / max (1000 / controlFreq.toNat) 1
  requested : controlFreq.toNat ∣ 1000 ∨ 1000 ≤ controlFreq.toNat →
    (publicationsOf thread trace).length ≤
      1 + (clock.uptime time - clock.uptime begins) * controlFreq.toNat / 1000
  /-- The thread never spins, however slow its publications are. -/
  apart : (publicationsOf thread trace).Pairwise fun later earlier =>
    earlier.time + clock.unitsPerMs ≤ later.time
  sleeps : ∀ ms time, ⟨.sleep thread ms, time⟩ ∈ trace →
    1 ≤ ms.toNat ∧ ms.toNat ≤ max (1000 / controlFreq.toNat) 1

theorem pacing_guarantees {clock : Clock} {config : Config} {onTransportCmdCb : Callback}
    {thread begins : Nat} {controlFreq : BitVec 32} {newer older : List Timed}
    {paced : Paced platform width Callback}
    (reaches : Reaches (Paced.Step clock config onTransportCmdCb) (Paced.start config)
      (newer ++ ⟨.lifecycle (.divided thread controlFreq), begins⟩ :: older) paced)
    (undivided : ∀ event ∈ newer, ∀ other, event.event ≠ .lifecycle (.divided thread other)) :
    PacingGuarantees clock thread begins controlFreq newer paced.time := by
  have positive : 1 ≤ (periodMs controlFreq).toNat := by
    rw [periodMs_toNat]
    exact Nat.le_max_right _ _
  obtain ⟨middle, prior, later⟩ := reaches.split
  have divided : controlFreq ≠ 0 ∧ Schedule clock thread begins (periodMs controlFreq) []
      middle.time (middle.lifecycle.threads thread) (middle.locals thread) := by
    cases prior with
    | step _ step =>
        obtain ⟨_, time, elsewhere | own⟩ := paced_step thread step
        · exact (elsewhere.event rfl).elim
        · obtain ⟨defined, testing, unread⟩ := own.divided
          rw [time, testing, unread]
          exact ⟨defined, schedule_divided clock thread begins _⟩
  obtain ⟨defined, divided⟩ := divided
  have schedule := schedule_reaches positive divided later undivided
  have nonzero : 0 < controlFreq.toNat :=
    Nat.pos_of_ne_zero fun zero => defined (BitVec.eq_of_toNat_eq zero)
  have rate : (publicationsOf thread newer).length ≤
      1 + (clock.uptime paced.time - clock.uptime begins) / max (1000 / controlFreq.toNat) 1 := by
    have limit := schedule.limit
    rw [Due, periodMs_toNat] at limit
    rw [← Nat.sub_le_iff_le_add', Nat.le_div_iff_mul_le (by omega), Nat.sub_mul]
    omega
  refine ⟨rate, ?_, schedule.apart, ?_⟩
  · intro divides
    exact rate.trans (Nat.add_le_add_left ((requested_iff nonzero).mpr divides _) 1)
  · intro ms time member
    rw [← periodMs_toNat]
    exact schedule.sleeps ms time member

namespace PublishTwice

/-- `init` at 300 Hz, and two publications that take no time. -/
def actions : List (PacedAction Platform.host64 × Nat) :=
  List.flatten [[(.application (.call (.init ⟨some [], true, true, []⟩ 300 0 0)), 0)],
    List.replicate 12 (.application (.statement true), 0), [(.thread 1 [] 0 true, 0)],
    [(.uptime 1, 0)], List.replicate 3 (.thread 1 [] 0 true, 0), [(.uptime 1, 0)],
    [(.thread 1 [] 0 true, 3000), (.uptime 1, 3000)],
    List.replicate 3 (.thread 1 [] 0 true, 3000)]

def clock : Clock := ⟨1000, by decide⟩

/-- After the division. -/
def events : List Timed :=
  [⟨.lifecycle (.published 1), 3000⟩, ⟨.lifecycle .internal, 3000⟩, ⟨.lifecycle .internal, 3000⟩,
    ⟨.cycle 1, 3000⟩, ⟨.lifecycle .internal, 3000⟩, ⟨.sleep 1 3, 0⟩,
    ⟨.lifecycle (.published 1), 0⟩, ⟨.lifecycle .internal, 0⟩, ⟨.lifecycle .internal, 0⟩,
    ⟨.cycle 1, 0⟩]

theorem performed : ∃ older paced,
    perform (Paced.act clock Config.tier1Default ()) (Paced.start Config.tier1Default :
      Paced Platform.host64 32 Unit) actions.reverse =
        some (events ++ ⟨.lifecycle (.divided 1 300), 0⟩ :: older, paced) ∧ paced.time = 3000 :=
  ⟨_, _, rfl, rfl⟩

end PublishTwice

/-- More often than 300 times a second. -/
theorem pacing_guarantees_publishTwice :
    PacingGuarantees PublishTwice.clock 1 0 300 PublishTwice.events 3000 ∧
      ¬ (publicationsOf 1 PublishTwice.events).length ≤ 1 + 3 * 300 / 1000 := by
  obtain ⟨older, paced, performed, time⟩ := PublishTwice.performed
  have reaches : Reaches (Paced.Step PublishTwice.clock Config.tier1Default ())
      (Paced.start Config.tier1Default : Paced Platform.host64 32 Unit)
      (PublishTwice.events ++ ⟨.lifecycle (.divided 1 300), 0⟩ :: older) paced :=
    perform_reaches (fun action _ _ _ acted => ⟨action, acted⟩) performed
  have guarantees := pacing_guarantees reaches (by simp [PublishTwice.events])
  rw [time] at guarantees
  exact ⟨guarantees, by decide⟩

end Zenbedded.Rcl
