import Mathlib.Data.List.Nodup
import Zenbedded.Transport.PoolRuns

namespace Zenbedded.Transport

open Zenbedded.Foundation

/-! # Endpoint pools over whole runs

A slot is in use as long as Zenoh holds its endpoint, and a handle stands for
one declaration only until the next `destroy`.
-/

variable {Callback : Type} {tier : Tier} {trace : List (Served Callback)}
  {transport : ZenohTransport Callback}

theorem mem_slots (slot : Slot) : slot ∈ slots := by
  cases slot with
  | pub index => simp [slots]
  | sub index => simp [slots]

theorem slots_nodup : slots.Nodup := by
  refine List.Nodup.append ?_ ?_ ?_
  · exact (List.nodup_finRange maxEndpoints).map fun _ _ same => Slot.pub.inj same
  · exact (List.nodup_finRange maxEndpoints).map fun _ _ same => Slot.sub.inj same
  · intro slot inPubs inSubs
    obtain ⟨index, _, isPub⟩ := List.mem_map.mp inPubs
    obtain ⟨other, _, isSub⟩ := List.mem_map.mp inSubs
    subst isPub
    contradiction

theorem mem_destroyCalls {call : ZenohCall} : call ∈ destroyCalls transport ↔
    transport.isInitialized = true ∧
      ∃ slot, transport.inUse slot = true ∧ call = .undeclare slot := by
  cases opened : transport.isInitialized with
  | false => simp [destroyCalls, opened]
  | true =>
      simp only [destroyCalls, opened, ↓reduceIte, List.mem_map, List.mem_filter, mem_slots,
        true_and]
      constructor
      · intro member
        obtain ⟨slot, used, same⟩ := member
        exact ⟨slot, used, same.symm⟩
      · intro member
        obtain ⟨slot, used, same⟩ := member
        exact ⟨slot, used, same.symm⟩

theorem destroyCalls_nodup : (destroyCalls transport).Nodup := by
  unfold destroyCalls
  split
  · exact (slots_nodup.filter _).map fun _ _ same => ZenohCall.undeclare.inj same
  · exact List.nodup_nil

theorem destroy_inUse (slot : Slot) : (zenbeddedTransportDestroy transport).inUse slot =
    (!transport.isInitialized && transport.inUse slot) := by
  unfold zenbeddedTransportDestroy
  cases opened : transport.isInitialized with
  | false => simp
  | true =>
      cases slot with
      | pub index =>
          simp only [ZenohTransport.inUse, ZenohTransport.flag]
          cases used : (transport.pubPool index).inUse with
          | false => simp [used]
          | true => simp [used]
      | sub index =>
          simp only [ZenohTransport.inUse, ZenohTransport.flag]
          cases used : (transport.subPool index).inUse with
          | false => simp [used]
          | true => simp [used]

theorem destroy_declared (flagged : transport.declared = transport.inUse) :
    (zenbeddedTransportDestroy transport).declared = (zenbeddedTransportDestroy transport).inUse := by
  unfold zenbeddedTransportDestroy
  cases opened : transport.isInitialized with
  | false => exact flagged
  | true =>
      funext slot
      have agrees := congrFun flagged slot
      cases slot with
      | pub index =>
          simp only [ZenohTransport.declared, ZenohTransport.inUse, ZenohTransport.flag] at agrees ⊢
          cases used : (transport.pubPool index).inUse with
          | false => simp [used, agrees]
          | true => simp [used]
      | sub index =>
          simp only [ZenohTransport.declared, ZenohTransport.inUse, ZenohTransport.flag] at agrees ⊢
          cases used : (transport.subPool index).inUse with
          | false => simp [used, agrees]
          | true => simp [used]

theorem zenohCalls_cons (served : Served Callback) :
    zenohCalls (served :: trace) = served.calls.reverse ++ zenohCalls trace :=
  List.flatMap_cons

theorem handles_kept {served : Served Callback} (running : served.isDestroy = false)
    (nothing : served.returned = none) : handles (served :: trace) = handles trace := by
  rw [handles, since_unmarked running, List.filterMap_cons_none nothing, handles]

theorem handles_taken {served : Served Callback} {slot : Slot}
    (running : served.isDestroy = false) (returned : served.returned = some slot) :
    handles (served :: trace) = slot :: handles trace := by
  rw [handles, since_unmarked running, List.filterMap_cons_some returned, handles]

theorem handles_swept {served : Served Callback} (destroying : served.isDestroy = true) :
    handles (served :: trace) = [] := by
  rw [handles, since_marked destroying, List.filterMap_nil]

theorem concerns_iff {slot : Slot} {call : ZenohCall} :
    call.concerns slot = true ↔ call = .declare slot ∨ call = .undeclare slot := by
  cases call with
  | declare other => simp [ZenohCall.concerns]
  | undeclare other => simp [ZenohCall.concerns]
  | put index => simp [ZenohCall.concerns]

/-- Declarations of a slot and, for each but the current one, its undeclaration. -/
def Balanced (trace : List (Served Callback)) (inUse : Slot → Bool) (slot : Slot) : Prop :=
  (zenohCalls trace).count (.declare slot) =
    (zenohCalls trace).count (.undeclare slot) + (inUse slot).toNat

structure PoolsSound (trace : List (Served Callback)) (transport : ZenohTransport Callback) :
    Prop where
  closed : transport.isInitialized = false → ∀ slot, transport.inUse slot = false
  flagged : transport.declared = transport.inUse
  recorded : ∀ slot, transport.inUse slot = true ↔ CurrentlyDeclared trace slot
  returned : ∀ slot, slot ∈ handles trace ↔ transport.inUse slot = true
  distinct : (handles trace).Nodup
  balanced : ∀ slot, Balanced trace transport.inUse slot

theorem poolsSound_start : PoolsSound [] (ZenohTransport.start : ZenohTransport Callback) := by
  have free : ∀ slot, (ZenohTransport.start : ZenohTransport Callback).inUse slot = false := by
    intro slot
    cases slot with
    | pub index => rfl
    | sub index => rfl
  refine ⟨fun _ => free, ?_, ?_, ?_, List.nodup_nil, ?_⟩
  · funext slot
    cases slot with
    | pub index => rfl
    | sub index => rfl
  · intro slot
    simp [free slot, CurrentlyDeclared, zenohCalls]
  · intro slot
    simp [free slot, handles, since]
  · intro slot
    simp [Balanced, free slot, zenohCalls]

section

variable {served : Served Callback} {after : ZenohTransport Callback}
  (sound : PoolsSound trace transport)

include sound

theorem PoolsSound.undeclares_iff (slot : Slot) :
    .undeclare slot ∈ destroyCalls transport ↔ transport.inUse slot = true := by
  rw [mem_destroyCalls]
  constructor
  · intro member
    obtain ⟨_, other, used, same⟩ := member
    rw [ZenohCall.undeclare.inj same]
    exact used
  · intro used
    refine ⟨?_, slot, used, rfl⟩
    cases opened : transport.isInitialized with
    | false => rw [sound.closed opened slot] at used; contradiction
    | true => rfl

theorem PoolsSound.count_destroyCalls (slot : Slot) :
    (destroyCalls transport).count (.undeclare slot) = (transport.inUse slot).toNat := by
  rw [destroyCalls_nodup.count]
  cases used : transport.inUse slot with
  | false => rw [if_neg (by rw [sound.undeclares_iff slot, used]; decide)]; rfl
  | true => rw [if_pos ((sound.undeclares_iff slot).mpr used)]; rfl

theorem PoolsSound.freed (slot : Slot) :
    (zenbeddedTransportDestroy transport).inUse slot = false := by
  rw [destroy_inUse]
  cases opened : transport.isInitialized with
  | false => simp [sound.closed opened slot]
  | true => rfl

theorem PoolsSound.kept (running : served.isDestroy = false)
    (nothing : served.returned = none)
    (quiet : ∀ slot, ∀ call ∈ served.calls, call.concerns slot = false)
    (sameUse : after.inUse = transport.inUse) (sameDeclared : after.declared = transport.declared)
    (session : transport.isInitialized = true → after.isInitialized = true) :
    PoolsSound (served :: trace) after := by
  have unseen : ∀ slot, ∀ call ∈ served.calls.reverse, ¬ call.concerns slot = true := by
    intro slot call member
    rw [quiet slot call (List.mem_reverse.mp member)]
    decide
  have uncounted : ∀ slot call, call.concerns slot = true →
      served.calls.reverse.count call = 0 := by
    intro slot call concerned
    exact List.count_eq_zero.mpr fun member => unseen slot call member concerned
  refine ⟨?_, by rw [sameUse, sameDeclared, sound.flagged], ?_, ?_, ?_, ?_⟩
  · intro closed slot
    rw [sameUse]
    refine sound.closed ?_ slot
    cases opened : transport.isInitialized with
    | false => rfl
    | true => rw [session opened] at closed; contradiction
  · intro slot
    rw [sameUse, sound.recorded slot, CurrentlyDeclared, CurrentlyDeclared, zenohCalls_cons,
      List.find?_append, List.find?_eq_none.mpr (unseen slot), Option.none_or]
  · intro slot
    rw [sameUse, handles_kept running nothing, sound.returned slot]
  · rw [handles_kept running nothing]
    exact sound.distinct
  · intro slot
    have before := sound.balanced slot
    rw [Balanced, zenohCalls_cons, List.count_append, List.count_append,
      uncounted slot _ (concerns_iff.mpr (Or.inl rfl)),
      uncounted slot _ (concerns_iff.mpr (Or.inr rfl)), sameUse, Nat.zero_add, Nat.zero_add]
    exact before

theorem PoolsSound.taken {slot : Slot} (running : served.isDestroy = false)
    (returned : served.returned = some slot) (call : served.calls = [.declare slot])
    (unused : transport.inUse slot = false)
    (use : after.inUse = Function.update transport.inUse slot true)
    (declared : after.declared = Function.update transport.declared slot true)
    (session : after.isInitialized = true) : PoolsSound (served :: trace) after := by
  have calls : zenohCalls (served :: trace) = .declare slot :: zenohCalls trace := by
    rw [zenohCalls_cons, call, List.reverse_singleton, List.singleton_append]
  refine ⟨?_, by rw [use, declared, sound.flagged], ?_, ?_, ?_, ?_⟩
  · intro closed
    rw [session] at closed
    contradiction
  · intro other
    by_cases here : other = slot
    · subst here
      simp [use, CurrentlyDeclared, calls, ZenohCall.concerns]
    · rw [use, Function.update_of_ne here, sound.recorded other, CurrentlyDeclared,
        CurrentlyDeclared, calls, List.find?_cons_of_neg]
      simpa [ZenohCall.concerns] using Ne.symm here
  · intro other
    rw [handles_taken running returned, List.mem_cons, sound.returned other, use]
    by_cases here : other = slot
    · subst here
      simp
    · simp [here]
  · rw [handles_taken running returned, List.nodup_cons]
    refine ⟨?_, sound.distinct⟩
    rw [sound.returned slot, unused]
    decide
  · intro other
    have before := sound.balanced other
    rw [Balanced] at before ⊢
    rw [calls, List.count_cons, List.count_cons, use]
    by_cases here : other = slot
    · subst here
      simp [before, unused]
    · simp [before, here, Ne.symm here]

theorem PoolsSound.swept (destroying : served.isDestroy = true)
    (calls : served.calls = destroyCalls transport)
    (destroyed : after = zenbeddedTransportDestroy transport) :
    PoolsSound (served :: trace) after := by
  have free : ∀ slot, after.inUse slot = false := by
    intro slot
    rw [destroyed]
    exact sound.freed slot
  have undeclared : ∀ slot call, call ∈ destroyCalls transport → call.concerns slot = true →
      call = .undeclare slot := by
    intro slot call member concerned
    obtain ⟨_, other, _, same⟩ := mem_destroyCalls.mp member
    rcases concerns_iff.mp concerned with isDeclare | isUndeclare
    · rw [same] at isDeclare
      contradiction
    · exact isUndeclare
  refine ⟨fun _ => free, ?_, ?_, ?_, ?_, ?_⟩
  · rw [destroyed]
    exact destroy_declared sound.flagged
  · intro slot
    rw [free slot, CurrentlyDeclared, zenohCalls_cons, List.find?_append, calls]
    cases found : (destroyCalls transport).reverse.find? (ZenohCall.concerns slot) with
    | none =>
        have absent : ¬ transport.inUse slot = true := by
          intro used
          have member := (sound.undeclares_iff slot).mpr used
          exact List.find?_eq_none.mp found _ (List.mem_reverse.mpr member)
            (concerns_iff.mpr (Or.inr rfl))
        rw [sound.recorded slot, CurrentlyDeclared] at absent
        simpa using absent
    | some call =>
        have member := List.mem_reverse.mp (List.mem_of_find?_eq_some found)
        rw [undeclared slot call member (List.find?_some found)]
        simp
  · intro slot
    rw [handles_swept destroying, free slot]
    simp
  · rw [handles_swept destroying]
    exact List.nodup_nil
  · intro slot
    have before := sound.balanced slot
    have notDeclared : (destroyCalls transport).count (.declare slot) = 0 := by
      refine List.count_eq_zero.mpr fun member => ?_
      obtain ⟨_, _, _, same⟩ := mem_destroyCalls.mp member
      contradiction
    rw [Balanced] at before ⊢
    rw [zenohCalls_cons, List.count_append, List.count_append, List.count_reverse,
      List.count_reverse, calls, sound.count_destroyCalls slot, notDeclared, free slot, before]
    simp only [Bool.toNat_false]
    omega

end

theorem poolsSound_of_reaches (reached : Reaches (Served.step tier) ZenohTransport.start trace
    transport) : PoolsSound trace transport := by
  apply reached.invariant PoolsSound poolsSound_start
  intro trace before served after sound taken
  cases Served.step_effect taken with
  | kept running nothing quiet sameUse sameDeclared session =>
      exact sound.kept running nothing quiet sameUse sameDeclared session
  | taken slot running returned call unused use declared session =>
      exact sound.taken running returned call unused use declared session
  | swept destroying nothing calls destroyed => exact sound.swept destroying calls destroyed

theorem handle_none_iff {kind : Endpoint → Slot} {handle : Option Endpoint} :
    Answer.handle (handle.map kind) = .handle none ↔ handle = none := by
  simp

theorem declarePublisher_null_iff (topicName : Text) (typeName : Option Text) (accepted : Bool)
    (gid : Bytes) :
    (serve tier transport (.declarePublisher topicName typeName accepted gid)).1 = .handle none ↔
      transport.isInitialized = false ∨ (∀ index, transport.inUse (.pub index) = true) ∨
        accepted = false := by
  rw [← (declarePublisher_outcome (rfl : zenbeddedTransportDeclarePublisher tier topicName typeName
    accepted gid transport = _)).null_iff]
  exact handle_none_iff

theorem declareSubscriber_null_iff (topicName : Text) (typeName : Option Text)
    (callback : Callback) (accepted : Bool) :
    (serve tier transport (.declareSubscriber topicName typeName callback accepted)).1 =
        .handle none ↔
      transport.isInitialized = false ∨ (∀ index, transport.inUse (.sub index) = true) ∨
        accepted = false := by
  rw [← (declareSubscriber_outcome (rfl : zenbeddedTransportDeclareSubscriber tier topicName
    typeName callback accepted transport = _)).1.null_iff]
  exact handle_none_iff

theorem null_keeps_use {served : Served Callback} {after : ZenohTransport Callback}
    (taken : Served.step tier transport served after) (running : served.isDestroy = false)
    (null : served.answer = .handle none) : after.inUse = transport.inUse := by
  have nothing : served.returned = none := by rw [Served.returned, null]; rfl
  cases Served.step_effect taken with
  | kept _ _ _ sameUse _ _ => exact sameUse
  | taken slot _ returned _ _ _ _ _ =>
      rw [nothing] at returned
      contradiction
  | swept destroying _ _ _ =>
      rw [running] at destroying
      contradiction

theorem undeclare_only_by_destroy {served : Served Callback} {after : ZenohTransport Callback}
    (taken : Served.step tier transport served after) (running : served.isDestroy = false)
    (slot : Slot) : .undeclare slot ∉ served.calls := by
  intro member
  cases Served.step_effect taken with
  | kept _ _ quiet _ _ _ =>
      have unconcerned := quiet slot _ member
      rw [concerns_iff.mpr (Or.inr rfl)] at unconcerned
      contradiction
  | taken other _ _ call _ _ _ _ =>
      rw [call] at member
      simp at member
  | swept destroying _ _ _ =>
      rw [running] at destroying
      contradiction

/-- What the pools promise to the next caller. -/
structure PoolsKept (tier : Tier) (trace : List (Served Callback))
    (transport : ZenohTransport Callback) : Prop where
  inUse_iff_declared : ∀ slot, transport.inUse slot = true ↔ CurrentlyDeclared trace slot
  handles_distinct : (handles trace).Nodup
  publisher_null : ∀ topicName typeName accepted gid,
    (serve tier transport (.declarePublisher topicName typeName accepted gid)).1 = .handle none ↔
      transport.isInitialized = false ∨ (∀ index, transport.inUse (.pub index) = true) ∨
        accepted = false
  subscriber_null : ∀ topicName typeName callback accepted,
    (serve tier transport (.declareSubscriber topicName typeName callback accepted)).1 =
        .handle none ↔
      transport.isInitialized = false ∨ (∀ index, transport.inUse (.sub index) = true) ∨
        accepted = false
  null_keeps_use : ∀ served after, Served.step tier transport served after →
    served.isDestroy = false → served.answer = .handle none → after.inUse = transport.inUse
  balanced : ∀ slot, Balanced trace transport.inUse slot
  undeclared_by_destroy : ∀ served after, Served.step tier transport served after → ∀ slot,
    served.calls.count (.undeclare slot) =
      if served.isDestroy then (transport.inUse slot).toNat else 0
  freed_by_destroy : ∀ served after, Served.step tier transport served after →
    served.isDestroy = true → ∀ slot, after.inUse slot = false
  old_handle : ∀ index, .pub index ∉ handles trace → ∀ payload now accepted,
    serve tier transport (.publish (some index) payload now accepted) = (.code (-1), [], transport)

theorem PoolsSound.poolsKept (sound : PoolsSound trace transport) :
    PoolsKept tier trace transport := by
  refine
    { inUse_iff_declared := sound.recorded
      handles_distinct := sound.distinct
      publisher_null := fun topicName typeName accepted gid =>
        declarePublisher_null_iff topicName typeName accepted gid
      subscriber_null := fun topicName typeName callback accepted =>
        declareSubscriber_null_iff topicName typeName callback accepted
      null_keeps_use := fun _ _ taken running null => null_keeps_use taken running null
      balanced := sound.balanced
      undeclared_by_destroy := ?_
      freed_by_destroy := ?_
      old_handle := ?_ }
  · intro served after taken slot
    cases destroying : served.isDestroy with
    | false =>
        exact List.count_eq_zero.mpr (undeclare_only_by_destroy taken destroying slot)
    | true =>
        cases Served.step_effect taken with
        | kept running _ _ _ _ _ => rw [destroying] at running; contradiction
        | taken _ running _ _ _ _ _ _ => rw [destroying] at running; contradiction
        | swept _ _ calls _ =>
            rw [calls]
            exact sound.count_destroyCalls slot
  · intro served after taken destroying slot
    cases Served.step_effect taken with
    | kept running _ _ _ _ _ => rw [destroying] at running; contradiction
    | taken _ running _ _ _ _ _ _ => rw [destroying] at running; contradiction
    | swept _ _ _ destroyed =>
        rw [destroyed]
        exact sound.freed slot
  · intro index unreturned payload now accepted
    have unused : transport.inUse (.pub index) = false := by
      rw [sound.returned] at unreturned
      exact Bool.eq_false_of_not_eq_true unreturned
    simp only [serve, publish_unused unused, Option.map_none, Option.toList_none]

theorem pools_kept (tier : Tier) (requests : List (Request Callback)) :
    let served := serveAll tier [] ZenohTransport.start requests
    PoolsKept tier served.1 served.2 :=
  (poolsSound_of_reaches (serveAll_reaches .start requests)).poolsKept

end Zenbedded.Transport
