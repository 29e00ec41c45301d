import Zenbedded.Transport.ZenohTransport

namespace Zenbedded.Transport

open Zenbedded.Foundation

/-! # What a declaration does to the pools

One inversion lemma for each transport call.  Both declarations do the same, each to its
own pool, so that what follows from it is said once for either kind of endpoint.
-/

variable {Callback : Type}

inductive Slot where
  | pub (index : Endpoint)
  | sub (index : Endpoint)
deriving Repr, DecidableEq

namespace ZenohTransport

def flag (ofPub : ZenbeddedPub → Bool) (ofSub : ZenbeddedSub Callback → Bool)
    (transport : ZenohTransport Callback) : Slot → Bool
  | .pub index => ofPub (transport.pubPool index)
  | .sub index => ofSub (transport.subPool index)

def inUse (transport : ZenohTransport Callback) : Slot → Bool :=
  transport.flag ZenbeddedPub.inUse ZenbeddedSub.inUse

def declared (transport : ZenohTransport Callback) : Slot → Bool :=
  transport.flag ZenbeddedPub.declared ZenbeddedSub.declared

def key (transport : ZenohTransport Callback) : Slot → Text
  | .pub index => (transport.pubPool index).topicKeyexpr
  | .sub index => (transport.subPool index).topicKeyexpr

end ZenohTransport

/-- Session and slots in use are the same. -/
structure SameResources (before after : ZenohTransport Callback) : Prop where
  session : after.isInitialized = before.isInitialized
  pubs : ∀ index, (after.pubPool index).inUse = (before.pubPool index).inUse
  subs : ∀ index, (after.subPool index).inUse = (before.subPool index).inUse

namespace SameResources

theorem refl (transport : ZenohTransport Callback) : SameResources transport transport :=
  ⟨rfl, fun _ => rfl, fun _ => rfl⟩

theorem trans {first second third : ZenohTransport Callback}
    (left : SameResources first second) (right : SameResources second third) :
    SameResources first third :=
  ⟨right.session.trans left.session, fun index => (right.pubs index).trans (left.pubs index),
    fun index => (right.subs index).trans (left.subs index)⟩

end SameResources

def PubSlotFree (transport : ZenohTransport Callback) : Prop :=
  ∃ index, (transport.pubPool index).inUse = false

def SubSlotFree (transport : ZenohTransport Callback) : Prop :=
  ∃ index, (transport.subPool index).inUse = false

theorem start_pubSlotFree : PubSlotFree (ZenohTransport.start : ZenohTransport Callback) :=
  ⟨⟨0, by decide⟩, rfl⟩

theorem start_subSlotFree : SubSlotFree (ZenohTransport.start : ZenohTransport Callback) :=
  ⟨⟨0, by decide⟩, rfl⟩

theorem SameResources.pubSlotFree {before after : ZenohTransport Callback}
    (same : SameResources before after) (free : PubSlotFree before) : PubSlotFree after := by
  obtain ⟨index, unused⟩ := free
  exact ⟨index, (same.pubs index).trans unused⟩

theorem SameResources.subSlotFree {before after : ZenohTransport Callback}
    (same : SameResources before after) (free : SubSlotFree before) : SubSlotFree after := by
  obtain ⟨index, unused⟩ := free
  exact ⟨index, (same.subs index).trans unused⟩

theorem firstFree_some {inUse : Endpoint → Bool} {index : Endpoint}
    (found : firstFree inUse = some index) : inUse index = false := by
  have unused := List.find?_some found
  simpa using unused

theorem firstFree_none_iff {inUse : Endpoint → Bool} :
    firstFree inUse = none ↔ ∀ index, inUse index = true := by
  rw [firstFree, List.find?_eq_none]
  constructor
  · intro full index
    simpa using full index (List.mem_finRange index)
  · intro full index _
    simp [full index]

@[simp] theorem setPub_isInitialized (transport : ZenohTransport Callback) (index : Endpoint)
    (pub : ZenbeddedPub) : (transport.setPub index pub).isInitialized = transport.isInitialized :=
  rfl

@[simp] theorem setPub_subPool (transport : ZenohTransport Callback) (index : Endpoint)
    (pub : ZenbeddedPub) : (transport.setPub index pub).subPool = transport.subPool := rfl

@[simp] theorem setPub_same (transport : ZenohTransport Callback) (index : Endpoint)
    (pub : ZenbeddedPub) : (transport.setPub index pub).pubPool index = pub :=
  Function.update_self ..

theorem setPub_other {transport : ZenohTransport Callback} {index other : Endpoint}
    (apart : other ≠ index) (pub : ZenbeddedPub) :
    (transport.setPub index pub).pubPool other = transport.pubPool other :=
  Function.update_of_ne apart ..

@[simp] theorem setSub_isInitialized (transport : ZenohTransport Callback) (index : Endpoint)
    (sub : ZenbeddedSub Callback) :
    (transport.setSub index sub).isInitialized = transport.isInitialized := rfl

@[simp] theorem setSub_pubPool (transport : ZenohTransport Callback) (index : Endpoint)
    (sub : ZenbeddedSub Callback) : (transport.setSub index sub).pubPool = transport.pubPool := rfl

@[simp] theorem setSub_same (transport : ZenohTransport Callback) (index : Endpoint)
    (sub : ZenbeddedSub Callback) : (transport.setSub index sub).subPool index = sub :=
  Function.update_self ..

theorem setSub_other {transport : ZenohTransport Callback} {index other : Endpoint}
    (apart : other ≠ index) (sub : ZenbeddedSub Callback) :
    (transport.setSub index sub).subPool other = transport.subPool other :=
  Function.update_of_ne apart ..

theorem zenbeddedTransportInit_open {transport : ZenohTransport Callback}
    (opened : transport.isInitialized = true) (tier : Tier) (domainId : BitVec 32)
    (nodeName : Text) (session : Option Bytes) :
    zenbeddedTransportInit tier domainId nodeName session transport = (0, transport) := by
  rw [zenbeddedTransportInit, if_pos opened]

theorem zenbeddedTransportInit_refused {transport : ZenohTransport Callback}
    (closed : transport.isInitialized = false) (tier : Tier) (domainId : BitVec 32)
    (nodeName : Text) :
    ∃ left, zenbeddedTransportInit tier domainId nodeName none transport = (-1, left) ∧
      SameResources transport left := by
  rw [zenbeddedTransportInit, if_neg (by simp [closed])]
  exact ⟨_, rfl, rfl, fun _ => rfl, fun _ => rfl⟩

theorem zenbeddedTransportInit_opens {transport : ZenohTransport Callback}
    (closed : transport.isInitialized = false) (tier : Tier) (domainId : BitVec 32)
    (nodeName : Text) (zid : Bytes) :
    ∃ left, zenbeddedTransportInit tier domainId nodeName (some zid) transport = (0, left) ∧
      left.isInitialized = true ∧ left.pubPool = transport.pubPool ∧
      left.subPool = transport.subPool := by
  rw [zenbeddedTransportInit, if_neg (by simp [closed])]
  cases tier with
  | tier1 => exact ⟨_, rfl, rfl, rfl, rfl⟩
  | tier2 => exact ⟨_, rfl, rfl, rfl, rfl⟩

/-- No endpoint in use is touched, and an open session keeps its domain. -/
structure KeepsUsed (before after : ZenohTransport Callback) : Prop where
  pubs : ∀ index, (before.pubPool index).inUse = true → after.pubPool index = before.pubPool index
  subs : ∀ index, (before.subPool index).inUse = true → after.subPool index = before.subPool index
  session : before.isInitialized = true →
    after.isInitialized = true ∧ after.currentDomainId = before.currentDomainId

namespace KeepsUsed

theorem refl (transport : ZenohTransport Callback) : KeepsUsed transport transport :=
  ⟨fun _ _ => rfl, fun _ _ => rfl, fun opened => ⟨opened, rfl⟩⟩

theorem trans {first second third : ZenohTransport Callback} (left : KeepsUsed first second)
    (right : KeepsUsed second third) : KeepsUsed first third := by
  refine ⟨?_, ?_, ?_⟩
  · intro index used
    have same := left.pubs index used
    exact (right.pubs index (same ▸ used)).trans same
  · intro index used
    have same := left.subs index used
    exact (right.subs index (same ▸ used)).trans same
  · intro opened
    obtain ⟨stillOpened, same⟩ := left.session opened
    obtain ⟨finallyOpened, sameAgain⟩ := right.session stillOpened
    exact ⟨finallyOpened, sameAgain.trans same⟩

theorem slot {before after : ZenohTransport Callback} (keeps : KeepsUsed before after) {slot : Slot}
    (used : before.inUse slot = true) : after.inUse slot = true ∧
      after.declared slot = before.declared slot ∧ after.key slot = before.key slot := by
  cases slot with
  | pub index =>
      have same := keeps.pubs index used
      exact ⟨(congrArg ZenbeddedPub.inUse same).trans used, congrArg ZenbeddedPub.declared same,
        congrArg ZenbeddedPub.topicKeyexpr same⟩
  | sub index =>
      have same := keeps.subs index used
      exact ⟨(congrArg ZenbeddedSub.inUse same).trans used, congrArg ZenbeddedSub.declared same,
        congrArg ZenbeddedSub.topicKeyexpr same⟩

theorem unused {before after : ZenohTransport Callback} (keeps : KeepsUsed before after)
    {slot : Slot} (unused : after.inUse slot = false) : before.inUse slot = false := by
  cases used : before.inUse slot with
  | false => rfl
  | true => exact absurd ((keeps.slot used).1.symm.trans unused) Bool.noConfusion

end KeepsUsed

theorem zenbeddedTransportInit_keepsUsed (tier : Tier) (domainId : BitVec 32) (nodeName : Text)
    (opened : Option Bytes) (transport : ZenohTransport Callback) :
    KeepsUsed transport
      (zenbeddedTransportInit tier domainId nodeName opened transport).2 := by
  cases already : transport.isInitialized with
  | true =>
      rw [zenbeddedTransportInit_open already]
      exact KeepsUsed.refl transport
  | false =>
      unfold zenbeddedTransportInit
      rw [if_neg (by simp [already])]
      have closed : ∀ {after : ZenohTransport Callback}, after.pubPool = transport.pubPool →
          after.subPool = transport.subPool → KeepsUsed transport after := by
        intro after samePubs sameSubs
        refine ⟨fun index _ => congrFun samePubs index, fun index _ => congrFun sameSubs index, ?_⟩
        rw [already]
        intro opened
        contradiction
      cases opened with
      | none => exact closed rfl rfl
      | some zid =>
          cases tier with
          | tier1 => exact closed rfl rfl
          | tier2 => exact closed rfl rfl

/-- At most one slot changes, and the session does not. -/
structure OnlyChanges (slot : Slot) (before after : ZenohTransport Callback) : Prop where
  session : after.isInitialized = before.isInitialized
  domain : after.currentDomainId = before.currentDomainId
  pubs : ∀ index, slot ≠ .pub index → after.pubPool index = before.pubPool index
  subs : ∀ index, slot ≠ .sub index → after.subPool index = before.subPool index

theorem setPub_inUse (transport : ZenohTransport Callback) (index : Endpoint) (pub : ZenbeddedPub) :
    (transport.setPub index pub).inUse (.pub index) = pub.inUse :=
  congrArg ZenbeddedPub.inUse (setPub_same transport index pub)

theorem setPub_declared (transport : ZenohTransport Callback) (index : Endpoint)
    (pub : ZenbeddedPub) : (transport.setPub index pub).declared (.pub index) = pub.declared :=
  congrArg ZenbeddedPub.declared (setPub_same transport index pub)

theorem setPub_key (transport : ZenohTransport Callback) (index : Endpoint) (pub : ZenbeddedPub) :
    (transport.setPub index pub).key (.pub index) = pub.topicKeyexpr :=
  congrArg ZenbeddedPub.topicKeyexpr (setPub_same transport index pub)

theorem setSub_inUse (transport : ZenohTransport Callback) (index : Endpoint)
    (sub : ZenbeddedSub Callback) : (transport.setSub index sub).inUse (.sub index) = sub.inUse :=
  congrArg ZenbeddedSub.inUse (setSub_same transport index sub)

theorem setSub_declared (transport : ZenohTransport Callback) (index : Endpoint)
    (sub : ZenbeddedSub Callback) :
    (transport.setSub index sub).declared (.sub index) = sub.declared :=
  congrArg ZenbeddedSub.declared (setSub_same transport index sub)

theorem setSub_key (transport : ZenohTransport Callback) (index : Endpoint)
    (sub : ZenbeddedSub Callback) : (transport.setSub index sub).key (.sub index) = sub.topicKeyexpr :=
  congrArg ZenbeddedSub.topicKeyexpr (setSub_same transport index sub)

theorem setPub_onlyChanges (transport : ZenohTransport Callback) (index : Endpoint)
    (pub : ZenbeddedPub) : OnlyChanges (.pub index) transport (transport.setPub index pub) :=
  ⟨rfl, rfl, fun _ apart => setPub_other (fun same => apart (congrArg Slot.pub same.symm)) pub,
    fun _ _ => rfl⟩

theorem setSub_onlyChanges (transport : ZenohTransport Callback) (index : Endpoint)
    (sub : ZenbeddedSub Callback) : OnlyChanges (.sub index) transport (transport.setSub index sub) :=
  ⟨rfl, rfl, fun _ _ => rfl,
    fun _ apart => setSub_other (fun same => apart (congrArg Slot.sub same.symm)) sub⟩

namespace OnlyChanges

variable {slot : Slot} {before after : ZenohTransport Callback}

theorem flag (only : OnlyChanges slot before after) (ofPub : ZenbeddedPub → Bool)
    (ofSub : ZenbeddedSub Callback → Bool) : after.flag ofPub ofSub =
      Function.update (before.flag ofPub ofSub) slot (after.flag ofPub ofSub slot) := by
  funext other
  by_cases here : other = slot
  · rw [here, Function.update_self]
  · rw [Function.update_of_ne here]
    cases other with
    | pub index => exact congrArg ofPub (only.pubs index (Ne.symm here))
    | sub index => exact congrArg ofSub (only.subs index (Ne.symm here))

/-- A flag that the slot itself keeps is kept altogether. -/
theorem flag_same (only : OnlyChanges slot before after) {ofPub : ZenbeddedPub → Bool}
    {ofSub : ZenbeddedSub Callback → Bool}
    (same : after.flag ofPub ofSub slot = before.flag ofPub ofSub slot) :
    after.flag ofPub ofSub = before.flag ofPub ofSub := by
  rw [only.flag, same, Function.update_eq_self]

theorem key (only : OnlyChanges slot before after) {other : Slot} (apart : other ≠ slot) :
    after.key other = before.key other := by
  cases other with
  | pub index => exact congrArg ZenbeddedPub.topicKeyexpr (only.pubs index apart.symm)
  | sub index => exact congrArg ZenbeddedSub.topicKeyexpr (only.subs index apart.symm)

theorem inUse_other (only : OnlyChanges slot before after) {other : Slot} (apart : other ≠ slot) :
    after.inUse other = before.inUse other := by
  have use : after.inUse = Function.update before.inUse slot (after.inUse slot) := only.flag ..
  rw [use, Function.update_of_ne apart]

theorem sameResources (only : OnlyChanges slot before after)
    (same : after.inUse slot = before.inUse slot) : SameResources before after := by
  have use : after.inUse = before.inUse := only.flag_same same
  exact ⟨only.session, fun index => congrFun use (.pub index),
    fun index => congrFun use (.sub index)⟩

theorem keepsUsed (only : OnlyChanges slot before after) (unused : before.inUse slot = false) :
    KeepsUsed before after := by
  refine ⟨?_, ?_, fun opened => ⟨only.session.trans opened, only.domain⟩⟩
  · intro index used
    refine only.pubs index ?_
    rintro rfl
    exact absurd (unused.symm.trans used) Bool.noConfusion
  · intro index used
    refine only.subs index ?_
    rintro rfl
    exact absurd (unused.symm.trans used) Bool.noConfusion

end OnlyChanges

/-- What a declaration can do, to a publisher or to a subscriber as `kind` says. -/
inductive DeclareOutcome (tier : Tier) (kind : Endpoint → Slot) (topicName : Text)
    (typeName : Option Text) (accepted : Bool) (before : ZenohTransport Callback) :
    Option Endpoint → ZenohTransport Callback → Prop
  | closed (session : before.isInitialized = false) :
      DeclareOutcome tier kind topicName typeName accepted before none before
  | full (session : before.isInitialized = true) (used : ∀ index, before.inUse (kind index) = true) :
      DeclareOutcome tier kind topicName typeName accepted before none before
  | refused {after : ZenohTransport Callback} (index : Endpoint)
      (session : before.isInitialized = true) (unused : before.inUse (kind index) = false)
      (refusal : accepted = false) (only : OnlyChanges (kind index) before after)
      (still : after.inUse (kind index) = false)
      (declared : after.declared (kind index) = before.declared (kind index)) :
      DeclareOutcome tier kind topicName typeName accepted before none after
  | taken {after : ZenohTransport Callback} (index : Endpoint)
      (session : before.isInitialized = true) (unused : before.inUse (kind index) = false)
      (acceptance : accepted = true) (only : OnlyChanges (kind index) before after)
      (used : after.inUse (kind index) = true) (declared : after.declared (kind index) = true)
      (own : after.key (kind index) = topicKeyexpr tier before.currentDomainId topicName typeName) :
      DeclareOutcome tier kind topicName typeName accepted before (some index) after

theorem declarePublisher_outcome {tier : Tier} {topicName : Text} {typeName : Option Text}
    {accepted : Bool} {gid : Bytes} {transport after : ZenohTransport Callback}
    {handle : Option Endpoint}
    (run : zenbeddedTransportDeclarePublisher tier topicName typeName accepted gid transport =
      (handle, after)) :
    DeclareOutcome tier .pub topicName typeName accepted transport handle after := by
  unfold zenbeddedTransportDeclarePublisher at run
  cases session : transport.isInitialized with
  | false =>
      rw [session] at run
      cases run
      exact .closed session
  | true =>
      rw [if_pos session] at run
      cases found : firstFree fun index => (transport.pubPool index).inUse with
      | none =>
          rw [found] at run
          cases run
          exact .full session (firstFree_none_iff.mp found)
      | some index =>
          rw [found] at run
          have unused : transport.inUse (.pub index) = false := firstFree_some found
          cases accepted with
          | false =>
              cases run
              exact .refused index session unused rfl (setPub_onlyChanges ..)
                (setPub_inUse ..) (setPub_declared ..)
          | true =>
              cases tier with
              | tier1 =>
                  cases run
                  exact .taken index session unused rfl (setPub_onlyChanges ..)
                    (setPub_inUse ..) (setPub_declared ..) (setPub_key ..)
              | tier2 =>
                  cases run
                  exact .taken index session unused rfl (setPub_onlyChanges ..)
                    (setPub_inUse ..) (setPub_declared ..) (setPub_key ..)

/-- A subscriber that is returned has its callback, too. -/
theorem declareSubscriber_outcome {tier : Tier} {topicName : Text} {typeName : Option Text}
    {callback : Callback} {accepted : Bool} {transport after : ZenohTransport Callback}
    {handle : Option Endpoint}
    (run : zenbeddedTransportDeclareSubscriber tier topicName typeName callback accepted
      transport = (handle, after)) :
    DeclareOutcome tier .sub topicName typeName accepted transport handle after ∧
      ∀ index, handle = some index → (after.subPool index).callback = some callback := by
  unfold zenbeddedTransportDeclareSubscriber at run
  cases session : transport.isInitialized with
  | false =>
      rw [session] at run
      cases run
      exact ⟨.closed session, fun _ none => by cases none⟩
  | true =>
      rw [if_pos session] at run
      cases found : firstFree fun index => (transport.subPool index).inUse with
      | none =>
          rw [found] at run
          cases run
          exact ⟨.full session (firstFree_none_iff.mp found), fun _ none => by cases none⟩
      | some index =>
          rw [found] at run
          have unused : transport.inUse (.sub index) = false := firstFree_some found
          cases accepted with
          | false =>
              cases run
              refine ⟨.refused index session unused rfl (setSub_onlyChanges ..)
                (setSub_inUse ..) (setSub_declared ..), fun _ none => by cases none⟩
          | true =>
              have called {sub : ZenbeddedSub Callback} (own : sub.callback = some callback) :
                  ∀ other, some index = some other →
                    ((transport.setSub index sub).subPool other).callback = some callback := by
                intro other same
                cases same
                exact (congrArg ZenbeddedSub.callback (setSub_same ..)).trans own
              cases tier with
              | tier1 =>
                  cases run
                  exact ⟨.taken index session unused rfl (setSub_onlyChanges ..)
                    (setSub_inUse ..) (setSub_declared ..) (setSub_key ..), called rfl⟩
              | tier2 =>
                  cases run
                  exact ⟨.taken index session unused rfl (setSub_onlyChanges ..)
                    (setSub_inUse ..) (setSub_declared ..) (setSub_key ..), called rfl⟩

/-- A slot as a successful declaration fills it. -/
structure EndpointDeclared (tier : Tier) (topicName : Text) (typeName : Option Text)
    (transport : ZenohTransport Callback) (slot : Slot) : Prop where
  opened : transport.isInitialized = true
  inUse : transport.inUse slot = true
  declared : transport.declared slot = true
  topic : transport.key slot = topicKeyexpr tier transport.currentDomainId topicName typeName

theorem EndpointDeclared.kept {tier : Tier} {topicName : Text} {typeName : Option Text}
    {before after : ZenohTransport Callback} {slot : Slot}
    (declared : EndpointDeclared tier topicName typeName before slot)
    (keeps : KeepsUsed before after) : EndpointDeclared tier topicName typeName after slot := by
  obtain ⟨used, stillDeclared, sameKey⟩ := keeps.slot declared.inUse
  obtain ⟨opened, sameDomain⟩ := keeps.session declared.opened
  exact ⟨opened, used, stillDeclared.trans declared.declared,
    (sameKey.trans declared.topic).trans (by rw [sameDomain])⟩

namespace DeclareOutcome

variable {tier : Tier} {kind : Endpoint → Slot} {topicName : Text} {typeName : Option Text}
  {accepted : Bool} {before after : ZenohTransport Callback} {handle : Option Endpoint}

theorem null_iff
    (outcome : DeclareOutcome tier kind topicName typeName accepted before handle after) :
    handle = none ↔ before.isInitialized = false ∨ (∀ index, before.inUse (kind index) = true) ∨
      accepted = false := by
  cases outcome with
  | closed session => exact iff_of_true rfl (Or.inl session)
  | full _ used => exact iff_of_true rfl (Or.inr (Or.inl used))
  | refused _ _ _ refusal => exact iff_of_true rfl (Or.inr (Or.inr refusal))
  | taken index session unused acceptance =>
      refine iff_of_false (Option.some_ne_none index) ?_
      rintro (closed | full | refusal)
      · exact absurd (session.symm.trans closed) Bool.noConfusion
      · exact absurd (unused.symm.trans (full index)) Bool.noConfusion
      · exact absurd (acceptance.symm.trans refusal) Bool.noConfusion

theorem keepsUsed
    (outcome : DeclareOutcome tier kind topicName typeName accepted before handle after) :
    KeepsUsed before after := by
  cases outcome with
  | closed | full => exact KeepsUsed.refl before
  | refused _ _ unused _ only | taken _ _ unused _ only => exact only.keepsUsed unused

theorem null_sameResources
    (outcome : DeclareOutcome tier kind topicName typeName accepted before none after) :
    SameResources before after := by
  cases outcome with
  | closed | full => exact SameResources.refl before
  | refused _ _ unused _ only still => exact only.sameResources (still.trans unused.symm)

theorem returned {index : Endpoint}
    (outcome : DeclareOutcome tier kind topicName typeName accepted before (some index) after) :
    before.inUse (kind index) = false ∧ OnlyChanges (kind index) before after ∧
      EndpointDeclared tier topicName typeName after (kind index) := by
  cases outcome with
  | taken _ session unused _ only used declared own =>
      exact ⟨unused, only, only.session.trans session, used, declared, by rw [own, only.domain]⟩

/-- It fails for lack of a slot or at Zenoh. -/
theorem fails
    (outcome : DeclareOutcome tier kind topicName typeName accepted before handle after)
    (obstacle : ¬ ((∃ index, before.inUse (kind index) = false) ∧ accepted = true)) :
    handle = none ∧ SameResources before after := by
  cases handle with
  | none => exact ⟨rfl, outcome.null_sameResources⟩
  | some index =>
      cases outcome with
      | taken _ _ unused acceptance => exact absurd ⟨⟨index, unused⟩, acceptance⟩ obstacle

theorem succeeds
    (outcome : DeclareOutcome tier kind topicName typeName true before handle after)
    (opened : before.isInitialized = true) (free : ∃ index, before.inUse (kind index) = false) :
    ∃ index, handle = some index := by
  cases handle with
  | some index => exact ⟨index, rfl⟩
  | none =>
      obtain ⟨index, unused⟩ := free
      rcases outcome.null_iff.mp rfl with closed | full | refusal
      · exact absurd (opened.symm.trans closed) Bool.noConfusion
      · exact absurd (unused.symm.trans (full index)) Bool.noConfusion
      · cases refusal

end DeclareOutcome

theorem declarePublisher_succeeds {transport : ZenohTransport Callback}
    (opened : transport.isInitialized = true) (free : PubSlotFree transport) (tier : Tier)
    (topicName : Text) (typeName : Option Text) (gid : Bytes) :
    ∃ index left, zenbeddedTransportDeclarePublisher tier topicName typeName true gid transport =
        (some index, left) ∧
      (transport.pubPool index).inUse = false ∧ (left.pubPool index).inUse = true ∧
      left.isInitialized = true ∧ left.subPool = transport.subPool := by
  obtain ⟨⟨handle, left⟩, run⟩ : ∃ result,
      zenbeddedTransportDeclarePublisher tier topicName typeName true gid transport = result :=
    ⟨_, rfl⟩
  have outcome := declarePublisher_outcome run
  obtain ⟨index, rfl⟩ := outcome.succeeds opened free
  obtain ⟨unused, only, declared⟩ := outcome.returned
  exact ⟨index, left, run, unused, declared.inUse, declared.opened,
    funext fun other => only.subs other (by simp)⟩

structure SubscriberDeclared (tier : Tier) (topicName : Text) (typeName : Option Text)
    (callback : Callback) (transport : ZenohTransport Callback) (index : Endpoint) : Prop extends
    EndpointDeclared tier topicName typeName transport (.sub index) where
  callback : (transport.subPool index).callback = some callback

theorem SubscriberDeclared.kept {tier : Tier} {topicName : Text} {typeName : Option Text}
    {callback : Callback} {before after : ZenohTransport Callback} {index : Endpoint}
    (declared : SubscriberDeclared tier topicName typeName callback before index)
    (keeps : KeepsUsed before after) :
    SubscriberDeclared tier topicName typeName callback after index :=
  ⟨declared.toEndpointDeclared.kept keeps,
    keeps.subs index declared.inUse ▸ declared.callback⟩

theorem SubscriberDeclared.receives {tier : Tier} {topicName : Text} {typeName : Option Text}
    {callback : Callback} {transport : ZenohTransport Callback} {index : Endpoint}
    (declared : SubscriberDeclared tier topicName typeName callback transport index) {payload : Bytes}
    (some_bytes : payload ≠ []) (bounded : payload.length ≤ receiveBound tier) :
    internalSubHandler tier (transport.subPool index) payload = some (callback, payload) := by
  have inRange : ¬ (payload.length = 0 ∨ receiveBound tier < payload.length) := by
    intro out
    rcases out with empty | long
    · exact some_bytes (List.length_eq_zero_iff.mp empty)
    · omega
  rw [internalSubHandler, declared.callback]
  exact if_neg inRange

end Zenbedded.Transport
