import Zenbedded.Transport.LivelinessKeys
import Zenbedded.Transport.PoolInvariants

namespace Zenbedded.Transport

open Zenbedded.Foundation

/-! # Key expressions of endpoints

A key expression is made of what its endpoint was declared with and of the session's
domain.  Over whole runs of any two devices equal keys mean the same channel.
-/

/-- What an endpoint stands for. -/
structure Announced where
  domainId : BitVec 32
  topicName : Text
  typeName : Option Text
deriving Repr, DecidableEq

namespace Announced

/-- The key before it is cut to the size of its buffer. -/
def text (tier : Tier) (announced : Announced) : Text :=
  match tier with
  | .tier1 =>
      decimal announced.domainId ++ '/' :: (cleanTopic announced.topicName ++
        '/' :: (announced.typeName.getD [] ++
          '/' :: zenbeddedGetRihsHash (announced.typeName.getD [])))
  | .tier2 => cleanTopic announced.topicName

def key (tier : Tier) (announced : Announced) : Text :=
  topicKeyexpr tier announced.domainId announced.topicName announced.typeName

/-- The key fits its buffer, and the type's name, where the key has it, is a chunk of its own. -/
structure Plain (tier : Tier) (announced : Announced) : Prop where
  fits : (announced.text tier).length < keyexprMaxLen
  typeName : tier = .tier1 → '/' ∉ announced.typeName.getD []

/-- Tier 2 has topics only. -/
def SameChannel (tier : Tier) (first second : Announced) : Prop :=
  cleanTopic first.topicName = cleanTopic second.topicName ∧
    match tier with
    | .tier1 => first.domainId = second.domainId ∧
        first.typeName.getD [] = second.typeName.getD []
    | .tier2 => True

end Announced

theorem append_separator_inj {separator : Char} {first second rest other : Text}
    (firstClean : separator ∉ first) (secondClean : separator ∉ second) :
    first ++ separator :: rest = second ++ separator :: other ↔ first = second ∧ rest = other := by
  constructor
  · intro same
    induction first generalizing second with
    | nil =>
        cases second with
        | nil => exact ⟨rfl, (List.cons.inj same).2⟩
        | cons head second =>
            have here : separator = head := (List.cons.inj same).1
            exact absurd (here ▸ List.mem_cons_self) secondClean
    | cons head first inductionHypothesis =>
        cases second with
        | nil =>
            have here : head = separator := (List.cons.inj same).1
            exact absurd (here ▸ List.mem_cons_self) firstClean
        | cons next second =>
            obtain ⟨heads, tails⟩ := List.cons.inj same
            obtain ⟨fronts, rests⟩ := inductionHypothesis
              (fun inside => firstClean (List.mem_cons_of_mem _ inside))
              (fun inside => secondClean (List.mem_cons_of_mem _ inside)) tails
            exact ⟨by rw [heads, fronts], rests⟩
  · rintro ⟨rfl, rfl⟩
    rfl

theorem append_last_inj {separator : Char} {first second last other : Text}
    (lastClean : separator ∉ last) (otherClean : separator ∉ other) :
    first ++ separator :: last = second ++ separator :: other ↔ first = second ∧ last = other := by
  have reversed : first ++ separator :: last = second ++ separator :: other ↔
      last.reverse ++ separator :: first.reverse = other.reverse ++ separator :: second.reverse := by
    rw [← List.reverse_inj]
    simp
  rw [reversed, append_separator_inj (by simpa using lastClean) (by simpa using otherClean),
    List.reverse_inj, List.reverse_inj, and_comm]

theorem decimal_inj {first second : BitVec 32} : decimal first = decimal second ↔ first = second := by
  constructor
  · intro same
    have values : Nat.ofDigitChars 10 (decimal first) 0 = Nat.ofDigitChars 10 (decimal second) 0 := by
      rw [same]
    rw [decimal, decimal, Nat.ofDigitChars_ten_toDigits, Nat.ofDigitChars_ten_toDigits] at values
    exact BitVec.eq_of_toNat_eq values
  · rintro rfl
    rfl

namespace Announced

theorem key_text {tier : Tier} {announced : Announced} (plain : announced.Plain tier) :
    announced.key tier = announced.text tier := by
  have whole : announced.key tier = snprintf keyexprMaxLen (announced.text tier) := by
    cases tier with
    | tier1 => simp [key, text, topicKeyexpr]
    | tier2 => rfl
  rw [whole, snprintf, List.take_of_length_le (Nat.le_sub_one_of_lt plain.fits)]

/-- The key tells apart what the endpoints stand for, and nothing else. -/
theorem key_inj {tier : Tier} {first second : Announced} (firstPlain : first.Plain tier)
    (secondPlain : second.Plain tier) :
    first.key tier = second.key tier ↔ first.SameChannel tier second := by
  rw [key_text firstPlain, key_text secondPlain]
  cases tier with
  | tier2 => simp [text, SameChannel]
  | tier1 =>
      have hashes {typeName other : Text} (same : typeName = other) :
          zenbeddedGetRihsHash typeName = zenbeddedGetRihsHash other := by rw [same]
      have regroup (announced : Announced) :
          cleanTopic announced.topicName ++ '/' :: (announced.typeName.getD [] ++
            '/' :: zenbeddedGetRihsHash (announced.typeName.getD [])) =
          (cleanTopic announced.topicName ++ '/' :: announced.typeName.getD []) ++
            '/' :: zenbeddedGetRihsHash (announced.typeName.getD []) := by simp
      simp only [text]
      rw [append_separator_inj (separator_not_mem_decimal _) (separator_not_mem_decimal _),
        decimal_inj, regroup, regroup,
        append_last_inj (rihsHash_wellFormed _).1 (rihsHash_wellFormed _).1,
        append_last_inj (firstPlain.typeName rfl) (secondPlain.typeName rfl)]
      constructor
      · rintro ⟨domain, ⟨topic, type⟩, _⟩
        exact ⟨topic, domain, type⟩
      · rintro ⟨topic, domain, type⟩
        exact ⟨domain, ⟨topic, type⟩, hashes type⟩

end Announced

variable {Callback : Type}

/-- The topic and the type of a declaration. -/
def Request.names : Request Callback → Option (Text × Option Text)
  | .declarePublisher topicName typeName _ _ | .declareSubscriber topicName typeName _ _ =>
      some (topicName, typeName)
  | _ => none

/-- The domain that a successful `init` asked for. -/
def Served.domain (served : Served Callback) : Option (BitVec 32) :=
  match served.request with
  | .init domainId _ _ => if served.answer = .code 0 then some domainId else none
  | _ => none

/-- The domain of the first `init` that succeeded since the last `destroy`; a later one, on any
domain, joins the session that is open. -/
def sessionDomain (trace : List (Served Callback)) : Option (BitVec 32) :=
  ((since Served.isDestroy trace).filterMap Served.domain).getLast?

/-- The declaration that returned the handle last. -/
def declaration (trace : List (Served Callback)) (slot : Slot) : Option (Text × Option Text) :=
  (trace.find? fun served => served.returned = some slot).bind fun served => served.request.names

def announced (trace : List (Served Callback)) (slot : Slot) : Option Announced := do
  let domainId ← sessionDomain trace
  let (topicName, typeName) ← declaration trace slot
  return ⟨domainId, topicName, typeName⟩

/-- What a call can do to the keys of the endpoints in use. -/
inductive KeyEffect (tier : Tier) (before : ZenohTransport Callback) (served : Served Callback)
    (after : ZenohTransport Callback) : Prop
  | kept (running : served.isDestroy = false) (nothing : served.returned = none)
      (session : after.isInitialized = before.isInitialized)
      (joins : before.isInitialized = true ∨ served.domain = none)
      (domain : before.isInitialized = true → after.currentDomainId = before.currentDomainId)
      (keys : ∀ slot, after.inUse slot = true →
        before.inUse slot = true ∧ after.key slot = before.key slot)
  | opened (running : served.isDestroy = false) (nothing : served.returned = none)
      (closed : before.isInitialized = false) (session : after.isInitialized = true)
      (domain : served.domain = some after.currentDomainId) (use : after.inUse = before.inUse)
  | taken (slot : Slot) (names : Text × Option Text) (running : served.isDestroy = false)
      (returned : served.returned = some slot) (named : served.request.names = some names)
      (joins : served.domain = none) (session : before.isInitialized = true)
      (still : after.isInitialized = true)
      (domain : after.currentDomainId = before.currentDomainId)
      (own : after.key slot = topicKeyexpr tier before.currentDomainId names.1 names.2)
      (keys : ∀ other, other ≠ slot → after.inUse other = true →
        before.inUse other = true ∧ after.key other = before.key other)
  | swept (destroying : served.isDestroy = true) (nothing : served.returned = none)
      (session : after.isInitialized = false)

/-- Nothing happened that a key could show. -/
theorem keyEffect_same {tier : Tier} {transport : ZenohTransport Callback}
    {served : Served Callback} (running : served.isDestroy = false)
    (nothing : served.returned = none)
    (joins : transport.isInitialized = true ∨ served.domain = none) :
    KeyEffect tier transport served transport :=
  .kept running nothing rfl joins (fun _ => rfl) fun _ used => ⟨used, rfl⟩

theorem DeclareOutcome.keyEffect {tier : Tier} {kind : Endpoint → Slot} {topicName : Text}
    {typeName : Option Text} {accepted : Bool} {before after : ZenohTransport Callback}
    {handle : Option Endpoint} {request : Request Callback}
    (outcome : DeclareOutcome tier kind topicName typeName accepted before handle after)
    (named : request.names = some (topicName, typeName)) (calls : List ZenohCall) :
    KeyEffect tier before ⟨request, .handle (handle.map kind), calls⟩ after := by
  obtain ⟨running, joins⟩ : request.isDestroy = false ∧
      Served.domain ⟨request, .handle (handle.map kind), calls⟩ = none := by
    cases request with
    | declarePublisher | declareSubscriber => exact ⟨rfl, rfl⟩
    | init | publish | destroy => cases named
  cases outcome with
  | closed | full => exact keyEffect_same running rfl (Or.inr joins)
  | refused index _ _ _ only still _ =>
      refine .kept running rfl only.session (Or.inr joins) (fun _ => only.domain) ?_
      intro slot used
      have apart : slot ≠ kind index := by
        rintro rfl
        exact absurd (still.symm.trans used) Bool.noConfusion
      exact ⟨(only.inUse_other apart).symm.trans used, only.key apart⟩
  | taken index session _ _ only _ _ own =>
      exact .taken (kind index) (topicName, typeName) running rfl named joins session
        (only.session.trans session) only.domain own fun other apart used =>
          ⟨(only.inUse_other apart).symm.trans used, only.key apart⟩

theorem publish_keys {transport : ZenohTransport Callback} {index : Endpoint}
    (used : transport.inUse (.pub index) = true) (tier : Tier) (payload : Bytes)
    (now : BitVec 64) (accepted : Bool) :
    ∃ code put after, zenbeddedTransportPublish tier (some index) payload now accepted transport =
        (code, put, after) ∧
      after.isInitialized = transport.isInitialized ∧
      after.currentDomainId = transport.currentDomainId ∧
      ∀ slot, after.inUse slot = true → transport.inUse slot = true ∧
        after.key slot = transport.key slot := by
  cases tier with
  | tier2 => exact ⟨_, _, _, if_pos used, rfl, rfl, fun slot slotUsed => ⟨slotUsed, rfl⟩⟩
  | tier1 =>
      refine ⟨_, _, _, if_pos used, rfl, rfl, ?_⟩
      intro slot slotUsed
      by_cases here : slot = .pub index
      · rw [here]
        exact ⟨used, setPub_key ..⟩
      · exact ⟨((setPub_onlyChanges ..).inUse_other here).symm.trans slotUsed,
          (setPub_onlyChanges ..).key here⟩

theorem publish_keyEffect (tier : Tier) (transport : ZenohTransport Callback)
    (pub : Option Endpoint) (payload : Bytes) (now : BitVec 64) (accepted : Bool) :
    let request := Request.publish pub payload now accepted
    let served := serve tier transport request
    KeyEffect tier transport ⟨request, served.1, served.2.1⟩ served.2.2 := by
  simp only [serve]
  cases pub with
  | none => exact keyEffect_same rfl rfl (Or.inr rfl)
  | some index =>
      cases used : transport.inUse (.pub index) with
      | false =>
          rw [publish_unused used]
          exact keyEffect_same rfl rfl (Or.inr rfl)
      | true =>
          obtain ⟨code, put, after, run, session, domain, keys⟩ :=
            publish_keys used tier payload now accepted
          rw [run]
          exact .kept rfl rfl session (Or.inr rfl) (fun _ => domain) keys

theorem init_keyEffect (tier : Tier) (transport : ZenohTransport Callback)
    (domainId : BitVec 32) (nodeName : Text) (opened : Option Bytes) :
    let request := Request.init domainId nodeName opened
    let served := serve tier transport request
    KeyEffect tier transport ⟨request, served.1, served.2.1⟩ served.2.2 := by
  simp only [serve, zenbeddedTransportInit]
  cases already : transport.isInitialized with
  | true => exact keyEffect_same rfl rfl (Or.inl already)
  | false =>
      cases opened with
      | none =>
          refine .kept rfl rfl already.symm (Or.inr rfl) ?_ fun slot used => ⟨used, rfl⟩
          intro isOpen
          rw [already] at isOpen
          contradiction
      | some zid =>
          cases tier with
          | tier1 => exact .opened rfl rfl already rfl rfl rfl
          | tier2 => exact .opened rfl rfl already rfl rfl rfl

theorem step_keyEffect {tier : Tier} {before after : ZenohTransport Callback}
    {served : Served Callback} (taken : Served.step tier before served after) :
    KeyEffect tier before served after := by
  obtain ⟨request, answer, calls⟩ := served
  have result : serve tier before request = (answer, calls, after) := taken
  have effect : KeyEffect tier before
      ⟨request, (serve tier before request).1, (serve tier before request).2.1⟩
      (serve tier before request).2.2 := by
    cases request with
    | init domainId nodeName opened => exact init_keyEffect tier before domainId nodeName opened
    | declarePublisher topicName typeName accepted gid =>
        exact (declarePublisher_outcome rfl).keyEffect rfl _
    | declareSubscriber topicName typeName callback accepted =>
        exact (declareSubscriber_outcome rfl).1.keyEffect rfl _
    | publish pub payload now accepted =>
        exact publish_keyEffect tier before pub payload now accepted
    | destroy =>
        refine .swept rfl rfl ?_
        show (zenbeddedTransportDestroy before).isInitialized = false
        unfold zenbeddedTransportDestroy
        split
        · rfl
        · rename_i closed
          simpa using closed
  rwa [result] at effect

structure KeysSound (tier : Tier) (trace : List (Served Callback))
    (transport : ZenohTransport Callback) : Prop where
  session : sessionDomain trace =
    if transport.isInitialized then some transport.currentDomainId else none
  keys : ∀ slot, transport.inUse slot = true → ∃ names, declaration trace slot = some names ∧
    transport.key slot = topicKeyexpr tier transport.currentDomainId names.1 names.2

theorem sessionDomain_destroy {trace : List (Served Callback)} {served : Served Callback}
    (destroying : served.isDestroy = true) : sessionDomain (served :: trace) = none := by
  rw [sessionDomain, since_marked destroying]
  rfl

theorem sessionDomain_none {trace : List (Served Callback)} {served : Served Callback}
    (running : served.isDestroy = false) (joins : served.domain = none) :
    sessionDomain (served :: trace) = sessionDomain trace := by
  rw [sessionDomain, since_unmarked running, List.filterMap_cons_none joins, sessionDomain]

theorem sessionDomain_some {trace : List (Served Callback)} {served : Served Callback}
    {domain : BitVec 32} (running : served.isDestroy = false) (joins : served.domain = some domain) :
    sessionDomain (served :: trace) = (sessionDomain trace).or (some domain) := by
  rw [sessionDomain, since_unmarked running, List.filterMap_cons_some joins, sessionDomain,
    List.getLast?_cons]
  cases ((since Served.isDestroy trace).filterMap Served.domain).getLast? with
  | none => rfl
  | some earlier => rfl

theorem declaration_other {trace : List (Served Callback)} {served : Served Callback} {slot : Slot}
    (other : served.returned ≠ some slot) :
    declaration (served :: trace) slot = declaration trace slot := by
  rw [declaration, List.find?_cons_of_neg (by simpa using other), declaration]

theorem declaration_own {trace : List (Served Callback)} {served : Served Callback} {slot : Slot}
    (own : served.returned = some slot) :
    declaration (served :: trace) slot = served.request.names := by
  rw [declaration, List.find?_cons_of_pos (by simpa using own), Option.bind_some]

theorem KeysSound.step {tier : Tier} {trace : List (Served Callback)}
    {before after : ZenohTransport Callback} {served : Served Callback}
    (sound : KeysSound tier trace before) (pools : PoolsSound trace before)
    (later : PoolsSound (served :: trace) after) (effect : KeyEffect tier before served after) :
    KeysSound tier (served :: trace) after := by
  have openBefore {slot : Slot} (used : before.inUse slot = true) : before.isInitialized = true := by
    by_contra closed
    rw [pools.closed (Bool.eq_false_of_not_eq_true closed) slot] at used
    contradiction
  cases effect with
  | kept running nothing session joins domain keys =>
      constructor
      · cases asked : served.domain with
        | none =>
            rw [sessionDomain_none running asked, sound.session, session]
            cases isOpen : before.isInitialized with
            | false => rfl
            | true => rw [domain isOpen]
        | some other =>
            have isOpen : before.isInitialized = true := joins.resolve_right (by simp [asked])
            rw [sessionDomain_some running asked, sound.session, session, isOpen, domain isOpen]
            rfl
      · intro slot used
        obtain ⟨usedBefore, same⟩ := keys slot used
        obtain ⟨names, declared, key⟩ := sound.keys slot usedBefore
        refine ⟨names, ?_, ?_⟩
        · rw [declaration_other (by simp [nothing]), declared]
        · rw [same, key, domain (openBefore usedBefore)]
  | opened running nothing closed session domain use =>
      constructor
      · rw [sessionDomain_some running domain, sound.session, closed, session]
        rfl
      · intro slot used
        rw [use] at used
        rw [openBefore used] at closed
        contradiction
  | taken slot names running returned named joins session still domain own keys =>
      constructor
      · rw [sessionDomain_none running joins, sound.session, session, still, domain]
      · intro other used
        by_cases here : other = slot
        · refine ⟨names, ?_, ?_⟩
          · rw [here, declaration_own returned, named]
          · rw [here, own, domain]
        · obtain ⟨usedBefore, same⟩ := keys other here used
          obtain ⟨earlier, declared, key⟩ := sound.keys other usedBefore
          refine ⟨earlier, ?_, ?_⟩
          · rw [declaration_other (by simpa [returned] using Ne.symm here), declared]
          · rw [same, key, domain]
  | swept destroying nothing session =>
      constructor
      · rw [sessionDomain_destroy destroying, session]
        rfl
      · intro slot used
        rw [later.closed session slot] at used
        contradiction

theorem keysSound_of_reaches {tier : Tier} {trace : List (Served Callback)}
    {transport : ZenohTransport Callback}
    (reached : Reaches (Served.step tier) ZenohTransport.start trace transport) :
    KeysSound tier trace transport := by
  induction reached with
  | start =>
      refine ⟨rfl, ?_⟩
      intro slot used
      cases slot with
      | pub index => cases used
      | sub index => cases used
  | step reached taken inductionHypothesis =>
      exact inductionHypothesis.step (poolsSound_of_reaches reached)
        (poolsSound_of_reaches (reached.step taken)) (step_keyEffect taken)

/-- An endpoint in use has the key of what it was declared with on the domain of its session. -/
theorem KeysSound.announced {tier : Tier} {trace : List (Served Callback)}
    {transport : ZenohTransport Callback} (sound : KeysSound tier trace transport)
    (pools : PoolsSound trace transport) {slot : Slot} (used : transport.inUse slot = true) :
    ∃ what, announced trace slot = some what ∧ transport.key slot = what.key tier := by
  have isOpen : transport.isInitialized = true := by
    by_contra closed
    rw [pools.closed (Bool.eq_false_of_not_eq_true closed) slot] at used
    contradiction
  obtain ⟨names, declared, key⟩ := sound.keys slot used
  refine ⟨⟨transport.currentDomainId, names.1, names.2⟩, ?_, key⟩
  have session := sound.session
  rw [isOpen] at session
  simp [Transport.announced, session, declared]

theorem keyed_of_reaches {tier : Tier} {trace : List (Served Callback)}
    {transport : ZenohTransport Callback}
    (reached : Reaches (Served.step tier) ZenohTransport.start trace transport) {slot : Slot}
    (used : transport.inUse slot = true) :
    ∃ what, announced trace slot = some what ∧ transport.key slot = what.key tier :=
  (keysSound_of_reaches reached).announced (poolsSound_of_reaches reached) used

/-- What the keys of two devices say, each after a run of its own. -/
structure KeysTell (tier : Tier) (here there : List (Served Callback))
    (one other : ZenohTransport Callback) : Prop where
  /-- The run tells what each endpoint in use stands for, and so its key. -/
  keyed : ∀ slot, one.inUse slot = true → ∃ what, announced here slot = some what ∧
    one.key slot = what.key tier
  /-- Endpoints in use share a key exactly when they stand for the same channel. -/
  channels : ∀ slot peer, one.inUse slot = true → other.inUse peer = true →
    ∀ what remote : Announced, announced here slot = some what →
      announced there peer = some remote → what.Plain tier → remote.Plain tier →
      (one.key slot = other.key peer ↔ what.SameChannel tier remote)

theorem keysTell (tier : Tier) (first second : List (Request Callback)) :
    let one := serveAll tier [] ZenohTransport.start first
    let other := serveAll tier [] ZenohTransport.start second
    KeysTell tier one.1 other.1 one.2 other.2 := by
  intro one other
  have here : Reaches (Served.step tier) ZenohTransport.start one.1 one.2 :=
    serveAll_reaches .start first
  have there : Reaches (Served.step tier) ZenohTransport.start other.1 other.2 :=
    serveAll_reaches .start second
  refine ⟨fun slot used => keyed_of_reaches here used, ?_⟩
  intro slot peer used peerUsed what remote isWhat isRemote plain remotePlain
  obtain ⟨_, known, key⟩ := keyed_of_reaches here used
  obtain ⟨_, remoteKnown, remoteKey⟩ := keyed_of_reaches there peerUsed
  cases isWhat.symm.trans known
  cases isRemote.symm.trans remoteKnown
  rw [key, remoteKey]
  exact Announced.key_inj plain remotePlain

/-- The second `init` of the subscriber's device, on another domain, changes nothing. -/
example :
    let one := serveAll .tier1 [] (ZenohTransport.start : ZenohTransport Unit)
      [.init 5 [] (some []), .declarePublisher "/state".toList (some "t".toList) true []]
    let other := serveAll .tier1 [] ZenohTransport.start
      [.init 5 [] (some []), .init 7 [] (some []),
        .declareSubscriber "state".toList (some "t".toList) () true]
    one.2.key (.pub ⟨0, by decide⟩) = other.2.key (.sub ⟨0, by decide⟩) := by
  decide +kernel

/-- A type of two chunks shares its key with another topic. -/
example : (⟨0, "a".toList, some "b/c".toList⟩ : Announced).key .tier1 =
    (⟨0, "a/b".toList, some "c".toList⟩ : Announced).key .tier1 := by
  decide +kernel

end Zenbedded.Transport
