import Zenbedded.Rcl.InitStores
import Zenbedded.Transport.EndpointPools

namespace Zenbedded.Rcl

open Zenbedded.Foundation Zenbedded.Transport

/-! # What an initialisation leaves behind

`init_base` acquires the session, a publisher, a subscriber and the thread, and
returns at the first that fails.  The lemmas follow these returns; a failed
attempt leaves nothing behind only when it acquired nothing.
-/

variable {platform : Platform} {width : Nat} {Callback : Type}

/-- The session is there or can be opened. -/
def SessionOpens (zenoh : ZenohOutcomes) (transport : ZenohTransport Callback) : Prop :=
  transport.isInitialized = true ∨ zenoh.opened.isSome = true

theorem session_opens {zenoh : ZenohOutcomes} {transport : ZenohTransport Callback}
    (opens : SessionOpens zenoh transport) (tier : Tier) (domainId : BitVec 32)
    (nodeName : Text) :
    ∃ opened, zenbeddedTransportInit tier domainId nodeName zenoh.opened transport =
        (0, opened) ∧ opened.isInitialized = true ∧ opened.pubPool = transport.pubPool ∧
      opened.subPool = transport.subPool := by
  cases state : transport.isInitialized with
  | true =>
      exact ⟨transport, zenbeddedTransportInit_open state tier domainId nodeName zenoh.opened,
        state, rfl, rfl⟩
  | false =>
      rcases opens with already | session
      · rw [state] at already
        contradiction
      · obtain ⟨zid, given⟩ := Option.isSome_iff_exists.mp session
        rw [given]
        exact zenbeddedTransportInit_opens state tier domainId nodeName zid

/-- The client with both endpoints declared, before its thread is started. -/
def ZenbeddedClientBase.declared (client : ZenbeddedClientBase platform width)
    (statePayloadSize cmdPayloadSize : platform.SizeT) (pub sub : Endpoint)
    (controlFreq : BitVec 32) : ZenbeddedClientBase platform width :=
  { client with
    statePayloadSize, cmdPayloadSize, pub := some pub, sub := some sub, initialized := true,
    controlFreq }

section

variable {config : Config} {zenoh : ZenohOutcomes} {client : ZenbeddedClientBase platform width}
  {transport : ZenohTransport Callback} {statePayloadSize cmdPayloadSize : platform.SizeT}
  (fresh : client.initialized = false)
  (stateFits : statePayloadSize.toNat ≤ config.maxStateBufferSize)
  (cmdFits : cmdPayloadSize.toNat ≤ config.maxCmdBufferSize)
  (onTransportCmdCb : Callback) (controlFreq : BitVec 32)

include fresh stateFits cmdFits

theorem initBase_refused (refused : ¬ SessionOpens zenoh transport) :
    ∃ after left, client.initBase config zenoh onTransportCmdCb controlFreq statePayloadSize
        cmdPayloadSize transport = (-eio, after, left) ∧ after.initialized = false ∧
      SameResources transport left := by
  obtain ⟨closed, unopened⟩ := not_or.mp refused
  have noSession : zenoh.opened = none := by simpa using unopened
  obtain ⟨left, run, same⟩ := zenbeddedTransportInit_refused
    (Bool.eq_false_of_not_eq_true closed) config.tier config.domainId config.nodeName
  refine ⟨{ client with statePayloadSize, cmdPayloadSize }, left, ?_, fresh, same⟩
  simp only [ZenbeddedClientBase.initBase, fresh, Bool.false_eq_true, ↓reduceIte,
    if_neg (Nat.not_lt.mpr stateFits), if_neg (Nat.not_lt.mpr cmdFits), noSession, run]
  rfl

theorem initBase_noPublisher (opens : SessionOpens zenoh transport)
    (obstacle : ¬ (PubSlotFree transport ∧ zenoh.publisher = true)) :
    ∃ after left, client.initBase config zenoh onTransportCmdCb controlFreq statePayloadSize
        cmdPayloadSize transport = (-eio, after, left) ∧ after.initialized = false ∧
      left.isInitialized = true ∧
      (∀ index, (left.pubPool index).inUse = (transport.pubPool index).inUse) ∧
      ∀ index, (left.subPool index).inUse = (transport.subPool index).inUse := by
  obtain ⟨opened, run, session, pubs, subs⟩ :=
    session_opens opens config.tier config.domainId config.nodeName
  have blocked : ¬ (PubSlotFree opened ∧ zenoh.publisher = true) := by
    rw [PubSlotFree, pubs]
    exact obstacle
  obtain ⟨⟨handle, left⟩, declared⟩ : ∃ result, zenbeddedTransportDeclarePublisher config.tier
      config.pubTopic config.stateType zenoh.publisher zenoh.gid opened = result := ⟨_, rfl⟩
  obtain ⟨rfl, same⟩ := (declarePublisher_outcome declared).fails blocked
  refine ⟨{ client with statePayloadSize, cmdPayloadSize, pub := none }, left, ?_, fresh,
    same.session.trans session, ?_, ?_⟩
  · simp only [ZenbeddedClientBase.initBase, fresh, Bool.false_eq_true, ↓reduceIte,
      if_neg (Nat.not_lt.mpr stateFits), if_neg (Nat.not_lt.mpr cmdFits), run, declared, ne_eq,
      not_true_eq_false]
  · intro index
    rw [same.pubs index, pubs]
  · intro index
    rw [same.subs index, subs]

theorem initBase_noSubscriber (opens : SessionOpens zenoh transport)
    (pubFree : PubSlotFree transport) (published : zenoh.publisher = true)
    (obstacle : ¬ (SubSlotFree transport ∧ zenoh.subscriber = true)) :
    ∃ code after left index, client.initBase config zenoh onTransportCmdCb controlFreq
        statePayloadSize cmdPayloadSize transport = (code, after, left) ∧ code ≠ 0 ∧
      (transport.pubPool index).inUse = false ∧ (left.pubPool index).inUse = true := by
  obtain ⟨opened, run, session, pubs, subs⟩ :=
    session_opens opens config.tier config.domainId config.nodeName
  have free : PubSlotFree opened := by
    rw [PubSlotFree, pubs]
    exact pubFree
  obtain ⟨index, held, declared, unused, used, _, sameSubs⟩ :=
    declarePublisher_succeeds session free config.tier config.pubTopic config.stateType zenoh.gid
  have blocked : ¬ (SubSlotFree held ∧ zenoh.subscriber = true) := by
    rw [SubSlotFree, sameSubs, subs]
    exact obstacle
  obtain ⟨⟨handle, left⟩, refused⟩ : ∃ result, zenbeddedTransportDeclareSubscriber config.tier
      config.subTopic config.cmdType onTransportCmdCb zenoh.subscriber held = result := ⟨_, rfl⟩
  obtain ⟨rfl, same⟩ := (declareSubscriber_outcome refused).1.fails blocked
  refine ⟨-eio, { client with
    statePayloadSize, cmdPayloadSize, pub := some index, sub := none }, left, index, ?_,
    by decide, pubs ▸ unused, (same.pubs index).trans used⟩
  simp only [ZenbeddedClientBase.initBase, fresh, Bool.false_eq_true, ↓reduceIte,
    if_neg (Nat.not_lt.mpr stateFits), if_neg (Nat.not_lt.mpr cmdFits), run, published, declared,
    refused, ne_eq, not_true_eq_false, reduceCtorEq]

/-- With every endpoint declared, the outcome is that of `start_thread`. -/
theorem initBase_declared (opens : SessionOpens zenoh transport)
    (pubFree : PubSlotFree transport) (published : zenoh.publisher = true)
    (subFree : SubSlotFree transport) (subscribed : zenoh.subscriber = true) :
    ∃ (pub sub : Endpoint) (left : ZenohTransport Callback),
      (left.subPool sub).callback = some onTransportCmdCb ∧
      client.initBase config zenoh onTransportCmdCb controlFreq statePayloadSize cmdPayloadSize
          transport =
        let started := (client.declared statePayloadSize cmdPayloadSize pub sub
          controlFreq).startThread controlFreq
        (started.1, started.2, left) := by
  obtain ⟨opened, run, session, pubs, subs⟩ :=
    session_opens opens config.tier config.domainId config.nodeName
  have free : PubSlotFree opened := by
    rw [PubSlotFree, pubs]
    exact pubFree
  obtain ⟨pubIndex, held, declared, _, _, stillOpen, sameSubs⟩ :=
    declarePublisher_succeeds session free config.tier config.pubTopic config.stateType zenoh.gid
  have roomLeft : SubSlotFree held := by
    rw [SubSlotFree, sameSubs, subs]
    exact subFree
  obtain ⟨⟨handle, left⟩, accepted⟩ : ∃ result, zenbeddedTransportDeclareSubscriber config.tier
      config.subTopic config.cmdType onTransportCmdCb true held = result := ⟨_, rfl⟩
  obtain ⟨outcome, called⟩ := declareSubscriber_outcome accepted
  obtain ⟨subIndex, rfl⟩ := outcome.succeeds stillOpen roomLeft
  have subscriber := called subIndex rfl
  refine ⟨pubIndex, subIndex, left, subscriber, ?_⟩
  simp only [ZenbeddedClientBase.initBase, fresh, Bool.false_eq_true, ↓reduceIte,
    if_neg (Nat.not_lt.mpr stateFits), if_neg (Nat.not_lt.mpr cmdFits), run, published, declared,
    subscribed, accepted, ne_eq, not_true_eq_false, reduceCtorEq]
  rfl

end

/-- A failure leaves client and transport as they were, a success starts the thread. -/
structure InitContract (transport : ZenohTransport Callback) (code : Int)
    (after : ZenbeddedClientBase platform width) (left : ZenohTransport Callback) : Prop where
  failed : code ≠ 0 → after.initialized = false ∧ SameResources transport left
  started : code = 0 → after.initialized = true ∧ after.controlThreadStarted = true ∧
    after.controlThreadRunning = true

/-- Every declaration that `init_base` attempts goes through. -/
structure Declares (zenoh : ZenohOutcomes) (transport : ZenohTransport Callback) : Prop where
  opens : SessionOpens zenoh transport
  pubFree : PubSlotFree transport
  published : zenoh.publisher = true
  subFree : SubSlotFree transport
  subscribed : zenoh.subscriber = true

/-- The attempt stops before it has acquired anything, or acquires everything. -/
def InitClean (zenoh : ZenohOutcomes) (controlFreq : BitVec 32)
    (transport : ZenohTransport Callback) : Prop :=
  ¬ SessionOpens zenoh transport ∨
    (transport.isInitialized = true ∧ ¬ (PubSlotFree transport ∧ zenoh.publisher = true)) ∨
    (Declares zenoh transport ∧ controlFreq ≠ 0)

/-- A thread that runs already is stopped first, which leaves nothing behind. -/
theorem startThread_positive {declared : ZenbeddedClientBase platform width}
    (live : declared.initialized = true) {controlFreq : BitVec 32} (positive : controlFreq ≠ 0) :
    declared.startThread controlFreq =
      (0, { declared with
        controlFreq, controlThreadRunning := true, controlThreadStarted := true }) := by
  rw [ZenbeddedClientBase.startThread, if_pos live, if_neg positive]
  cases already : declared.controlThreadStarted with
  | true => simp [ZenbeddedClientBase.stopThread, already]
  | false => rfl

theorem startThread_zero {declared : ZenbeddedClientBase platform width}
    (live : declared.initialized = true) :
    declared.startThread 0 = (-einval, declared) := by
  simp [ZenbeddedClientBase.startThread, live]

theorem initBase_contract_iff {config : Config} {client : ZenbeddedClientBase platform width}
    (fresh : client.initialized = false) {statePayloadSize cmdPayloadSize : platform.SizeT}
    (stateFits : statePayloadSize.toNat ≤ config.maxStateBufferSize)
    (cmdFits : cmdPayloadSize.toNat ≤ config.maxCmdBufferSize) (zenoh : ZenohOutcomes)
    (onTransportCmdCb : Callback) (controlFreq : BitVec 32) (transport : ZenohTransport Callback)
    {code : Int} {after : ZenbeddedClientBase platform width} {left : ZenohTransport Callback}
    (run : client.initBase config zenoh onTransportCmdCb controlFreq statePayloadSize
      cmdPayloadSize transport = (code, after, left)) :
    InitContract transport code after left ↔ InitClean zenoh controlFreq transport := by
  by_cases opens : SessionOpens zenoh transport
  · by_cases publishes : PubSlotFree transport ∧ zenoh.publisher = true
    · obtain ⟨pubFree, published⟩ := publishes
      by_cases subscribes : SubSlotFree transport ∧ zenoh.subscriber = true
      · obtain ⟨subFree, subscribed⟩ := subscribes
        have declares : Declares zenoh transport := ⟨opens, pubFree, published, subFree, subscribed⟩
        obtain ⟨pub, sub, finished, _, result⟩ := initBase_declared fresh stateFits cmdFits
          onTransportCmdCb controlFreq opens pubFree published subFree subscribed
        rw [result] at run
        cases run
        by_cases positive : controlFreq ≠ 0
        · rw [startThread_positive rfl positive]
          exact iff_of_true ⟨fun failed => absurd rfl failed, fun _ => ⟨rfl, rfl, rfl⟩⟩
            (Or.inr (Or.inr ⟨declares, positive⟩))
        · rw [not_not.mp positive, startThread_zero rfl]
          refine iff_of_false ?_ ?_
          · intro contract
            have dead := (contract.failed (show -einval ≠ 0 by decide)).1
            exact Bool.noConfusion dead
          · intro clean
            rcases clean with refused | blocked | started
            · exact refused opens
            · exact blocked.2 ⟨pubFree, published⟩
            · exact started.2 rfl
      · obtain ⟨failure, client', left', index, result, nonzero, unused, used⟩ :=
          initBase_noSubscriber fresh stateFits cmdFits onTransportCmdCb controlFreq opens pubFree
            published subscribes
        rw [result] at run
        cases run
        refine iff_of_false ?_ ?_
        · intro contract
          have same := (contract.failed nonzero).2.pubs index
          rw [unused, used] at same
          contradiction
        · intro clean
          rcases clean with refused | blocked | started
          · exact refused opens
          · exact blocked.2 ⟨pubFree, published⟩
          · exact subscribes ⟨started.1.subFree, started.1.subscribed⟩
    · obtain ⟨client', left', result, dead, opened, pubs, subs⟩ := initBase_noPublisher fresh
        stateFits cmdFits onTransportCmdCb controlFreq opens publishes
      rw [result] at run
      cases run
      constructor
      · intro contract
        have session := (contract.failed (by decide)).2.session
        exact Or.inr (Or.inl ⟨session.symm.trans opened, publishes⟩)
      · intro clean
        rcases clean with refused | blocked | started
        · exact absurd opens refused
        · exact ⟨fun _ => ⟨dead, opened.trans blocked.1.symm, pubs, subs⟩,
            fun zero => absurd zero (by decide)⟩
        · exact absurd ⟨started.1.pubFree, started.1.published⟩ publishes
  · obtain ⟨client', left', result, dead, same⟩ := initBase_refused fresh stateFits cmdFits
      onTransportCmdCb controlFreq opens
    rw [result] at run
    cases run
    exact iff_of_true ⟨fun _ => ⟨dead, same⟩, fun zero => absurd zero (by decide)⟩
      (Or.inl opens)

theorem initBase_starts {config : Config} {client : ZenbeddedClientBase platform width}
    (fresh : client.initialized = false) {statePayloadSize cmdPayloadSize : platform.SizeT}
    (stateFits : statePayloadSize.toNat ≤ config.maxStateBufferSize)
    (cmdFits : cmdPayloadSize.toNat ≤ config.maxCmdBufferSize) {zenoh : ZenohOutcomes}
    (onTransportCmdCb : Callback) {controlFreq : BitVec 32} (positive : controlFreq ≠ 0)
    {transport : ZenohTransport Callback} (declares : Declares zenoh transport) :
    ∃ (pub sub : Endpoint) (left : ZenohTransport Callback),
      (left.subPool sub).callback = some onTransportCmdCb ∧
      client.initBase config zenoh onTransportCmdCb controlFreq statePayloadSize cmdPayloadSize
          transport =
        (0, { client.declared statePayloadSize cmdPayloadSize pub sub controlFreq with
          controlThreadRunning := true, controlThreadStarted := true }, left) := by
  obtain ⟨pub, sub, left, subscriber, result⟩ := initBase_declared fresh stateFits cmdFits
    onTransportCmdCb controlFreq declares.opens declares.pubFree declares.published
    declares.subFree declares.subscribed
  refine ⟨pub, sub, left, subscriber, ?_⟩
  rw [result, startThread_positive rfl positive]
  rfl

variable {StateCtx CommandCtx StateParams CommandParams StateValue CommandValue : Type}

/-- One call of `init`: its arguments and what Zenoh answers. -/
structure Attempt (StateParams CommandParams : Type) where
  zenoh : ZenohOutcomes
  controlFreq : BitVec 32
  stateParams : StateParams
  cmdParams : CommandParams
  scratch : Bytes

section

variable (config : Config) (stateCodec : StateCodec platform StateCtx StateParams StateValue)
  (commandCodec : CommandCodec platform CommandCtx CommandParams CommandValue)
  (onTransportCmdCb : Callback)

def Attempt.run (attempt : Attempt StateParams CommandParams)
    (client : ZenbeddedClient platform width StateCtx CommandCtx)
    (transport : ZenohTransport Callback) :
    Except Fault
      (Int × ZenbeddedClient platform width StateCtx CommandCtx × ZenohTransport Callback) :=
  client.init config stateCodec commandCodec attempt.zenoh onTransportCmdCb attempt.controlFreq
    attempt.stateParams attempt.cmdParams attempt.scratch transport

/-- The parameters fit the buffers. -/
def Attempt.Fits (attempt : Attempt StateParams CommandParams)
    (client : ZenbeddedClient platform width StateCtx CommandCtx) : Prop :=
  ∃ laid, client.layOut config stateCodec commandCodec attempt.stateParams attempt.cmdParams
      attempt.scratch = .ok laid ∧
    (stateCodec.payloadSize laid.stateCtx).toNat ≤ config.maxStateBufferSize ∧
    (commandCodec.payloadSize laid.cmdCtx).toNat ≤ config.maxCmdBufferSize

/-- What the caller of `init` relies on. -/
def Attempt.LeavesNothing (attempt : Attempt StateParams CommandParams)
    (client : ZenbeddedClient platform width StateCtx CommandCtx)
    (transport : ZenohTransport Callback) : Prop :=
  ∃ code after left,
    attempt.run config stateCodec commandCodec onTransportCmdCb client transport =
        .ok (code, after, left) ∧
      InitContract transport code after.toZenbeddedClientBase left

/-- Attempts that fail one after the other, each where its contract holds. -/
inductive CleanFailures : ZenbeddedClient platform width StateCtx CommandCtx →
    ZenohTransport Callback → List (Attempt StateParams CommandParams) →
    ZenbeddedClient platform width StateCtx CommandCtx → ZenohTransport Callback → Prop
  | nil {client transport} : CleanFailures client transport [] client transport
  | cons {client transport code next passed attempt attempts after left}
      (fits : attempt.Fits config stateCodec commandCodec client)
      (clean : InitClean attempt.zenoh attempt.controlFreq transport)
      (run : attempt.run config stateCodec commandCodec onTransportCmdCb client transport =
        .ok (code, next, passed))
      (failed : code ≠ 0) (rest : CleanFailures next passed attempts after left) :
      CleanFailures client transport (attempt :: attempts) after left

end

section

variable {config : Config} {stateCodec : StateCodec platform StateCtx StateParams StateValue}
  {commandCodec : CommandCodec platform CommandCtx CommandParams CommandValue}

theorem layOut_initialized {stateParams : StateParams} {cmdParams : CommandParams}
    {scratch : Bytes} {client laid : ZenbeddedClient platform width StateCtx CommandCtx}
    (run : client.layOut config stateCodec commandCodec stateParams cmdParams scratch = .ok laid) :
    laid.initialized = client.initialized := by
  obtain ⟨first, _, run⟩ := bind_ok_iff.mp run
  obtain ⟨second, _, run⟩ := bind_ok_iff.mp run
  obtain ⟨command, _, run⟩ := bind_ok_iff.mp run
  cases run
  rfl

variable {onTransportCmdCb : Callback}

/-- An attempt whose parameters fit is `init_base` on the client that it laid out. -/
theorem Attempt.run_fits {attempt : Attempt StateParams CommandParams}
    {client : ZenbeddedClient platform width StateCtx CommandCtx}
    (fresh : client.initialized = false)
    (fits : attempt.Fits config stateCodec commandCodec client)
    (transport : ZenohTransport Callback) :
    ∃ code after left,
      attempt.run config stateCodec commandCodec onTransportCmdCb client transport =
          .ok (code, after, left) ∧
        (InitContract transport code after.toZenbeddedClientBase left ↔
          InitClean attempt.zenoh attempt.controlFreq transport) ∧
        (Declares attempt.zenoh transport → attempt.controlFreq ≠ 0 → code = 0) := by
  obtain ⟨laid, laidRun, stateFits, cmdFits⟩ := fits
  obtain ⟨⟨code, base, left⟩, baseRun⟩ : ∃ result,
      laid.toZenbeddedClientBase.initBase config attempt.zenoh onTransportCmdCb
        attempt.controlFreq (stateCodec.payloadSize laid.stateCtx)
        (commandCodec.payloadSize laid.cmdCtx) transport = result := ⟨_, rfl⟩
  have laidFresh := (layOut_initialized laidRun).trans fresh
  have contract := initBase_contract_iff laidFresh stateFits cmdFits attempt.zenoh
    onTransportCmdCb attempt.controlFreq transport baseRun
  have succeeds : Declares attempt.zenoh transport → attempt.controlFreq ≠ 0 → code = 0 := by
    intro declares positive
    obtain ⟨pub, sub, finished, _, result⟩ :=
      initBase_starts laidFresh stateFits cmdFits onTransportCmdCb positive declares
    rw [baseRun] at result
    exact congrArg Prod.fst result
  refine ⟨code, { laid with toZenbeddedClientBase := base }, left, ?_, contract, succeeds⟩
  rw [Attempt.run, ZenbeddedClient.init, if_neg (by simp [fresh]), laidRun]
  simp only [bind, Except.bind, baseRun]
  rfl

theorem Attempt.leavesNothing_iff {attempt : Attempt StateParams CommandParams}
    {client : ZenbeddedClient platform width StateCtx CommandCtx}
    (fresh : client.initialized = false)
    (fits : attempt.Fits config stateCodec commandCodec client)
    (transport : ZenohTransport Callback) :
    attempt.LeavesNothing config stateCodec commandCodec onTransportCmdCb client transport ↔
      InitClean attempt.zenoh attempt.controlFreq transport := by
  obtain ⟨code, after, left, run, contract, _⟩ :=
    @Attempt.run_fits _ _ _ _ _ _ _ _ _ _ _ _ onTransportCmdCb _ _ fresh fits transport
  rw [← contract]
  constructor
  · intro nothing
    obtain ⟨code', after', left', run', contract'⟩ := nothing
    rw [run] at run'
    cases run'
    exact contract'
  · intro holds
    exact ⟨code, after, left, run, holds⟩

theorem CleanFailures.unchanged {client after : ZenbeddedClient platform width StateCtx CommandCtx}
    {transport left : ZenohTransport Callback}
    {attempts : List (Attempt StateParams CommandParams)}
    (failures : CleanFailures config stateCodec commandCodec onTransportCmdCb client transport
      attempts after left) (fresh : client.initialized = false) :
    after.initialized = false ∧ SameResources transport left := by
  induction failures with
  | nil => exact ⟨fresh, SameResources.refl _⟩
  | cons fits clean run failed rest inductionHypothesis =>
      obtain ⟨code, next, passed, run', contract, _⟩ :=
        @Attempt.run_fits _ _ _ _ _ _ _ _ _ _ _ _ onTransportCmdCb _ _ fresh fits _
      rw [run] at run'
      cases run'
      obtain ⟨dead, same⟩ := (contract.mpr clean).failed failed
      obtain ⟨dead', same'⟩ := inductionHypothesis dead
      exact ⟨dead', same.trans same'⟩

theorem Attempt.run_refused {attempt : Attempt StateParams CommandParams}
    {client : ZenbeddedClient platform width StateCtx CommandCtx}
    (fresh : client.initialized = false)
    (fits : attempt.Fits config stateCodec commandCodec client)
    {transport : ZenohTransport Callback} (refused : ¬ SessionOpens attempt.zenoh transport) :
    ∃ after left, attempt.run config stateCodec commandCodec onTransportCmdCb client transport =
      .ok (-eio, after, left) := by
  obtain ⟨laid, laidRun, stateFits, cmdFits⟩ := fits
  obtain ⟨base, left, baseRun, _⟩ := initBase_refused ((layOut_initialized laidRun).trans fresh)
    stateFits cmdFits onTransportCmdCb attempt.controlFreq refused
  refine ⟨{ laid with toZenbeddedClientBase := base }, left, ?_⟩
  rw [Attempt.run, ZenbeddedClient.init, if_neg (by simp [fresh]), laidRun]
  simp only [bind, Except.bind, baseRun]
  rfl

/-- With slots free and Zenoh answering, an attempt starts the client. -/
theorem Attempt.run_starts {attempt : Attempt StateParams CommandParams}
    {client : ZenbeddedClient platform width StateCtx CommandCtx}
    (fresh : client.initialized = false)
    (fits : attempt.Fits config stateCodec commandCodec client)
    {transport : ZenohTransport Callback} (declares : Declares attempt.zenoh transport)
    (positive : attempt.controlFreq ≠ 0) :
    ∃ started left,
      attempt.run config stateCodec commandCodec onTransportCmdCb client transport =
          .ok (0, started, left) ∧
        started.initialized = true ∧ started.controlThreadStarted = true ∧
        started.controlThreadRunning = true := by
  obtain ⟨code, after, left, run, contract, succeeds⟩ :=
    @Attempt.run_fits _ _ _ _ _ _ _ _ _ _ _ _ onTransportCmdCb _ _ fresh fits transport
  have zero := succeeds declares positive
  rw [zero] at run contract
  exact ⟨after, left, run, (contract.mpr (Or.inr (Or.inr ⟨declares, positive⟩))).started rfl⟩

end

/-- An attempt keeps its contract exactly when it stops before it has acquired
anything or acquires everything, and retries after such failures start the client. -/
theorem init_leavesNothing_iff (config : Config)
    (stateCodec : StateCodec platform StateCtx StateParams StateValue)
    (commandCodec : CommandCodec platform CommandCtx CommandParams CommandValue)
    (onTransportCmdCb : Callback) (client : ZenbeddedClient platform width StateCtx CommandCtx)
    (fresh : client.initialized = false) (transport : ZenohTransport Callback) :
    (∀ attempt : Attempt StateParams CommandParams,
      attempt.Fits config stateCodec commandCodec client →
        (attempt.LeavesNothing config stateCodec commandCodec onTransportCmdCb client transport ↔
          InitClean attempt.zenoh attempt.controlFreq transport)) ∧
    ∀ (attempts : List (Attempt StateParams CommandParams))
      (after : ZenbeddedClient platform width StateCtx CommandCtx)
      (left : ZenohTransport Callback),
      CleanFailures config stateCodec commandCodec onTransportCmdCb client transport attempts
          after left →
        after.initialized = false ∧ SameResources transport left ∧
        ∀ last : Attempt StateParams CommandParams,
          last.Fits config stateCodec commandCodec after → last.zenoh.AllSucceed →
          last.controlFreq ≠ 0 → PubSlotFree transport → SubSlotFree transport →
          ∃ started final,
            last.run config stateCodec commandCodec onTransportCmdCb after left =
                .ok (0, started, final) ∧
              started.initialized = true ∧ started.controlThreadStarted = true ∧
              started.controlThreadRunning = true := by
  refine ⟨fun attempt fits => Attempt.leavesNothing_iff fresh fits transport, ?_⟩
  intro attempts after left failures
  obtain ⟨dead, same⟩ := failures.unchanged fresh
  refine ⟨dead, same, ?_⟩
  intro last fits succeed positive pubFree subFree
  have declares : Declares last.zenoh left :=
    { opens := Or.inr succeed.opened
      pubFree := same.pubSlotFree pubFree
      published := succeed.publisher
      subFree := same.subSlotFree subFree
      subscribed := succeed.subscriber }
  exact Attempt.run_starts dead fits declares positive

/-- Templates and layouts that fit the capacities are what `Fits` asks for. -/
theorem Attempt.tier1_fits {config : Config}
    {attempt : Attempt JointStateCodec.InitParams JointCommandCodec.InitParams}
    (size : attempt.scratch.length = config.maxCmdBufferSize)
    (templates : attempt.stateParams.templateEnd ≤ config.maxStateBufferSize ∧
      attempt.cmdParams.templateEnd ≤ config.maxCmdBufferSize)
    (stateFits : attempt.stateParams.layoutSize ≤ config.maxStateBufferSize)
    (cmdFits : attempt.cmdParams.layoutSize ≤ config.maxCmdBufferSize)
    (client : Tier1Client platform width) :
    attempt.Fits config (JointStateCodec.codec platform) (JointCommandCodec.codec platform)
      client := by
  obtain ⟨laid, laidRun⟩ := (layOut_ok_iff config attempt.stateParams attempt.cmdParams size
    client).mpr templates
  obtain ⟨stateSize, cmdSize, _⟩ := layOut_sizes size laidRun
  exact ⟨laid, laidRun, stateSize ▸ stateFits, cmdSize ▸ cmdFits⟩

def Attempt.oneJoint (zenoh : ZenohOutcomes) (controlFreq : BitVec 32) :
    Attempt JointStateCodec.InitParams JointCommandCodec.InitParams :=
  { zenoh
    controlFreq
    stateParams := oneJointState none
    cmdParams := oneJointCommand
    scratch := List.replicate 256 0 }

abbrev HostClient := Tier1Client Platform.host64 64

theorem Attempt.oneJoint_fits (zenoh : ZenohOutcomes) (controlFreq : BitVec 32)
    (client : HostClient) :
    (Attempt.oneJoint zenoh controlFreq).Fits Config.tier1Default
      (JointStateCodec.codec Platform.host64) (JointCommandCodec.codec Platform.host64) client := by
  have templates : (oneJointState none).templateEnd ≤ Config.tier1Default.maxStateBufferSize ∧
      oneJointCommand.templateEnd ≤ Config.tier1Default.maxCmdBufferSize := by decide
  have stateFits : (oneJointState none).layoutSize ≤ Config.tier1Default.maxStateBufferSize := by
    decide
  have cmdFits : oneJointCommand.layoutSize ≤ Config.tier1Default.maxCmdBufferSize := by decide
  have size : (Attempt.oneJoint zenoh controlFreq).scratch.length =
      Config.tier1Default.maxCmdBufferSize := List.length_replicate
  exact Attempt.tier1_fits size templates stateFits cmdFits client

theorem good_declares : Declares ZenohOutcomes.good (ZenohTransport.start : ZenohTransport Unit) :=
  ⟨Or.inr rfl, start_pubSlotFree, rfl, start_subSlotFree, rfl⟩

/-- A session that does not open, and a second attempt in which everything succeeds. -/
theorem init_leavesNothing_one_joint :
    ∃ (after : HostClient) (left : ZenohTransport Unit),
      CleanFailures Config.tier1Default (JointStateCodec.codec Platform.host64)
        (JointCommandCodec.codec Platform.host64) () (Tier1Client.new Config.tier1Default)
        ZenohTransport.start
        [Attempt.oneJoint { ZenohOutcomes.good with opened := none } 100] after left ∧
      ∃ started final,
        (Attempt.oneJoint ZenohOutcomes.good 100).run Config.tier1Default
            (JointStateCodec.codec Platform.host64) (JointCommandCodec.codec Platform.host64) ()
            after left = .ok (0, started, final) ∧
          started.initialized = true ∧ started.controlThreadStarted = true ∧
          started.controlThreadRunning = true := by
  have closed : ¬ SessionOpens { ZenohOutcomes.good with opened := none }
      (ZenohTransport.start : ZenohTransport Unit) := by
    simp [SessionOpens, ZenohTransport.start]
  obtain ⟨after, left, refused⟩ := @Attempt.run_refused _ _ _ _ _ _ _ _ _ _ _ _ ()
    (Attempt.oneJoint { ZenohOutcomes.good with opened := none } 100)
    (Tier1Client.new Config.tier1Default) rfl (Attempt.oneJoint_fits _ _ _) _ closed
  have failures := CleanFailures.cons (Attempt.oneJoint_fits _ _ _) (Or.inl closed) refused
    (by decide) CleanFailures.nil
  refine ⟨after, left, failures, ?_⟩
  exact ((init_leavesNothing_iff Config.tier1Default _ _ () _ rfl ZenohTransport.start).2 _ _ _
    failures).2.2 (Attempt.oneJoint ZenohOutcomes.good 100) (Attempt.oneJoint_fits _ _ _)
    ⟨rfl, rfl, rfl⟩ (by decide) start_pubSlotFree start_subSlotFree

/-- A subscriber that is refused leaves session and publisher behind, a zero
frequency an initialised client. -/
theorem not_leavesNothing_noSubscriber_noFrequency :
    ¬ (Attempt.oneJoint { ZenohOutcomes.good with subscriber := false } 100).LeavesNothing
        Config.tier1Default (JointStateCodec.codec Platform.host64)
        (JointCommandCodec.codec Platform.host64) ()
        (Tier1Client.new Config.tier1Default : HostClient) ZenohTransport.start ∧
      ¬ (Attempt.oneJoint ZenohOutcomes.good 0).LeavesNothing
        Config.tier1Default (JointStateCodec.codec Platform.host64)
        (JointCommandCodec.codec Platform.host64) ()
        (Tier1Client.new Config.tier1Default : HostClient) ZenohTransport.start := by
  constructor
  · intro nothing
    rcases (Attempt.leavesNothing_iff rfl (Attempt.oneJoint_fits _ _ _) _).mp nothing with
      refused | blocked | started
    · exact refused (Or.inr rfl)
    · exact blocked.2 ⟨start_pubSlotFree, rfl⟩
    · exact absurd started.1.subscribed (by decide)
  · intro nothing
    rcases (Attempt.leavesNothing_iff rfl (Attempt.oneJoint_fits _ _ _) _).mp nothing with
      refused | blocked | started
    · exact refused (Or.inr rfl)
    · exact blocked.2 ⟨start_pubSlotFree, rfl⟩
    · exact started.2 rfl

end Zenbedded.Rcl
