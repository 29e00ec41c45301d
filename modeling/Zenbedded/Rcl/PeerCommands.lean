import Zenbedded.Rcl.CommandValues
import Zenbedded.Rcl.WholePayloads

namespace Zenbedded.Rcl

open Zenbedded.Foundation Zenbedded.Foundation.Cdr Zenbedded.Transport

/-! # Commands of ROS peers

Peers put samples of any bytes, which arrive in order where they arrive.  The
callback of the subscriber stores those of the right size byte after byte while
any number of threads call `read_command`.
-/

variable {platform : Platform} {width : Nat} {Callback Reader : Type}

structure Inbox (Reader : Type) (width : Nat) where
  /-- Samples on their way, the newest first. -/
  inFlight : List Bytes
  commands : System Reader width

inductive InboxAction (Reader : Type) where
  | put (payload : Bytes)
  | lose (index : Nat)
  | deliver
  | advanceCallback
  | readCommand (reader : Reader)
deriving Repr, DecidableEq

inductive InboxEvent (Reader : Type) where
  | put (payload : Bytes)
  | lost
  /-- The handler or the callback has returned before any store. -/
  | refused
  | buffer (event : Event Reader)
deriving Repr, DecidableEq

namespace Inbox

variable [DecidableEq Reader]

def actBuffer (size : Nat) (action : Action Reader) (inbox : Inbox Reader width) :
    Option (InboxEvent Reader × Inbox Reader width) := do
  let (event, commands) ← inbox.commands.act size action
  return (.buffer event, { inbox with commands })

def deliver (tier : Tier) (sub : ZenbeddedSub Callback) (size : Nat) (inbox : Inbox Reader width) :
    Option (InboxEvent Reader × Inbox Reader width) :=
  match inbox.inFlight.getLast? with
  | none => none
  | some payload =>
      let taken := { inbox with inFlight := inbox.inFlight.dropLast }
      match acceptedSample tier sub size payload with
      | none => some (.refused, taken)
      | some bytes => taken.actBuffer size (.beginWrite (.command bytes))

def act (tier : Tier) (sub : ZenbeddedSub Callback) (size : Nat) (inbox : Inbox Reader width) :
    InboxAction Reader → Option (InboxEvent Reader × Inbox Reader width)
  | .put payload => some (.put payload, { inbox with inFlight := payload :: inbox.inFlight })
  | .lose index => some (.lost, { inbox with inFlight := inbox.inFlight.eraseIdx index })
  | .deliver => inbox.deliver tier sub size
  | .advanceCallback => inbox.actBuffer size .advanceWriter
  | .readCommand reader => inbox.actBuffer size (.advanceReader reader)

def Step (tier : Tier) (sub : ZenbeddedSub Callback) (size : Nat) (inbox : Inbox Reader width)
    (event : InboxEvent Reader) (after : Inbox Reader width) : Prop :=
  ∃ action, inbox.act tier sub size action = some (event, after)

/-- Nothing is on its way, and the buffer is the client's. -/
def start (client : ZenbeddedClientBase platform width) : Inbox Reader width :=
  { inFlight := []
    commands :=
      { shared := ⟨client.cmdBuffer, client.cmdAcceptedCount, .idle⟩, readers := fun _ => .idle } }

end Inbox

inductive InboxStep [DecidableEq Reader] (tier : Tier) (sub : ZenbeddedSub Callback) (size : Nat)
    (inbox : Inbox Reader width) : InboxEvent Reader → Inbox Reader width → Prop
  | puts (payload : Bytes) : InboxStep tier sub size inbox (.put payload) { inbox with
      inFlight := payload :: inbox.inFlight }
  | loses (index : Nat) : InboxStep tier sub size inbox .lost { inbox with
      inFlight := inbox.inFlight.eraseIdx index }
  | refuses {rest : List Bytes} {payload : Bytes} (last : inbox.inFlight = rest ++ [payload]) :
      InboxStep tier sub size inbox .refused { inbox with inFlight := rest }
  | begins {rest : List Bytes} {payload : Bytes} {event : WriterEvent} {shared : Shared width}
      (last : inbox.inFlight = rest ++ [payload]) (sized : payload.length = size)
      (began : inbox.commands.shared.beginWrite (.command payload) = some (event, shared)) :
      InboxStep tier sub size inbox (.buffer (.writer event)) { inbox with
        inFlight := rest, commands := { inbox.commands with shared } }
  | advances {event : WriterEvent} {shared : Shared width}
      (advanced : inbox.commands.shared.advanceWriter = some (event, shared)) :
      InboxStep tier sub size inbox (.buffer (.writer event)) { inbox with
        commands := { inbox.commands with shared } }
  | reads {reader : Reader} {event : ReaderEvent} {pc : ReaderPc width}
      (moved : readerStep size inbox.commands.shared.buffer (inbox.commands.readers reader) =
        some (event, pc)) :
      InboxStep tier sub size inbox (.buffer (.reader reader event)) { inbox with
        commands := { inbox.commands with
          readers := Function.update inbox.commands.readers reader pc } }

section

variable [DecidableEq Reader] {tier : Tier} {sub : ZenbeddedSub Callback} {size : Nat}
  {first inbox after : Inbox Reader width} {event : InboxEvent Reader}
  {trace : List (InboxEvent Reader)}

theorem deliver_step (acted : inbox.deliver tier sub size = some (event, after)) :
    InboxStep tier sub size inbox event after := by
  unfold Inbox.deliver at acted
  split at acted
  · cases acted
  · rename_i payload last
    obtain ⟨rest, queue⟩ := List.getLast?_eq_some_iff.mp last
    rw [queue, List.dropLast_concat] at acted
    split at acted
    · cases acted
      exact .refuses queue
    · rename_i bytes accepted
      obtain ⟨rfl, sized⟩ := acceptedSample_some accepted
      obtain ⟨⟨begun, commands⟩, began, result⟩ := Option.bind_eq_some_iff.mp acted
      cases result
      obtain ⟨⟨writerEvent, shared⟩, begins, result⟩ := Option.bind_eq_some_iff.mp began
      cases result
      exact .begins queue sized begins

theorem Inbox.Step.cases (step : Inbox.Step tier sub size inbox event after) :
    InboxStep tier sub size inbox event after := by
  obtain ⟨action, acted⟩ := step
  cases action with
  | put payload =>
      cases acted
      exact .puts payload
  | lose index =>
      cases acted
      exact .loses index
  | deliver => exact deliver_step acted
  | advanceCallback =>
      obtain ⟨⟨moved, commands⟩, advanced, result⟩ := Option.bind_eq_some_iff.mp acted
      cases result
      obtain ⟨⟨writerEvent, shared⟩, advances, result⟩ := Option.bind_eq_some_iff.mp advanced
      cases result
      exact .advances advances
  | readCommand reader =>
      obtain ⟨⟨moved, commands⟩, advanced, result⟩ := Option.bind_eq_some_iff.mp acted
      cases result
      obtain ⟨⟨readerEvent, pc⟩, moves, result⟩ := Option.bind_eq_some_iff.mp advanced
      cases result
      exact .reads moves

def InboxEvent.ofBuffer : InboxEvent Reader → Option (Event Reader)
  | .buffer event => some event
  | _ => none

def inboxBuffer (trace : List (InboxEvent Reader)) : List (Event Reader) :=
  trace.filterMap InboxEvent.ofBuffer

def InboxEvent.sample : InboxEvent Reader → Option Bytes
  | .put payload => some payload
  | _ => none

/-- The samples that peers have put, the newest first. -/
def putSamples (trace : List (InboxEvent Reader)) : List Bytes :=
  trace.filterMap InboxEvent.sample

/-- To the buffer a run is one that begins only whole writes. -/
theorem inbox_projection (reaches : Reaches (Inbox.Step tier sub size) first trace inbox) :
    Reaches (WholeStep size) first.commands (inboxBuffer trace) inbox.commands := by
  induction reaches with
  | start => exact .start
  | step _ moved inductionHypothesis =>
      cases moved.cases with
      | puts | loses | refuses => exact inductionHypothesis
      | @begins rest payload event shared last sized began =>
          refine inductionHypothesis.step ⟨.beginWrite (.command payload), ?_, ?_⟩
          · intro write begins
            cases begins
            exact whole_command sized
          · exact Option.bind_eq_some_iff.mpr ⟨_, began, rfl⟩
      | advances advanced =>
          refine inductionHypothesis.step ⟨.advanceWriter, ?_, ?_⟩
          · intro write begins
            cases begins
          · exact Option.bind_eq_some_iff.mpr ⟨_, advanced, rfl⟩
      | @reads reader event pc advanced =>
          refine inductionHypothesis.step ⟨.advanceReader reader, ?_, ?_⟩
          · intro write begins
            cases begins
          · exact Option.bind_eq_some_iff.mpr ⟨_, advanced, rfl⟩

/-- What is on its way or has begun to be stored was put, in this order. -/
theorem samples_inOrder (reaches : Reaches (Inbox.Step tier sub size) first trace inbox)
    (empty : first.inFlight = []) (idle : first.commands.shared.writer = .idle) :
    (inbox.inFlight ++ begun (inboxBuffer trace) inbox.commands.shared).Sublist
      (putSamples trace) := by
  induction reaches with
  | start =>
      rw [empty, begun, idle]
      exact .slnil
  | @step trace inbox event after _ moved inductionHypothesis =>
      cases moved.cases with
      | puts payload => exact inductionHypothesis.cons_cons payload
      | loses index =>
          exact ((List.eraseIdx_sublist _ _).append (List.Sublist.refl _)).trans
            inductionHypothesis
      | refuses last =>
          rw [last] at inductionHypothesis
          exact ((List.sublist_append_left _ _).append (List.Sublist.refl _)).trans
            inductionHypothesis
      | begins last _ began =>
          rw [last, List.append_assoc, List.singleton_append] at inductionHypothesis
          have grown := begun_beginWrite began (inboxBuffer trace)
          exact grown ▸ inductionHypothesis
      | advances advanced =>
          have same := begun_advanceWriter advanced (inboxBuffer trace)
          exact same ▸ inductionHypothesis
      | @reads reader event pc _ =>
          have same := begun_reader reader event (inboxBuffer trace) inbox.commands.shared
          exact same ▸ inductionHypothesis

end

section

variable {StateCtx : Type} {client : JointCommandClient platform width StateCtx} {capacity : Nat}
  {params : JointCommandCodec.InitParams}

theorem copyOutWord_zeros {total : Nat} {offset : platform.SizeT} (room : offset.toNat + 4 ≤ total)
    (out : Option (BitVec 32)) :
    copyOutWord (List.replicate total 0) offset out = .ok (out.map fun _ => 0) := by
  have inside : offset.toNat + 4 ≤ (List.replicate total (0 : UInt8)).length := by
    rw [List.length_replicate]
    exact room
  have four : (List.drop offset.toNat (List.replicate total (0 : UInt8))).take 4 =
      List.replicate 4 0 := by
    rw [List.drop_replicate, List.take_replicate, Nat.min_eq_left (by omega)]
  cases out with
  | none => rfl
  | some old =>
      rw [copyOutWord, loadBytes_ok inside, four]
      rfl

theorem copyOut_zeros {total count : Nat} {offset size : platform.SizeT}
    (whole : size.toNat = 8 * count) (room : offset.toNat + 8 * count ≤ total)
    {out : Option (List Double)} (lengths : ∀ array ∈ out, array.length = count) :
    copyOut (List.replicate total 0) offset size out =
      .ok (out.map fun _ => List.replicate count 0) := by
  have segments : List.replicate total (0 : UInt8) =
      [List.replicate offset.toNat 0, List.replicate (8 * count) 0,
        List.replicate (total - (offset.toNat + 8 * count)) 0].flatten := by
    simp only [List.flatten_cons, List.flatten_nil, List.append_nil,
      List.replicate_append_replicate]
    congr 1
    omega
  have start : offset.toNat = partOffset [List.replicate offset.toNat (0 : UInt8),
      List.replicate (8 * count) 0, List.replicate (total - (offset.toNat + 8 * count)) 0] 1 := by
    simp [partOffset]
  have zeros : arrayBytes (List.replicate count (0 : Double)) = List.replicate (8 * count) 0 :=
    arrayBytes_replicate_zero ..
  rw [segments, copyOut_part _ 1 rfl start whole List.length_replicate lengths, ← zeros]
  have read := ofArrayBytes_arrayBytes (show 64 % 8 = 0 by decide) (List.replicate count (0 : Double))
  rw [List.length_replicate] at read
  rw [read]

/-- A buffer of zeros is read as zeros. -/
theorem TakesCommands.read_zeros (takes : TakesCommands client capacity params)
    {out : JointCommandCodec.Value}
    (room : ∀ array ∈ out.values, array.length = params.numJoints.toNat) :
    JointCommandCodec.read client.cmdCtx (List.replicate client.cmdPayloadSize.toNat 0)
        client.cmdPayloadSize out =
      .ok (true, ⟨0, 0, out.values.map fun _ => List.replicate params.numJoints.toNat 0⟩) := by
  obtain ⟨joints, timestamp, values, payload⟩ := takes.points
  rw [takes.ready.size]
  generalize size : JointCommandCodec.payloadSize client.cmdCtx = payloadSize
  have total : payloadSize.toNat = client.cmdCtx.offsetValues.toNat + 8 * params.numJoints.toNat := by
    rw [← size, values, ← takes.narrow]
    exact payload
  have start : 12 ≤ client.cmdCtx.offsetValues.toNat := by
    have front := stringEnd_ge (alignTo 4 (headEnd (OptionalString.value params.frameId)
      (params.jointNames.take params.numJoints.toNat))) (OptionalString.value params.interfaceName)
    have count := countEnd_ge (stringEnd (alignTo 4 (headEnd (OptionalString.value params.frameId)
      (params.jointNames.take params.numJoints.toNat))) (OptionalString.value params.interfaceName))
    simp only [values, jointCommandLayout, jointCommandOffsets, cdrHeaderSize]
    omega
  have accepted : ¬ payloadSize < client.cmdCtx.payloadSize := by
    rw [← size]
    exact BitVec.lt_irrefl _
  have bytes : (arraySize params.numJoints : platform.SizeT).toNat = 8 * params.numJoints.toNat := by
    rw [arraySize_toNat, takes.narrow]
  have sec := @copyOutWord_zeros platform payloadSize.toNat client.cmdCtx.offsetTimestamp
    (by rw [timestamp, cdrHeaderSize]; omega) (some out.stampSec)
  have nanosec := @copyOutWord_zeros platform payloadSize.toNat (client.cmdCtx.offsetTimestamp + 4)
    (by rw [stampOffset_add_four timestamp]; omega) (some out.stampNanosec)
  have array := copyOut_zeros bytes (Nat.le_of_eq total.symm) room
  simp only [JointCommandCodec.read, zcdrDeserializeJointCommand, if_neg accepted, joints, sec,
    nanosec, array, bind, Except.bind]
  rfl

/-- The encoding of a message of the right size is read as the message. -/
theorem TakesCommands.read_encoded (takes : TakesCommands client capacity params)
    {message : JointCommand} (count : message.values.length = params.numJoints.toNat)
    (joints : params.jointNames ≠ []) {pad : Nat → UInt8}
    (accepted : (encode (message.emitter pad)).length = client.cmdPayloadSize.toNat)
    {out : JointCommandCodec.Value}
    (room : ∀ array ∈ out.values, array.length = params.numJoints.toNat) :
    JointCommandCodec.read client.cmdCtx (encode (message.emitter pad)) client.cmdPayloadSize out =
      .ok (true, ⟨message.sec, message.nanosec, out.values.map fun _ => message.values⟩) := by
  obtain ⟨base, taken, _, reads⟩ := takes.readCommand count joints accepted room
  obtain ⟨delivered, delivery, ready, _, raw⟩ := takes.ready.onTransportCmdCb takes.fits
    (takes.ready.size ▸ accepted)
  rw [taken] at delivery
  cases delivery
  rw [ZenbeddedClient.readCommand, if_pos ready.initialized] at reads
  simp only [raw, bind, Except.bind, ready.size] at reads
  rw [takes.ready.size]
  exact reads

/-- What `read_command` makes of a payload: no command yet, or the message that the sample encodes,
applied to the configured joints in their order. -/
def ReadsAs (client : JointCommandClient platform width StateCtx)
    (params : JointCommandCodec.InitParams) (payload : Bytes) (origin : Option Bytes) : Prop :=
  ∀ out : JointCommandCodec.Value, (∀ array ∈ out.values, array.length = params.numJoints.toNat) →
    match origin with
    | none => JointCommandCodec.read client.cmdCtx payload client.cmdPayloadSize out =
        .ok (true, ⟨0, 0, out.values.map fun _ => List.replicate params.numJoints.toNat 0⟩)
    | some sample => payload = sample ∧ ∀ (message : JointCommand) (pad : Nat → UInt8),
        sample = encode (message.emitter pad) →
        message.values.length = params.numJoints.toNat →
        JointCommandCodec.read client.cmdCtx payload client.cmdPayloadSize out =
          .ok (true, ⟨message.sec, message.nanosec, out.values.map fun _ => message.values⟩)

theorem TakesCommands.readsAs_sample (takes : TakesCommands client capacity params)
    (joints : params.jointNames ≠ []) {payload : Bytes}
    (sized : payload.length = client.cmdPayloadSize.toNat) :
    ReadsAs client params payload (some payload) := by
  intro out room
  refine ⟨rfl, ?_⟩
  rintro message pad rfl count
  exact takes.read_encoded count joints sized room

end

section

variable [DecidableEq Reader] {size : Nat} {slots : SlotIdx → Bytes} {trace : List (Event Reader)}
  {system : System Reader width}

theorem committed_sized (reaches : Reaches (WholeStep size) (System.start slots) trace system)
    {payload : Bytes} (member : payload ∈ committed trace) : payload.length = size := by
  obtain ⟨event, inTrace, carried⟩ := List.mem_filterMap.mp member
  obtain ⟨write, commits, rfl⟩ := Option.map_eq_some_iff.mp carried
  cases event with
  | reader reader event => cases commits
  | writer event =>
      cases event with
      | internal | increment | counted => cases commits
      | commit other =>
          cases commits
          exact ((OnlyWhole.reaches reaches).committed write inTrace).length

end

/-- Whatever is lost or refused and however the threads interleave, each thread's `read_command`
yields zeros at first and then samples of the peers, each whole and none behind one read before.
There is at least one joint, and each attempt sees fewer than 2^w commits. -/
theorem peerCommands_endToEnd {StateCtx StateParams StateValue : Type} {config : Config}
    {stateCodec : StateCodec platform StateCtx StateParams StateValue} {stateParams : StateParams}
    {params : JointCommandCodec.InitParams} (joints : params.jointNames ≠ []) {scratch : Bytes}
    (size : scratch.length = config.maxCmdBufferSize)
    {client ready : JointCommandClient platform width StateCtx}
    (fresh : client.initialized = false) {zenoh : ZenohOutcomes} {onTransportCmdCb : Callback}
    {controlFreq : BitVec 32} {transport left : ZenohTransport Callback} {code : Int}
    (run : client.init config stateCodec (JointCommandCodec.codec platform) zenoh onTransportCmdCb
      controlFreq stateParams params scratch transport = .ok (code, ready, left))
    (live : ready.initialized = true) [DecidableEq Reader] {tier : Tier}
    {sub : ZenbeddedSub Callback} {trace : List (InboxEvent Reader)} {inbox : Inbox Reader width}
    (reaches : Reaches (Inbox.Step tier sub ready.cmdPayloadSize.toNat)
      (Inbox.start ready.toZenbeddedClientBase) trace inbox)
    (brisk : Brisk width (inboxBuffer trace)) (reader : Reader) :
    ∃ origins, Samples origins ((putSamples trace).map some ++ [none]) ∧
      List.Forall₂ (ReadsAs ready params) (returned reader (inboxBuffer trace)) origins := by
  have takes := init_takesCommands size fresh run live
  obtain ⟨laid, laidRun, accepted⟩ := init_accepted fresh run live
  obtain ⟨_, cleared, uncounted⟩ := layOut_laidOut laidRun
  have start : (Inbox.start ready.toZenbeddedClientBase : Inbox Reader width).commands =
      System.start fun _ => List.replicate config.maxCmdBufferSize 0 := by
    rw [Inbox.start, accepted.cmdBuffer, accepted.count, cleared, uncounted]
    rfl
  have fits : ready.cmdPayloadSize.toNat ≤ config.maxCmdBufferSize := by
    rw [accepted.cmdSize]
    exact accepted.cmdFits
  have buffer := inbox_projection reaches
  rw [start] at buffer
  have sampled := returned_samples_committed buffer
    (fun _ => fits.trans_eq List.length_replicate.symm) brisk reader
  rw [List.take_replicate, Nat.min_eq_left fits] at sampled
  have meaning : List.Forall₂ (ReadsAs ready params)
      (committed (inboxBuffer trace) ++ [List.replicate ready.cmdPayloadSize.toNat 0])
      ((committed (inboxBuffer trace)).map some ++ [none]) := by
    apply List.rel_append
    · rw [List.forall₂_map_right_iff, List.forall₂_same]
      intro payload member
      exact takes.readsAs_sample joints (committed_sized buffer member)
    · exact .cons (fun out room => takes.read_zeros room) .nil
  obtain ⟨origins, order, each⟩ := sampled.stand meaning
  have inOrder : (committed (inboxBuffer trace)).Sublist (putSamples trace) :=
    ((List.sublist_append_right _ _).trans (List.sublist_append_right _ _)).trans
      (samples_inOrder reaches rfl rfl)
  exact ⟨origins, order.trans (.of_sublist ((inOrder.map some).append (List.Sublist.refl _))), each⟩

def firstCommand : Bytes :=
  encode ((⟨1, 2, [], [[97]], [], [3]⟩ : JointCommand).emitter fun _ => 0)

def secondCommand : Bytes :=
  encode ((⟨1, 5, [], [[97]], [], [4]⟩ : JointCommand).emitter fun _ => 0)

/-- The callback stores the oldest sample, and the command is read. -/
def deliverAndRead : List (InboxAction Unit) :=
  List.flatten
    [[.deliver], List.replicate (firstCommand.length + 3) .advanceCallback,
      List.replicate (firstCommand.length + 4) (.readCommand ())]

/-- Peers put a sample that is too short and two commands, each of which is read. -/
def twoCommandsRead : List (InboxAction Unit) :=
  [.put [], .put firstCommand, .put secondCommand, .deliver] ++ deliverAndRead ++ deliverAndRead

def oneInboxSub : ZenbeddedSub Unit := ⟨true, true, some (), [], []⟩

set_option maxRecDepth 16384 in
theorem peerCommands_endToEnd_twoCommands :
    ∃ (ready : HostClient) (left : ZenohTransport Unit) (trace : List (InboxEvent Unit))
      (inbox : Inbox Unit 64) (origins : List (Option Bytes)),
      (Attempt.oneJoint ZenohOutcomes.good 100).run Config.tier1Default
          (JointStateCodec.codec Platform.host64) (JointCommandCodec.codec Platform.host64) ()
          (Tier1Client.new Config.tier1Default) ZenohTransport.start = .ok (0, ready, left) ∧
      perform (fun action inbox => inbox.act .tier1 oneInboxSub firstCommand.length action)
        (Inbox.start ready.toZenbeddedClientBase) twoCommandsRead.reverse = some (trace, inbox) ∧
      returned () (inboxBuffer trace) = [secondCommand, firstCommand] ∧
      Samples origins [some secondCommand, some firstCommand, some [], none] ∧
      List.Forall₂ (ReadsAs ready oneJointCommand) [secondCommand, firstCommand] origins := by
  obtain ⟨ready, left, trace, inbox, run, live, size, ran, read, samples, few⟩ :
      ∃ (ready : HostClient) (left : ZenohTransport Unit) (trace : List (InboxEvent Unit))
        (inbox : Inbox Unit 64),
        (Attempt.oneJoint ZenohOutcomes.good 100).run Config.tier1Default
            (JointStateCodec.codec Platform.host64) (JointCommandCodec.codec Platform.host64) ()
            (Tier1Client.new Config.tier1Default) ZenohTransport.start = .ok (0, ready, left) ∧
        ready.initialized = true ∧ ready.cmdPayloadSize.toNat = firstCommand.length ∧
        perform (fun action inbox => inbox.act .tier1 oneInboxSub firstCommand.length action)
          (Inbox.start ready.toZenbeddedClientBase) twoCommandsRead.reverse =
            some (trace, inbox) ∧
        returned () (inboxBuffer trace) = [secondCommand, firstCommand] ∧
        putSamples trace = [secondCommand, firstCommand, []] ∧
        commits (inboxBuffer trace) = 2 :=
    ⟨_, _, _, _, rfl, rfl, rfl, rfl, rfl, rfl, rfl⟩
  have reaches : Reaches (Inbox.Step .tier1 oneInboxSub ready.cmdPayloadSize.toNat)
      (Inbox.start ready.toZenbeddedClientBase) trace inbox := by
    rw [size]
    exact perform_reaches (fun action _ _ _ acted => ⟨action, acted⟩) ran
  obtain ⟨origins, order, each⟩ := peerCommands_endToEnd (by decide) List.length_replicate rfl run
    live reaches (brisk_of_few (by rw [few]; decide)) ()
  rw [samples] at order
  rw [read] at each
  exact ⟨ready, left, trace, inbox, origins, run, ran, read, order, each⟩

end Zenbedded.Rcl
