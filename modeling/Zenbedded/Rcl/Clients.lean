import Zenbedded.Foundation.Trace
import Zenbedded.Rcl.InitOutcome

namespace Zenbedded.Rcl

open Zenbedded.Foundation Zenbedded.Transport

/-! # Several clients in one image

They share the session and both pools.  A sample names its client by the user
data of the subscriber's callback.
-/

variable {ClientId : Type} {platform : Platform} {width : Nat} {config : Config}

/-- Both endpoints of a client are declared for it. -/
structure Connected (config : Config) (owner : ClientId)
    (client : ZenbeddedClientBase platform width) (transport : ZenohTransport ClientId)
    (pub sub : Endpoint) : Prop where
  pubHandle : client.pub = some pub
  subHandle : client.sub = some sub
  publisher : EndpointDeclared config.tier config.pubTopic config.stateType transport (.pub pub)
  subscriber : SubscriberDeclared config.tier config.subTopic config.cmdType owner transport sub

/-- An attempt that fails leaves the client down. -/
inductive InitEffect (config : Config) (owner : ClientId) (transport : ZenohTransport ClientId)
    (code : Int) (after : ZenbeddedClientBase platform width) (left : ZenohTransport ClientId) :
    Prop
  | failed (down : after.initialized = false) (nonzero : code ≠ 0)
  | connected (pub sub : Endpoint) (up : after.initialized = true)
      (fits : after.statePayloadSize.toNat ≤ config.maxStateBufferSize)
      (pubUnused : transport.inUse (.pub pub) = false)
      (subUnused : transport.inUse (.sub sub) = false)
      (connected : Connected config owner after left pub sub)

theorem startThread_keeps (controlFreq : BitVec 32) (client : ZenbeddedClientBase platform width)
    (live : client.initialized = true) :
    ∃ running started freq, (client.startThread controlFreq).2 = { client with
      controlThreadRunning := running, controlThreadStarted := started, controlFreq := freq } := by
  by_cases zero : controlFreq = 0
  · rw [zero, startThread_zero live]
    exact ⟨_, _, _, rfl⟩
  · rw [startThread_positive live zero]
    exact ⟨_, _, _, rfl⟩

theorem initBase_effect {client after : ZenbeddedClientBase platform width}
    {transport left : ZenohTransport ClientId} {code : Int} {owner : ClientId}
    (fresh : client.initialized = false) {zenoh : ZenohOutcomes} {controlFreq : BitVec 32}
    {statePayloadSize cmdPayloadSize : platform.SizeT}
    (run : client.initBase config zenoh owner controlFreq statePayloadSize cmdPayloadSize
      transport = (code, after, left)) :
    KeepsUsed transport left ∧ after.stateBuffer = client.stateBuffer ∧
      InitEffect config owner transport code after left := by
  unfold ZenbeddedClientBase.initBase at run
  rw [if_neg (by simp [fresh])] at run
  dsimp only at run
  split at run
  · cases run
    exact ⟨KeepsUsed.refl transport, rfl, .failed fresh (by decide)⟩
  rename_i stateFits
  split at run
  · cases run
    exact ⟨KeepsUsed.refl transport, rfl, .failed fresh (by decide)⟩
  have opens := zenbeddedTransportInit_keepsUsed config.tier config.domainId config.nodeName
    zenoh.opened transport
  generalize zenbeddedTransportInit config.tier config.domainId config.nodeName zenoh.opened
    transport = session at run opens
  obtain ⟨openCode, opened⟩ := session
  dsimp only at run opens
  split at run
  · cases run
    exact ⟨opens, rfl, .failed fresh (by decide)⟩
  cases declaring : zenbeddedTransportDeclarePublisher config.tier config.pubTopic
    config.stateType zenoh.publisher zenoh.gid opened with
  | mk pub held =>
    rw [declaring] at run
    have published := (declarePublisher_outcome declaring).keepsUsed
    cases pub with
    | none =>
        cases run
        exact ⟨opens.trans published, rfl, .failed fresh (by decide)⟩
    | some pub =>
        obtain ⟨pubUnused, _, publisher⟩ := (declarePublisher_outcome declaring).returned
        dsimp only at run
        rw [if_neg (by simp)] at run
        cases accepting : zenbeddedTransportDeclareSubscriber config.tier config.subTopic
          config.cmdType owner zenoh.subscriber held with
        | mk sub finished =>
            rw [accepting] at run
            obtain ⟨outcome, called⟩ := declareSubscriber_outcome accepting
            have subscribed := outcome.keepsUsed
            have keeps := (opens.trans published).trans subscribed
            cases sub with
            | none =>
                cases run
                exact ⟨keeps, rfl, .failed fresh (by decide)⟩
            | some sub =>
                obtain ⟨subUnused, _, subscriber⟩ := outcome.returned
                dsimp only at run
                rw [if_neg (by simp)] at run
                obtain ⟨running, started, freq, result⟩ := startThread_keeps controlFreq
                  (client.declared statePayloadSize cmdPayloadSize pub sub controlFreq) rfl
                have client_eq := (Prod.mk.inj (Prod.mk.inj run).2).1.symm.trans result
                cases (Prod.mk.inj (Prod.mk.inj run).2).2
                subst client_eq
                refine ⟨keeps, rfl, .connected pub sub rfl (Nat.not_lt.mp stateFits) ?_ ?_
                  ⟨rfl, rfl, publisher.kept subscribed, subscriber, called sub rfl⟩⟩
                · exact opens.unused pubUnused
                · exact (opens.trans published).unused subUnused

theorem Connected.kept {owner : ClientId} {client : ZenbeddedClientBase platform width}
    {before after : ZenohTransport ClientId} {pub sub : Endpoint}
    (connected : Connected config owner client before pub sub) (keeps : KeepsUsed before after) :
    Connected config owner client after pub sub :=
  ⟨connected.pubHandle, connected.subHandle, connected.publisher.kept keeps,
    connected.subscriber.kept keeps⟩

structure Image (ClientId : Type) (platform : Platform) (width : Nat) where
  clients : ClientId → ZenbeddedClientBase platform width
  transport : ZenohTransport ClientId

def Image.start (config : Config) : Image ClientId platform width :=
  { clients := fun _ => ZenbeddedClientBase.new config, transport := ZenohTransport.start }

section

variable [DecidableEq ClientId]

/-- The payload sizes are what the codecs of the client laid out. -/
inductive ClientCall (ClientId : Type) (platform : Platform) where
  | init (client : ClientId) (controlFreq : BitVec 32)
      (statePayloadSize cmdPayloadSize : platform.SizeT) (zid gid : Bytes)
  | destroy (client : ClientId)

/-- Every Zenoh call succeeds. -/
def ClientCall.run (config : Config) (image : Image ClientId platform width) :
    ClientCall ClientId platform → Option Int × Image ClientId platform width
  | .init client controlFreq statePayloadSize cmdPayloadSize zid gid =>
      let (code, base, transport) := (image.clients client).initBase config
        { opened := some zid, publisher := true, subscriber := true, gid } client controlFreq
        statePayloadSize cmdPayloadSize image.transport
      (some code, { clients := Function.update image.clients client base, transport })
  | .destroy client =>
      let (base, transport) := (image.clients client).destroy image.transport
      (none, { clients := Function.update image.clients client base, transport })

structure Called (ClientId : Type) (platform : Platform) where
  call : ClientCall ClientId platform
  code : Option Int

namespace Called

def step (config : Config) (before : Image ClientId platform width)
    (called : Called ClientId platform) (after : Image ClientId platform width) : Prop :=
  called.call.run config before = (called.code, after)

def destroys (client : ClientId) (called : Called ClientId platform) : Bool :=
  match called.call with
  | .init .. => false
  | .destroy other => other = client

def initialises (client : ClientId) (called : Called ClientId platform) : Bool :=
  match called.call with
  | .init other .. => other = client && called.code == some 0
  | .destroy _ => false

end Called

/-- `init` has returned zero, and `destroy` has not been called since. -/
def Initialised (trace : List (Called ClientId platform)) (client : ClientId) : Prop :=
  (since (Called.destroys client) trace).any (Called.initialises client) = true

/-- Who is up holds two endpoints of its own. -/
structure ImageSound (config : Config) (trace : List (Called ClientId platform))
    (image : Image ClientId platform width) : Prop where
  recorded : ∀ client, Initialised trace client → (image.clients client).initialized = true
  sized : ∀ client, (image.clients client).stateBuffer.Sized config.maxStateBufferSize
  fits : ∀ client, (image.clients client).initialized = true →
    (image.clients client).statePayloadSize.toNat ≤ config.maxStateBufferSize
  connected : ∀ client, (image.clients client).initialized = true →
    ∃ pub sub, Connected config client (image.clients client) image.transport pub sub
  apart : ∀ client other, other ≠ client → (image.clients client).initialized = true →
    (image.clients other).initialized = true →
    (image.clients other).pub ≠ (image.clients client).pub ∧
      (image.clients other).sub ≠ (image.clients client).sub

theorem imageSound_start (config : Config) :
    ImageSound config [] (Image.start config : Image ClientId platform width) := by
  have down : ∀ client,
      ¬ ((Image.start config : Image ClientId platform width).clients client).initialized = true :=
    fun _ up => Bool.noConfusion up
  refine ⟨?_, fun _ => DoubleBuffer.cleared_sized _, fun client up => absurd up (down client),
    fun client up => absurd up (down client), fun client _ _ up => absurd up (down client)⟩
  intro client initialised
  simp [Initialised, since] at initialised

theorem initialised_init {called : Called ClientId platform} {owner : ClientId}
    {controlFreq : BitVec 32} {statePayloadSize cmdPayloadSize : platform.SizeT} {zid gid : Bytes}
    (call : called.call = .init owner controlFreq statePayloadSize cmdPayloadSize zid gid)
    {trace : List (Called ClientId platform)} {client : ClientId}
    (initialised : Initialised (called :: trace) client) :
    (owner = client ∧ called.code = some 0) ∨ Initialised trace client := by
  have unmarked : Called.destroys client called = false := by
    rw [Called.destroys, call]
  rw [Initialised, since_unmarked unmarked, List.any_cons, Bool.or_eq_true] at initialised
  rcases initialised with now | before
  · rw [Called.initialises, call] at now
    simp only [Bool.and_eq_true, decide_eq_true_eq, beq_iff_eq] at now
    exact Or.inl now
  · exact Or.inr before

theorem initialised_destroy {called : Called ClientId platform} {owner : ClientId}
    (call : called.call = .destroy owner) {trace : List (Called ClientId platform)}
    {client : ClientId} (initialised : Initialised (called :: trace) client) :
    client ≠ owner ∧ Initialised trace client := by
  by_cases same : owner = client
  · have marked : Called.destroys client called = true := by
      rw [Called.destroys, call]
      exact decide_eq_true same
    rw [Initialised, since_marked marked] at initialised
    contradiction
  · have unmarked : Called.destroys client called = false := by
      rw [Called.destroys, call]
      exact decide_eq_false same
    rw [Initialised, since_unmarked unmarked, List.any_cons, Called.initialises, call,
      Bool.false_or] at initialised
    exact ⟨Ne.symm same, initialised⟩

/-- A client is taken down only when it is the last one up. -/
def Called.lastUp (before : Image ClientId platform width) (called : Called ClientId platform) :
    Prop :=
  ∀ client, called.call = .destroy client → (before.clients client).initialized = true →
    ∀ other, other ≠ client → (before.clients other).initialized = false

section

variable {trace : List (Called ClientId platform)} {image : Image ClientId platform width}
  (sound : ImageSound config trace image)

include sound

theorem ImageSound.unchanged {called : Called ClientId platform}
    (recorded : ∀ client, Initialised (called :: trace) client →
      (image.clients client).initialized = true) :
    ImageSound config (called :: trace) image :=
  { sound with recorded }

theorem ImageSound.init_failed {called : Called ClientId platform} {owner : ClientId}
    {base : ZenbeddedClientBase platform width} {left : ZenohTransport ClientId}
    (fresh : (image.clients owner).initialized = false) (down : base.initialized = false)
    (sameBuffer : base.stateBuffer = (image.clients owner).stateBuffer)
    (keeps : KeepsUsed image.transport left)
    (recorded : ∀ client, Initialised (called :: trace) client → Initialised trace client) :
    ImageSound config (called :: trace)
      { clients := Function.update image.clients owner base, transport := left } := by
  have other_of_up : ∀ client,
      (Function.update image.clients owner base client).initialized = true →
      Function.update image.clients owner base client = image.clients client := by
    intro client up
    refine Function.update_of_ne ?_ ..
    intro same
    rw [same, Function.update_self, down] at up
    contradiction
  refine ⟨?_, ?_, ?_, ?_, ?_⟩
  · intro client initialised
    have up := sound.recorded client (recorded client initialised)
    have apart : client ≠ owner := by
      intro same
      rw [same, fresh] at up
      contradiction
    dsimp only
    rw [Function.update_of_ne apart]
    exact up
  · intro client
    by_cases same : client = owner
    · subst same
      dsimp only
      rw [Function.update_self, sameBuffer]
      exact sound.sized client
    · dsimp only
      rw [Function.update_of_ne same]
      exact sound.sized client
  · intro client up
    have same := other_of_up client up
    dsimp only at up ⊢
    rw [same] at up ⊢
    exact sound.fits client up
  · intro client up
    have same := other_of_up client up
    dsimp only at up ⊢
    rw [same] at up ⊢
    obtain ⟨pub, sub, connected⟩ := sound.connected client up
    exact ⟨pub, sub, connected.kept keeps⟩
  · intro client other apart up otherUp
    have same := other_of_up client up
    have sameOther := other_of_up other otherUp
    dsimp only at up otherUp ⊢
    rw [same] at up ⊢
    rw [sameOther] at otherUp ⊢
    exact sound.apart client other apart up otherUp

theorem ImageSound.init_connected {called : Called ClientId platform} {owner : ClientId}
    {base : ZenbeddedClientBase platform width} {left : ZenohTransport ClientId}
    {pub sub : Endpoint} (up : base.initialized = true)
    (sameBuffer : base.stateBuffer = (image.clients owner).stateBuffer)
    (fits : base.statePayloadSize.toNat ≤ config.maxStateBufferSize)
    (pubUnused : image.transport.inUse (.pub pub) = false)
    (subUnused : image.transport.inUse (.sub sub) = false)
    (connected : Connected config owner base left pub sub)
    (keeps : KeepsUsed image.transport left)
    (recorded : ∀ client, client ≠ owner → Initialised (called :: trace) client →
      Initialised trace client) :
    ImageSound config (called :: trace)
      { clients := Function.update image.clients owner base, transport := left } := by
  -- The new endpoints were unused, those of every other client were not.
  have differs : ∀ client, (image.clients client).initialized = true →
      (image.clients client).pub ≠ base.pub ∧ (image.clients client).sub ≠ base.sub := by
    intro client clientUp
    obtain ⟨otherPub, otherSub, otherConnected⟩ := sound.connected client clientUp
    rw [otherConnected.pubHandle, otherConnected.subHandle, connected.pubHandle,
      connected.subHandle]
    constructor
    · intro same
      have used := otherConnected.publisher.inUse
      rw [Option.some.inj same, pubUnused] at used
      contradiction
    · intro same
      have used := otherConnected.subscriber.inUse
      rw [Option.some.inj same, subUnused] at used
      contradiction
  refine ⟨?_, ?_, ?_, ?_, ?_⟩
  · intro client initialised
    dsimp only
    by_cases same : client = owner
    · rw [same, Function.update_self]
      exact up
    · rw [Function.update_of_ne same]
      exact sound.recorded client (recorded client same initialised)
  · intro client
    dsimp only
    by_cases same : client = owner
    · rw [same, Function.update_self, sameBuffer]
      exact sound.sized owner
    · rw [Function.update_of_ne same]
      exact sound.sized client
  · intro client clientUp
    dsimp only at clientUp ⊢
    by_cases same : client = owner
    · rw [same, Function.update_self]
      exact fits
    · rw [Function.update_of_ne same] at clientUp ⊢
      exact sound.fits client clientUp
  · intro client clientUp
    dsimp only at clientUp ⊢
    by_cases same : client = owner
    · subst same
      rw [Function.update_self]
      exact ⟨pub, sub, connected⟩
    · rw [Function.update_of_ne same] at clientUp ⊢
      obtain ⟨otherPub, otherSub, otherConnected⟩ := sound.connected client clientUp
      exact ⟨otherPub, otherSub, otherConnected.kept keeps⟩
  · intro client other apart clientUp otherUp
    dsimp only at clientUp otherUp ⊢
    by_cases same : client = owner
    · subst same
      rw [Function.update_of_ne apart] at otherUp ⊢
      rw [Function.update_self]
      exact differs other otherUp
    · rw [Function.update_of_ne same] at clientUp ⊢
      by_cases otherSame : other = owner
      · subst otherSame
        rw [Function.update_self]
        obtain ⟨pubDiffers, subDiffers⟩ := differs client clientUp
        exact ⟨Ne.symm pubDiffers, Ne.symm subDiffers⟩
      · rw [Function.update_of_ne otherSame] at otherUp ⊢
        exact sound.apart client other apart clientUp otherUp

theorem ImageSound.destroyed {called : Called ClientId platform} {owner : ClientId}
    (call : called.call = .destroy owner) {base : ZenbeddedClientBase platform width}
    (down : base.initialized = false)
    (sameBuffer : base.stateBuffer = (image.clients owner).stateBuffer)
    (alone : ∀ other, other ≠ owner → (image.clients other).initialized = false)
    (left : ZenohTransport ClientId) :
    ImageSound config (called :: trace)
      { clients := Function.update image.clients owner base, transport := left } := by
  have allDown : ∀ client,
      ¬ (Function.update image.clients owner base client).initialized = true := by
    intro client
    by_cases same : client = owner
    · rw [same, Function.update_self, down]
      decide
    · rw [Function.update_of_ne same, alone client same]
      decide
  refine ⟨?_, ?_, fun client up => absurd up (allDown client),
    fun client up => absurd up (allDown client), fun client _ _ up => absurd up (allDown client)⟩
  · intro client initialised
    obtain ⟨apart, before⟩ := initialised_destroy call initialised
    have up := sound.recorded client before
    rw [alone client apart] at up
    contradiction
  · intro client
    dsimp only
    by_cases same : client = owner
    · rw [same, Function.update_self, sameBuffer]
      exact sound.sized owner
    · rw [Function.update_of_ne same]
      exact sound.sized client

theorem ImageSound.step {called : Called ClientId platform}
    {after : Image ClientId platform width} (taken : Called.step config image called after)
    (lastUp : called.lastUp image) : ImageSound config (called :: trace) after := by
  obtain ⟨call, code⟩ := called
  have run : call.run config image = (code, after) := taken
  cases call with
  | init owner controlFreq statePayloadSize cmdPayloadSize zid gid =>
      cases already : (image.clients owner).initialized with
      | true =>
          rw [ClientCall.run, ZenbeddedClientBase.initBase, if_pos already] at run
          dsimp only at run
          rw [Function.update_eq_self] at run
          cases run
          apply sound.unchanged
          intro client initialised
          rcases initialised_init rfl initialised with now | before
          · rw [← now.1]
            exact already
          · exact sound.recorded client before
      | false =>
          cases result : (image.clients owner).initBase config
            { opened := some zid, publisher := true, subscriber := true, gid } owner controlFreq
            statePayloadSize cmdPayloadSize image.transport with
          | mk initCode rest =>
              obtain ⟨base, left⟩ := rest
              rw [ClientCall.run, result] at run
              cases run
              obtain ⟨keeps, sameBuffer, effect⟩ := initBase_effect already result
              cases effect with
              | failed down nonzero =>
                  apply sound.init_failed already down sameBuffer keeps
                  intro client initialised
                  rcases initialised_init rfl initialised with now | before
                  · exact absurd (Option.some.inj now.2) nonzero
                  · exact before
              | connected pub sub up fits pubUnused subUnused connected =>
                  refine sound.init_connected up sameBuffer fits pubUnused subUnused connected
                    keeps ?_
                  intro client apart initialised
                  rcases initialised_init rfl initialised with now | before
                  · exact absurd now.1.symm apart
                  · exact before
  | destroy owner =>
      cases up : (image.clients owner).initialized with
      | false =>
          rw [ClientCall.run, ZenbeddedClientBase.destroy, if_neg (by simp [up])] at run
          dsimp only at run
          rw [Function.update_eq_self] at run
          cases run
          apply sound.unchanged
          intro client initialised
          exact sound.recorded client (initialised_destroy rfl initialised).2
      | true =>
          rw [ClientCall.run, ZenbeddedClientBase.destroy, if_pos up] at run
          cases run
          refine sound.destroyed rfl rfl ?_ (lastUp owner rfl up) _
          unfold ZenbeddedClientBase.stopThread
          split
          · rfl
          · rfl

end

end

end Zenbedded.Rcl
