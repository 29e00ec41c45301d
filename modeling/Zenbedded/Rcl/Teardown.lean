import Zenbedded.Rcl.Clients
import Zenbedded.Transport.PoolRuns

namespace Zenbedded.Rcl

open Zenbedded.Foundation Zenbedded.Transport

/-! # Taking one client down

`destroy` closes the session that all clients share.  As long as it is called on
the last client that is up, every other call leaves every client served.
-/

variable {ClientId : Type} [DecidableEq ClientId] {platform : Platform} {width : Nat}
  {config : Config} {trace : List (Called ClientId platform)}
  {image : Image ClientId platform width}

/-- A client publishes through its own slot and receives what arrives on its other one. -/
structure Served (config : Config) (image : Image ClientId platform width) (client : ClientId)
    (pub sub : Endpoint) : Prop where
  connected : Connected config client (image.clients client) image.transport pub sub
  publishes : ∀ now, ∃ put left,
    (image.clients client).zenohPublishState config now true image.transport =
      .ok (0, some put, left) ∧ put.endpoint = pub
  receives : ∀ payload, payload ≠ [] → payload.length ≤ receiveBound config.tier →
    internalSubHandler config.tier (image.transport.subPool sub) payload = some (client, payload)

/-- Every client that is initialised is served, by slots that no other such client has. -/
def ClientsServed (config : Config) (trace : List (Called ClientId platform))
    (image : Image ClientId platform width) : Prop :=
  ∀ client, Initialised trace client → ∃ pub sub, Served config image client pub sub ∧
    ∀ other, other ≠ client → Initialised trace other →
      (image.clients other).pub ≠ some pub ∧ (image.clients other).sub ≠ some sub

theorem statePayload_ok {client : ZenbeddedClientBase platform width} {capacity : Nat}
    (sized : client.stateBuffer.Sized capacity)
    (fits : client.statePayloadSize.toNat ≤ capacity) : ∃ payload,
    client.statePayload = .ok payload := by
  rw [ZenbeddedClientBase.statePayload, DoubleBuffer.readFromBuffer_ok (by rw [sized]; exact fits)]
  exact ⟨_, rfl⟩

theorem ImageSound.served (sound : ImageSound config trace image) {client : ClientId}
    (up : (image.clients client).initialized = true) {pub sub : Endpoint}
    (connected : Connected config client (image.clients client) image.transport pub sub) :
    Served config image client pub sub := by
  refine ⟨connected, ?_, fun _ some_bytes bounded =>
    connected.subscriber.receives some_bytes bounded⟩
  intro now
  obtain ⟨payload, copied⟩ := statePayload_ok (sound.sized client) (sound.fits client up)
  have used : image.transport.inUse (.pub pub) = true := connected.publisher.inUse
  obtain ⟨attachment, left, put, _, _, _⟩ := publish_used used config.tier payload now true
  refine ⟨⟨pub, payload, attachment⟩, left, ?_, rfl⟩
  simp only [ZenbeddedClientBase.zenohPublishState, up, ↓reduceIte, copied, connected.pubHandle,
    put, bind, Except.bind, pure, Except.pure]

theorem ImageSound.clientsServed (sound : ImageSound config trace image) :
    ClientsServed config trace image := by
  intro client initialised
  have up := sound.recorded client initialised
  obtain ⟨pub, sub, connected⟩ := sound.connected client up
  refine ⟨pub, sub, sound.served up connected, ?_⟩
  intro other apart otherInitialised
  have differs := sound.apart client other apart up (sound.recorded other otherInitialised)
  rw [connected.pubHandle, connected.subHandle] at differs
  exact differs

/-- A step of a run that takes only the last client down. -/
def LastUpStep (config : Config) (before : Image ClientId platform width)
    (called : Called ClientId platform) (after : Image ClientId platform width) : Prop :=
  Called.step config before called after ∧ called.lastUp before

theorem imageSound_of_reaches (reached : Reaches (LastUpStep config) (Image.start config) trace
    image) : ImageSound config trace image := by
  apply reached.invariant (ImageSound config) (imageSound_start config)
  intro trace before called after sound taken
  exact sound.step taken.1 taken.2

theorem clients_served (config : Config) (trace : List (Called ClientId platform))
    (image : Image ClientId platform width)
    (reached : Reaches (LastUpStep config) (Image.start config) trace image) :
    ClientsServed config trace image :=
  (imageSound_of_reaches reached).clientsServed

/-- With another client initialised, `destroy` leaves that one without its slots. -/
theorem destroy_cutsOff (sound : ImageSound config trace image) {owner other : ClientId}
    (apart : other ≠ owner) (up : (image.clients owner).initialized = true)
    (initialised : Initialised trace other) {after : Image ClientId platform width}
    (taken : Called.step config image ⟨.destroy owner, none⟩ after) :
    ¬ ClientsServed config (⟨.destroy owner, none⟩ :: trace) after := by
  intro served
  obtain ⟨_, _, connected⟩ := sound.connected owner up
  have stillInitialised : Initialised (⟨.destroy owner, none⟩ :: trace) other := by
    have unmarked : Called.destroys other
        (⟨.destroy owner, none⟩ : Called ClientId platform) = false :=
      decide_eq_false (Ne.symm apart)
    rw [Initialised, since_unmarked unmarked, List.any_cons]
    exact initialised
  obtain ⟨pub, sub, otherServed, _⟩ := served other stillInitialised
  have opened := otherServed.connected.publisher.opened
  have run : ClientCall.run config image (.destroy owner) = (none, after) := taken
  rw [ClientCall.run, ZenbeddedClientBase.destroy, if_pos up, zenbeddedTransportDestroy,
    if_pos connected.publisher.opened] at run
  cases run
  exact Bool.noConfusion opened

def bothUp : List (Called Bool Platform.host64) :=
  [⟨.init false 50 8 8 [] [], some 0⟩, ⟨.init true 50 8 8 [] [], some 0⟩]

theorem bothUp_reached : ∃ image : Image Bool Platform.host64 32,
    Reaches (LastUpStep Config.tier1Default) (Image.start Config.tier1Default) bothUp image ∧
      (image.clients true).initialized = true := by
  have idle : ∀ before : Image Bool Platform.host64 32, ∀ client,
      Called.lastUp before ⟨.init client 50 8 8 [] [], some 0⟩ :=
    fun _ _ _ isDestroy => by contradiction
  have first : Reaches (LastUpStep Config.tier1Default)
      (Image.start Config.tier1Default : Image Bool Platform.host64 32)
      [⟨.init true 50 8 8 [] [], some 0⟩] _ :=
    .step .start ⟨Prod.ext (show _ = some 0 from rfl) rfl, idle _ true⟩
  have second : Reaches (LastUpStep Config.tier1Default)
      (Image.start Config.tier1Default : Image Bool Platform.host64 32) bothUp _ :=
    .step first ⟨Prod.ext (show _ = some 0 from rfl) rfl, idle _ false⟩
  exact ⟨_, second, rfl⟩

theorem clients_served_bothUp : ∃ image : Image Bool Platform.host64 32,
    ClientsServed Config.tier1Default bothUp image ∧
      Initialised bothUp true ∧ Initialised bothUp false := by
  obtain ⟨image, reached, _⟩ := bothUp_reached
  exact ⟨image, clients_served Config.tier1Default bothUp image reached, rfl, rfl⟩

theorem clients_not_always_served :
    ¬ ∀ (trace : List (Called Bool Platform.host64)) (image : Image Bool Platform.host64 32),
      Reaches (Called.step Config.tier1Default) (Image.start Config.tier1Default) trace image →
      ClientsServed Config.tier1Default trace image := by
  intro always
  obtain ⟨image, reached, up⟩ := bothUp_reached
  have sound := imageSound_of_reaches reached
  have plain : Reaches (Called.step Config.tier1Default) (Image.start Config.tier1Default) bothUp
      image := reached.mono fun _ _ _ taken => taken.1
  have otherInitialised : Initialised bothUp false := rfl
  have taken : Called.step Config.tier1Default image ⟨.destroy true, none⟩
      (ClientCall.run Config.tier1Default image (.destroy true)).2 := rfl
  exact destroy_cutsOff sound Bool.false_ne_true up otherInitialised taken
    (always _ _ (plain.step taken))

end Zenbedded.Rcl
