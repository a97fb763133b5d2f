import DicodeRelay.Client.Arrivals
import DicodeRelay.Client.Ledger

/-!
Contract: what a daemon knows of its registration.

Owns:
- that the frame the handshake of an attempt reads is the first one that arrived on
  its socket;
- that the status of a connected attempt is the one that frame announces.

Does not own: who sent the frame.
-/

namespace DicodeRelay.Client

open DicodeRelay.Lib DicodeRelay.Shared

/-- A handshake that succeeds has checked a welcome, and the result is what it says. -/
theorem result_of_readWelcome {crypto : Primitives} {wire : WireFormat} {identity : Identity}
    {raw : String} {result : HandshakeResult}
    (read : readWelcome crypto wire identity raw = .ok result) :
    ∃ welcome, wire.decodeServer raw = .envelope (.welcome welcome) ∧
      includes welcome.url ("/u/" ++ identity.uuid crypto ++ "/") = true ∧
      result = ⟨welcome.url, welcome.brokerPubkey.getD ""⟩ := by
  obtain ⟨welcome, decoded⟩ := welcome_of_readWelcome read
  refine ⟨welcome, decoded, ?_⟩
  simp only [readWelcome, decoded] at read
  split at read
  · contradiction
  · unfold checkWelcome at read
    split at read
    · contradiction
    · split at read
      · contradiction
      · rename_i own
        exact ⟨by simpa using own, (Except.ok.inj read).symm⟩

/-- The handshake reads the first frame that arrived as the result. -/
def Greets (opts : ConnectionOptions) (arrived : List String) (result : HandshakeResult) : Prop :=
  ∃ raw rest, arrived = raw :: rest ∧
    readWelcome opts.crypto opts.wire opts.identity raw = .ok result

theorem Greets.append {opts : ConnectionOptions} {arrived : List String}
    {result : HandshakeResult} (greets : Greets opts arrived result) (more : List String) :
    Greets opts (arrived ++ more) result := by
  obtain ⟨raw, rest, rfl, read⟩ := greets
  exact ⟨raw, rest ++ more, rfl, read⟩

/-- The status of an endpoint that is connected with the result. -/
structure Announces (status : RelayEndpointStatus) (result : HandshakeResult) : Prop where
  connected : status.connected = true
  hookBaseURL : status.hookBaseURL = some result.hookBaseURL
  brokerPubkey : status.brokerPubkey = some result.brokerPubkey

/-- No attempt is under way. -/
def Phase.resting : Phase → Bool
  | .looping => true
  | .sleeping _ => true
  | .done => true
  | _ => false

/-- What an attempt has read and announced of the frames `arrived`; between the
attempts the endpoint is not connected. -/
structure Greeted (opts : ConnectionOptions) (ws : Nat) (arrived : List String) (s : State) :
    Prop where
  persisting : s.attempt = ws → ∀ result, s.phase = .persisting result →
    Greets opts arrived result
  connected : s.attempt = ws → s.status.connected = true →
    ∃ result, Greets opts arrived result ∧ Announces s.status result
  resting : s.phase.resting = true → s.status.connected = false

/-! ### The status -/

/-- The handshake has come to the result, and the event takes it up. -/
inductive Concluded (opts : ConnectionOptions) (s : State) (result : HandshakeResult) :
    Event → Prop where
  | announced (persisting : s.phase = .persisting result) :
      Concluded opts s result (.persisted none)
  | keyless {due : Nat} {socket : Socket} {raw : String} (handshaking : s.phase = .handshaking due)
      (current : s.sockets.get s.attempt = some socket)
      (answered : socket.adapter.answers.head? = some (.ok raw))
      (read : readWelcome opts.crypto opts.wire opts.identity raw = .ok result) :
      Concluded opts s result .resume

theorem connect_of_enters {opts : ConnectionOptions} {s s' : State} {e : Event}
    (enters : EntersServe opts s e) (after : opts.step s e = some s') :
    ∃ result, Concluded opts s result e ∧ s' = opts.connect s result := by
  cases enters with
  | @announced result persisting =>
      simp only [ConnectionOptions.step, persisting, Option.some.injEq] at after
      exact ⟨result, .announced persisting, after.symm⟩
  | @keyless due socket raw result handshaking current answered read unnamed =>
      simp only [ConnectionOptions.step, ConnectionOptions.resume, handshaking, current,
        Option.bind_some, answered, ConnectionOptions.endHandshake, read, unnamed, if_true,
        Option.some.injEq] at after
      exact ⟨result, .keyless handshaking current answered read, after.symm⟩

theorem announces_connect (opts : ConnectionOptions) (s : State) (result : HandshakeResult) :
    Announces (opts.connect s result).status result := by
  have status := (aside_connect opts s result).status
  constructor <;> rw [status] <;> rfl

/-! ### One step -/

theorem Concluded.greets {opts : ConnectionOptions} {s : State} {result : HandshakeResult}
    {e : Event} {arrived : List String} (concluded : Concluded opts s result e)
    (follows : Follows opts.wire s.attempt arrived s)
    (greeted : Greeted opts s.attempt arrived s) : Greets opts arrived result := by
  cases concluded with
  | announced persisting => exact greeted.persisting rfl result persisting
  | keyless handshaking current answered read =>
      obtain ⟨socket, found, handled⟩ := follows.during rfl (by simp [handshaking, Phase.listeners])
      obtain rfl := Option.some.inj (found.symm.trans current)
      rw [handshaking] at handled
      obtain ⟨calls, rfl, _⟩ := handled
      exact ⟨_, _, Adapter.arrived_of_answered calls answered, read⟩

/-- An event that starts no attempt leaves the number of the current one. -/
theorem attempt_of_step {opts : ConnectionOptions} {s s' : State} {e : Event}
    (coherent : Coherent s) (after : opts.step s e = some s') :
    s'.attempt = s.attempt ∨ s.phase = .looping := by
  cases stepCase_of_step opts coherent after with
  | unattended _ unattended => exact Or.inl unattended.attempt
  | started _ looping _ _ => exact Or.inr looping
  | moved _ moved => exact Or.inl moved.attempt

/-- Only the end of an attempt brings the connection to rest. -/
theorem resting_of_step {opts : ConnectionOptions} {s s' : State} {e : Event}
    (coherent : Coherent s) (after : opts.step s e = some s') (going : ∀ draw, e ≠ .backOff draw)
    (resting : s'.phase.resting = true) : s.phase.resting = true := by
  cases stepCase_of_step opts coherent after with
  | unattended _ unattended => rwa [← unattended.phase]
  | started _ _ _ equal =>
      subst equal
      contradiction
  | moved move moved =>
      rw [moved.phase] at resting
      cases move with
      | woken sleeping => rw [sleeping]; rfl
      | stopped looping => rw [looping]; rfl
      | abortedSleeping sleeping => rw [sleeping]; rfl
      | slept draw => exact absurd rfl (going draw)
      | sleepless draw => exact absurd rfl (going draw)
      | _ => first | exact resting | contradiction

theorem resting_connect (opts : ConnectionOptions) (s : State) (result : HandshakeResult) :
    (opts.connect s result).phase.resting = false := by
  simp only [ConnectionOptions.connect, State.serve]
  split <;> rfl

theorem connected_backOff (s : State) (outcome : Option RunError) (draw : Rat) :
    (s.backOff outcome draw).status.connected = false := by
  have slept : ∀ (t : State) (wait : Int), (t.sleep wait).status = t.status :=
    fun t wait => ((Aside.refl t).sleep wait).status
  simp only [State.backOff]
  rw [slept]
  cases outcome <;> rfl

/-- What an attempt has read of its result, after one more event. -/
theorem persisting_step {opts : ConnectionOptions} {ws : Nat} {arrived : List String}
    {s s' : State} {e : Event} (coherent : Coherent s) (follows : Follows opts.wire ws arrived s)
    (greeted : Greeted opts ws arrived s) (after : opts.step s e = some s')
    (current : s'.attempt = ws) {result : HandshakeResult}
    (persisting : s'.phase = .persisting result) :
    Greets opts (arrived ++ e.frameOn ws) result := by
  have kept : s'.attempt = s.attempt → s'.phase = s.phase →
      Greets opts (arrived ++ e.frameOn ws) result := by
    intro attempt phase
    rw [attempt] at current
    rw [phase] at persisting
    exact (greeted.persisting current result persisting).append _
  cases stepCase_of_step opts coherent after with
  | unattended _ unattended => exact kept unattended.attempt unattended.phase
  | started _ _ _ equal =>
      subst equal
      contradiction
  | moved move moved =>
      cases move with
      | announcing handshaking found answered read =>
          rw [moved.attempt] at current
          subst current
          obtain rfl := Phase.persisting.inj (moved.phase.symm.trans persisting)
          have concluded := Concluded.keyless handshaking found answered read
          exact (concluded.greets follows greeted).append _
      | _ =>
          first
          | exact kept moved.attempt moved.phase
          | (rw [moved.phase] at persisting; contradiction)

theorem greeted_step {opts : ConnectionOptions} {ws : Nat} {arrived : List String} {s s' : State}
    {e : Event} (coherent : Coherent s) (follows : Follows opts.wire ws arrived s)
    (greeted : Greeted opts ws arrived s) (after : opts.step s e = some s') :
    Greeted opts ws (arrived ++ e.frameOn ws) s' := by
  have unchanged : s'.status = s.status → s'.attempt = ws → s'.status.connected = true →
      ∃ result, Greets opts (arrived ++ e.frameOn ws) result ∧ Announces s'.status result := by
    intro status current connected
    rw [status] at connected ⊢
    rcases attempt_of_step coherent after with same | looping
    · obtain ⟨result, greets, announces⟩ := greeted.connected (same ▸ current) connected
      exact ⟨result, greets.append _, announces⟩
    · rw [greeted.resting (by rw [looping]; rfl)] at connected
      contradiction
  have stillResting : s'.status = s.status → (∀ draw, e ≠ .backOff draw) →
      s'.phase.resting = true → s'.status.connected = false := by
    intro status going resting
    rw [status]
    exact greeted.resting (resting_of_step coherent after going resting)
  have persisting : s'.attempt = ws → ∀ result, s'.phase = .persisting result →
      Greets opts (arrived ++ e.frameOn ws) result :=
    fun current _ persisting => persisting_step coherent follows greeted after current persisting
  cases ledger_of_step opts after with
  | aside aside _ going =>
      exact ⟨persisting, unchanged aside.status, stillResting aside.status going⟩
  | ticked tick equal =>
      have status : s'.status = s.status := by rw [equal]
      exact ⟨persisting, unchanged status, stillResting status (by simp [tick])⟩
  | started resumed looping _ equal =>
      have status : s'.status = s.status := by rw [equal]; rfl
      exact ⟨persisting, unchanged status, stillResting status (by simp [resumed])⟩
  | connected enters _ =>
      obtain ⟨result, concluded, rfl⟩ := connect_of_enters enters after
      refine ⟨persisting, ?_, ?_⟩
      · intro current _
        have own : s.attempt = ws := by
          rcases attempt_of_step coherent after with same | looping
          · exact same ▸ current
          · cases enters with
            | announced waiting => exact absurd (looping.symm.trans waiting) (by simp)
            | keyless handshaking => exact absurd (looping.symm.trans handshaking) (by simp)
        subst own
        exact ⟨result, (concluded.greets follows greeted).append _,
          announces_connect opts s result⟩
      · intro resting
        rw [resting_connect] at resting
        contradiction
  | backedOff _ _ _ equal =>
      have gone : s'.status.connected = false := by
        rw [equal]
        exact connected_backOff s _ _
      refine ⟨persisting, ?_, fun _ => gone⟩
      intro _ connected
      rw [gone] at connected
      contradiction

theorem greeted_init (opts : ConnectionOptions) (ws : Nat) :
    Greeted opts ws [] opts.machine.init where
  persisting _ _ persisting := by
    simp [ConnectionOptions.machine, State.init] at persisting
  connected _ connected := by
    simp [ConnectionOptions.machine, State.init] at connected
  resting _ := rfl

end DicodeRelay.Client
