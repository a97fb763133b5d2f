import DicodeRelay.Client.Moves

/-!
Contract: a connection's reaction to the abort of its signal.

Owns:
- the state in which the abort was missed: an attempt serves on an open socket
  that nobody has terminated, though the signal is aborted;
- the steps that lead there: serving begins after the abort, on an open socket;
- that in every run there are no such states exactly when there are no such
  steps.

Does not own: what the socket's peer does after `terminate()`.
-/

namespace DicodeRelay.Client

open DicodeRelay.Lib DicodeRelay.Shared

/-- `terminate()` has been called on the socket. -/
def State.isTerminated (s : State) (ws : Nat) : Bool :=
  (s.sockets.get ws).any Socket.terminated

/-- The abort was missed: the connection waits inside `serve` on an open socket
that has not been terminated. -/
def MissedAbort (s : State) : Prop :=
  s.signal.aborted = true ∧ s.phase = .serving ∧ s.readyState s.attempt = .opened ∧
    s.isTerminated s.attempt = false

instance : DecidablePred MissedAbort := fun _ => inferInstanceAs (Decidable (_ ∧ _))

/-- The attempt is about to serve on an open socket, though the signal is
aborted. -/
def LateServe (opts : ConnectionOptions) (s : State) (e : Event) : Prop :=
  EntersServe opts s e ∧ s.signal.aborted = true ∧ s.readyState s.attempt = .opened

/-! ### One step -/

theorem isTerminated_eq {s : State} {ws : Nat} {socket : Socket}
    (found : s.sockets.get ws = some socket) : s.isTerminated ws = socket.terminated := by
  rw [State.isTerminated, found]
  rfl

/-- An abort is missed only by serving late. -/
theorem not_missedAbort_step {opts : ConnectionOptions} {s s' : State} {e : Event}
    (coherent : Coherent s) (heard : ¬ MissedAbort s) (punctual : ¬ LateServe opts s e)
    (after : opts.step s e = some s') : ¬ MissedAbort s' := by
  rintro ⟨aborted, serving, opened, spared⟩
  cases stepCase_of_step opts coherent after with
  | unattended idle unattended own present =>
      have other : s.attempt ≠ _ := fun same => by
        have unawaited := idle.phase same
        rw [← unattended.phase, serving] at unawaited
        contradiction
      have same := unattended.sockets s.attempt other
      refine heard ⟨unattended.signal ▸ aborted, unattended.phase ▸ serving, ?_, ?_⟩
      · rwa [unattended.attempt, State.readyState, same] at opened
      · rwa [unattended.attempt, State.isTerminated, same] at spared
  | started resumed looping going equal =>
      subst equal
      contradiction
  | @moved phase signal f new move moved =>
      rw [moved.phase] at serving
      subst serving
      obtain ⟨socket, found, _⟩ := move.socketShape coherent rfl
      rw [moved.signal] at aborted
      rw [moved.attempt, State.readyState, moved.socket, found] at opened
      rw [moved.attempt, State.isTerminated, moved.socket, found] at spared
      have before : s.phase = .serving → s.signal.aborted = true →
          socket.readyState = .opened → socket.terminated = false → False := by
        intro serving aborted opened spared
        exact heard ⟨aborted, serving, (readyState_eq found).trans opened,
          (isTerminated_eq found).trans spared⟩
      generalize phaseEq : Phase.serving = phase at move
      cases move with
      | quiet calm => exact before phaseEq.symm aborted opened spared
      | served serving => exact before serving aborted opened spared
      | peerClosing => contradiction
      | connected enters alive =>
          exact punctual ⟨enters, aborted, (readyState_eq found).trans opened⟩
      | abortedServing serving first => contradiction
      | abortedElsewhere unlistened first => simp [← phaseEq, Phase.abortListener] at unlistened
      | buffered adapted => simp [← phaseEq, Phase.adapted] at adapted
      | adapterFailed adapted => simp [← phaseEq, Phase.adapted] at adapted
      | _ => contradiction

/-- Serving late misses the abort. -/
theorem missedAbort_of_lateServe {opts : ConnectionOptions} {s s' : State} {e : Event}
    (coherent : Coherent s) (late : LateServe opts s e) (after : opts.step s e = some s') :
    MissedAbort s' := by
  obtain ⟨enters, aborted, opened⟩ := late
  obtain ⟨result, stepped⟩ := enters.step
  obtain rfl := Option.some.inj (stepped.symm.trans after)
  obtain ⟨shaped, _, _, _, notServing⟩ := enters.shaped
  obtain ⟨socket, found, shape⟩ := coherent.shaped _ shaped
  rcases Moved.connect opts s result with ⟨closed, _⟩ | ⟨_, moved⟩
  · rw [opened] at closed
    contradiction
  · have foundAfter := moved.socket
    rw [found, ← moved.attempt] at foundAfter
    refine ⟨by rw [moved.signal]; exact aborted, moved.phase, ?_, ?_⟩
    · rw [readyState_eq foundAfter, ← opened, readyState_eq found]
      rfl
    · rw [isTerminated_eq foundAfter]
      exact shape.spared notServing

/-! ### After the abort -/

/-- How far a phase is from the end of `run` once the signal is aborted. -/
def Phase.remaining : Phase → Nat
  | .dialing _ => 9
  | .dialed => 8
  | .handshaking _ => 7
  | .persisting _ => 6
  | .serving => 5
  | .unwinding _ => 4
  | .ended _ => 3
  | .sleeping _ => 2
  | .looping => 1
  | .done => 0

/-- No attempt has been started, the signal is still aborted, and the phase is
the same or nearer to the end. -/
structure Forward (s s' : State) : Prop where
  attempt : s'.attempt = s.attempt
  aborted : s'.signal.aborted = true
  phase : s'.phase = s.phase ∨ s'.phase.remaining < s.phase.remaining

theorem Move.forward {opts : ConnectionOptions} {s : State} {e : Event} {phase : Phase}
    {signal : AbortSignal} {f : Socket → Socket} {new : List Request}
    (move : Move opts s e phase signal f new) (aborted : s.signal.aborted = true) :
    signal.aborted = true ∧ (phase = s.phase ∨ phase.remaining < s.phase.remaining) := by
  have entering : EntersServe opts s e → 5 < s.phase.remaining := by
    intro enters
    cases enters with
    | announced persisting => simp [persisting, Phase.remaining]
    | keyless handshaking => simp [handshaking, Phase.remaining]
  cases move with
  | quiet => exact ⟨aborted, Or.inl rfl⟩
  | buffered => exact ⟨aborted, Or.inl rfl⟩
  | adapterFailed => exact ⟨aborted, Or.inl rfl⟩
  | served => exact ⟨aborted, Or.inl rfl⟩
  | peerClosing => exact ⟨aborted, Or.inl rfl⟩
  | connected enters => exact ⟨aborted, Or.inr (entering enters)⟩
  | connectedLate enters => exact ⟨aborted, Or.inr (Nat.lt_trans (by decide) (entering enters))⟩
  | slept draw due ended going => rw [aborted] at going; contradiction
  | abortedDialing dialing first => rw [aborted] at first; contradiction
  | abortedServing serving first => rw [aborted] at first; contradiction
  | abortedSleeping sleeping first => rw [aborted] at first; contradiction
  | abortedElsewhere unlistened first => rw [aborted] at first; contradiction
  | opened before => exact ⟨aborted, Or.inr (by simp [before, Phase.remaining])⟩
  | dialFailed before => exact ⟨aborted, Or.inr (by simp [before, Phase.remaining])⟩
  | serveEnded before => exact ⟨aborted, Or.inr (by simp [before, Phase.remaining])⟩
  | dialTimeout before => exact ⟨aborted, Or.inr (by simp [before, Phase.remaining])⟩
  | handshakeTimeout before => exact ⟨aborted, Or.inr (by simp [before, Phase.remaining])⟩
  | woken before => exact ⟨aborted, Or.inr (by simp [before, Phase.remaining])⟩
  | stopped before => exact ⟨aborted, Or.inr (by simp [before, Phase.remaining])⟩
  | greeted due before => exact ⟨aborted, Or.inr (by simp [before, Phase.remaining])⟩
  | handshakeFailed err before => exact ⟨aborted, Or.inr (by simp [before, Phase.remaining])⟩
  | announcing before => exact ⟨aborted, Or.inr (by simp [before, Phase.remaining])⟩
  | consumerFailed message before => exact ⟨aborted, Or.inr (by simp [before, Phase.remaining])⟩
  | unwound before => exact ⟨aborted, Or.inr (by simp [before, Phase.remaining])⟩
  | sleepless draw before => exact ⟨aborted, Or.inr (by simp [before, Phase.remaining])⟩

theorem forward_of_aborted {opts : ConnectionOptions} {s s' : State} {e : Event}
    (coherent : Coherent s) (after : opts.step s e = some s') (aborted : s.signal.aborted = true) :
    Forward s s' := by
  cases stepCase_of_step opts coherent after with
  | unattended idle unattended own present =>
      exact ⟨unattended.attempt, unattended.signal ▸ aborted, Or.inl unattended.phase⟩
  | started resumed looping going equal =>
      rw [aborted] at going
      contradiction
  | moved move moved =>
      obtain ⟨still, nearer⟩ := move.forward aborted
      exact ⟨moved.attempt, moved.signal ▸ still, moved.phase ▸ nearer⟩

/-! ### Whole runs -/

/-- In every run, no reached state has missed the abort exactly when no step
serves late. After the abort no attempt is started, and the one under way only
goes forward. -/
theorem abort_heard_iff (opts : ConnectionOptions) (events : List Event) :
    ((∀ earlier s, earlier <+: events → opts.machine.run earlier = some s → ¬ MissedAbort s) ↔
      ∀ earlier s e s', opts.machine.StepAt events earlier s e s' → ¬ LateServe opts s e) ∧
    ∀ earlier s e s', opts.machine.StepAt events earlier s e s' → s.signal.aborted = true →
      Forward s s' := by
  refine ⟨?_, fun _ _ _ _ step => forward_of_aborted (coherent_run opts step.before) step.after⟩
  constructor
  · intro heard earlier s e s' step late
    obtain ⟨later, split⟩ := step.split
    refine heard (earlier ++ [e]) s' ⟨later, by rw [split]; simp⟩
      (Machine.run_concat_of step.before step.after) ?_
    exact missedAbort_of_lateServe (coherent_run opts step.before) late step.after
  · rintro punctual earlier s ⟨later, rfl⟩ ran
    have meets : opts.machine.Meets (fun s e => ¬ LateServe opts s e) earlier :=
      fun _ _ _ _ step => punctual _ _ _ _ step.extend
    refine Machine.run_invariant_of_meets (P := fun _ s => ¬ MissedAbort s) ?_ ?_ ran meets
    · rintro ⟨_, serving, _⟩
      contradiction
    · intro _ s e s' before heard onTime after
      exact not_missedAbort_step (coherent_run opts before) heard onTime after

/-! ### An abort while the consumer saves the key -/

theorem Sample.late :
    (Sample.options.machine.run (Sample.handshake ++ [.abort, .persisted none])).any
    (fun s => decide (MissedAbort s)) = true := by
  rw [Machine.run_append, run_handshake, Option.bind_some]
  decide +kernel

/-- The abort comes while `onBrokerPubkey` is pending; the attempt serves. -/
theorem abort_missed_while_persisting : ∃ s,
    Sample.options.machine.run (Sample.handshake ++ [.abort, .persisted none]) = some s ∧
      MissedAbort s := by
  obtain ⟨s, reached, missed⟩ := (Option.any_eq_true _ _).mp Sample.late
  exact ⟨s, reached, of_decide_eq_true missed⟩

end DicodeRelay.Client
