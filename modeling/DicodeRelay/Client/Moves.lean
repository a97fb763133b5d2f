import DicodeRelay.Client.Footprint

/-!
Contract: what each event does to a connection.

Owns:
- the moves of the current attempt, the start of the next one and the events
  nobody awaits, which together are all a step can do;
- that every run keeps the shape of its phases.

Does not own: what else holds along the runs.
-/

namespace DicodeRelay.Client

open DicodeRelay.Lib DicodeRelay.Shared

/-! ### One event -/

/-- The phases in which the handshake adapter listens. -/
def Phase.adapted : Phase → Bool
  | .dialing _ => true
  | .dialed => true
  | .handshaking _ => true
  | .persisting _ => true
  | _ => false

/-- The error an event gives the adapter. -/
def SocketEvent.adapterError : SocketEvent → Option RunError
  | .error text => some (.socket text)
  | .closed code => some (.closedDuringHandshake code)
  | _ => none

/-- The error an event gives the dial. -/
def SocketEvent.dialError : SocketEvent → RunError
  | .error text => .socket text
  | _ => .closedBeforeOpen

/-- The outcome an event gives the serving phase. -/
def SocketEvent.serveOutcome : SocketEvent → Option RunError
  | .error text => some (.socket text)
  | _ => none

/-- The socket of a dial that is given up. -/
def givenUp (w : Socket) : Socket :=
  ((w.modifyListeners Listeners.cleanupDial).modifyListeners Listeners.attachSwallow).terminate

/-- The clock, an answer, an abort after the first one. -/
inductive Calm (s : State) : Event → Prop where
  | tick (ms : Nat) : Calm s (.tick ms)
  | dispatched (index : Nat) (response : Option LocalResponse) : Calm s (.dispatched index response)
  | abort (aborted : s.signal.aborted = true) : Calm s .abort

/-- The handshake has succeeded and its frames are about to be replayed: with a
key to announce the consumer has taken it, else the answer has been read. -/
inductive EntersServe (opts : ConnectionOptions) (s : State) : Event → Prop where
  | announced {result : HandshakeResult} (persisting : s.phase = .persisting result) :
      EntersServe opts s (.persisted none)
  | keyless {due : Nat} {socket : Socket} {raw : String} {result : HandshakeResult}
      (handshaking : s.phase = .handshaking due)
      (current : s.sockets.get s.attempt = some socket)
      (answered : socket.adapter.answers.head? = some (.ok raw))
      (read : readWelcome opts.crypto opts.wire opts.identity raw = .ok result)
      (unnamed : result.brokerPubkey = "") : EntersServe opts s .resume

/-- What one event does to the current attempt: the phase and the signal after
it, what becomes of the socket and which requests are dispatched. -/
inductive Move (opts : ConnectionOptions) (s : State) :
    Event → Phase → AbortSignal → (Socket → Socket) → List Request → Prop where
  | quiet {e : Event} (calm : Calm s e) : Move opts s e s.phase s.signal id []
  | opened {due : Nat} (dialing : s.phase = .dialing due) :
      Move opts s (.socket s.attempt .opened) .dialed (s.signal.remove (.dial s.attempt))
        (fun w => (w.emitting .opened).modifyListeners Listeners.cleanupDial) []
  | dialFailed {due : Nat} {event : SocketEvent} {err : RunError}
      (dialing : s.phase = .dialing due) (fails : event.adapterError = some err) :
      Move opts s (.socket s.attempt event) (.ended (some event.dialError))
        (s.signal.remove (.dial s.attempt))
        (fun w => ((w.emitting event).modifyAdapter fun a => a.fail err).modifyListeners
          Listeners.cleanupDial) []
  | buffered {raw : String} (adapted : s.phase.adapted = true) :
      Move opts s (.socket s.attempt (.message raw)) s.phase s.signal
        (fun w => w.modifyAdapter fun a => a.onMessage raw) []
  | adapterFailed {event : SocketEvent} {err : RunError} (adapted : s.phase.adapted = true)
      (connected : ∀ due, s.phase ≠ .dialing due) (fails : event.adapterError = some err) :
      Move opts s (.socket s.attempt event) s.phase s.signal
        (fun w => (w.emitting event).modifyAdapter fun a => a.fail err) []
  | served {raw : String} (serving : s.phase = .serving) :
      Move opts s (.socket s.attempt (.message raw)) s.phase s.signal id
        (requestFrames opts.wire [raw])
  | serveEnded {event : SocketEvent} {err : RunError} (serving : s.phase = .serving)
      (ends : event.adapterError = some err) :
      Move opts s (.socket s.attempt event) (.unwinding event.serveOutcome)
        (s.signal.remove (.serve s.attempt))
        (fun w => (w.emitting event).modifyListeners Listeners.cleanupServe) []
  | peerClosing :
      Move opts s (.peerClosing s.attempt) s.phase s.signal
        (fun w => { w with readyState := .closing }) []
  | dialTimeout {due : Nat} (dialing : s.phase = .dialing due) :
      Move opts s .dialTimer (.ended (some .dialTimeout)) (s.signal.remove (.dial s.attempt))
        givenUp []
  | handshakeTimeout {due : Nat} (handshaking : s.phase = .handshaking due) :
      Move opts s .handshakeTimer (.unwinding (some .handshakeTimeout)) s.signal id []
  | woken {due : Nat} (sleeping : s.phase = .sleeping due) :
      Move opts s .sleepTimer .looping s.signal id []
  | stopped (looping : s.phase = .looping) (aborted : s.signal.aborted = true) :
      Move opts s .resume .done s.signal id []
  | greeted (due : Nat) (dialed : s.phase = .dialed) :
      Move opts s .resume (.handshaking due) s.signal
        (fun w => (w.modifyListeners Listeners.attachAdmission).modifyAdapter Adapter.recv) []
  | handshakeFailed {due : Nat} (err : RunError) (handshaking : s.phase = .handshaking due) :
      Move opts s .resume (.unwinding (some err)) s.signal id []
  | announcing {due : Nat} {socket : Socket} {raw : String} {result : HandshakeResult}
      (handshaking : s.phase = .handshaking due)
      (current : s.sockets.get s.attempt = some socket)
      (answered : socket.adapter.answers.head? = some (.ok raw))
      (read : readWelcome opts.crypto opts.wire opts.identity raw = .ok result) :
      Move opts s .resume (.persisting result) s.signal id []
  | connected {e : Event} (enters : EntersServe opts s e)
      (alive : s.readyState s.attempt ≠ .closed) :
      Move opts s e .serving (s.signal.add (.serve s.attempt))
        (fun w => (Moved.detached w).modifyListeners Listeners.attachServe)
        (requestFrames opts.wire (s.inbox s.attempt))
  | connectedLate {e : Event} (enters : EntersServe opts s e)
      (closed : s.readyState s.attempt = .closed) :
      Move opts s e (.unwinding none) s.signal Moved.detached
        (requestFrames opts.wire (s.inbox s.attempt))
  | consumerFailed {result : HandshakeResult} (message : String)
      (persisting : s.phase = .persisting result) :
      Move opts s (.persisted (some message)) (.unwinding (some (.consumer message))) s.signal id []
  | unwound {outcome : Option RunError} (unwinding : s.phase = .unwinding outcome) :
      Move opts s .resume (.ended outcome) s.signal
        (fun w => (w.modifyListeners Listeners.removeAdmission).terminate) []
  | slept {outcome : Option RunError} (draw : Rat) (due : Nat) (ended : s.phase = .ended outcome)
      (going : s.signal.aborted = false) :
      Move opts s (.backOff draw) (.sleeping due) (s.signal.add (.backoff s.attempt)) id []
  | sleepless {outcome : Option RunError} (draw : Rat) (ended : s.phase = .ended outcome)
      (aborted : s.signal.aborted = true) :
      Move opts s (.backOff draw) .looping s.signal id []
  | abortedDialing {due : Nat} (dialing : s.phase = .dialing due)
      (first : s.signal.aborted = false) :
      Move opts s .abort (.ended (some .aborted)) ⟨true, []⟩ givenUp []
  | abortedServing (serving : s.phase = .serving) (first : s.signal.aborted = false) :
      Move opts s .abort .serving ⟨true, []⟩ Socket.terminate []
  | abortedSleeping {due : Nat} (sleeping : s.phase = .sleeping due)
      (first : s.signal.aborted = false) :
      Move opts s .abort .looping ⟨true, []⟩ id []
  | abortedElsewhere (unlistened : s.phase.abortListener s.attempt = none)
      (first : s.signal.aborted = false) :
      Move opts s .abort s.phase ⟨true, []⟩ id []

/-- The ways one event can go. -/
inductive StepCase (opts : ConnectionOptions) (s : State) (e : Event) (s' : State) : Prop where
  /-- A socket event that no phase awaits. -/
  | unattended {ws : Nat} (idle : Idle ws s) (unattended : Unattended ws s s')
      (own : (∃ event, e = .socket ws event) ∨ e = .peerClosing ws)
      (present : s.sockets.get ws ≠ none)
  | started (resumed : e = .resume) (looping : s.phase = .looping)
      (going : s.signal.aborted = false) (equal : s' = opts.startAttempt s)
  | moved {phase : Phase} {signal : AbortSignal} {f : Socket → Socket} {new : List Request}
      (move : Move opts s e phase signal f new) (moved : Moved s s' phase signal f new)

theorem Coherent.idle {s : State} (coherent : Coherent s) {ws : Nat}
    (unawaited : s.attempt = ws → s.phase.listeners = none) : Idle ws s where
  phase := unawaited
  noDial member := by
    have owned := coherent.signal.owned _ member
    simp only [AbortListener.Owned] at owned
    cases phase : s.phase with
    | dialing due =>
        rw [phase] at owned
        simp only [Phase.abortListener, Option.some.injEq, AbortListener.dial.injEq] at owned
        have absurdity := unawaited owned
        rw [phase] at absurdity
        contradiction
    | _ => simp [phase, Phase.abortListener] at owned
  noServe member := by
    have owned := coherent.signal.owned _ member
    simp only [AbortListener.Owned] at owned
    cases phase : s.phase with
    | serving =>
        rw [phase] at owned
        simp only [Phase.abortListener, Option.some.injEq, AbortListener.serve.injEq] at owned
        have absurdity := unawaited owned
        rw [phase] at absurdity
        contradiction
    | _ => simp [phase, Phase.abortListener] at owned

/-- Between the dial and serving, the adapter listens to the current socket,
with or without the watch for admission close codes. -/
theorem move_of_emit_adapted (opts : ConnectionOptions) {s : State} {socket : Socket}
    {event : SocketEvent} (possible : socket.canEmit event = true)
    (adapted : s.phase.adapted = true) (past : ∀ due, s.phase ≠ .dialing due)
    (attached : socket.listeners = Listeners.adapted ∨
      socket.listeners = Listeners.adapted.attachAdmission)
    (connected : socket.readyState ≠ .connecting) :
    StepCase opts s (.socket s.attempt event) (opts.emitEvent s s.attempt socket event) := by
  have emitted := (Moved.start s).modify fun w => w.emitting event
  unfold ConnectionOptions.emitEvent
  cases event with
  | opened => exact absurd (of_decide_eq_true possible) connected
  | message raw =>
      rcases attached with attached | attached <;> rw [attached] <;>
        exact .moved (.buffered adapted) (emitted.modify _)
  | error text =>
      rcases attached with attached | attached <;> rw [attached] <;>
        exact .moved (.adapterFailed adapted past rfl) (emitted.failAdapter _)
  | closed code =>
      rcases attached with attached | attached
      · rw [attached]
        exact .moved (.adapterFailed adapted past rfl) (emitted.failAdapter _)
      · rw [attached]
        exact .moved (.adapterFailed adapted past rfl)
          ((emitted.failAdapter _).admissionClose opts code)

/-- The current socket emits an event to the listeners its phase has set up. -/
theorem move_of_emit (opts : ConnectionOptions) {s : State} (coherent : Coherent s)
    {socket : Socket} (found : s.sockets.get s.attempt = some socket) {event : SocketEvent}
    (possible : socket.canEmit event = true) {listeners : Listeners}
    (awaited : s.phase.listeners = some listeners) :
    StepCase opts s (.socket s.attempt event) (opts.emitEvent s s.attempt socket event) := by
  obtain ⟨current, same, attached, connected, _⟩ := coherent.shaped listeners awaited
  obtain rfl := Option.some.inj (found.symm.trans same)
  have emitted := (Moved.start s).modify fun w => w.emitting event
  cases phase : s.phase with
  | dialing due =>
      rw [phase] at awaited emitted
      obtain rfl := Option.some.inj awaited
      unfold ConnectionOptions.emitEvent
      rw [attached]
      cases event with
      | opened => exact .moved (.opened phase) ((emitted.cleanupDial).settleDial none)
      | message raw => exact .moved (.buffered (by rw [phase]; rfl)) (phase ▸ emitted.modify _)
      | error text =>
          exact .moved (.dialFailed phase rfl)
            (((emitted.failAdapter _).cleanupDial).settleDial (some (.socket text)))
      | closed code =>
          exact .moved (.dialFailed phase rfl)
            (((emitted.failAdapter _).cleanupDial).settleDial (some .closedBeforeOpen))
  | dialed =>
      have past : ∀ due, s.phase ≠ .dialing due := by simp [phase]
      rw [phase] at awaited
      exact move_of_emit_adapted opts possible (by rw [phase]; rfl) past
        (Or.inl (attached.trans (Option.some.inj awaited).symm)) (connected past)
  | handshaking due =>
      have past : ∀ due, s.phase ≠ .dialing due := by simp [phase]
      rw [phase] at awaited
      exact move_of_emit_adapted opts possible (by rw [phase]; rfl) past
        (Or.inr (attached.trans (Option.some.inj awaited).symm)) (connected past)
  | persisting result =>
      have past : ∀ due, s.phase ≠ .dialing due := by simp [phase]
      rw [phase] at awaited
      exact move_of_emit_adapted opts possible (by rw [phase]; rfl) past
        (Or.inr (attached.trans (Option.some.inj awaited).symm)) (connected past)
  | serving =>
      have past : ∀ due, s.phase ≠ .dialing due := by simp [phase]
      rw [phase] at awaited emitted
      obtain rfl := Option.some.inj awaited
      unfold ConnectionOptions.emitEvent
      rw [attached]
      cases event with
      | opened => exact absurd (of_decide_eq_true possible) (connected past)
      | message raw => exact .moved (.served phase) (phase ▸ emitted.handleFrame opts raw)
      | error text =>
          exact .moved (.serveEnded phase rfl)
            ((emitted.cleanupServe).settleServe (some (.socket text)))
      | closed code =>
          exact .moved (.serveEnded phase rfl)
            (((emitted.admissionClose opts code).cleanupServe).settleServe none)
  | _ =>
      rw [phase] at awaited
      contradiction

/-! ### The abort -/

/-- Listeners that earlier sleeps left behind do nothing. -/
theorem foldl_runAbortListener_stale {s : State} {listeners : List AbortListener}
    (stale : ∀ l ∈ listeners, ∃ attempt, l = .backoff attempt ∧
      (attempt = s.attempt → ∀ due, s.phase ≠ .sleeping due)) :
    listeners.foldl State.runAbortListener s = s := by
  induction listeners with
  | nil => rfl
  | cons l rest inductionHypothesis =>
      obtain ⟨attempt, rfl, awake⟩ := stale l (by simp)
      have slept : s.wake attempt = s := by
        unfold State.wake
        split
        · rename_i due sleeping
          split
          · rename_i same
            exact absurd sleeping (awake same.symm due)
          · rfl
        · rfl
      rw [List.foldl_cons, State.runAbortListener, slept]
      exact inductionHypothesis fun other member => stale other (by simp [member])

/-- All listeners but that of the phase do nothing. -/
theorem Coherent.stale {s : State} (coherent : Coherent s) {l : AbortListener}
    (member : l ∈ s.signal.listeners) (other : s.phase.abortListener s.attempt ≠ some l) :
    ∃ attempt, l = .backoff attempt ∧
      (attempt = s.attempt → ∀ due, s.phase ≠ .sleeping due) := by
  obtain ⟨earlier, rfl, _⟩ := coherent.signal.stale member other
  refine ⟨earlier, rfl, ?_⟩
  rintro rfl due sleeping
  rw [sleeping] at other
  exact other rfl

/-- The abort runs the listener of the phase and nothing else of effect. -/
theorem abort_of_listener {s : State} (coherent : Coherent s) (first : s.signal.aborted = false)
    {l : AbortListener} (own : s.phase.abortListener s.attempt = some l)
    (roused : ∀ due, ((s.setSignal ⟨true, []⟩).runAbortListener l).phase ≠ .sleeping due) :
    s.abort = (s.setSignal ⟨true, []⟩).runAbortListener l := by
  obtain ⟨before, after, split⟩ := List.append_of_mem (coherent.signal.attached l first own)
  have distinct := coherent.signal.distinct
  rw [split, List.nodup_middle, List.nodup_cons, List.mem_append, not_or] at distinct
  have stale : ∀ other ∈ s.signal.listeners, other ≠ l → ∃ attempt, other = .backoff attempt ∧
      (attempt = s.attempt → ∀ due, s.phase ≠ .sleeping due) := by
    intro other member different
    exact coherent.stale member fun same => different (Option.some.inj (same.symm.trans own))
  have quiet : before.foldl State.runAbortListener (s.setSignal ⟨true, []⟩) =
      s.setSignal ⟨true, []⟩ := by
    refine foldl_runAbortListener_stale fun other member => stale other ?_ ?_
    · rw [split]
      exact List.mem_append_left _ member
    · rintro rfl
      exact distinct.1.1 member
  have quietAfter : after.foldl State.runAbortListener
      ((s.setSignal ⟨true, []⟩).runAbortListener l) =
        (s.setSignal ⟨true, []⟩).runAbortListener l := by
    refine foldl_runAbortListener_stale fun other member => ?_
    obtain ⟨attempt, equal, _⟩ := stale other
      (by rw [split]; exact List.mem_append_right _ (List.mem_cons_of_mem _ member))
      (by rintro rfl; exact distinct.1.2 member)
    exact ⟨attempt, equal, fun _ => roused⟩
  rw [State.abort, first, if_neg Bool.false_ne_true, split, List.foldl_append, List.foldl_cons,
    quiet, quietAfter]

theorem move_of_abort (opts : ConnectionOptions) {s : State} (coherent : Coherent s) :
    StepCase opts s .abort s.abort := by
  have signalled := (Moved.start s).setSignal ⟨true, []⟩
  cases first : s.signal.aborted with
  | true =>
      rw [State.abort, if_pos first]
      exact .moved (.quiet (.abort first)) (Moved.start s)
  | false =>
      cases phase : s.phase with
      | dialing due =>
          rw [phase] at signalled
          have ended := signalled.giveUpDial .aborted
          rw [abort_of_listener coherent first (l := .dial s.attempt) (by rw [phase]; rfl)
            (by intro due; rw [State.runAbortListener, ended.phase]; simp)]
          exact .moved (.abortedDialing phase first) ended
      | serving =>
          rw [phase] at signalled
          have ended := signalled.terminate
          rw [abort_of_listener coherent first (l := .serve s.attempt) (by rw [phase]; rfl)
            (by intro due; rw [State.runAbortListener, ended.phase]; simp)]
          exact .moved (.abortedServing phase first) ended
      | sleeping due =>
          rw [phase] at signalled
          have awake : (s.setSignal ⟨true, []⟩).wake s.attempt =
              (s.setSignal ⟨true, []⟩).enter .looping := by
            simp only [State.wake, signalled.phase, signalled.attempt, if_true]
          have ended := signalled.enter .looping
          rw [abort_of_listener coherent first (l := .backoff s.attempt) (by rw [phase]; rfl)
            (by intro due; rw [State.runAbortListener, awake, ended.phase]; simp),
            State.runAbortListener, awake]
          exact .moved (.abortedSleeping phase first) ended
      | _ =>
          have unlistened : s.phase.abortListener s.attempt = none := by rw [phase]; rfl
          have quiet := foldl_runAbortListener_stale (s := s.setSignal ⟨true, []⟩)
            fun l (member : l ∈ s.signal.listeners) =>
              coherent.stale member (by rw [unlistened]; simp)
          rw [State.abort, first, if_neg Bool.false_ne_true, quiet]
          exact .moved (.abortedElsewhere unlistened first) signalled

/-! ### Every event -/

theorem move_of_connect (opts : ConnectionOptions) {s : State} {e : Event}
    (enters : EntersServe opts s e) (result : HandshakeResult) :
    StepCase opts s e (opts.connect s result) := by
  rcases Moved.connect opts s result with ⟨closed, moved⟩ | ⟨alive, moved⟩
  · exact .moved (.connectedLate enters closed) moved
  · exact .moved (.connected enters alive) moved

theorem move_of_resume (opts : ConnectionOptions) {s s' : State}
    (after : opts.resume s = some s') : StepCase opts s .resume s' := by
  have start := Moved.start s
  unfold ConnectionOptions.resume at after
  split at after
  · rename_i looping
    obtain rfl := Option.some.inj after
    split
    · rename_i aborted
      exact .moved (.stopped looping aborted) (start.enter _)
    · rename_i going
      exact .started rfl looping (Bool.eq_false_iff.mpr going) rfl
  · rename_i dialed
    obtain rfl := Option.some.inj after
    obtain ⟨due, moved⟩ := Moved.beginHandshake opts s
    exact .moved (.greeted due dialed) moved
  · rename_i due handshaking
    split at after
    · contradiction
    · rename_i answer found
      obtain rfl := Option.some.inj after
      obtain ⟨socket, current, answered⟩ := Option.bind_eq_some_iff.mp found
      cases answer with
      | error err => exact .moved (.handshakeFailed err handshaking) (start.enter _)
      | ok raw =>
          simp only [ConnectionOptions.endHandshake]
          split
          · rename_i err _
            exact .moved (.handshakeFailed err handshaking) (start.enter _)
          · rename_i result read
            split
            · rename_i unnamed
              exact move_of_connect opts (.keyless handshaking current answered read unnamed) result
            · exact .moved (.announcing handshaking current answered read) (start.enter _)
  · rename_i outcome unwinding
    obtain rfl := Option.some.inj after
    exact .moved (.unwound unwinding) (Moved.unwind s outcome)
  · contradiction

theorem Moved.handleDispatched {s t : State} {phase : Phase} {signal : AbortSignal}
    {f : Socket → Socket} {new : List Request} (opts : ConnectionOptions)
    (moved : Moved s t phase signal f new) (ws : Nat) (request : Request)
    (response : Option LocalResponse) :
    Moved s (opts.handleDispatched t ws request response) phase signal f new := by
  cases response with
  | none => exact moved.emit fun _ => rfl
  | some response =>
      simp only [ConnectionOptions.handleDispatched]
      split
      · exact moved.send _ _
      · exact moved.emit fun _ => rfl

/-- Everything a step can do. -/
theorem stepCase_of_step (opts : ConnectionOptions) {s s' : State} {e : Event}
    (coherent : Coherent s) (after : opts.step s e = some s') : StepCase opts s e s' := by
  have start := Moved.start s
  cases e with
  | socket ws event =>
      simp only [ConnectionOptions.step] at after
      split at after
      · contradiction
      · rename_i socket found
        simp only [Option.ite_none_right_eq_some, Option.some.injEq] at after
        obtain ⟨possible, rfl⟩ := after
        by_cases awaited : s.attempt = ws ∧ s.phase.listeners ≠ none
        · obtain ⟨rfl, some⟩ := awaited
          obtain ⟨listeners, equal⟩ := Option.ne_none_iff_exists'.mp some
          exact move_of_emit opts coherent found possible equal
        · have idle := coherent.idle fun same => not_not.mp fun some => awaited ⟨same, some⟩
          exact .unattended idle (unattended_emitEvent opts idle socket event)
            (Or.inl ⟨event, rfl⟩) (by simp [found])
  | peerClosing ws =>
      simp only [ConnectionOptions.step, Option.ite_none_right_eq_some, Option.some.injEq] at after
      obtain ⟨opened, rfl⟩ := after
      by_cases current : s.attempt = ws
      · subst current
        exact .moved .peerClosing (start.modify _)
      · refine .unattended (coherent.idle fun same => absurd same current)
          (unattended_modifySocket s ws _) (Or.inr rfl) fun absent => ?_
        rw [State.readyState, absent] at opened
        contradiction
  | dialTimer =>
      simp only [ConnectionOptions.step] at after
      split at after
      · rename_i due dialing
        simp only [Option.ite_none_right_eq_some, Option.some.injEq] at after
        obtain ⟨_, rfl⟩ := after
        rw [dialing] at start
        exact .moved (.dialTimeout dialing) (start.giveUpDial .dialTimeout)
      · contradiction
  | handshakeTimer =>
      simp only [ConnectionOptions.step] at after
      split at after
      · rename_i due handshaking
        simp only [Option.ite_none_right_eq_some, Option.some.injEq] at after
        obtain ⟨_, rfl⟩ := after
        exact .moved (.handshakeTimeout handshaking) (start.enter _)
      · contradiction
  | sleepTimer =>
      simp only [ConnectionOptions.step] at after
      split at after
      · rename_i due sleeping
        simp only [Option.ite_none_right_eq_some, Option.some.injEq] at after
        obtain ⟨_, rfl⟩ := after
        simp only [State.wake, sleeping, if_true]
        exact .moved (.woken sleeping) (start.enter _)
      · contradiction
  | resume => exact move_of_resume opts after
  | persisted rejection =>
      simp only [ConnectionOptions.step] at after
      split at after
      · rename_i result persisting
        cases rejection with
        | none =>
            obtain rfl := Option.some.inj after
            exact move_of_connect opts (.announced persisting) result
        | some message =>
            simp only [Option.ite_none_right_eq_some, Option.some.injEq] at after
            obtain ⟨_, rfl⟩ := after
            exact .moved (.consumerFailed message persisting) (start.enter _)
      · contradiction
  | backOff draw =>
      simp only [ConnectionOptions.step] at after
      split at after
      · rename_i outcome ended
        simp only [Option.ite_none_right_eq_some, Option.some.injEq] at after
        obtain ⟨_, rfl⟩ := after
        rcases Moved.backOff s outcome draw with ⟨aborted, moved⟩ | ⟨going, due, moved⟩
        · exact .moved (.sleepless draw ended aborted) moved
        · exact .moved (.slept draw due ended going) moved
      · contradiction
  | dispatched index response =>
      simp only [ConnectionOptions.step] at after
      split at after
      · contradiction
      · obtain rfl := Option.some.inj after
        exact .moved (.quiet (.dispatched index response))
          ((start.congr (u := { s with dispatching := s.dispatching.eraseIdx index })
            rfl rfl rfl rfl rfl).handleDispatched opts _ _ response)
  | abort =>
      obtain rfl := Option.some.inj after
      exact move_of_abort opts coherent
  | tick ms =>
      obtain rfl := Option.some.inj after
      exact .moved (.quiet (.tick ms)) (start.congr rfl rfl rfl rfl rfl)

/-! ### The shape is kept -/

theorem EntersServe.shaped {opts : ConnectionOptions} {s : State} {e : Event}
    (enters : EntersServe opts s e) :
    s.phase.listeners = some Listeners.adapted.attachAdmission ∧
      s.phase.abortListener s.attempt = none ∧ s.phase.rested = false ∧
      (∀ due, s.phase ≠ .dialing due) ∧ s.phase ≠ .serving := by
  cases enters with
  | announced persisting => simp [persisting, Phase.listeners, Phase.abortListener, Phase.rested]
  | keyless handshaking =>
      simp [handshaking, Phase.listeners, Phase.abortListener, Phase.rested]

/-- The code that such an event runs. -/
theorem EntersServe.step {opts : ConnectionOptions} {s : State} {e : Event}
    (enters : EntersServe opts s e) : ∃ result, opts.step s e = some (opts.connect s result) := by
  cases enters with
  | @announced result persisting =>
      exact ⟨result, by simp only [ConnectionOptions.step, persisting]⟩
  | @keyless due socket raw result handshaking current answered read unnamed =>
      refine ⟨result, ?_⟩
      simp only [ConnectionOptions.step, ConnectionOptions.resume, handshaking, current,
        Option.bind_some, answered, ConnectionOptions.endHandshake, read, unnamed, if_true]

theorem Move.signalShape {opts : ConnectionOptions} {s : State} {e : Event} {phase : Phase}
    {signal : AbortSignal} {f : Socket → Socket} {new : List Request}
    (move : Move opts s e phase signal f new)
    (shape : SignalShape s.attempt s.phase s.signal) : SignalShape s.attempt phase signal := by
  cases move with
  | quiet calm => exact shape
  | opened dialing => rw [dialing] at shape; exact shape.remove rfl rfl rfl
  | dialFailed dialing => rw [dialing] at shape; exact shape.remove rfl rfl rfl
  | buffered => exact shape
  | adapterFailed => exact shape
  | served => exact shape
  | serveEnded serving => rw [serving] at shape; exact shape.remove rfl rfl rfl
  | peerClosing => exact shape
  | dialTimeout dialing => rw [dialing] at shape; exact shape.remove rfl rfl rfl
  | handshakeTimeout handshaking =>
      rw [handshaking] at shape
      exact shape.keep rfl rfl (by simp [Phase.rested])
  | woken sleeping => rw [sleeping] at shape; exact shape.wake
  | stopped looping => rw [looping] at shape; exact shape.keep rfl rfl fun _ => rfl
  | greeted due dialed =>
      rw [dialed] at shape
      exact shape.keep rfl rfl (by simp [Phase.rested])
  | handshakeFailed err handshaking =>
      rw [handshaking] at shape
      exact shape.keep rfl rfl (by simp [Phase.rested])
  | announcing handshaking =>
      rw [handshaking] at shape
      exact shape.keep rfl rfl (by simp [Phase.rested])
  | connected enters =>
      obtain ⟨_, unlistened, unrested, _⟩ := enters.shaped
      exact shape.add unlistened unrested rfl
  | connectedLate enters =>
      obtain ⟨_, unlistened, unrested, _⟩ := enters.shaped
      exact shape.keep unlistened rfl (by simp [unrested])
  | consumerFailed message persisting =>
      rw [persisting] at shape
      exact shape.keep rfl rfl (by simp [Phase.rested])
  | unwound unwinding =>
      rw [unwinding] at shape
      exact shape.keep rfl rfl (by simp [Phase.rested])
  | slept draw due ended => rw [ended] at shape; exact shape.add rfl rfl rfl
  | sleepless draw ended => rw [ended] at shape; exact shape.keep rfl rfl fun _ => rfl
  | abortedDialing => exact .aborted _ _
  | abortedServing => exact .aborted _ _
  | abortedSleeping => exact .aborted _ _
  | abortedElsewhere => exact .aborted _ _

theorem SocketShape.emitting {phase : Phase} {listeners : Listeners} {socket : Socket}
    (shape : SocketShape phase listeners socket) {event : SocketEvent} {err : RunError}
    (fails : event.adapterError = some err) :
    SocketShape phase listeners ((socket.emitting event).modifyAdapter fun a => a.fail err) := by
  obtain ⟨attached, connected, spared⟩ := shape
  cases event with
  | error text => exact ⟨attached, connected, spared⟩
  | closed code =>
      exact ⟨attached, fun _ => by simp [Socket.emitting, Socket.modifyAdapter], spared⟩
  | opened => contradiction
  | message raw => contradiction

/-- What the phase after a move expects of the current socket, it finds. -/
theorem Move.socketShape {opts : ConnectionOptions} {s : State} {e : Event} {phase : Phase}
    {signal : AbortSignal} {f : Socket → Socket} {new : List Request}
    (move : Move opts s e phase signal f new) (coherent : Coherent s) {listeners : Listeners}
    (awaited : phase.listeners = some listeners) :
    ∃ socket, s.sockets.get s.attempt = some socket ∧ SocketShape phase listeners (f socket) := by
  -- the phase stays, and `f` touches nothing that it expects
  have kept : s.phase.listeners = some listeners →
      (∀ socket, SocketShape s.phase listeners socket → SocketShape s.phase listeners (f socket)) →
      ∃ socket, s.sockets.get s.attempt = some socket ∧
        SocketShape s.phase listeners (f socket) := by
    intro same holds
    obtain ⟨socket, found, shape⟩ := coherent.shaped listeners same
    exact ⟨socket, found, holds socket shape⟩
  cases move with
  | quiet calm => exact kept awaited fun _ shape => shape
  | opened dialing =>
      obtain ⟨socket, found, shape⟩ := coherent.shaped _ (by rw [dialing]; rfl)
      obtain rfl := Option.some.inj awaited
      refine ⟨socket, found, ?_, by simp [Socket.emitting, Socket.modifyListeners], ?_⟩
      · simp only [Socket.modifyListeners, Socket.emitting, shape.attached]
        rfl
      · exact fun _ => shape.spared (by simp [dialing])
  | buffered adapted => exact kept awaited fun _ shape => ⟨shape.1, shape.2, shape.3⟩
  | adapterFailed adapted past fails => exact kept awaited fun _ shape => shape.emitting fails
  | served serving => exact kept awaited fun _ shape => shape
  | peerClosing => exact kept awaited fun _ shape => ⟨shape.1, fun _ => by simp, shape.3⟩
  | greeted due dialed =>
      obtain ⟨socket, found, shape⟩ := coherent.shaped _ (by rw [dialed]; rfl)
      obtain rfl := Option.some.inj awaited
      refine ⟨socket, found, ?_, fun _ => shape.connected (by simp [dialed]),
        fun _ => shape.spared (by simp [dialed])⟩
      simp only [Socket.modifyAdapter, Socket.modifyListeners, shape.attached]
  | announcing handshaking =>
      obtain ⟨socket, found, shape⟩ := coherent.shaped _ (by rw [handshaking]; rfl)
      obtain rfl := Option.some.inj awaited
      exact ⟨socket, found, shape.attached, fun _ => shape.connected (by simp [handshaking]),
        fun _ => shape.spared (by simp [handshaking])⟩
  | connected enters =>
      obtain ⟨shaped, _, _, past, _⟩ := enters.shaped
      obtain ⟨socket, found, shape⟩ := coherent.shaped _ shaped
      obtain rfl := Option.some.inj awaited
      refine ⟨socket, found, ?_, fun _ => shape.connected past, fun serving => absurd rfl serving⟩
      simp only [Moved.detached, Socket.modifyAdapter, Socket.modifyListeners, shape.attached]
  | abortedServing serving =>
      obtain ⟨socket, found, shape⟩ := coherent.shaped _ (by rw [serving]; exact awaited)
      refine ⟨socket, found, shape.attached, fun _ => ?_, fun other => absurd rfl other⟩
      simp only [Socket.terminate]
      split <;> simp
  | abortedElsewhere => exact kept awaited fun _ shape => shape
  | _ => contradiction

theorem coherent_step (opts : ConnectionOptions) {s s' : State} {e : Event}
    (coherent : Coherent s) (after : opts.step s e = some s') : Coherent s' := by
  cases stepCase_of_step opts coherent after with
  | unattended idle unattended own present =>
      constructor
      · rw [unattended.attempt, unattended.phase, unattended.signal]
        exact coherent.signal
      · intro listeners awaited
        rw [unattended.phase] at awaited ⊢
        rw [unattended.attempt, unattended.sockets]
        · exact coherent.shaped listeners awaited
        · intro same
          rw [idle.phase same] at awaited
          contradiction
      · intro other later
        rw [unattended.attempt] at later
        rw [unattended.sockets, coherent.future other later]
        rintro rfl
        exact present (coherent.future _ later)
  | started resumed looping going equal =>
      subst equal
      have shape := coherent.signal
      rw [looping] at shape
      constructor
      · exact shape.dial _
      · intro listeners awaited
        obtain rfl := Option.some.inj awaited
        exact ⟨.dialled, OrderedMap.get_set_self _ _ _, rfl,
          fun past => absurd rfl (past _), fun _ => rfl⟩
      · intro other later
        have later' : s.attempt + 1 < other := later
        exact (OrderedMap.get_set_of_ne _ _ (Nat.ne_of_lt later')).trans
          (coherent.future other (Nat.lt_of_succ_lt later'))
  | @moved phase signal f new move moved =>
      constructor
      · rw [moved.attempt, moved.phase, moved.signal]
        exact move.signalShape coherent.signal
      · intro listeners awaited
        rw [moved.phase] at awaited
        obtain ⟨socket, found, shape⟩ := move.socketShape coherent awaited
        refine ⟨f socket, ?_, ?_⟩
        · rw [moved.attempt, moved.socket, found]
          rfl
        · rw [moved.phase]
          exact shape
      · intro other later
        rw [moved.attempt] at later
        rw [moved.sockets other (Nat.ne_of_gt later), coherent.future other later]

theorem coherent_run (opts : ConnectionOptions) {events : List Event} {s : State}
    (ran : opts.machine.run events = some s) : Coherent s :=
  Machine.state_invariant (P := Coherent)
    ⟨⟨by simp [ConnectionOptions.machine, State.init], List.nodup_nil, by
      simp [ConnectionOptions.machine, State.init, Phase.abortListener]⟩, by
      simp [ConnectionOptions.machine, State.init, Phase.listeners], fun _ _ => rfl⟩
    (fun _ _ _ coherent after => coherent_step opts coherent after) ran

end DicodeRelay.Client
