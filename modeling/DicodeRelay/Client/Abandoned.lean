import DicodeRelay.Client.Arrivals
import DicodeRelay.Client.Frames

/-!
Contract: the sockets of attempts that are over.

Owns:
- what the code that hears a socket's event leaves of the socket;
- that only the serving attempt's socket still has the listener for requests, and
  that the requests of every socket are dispatched once, in order and without gaps;
- that no other socket than the current attempt's is open, and that nothing is
  sent elsewhere.

Does not own: when the library closes a socket that was terminated.
-/

namespace DicodeRelay.Client

open DicodeRelay.Lib DicodeRelay.Shared

/-- The phases from the dial to the `finally` of `runOnce`. -/
def Phase.owns : Phase → Bool
  | .dialing _ => true
  | .dialed => true
  | .handshaking _ => true
  | .persisting _ => true
  | .serving => true
  | .unwinding _ => true
  | _ => false

/-- A socket whose dial failed does not open later. -/
def StaysFailed (events : List Event) : Prop :=
  ∀ ws text earlier later, events = earlier ++ .socket ws (.error text) :: later →
    Event.socket ws .opened ∉ later

theorem StaysFailed.of_append {first second : List Event} (stays : StaysFailed (first ++ second)) :
    StaysFailed first := by
  intro ws text earlier later split member
  apply stays ws text earlier (later ++ second)
  · rw [split, List.append_assoc, List.cons_append]
  · exact List.mem_append_left _ member

/-- After an error the next event is not that the socket opens. -/
theorem StaysFailed.not_opened {events : List Event} {ws : Nat} {text : String}
    (stays : StaysFailed (events ++ [.socket ws .opened]))
    (failed : Event.socket ws (.error text) ∈ events) : False := by
  obtain ⟨earlier, later, rfl⟩ := List.append_of_mem failed
  apply stays ws text earlier (later ++ [.socket ws .opened])
  · rw [List.append_assoc, List.cons_append]
  · simp

/-! ### A socket and the listeners of one event -/

/-- The listeners of an event have changed the socket's adapter and have gone from
the socket, no more. -/
structure Worn (w w' : Socket) : Prop where
  readyState : w'.readyState = w.readyState
  message : ∀ l ∈ w'.listeners.message, l ∈ w.listeners.message

theorem Worn.refl (w : Socket) : Worn w w := ⟨rfl, fun _ member => member⟩

theorem Worn.trans {u v w : Socket} (first : Worn u v) (second : Worn v w) : Worn u w :=
  ⟨second.readyState.trans first.readyState,
    fun l member => first.message l (second.message l member)⟩

/-- The socket of `s` is still there in `t`, worn. -/
def Keeps (ws : Nat) (w : Socket) (t : State) : Prop :=
  ∃ w', t.sockets.get ws = some w' ∧ Worn w w'

namespace Keeps

variable {ws : Nat} {w : Socket} {t u : State}

theorem of_sockets (keeps : Keeps ws w t) (same : u.sockets = t.sockets) : Keeps ws w u := by
  obtain ⟨w', found, worn⟩ := keeps
  exact ⟨w', by rw [same, found], worn⟩

theorem modify (keeps : Keeps ws w t) {f : Socket → Socket} (wears : ∀ v, Worn v (f v)) :
    Keeps ws w (t.modifySocket ws f) := by
  obtain ⟨w', found, worn⟩ := keeps
  refine ⟨f w', ?_, worn.trans (wears w')⟩
  rw [State.modifySocket, OrderedMap.get_modify_self, found]
  rfl

theorem cleanupDial (keeps : Keeps ws w t) : Keeps ws w (t.cleanupDial ws) := by
  have wears : ∀ v : Socket, Worn v (v.modifyListeners Listeners.cleanupDial) :=
    fun v => ⟨rfl, fun _ member => member⟩
  exact (keeps.modify wears).of_sockets rfl

theorem cleanupServe (keeps : Keeps ws w t) : Keeps ws w (t.cleanupServe ws) := by
  have wears : ∀ v : Socket, Worn v (v.modifyListeners Listeners.cleanupServe) :=
    fun v => ⟨rfl, fun _ member => List.mem_of_mem_erase member⟩
  exact (keeps.modify wears).of_sockets rfl

theorem settleDial (keeps : Keeps ws w t) (outcome : Option RunError) :
    Keeps ws w (t.settleDial ws outcome) := by
  apply keeps.of_sockets
  unfold State.settleDial
  repeat' split
  all_goals rfl

theorem settleServe (keeps : Keeps ws w t) (outcome : Option RunError) :
    Keeps ws w (t.settleServe ws outcome) := by
  apply keeps.of_sockets
  unfold State.settleServe
  split <;> rfl

theorem handleFrame (opts : ConnectionOptions) (keeps : Keeps ws w t) (raw : String) :
    Keeps ws w (opts.handleFrame t ws raw) := by
  apply keeps.of_sockets
  unfold ConnectionOptions.handleFrame
  split <;> rfl

theorem runListener (opts : ConnectionOptions) (keeps : Keeps ws w t) (event : SocketEvent)
    (listener : Listener) : Keeps ws w (opts.runListener t ws event listener) := by
  unfold ConnectionOptions.runListener
  split
  · exact keeps.modify fun v => ⟨rfl, fun _ member => member⟩
  · exact keeps.modify fun v => ⟨rfl, fun _ member => member⟩
  · exact keeps.modify fun v => ⟨rfl, fun _ member => member⟩
  · exact keeps.cleanupDial.settleDial _
  · exact keeps.cleanupDial.settleDial _
  · exact keeps.cleanupDial.settleDial _
  · split
    · exact keeps
    · exact keeps.of_sockets rfl
  · exact keeps.modify fun v => ⟨rfl, fun _ member => member⟩
  · exact keeps.handleFrame opts _
  · exact keeps.cleanupServe.settleServe _
  · exact keeps.cleanupServe.settleServe _
  · exact keeps

theorem emitEvent (opts : ConnectionOptions) {s : State} (found : s.sockets.get ws = some w)
    (event : SocketEvent) : Keeps ws (w.emitting event) (opts.emitEvent s ws w event) := by
  have all : ∀ (listeners : List Listener) (t : State), Keeps ws (w.emitting event) t →
      Keeps ws (w.emitting event)
        (listeners.foldl (fun s l => opts.runListener s ws event l) t) := by
    intro listeners
    induction listeners with
    | nil => exact fun _ keeps => keeps
    | cons listener rest inductionHypothesis =>
        intro t keeps
        exact inductionHypothesis _ (keeps.runListener opts event listener)
  apply all
  refine ⟨w.emitting event, ?_, Worn.refl _⟩
  rw [State.modifySocket, OrderedMap.get_modify_self, found]
  rfl

end Keeps

theorem message_emitting (w : Socket) (event : SocketEvent) :
    (w.emitting event).listeners.message = w.listeners.message := by
  cases event <;> rfl

/-- A socket that hears no frames hands over no request. -/
theorem dispatchedOn_of_deaf (opts : ConnectionOptions) {s : State} {ws : Nat} {w : Socket}
    (deaf : .serve ∉ w.listeners.message) (event : SocketEvent) :
    (opts.emitEvent s ws w event).dispatchedOn ws = s.dispatchedOn ws := by
  have settles : ∀ (t : State) outcome,
      (t.settleDial ws outcome).dispatchedOn ws = t.dispatchedOn ws := by
    intro t outcome
    unfold State.settleDial
    repeat' split
    all_goals rfl
  have serves : ∀ (t : State) outcome,
      (t.settleServe ws outcome).dispatchedOn ws = t.dispatchedOn ws := by
    intro t outcome
    unfold State.settleServe
    split <;> rfl
  have each : ∀ listener ∈ w.listeners.of event, ∀ t : State,
      (opts.runListener t ws event listener).dispatchedOn ws = t.dispatchedOn ws := by
    intro listener member t
    unfold ConnectionOptions.runListener
    split
    · rfl
    · rfl
    · rfl
    · exact settles _ _
    · exact settles _ _
    · exact settles _ _
    · split
      · rfl
      · exact dispatchedOn_emit t ws rfl
    · rfl
    · exact absurd member deaf
    · exact serves _ _
    · exact serves _ _
    · rfl
  have all : ∀ (listeners : List Listener) (t : State),
      (∀ l ∈ listeners, l ∈ w.listeners.of event) →
      (listeners.foldl (fun s l => opts.runListener s ws event l) t).dispatchedOn ws =
        t.dispatchedOn ws := by
    intro listeners
    induction listeners with
    | nil => exact fun _ _ => rfl
    | cons listener rest inductionHypothesis =>
        intro t inside
        rw [List.foldl_cons, inductionHypothesis _ fun l member => inside l (by simp [member])]
        exact each listener (inside listener (by simp)) t
  exact all _ _ fun _ member => member

/-! ### What is left of a socket -/

/-- The socket is closing or closed, or its dial failed. -/
def Shut (events : List Event) (ws : Nat) (w : Socket) : Prop :=
  w.readyState = .closing ∨ w.readyState = .closed ∨
    (w.readyState = .connecting ∧ ∃ text, Event.socket ws (.error text) ∈ events)

theorem Shut.of_readyState {events more : List Event} {ws : Nat} {w w' : Socket}
    (shut : Shut events ws w) (same : w'.readyState = w.readyState) :
    Shut (events ++ more) ws w' := by
  unfold Shut
  rw [same]
  exact shut.imp_right fun rest => rest.imp_right fun both =>
    ⟨both.1, both.2.imp fun _ member => List.mem_append_left _ member⟩

theorem shut_terminate (events : List Event) (ws : Nat) (w : Socket) :
    Shut events ws w.terminate := by
  simp only [Shut, Socket.terminate]
  split
  · exact Or.inr (Or.inl rfl)
  · exact Or.inl rfl

/-- What becomes of a socket that is shut when it emits an event. -/
theorem Shut.emitting {events : List Event} {ws : Nat} {w w' : Socket}
    (shut : Shut events ws w) {event : SocketEvent} (possible : w.canEmit event = true)
    (stays : StaysFailed (events ++ [.socket ws event])) (worn : Worn (w.emitting event) w') :
    Shut (events ++ [.socket ws event]) ws w' := by
  cases event with
  | opened =>
      have connecting : w.readyState = .connecting := of_decide_eq_true possible
      rcases shut with closing | closed | failed
      · rw [connecting] at closing
        contradiction
      · rw [connecting] at closed
        contradiction
      · obtain ⟨_, text, failed⟩ := failed
        exact (stays.not_opened failed).elim
  | closed code => exact Or.inr (Or.inl worn.readyState)
  | message raw => exact shut.of_readyState worn.readyState
  | error text => exact shut.of_readyState worn.readyState

/-! ### The moves -/

section Moves

variable {opts : ConnectionOptions} {s : State} {e : Event} {phase : Phase}
  {signal : AbortSignal} {f : Socket → Socket} {new : List Request}

/-- After a move the current socket hears requests only while the attempt
serves. -/
theorem Move.deaf (move : Move opts s e phase signal f new) (coherent : Coherent s) {w : Socket}
    (found : s.sockets.get s.attempt = some w)
    (before : s.phase = .serving ∨ .serve ∉ w.listeners.message) :
    phase = .serving ∨ .serve ∉ (f w).listeners.message := by
  have unserved : s.phase ≠ .serving → .serve ∉ w.listeners.message := before.resolve_left
  cases move with
  | quiet | buffered | served | peerClosing | abortedElsewhere => exact before
  | adapterFailed =>
      refine before.imp_right fun deaf => ?_
      simpa only [Socket.modifyAdapter, message_emitting] using deaf
  | connected | abortedServing => exact Or.inl rfl
  | opened dialing | dialFailed dialing | dialTimeout dialing | abortedDialing dialing =>
      have deaf := unserved (by simp [dialing])
      right
      simpa only [givenUp, Socket.modifyListeners, Socket.modifyAdapter, Socket.terminate,
        Listeners.cleanupDial, Listeners.attachSwallow, message_emitting] using deaf
  | serveEnded serving =>
      obtain ⟨current, same, attached, _⟩ := coherent.shaped _ (by rw [serving]; rfl)
      obtain rfl := Option.some.inj (found.symm.trans same)
      right
      simp only [Socket.modifyListeners, Listeners.cleanupServe, message_emitting, attached]
      decide
  | connectedLate enters =>
      right
      intro member
      exact unserved enters.shaped.2.2.2.2 (List.mem_of_mem_erase member)
  | handshakeTimeout handshaking | handshakeFailed _ handshaking | announcing handshaking =>
      exact Or.inr (unserved (by simp [handshaking]))
  | greeted _ dialed => exact Or.inr (unserved (by simp [dialed]))
  | consumerFailed _ persisting => exact Or.inr (unserved (by simp [persisting]))
  | unwound unwinding => exact Or.inr (unserved (by simp [unwinding]))
  | woken sleeping | abortedSleeping sleeping => exact Or.inr (unserved (by simp [sleeping]))
  | stopped looping => exact Or.inr (unserved (by simp [looping]))
  | slept _ _ ended | sleepless _ ended => exact Or.inr (unserved (by simp [ended]))

/-- A move that gives the current socket up leaves it shut. -/
theorem Move.shut (move : Move opts s e phase signal f new) {events : List Event} {w : Socket}
    (dialing : ∀ due, s.phase = .dialing due → w.readyState ≠ .opened)
    (before : s.phase.owns = true ∨ Shut events s.attempt w) :
    phase.owns = true ∨ Shut (events ++ [e]) s.attempt (f w) := by
  have unowned : s.phase.owns ≠ true → Shut (events ++ [e]) s.attempt w :=
    fun none => (before.resolve_left none).of_readyState rfl
  cases move with
  | quiet | served | abortedElsewhere =>
      exact before.imp_right fun shut => shut.of_readyState rfl
  | buffered adapted | adapterFailed adapted =>
      left
      cases phase : s.phase <;> simp_all [Phase.adapted, Phase.owns]
  | peerClosing => exact Or.inr (Or.inl rfl)
  | dialFailed here fails =>
      right
      rename_i event err
      cases event with
      | error text =>
          cases state : w.readyState with
          | opened => exact absurd state (dialing _ here)
          | connecting => exact Or.inr (Or.inr ⟨state, text, by simp⟩)
          | closing => exact Or.inl state
          | closed => exact Or.inr (Or.inl state)
      | closed code => exact Or.inr (Or.inl rfl)
      | opened => contradiction
      | message raw => contradiction
  | dialTimeout | abortedDialing => exact Or.inr (shut_terminate _ _ _)
  | unwound => exact Or.inr (shut_terminate _ _ _)
  | woken sleeping | abortedSleeping sleeping =>
      exact Or.inr (unowned (by simp [sleeping, Phase.owns]))
  | stopped looping => exact Or.inr (unowned (by simp [looping, Phase.owns]))
  | slept _ _ ended | sleepless _ ended => exact Or.inr (unowned (by simp [ended, Phase.owns]))
  | _ => exact Or.inl rfl

/-- A dial that goes on has not opened its socket. -/
theorem Move.dialing (move : Move opts s e phase signal f new) {w : Socket} {due : Nat}
    (going : phase = .dialing due)
    (before : ∀ due, s.phase = .dialing due → w.readyState ≠ .opened) :
    (f w).readyState ≠ .opened := by
  cases move with
  | quiet | buffered | served | abortedElsewhere => exact before due going
  | adapterFailed _ connected => exact absurd going (connected due)
  | peerClosing => simp
  | _ => contradiction

end Moves

/-! ### Sockets that hear no request -/

/-- An event that no phase awaits leaves its socket worn, or closing. -/
theorem unattended_socket {opts : ConnectionOptions} {s s' : State} {e : Event} {ws : Nat}
    (after : opts.step s e = some s')
    (own : (∃ event, e = .socket ws event) ∨ e = .peerClosing ws) {w' : Socket}
    (found' : s'.sockets.get ws = some w') :
    ∃ w, s.sockets.get ws = some w ∧
      (∀ l ∈ w'.listeners.message, l ∈ w.listeners.message) ∧
      ((∃ event, e = .socket ws event ∧ w.canEmit event = true ∧
          Worn (w.emitting event) w') ∨
        w'.readyState = .closing) := by
  rcases own with ⟨event, rfl⟩ | rfl
  · simp only [ConnectionOptions.step] at after
    split at after
    · contradiction
    · rename_i w found
      simp only [Option.ite_none_right_eq_some, Option.some.injEq] at after
      obtain ⟨possible, rfl⟩ := after
      obtain ⟨w'', same, worn⟩ := Keeps.emitEvent opts found event
      obtain rfl := Option.some.inj (found'.symm.trans same)
      refine ⟨w, found, fun l member => ?_, Or.inl ⟨event, rfl, possible, worn⟩⟩
      rw [← message_emitting w event]
      exact worn.message l member
  · simp only [ConnectionOptions.step, Option.ite_none_right_eq_some, Option.some.injEq] at after
    obtain ⟨_, rfl⟩ := after
    rw [State.modifySocket, OrderedMap.get_modify_self, Option.map_eq_some_iff] at found'
    obtain ⟨w, found, rfl⟩ := found'
    exact ⟨w, found, fun l member => member, Or.inr rfl⟩

/-- Only the socket of the serving attempt has the listener for requests. -/
def Deaf (s : State) : Prop :=
  ∀ ws w, s.sockets.get ws = some w →
    (s.attempt = ws ∧ s.phase = .serving) ∨ .serve ∉ w.listeners.message

theorem startAttempt_of_ne (opts : ConnectionOptions) {s : State} {ws : Nat}
    (different : s.attempt + 1 ≠ ws) :
    (opts.startAttempt s).sockets.get ws = s.sockets.get ws :=
  OrderedMap.get_set_of_ne _ _ different

theorem startAttempt_current (opts : ConnectionOptions) (s : State) :
    (opts.startAttempt s).sockets.get (s.attempt + 1) = some .dialled :=
  OrderedMap.get_set_self _ _ _

theorem deaf_step {opts : ConnectionOptions} {s s' : State} {e : Event} (coherent : Coherent s)
    (deaf : Deaf s) (after : opts.step s e = some s') : Deaf s' := by
  intro ws w' found'
  cases stepCase_of_step opts coherent after with
  | @unattended other idle unattended own present =>
      rw [unattended.attempt, unattended.phase]
      by_cases same : ws = other
      · subst same
        obtain ⟨w, found, fewer, _⟩ := unattended_socket after own found'
        refine (deaf ws w found).imp_right fun unheard member => ?_
        exact unheard (fewer _ member)
      · rw [unattended.sockets ws same] at found'
        exact deaf ws w' found'
  | started resumed looping going equal =>
      subst equal
      right
      by_cases same : s.attempt + 1 = ws
      · subst same
        obtain rfl := Option.some.inj ((startAttempt_current opts s).symm.trans found')
        decide
      · rw [startAttempt_of_ne opts same] at found'
        refine (deaf ws w' found').resolve_left fun serving => ?_
        rw [looping] at serving
        exact absurd serving.2 (by simp)
  | @moved phase signal f new move moved =>
      rw [moved.attempt, moved.phase]
      by_cases same : ws = s.attempt
      · subst same
        rw [moved.socket, Option.map_eq_some_iff] at found'
        obtain ⟨w, found, rfl⟩ := found'
        have before := (deaf _ w found).imp_left And.right
        exact (move.deaf coherent found before).imp_left fun serving => ⟨rfl, serving⟩
      · rw [moved.sockets ws same] at found'
        exact Or.inr ((deaf ws w' found').resolve_left fun serving => same serving.1.symm)

theorem deaf_run (opts : ConnectionOptions) {events : List Event} {s : State}
    (ran : opts.machine.run events = some s) : Deaf s := by
  refine Machine.run_invariant (P := fun _ s => Deaf s) ?_ ?_ ran
  · intro ws w found
    contradiction
  · intro events s e s' before deaf after
    exact deaf_step (coherent_run opts before) deaf after

/-- A welcome is no request. -/
theorem requestFrames_welcome {wire : WireFormat} {raw : String} (welcome : IsWelcome wire raw)
    (rest : List String) : requestFrames wire (raw :: rest) = requestFrames wire rest := by
  obtain ⟨message, decoded⟩ := welcome
  simp [requestFrames, decoded]

/-- The requests that one more event hands over are the next ones that arrived. -/
theorem dispatched_prefix_step {opts : ConnectionOptions} {ws : Nat} {arrived : List String}
    {s s' : State} {e : Event} (coherent : Coherent s) (deaf : Deaf s)
    (follows : Follows opts.wire ws arrived s)
    (begins : s.dispatchedOn ws <+: requestFrames opts.wire arrived)
    (after : opts.step s e = some s') :
    s'.dispatchedOn ws <+: requestFrames opts.wire (arrived ++ e.frameOn ws) := by
  have still : s.dispatchedOn ws <+: requestFrames opts.wire (arrived ++ e.frameOn ws) := by
    rw [requestFrames_append]
    exact begins.trans (List.prefix_append _ _)
  cases stepCase_of_step opts coherent after with
  | @unattended other idle unattended own present =>
      suffices same : s'.dispatchedOn ws = s.dispatchedOn ws by
        rw [same]
        exact still
      by_cases here : ws = other
      · subst here
        rcases own with ⟨event, rfl⟩ | rfl
        · simp only [ConnectionOptions.step] at after
          split at after
          · contradiction
          · rename_i w found
            simp only [Option.ite_none_right_eq_some, Option.some.injEq] at after
            obtain ⟨_, rfl⟩ := after
            apply dispatchedOn_of_deaf opts
            refine (deaf ws w found).resolve_left fun serving => ?_
            have absurdity := idle.phase serving.1
            rw [serving.2] at absurdity
            contradiction
        · simp only [ConnectionOptions.step, Option.ite_none_right_eq_some,
            Option.some.injEq] at after
          obtain ⟨_, rfl⟩ := after
          rfl
      · exact unattended.dispatched ws here
  | started resumed looping going equal =>
      subst equal
      exact still
  | @moved phase signal f new move moved =>
      by_cases here : ws = s.attempt
      · subst here
        rw [moved.dispatched]
        have entered : EntersServe opts s e →
            s.dispatchedOn s.attempt ++ requestFrames opts.wire (s.inbox s.attempt) <+:
              requestFrames opts.wire (arrived ++ e.frameOn s.attempt) := by
          intro enters
          obtain ⟨w, found, handled⟩ := follows.during rfl (by simp [enters.shaped.1])
          obtain ⟨none, raw, welcome, split⟩ := enters.handled found handled
          rw [none, split, requestFrames_append, requestFrames_welcome welcome, List.nil_append]
          exact List.prefix_append _ _
        cases move with
        | connected enters => exact entered enters
        | connectedLate enters => exact entered enters
        | @served raw serving =>
            obtain ⟨first, rest, split, welcome, dispatched⟩ := follows.serving rfl serving
            have delivered : (Event.socket s.attempt (.message raw)).frameOn s.attempt = [raw] :=
              if_pos rfl
            refine ⟨[], ?_⟩
            rw [List.append_nil, delivered, dispatched, split, requestFrames_append,
              requestFrames_welcome welcome]
        | _ =>
            rw [List.append_nil]
            exact still
      · rw [moved.dispatchedOthers ws here]
        exact still

/-! ### Sockets that are shut -/

/-- Which sockets may be open. -/
structure Tended (events : List Event) (s : State) : Prop where
  shut : ∀ ws w, s.sockets.get ws = some w →
    (s.attempt = ws ∧ s.phase.owns = true) ∨ Shut events ws w
  dialing : ∀ due w, s.phase = .dialing due → s.sockets.get s.attempt = some w →
    w.readyState ≠ .opened

theorem tended_step {opts : ConnectionOptions} {events : List Event} {s s' : State} {e : Event}
    (coherent : Coherent s) (tended : Tended events s) (stays : StaysFailed (events ++ [e]))
    (after : opts.step s e = some s') : Tended (events ++ [e]) s' := by
  have kept : ∀ {ws : Nat} {w : Socket}, Shut events ws w → Shut (events ++ [e]) ws w :=
    fun shut => shut.of_readyState rfl
  cases stepCase_of_step opts coherent after with
  | @unattended ws idle unattended own present =>
      constructor
      · intro other w' found'
        rw [unattended.attempt, unattended.phase]
        by_cases same : other = ws
        · subst same
          obtain ⟨w, found, _, emitted⟩ := unattended_socket after own found'
          refine (tended.shut other w found).imp_right fun shut => ?_
          rcases emitted with ⟨event, rfl, possible, worn⟩ | closing
          · exact shut.emitting possible stays worn
          · exact Or.inl closing
        · rw [unattended.sockets other same] at found'
          exact (tended.shut other w' found').imp_right kept
      · intro due w' dialing found'
        rw [unattended.attempt] at found'
        rw [unattended.phase] at dialing
        have different : s.attempt ≠ ws := by
          intro same
          have absurdity := idle.phase same
          rw [dialing] at absurdity
          contradiction
        rw [unattended.sockets _ different] at found'
        exact tended.dialing due w' dialing found'
  | started resumed looping going equal =>
      subst equal
      constructor
      · intro ws w found
        by_cases same : s.attempt + 1 = ws
        · exact Or.inl ⟨same, rfl⟩
        · right
          rw [startAttempt_of_ne opts same] at found
          refine kept ((tended.shut ws w found).resolve_left fun owned => ?_)
          rw [looping] at owned
          exact absurd owned.2 (by simp [Phase.owns])
      · intro due w _ found
        obtain rfl := Option.some.inj ((startAttempt_current opts s).symm.trans found)
        simp [Socket.dialled]
  | @moved phase signal f new move moved =>
      have changed : ∀ {w' : Socket}, s'.sockets.get s.attempt = some w' →
          ∃ w, s.sockets.get s.attempt = some w ∧ f w = w' := by
        intro w' found'
        rwa [moved.socket, Option.map_eq_some_iff] at found'
      constructor
      · intro ws w' found'
        rw [moved.attempt, moved.phase]
        by_cases same : ws = s.attempt
        · subst same
          obtain ⟨w, found, rfl⟩ := changed found'
          have before := (tended.shut _ w found).imp_left And.right
          exact (move.shut (fun due dialing => tended.dialing due w dialing found) before).imp_left
            fun owned => ⟨rfl, owned⟩
        · rw [moved.sockets ws same] at found'
          exact Or.inr (kept ((tended.shut ws w' found').resolve_left fun owned =>
            same owned.1.symm))
      · intro due w' dialing found'
        rw [moved.attempt] at found'
        rw [moved.phase] at dialing
        obtain ⟨w, found, rfl⟩ := changed found'
        exact move.dialing dialing fun due before => tended.dialing due w before found

theorem tended_run (opts : ConnectionOptions) {events : List Event} {s : State}
    (ran : opts.machine.run events = some s) (stays : StaysFailed events) : Tended events s := by
  refine Machine.run_invariant (P := fun events s => StaysFailed events → Tended events s)
    ?_ ?_ ran stays
  · intro _
    constructor
    · intro ws w found
      contradiction
    · intro due w dialing
      contradiction
  · intro events s e s' before holds after stays
    exact tended_step (coherent_run opts before) (holds stays.of_append) stays after

theorem Tended.opened {events : List Event} {s : State} (tended : Tended events s) {ws : Nat}
    (opened : s.readyState ws = .opened) : ws = s.attempt ∧ s.phase.owns = true := by
  unfold State.readyState at opened
  split at opened
  · contradiction
  · rename_i w found
    rcases tended.shut ws w found with ⟨current, owned⟩ | shut
    · exact ⟨current.symm, owned⟩
    · rcases shut with state | state | ⟨state, _⟩ <;> simp [state] at opened

/-- At any time the only socket that may be open is the one of the attempt that
goes on, and every frame a step sends goes to it. -/
theorem only_current_socket_open (opts : ConnectionOptions) {events : List Event} {s : State}
    (ran : opts.machine.run events = some s) (stays : StaysFailed events) :
    (∀ ws, s.readyState ws = .opened → ws = s.attempt ∧ s.phase.owns = true) ∧
      ∀ earlier t e t', opts.machine.StepAt events earlier t e t' →
        ∀ ws frame, (ws, frame) ∈ t'.sentFrames.drop t.sentFrames.length →
          ws = t.attempt ∧ t.phase.owns = true := by
  refine ⟨fun ws opened => (tended_run opts ran stays).opened opened, ?_⟩
  intro earlier t e t' step ws frame sent
  obtain ⟨⟨later, split⟩, before, after⟩ := step
  have stays' : StaysFailed earlier := by
    rw [split] at stays
    exact stays.of_append
  apply (tended_run opts before stays').opened
  exact (speaks_of_step opts after).opened sent

namespace Sample

/-- The handshake of the first attempt times out, and the second one's dial
succeeds. -/
def secondAttempt : List Event :=
  [.resume, .socket 1 .opened, .resume, .tick 15000, .handshakeTimer, .resume, .backOff 0,
    .tick 1000, .sleepTimer, .resume, .socket 2 .opened]

theorem reopened : (options.machine.run secondAttempt).any (fun s =>
    decide (s.attempt = 2 ∧ s.readyState 2 = .opened)) = true := by
  decide +kernel

theorem staysFailed_secondAttempt : StaysFailed secondAttempt := by
  intro ws text earlier later split _
  have failed : Event.socket ws (.error text) ∈ secondAttempt := by simp [split]
  simp [secondAttempt] at failed

end Sample

theorem only_current_socket_open_second : ∃ s,
    Sample.options.machine.run Sample.secondAttempt = some s ∧ s.readyState 2 = .opened ∧
      ∀ ws, s.readyState ws = .opened → ws = 2 := by
  obtain ⟨s, ran, facts⟩ := (Option.any_eq_true _ _).mp Sample.reopened
  obtain ⟨current, opened⟩ := of_decide_eq_true facts
  refine ⟨s, ran, opened, fun ws open' => ?_⟩
  have only := only_current_socket_open Sample.options ran Sample.staysFailed_secondAttempt
  rw [← current]
  exact (only.1 ws open').1

end DicodeRelay.Client
