import DicodeRelay.Client.Connection

/-!
Contract: every `error` of a connection's sockets finds a listener.

Owns:
- the listeners that hold until a socket has closed or failed: the handshake
  adapter, then the server of requests;
- that each piece of code keeps one of them on every such socket;
- the events of a socket that fails at most once.

Does not own: what the listeners do with the error.
-/

namespace DicodeRelay.Client

open DicodeRelay.Lib DicodeRelay.Shared

/-! ### Sockets that are listened to -/

/-- The adapter or the server of requests listens for the socket's error. -/
def Socket.Guarded (w : Socket) : Prop :=
  .adapter ∈ w.listeners.error ∨ .serve ∈ w.listeners.error

/-- No error of the socket can go unheard. -/
def Socket.Safe (w : Socket) : Prop := w.readyState = .closed ∨ w.Guarded

namespace Socket.Safe

variable {w : Socket}

theorem modifyAdapter (safe : w.Safe) (f : Adapter → Adapter) : (w.modifyAdapter f).Safe := safe

theorem cleanupDial (safe : w.Safe) : (w.modifyListeners Listeners.cleanupDial).Safe :=
  safe.imp_right fun guarded => guarded.imp
    (fun member => (List.mem_erase_of_ne (by decide)).mpr member)
    fun member => (List.mem_erase_of_ne (by decide)).mpr member

theorem attachSwallow (safe : w.Safe) : (w.modifyListeners Listeners.attachSwallow).Safe :=
  safe.imp_right fun guarded => guarded.imp (List.mem_append_left _) (List.mem_append_left _)

theorem attachAdmission (safe : w.Safe) : (w.modifyListeners Listeners.attachAdmission).Safe := safe

theorem removeAdmission (safe : w.Safe) : (w.modifyListeners Listeners.removeAdmission).Safe := safe

/-- Once it serves, the server of requests listens. -/
theorem attachServe (w : Socket) : (w.modifyListeners Listeners.attachServe).Safe :=
  Or.inr (Or.inr (List.mem_append_right _ (List.mem_singleton.mpr rfl)))

theorem terminate (safe : w.Safe) : w.terminate.Safe :=
  safe.imp_left fun closed => by simp [Socket.terminate, closed]

theorem emitting (safe : w.Safe) {event : SocketEvent} (possible : w.canEmit event = true) :
    (w.emitting event).Safe := by
  cases event with
  | opened =>
      have connecting : w.readyState = .connecting := of_decide_eq_true possible
      exact Or.inr (safe.resolve_left (by simp [connecting]))
  | message raw => exact safe
  | error text => exact safe
  | closed code => exact Or.inl rfl

end Socket.Safe

/-! ### What the code keeps -/

/-- Every socket outside `failed` is safe. -/
def SafeBut (failed : Nat → Prop) (s : State) : Prop :=
  ∀ ws socket, s.sockets.get ws = some socket → ¬failed ws → socket.Safe

namespace SafeBut

variable {failed : Nat → Prop} {s t : State}

theorem congr (safe : SafeBut failed s) (same : t.sockets = s.sockets) : SafeBut failed t := by
  intro ws socket found
  rw [same] at found
  exact safe ws socket found

theorem modifySocket (safe : SafeBut failed s) {ws : Nat} {f : Socket → Socket}
    (keeps : ¬failed ws → ∀ socket, s.sockets.get ws = some socket → socket.Safe →
      (f socket).Safe) : SafeBut failed (s.modifySocket ws f) := by
  intro other socket found spared
  rw [State.modifySocket] at found
  by_cases same : ws = other
  · subst same
    rw [OrderedMap.get_modify_self] at found
    obtain ⟨before, present, rfl⟩ := Option.map_eq_some_iff.mp found
    exact keeps spared before present (safe ws before present spared)
  · rw [OrderedMap.get_modify_of_ne _ _ same] at found
    exact safe other socket found spared

theorem modify (safe : SafeBut failed s) (ws : Nat) {f : Socket → Socket}
    (keeps : ∀ {socket : Socket}, socket.Safe → (f socket).Safe) :
    SafeBut failed (s.modifySocket ws f) :=
  safe.modifySocket fun _ _ _ => keeps

theorem send (safe : SafeBut failed s) (ws : Nat) (frame : String) :
    SafeBut failed (s.send ws frame) := by
  unfold State.send
  split
  · exact safe.congr rfl
  · exact safe

theorem terminate (safe : SafeBut failed s) (ws : Nat) : SafeBut failed (s.terminate ws) :=
  safe.modify ws Socket.Safe.terminate

theorem cleanupDial (safe : SafeBut failed s) (ws : Nat) : SafeBut failed (s.cleanupDial ws) :=
  (safe.modify ws Socket.Safe.cleanupDial).congr rfl

theorem settleDial (safe : SafeBut failed s) (ws : Nat) (outcome : Option RunError) :
    SafeBut failed (s.settleDial ws outcome) := by
  unfold State.settleDial
  split
  · split
    · cases outcome <;> exact safe.congr rfl
    · exact safe
  · exact safe

theorem giveUpDial (safe : SafeBut failed s) (ws : Nat) (err : RunError) :
    SafeBut failed (s.giveUpDial ws err) :=
  (((safe.cleanupDial ws).modify ws Socket.Safe.attachSwallow).terminate ws).settleDial ws _

/-- The server of requests leaves a socket that has failed or closed. -/
theorem cleanupServe (safe : SafeBut failed s) {ws : Nat}
    (settled : ¬failed ws → s.readyState ws = .closed) : SafeBut failed (s.cleanupServe ws) := by
  have kept : SafeBut failed
      (s.modifySocket ws fun socket => socket.modifyListeners Listeners.cleanupServe) :=
    safe.modifySocket fun spared _ found _ =>
      Or.inl ((readyState_eq found).symm.trans (settled spared))
  exact kept.congr rfl

theorem settleServe (safe : SafeBut failed s) (ws : Nat) (outcome : Option RunError) :
    SafeBut failed (s.settleServe ws outcome) := by
  unfold State.settleServe
  split
  · exact safe.congr rfl
  · exact safe

theorem handleFrame (opts : ConnectionOptions) (safe : SafeBut failed s) (ws : Nat)
    (raw : String) : SafeBut failed (opts.handleFrame s ws raw) := by
  unfold ConnectionOptions.handleFrame
  split <;> exact safe.congr rfl

theorem wake (safe : SafeBut failed s) (attempt : Nat) : SafeBut failed (s.wake attempt) := by
  unfold State.wake
  split
  · split
    · exact safe.congr rfl
    · exact safe
  · exact safe

theorem replay (opts : ConnectionOptions) (safe : SafeBut failed s) :
    SafeBut (fun ws => failed ws ∨ ws = s.attempt) (opts.replay s) := by
  have frames : ∀ (inbox : List String) (t : State),
      SafeBut (fun ws => failed ws ∨ ws = s.attempt) t →
      SafeBut (fun ws => failed ws ∨ ws = s.attempt)
        (inbox.foldl (fun t raw => opts.handleFrame t s.attempt raw) t) := by
    intro inbox
    induction inbox with
    | nil => exact fun _ kept => kept
    | cons raw rest inductionHypothesis =>
        exact fun t kept => inductionHypothesis _ (kept.handleFrame opts s.attempt raw)
  apply frames
  unfold State.warnReplayed
  split
  all_goals
    refine SafeBut.congr (s := s.modifySocket s.attempt _) ?_ rfl
    refine SafeBut.modifySocket (fun ws socket found spared => ?_) fun spared => ?_
    · exact safe ws socket found fun gone => spared (Or.inl gone)
    · exact absurd (Or.inr rfl) spared

/-- The socket left out is safe as well. -/
theorem withOwn {ws : Nat} (safe : SafeBut (fun other => failed other ∨ other = ws) t)
    (own : ∀ socket, t.sockets.get ws = some socket → socket.Safe) : SafeBut failed t := by
  intro other socket found spared
  by_cases same : other = ws
  · subst same
    exact own socket found
  · exact safe other socket found (not_or.mpr ⟨spared, same⟩)

/-- The adapter is detached and the server attached, unless the socket has
closed in the meantime. -/
theorem connect (opts : ConnectionOptions) (safe : SafeBut failed s) (result : HandshakeResult) :
    SafeBut failed (opts.connect s result) := by
  have replayed := safe.replay opts
  unfold ConnectionOptions.connect
  simp only [State.serve]
  split
  · rename_i closed
    exact (replayed.congr rfl).withOwn fun socket found =>
      Or.inl ((readyState_eq found).symm.trans closed)
  · refine SafeBut.withOwn (SafeBut.congr (replayed.modifySocket
      fun spared => absurd (Or.inr rfl) spared) rfl) fun socket found => ?_
    have attached := found
    simp only [State.enter, State.modifySocket, OrderedMap.get_modify_self] at attached
    obtain ⟨before, _, rfl⟩ := Option.map_eq_some_iff.mp attached
    exact Socket.Safe.attachServe before

theorem endHandshake (opts : ConnectionOptions) (safe : SafeBut failed s)
    (answer : Except RunError String) : SafeBut failed (opts.endHandshake s answer) := by
  unfold ConnectionOptions.endHandshake
  split
  · exact safe.congr rfl
  · split
    · exact safe.congr rfl
    · split
      · exact safe.connect opts _
      · exact safe.congr rfl

theorem startAttempt (opts : ConnectionOptions) (safe : SafeBut failed s) :
    SafeBut failed (opts.startAttempt s) := by
  intro ws socket found spared
  simp only [ConnectionOptions.startAttempt, OrderedMap.get_set] at found
  split at found
  · obtain rfl := Option.some.inj found
    exact Or.inr (Or.inl (by decide))
  · exact safe ws socket found spared

theorem beginHandshake (opts : ConnectionOptions) (safe : SafeBut failed s) :
    SafeBut failed (opts.beginHandshake s) :=
  ((((safe.modify s.attempt Socket.Safe.attachAdmission).send _ _).modify s.attempt
    fun kept => kept.modifyAdapter _).congr rfl)

theorem unwind (safe : SafeBut failed s) (outcome : Option RunError) :
    SafeBut failed (s.unwind outcome) :=
  ((safe.modify s.attempt Socket.Safe.removeAdmission).terminate _).congr rfl

theorem endAttempt (safe : SafeBut failed s) (outcome : Option RunError) :
    SafeBut failed (s.endAttempt outcome) := by
  cases outcome with
  | some err => exact safe.congr rfl
  | none =>
      simp only [State.endAttempt]
      split <;> exact safe.congr rfl

theorem backOff (safe : SafeBut failed s) (outcome : Option RunError) (draw : Rat) :
    SafeBut failed (s.backOff outcome draw) := by
  simp only [State.backOff, State.sleep]
  split <;> exact (safe.endAttempt outcome).congr rfl

theorem abort (safe : SafeBut failed s) : SafeBut failed s.abort := by
  have listeners : ∀ (listeners : List AbortListener) (t : State), SafeBut failed t →
      SafeBut failed (listeners.foldl State.runAbortListener t) := by
    intro listeners
    induction listeners with
    | nil => exact fun _ kept => kept
    | cons listener rest inductionHypothesis =>
        intro t kept
        apply inductionHypothesis
        cases listener with
        | dial ws => exact kept.giveUpDial ws _
        | serve ws => exact kept.terminate ws
        | backoff attempt => exact kept.wake attempt
  unfold State.abort
  split
  · exact safe
  · exact listeners _ _ (safe.congr rfl)

end SafeBut

/-! ### Socket events -/

/-- The socket has failed when its listeners run for an error, and is closed
when they run for its end. -/
def Settled (failed : Nat → Prop) (ws : Nat) (s : State) : SocketEvent → Prop
  | .error _ => failed ws
  | .closed _ => s.readyState ws = .closed
  | _ => True

theorem readyState_modifySocket (s : State) (ws : Nat) {f : Socket → Socket}
    (kept : ∀ w, (f w).readyState = w.readyState) :
    (s.modifySocket ws f).readyState ws = s.readyState ws := by
  unfold State.readyState State.modifySocket
  rw [OrderedMap.get_modify_self]
  cases s.sockets.get ws with
  | none => rfl
  | some w => exact kept w

/-- The listeners leave the ready state of the socket alone. -/
theorem readyState_runListener (opts : ConnectionOptions) (s : State) (ws : Nat)
    (event : SocketEvent) (listener : Listener) :
    (opts.runListener s ws event listener).readyState ws = s.readyState ws := by
  have dial : ∀ outcome, ((s.cleanupDial ws).settleDial ws outcome).readyState ws =
      s.readyState ws := by
    intro outcome
    rw [← readyState_modifySocket s ws (f := fun w => w.modifyListeners Listeners.cleanupDial)
      fun _ => rfl]
    unfold State.settleDial
    split
    · split
      · cases outcome <;> rfl
      · rfl
    · rfl
  have serve : ∀ outcome, ((s.cleanupServe ws).settleServe ws outcome).readyState ws =
      s.readyState ws := by
    intro outcome
    rw [← readyState_modifySocket s ws (f := fun w => w.modifyListeners Listeners.cleanupServe)
      fun _ => rfl]
    unfold State.settleServe
    split <;> rfl
  unfold ConnectionOptions.runListener
  split
  · exact readyState_modifySocket s ws fun _ => rfl
  · exact readyState_modifySocket s ws fun _ => rfl
  · exact readyState_modifySocket s ws fun _ => rfl
  · exact dial _
  · exact dial _
  · exact dial _
  · split <;> rfl
  · exact readyState_modifySocket s ws fun _ => rfl
  · unfold ConnectionOptions.handleFrame
    split <;> rfl
  · exact serve _
  · exact serve _
  · rfl

theorem SafeBut.runListener (opts : ConnectionOptions) {failed : Nat → Prop} {s : State}
    (safe : SafeBut failed s) {ws : Nat} {event : SocketEvent}
    (settled : Settled failed ws s event) (listener : Listener) :
    SafeBut failed (opts.runListener s ws event listener) := by
  unfold ConnectionOptions.runListener
  split
  · exact safe.modify ws fun kept => kept.modifyAdapter _
  · exact safe.modify ws fun kept => kept.modifyAdapter _
  · exact safe.modify ws fun kept => kept.modifyAdapter _
  · exact (safe.cleanupDial ws).settleDial ws _
  · exact (safe.cleanupDial ws).settleDial ws _
  · exact (safe.cleanupDial ws).settleDial ws _
  · split <;> exact safe.congr rfl
  · exact safe.modifySocket fun spared => absurd settled spared
  · exact safe.handleFrame opts ws _
  · exact (safe.cleanupServe fun spared => absurd settled spared).settleServe ws _
  · exact (safe.cleanupServe fun _ => settled).settleServe ws _
  · exact safe

theorem SafeBut.emitEvent (opts : ConnectionOptions) {failed : Nat → Prop} {s : State}
    (safe : SafeBut failed s) {ws : Nat} {socket : Socket} (found : s.sockets.get ws = some socket)
    {event : SocketEvent} (possible : socket.canEmit event = true)
    (fails : ∀ text, event = .error text → failed ws) :
    SafeBut failed (opts.emitEvent s ws socket event) := by
  have all : ∀ (listeners : List Listener) (t : State), SafeBut failed t →
      Settled failed ws t event →
      SafeBut failed (listeners.foldl (fun t l => opts.runListener t ws event l) t) := by
    intro listeners
    induction listeners with
    | nil => exact fun _ kept _ => kept
    | cons listener rest inductionHypothesis =>
        intro t kept settled
        apply inductionHypothesis _ (kept.runListener opts settled listener)
        cases event with
        | closed code => exact (readyState_runListener opts t ws _ listener).trans settled
        | _ => exact settled
  refine all _ _ (safe.modifySocket fun _ before present kept => ?_) ?_
  · obtain rfl := Option.some.inj (found.symm.trans present)
    exact kept.emitting possible
  · cases event with
    | opened => trivial
    | message raw => trivial
    | error text => exact fails text rfl
    | closed code =>
        simp only [Settled, State.readyState, State.modifySocket, OrderedMap.get_modify_self,
          found, Option.map_some]
        rfl

/-! ### Whole runs -/

/-- The socket has emitted an error. -/
def Failed (events : List Event) (ws : Nat) : Prop := ∃ text, .socket ws (.error text) ∈ events

def Event.failsOn (ws : Nat) : Event → Bool
  | .socket other (.error _) => other = ws
  | _ => false

/-- No socket emits an error twice. -/
def FailOnce (events : List Event) : Prop := ∀ ws, events.countP (Event.failsOn ws) ≤ 1

/-- One event keeps every socket safe but those that have failed. -/
theorem safeBut_step (opts : ConnectionOptions) {failed : Nat → Prop} {s s' : State} {e : Event}
    (safe : SafeBut failed s) (after : opts.step s e = some s')
    (fails : ∀ ws text, e = .socket ws (.error text) → failed ws) : SafeBut failed s' := by
  cases e with
  | socket ws event =>
      simp only [ConnectionOptions.step] at after
      split at after
      · contradiction
      · rename_i socket found
        simp only [Option.ite_none_right_eq_some, Option.some.injEq] at after
        obtain ⟨possible, rfl⟩ := after
        exact safe.emitEvent opts found possible fun text equal => fails ws text (by rw [equal])
  | peerClosing ws =>
      simp only [ConnectionOptions.step, Option.ite_none_right_eq_some, Option.some.injEq] at after
      obtain ⟨opened, rfl⟩ := after
      refine safe.modifySocket fun _ socket found kept => Or.inr (kept.resolve_left ?_)
      simp [← readyState_eq found, opened]
  | dialTimer =>
      simp only [ConnectionOptions.step] at after
      split at after
      · simp only [Option.ite_none_right_eq_some, Option.some.injEq] at after
        obtain ⟨_, rfl⟩ := after
        exact safe.giveUpDial _ _
      · contradiction
  | handshakeTimer =>
      simp only [ConnectionOptions.step] at after
      split at after
      · simp only [Option.ite_none_right_eq_some, Option.some.injEq] at after
        obtain ⟨_, rfl⟩ := after
        exact safe.congr rfl
      · contradiction
  | sleepTimer =>
      simp only [ConnectionOptions.step] at after
      split at after
      · simp only [Option.ite_none_right_eq_some, Option.some.injEq] at after
        obtain ⟨_, rfl⟩ := after
        exact safe.wake _
      · contradiction
  | resume =>
      simp only [ConnectionOptions.step, ConnectionOptions.resume] at after
      split at after
      · obtain rfl := Option.some.inj after
        split
        · exact safe.congr rfl
        · exact safe.startAttempt opts
      · obtain rfl := Option.some.inj after
        exact safe.beginHandshake opts
      · split at after
        · contradiction
        · obtain rfl := Option.some.inj after
          exact safe.endHandshake opts _
      · obtain rfl := Option.some.inj after
        exact safe.unwind _
      · contradiction
  | persisted rejection =>
      simp only [ConnectionOptions.step] at after
      split at after
      · cases rejection with
        | none =>
            obtain rfl := Option.some.inj after
            exact safe.connect opts _
        | some message =>
            simp only [Option.ite_none_right_eq_some, Option.some.injEq] at after
            obtain ⟨_, rfl⟩ := after
            exact safe.congr rfl
      · contradiction
  | backOff draw =>
      simp only [ConnectionOptions.step] at after
      split at after
      · simp only [Option.ite_none_right_eq_some, Option.some.injEq] at after
        obtain ⟨_, rfl⟩ := after
        exact safe.backOff _ _
      · contradiction
  | dispatched index response =>
      simp only [ConnectionOptions.step] at after
      split at after
      · contradiction
      · obtain rfl := Option.some.inj after
        rename_i ws request _
        unfold ConnectionOptions.handleDispatched
        split
        · exact safe.congr rfl
        · split
          · unfold State.send
            split <;> exact safe.congr rfl
          · exact safe.congr rfl
  | abort =>
      obtain rfl := Option.some.inj after
      exact safe.abort
  | tick ms =>
      obtain rfl := Option.some.inj after
      exact safe.congr rfl

theorem safeBut_run (opts : ConnectionOptions) {events : List Event} {s : State}
    (ran : opts.machine.run events = some s) : SafeBut (Failed events) s := by
  refine Machine.run_invariant (P := fun events s => SafeBut (Failed events) s) ?_ ?_ ran
  · intro ws socket found
    simp [ConnectionOptions.machine, State.init] at found
  · intro events s e s' _ safe after
    refine safeBut_step opts ?_ after fun ws text equal => ⟨text, by simp [equal]⟩
    intro ws socket found spared
    refine safe ws socket found fun gone => spared ?_
    obtain ⟨text, member⟩ := gone
    exact ⟨text, List.mem_append_left _ member⟩

/-- In every run in which no socket fails twice, every error finds a listener
on its socket. -/
theorem error_heard (opts : ConnectionOptions) {events earlier : List Event} {s s' : State}
    {ws : Nat} {text : String} (once : FailOnce events)
    (emits : opts.machine.StepAt events earlier s (.socket ws (.error text)) s') :
    ∃ socket, s.sockets.get ws = some socket ∧ socket.listeners.of (.error text) ≠ [] := by
  have after := emits.after
  simp only [ConnectionOptions.machine, ConnectionOptions.step] at after
  split at after
  · contradiction
  · rename_i socket found
    simp only [Option.ite_none_right_eq_some, Option.some.injEq] at after
    obtain ⟨possible, _⟩ := after
    have first : ¬Failed earlier ws := by
      rintro ⟨text', member⟩
      obtain ⟨later, rfl⟩ := emits.split
      have before : 0 < earlier.countP (Event.failsOn ws) :=
        List.countP_pos_iff.mpr ⟨_, member, by simp [Event.failsOn]⟩
      have bound := once ws
      rw [List.countP_append, List.countP_cons, if_pos (by simp [Event.failsOn])] at bound
      omega
    have alive : socket.readyState ≠ .closed := of_decide_eq_true possible
    have guarded := (safeBut_run opts emits.before ws socket found first).resolve_left alive
    refine ⟨socket, found, ?_⟩
    rcases guarded with member | member <;> exact List.ne_nil_of_mem member

/-- The dial times out, and the socket that is given up emits its error. -/
theorem error_heard_after_dial_timeout : ∃ s socket,
    Sample.options.machine.run [.resume, .tick 15000, .dialTimer] = some s ∧
      s.sockets.get 1 = some socket ∧
      socket.listeners.of (.error "WebSocket was closed before the connection was established") ≠
        [] := by
  have ran : (Sample.options.machine.run ([.resume, .tick 15000, .dialTimer] ++
      [.socket 1 (.error "WebSocket was closed before the connection was established")])).isSome =
        true := rfl
  obtain ⟨s, s', emits⟩ := Machine.exists_stepAt_last ran
  have once : FailOnce [.resume, .tick 15000, .dialTimer,
      .socket 1 (.error "WebSocket was closed before the connection was established")] := by
    intro ws
    by_cases own : 1 = ws <;> simp [Event.failsOn, own]
  obtain ⟨socket, found, heard⟩ := error_heard Sample.options once emits
  exact ⟨s, socket, emits.before, found, heard⟩

end DicodeRelay.Client
