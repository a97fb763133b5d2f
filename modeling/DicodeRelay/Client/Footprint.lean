import DicodeRelay.Client.Shape

/-!
Contract: what each piece of a connection's code touches.

Owns:
- the requests that came on a socket and were dispatched;
- the events of sockets that no phase awaits, and what they leave alone;
- the code of the current attempt, piece by piece: the phase, the signal, the
  socket and the requests dispatched after it.

Does not own: which code an event runs.
-/

namespace DicodeRelay.Client

open DicodeRelay.Lib DicodeRelay.Shared

/-! ### Requests -/

/-- The requests among the frames, in order. -/
def requestFrames (wire : WireFormat) (frames : List String) : List Request :=
  frames.filterMap fun frame =>
    match wire.decodeServer frame with
    | .envelope (.request request) => some request
    | _ => none

def Effect.dispatchedOn (ws : Nat) : Effect → Option Request
  | .dispatch other request => if other = ws then some request else none
  | _ => none

/-- The requests that came on the socket and were passed to `dispatchRequest`,
in the order of the calls. -/
def State.dispatchedOn (s : State) (ws : Nat) : List Request :=
  s.log.filterMap (Effect.dispatchedOn ws)

theorem dispatchedOn_emit (s : State) (ws : Nat) {effect : Effect}
    (other : effect.dispatchedOn ws = none) :
    (s.emit effect).dispatchedOn ws = s.dispatchedOn ws := by
  simp [State.dispatchedOn, State.emit, other]

/-! ### Events nobody awaits -/

/-- The phase awaits nothing of the socket. -/
structure Idle (ws : Nat) (s : State) : Prop where
  phase : s.attempt = ws → s.phase.listeners = none
  noDial : AbortListener.dial ws ∉ s.signal.listeners
  noServe : AbortListener.serve ws ∉ s.signal.listeners

/-- Only the socket itself and what came on it have changed. -/
structure Unattended (ws : Nat) (s s' : State) : Prop where
  phase : s'.phase = s.phase
  attempt : s'.attempt = s.attempt
  signal : s'.signal = s.signal
  sockets : ∀ other, other ≠ ws → s'.sockets.get other = s.sockets.get other
  dispatched : ∀ other, other ≠ ws → s'.dispatchedOn other = s.dispatchedOn other

theorem Unattended.refl (ws : Nat) (s : State) : Unattended ws s s :=
  ⟨rfl, rfl, rfl, fun _ _ => rfl, fun _ _ => rfl⟩

theorem Unattended.trans {ws : Nat} {s t u : State} (first : Unattended ws s t)
    (second : Unattended ws t u) : Unattended ws s u where
  phase := second.phase.trans first.phase
  attempt := second.attempt.trans first.attempt
  signal := second.signal.trans first.signal
  sockets other different := (second.sockets other different).trans (first.sockets other different)
  dispatched other different :=
    (second.dispatched other different).trans (first.dispatched other different)

theorem Idle.unattended {ws : Nat} {s s' : State} (idle : Idle ws s)
    (unattended : Unattended ws s s') : Idle ws s' where
  phase same := by
    rw [unattended.phase]
    exact idle.phase (unattended.attempt ▸ same)
  noDial := by
    rw [unattended.signal]
    exact idle.noDial
  noServe := by
    rw [unattended.signal]
    exact idle.noServe

theorem unattended_modifySocket (s : State) (ws : Nat) (f : Socket → Socket) :
    Unattended ws s (s.modifySocket ws f) where
  phase := rfl
  attempt := rfl
  signal := rfl
  sockets _ different := OrderedMap.get_modify_of_ne _ _ different.symm
  dispatched _ _ := rfl

theorem unattended_emit (s : State) {ws : Nat} {effect : Effect}
    (own : ∀ other, other ≠ ws → effect.dispatchedOn other = none) :
    Unattended ws s (s.emit effect) where
  phase := rfl
  attempt := rfl
  signal := rfl
  sockets _ _ := rfl
  dispatched other different := dispatchedOn_emit s other (own other different)

theorem unattended_dispatch (s : State) (ws : Nat) (request : Request) :
    Unattended ws s (s.dispatch ws request) where
  phase := rfl
  attempt := rfl
  signal := rfl
  sockets _ _ := rfl
  dispatched other different := by
    have own : Effect.dispatchedOn other (.dispatch ws request) = none := if_neg different.symm
    exact dispatchedOn_emit _ other own

theorem unattended_removeAbortListener (s : State) (ws : Nat) {l : AbortListener}
    (absent : l ∉ s.signal.listeners) : Unattended ws s (s.removeAbortListener l) where
  phase := rfl
  attempt := rfl
  signal := by
    have same : s.signal.listeners.filter (· ≠ l) = s.signal.listeners := by
      rw [List.filter_eq_self]
      intro other member
      simp only [ne_eq, decide_not, Bool.not_eq_eq_eq_not, Bool.not_true, decide_eq_false_iff_not]
      rintro rfl
      exact absent member
    simp only [State.removeAbortListener, State.setSignal, same]
  sockets _ _ := rfl
  dispatched _ _ := rfl

theorem unattended_cleanupDial {s : State} {ws : Nat} (idle : Idle ws s) :
    Unattended ws s (s.cleanupDial ws) :=
  (unattended_modifySocket s ws _).trans (unattended_removeAbortListener _ ws idle.noDial)

theorem unattended_cleanupServe {s : State} {ws : Nat} (idle : Idle ws s) :
    Unattended ws s (s.cleanupServe ws) :=
  (unattended_modifySocket s ws _).trans (unattended_removeAbortListener _ ws idle.noServe)

theorem settleDial_of_idle {s : State} {ws : Nat} (idle : Idle ws s) (outcome : Option RunError) :
    s.settleDial ws outcome = s := by
  unfold State.settleDial
  split
  · rename_i due dialing
    split
    · rename_i same
      have absurdity := idle.phase same
      rw [dialing] at absurdity
      contradiction
    · rfl
  · rfl

theorem settleServe_of_idle {s : State} {ws : Nat} (idle : Idle ws s) (outcome : Option RunError) :
    s.settleServe ws outcome = s := by
  unfold State.settleServe
  split
  · rename_i both
    have absurdity := idle.phase both.2
    rw [both.1] at absurdity
    contradiction
  · rfl

theorem unattended_handleFrame (opts : ConnectionOptions) (s : State) (ws : Nat) (raw : String) :
    Unattended ws s (opts.handleFrame s ws raw) := by
  unfold ConnectionOptions.handleFrame
  split
  · exact unattended_emit s fun _ _ => rfl
  · exact unattended_emit s fun _ _ => rfl
  · exact unattended_dispatch s ws _
  · exact Unattended.refl ws s

theorem unattended_runListener (opts : ConnectionOptions) {s : State} {ws : Nat}
    (idle : Idle ws s) (event : SocketEvent) (listener : Listener) :
    Unattended ws s (opts.runListener s ws event listener) := by
  have dial : ∀ outcome, Unattended ws s ((s.cleanupDial ws).settleDial ws outcome) := by
    intro outcome
    have cleaned := unattended_cleanupDial idle
    rw [settleDial_of_idle (idle.unattended cleaned)]
    exact cleaned
  have serve : ∀ outcome, Unattended ws s ((s.cleanupServe ws).settleServe ws outcome) := by
    intro outcome
    have cleaned := unattended_cleanupServe idle
    rw [settleServe_of_idle (idle.unattended cleaned)]
    exact cleaned
  unfold ConnectionOptions.runListener
  split
  · exact unattended_modifySocket s ws _
  · exact unattended_modifySocket s ws _
  · exact unattended_modifySocket s ws _
  · exact dial _
  · exact dial _
  · exact dial _
  · split
    · exact Unattended.refl ws s
    · exact unattended_emit s fun _ _ => rfl
  · exact unattended_modifySocket s ws _
  · exact unattended_handleFrame opts s ws _
  · exact serve _
  · exact serve _
  · exact Unattended.refl ws s

theorem unattended_emitEvent (opts : ConnectionOptions) {s : State} {ws : Nat}
    (idle : Idle ws s) (socket : Socket) (event : SocketEvent) :
    Unattended ws s (opts.emitEvent s ws socket event) := by
  have all : ∀ (listeners : List Listener) (t : State), Unattended ws s t →
      Unattended ws s (listeners.foldl (fun s l => opts.runListener s ws event l) t) := by
    intro listeners
    induction listeners with
    | nil => exact fun _ unattended => unattended
    | cons listener rest inductionHypothesis =>
        intro t unattended
        exact inductionHypothesis _ (unattended.trans
          (unattended_runListener opts (idle.unattended unattended) event listener))
  exact all _ _ (unattended_modifySocket s ws _)

/-! ### Code of the current attempt -/

/-- The phase, the signal and the current socket after some code of the
attempt, and the requests it dispatched; nothing else of other attempts has
changed. -/
structure Moved (s s' : State) (phase : Phase) (signal : AbortSignal) (f : Socket → Socket)
    (new : List Request) : Prop where
  phase : s'.phase = phase
  signal : s'.signal = signal
  attempt : s'.attempt = s.attempt
  socket : s'.sockets.get s.attempt = (s.sockets.get s.attempt).map f
  sockets : ∀ other, other ≠ s.attempt → s'.sockets.get other = s.sockets.get other
  dispatched : s'.dispatchedOn s.attempt = s.dispatchedOn s.attempt ++ new
  dispatchedOthers : ∀ other, other ≠ s.attempt → s'.dispatchedOn other = s.dispatchedOn other

namespace Moved

variable {s t : State} {phase : Phase} {signal : AbortSignal} {f : Socket → Socket}
  {new : List Request}

theorem start (s : State) : Moved s s s.phase s.signal id [] :=
  ⟨rfl, rfl, rfl, by simp, fun _ _ => rfl, by simp, fun _ _ => rfl⟩

theorem modify (moved : Moved s t phase signal f new) (g : Socket → Socket) :
    Moved s (t.modifySocket s.attempt g) phase signal (fun w => g (f w)) new :=
  { moved with
    socket := by
      rw [State.modifySocket, OrderedMap.get_modify_self, moved.socket, Option.map_map]
      rfl
    sockets := fun other different =>
      (OrderedMap.get_modify_of_ne _ _ different.symm).trans (moved.sockets other different) }

theorem enter (moved : Moved s t phase signal f new) (next : Phase) :
    Moved s (t.enter next) next signal f new :=
  { moved with phase := rfl }

theorem setSignal (moved : Moved s t phase signal f new) (next : AbortSignal) :
    Moved s (t.setSignal next) phase next f new :=
  { moved with signal := rfl }

theorem addAbortListener (moved : Moved s t phase signal f new) (l : AbortListener) :
    Moved s (t.addAbortListener l) phase (signal.add l) f new :=
  { moved with signal := by rw [← moved.signal]; rfl }

theorem removeAbortListener (moved : Moved s t phase signal f new) (l : AbortListener) :
    Moved s (t.removeAbortListener l) phase (signal.remove l) f new :=
  { moved with signal := by rw [← moved.signal]; rfl }

theorem emit (moved : Moved s t phase signal f new) {effect : Effect}
    (quiet : ∀ ws, effect.dispatchedOn ws = none) :
    Moved s (t.emit effect) phase signal f new :=
  { moved with
    dispatched := (dispatchedOn_emit t _ (quiet _)).trans moved.dispatched
    dispatchedOthers := fun other different =>
      (dispatchedOn_emit t other (quiet other)).trans (moved.dispatchedOthers other different) }

theorem log (moved : Moved s t phase signal f new) (level : LogLevel) (text : String) :
    Moved s (t.emit (.log level text)) phase signal f new :=
  moved.emit fun _ => rfl

theorem send (moved : Moved s t phase signal f new) (ws : Nat) (frame : String) :
    Moved s (t.send ws frame) phase signal f new := by
  unfold State.send
  split
  · exact moved.emit fun _ => rfl
  · exact moved

/-- Changes of what no phase looks at. -/
theorem congr {u : State} (moved : Moved s t phase signal f new) (samePhase : u.phase = t.phase)
    (sameSignal : u.signal = t.signal) (sameAttempt : u.attempt = t.attempt)
    (sameSockets : u.sockets = t.sockets) (sameLog : u.log = t.log) :
    Moved s u phase signal f new where
  phase := samePhase.trans moved.phase
  signal := sameSignal.trans moved.signal
  attempt := sameAttempt.trans moved.attempt
  socket := by
    rw [sameSockets]
    exact moved.socket
  sockets other different := by
    rw [sameSockets]
    exact moved.sockets other different
  dispatched := by
    rw [State.dispatchedOn, sameLog]
    exact moved.dispatched
  dispatchedOthers other different := by
    rw [State.dispatchedOn, sameLog]
    exact moved.dispatchedOthers other different

theorem dispatch (moved : Moved s t phase signal f new) (request : Request) :
    Moved s (t.dispatch s.attempt request) phase signal f (new ++ [request]) :=
  { moved with
    dispatched := by
      rw [← List.append_assoc, ← moved.dispatched]
      simp [State.dispatch, State.dispatchedOn, State.emit, Effect.dispatchedOn]
    dispatchedOthers := fun other different =>
      ((unattended_dispatch t s.attempt request).dispatched other different).trans
        (moved.dispatchedOthers other different) }

theorem handleFrame (opts : ConnectionOptions) (moved : Moved s t phase signal f new)
    (raw : String) : Moved s (opts.handleFrame t s.attempt raw) phase signal f
      (new ++ requestFrames opts.wire [raw]) := by
  unfold ConnectionOptions.handleFrame requestFrames
  split
  · rename_i decoded
    simpa [decoded] using moved.log .warn _
  · rename_i decoded
    simpa [decoded] using moved.log .warn _
  · rename_i request decoded
    simpa [decoded] using moved.dispatch request
  · rename_i message other decoded
    have none : ∀ request, message ≠ .request request := fun request equal => other request equal
    cases message with
    | request request => exact absurd rfl (none request)
    | _ => simpa [decoded] using moved

theorem handleFrames (opts : ConnectionOptions) (frames : List String)
    (moved : Moved s t phase signal f new) :
    Moved s (frames.foldl (fun s' raw => opts.handleFrame s' s.attempt raw) t) phase signal f
      (new ++ requestFrames opts.wire frames) := by
  induction frames generalizing t new with
  | nil => simpa [requestFrames] using moved
  | cons raw rest inductionHypothesis =>
      have first := inductionHypothesis (moved.handleFrame opts raw)
      rw [List.append_assoc, requestFrames, requestFrames, ← List.filterMap_append] at first
      exact first

theorem cleanupDial (moved : Moved s t phase signal f new) :
    Moved s (t.cleanupDial s.attempt) phase (signal.remove (.dial s.attempt))
      (fun w => (f w).modifyListeners Listeners.cleanupDial) new :=
  (moved.modify _).removeAbortListener _

theorem cleanupServe (moved : Moved s t phase signal f new) :
    Moved s (t.cleanupServe s.attempt) phase (signal.remove (.serve s.attempt))
      (fun w => (f w).modifyListeners Listeners.cleanupServe) new :=
  (moved.modify _).removeAbortListener _

theorem settleDial {due : Nat} (moved : Moved s t (.dialing due) signal f new)
    (outcome : Option RunError) :
    Moved s (t.settleDial s.attempt outcome)
      (match outcome with
        | none => .dialed
        | some err => .ended (some err)) signal f new := by
  unfold State.settleDial
  rw [moved.phase, if_pos moved.attempt]
  cases outcome <;> exact moved.enter _

theorem settleServe (moved : Moved s t .serving signal f new) (outcome : Option RunError) :
    Moved s (t.settleServe s.attempt outcome) (.unwinding outcome) signal f new := by
  unfold State.settleServe
  rw [if_pos ⟨moved.phase, moved.attempt⟩]
  exact moved.enter _

theorem terminate (moved : Moved s t phase signal f new) :
    Moved s (t.terminate s.attempt) phase signal (fun w => (f w).terminate) new :=
  moved.modify _

theorem giveUpDial {due : Nat} (moved : Moved s t (.dialing due) signal f new) (err : RunError) :
    Moved s (t.giveUpDial s.attempt err) (.ended (some err)) (signal.remove (.dial s.attempt))
      (fun w => (((f w).modifyListeners Listeners.cleanupDial).modifyListeners
        Listeners.attachSwallow).terminate) new :=
  ((moved.cleanupDial.modify _).terminate).settleDial (some err)

theorem failAdapter (moved : Moved s t phase signal f new) (err : RunError) :
    Moved s (t.modifySocket s.attempt fun socket => socket.modifyAdapter fun a => a.fail err)
      phase signal (fun w => (f w).modifyAdapter fun a => a.fail err) new :=
  moved.modify _

/-- The watch for admission close codes only writes to the log. -/
theorem admissionClose (opts : ConnectionOptions) (moved : Moved s t phase signal f new)
    (code : Nat) : Moved s (opts.runListener t s.attempt (.closed code) .admission) phase signal f
      new := by
  simp only [ConnectionOptions.runListener]
  split
  · exact moved
  · exact moved.emit fun _ => rfl

theorem readyState (moved : Moved s t phase signal f new)
    (kept : ∀ w, (f w).readyState = w.readyState) :
    t.readyState s.attempt = s.readyState s.attempt := by
  unfold State.readyState
  rw [moved.socket]
  cases s.sockets.get s.attempt with
  | none => rfl
  | some w => exact kept w

theorem beginHandshake (opts : ConnectionOptions) (s : State) :
    ∃ due, Moved s (opts.beginHandshake s) (.handshaking due) s.signal
      (fun w => (w.modifyListeners Listeners.attachAdmission).modifyAdapter Adapter.recv) [] :=
  ⟨_, ((((Moved.start s).modify _).send _ _).modify _).enter _⟩

theorem unwind (s : State) (outcome : Option RunError) :
    Moved s (s.unwind outcome) (.ended outcome) s.signal
      (fun w => (w.modifyListeners Listeners.removeAdmission).terminate) [] :=
  (((Moved.start s).modify _).terminate).enter _

theorem setBackoff (moved : Moved s t phase signal f new) (backoff : Nat) :
    Moved s (t.setBackoff backoff) phase signal f new :=
  moved.congr rfl rfl rfl rfl rfl

theorem setStatus (moved : Moved s t phase signal f new) (status : RelayEndpointStatus) :
    Moved s (t.setStatus status) phase signal f new :=
  moved.congr rfl rfl rfl rfl rfl

theorem report (moved : Moved s t phase signal f new) : Moved s t.report phase signal f new :=
  moved.emit fun _ => rfl

theorem warnReplayed (moved : Moved s t phase signal f new) (leftover : List String) :
    Moved s (t.warnReplayed leftover) phase signal f new := by
  unfold State.warnReplayed
  split
  · exact moved
  · exact moved.emit fun _ => rfl

theorem serve (moved : Moved s t phase signal f new) :
    (t.readyState s.attempt = .closed ∧
      Moved s (t.serve s.attempt) (.unwinding none) signal f new) ∨
    (t.readyState s.attempt ≠ .closed ∧
      Moved s (t.serve s.attempt) .serving (signal.add (.serve s.attempt))
        (fun w => (f w).modifyListeners Listeners.attachServe) new) := by
  unfold State.serve
  split
  · rename_i closed
    exact Or.inl ⟨closed, moved.enter _⟩
  · rename_i notClosed
    exact Or.inr ⟨notClosed, ((moved.addAbortListener _).modify _).enter _⟩

/-- The socket after its adapter was detached. -/
def detached (w : Socket) : Socket :=
  (w.modifyListeners Listeners.detachAdapter).modifyAdapter Adapter.detach

theorem replay (opts : ConnectionOptions) (s : State) :
    Moved s (opts.replay s) s.phase s.signal detached
      (requestFrames opts.wire (s.inbox s.attempt)) :=
  (((Moved.start s).modify _).warnReplayed _).handleFrames opts _

/-- The handshake has succeeded: what the adapter holds is dispatched, and the
attempt serves unless the socket has closed in the meantime. -/
theorem connect (opts : ConnectionOptions) (s : State) (result : HandshakeResult) :
    (s.readyState s.attempt = .closed ∧ Moved s (opts.connect s result) (.unwinding none) s.signal
      detached (requestFrames opts.wire (s.inbox s.attempt))) ∨
    (s.readyState s.attempt ≠ .closed ∧ Moved s (opts.connect s result) .serving
      (s.signal.add (.serve s.attempt))
      (fun w => (detached w).modifyListeners Listeners.attachServe)
      (requestFrames opts.wire (s.inbox s.attempt))) := by
  have replayed := Moved.replay opts s
  have reported := (replayed.setStatus
    ((opts.replay s).status.connect result (opts.replay s).now)).report.log .info "relay connected"
  rw [← reported.readyState fun _ => rfl]
  exact reported.serve

theorem endAttempt (moved : Moved s t phase signal f new) (outcome : Option RunError) :
    Moved s (t.endAttempt outcome) phase signal f new := by
  cases outcome with
  | some err => exact (moved.setStatus _).report.emit fun _ => rfl
  | none =>
      simp only [State.endAttempt]
      split
      · exact ((moved.setBackoff _).setStatus _).report
      · exact (moved.setStatus _).report

theorem sleep (moved : Moved s t phase signal f new) (wait : Int) :
    (signal.aborted = true ∧ Moved s (t.sleep wait) .looping signal f new) ∨
    (signal.aborted = false ∧ ∃ due,
      Moved s (t.sleep wait) (.sleeping due) (signal.add (.backoff s.attempt)) f new) := by
  unfold State.sleep
  rw [moved.signal, moved.attempt]
  split
  · rename_i aborted
    exact Or.inl ⟨aborted, moved.enter _⟩
  · rename_i going
    exact Or.inr ⟨Bool.eq_false_iff.mpr going, _, (moved.addAbortListener _).enter _⟩

theorem backOff (s : State) (outcome : Option RunError) (draw : Rat) :
    (s.signal.aborted = true ∧ Moved s (s.backOff outcome draw) .looping s.signal id []) ∨
    (s.signal.aborted = false ∧ ∃ due, Moved s (s.backOff outcome draw) (.sleeping due)
      (s.signal.add (.backoff s.attempt)) id []) :=
  (((Moved.start s).endAttempt outcome).setBackoff _).sleep _

end Moved

end DicodeRelay.Client
