import DicodeRelay.Client.Answers

/-!
Contract: the frames a connection puts on the wire.

Owns:
- that no code but the greeting and the end of a dispatch sends a frame;
- what each of the two sends, and on which socket.

Does not own: which sockets are open.
-/

namespace DicodeRelay.Client

open DicodeRelay.Lib DicodeRelay.Shared

/-- The frames sent so far with the sockets they went to, oldest first. -/
def State.sentFrames (s : State) : List (Nat × String) := s.log.filterMap Effect.sent

/-- The response to a request whose dispatch came to `answer`. -/
def responseTo (request : Request) (answer : LocalResponse) : Response :=
  ⟨request.id, answer.status, answer.headers, answer.body⟩

/-! ### Code that sends nothing -/

namespace State

theorem sentFrames_emit (s : State) {effect : Effect} (quiet : effect.sent = none) :
    (s.emit effect).sentFrames = s.sentFrames := by
  simp [sentFrames, emit, quiet]

theorem sentFrames_settleDial (s : State) (ws : Nat) (outcome : Option RunError) :
    (s.settleDial ws outcome).sentFrames = s.sentFrames := by
  unfold settleDial
  repeat' split
  all_goals rfl

theorem sentFrames_settleServe (s : State) (ws : Nat) (outcome : Option RunError) :
    (s.settleServe ws outcome).sentFrames = s.sentFrames := by
  unfold settleServe
  split <;> rfl

theorem sentFrames_giveUpDial (s : State) (ws : Nat) (err : RunError) :
    (s.giveUpDial ws err).sentFrames = s.sentFrames :=
  sentFrames_settleDial _ ws (some err)

theorem sentFrames_serve (s : State) (ws : Nat) : (s.serve ws).sentFrames = s.sentFrames := by
  unfold serve
  split <;> rfl

theorem sentFrames_sleep (s : State) (wait : Int) : (s.sleep wait).sentFrames = s.sentFrames := by
  unfold sleep
  split <;> rfl

theorem sentFrames_wake (s : State) (attempt : Nat) :
    (s.wake attempt).sentFrames = s.sentFrames := by
  unfold wake
  repeat' split
  all_goals rfl

theorem sentFrames_foldl {α : Type} {f : State → α → State}
    (each : ∀ t x, (f t x).sentFrames = t.sentFrames) (items : List α) (s : State) :
    (items.foldl f s).sentFrames = s.sentFrames := by
  induction items generalizing s with
  | nil => rfl
  | cons x rest inductionHypothesis => exact (inductionHypothesis (f s x)).trans (each s x)

theorem sentFrames_abort (s : State) : s.abort.sentFrames = s.sentFrames := by
  unfold abort
  split
  · rfl
  · refine sentFrames_foldl (fun t l => ?_) _ _
    cases l with
    | dial ws => exact t.sentFrames_giveUpDial ws .aborted
    | serve ws => rfl
    | backoff attempt => exact t.sentFrames_wake attempt

theorem sentFrames_report (s : State) : s.report.sentFrames = s.sentFrames :=
  s.sentFrames_emit rfl

theorem sentFrames_endAttempt (s : State) (outcome : Option RunError) :
    (s.endAttempt outcome).sentFrames = s.sentFrames := by
  cases outcome with
  | none =>
      simp only [endAttempt]
      split <;> exact sentFrames_report _
  | some err =>
      simp only [endAttempt]
      rw [sentFrames_emit _ rfl, sentFrames_report]
      rfl

theorem sentFrames_backOff (s : State) (outcome : Option RunError) (draw : Rat) :
    (s.backOff outcome draw).sentFrames = s.sentFrames := by
  simp only [backOff]
  rw [sentFrames_sleep]
  exact s.sentFrames_endAttempt outcome

end State

namespace ConnectionOptions

variable (opts : ConnectionOptions)

theorem sentFrames_handleFrame (s : State) (ws : Nat) (raw : String) :
    (opts.handleFrame s ws raw).sentFrames = s.sentFrames := by
  unfold handleFrame
  split
  · exact s.sentFrames_emit rfl
  · exact s.sentFrames_emit rfl
  · exact State.sentFrames_emit _ rfl
  · rfl

theorem sentFrames_runListener (s : State) (ws : Nat) (event : SocketEvent)
    (listener : Listener) : (opts.runListener s ws event listener).sentFrames = s.sentFrames := by
  unfold runListener
  split
  · rfl
  · rfl
  · rfl
  · exact State.sentFrames_settleDial _ ws _
  · exact State.sentFrames_settleDial _ ws _
  · exact State.sentFrames_settleDial _ ws _
  · split
    · rfl
    · exact s.sentFrames_emit rfl
  · rfl
  · exact opts.sentFrames_handleFrame s ws _
  · exact State.sentFrames_settleServe _ ws _
  · exact State.sentFrames_settleServe _ ws _
  · rfl

theorem sentFrames_emitEvent (s : State) (ws : Nat) (socket : Socket) (event : SocketEvent) :
    (opts.emitEvent s ws socket event).sentFrames = s.sentFrames :=
  State.sentFrames_foldl (fun t l => opts.sentFrames_runListener t ws event l) _ _

theorem sentFrames_connect (s : State) (result : HandshakeResult) :
    (opts.connect s result).sentFrames = s.sentFrames := by
  have warned : ∀ (t : State) leftover, (t.warnReplayed leftover).sentFrames = t.sentFrames := by
    intro t leftover
    unfold State.warnReplayed
    split
    · rfl
    · exact t.sentFrames_emit rfl
  have replayed : (opts.replay s).sentFrames = s.sentFrames :=
    (State.sentFrames_foldl (fun t raw => opts.sentFrames_handleFrame t s.attempt raw) _ _).trans
      (warned _ _)
  simp only [connect]
  rw [State.sentFrames_serve, State.sentFrames_emit _ rfl, State.sentFrames_report]
  exact replayed

end ConnectionOptions

/-! ### One event -/

/-- The frame one event sends, if it sends one. -/
inductive Speaks (opts : ConnectionOptions) (s : State) (e : Event) (s' : State) : Prop where
  | mute (same : s'.sentFrames = s.sentFrames)
  | greeting (resumed : e = .resume) (dialed : s.phase = .dialed)
      (opened : s.readyState s.attempt = .opened)
      (sent : s'.sentFrames =
        s.sentFrames ++ [(s.attempt, helloFrame opts.crypto opts.wire opts.identity)])
  | response {index ws : Nat} {request : Request} {answer : LocalResponse}
      (ended : e = .dispatched index (some answer))
      (entry : s.dispatching[index]? = some (ws, request)) (typed : isInt32 answer.status)
      (opened : s.readyState ws = .opened)
      (sent : s'.sentFrames =
        s.sentFrames ++ [(ws, opts.wire.encodeClient (.response (responseTo request answer)))])

theorem sentFrames_send (s : State) (ws : Nat) (frame : String) :
    (s.send ws frame).sentFrames = s.sentFrames ∨
      (s.readyState ws = .opened ∧
        (s.send ws frame).sentFrames = s.sentFrames ++ [(ws, frame)]) := by
  unfold State.send
  split
  · rename_i opened
    exact Or.inr ⟨opened, by simp [State.sentFrames, State.emit, Effect.sent]⟩
  · exact Or.inl rfl

theorem speaks_beginHandshake (opts : ConnectionOptions) {s : State} (dialed : s.phase = .dialed) :
    Speaks opts s .resume (opts.beginHandshake s) := by
  have attached := (Moved.start s).modify fun w => w.modifyListeners Listeners.attachAdmission
  have same := attached.readyState fun _ => rfl
  rcases sentFrames_send (s.modifySocket s.attempt fun socket =>
    socket.modifyListeners Listeners.attachAdmission) s.attempt
    (helloFrame opts.crypto opts.wire opts.identity) with quiet | ⟨opened, sent⟩
  · exact .mute quiet
  · exact .greeting rfl dialed (same.symm.trans opened) sent

theorem speaks_handleDispatched (opts : ConnectionOptions) {s : State} {index ws : Nat}
    {request : Request} (entry : s.dispatching[index]? = some (ws, request))
    (answer : Option LocalResponse) :
    Speaks opts s (.dispatched index answer)
      (opts.handleDispatched { s with dispatching := s.dispatching.eraseIdx index } ws request
        answer) := by
  cases answer with
  | none => exact .mute (State.sentFrames_emit _ rfl)
  | some answer =>
      simp only [ConnectionOptions.handleDispatched]
      split
      · rename_i typed
        rcases sentFrames_send { s with dispatching := s.dispatching.eraseIdx index } ws
          (opts.wire.encodeClient (.response (responseTo request answer))) with
          quiet | ⟨opened, sent⟩
        · exact .mute quiet
        · exact .response rfl entry typed opened sent
      · exact .mute (State.sentFrames_emit _ rfl)

/-- Every event is one of the cases. -/
theorem speaks_of_step (opts : ConnectionOptions) {s s' : State} {e : Event}
    (after : opts.step s e = some s') : Speaks opts s e s' := by
  cases e with
  | socket ws event =>
      simp only [ConnectionOptions.step] at after
      split at after
      · contradiction
      · simp only [Option.ite_none_right_eq_some, Option.some.injEq] at after
        obtain ⟨_, rfl⟩ := after
        exact .mute (opts.sentFrames_emitEvent s ws _ event)
  | peerClosing ws =>
      simp only [ConnectionOptions.step, Option.ite_none_right_eq_some, Option.some.injEq] at after
      obtain ⟨_, rfl⟩ := after
      exact .mute rfl
  | dialTimer =>
      simp only [ConnectionOptions.step] at after
      split at after
      · simp only [Option.ite_none_right_eq_some, Option.some.injEq] at after
        obtain ⟨_, rfl⟩ := after
        exact .mute (s.sentFrames_giveUpDial _ _)
      · contradiction
  | handshakeTimer =>
      simp only [ConnectionOptions.step] at after
      split at after
      · simp only [Option.ite_none_right_eq_some, Option.some.injEq] at after
        obtain ⟨_, rfl⟩ := after
        exact .mute rfl
      · contradiction
  | sleepTimer =>
      simp only [ConnectionOptions.step] at after
      split at after
      · simp only [Option.ite_none_right_eq_some, Option.some.injEq] at after
        obtain ⟨_, rfl⟩ := after
        exact .mute (s.sentFrames_wake _)
      · contradiction
  | resume =>
      simp only [ConnectionOptions.step, ConnectionOptions.resume] at after
      split at after
      · obtain rfl := Option.some.inj after
        apply Speaks.mute
        split <;> rfl
      · rename_i dialed
        obtain rfl := Option.some.inj after
        exact speaks_beginHandshake opts dialed
      · split at after
        · contradiction
        · obtain rfl := Option.some.inj after
          apply Speaks.mute
          unfold ConnectionOptions.endHandshake
          repeat' split
          all_goals first | rfl | exact opts.sentFrames_connect s _
      · obtain rfl := Option.some.inj after
        exact .mute rfl
      · contradiction
  | persisted rejection =>
      simp only [ConnectionOptions.step] at after
      split at after
      · cases rejection with
        | none =>
            obtain rfl := Option.some.inj after
            exact .mute (opts.sentFrames_connect s _)
        | some message =>
            simp only [Option.ite_none_right_eq_some, Option.some.injEq] at after
            obtain ⟨_, rfl⟩ := after
            exact .mute rfl
      · contradiction
  | backOff draw =>
      simp only [ConnectionOptions.step] at after
      split at after
      · simp only [Option.ite_none_right_eq_some, Option.some.injEq] at after
        obtain ⟨_, rfl⟩ := after
        exact .mute (s.sentFrames_backOff _ draw)
      · contradiction
  | dispatched index answer =>
      simp only [ConnectionOptions.step] at after
      split at after
      · contradiction
      · rename_i ws request entry
        obtain rfl := Option.some.inj after
        exact speaks_handleDispatched opts entry answer
  | abort =>
      obtain rfl := Option.some.inj after
      exact .mute s.sentFrames_abort
  | tick ms =>
      obtain rfl := Option.some.inj after
      exact .mute rfl

/-- A frame goes out only on a socket that is open. -/
theorem Speaks.opened {opts : ConnectionOptions} {s s' : State} {e : Event}
    (speaks : Speaks opts s e s') {ws : Nat} {frame : String}
    (sent : (ws, frame) ∈ s'.sentFrames.drop s.sentFrames.length) : s.readyState ws = .opened := by
  cases speaks with
  | mute same => simp [same] at sent
  | greeting _ _ opened more =>
      rw [more, List.drop_left, List.mem_singleton, Prod.mk.injEq] at sent
      rw [sent.1]
      exact opened
  | response _ _ _ opened more =>
      rw [more, List.drop_left, List.mem_singleton, Prod.mk.injEq] at sent
      rw [sent.1]
      exact opened

end DicodeRelay.Client
