import DicodeRelay.Client.Moves

/-!
Contract: what each event does to a connection's clock, backoff, status, reports
and dispatches.

Owns:
- the code that touches none of the first four, piece by piece: what it passes to
  `dispatchRequest` is what it adds to the dispatches;
- the four events that do: the clock, a new attempt, the end of a handshake and
  the end of an attempt.

Does not own: the phases and the sockets.
-/

namespace DicodeRelay.Client

open DicodeRelay.Lib DicodeRelay.Shared

/-! ### Code that reports nothing -/

/-- The request an effect passes to `dispatchRequest`, with the socket it came on. -/
def Effect.dispatched : Effect → Option (Nat × Request)
  | .dispatch ws request => some (ws, request)
  | _ => none

/-- The clock, the backoff and the status are the same, nothing has been reported,
and every request that was dispatched is one more dispatch. -/
structure Aside (s t : State) : Prop where
  now : t.now = s.now
  startedAt : t.startedAt = s.startedAt
  backoff : t.backoff = s.backoff
  status : t.status = s.status
  log : ∃ more, t.log = s.log ++ more ∧ more.filterMap Effect.reported = [] ∧
    t.dispatching = s.dispatching ++ more.filterMap Effect.dispatched

namespace Aside

variable {s t u : State}

theorem refl (s : State) : Aside s s := ⟨rfl, rfl, rfl, rfl, [], by simp, rfl, by simp⟩

theorem trans (first : Aside s t) (second : Aside t u) : Aside s u := by
  obtain ⟨more, grown, quiet, added⟩ := first.log
  obtain ⟨more', grown', quiet', added'⟩ := second.log
  refine ⟨second.now.trans first.now, second.startedAt.trans first.startedAt,
    second.backoff.trans first.backoff, second.status.trans first.status, more ++ more', ?_, ?_,
    ?_⟩
  · rw [grown', grown, List.append_assoc]
  · rw [List.filterMap_append, quiet, quiet', List.append_nil]
  · rw [added', added, List.filterMap_append, List.append_assoc]

theorem reports (aside : Aside s t) : t.reports = s.reports := by
  obtain ⟨more, grown, quiet, _⟩ := aside.log
  rw [State.reports, grown, List.filterMap_append, quiet, List.append_nil]
  rfl

/-- Changes of the sockets, the signal and the phase. -/
theorem congr (here : Aside s t) (now : u.now = t.now) (startedAt : u.startedAt = t.startedAt)
    (backoff : u.backoff = t.backoff) (status : u.status = t.status) (log : u.log = t.log)
    (dispatching : u.dispatching = t.dispatching) : Aside s u :=
  here.trans ⟨now, startedAt, backoff, status, [], by simp [log], rfl, by simp [dispatching]⟩

theorem emit (here : Aside s t) {effect : Effect} (quiet : effect.reported = none)
    (passes : effect.dispatched = none) : Aside s (t.emit effect) :=
  here.trans ⟨rfl, rfl, rfl, rfl, [effect], rfl, by simp [quiet], by simp [State.emit, passes]⟩

theorem dispatch (here : Aside s t) (ws : Nat) (request : Request) :
    Aside s (t.dispatch ws request) :=
  here.trans ⟨rfl, rfl, rfl, rfl, [.dispatch ws request], rfl, rfl, rfl⟩

theorem modifySocket (here : Aside s t) (ws : Nat) (f : Socket → Socket) :
    Aside s (t.modifySocket ws f) :=
  here.congr rfl rfl rfl rfl rfl rfl

theorem setSignal (here : Aside s t) (signal : AbortSignal) : Aside s (t.setSignal signal) :=
  here.congr rfl rfl rfl rfl rfl rfl

theorem enter (here : Aside s t) (phase : Phase) : Aside s (t.enter phase) :=
  here.congr rfl rfl rfl rfl rfl rfl

theorem cleanupDial (here : Aside s t) (ws : Nat) : Aside s (t.cleanupDial ws) :=
  here.congr rfl rfl rfl rfl rfl rfl

theorem cleanupServe (here : Aside s t) (ws : Nat) : Aside s (t.cleanupServe ws) :=
  here.congr rfl rfl rfl rfl rfl rfl

theorem settleDial (here : Aside s t) (ws : Nat) (outcome : Option RunError) :
    Aside s (t.settleDial ws outcome) := by
  unfold State.settleDial
  split
  · split
    · cases outcome with
      | none => exact here.enter _
      | some err => exact here.enter _
    · exact here
  · exact here

theorem settleServe (here : Aside s t) (ws : Nat) (outcome : Option RunError) :
    Aside s (t.settleServe ws outcome) := by
  unfold State.settleServe
  split
  · exact here.enter _
  · exact here

theorem giveUpDial (here : Aside s t) (ws : Nat) (err : RunError) :
    Aside s (t.giveUpDial ws err) :=
  ((((here.cleanupDial ws).modifySocket ws _).modifySocket ws _)).settleDial ws _

theorem serve (here : Aside s t) (ws : Nat) : Aside s (t.serve ws) := by
  unfold State.serve
  split
  · exact here.enter _
  · exact here.congr rfl rfl rfl rfl rfl rfl

theorem send (here : Aside s t) (ws : Nat) (frame : String) : Aside s (t.send ws frame) := by
  unfold State.send
  split
  · exact here.emit rfl rfl
  · exact here

theorem handleFrame (opts : ConnectionOptions) (here : Aside s t) (ws : Nat) (raw : String) :
    Aside s (opts.handleFrame t ws raw) := by
  unfold ConnectionOptions.handleFrame
  split
  · exact here.emit rfl rfl
  · exact here.emit rfl rfl
  · exact here.dispatch ws _
  · exact here

theorem handleDispatched (opts : ConnectionOptions) (here : Aside s t) (ws : Nat)
    (request : Request) (response : Option LocalResponse) :
    Aside s (opts.handleDispatched t ws request response) := by
  cases response with
  | none => exact here.emit rfl rfl
  | some response =>
      unfold ConnectionOptions.handleDispatched
      dsimp only
      split
      · exact here.send ws _
      · exact here.emit rfl rfl

theorem runListener (opts : ConnectionOptions) (here : Aside s t) (ws : Nat)
    (event : SocketEvent) (listener : Listener) :
    Aside s (opts.runListener t ws event listener) := by
  unfold ConnectionOptions.runListener
  split
  · exact here.modifySocket ws _
  · exact here.modifySocket ws _
  · exact here.modifySocket ws _
  · exact (here.cleanupDial ws).settleDial ws _
  · exact (here.cleanupDial ws).settleDial ws _
  · exact (here.cleanupDial ws).settleDial ws _
  · split
    · exact here
    · exact here.emit rfl rfl
  · exact here.modifySocket ws _
  · exact here.handleFrame opts ws _
  · exact (here.cleanupServe ws).settleServe ws _
  · exact (here.cleanupServe ws).settleServe ws _
  · exact here

theorem foldl {α : Type} {f : State → α → State} (each : ∀ t x, Aside s t → Aside s (f t x))
    (here : Aside s t) (items : List α) : Aside s (items.foldl f t) := by
  induction items generalizing t with
  | nil => exact here
  | cons x rest inductionHypothesis => exact inductionHypothesis (each t x here)

theorem emitEvent (opts : ConnectionOptions) (here : Aside s t) (ws : Nat) (socket : Socket)
    (event : SocketEvent) : Aside s (opts.emitEvent t ws socket event) :=
  foldl (fun _ l here => here.runListener opts ws event l) (here.modifySocket ws _) _

theorem replay (opts : ConnectionOptions) (here : Aside s t) : Aside s (opts.replay t) := by
  have detached : ∀ leftover : List String, Aside s ((t.modifySocket t.attempt fun socket =>
      (socket.modifyListeners Listeners.detachAdapter).modifyAdapter Adapter.detach).warnReplayed
        leftover) := by
    intro leftover
    unfold State.warnReplayed
    split
    · exact here.modifySocket _ _
    · exact (here.modifySocket _ _).emit rfl rfl
  exact foldl (fun t raw here => here.handleFrame opts _ raw) (detached _) _

theorem beginHandshake (opts : ConnectionOptions) (here : Aside s t) :
    Aside s (opts.beginHandshake t) :=
  (((here.modifySocket _ _).send _ _).modifySocket _ _).enter _

theorem unwind (here : Aside s t) (outcome : Option RunError) : Aside s (t.unwind outcome) :=
  here.congr rfl rfl rfl rfl rfl rfl

theorem sleep (here : Aside s t) (wait : Int) : Aside s (t.sleep wait) := by
  unfold State.sleep
  split
  · exact here.enter _
  · exact here.congr rfl rfl rfl rfl rfl rfl

theorem wake (here : Aside s t) (attempt : Nat) : Aside s (t.wake attempt) := by
  unfold State.wake
  split
  · split
    · exact here.enter _
    · exact here
  · exact here

theorem runAbortListener (here : Aside s t) (l : AbortListener) :
    Aside s (t.runAbortListener l) := by
  cases l with
  | dial ws => exact here.giveUpDial ws _
  | serve ws => exact here.modifySocket ws _
  | backoff attempt => exact here.wake attempt

theorem abort (here : Aside s t) : Aside s t.abort := by
  unfold State.abort
  split
  · exact here
  · exact foldl (fun _ l here => here.runAbortListener l) (here.setSignal ⟨true, []⟩) _

end Aside

/-! ### Code that reports -/

theorem reports_report (s : State) : s.report.reports = s.reports ++ [s.status] := by
  rw [State.report, State.reports, State.emit, List.filterMap_append]
  rfl

/-- The state in which `connect` has just reported: the frames are replayed. -/
def ConnectionOptions.announced (opts : ConnectionOptions) (s : State)
    (result : HandshakeResult) : State :=
  let t := opts.replay s
  (t.setStatus (t.status.connect result t.now)).report

theorem aside_connect (opts : ConnectionOptions) (s : State) (result : HandshakeResult) :
    Aside (opts.announced s result) (opts.connect s result) :=
  ((Aside.refl _).emit rfl rfl).serve _

/-- The end of a handshake makes one report, that the endpoint is connected. -/
theorem reports_connect (opts : ConnectionOptions) (s : State) (result : HandshakeResult) :
    (opts.connect s result).reports = s.reports ++ [s.status.connect result s.now] := by
  have replayed := (Aside.refl s).replay opts
  rw [(aside_connect opts s result).reports, ConnectionOptions.announced, reports_report]
  have before : ∀ status, ((opts.replay s).setStatus status).reports = (opts.replay s).reports :=
    fun _ => rfl
  rw [before, replayed.reports, replayed.status, replayed.now]
  rfl

theorem clock_connect (opts : ConnectionOptions) (s : State) (result : HandshakeResult) :
    (opts.connect s result).now = s.now ∧ (opts.connect s result).startedAt = s.startedAt ∧
      (opts.connect s result).backoff = s.backoff := by
  have replayed := (Aside.refl s).replay opts
  have told := aside_connect opts s result
  exact ⟨told.now.trans replayed.now, told.startedAt.trans replayed.startedAt,
    told.backoff.trans replayed.backoff⟩

/-- The end of an attempt makes one report, that the endpoint is not
connected. -/
theorem reports_backOff (s : State) (outcome : Option RunError) (draw : Rat) :
    (s.backOff outcome draw).reports = s.reports ++ [s.status.disconnect outcome] := by
  have slept : ∀ (t : State) (wait : Int), (t.sleep wait).reports = t.reports :=
    fun t wait => ((Aside.refl t).sleep wait).reports
  have ended : (s.endAttempt outcome).reports = s.reports ++ [s.status.disconnect outcome] := by
    cases outcome with
    | none =>
        simp only [State.endAttempt]
        split <;> exact reports_report _
    | some err =>
        have logged : Aside (s.setStatus (s.status.disconnect (some err))).report
            (s.endAttempt (some err)) := (Aside.refl _).emit rfl rfl
        exact logged.reports.trans (reports_report _)
  simp only [State.backOff]
  rw [slept, ← ended]
  rfl

/-! ### One event -/

/-- The dispatches that go on when an event happens. -/
def Event.undispatched (e : Event) (dispatching : List (Nat × Request)) : List (Nat × Request) :=
  match e with
  | .dispatched index _ => dispatching.eraseIdx index
  | _ => dispatching

/-- What one event does to the clock, the backoff, the status, the reports and the
dispatches. -/
inductive Ledger (opts : ConnectionOptions) (s : State) (e : Event) (s' : State) : Prop where
  | aside (aside : Aside { s with dispatching := e.undispatched s.dispatching } s')
      (unentered : ¬EntersServe opts s e)
      (going : ∀ draw, e ≠ .backOff draw)
  | ticked {ms : Nat} (tick : e = .tick ms) (equal : s' = { s with now := s.now + ms })
  | started (resumed : e = .resume) (looping : s.phase = .looping)
      (going : s.signal.aborted = false) (equal : s' = opts.startAttempt s)
  | connected {result : HandshakeResult} (enters : EntersServe opts s e)
      (equal : s' = opts.connect s result)
  | backedOff {outcome : Option RunError} {draw : Rat} (ended : s.phase = .ended outcome)
      (drawn : 0 ≤ draw ∧ draw < 1) (event : e = .backOff draw)
      (equal : s' = s.backOff outcome draw)

/-- Everything a step can do to them. -/
theorem ledger_of_step (opts : ConnectionOptions) {s s' : State} {e : Event}
    (after : opts.step s e = some s') : Ledger opts s e s' := by
  have here := Aside.refl s
  have unentered : ∀ e : Event, e ≠ .resume → e ≠ .persisted none → ¬EntersServe opts s e := by
    rintro _ other other' (_ | _) <;> contradiction
  cases e with
  | socket ws event =>
      simp only [ConnectionOptions.step] at after
      split at after
      · contradiction
      · rename_i socket found
        simp only [Option.ite_none_right_eq_some, Option.some.injEq] at after
        obtain ⟨_, rfl⟩ := after
        exact .aside (here.emitEvent opts ws _ event) (unentered _ (by simp) (by simp)) (by simp)
  | peerClosing ws =>
      simp only [ConnectionOptions.step, Option.ite_none_right_eq_some, Option.some.injEq] at after
      obtain ⟨_, rfl⟩ := after
      exact .aside (here.modifySocket ws _) (unentered _ (by simp) (by simp)) (by simp)
  | dialTimer =>
      simp only [ConnectionOptions.step] at after
      split at after
      · simp only [Option.ite_none_right_eq_some, Option.some.injEq] at after
        obtain ⟨_, rfl⟩ := after
        exact .aside (here.giveUpDial _ _) (unentered _ (by simp) (by simp)) (by simp)
      · contradiction
  | handshakeTimer =>
      simp only [ConnectionOptions.step] at after
      split at after
      · simp only [Option.ite_none_right_eq_some, Option.some.injEq] at after
        obtain ⟨_, rfl⟩ := after
        exact .aside (here.enter _) (unentered _ (by simp) (by simp)) (by simp)
      · contradiction
  | sleepTimer =>
      simp only [ConnectionOptions.step] at after
      split at after
      · simp only [Option.ite_none_right_eq_some, Option.some.injEq] at after
        obtain ⟨_, rfl⟩ := after
        exact .aside (here.wake _) (unentered _ (by simp) (by simp)) (by simp)
      · contradiction
  | resume =>
      have earlier : (∀ due, s.phase ≠ .handshaking due) → ¬EntersServe opts s .resume := by
        rintro past (_ | ⟨handshaking⟩)
        exact past _ handshaking
      simp only [ConnectionOptions.step, ConnectionOptions.resume] at after
      split at after
      · rename_i looping
        obtain rfl := Option.some.inj after
        split
        · exact .aside (here.enter _) (earlier (by simp [looping])) (by simp)
        · rename_i going
          exact .started rfl looping (Bool.eq_false_iff.mpr going) rfl
      · rename_i dialed
        obtain rfl := Option.some.inj after
        exact .aside (here.beginHandshake opts) (earlier (by simp [dialed])) (by simp)
      · rename_i due handshaking
        split at after
        · contradiction
        · rename_i answer answered
          obtain rfl := Option.some.inj after
          obtain ⟨socket, current, answered⟩ := Option.bind_eq_some_iff.mp answered
          have failed : (∀ raw result, answer = .ok raw →
              readWelcome opts.crypto opts.wire opts.identity raw = .ok result →
              result.brokerPubkey ≠ "") → ¬EntersServe opts s .resume := by
            rintro refused (_ | ⟨_, current', answered', read, unnamed⟩)
            obtain rfl := Option.some.inj (current.symm.trans current')
            obtain rfl := Option.some.inj (answered.symm.trans answered')
            exact refused _ _ rfl read unnamed
          unfold ConnectionOptions.endHandshake
          split
          · exact .aside (here.enter _) (failed (by simp)) (by simp)
          · rename_i raw
            split
            · rename_i err read
              refine .aside (here.enter _) (failed fun raw' result equal read' => ?_) (by simp)
              obtain rfl := Except.ok.inj equal
              rw [read] at read'
              contradiction
            · rename_i result read
              split
              · rename_i unnamed
                exact .connected (.keyless handshaking current answered read unnamed) rfl
              · rename_i named
                refine .aside (here.enter _) (failed fun raw' result' equal read' => ?_) (by simp)
                obtain rfl := Except.ok.inj equal
                obtain rfl := Except.ok.inj (read.symm.trans read')
                exact named
      · rename_i outcome unwinding
        obtain rfl := Option.some.inj after
        exact .aside (here.unwind _) (earlier (by simp [unwinding])) (by simp)
      · contradiction
  | persisted rejection =>
      simp only [ConnectionOptions.step] at after
      split at after
      · rename_i result persisting
        cases rejection with
        | none =>
            obtain rfl := Option.some.inj after
            exact .connected (.announced persisting) rfl
        | some message =>
            simp only [Option.ite_none_right_eq_some, Option.some.injEq] at after
            obtain ⟨_, rfl⟩ := after
            exact .aside (here.enter _) (unentered _ (by simp) (by simp)) (by simp)
      · contradiction
  | backOff draw =>
      simp only [ConnectionOptions.step] at after
      split at after
      · rename_i outcome ended
        simp only [Option.ite_none_right_eq_some, Option.some.injEq] at after
        obtain ⟨drawn, rfl⟩ := after
        exact .backedOff ended drawn rfl rfl
      · contradiction
  | dispatched index response =>
      simp only [ConnectionOptions.step] at after
      split at after
      · contradiction
      · obtain rfl := Option.some.inj after
        exact .aside ((Aside.refl _).handleDispatched opts _ _ _) (unentered _ (by simp) (by simp))
          (by simp)
  | abort =>
      obtain rfl := Option.some.inj after
      exact .aside here.abort (unentered _ (by simp) (by simp)) (by simp)
  | tick ms =>
      obtain rfl := Option.some.inj after
      exact .ticked rfl rfl

end DicodeRelay.Client
