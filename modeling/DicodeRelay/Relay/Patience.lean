import DicodeRelay.Relay.Keepalive

/-!
Contract: whom the keepalive spares.

Owns:
- what a daemon that answers every ping in time is owed;
- that every running pong timer belongs to a ping that no pong has followed;
- that such a daemon is spared in every run without overlapping pings, and the
  timeouts under which it is spared in every run.

Does not own: whether the network delivers pongs in time.
-/

namespace DicodeRelay.Relay

open DicodeRelay.Lib DicodeRelay.Shared

/-! ### What a daemon is owed -/

/-- Each ping on the socket is followed by a pong that arrives less than
`pongTimeoutMs` after it. -/
def Prompt (server : RelayServer) (ws : ConnId) (events : List Event) : Prop :=
  ∀ sent s e s', server.machine.StepAt events sent s e s' → Pings s e ws →
    ∀ later t f t', server.machine.StepAt events later t f t' → sent.length < later.length →
      s.now + server.pongTimeoutMs ≤ t.now →
      ∃ answered u u', server.machine.StepAt events answered u (.pong ws) u' ∧
        sent.length < answered.length ∧ answered.length < later.length ∧
        u.now < s.now + server.pongTimeoutMs

/-- The events in which the keepalive runs. -/
def Event.isKeepalive : Event → Prop
  | .pingTimer _ | .pongTimer _ | .pong _ => True
  | _ => False

/-- No keepalive event of the run terminates the socket. -/
def Spared (server : RelayServer) (ws : ConnId) (events : List Event) : Prop :=
  ∀ earlier s e s', server.machine.StepAt events earlier s e s' → e.isKeepalive →
    .terminate ws ∉ s'.log.drop s.log.length

/-! ### Running timers -/

/-- Every running pong timer of the socket was started by a ping that no pong
has followed. -/
def Outstanding (server : RelayServer) (ws : ConnId) (events : List Event) (s : State) : Prop :=
  ∀ timer due, s.pongTimers.get timer = some ⟨due, ws⟩ →
    ∃ sent t e t', server.machine.StepAt events sent t e t' ∧ Pings t e ws ∧
      due = t.now + timerDelay server.pongTimeoutMs ∧
      ∀ answered u u', server.machine.StepAt events answered u (.pong ws) u' →
        answered.length ≤ sent.length

/-- A pong timer that runs after an event ran before it, or the event is the
ping that started it. -/
theorem RelayServer.pongTimer_step {server : RelayServer} {ws : ConnId} {s s' : State} {e : Event}
    (after : server.step s e = some s') {timer due : Nat}
    (armed : s'.pongTimers.get timer = some ⟨due, ws⟩) :
    s.pongTimers.get timer = some ⟨due, ws⟩ ∨
      (Pings s e ws ∧ due = s.now + timerDelay server.pongTimeoutMs) := by
  cases server.socketMove_of_step after with
  | @accepted other peerCert =>
      exact Or.inl ((Sinks.handleConnection server s other peerCert).pongTimers timer _ armed)
  | @pinged ping late other armedPing _ opened =>
      have timers := State.timers_modifyConn (State.startPongTimer ((s.repeatPingTimer
        server.pingIntervalMs ping).emit (.ping other)) server.pongTimeoutMs other) other
        fun conn => { conn with pongTimer := some s.pongTimers.next }
      rw [pinged, timers.2] at armed
      simp only [State.startPongTimer, Timers.get_start] at armed
      split at armed
      · cases armed
        exact Or.inr ⟨⟨ping, late, rfl, armedPing, opened⟩, rfl⟩
      · exact Or.inl armed
  | sinks sinks => exact Or.inl (sinks.pongTimers timer _ armed)

theorem RelayServer.late_of_pingTimer {server : RelayServer} {s s' : State} {timer due : Nat}
    {ws : ConnId} (after : server.step s (.pingTimer timer) = some s')
    (armed : s.pingTimers.get timer = some ⟨due, ws⟩) : due ≤ s.now := by
  simp only [step, Option.map_eq_some_iff] at after
  obtain ⟨other, fires, _⟩ := after
  obtain ⟨time, found, late⟩ := State.dueTimer_late fires
  rw [armed] at found
  cases found
  exact late

theorem Outstanding.step {server : RelayServer} {ws : ConnId} {events : List Event}
    {s s' : State} {e : Event} (outstanding : Outstanding server ws events s)
    (tidy : s.Tidy server ws) (before : server.machine.run events = some s)
    (after : server.step s e = some s') : Outstanding server ws (events ++ [e]) s' := by
  intro timer due armed
  rcases server.pongTimer_step after armed with running | ⟨pings, started⟩
  · obtain ⟨sent, t, f, t', step, pings, started, unanswered⟩ := outstanding timer due running
    refine ⟨sent, t, f, t', step.extend, pings, started, ?_⟩
    intro answered u u' pong
    rcases pong.concat_inv with inside | ⟨rfl, rfl⟩
    · exact unanswered answered u u' inside
    · exact absurd armed (RelayServer.unarmed_of_pong tidy after timer due)
  · refine ⟨events, s, e, s', Machine.stepAt_last before after, pings, started, ?_⟩
    intro answered u u' pong
    exact pong.length_le

/-! ### Runs without overlapping pings -/

theorem RelayServer.tidy_run {server : RelayServer} {ws : ConnId} {events : List Event}
    {s : State} (ran : server.machine.run events = some s)
    (apart : server.machine.Meets (NoOverlap ws) events) :
    s.Tidy server ws ∧ Outstanding server ws events s := by
  refine Machine.run_invariant_of_meets
    (P := fun events s => s.Tidy server ws ∧ Outstanding server ws events s) ?_ ?_ ran apart
  · refine ⟨State.Tidy.of_unarmed ?_ ?_ ?_ ?_, ?_⟩ <;> intro _ <;>
      simp [machine, State.init, State.keepalive]
  · rintro events s e s' before ⟨tidy, outstanding⟩ condition after
    exact ⟨RelayServer.tidy_step tidy condition after, outstanding.step tidy before after⟩

/-! ### What the keepalive logs -/

theorem State.log_cleanup (s : State) (ws : ConnId) :
    ∃ more, (s.cleanup ws).log = s.log ++ more ∧ ∀ other, .terminate other ∉ more := by
  have cleared : ∀ conn, (s.clearKeepalive conn).log = s.log := by
    intro conn
    unfold State.clearKeepalive
    cases conn.pingTimer <;> cases conn.pongTimer <;> rfl
  unfold State.cleanup
  split
  · exact ⟨[], by simp, by simp⟩
  · rename_i conn _
    rw [State.log_modifyConn]
    unfold State.deregister
    split
    · exact ⟨[], by simp [cleared], by simp⟩
    · rename_i uuid _
      split
      · exact ⟨[], by simp [cleared], by simp⟩
      · split
        · exact ⟨[.clientDisconnected uuid], by simp [State.dropClient, State.emit, cleared],
            by simp⟩
        · exact ⟨[], by simp [cleared], by simp⟩

theorem State.log_handlePong (s : State) (ws : ConnId) : (s.handlePong ws).log = s.log := by
  unfold State.handlePong
  split
  · rfl
  · rw [State.log_modifyConn]
    rfl

/-- A pong timeout terminates its socket and no other. -/
theorem State.log_pongTimeout (s : State) (timer : Nat) (ws : ConnId) :
    ∃ more, ((s.clearPongTimer timer).pongTimeout ws).log = s.log ++ .terminate ws :: more ∧
      ∀ other, .terminate other ∉ more := by
  obtain ⟨more, log, quiet⟩ := State.log_cleanup ((s.clearPongTimer timer).terminate ws) ws
  have logged : ((s.clearPongTimer timer).terminate ws).log = s.log ++ [.terminate ws] := by
    rw [Sinks.terminate_eq]
    exact congrArg (· ++ [_]) (State.log_modifyConn _ _ _)
  refine ⟨more, ?_, quiet⟩
  rw [State.pongTimeout, log, logged, List.append_assoc]
  rfl

/-- A keepalive event terminates a socket only as one of its pong timers. -/
theorem RelayServer.pongTimer_of_terminate {server : RelayServer} {ws : ConnId} {s s' : State}
    {e : Event} (after : server.step s e = some s') (keepalive : e.isKeepalive)
    (terminated : .terminate ws ∈ s'.log.drop s.log.length) :
    ∃ timer due, s.pongTimers.get timer = some ⟨due, ws⟩ ∧ due ≤ s.now := by
  cases stepCase_of_step after with
  | ignored =>
      rw [List.drop_length] at terminated
      contradiction
  | ponged =>
      rw [State.log_handlePong, List.drop_length] at terminated
      contradiction
  | @pinged timer _ other =>
      unfold pingInterval at terminated
      split at terminated
      · obtain ⟨more, log, quiet⟩ := State.log_cleanup
          (s.repeatPingTimer server.pingIntervalMs timer) other
        rw [log, show (s.repeatPingTimer server.pingIntervalMs timer).log = s.log from rfl,
          List.drop_left] at terminated
        exact absurd terminated (quiet ws)
      · rw [State.log_modifyConn] at terminated
        have pinged : .terminate ws ∈ (s.log ++ [Effect.ping other]).drop s.log.length := terminated
        rw [List.drop_left, List.mem_singleton] at pinged
        contradiction
  | @pongMissed timer due other armed late =>
      obtain ⟨more, log, quiet⟩ := s.log_pongTimeout timer other
      rw [log, List.drop_left] at terminated
      rcases List.mem_cons.mp terminated with same | inMore
      · cases same
        exact ⟨timer, due, armed, late⟩
      · exact absurd inMore (quiet ws)
  | _ => exact keepalive.elim

/-! ### Daemons that answer in time -/

/-- A running pong timer of such a daemon is not due. -/
theorem Prompt.running {server : RelayServer} {ws : ConnId} {events earlier : List Event}
    {s s' : State} {e : Event} (prompt : Prompt server ws events)
    (positive : 0 < server.pongTimeoutMs) (inRange : server.pongTimeoutMs ≤ 2147483647)
    (step : server.machine.StepAt events earlier s e s')
    (outstanding : Outstanding server ws earlier s) {timer due : Nat}
    (armed : s.pongTimers.get timer = some ⟨due, ws⟩) : s.now < due := by
  obtain ⟨sent, t, f, t', ping, pings, started, unanswered⟩ := outstanding timer due armed
  have pingOfAll : server.machine.StepAt events sent t f t' := by
    obtain ⟨later, rfl⟩ := step.split
    exact ping.extend
  rw [timerDelay, if_pos ⟨by omega, inRange⟩] at started
  by_contra notRunning
  have overdue : t.now + server.pongTimeoutMs ≤ s.now := by omega
  obtain ⟨answered, u, u', pong, afterPing, beforeTimeout, _⟩ :=
    prompt sent t f t' pingOfAll pings earlier s e s' step ping.length_lt overdue
  have notLater := unanswered answered u u' (pong.before_of_length_lt step beforeTimeout)
  omega

/-- A daemon that answers in time is spared if no pings overlap. -/
theorem Prompt.spared {server : RelayServer} {ws : ConnId} {events : List Event}
    (prompt : Prompt server ws events) (positive : 0 < server.pongTimeoutMs)
    (inRange : server.pongTimeoutMs ≤ 2147483647)
    (apart : server.machine.Meets (NoOverlap ws) events) : Spared server ws events := by
  intro earlier s e s' step keepalive terminated
  obtain ⟨timer, due, armed, late⟩ := RelayServer.pongTimer_of_terminate step.after keepalive
    terminated
  have meets : server.machine.Meets (NoOverlap ws) earlier := by
    obtain ⟨later, rfl⟩ := step.split
    exact apart.of_append
  have outstanding := (RelayServer.tidy_run step.before meets).2
  have running := prompt.running positive inRange step outstanding armed
  omega

/-- Its pings do not overlap if a pong timer never outlasts the ping interval. -/
theorem Prompt.noOverlap {server : RelayServer} {ws : ConnId} {events : List Event}
    (prompt : Prompt server ws events) (positive : 0 < server.pongTimeoutMs)
    (inRange : server.pongTimeoutMs ≤ 2147483647)
    (shorter : server.pongTimeoutMs ≤ timerDelay server.pingIntervalMs) :
    server.machine.Meets (NoOverlap ws) events := by
  intro earlier
  induction length : earlier.length using Nat.strong_induction_on generalizing earlier with
  | _ n inductionHypothesis =>
      intro s e s' step pings timer due armed
      have meets : server.machine.Meets (NoOverlap ws) earlier := by
        intro first t f t' inside
        have ofAll : server.machine.StepAt events first t f t' := by
          obtain ⟨later, rfl⟩ := step.split
          exact inside.extend
        exact inductionHypothesis first.length (length ▸ inside.length_lt) first rfl t f t' ofAll
      obtain ⟨tidy, outstanding⟩ := RelayServer.tidy_run step.before meets
      have running := prompt.running positive inRange step outstanding armed
      obtain ⟨ping, next, rfl, armedPing, _⟩ := pings
      have spaced := tidy.spaced timer due ping next armed armedPing
      have late := RelayServer.late_of_pingTimer step.after armedPing
      rw [timerDelay.eq_1 server.pongTimeoutMs, if_pos ⟨by omega, inRange⟩] at spaced
      omega

end DicodeRelay.Relay
