import DicodeRelay.Relay.Patience

/-!
Contract: when the keepalive kills a daemon that answers in time.

Owns:
- what the events of a keepalive do to a socket that is registered and open;
- the runs in which the timer of a ping outlives the pong for it;
- the timeouts under which the keepalive spares every daemon that answers in time.

Does not own: daemons that answer late.
-/

namespace DicodeRelay.Relay

open DicodeRelay.Lib DicodeRelay.Shared

/-! ### A beating socket -/

/-- The first socket is open and admitted, its ping interval is due at `due`,
and its closure holds `pongTimer`. -/
structure State.Beating (s : State) (due : Nat) (pongTimer : Option Nat) : Prop where
  admitted : ∃ conn certPoint, s.Admitted 0 conn certPoint ∧ conn.readyState = .opened ∧
    conn.closeEmitted = false ∧ conn.pongTimer = pongTimer
  interval : s.pingTimers.get 0 = some ⟨due, 0⟩

namespace State.Beating

variable {s : State} {due : Nat} {pongTimer : Option Nat}

theorem opened (beating : s.Beating due pongTimer) : s.readyState 0 = .opened := by
  obtain ⟨conn, _, ⟨found, _⟩, opened, _⟩ := beating.admitted
  rw [State.readyState, found]
  exact opened

theorem pings (beating : s.Beating due pongTimer) : Pings s (.pingTimer 0) 0 :=
  ⟨0, due, rfl, beating.interval, beating.opened⟩

theorem tick (server : RelayServer) (beating : s.Beating due pongTimer) (ms : Nat) :
    ∃ t, server.step s (.tick ms) = some t ∧ t.Beating due pongTimer ∧ t.now = s.now + ms ∧
      t.pongTimers = s.pongTimers :=
  ⟨_, rfl, ⟨beating.admitted, beating.interval⟩, rfl, rfl⟩

/-- A ping starts a pong timer and forgets the previous one. -/
theorem ping (server : RelayServer) (beating : s.Beating due pongTimer) (late : due ≤ s.now) :
    ∃ t, server.step s (.pingTimer 0) = some t ∧
      t.Beating (s.now + timerDelay server.pingIntervalMs) (some s.pongTimers.next) ∧
      t.now = s.now ∧
      t.pongTimers = s.pongTimers.start (s.now + timerDelay server.pongTimeoutMs) 0 := by
  obtain ⟨conn, certPoint, ⟨found, certified⟩, opened, notEmitted, _⟩ := beating.admitted
  have fires : server.step s (.pingTimer 0) = some (server.pinged s 0 0) := by
    have still : (s.repeatPingTimer server.pingIntervalMs 0).readyState 0 = .opened :=
      beating.opened
    simp only [RelayServer.step, State.dueTimer, beating.interval, if_pos late, Option.map_some,
      RelayServer.pingInterval, still]
    rfl
  have after : (server.pinged s 0 0).conns.get 0 =
      some { conn with pongTimer := some s.pongTimers.next } := by
    simp [RelayServer.pinged, State.modifyConn, State.startPongTimer, State.emit,
      State.repeatPingTimer, found]
  have timers := State.timers_modifyConn (State.startPongTimer ((s.repeatPingTimer
    server.pingIntervalMs 0).emit (.ping 0)) server.pongTimeoutMs 0) 0
    fun conn => { conn with pongTimer := some s.pongTimers.next }
  refine ⟨_, fires, ⟨⟨_, certPoint, ⟨after, certified⟩, opened, notEmitted, rfl⟩, ?_⟩, ?_, ?_⟩
  · rw [RelayServer.pinged, timers.1]
    simp only [State.startPongTimer, State.emit, State.repeatPingTimer, Timers.get_reschedule,
      if_true, beating.interval]
    rfl
  · simp [RelayServer.pinged, State.modifyConn, State.startPongTimer, State.emit,
      State.repeatPingTimer, found]
  · rw [RelayServer.pinged, timers.2]
    rfl

/-- A pong stops the timer of the latest ping. -/
theorem pong (server : RelayServer) {timer : Nat} (beating : s.Beating due (some timer)) :
    ∃ t, server.step s (.pong 0) = some t ∧ t.Beating due none ∧ t.now = s.now ∧
      t.pongTimers = s.pongTimers.clear timer := by
  obtain ⟨conn, certPoint, ⟨found, certified⟩, opened, notEmitted, holds⟩ := beating.admitted
  have fires : server.step s (.pong 0) = some (s.handlePong 0) := by
    simp [RelayServer.step, State.live, State.whenAdmitted, found, notEmitted, certified]
  refine ⟨_, fires, ⟨⟨{ conn with pongTimer := none }, certPoint, ⟨?_, certified⟩, opened,
    notEmitted, rfl⟩, ?_⟩, ?_, ?_⟩
  all_goals
    simp [State.handlePong, State.modifyConn, State.clearPongTimer, found, holds, beating.interval]

end State.Beating

/-- A pong timer that is due terminates its socket. -/
theorem RelayServer.killed {server : RelayServer} {s : State} {timer due : Nat} {ws : ConnId}
    (armed : s.pongTimers.get timer = some ⟨due, ws⟩) (late : due ≤ s.now) :
    ∃ t, server.step s (.pongTimer timer) = some t ∧
      .terminate ws ∈ t.log.drop s.log.length := by
  refine ⟨(s.clearPongTimer timer).pongTimeout ws, ?_, ?_⟩
  · simp [step, State.dueTimer, armed, late]
  · obtain ⟨more, log, _⟩ := s.log_pongTimeout timer ws
    rw [log, List.drop_left]
    exact List.mem_cons_self

/-- The connection and the hello of the first client. -/
def arrival (peerCert : Option PeerCertificate) (frame : String) : List Event :=
  [.connection 0 peerCert, .message 0 frame]

/-- Once registered, its socket beats. -/
theorem RelayServer.beating_arrival {server : RelayServer} {peerCert : Option PeerCertificate}
    {frame : String} (registers : Registers server peerCert frame) :
    ∃ s, server.machine.run (arrival peerCert frame) = some s ∧
      s.Beating (timerDelay server.pingIntervalMs) none ∧ s.now = 0 ∧ s.pongTimers = .empty := by
  obtain ⟨certPoint, hello, certified, decoded, valid⟩ := registers
  obtain ⟨cert, rfl, presented⟩ := Option.bind_eq_some_iff.mp certified
  have fresh : State.init.conns.get 0 = none := rfl
  have ran := server.admits fresh rfl presented decoded valid
  refine ⟨_, ran, ⟨⟨{ Conn.accepted (some cert) with
    registeredUuid := some (server.crypto.uuidFromP256Point certPoint)
    pingTimer := some 0 }, certPoint, ⟨?_, certified⟩, rfl, rfl, rfl⟩, ?_⟩, ?_, ?_⟩
  all_goals
    simp [register, State.evictPrevious, State.accept, State.init, State.putClient,
      State.modifyConn, sendServerMessage, State.readyState, State.emit, startKeepalive,
      State.startPingTimer, Conn.accepted, Timers.get_start, Timers.empty]

/-! ### Promises kept so far -/

/-- The daemon has been prompt so far, and every ping on the first socket stands
in `sent`, with its position in the run and its time. -/
structure Kept (server : RelayServer) (sent : List (Nat × Nat)) (events : List Event) (s : State) :
    Prop where
  ran : server.machine.run events = some s
  prompt : Prompt server 0 events
  listed : ∀ earlier t e t', server.machine.StepAt events earlier t e t' → Pings t e 0 →
    (earlier.length, t.now) ∈ sent

theorem Kept.of_no_ping {server : RelayServer} {events : List Event} {s : State}
    (ran : server.machine.run events = some s)
    (noPing : ∀ e ∈ events, ∀ timer, e ≠ .pingTimer timer) (sent : List (Nat × Nat)) :
    Kept server sent events s := by
  have none : ∀ earlier t e t', server.machine.StepAt events earlier t e t' → ¬ Pings t e 0 := by
    rintro earlier t e t' ⟨⟨later, rfl⟩, _, _⟩ ⟨timer, _, isPing, _⟩
    exact noPing e (by simp) timer isPing
  refine ⟨ran, ?_, ?_⟩
  · intro earlier t e t' step pings
    exact absurd pings (none earlier t e t' step)
  · intro earlier t e t' step pings
    exact absurd pings (none earlier t e t' step)

/-- One more event, by which every overdue ping has been answered. -/
theorem Kept.step {server : RelayServer} {sent : List (Nat × Nat)} {events : List Event}
    {s s' : State} {e : Event} (kept : Kept server sent events s)
    (after : server.step s e = some s')
    (listed : Pings s e 0 → (events.length, s.now) ∈ sent)
    (inTime : ∀ position time, (position, time) ∈ sent →
      time + server.pongTimeoutMs ≤ s.now →
      ∃ answered u u', server.machine.StepAt events answered u (.pong 0) u' ∧
        position < answered.length ∧ u.now < time + server.pongTimeoutMs) :
    Kept server sent (events ++ [e]) s' := by
  refine ⟨Machine.run_concat_of kept.ran after, ?_, ?_⟩
  · intro position t f t' ping pings later u g u' laterStep longer overdue
    have pingBefore : server.machine.StepAt events position t f t' := by
      rcases ping.concat_inv with inside | ⟨rfl, rfl⟩
      · exact inside
      · have bounded := laterStep.length_le
        omega
    rcases laterStep.concat_inv with inside | ⟨rfl, rfl⟩
    · obtain ⟨answered, v, v', pong, rest⟩ :=
        kept.prompt position t f t' pingBefore pings later u g u' inside longer overdue
      exact ⟨answered, v, v', pong.extend, rest⟩
    · obtain rfl := Option.some.inj (kept.ran.symm.trans laterStep.before)
      have inSent := kept.listed position t f t' pingBefore pings
      obtain ⟨answered, v, v', pong, afterPing, soon⟩ := inTime _ _ inSent overdue
      exact ⟨answered, v, v', pong.extend, afterPing, pong.length_lt, soon⟩
  · intro earlier t f t' step pings
    rcases step.concat_inv with inside | ⟨rfl, rfl⟩
    · exact kept.listed earlier t f t' inside pings
    · obtain rfl := Option.some.inj (kept.ran.symm.trans step.before)
      exact listed pings

/-- A prompt daemon whose pong timer is due is killed all the same. -/
theorem Kept.killed {server : RelayServer} {sent : List (Nat × Nat)} {events : List Event}
    {s : State} (kept : Kept server sent events s) {timer due : Nat}
    (armed : s.pongTimers.get timer = some ⟨due, 0⟩) (late : due ≤ s.now)
    (inTime : ∀ position time, (position, time) ∈ sent →
      time + server.pongTimeoutMs ≤ s.now →
      ∃ answered u u', server.machine.StepAt events answered u (.pong 0) u' ∧
        position < answered.length ∧ u.now < time + server.pongTimeoutMs) :
    (server.machine.run (events ++ [.pongTimer timer])).isSome = true ∧
      Prompt server 0 (events ++ [.pongTimer timer]) ∧
      ¬ Spared server 0 (events ++ [.pongTimer timer]) := by
  obtain ⟨t, after, terminated⟩ := RelayServer.killed armed late
  have whole := kept.step after (by rintro ⟨_, _, isPing, _⟩; contradiction) inTime
  refine ⟨by rw [whole.ran]; rfl, whole.prompt, ?_⟩
  intro spared
  exact spared _ _ _ _ (Machine.stepAt_last kept.ran after) trivial terminated

/-! ### Two ways to be killed -/

/-- A pong timeout that is out of range fires after a millisecond. -/
def hasty (peerCert : Option PeerCertificate) (frame : String) (interval : Nat) : List Event :=
  arrival peerCert frame ++ [.tick interval] ++ [.pingTimer 0] ++ [.tick 1] ++ [.pongTimer 0]

/-- The second ping is sent before the first pong, which stops the timer of the
second ping; the timer of the first one runs on. -/
def overlapping (peerCert : Option PeerCertificate) (frame : String) (interval timeout : Nat) :
    List Event :=
  arrival peerCert frame ++ [.tick interval] ++ [.pingTimer 0] ++ [.tick interval] ++
    [.pingTimer 0] ++ [.pong 0] ++ [.tick (timeout - interval)] ++ [.pongTimer 0]

theorem RelayServer.killed_hasty {server : RelayServer} {peerCert : Option PeerCertificate}
    {frame : String} (registers : Registers server peerCert frame)
    (outOfRange : 2147483647 < server.pongTimeoutMs) :
    let events := hasty peerCert frame (timerDelay server.pingIntervalMs)
    (server.machine.run events).isSome = true ∧ Prompt server 0 events ∧
      ¬ Spared server 0 events := by
  obtain ⟨s₀, ran, beating, atZero, noTimers⟩ := server.beating_arrival registers
  have positive := timerDelay_pos server.pingIntervalMs
  have afterOne : timerDelay server.pongTimeoutMs = 1 := if_neg (by omega)
  have kept := Kept.of_no_ping ran (by simp [arrival]) [(3, timerDelay server.pingIntervalMs)]
  obtain ⟨s₁, ticked, beating, now₁, timers₁⟩ :=
    beating.tick server (timerDelay server.pingIntervalMs)
  have kept := kept.step ticked (by rintro ⟨_, _, isPing, _⟩; contradiction)
    (by simp only [List.mem_singleton, Prod.mk.injEq]; omega)
  obtain ⟨s₂, pinged, beating, now₂, timers₂⟩ := beating.ping server (by omega)
  have kept := kept.step pinged (fun _ => by simp [arrival, now₁, atZero])
    (by simp only [List.mem_singleton, Prod.mk.injEq]; omega)
  obtain ⟨s₃, ticked, beating, now₃, timers₃⟩ := beating.tick server 1
  have kept := kept.step ticked (by rintro ⟨_, _, isPing, _⟩; contradiction)
    (by simp only [List.mem_singleton, Prod.mk.injEq]; omega)
  have armed : s₃.pongTimers.get 0 = some ⟨timerDelay server.pingIntervalMs + 1, 0⟩ := by
    simp [timers₃, timers₂, timers₁, noTimers, Timers.get_start, Timers.empty, now₁, atZero,
      afterOne]
  exact kept.killed armed (by omega) (by simp only [List.mem_singleton, Prod.mk.injEq]; omega)

theorem RelayServer.killed_overlapping {server : RelayServer} {peerCert : Option PeerCertificate}
    {frame : String} (registers : Registers server peerCert frame)
    (inRange : server.pongTimeoutMs ≤ 2147483647)
    (longer : timerDelay server.pingIntervalMs < server.pongTimeoutMs) :
    let events := overlapping peerCert frame (timerDelay server.pingIntervalMs)
      server.pongTimeoutMs.toNat
    (server.machine.run events).isSome = true ∧ Prompt server 0 events ∧
      ¬ Spared server 0 events := by
  obtain ⟨s₀, ran, beating, atZero, noTimers⟩ := server.beating_arrival registers
  have positive := timerDelay_pos server.pingIntervalMs
  have exact : timerDelay server.pongTimeoutMs = server.pongTimeoutMs.toNat :=
    if_pos (by omega)
  have kept := Kept.of_no_ping ran (by simp [arrival]) [(3, timerDelay server.pingIntervalMs),
    (5, timerDelay server.pingIntervalMs + timerDelay server.pingIntervalMs)]
  -- Until the timer of the first ping is due no ping is overdue.
  have early : ∀ {s : State} {events : List Event}, s.now < timerDelay server.pingIntervalMs +
      server.pongTimeoutMs → ∀ position time, (position, time) ∈
        [(3, timerDelay server.pingIntervalMs),
          (5, timerDelay server.pingIntervalMs + timerDelay server.pingIntervalMs)] →
      time + server.pongTimeoutMs ≤ s.now →
      ∃ answered u u', server.machine.StepAt events answered u (.pong 0) u' ∧
        position < answered.length ∧ u.now < time + server.pongTimeoutMs := by
    intro s events soon position time member overdue
    simp only [List.mem_cons, Prod.mk.injEq, List.not_mem_nil, or_false] at member
    omega
  obtain ⟨s₁, ticked, beating, now₁, timers₁⟩ :=
    beating.tick server (timerDelay server.pingIntervalMs)
  have kept := kept.step ticked (by rintro ⟨_, _, isPing, _⟩; contradiction) (early (by omega))
  obtain ⟨s₂, pinged, beating, now₂, timers₂⟩ := beating.ping server (by omega)
  have kept := kept.step pinged (fun _ => by simp [arrival, now₁, atZero]) (early (by omega))
  obtain ⟨s₃, ticked, beating, now₃, timers₃⟩ :=
    beating.tick server (timerDelay server.pingIntervalMs)
  have kept := kept.step ticked (by rintro ⟨_, _, isPing, _⟩; contradiction) (early (by omega))
  obtain ⟨s₄, pinged, beating, now₄, timers₄⟩ := beating.ping server (by omega)
  have kept := kept.step pinged (fun _ => by simp [arrival, now₃, now₂, now₁, atZero])
    (early (by omega))
  obtain ⟨s₅, ponged, beating, now₅, timers₅⟩ := beating.pong server
  have pong : server.machine.StepAt _ _ s₄ (.pong 0) s₅ := Machine.stepAt_last kept.ran ponged
  have kept := kept.step ponged (by rintro ⟨_, _, isPing, _⟩; contradiction) (early (by omega))
  obtain ⟨s₆, ticked, beating, now₆, timers₆⟩ := beating.tick server
    (server.pongTimeoutMs.toNat - timerDelay server.pingIntervalMs)
  have kept := kept.step ticked (by rintro ⟨_, _, isPing, _⟩; contradiction) (early (by omega))
  have second : s₃.pongTimers.next = 1 := by
    rw [timers₃, timers₂, timers₁, noTimers]
    rfl
  -- The pong has stopped the second timer, the first one runs on.
  have armed : s₆.pongTimers.get 0 = some ⟨timerDelay server.pingIntervalMs +
      server.pongTimeoutMs.toNat, 0⟩ := by
    rw [timers₆, timers₅, Timers.get_clear, if_neg (by omega), timers₄, Timers.get_start,
      if_neg (by omega), timers₃, timers₂, timers₁, noTimers, Timers.get_start,
      if_pos (show Timers.empty.next = 0 from rfl), now₁, atZero, exact, Nat.zero_add]
  apply kept.killed armed (by omega)
  intro position time member overdue
  refine ⟨_, _, _, pong.extend, ?_, ?_⟩
  · simp only [List.mem_cons, Prod.mk.injEq, List.not_mem_nil, or_false] at member
    simp only [arrival, List.length_append, List.length_cons, List.length_nil]
    omega
  · simp only [List.mem_cons, Prod.mk.injEq, List.not_mem_nil, or_false] at member
    omega

/-! ### Which daemons are spared -/

/-- A daemon that answers every ping in time is spared in every run in which no
ping overlaps the timer of an earlier one, unless the timeout is out of range;
and in every run at all exactly if no pong timer outlasts the ping interval. -/
theorem keepalive_spares_iff (server : RelayServer) {peerCert : Option PeerCertificate}
    {frame : String} (registers : Registers server peerCert frame)
    (positive : 0 < server.pongTimeoutMs) :
    (server.pongTimeoutMs ≤ 2147483647 → ∀ ws events, Prompt server ws events →
      server.machine.Meets (NoOverlap ws) events → Spared server ws events) ∧
    ((∀ ws events, Prompt server ws events → Spared server ws events) ↔
      server.pongTimeoutMs ≤ 2147483647 ∧
        server.pongTimeoutMs ≤ timerDelay server.pingIntervalMs) := by
  constructor
  · intro inRange ws events prompt apart
    exact prompt.spared positive inRange apart
  constructor
  · intro spares
    have inRange : server.pongTimeoutMs ≤ 2147483647 := by
      by_contra outOfRange
      obtain ⟨_, prompt, killed⟩ := RelayServer.killed_hasty registers (by omega)
      exact killed (spares 0 _ prompt)
    refine ⟨inRange, ?_⟩
    by_contra longer
    obtain ⟨_, prompt, killed⟩ := RelayServer.killed_overlapping registers inRange (by omega)
    exact killed (spares 0 _ prompt)
  · rintro ⟨inRange, shorter⟩ ws events prompt
    exact prompt.spared positive inRange (prompt.noOverlap positive inRange shorter)

theorem Sample.registers : Registers Sample.server (Sample.certificate Sample.signPointA)
    (Sample.helloFrame Sample.decryptPointA) :=
  ⟨Sample.signPointA, ⟨base64Encode Sample.decryptPointA⟩, Sample.point_certificateA,
    Sample.decode_helloFrame _, Sample.valid_decryptPointA⟩

theorem keepalive_spares_defaults :
    (∀ ws events, Prompt Sample.server ws events → Spared Sample.server ws events) ↔
      Sample.server.pongTimeoutMs ≤ 2147483647 ∧
        Sample.server.pongTimeoutMs ≤ timerDelay Sample.server.pingIntervalMs :=
  (keepalive_spares_iff Sample.server Sample.registers (by decide)).2

/-- Pings every ten seconds, and twenty seconds to answer each. -/
def Sample.restless : RelayServer :=
  { Sample.server with
    pingIntervalMs := 10000
    pongTimeoutMs := 20000 }

/-- The daemon's pong is under way for ten seconds, and its socket is
terminated. -/
theorem keepalive_kills_prompt :
    let events := overlapping (Sample.certificate Sample.signPointA)
      (Sample.helloFrame Sample.decryptPointA) 10000 20000
    (Sample.restless.machine.run events).isSome = true ∧ Prompt Sample.restless 0 events ∧
      ¬ Spared Sample.restless 0 events :=
  RelayServer.killed_overlapping Sample.registers (by decide) (by decide)

end DicodeRelay.Relay
