import DicodeRelay.Relay.Pending
import DicodeRelay.Relay.Pulse
import DicodeRelay.Relay.Registry

/-!
Contract: how long a silent daemon stays registered.

Owns:
- when the timers of a run fire in time;
- that every registered daemon was heard from, by its hello or a pong, within one
  ping interval and one pong timeout.

Does not own: what daemons that answer are owed.
-/

namespace DicodeRelay.Relay

open DicodeRelay.Lib DicodeRelay.Shared

/-- The clock does not pass an armed timer by more than `lag`. -/
def OnTime (lag : Nat) (s : State) (e : Event) : Prop :=
  ∀ ms, e = .tick ms → s.pingTimers.Punctual (s.now + ms) lag ∧
    s.pongTimers.Punctual (s.now + ms) lag ∧ s.requestTimers.Punctual (s.now + ms) lag

/-- The socket gives a sign of life: a hello that the server accepts, or a pong. -/
def Heard (server : RelayServer) (ws : ConnId) (s : State) (e : Event) : Prop :=
  e = .pong ws ∨ ∃ certPoint hello, HelloAccepted server s e ws certPoint hello

/-! ### Timers in time -/

/-- The keepalive's timers fire in time, and a ping interval is not put off for longer
than one interval. -/
structure Pulse.Punctual (server : RelayServer) (lag : Nat) (p : Pulse) : Prop where
  pings : p.pingTimers.Punctual p.now lag
  pongs : p.pongTimers.Punctual p.now lag
  soon : ∀ timer t, p.pingTimers.get timer = some t →
    t.due ≤ p.now + timerDelay server.pingIntervalMs

namespace Pulse.Punctual

variable {server : RelayServer} {lag : Nat} {p : Pulse}

theorem clearPong (punctual : p.Punctual server lag) (timer : Option Nat) :
    (p.clearPong timer).Punctual server lag where
  pings := punctual.pings
  pongs := by
    cases timer with
    | none => exact punctual.pongs
    | some timer => exact punctual.pongs.clear timer
  soon := punctual.soon

theorem clearPing (punctual : p.Punctual server lag) (timer : Option Nat) :
    (p.clearPing timer).Punctual server lag where
  pings := by
    cases timer with
    | none => exact punctual.pings
    | some timer => exact punctual.pings.clear timer
  pongs := punctual.pongs
  soon handle t armed := by
    cases timer with
    | none => exact punctual.soon handle t armed
    | some timer =>
        have cleared := p.pingTimers.get_clear timer handle
        rw [show (p.clearPing (some timer)).pingTimers.get handle = _ from cleared] at armed
        split at armed
        · contradiction
        · exact punctual.soon handle t armed

theorem cleanup (punctual : p.Punctual server lag) (ws : ConnId) :
    (p.cleanup ws).Punctual server lag := by
  unfold Pulse.cleanup
  split
  · exact punctual
  · rename_i k _
    have cleared := (punctual.clearPing k.pingTimer).clearPong k.pongTimer
    exact ⟨cleared.pings, cleared.pongs, cleared.soon⟩

theorem putOff (punctual : p.Punctual server lag) (timer : Nat) :
    (p.putOff timer (p.now + timerDelay server.pingIntervalMs)).Punctual server lag where
  pings := punctual.pings.reschedule timer (Nat.le_add_right _ _)
  pongs := punctual.pongs
  soon handle t armed := by
    have later := p.pingTimers.get_reschedule timer (p.now + timerDelay server.pingIntervalMs)
      handle
    rw [show (p.putOff timer _).pingTimers.get handle = _ from later] at armed
    split at armed
    · obtain ⟨earlier, _, rfl⟩ := Option.map_eq_some_iff.mp armed
      exact Nat.le_refl _
    · exact punctual.soon handle t armed

theorem ping (punctual : p.Punctual server lag) (ws : ConnId) :
    (p.ping ws (p.now + timerDelay server.pongTimeoutMs)).Punctual server lag where
  pings := punctual.pings
  pongs := punctual.pongs.start (Nat.le_add_right _ _) ws
  soon := punctual.soon

theorem pong (punctual : p.Punctual server lag) (ws : ConnId) :
    (p.pong ws).Punctual server lag := by
  unfold Pulse.pong
  split
  · exact punctual
  · rename_i timer _
    have cleared := punctual.clearPong (some timer)
    exact ⟨cleared.pings, cleared.pongs, cleared.soon⟩

theorem register (punctual : p.Punctual server lag) (ws : ConnId) (uuid : String) :
    (p.register ws uuid (p.now + timerDelay server.pingIntervalMs)).Punctual server lag where
  pings := punctual.pings.start (Nat.le_add_right _ _) ws
  pongs := punctual.pongs
  soon handle t armed := by
    have started := p.pingTimers.get_start (p.now + timerDelay server.pingIntervalMs) ws handle
    rw [show (p.register ws uuid _).pingTimers.get handle = _ from started] at armed
    split at armed
    · obtain rfl := Option.some.inj armed
      exact Nat.le_refl _
    · exact punctual.soon handle t armed

end Pulse.Punctual

theorem PulseMove.punctual {server : RelayServer} {lag : Nat} {s : State} {e : Event} {p : Pulse}
    (move : PulseMove server s e p) (onTime : OnTime lag s e)
    (punctual : s.pulse.Punctual server lag) : p.Punctual server lag := by
  cases move with
  | quiet => exact punctual
  | ticked ms =>
      obtain ⟨pings, pongs, _⟩ := onTime ms rfl
      refine ⟨pings, pongs, fun timer t armed => ?_⟩
      have soon : t.due ≤ s.now + timerDelay server.pingIntervalMs := punctual.soon timer t armed
      dsimp only
      omega
  | accepted => exact ⟨punctual.pings, punctual.pongs, punctual.soon⟩
  | registered => exact punctual.register _ _
  | ponged => exact punctual.pong _
  | left => exact punctual.cleanup _
  | pingLost => exact (punctual.putOff _).cleanup _
  | pinged => exact (punctual.putOff _).ping _
  | pongMissed => exact (punctual.clearPong _).cleanup _

/-! ### What runs out -/

/-- The connection was heard from at `time`: its next ping comes within an interval
of that, or the timer of a ping that did runs. -/
def Pulse.Counting (server : RelayServer) (lag time : Nat) (ws : ConnId) (p : Pulse) : Prop :=
  (∃ timer due, p.pingTimers.get timer = some ⟨due, ws⟩ ∧
      due ≤ time + timerDelay server.pingIntervalMs) ∨
    ∃ timer due, p.pongTimers.get timer = some ⟨due, ws⟩ ∧
      due ≤ time + timerDelay server.pingIntervalMs + lag + timerDelay server.pongTimeoutMs

/-- A timer that is not of the connection survives its cleanup. -/
theorem Pulse.Sound.get_cleanup {p : Pulse} (sound : p.Sound) {ws other : ConnId}
    (different : other ≠ ws) {timer due : Nat} :
    (p.pingTimers.get timer = some ⟨due, other⟩ →
        (p.cleanup ws).pingTimers.get timer = some ⟨due, other⟩) ∧
      (p.pongTimers.get timer = some ⟨due, other⟩ →
        (p.cleanup ws).pongTimers.get timer = some ⟨due, other⟩) := by
  unfold Pulse.cleanup
  split
  · exact ⟨id, id⟩
  · rename_i k found
    refine ⟨fun running => sound.get_clearPing found running different, fun running => ?_⟩
    exact sound.get_clearPong found running different

theorem Pulse.Counting.cleanup {server : RelayServer} {lag time : Nat} {p : Pulse}
    {ws other : ConnId} (counting : p.Counting server lag time other) (sound : p.Sound)
    (different : other ≠ ws) : (p.cleanup ws).Counting server lag time other := by
  rcases counting with ⟨timer, due, running, bound⟩ | ⟨timer, due, running, bound⟩
  · exact Or.inl ⟨timer, due, (sound.get_cleanup different).1 running, bound⟩
  · exact Or.inr ⟨timer, due, (sound.get_cleanup different).2 running, bound⟩

theorem Pulse.Counting.putOff {server : RelayServer} {lag time : Nat} {p : Pulse}
    {ws other : ConnId} (counting : p.Counting server lag time other) {timer due : Nat}
    (armed : p.pingTimers.get timer = some ⟨due, ws⟩) (different : other ≠ ws) (next : Nat) :
    (p.putOff timer next).Counting server lag time other := by
  refine counting.imp_left ?_
  rintro ⟨handle, at', running, bound⟩
  have apart : timer ≠ handle := by
    rintro rfl
    rw [running] at armed
    cases armed
    exact different rfl
  exact ⟨handle, at', (p.pingTimers.get_reschedule _ _ _).trans ((if_neg apart).trans running),
    bound⟩

/-- The timers of a connection that stays where it is are not cleared with a pong
timer of another. -/
theorem Pulse.Counting.clearPong {server : RelayServer} {lag time : Nat} {p : Pulse}
    {ws : ConnId} (counting : p.Counting server lag time ws) {timer : Nat}
    (foreign : ∀ due, p.pongTimers.get timer ≠ some ⟨due, ws⟩) :
    (p.clearPong (some timer)).Counting server lag time ws := by
  refine counting.imp_right ?_
  rintro ⟨handle, due, running, bound⟩
  have apart : timer ≠ handle := by
    rintro rfl
    exact foreign due running
  exact ⟨handle, due, (p.pongTimers.get_clear _ _).trans ((if_neg apart).trans running), bound⟩

/-- A registered connection counts from now. -/
theorem Pulse.Sound.counting_now {server : RelayServer} {lag : Nat} {p : Pulse} (sound : p.Sound)
    (punctual : p.Punctual server lag) {ws : ConnId} {k : Keepalive}
    (found : p.closure ws = some k) (registered : k.registeredUuid ≠ none) :
    p.Counting server lag p.now ws := by
  have pinging : k.pingTimer ≠ none :=
    fun none => registered ((sound.registered ws k found).mp none)
  obtain ⟨timer, holds⟩ := Option.ne_none_iff_exists'.mp pinging
  obtain ⟨due, running⟩ := sound.armed ws k timer found holds
  exact Or.inl ⟨timer, due, running, punctual.soon timer _ running⟩

/-- A ping that is sent in time starts a pong timer in time. -/
theorem Pulse.Counting.pinged {server : RelayServer} {lag time : Nat} {p : Pulse}
    (sound : p.Sound) (punctual : p.Punctual server lag) {ws other : ConnId}
    (counting : p.Counting server lag time other) {timer due : Nat}
    (armed : p.pingTimers.get timer = some ⟨due, ws⟩) (next : Nat) :
    ((p.putOff timer next).ping ws (p.now + timerDelay server.pongTimeoutMs)).Counting server lag
      time other := by
  have started : ∀ handle, ((p.putOff timer next).ping ws
      (p.now + timerDelay server.pongTimeoutMs)).pongTimers.get handle =
        if p.pongTimers.next = handle then some ⟨p.now + timerDelay server.pongTimeoutMs, ws⟩
        else p.pongTimers.get handle :=
    p.pongTimers.get_start _ ws
  by_cases own : other = ws
  · subst own
    right
    rcases counting with ⟨handle, at', running, bound⟩ | ⟨handle, at', running, bound⟩
    · -- The interval that fires is the one that was due.
      obtain ⟨k, found, holds⟩ := sound.held other timer due armed
      obtain ⟨k', found', holds'⟩ := sound.held other handle at' running
      obtain rfl := Option.some.inj (found.symm.trans found')
      obtain rfl := Option.some.inj (holds.symm.trans holds')
      have late := punctual.pings timer _ running
      dsimp only at late
      exact ⟨_, _, (started _).trans (if_pos rfl), by omega⟩
    · refine ⟨handle, at', (started handle).trans ((if_neg ?_).trans running), bound⟩
      rintro rfl
      rw [p.pongTimers.get_next] at running
      contradiction
  · rcases counting.putOff armed own next with first | ⟨handle, at', running, bound⟩
    · exact Or.inl first
    · refine Or.inr ⟨handle, at', (started handle).trans ((if_neg ?_).trans running), bound⟩
      rintro rfl
      rw [show (p.putOff timer next).pongTimers = p.pongTimers from rfl,
        p.pongTimers.get_next] at running
      contradiction

/-- What one event leaves of the time that a registered connection has. -/
theorem PulseMove.counting {server : RelayServer} {lag time : Nat} {s : State} {e : Event}
    {p : Pulse} (move : PulseMove server s e p) (sound : s.pulse.Sound)
    (punctual : s.pulse.Punctual server lag) (punctual' : p.Punctual server lag) {ws : ConnId}
    {k : Keepalive} (found : p.closure ws = some k) (registered : k.registeredUuid ≠ none)
    (counting : s.pulse.Counting server lag time ws) :
    p.Counting server lag time ws ∨ (e = .pong ws ∧ p.Counting server lag s.now ws) := by
  have sound' := move.sound sound
  -- A connection that is cleaned up is no longer registered.
  have apart : ∀ {q : Pulse} {other : ConnId}, p = q.cleanup other → ws ≠ other := by
    rintro q other rfl rfl
    cases before : q.closure ws with
    | none =>
        rw [Pulse.cleanup, before] at found
        rw [before] at found
        contradiction
    | some k' =>
        rw [Pulse.Sound.cleanup_closure_self before] at found
        cases found
        exact registered rfl
  cases move with
  | quiet => exact Or.inl counting
  | ticked => exact Or.inl counting
  | accepted => exact Or.inl counting
  | @registered other _ certPoint _ accepted =>
      left
      refine counting.imp_left ?_
      rintro ⟨timer, due, running, bound⟩
      have old : s.pulse.pingTimers.next ≠ timer := by
        rintro rfl
        rw [s.pulse.pingTimers.get_next] at running
        contradiction
      exact ⟨timer, due, (s.pulse.pingTimers.get_start _ _ _).trans ((if_neg old).trans running),
        bound⟩
  | @ponged other live =>
      by_cases own : other = ws
      · subst own
        have counts := sound'.counting_now punctual' found registered
        rw [Pulse.pong_now] at counts
        exact Or.inr ⟨rfl, counts⟩
      · left
        unfold Pulse.pong
        split
        · exact counting
        · rename_i timer holds
          obtain ⟨k', held, holds⟩ := Option.bind_eq_some_iff.mp holds
          apply counting.clearPong
          intro due running
          exact own (sound.owned other k' timer due ws held holds running).symm
  | left => exact Or.inl (counting.cleanup sound (apart rfl))
  | @pingLost timer due other armed late =>
      have different := apart rfl
      have armed' : s.pulse.pingTimers.get timer = some ⟨due, other⟩ := armed
      exact Or.inl ((counting.putOff armed' different _).cleanup (sound.putOff _ _) different)
  | pinged armed late => exact Or.inl (counting.pinged sound punctual armed _)
  | @pongMissed timer due other armed late =>
      have different := apart rfl
      have foreign : ∀ due', s.pulse.pongTimers.get timer ≠ some ⟨due', ws⟩ := by
        intro due' running
        have same : s.pulse.pongTimers.get timer = some ⟨due, other⟩ := armed
        rw [same] at running
        cases running
        exact different rfl
      exact Or.inl ((counting.clearPong foreign).cleanup (sound.clearPong _) different)

/-! ### Whole runs -/

/-- The socket of a registry entry has registered. -/
theorem RelayServer.registered_run {server : RelayServer} {events : List Event} {s : State}
    (ran : server.machine.run events = some s) {uuid : String} {client : ConnectedClient}
    (present : s.clients.get uuid = some client) :
    ∃ k, s.pulse.closure client.ws = some k ∧ k.registeredUuid ≠ none := by
  have admission := (server.sound_run ran uuid client present).2.2
  obtain ⟨conn, found, equal⟩ := Option.map_eq_some_iff.mp admission
  refine ⟨conn.keepalive, State.pulse_closure found, ?_⟩
  have registered : conn.registeredUuid = some uuid := congrArg Admission.registeredUuid equal
  rw [show conn.keepalive.registeredUuid = some uuid from registered]
  simp

/-- Some step of the run heard the socket, and it counts from then. -/
def HeardCounting (server : RelayServer) (lag : Nat) (ws : ConnId) (events : List Event)
    (s : State) : Prop :=
  ∃ earlier t e t', server.machine.StepAt events earlier t e t' ∧ Heard server ws t e ∧
    t.now ≤ s.now ∧ s.pulse.Counting server lag t.now ws

theorem RelayServer.heardCounting_run {server : RelayServer} {lag : Nat} {events : List Event}
    {s : State} (ran : server.machine.run events = some s)
    (onTime : server.machine.Meets (OnTime lag) events) :
    s.pulse.Punctual server lag ∧ ∀ uuid client, s.clients.get uuid = some client →
      HeardCounting server lag client.ws events s := by
  refine Machine.run_invariant_of_meets (P := fun events s => s.pulse.Punctual server lag ∧
    ∀ uuid client, s.clients.get uuid = some client →
      HeardCounting server lag client.ws events s) ?_ ?_ ran onTime
  · refine ⟨⟨Timers.Punctual.empty _ _, Timers.Punctual.empty _ _, ?_⟩, ?_⟩
    · intro timer t armed
      contradiction
    · intro uuid client present
      contradiction
  · rintro events s e s' before ⟨punctual, counting⟩ onTime after
    have move := server.pulse_step after
    have punctual' := move.punctual onTime punctual
    refine ⟨punctual', fun uuid client present => ?_⟩
    have ran' := Machine.run_concat_of before after
    have here := Machine.stepAt_last before after
    have sound := server.pulse_run before
    obtain ⟨k, found, registered⟩ := server.registered_run ran' present
    rcases (server.registry_step after).client_cases present with
      ⟨old, _⟩ | ⟨hello, accepted, _⟩
    · obtain ⟨earlier, t, f, t', step, heard, past, counts⟩ := counting uuid client old
      rcases move.counting sound punctual punctual' found registered counts with
        still | ⟨isPong, fromNow⟩
      · exact ⟨earlier, t, f, t', step.extend, heard, Nat.le_trans past move.now_le, still⟩
      · exact ⟨events, s, e, s', here, Or.inl isPong, move.now_le, fromNow⟩
    · have counts := (move.sound sound).counting_now punctual' found registered
      have stopped : s'.now = s.now := by
        obtain ⟨frame, rfl, _⟩ := accepted.delivered
        exact move.now_eq (by simp)
      rw [show s'.pulse.now = s.now from stopped] at counts
      exact ⟨events, s, e, s', here, Or.inr ⟨_, hello, accepted⟩, move.now_le, counts⟩

/-- A daemon that is registered was heard from on its socket, by the hello that
registered it or a pong, no longer ago than a ping interval and a pong timeout, when
no keepalive timer fires later than `lag` after it is due. So a daemon that falls
silent is evicted within that time. -/
theorem registered_daemon_heard (server : RelayServer) {lag : Nat} {events : List Event}
    {s : State} (ran : server.machine.run events = some s)
    (onTime : server.machine.Meets (OnTime lag) events) {uuid : String}
    {client : ConnectedClient} (present : s.clients.get uuid = some client) :
    ∃ earlier t e t', server.machine.StepAt events earlier t e t' ∧ Heard server client.ws t e ∧
      t.now ≤ s.now ∧ s.now ≤ t.now + timerDelay server.pingIntervalMs +
        timerDelay server.pongTimeoutMs + 2 * lag := by
  obtain ⟨punctual, counting⟩ := RelayServer.heardCounting_run ran onTime
  obtain ⟨earlier, t, e, t', step, heard, past, counts⟩ := counting uuid client present
  refine ⟨earlier, t, e, t', step, heard, past, ?_⟩
  rcases counts with ⟨timer, due, running, bound⟩ | ⟨timer, due, running, bound⟩
  · have late : s.now ≤ due + lag := punctual.pings timer _ running
    omega
  · have late : s.now ≤ due + lag := punctual.pongs timer _ running
    omega

namespace Sample

/-- Daemon A says nothing after its hello, until its first ping is due. -/
def silent : List Event := admission ++ [.tick 30000]

theorem run_silent : server.machine.run silent = some { admitted with now := 30000 } :=
  Machine.run_concat_of run_admission rfl

/-- The clock stands still. -/
theorem onTime_admission : server.machine.Meets (OnTime 0) admission := by
  intro earlier s e s' step ms tick
  obtain ⟨later, split⟩ := step.split
  have member : Event.tick ms ∈ admission := by simp [split, tick]
  simp [admission] at member

theorem onTime_silent : server.machine.Meets (OnTime 0) silent := by
  apply onTime_admission.concat run_admission
  intro ms tick
  have pulse := server.pulse_register (State.init.accept 0 (Conn.accepted (certificate signPointA)))
    0 signPointA ⟨base64Encode decryptPointA⟩
  have pings : admitted.pingTimers = Timers.empty.start 30000 0 := congrArg Pulse.pingTimers pulse
  have pongs : admitted.pongTimers = Timers.empty := congrArg Pulse.pongTimers pulse
  have book := server.book_register (State.init.accept 0 (Conn.accepted (certificate signPointA)))
    0 signPointA ⟨base64Encode decryptPointA⟩
  have requests : admitted.requestTimers = Timers.empty := congrArg Book.requestTimers book
  have clock : admitted.now = 0 := congrArg Pulse.now pulse
  cases tick
  rw [pings, pongs, requests, clock]
  refine ⟨?_, Timers.Punctual.empty _ _, Timers.Punctual.empty _ _⟩
  intro handle timer armed
  rw [Timers.get_start] at armed
  split at armed
  · obtain rfl := Option.some.inj armed
    exact Nat.le_refl _
  · contradiction

end Sample

theorem registered_daemon_heard_silent : ∃ earlier t e t',
    Sample.server.machine.StepAt Sample.silent earlier t e t' ∧ Heard Sample.server 0 t e ∧
      t.now ≤ 30000 ∧ 30000 ≤ t.now + timerDelay 30000 + timerDelay 10000 + 2 * 0 := by
  have entry : ({ Sample.admitted with now := 30000 } : State).clients.get Sample.uuidA =
      some Sample.clientA := Sample.enrolled_admitted.entry
  exact registered_daemon_heard Sample.server Sample.run_silent Sample.onTime_silent entry

end DicodeRelay.Relay
