import DicodeRelay.Relay.Sockets

/-!
Contract: the keepalive of a socket.

Owns:
- the closure variables and armed timers that make up the keepalive of a socket,
  and which operations leave them alone;
- that no timer goes astray as long as no pings overlap: every armed timer of
  the socket is the one its closure variable holds.

Does not own: when pongs arrive.
-/

namespace DicodeRelay.Relay

open DicodeRelay.Lib DicodeRelay.Shared

/-! ### Pings -/

/-- A ping interval sends a ping on the socket. -/
def Pings (s : State) (e : Event) (ws : ConnId) : Prop :=
  ∃ timer due, e = .pingTimer timer ∧ s.pingTimers.get timer = some ⟨due, ws⟩ ∧
    s.readyState ws = .opened

/-- The event sends no ping on the socket while the timer of an earlier one is
running. -/
def NoOverlap (ws : ConnId) (s : State) (e : Event) : Prop :=
  Pings s e ws → ∀ timer due, s.pongTimers.get timer ≠ some ⟨due, ws⟩

/-! ### The keepalive of a socket -/

/-- What the closure of a connection holds for its keepalive. -/
structure Keepalive where
  certPoint : Option Bytes
  registeredUuid : Option String
  pingTimer : Option Nat
  pongTimer : Option Nat

def Conn.keepalive (conn : Conn) : Keepalive :=
  ⟨conn.certPoint, conn.registeredUuid, conn.pingTimer, conn.pongTimer⟩

def State.keepalive (s : State) (ws : ConnId) : Option Keepalive :=
  (s.conns.get ws).map Conn.keepalive

/-- Between the states the closure of the socket does not change and no timer
of it is armed or put off. -/
structure Steady (ws : ConnId) (s t : State) : Prop where
  keepalive : t.keepalive ws = s.keepalive ws
  pings : ∀ timer due, t.pingTimers.get timer = some ⟨due, ws⟩ →
    s.pingTimers.get timer = some ⟨due, ws⟩
  pongs : ∀ timer due, t.pongTimers.get timer = some ⟨due, ws⟩ →
    s.pongTimers.get timer = some ⟨due, ws⟩

namespace Steady

variable {ws : ConnId} {s t : State}

theorem refl (ws : ConnId) (s : State) : Steady ws s s := ⟨rfl, fun _ _ => id, fun _ _ => id⟩

/-- The other parts of the state do not matter. -/
theorem congr {u : State} (steady : Steady ws s t) (conns : u.conns = t.conns)
    (pings : u.pingTimers = t.pingTimers) (pongs : u.pongTimers = t.pongTimers) :
    Steady ws s u where
  keepalive := by
    rw [← steady.keepalive, State.keepalive, State.keepalive, conns]
  pings := pings ▸ steady.pings
  pongs := pongs ▸ steady.pongs

theorem emit (steady : Steady ws s t) (effect : Effect) : Steady ws s (t.emit effect) :=
  steady.congr rfl rfl rfl

theorem clearPingTimer (steady : Steady ws s t) (timer : Nat) :
    Steady ws s (t.clearPingTimer timer) where
  keepalive := steady.keepalive
  pings other due armed := by
    apply steady.pings
    simp only [State.clearPingTimer, Timers.get_clear] at armed
    split at armed
    · contradiction
    · exact armed
  pongs := steady.pongs

theorem clearPongTimer (steady : Steady ws s t) (timer : Nat) :
    Steady ws s (t.clearPongTimer timer) where
  keepalive := steady.keepalive
  pings := steady.pings
  pongs other due armed := by
    apply steady.pongs
    simp only [State.clearPongTimer, Timers.get_clear] at armed
    split at armed
    · contradiction
    · exact armed

/-- A change of one connection that is another one's or leaves the keepalive
alone. -/
theorem modifyConn (steady : Steady ws s t) {other : ConnId} {f : Conn → Conn}
    (same : other = ws → ∀ conn, (f conn).keepalive = conn.keepalive) :
    Steady ws s (t.modifyConn other f) := by
  unfold State.modifyConn
  split
  · exact steady
  · rename_i conn found
    refine ⟨?_, steady.pings, steady.pongs⟩
    rw [← steady.keepalive, State.keepalive, State.keepalive, OrderedMap.get_set]
    split
    · rename_i equal
      subst equal
      simp [found, same rfl]
    · rfl

theorem keepalive_startClosing (conn : Conn) :
    (State.startClosing conn).keepalive = conn.keepalive := by
  unfold State.startClosing
  split <;> rfl

theorem terminate (steady : Steady ws s t) (other : ConnId) : Steady ws s (t.terminate other) :=
  (steady.emit _).modifyConn fun _ => keepalive_startClosing

theorem closeSocket (steady : Steady ws s t) (other : ConnId) (code : Option Nat)
    (reason : String) : Steady ws s (t.closeSocket other code reason) :=
  (steady.emit _).modifyConn fun _ => keepalive_startClosing

theorem sendServerMessage (server : RelayServer) (steady : Steady ws s t) (other : ConnId)
    (msg : ServerMessage) : Steady ws s (server.sendServerMessage t other msg) := by
  unfold RelayServer.sendServerMessage
  split
  · exact steady.emit _
  · exact steady

/-- A timer of another socket. -/
theorem startPingTimer (steady : Steady ws s t) (ms : Int) {other : ConnId}
    (different : other ≠ ws) : Steady ws s (t.startPingTimer ms other) where
  keepalive := steady.keepalive
  pings timer due armed := by
    apply steady.pings
    simp only [State.startPingTimer, Timers.get_start] at armed
    split at armed
    · cases armed
      contradiction
    · exact armed
  pongs := steady.pongs

theorem startPongTimer (steady : Steady ws s t) (ms : Int) {other : ConnId}
    (different : other ≠ ws) : Steady ws s (t.startPongTimer ms other) where
  keepalive := steady.keepalive
  pings := steady.pings
  pongs timer due armed := by
    apply steady.pongs
    simp only [State.startPongTimer, Timers.get_start] at armed
    split at armed
    · cases armed
      contradiction
    · exact armed

theorem accept (steady : Steady ws s t) {other : ConnId} (different : other ≠ ws) (conn : Conn) :
    Steady ws s (t.accept other conn) where
  keepalive := by
    rw [← steady.keepalive, State.keepalive, State.keepalive, State.accept,
      OrderedMap.get_set_of_ne _ _ different]
  pings := steady.pings
  pongs := steady.pongs

theorem clearKeepalive (steady : Steady ws s t) (conn : Conn) :
    Steady ws s (t.clearKeepalive conn) := by
  unfold State.clearKeepalive
  cases conn.pingTimer <;> cases conn.pongTimer
  · exact steady
  · exact steady.clearPongTimer _
  · exact steady.clearPingTimer _
  · exact (steady.clearPingTimer _).clearPongTimer _

theorem deregister (steady : Steady ws s t) (other : ConnId) (conn : Conn) :
    Steady ws s (t.deregister other conn) := by
  unfold State.deregister
  split
  · exact steady
  · split
    · exact steady
    · split
      · exact steady.congr rfl rfl rfl
      · exact steady

theorem removePending (steady : Steady ws s t) (id : String) :
    Steady ws s (t.removePending id).1 := by
  unfold State.removePending
  split
  · exact steady
  · exact steady.congr rfl rfl rfl

theorem requestTimeout (steady : Steady ws s t) (id : String) :
    Steady ws s (t.requestTimeout id) :=
  (steady.removePending id).emit _

theorem handleResponse (steady : Steady ws s t) (response : Response) :
    Steady ws s (t.handleResponse response) := by
  have removed := steady.removePending response.id
  unfold State.handleResponse
  split
  · exact steady
  · split <;> rename_i found <;> rw [found] at removed
    · exact removed
    · exact removed.congr rfl rfl rfl

theorem rejectPending (steady : Steady ws s t) (entries : List (String × PendingRequest)) :
    Steady ws s (t.rejectPending entries) := by
  induction entries generalizing t with
  | nil => exact steady
  | cons entry rest inductionHypothesis =>
      apply inductionHypothesis
      exact steady.congr rfl rfl rfl

theorem terminateClients (steady : Steady ws s t) (clients : List ConnectedClient) :
    Steady ws s (t.terminateClients clients) := by
  induction clients generalizing t with
  | nil => exact steady
  | cons client rest inductionHypothesis => exact inductionHypothesis (steady.terminate client.ws)

theorem forward (server : RelayServer) (steady : Steady ws s t) (uuid method path : String)
    (headers : Headers) (body : Bytes) (id : String) (bufferedAmount : Nat) :
    Steady ws s (server.forward t uuid method path headers body id bufferedAmount) := by
  unfold RelayServer.forward
  split
  · exact steady.emit _
  · split
    · exact steady.emit _
    · split
      · exact steady.emit _
      · apply sendServerMessage
        exact steady.congr rfl rfl rfl

theorem evictPrevious (steady : Steady ws s t) (uuid : String) :
    Steady ws s (t.evictPrevious uuid) := by
  unfold State.evictPrevious
  split
  · exact steady
  · have dropped : Steady ws s (t.dropClient uuid) := steady.congr rfl rfl rfl
    exact (dropped.emit _).terminate _

theorem close (steady : Steady ws s t) : Steady ws s t.close := by
  have rejected := steady.rejectPending t.pending.entries
  have cleared : Steady ws s (t.rejectPending t.pending.entries).clearPending :=
    rejected.congr rfl rfl rfl
  exact (cleared.terminateClients _).congr rfl rfl rfl

/-- What is left of `handleConnection` after the socket was accepted. -/
theorem handleConnection (server : RelayServer) (s : State) (other : ConnId)
    (peerCert : Option PeerCertificate) :
    Steady ws (s.accept other (Conn.accepted peerCert))
      (server.handleConnection s other peerCert) := by
  have here := refl ws (s.accept other (Conn.accepted peerCert))
  unfold RelayServer.handleConnection
  split
  · exact (here.sendServerMessage server other _).closeSocket other _ _
  · split
    · exact (here.sendServerMessage server other _).closeSocket other _ _
    · exact here

end Steady

/-! ### No timer goes astray -/

/-- Every armed timer of the socket is the one its closure holds; the closure
holds timers only while it is registered, and is registered only once admitted;
and the next ping is a ping interval after the one an armed pong timer is for. -/
structure State.Tidy (server : RelayServer) (ws : ConnId) (s : State) : Prop where
  pinging : ∀ timer due, s.pingTimers.get timer = some ⟨due, ws⟩ →
    ∃ k, s.keepalive ws = some k ∧ k.pingTimer = some timer
  ponging : ∀ timer due, s.pongTimers.get timer = some ⟨due, ws⟩ →
    ∃ k, s.keepalive ws = some k ∧ k.pongTimer = some timer
  idle : ∀ k, s.keepalive ws = some k → k.registeredUuid = none →
    k.pingTimer = none ∧ k.pongTimer = none
  admitted : ∀ k, s.keepalive ws = some k → k.certPoint = none → k.registeredUuid = none
  spaced : ∀ pong due ping next, s.pongTimers.get pong = some ⟨due, ws⟩ →
    s.pingTimers.get ping = some ⟨next, ws⟩ →
    due + timerDelay server.pingIntervalMs ≤ next + timerDelay server.pongTimeoutMs

namespace State

/-- A change of the closure, seen from its own socket. -/
theorem keepalive_modifyConn (s : State) (ws : ConnId) {f : Conn → Conn}
    {g : Keepalive → Keepalive} (same : ∀ conn, (f conn).keepalive = g conn.keepalive) :
    (s.modifyConn ws f).keepalive ws = (s.keepalive ws).map g := by
  unfold modifyConn keepalive
  cases found : s.conns.get ws with
  | none => simp [found]
  | some conn => simp [same]

/-- The timers of the closure are no longer armed. -/
theorem cleared_clearKeepalive (s : State) (conn : Conn) :
    (∀ timer, conn.pingTimer = some timer → (s.clearKeepalive conn).pingTimers.get timer = none) ∧
      ∀ timer, conn.pongTimer = some timer →
        (s.clearKeepalive conn).pongTimers.get timer = none := by
  constructor
  · intro timer holds
    unfold clearKeepalive
    rw [holds]
    cases conn.pongTimer <;> simp [clearPingTimer, clearPongTimer, Timers.get_clear]
  · intro timer holds
    unfold clearKeepalive
    rw [holds]
    cases conn.pingTimer <;> simp [clearPingTimer, clearPongTimer, Timers.get_clear]

theorem timers_deregister (s : State) (ws : ConnId) (conn : Conn) :
    (s.deregister ws conn).pingTimers = s.pingTimers ∧
      (s.deregister ws conn).pongTimers = s.pongTimers := by
  unfold deregister
  repeat' split
  all_goals exact ⟨rfl, rfl⟩

theorem timers_modifyConn (s : State) (ws : ConnId) (f : Conn → Conn) :
    (s.modifyConn ws f).pingTimers = s.pingTimers ∧
      (s.modifyConn ws f).pongTimers = s.pongTimers := by
  unfold modifyConn
  split <;> exact ⟨rfl, rfl⟩

end State

namespace State.Tidy

variable {server : RelayServer} {ws : ConnId} {s t : State}

theorem steady (tidy : s.Tidy server ws) (steady : Steady ws s t) : t.Tidy server ws where
  pinging timer due armed := steady.keepalive ▸ tidy.pinging timer due (steady.pings _ _ armed)
  ponging timer due armed := steady.keepalive ▸ tidy.ponging timer due (steady.pongs _ _ armed)
  idle := steady.keepalive ▸ tidy.idle
  admitted := steady.keepalive ▸ tidy.admitted
  spaced pong due ping next armed armed' :=
    tidy.spaced pong due ping next (steady.pongs _ _ armed) (steady.pings _ _ armed')

/-- A socket without armed timers. -/
theorem of_unarmed (pings : ∀ timer due, s.pingTimers.get timer ≠ some ⟨due, ws⟩)
    (pongs : ∀ timer due, s.pongTimers.get timer ≠ some ⟨due, ws⟩)
    (idle : ∀ k, s.keepalive ws = some k → k.registeredUuid = none →
      k.pingTimer = none ∧ k.pongTimer = none)
    (admitted : ∀ k, s.keepalive ws = some k → k.certPoint = none → k.registeredUuid = none) :
    s.Tidy server ws where
  pinging timer due armed := absurd armed (pings timer due)
  ponging timer due armed := absurd armed (pongs timer due)
  idle := idle
  admitted := admitted
  spaced pong due _ _ armed _ := absurd armed (pongs pong due)

/-- A socket that is not registered has no armed timer. -/
theorem unarmed (tidy : s.Tidy server ws) {k : Keepalive} (held : s.keepalive ws = some k)
    (unregistered : k.registeredUuid = none) :
    (∀ timer due, s.pingTimers.get timer ≠ some ⟨due, ws⟩) ∧
      ∀ timer due, s.pongTimers.get timer ≠ some ⟨due, ws⟩ := by
  obtain ⟨noPing, noPong⟩ := tidy.idle k held unregistered
  constructor
  · intro timer due armed
    obtain ⟨other, found, holds⟩ := tidy.pinging timer due armed
    rw [held] at found
    cases found
    rw [noPing] at holds
    contradiction
  · intro timer due armed
    obtain ⟨other, found, holds⟩ := tidy.ponging timer due armed
    rw [held] at found
    cases found
    rw [noPong] at holds
    contradiction

/-- An interval that is due is put off. -/
theorem repeatPingTimer (tidy : s.Tidy server ws) {timer due : Nat} {other : ConnId}
    (armed : s.pingTimers.get timer = some ⟨due, other⟩) (late : due ≤ s.now) :
    (s.repeatPingTimer server.pingIntervalMs timer).Tidy server ws := by
  have before : ∀ handle next, (s.repeatPingTimer server.pingIntervalMs timer).pingTimers.get
      handle = some ⟨next, ws⟩ → ∃ earlier, s.pingTimers.get handle = some ⟨earlier, ws⟩ ∧
        earlier ≤ next := by
    intro handle next found
    simp only [State.repeatPingTimer, Timers.get_reschedule] at found
    split at found
    · rename_i same
      subst same
      rw [armed] at found
      cases found
      exact ⟨due, armed, by omega⟩
    · exact ⟨next, found, Nat.le_refl _⟩
  refine ⟨?_, tidy.ponging, tidy.idle, tidy.admitted, ?_⟩
  · intro handle next found
    obtain ⟨earlier, was, _⟩ := before handle next found
    exact tidy.pinging handle earlier was
  · intro pong dueAt ping next armedPong found
    obtain ⟨earlier, was, sooner⟩ := before ping next found
    have apart := tidy.spaced pong dueAt ping earlier armedPong was
    omega

theorem cleanup (tidy : s.Tidy server ws) (other : ConnId) : (s.cleanup other).Tidy server ws := by
  unfold State.cleanup
  split
  · exact tidy
  · rename_i conn found
    have settled := ((Steady.refl ws s).clearKeepalive conn).deregister other conn
    by_cases own : other = ws
    · subst own
      have held : s.keepalive other = some conn.keepalive := by simp [State.keepalive, found]
      have after : State.keepalive (((s.clearKeepalive conn).deregister other conn).modifyConn
          other fun conn =>
            { conn with registeredUuid := none, pingTimer := none, pongTimer := none }) other =
          some ⟨conn.certPoint, none, none, none⟩ := by
        rw [State.keepalive_modifyConn _ _ (g := fun k => ⟨k.certPoint, none, none, none⟩)
          fun _ => rfl, settled.keepalive, held]
        rfl
      have timers := State.timers_modifyConn ((s.clearKeepalive conn).deregister other conn) other
        fun conn => { conn with registeredUuid := none, pingTimer := none, pongTimer := none }
      have deregistered := (s.clearKeepalive conn).timers_deregister other conn
      apply of_unarmed
      · intro timer due armed
        rw [timers.1, deregistered.1] at armed
        obtain ⟨k, same, holds⟩ := tidy.pinging timer due
          (((Steady.refl other s).clearKeepalive conn).pings timer due armed)
        rw [held] at same
        cases same
        rw [(s.cleared_clearKeepalive conn).1 timer holds] at armed
        contradiction
      · intro timer due armed
        rw [timers.2, deregistered.2] at armed
        obtain ⟨k, same, holds⟩ := tidy.ponging timer due
          (((Steady.refl other s).clearKeepalive conn).pongs timer due armed)
        rw [held] at same
        cases same
        rw [(s.cleared_clearKeepalive conn).2 timer holds] at armed
        contradiction
      · intro k same _
        rw [after] at same
        cases same
        exact ⟨rfl, rfl⟩
      · intro k same _
        rw [after] at same
        cases same
        rfl
    · exact tidy.steady (settled.modifyConn fun same => absurd same own)

/-- After a pong no pong timer of the socket runs. -/
theorem unarmed_handlePong (tidy : s.Tidy server ws) (handle due : Nat) :
    (s.handlePong ws).pongTimers.get handle ≠ some ⟨due, ws⟩ := by
  intro armed
  unfold State.handlePong at armed
  split at armed <;> rename_i holds
  · obtain ⟨k, held, isHandle⟩ := tidy.ponging handle due armed
    obtain ⟨conn, found, rfl⟩ := Option.map_eq_some_iff.mp held
    rw [found] at holds
    cases holds.symm.trans isHandle
  · rename_i timer
    obtain ⟨conn, found, holds⟩ := Option.bind_eq_some_iff.mp holds
    have timers := State.timers_modifyConn (s.clearPongTimer timer) ws
      fun conn => { conn with pongTimer := none }
    rw [timers.2] at armed
    obtain ⟨k, held, isHandle⟩ := tidy.ponging handle due
      (((Steady.refl ws s).clearPongTimer timer).pongs handle due armed)
    rw [State.keepalive, found] at held
    cases held
    cases holds.symm.trans isHandle
    simp [State.clearPongTimer, Timers.get_clear] at armed

theorem handlePong (tidy : s.Tidy server ws) (other : ConnId) :
    (s.handlePong other).Tidy server ws := by
  by_cases own : other = ws
  · subst own
    have unarmed := tidy.unarmed_handlePong
    unfold State.handlePong at unarmed ⊢
    split
    · exact tidy
    · rename_i timer holds
      rw [holds] at unarmed
      obtain ⟨conn, found, holds⟩ := Option.bind_eq_some_iff.mp holds
      have held : s.keepalive other = some conn.keepalive := by simp [State.keepalive, found]
      have still := tidy.steady ((Steady.refl other s).clearPongTimer timer)
      have after := State.keepalive_modifyConn (s.clearPongTimer timer) other
        (f := fun conn => { conn with pongTimer := none })
        (g := fun k => { k with pongTimer := none }) fun _ => rfl
      have timers := State.timers_modifyConn (s.clearPongTimer timer) other
        fun conn => { conn with pongTimer := none }
      rw [((Steady.refl other s).clearPongTimer timer).keepalive, held] at after
      refine ⟨?_, fun handle due armed => absurd armed (unarmed handle due), ?_, ?_,
        fun handle due _ _ armed => absurd armed (unarmed handle due)⟩
      · intro handle due armed
        rw [timers.1] at armed
        obtain ⟨k, same, isHandle⟩ := still.pinging handle due armed
        rw [((Steady.refl other s).clearPongTimer timer).keepalive, held] at same
        cases same
        exact ⟨_, after, isHandle⟩
      · intro k same unregistered
        rw [after] at same
        cases same
        exact ⟨(tidy.idle conn.keepalive held unregistered).1, rfl⟩
      · intro k same uncertified
        rw [after] at same
        cases same
        exact tidy.admitted conn.keepalive held uncertified
  · unfold State.handlePong
    split
    · exact tidy
    · exact tidy.steady (((Steady.refl ws s).clearPongTimer _).modifyConn
        fun same => absurd same own)

theorem accept (tidy : s.Tidy server ws) {other : ConnId} (fresh : s.conns.get other = none)
    (peerCert : Option PeerCertificate) :
    (s.accept other (Conn.accepted peerCert)).Tidy server ws := by
  by_cases own : other = ws
  · subst own
    have nothing : s.keepalive other = none := by simp [State.keepalive, fresh]
    have after : (s.accept other (Conn.accepted peerCert)).keepalive other =
        some (Conn.accepted peerCert).keepalive := by
      simp [State.keepalive, State.accept]
    apply of_unarmed
    · intro timer due armed
      obtain ⟨k, found, _⟩ := tidy.pinging timer due armed
      rw [nothing] at found
      contradiction
    · intro timer due armed
      obtain ⟨k, found, _⟩ := tidy.ponging timer due armed
      rw [nothing] at found
      contradiction
    · intro k same _
      rw [after] at same
      cases same
      exact ⟨rfl, rfl⟩
    · intro k same _
      rw [after] at same
      cases same
      rfl
  · exact tidy.steady ((Steady.refl ws s).accept own _)

theorem startKeepalive (tidy : s.Tidy server ws) {other : ConnId} {k : Keepalive}
    (held : s.keepalive other = some k) (registered : k.registeredUuid ≠ none)
    (noPing : other = ws → ∀ timer due, s.pingTimers.get timer ≠ some ⟨due, ws⟩)
    (noPong : other = ws → ∀ timer due, s.pongTimers.get timer ≠ some ⟨due, ws⟩) :
    (server.startKeepalive s other).Tidy server ws := by
  unfold RelayServer.startKeepalive
  by_cases own : other = ws
  · subst own
    have timers := State.timers_modifyConn (s.startPingTimer server.pingIntervalMs other) other
      fun conn => { conn with pingTimer := some s.pingTimers.next }
    have after := State.keepalive_modifyConn (s.startPingTimer server.pingIntervalMs other) other
      (f := fun conn => { conn with pingTimer := some s.pingTimers.next })
      (g := fun k => { k with pingTimer := some s.pingTimers.next }) fun _ => rfl
    rw [show (s.startPingTimer server.pingIntervalMs other).keepalive other = s.keepalive other
      from rfl, held] at after
    have started : ∀ timer due, (s.startPingTimer server.pingIntervalMs other).pingTimers.get
        timer = some ⟨due, other⟩ → timer = s.pingTimers.next := by
      intro timer due armed
      simp only [State.startPingTimer, Timers.get_start] at armed
      split at armed
      · rename_i same
        exact same.symm
      · exact absurd armed (noPing rfl timer due)
    refine ⟨?_, ?_, ?_, ?_, ?_⟩
    · intro timer due armed
      rw [timers.1] at armed
      exact ⟨_, after, congrArg some (started timer due armed).symm⟩
    · intro timer due armed
      rw [timers.2] at armed
      exact absurd armed (noPong rfl timer due)
    · intro other same unregistered
      rw [after] at same
      cases same
      exact absurd unregistered registered
    · intro other same uncertified
      rw [after] at same
      cases same
      exact tidy.admitted k held uncertified
    · intro timer due _ _ armed
      rw [timers.2] at armed
      exact absurd armed (noPong rfl timer due)
  · exact tidy.steady (((Steady.refl ws s).startPingTimer _ own).modifyConn
      fun same => absurd same own)

/-- The closure of an idle socket is marked as registered. -/
theorem marked (tidy : s.Tidy server ws) {other : ConnId} {k : Keepalive}
    (held : s.keepalive other = some k) (unregistered : k.registeredUuid = none)
    (certified : k.certPoint ≠ none) (uuid : String) :
    (s.modifyConn other fun conn => { conn with registeredUuid := some uuid }).Tidy server ws := by
  by_cases own : other = ws
  · subst own
    obtain ⟨noPing, noPong⟩ := tidy.unarmed held unregistered
    have timers := s.timers_modifyConn other fun conn => { conn with registeredUuid := some uuid }
    have after := s.keepalive_modifyConn other
      (f := fun conn => { conn with registeredUuid := some uuid })
      (g := fun k => { k with registeredUuid := some uuid }) fun _ => rfl
    rw [held] at after
    apply of_unarmed
    · rw [timers.1]
      exact noPing
    · rw [timers.2]
      exact noPong
    · intro k same unregistered
      rw [after] at same
      cases same
      contradiction
    · intro k same uncertified
      rw [after] at same
      cases same
      exact absurd uncertified certified
  · exact tidy.steady ((Steady.refl ws s).modifyConn fun same => absurd same own)

/-- Registration finds the socket idle and arms its first timer. -/
theorem register (tidy : s.Tidy server ws) {other : ConnId} {k : Keepalive}
    (held : s.keepalive other = some k) (unregistered : k.registeredUuid = none)
    (certified : k.certPoint ≠ none) (certPoint : Bytes) (hello : Hello) :
    (server.register s other certPoint hello).Tidy server ws := by
  let uuid := server.crypto.uuidFromP256Point certPoint
  let entered := (s.evictPrevious uuid).putClient ⟨other, uuid, certPoint,
    base64Decode hello.decryptPubkey.toList⟩
  let marked := entered.modifyConn other fun conn => { conn with registeredUuid := some uuid }
  have enters : ∀ ws, Steady ws s entered := fun ws =>
    ((Steady.refl ws s).evictPrevious uuid).congr rfl rfl rfl
  have welcomed : ∀ ws, Steady ws marked ((server.sendServerMessage marked other
      (.welcome (server.welcome uuid))).emit (.clientConnected uuid)) := fun ws =>
    ((Steady.refl ws marked).sendServerMessage server other _).emit _
  have heldEntered : entered.keepalive other = some k := (enters other).keepalive.trans held
  have heldMarked : marked.keepalive other = some { k with registeredUuid := some uuid } := by
    have after := entered.keepalive_modifyConn other
      (f := fun conn => { conn with registeredUuid := some uuid })
      (g := fun k => { k with registeredUuid := some uuid }) fun _ => rfl
    rw [heldEntered] at after
    exact after
  have timers := entered.timers_modifyConn other fun conn =>
    { conn with registeredUuid := some uuid }
  have ready := ((tidy.steady (enters ws)).marked heldEntered unregistered certified uuid).steady
    (welcomed ws)
  apply ready.startKeepalive ((welcomed other).keepalive.trans heldMarked) (by simp)
  · rintro rfl timer due armed
    have before := (welcomed other).pings timer due armed
    rw [timers.1] at before
    exact (tidy.unarmed held unregistered).1 timer due ((enters other).pings timer due before)
  · rintro rfl timer due armed
    have before := (welcomed other).pongs timer due armed
    rw [timers.2] at before
    exact (tidy.unarmed held unregistered).2 timer due ((enters other).pongs timer due before)

/-- A ping on a socket none of whose pong timers runs. -/
theorem pinged (tidy : s.Tidy server ws) {timer due : Nat} {other : ConnId}
    (armed : s.pingTimers.get timer = some ⟨due, other⟩) (late : due ≤ s.now)
    (noPong : other = ws → ∀ timer due, s.pongTimers.get timer ≠ some ⟨due, ws⟩) :
    (server.pinged s timer other).Tidy server ws := by
  have repeated := tidy.repeatPingTimer armed late
  have sent : State.Tidy server ws (State.emit _ (.ping other)) :=
    repeated.steady ((Steady.refl _ _).emit _)
  by_cases own : other = ws
  · subst own
    let u := (s.repeatPingTimer server.pingIntervalMs timer).emit (.ping other)
    have putOff : u.pingTimers.get timer =
        some ⟨s.now + timerDelay server.pingIntervalMs, other⟩ := by
      simp only [u, State.emit, State.repeatPingTimer, Timers.get_reschedule, if_true, armed]
      rfl
    obtain ⟨k, held, pinging⟩ := sent.pinging timer _ putOff
    have only : ∀ handle next, u.pingTimers.get handle = some ⟨next, other⟩ → handle = timer := by
      intro handle next found
      obtain ⟨k', same, holds⟩ := sent.pinging handle next found
      rw [held] at same
      cases same
      exact Option.some.inj (holds.symm.trans pinging)
    have started : ∀ handle next, (u.startPongTimer server.pongTimeoutMs other).pongTimers.get
        handle = some ⟨next, other⟩ → handle = s.pongTimers.next ∧
          next = s.now + timerDelay server.pongTimeoutMs := by
      intro handle next found
      simp only [State.startPongTimer, Timers.get_start] at found
      split at found
      · rename_i same
        cases found
        exact ⟨same.symm, rfl⟩
      · exact absurd found (noPong rfl handle next)
    have timers := State.timers_modifyConn (u.startPongTimer server.pongTimeoutMs other) other
      fun conn => { conn with pongTimer := some s.pongTimers.next }
    have after := State.keepalive_modifyConn (u.startPongTimer server.pongTimeoutMs other) other
      (f := fun conn => { conn with pongTimer := some s.pongTimers.next })
      (g := fun k => { k with pongTimer := some s.pongTimers.next }) fun _ => rfl
    rw [show (u.startPongTimer server.pongTimeoutMs other).keepalive other = u.keepalive other
      from rfl, held] at after
    refine ⟨?_, ?_, ?_, ?_, ?_⟩
    · intro handle next found
      rw [RelayServer.pinged, timers.1] at found
      exact ⟨_, after, (only handle next found).symm ▸ pinging⟩
    · intro handle next found
      rw [RelayServer.pinged, timers.2] at found
      exact ⟨_, after, congrArg some (started handle next found).1.symm⟩
    · intro other same unregistered
      rw [RelayServer.pinged, after] at same
      cases same
      have idle := (sent.idle k held unregistered).1
      rw [pinging] at idle
      contradiction
    · intro other same uncertified
      rw [RelayServer.pinged, after] at same
      cases same
      exact sent.admitted k held uncertified
    · intro pong dueAt ping next armedPong armedPing
      rw [RelayServer.pinged, timers.2] at armedPong
      rw [RelayServer.pinged, timers.1] at armedPing
      obtain rfl := only ping next armedPing
      cases putOff.symm.trans armedPing
      obtain ⟨_, rfl⟩ := started pong dueAt armedPong
      omega
  · exact sent.steady (((Steady.refl _ _).startPongTimer _ own).modifyConn
      fun same => absurd same own)

end State.Tidy

namespace RelayServer

variable {server : RelayServer} {ws : ConnId} {s s' : State} {e : Event}

/-- An event that sends no overlapping ping keeps the socket tidy. -/
theorem tidy_step (tidy : s.Tidy server ws) (apart : NoOverlap ws s e)
    (after : server.step s e = some s') : s'.Tidy server ws := by
  have here := Steady.refl ws s
  cases stepCase_of_step after with
  | @connected other peerCert fresh =>
      exact (tidy.accept fresh peerCert).steady (Steady.handleConnection server s other peerCert)
  | ignored => exact tidy
  | turnedAway =>
      exact tidy.steady ((here.sendServerMessage server _ _).closeSocket _ _ _)
  | @registered other _ _ _ _ accepted =>
      obtain ⟨conn, found, certified, unregistered⟩ := accepted.unregistered
      have held : s.keepalive other = some conn.keepalive := by rw [State.keepalive, found]; rfl
      apply tidy.register held unregistered
      simp [Conn.keepalive, certified]
  | answered => exact tidy.steady (here.handleResponse _)
  | ponged => exact tidy.handlePong _
  | failedEarly => exact tidy.steady (here.terminate _)
  | failed => exact (tidy.steady (here.terminate _)).cleanup _
  | closedEarly => exact tidy.steady (here.modifyConn fun _ _ => rfl)
  | @closed other =>
      have closed : (s.socketClosed other).Tidy server ws :=
        tidy.steady (here.modifyConn fun _ _ => rfl)
      exact closed.cleanup other
  | peerClosing => exact tidy.steady (here.modifyConn fun _ => Steady.keepalive_startClosing)
  | @timedOut timer =>
      have cleared := here.congr (u := s.clearRequestTimer timer) rfl rfl rfl
      exact tidy.steady (cleared.requestTimeout _)
  | @pinged timer due other armed late =>
      unfold pingInterval
      split
      · exact (tidy.repeatPingTimer armed late).cleanup other
      · rename_i opened
        apply tidy.pinged armed late
        rintro rfl
        exact apart ⟨timer, due, rfl, armed, Decidable.not_not.mp opened⟩
  | pongMissed => exact (tidy.steady ((here.clearPongTimer _).terminate _)).cleanup _
  | ticked => exact tidy.steady (here.congr rfl rfl rfl)
  | @forwarded uuid method path headers body id =>
      have issued := here.congr (u := s.issue id uuid) rfl rfl rfl
      exact tidy.steady (issued.forward server _ _ _ _ _ _ _)
  | shutDown => exact tidy.steady here.close

/-- After a pong of the socket none of its pong timers runs. -/
theorem unarmed_of_pong (tidy : s.Tidy server ws) (after : server.step s (.pong ws) = some s')
    (timer due : Nat) : s'.pongTimers.get timer ≠ some ⟨due, ws⟩ := by
  simp only [step, Option.ite_none_right_eq_some, Option.some.injEq] at after
  obtain ⟨_, rfl⟩ := after
  rcases State.whenAdmitted_cases s ws (fun _ _ => s.handlePong ws) with
    ⟨conn, certPoint, _, ran⟩ | ⟨unadmitted, skipped⟩
  · rw [ran]
    exact tidy.unarmed_handlePong timer due
  · rw [skipped]
    intro armed
    obtain ⟨k, held, holds⟩ := tidy.ponging timer due armed
    obtain ⟨conn, found, rfl⟩ := Option.map_eq_some_iff.mp held
    have uncertified : conn.certPoint = none := by
      cases certified : conn.certPoint with
      | none => rfl
      | some certPoint => exact absurd ⟨found, certified⟩ (unadmitted conn certPoint)
    have idle := (tidy.idle _ held (tidy.admitted _ held uncertified)).2
    rw [holds] at idle
    contradiction

end RelayServer

end DicodeRelay.Relay
