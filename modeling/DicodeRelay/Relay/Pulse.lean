import DicodeRelay.Relay.Keepalive
import Mathlib.Logic.Function.Basic

/-!
Contract: the keepalives of all connections together.

Owns:
- the closures and timers of the keepalives, and the few ways one event moves
  them;
- that no handle is shared between connections: what a connection clears is its
  own;
- that a connection has an armed ping interval exactly while it is registered, and
  then one.

Does not own: how long a connection stays registered.
-/

namespace DicodeRelay.Relay

open DicodeRelay.Lib DicodeRelay.Shared

/-- The clock, the closures of all connections and the timers of the keepalives. -/
@[ext] structure Pulse where
  now : Nat
  closure : ConnId → Option Keepalive
  pingTimers : Timers ConnId
  pongTimers : Timers ConnId

def State.pulse (s : State) : Pulse := ⟨s.now, s.keepalive, s.pingTimers, s.pongTimers⟩

theorem State.pulse_closure {s : State} {ws : ConnId} {conn : Conn}
    (found : s.conns.get ws = some conn) : s.pulse.closure ws = some conn.keepalive := by
  simp [pulse, keepalive, found]

namespace Pulse

def modify (p : Pulse) (ws : ConnId) (f : Keepalive → Keepalive) : Pulse :=
  { p with closure := Function.update p.closure ws ((p.closure ws).map f) }

def accept (p : Pulse) (ws : ConnId) (certPoint : Option Bytes) : Pulse :=
  { p with closure := Function.update p.closure ws (some ⟨certPoint, none, none, none⟩) }

def clearPing (p : Pulse) (timer : Option Nat) : Pulse :=
  { p with pingTimers := timer.elim p.pingTimers p.pingTimers.clear }

def clearPong (p : Pulse) (timer : Option Nat) : Pulse :=
  { p with pongTimers := timer.elim p.pongTimers p.pongTimers.clear }

def cleanup (p : Pulse) (ws : ConnId) : Pulse :=
  match p.closure ws with
  | none => p
  | some k => ((p.clearPing k.pingTimer).clearPong k.pongTimer).modify ws
      fun k => ⟨k.certPoint, none, none, none⟩

def register (p : Pulse) (ws : ConnId) (uuid : String) (due : Nat) : Pulse :=
  let timer := p.pingTimers.next
  { p with pingTimers := p.pingTimers.start due ws }.modify ws fun k =>
    { k with registeredUuid := some uuid, pingTimer := some timer }

def putOff (p : Pulse) (timer due : Nat) : Pulse :=
  { p with pingTimers := p.pingTimers.reschedule timer due }

def ping (p : Pulse) (ws : ConnId) (due : Nat) : Pulse :=
  let timer := p.pongTimers.next
  { p with pongTimers := p.pongTimers.start due ws }.modify ws fun k =>
    { k with pongTimer := some timer }

def pong (p : Pulse) (ws : ConnId) : Pulse :=
  match (p.closure ws).bind Keepalive.pongTimer with
  | none => p
  | some timer => (p.clearPong (some timer)).modify ws fun k => { k with pongTimer := none }

@[simp] theorem cleanup_now (p : Pulse) (ws : ConnId) : (p.cleanup ws).now = p.now := by
  unfold cleanup
  split <;> rfl

@[simp] theorem pong_now (p : Pulse) (ws : ConnId) : (p.pong ws).now = p.now := by
  unfold pong
  split <;> rfl

theorem modify_closure_self (p : Pulse) (ws : ConnId) (f : Keepalive → Keepalive) :
    (p.modify ws f).closure ws = (p.closure ws).map f :=
  Function.update_self ..

theorem modify_closure_of_ne (p : Pulse) {ws other : ConnId} (f : Keepalive → Keepalive)
    (different : other ≠ ws) : (p.modify ws f).closure other = p.closure other :=
  Function.update_of_ne different ..

theorem accept_closure_self (p : Pulse) (ws : ConnId) (certPoint : Option Bytes) :
    (p.accept ws certPoint).closure ws = some ⟨certPoint, none, none, none⟩ :=
  Function.update_self ..

theorem accept_closure_of_ne (p : Pulse) {ws other : ConnId} (certPoint : Option Bytes)
    (different : other ≠ ws) : (p.accept ws certPoint).closure other = p.closure other :=
  Function.update_of_ne different ..

theorem modify_id (p : Pulse) {ws : ConnId} {f : Keepalive → Keepalive} (same : ∀ k, f k = k) :
    p.modify ws f = p := by
  have fixed : (p.closure ws).map f = p.closure ws := by
    cases p.closure ws with
    | none => rfl
    | some k => rw [Option.map_some, same]
  rw [modify, fixed, Function.update_eq_self]

end Pulse

/-! ### What leaves the keepalives alone -/

namespace State

@[simp] theorem pulse_emit (s : State) (effect : Effect) : (s.emit effect).pulse = s.pulse := rfl

theorem pulse_modifyConn (s : State) (ws : ConnId) {f : Conn → Conn} {g : Keepalive → Keepalive}
    (same : ∀ conn, (f conn).keepalive = g conn.keepalive) :
    (s.modifyConn ws f).pulse = s.pulse.modify ws g := by
  have timers := s.timers_modifyConn ws f
  ext1
  · simp only [pulse, modifyConn, Pulse.modify]
    split <;> rfl
  · funext other
    by_cases own : other = ws
    · subst own
      rw [Pulse.modify_closure_self]
      exact s.keepalive_modifyConn other same
    · rw [Pulse.modify_closure_of_ne _ _ own]
      simp only [pulse, keepalive]
      unfold modifyConn
      split
      · rfl
      · rw [OrderedMap.get_set_of_ne _ _ (Ne.symm own)]
  · exact timers.1
  · exact timers.2

theorem pulse_modifyConn_same (s : State) (ws : ConnId) {f : Conn → Conn}
    (same : ∀ conn, (f conn).keepalive = conn.keepalive) :
    (s.modifyConn ws f).pulse = s.pulse := by
  rw [s.pulse_modifyConn ws (g := id) same]
  exact s.pulse.modify_id fun _ => rfl

@[simp] theorem pulse_terminate (s : State) (ws : ConnId) : (s.terminate ws).pulse = s.pulse := by
  rw [terminate, pulse_modifyConn_same _ _ Steady.keepalive_startClosing, pulse_emit]

@[simp] theorem pulse_closeSocket (s : State) (ws : ConnId) (code : Option Nat) (reason : String) :
    (s.closeSocket ws code reason).pulse = s.pulse := by
  rw [closeSocket, pulse_modifyConn_same _ _ Steady.keepalive_startClosing, pulse_emit]

@[simp] theorem pulse_socketClosed (s : State) (ws : ConnId) :
    (s.socketClosed ws).pulse = s.pulse :=
  s.pulse_modifyConn_same ws fun _ => rfl

@[simp] theorem pulse_terminateClients (s : State) (clients : List ConnectedClient) :
    (s.terminateClients clients).pulse = s.pulse := by
  induction clients generalizing s with
  | nil => rfl
  | cons client rest inductionHypothesis =>
      rw [terminateClients, inductionHypothesis, pulse_terminate]

@[simp] theorem pulse_deregister (s : State) (ws : ConnId) (conn : Conn) :
    (s.deregister ws conn).pulse = s.pulse := by
  unfold deregister
  repeat' split
  all_goals rfl

@[simp] theorem pulse_removePending (s : State) (id : String) :
    (s.removePending id).1.pulse = s.pulse := by
  unfold removePending
  split <;> rfl

@[simp] theorem pulse_requestTimeout (s : State) (id : String) :
    (s.requestTimeout id).pulse = s.pulse :=
  s.pulse_removePending id

@[simp] theorem pulse_handleResponse (s : State) (response : Response) :
    (s.handleResponse response).pulse = s.pulse := by
  have removed := s.pulse_removePending response.id
  unfold handleResponse
  split
  · rfl
  · split <;> rename_i found <;> rw [found] at removed
    · exact removed
    · exact removed

@[simp] theorem pulse_rejectPending (s : State) (entries : List (String × PendingRequest)) :
    (s.rejectPending entries).pulse = s.pulse := by
  induction entries generalizing s with
  | nil => rfl
  | cons entry rest inductionHypothesis =>
      rw [rejectPending, inductionHypothesis]
      rfl

@[simp] theorem pulse_evictPrevious (s : State) (uuid : String) :
    (s.evictPrevious uuid).pulse = s.pulse := by
  unfold evictPrevious
  split
  · rfl
  · rw [pulse_terminate]
    rfl

theorem pulse_close (s : State) : s.close.pulse = s.pulse :=
  (pulse_terminateClients _ _).trans (s.pulse_rejectPending s.pending.entries)

end State

namespace RelayServer

variable (server : RelayServer)

@[simp] theorem pulse_sendServerMessage (s : State) (ws : ConnId) (msg : ServerMessage) :
    (server.sendServerMessage s ws msg).pulse = s.pulse := by
  unfold sendServerMessage
  split <;> rfl

@[simp] theorem pulse_sendError (s : State) (ws : ConnId) (message : String) :
    (server.sendError s ws message).pulse = s.pulse :=
  server.pulse_sendServerMessage s ws _

theorem pulse_forward (s : State) (uuid method path : String) (headers : Headers) (body : Bytes)
    (id : String) (bufferedAmount : Nat) :
    (server.forward s uuid method path headers body id bufferedAmount).pulse = s.pulse := by
  unfold forward
  repeat' split
  all_goals first | rfl | rw [pulse_sendServerMessage]; rfl

end RelayServer

/-! ### What moves them -/

namespace State

theorem pulse_accept (s : State) (ws : ConnId) (conn : Conn) :
    (s.accept ws conn).pulse =
      { s.pulse with closure := Function.update s.pulse.closure ws (some conn.keepalive) } := by
  ext1
  · rfl
  · funext other
    by_cases own : other = ws
    · subst own
      simp [pulse, keepalive, accept]
    · simp [pulse, keepalive, accept, OrderedMap.get_set_of_ne _ _ (Ne.symm own), own]
  · rfl
  · rfl

theorem pulse_clearKeepalive (s : State) (conn : Conn) :
    (s.clearKeepalive conn).pulse =
      (s.pulse.clearPing conn.pingTimer).clearPong conn.pongTimer := by
  unfold clearKeepalive
  cases conn.pingTimer <;> cases conn.pongTimer <;> rfl

theorem pulse_cleanup (s : State) (ws : ConnId) : (s.cleanup ws).pulse = s.pulse.cleanup ws := by
  unfold cleanup Pulse.cleanup
  cases found : s.conns.get ws with
  | none => simp [pulse, keepalive, found]
  | some conn =>
      have held := pulse_closure found
      have cleared := ((s.clearKeepalive conn).deregister ws conn).pulse_modifyConn ws
        (f := fun conn =>
          { conn with registeredUuid := none, pingTimer := none, pongTimer := none })
        (g := fun k => ⟨k.certPoint, none, none, none⟩) fun _ => rfl
      simp only [held]
      rw [cleared, pulse_deregister, pulse_clearKeepalive]
      rfl

theorem pulse_handlePong (s : State) (ws : ConnId) : (s.handlePong ws).pulse = s.pulse.pong ws := by
  have same : (s.pulse.closure ws).bind Keepalive.pongTimer =
      (s.conns.get ws).bind Conn.pongTimer := by
    simp only [pulse, keepalive]
    cases s.conns.get ws <;> rfl
  unfold handlePong Pulse.pong
  rw [same]
  cases (s.conns.get ws).bind Conn.pongTimer with
  | none => rfl
  | some timer => exact (s.clearPongTimer timer).pulse_modifyConn ws fun _ => rfl

end State

theorem RelayServer.pulse_startKeepalive (server : RelayServer) (s : State) (ws : ConnId) :
    (server.startKeepalive s ws).pulse =
      (Pulse.mk s.now s.pulse.closure
        (s.pingTimers.start (s.now + timerDelay server.pingIntervalMs) ws) s.pongTimers).modify ws
        fun k => { k with pingTimer := some s.pingTimers.next } :=
  State.pulse_modifyConn _ ws fun _ => rfl

theorem RelayServer.pulse_register (server : RelayServer) (s : State) (ws : ConnId)
    (certPoint : Bytes) (hello : Hello) :
    (server.register s ws certPoint hello).pulse =
      s.pulse.register ws (server.crypto.uuidFromP256Point certPoint)
        (s.now + timerDelay server.pingIntervalMs) := by
  let uuid := server.crypto.uuidFromP256Point certPoint
  let marked := ((s.evictPrevious uuid).putClient
    ⟨ws, uuid, certPoint, base64Decode hello.decryptPubkey.toList⟩).modifyConn ws fun conn =>
      { conn with registeredUuid := some uuid }
  let welcomed := (server.sendServerMessage marked ws (.welcome (server.welcome uuid))).emit
    (.clientConnected uuid)
  have entered : welcomed.pulse =
      s.pulse.modify ws fun k => { k with registeredUuid := some uuid } := by
    have marks := State.pulse_modifyConn ((s.evictPrevious uuid).putClient
      ⟨ws, uuid, certPoint, base64Decode hello.decryptPubkey.toList⟩) ws
      (f := fun conn => { conn with registeredUuid := some uuid })
      (g := fun k => { k with registeredUuid := some uuid }) fun _ => rfl
    exact (server.pulse_sendServerMessage marked ws _).trans
      (marks.trans (congrArg (Pulse.modify · ws _) (s.pulse_evictPrevious uuid)))
  have now : welcomed.now = s.now := congrArg Pulse.now entered
  have pingTimers : welcomed.pingTimers = s.pingTimers := congrArg Pulse.pingTimers entered
  have pongTimers : welcomed.pongTimers = s.pongTimers := congrArg Pulse.pongTimers entered
  change (server.startKeepalive welcomed ws).pulse = _
  rw [pulse_startKeepalive, now, pingTimers, pongTimers, entered]
  simp only [Pulse.register, Pulse.modify, Function.update_self, Function.update_idem,
    Option.map_map]
  rfl

/-- The ways one event moves the keepalives. -/
inductive PulseMove (server : RelayServer) (s : State) : Event → Pulse → Prop where
  | quiet (e : Event) (stopped : ∀ ms, e ≠ .tick ms) : PulseMove server s e s.pulse
  | ticked (ms : Nat) : PulseMove server s (.tick ms) { s.pulse with now := s.now + ms }
  | accepted {ws : ConnId} {peerCert : Option PeerCertificate} (fresh : s.conns.get ws = none) :
      PulseMove server s (.connection ws peerCert)
        (s.pulse.accept ws (peerCert.bind extractP256PointFromCert))
  | registered {ws : ConnId} {frame : String} {certPoint : Bytes} {hello : Hello}
      (accepted : HelloAccepted server s (.message ws frame) ws certPoint hello) :
      PulseMove server s (.message ws frame)
        (s.pulse.register ws (server.crypto.uuidFromP256Point certPoint)
          (s.now + timerDelay server.pingIntervalMs))
  | ponged {ws : ConnId} (live : s.live ws = true) :
      PulseMove server s (.pong ws) (s.pulse.pong ws)
  | left {e : Event} {ws : ConnId} (stopped : ∀ ms, e ≠ .tick ms) :
      PulseMove server s e (s.pulse.cleanup ws)
  | pingLost {timer due : Nat} {ws : ConnId} (armed : s.pingTimers.get timer = some ⟨due, ws⟩)
      (late : due ≤ s.now) :
      PulseMove server s (.pingTimer timer)
        ((s.pulse.putOff timer (s.now + timerDelay server.pingIntervalMs)).cleanup ws)
  | pinged {timer due : Nat} {ws : ConnId} (armed : s.pingTimers.get timer = some ⟨due, ws⟩)
      (late : due ≤ s.now) :
      PulseMove server s (.pingTimer timer)
        ((s.pulse.putOff timer (s.now + timerDelay server.pingIntervalMs)).ping ws
          (s.now + timerDelay server.pongTimeoutMs))
  | pongMissed {timer due : Nat} {ws : ConnId} (armed : s.pongTimers.get timer = some ⟨due, ws⟩)
      (late : due ≤ s.now) :
      PulseMove server s (.pongTimer timer) ((s.pulse.clearPong (some timer)).cleanup ws)

/-- Only a tick moves the clock. -/
theorem PulseMove.now_eq {server : RelayServer} {s : State} {e : Event} {p : Pulse}
    (move : PulseMove server s e p) (stopped : ∀ ms, e ≠ .tick ms) : p.now = s.now := by
  cases move with
  | ticked ms => exact absurd rfl (stopped ms)
  | ponged => exact Pulse.pong_now _ _
  | left => exact Pulse.cleanup_now _ _
  | pingLost => exact Pulse.cleanup_now _ _
  | pongMissed => exact Pulse.cleanup_now _ _
  | _ => rfl

theorem PulseMove.now_le {server : RelayServer} {s : State} {e : Event} {p : Pulse}
    (move : PulseMove server s e p) : s.now ≤ p.now := by
  by_cases ticks : ∃ ms, e = .tick ms
  · obtain ⟨ms, rfl⟩ := ticks
    cases move with
    | ticked => exact Nat.le_add_right _ _
    | quiet _ stopped => exact absurd rfl (stopped ms)
    | left stopped => exact absurd rfl (stopped ms)
  · have stopped := move.now_eq fun ms same => ticks ⟨ms, same⟩
    exact Nat.le_of_eq stopped.symm

/-- One event moves the keepalives in one of the ways listed. -/
theorem RelayServer.pulse_step (server : RelayServer) {s s' : State} {e : Event}
    (after : server.step s e = some s') : PulseMove server s e s'.pulse := by
  have quiet : (∀ ms, e ≠ .tick ms) → s'.pulse = s.pulse → PulseMove server s e s'.pulse := by
    intro stopped same
    rw [same]
    exact .quiet e stopped
  cases stepCase_of_step after with
  | @connected ws peerCert fresh =>
      have accepts : (server.handleConnection s ws peerCert).pulse =
          s.pulse.accept ws (peerCert.bind extractP256PointFromCert) := by
        unfold handleConnection
        repeat' split
        all_goals simp only [State.pulse_closeSocket, pulse_sendError]
        all_goals exact s.pulse_accept ws _
      rw [accepts]
      exact .accepted fresh
  | ignored =>
      cases e with
      | tick ms =>
          have same := congrArg State.pulse (Option.some.inj after)
          rw [← same]
          exact .ticked ms
      | _ => exact .quiet _ (by simp)
  | turnedAway => exact quiet (by simp) (by simp)
  | registered live accepted =>
      rw [pulse_register]
      exact .registered accepted
  | answered => exact quiet (by simp) (by simp)
  | ponged live =>
      rw [State.pulse_handlePong]
      exact .ponged live
  | failedEarly => exact quiet (by simp) (by simp)
  | failed =>
      rw [State.pulse_cleanup, State.pulse_terminate]
      exact .left (by simp)
  | closedEarly => exact quiet (by simp) (by simp)
  | closed =>
      rw [State.pulse_cleanup, State.pulse_socketClosed]
      exact .left (by simp)
  | peerClosing => exact quiet (by simp) (s.pulse_modifyConn_same _ Steady.keepalive_startClosing)
  | timedOut => exact quiet (by simp) (State.pulse_requestTimeout _ _)
  | @pinged timer due ws armed late =>
      unfold pingInterval
      split
      · rw [State.pulse_cleanup]
        exact .pingLost armed late
      · have started := State.pulse_modifyConn (State.startPongTimer
          ((s.repeatPingTimer server.pingIntervalMs timer).emit (.ping ws)) server.pongTimeoutMs ws)
          ws (f := fun conn => { conn with pongTimer := some s.pongTimers.next })
          (g := fun k => { k with pongTimer := some s.pongTimers.next }) fun _ => rfl
        have same : ((s.pulse.putOff timer (s.now + timerDelay server.pingIntervalMs)).ping ws
            (s.now + timerDelay server.pongTimeoutMs)) = _ := started.symm
        have move : PulseMove server s (.pingTimer timer) _ := .pinged armed late
        rw [same] at move
        exact move
  | pongMissed armed late =>
      rw [State.pongTimeout, State.pulse_cleanup, State.pulse_terminate]
      exact .pongMissed armed late
  | ticked ms => exact .ticked ms
  | forwarded => exact quiet (by simp) (server.pulse_forward _ _ _ _ _ _ _ _)
  | shutDown => exact quiet (by simp) s.pulse_close

/-! ### Handles are not shared -/

/-- The handle in a closure is one of its own timers, and a connection has a ping
interval exactly while it is registered. -/
structure Pulse.Sound (p : Pulse) : Prop where
  armed : ∀ ws k timer, p.closure ws = some k → k.pingTimer = some timer →
    ∃ due, p.pingTimers.get timer = some ⟨due, ws⟩
  held : ∀ ws timer due, p.pingTimers.get timer = some ⟨due, ws⟩ →
    ∃ k, p.closure ws = some k ∧ k.pingTimer = some timer
  registered : ∀ ws k, p.closure ws = some k → (k.pingTimer = none ↔ k.registeredUuid = none)
  owned : ∀ ws k timer due other, p.closure ws = some k → k.pongTimer = some timer →
    p.pongTimers.get timer = some ⟨due, other⟩ → other = ws
  issued : ∀ ws k timer, p.closure ws = some k → k.pongTimer = some timer →
    timer < p.pongTimers.next

namespace Pulse.Sound

variable {p : Pulse} {ws : ConnId}

theorem accept (sound : p.Sound) (fresh : p.closure ws = none) (certPoint : Option Bytes) :
    (p.accept ws certPoint).Sound := by
  have before : ∀ {other k}, (p.accept ws certPoint).closure other = some k →
      k = ⟨certPoint, none, none, none⟩ ∨ p.closure other = some k := by
    intro other k found
    by_cases own : other = ws
    · subst own
      rw [accept_closure_self] at found
      exact Or.inl (Option.some.inj found).symm
    · rw [accept_closure_of_ne _ _ own] at found
      exact Or.inr found
  constructor
  · intro other k timer found holds
    rcases before found with rfl | old
    · contradiction
    · exact sound.armed other k timer old holds
  · intro other timer due running
    obtain ⟨k, found, holds⟩ := sound.held other timer due running
    have different : other ≠ ws := by
      rintro rfl
      rw [fresh] at found
      contradiction
    exact ⟨k, (p.accept_closure_of_ne _ different).trans found, holds⟩
  · intro other k found
    rcases before found with rfl | old
    · exact iff_of_true rfl rfl
    · exact sound.registered other k old
  · intro other k timer due owner found holds running
    rcases before found with rfl | old
    · contradiction
    · exact sound.owned other k timer due owner old holds running
  · intro other k timer found holds
    rcases before found with rfl | old
    · contradiction
    · exact sound.issued other k timer old holds

theorem clearPong (sound : p.Sound) (timer : Nat) : (p.clearPong (some timer)).Sound where
  armed := sound.armed
  held := sound.held
  registered := sound.registered
  owned other k handle due owner found holds running := by
    have cleared := p.pongTimers.get_clear timer handle
    rw [show (p.clearPong (some timer)).pongTimers.get handle = _ from cleared] at running
    split at running
    · contradiction
    · exact sound.owned other k handle due owner found holds running
  issued := sound.issued

theorem putOff (sound : p.Sound) (timer due : Nat) : (p.putOff timer due).Sound where
  armed other k handle found holds := by
    obtain ⟨next, running⟩ := sound.armed other k handle found holds
    have later := p.pingTimers.get_reschedule timer due handle
    rw [show (p.putOff timer due).pingTimers.get handle = _ from later]
    split
    · rename_i same
      subst same
      exact ⟨due, by rw [running]; rfl⟩
    · exact ⟨next, running⟩
  held other handle next running := by
    have later := p.pingTimers.get_reschedule timer due handle
    rw [show (p.putOff timer due).pingTimers.get handle = _ from later] at running
    split at running
    · rename_i same
      subst same
      obtain ⟨t, found, equal⟩ := Option.map_eq_some_iff.mp running
      cases equal
      exact sound.held _ timer t.due found
    · exact sound.held other handle next running
  registered := sound.registered
  owned := sound.owned
  issued := sound.issued

/-- Changes of a closure that spare its ping interval. -/
theorem modify (sound : p.Sound) {f : Keepalive → Keepalive}
    (spares : ∀ k, (f k).pingTimer = k.pingTimer ∧ (f k).registeredUuid = k.registeredUuid)
    (own : ∀ k timer, p.closure ws = some k → (f k).pongTimer = some timer →
      timer < p.pongTimers.next ∧
        ∀ due other, p.pongTimers.get timer = some ⟨due, other⟩ → other = ws) :
    (p.modify ws f).Sound := by
  have before : ∀ {other k}, (p.modify ws f).closure other = some k →
      ∃ k', p.closure other = some k' ∧
        (other = ws ∧ k = f k' ∨ other ≠ ws ∧ k = k') := by
    intro other k found
    by_cases same : other = ws
    · subst same
      rw [modify_closure_self, Option.map_eq_some_iff] at found
      obtain ⟨k', found', equal⟩ := found
      exact ⟨k', found', Or.inl ⟨rfl, equal.symm⟩⟩
    · rw [modify_closure_of_ne _ _ same] at found
      exact ⟨k, found, Or.inr ⟨same, rfl⟩⟩
  constructor
  · intro other k timer found holds
    obtain ⟨k', found', ⟨_, rfl⟩ | ⟨_, rfl⟩⟩ := before found
    · exact sound.armed other k' timer found' ((spares k').1.symm.trans holds)
    · exact sound.armed other k timer found' holds
  · intro other timer due running
    obtain ⟨k, found, holds⟩ := sound.held other timer due running
    by_cases same : other = ws
    · subst same
      refine ⟨f k, ?_, (spares k).1.trans holds⟩
      rw [modify_closure_self, found]
      rfl
    · exact ⟨k, (p.modify_closure_of_ne _ same).trans found, holds⟩
  · intro other k found
    obtain ⟨k', found', ⟨_, rfl⟩ | ⟨_, rfl⟩⟩ := before found
    · rw [(spares k').1, (spares k').2]
      exact sound.registered other k' found'
    · exact sound.registered other k found'
  · intro other k timer due owner found holds running
    obtain ⟨k', found', ⟨rfl, rfl⟩ | ⟨_, rfl⟩⟩ := before found
    · exact (own k' timer found' holds).2 due owner running
    · exact sound.owned other k timer due owner found' holds running
  · intro other k timer found holds
    obtain ⟨k', found', ⟨rfl, rfl⟩ | ⟨_, rfl⟩⟩ := before found
    · exact (own k' timer found' holds).1
    · exact sound.issued other k timer found' holds

theorem pong (sound : p.Sound) (ws : ConnId) : (p.pong ws).Sound := by
  unfold Pulse.pong
  split
  · exact sound
  · have spares : ∀ k : Keepalive, ({ k with pongTimer := none } : Keepalive).pingTimer =
        k.pingTimer ∧ ({ k with pongTimer := none } : Keepalive).registeredUuid =
          k.registeredUuid := fun _ => ⟨rfl, rfl⟩
    apply (sound.clearPong _).modify spares
    intro k timer _ holds
    contradiction

theorem ping (sound : p.Sound) (ws : ConnId) (due : Nat) : (p.ping ws due).Sound := by
  have started : ∀ timer, (p.pongTimers.start due ws).get timer =
      if p.pongTimers.next = timer then some ⟨due, ws⟩ else p.pongTimers.get timer :=
    p.pongTimers.get_start due ws
  have running : Sound { p with pongTimers := p.pongTimers.start due ws } := by
    refine ⟨sound.armed, sound.held, sound.registered, ?_, ?_⟩
    · intro other k timer next owner found holds armed
      have earlier := sound.issued other k timer found holds
      rw [started, if_neg (by omega)] at armed
      exact sound.owned other k timer next owner found holds armed
    · intro other k timer found holds
      exact Nat.lt_succ_of_lt (sound.issued other k timer found holds)
  have spares : ∀ k : Keepalive,
      ({ k with pongTimer := some p.pongTimers.next } : Keepalive).pingTimer = k.pingTimer ∧
        ({ k with pongTimer := some p.pongTimers.next } : Keepalive).registeredUuid =
          k.registeredUuid := fun _ => ⟨rfl, rfl⟩
  apply running.modify spares
  intro k timer _ holds
  obtain rfl := Option.some.inj holds
  refine ⟨Nat.lt_succ_self _, ?_⟩
  intro next owner armed
  rw [started, if_pos rfl] at armed
  cases armed
  rfl

theorem register (sound : p.Sound) {k : Keepalive} (found : p.closure ws = some k)
    (unregistered : k.registeredUuid = none) (uuid : String) (due : Nat) :
    (p.register ws uuid due).Sound := by
  have unarmed : k.pingTimer = none := (sound.registered ws k found).mpr unregistered
  have here : (p.register ws uuid due).closure ws =
      some { k with registeredUuid := some uuid, pingTimer := some p.pingTimers.next } := by
    rw [Pulse.register, modify_closure_self, found]
    rfl
  have others : ∀ {other}, other ≠ ws →
      (p.register ws uuid due).closure other = p.closure other :=
    fun different => modify_closure_of_ne _ _ different
  have started : ∀ timer, (p.register ws uuid due).pingTimers.get timer =
      if p.pingTimers.next = timer then some ⟨due, ws⟩ else p.pingTimers.get timer :=
    p.pingTimers.get_start due ws
  constructor
  · intro other k' timer found' holds
    rw [started]
    by_cases same : other = ws
    · subst same
      rw [here] at found'
      cases found'
      rw [if_pos (Option.some.inj holds)]
      exact ⟨due, rfl⟩
    · rw [others same] at found'
      obtain ⟨next, running⟩ := sound.armed other k' timer found' holds
      have old : p.pingTimers.next ≠ timer := by
        rintro rfl
        rw [p.pingTimers.get_next] at running
        contradiction
      rw [if_neg old]
      exact ⟨next, running⟩
  · intro other timer next running
    rw [started] at running
    split at running
    · rename_i same
      subst same
      cases running
      exact ⟨_, here, rfl⟩
    · obtain ⟨k', found', holds⟩ := sound.held other timer next running
      have different : other ≠ ws := by
        rintro rfl
        rw [found] at found'
        cases found'
        rw [unarmed] at holds
        contradiction
      exact ⟨k', (others different).trans found', holds⟩
  · intro other k' found'
    by_cases same : other = ws
    · subst same
      rw [here] at found'
      cases found'
      simp
    · rw [others same] at found'
      exact sound.registered other k' found'
  · intro other k' timer next owner found' holds running
    by_cases same : other = ws
    · subst same
      rw [here] at found'
      cases found'
      exact sound.owned other k timer next owner found holds running
    · rw [others same] at found'
      exact sound.owned other k' timer next owner found' holds running
  · intro other k' timer found' holds
    by_cases same : other = ws
    · subst same
      rw [here] at found'
      cases found'
      exact sound.issued other k timer found holds
    · rw [others same] at found'
      exact sound.issued other k' timer found' holds

/-- A timer of another connection survives when the ping interval of this one is
cleared. -/
theorem get_clearPing (sound : p.Sound) {k : Keepalive} (found : p.closure ws = some k)
    {other : ConnId} {timer due : Nat} (running : p.pingTimers.get timer = some ⟨due, other⟩)
    (different : other ≠ ws) :
    (p.clearPing k.pingTimer).pingTimers.get timer = some ⟨due, other⟩ := by
  unfold clearPing
  cases holds : k.pingTimer with
  | none => exact running
  | some handle =>
      obtain ⟨next, armed⟩ := sound.armed ws k handle found holds
      have apart : handle ≠ timer := by
        rintro rfl
        rw [running] at armed
        cases armed
        exact different rfl
      exact (p.pingTimers.get_clear handle timer).trans ((if_neg apart).trans running)

/-- And when its pong timer is. -/
theorem get_clearPong (sound : p.Sound) {k : Keepalive} (found : p.closure ws = some k)
    {other : ConnId} {timer due : Nat} (running : p.pongTimers.get timer = some ⟨due, other⟩)
    (different : other ≠ ws) :
    (p.clearPong k.pongTimer).pongTimers.get timer = some ⟨due, other⟩ := by
  unfold Pulse.clearPong
  cases holds : k.pongTimer with
  | none => exact running
  | some handle =>
      have apart : handle ≠ timer := by
        rintro rfl
        exact different (sound.owned ws k handle due other found holds running)
      exact (p.pongTimers.get_clear handle timer).trans ((if_neg apart).trans running)

theorem cleanup_closure_self {k : Keepalive} (found : p.closure ws = some k) :
    (p.cleanup ws).closure ws = some ⟨k.certPoint, none, none, none⟩ := by
  rw [Pulse.cleanup, found]
  dsimp only
  rw [modify_closure_self]
  simp [clearPing, Pulse.clearPong, found]

theorem cleanup_closure_of_ne (p : Pulse) {ws other : ConnId} (different : other ≠ ws) :
    (p.cleanup ws).closure other = p.closure other := by
  unfold Pulse.cleanup
  split
  · rfl
  · exact modify_closure_of_ne _ _ different

theorem cleanup (sound : p.Sound) (ws : ConnId) : (p.cleanup ws).Sound := by
  cases found : p.closure ws with
  | none =>
      have same : p.cleanup ws = p := by rw [Pulse.cleanup, found]
      rw [same]
      exact sound
  | some k =>
      have equal : p.cleanup ws = ((p.clearPing k.pingTimer).clearPong k.pongTimer).modify ws
          fun k => ⟨k.certPoint, none, none, none⟩ := by rw [Pulse.cleanup, found]
      have pings : (p.cleanup ws).pingTimers = (p.clearPing k.pingTimer).pingTimers := by
        rw [equal]
        rfl
      have pongs : (p.cleanup ws).pongTimers = (p.clearPong k.pongTimer).pongTimers := by
        rw [equal]
        rfl
      have before : ∀ {other k'}, (p.cleanup ws).closure other = some k' →
          k' = ⟨k.certPoint, none, none, none⟩ ∨
            (other ≠ ws ∧ p.closure other = some k') := by
        intro other k' found'
        by_cases own : other = ws
        · subst own
          rw [cleanup_closure_self found] at found'
          exact Or.inl (Option.some.inj found').symm
        · rw [cleanup_closure_of_ne p own] at found'
          exact Or.inr ⟨own, found'⟩
      -- Clearing only takes timers away.
      have survives : ∀ {timer due other}, (p.clearPing k.pingTimer).pingTimers.get timer =
          some ⟨due, other⟩ → p.pingTimers.get timer = some ⟨due, other⟩ ∧
            k.pingTimer ≠ some timer := by
        intro timer due other running
        unfold clearPing at running
        cases holds : k.pingTimer with
        | none =>
            rw [holds] at running
            exact ⟨running, by simp⟩
        | some handle =>
            rw [holds] at running
            have cleared := p.pingTimers.get_clear handle timer
            rw [show (Option.elim (some handle) p.pingTimers p.pingTimers.clear).get timer = _
              from cleared] at running
            split at running
            · contradiction
            · rename_i apart
              exact ⟨running, by simpa using apart⟩
      constructor
      · intro other k' timer found' holds
        rcases before found' with rfl | ⟨different, old⟩
        · contradiction
        · obtain ⟨due, running⟩ := sound.armed other k' timer old holds
          rw [pings]
          exact ⟨due, sound.get_clearPing found running different⟩
      · intro other timer due running
        rw [pings] at running
        obtain ⟨earlier, foreign⟩ := survives running
        obtain ⟨k', old, holds⟩ := sound.held other timer due earlier
        have different : other ≠ ws := by
          rintro rfl
          rw [found] at old
          cases old
          exact foreign holds
        exact ⟨k', (cleanup_closure_of_ne p different).trans old, holds⟩
      · intro other k' found'
        rcases before found' with rfl | ⟨_, old⟩
        · exact iff_of_true rfl rfl
        · exact sound.registered other k' old
      · intro other k' timer due owner found' holds running
        rcases before found' with rfl | ⟨_, old⟩
        · contradiction
        · rw [pongs] at running
          cases own : k.pongTimer with
          | none =>
              rw [own] at running
              exact sound.owned other k' timer due owner old holds running
          | some handle =>
              rw [own] at running
              exact (sound.clearPong handle).owned other k' timer due owner old holds running
      · intro other k' timer found' holds
        rcases before found' with rfl | ⟨_, old⟩
        · contradiction
        · have earlier := sound.issued other k' timer old holds
          rw [pongs]
          unfold Pulse.clearPong
          cases k.pongTimer <;> exact earlier

end Pulse.Sound

theorem PulseMove.sound {server : RelayServer} {s : State} {e : Event} {p : Pulse}
    (move : PulseMove server s e p) (sound : s.pulse.Sound) : p.Sound := by
  cases move with
  | quiet => exact sound
  | ticked ms => exact ⟨sound.armed, sound.held, sound.registered, sound.owned, sound.issued⟩
  | accepted fresh =>
      apply sound.accept
      simp [State.pulse, State.keepalive, fresh]
  | registered accepted =>
      obtain ⟨conn, found, _, unregistered⟩ := accepted.unregistered
      exact sound.register (State.pulse_closure found) unregistered _ _
  | ponged => exact sound.pong _
  | left => exact sound.cleanup _
  | pingLost => exact (sound.putOff _ _).cleanup _
  | pinged => exact (sound.putOff _ _).ping _ _
  | pongMissed => exact (sound.clearPong _).cleanup _

theorem RelayServer.pulse_run (server : RelayServer) {events : List Event} {s : State}
    (ran : server.machine.run events = some s) : s.pulse.Sound := by
  refine Machine.state_invariant (P := fun s => s.pulse.Sound) ?_ ?_ ran
  · constructor
    · intro ws k timer found
      contradiction
    · intro ws timer due running
      contradiction
    · intro ws k found
      contradiction
    · intro ws k timer due other found
      contradiction
    · intro ws k timer found
      contradiction
  · intro s e s' sound after
    exact (server.pulse_step after).sound sound

/-- In every state a socket has an armed ping interval if and only if it has
registered and not been cleaned up since, and never two: none is leaked, whatever
order sockets register, are replaced, fail and close in. -/
theorem ping_intervals_match (server : RelayServer) {events : List Event} {s : State}
    (ran : server.machine.run events = some s) (ws : ConnId) :
    ((∃ timer due, s.pingTimers.get timer = some ⟨due, ws⟩) ↔
        ∃ conn uuid, s.conns.get ws = some conn ∧ conn.registeredUuid = some uuid) ∧
      ∀ timer due timer' due', s.pingTimers.get timer = some ⟨due, ws⟩ →
        s.pingTimers.get timer' = some ⟨due', ws⟩ → timer = timer' := by
  have sound := server.pulse_run ran
  refine ⟨⟨?_, ?_⟩, ?_⟩
  · rintro ⟨timer, due, running⟩
    obtain ⟨k, found, holds⟩ := sound.held ws timer due running
    obtain ⟨conn, present, rfl⟩ := Option.map_eq_some_iff.mp found
    have registered : conn.registeredUuid ≠ none := by
      intro none
      have unarmed := (sound.registered ws conn.keepalive found).mpr none
      rw [holds] at unarmed
      contradiction
    obtain ⟨uuid, registered⟩ := Option.ne_none_iff_exists'.mp registered
    exact ⟨conn, uuid, present, registered⟩
  · rintro ⟨conn, uuid, present, registered⟩
    have found := State.pulse_closure present
    have pinging : conn.keepalive.pingTimer ≠ none := by
      intro none
      have unregistered := (sound.registered ws conn.keepalive found).mp none
      rw [show conn.keepalive.registeredUuid = some uuid from registered] at unregistered
      contradiction
    obtain ⟨timer, holds⟩ := Option.ne_none_iff_exists'.mp pinging
    exact ⟨timer, sound.armed ws conn.keepalive timer found holds⟩
  · intro timer due timer' due' running running'
    obtain ⟨k, found, holds⟩ := sound.held ws timer due running
    obtain ⟨k', found', holds'⟩ := sound.held ws timer' due' running'
    obtain rfl := Option.some.inj (found.symm.trans found')
    exact Option.some.inj (holds.symm.trans holds')

/-- The interval of daemon A. -/
theorem ping_intervals_match_admission : ∃ s,
    Sample.server.machine.run Sample.admission = some s ∧
      ((∃ timer due, s.pingTimers.get timer = some ⟨due, 0⟩) ↔
        ∃ conn uuid, s.conns.get 0 = some conn ∧ conn.registeredUuid = some uuid) :=
  ⟨Sample.admitted, Sample.run_admission,
    (ping_intervals_match Sample.server Sample.run_admission 0).1⟩

end DicodeRelay.Relay
