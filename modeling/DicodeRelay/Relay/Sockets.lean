import DicodeRelay.Relay.Registry

/-!
Contract: the life of the server's sockets.

Owns:
- the one way of a socket from open to closed, over every operation;
- which sockets an event takes out of service;
- that an open socket was neither terminated nor has it emitted `close`.

Does not own: the registry, what is sent on a socket.
-/

namespace DicodeRelay.Relay

open DicodeRelay.Lib DicodeRelay.Shared

def State.closeEmitted (s : State) (ws : ConnId) : Bool :=
  (s.conns.get ws).any Conn.closeEmitted

theorem State.clients_rejectPending (s : State) (entries : List (String × PendingRequest)) :
    (s.rejectPending entries).clients = s.clients := by
  induction entries generalizing s with
  | nil => rfl
  | cons entry rest inductionHypothesis => exact inductionHypothesis _

/-- Between the states only sockets in `touched` change, a socket that is still
open was open, and neither was it terminated nor did it emit `close`; and no
pong timer starts. -/
structure Sinks (touched : ConnId → Prop) (s t : State) : Prop where
  others : ∀ ws, ¬ touched ws → t.readyState ws = s.readyState ws
  opened : ∀ ws, t.readyState ws = .opened → s.readyState ws = .opened ∧
    (.terminate ws ∈ t.log → .terminate ws ∈ s.log) ∧
    (t.closeEmitted ws = true → s.closeEmitted ws = true)
  terminated : ∀ ws, .terminate ws ∈ t.log → .terminate ws ∈ s.log ∨ touched ws
  present : ∀ ws, (s.conns.get ws).isSome → (t.conns.get ws).isSome
  pongTimers : ∀ timer armed, t.pongTimers.get timer = some armed →
    s.pongTimers.get timer = some armed
  pongNext : t.pongTimers.next = s.pongTimers.next
  closing : s.closing = true → t.closing = true

namespace Sinks

variable {touched : ConnId → Prop} {s t : State}

theorem refl (touched : ConnId → Prop) (s : State) : Sinks touched s s :=
  ⟨fun _ _ => rfl, fun _ opened => ⟨opened, id, id⟩, fun _ => Or.inl, fun _ => id,
    fun _ _ => id, rfl, id⟩

/-- The other parts of the state do not matter. -/
theorem congr {u : State} (sinks : Sinks touched s t) (conns : u.conns = t.conns)
    (log : u.log = t.log) (pongTimers : u.pongTimers = t.pongTimers)
    (closing : t.closing = true → u.closing = true) : Sinks touched s u where
  others ws untouched := by
    rw [← sinks.others ws untouched, State.readyState, State.readyState, conns]
  opened ws opened := by
    rw [State.readyState, conns] at opened
    rw [log, State.closeEmitted, conns]
    exact sinks.opened ws opened
  terminated ws member := sinks.terminated ws (log ▸ member)
  present ws before := conns ▸ sinks.present ws before
  pongTimers := pongTimers ▸ sinks.pongTimers
  pongNext := pongTimers ▸ sinks.pongNext
  closing before := closing (sinks.closing before)

theorem clearPongTimer (sinks : Sinks touched s t) (timer : Nat) :
    Sinks touched s (t.clearPongTimer timer) :=
  { sinks with
    pongTimers := by
      intro other armed found
      apply sinks.pongTimers
      simp only [State.clearPongTimer, Timers.get_clear] at found
      split at found
      · contradiction
      · exact found }

theorem emit (sinks : Sinks touched s t) {effect : Effect} (quiet : ∀ ws, effect ≠ .terminate ws) :
    Sinks touched s (t.emit effect) where
  others := sinks.others
  opened ws opened := by
    obtain ⟨before, log, closed⟩ := sinks.opened ws opened
    refine ⟨before, ?_, closed⟩
    intro member
    rcases List.mem_append.mp member with old | new
    · exact log old
    · exact absurd (List.mem_singleton.mp new).symm (quiet ws)
  terminated ws member := by
    rcases List.mem_append.mp member with old | new
    · exact sinks.terminated ws old
    · exact absurd (List.mem_singleton.mp new).symm (quiet ws)
  present := sinks.present
  pongTimers := sinks.pongTimers
  pongNext := sinks.pongNext
  closing := sinks.closing

/-- A change of one connection that does not open its socket. -/
theorem modifyConn (sinks : Sinks touched s t) {ws : ConnId} {f : Conn → Conn}
    (others : touched ws ∨ ∀ conn, (f conn).readyState = conn.readyState)
    (keeps : ∀ conn, (f conn).readyState = .opened →
      conn.readyState = .opened ∧ (f conn).closeEmitted = conn.closeEmitted) :
    Sinks touched s (t.modifyConn ws f) := by
  unfold State.modifyConn
  cases found : t.conns.get ws with
  | none => exact sinks
  | some conn =>
      refine ⟨?_, ?_, sinks.terminated, ?_, sinks.pongTimers, sinks.pongNext, sinks.closing⟩
      · intro other untouched
        rw [← sinks.others other untouched]
        by_cases same : ws = other
        · subst same
          rcases others with touches | still
          · exact absurd touches untouched
          · simp [State.readyState, found, still]
        · simp [State.readyState, OrderedMap.get_set_of_ne _ _ same]
      · intro other opened
        by_cases same : ws = other
        · subst same
          simp only [State.readyState, OrderedMap.get_set_self] at opened
          obtain ⟨before, closed⟩ := keeps conn opened
          have openedBefore : t.readyState ws = .opened := by simp [State.readyState, found, before]
          obtain ⟨first, log, emitted⟩ := sinks.opened ws openedBefore
          refine ⟨first, log, ?_⟩
          intro closeEmitted
          apply emitted
          simpa [State.closeEmitted, found, closed] using closeEmitted
        · simp only [State.readyState, OrderedMap.get_set_of_ne _ _ same] at opened
          obtain ⟨first, log, emitted⟩ := sinks.opened other opened
          refine ⟨first, log, ?_⟩
          intro closeEmitted
          apply emitted
          simpa [State.closeEmitted, OrderedMap.get_set_of_ne _ _ same] using closeEmitted
      · intro other before
        by_cases same : ws = other
        · simp [same]
        · simpa [OrderedMap.get_set_of_ne _ _ same] using sinks.present other before

theorem startClosing_closed (conn : Conn) : (State.startClosing conn).readyState ≠ .opened := by
  unfold State.startClosing
  split
  · simp
  · rename_i notOpened
    exact notOpened

theorem startClosing (sinks : Sinks touched s t) {ws : ConnId} (touches : touched ws) :
    Sinks touched s (t.modifyConn ws State.startClosing) :=
  sinks.modifyConn (Or.inl touches) fun conn opened => absurd opened (startClosing_closed conn)

/-- A terminated socket is not open. -/
theorem readyState_terminate (s : State) (ws : ConnId) :
    (s.terminate ws).readyState ws ≠ .opened := by
  unfold State.terminate State.modifyConn
  cases found : (s.emit (.terminate ws)).conns.get ws with
  | none => simp [State.readyState, found]
  | some conn => simp [State.readyState, startClosing_closed conn]

/-- The call may be logged after its effect on the socket. -/
theorem terminate_eq (s : State) (ws : ConnId) :
    s.terminate ws = (s.modifyConn ws State.startClosing).emit (.terminate ws) := by
  have sameConns : (s.emit (.terminate ws)).conns = s.conns := rfl
  unfold State.terminate State.modifyConn
  rw [sameConns]
  cases s.conns.get ws <;> rfl

theorem terminate (sinks : Sinks touched s t) {ws : ConnId} (touches : touched ws) :
    Sinks touched s (t.terminate ws) := by
  have closing := sinks.startClosing touches
  have notOpened := readyState_terminate t ws
  rw [terminate_eq] at notOpened ⊢
  refine ⟨closing.others, ?_, ?_, closing.present, closing.pongTimers, closing.pongNext,
    closing.closing⟩
  · intro other opened
    obtain ⟨before, log, emitted⟩ := closing.opened other opened
    refine ⟨before, ?_, emitted⟩
    intro member
    rcases List.mem_append.mp member with old | new
    · exact log old
    · rw [List.mem_singleton, Effect.terminate.injEq] at new
      rw [new] at opened
      exact absurd opened notOpened
  · intro other member
    rcases List.mem_append.mp member with old | new
    · exact closing.terminated other old
    · rw [List.mem_singleton, Effect.terminate.injEq] at new
      exact Or.inr (new ▸ touches)

theorem closeSocket (sinks : Sinks touched s t) {ws : ConnId} (touches : touched ws)
    (code : Option Nat) (reason : String) : Sinks touched s (t.closeSocket ws code reason) :=
  (sinks.emit (by simp)).startClosing touches

theorem sendServerMessage (server : RelayServer) (sinks : Sinks touched s t) (ws : ConnId)
    (msg : ServerMessage) : Sinks touched s (server.sendServerMessage t ws msg) := by
  unfold RelayServer.sendServerMessage
  split
  · exact sinks.emit (by simp)
  · exact sinks

/-- A change of one connection that leaves its socket alone. -/
theorem annotate (sinks : Sinks touched s t) (ws : ConnId) {f : Conn → Conn}
    (same : ∀ conn, (f conn).readyState = conn.readyState ∧
      (f conn).closeEmitted = conn.closeEmitted) : Sinks touched s (t.modifyConn ws f) := by
  apply sinks.modifyConn (Or.inr fun conn => (same conn).1)
  intro conn opened
  exact ⟨(same conn).1 ▸ opened, (same conn).2⟩

theorem clearKeepalive (sinks : Sinks touched s t) (conn : Conn) :
    Sinks touched s (t.clearKeepalive conn) := by
  have pings : ∀ timer, Sinks touched s (t.clearPingTimer timer) :=
    fun _ => sinks.congr rfl rfl rfl id
  unfold State.clearKeepalive
  cases conn.pingTimer <;> cases conn.pongTimer
  · exact sinks
  · exact sinks.clearPongTimer _
  · exact pings _
  · exact (pings _).clearPongTimer _

theorem deregister (sinks : Sinks touched s t) (ws : ConnId) (conn : Conn) :
    Sinks touched s (t.deregister ws conn) := by
  unfold State.deregister
  split
  · exact sinks
  · split
    · exact sinks
    · rename_i uuid _ _ current _
      split
      · have announced : Sinks touched s (t.emit (.clientDisconnected uuid)) := sinks.emit (by simp)
        exact announced.congr rfl rfl rfl id
      · exact sinks

theorem cleanup (sinks : Sinks touched s t) (ws : ConnId) : Sinks touched s (t.cleanup ws) := by
  unfold State.cleanup
  split
  · exact sinks
  · exact ((sinks.clearKeepalive _).deregister ws _).annotate ws fun _ => ⟨rfl, rfl⟩

theorem removePending (sinks : Sinks touched s t) (id : String) :
    Sinks touched s (t.removePending id).1 := by
  unfold State.removePending
  split
  · exact sinks
  · exact sinks.congr rfl rfl rfl (fun closing => closing)

theorem requestTimeout (sinks : Sinks touched s t) (id : String) :
    Sinks touched s (t.requestTimeout id) :=
  (sinks.removePending id).emit (by simp)

theorem handleResponse (sinks : Sinks touched s t) (response : Response) :
    Sinks touched s (t.handleResponse response) := by
  have removed := sinks.removePending response.id
  unfold State.handleResponse
  split
  · exact sinks
  · split <;> rename_i found <;> rw [found] at removed
    · exact removed
    · rename_i after req
      have cleared : Sinks touched s (after.clearRequestTimer req.timer) :=
        removed.congr rfl rfl rfl id
      exact cleared.emit (by simp)

theorem rejectPending (sinks : Sinks touched s t) (entries : List (String × PendingRequest)) :
    Sinks touched s (t.rejectPending entries) := by
  induction entries generalizing t with
  | nil => exact sinks
  | cons entry rest inductionHypothesis =>
      apply inductionHypothesis
      have cleared : Sinks touched s (t.clearRequestTimer entry.2.timer) :=
        sinks.congr rfl rfl rfl id
      exact cleared.emit (by simp)

theorem terminateClients (sinks : Sinks touched s t) {clients : List ConnectedClient}
    (touches : ∀ client ∈ clients, touched client.ws) :
    Sinks touched s (t.terminateClients clients) := by
  induction clients generalizing t with
  | nil => exact sinks
  | cons client rest inductionHypothesis =>
      apply inductionHypothesis
      · exact sinks.terminate (touches client (by simp))
      · intro other member
        exact touches other (List.mem_cons_of_mem _ member)

theorem handlePong (sinks : Sinks touched s t) (ws : ConnId) :
    Sinks touched s (t.handlePong ws) := by
  unfold State.handlePong
  split
  · exact sinks
  · rename_i timer _
    exact (sinks.clearPongTimer timer).annotate ws fun _ => ⟨rfl, rfl⟩

theorem forward (server : RelayServer) (sinks : Sinks touched s t) (uuid method path : String)
    (headers : Headers) (body : Bytes) (id : String) (bufferedAmount : Nat) :
    Sinks touched s (server.forward t uuid method path headers body id bufferedAmount) := by
  unfold RelayServer.forward
  split
  · exact sinks.emit (by simp)
  · split
    · exact sinks.emit (by simp)
    · split
      · exact sinks.emit (by simp)
      · apply sendServerMessage
        exact sinks.congr rfl rfl rfl (fun closing => closing)

theorem evictPrevious (sinks : Sinks touched s t) {uuid : String}
    (touches : ∀ previous, t.clients.get uuid = some previous → touched previous.ws) :
    Sinks touched s (t.evictPrevious uuid) := by
  unfold State.evictPrevious
  split
  · exact sinks
  · rename_i previous present
    have dropped : Sinks touched s (t.dropClient uuid) := sinks.congr rfl rfl rfl id
    exact (dropped.emit (by simp)).terminate (touches previous present)

theorem startKeepalive (server : RelayServer) (sinks : Sinks touched s t) (ws : ConnId) :
    Sinks touched s (server.startKeepalive t ws) := by
  have started : Sinks touched s (t.startPingTimer server.pingIntervalMs ws) :=
    sinks.congr rfl rfl rfl id
  exact started.annotate ws fun _ => ⟨rfl, rfl⟩

theorem register (server : RelayServer) (sinks : Sinks touched s t) (ws : ConnId)
    (certPoint : Bytes) (hello : Hello)
    (touches : ∀ previous, t.clients.get (server.crypto.uuidFromP256Point certPoint) =
      some previous → touched previous.ws) :
    Sinks touched s (server.register t ws certPoint hello) := by
  have evicted := sinks.evictPrevious touches
  have entered : Sinks touched s (State.putClient _ ⟨ws,
      server.crypto.uuidFromP256Point certPoint, certPoint,
      base64Decode hello.decryptPubkey.toList⟩) := evicted.congr rfl rfl rfl id
  have marked : Sinks touched s (State.modifyConn _ ws fun conn =>
      { conn with registeredUuid := some (server.crypto.uuidFromP256Point certPoint) }) :=
    entered.annotate ws fun _ => ⟨rfl, rfl⟩
  have welcomed := marked.sendServerMessage server ws
    (.welcome (server.welcome (server.crypto.uuidFromP256Point certPoint)))
  exact (welcomed.emit (by simp)).startKeepalive server ws

theorem close (sinks : Sinks touched s t)
    (touches : ∀ client ∈ t.clients.values, touched client.ws) : Sinks touched s t.close := by
  have rejected := sinks.rejectPending t.pending.entries
  have cleared : Sinks touched s (t.rejectPending t.pending.entries).clearPending :=
    rejected.congr rfl rfl rfl id
  have kept : (t.rejectPending t.pending.entries).clearPending.clients = t.clients :=
    t.clients_rejectPending t.pending.entries
  have terminated := cleared.terminateClients (kept ▸ touches)
  exact terminated.congr rfl rfl rfl fun _ => rfl

end Sinks

/-! ### What an event takes out of service -/

/-- The event ends the service of the socket. -/
inductive Touches (server : RelayServer) (s : State) : Event → ConnId → Prop where
  | failed {ws : ConnId} (live : s.live ws = true) : Touches server s (.wsError ws) ws
  | closed {ws : ConnId} (live : s.live ws = true) : Touches server s (.wsClose ws) ws
  | peerClosing {ws : ConnId} (live : s.live ws = true) : Touches server s (.peerClosing ws) ws
  | pongMissed {timer due : Nat} {ws : ConnId}
      (armed : s.pongTimers.get timer = some ⟨due, ws⟩) (late : due ≤ s.now) :
      Touches server s (.pongTimer timer) ws
  | turnedAway {ws : ConnId} {frame : String} (live : s.live ws = true)
      (cause : server.wire.decodeClient frame = .invalidJson ∨
        ∃ conn, s.conns.get ws = some conn ∧ conn.registeredUuid = none) :
      Touches server s (.message ws frame) ws
  | replaced {e : Event} {ws : ConnId} {certPoint : Bytes} {hello : Hello}
      {previous : ConnectedClient} (accepted : HelloAccepted server s e ws certPoint hello)
      (present : s.clients.get (server.crypto.uuidFromP256Point certPoint) = some previous) :
      Touches server s e previous.ws
  | shutDown {client : ConnectedClient} (member : client ∈ s.clients.values) :
      Touches server s .close client.ws

/-- The state after an open socket was pinged. -/
def RelayServer.pinged (server : RelayServer) (s : State) (timer : Nat) (ws : ConnId) : State :=
  let repeated := s.repeatPingTimer server.pingIntervalMs timer
  ((repeated.emit (.ping ws)).startPongTimer server.pongTimeoutMs ws).modifyConn ws fun conn =>
    { conn with pongTimer := some s.pongTimers.next }

/-- What one event does to the sockets and the pong timers. -/
inductive SocketMove (server : RelayServer) (s : State) : Event → State → Prop where
  | accepted {ws : ConnId} {peerCert : Option PeerCertificate} (fresh : s.conns.get ws = none)
      (running : s.closing = false) :
      SocketMove server s (.connection ws peerCert) (server.handleConnection s ws peerCert)
  | pinged {timer due : Nat} {ws : ConnId} (armed : s.pingTimers.get timer = some ⟨due, ws⟩)
      (late : due ≤ s.now) (opened : s.readyState ws = .opened) :
      SocketMove server s (.pingTimer timer) (server.pinged s timer ws)
  | sinks {e : Event} {t : State} (sinks : Sinks (Touches server s e) s t) :
      SocketMove server s e t

theorem RelayServer.socketMove_of_step (server : RelayServer) {s s' : State} {e : Event}
    (after : server.step s e = some s') : SocketMove server s e s' := by
  have here := Sinks.refl (Touches server s e) s
  cases stepCase_of_step after with
  | connected fresh running => exact .accepted fresh running
  | ignored => exact .sinks here
  | turnedAway live cause =>
      apply SocketMove.sinks
      exact (here.sendServerMessage server _ _).closeSocket (.turnedAway live cause) _ _
  | registered live accepted =>
      apply SocketMove.sinks
      apply here.register server
      intro previous present
      exact .replaced accepted present
  | answered => exact .sinks (here.handleResponse _)
  | ponged => exact .sinks (here.handlePong _)
  | failedEarly live => exact .sinks (here.terminate (.failed live))
  | failed live => exact .sinks ((here.terminate (.failed live)).cleanup _)
  | closedEarly live =>
      exact .sinks (here.modifyConn (Or.inl (.closed live)) fun _ opened => by contradiction)
  | closed live =>
      have closed := here.modifyConn (f := fun conn =>
        { conn with readyState := .closed, closeEmitted := true }) (Or.inl (.closed live))
        fun _ opened => by contradiction
      exact .sinks (closed.cleanup _)
  | peerClosing live => exact .sinks (here.startClosing (.peerClosing live))
  | @timedOut timer =>
      have cleared := here.congr (u := s.clearRequestTimer timer) rfl rfl rfl id
      exact .sinks (cleared.requestTimeout _)
  | @pinged timer due ws armed late =>
      have repeated := here.congr (u := s.repeatPingTimer server.pingIntervalMs timer) rfl rfl
        rfl id
      have same : (s.repeatPingTimer server.pingIntervalMs timer).readyState ws =
          s.readyState ws := rfl
      unfold pingInterval
      split
      · exact .sinks (repeated.cleanup ws)
      · rename_i opened
        rw [same, Decidable.not_not] at opened
        exact .pinged armed late opened
  | @pongMissed timer _ ws armed late =>
      exact .sinks (((here.clearPongTimer timer).terminate (.pongMissed armed late)).cleanup ws)
  | ticked => exact .sinks (here.congr rfl rfl rfl id)
  | @forwarded uuid method path headers body id =>
      have issued := here.congr (u := s.issue id uuid) rfl rfl rfl (fun closing => closing)
      exact .sinks (issued.forward server _ _ _ _ _ _ _)
  | shutDown =>
      apply SocketMove.sinks
      apply here.close
      intro client member
      exact .shutDown member

/-! ### Every run -/

/-- Pong timers run for accepted sockets, only accepted sockets were terminated,
and an open socket was not, nor has it emitted `close`. -/
structure State.Afloat (s : State) : Prop where
  timed : ∀ timer due ws, s.pongTimers.get timer = some ⟨due, ws⟩ → (s.conns.get ws).isSome
  accepted : ∀ ws, .terminate ws ∈ s.log → (s.conns.get ws).isSome
  opened : ∀ ws, s.readyState ws = .opened → .terminate ws ∉ s.log ∧ s.closeEmitted ws = false

theorem State.live_isSome {s : State} {ws : ConnId} (live : s.live ws = true) :
    (s.conns.get ws).isSome := by
  unfold State.live at live
  cases found : s.conns.get ws with
  | none => simp [found] at live
  | some conn => rfl

theorem State.opened_isSome {s : State} {ws : ConnId} (opened : s.readyState ws = .opened) :
    (s.conns.get ws).isSome := by
  unfold State.readyState at opened
  cases found : s.conns.get ws with
  | none => simp [found] at opened
  | some conn => rfl

/-- A touched socket was accepted. -/
theorem Touches.isSome {server : RelayServer} {s : State} {e : Event} {ws : ConnId}
    (touches : Touches server s e ws) (sound : s.registry.Sound server) (afloat : s.Afloat) :
    (s.conns.get ws).isSome := by
  have entry : ∀ {uuid client}, s.clients.get uuid = some client →
      (s.conns.get client.ws).isSome := by
    intro uuid client present
    have admission := (sound uuid client present).2.2
    unfold State.registry at admission
    cases found : s.conns.get client.ws with
    | none => simp [found] at admission
    | some conn => rfl
  cases touches with
  | failed live | closed live | peerClosing live | turnedAway live => exact State.live_isSome live
  | pongMissed armed => exact afloat.timed _ _ _ armed
  | replaced accepted present => exact entry present
  | @shutDown client member =>
      obtain ⟨uuid, present⟩ := (s.clients.mem_values_iff client).mp member
      exact entry present

theorem State.Afloat.sinks {touched : ConnId → Prop} {s t : State} (afloat : s.Afloat)
    (accepted : ∀ ws, touched ws → (s.conns.get ws).isSome) (sinks : Sinks touched s t) :
    t.Afloat where
  timed timer due ws armed :=
    sinks.present ws (afloat.timed timer due ws (sinks.pongTimers timer _ armed))
  accepted ws member := by
    apply sinks.present ws
    rcases sinks.terminated ws member with old | touches
    · exact afloat.accepted ws old
    · exact accepted ws touches
  opened ws opened := by
    obtain ⟨before, log, emitted⟩ := sinks.opened ws opened
    obtain ⟨notTerminated, notEmitted⟩ := afloat.opened ws before
    refine ⟨fun member => notTerminated (log member), ?_⟩
    cases closed : t.closeEmitted ws with
    | false => rfl
    | true =>
        rw [emitted closed] at notEmitted
        contradiction

/-- What is left of `handleConnection` after the socket was accepted. -/
theorem Sinks.handleConnection (server : RelayServer) (s : State) (ws : ConnId)
    (peerCert : Option PeerCertificate) :
    Sinks (· = ws) (s.accept ws (Conn.accepted peerCert))
      (server.handleConnection s ws peerCert) := by
  have here := Sinks.refl (· = ws) (s.accept ws (Conn.accepted peerCert))
  unfold RelayServer.handleConnection
  split
  · exact (here.sendServerMessage server ws _).closeSocket rfl _ _
  · split
    · exact (here.sendServerMessage server ws _).closeSocket rfl _ _
    · exact here

theorem State.present_accept (s : State) (ws : ConnId) (conn : Conn) {other : ConnId}
    (before : (s.conns.get other).isSome) : ((s.accept ws conn).conns.get other).isSome := by
  simp only [State.accept, OrderedMap.get_set]
  split
  · rfl
  · exact before

theorem State.Afloat.accept {s : State} {ws : ConnId} (afloat : s.Afloat)
    (fresh : s.conns.get ws = none) {conn : Conn} (notEmitted : conn.closeEmitted = false) :
    (s.accept ws conn).Afloat := by
  refine ⟨?_, ?_, ?_⟩
  · intro timer due other armed
    exact s.present_accept ws conn (afloat.timed timer due other armed)
  · intro other member
    exact s.present_accept ws conn (afloat.accepted other member)
  · intro other opened
    by_cases same : ws = other
    · subst same
      refine ⟨?_, by simp [State.closeEmitted, State.accept, notEmitted]⟩
      intro member
      have earlier := afloat.accepted ws member
      rw [fresh] at earlier
      contradiction
    · have before : s.readyState other = .opened := by
        rw [← opened, State.readyState, State.readyState, State.accept,
          OrderedMap.get_set_of_ne _ _ same]
      have unchanged : (s.accept ws conn).closeEmitted other = s.closeEmitted other := by
        rw [State.closeEmitted, State.closeEmitted, State.accept,
          OrderedMap.get_set_of_ne _ _ same]
      rw [unchanged]
      exact afloat.opened other before

theorem State.Afloat.startPongTimer {s : State} {ws : ConnId} (afloat : s.Afloat) (ms : Int)
    (present : (s.conns.get ws).isSome) : (s.startPongTimer ms ws).Afloat where
  timed timer due other armed := by
    simp only [State.startPongTimer, Timers.get_start] at armed
    split at armed
    · cases armed
      exact present
    · exact afloat.timed timer due other armed
  accepted := afloat.accepted
  opened := afloat.opened

theorem State.Afloat.pinged {server : RelayServer} {s : State} {ws : ConnId} (afloat : s.Afloat)
    (opened : s.readyState ws = .opened) (timer : Nat) : (server.pinged s timer ws).Afloat := by
  have here := Sinks.refl (fun _ => False) s
  have repeated := here.congr (u := s.repeatPingTimer server.pingIntervalMs timer) rfl rfl rfl id
  have sent : State.Afloat (State.emit _ (.ping ws)) :=
    afloat.sinks (fun _ => False.elim) (repeated.emit (by simp))
  have started := sent.startPongTimer server.pongTimeoutMs (State.opened_isSome opened)
  exact started.sinks (fun _ => False.elim)
    ((Sinks.refl _ _).annotate ws fun _ => ⟨rfl, rfl⟩)

theorem RelayServer.afloat_run (server : RelayServer) {events : List Event} {s : State}
    (ran : server.machine.run events = some s) : s.Afloat := by
  refine Machine.run_invariant (P := fun _ s => s.Afloat) ?_ ?_ ran
  · refine ⟨?_, ?_, ?_⟩ <;> intro _ <;> simp [machine, State.init, State.readyState]
  · intro events s e s' before afloat after
    cases server.socketMove_of_step after with
    | @accepted ws peerCert fresh =>
        have joined : (s.accept ws (Conn.accepted peerCert)).Afloat := afloat.accept fresh rfl
        apply joined.sinks _ (Sinks.handleConnection server s ws peerCert)
        rintro _ rfl
        simp [State.accept]
    | pinged armed late opened => exact afloat.pinged opened _
    | sinks sinks =>
        apply afloat.sinks _ sinks
        intro ws touches
        exact touches.isSome (server.sound_run before) afloat

end DicodeRelay.Relay
