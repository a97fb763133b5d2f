import DicodeRelay.Relay.Registry
import Mathlib.Data.List.Chain

/-!
Contract: the `client:connected` and `client:disconnected` events of a relay
server over every run before it is closed.

Owns:
- the announcements of a uuid in the order they were emitted;
- what goes on backstage: operations that neither announce anything nor touch
  the registry;
- that the announcements of a uuid take strict turns and that the last one says
  whether the uuid is registered.

Does not own: who listens to the announcements, or what `close` leaves behind.
-/

namespace DicodeRelay.Relay

open DicodeRelay.Lib DicodeRelay.Shared

/-! ### Announcements -/

inductive Announcement where
  | connected
  | disconnected
deriving DecidableEq

/-- What the effect announces about the uuid. -/
def Effect.announces (uuid : String) : Effect → Option Announcement
  | .clientConnected other => if other = uuid then some .connected else none
  | .clientDisconnected other => if other = uuid then some .disconnected else none
  | _ => none

def State.announced (s : State) (uuid : String) : List Announcement :=
  s.log.filterMap (Effect.announces uuid)

/-- Connected first, then in strict turns. -/
def StrictTurns (announced : List Announcement) : Prop :=
  (∀ first ∈ announced.head?, first = .connected) ∧ announced.IsChain (· ≠ ·)

/-- The announcements of the uuid take turns, and it is registered exactly when
the last one says so. -/
def State.Mirrored (s : State) (uuid : String) : Prop :=
  StrictTurns (s.announced uuid) ∧
    ((s.announced uuid).getLast? = some .connected ↔ s.hasClient uuid = true)

theorem StrictTurns.connected {announced : List Announcement} (turns : StrictTurns announced)
    (absent : announced.getLast? ≠ some .connected) :
    StrictTurns (announced ++ [.connected]) := by
  constructor
  · intro first member
    cases announced with
    | nil => exact (Option.some.inj member).symm
    | cons head rest => exact turns.1 first member
  · rw [List.isChain_append]
    refine ⟨turns.2, List.isChain_singleton _, ?_⟩
    intro last isLast next isNext
    obtain rfl := Option.some.inj isNext
    rintro rfl
    exact absent isLast

theorem StrictTurns.disconnected {announced : List Announcement} (turns : StrictTurns announced)
    (present : announced.getLast? = some .connected) :
    StrictTurns (announced ++ [.disconnected]) := by
  constructor
  · intro first member
    cases announced with
    | nil => contradiction
    | cons head rest => exact turns.1 first member
  · rw [List.isChain_append]
    refine ⟨turns.2, List.isChain_singleton _, ?_⟩
    intro last isLast next isNext
    obtain rfl := Option.some.inj isNext
    rw [present] at isLast
    obtain rfl := Option.some.inj isLast
    decide

/-! ### Backstage -/

/-- Between the states nothing is announced, no entry of the registry changes
and no keepalive interval starts. -/
structure Backstage (s t : State) : Prop where
  clients : t.clients = s.clients
  grows : s.log <+: t.log
  announced : ∀ uuid, t.announced uuid = s.announced uuid
  intervals : t.pingTimers.next = s.pingTimers.next

namespace Backstage

variable {s t : State}

theorem refl (s : State) : Backstage s s := ⟨rfl, List.prefix_rfl, fun _ => rfl, rfl⟩

theorem trans {u : State} (first : Backstage s t) (second : Backstage t u) : Backstage s u where
  clients := second.clients.trans first.clients
  grows := first.grows.trans second.grows
  announced uuid := (second.announced uuid).trans (first.announced uuid)
  intervals := second.intervals.trans first.intervals

/-- The other parts of the state do not matter. -/
theorem congr {u : State} (behind : Backstage s t) (clients : u.clients = t.clients)
    (log : u.log = t.log) (intervals : u.pingTimers.next = t.pingTimers.next) : Backstage s u where
  clients := clients.trans behind.clients
  grows := log ▸ behind.grows
  announced uuid := by
    rw [← behind.announced uuid, State.announced, State.announced, log]
  intervals := intervals.trans behind.intervals

theorem emit (behind : Backstage s t) {effect : Effect}
    (quiet : ∀ uuid, effect.announces uuid = none) : Backstage s (t.emit effect) where
  clients := behind.clients
  grows := behind.grows.trans (List.prefix_append _ _)
  announced uuid := by
    rw [← behind.announced uuid]
    simp [State.announced, State.emit, quiet]
  intervals := behind.intervals

theorem modifyConn (behind : Backstage s t) (ws : ConnId) (f : Conn → Conn) :
    Backstage s (t.modifyConn ws f) := by
  unfold State.modifyConn
  split
  · exact behind
  · exact behind.congr rfl rfl rfl

theorem terminate (behind : Backstage s t) (ws : ConnId) : Backstage s (t.terminate ws) :=
  (behind.emit fun _ => rfl).modifyConn ws _

theorem closeSocket (behind : Backstage s t) (ws : ConnId) (code : Option Nat)
    (reason : String) : Backstage s (t.closeSocket ws code reason) :=
  (behind.emit fun _ => rfl).modifyConn ws _

theorem sendServerMessage (server : RelayServer) (behind : Backstage s t) (ws : ConnId)
    (msg : ServerMessage) : Backstage s (server.sendServerMessage t ws msg) := by
  unfold RelayServer.sendServerMessage
  split
  · exact behind.emit fun _ => rfl
  · exact behind

theorem clearKeepalive (behind : Backstage s t) (conn : Conn) :
    Backstage s (t.clearKeepalive conn) := by
  unfold State.clearKeepalive
  cases conn.pingTimer <;> cases conn.pongTimer <;> exact behind.congr rfl rfl rfl

theorem removePending (behind : Backstage s t) (id : String) :
    Backstage s (t.removePending id).1 := by
  unfold State.removePending
  split
  · exact behind
  · exact behind.congr rfl rfl rfl

theorem requestTimeout (behind : Backstage s t) (id : String) :
    Backstage s (t.requestTimeout id) :=
  (behind.removePending id).emit fun _ => rfl

theorem handleResponse (behind : Backstage s t) (response : Response) :
    Backstage s (t.handleResponse response) := by
  have removed := behind.removePending response.id
  unfold State.handleResponse
  split
  · exact behind
  · split <;> rename_i found <;> rw [found] at removed
    · exact removed
    · rename_i after req
      have cleared : Backstage s (after.clearRequestTimer req.timer) := removed.congr rfl rfl rfl
      exact cleared.emit fun _ => rfl

theorem rejectPending (behind : Backstage s t) (entries : List (String × PendingRequest)) :
    Backstage s (t.rejectPending entries) := by
  induction entries generalizing t with
  | nil => exact behind
  | cons entry rest inductionHypothesis =>
      apply inductionHypothesis
      have cleared : Backstage s (t.clearRequestTimer entry.2.timer) := behind.congr rfl rfl rfl
      exact cleared.emit fun _ => rfl

theorem terminateClients (behind : Backstage s t) (clients : List ConnectedClient) :
    Backstage s (t.terminateClients clients) := by
  induction clients generalizing t with
  | nil => exact behind
  | cons client rest inductionHypothesis => exact inductionHypothesis (behind.terminate client.ws)

theorem handlePong (behind : Backstage s t) (ws : ConnId) : Backstage s (t.handlePong ws) := by
  unfold State.handlePong
  split
  · exact behind
  · rename_i timer _
    have cleared : Backstage s (t.clearPongTimer timer) := behind.congr rfl rfl rfl
    exact cleared.modifyConn ws _

theorem forward (server : RelayServer) (behind : Backstage s t) (uuid method path : String)
    (headers : Headers) (body : Bytes) (id : String) (bufferedAmount : Nat) :
    Backstage s (server.forward t uuid method path headers body id bufferedAmount) := by
  unfold RelayServer.forward
  split
  · exact behind.emit fun _ => rfl
  · split
    · exact behind.emit fun _ => rfl
    · split
      · exact behind.emit fun _ => rfl
      · apply sendServerMessage
        exact behind.congr rfl rfl rfl

theorem handleConnection (server : RelayServer) (behind : Backstage s t) (ws : ConnId)
    (peerCert : Option PeerCertificate) :
    Backstage s (server.handleConnection t ws peerCert) := by
  have accepted : ∀ conn, Backstage s (t.accept ws conn) := fun _ => behind.congr rfl rfl rfl
  unfold RelayServer.handleConnection
  split
  · exact ((accepted _).sendServerMessage server ws _).closeSocket ws _ _
  · split
    · exact ((accepted _).sendServerMessage server ws _).closeSocket ws _ _
    · exact accepted _

end Backstage

/-! ### What is announced -/

/-- `cleanup` of a socket that holds no entry stays backstage; otherwise the
socket's entry goes and its uuid is announced as disconnected. -/
inductive Cleaned (s : State) (ws : ConnId) (t : State) : Prop where
  | backstage (behind : Backstage s t)
  | left {uuid : String} {client : ConnectedClient} (present : s.clients.get uuid = some client)
      (own : client.ws = ws) (clients : t.clients = s.clients.delete uuid)
      (grows : s.log <+: t.log)
      (announced : t.announced uuid = s.announced uuid ++ [.disconnected])
      (others : ∀ other, other ≠ uuid → t.announced other = s.announced other)
      (intervals : t.pingTimers.next = s.pingTimers.next)

theorem State.announced_emit_disconnected (s : State) (uuid other : String) :
    (s.emit (.clientDisconnected uuid)).announced other =
      s.announced other ++ if uuid = other then [.disconnected] else [] := by
  by_cases same : uuid = other <;>
    simp [State.announced, State.emit, Effect.announces, same, List.filterMap_append]

theorem State.announced_emit_connected (s : State) (uuid other : String) :
    (s.emit (.clientConnected uuid)).announced other =
      s.announced other ++ if uuid = other then [.connected] else [] := by
  by_cases same : uuid = other <;>
    simp [State.announced, State.emit, Effect.announces, same, List.filterMap_append]

theorem State.cleaned_cleanup (s : State) (ws : ConnId) : Cleaned s ws (s.cleanup ws) := by
  unfold State.cleanup
  split
  · exact .backstage (.refl s)
  · rename_i conn found
    have cleared := (Backstage.refl s).clearKeepalive conn
    unfold State.deregister
    split
    · exact .backstage (cleared.modifyConn ws _)
    · rename_i uuid registered
      split
      · exact .backstage (cleared.modifyConn ws _)
      · rename_i client present
        split
        · rename_i own
          rw [cleared.clients] at present
          have settled := (Backstage.refl (((s.clearKeepalive conn).emit
            (.clientDisconnected uuid)).dropClient uuid)).modifyConn ws fun conn =>
              { conn with registeredUuid := none, pingTimer := none, pongTimer := none }
          have announced : ∀ other, (((s.clearKeepalive conn).emit
              (.clientDisconnected uuid)).dropClient uuid).announced other =
                s.announced other ++ if uuid = other then [.disconnected] else [] := by
            intro other
            rw [← cleared.announced other]
            exact State.announced_emit_disconnected _ _ _
          refine .left present own ?_ ?_ ?_ ?_ ?_
          · rw [settled.clients, ← cleared.clients]
            rfl
          · exact (cleared.grows.trans (List.prefix_append _ _)).trans settled.grows
          · rw [settled.announced, announced, if_pos rfl]
          · intro other different
            rw [settled.announced, announced, if_neg (Ne.symm different), List.append_nil]
          · exact settled.intervals.trans cleared.intervals
        · exact .backstage (cleared.modifyConn ws _)

/-- What an accepted hello does to the registry and the announcements: a
previous entry is announced as gone first. -/
structure Joined (server : RelayServer) (s : State) (client : ConnectedClient) (t : State) :
    Prop where
  clients : ∀ uuid, t.clients.get uuid =
    if client.uuid = uuid then some client else s.clients.get uuid
  grows : s.log <+: t.log
  announced : t.announced client.uuid = s.announced client.uuid ++
    if s.hasClient client.uuid then [.disconnected, .connected] else [.connected]
  others : ∀ uuid, uuid ≠ client.uuid → t.announced uuid = s.announced uuid

/-- A previous entry goes, and is announced as gone. -/
theorem State.announced_evictPrevious (s : State) (uuid other : String) :
    (s.evictPrevious uuid).announced other =
      s.announced other ++ if uuid = other ∧ s.hasClient uuid then [.disconnected] else [] := by
  unfold State.evictPrevious
  cases present : s.clients.get uuid with
  | none => simp [State.hasClient, OrderedMap.has, present]
  | some previous =>
      have terminated := ((Backstage.refl ((s.dropClient uuid).emit
        (.clientDisconnected uuid))).terminate previous.ws).announced other
      simp only [terminated, State.announced_emit_disconnected, State.hasClient, OrderedMap.has,
        present, Option.isSome_some, and_true]
      rfl

theorem State.log_evictPrevious (s : State) (uuid : String) :
    s.log <+: (s.evictPrevious uuid).log := by
  unfold State.evictPrevious
  split
  · exact List.prefix_rfl
  · rename_i previous _
    have terminated := (Backstage.refl ((s.dropClient uuid).emit
      (.clientDisconnected uuid))).terminate previous.ws
    exact (List.prefix_append _ _).trans terminated.grows

/-- The socket of a previous entry is terminated. -/
theorem State.terminate_mem_evictPrevious {s : State} {uuid : String} {previous : ConnectedClient}
    (present : s.clients.get uuid = some previous) :
    .terminate previous.ws ∈ (s.evictPrevious uuid).log.drop s.log.length := by
  have logged : (s.evictPrevious uuid).log =
      s.log ++ [.clientDisconnected uuid, .terminate previous.ws] := by
    simp [State.evictPrevious, present, State.terminate, State.log_modifyConn, State.emit,
      State.dropClient]
  simp [logged]

/-- Registering goes on after the eviction. -/
theorem RelayServer.grows_register (server : RelayServer) (s : State) (ws : ConnId)
    (certPoint : Bytes) (hello : Hello) :
    (s.evictPrevious (server.crypto.uuidFromP256Point certPoint)).log <+:
      (server.register s ws certPoint hello).log := by
  simp only [register, startKeepalive]
  refine List.IsPrefix.trans ?_ ((Backstage.refl _).modifyConn ws _).grows
  refine List.IsPrefix.trans ?_ (List.prefix_append _ _)
  refine List.IsPrefix.trans ?_ (((Backstage.refl _).modifyConn ws _).sendServerMessage server
    ws _).grows
  exact List.prefix_rfl

theorem RelayServer.joined_register (server : RelayServer) (s : State) (ws : ConnId)
    (certPoint : Bytes) (hello : Hello) :
    Joined server s ⟨ws, server.crypto.uuidFromP256Point certPoint, certPoint,
      base64Decode hello.decryptPubkey.toList⟩ (server.register s ws certPoint hello) := by
  have registry := server.registry_register s ws certPoint hello
  -- Only the eviction and the last emit announce anything.
  have announced : ∀ other, (server.register s ws certPoint hello).announced other =
      (s.announced other ++ if server.crypto.uuidFromP256Point certPoint = other ∧
        s.hasClient (server.crypto.uuidFromP256Point certPoint) then [.disconnected] else []) ++
        if server.crypto.uuidFromP256Point certPoint = other then [.connected] else [] := by
    intro other
    rw [← s.announced_evictPrevious]
    simp only [register, startKeepalive]
    rw [((Backstage.refl _).modifyConn ws _).announced other]
    change (State.emit _ _).announced other = _
    rw [State.announced_emit_connected]
    congr 1
    exact ((((Backstage.refl _).modifyConn ws _).sendServerMessage server ws _).announced
      other).trans rfl
  refine ⟨?_, ?_, ?_, ?_⟩
  · intro other
    have entry := congrArg (fun r => r.client other) registry
    change (server.register s ws certPoint hello).clients.get other = _ at entry
    rw [entry]
    by_cases same : server.crypto.uuidFromP256Point certPoint = other
    · subst same
      simp [Registry.registered, Registry.modify]
    · rw [if_neg same]
      exact Function.update_of_ne (Ne.symm same) _ _
  · exact (s.log_evictPrevious _).trans (server.grows_register s ws certPoint hello)
  · rw [announced]
    by_cases present : s.hasClient (server.crypto.uuidFromP256Point certPoint) = true <;>
      simp [present]
  · intro other different
    rw [announced, if_neg (Ne.symm different), if_neg fun both => different both.1.symm]
    simp

/-! ### One event -/

/-- The event is the end of the connection: its socket has closed or failed, or
the keepalive gives it up. -/
inductive Departs (s : State) (ws : ConnId) : Event → Prop where
  | closed : Departs s ws (.wsClose ws)
  | failed : Departs s ws (.wsError ws)
  | notOpen {timer due : Nat} (armed : s.pingTimers.get timer = some ⟨due, ws⟩)
      (notOpen : s.readyState ws ≠ .opened) : Departs s ws (.pingTimer timer)
  | pongMissed {timer due : Nat} (armed : s.pongTimers.get timer = some ⟨due, ws⟩) :
      Departs s ws (.pongTimer timer)

/-- How one event moves the registry and the announcements. -/
inductive RosterMove (server : RelayServer) (s : State) : Event → State → Prop where
  | backstage {e : Event} {t : State} (behind : Backstage s t) (noHello : ∀ ws certPoint hello,
      ¬ HelloAccepted server s e ws certPoint hello) : RosterMove server s e t
  | joined {e : Event} {t : State} {ws : ConnId} {certPoint : Bytes} {hello : Hello}
      (accepted : HelloAccepted server s e ws certPoint hello)
      (joined : Joined server s ⟨ws, server.crypto.uuidFromP256Point certPoint, certPoint,
        base64Decode hello.decryptPubkey.toList⟩ t) : RosterMove server s e t
  | cleaned {e : Event} {s' t : State} {ws : ConnId} (behind : Backstage s s')
      (cleaned : Cleaned s' ws t) (departs : Departs s ws e)
      (noHello : ∀ ws certPoint hello, ¬ HelloAccepted server s e ws certPoint hello) :
      RosterMove server s e t
  | shutDown : RosterMove server s .close s.close

theorem HelloAccepted.not_of_no_message {server : RelayServer} {s : State} {e : Event}
    (noMessage : ∀ ws frame, e ≠ .message ws frame) (ws : ConnId) (certPoint : Bytes)
    (hello : Hello) : ¬ HelloAccepted server s e ws certPoint hello := by
  intro accepted
  obtain ⟨frame, isMessage, _⟩ := accepted.delivered
  exact noMessage ws frame isMessage

theorem RelayServer.rosterMove_of_step (server : RelayServer) {s s' : State} {e : Event}
    (after : server.step s e = some s') : RosterMove server s e s' := by
  have here := Backstage.refl s
  cases stepCase_of_step after with
  | connected =>
      exact .backstage (here.handleConnection server _ _)
        (HelloAccepted.not_of_no_message (by simp))
  | ignored _ noHello => exact .backstage here noHello
  | turnedAway live cause error code reason noHello =>
      apply RosterMove.backstage ((here.sendServerMessage server _ _).closeSocket _ _ _)
      intro other certPoint hello accepted
      obtain ⟨_, sameEvent, _⟩ := accepted.delivered
      cases sameEvent
      exact noHello certPoint hello accepted
  | registered _ accepted => exact .joined accepted (server.joined_register _ _ _ _)
  | answered live admitted member response decoded =>
      apply RosterMove.backstage (here.handleResponse response)
      intro other certPoint hello accepted
      obtain ⟨_, sameEvent, isHello⟩ := accepted.delivered
      cases sameEvent
      rw [decoded] at isHello
      cases isHello
  | ponged => exact .backstage (here.handlePong _) (HelloAccepted.not_of_no_message (by simp))
  | failedEarly => exact .backstage (here.terminate _) (HelloAccepted.not_of_no_message (by simp))
  | failed =>
      exact .cleaned (here.terminate _) (State.cleaned_cleanup _ _) .failed
        (HelloAccepted.not_of_no_message (by simp))
  | closedEarly =>
      exact .backstage (here.modifyConn _ _) (HelloAccepted.not_of_no_message (by simp))
  | closed =>
      exact .cleaned (here.modifyConn _ _) (State.cleaned_cleanup _ _) .closed
        (HelloAccepted.not_of_no_message (by simp))
  | peerClosing =>
      exact .backstage (here.modifyConn _ _) (HelloAccepted.not_of_no_message (by simp))
  | @timedOut timer =>
      have cleared : Backstage s (s.clearRequestTimer timer) := here.congr rfl rfl rfl
      exact .backstage (cleared.requestTimeout _) (HelloAccepted.not_of_no_message (by simp))
  | @pinged timer _ ws armed =>
      have repeated : Backstage s (s.repeatPingTimer server.pingIntervalMs timer) :=
        here.congr rfl rfl (Timers.next_reschedule _ _ _)
      unfold pingInterval
      split
      · rename_i notOpen
        exact .cleaned repeated (State.cleaned_cleanup _ _) (.notOpen armed notOpen)
          (HelloAccepted.not_of_no_message (by simp))
      · have sent : Backstage s ((s.repeatPingTimer server.pingIntervalMs timer).emit (.ping ws)) :=
          repeated.emit fun _ => rfl
        have started : Backstage s (((s.repeatPingTimer server.pingIntervalMs timer).emit
            (.ping ws)).startPongTimer server.pongTimeoutMs ws) := sent.congr rfl rfl rfl
        exact .backstage (started.modifyConn ws _) (HelloAccepted.not_of_no_message (by simp))
  | @pongMissed timer _ ws armed =>
      have cleared : Backstage s (s.clearPongTimer timer) := here.congr rfl rfl rfl
      exact .cleaned (cleared.terminate ws) (State.cleaned_cleanup _ _) (.pongMissed armed)
        (HelloAccepted.not_of_no_message (by simp))
  | ticked =>
      exact .backstage (here.congr rfl rfl rfl) (HelloAccepted.not_of_no_message (by simp))
  | @forwarded uuid method path headers body id =>
      have issued : Backstage s (s.issue id uuid) := here.congr rfl rfl rfl
      exact .backstage (issued.forward server _ _ _ _ _ _ _)
        (HelloAccepted.not_of_no_message (by simp))
  | shutDown => exact .shutDown

/-- `close` announces nothing and starts no interval. -/
theorem State.log_close (s : State) :
    s.log <+: s.close.log ∧ (∀ uuid, s.close.announced uuid = s.announced uuid) ∧
      s.close.pingTimers.next = s.pingTimers.next := by
  have rejected := (Backstage.refl s).rejectPending s.pending.entries
  have cleared : Backstage s (s.rejectPending s.pending.entries).clearPending :=
    rejected.congr rfl rfl rfl
  have terminated := cleared.terminateClients
    (s.rejectPending s.pending.entries).clearPending.clients.values
  exact ⟨terminated.grows, terminated.announced, terminated.intervals⟩

/-- The log only grows. -/
theorem RelayServer.log_step (server : RelayServer) {s s' : State} {e : Event}
    (after : server.step s e = some s') : s.log <+: s'.log := by
  cases server.rosterMove_of_step after with
  | backstage behind => exact behind.grows
  | joined _ joined => exact joined.grows
  | cleaned behind cleaned =>
      cases cleaned with
      | backstage more => exact behind.grows.trans more.grows
      | left _ _ _ grows => exact behind.grows.trans grows
  | shutDown => exact s.log_close.1

/-! ### Every run -/

theorem State.Mirrored.of_backstage {s t : State} {uuid : String} (mirrored : s.Mirrored uuid)
    (behind : Backstage s t) : t.Mirrored uuid := by
  unfold State.Mirrored State.hasClient
  rw [behind.announced, behind.clients]
  exact mirrored

theorem State.Mirrored.cleaned {s t : State} {ws : ConnId} {uuid : String}
    (mirrored : s.Mirrored uuid) (cleaned : Cleaned s ws t) : t.Mirrored uuid := by
  cases cleaned with
  | backstage behind => exact mirrored.of_backstage behind
  | @left own client present _ clients _ announced others =>
      by_cases same : uuid = own
      · subst same
        have member : s.hasClient uuid = true := by
          rw [State.hasClient, OrderedMap.has, present]
          rfl
        constructor
        · rw [announced]
          exact mirrored.1.disconnected (mirrored.2.mpr member)
        · simp [announced, State.hasClient, OrderedMap.has, clients]
      · unfold State.Mirrored State.hasClient OrderedMap.has
        rw [others uuid same, clients, OrderedMap.get_delete_of_ne _ (Ne.symm same)]
        exact mirrored

theorem State.Mirrored.joined {server : RelayServer} {s t : State} {client : ConnectedClient}
    {uuid : String} (mirrored : s.Mirrored uuid) (joined : Joined server s client t) :
    t.Mirrored uuid := by
  by_cases same : uuid = client.uuid
  · subst same
    have member : t.hasClient client.uuid = true := by
      rw [State.hasClient, OrderedMap.has, joined.clients, if_pos rfl]
      rfl
    unfold State.Mirrored
    rw [joined.announced, member]
    by_cases present : s.hasClient client.uuid = true
    · rw [if_pos present]
      have gone := mirrored.1.disconnected (mirrored.2.mpr present)
      have back := gone.connected (by simp)
      refine ⟨?_, by simp⟩
      rw [List.append_assoc] at back
      exact back
    · rw [if_neg present]
      exact ⟨mirrored.1.connected fun last => present (mirrored.2.mp last), by simp⟩
  · unfold State.Mirrored State.hasClient OrderedMap.has
    rw [joined.others uuid same, joined.clients, if_neg (Ne.symm same)]
    exact mirrored

theorem RosterMove.mirrored {server : RelayServer} {s t : State} {e : Event}
    (move : RosterMove server s e t) (running : e ≠ .close) {uuid : String}
    (mirrored : s.Mirrored uuid) : t.Mirrored uuid := by
  cases move with
  | backstage behind => exact mirrored.of_backstage behind
  | joined _ joined => exact mirrored.joined joined
  | cleaned behind cleaned => exact (mirrored.of_backstage behind).cleaned cleaned
  | shutDown => contradiction

/-- Before `close`, in every state of every run. -/
theorem RelayServer.mirrored_run (server : RelayServer) {events : List Event} {s : State}
    (ran : server.machine.run events = some s) (running : .close ∉ events) (uuid : String) :
    s.Mirrored uuid := by
  refine Machine.run_invariant (P := fun events s => .close ∉ events → s.Mirrored uuid) ?_ ?_ ran
    running
  · intro _
    exact ⟨⟨by simp [State.announced, machine, State.init], List.isChain_nil⟩,
      by simp [State.announced, machine, State.init, State.hasClient, OrderedMap.has]⟩
  · intro events s e s' _ holds after notClosed
    rw [List.mem_append, not_or, List.mem_singleton] at notClosed
    exact (server.rosterMove_of_step after).mirrored (Ne.symm notClosed.2) (holds notClosed.1)

end DicodeRelay.Relay
