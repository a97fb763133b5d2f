import DicodeRelay.Relay.Steps
import Mathlib.Logic.Function.Basic

/-!
Contract: the client registry of a relay server over every run.

Owns:
- the registry as its consumers see it, and the few ways one event moves it;
- that every entry is held by an open, certified, most recently admitted
  socket, and that a replaced socket cannot touch its successor's entry.

Does not own: what happens to a connection after it was rejected.
-/

namespace DicodeRelay.Relay

open DicodeRelay.Lib DicodeRelay.Shared

/-! ### The registry of a state -/

/-- What admission decided about a socket, and whether it is gone. -/
structure Admission where
  certPoint : Option Bytes
  registeredUuid : Option String
  closeEmitted : Bool

def Conn.admission (conn : Conn) : Admission :=
  ⟨conn.certPoint, conn.registeredUuid, conn.closeEmitted⟩

structure Registry where
  client : String → Option ConnectedClient
  admission : ConnId → Option Admission

def State.registry (s : State) : Registry where
  client := s.clients.get
  admission ws := (s.conns.get ws).map Conn.admission

namespace Registry

def modify (r : Registry) (ws : ConnId) (f : Admission → Admission) : Registry :=
  { r with admission := Function.update r.admission ws ((r.admission ws).map f) }

def accepted (r : Registry) (ws : ConnId) (certPoint : Option Bytes) : Registry :=
  { r with admission := Function.update r.admission ws (some ⟨certPoint, none, false⟩) }

def registered (r : Registry) (client : ConnectedClient) : Registry :=
  { r with client := Function.update r.client client.uuid (some client) }.modify client.ws
    fun a => { a with registeredUuid := some client.uuid }

/-- The socket's own entry goes, and the socket forgets it. -/
def cleaned (r : Registry) (ws : ConnId) : Registry :=
  { r with client := fun uuid =>
      if (r.admission ws).bind Admission.registeredUuid = some uuid ∧
        (r.client uuid).map ConnectedClient.ws = some ws then none
      else r.client uuid }.modify ws fun a => { a with registeredUuid := none }

def socketClosed (r : Registry) (ws : ConnId) : Registry :=
  r.modify ws fun a => { a with closeEmitted := true }

def cleared (r : Registry) : Registry := { r with client := fun _ => none }

theorem modify_id (r : Registry) (ws : ConnId) : r.modify ws id = r := by
  simp [modify]

theorem modify_admission_self (r : Registry) (ws : ConnId) (f : Admission → Admission) :
    (r.modify ws f).admission ws = (r.admission ws).map f :=
  Function.update_self _ _ _

theorem modify_admission_of_ne (r : Registry) {ws other : ConnId} (f : Admission → Admission)
    (different : other ≠ ws) : (r.modify ws f).admission other = r.admission other :=
  Function.update_of_ne different _ _

theorem cleaned_admission_of_ne (r : Registry) {ws other : ConnId} (different : other ≠ ws) :
    (r.cleaned ws).admission other = r.admission other :=
  modify_admission_of_ne _ _ different

/-- Cleaning up after a socket removes the socket's own entry and no other. -/
theorem cleaned_client_eq_some_iff (r : Registry) (ws : ConnId) (uuid : String)
    (client : ConnectedClient) :
    (r.cleaned ws).client uuid = some client ↔ r.client uuid = some client ∧
      ¬ ((r.admission ws).bind Admission.registeredUuid = some uuid ∧ client.ws = ws) := by
  simp only [cleaned, modify]
  constructor
  · intro present
    split at present
    · contradiction
    · rename_i notOwn
      exact ⟨present, fun own => notOwn ⟨own.1, by rw [present, Option.map_some, own.2]⟩⟩
  · rintro ⟨present, notOwn⟩
    rw [if_neg, present]
    rintro ⟨uuidOwn, wsOwn⟩
    rw [present] at wsOwn
    exact notOwn ⟨uuidOwn, Option.some.inj wsOwn⟩

end Registry

/-! ### What leaves the registry alone -/

namespace State

@[simp] theorem registry_emit (s : State) (effect : Effect) :
    (s.emit effect).registry = s.registry := rfl

theorem registry_modifyConn (s : State) (ws : ConnId) {f : Conn → Conn}
    {g : Admission → Admission} (tracks : ∀ conn, (f conn).admission = g conn.admission) :
    (s.modifyConn ws f).registry = s.registry.modify ws g := by
  unfold modifyConn
  split
  · rename_i absent
    simp [registry, Registry.modify, absent]
  · rename_i conn found
    simp only [registry, Registry.modify, found, Option.map_some, ← tracks]
    congr 1
    funext other
    rw [OrderedMap.get_set]
    by_cases same : ws = other
    · subst same
      simp
    · rw [if_neg same, Function.update_of_ne (Ne.symm same)]

theorem registry_modifyConn_same (s : State) (ws : ConnId) {f : Conn → Conn}
    (same : ∀ conn, (f conn).admission = conn.admission) :
    (s.modifyConn ws f).registry = s.registry := by
  rw [registry_modifyConn s ws (g := id) same, Registry.modify_id]

theorem admission_startClosing (conn : Conn) :
    (startClosing conn).admission = conn.admission := by
  unfold startClosing
  split <;> rfl

@[simp] theorem registry_closeSocket (s : State) (ws : ConnId) (code : Option Nat)
    (reason : String) : (s.closeSocket ws code reason).registry = s.registry := by
  rw [closeSocket, registry_modifyConn_same _ _ admission_startClosing, registry_emit]

@[simp] theorem registry_terminate (s : State) (ws : ConnId) :
    (s.terminate ws).registry = s.registry := by
  rw [terminate, registry_modifyConn_same _ _ admission_startClosing, registry_emit]

@[simp] theorem registry_terminateClients (s : State) (clients : List ConnectedClient) :
    (s.terminateClients clients).registry = s.registry := by
  induction clients generalizing s with
  | nil => rfl
  | cons client rest inductionHypothesis =>
      rw [terminateClients, inductionHypothesis, registry_terminate]

@[simp] theorem registry_rejectPending (s : State) (entries : List (String × PendingRequest)) :
    (s.rejectPending entries).registry = s.registry := by
  induction entries generalizing s with
  | nil => rfl
  | cons entry rest inductionHypothesis =>
      rw [rejectPending, inductionHypothesis]
      rfl

@[simp] theorem registry_clearKeepalive (s : State) (conn : Conn) :
    (s.clearKeepalive conn).registry = s.registry := by
  unfold clearKeepalive
  cases conn.pingTimer <;> cases conn.pongTimer <;> rfl

@[simp] theorem registry_removePending (s : State) (id : String) :
    (s.removePending id).1.registry = s.registry := by
  unfold removePending
  split <;> rfl

@[simp] theorem registry_requestTimeout (s : State) (id : String) :
    (s.requestTimeout id).registry = s.registry :=
  s.registry_removePending id

@[simp] theorem registry_handleResponse (s : State) (response : Response) :
    (s.handleResponse response).registry = s.registry := by
  have removed := s.registry_removePending response.id
  unfold handleResponse
  split
  · rfl
  · split <;> rename_i found <;> rw [found] at removed
    · exact removed
    · exact removed

@[simp] theorem registry_handlePong (s : State) (ws : ConnId) :
    (s.handlePong ws).registry = s.registry := by
  unfold handlePong
  split
  · rfl
  · exact registry_modifyConn_same _ _ fun _ => rfl

end State

namespace RelayServer

variable (server : RelayServer)

@[simp] theorem registry_sendServerMessage (s : State) (ws : ConnId) (msg : ServerMessage) :
    (server.sendServerMessage s ws msg).registry = s.registry := by
  unfold sendServerMessage
  split <;> rfl

@[simp] theorem registry_sendError (s : State) (ws : ConnId) (message : String) :
    (server.sendError s ws message).registry = s.registry :=
  server.registry_sendServerMessage s ws _

@[simp] theorem registry_forward (s : State) (uuid method path : String) (headers : Headers)
    (body : Bytes) (id : String) (buffered : Nat) :
    (server.forward s uuid method path headers body id buffered).registry = s.registry := by
  unfold forward
  repeat' split
  · rfl
  · rfl
  · rfl
  · rw [registry_sendServerMessage]
    rfl

@[simp] theorem registry_startKeepalive (s : State) (ws : ConnId) :
    (server.startKeepalive s ws).registry = s.registry := by
  unfold startKeepalive
  exact State.registry_modifyConn_same _ _ fun _ => rfl

end RelayServer

/-! ### What moves the registry -/

theorem State.registry_cleanup (s : State) (ws : ConnId) :
    (s.cleanup ws).registry = s.registry.cleaned ws := by
  unfold State.cleanup
  split
  · rename_i absent
    simp [Registry.cleaned, Registry.modify, State.registry, absent]
  · rename_i conn found
    rw [State.registry_modifyConn _ ws (g := fun a => { a with registeredUuid := none })
      fun _ => rfl]
    unfold Registry.cleaned
    congr 1
    have own : (s.registry.admission ws).bind Admission.registeredUuid = conn.registeredUuid := by
      simp [State.registry, found, Conn.admission]
    rw [own]
    have kept : ((s.clearKeepalive conn).deregister ws conn).registry.admission =
        s.registry.admission := by
      rw [← s.registry_clearKeepalive conn]
      unfold State.deregister
      repeat' split
      all_goals rfl
    have clients : ((s.clearKeepalive conn).deregister ws conn).registry.client = fun uuid =>
        if conn.registeredUuid = some uuid ∧
          (s.registry.client uuid).map ConnectedClient.ws = some ws then none
        else s.registry.client uuid := by
      funext uuid
      rw [← s.registry_clearKeepalive conn]
      generalize s.clearKeepalive conn = t
      unfold State.deregister
      cases conn.registeredUuid with
      | none => simp
      | some own =>
          simp only [Option.some.injEq]
          cases entry : t.clients.get own with
          | none =>
              by_cases same : own = uuid
              · subst same
                simp [State.registry, entry]
              · simp [same]
          | some current =>
              by_cases same : own = uuid
              · subst same
                by_cases mine : current.ws = ws
                · simp [State.registry, State.dropClient, State.emit, entry, mine]
                · simp [State.registry, entry, mine]
              · by_cases mine : current.ws = ws
                · simp [State.registry, State.dropClient, State.emit, mine, same,
                    OrderedMap.get_delete_of_ne]
                · simp [same, mine]
    cases registry : ((s.clearKeepalive conn).deregister ws conn).registry with
    | mk client admission =>
        rw [registry] at kept clients
        simp only at kept clients
        rw [kept, clients]

theorem State.registry_putClient (s : State) (client : ConnectedClient) :
    (s.putClient client).registry =
      { s.registry with
        client := Function.update s.registry.client client.uuid (some client) } := by
  simp only [State.registry, State.putClient, Registry.mk.injEq, and_true]
  funext uuid
  rw [OrderedMap.get_set]
  by_cases same : client.uuid = uuid
  · subst same
    simp
  · rw [if_neg same, Function.update_of_ne (Ne.symm same)]

theorem State.registry_evictPrevious (s : State) (uuid : String) :
    (s.evictPrevious uuid).registry =
      { s.registry with client := Function.update s.registry.client uuid none } := by
  unfold State.evictPrevious
  split
  · rename_i absent
    have unchanged : Function.update s.clients.get uuid none = s.clients.get := by
      rw [← absent, Function.update_eq_self]
    simp only [State.registry, unchanged]
  · rw [State.registry_terminate, State.registry_emit]
    simp only [State.registry, State.dropClient, Registry.mk.injEq, and_true]
    funext other
    rw [OrderedMap.get_delete]
    by_cases same : uuid = other
    · subst same
      simp
    · rw [if_neg same, Function.update_of_ne (Ne.symm same)]

theorem RelayServer.registry_register (server : RelayServer) (s : State) (ws : ConnId)
    (certPoint : Bytes) (hello : Hello) :
    (server.register s ws certPoint hello).registry =
      s.registry.registered ⟨ws, server.crypto.uuidFromP256Point certPoint, certPoint,
        base64Decode hello.decryptPubkey.toList⟩ := by
  simp only [register, registry_startKeepalive, State.registry_emit, registry_sendServerMessage]
  rw [State.registry_modifyConn _ ws
      (g := fun a => { a with registeredUuid := some (server.crypto.uuidFromP256Point certPoint) })
      fun _ => rfl,
    State.registry_putClient, State.registry_evictPrevious]
  simp only [Function.update_idem]
  rfl

theorem RelayServer.registry_handleConnection (server : RelayServer) (s : State) (ws : ConnId)
    (peerCert : Option PeerCertificate) :
    (server.handleConnection s ws peerCert).registry =
      s.registry.accepted ws (peerCert.bind extractP256PointFromCert) := by
  have acceptedRegistry : ∀ conn : Conn, (s.accept ws conn).registry =
      { s.registry with
        admission := Function.update s.registry.admission ws (some conn.admission) } := by
    intro conn
    simp only [State.registry, State.accept, Registry.mk.injEq, true_and]
    funext other
    rw [OrderedMap.get_set]
    by_cases same : ws = other
    · subst same
      simp
    · rw [if_neg same, Function.update_of_ne (Ne.symm same)]
  unfold handleConnection
  repeat' split
  all_goals simp only [State.registry_closeSocket, registry_sendError, acceptedRegistry]
  all_goals rfl

theorem State.registry_close (s : State) : s.close.registry = s.registry.cleared := by
  have rejected := s.registry_rejectPending s.pending.entries
  have terminated := fun clients =>
    ((s.rejectPending s.pending.entries).clearPending).registry_terminateClients clients
  unfold State.close
  simp only [State.registry, State.clearClients, State.clearPending, Registry.cleared,
    Registry.mk.injEq] at rejected terminated ⊢
  refine ⟨rfl, ?_⟩
  rw [(terminated _).2]
  exact rejected.2

/-! ### One event -/

/-- A client that presents the certificate and sends the frame is registered. -/
def Registers (server : RelayServer) (peerCert : Option PeerCertificate) (frame : String) : Prop :=
  ∃ certPoint hello, peerCert.bind extractP256PointFromCert = some certPoint ∧
    server.wire.decodeClient frame = .envelope (.hello hello) ∧
    server.validateDecryptPubkey hello = none

/-- The event is a close, error, pong, ping-interval or pong-timeout event of
the socket `ws`. -/
inductive Lifecycle (s : State) (ws : ConnId) : Event → Prop where
  | closed : Lifecycle s ws (.wsClose ws)
  | error : Lifecycle s ws (.wsError ws)
  | pong : Lifecycle s ws (.pong ws)
  | pingInterval {timer due : Nat} (armed : s.pingTimers.get timer = some ⟨due, ws⟩) :
      Lifecycle s ws (.pingTimer timer)
  | pongTimeout {timer due : Nat} (armed : s.pongTimers.get timer = some ⟨due, ws⟩) :
      Lifecycle s ws (.pongTimer timer)

/-- The ways one event moves the registry. -/
inductive RegistryMove (server : RelayServer) (s : State) : Event → Registry → Prop where
  | quiet (e : Event) (noHello : ∀ ws certPoint hello,
      ¬ HelloAccepted server s e ws certPoint hello) : RegistryMove server s e s.registry
  | accepted {ws : ConnId} {peerCert : Option PeerCertificate} (fresh : s.conns.get ws = none)
      (certPoint : Option Bytes) :
      RegistryMove server s (.connection ws peerCert) (s.registry.accepted ws certPoint)
  | registered {e : Event} {ws : ConnId} {certPoint : Bytes} {hello : Hello}
      (live : s.live ws = true) (acceptedHello : HelloAccepted server s e ws certPoint hello) :
      RegistryMove server s e (s.registry.registered ⟨ws,
        server.crypto.uuidFromP256Point certPoint, certPoint,
        base64Decode hello.decryptPubkey.toList⟩)
  | cleaned {e : Event} {ws : ConnId} (cause : Lifecycle s ws e) :
      RegistryMove server s e (s.registry.cleaned ws)
  | socketClosed {ws : ConnId} :
      RegistryMove server s (.wsClose ws) ((s.registry.socketClosed ws).cleaned ws)
  | unadmittedClosed {ws : ConnId}
      (unadmitted : ∀ conn, s.conns.get ws = some conn → conn.certPoint = none) :
      RegistryMove server s (.wsClose ws) (s.registry.socketClosed ws)
  | cleared : RegistryMove server s .close s.registry.cleared

/-- One event moves the registry in one of the ways listed. -/
theorem RelayServer.registry_step (server : RelayServer) {s s' : State} {e : Event}
    (after : server.step s e = some s') : RegistryMove server s e s'.registry := by
  -- Only a message delivers a hello.
  have quiet : (∀ ws frame, e ≠ .message ws frame) → s'.registry = s.registry →
      RegistryMove server s e s'.registry := by
    intro noMessage same
    rw [same]
    apply RegistryMove.quiet
    intro ws certPoint hello accepted
    obtain ⟨frame, isMessage, _⟩ := accepted.delivered
    exact noMessage ws frame isMessage
  have closedRegistry : ∀ ws, (s.socketClosed ws).registry = s.registry.socketClosed ws :=
    fun ws => s.registry_modifyConn ws fun _ => rfl
  cases stepCase_of_step after with
  | connected fresh =>
      rw [registry_handleConnection]
      exact .accepted fresh _
  | ignored _ noHello => exact .quiet e noHello
  | turnedAway _ _ _ _ _ noHello =>
      rw [State.registry_closeSocket, registry_sendError]
      apply RegistryMove.quiet
      intro ws certPoint hello accepted
      obtain ⟨_, sameEvent, _⟩ := accepted.delivered
      cases sameEvent
      exact noHello certPoint hello accepted
  | registered live accepted =>
      rw [registry_register]
      exact .registered live accepted
  | answered _ _ _ response decoded =>
      rw [State.registry_handleResponse]
      apply RegistryMove.quiet
      intro ws certPoint hello accepted
      obtain ⟨_, sameEvent, otherwise⟩ := accepted.delivered
      cases sameEvent
      rw [decoded] at otherwise
      cases otherwise
  | ponged => exact quiet (by simp) (State.registry_handlePong _ _)
  | failedEarly => exact quiet (by simp) (State.registry_terminate _ _)
  | failed =>
      rw [State.registry_cleanup, State.registry_terminate]
      exact .cleaned .error
  | closedEarly _ unadmitted =>
      rw [closedRegistry]
      apply RegistryMove.unadmittedClosed
      intro conn found
      cases certified : conn.certPoint with
      | none => rfl
      | some certPoint => exact absurd ⟨found, certified⟩ (unadmitted conn certPoint)
  | closed =>
      rw [State.registry_cleanup, closedRegistry]
      exact .socketClosed
  | peerClosing =>
      exact quiet (by simp) (State.registry_modifyConn_same _ _ State.admission_startClosing)
  | timedOut => exact quiet (by simp) (State.registry_requestTimeout _ _)
  | pinged armed =>
      unfold pingInterval at quiet ⊢
      split at quiet
      · rename_i notOpened
        rw [if_pos notOpened, State.registry_cleanup]
        exact .cleaned (.pingInterval armed)
      · rename_i opened
        rw [if_neg opened]
        exact quiet (by simp) (State.registry_modifyConn_same _ _ fun _ => rfl)
  | pongMissed armed =>
      rw [State.pongTimeout, State.registry_cleanup, State.registry_terminate]
      exact .cleaned (.pongTimeout armed)
  | ticked => exact quiet (by simp) rfl
  | forwarded => exact quiet (by simp) (server.registry_forward _ _ _ _ _ _ _ _)
  | shutDown =>
      rw [State.registry_close]
      exact .cleared

/-! ### The registry invariant -/

/-- Every entry is held by a socket that is still there, was admitted with the
entry's key and has registered under its uuid. -/
def Registry.Sound (server : RelayServer) (r : Registry) : Prop :=
  ∀ uuid client, r.client uuid = some client →
    client.uuid = uuid ∧ server.crypto.uuidFromP256Point client.pubkey = uuid ∧
      r.admission client.ws = some ⟨some client.pubkey, some uuid, false⟩

namespace Registry

variable {server : RelayServer} {r : Registry}

/-- The entry of a sound registry that survives a cleanup is another
socket's. -/
theorem Sound.cleaned_client (sound : r.Sound server) {ws : ConnId} {uuid : String}
    {client : ConnectedClient} (present : (r.cleaned ws).client uuid = some client) :
    r.client uuid = some client ∧ client.ws ≠ ws := by
  obtain ⟨before, notOwn⟩ := (cleaned_client_eq_some_iff _ _ _ _).mp present
  refine ⟨before, ?_⟩
  rintro rfl
  exact notOwn ⟨by rw [(sound uuid client before).2.2]; rfl, rfl⟩

theorem Sound.cleaned (sound : r.Sound server) (ws : ConnId) : (r.cleaned ws).Sound server := by
  intro uuid client present
  obtain ⟨before, different⟩ := sound.cleaned_client present
  rw [cleaned_admission_of_ne _ different]
  exact sound uuid client before

theorem Sound.accepted (sound : r.Sound server) {ws : ConnId} (fresh : r.admission ws = none)
    (certPoint : Option Bytes) : (r.accepted ws certPoint).Sound server := by
  intro uuid client present
  obtain ⟨sameUuid, hash, admission⟩ := sound uuid client present
  have different : client.ws ≠ ws := by
    rintro rfl
    rw [fresh] at admission
    contradiction
  exact ⟨sameUuid, hash, (Function.update_of_ne different _ _).trans admission⟩

theorem Sound.registered (sound : r.Sound server) {client : ConnectedClient}
    (hash : server.crypto.uuidFromP256Point client.pubkey = client.uuid)
    (admission : r.admission client.ws = some ⟨some client.pubkey, none, false⟩) :
    (r.registered client).Sound server := by
  intro uuid other present
  by_cases same : uuid = client.uuid
  · subst same
    have entry : (r.registered client).client client.uuid = some client :=
      Function.update_self _ _ _
    rw [entry] at present
    obtain rfl := Option.some.inj present
    refine ⟨rfl, hash, ?_⟩
    rw [Registry.registered, modify_admission_self, admission]
    rfl
  · have entry : (r.registered client).client uuid = r.client uuid :=
      Function.update_of_ne same _ _
    rw [entry] at present
    obtain ⟨sameUuid, otherHash, otherAdmission⟩ := sound uuid other present
    have different : other.ws ≠ client.ws := by
      intro equal
      rw [equal, admission, Option.some.injEq, Admission.mk.injEq] at otherAdmission
      exact absurd otherAdmission.2.1 (by simp)
    rw [Registry.registered, modify_admission_of_ne _ _ different]
    exact ⟨sameUuid, otherHash, otherAdmission⟩

/-- Closing a socket and cleaning up after it keeps the registry sound. -/
theorem Sound.socketClosed (sound : r.Sound server) (ws : ConnId) :
    ((r.socketClosed ws).cleaned ws).Sound server := by
  intro uuid client present
  obtain ⟨before, notOwn⟩ := (cleaned_client_eq_some_iff _ _ _ _).mp present
  obtain ⟨sameUuid, hash, admission⟩ := sound uuid client before
  have different : client.ws ≠ ws := by
    rintro rfl
    refine notOwn ⟨?_, rfl⟩
    rw [Registry.socketClosed, modify_admission_self, admission]
    rfl
  rw [cleaned_admission_of_ne _ different, Registry.socketClosed,
    modify_admission_of_ne _ _ different]
  exact ⟨sameUuid, hash, admission⟩

theorem Sound.unadmittedClosed (sound : r.Sound server) {ws : ConnId}
    (unadmitted : ∀ a, r.admission ws = some a → a.certPoint = none) :
    (r.socketClosed ws).Sound server := by
  intro uuid client present
  obtain ⟨sameUuid, hash, admission⟩ := sound uuid client present
  have different : client.ws ≠ ws := by
    rintro rfl
    have absurdity := unadmitted _ admission
    contradiction
  rw [Registry.socketClosed, modify_admission_of_ne _ _ different]
  exact ⟨sameUuid, hash, admission⟩

end Registry

theorem HelloAccepted.admission {server : RelayServer} {s : State} {e : Event} {ws : ConnId}
    {certPoint : Bytes} {hello : Hello}
    (accepted : HelloAccepted server s e ws certPoint hello) (live : s.live ws = true) :
    s.registry.admission ws = some ⟨some certPoint, none, false⟩ := by
  obtain ⟨conn, found, admitted, unregistered⟩ := accepted.unregistered
  have notClosed : conn.closeEmitted = false := by simpa [State.live, found] using live
  simp [State.registry, found, Conn.admission, admitted, unregistered, notClosed]

theorem RegistryMove.sound {server : RelayServer} {s : State} {e : Event} {r : Registry}
    (move : RegistryMove server s e r) (sound : s.registry.Sound server) : r.Sound server := by
  cases move with
  | quiet => exact sound
  | accepted fresh certPoint => exact sound.accepted (by simp [State.registry, fresh]) certPoint
  | registered live accepted => exact sound.registered rfl (accepted.admission live)
  | cleaned => exact sound.cleaned _
  | socketClosed => exact sound.socketClosed _
  | unadmittedClosed unadmitted =>
      refine sound.unadmittedClosed fun a present => ?_
      obtain ⟨conn, found, rfl⟩ := Option.map_eq_some_iff.mp present
      exact unadmitted conn found
  | cleared =>
      intro uuid client present
      cases present

theorem RelayServer.sound_run (server : RelayServer) {events : List Event} {s : State}
    (ran : server.machine.run events = some s) : s.registry.Sound server :=
  Machine.state_invariant (P := fun s => s.registry.Sound server)
    (fun _ _ present => nomatch present)
    (fun _ _ _ sound after => (server.registry_step after).sound sound) ran

/-! ### Who was admitted last -/

/-- An entry after a move stood there before, or the move registered it. -/
theorem RegistryMove.client_cases {server : RelayServer} {s : State} {e : Event} {r : Registry}
    (move : RegistryMove server s e r) {uuid : String} {client : ConnectedClient}
    (present : r.client uuid = some client) :
    (s.clients.get uuid = some client ∧ ∀ ws certPoint hello,
        HelloAccepted server s e ws certPoint hello →
          server.crypto.uuidFromP256Point certPoint ≠ uuid) ∨
      ∃ hello, HelloAccepted server s e client.ws client.pubkey hello ∧
        client.uuid = uuid ∧ client.decryptPubkey = base64Decode hello.decryptPubkey.toList := by
  have noHello : (∀ ws frame, e ≠ .message ws frame) → ∀ ws certPoint hello,
      HelloAccepted server s e ws certPoint hello →
        server.crypto.uuidFromP256Point certPoint ≠ uuid := by
    rintro noMessage ws certPoint hello ⟨⟨frame, isMessage, _⟩, _, _⟩
    exact absurd isMessage (noMessage ws frame)
  cases move with
  | quiet _ noneAccepted =>
      exact Or.inl ⟨present, fun _ _ _ accepted => absurd accepted (noneAccepted _ _ _)⟩
  | accepted => exact Or.inl ⟨present, noHello (by simp)⟩
  | @registered _ ws certPoint hello live accepted =>
      simp only [Registry.registered, Registry.modify] at present
      by_cases same : uuid = server.crypto.uuidFromP256Point certPoint
      · subst same
        rw [Function.update_self] at present
        obtain rfl := Option.some.inj present
        exact Or.inr ⟨hello, accepted, rfl, rfl⟩
      · rw [Function.update_of_ne same] at present
        refine Or.inl ⟨present, fun other point otherHello otherAccepted => ?_⟩
        obtain ⟨frame, rfl, _⟩ := accepted.delivered
        obtain ⟨_, sameEvent, _⟩ := otherAccepted.delivered
        cases sameEvent
        obtain ⟨conn, found, admitted, _⟩ := accepted.unregistered
        obtain ⟨otherConn, otherFound, otherAdmitted, _⟩ := otherAccepted.unregistered
        rw [found] at otherFound
        obtain rfl := Option.some.inj otherFound
        rw [admitted] at otherAdmitted
        obtain rfl := Option.some.inj otherAdmitted
        exact Ne.symm same
  | cleaned cause =>
      exact Or.inl ⟨((Registry.cleaned_client_eq_some_iff _ _ _ _).mp present).1,
        noHello (by rintro ws frame rfl; cases cause)⟩
  | socketClosed =>
      exact Or.inl ⟨((Registry.cleaned_client_eq_some_iff _ _ _ _).mp present).1,
        noHello (by simp)⟩
  | unadmittedClosed => exact Or.inl ⟨present, noHello (by simp)⟩
  | cleared => contradiction

/-- The step accepted a hello for `uuid` on the socket. -/
def AcceptedFor (server : RelayServer) (uuid : String) (s : State) (e : Event) (_ : State)
    (ws : ConnId) : Prop :=
  ∃ certPoint hello, HelloAccepted server s e ws certPoint hello ∧
    server.crypto.uuidFromP256Point certPoint = uuid

/-- The step accepted `hello` on the socket. -/
def AcceptedOn (server : RelayServer) (ws : ConnId) (hello : Hello) (s : State) (e : Event)
    (_ : State) : Prop :=
  ∃ certPoint, HelloAccepted server s e ws certPoint hello

theorem RelayServer.latest_run (server : RelayServer) {events : List Event} {s : State}
    (ran : server.machine.run events = some s) {uuid : String} {client : ConnectedClient}
    (present : s.clients.get uuid = some client) :
    server.machine.Latest (AcceptedFor server uuid) events client.ws ∧
      ∃ hello, server.machine.Happened (AcceptedOn server client.ws hello) events ∧
        server.validateDecryptPubkey hello = none ∧
        client.decryptPubkey = base64Decode hello.decryptPubkey.toList := by
  refine Machine.run_invariant (P := fun events s => ∀ uuid client,
    s.clients.get uuid = some client →
      server.machine.Latest (AcceptedFor server uuid) events client.ws ∧
        ∃ hello, server.machine.Happened (AcceptedOn server client.ws hello) events ∧
          server.validateDecryptPubkey hello = none ∧
          client.decryptPubkey = base64Decode hello.decryptPubkey.toList)
    (fun _ _ absurdity => absurd absurdity (by simp [machine, State.init])) ?_ ran uuid client
    present
  intro events s e s' before all after uuid client present
  rcases (server.registry_step after).client_cases present with ⟨old, others⟩ |
    ⟨hello, accepted, sameUuid, key⟩
  · obtain ⟨latest, hello, happened, valid, key⟩ := all uuid client old
    refine ⟨latest.extend before after ?_, hello, happened.extend _, valid, key⟩
    rintro ws ⟨certPoint, newHello, accepted, hash⟩
    exact others ws certPoint newHello accepted hash
  · have hash := (((server.registry_step after).sound (server.sound_run before)) uuid client
      present).2.1
    refine ⟨Machine.latest_last before after ⟨client.pubkey, hello, accepted, hash⟩, hello,
      Machine.happened_last before after ⟨client.pubkey, accepted⟩, accepted.valid, key⟩

/-- A lifecycle event of a socket leaves the entries of other sockets alone. -/
theorem RegistryMove.other_client {server : RelayServer} {s : State} {e : Event} {r : Registry}
    (move : RegistryMove server s e r) {ws : ConnId} (cause : Lifecycle s ws e) {uuid : String}
    {client : ConnectedClient} (present : s.clients.get uuid = some client)
    (different : client.ws ≠ ws) : r.client uuid = some client := by
  cases move with
  | quiet => exact present
  | accepted => exact present
  | registered _ accepted =>
      obtain ⟨frame, rfl, _⟩ := accepted.delivered
      cases cause
  | @cleaned _ other otherCause =>
      have same : other = ws := by
        cases cause with
        | closed => cases otherCause; rfl
        | error => cases otherCause; rfl
        | pong => cases otherCause; rfl
        | pingInterval armed =>
            cases otherCause with
            | pingInterval otherArmed =>
                rw [armed] at otherArmed
                cases otherArmed
                rfl
        | pongTimeout armed =>
            cases otherCause with
            | pongTimeout otherArmed =>
                rw [armed] at otherArmed
                cases otherArmed
                rfl
      subst same
      exact (Registry.cleaned_client_eq_some_iff _ _ _ _).mpr
        ⟨present, fun own => different own.2⟩
  | socketClosed =>
      cases cause
      exact (Registry.cleaned_client_eq_some_iff _ _ _ _).mpr
        ⟨present, fun own => different own.2⟩
  | unadmittedClosed => exact present
  | cleared => cases cause

theorem validateDecryptPubkey_length {server : RelayServer} {hello : Hello}
    (valid : server.validateDecryptPubkey hello = none) :
    (base64Decode hello.decryptPubkey.toList).length = 65 := by
  unfold RelayServer.validateDecryptPubkey at valid
  simp only at valid
  split at valid
  · contradiction
  · split at valid
    · contradiction
    · rename_i shape
      exact Decidable.not_not.mp fun notLength => shape (Or.inl notLength)

/-- In every state between events each entry of the registry is held by a
socket that has not emitted `close`, under the hash of the socket's own
certificate point, with the key of a hello that was accepted on it, and no
hello for the uuid was accepted later. No lifecycle event of another socket
removes or alters the entry. -/
theorem registry_invariant (server : RelayServer) {events : List Event} {s : State}
    (ran : server.machine.run events = some s) {uuid : String} {client : ConnectedClient}
    (present : s.clients.get uuid = some client) :
    client.uuid = uuid ∧
      (∃ conn, s.conns.get client.ws = some conn ∧ conn.closeEmitted = false ∧
        conn.certPoint = some client.pubkey) ∧
      server.crypto.uuidFromP256Point client.pubkey = uuid ∧
      client.decryptPubkey.length = 65 ∧
      (∃ hello, server.machine.Happened (AcceptedOn server client.ws hello) events ∧
        server.validateDecryptPubkey hello = none ∧
        client.decryptPubkey = base64Decode hello.decryptPubkey.toList) ∧
      server.machine.Latest (AcceptedFor server uuid) events client.ws ∧
      (∀ ws e s', Lifecycle s ws e → ws ≠ client.ws → server.step s e = some s' →
        s'.clients.get uuid = some client) := by
  obtain ⟨sameUuid, hash, admission⟩ := server.sound_run ran uuid client present
  obtain ⟨latest, hello, happened, valid, key⟩ := server.latest_run ran present
  obtain ⟨conn, found, view⟩ := Option.map_eq_some_iff.mp admission
  refine ⟨sameUuid, ⟨conn, found, congrArg Admission.closeEmitted view,
    congrArg Admission.certPoint view⟩, hash, ?_, ⟨hello, happened, valid, key⟩, latest, ?_⟩
  · rw [key]
    exact validateDecryptPubkey_length valid
  · intro ws e s' cause different after
    exact (server.registry_step after).other_client cause present (Ne.symm different)

/-- The entry of a daemon that has just registered. -/
theorem registry_invariant_admission :
    ∃ s client, Sample.server.machine.run Sample.admission = some s ∧
      s.clients.get Sample.uuidA = some client ∧
      Sample.server.machine.Latest (AcceptedFor Sample.server Sample.uuidA) Sample.admission
        client.ws := by
  have present := Sample.enrolled_admitted.entry
  exact ⟨Sample.admitted, Sample.clientA, Sample.run_admission, present,
    (registry_invariant Sample.server Sample.run_admission present).2.2.2.2.2.1⟩

end DicodeRelay.Relay
