import DicodeRelay.Relay.Announcements

/-!
Contract: what becomes of a connection the server has rejected.

Owns:
- rejection as the server performs it: an error and a call to `ws.close()`;
- that the frames still delivered on a rejected connection keep it out of the
  registry exactly when none of them is an acceptable hello.

Does not own: the registry of connections that were never rejected.
-/

namespace DicodeRelay.Relay

open DicodeRelay.Lib DicodeRelay.Shared

/-- The server has called `ws.close()` on the socket, which it does only right
after an error. -/
def Rejected (s : State) (ws : ConnId) : Prop :=
  ∃ code reason, Effect.closeSocket ws code reason ∈ s.log

/-- The step neither registers the socket nor starts its keepalive. -/
structure StaysOut (s s' : State) (ws : ConnId) : Prop where
  notEntered : ∀ uuid client, s'.clients.get uuid = some client → client.ws = ws →
    s.clients.get uuid = some client
  notReplaced : ∀ uuid client, s.clients.get uuid = some client → client.ws ≠ ws →
    s'.clients.get uuid = some client
  notConnected : ∀ uuid, ¬ ∃ new, s'.log = s.log ++ new ∧ Effect.clientConnected uuid ∈ new
  noKeepalive : s'.pingTimers = s.pingTimers ∧ s'.pongTimers = s.pongTimers

/-- The event delivers an acceptable hello on a socket that was rejected and
has no registration. -/
def LateHello (server : RelayServer) (s : State) (e : Event) : Prop :=
  ∃ ws certPoint hello, HelloAccepted server s e ws certPoint hello ∧ Rejected s ws

/-! ### The keepalive and the announcements of a state -/

def Effect.isConnected : Effect → Bool
  | .clientConnected _ => true
  | _ => false

structure Presence where
  pingTimers : Timers ConnId
  pongTimers : Timers ConnId
  announced : List Effect

def State.presence (s : State) : Presence where
  pingTimers := s.pingTimers
  pongTimers := s.pongTimers
  announced := s.log.filter Effect.isConnected

namespace State

theorem presence_emit (s : State) {effect : Effect} (quiet : effect.isConnected = false) :
    (s.emit effect).presence = s.presence := by
  simp [presence, emit, quiet]

@[simp] theorem presence_modifyConn (s : State) (ws : ConnId) (f : Conn → Conn) :
    (s.modifyConn ws f).presence = s.presence := by
  unfold modifyConn
  split <;> rfl

@[simp] theorem presence_closeSocket (s : State) (ws : ConnId) (code : Option Nat)
    (reason : String) : (s.closeSocket ws code reason).presence = s.presence := by
  rw [closeSocket, presence_modifyConn, presence_emit _ rfl]

@[simp] theorem presence_removePending (s : State) (id : String) :
    (s.removePending id).1.presence = s.presence := by
  unfold removePending
  split <;> rfl

@[simp] theorem presence_handleResponse (s : State) (response : Response) :
    (s.handleResponse response).presence = s.presence := by
  have removed := s.presence_removePending response.id
  unfold handleResponse
  split
  · rfl
  · split <;> rename_i found <;> rw [found] at removed
    · exact removed
    · rw [presence_emit _ rfl]
      exact removed

end State

namespace RelayServer

variable (server : RelayServer)

@[simp] theorem presence_sendError (s : State) (ws : ConnId) (message : String) :
    (server.sendError s ws message).presence = s.presence := by
  unfold sendError sendServerMessage
  split
  · exact State.presence_emit _ rfl
  · rfl

/-- A frame that is no acceptable hello announces nothing and starts no
timer. -/
theorem presence_handleMessage {s : State} {ws : ConnId} {conn : Conn} {certPoint : Bytes}
    {frame : String} (refused : ∀ hello, server.wire.decodeClient frame = .envelope (.hello hello) →
      conn.registeredUuid = none → server.validateDecryptPubkey hello ≠ none) :
    (server.handleMessage s ws conn certPoint frame).presence = s.presence := by
  unfold handleMessage
  split
  · rw [State.presence_closeSocket, presence_sendError]
  · split
    · rw [State.presence_closeSocket, presence_sendError]
    · rfl
  · rename_i envelope decoded
    split
    · rename_i unregistered
      unfold handleHello
      split
      · rename_i hello
        split
        · rw [State.presence_closeSocket, presence_sendError]
        · rename_i valid
          exact absurd valid (refused hello decoded unregistered)
      · rw [State.presence_closeSocket, presence_sendError]
    · split
      · exact State.presence_handleResponse _ _
      · rfl

end RelayServer

/-! ### The exact condition -/

/-- A frame that is no acceptable hello leaves the socket out. -/
theorem staysOut_of_not_accepted {server : RelayServer} {s s' : State} {ws : ConnId}
    {frame : String} (after : server.step s (.message ws frame) = some s')
    (notAccepted : ∀ certPoint hello,
      ¬ HelloAccepted server s (.message ws frame) ws certPoint hello) :
    StaysOut s s' ws := by
  have clients : s'.clients.get = s.clients.get := by
    have move := server.registry_step after
    change s'.registry.client = _
    generalize s'.registry = r at move
    cases move with
    | quiet => rfl
    | registered _ accepted =>
        obtain ⟨_, sameEvent, _⟩ := accepted.delivered
        cases sameEvent
        exact absurd accepted (notAccepted _ _)
    | cleaned cause => cases cause
  have presence : s'.presence = s.presence := by
    simp only [RelayServer.step, Option.ite_none_right_eq_some, Option.some.injEq] at after
    obtain ⟨_, rfl⟩ := after
    unfold State.whenAdmitted
    split
    · rfl
    · rename_i conn found
      split
      · rfl
      · rename_i certPoint admitted
        exact server.presence_handleMessage fun hello decoded unregistered valid =>
          notAccepted certPoint hello
            ⟨⟨frame, rfl, decoded⟩, ⟨conn, found, admitted, unregistered⟩, valid⟩
  have announced : s'.log.filter Effect.isConnected = s.log.filter Effect.isConnected :=
    congrArg Presence.announced presence
  refine ⟨?_, ?_, ?_, congrArg Presence.pingTimers presence, congrArg Presence.pongTimers presence⟩
  · intro uuid client present _
    rwa [clients] at present
  · intro uuid client present _
    rwa [clients]
  · rintro uuid ⟨new, log, member⟩
    rw [log, List.filter_append, List.append_right_eq_self] at announced
    have kept : Effect.clientConnected uuid ∈ new.filter Effect.isConnected :=
      List.mem_filter.mpr ⟨member, rfl⟩
    rw [announced] at kept
    contradiction

theorem RelayServer.log_sendServerMessage (server : RelayServer) (s : State) (ws : ConnId)
    (msg : ServerMessage) : s.log <+: (server.sendServerMessage s ws msg).log := by
  unfold sendServerMessage
  split
  · exact List.prefix_append _ _
  · exact List.prefix_rfl

/-- Registering announces the uuid. -/
theorem RelayServer.log_register (server : RelayServer) (s : State) (ws : ConnId)
    (certPoint : Bytes) (hello : Hello) :
    ∃ new, (server.register s ws certPoint hello).log = s.log ++ new ∧
      Effect.clientConnected (server.crypto.uuidFromP256Point certPoint) ∈ new := by
  obtain ⟨evicted, evictedLog⟩ := s.log_evictPrevious (server.crypto.uuidFromP256Point certPoint)
  simp only [register, startKeepalive, State.log_modifyConn]
  generalize client : ConnectedClient.mk ws _ certPoint _ = client
  generalize registering : State.modifyConn _ ws _ = t
  have sameLog : t.log = s.log ++ evicted := by
    rw [← registering, State.log_modifyConn, evictedLog]
    rfl
  obtain ⟨sent, sentLog⟩ := server.log_sendServerMessage t ws
    (.welcome (server.welcome (server.crypto.uuidFromP256Point certPoint)))
  refine ⟨evicted ++ sent ++ [.clientConnected (server.crypto.uuidFromP256Point certPoint)], ?_,
    by simp⟩
  change (server.sendServerMessage t ws _).log ++ _ = _
  rw [← sentLog, sameLog]
  simp

/-- An acceptable hello is announced. -/
theorem announced_of_accepted {server : RelayServer} {s s' : State} {ws : ConnId}
    {frame : String} {certPoint : Bytes} {hello : Hello}
    (after : server.step s (.message ws frame) = some s')
    (accepted : HelloAccepted server s (.message ws frame) ws certPoint hello) :
    ∃ uuid new, s'.log = s.log ++ new ∧ Effect.clientConnected uuid ∈ new := by
  obtain ⟨⟨_, sameEvent, decoded⟩, ⟨conn, found, admitted, unregistered⟩, valid⟩ := accepted
  cases sameEvent
  simp only [RelayServer.step, Option.ite_none_right_eq_some, Option.some.injEq] at after
  obtain ⟨_, rfl⟩ := after
  simp only [State.whenAdmitted, found, admitted, RelayServer.handleMessage, decoded,
    unregistered, if_true, RelayServer.handleHello, valid]
  exact ⟨_, server.log_register s ws certPoint hello⟩

/-- In every run, the frames delivered on rejected connections keep them out
exactly when none of them is an acceptable hello. -/
theorem rejected_stays_out_iff (server : RelayServer) (events : List Event) :
    (∀ earlier t ws frame t', server.machine.StepAt events earlier t (.message ws frame) t' →
        Rejected t ws → StaysOut t t' ws) ↔
      server.machine.Meets (fun t e => ¬ LateHello server t e) events := by
  constructor
  · rintro staysOut earlier t e t' step ⟨ws, certPoint, hello, accepted, rejected⟩
    obtain ⟨frame, rfl, _⟩ := accepted.delivered
    obtain ⟨uuid, announced⟩ := announced_of_accepted step.after accepted
    exact (staysOut earlier t ws frame t' step rejected).notConnected uuid announced
  · intro meets earlier t ws frame t' step rejected
    exact staysOut_of_not_accepted step.after fun certPoint hello accepted =>
      meets _ _ _ _ step ⟨ws, certPoint, hello, accepted, rejected⟩

/-- A certificate holder whose first frame is no JSON is told so, and stays
connected. -/
theorem RelayServer.turns_away (server : RelayServer) {cert : PeerCertificate}
    {certPoint : Bytes} {frame : String}
    (certified : extractP256PointFromCert cert = some certPoint)
    (garbled : server.wire.decodeClient frame = .invalidJson) :
    ∃ s conn, server.machine.run [.connection 0 (some cert), .message 0 frame] = some s ∧
      .closeSocket 0 none "" ∈ s.log ∧ s.conns.get 0 = some conn ∧ conn.closeEmitted = false ∧
      conn.certPoint = some certPoint ∧ conn.registeredUuid = none := by
  let accepted := State.init.accept 0 (Conn.accepted (some cert))
  have connects : server.machine.run ([] ++ [.connection 0 (some cert)]) = some accepted :=
    Machine.run_concat_of rfl
      (congrArg some (server.handleConnection_certified State.init 0 certified))
  have found : accepted.conns.get 0 = some (Conn.accepted (some cert)) := rfl
  have live : accepted.live 0 = true := rfl
  have answers := server.step_message live frame
  refine ⟨_, { Conn.accepted (some cert) with readyState := .closing },
    Machine.run_concat_of connects answers, ?_, ?_, rfl, certified, rfl⟩
  all_goals
    have opened : accepted.readyState 0 = .opened := rfl
    simp [State.whenAdmitted, found, certified, handleMessage, garbled, sendError,
      sendServerMessage, opened, State.closeSocket, State.emit, State.modifyConn,
      State.startClosing, Conn.accepted]

/-- A certificate holder whose first frame is rejected for its JSON. -/
def Sample.rejection : List Event :=
  [.connection 0 (Sample.certificate Sample.signPointA), .message 0 "\x7b"]

/-- The connection is rejected, but still delivers frames. -/
def Sample.TurnedAway (s : State) : Prop :=
  s.live 0 = true ∧ .closeSocket 0 none "" ∈ s.log ∧
    (s.conns.get 0).map (fun conn => (conn.certPoint, conn.registeredUuid)) =
      some (some Sample.signPointA, none)

instance : DecidablePred Sample.TurnedAway := fun _ => inferInstanceAs (Decidable (_ ∧ _))

theorem Sample.turned_away : (Sample.server.machine.run Sample.rejection).any
    (fun s => decide (Sample.TurnedAway s)) = true := by
  have garbled : Sample.server.wire.decodeClient "\x7b" = .invalidJson := by decide +kernel
  obtain ⟨s, conn, ran, closed, found, alive, held, unregistered⟩ :=
    Sample.server.turns_away Sample.certified_signPointA garbled
  have live : s.live 0 = true := by
    rw [State.live, found, Option.any_some, alive]
    rfl
  rw [Sample.rejection, Sample.certificate, ran, Option.any_some]
  refine decide_eq_true ⟨live, closed, ?_⟩
  rw [found, Option.map_some, held, unregistered]

/-- The rejected connection registers with its next frame. -/
theorem rejected_connection_registers :
    ¬ ∀ earlier t ws frame t', Sample.server.machine.StepAt
        (Sample.rejection ++ [.message 0 (Sample.helloFrame Sample.decryptPointA)])
        earlier t (.message ws frame) t' →
      Rejected t ws → StaysOut t t' ws := by
  intro staysOut
  obtain ⟨s, reached, facts⟩ := (Option.any_eq_true _ _).mp Sample.turned_away
  obtain ⟨live, closed, shape⟩ : Sample.TurnedAway s := of_decide_eq_true facts
  obtain ⟨conn, found, fields⟩ := Option.map_eq_some_iff.mp shape
  obtain ⟨certPoint, unregistered⟩ := Prod.mk.inj fields
  have after := Sample.server.step_message live (Sample.helloFrame Sample.decryptPointA)
  have accepted : HelloAccepted Sample.server s
      (.message 0 (Sample.helloFrame Sample.decryptPointA)) 0 Sample.signPointA
      ⟨base64Encode Sample.decryptPointA⟩ :=
    ⟨⟨_, rfl, Sample.decode_helloFrame _⟩, ⟨conn, found, certPoint, unregistered⟩,
      Sample.valid_decryptPointA⟩
  obtain ⟨uuid, announced⟩ := announced_of_accepted after accepted
  exact (staysOut _ _ _ _ _ (Machine.stepAt_last reached after) ⟨_, _, closed⟩).notConnected
    uuid announced

end DicodeRelay.Relay
