import DicodeRelay.Relay.Registry

/-!
Contract: the frames the relay server puts on the wire.

Owns:
- the frames sent on each socket;
- that each is the encoding of a message, step by step and along runs;
- that the step which accepts a hello sends the welcome and nothing else.

Does not own: what the peers make of the frames.
-/

namespace DicodeRelay.Relay

open DicodeRelay.Lib DicodeRelay.Shared

/-- The frame an effect puts on the wire of the socket. -/
def Effect.sentOn (ws : ConnId) : Effect → Option String
  | .send other frame => if other = ws then some frame else none
  | _ => none

/-- The frames sent on the socket so far, oldest first. -/
def State.sentOn (s : State) (ws : ConnId) : List String := s.log.filterMap (Effect.sentOn ws)

/-- From `s` to `s'` the messages, and nothing else, are sent on the socket. -/
def Sends (server : RelayServer) (ws : ConnId) (s s' : State) (messages : List ServerMessage) :
    Prop :=
  (∀ message ∈ messages, message.WellTyped) ∧
    s'.sentOn ws = s.sentOn ws ++ messages.map server.wire.encodeServer

theorem Sends.silent {server : RelayServer} {ws : ConnId} {s s' : State}
    (same : s'.sentOn ws = s.sentOn ws) : Sends server ws s s' [] :=
  ⟨by simp, by simp [same]⟩

theorem Sends.trans {server : RelayServer} {ws : ConnId} {s t u : State}
    {first second : List ServerMessage} (sends : Sends server ws s t first)
    (sends' : Sends server ws t u second) : Sends server ws s u (first ++ second) := by
  refine ⟨fun message member => ?_, by rw [sends'.2, sends.2]; simp⟩
  rcases List.mem_append.mp member with old | new
  · exact sends.1 message old
  · exact sends'.1 message new

/-! ### What sends nothing -/

namespace State

theorem sentOn_emit (s : State) {ws : ConnId} {effect : Effect} (quiet : effect.sentOn ws = none) :
    (s.emit effect).sentOn ws = s.sentOn ws := by
  simp [sentOn, emit, quiet]

@[simp] theorem sentOn_modifyConn (s : State) (other : ConnId) (f : Conn → Conn) (ws : ConnId) :
    (s.modifyConn other f).sentOn ws = s.sentOn ws := by
  unfold modifyConn
  split <;> rfl

theorem conns_modifyConn_of_ne (s : State) {other ws : ConnId} (f : Conn → Conn)
    (different : other ≠ ws) : (s.modifyConn other f).conns.get ws = s.conns.get ws := by
  unfold modifyConn
  split
  · rfl
  · exact OrderedMap.get_set_of_ne _ _ different

@[simp] theorem sentOn_closeSocket (s : State) (other : ConnId) (code : Option Nat)
    (reason : String) (ws : ConnId) :
    (s.closeSocket other code reason).sentOn ws = s.sentOn ws := by
  rw [closeSocket, sentOn_modifyConn, sentOn_emit s rfl]

@[simp] theorem sentOn_terminate (s : State) (other ws : ConnId) :
    (s.terminate other).sentOn ws = s.sentOn ws := by
  rw [terminate, sentOn_modifyConn, sentOn_emit s rfl]

@[simp] theorem sentOn_terminateClients (s : State) (clients : List ConnectedClient) (ws : ConnId) :
    (s.terminateClients clients).sentOn ws = s.sentOn ws := by
  induction clients generalizing s with
  | nil => rfl
  | cons client rest inductionHypothesis =>
      rw [terminateClients, inductionHypothesis, sentOn_terminate]

@[simp] theorem sentOn_rejectPending (s : State) (entries : List (String × PendingRequest))
    (ws : ConnId) : (s.rejectPending entries).sentOn ws = s.sentOn ws := by
  induction entries generalizing s with
  | nil => rfl
  | cons entry rest inductionHypothesis =>
      rw [rejectPending, inductionHypothesis, sentOn_emit _ rfl]
      rfl

@[simp] theorem sentOn_clearKeepalive (s : State) (conn : Conn) (ws : ConnId) :
    (s.clearKeepalive conn).sentOn ws = s.sentOn ws := by
  unfold clearKeepalive
  cases conn.pingTimer <;> cases conn.pongTimer <;> rfl

@[simp] theorem sentOn_deregister (s : State) (other : ConnId) (conn : Conn) (ws : ConnId) :
    (s.deregister other conn).sentOn ws = s.sentOn ws := by
  unfold deregister
  split
  · rfl
  · split
    · rfl
    · split
      · exact sentOn_emit s rfl
      · rfl

@[simp] theorem sentOn_cleanup (s : State) (other ws : ConnId) :
    (s.cleanup other).sentOn ws = s.sentOn ws := by
  unfold cleanup
  split
  · rfl
  · simp

@[simp] theorem sentOn_removePending (s : State) (id : String) (ws : ConnId) :
    (s.removePending id).1.sentOn ws = s.sentOn ws := by
  unfold removePending
  split <;> rfl

@[simp] theorem sentOn_requestTimeout (s : State) (id : String) (ws : ConnId) :
    (s.requestTimeout id).sentOn ws = s.sentOn ws := by
  rw [requestTimeout, sentOn_emit _ rfl, sentOn_removePending]

@[simp] theorem sentOn_handleResponse (s : State) (response : Response) (ws : ConnId) :
    (s.handleResponse response).sentOn ws = s.sentOn ws := by
  have removed := s.sentOn_removePending response.id ws
  unfold handleResponse
  split
  · rfl
  · split <;> rename_i found <;> rw [found] at removed
    · exact removed
    · rw [sentOn_emit _ rfl]
      exact removed

@[simp] theorem sentOn_evictPrevious (s : State) (uuid : String) (ws : ConnId) :
    (s.evictPrevious uuid).sentOn ws = s.sentOn ws := by
  unfold evictPrevious
  split
  · rfl
  · rw [sentOn_terminate, sentOn_emit _ rfl]
    rfl

theorem sentOn_close (s : State) (ws : ConnId) : s.close.sentOn ws = s.sentOn ws := by
  have terminated := ((s.rejectPending s.pending.entries).clearPending).sentOn_terminateClients
    ((s.rejectPending s.pending.entries).clearPending).clients.values ws
  exact terminated.trans (s.sentOn_rejectPending s.pending.entries ws)

@[simp] theorem sentOn_handlePong (s : State) (other ws : ConnId) :
    (s.handlePong other).sentOn ws = s.sentOn ws := by
  unfold handlePong
  split
  · rfl
  · rw [sentOn_modifyConn]
    rfl

end State

/-! ### What sends -/

namespace RelayServer

variable (server : RelayServer)

theorem sends_sendServerMessage (s : State) (other ws : ConnId) (message : ServerMessage)
    (typed : message.WellTyped) :
    ∃ messages, Sends server ws s (server.sendServerMessage s other message) messages := by
  unfold sendServerMessage
  split
  · by_cases same : other = ws
    · exact ⟨[message], by simpa using typed,
        by simp [State.sentOn, State.emit, Effect.sentOn, same]⟩
    · exact ⟨[], .silent (s.sentOn_emit (if_neg same))⟩
  · exact ⟨[], .silent rfl⟩

theorem sends_sendError (s : State) (other ws : ConnId) (text : String) :
    ∃ messages, Sends server ws s (server.sendError s other text) messages :=
  server.sends_sendServerMessage s other ws (.error _) trivial

theorem sends_reject (s : State) (other ws : ConnId) (text reason : String) (code : Option Nat) :
    ∃ messages, Sends server ws s ((server.sendError s other text).closeSocket other code reason)
      messages := by
  obtain ⟨messages, sends⟩ := server.sends_sendError s other ws text
  exact ⟨messages ++ [], sends.trans (.silent (by simp))⟩

/-- The state in which `register` sends its welcome. -/
def entered (s : State) (ws : ConnId) (certPoint : Bytes) (hello : Hello) : State :=
  let uuid := server.crypto.uuidFromP256Point certPoint
  ((s.evictPrevious uuid).putClient
    ⟨ws, uuid, certPoint, base64Decode hello.decryptPubkey.toList⟩).modifyConn ws fun conn =>
      { conn with registeredUuid := some uuid }

theorem sentOn_entered (s : State) (other ws : ConnId) (certPoint : Bytes) (hello : Hello) :
    (server.entered s other certPoint hello).sentOn ws = s.sentOn ws := by
  rw [entered, State.sentOn_modifyConn]
  exact s.sentOn_evictPrevious _ ws

theorem sentOn_register (s : State) (other ws : ConnId) (certPoint : Bytes) (hello : Hello) :
    (server.register s other certPoint hello).sentOn ws =
      (server.sendServerMessage (server.entered s other certPoint hello) other
        (.welcome (server.welcome (server.crypto.uuidFromP256Point certPoint)))).sentOn ws := by
  rw [register, startKeepalive, State.sentOn_modifyConn]
  exact State.sentOn_emit _ rfl

theorem sends_register (s : State) (other ws : ConnId) (certPoint : Bytes) (hello : Hello) :
    ∃ messages, Sends server ws s (server.register s other certPoint hello) messages := by
  obtain ⟨messages, typed, sent⟩ := server.sends_sendServerMessage
    (server.entered s other certPoint hello) other ws
    _ (server.welcome_wellTyped (server.crypto.uuidFromP256Point certPoint))
  exact ⟨messages, typed, by rw [sentOn_register, sent, sentOn_entered]⟩

theorem sends_forward (s : State) (ws : ConnId) (uuid method path : String) (headers : Headers)
    (body : Bytes) (id : String) (bufferedAmount : Nat) :
    ∃ messages, Sends server ws s
      (server.forward s uuid method path headers body id bufferedAmount) messages := by
  unfold forward
  split
  · exact ⟨[], .silent (State.sentOn_emit s rfl)⟩
  · split
    · exact ⟨[], .silent (State.sentOn_emit s rfl)⟩
    · split
      · exact ⟨[], .silent (State.sentOn_emit s rfl)⟩
      · rename_i client _ _ _
        exact server.sends_sendServerMessage _ client.ws ws (.request _) trivial

theorem sends_handleConnection (s : State) (other ws : ConnId)
    (peerCert : Option PeerCertificate) :
    ∃ messages, Sends server ws s (server.handleConnection s other peerCert) messages := by
  unfold handleConnection
  split
  · exact server.sends_reject _ other ws _ _ _
  · split
    · exact server.sends_reject _ other ws _ _ _
    · exact ⟨[], .silent rfl⟩

theorem sentOn_pingInterval (s : State) (other ws : ConnId) :
    (server.pingInterval s other).sentOn ws = s.sentOn ws := by
  unfold pingInterval
  split
  · exact s.sentOn_cleanup other ws
  · rw [State.sentOn_modifyConn]
    exact State.sentOn_emit s rfl

/-- Whatever a step puts on the wire encodes messages. -/
theorem sends_step {s s' : State} {e : Event} (after : server.step s e = some s') (ws : ConnId) :
    ∃ messages, Sends server ws s s' messages := by
  cases stepCase_of_step after with
  | connected => exact server.sends_handleConnection s _ ws _
  | ignored => exact ⟨[], .silent rfl⟩
  | turnedAway => exact server.sends_reject s _ ws _ _ _
  | registered => exact server.sends_register s _ ws _ _
  | answered => exact ⟨[], .silent (s.sentOn_handleResponse _ ws)⟩
  | ponged => exact ⟨[], .silent (s.sentOn_handlePong _ ws)⟩
  | failedEarly => exact ⟨[], .silent (s.sentOn_terminate _ ws)⟩
  | failed =>
      refine ⟨[], .silent ?_⟩
      rw [State.sentOn_cleanup, State.sentOn_terminate]
  | closedEarly => exact ⟨[], .silent (s.sentOn_modifyConn _ _ ws)⟩
  | closed =>
      refine ⟨[], .silent ?_⟩
      rw [State.sentOn_cleanup]
      exact s.sentOn_modifyConn _ _ ws
  | peerClosing => exact ⟨[], .silent (s.sentOn_modifyConn _ _ ws)⟩
  | timedOut => exact ⟨[], .silent (State.sentOn_requestTimeout _ _ ws)⟩
  | pinged => exact ⟨[], .silent (server.sentOn_pingInterval _ _ ws)⟩
  | pongMissed =>
      refine ⟨[], .silent ?_⟩
      rw [State.pongTimeout, State.sentOn_cleanup, State.sentOn_terminate]
      rfl
  | ticked => exact ⟨[], .silent rfl⟩
  | forwarded => exact server.sends_forward _ ws _ _ _ _ _ _ _
  | shutDown => exact ⟨[], .silent (s.sentOn_close ws)⟩

/-- The frames on the wire of a socket encode messages. -/
theorem encoded_run {events : List Event} {s : State} (ran : server.machine.run events = some s)
    (ws : ConnId) : ∃ messages : List ServerMessage, (∀ message ∈ messages, message.WellTyped) ∧
      s.sentOn ws = messages.map server.wire.encodeServer := by
  refine Machine.state_invariant (P := fun s => ∃ messages : List ServerMessage,
    (∀ message ∈ messages, message.WellTyped) ∧
      s.sentOn ws = messages.map server.wire.encodeServer) ⟨[], by simp, rfl⟩ ?_ ran
  rintro s e s' ⟨messages, typed, sent⟩ after
  obtain ⟨more, typed', sent'⟩ := server.sends_step after ws
  refine ⟨messages ++ more, fun message member => ?_, by rw [sent', sent, List.map_append]⟩
  rcases List.mem_append.mp member with old | new
  · exact typed message old
  · exact typed' message new

/-! ### The welcome -/

/-- A hello evicts a socket other than its own. -/
theorem conns_evictPrevious {events : List Event} {s : State}
    (ran : server.machine.run events = some s) {ws : ConnId} {conn : Conn}
    (found : s.conns.get ws = some conn) (unregistered : conn.registeredUuid = none)
    (uuid : String) : (s.evictPrevious uuid).conns.get ws = some conn := by
  unfold State.evictPrevious
  split
  · exact found
  · rename_i previous present
    have admission := (server.sound_run ran _ previous present).2.2
    have different : previous.ws ≠ ws := by
      rintro rfl
      have view : s.registry.admission previous.ws = some conn.admission := by
        simp [State.registry, found]
      rw [admission] at view
      have same := congrArg Admission.registeredUuid (Option.some.inj view)
      rw [Conn.admission, unregistered] at same
      contradiction
    rw [State.terminate, State.conns_modifyConn_of_ne _ _ different]
    exact found

theorem readyState_entered {events : List Event} {s : State}
    (ran : server.machine.run events = some s) {ws : ConnId} {conn : Conn}
    (found : s.conns.get ws = some conn) (unregistered : conn.registeredUuid = none)
    (certPoint : Bytes) (hello : Hello) :
    (server.entered s ws certPoint hello).readyState ws = s.readyState ws := by
  have kept := server.conns_evictPrevious ran found unregistered
    (server.crypto.uuidFromP256Point certPoint)
  have present : ((s.evictPrevious (server.crypto.uuidFromP256Point certPoint)).putClient
      ⟨ws, server.crypto.uuidFromP256Point certPoint, certPoint,
        base64Decode hello.decryptPubkey.toList⟩).conns.get ws = some conn := kept
  simp only [entered, State.readyState, State.modifyConn, present, OrderedMap.get_set_self, found]

/-- The step that accepts a hello on an open socket puts the welcome on its
wire, and nothing else. -/
theorem welcome_of_accepted {events : List Event} {s s' : State}
    (ran : server.machine.run events = some s) {e : Event} (after : server.step s e = some s')
    {ws : ConnId} {certPoint : Bytes} {hello : Hello}
    (accepted : HelloAccepted server s e ws certPoint hello) (opened : s.readyState ws = .opened) :
    s'.sentOn ws = s.sentOn ws ++ [server.wire.encodeServer
      (.welcome (server.welcome (server.crypto.uuidFromP256Point certPoint)))] := by
  obtain ⟨⟨frame, rfl, decoded⟩, ⟨conn, found, admitted, unregistered⟩, valid⟩ := accepted
  simp only [step, Option.ite_none_right_eq_some, Option.some.injEq] at after
  obtain ⟨_, rfl⟩ := after
  have stillOpen := server.readyState_entered ran found unregistered certPoint hello
  simp only [State.whenAdmitted, found, admitted, handleMessage, decoded, unregistered, if_true,
    handleHello, valid]
  rw [sentOn_register, sendServerMessage, stillOpen, opened, if_pos rfl, ← server.sentOn_entered s
    ws ws certPoint hello]
  simp [State.sentOn, State.emit, Effect.sentOn]

end RelayServer

end DicodeRelay.Relay
