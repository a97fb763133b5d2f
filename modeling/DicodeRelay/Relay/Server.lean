import DicodeRelay.Lib.Machine
import DicodeRelay.Lib.Timers
import DicodeRelay.Shared.Certs
import DicodeRelay.Shared.Wire

/-!
Contract: the relay server as an event machine.

Owns:
- the server's maps, the closure state of each connection and its timers;
- every listener `handleConnection` attaches, `forward`, its bookkeeping and
  `close`, as functions on the state that log what they do to the outside;
- which events the event loop and the socket library can deliver in a state.

Does not own: the TLS listener, the HTTP front, what daemons send.
-/

namespace DicodeRelay.Relay

open DicodeRelay.Lib DicodeRelay.Shared

/-! ### Errors and constants -/

/-- The errors a `forward` promise rejects with. -/
inductive ForwardError where
  | clientNotConnected (uuid : String)
  | backpressure (uuid : String)
  | pendingCapExceeded (uuid : String)
  | forwardTimeout (id : String)
  | serverClosing
deriving DecidableEq

def ForwardError.message : ForwardError → String
  | .clientNotConnected uuid => "Client not connected: " ++ uuid
  | .backpressure uuid => "Client socket send buffer saturated: " ++ uuid
  | .pendingCapExceeded uuid => "Too many outstanding forwards for client: " ++ uuid
  | .forwardTimeout id => "Request timed out: " ++ id
  | .serverClosing => "Server closing"

def PROTOCOL_VERSION : Int := 4

def CLOSE_BAD_HELLO : Nat := 4400
def CLOSE_NO_CLIENT_CERT : Nat := 4401
def CLOSE_CERT_NOT_P256 : Nat := 4402

/-! ### State -/

/-- A socket the server accepted, in the order of acceptance. -/
abbrev ConnId := Nat

inductive ReadyState where
  | opened
  | closing
  | closed
deriving DecidableEq

structure ConnectedClient where
  ws : ConnId
  uuid : String
  pubkey : Bytes
  decryptPubkey : Bytes
deriving DecidableEq

structure PendingRequest where
  uuid : String
  timer : Nat
deriving DecidableEq

/-- A socket and what the closure of its `handleConnection` call holds. -/
structure Conn where
  readyState : ReadyState
  closeEmitted : Bool
  /-- The certificate's point; `none` when admission returned before it
  attached the listeners. -/
  certPoint : Option Bytes
  registeredUuid : Option String
  pingTimer : Option Nat
  pongTimer : Option Nat
deriving DecidableEq

/-- What the server does to the outside. -/
inductive Effect where
  | send (ws : ConnId) (frame : String)
  | closeSocket (ws : ConnId) (code : Option Nat) (reason : String)
  | terminate (ws : ConnId)
  | ping (ws : ConnId)
  | clientConnected (uuid : String)
  | clientDisconnected (uuid : String)
  | resolve (id : String) (response : ForwardResponse)
  | reject (id : String) (error : ForwardError)
deriving DecidableEq

/-- The promise an effect settles. -/
def Effect.settledId : Effect → Option String
  | .resolve id _ => some id
  | .reject id _ => some id
  | _ => none

structure State where
  now : Nat
  clients : OrderedMap String ConnectedClient
  pending : OrderedMap String PendingRequest
  pendingByClient : OrderedMap String Nat
  conns : OrderedMap ConnId Conn
  requestTimers : Timers String
  pingTimers : Timers ConnId
  pongTimers : Timers ConnId
  /-- The uuid of each `forward` call so far, under the id `uuidv4` has for it. -/
  issued : OrderedMap String String
  closing : Bool
  /-- Everything the server did so far, oldest first. -/
  log : List Effect

def State.init : State where
  now := 0
  clients := .empty
  pending := .empty
  pendingByClient := .empty
  conns := .empty
  requestTimers := .empty
  pingTimers := .empty
  pongTimers := .empty
  issued := .empty
  closing := false
  log := []

/-- The readonly fields of a relay server and the libraries it runs on. -/
structure RelayServer where
  baseUrl : String
  pingIntervalMs : Int
  pongTimeoutMs : Int
  requestTimeoutMs : Int
  maxPendingPerClient : Nat
  maxBufferedBytes : Nat
  brokerPubkey : Option String
  crypto : Primitives
  wire : WireFormat

/-! ### Sockets -/

namespace State

def emit (s : State) (effect : Effect) : State := { s with log := s.log ++ [effect] }

def modifyConn (s : State) (ws : ConnId) (f : Conn → Conn) : State :=
  match s.conns.get ws with
  | none => s
  | some conn => { s with conns := s.conns.set ws (f conn) }

def putClient (s : State) (client : ConnectedClient) : State :=
  { s with clients := s.clients.set client.uuid client }

def dropClient (s : State) (uuid : String) : State := { s with clients := s.clients.delete uuid }

def issue (s : State) (id uuid : String) : State := { s with issued := s.issued.set id uuid }

def readyState (s : State) (ws : ConnId) : ReadyState :=
  match s.conns.get ws with
  | none => .closed
  | some conn => conn.readyState

/-- Only a socket that is open starts to close. -/
def startClosing (conn : Conn) : Conn :=
  if conn.readyState = .opened then { conn with readyState := .closing } else conn

/-- `ws.close(code, reason)`. -/
def closeSocket (s : State) (ws : ConnId) (code : Option Nat) (reason : String) : State :=
  (s.emit (.closeSocket ws code reason)).modifyConn ws startClosing

/-- `ws.terminate()`; the socket emits `close` later. -/
def terminate (s : State) (ws : ConnId) : State :=
  (s.emit (.terminate ws)).modifyConn ws startClosing

end State

/-! ### Timers -/

namespace State

/-- The timer's payload, if it is armed and due. -/
def dueTimer {Payload : Type} (s : State) (timers : Timers Payload) (timer : Nat) :
    Option Payload :=
  match timers.get timer with
  | none => none
  | some t => if t.due ≤ s.now then some t.payload else none

theorem dueTimer_eq_some {Payload : Type} {s : State} {timers : Timers Payload}
    {timer : Nat} {payload : Payload} (due : s.dueTimer timers timer = some payload) :
    ∃ time, timers.get timer = some ⟨time, payload⟩ := by
  unfold dueTimer at due
  split at due
  · contradiction
  · rename_i t armed
    split at due
    · obtain rfl := Option.some.inj due
      exact ⟨t.due, armed⟩
    · contradiction

def startRequestTimer (s : State) (ms : Int) (id : String) : State :=
  { s with requestTimers := s.requestTimers.start (s.now + timerDelay ms) id }

def clearRequestTimer (s : State) (timer : Nat) : State :=
  { s with requestTimers := s.requestTimers.clear timer }

def startPingTimer (s : State) (ms : Int) (ws : ConnId) : State :=
  { s with pingTimers := s.pingTimers.start (s.now + timerDelay ms) ws }

/-- An interval is armed again before its callback runs. -/
def repeatPingTimer (s : State) (ms : Int) (timer : Nat) : State :=
  { s with pingTimers := s.pingTimers.reschedule timer (s.now + timerDelay ms) }

def clearPingTimer (s : State) (timer : Nat) : State :=
  { s with pingTimers := s.pingTimers.clear timer }

def startPongTimer (s : State) (ms : Int) (ws : ConnId) : State :=
  { s with pongTimers := s.pongTimers.start (s.now + timerDelay ms) ws }

def clearPongTimer (s : State) (timer : Nat) : State :=
  { s with pongTimers := s.pongTimers.clear timer }

end State

/-! ### Sending -/

def RelayServer.sendServerMessage (server : RelayServer) (s : State) (ws : ConnId)
    (msg : ServerMessage) : State :=
  if s.readyState ws = .opened then s.emit (.send ws (server.wire.encodeServer msg)) else s

def RelayServer.sendError (server : RelayServer) (s : State) (ws : ConnId)
    (message : String) : State :=
  server.sendServerMessage s ws (.error ⟨message⟩)

/-! ### Registry lookups -/

def State.getClient (s : State) (uuid : String) : Except ForwardError ConnectedClient :=
  match s.clients.get uuid with
  | none => .error (.clientNotConnected uuid)
  | some client => .ok client

def State.hasClient (s : State) (uuid : String) : Bool := s.clients.has uuid

/-! ### Forwarding -/

namespace State

def addPending (s : State) (id : String) (req : PendingRequest) : State :=
  { s with
    pending := s.pending.set id req
    pendingByClient :=
      s.pendingByClient.set req.uuid ((s.pendingByClient.get req.uuid).getD 0 + 1) }

/-- The state without the entry of `id`, and the entry. -/
def removePending (s : State) (id : String) : State × Option PendingRequest :=
  match s.pending.get id with
  | none => (s, none)
  | some req =>
      let count := (s.pendingByClient.get req.uuid).getD 0
      ({ s with
          pending := s.pending.delete id
          pendingByClient :=
            if count ≤ 1 then s.pendingByClient.delete req.uuid
            else s.pendingByClient.set req.uuid (count - 1) },
        some req)

end State

/-- `id` is what `uuidv4` answers, `bufferedAmount` what the client's socket
reports. -/
def RelayServer.forward (server : RelayServer) (s : State) (uuid method path : String)
    (headers : Headers) (body : Bytes) (id : String) (bufferedAmount : Nat) : State :=
  match s.getClient uuid with
  | .error error => s.emit (.reject id error)
  | .ok client =>
      if bufferedAmount > server.maxBufferedBytes then s.emit (.reject id (.backpressure uuid))
      else if (s.pendingByClient.get uuid).getD 0 ≥ server.maxPendingPerClient then
        s.emit (.reject id (.pendingCapExceeded uuid))
      else
        let request : Request := {
          id, method, path
          headers := headers.mapValues HeaderValues.mk
          body := base64Encode body }
        let timer := s.requestTimers.next
        let armed := s.startRequestTimer server.requestTimeoutMs id
        server.sendServerMessage (armed.addPending id ⟨uuid, timer⟩) client.ws (.request request)

/-- The callback of a request timer. -/
def State.requestTimeout (s : State) (id : String) : State :=
  (s.removePending id).1.emit (.reject id (.forwardTimeout id))

def flattenResponse (resp : Response) : ForwardResponse where
  status := resp.status
  headers := resp.headers.mapValues HeaderValues.values
  body := resp.body

/-- A response frame after registration. -/
def State.handleResponse (s : State) (response : Response) : State :=
  if response.status < 100 ∨ response.status > 599 then s
  else
    match s.removePending response.id with
    | (s, none) => s
    | (s, some req) =>
        (s.clearRequestTimer req.timer).emit (.resolve response.id (flattenResponse response))

/-- `close()` settles every pending forward. -/
def State.rejectPending (s : State) : List (String × PendingRequest) → State
  | [] => s
  | (id, req) :: rest =>
      ((s.clearRequestTimer req.timer).emit (.reject id .serverClosing)).rejectPending rest

def State.clearPending (s : State) : State :=
  { s with pending := .empty, pendingByClient := .empty }

def State.terminateClients (s : State) : List ConnectedClient → State
  | [] => s
  | client :: rest => (s.terminate client.ws).terminateClients rest

/-- The registry is emptied and the WebSocket server takes no further
connections. -/
def State.clearClients (s : State) : State := { s with clients := .empty, closing := true }

def State.close (s : State) : State :=
  let settled := (s.rejectPending s.pending.entries).clearPending
  (settled.terminateClients settled.clients.values).clearClients

/-! ### Admission -/

/-- `none` on success, else the error text. -/
def RelayServer.validateDecryptPubkey (server : RelayServer) (hello : Hello) : Option String :=
  if hello.decryptPubkey = "" then some "decrypt_pubkey is required"
  else
    let decryptBytes := base64Decode hello.decryptPubkey.toList
    if decryptBytes.length ≠ 65 ∨ decryptBytes.head? ≠ some 4 then
      some "decrypt_pubkey must be 65 bytes starting with 0x04"
    else if server.crypto.importSpki (uncompressedP256ToSpki decryptBytes) then none
    else some "decrypt_pubkey is not a valid P-256 point"

def State.accept (s : State) (ws : ConnId) (conn : Conn) : State :=
  { s with conns := s.conns.set ws conn }

/-- The part of `handleConnection` before the listeners. -/
def RelayServer.handleConnection (server : RelayServer) (s : State) (ws : ConnId)
    (peerCert : Option PeerCertificate) : State :=
  let conn : Conn := {
    readyState := .opened
    closeEmitted := false
    certPoint := peerCert.bind extractP256PointFromCert
    registeredUuid := none
    pingTimer := none
    pongTimer := none }
  let s := s.accept ws conn
  match peerCert with
  | none =>
      (server.sendError s ws "client certificate required").closeSocket ws
        (some CLOSE_NO_CLIENT_CERT) "client certificate required"
  | some cert =>
      match extractP256PointFromCert cert with
      | none =>
          (server.sendError s ws "client certificate key must be P-256").closeSocket ws
            (some CLOSE_CERT_NOT_P256) "client certificate key must be P-256"
      | some _ => s

namespace State

def clearKeepalive (s : State) (conn : Conn) : State :=
  let s := match conn.pingTimer with
    | none => s
    | some timer => s.clearPingTimer timer
  match conn.pongTimer with
  | none => s
  | some timer => s.clearPongTimer timer

/-- A reconnect may have replaced the registry entry: it is torn down only
while it belongs to this socket. -/
def deregister (s : State) (ws : ConnId) (conn : Conn) : State :=
  match conn.registeredUuid with
  | none => s
  | some uuid =>
      match s.clients.get uuid with
      | none => s
      | some current =>
          if current.ws = ws then (s.emit (.clientDisconnected uuid)).dropClient uuid else s

/-- The closure's `cleanup`. -/
def cleanup (s : State) (ws : ConnId) : State :=
  match s.conns.get ws with
  | none => s
  | some conn =>
      ((s.clearKeepalive conn).deregister ws conn).modifyConn ws fun conn =>
        { conn with registeredUuid := none, pingTimer := none, pongTimer := none }

/-- The callback of a pong timer. -/
def pongTimeout (s : State) (ws : ConnId) : State := (s.terminate ws).cleanup ws

/-- The `pong` listener. -/
def handlePong (s : State) (ws : ConnId) : State :=
  match (s.conns.get ws).bind Conn.pongTimer with
  | none => s
  | some timer =>
      (s.clearPongTimer timer).modifyConn ws fun conn => { conn with pongTimer := none }

end State

/-- The callback of a ping interval. -/
def RelayServer.pingInterval (server : RelayServer) (s : State) (ws : ConnId) : State :=
  if s.readyState ws ≠ .opened then s.cleanup ws
  else
    let timer := s.pongTimers.next
    ((s.emit (.ping ws)).startPongTimer server.pongTimeoutMs ws).modifyConn ws fun conn =>
      { conn with pongTimer := some timer }

/-- A reconnect for the same uuid replaces the previous socket. -/
def State.evictPrevious (s : State) (uuid : String) : State :=
  match s.clients.get uuid with
  | none => s
  | some previous =>
      ((s.dropClient uuid).emit (.clientDisconnected uuid)).terminate previous.ws

def RelayServer.welcome (server : RelayServer) (uuid : String) : Welcome where
  url := server.baseUrl ++ "/u/" ++ uuid ++ "/hooks/"
  brokerPubkey := server.brokerPubkey
  protocol := some PROTOCOL_VERSION

theorem RelayServer.welcome_wellTyped (server : RelayServer) (uuid : String) :
    (ServerMessage.welcome (server.welcome uuid)).WellTyped := by
  rintro n equal
  obtain rfl := Option.some.inj equal
  decide

def RelayServer.startKeepalive (server : RelayServer) (s : State) (ws : ConnId) : State :=
  let timer := s.pingTimers.next
  (s.startPingTimer server.pingIntervalMs ws).modifyConn ws fun conn =>
    { conn with pingTimer := some timer }

/-- The hello branch, once `validateDecryptPubkey` has accepted. -/
def RelayServer.register (server : RelayServer) (s : State) (ws : ConnId) (certPoint : Bytes)
    (hello : Hello) : State :=
  let uuid := server.crypto.uuidFromP256Point certPoint
  let s := (s.evictPrevious uuid).putClient
    ⟨ws, uuid, certPoint, base64Decode hello.decryptPubkey.toList⟩
  let s := s.modifyConn ws fun conn => { conn with registeredUuid := some uuid }
  let s := server.sendServerMessage s ws (.welcome (server.welcome uuid))
  server.startKeepalive (s.emit (.clientConnected uuid)) ws

/-- The frame that is expected before registration. -/
def RelayServer.handleHello (server : RelayServer) (s : State) (ws : ConnId) (certPoint : Bytes)
    (envelope : ClientMessage) : State :=
  match envelope with
  | .hello hello =>
      match server.validateDecryptPubkey hello with
      | some err => (server.sendError s ws err).closeSocket ws (some CLOSE_BAD_HELLO) err
      | none => server.register s ws certPoint hello
  | _ =>
      (server.sendError s ws "expected hello message").closeSocket ws (some CLOSE_BAD_HELLO)
        "expected hello message"

/-- The `message` listener of a socket with certificate point `certPoint`. -/
def RelayServer.handleMessage (server : RelayServer) (s : State) (ws : ConnId) (conn : Conn)
    (certPoint : Bytes) (frame : String) : State :=
  match server.wire.decodeClient frame with
  | .invalidJson => (server.sendError s ws "invalid JSON").closeSocket ws none ""
  | .malformedEnvelope =>
      if conn.registeredUuid = none then
        (server.sendError s ws "expected hello message").closeSocket ws none ""
      else s
  | .envelope envelope =>
      if conn.registeredUuid = none then server.handleHello s ws certPoint envelope
      else
        match envelope with
        | .response response => s.handleResponse response
        | _ => s

/-! ### Events -/

inductive Event where
  | connection (ws : ConnId) (peerCert : Option PeerCertificate)
  | message (ws : ConnId) (frame : String)
  | pong (ws : ConnId)
  | wsError (ws : ConnId)
  | wsClose (ws : ConnId)
  /-- The peer's close frame arrived: the socket is no longer open. -/
  | peerClosing (ws : ConnId)
  | requestTimer (timer : Nat)
  | pingTimer (timer : Nat)
  | pongTimer (timer : Nat)
  | tick (ms : Nat)
  | forward (uuid method path : String) (headers : Headers) (body : Bytes) (id : String)
      (bufferedAmount : Nat)
  | close

/-- Whether a socket may still emit events: it was accepted and has not
emitted `close`. -/
def State.live (s : State) (ws : ConnId) : Bool :=
  (s.conns.get ws).any fun conn => !conn.closeEmitted

/-- The socket is closed and tells its listeners so. -/
def State.socketClosed (s : State) (ws : ConnId) : State :=
  s.modifyConn ws fun conn => { conn with readyState := .closed, closeEmitted := true }

/-- Run `listener` if the socket got past admission, which attaches it. -/
def State.whenAdmitted (s : State) (ws : ConnId) (listener : Conn → Bytes → State) : State :=
  match s.conns.get ws with
  | none => s
  | some conn =>
      match conn.certPoint with
      | none => s
      | some certPoint => listener conn certPoint

/-- One event. `none`: it cannot happen in this state. -/
def RelayServer.step (server : RelayServer) (s : State) : Event → Option State
  | .connection ws peerCert =>
      if (s.conns.get ws).isNone ∧ s.closing = false then
        some (server.handleConnection s ws peerCert)
      else none
  | .message ws frame =>
      if s.live ws then
        some (s.whenAdmitted ws fun conn certPoint =>
          server.handleMessage s ws conn certPoint frame)
      else none
  | .pong ws =>
      if s.live ws then some (s.whenAdmitted ws fun _ _ => s.handlePong ws) else none
  | .wsError ws =>
      if s.live ws then
        some ((s.terminate ws).whenAdmitted ws fun _ _ => (s.terminate ws).cleanup ws)
      else none
  | .wsClose ws =>
      if s.live ws then
        some ((s.socketClosed ws).whenAdmitted ws fun _ _ => (s.socketClosed ws).cleanup ws)
      else none
  | .peerClosing ws => if s.live ws then some (s.modifyConn ws State.startClosing) else none
  | .requestTimer timer =>
      (s.dueTimer s.requestTimers timer).map fun id =>
        (s.clearRequestTimer timer).requestTimeout id
  | .pingTimer timer =>
      (s.dueTimer s.pingTimers timer).map fun ws =>
        server.pingInterval (s.repeatPingTimer server.pingIntervalMs timer) ws
  | .pongTimer timer =>
      (s.dueTimer s.pongTimers timer).map fun ws => (s.clearPongTimer timer).pongTimeout ws
  | .tick ms => some { s with now := s.now + ms }
  | .forward uuid method path headers body id bufferedAmount =>
      if (s.issued.get id).isNone then
        some (server.forward (s.issue id uuid) uuid method path headers body id bufferedAmount)
      else none
  | .close => some s.close

/-- The runs of a relay server. -/
def RelayServer.machine (server : RelayServer) : Machine State Event where
  init := State.init
  step := server.step

theorem RelayServer.step_message (server : RelayServer) {s : State} {ws : ConnId}
    (live : s.live ws = true) (frame : String) :
    server.machine.step s (.message ws frame) = some (s.whenAdmitted ws fun conn certPoint =>
      server.handleMessage s ws conn certPoint frame) :=
  if_pos live

/-! ### A daemon that is admitted -/

/-- The closure state of a socket that was just accepted. -/
def Conn.accepted (peerCert : Option PeerCertificate) : Conn where
  readyState := .opened
  closeEmitted := false
  certPoint := peerCert.bind extractP256PointFromCert
  registeredUuid := none
  pingTimer := none
  pongTimer := none

/-- A certificate with a P-256 key passes admission. -/
theorem RelayServer.handleConnection_certified (server : RelayServer) (s : State) (ws : ConnId)
    {cert : PeerCertificate} {certPoint : Bytes}
    (certified : extractP256PointFromCert cert = some certPoint) :
    server.handleConnection s ws (some cert) = s.accept ws (Conn.accepted (some cert)) := by
  simp only [handleConnection, certified]
  rfl

/-- A socket that is admitted and not registered registers with a valid hello. -/
theorem RelayServer.step_valid_hello (server : RelayServer) {s : State} {ws : ConnId} {conn : Conn}
    {certPoint : Bytes} {frame : String} {hello : Hello} (found : s.conns.get ws = some conn)
    (live : conn.closeEmitted = false) (held : conn.certPoint = some certPoint)
    (unregistered : conn.registeredUuid = none)
    (decoded : server.wire.decodeClient frame = .envelope (.hello hello))
    (valid : server.validateDecryptPubkey hello = none) :
    server.machine.step s (.message ws frame) = some (server.register s ws certPoint hello) := by
  simp [machine, step, State.live, State.whenAdmitted, found, live, held, handleMessage, decoded,
    unregistered, handleHello, valid]

/-- A socket that was just accepted registers with a valid hello. -/
theorem RelayServer.step_hello (server : RelayServer) (s : State) (ws : ConnId)
    {peerCert : Option PeerCertificate} {certPoint : Bytes} {frame : String} {hello : Hello}
    (certified : peerCert.bind extractP256PointFromCert = some certPoint)
    (decoded : server.wire.decodeClient frame = .envelope (.hello hello))
    (valid : server.validateDecryptPubkey hello = none) :
    server.machine.step (s.accept ws (Conn.accepted peerCert)) (.message ws frame) =
      some (server.register (s.accept ws (Conn.accepted peerCert)) ws certPoint hello) := by
  have found : (s.accept ws (Conn.accepted peerCert)).conns.get ws =
      some (Conn.accepted peerCert) := by
    simp [State.accept]
  exact server.step_valid_hello found rfl certified rfl decoded valid

/-- A daemon with a certificate and a valid hello is admitted and registers. -/
theorem RelayServer.admits (server : RelayServer) {s : State} {ws : ConnId}
    {cert : PeerCertificate} {certPoint : Bytes} {frame : String} {hello : Hello}
    (fresh : s.conns.get ws = none) (running : s.closing = false)
    (certified : extractP256PointFromCert cert = some certPoint)
    (decoded : server.wire.decodeClient frame = .envelope (.hello hello))
    (valid : server.validateDecryptPubkey hello = none) :
    [.connection ws (some cert), .message ws frame].foldlM server.machine.step s =
      some (server.register (s.accept ws (Conn.accepted (some cert))) ws certPoint hello) := by
  have connects : server.machine.step s (.connection ws (some cert)) =
      some (s.accept ws (Conn.accepted (some cert))) := by
    rw [← server.handleConnection_certified s ws certified]
    simp [machine, step, fresh, running]
  have held : (some cert).bind extractP256PointFromCert = some certPoint := certified
  have greets := server.step_hello s ws held decoded valid
  simp only [List.foldlM_cons, List.foldlM_nil, connects, greets, Option.bind_eq_bind,
    Option.bind_some]
  rfl

/-- The daemon `client` has registered as the first one, and nothing else has
happened. -/
structure State.Enrolled (s : State) (client : ConnectedClient) : Prop where
  entry : s.clients.get client.uuid = some client
  opened : s.readyState client.ws = .opened
  others : ∀ ws, client.ws ≠ ws → s.conns.get ws = none
  unasked : s.pendingByClient = .empty
  unissued : s.issued = .empty
  running : s.closing = false

theorem RelayServer.enrolled_register (server : RelayServer) (peerCert : Option PeerCertificate)
    (certPoint : Bytes) (hello : Hello) :
    (server.register (State.init.accept 0 (Conn.accepted peerCert)) 0 certPoint hello).Enrolled
      ⟨0, server.crypto.uuidFromP256Point certPoint, certPoint,
        base64Decode hello.decryptPubkey.toList⟩ := by
  constructor
  all_goals
    simp +contextual [register, State.evictPrevious, State.accept, State.init, State.putClient,
      State.modifyConn, sendServerMessage, State.readyState, State.emit, startKeepalive,
      State.startPingTimer, Conn.accepted, OrderedMap.get_set]

/-! ### A deployment with two daemons -/

namespace Sample

def signPointA : Bytes :=
  4 :: hexDecode "6b17d1f2e12c4247f8bce6e563a440f277037d812deb33a0f4a13945d898c296".toList ++
    hexDecode "4fe342e2fe1a7f9b8ee7eb4a7c0f9e162bce33576b315ececbb6406837bf51f5".toList

def decryptPointA : Bytes :=
  4 :: hexDecode "7cf27b188d034f7e8a52380304b51ac3c08969e277f21b35a60b48fc47669978".toList ++
    hexDecode "07775510db8ed040293d9ac69f7430dbba7dade63ce982299e04b79d227873d1".toList

def signPointB : Bytes :=
  4 :: hexDecode "5ecbe4d1a6330a44c8f7ef951d4bf165e6c6b721efada985fb41661bc6e7fd6c".toList ++
    hexDecode "8734640c4998ff7e374b06ce1a64a2ecd82ab036384fb83d9a79b127a27d5032".toList

def decryptPointB : Bytes :=
  4 :: hexDecode "e2534a3532d08fbba02dde659ee62bd0031fe2db785596ef509302446b030852".toList ++
    hexDecode "e0f1575a4c633cc719dfee5fda862d764efc96c3f30ee0055c42c23f184ed8c6".toList

/-- SHA-256 on the sign points; elsewhere a stand-in without collisions. -/
def sha256 (bytes : Bytes) : Bytes :=
  if bytes = signPointA then
    hexDecode "698bea63dc44a344663ff1429aea10842df27b6b991ef25866b2c6c02cdcc5be".toList
  else if bytes = signPointB then
    hexDecode "89896264c58fca553508257b18703781fcd99c22a66186aa74f56e76f9b27cbe".toList
  else bytes ++ List.replicate 33 0

def uuidA : String := "698bea63dc44a344663ff1429aea10842df27b6b991ef25866b2c6c02cdcc5be"

/-- What the relay calls, on the sample's keys. -/
def primitives : Primitives where
  sha256 := sha256
  importSpki spki := spki ∈ [uncompressedP256ToSpki decryptPointA,
    uncompressedP256ToSpki decryptPointB]
  verifySha256 _ _ _ := none
  signSha256 _ _ _ := []
  signP1363 _ _ _ := []
  publicPoint _ := []
  computeSecret _ _ := none
  hkdfSha256 _ _ _ _ := []
  gcmEncrypt _ _ _ _ := ([], [])
  gcmDecrypt _ _ _ _ _ := none

def server : RelayServer where
  baseUrl := "wss://relay.example"
  pingIntervalMs := 30000
  pongTimeoutMs := 10000
  requestTimeoutMs := 30000
  maxPendingPerClient := 256
  maxBufferedBytes := 16777216
  brokerPubkey := none
  crypto := primitives
  wire := jsonWire

def certificate (point : Bytes) : Option PeerCertificate :=
  some ⟨some (uncompressedP256ToSpki point)⟩

def helloFrame (decryptPoint : Bytes) : String :=
  jsonWire.encodeClient (.hello ⟨base64Encode decryptPoint⟩)

theorem decode_helloFrame (point : Bytes) :
    jsonWire.decodeClient (helloFrame point) = .envelope (.hello ⟨base64Encode point⟩) :=
  jsonWire_lawful.decodeClient_encodeClient _ trivial

def okFrame (id : String) : String :=
  jsonWire.encodeClient (.response ⟨id, 200, .empty, ""⟩)

theorem decode_okFrame (id : String) :
    jsonWire.decodeClient (okFrame id) = .envelope (.response ⟨id, 200, .empty, ""⟩) :=
  jsonWire_lawful.decodeClient_encodeClient (.response ⟨id, 200, .empty, ""⟩)
    (show isInt32 200 by decide)

def requestId : String := "1b4e28ba-2fa1-41d2-883f-0016d3cca427"

/-- Daemon A connects and registers. -/
def admission : List Event :=
  [.connection 0 (certificate signPointA), .message 0 (helloFrame decryptPointA)]

theorem certified_signPointA : extractP256PointFromCert
    ⟨some (uncompressedP256ToSpki signPointA)⟩ = some signPointA := by
  decide +kernel

theorem point_certificateA :
    (certificate signPointA).bind extractP256PointFromCert = some signPointA := by
  rw [certificate, Option.bind_some, certified_signPointA]

theorem valid_decryptPointA :
    server.validateDecryptPubkey ⟨base64Encode decryptPointA⟩ = none := by
  decide +kernel

theorem uuid_signPointA : server.crypto.uuidFromP256Point signPointA = uuidA := by
  decide +kernel

/-- The entry of daemon A. -/
def clientA : ConnectedClient := ⟨0, uuidA, signPointA, decryptPointA⟩

/-- Daemon A registers with every relay that takes its key. -/
theorem enrols (relay : RelayServer) (sameWire : relay.wire = jsonWire)
    (sameImport : relay.crypto.importSpki = primitives.importSpki)
    (uuid : relay.crypto.uuidFromP256Point signPointA = uuidA) :
    ∃ s, relay.machine.run admission = some s ∧ s.Enrolled clientA := by
  have valid : relay.validateDecryptPubkey ⟨base64Encode decryptPointA⟩ = none := by
    rw [← valid_decryptPointA]
    unfold RelayServer.validateDecryptPubkey
    rw [sameImport]
    rfl
  have decoded : relay.wire.decodeClient (helloFrame decryptPointA) =
      .envelope (.hello ⟨base64Encode decryptPointA⟩) := by
    rw [sameWire]
    exact decode_helloFrame decryptPointA
  have enrolled := relay.enrolled_register (certificate signPointA) signPointA
    ⟨base64Encode decryptPointA⟩
  rw [uuid, base64Decode_base64Encode] at enrolled
  exact ⟨_, relay.admits rfl rfl certified_signPointA decoded valid, enrolled⟩

/-- The relay after daemon A has registered. -/
def admitted : State :=
  server.register (State.init.accept 0 (Conn.accepted (certificate signPointA))) 0 signPointA
    ⟨base64Encode decryptPointA⟩

theorem run_admission : server.machine.run admission = some admitted :=
  server.admits rfl rfl certified_signPointA (decode_helloFrame decryptPointA) valid_decryptPointA

theorem enrolled_admitted : admitted.Enrolled clientA := by
  obtain ⟨s, ran, enrolled⟩ := enrols server rfl rfl uuid_signPointA
  obtain rfl := Option.some.inj (ran.symm.trans run_admission)
  exact enrolled

/-- A forward to daemon A. -/
def forwardA : Event := .forward uuidA "POST" "/hooks/build" .empty [] requestId 0

end Sample

end DicodeRelay.Relay
