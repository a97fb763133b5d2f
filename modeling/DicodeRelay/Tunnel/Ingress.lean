import DicodeRelay.Client.Forwarder
import DicodeRelay.Relay.Sends
import DicodeRelay.Status.Wiring

/-!
Contract: the public listener's webhook routes.

Owns:
- the target of a public request and what the router makes of it;
- the forward that a public request comes to;
- that the daemon dispatches the request which the forward sends it.

Does not own: the body parser, the answer to the public request.
-/

namespace DicodeRelay.Tunnel

open DicodeRelay.Lib DicodeRelay.Shared

/-! ### The target -/

def queryText : Option String → String
  | none => ""
  | some query => "?" ++ query

/-- A request target `/u/<uuid>/hooks/<path>[?<query>]`, as it was received. -/
structure HookTarget where
  uuid : String
  path : String
  query : Option String
  uuid_segment : '/' ∉ uuid.toList ∧ '?' ∉ uuid.toList
  path_noQuery : '?' ∉ path.toList

/-- The path below the daemon's base, `/hooks/<path>`. -/
def HookTarget.hook (target : HookTarget) : String := "/hooks/" ++ target.path

/-- `req.originalUrl`. -/
def HookTarget.originalUrl (target : HookTarget) : String :=
  "/u/" ++ target.uuid ++ target.hook ++ queryText target.query

/-- The percent-decoded segments of a path; `none`: one is malformed. -/
def decodedSegments (path : String) : Option (List String) :=
  (pathSegments path.toList).mapM fun segment => decodeURIComponent (String.ofList segment)

/-! ### The routes -/

/-- The raw query string with its question mark. -/
def rawQuery (originalUrl : String) : String :=
  String.ofList (originalUrl.toList.dropWhile (· ≠ '?'))

/-- The uuid and the path that the hooks route forwards to, or the status of the
router's refusal: 404 where no route matches, 400 where a parameter is malformed. -/
def hooksRoute (target : HookTarget) : Except Nat (String × String) :=
  if target.uuid = "" ∨ target.path = "" then .error 404
  else
    match decodeURIComponent target.uuid, decodedSegments target.path with
    | some uuid, some path =>
        .ok (uuid, "/hooks/" ++ "/".intercalate path ++ rawQuery target.originalUrl)
    | _, _ => .error 400

/-- A request to the public listener. Its headers are ones the HTTP parser lets
through, and its body is what the body parser left in `req.body`, if that is a
buffer. -/
structure PublicRequest where
  method : String
  target : HookTarget
  headers : Headers
  body : Option Bytes
  legal : ∀ e ∈ headers.entries, ∀ value ∈ e.2, isLegalHeader e.1 value = true

theorem legal_empty : ∀ e ∈ (OrderedMap.empty : Headers).entries, ∀ value ∈ e.2,
    isLegalHeader e.1 value = true := by
  simp [OrderedMap.empty]

/-- The message `forward` sends. -/
def forwardedRequest (id method path : String) (headers : Headers) (body : Bytes) : Request where
  id := id
  method := method
  path := path
  headers := headers.mapValues HeaderValues.mk
  body := base64Encode body

/-- The request message of a public request whose path the route has made. -/
def PublicRequest.message (request : PublicRequest) (id path : String) : Request :=
  forwardedRequest id request.method path request.headers (request.body.getD [])

/-- `forwardToClient(req, res, uuid, forwardPath)`, as an event of the started
server. -/
def PublicRequest.forwardToClient (request : PublicRequest) (uuid forwardPath id : String)
    (bufferedAmount : Nat) : Status.WiredEvent :=
  .inbound uuid request.method forwardPath request.headers (request.body.getD []) id
    bufferedAmount

/-! ### From the listener to the daemon -/

/-- What a forward that is not refused sends. -/
theorem sentOn_forward {server : Relay.RelayServer} {s : Relay.State} {uuid : String}
    {client : Relay.ConnectedClient} {bufferedAmount : Nat}
    (registered : s.clients.get uuid = some client) (opened : s.readyState client.ws = .opened)
    (drained : bufferedAmount ≤ server.maxBufferedBytes)
    (free : (s.pendingByClient.get uuid).getD 0 < server.maxPendingPerClient)
    (method path : String) (headers : Headers) (body : Bytes) (id : String) :
    (server.forward s uuid method path headers body id bufferedAmount).sentOn client.ws =
      s.sentOn client.ws ++
        [server.wire.encodeServer (.request (forwardedRequest id method path headers body))] := by
  have found : s.getClient uuid = .ok client := by rw [Relay.State.getClient, registered]
  rw [Relay.RelayServer.forward, found]
  simp only [if_neg (Nat.not_lt.mpr drained), if_neg (Nat.not_le.mpr free)]
  rw [Relay.RelayServer.sendServerMessage, if_pos (by exact opened)]
  simp [Relay.State.sentOn, Relay.State.emit, Relay.Effect.sentOn, forwardedRequest,
    Relay.State.addPending, Relay.State.startRequestTimer]

/-- A forward sends the message or nothing. -/
theorem sentOn_forward_cases (server : Relay.RelayServer) (s : Relay.State)
    (uuid method path : String) (headers : Headers) (body : Bytes) (id : String)
    (bufferedAmount : Nat) (ws : Relay.ConnId) :
    (server.forward s uuid method path headers body id bufferedAmount).sentOn ws = s.sentOn ws ∨
    (server.forward s uuid method path headers body id bufferedAmount).sentOn ws = s.sentOn ws ++
      [server.wire.encodeServer (.request (forwardedRequest id method path headers body))] := by
  rw [Relay.RelayServer.forward]
  split
  · exact Or.inl (Relay.State.sentOn_emit _ rfl)
  · rename_i client _
    split
    · exact Or.inl (Relay.State.sentOn_emit _ rfl)
    · split
      · exact Or.inl (Relay.State.sentOn_emit _ rfl)
      · rw [Relay.RelayServer.sendServerMessage]
        split
        · by_cases same : client.ws = ws
          · right
            simp [Relay.State.sentOn, Relay.State.emit, Relay.Effect.sentOn, forwardedRequest,
              Relay.State.addPending, Relay.State.startRequestTimer, same]
          · left
            rw [Relay.State.sentOn_emit _ (by simp [Relay.Effect.sentOn, same])]
            rfl
        · exact Or.inl rfl

/-- What an inbound request sends is its message. -/
theorem inbound_sent {server : Relay.RelayServer} {s s' : Status.WiredState}
    {request : PublicRequest} {uuid path id : String} {bufferedAmount : Nat}
    (stepped : Status.wiredStep server s (request.forwardToClient uuid path id bufferedAmount) =
      some s') {ws : Relay.ConnId} {frame : String}
    (sent : s'.relay.sentOn ws = s.relay.sentOn ws ++ [frame]) :
    frame = server.wire.encodeServer (.request (request.message id path)) := by
  rw [PublicRequest.forwardToClient, Status.wiredStep] at stepped
  split at stepped
  · obtain ⟨relay, relayed, rfl⟩ := Option.map_eq_some_iff.mp stepped
    obtain ⟨_, forwarded⟩ := Option.ite_none_right_eq_some.mp relayed
    obtain rfl := Option.some.inj forwarded
    have issued : (s.relay.issue id uuid).sentOn ws = s.relay.sentOn ws := rfl
    rcases sentOn_forward_cases server (s.relay.issue id uuid) uuid request.method path
      request.headers (request.body.getD []) id bufferedAmount ws with quiet | message
    · simp [quiet, issued] at sent
    · rw [message, issued] at sent
      exact (List.cons.inj (List.append_cancel_left sent)).1.symm
  · obtain rfl := Option.some.inj stepped
    simp at sent

namespace Sample

theorem segment_uuidA :
    '/' ∉ Relay.Sample.uuidA.toList ∧ '?' ∉ Relay.Sample.uuidA.toList := by
  decide +kernel

theorem noQuery_pay : '?' ∉ "pay".toList := by
  decide

end Sample

end DicodeRelay.Tunnel
