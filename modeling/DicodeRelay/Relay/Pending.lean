import DicodeRelay.Relay.Server

/-!
Contract: the pending requests of a relay server over every run.

Owns:
- the bookkeeping a server keeps about its forwards, and the few ways one
  event can move it;
- that the maps, the timers and the promises stay in lockstep: counts match
  entries and respect the cap, an entry has its timer and a promise is settled
  exactly when its entry is gone.

Does not own: whose frames settle a promise.
-/

namespace DicodeRelay.Relay

open DicodeRelay.Lib DicodeRelay.Shared

/-! ### The bookkeeping of a state -/

/-- How often the promise of `id` was settled. -/
def State.settlements (s : State) (id : String) : Nat :=
  s.log.countP fun effect => effect.settledId = some id

/-- What a server knows of its forwards, and what it told their callers. -/
structure Book where
  pending : OrderedMap String PendingRequest
  pendingByClient : OrderedMap String Nat
  requestTimers : Timers String
  issued : OrderedMap String String
  settled : List Effect

def State.book (s : State) : Book where
  pending := s.pending
  pendingByClient := s.pendingByClient
  requestTimers := s.requestTimers
  issued := s.issued
  settled := s.log.filter fun effect => effect.settledId.isSome

theorem State.settlements_eq_book (s : State) (id : String) :
    s.settlements id = s.book.settled.countP fun effect => effect.settledId = some id := by
  unfold State.settlements State.book
  rw [List.countP_filter]
  congr 1
  funext effect
  cases effect.settledId <;> simp

/-! ### What leaves the bookkeeping alone -/

namespace State

theorem book_emit (s : State) {effect : Effect} (quiet : effect.settledId = none) :
    (s.emit effect).book = s.book := by
  simp [book, emit, quiet]

@[simp] theorem book_modifyConn (s : State) (ws : ConnId) (f : Conn → Conn) :
    (s.modifyConn ws f).book = s.book := by
  unfold modifyConn
  split <;> rfl

@[simp] theorem book_putClient (s : State) (client : ConnectedClient) :
    (s.putClient client).book = s.book := rfl

@[simp] theorem book_dropClient (s : State) (uuid : String) :
    (s.dropClient uuid).book = s.book := rfl

@[simp] theorem book_accept (s : State) (ws : ConnId) (conn : Conn) :
    (s.accept ws conn).book = s.book := rfl

@[simp] theorem book_startPingTimer (s : State) (ms : Int) (ws : ConnId) :
    (s.startPingTimer ms ws).book = s.book := rfl

@[simp] theorem book_repeatPingTimer (s : State) (ms : Int) (timer : Nat) :
    (s.repeatPingTimer ms timer).book = s.book := rfl

@[simp] theorem book_clearPingTimer (s : State) (timer : Nat) :
    (s.clearPingTimer timer).book = s.book := rfl

@[simp] theorem book_startPongTimer (s : State) (ms : Int) (ws : ConnId) :
    (s.startPongTimer ms ws).book = s.book := rfl

@[simp] theorem book_clearPongTimer (s : State) (timer : Nat) :
    (s.clearPongTimer timer).book = s.book := rfl

@[simp] theorem book_clearClients (s : State) : s.clearClients.book = s.book := rfl

@[simp] theorem book_socketClosed (s : State) (ws : ConnId) :
    (s.socketClosed ws).book = s.book :=
  s.book_modifyConn ws _

@[simp] theorem book_closeSocket (s : State) (ws : ConnId) (code : Option Nat)
    (reason : String) : (s.closeSocket ws code reason).book = s.book := by
  rw [closeSocket, book_modifyConn, book_emit _ rfl]

@[simp] theorem book_terminate (s : State) (ws : ConnId) : (s.terminate ws).book = s.book := by
  rw [terminate, book_modifyConn, book_emit _ rfl]

@[simp] theorem book_terminateClients (s : State) (clients : List ConnectedClient) :
    (s.terminateClients clients).book = s.book := by
  induction clients generalizing s with
  | nil => rfl
  | cons client rest inductionHypothesis =>
      rw [terminateClients, inductionHypothesis, book_terminate]

@[simp] theorem book_clearKeepalive (s : State) (conn : Conn) :
    (s.clearKeepalive conn).book = s.book := by
  unfold clearKeepalive
  cases conn.pingTimer <;> cases conn.pongTimer <;> rfl

@[simp] theorem book_deregister (s : State) (ws : ConnId) (conn : Conn) :
    (s.deregister ws conn).book = s.book := by
  unfold deregister
  repeat' split
  all_goals first | rfl | rw [book_dropClient, book_emit _ rfl]

@[simp] theorem book_cleanup (s : State) (ws : ConnId) : (s.cleanup ws).book = s.book := by
  unfold cleanup
  split
  · rfl
  · rw [book_modifyConn, book_deregister, book_clearKeepalive]

@[simp] theorem book_pongTimeout (s : State) (ws : ConnId) : (s.pongTimeout ws).book = s.book := by
  rw [pongTimeout, book_cleanup, book_terminate]

@[simp] theorem book_handlePong (s : State) (ws : ConnId) : (s.handlePong ws).book = s.book := by
  unfold handlePong
  split
  · rfl
  · rw [book_modifyConn, book_clearPongTimer]

@[simp] theorem book_evictPrevious (s : State) (uuid : String) :
    (s.evictPrevious uuid).book = s.book := by
  unfold evictPrevious
  split
  · rfl
  · rw [book_terminate, book_emit _ rfl, book_dropClient]

theorem book_whenAdmitted (s : State) (ws : ConnId) {listener : Conn → Bytes → State}
    (quiet : ∀ conn certPoint, (listener conn certPoint).book = s.book) :
    (s.whenAdmitted ws listener).book = s.book := by
  unfold whenAdmitted
  split
  · rfl
  · split
    · rfl
    · exact quiet _ _

end State

namespace RelayServer

variable (server : RelayServer)

@[simp] theorem book_sendServerMessage (s : State) (ws : ConnId) (msg : ServerMessage) :
    (server.sendServerMessage s ws msg).book = s.book := by
  unfold sendServerMessage
  split
  · exact State.book_emit _ rfl
  · rfl

@[simp] theorem book_sendError (s : State) (ws : ConnId) (message : String) :
    (server.sendError s ws message).book = s.book :=
  server.book_sendServerMessage s ws _

@[simp] theorem book_handleConnection (s : State) (ws : ConnId)
    (peerCert : Option PeerCertificate) :
    (server.handleConnection s ws peerCert).book = s.book := by
  unfold handleConnection
  repeat' split
  all_goals simp only [State.book_closeSocket, book_sendError, State.book_accept]

@[simp] theorem book_pingInterval (s : State) (ws : ConnId) :
    (server.pingInterval s ws).book = s.book := by
  unfold pingInterval
  split
  · exact State.book_cleanup _ _
  · rw [State.book_modifyConn, State.book_startPongTimer, State.book_emit _ rfl]

@[simp] theorem book_startKeepalive (s : State) (ws : ConnId) :
    (server.startKeepalive s ws).book = s.book := by
  rw [startKeepalive, State.book_modifyConn, State.book_startPingTimer]

@[simp] theorem book_register (s : State) (ws : ConnId) (certPoint : Bytes) (hello : Hello) :
    (server.register s ws certPoint hello).book = s.book := by
  simp only [register, book_startKeepalive]
  rw [State.book_emit _ rfl]
  simp only [book_sendServerMessage, State.book_modifyConn, State.book_putClient,
    State.book_evictPrevious]

@[simp] theorem book_handleHello (s : State) (ws : ConnId) (certPoint : Bytes)
    (envelope : ClientMessage) :
    (server.handleHello s ws certPoint envelope).book = s.book := by
  unfold handleHello
  repeat' split
  all_goals simp only [State.book_closeSocket, book_sendError, book_register]

end RelayServer

/-! ### What moves the bookkeeping -/

/-- `ws` is a registered connection and `frame` a response the server takes. -/
structure Answers (server : RelayServer) (s : State) (ws : ConnId) (frame : String)
    (response : Response) : Prop where
  registered : ∃ conn certPoint, s.conns.get ws = some conn ∧
    conn.certPoint = some certPoint ∧ conn.registeredUuid ≠ none
  decoded : server.wire.decodeClient frame = .envelope (.response response)
  inRange : 100 ≤ response.status ∧ response.status ≤ 599

/-- The event is the response, the timeout or the shutdown that ends the
forward `id`. -/
def Concludes (server : RelayServer) (s : State) (id : String) : Event → Prop
  | .message ws frame => ∃ response, Answers server s ws frame response ∧ response.id = id
  | .requestTimer timer => ∃ due, s.requestTimers.get timer = some ⟨due, id⟩
  | .close => True
  | _ => False

/-- The `forward` call an event is. -/
def Event.callId : Event → Option String
  | .forward _ _ _ _ _ id _ => some id
  | _ => none

namespace Book

/-- The entry of `id` goes, and its promise is settled by `effect`. -/
def settle (b : Book) (id : String) (req : PendingRequest) (effect : Effect) : Book where
  pending := b.pending.delete id
  pendingByClient :=
    if (b.pendingByClient.get req.uuid).getD 0 ≤ 1 then b.pendingByClient.delete req.uuid
    else b.pendingByClient.set req.uuid ((b.pendingByClient.get req.uuid).getD 0 - 1)
  requestTimers := b.requestTimers.clear req.timer
  issued := b.issued
  settled := b.settled ++ [effect]

def forwarded (b : Book) (due : Nat) (id uuid : String) : Book where
  pending := b.pending.set id ⟨uuid, b.requestTimers.next⟩
  pendingByClient := b.pendingByClient.set uuid ((b.pendingByClient.get uuid).getD 0 + 1)
  requestTimers := b.requestTimers.start due id
  issued := b.issued.set id uuid
  settled := b.settled

def refused (b : Book) (id uuid : String) (error : ForwardError) : Book :=
  { b with issued := b.issued.set id uuid, settled := b.settled ++ [.reject id error] }

def closed (b : Book) : Book where
  pending := .empty
  pendingByClient := .empty
  requestTimers :=
    b.pending.entries.foldl (fun timers entry => timers.clear entry.2.timer) b.requestTimers
  issued := b.issued
  settled := b.settled ++ b.pending.entries.map fun entry => .reject entry.1 .serverClosing

end Book

/-- The ways one event moves the bookkeeping. -/
inductive BookMove (server : RelayServer) (s : State) : Event → Book → Prop where
  | quiet (e : Event) (noCall : e.callId = none)
      (inconclusive : ∀ id req, s.pending.get id = some req → ¬ Concludes server s id e) :
      BookMove server s e s.book
  | refused {uuid method path : String} {headers : Headers} {body : Bytes} {id : String}
      {buffered : Nat} (fresh : s.issued.get id = none) (error : ForwardError) :
      BookMove server s (.forward uuid method path headers body id buffered)
        (s.book.refused id uuid error)
  | forwarded {uuid method path : String} {headers : Headers} {body : Bytes} {id : String}
      {buffered : Nat} (fresh : s.issued.get id = none) (due : Nat)
      (room : (s.pendingByClient.get uuid).getD 0 < server.maxPendingPerClient) :
      BookMove server s (.forward uuid method path headers body id buffered)
        (s.book.forwarded due id uuid)
  | responded {ws : ConnId} {frame : String} {response : Response} {req : PendingRequest}
      (answers : Answers server s ws frame response)
      (present : s.pending.get response.id = some req) :
      BookMove server s (.message ws frame)
        (s.book.settle response.id req (.resolve response.id (flattenResponse response)))
  | timedOut {timer : Nat} {id : String} {req : PendingRequest}
      (present : s.pending.get id = some req) (timed : req.timer = timer) :
      BookMove server s (.requestTimer timer)
        (s.book.settle id req (.reject id (.forwardTimeout id)))
  | closed : BookMove server s .close s.book.closed

/-! ### The bookkeeping invariant -/

/-- Counts, timers and promises match the pending entries. -/
structure Book.Consistent (cap : Nat) (b : Book) : Prop where
  counted : ∀ uuid, (b.pendingByClient.get uuid).getD 0 = b.pending.count fun req => req.uuid = uuid
  stored : ∀ uuid n, b.pendingByClient.get uuid = some n → 1 ≤ n ∧ n ≤ cap
  timed : ∀ timer id, (∃ due, b.requestTimers.get timer = some ⟨due, id⟩) ↔
    ∃ req, b.pending.get id = some req ∧ req.timer = timer
  asked : ∀ id req, b.pending.get id = some req → b.issued.get id = some req.uuid
  settledOnce : ∀ id, b.settled.countP (fun effect => effect.settledId = some id) =
    if b.issued.get id ≠ none ∧ b.pending.get id = none then 1 else 0

/-! ### One event -/

theorem State.book_emit_settling (s : State) {effect : Effect} {id : String}
    (settles : effect.settledId = some id) :
    (s.emit effect).book = { s.book with settled := s.book.settled ++ [effect] } := by
  simp [State.book, State.emit, settles]

theorem State.book_removePending {s : State} {id : String} {req : PendingRequest}
    (present : s.pending.get id = some req) (effect : Effect)
    (settles : effect.settledId = some id) :
    s.removePending id = ((s.removePending id).1, some req) ∧
      (((s.removePending id).1.clearRequestTimer req.timer).emit effect).book =
        s.book.settle id req effect := by
  unfold State.removePending
  rw [present]
  refine ⟨rfl, ?_⟩
  rw [State.book_emit_settling _ settles]
  rfl

theorem State.book_handleResponse {s : State} {response : Response} {req : PendingRequest}
    (inRange : 100 ≤ response.status ∧ response.status ≤ 599)
    (present : s.pending.get response.id = some req) :
    (s.handleResponse response).book =
      s.book.settle response.id req (.resolve response.id (flattenResponse response)) := by
  obtain ⟨found, settled⟩ := State.book_removePending present
    (.resolve response.id (flattenResponse response)) rfl
  unfold State.handleResponse
  rw [if_neg (by omega), found]
  exact settled

theorem State.handleResponse_of_unknown {s : State} {response : Response}
    (unknown : s.pending.get response.id = none) : s.handleResponse response = s := by
  unfold State.handleResponse State.removePending
  rw [unknown]
  split <;> rfl

theorem State.handleResponse_of_outOfRange {s : State} {response : Response}
    (outOfRange : ¬ (100 ≤ response.status ∧ response.status ≤ 599)) :
    s.handleResponse response = s := by
  unfold State.handleResponse
  rw [if_pos (by omega)]

private theorem State.book_rejectPending (s : State) (entries : List (String × PendingRequest)) :
    (s.rejectPending entries).book =
      { s.book with
        requestTimers :=
          entries.foldl (fun timers entry => timers.clear entry.2.timer) s.requestTimers
        settled := s.book.settled ++ entries.map fun entry => .reject entry.1 .serverClosing } := by
  induction entries generalizing s with
  | nil => simp [State.rejectPending, State.book]
  | cons entry rest inductionHypothesis =>
      rw [State.rejectPending, inductionHypothesis, State.book_emit_settling _ rfl]
      simp [State.book, State.emit, State.clearRequestTimer]

theorem State.book_close (s : State) : s.close.book = s.book.closed := by
  have rejected := State.book_rejectPending s s.pending.entries
  unfold State.close
  rw [State.book_clearClients, State.book_terminateClients]
  change { (s.rejectPending s.pending.entries).book with
    pending := OrderedMap.empty, pendingByClient := OrderedMap.empty } = _
  rw [rejected]
  rfl

theorem RelayServer.book_forward (server : RelayServer) {s : State} {uuid method path : String}
    {headers : Headers} {body : Bytes} {id : String} {buffered : Nat}
    (fresh : s.issued.get id = none) :
    BookMove server s (.forward uuid method path headers body id buffered)
      (server.forward (s.issue id uuid) uuid method path headers body id buffered).book := by
  have refusedBook : ∀ error, ((s.issue id uuid).emit (.reject id error)).book =
      s.book.refused id uuid error := by
    intro error
    rw [State.book_emit_settling _ rfl]
    rfl
  unfold forward
  split
  · rw [refusedBook]
    exact .refused fresh _
  · split
    · rw [refusedBook]
      exact .refused fresh _
    · split
      · rw [refusedBook]
        exact .refused fresh _
      · rename_i room
        rw [book_sendServerMessage]
        exact .forwarded fresh _ (by simpa [State.issue] using room)

theorem RelayServer.book_handleMessage (server : RelayServer) {s : State} {ws : ConnId}
    {conn : Conn} {certPoint : Bytes} {frame : String} (found : s.conns.get ws = some conn)
    (admitted : conn.certPoint = some certPoint) :
    BookMove server s (.message ws frame)
      (server.handleMessage s ws conn certPoint frame).book := by
  -- A frame that is no taken response to a pending id moves nothing.
  have quiet : (∀ response, Answers server s ws frame response →
      s.pending.get response.id = none) →
      BookMove server s (.message ws frame) s.book := by
    intro idle
    apply BookMove.quiet _ rfl
    rintro id req present ⟨response, answers, rfl⟩
    rw [idle response answers] at present
    contradiction
  unfold handleMessage
  split
  · rename_i decoded
    rw [State.book_closeSocket, book_sendError]
    exact quiet fun _ answers => by
      rw [answers.decoded] at decoded
      contradiction
  · rename_i decoded
    have unanswered : ∀ response, Answers server s ws frame response →
        s.pending.get response.id = none := fun _ answers => by
      rw [answers.decoded] at decoded
      contradiction
    split
    · rw [State.book_closeSocket, book_sendError]
      exact quiet unanswered
    · exact quiet unanswered
  · rename_i envelope decoded
    split
    · rename_i unregistered
      rw [book_handleHello]
      exact quiet fun _ answers => by
        obtain ⟨other, _, same, _, registered⟩ := answers.registered
        rw [found] at same
        obtain rfl := Option.some.inj same
        exact absurd unregistered registered
    · rename_i registered
      split
      · rename_i response
        by_cases inRange : 100 ≤ response.status ∧ response.status ≤ 599
        · cases present : s.pending.get response.id with
          | none =>
              rw [State.handleResponse_of_unknown present]
              exact quiet fun other answers => by
                have same := answers.decoded
                rw [decoded] at same
                cases same
                exact present
          | some req =>
              rw [State.book_handleResponse inRange present]
              exact .responded ⟨⟨conn, certPoint, found, admitted, registered⟩, decoded, inRange⟩
                present
        · rw [State.handleResponse_of_outOfRange inRange]
          exact quiet fun other answers => by
            have same := answers.decoded
            rw [decoded] at same
            cases same
            exact absurd answers.inRange inRange
      · rename_i notResponse
        exact quiet fun other answers => by
          have same := answers.decoded
          rw [decoded] at same
          cases same
          exact absurd rfl (notResponse other)

private theorem book_requestTimeout {s : State} {timer : Nat} {id : String} {req : PendingRequest}
    (present : s.pending.get id = some req) (timed : req.timer = timer) :
    ((s.clearRequestTimer timer).requestTimeout id).book =
      s.book.settle id req (.reject id (.forwardTimeout id)) := by
  subst timed
  obtain ⟨found, settled⟩ := State.book_removePending present
    (.reject id (.forwardTimeout id)) rfl
  rw [← settled]
  unfold State.requestTimeout State.removePending State.clearRequestTimer
  rw [present]

/-- One event moves the bookkeeping in one of the ways listed. -/
theorem RelayServer.book_step (server : RelayServer) {s s' : State} {e : Event}
    (consistent : s.book.Consistent server.maxPendingPerClient)
    (after : server.step s e = some s') : BookMove server s e s'.book := by
  -- Of the events that cannot conclude a forward, the frame lemma is enough.
  have quiet : e.callId = none → (∀ id, ¬ Concludes server s id e) → s'.book = s.book →
      BookMove server s e s'.book := by
    intro noCall inconclusive same
    rw [same]
    exact .quiet e noCall fun id _ _ => inconclusive id
  cases e with
  | connection ws peerCert =>
      simp only [step, Option.ite_none_right_eq_some, Option.some.injEq] at after
      exact quiet rfl (fun _ => id) (after.2 ▸ server.book_handleConnection s ws peerCert)
  | message ws frame =>
      simp only [step, Option.ite_none_right_eq_some, Option.some.injEq] at after
      obtain ⟨_, rfl⟩ := after
      have unheard : (∀ conn certPoint, s.conns.get ws = some conn →
          conn.certPoint ≠ some certPoint) → BookMove server s (.message ws frame) s.book := by
        intro rejected
        apply BookMove.quiet _ rfl
        rintro id req _ ⟨response, answers, _⟩
        obtain ⟨conn, certPoint, found, admitted, _⟩ := answers.registered
        exact rejected conn certPoint found admitted
      unfold State.whenAdmitted
      split
      · rename_i absent
        exact unheard fun _ _ found => by simp [absent] at found
      · rename_i conn found
        split
        · rename_i rejected
          refine unheard fun other certPoint same => ?_
          rw [found] at same
          obtain rfl := Option.some.inj same
          simp [rejected]
        · rename_i certPoint admitted
          exact server.book_handleMessage found admitted
  | pong ws =>
      simp only [step, Option.ite_none_right_eq_some, Option.some.injEq] at after
      exact quiet rfl (fun _ => id)
        (after.2 ▸ State.book_whenAdmitted _ _ fun _ _ => State.book_handlePong _ _)
  | wsError ws =>
      simp only [step, Option.ite_none_right_eq_some, Option.some.injEq] at after
      refine quiet rfl (fun _ => id) (after.2 ▸ ?_)
      rw [State.book_whenAdmitted _ _ fun _ _ => State.book_cleanup _ _, State.book_terminate]
  | wsClose ws =>
      simp only [step, Option.ite_none_right_eq_some, Option.some.injEq] at after
      refine quiet rfl (fun _ => id) (after.2 ▸ ?_)
      rw [State.book_whenAdmitted _ _ fun _ _ => State.book_cleanup _ _, State.book_socketClosed]
  | peerClosing ws =>
      simp only [step, Option.ite_none_right_eq_some, Option.some.injEq] at after
      exact quiet rfl (fun _ => id) (after.2 ▸ State.book_modifyConn _ _ _)
  | requestTimer timer =>
      simp only [step, Option.map_eq_some_iff] at after
      obtain ⟨id, due, rfl⟩ := after
      obtain ⟨req, present, timed⟩ := (consistent.timed timer id).mp (State.dueTimer_eq_some due)
      rw [book_requestTimeout present timed]
      exact .timedOut present timed
  | pingTimer timer =>
      simp only [step, Option.map_eq_some_iff] at after
      obtain ⟨ws, _, rfl⟩ := after
      exact quiet rfl (fun _ => id) (by rw [book_pingInterval, State.book_repeatPingTimer])
  | pongTimer timer =>
      simp only [step, Option.map_eq_some_iff] at after
      obtain ⟨ws, _, rfl⟩ := after
      exact quiet rfl (fun _ => id) (by rw [State.book_pongTimeout, State.book_clearPongTimer])
  | tick ms =>
      obtain rfl := Option.some.inj after
      exact quiet rfl (fun _ => id) rfl
  | forward uuid method path headers body id buffered =>
      simp only [step, Option.ite_none_right_eq_some, Option.some.injEq,
        Option.isNone_iff_eq_none] at after
      obtain ⟨fresh, rfl⟩ := after
      exact server.book_forward fresh
  | close =>
      obtain rfl := Option.some.inj after
      rw [State.book_close]
      exact .closed

/-! ### Preservation -/

namespace Book

variable {cap : Nat} {b : Book}

theorem consistent_init (cap : Nat) : State.init.book.Consistent cap where
  counted _ := rfl
  stored _ _ found := nomatch found
  timed _ _ := by simp [State.init, State.book]
  asked _ _ found := nomatch found
  settledOnce _ := rfl

theorem Consistent.settle (consistent : b.Consistent cap) {id : String} {req : PendingRequest}
    {effect : Effect} (present : b.pending.get id = some req)
    (settles : effect.settledId = some id) : (b.settle id req effect).Consistent cap := by
  have countedBefore := consistent.counted req.uuid
  have positive : 0 < b.pending.count fun r => r.uuid = req.uuid :=
    b.pending.count_pos_of_get _ present (by simp)
  have removed := fun uuid => b.pending.count_delete_of_get (fun r => r.uuid = uuid) present
  constructor
  · intro uuid
    have removedHere := removed uuid
    have countedHere := consistent.counted uuid
    simp only [Book.settle]
    by_cases same : req.uuid = uuid
    · subst same
      simp only [decide_true, if_true] at removedHere
      split
      · rw [OrderedMap.get_delete_self]
        simp only [Option.getD_none]
        omega
      · rw [OrderedMap.get_set_self]
        simp only [Option.getD_some]
        omega
    · simp only [same, decide_false, Bool.false_eq_true, if_false, Nat.add_zero] at removedHere
      rw [removedHere, ← countedHere]
      split
      · rw [OrderedMap.get_delete_of_ne _ same]
      · rw [OrderedMap.get_set_of_ne _ _ same]
  · intro uuid n found
    simp only [Book.settle] at found
    split at found
    · rw [OrderedMap.get_delete] at found
      split at found
      · contradiction
      · exact consistent.stored uuid n found
    · rename_i several
      rw [OrderedMap.get_set] at found
      split at found
      · obtain rfl := Option.some.inj found
        cases stored : b.pendingByClient.get req.uuid with
        | none => simp [stored] at several
        | some count =>
            have bounds := consistent.stored req.uuid count stored
            simp only [stored, Option.getD_some] at several ⊢
            omega
      · exact consistent.stored uuid n found
  · intro timer other
    simp only [Book.settle, Timers.get_clear, OrderedMap.get_delete]
    have before := consistent.timed timer other
    have own := consistent.timed req.timer id
    obtain ⟨due, armed⟩ := own.mpr ⟨req, present, rfl⟩
    by_cases sameTimer : req.timer = timer
    · subst sameTimer
      simp only [if_true]
      constructor
      · rintro ⟨_, absurdity⟩
        contradiction
      · rintro ⟨r, found, timed⟩
        split at found
        · contradiction
        · rename_i different
          obtain ⟨due', armed'⟩ := before.mpr ⟨r, found, timed⟩
          rw [armed] at armed'
          cases armed'
          exact absurd rfl different
    · rw [if_neg sameTimer, before]
      by_cases sameId : id = other
      · subst sameId
        simp [present, sameTimer]
      · simp [sameId]
  · intro other r found
    simp only [Book.settle, OrderedMap.get_delete] at found ⊢
    split at found
    · contradiction
    · exact consistent.asked other r found
  · intro other
    have before := consistent.settledOnce other
    simp only [Book.settle, List.countP_append, List.countP_singleton, settles,
      OrderedMap.get_delete, Option.some.injEq, decide_eq_true_eq]
    by_cases same : id = other
    · subst same
      simp [before, present, consistent.asked id req present]
    · simp [same, before]

theorem Consistent.unasked (consistent : b.Consistent cap) {id : String}
    (fresh : b.issued.get id = none) : b.pending.get id = none := by
  cases present : b.pending.get id with
  | none => rfl
  | some req =>
      rw [consistent.asked id req present] at fresh
      contradiction

theorem Consistent.refused (consistent : b.Consistent cap) {id uuid : String}
    (fresh : b.issued.get id = none) (error : ForwardError) :
    (b.refused id uuid error).Consistent cap := by
  have absent := consistent.unasked fresh
  refine ⟨consistent.counted, consistent.stored, consistent.timed, ?_, ?_⟩
  · intro other req present
    have different : id ≠ other := by
      rintro rfl
      rw [Book.refused, absent] at present
      contradiction
    simp only [Book.refused, OrderedMap.get_set_of_ne _ _ different]
    exact consistent.asked other req present
  · intro other
    have before := consistent.settledOnce other
    have settles : (Effect.reject id error).settledId = some id := rfl
    simp only [Book.refused, List.countP_append, List.countP_singleton, settles,
      OrderedMap.get_set, Option.some.injEq, decide_eq_true_eq]
    rw [before]
    by_cases same : id = other
    · subst same
      simp [fresh, absent]
    · simp [same]

theorem Consistent.forwarded (consistent : b.Consistent cap) {id uuid : String} (due : Nat)
    (fresh : b.issued.get id = none) (room : (b.pendingByClient.get uuid).getD 0 < cap) :
    (b.forwarded due id uuid).Consistent cap := by
  have absent := consistent.unasked fresh
  constructor
  · intro other
    have before := consistent.counted other
    simp only [Book.forwarded]
    rw [OrderedMap.count_set_of_get_none _ _ _ absent, OrderedMap.get_set]
    by_cases same : uuid = other
    · subst same
      simp [before]
    · simp [same, before]
  · intro other n found
    simp only [Book.forwarded, OrderedMap.get_set] at found
    split at found
    · obtain rfl := Option.some.inj found
      omega
    · exact consistent.stored other n found
  · intro timer other
    simp only [Book.forwarded, Timers.get_start, OrderedMap.get_set]
    have before := consistent.timed timer other
    by_cases sameTimer : b.requestTimers.next = timer
    · subst sameTimer
      have unarmed : ¬ ∃ req, b.pending.get other = some req ∧
          req.timer = b.requestTimers.next := by
        rw [← before, Timers.get_next]
        rintro ⟨_, absurdity⟩
        contradiction
      by_cases sameId : id = other
      · simp [sameId]
      · rw [if_neg sameId]
        simp only [if_true, Option.some.injEq, Timer.mk.injEq, sameId, and_false, exists_false,
          unarmed]
    · rw [if_neg sameTimer, before]
      by_cases sameId : id = other
      · subst sameId
        simp [absent, sameTimer]
      · simp [sameId]
  · intro other req found
    simp only [Book.forwarded, OrderedMap.get_set] at found ⊢
    split at found
    · rename_i same
      obtain rfl := Option.some.inj found
      rw [if_pos same]
    · rename_i different
      rw [if_neg different]
      exact consistent.asked other req found
  · intro other
    have before := consistent.settledOnce other
    simp only [Book.forwarded, OrderedMap.get_set]
    by_cases same : id = other
    · subst same
      simp [before, fresh]
    · simp [same, before]

private theorem get_foldl_clear (timers : Timers String)
    (entries : List (String × PendingRequest)) (handle : Nat) :
    (entries.foldl (fun timers entry => timers.clear entry.2.timer) timers).get handle =
      if ∃ entry ∈ entries, entry.2.timer = handle then none else timers.get handle := by
  induction entries generalizing timers with
  | nil => simp
  | cons entry rest inductionHypothesis =>
      rw [List.foldl_cons, inductionHypothesis, Timers.get_clear]
      by_cases here : entry.2.timer = handle
      · simp [here]
      · simp only [here, if_false, List.mem_cons, exists_eq_or_imp, false_or]

private theorem countP_rejections (b : Book) (id : String) :
    (b.pending.entries.map fun entry =>
      Effect.reject entry.1 .serverClosing).countP (fun effect => effect.settledId = some id) =
      if b.pending.get id = none then 0 else 1 := by
  rw [List.countP_map]
  have keys : List.countP ((fun effect => decide (effect.settledId = some id)) ∘
      fun entry : String × PendingRequest => Effect.reject entry.1 .serverClosing)
      b.pending.entries = b.pending.keys.count id := by
    rw [OrderedMap.keys, List.count, List.countP_map]
    congr 1
    funext entry
    simp [Effect.settledId, beq_eq_decide]
  have nodup : b.pending.keys.Nodup := b.pending.nodupKeys
  rw [keys, nodup.count]
  cases present : b.pending.get id with
  | none =>
      have notKey : id ∉ b.pending.keys := by
        intro member
        obtain ⟨⟨key, req⟩, inEntries, rfl⟩ := List.mem_map.mp member
        rw [b.pending.mem_entries_iff] at inEntries
        rw [present] at inEntries
        contradiction
      simp [notKey]
  | some req =>
      have key : id ∈ b.pending.keys :=
        List.mem_map.mpr ⟨(id, req), (b.pending.mem_entries_iff id req).mpr present, rfl⟩
      simp [key]

theorem Consistent.closed (consistent : b.Consistent cap) : b.closed.Consistent cap := by
  constructor
  · intro uuid
    rfl
  · intro uuid n found
    contradiction
  · intro timer id
    simp only [Book.closed, OrderedMap.get_empty, reduceCtorEq, false_and, exists_false, iff_false]
    rw [get_foldl_clear]
    rintro ⟨due, armed⟩
    split at armed
    · contradiction
    · rename_i untimed
      obtain ⟨req, present, timed⟩ := (consistent.timed timer id).mp ⟨due, armed⟩
      exact untimed ⟨(id, req), (b.pending.mem_entries_iff id req).mpr present, timed⟩
  · intro id req found
    contradiction
  · intro id
    have before := consistent.settledOnce id
    simp only [Book.closed, List.countP_append, OrderedMap.get_empty, and_true]
    rw [before, countP_rejections]
    by_cases present : b.pending.get id = none
    · simp [present]
    · obtain ⟨req, found⟩ := Option.ne_none_iff_exists'.mp present
      simp [consistent.asked id req found, found]

end Book

theorem BookMove.consistent {server : RelayServer} {s : State} {e : Event} {b : Book}
    (move : BookMove server s e b) (before : s.book.Consistent server.maxPendingPerClient) :
    b.Consistent server.maxPendingPerClient := by
  cases move with
  | quiet => exact before
  | refused fresh error => exact before.refused fresh error
  | forwarded fresh due room => exact before.forwarded due fresh room
  | responded answers present => exact before.settle present rfl
  | timedOut present => exact before.settle present rfl
  | closed => exact before.closed

theorem RelayServer.consistent_run (server : RelayServer) {events : List Event} {s : State}
    (ran : server.machine.run events = some s) :
    s.book.Consistent server.maxPendingPerClient :=
  Machine.state_invariant (P := fun s => s.book.Consistent server.maxPendingPerClient)
    (Book.consistent_init _)
    (fun _ _ _ consistent after => (server.book_step consistent after).consistent consistent) ran

/-- A step of a run moves the bookkeeping in one of the ways listed. -/
theorem RelayServer.book_stepAt (server : RelayServer) {events earlier : List Event}
    {s s' : State} {e : Event} (step : server.machine.StepAt events earlier s e s') :
    BookMove server s e s'.book :=
  server.book_step (server.consistent_run step.before) step.after

/-! ### Promises -/

/-- The promise of `id` was asked for and is no longer pending. -/
def Book.Done (b : Book) (id : String) : Prop :=
  b.issued.get id ≠ none ∧ b.pending.get id = none

theorem BookMove.done {server : RelayServer} {s : State} {e : Event} {b : Book}
    (move : BookMove server s e b) {id : String} (done : s.book.Done id) : b.Done id := by
  obtain ⟨asked, absent⟩ := done
  cases move with
  | quiet => exact ⟨asked, absent⟩
  | @refused uuid _ _ _ _ other _ fresh error =>
      have different : other ≠ id := fun equal => asked (equal ▸ fresh)
      exact ⟨by rwa [Book.refused, OrderedMap.get_set_of_ne _ _ different], absent⟩
  | @forwarded uuid _ _ _ _ other _ fresh due room =>
      have different : other ≠ id := fun equal => asked (equal ▸ fresh)
      exact ⟨by rwa [Book.forwarded, OrderedMap.get_set_of_ne _ _ different],
        by rwa [Book.forwarded, OrderedMap.get_set_of_ne _ _ different]⟩
  | responded answers present =>
      exact ⟨asked, by rw [Book.settle, OrderedMap.get_delete, absent, ite_self]⟩
  | timedOut present =>
      exact ⟨asked, by rw [Book.settle, OrderedMap.get_delete, absent, ite_self]⟩
  | closed => exact ⟨asked, rfl⟩

/-- A concluded forward is done. -/
theorem BookMove.concluded {server : RelayServer} {s : State} {e : Event} {b : Book}
    (move : BookMove server s e b) (consistent : s.book.Consistent server.maxPendingPerClient)
    {id : String} {req : PendingRequest} (present : s.pending.get id = some req)
    (concludes : Concludes server s id e) : b.Done id := by
  have asked : s.book.issued.get id ≠ none := by
    rw [consistent.asked id req present]
    simp
  cases move with
  | quiet _ _ inconclusive => exact absurd concludes (inconclusive id req present)
  | refused | forwarded => exact False.elim concludes
  | responded answers =>
      obtain ⟨response, others, rfl⟩ := concludes
      have same := answers.decoded.symm.trans others.decoded
      cases same
      exact ⟨asked, OrderedMap.get_delete_self _ _⟩
  | timedOut expired timed =>
      obtain ⟨_, armed⟩ := concludes
      obtain ⟨_, armed'⟩ := (consistent.timed _ _).mpr ⟨_, expired, timed⟩
      have same := armed.symm.trans armed'
      cases same
      exact ⟨asked, OrderedMap.get_delete_self _ _⟩
  | closed => exact ⟨asked, rfl⟩

theorem BookMove.called {server : RelayServer} {s : State} {e : Event} {b : Book}
    (move : BookMove server s e b) {id : String} (call : e.callId = some id) :
    b.issued.get id ≠ none := by
  cases move with
  | quiet _ noCall => rw [noCall] at call; contradiction
  | refused =>
      cases call
      simp [Book.refused]
  | forwarded =>
      cases call
      simp [Book.forwarded]
  | responded => contradiction
  | timedOut => contradiction
  | closed => contradiction

theorem BookMove.issued {server : RelayServer} {s : State} {e : Event} {b : Book}
    (move : BookMove server s e b) {id : String} (asked : s.issued.get id ≠ none) :
    b.issued.get id ≠ none := by
  cases move with
  | quiet => exact asked
  | refused | forwarded =>
      simp only [Book.refused, Book.forwarded, OrderedMap.get_set]
      split
      · simp
      · exact asked
  | responded | timedOut | closed => exact asked

/-- A forward of the run is pending, and unsettled, or settled exactly once. -/
theorem RelayServer.settlements_of_call (server : RelayServer) {events : List Event} {s : State}
    (ran : server.machine.run events = some s) {e : Event} (member : e ∈ events) {id : String}
    (call : e.callId = some id) :
    s.settlements id = if s.pending.get id = none then 1 else 0 := by
  have asked : ∀ e ∈ events, ∀ id, e.callId = some id → s.issued.get id ≠ none := by
    refine Machine.run_invariant
      (P := fun events s => ∀ e ∈ events, ∀ id, e.callId = some id → s.issued.get id ≠ none)
      (by simp) ?_ ran
    intro events s last s' before all after e member id call
    have move := server.book_step (server.consistent_run before) after
    rcases List.mem_append.mp member with old | new
    · exact move.issued (all e old id call)
    · obtain rfl := List.mem_singleton.mp new
      exact move.called call
  rw [State.settlements_eq_book, (server.consistent_run ran).settledOnce]
  have askedHere : s.book.issued.get id ≠ none := asked e member id call
  simp only [ne_eq, askedHere, not_false_eq_true, true_and]
  rfl

/-- In every state between events the counts match the pending entries and
respect the cap, a request timer is armed exactly while its entry is pending,
and every promise is settled at most once: not while its entry is pending,
exactly once from the event that concludes it on. -/
theorem pending_bookkeeping (server : RelayServer) {events : List Event} {s : State}
    (ran : server.machine.run events = some s) :
    (∀ uuid, (s.pendingByClient.get uuid).getD 0 =
        s.pending.count fun req => req.uuid = uuid) ∧
      (∀ uuid n, s.pendingByClient.get uuid = some n →
        1 ≤ n ∧ n ≤ server.maxPendingPerClient) ∧
      (∀ timer id, (∃ due, s.requestTimers.get timer = some ⟨due, id⟩) ↔
        ∃ req, s.pending.get id = some req ∧ req.timer = timer) ∧
      (∀ id, s.settlements id ≤ 1) ∧
      (∀ e ∈ events, ∀ id, e.callId = some id →
        s.settlements id = if s.pending.get id = none then 1 else 0) ∧
      (∀ earlier t e t' id req, server.machine.StepAt events earlier t e t' →
        t.pending.get id = some req → Concludes server t id e →
        t'.settlements id = 1 ∧ s.settlements id = 1) := by
  have consistent := server.consistent_run ran
  have once : ∀ {t : State}, t.book.Consistent server.maxPendingPerClient →
      ∀ {id : String}, t.book.Done id → t.settlements id = 1 := by
    intro t tConsistent id done
    rw [State.settlements_eq_book, tConsistent.settledOnce]
    exact if_pos done
  refine ⟨consistent.counted, consistent.stored, consistent.timed, ?_, ?_, ?_⟩
  · intro id
    rw [State.settlements_eq_book, consistent.settledOnce]
    split <;> omega
  · intro e member id call
    exact server.settlements_of_call ran member call
  · intro earlier t e t' id req step present concludes
    have before := server.consistent_run step.before
    have move := server.book_stepAt step
    have done := move.concluded before present concludes
    refine ⟨once (move.consistent before) done, once consistent ?_⟩
    refine step.persists (P := fun s => s.book.Done id) done ?_ ran
    intro _ _ _ _ reached doneBefore after
    exact (server.book_step (server.consistent_run reached) after).done doneBefore

theorem Sample.exchanged : ∃ s, Sample.server.machine.run (Sample.admission ++
    [Sample.forwardA, .message 0 (Sample.okFrame Sample.requestId)]) = some s := by
  rw [Machine.run_append, Sample.run_admission, Option.bind_some]
  exact Option.isSome_iff_exists.mp (by decide +kernel)

/-- A forward that its daemon answers. -/
theorem pending_bookkeeping_exchange :
    ∃ s, Sample.server.machine.run (Sample.admission ++
        [Sample.forwardA, .message 0 (Sample.okFrame Sample.requestId)]) = some s ∧
      (∀ uuid, (s.pendingByClient.get uuid).getD 0 =
        s.pending.count fun req => req.uuid = uuid) ∧
      ∀ id, s.settlements id ≤ 1 := by
  obtain ⟨s, ran⟩ := Sample.exchanged
  have bookkeeping := pending_bookkeeping Sample.server ran
  exact ⟨s, ran, bookkeeping.1, bookkeeping.2.2.2.1⟩

end DicodeRelay.Relay
