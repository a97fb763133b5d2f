import DicodeRelay.Relay.Announcements
import DicodeRelay.Relay.Pending

/-!
Contract: what an entry of `pending` stands for.

Owns:
- request frames that were handed to an open socket;
- which events end a registration;
- that the entries stand for live work exactly in the runs where no forward meets
  a socket that is not open and no registration ends with forwards outstanding.

Does not own: counts and timers of the entries.
-/

namespace DicodeRelay.Relay

open DicodeRelay.Lib DicodeRelay.Shared

/-- The request of a `forward` call. -/
def requestOf (id method path : String) (headers : Headers) (body : Bytes) : Request where
  id := id
  method := method
  path := path
  headers := headers.mapValues HeaderValues.mk
  body := base64Encode body

/-- A `forward` call for the uuid handed its request frame to the socket, which
was open. -/
def Handed (server : RelayServer) (events : List Event) (id uuid : String) (ws : ConnId) : Prop :=
  ∃ earlier t t' method path headers body bufferedAmount,
    server.machine.StepAt events earlier t
      (.forward uuid method path headers body id bufferedAmount) t' ∧
    t.readyState ws = .opened ∧
    t'.log = t.log ++ [.send ws (server.wire.encodeServer
      (.request (requestOf id method path headers body)))]

/-- Every pending entry stands for a request frame that was handed to the socket
that is still registered under its uuid. -/
def LiveWork (server : RelayServer) (events : List Event) (s : State) : Prop :=
  ∀ id req, s.pending.get id = some req →
    ∃ client, s.clients.get req.uuid = some client ∧ Handed server events id req.uuid client.ws

/-- The registered connection of the uuid is closed or replaced. -/
def Ends (server : RelayServer) (s : State) (e : Event) (uuid : String) : Prop :=
  ∃ client, s.clients.get uuid = some client ∧
    (Departs s client.ws e ∨ ∃ ws certPoint hello, HelloAccepted server s e ws certPoint hello ∧
      server.crypto.uuidFromP256Point certPoint = uuid)

/-- The cap counts only live work: in every state of the run the pending entries
stand for it, a forward to a socket that is not open rejects at once, all
forwards to a connection are settled when it ends, and who registers has none. -/
structure CountsLiveWork (server : RelayServer) (events : List Event) : Prop where
  live : ∀ earlier s, earlier <+: events → server.machine.run earlier = some s →
    LiveWork server earlier s
  rejects : ∀ earlier s s' uuid method path headers body id bufferedAmount client,
    server.machine.StepAt events earlier s
      (.forward uuid method path headers body id bufferedAmount) s' →
    s.clients.get uuid = some client → s.readyState client.ws ≠ .opened →
    ∃ error, s'.log = s.log ++ [.reject id error]
  settled : ∀ earlier s e s' uuid, server.machine.StepAt events earlier s e s' →
    Ends server s e uuid → ∀ id req, s.pending.get id = some req → req.uuid = uuid →
      s'.pending.get id = none
  idle : ∀ earlier s e s' ws certPoint hello, server.machine.StepAt events earlier s e s' →
    HelloAccepted server s e ws certPoint hello → ∀ id req, s'.pending.get id = some req →
      req.uuid ≠ server.crypto.uuidFromP256Point certPoint

/-- A forward that nothing else rejects finds the socket open, and a connection
that ends has no forwards outstanding. -/
structure LeavesNoneBehind (server : RelayServer) (s : State) (e : Event) : Prop where
  opened : ∀ uuid method path headers body id bufferedAmount client,
    e = .forward uuid method path headers body id bufferedAmount →
    s.clients.get uuid = some client → bufferedAmount ≤ server.maxBufferedBytes →
    (s.pendingByClient.get uuid).getD 0 < server.maxPendingPerClient →
    s.readyState client.ws = .opened
  none : ∀ uuid, Ends server s e uuid → ∀ id req, s.pending.get id = some req → req.uuid ≠ uuid

/-! ### One forward -/

/-- A forward that passes every check leaves an entry and goes to its socket. -/
theorem RelayServer.forward_of_room (server : RelayServer) {s : State} {uuid : String}
    {client : ConnectedClient} {bufferedAmount : Nat} (present : s.clients.get uuid = some client)
    (unsaturated : bufferedAmount ≤ server.maxBufferedBytes)
    (room : (s.pendingByClient.get uuid).getD 0 < server.maxPendingPerClient)
    (method path : String) (headers : Headers) (body : Bytes) (id : String) :
    server.forward (s.issue id uuid) uuid method path headers body id bufferedAmount =
      server.sendServerMessage (((s.issue id uuid).startRequestTimer server.requestTimeoutMs
        id).addPending id ⟨uuid, s.requestTimers.next⟩) client.ws
        (.request (requestOf id method path headers body)) := by
  have found : (s.issue id uuid).getClient uuid = .ok client := by
    rw [State.getClient, show (s.issue id uuid).clients = s.clients from rfl, present]
  have sameCount : (s.issue id uuid).pendingByClient = s.pendingByClient := rfl
  unfold forward
  rw [found, sameCount]
  simp only [if_neg (Nat.not_lt.mpr unsaturated), if_neg (Nat.not_le.mpr room)]
  rfl

theorem RelayServer.forward_cases (server : RelayServer) (s : State) (uuid method path : String)
    (headers : Headers) (body : Bytes) (id : String) (bufferedAmount : Nat) :
    (∃ error, server.forward (s.issue id uuid) uuid method path headers body id bufferedAmount =
      (s.issue id uuid).emit (.reject id error)) ∨
    ∃ client, s.clients.get uuid = some client ∧ bufferedAmount ≤ server.maxBufferedBytes ∧
      (s.pendingByClient.get uuid).getD 0 < server.maxPendingPerClient := by
  have sameClients : (s.issue id uuid).getClient uuid = s.getClient uuid := rfl
  have sameCount : (s.issue id uuid).pendingByClient = s.pendingByClient := rfl
  unfold forward
  rw [sameClients, sameCount]
  unfold State.getClient
  cases present : s.clients.get uuid with
  | none => exact Or.inl ⟨_, rfl⟩
  | some client =>
      by_cases saturated : bufferedAmount > server.maxBufferedBytes
      · exact Or.inl ⟨.backpressure uuid, if_pos saturated⟩
      · by_cases full : (s.pendingByClient.get uuid).getD 0 ≥ server.maxPendingPerClient
        · refine Or.inl ⟨.pendingCapExceeded uuid, ?_⟩
          simp only [if_neg saturated, if_pos full]
        · exact Or.inr ⟨client, rfl, by omega, by omega⟩

/-- A forward that passes every check and finds the socket open puts its request there. -/
theorem forward_of_opened {server : RelayServer} {s : State} {uuid : String}
    {client : ConnectedClient} {bufferedAmount : Nat} (present : s.clients.get uuid = some client)
    (unsaturated : bufferedAmount ≤ server.maxBufferedBytes)
    (room : (s.pendingByClient.get uuid).getD 0 < server.maxPendingPerClient)
    (opened : s.readyState client.ws = .opened) (method path : String) (headers : Headers)
    (body : Bytes) (id : String) :
    server.forward (s.issue id uuid) uuid method path headers body id bufferedAmount =
      (((s.issue id uuid).startRequestTimer server.requestTimeoutMs id).addPending id
        ⟨uuid, s.requestTimers.next⟩).emit (.send client.ws (server.wire.encodeServer
          (.request (requestOf id method path headers body)))) := by
  have stillOpen : (((s.issue id uuid).startRequestTimer server.requestTimeoutMs id).addPending id
      ⟨uuid, s.requestTimers.next⟩).readyState client.ws = .opened := opened
  rw [server.forward_of_room present unsaturated room, RelayServer.sendServerMessage,
    if_pos stillOpen]

theorem RelayServer.step_forward {server : RelayServer} {s s' : State} {uuid method path : String}
    {headers : Headers} {body : Bytes} {id : String} {bufferedAmount : Nat}
    (after : server.step s (.forward uuid method path headers body id bufferedAmount) = some s') :
    s' = server.forward (s.issue id uuid) uuid method path headers body id bufferedAmount := by
  simp only [step, Option.ite_none_right_eq_some, Option.some.injEq] at after
  exact after.2.symm

/-! ### One event -/

/-- A registration stays unless it ends. -/
theorem RelayServer.client_stays {server : RelayServer} {s s' : State} {e : Event}
    (after : server.step s e = some s') (running : e ≠ .close) {uuid : String}
    {client : ConnectedClient} (present : s.clients.get uuid = some client)
    (stays : ¬ Ends server s e uuid) : s'.clients.get uuid = some client := by
  cases server.rosterMove_of_step after with
  | backstage behind => rw [behind.clients, present]
  | @joined _ _ ws certPoint hello accepted joined =>
      rw [joined.clients, if_neg, present]
      intro same
      exact stays ⟨client, present, Or.inr ⟨ws, certPoint, hello, accepted, same⟩⟩
  | cleaned behind cleaned departs =>
      cases cleaned with
      | backstage more => rw [more.clients, behind.clients, present]
      | @left gone own presentOwn ofSocket clients =>
          rw [behind.clients] at presentOwn clients
          rw [clients, OrderedMap.get_delete_of_ne, present]
          rintro rfl
          rw [present] at presentOwn
          obtain rfl := Option.some.inj presentOwn
          exact stays ⟨client, present, Or.inl (ofSocket ▸ departs)⟩
  | shutDown => contradiction

/-- A pending entry is an old one, or the event is its forward. -/
theorem RelayServer.pending_step {server : RelayServer} {s s' : State} {e : Event}
    (consistent : s.book.Consistent server.maxPendingPerClient)
    (after : server.step s e = some s') {id : String} {req : PendingRequest}
    (pending : s'.pending.get id = some req) :
    s.pending.get id = some req ∨ e.callId = some id := by
  have move := server.book_step consistent after
  have pendingBook : s'.book.pending.get id = some req := pending
  generalize s'.book = book at move pendingBook
  cases move with
  | quiet | refused => exact Or.inl pendingBook
  | @forwarded _ _ _ _ _ issued =>
      rw [Book.forwarded, OrderedMap.get_set] at pendingBook
      split at pendingBook
      · rename_i same
        exact Or.inr (congrArg some same)
      · exact Or.inl pendingBook
  | responded | timedOut =>
      rw [Book.settle, OrderedMap.get_delete] at pendingBook
      split at pendingBook
      · contradiction
      · exact Or.inl pendingBook
  | closed => contradiction

/-- The end of a connection settles nothing. -/
theorem Ends.pending {server : RelayServer} {s s' : State} {e : Event} {uuid : String}
    (ends : Ends server s e uuid) (consistent : s.book.Consistent server.maxPendingPerClient)
    (after : server.step s e = some s') : s'.pending = s.pending := by
  have move := server.book_step consistent after
  have same : s'.pending = s'.book.pending := rfl
  rw [same]
  generalize s'.book = book at move
  obtain ⟨client, _, departs | ⟨ws, certPoint, hello, accepted, _⟩⟩ := ends
  · cases departs <;> cases move <;> rfl
  · obtain ⟨frame, rfl, decoded⟩ := accepted.delivered
    cases move with
    | quiet => rfl
    | responded answers =>
        rw [answers.decoded] at decoded
        cases decoded

theorem Ends.not_forward {server : RelayServer} {s : State} {uuid method path : String}
    {headers : Headers} {body : Bytes} {id : String} {bufferedAmount : Nat} {other : String} :
    ¬ Ends server s (.forward uuid method path headers body id bufferedAmount) other := by
  rintro ⟨client, _, departs | ⟨ws, certPoint, hello, accepted, _⟩⟩
  · cases departs
  · exact HelloAccepted.not_of_no_message (by simp) ws certPoint hello accepted

theorem Handed.extend {server : RelayServer} {events : List Event} {id uuid : String}
    {ws : ConnId} (handed : Handed server events id uuid ws) (more : List Event) :
    Handed server (events ++ more) id uuid ws := by
  obtain ⟨earlier, t, t', method, path, headers, body, bufferedAmount, step, rest⟩ := handed
  exact ⟨earlier, t, t', method, path, headers, body, bufferedAmount, step.extend, rest⟩

/-- A forward that passes every check and finds the socket open. -/
theorem RelayServer.handed_of_opened {server : RelayServer} {events : List Event} {s s' : State}
    {uuid method path : String} {headers : Headers} {body : Bytes} {id : String}
    {bufferedAmount : Nat} {client : ConnectedClient}
    (before : server.machine.run events = some s) (present : s.clients.get uuid = some client)
    (unsaturated : bufferedAmount ≤ server.maxBufferedBytes)
    (room : (s.pendingByClient.get uuid).getD 0 < server.maxPendingPerClient)
    (opened : s.readyState client.ws = .opened)
    (after : server.step s (.forward uuid method path headers body id bufferedAmount) = some s') :
    Handed server (events ++ [.forward uuid method path headers body id bufferedAmount]) id uuid
      client.ws := by
  refine ⟨events, s, s', method, path, headers, body, bufferedAmount,
    Machine.stepAt_last before after, opened, ?_⟩
  have stillOpen : (((s.issue id uuid).startRequestTimer server.requestTimeoutMs id).addPending id
      ⟨uuid, s.requestTimers.next⟩).readyState client.ws = .opened := opened
  rw [step_forward after, server.forward_of_room present unsaturated room, sendServerMessage,
    if_pos stillOpen]
  rfl

theorem LiveWork.step {server : RelayServer} {events : List Event} {s s' : State} {e : Event}
    (live : LiveWork server events s) (before : server.machine.run events = some s)
    (condition : LeavesNoneBehind server s e) (after : server.step s e = some s') :
    LiveWork server (events ++ [e]) s' := by
  intro id req pending
  by_cases closes : e = .close
  · subst closes
    obtain rfl := Option.some.inj after
    have emptied : s.close.book.pending.get id = some req := pending
    rw [s.book_close] at emptied
    contradiction
  by_cases old : s.pending.get id = some req
  · obtain ⟨client, present, handed⟩ := live id req old
    have stays := RelayServer.client_stays after closes present
      fun ends => condition.none _ ends id req old rfl
    exact ⟨client, stays, handed.extend [e]⟩
  · have called :=
      (RelayServer.pending_step (server.consistent_run before) after pending).resolve_left old
    cases e with
    | forward uuid method path headers body called bufferedAmount =>
        cases called
        rcases server.forward_cases s uuid method path headers body id bufferedAmount with
          ⟨error, rejected⟩ | ⟨client, present, unsaturated, room⟩
        · rw [RelayServer.step_forward after, rejected] at pending
          exact absurd pending old
        · have opened := condition.opened _ _ _ _ _ _ _ client rfl present unsaturated room
          have stays := RelayServer.client_stays after closes present Ends.not_forward
          have stored : s'.book.pending.get id = some ⟨uuid, s.requestTimers.next⟩ := by
            rw [RelayServer.step_forward after, server.forward_of_room present unsaturated room,
              RelayServer.book_sendServerMessage]
            exact OrderedMap.get_set_self _ _ _
          obtain rfl := Option.some.inj (stored.symm.trans pending)
          exact ⟨client, stays,
            RelayServer.handed_of_opened before present unsaturated room opened after⟩
    | _ => contradiction

/-! ### Every run -/

theorem RelayServer.liveWork_run {server : RelayServer} {events : List Event} {s : State}
    (ran : server.machine.run events = some s)
    (meets : server.machine.Meets (LeavesNoneBehind server) events) :
    LiveWork server events s := by
  refine Machine.run_invariant_of_meets (P := LiveWork server) ?_ ?_ ran meets
  · intro id req pending
    contradiction
  · intro events s e s' before live condition after
    exact live.step before condition after

/-- A forward to a socket that is not open is rejected at once, if the run
leaves no forwards behind. -/
theorem LeavesNoneBehind.rejects {server : RelayServer} {s s' : State}
    {uuid method path : String} {headers : Headers} {body : Bytes} {id : String}
    {bufferedAmount : Nat} {client : ConnectedClient}
    (condition : LeavesNoneBehind server s
      (.forward uuid method path headers body id bufferedAmount))
    (after : server.step s (.forward uuid method path headers body id bufferedAmount) = some s')
    (present : s.clients.get uuid = some client) (notOpen : s.readyState client.ws ≠ .opened) :
    ∃ error, s'.log = s.log ++ [.reject id error] := by
  rcases server.forward_cases s uuid method path headers body id bufferedAmount with
    ⟨error, rejected⟩ | ⟨other, presentOther, unsaturated, room⟩
  · rw [RelayServer.step_forward after, rejected]
    exact ⟨error, rfl⟩
  · exact absurd (condition.opened _ _ _ _ _ _ _ client rfl present unsaturated room) notOpen

/-- Who registers has no forwards outstanding: its previous connection left
none, and without one there are none. -/
theorem LiveWork.idle {server : RelayServer} {events : List Event} {s s' : State} {e : Event}
    (live : LiveWork server events s) (before : server.machine.run events = some s)
    (condition : LeavesNoneBehind server s e) (after : server.step s e = some s') {ws : ConnId}
    {certPoint : Bytes} {hello : Hello}
    (accepted : HelloAccepted server s e ws certPoint hello) {id : String} {req : PendingRequest}
    (pending : s'.pending.get id = some req) :
    req.uuid ≠ server.crypto.uuidFromP256Point certPoint := by
  intro same
  rcases RelayServer.pending_step (server.consistent_run before) after pending with old | called
  · obtain ⟨client, present, _⟩ := live id req old
    exact condition.none req.uuid ⟨client, present,
      Or.inr ⟨ws, certPoint, hello, accepted, same.symm⟩⟩ id req old rfl
  · obtain ⟨frame, rfl, _⟩ := accepted.delivered
    contradiction

/-- The pending entries of a run count only live work exactly when no step of it
leaves forwards behind. -/
theorem counts_live_work_iff (server : RelayServer) (events : List Event) :
    CountsLiveWork server events ↔ server.machine.Meets (LeavesNoneBehind server) events := by
  constructor
  · intro counts earlier s e s' step
    have consistent := server.consistent_run step.before
    refine ⟨?_, ?_⟩
    · rintro uuid method path headers body id bufferedAmount client rfl present unsaturated room
      by_contra notOpen
      obtain ⟨error, rejected⟩ := counts.rejects _ _ _ _ _ _ _ _ _ _ client step present notOpen
      have stillNotOpen : (((s.issue id uuid).startRequestTimer server.requestTimeoutMs
          id).addPending id ⟨uuid, s.requestTimers.next⟩).readyState client.ws ≠ .opened := notOpen
      rw [RelayServer.step_forward step.after, server.forward_of_room present unsaturated room,
        RelayServer.sendServerMessage, if_neg stillNotOpen] at rejected
      exact List.cons_ne_nil _ _ (List.append_right_eq_self.mp rejected.symm)
    · rintro uuid ends id req pending rfl
      have settled := counts.settled _ _ _ _ _ step ends id req pending rfl
      rw [ends.pending consistent step.after, pending] at settled
      contradiction
  · intro meets
    have within : ∀ {earlier s e s'}, server.machine.StepAt events earlier s e s' →
        LiveWork server earlier s := by
      intro earlier s e s' step
      apply RelayServer.liveWork_run step.before
      obtain ⟨later, rfl⟩ := step.split
      exact meets.of_append
    refine ⟨?_, ?_, ?_, ?_⟩
    · rintro earlier s ⟨later, rfl⟩ ran
      exact RelayServer.liveWork_run ran meets.of_append
    · intro earlier s s' uuid method path headers body id bufferedAmount client step present notOpen
      exact (meets _ _ _ _ step).rejects step.after present notOpen
    · intro earlier s e s' uuid step ends id req pending same
      exact absurd same ((meets _ _ _ _ step).none uuid ends id req pending)
    · intro earlier s e s' ws certPoint hello step accepted id req pending
      exact (within step).idle step.before (meets _ _ _ _ step) step.after accepted pending

theorem CountsLiveWork.not_of_orphan {server : RelayServer} {events : List Event} {s : State}
    (ran : server.machine.run events = some s) {id : String} {req : PendingRequest}
    (pending : s.pending.get id = some req) (gone : s.hasClient req.uuid = false) :
    ¬ CountsLiveWork server events := by
  intro counts
  obtain ⟨client, present, _⟩ := counts.live events s List.prefix_rfl ran id req pending
  rw [State.hasClient, OrderedMap.has, present] at gone
  contradiction

/-- Daemon A disconnects while a forward to it is pending. -/
def Sample.orphaned : List Event :=
  Sample.admission ++ [Sample.forwardA, .wsClose 0]

/-- The entry outlives the connection it was sent on. -/
theorem orphan_counts :
    (Sample.server.machine.run Sample.orphaned).isSome = true ∧
      ¬ CountsLiveWork Sample.server Sample.orphaned := by
  obtain ⟨s, ran, orphan⟩ := (Option.any_eq_true _ _).mp (show
    (Sample.server.machine.run Sample.orphaned).any (fun s =>
      (s.pending.get Sample.requestId).any fun req => !s.hasClient req.uuid) = true by
    rw [Sample.orphaned, Machine.run_append, Sample.run_admission, Option.bind_some]
    decide +kernel)
  obtain ⟨req, pending, gone⟩ := (Option.any_eq_true _ _).mp orphan
  exact ⟨by rw [ran]; rfl, CountsLiveWork.not_of_orphan ran pending (by simpa using gone)⟩

end DicodeRelay.Relay
