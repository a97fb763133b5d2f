import DicodeRelay.Client.Abandoned
import DicodeRelay.Relay.Pending
import DicodeRelay.Tunnel.Ingress
import DicodeRelay.Tunnel.Link

/-!
Contract: a forward, its request on the socket, the daemon's dispatch and the
response that settles the forward, as one exchange.

Owns:
- that a request goes out on the socket only as the message of a forward, under an
  id of its own;
- that the daemon dispatches every such request at most once, in the order of the
  forwards, also when the attempt is over;
- that a response which settles a forward is what the daemon's one dispatch of
  that forward's request came to.

Does not own: responses that other sockets send.
-/

namespace DicodeRelay.Tunnel

open DicodeRelay.Lib DicodeRelay.Shared

/-! ### What the server asks -/

section Server

variable {server : Relay.RelayServer}

/-- The event forwards the request. -/
def Forwards (request : Request) (e : Relay.Event) : Prop :=
  ∃ uuid method path headers body bufferedAmount,
    e = .forward uuid method path headers body request.id bufferedAmount ∧
      request = forwardedRequest request.id method path headers body

theorem Forwards.callId {request : Request} {e : Relay.Event} (forwards : Forwards request e) :
    e.callId = some request.id := by
  obtain ⟨uuid, method, path, headers, body, bufferedAmount, rfl, _⟩ := forwards
  rfl

/-- What one event makes the server say on a socket. -/
inductive Utters (server : Relay.RelayServer) (ws : Relay.ConnId) (s : Relay.State)
    (e : Relay.Event) : List ServerMessage → Prop where
  | nothing : Utters server ws s e []
  | refusal (error : ErrorMessage) : Utters server ws s e [.error error]
  | welcome {certPoint : Bytes} {hello : Hello}
      (accepted : Relay.HelloAccepted server s e ws certPoint hello) :
      Utters server ws s e
        [.welcome (server.welcome (server.crypto.uuidFromP256Point certPoint))]
  | request {request : Request} (forwards : Forwards request e)
      (fresh : s.issued.get request.id = none) : Utters server ws s e [.request request]

theorem Utters.wellTyped {ws : Relay.ConnId} {s : Relay.State} {e : Relay.Event}
    {messages : List ServerMessage} (utters : Utters server ws s e messages) :
    ∀ message ∈ messages, message.WellTyped := by
  intro message member
  cases utters with
  | nothing => contradiction
  | refusal error =>
      obtain rfl := List.mem_singleton.mp member
      trivial
  | welcome accepted =>
      obtain rfl := List.mem_singleton.mp member
      exact server.welcome_wellTyped _
  | request forwards fresh =>
      obtain rfl := List.mem_singleton.mp member
      trivial

/-- The event adds what it utters to the frames on the socket. -/
def Adds (server : Relay.RelayServer) (ws : Relay.ConnId) (s : Relay.State) (e : Relay.Event)
    (s' : Relay.State) : Prop :=
  ∃ messages, Utters server ws s e messages ∧
    s'.sentOn ws = s.sentOn ws ++ messages.map server.wire.encodeServer

theorem Adds.of_silent {ws : Relay.ConnId} {s s' : Relay.State} {e : Relay.Event}
    (same : s'.sentOn ws = s.sentOn ws) : Adds server ws s e s' :=
  ⟨[], .nothing, by simp [same]⟩

variable (server) in
theorem sentOn_sendServerMessage_cases (s : Relay.State) (other ws : Relay.ConnId)
    (message : ServerMessage) :
    (server.sendServerMessage s other message).sentOn ws = s.sentOn ws ∨
      (other = ws ∧ (server.sendServerMessage s other message).sentOn ws =
        s.sentOn ws ++ [server.wire.encodeServer message]) := by
  unfold Relay.RelayServer.sendServerMessage
  split
  · by_cases same : other = ws
    · exact Or.inr ⟨same, by simp [Relay.State.sentOn, Relay.State.emit, Relay.Effect.sentOn, same]⟩
    · have silent : (Relay.Effect.send other (server.wire.encodeServer message)).sentOn ws =
          none := if_neg same
      exact Or.inl (Relay.State.sentOn_emit s silent)
  · exact Or.inl rfl

/-- Whoever is turned away is told why. -/
theorem adds_refusal {ws : Relay.ConnId} {s t : Relay.State} {e : Relay.Event}
    (same : t.sentOn ws = s.sentOn ws) (other : Relay.ConnId) (text reason : String)
    (code : Option Nat) :
    Adds server ws s e ((server.sendError t other text).closeSocket other code reason) := by
  rcases sentOn_sendServerMessage_cases server t other ws (.error ⟨text⟩) with
    silent | ⟨_, told⟩
  · apply Adds.of_silent
    rw [Relay.State.sentOn_closeSocket]
    exact silent.trans same
  · refine ⟨_, .refusal ⟨text⟩, ?_⟩
    rw [Relay.State.sentOn_closeSocket]
    exact told.trans (by rw [same]; rfl)

/-- An event says at most one thing on a socket: why it is turned away, that it is
welcome, or a request. -/
theorem utters_of_step {s s' : Relay.State} {e : Relay.Event}
    (after : server.step s e = some s') (ws : Relay.ConnId) : Adds server ws s e s' := by
  cases Relay.RelayServer.stepCase_of_step after with
  | connected =>
      unfold Relay.RelayServer.handleConnection
      split
      · apply adds_refusal
        rfl
      · split
        · apply adds_refusal
          rfl
        · exact .of_silent rfl
  | ignored => exact .of_silent rfl
  | turnedAway => exact adds_refusal rfl _ _ _ _
  | @registered other frame certPoint hello _ accepted =>
      have entered := Relay.RelayServer.sentOn_entered server s other ws certPoint hello
      have register := Relay.RelayServer.sentOn_register server s other ws certPoint hello
      rcases sentOn_sendServerMessage_cases server
          (server.entered s other certPoint hello) other ws
          (.welcome (server.welcome (server.crypto.uuidFromP256Point certPoint))) with
        silent | ⟨rfl, told⟩
      · exact .of_silent (register.trans (silent.trans entered))
      · exact ⟨_, .welcome accepted, register.trans (told.trans (by rw [entered]; rfl))⟩
  | answered => exact .of_silent (s.sentOn_handleResponse _ ws)
  | ponged => exact .of_silent (s.sentOn_handlePong _ ws)
  | failedEarly => exact .of_silent (s.sentOn_terminate _ ws)
  | failed =>
      apply Adds.of_silent
      rw [Relay.State.sentOn_cleanup, Relay.State.sentOn_terminate]
  | closedEarly => exact .of_silent (s.sentOn_modifyConn _ _ ws)
  | closed =>
      apply Adds.of_silent
      rw [Relay.State.sentOn_cleanup]
      exact s.sentOn_modifyConn _ _ ws
  | peerClosing => exact .of_silent (s.sentOn_modifyConn _ _ ws)
  | timedOut => exact .of_silent (Relay.State.sentOn_requestTimeout _ _ ws)
  | pinged => exact .of_silent (server.sentOn_pingInterval _ _ ws)
  | pongMissed =>
      apply Adds.of_silent
      rw [Relay.State.pongTimeout, Relay.State.sentOn_cleanup, Relay.State.sentOn_terminate]
      rfl
  | ticked => exact .of_silent rfl
  | @forwarded uuid method path headers body id bufferedAmount fresh =>
      rcases sentOn_forward_cases server (s.issue id uuid) uuid method path headers body id
        bufferedAmount ws with quiet | sent
      · exact .of_silent quiet
      · have forwards : Forwards (forwardedRequest id method path headers body)
            (.forward uuid method path headers body id bufferedAmount) :=
          ⟨uuid, method, path, headers, body, bufferedAmount, rfl, rfl⟩
        exact ⟨_, .request forwards fresh, sent⟩
  | shutDown => exact .of_silent (s.sentOn_close ws)

/-- The requests among the frames sent on a socket. -/
def asked (wire : WireFormat) (s : Relay.State) (ws : Relay.ConnId) : List Request :=
  Client.requestFrames wire (s.sentOn ws)

/-- A step asks for nothing on a socket, or it is a forward under a fresh id and
asks for its request. -/
theorem asked_step (lawful : server.wire.Lawful) {s s' : Relay.State} {e : Relay.Event}
    (after : server.step s e = some s') (ws : Relay.ConnId) :
    asked server.wire s' ws = asked server.wire s ws ∨
      ∃ request, Forwards request e ∧ s.issued.get request.id = none ∧
        asked server.wire s' ws = asked server.wire s ws ++ [request] := by
  obtain ⟨messages, utters, sent⟩ := utters_of_step after ws
  have grown : asked server.wire s' ws =
      asked server.wire s ws ++ messages.filterMap requestOf := by
    rw [asked, sent, Client.requestFrames_append, requestFrames_encoded lawful utters.wellTyped,
      asked]
  cases utters with
  | request forwards fresh => exact Or.inr ⟨_, forwards, fresh, grown⟩
  | _ => exact Or.inl (grown.trans (List.append_nil _))

end Server

namespace Link

variable {link : Link}

/-! ### The two ends of one event -/

theorem server_of_step {s s' : State} {e : Event} (after : link.machine.step s e = some s') :
    s'.server = s.server ∨ ∃ e', link.server.step s.server e' = some s'.server ∧
      (e = .server e' ∨ ∃ frame, e = .toServer ∧ e' = .message link.ws frame ∧
        (s.client.log.filterMap (sentBy link.attempt))[s.received]? = some frame) := by
  cases e with
  | server e =>
      simp only [machine, step, serverStep, Option.ite_none_left_eq_some,
        Option.map_eq_some_iff] at after
      obtain ⟨_, server, stepped, rfl⟩ := after
      exact Or.inr ⟨e, stepped, Or.inl rfl⟩
  | client e =>
      simp only [machine, step, clientStep, Option.ite_none_right_eq_some,
        Option.map_eq_some_iff] at after
      obtain ⟨_, client, _, rfl⟩ := after
      exact Or.inl rfl
  | toClient =>
      simp only [machine, step] at after
      split at after
      · contradiction
      · obtain ⟨client, _, rfl⟩ := Option.map_eq_some_iff.mp after
        exact Or.inl rfl
  | toServer =>
      simp only [machine, step] at after
      split at after
      · contradiction
      · rename_i frame next
        obtain ⟨server, stepped, rfl⟩ := Option.map_eq_some_iff.mp after
        exact Or.inr ⟨.message link.ws frame, stepped, Or.inr ⟨frame, rfl, rfl, next⟩⟩

theorem client_of_step {s s' : State} {e : Event} (after : link.machine.step s e = some s') :
    s'.client = s.client ∨ ∃ e', link.options.step s.client e' = some s'.client ∧
      (e = .client e' ∨ ∃ frame, e' = .socket link.attempt (.message frame)) := by
  cases e with
  | server e =>
      simp only [machine, step, serverStep, Option.ite_none_left_eq_some,
        Option.map_eq_some_iff] at after
      obtain ⟨_, server, _, rfl⟩ := after
      exact Or.inl rfl
  | client e =>
      simp only [machine, step, clientStep, Option.ite_none_right_eq_some,
        Option.map_eq_some_iff] at after
      obtain ⟨_, client, stepped, rfl⟩ := after
      exact Or.inr ⟨e, stepped, Or.inl rfl⟩
  | toClient =>
      simp only [machine, step] at after
      split at after
      · contradiction
      · rename_i frame next
        obtain ⟨client, stepped, rfl⟩ := Option.map_eq_some_iff.mp after
        exact Or.inr ⟨.socket link.attempt (.message frame), stepped, Or.inr ⟨frame, rfl⟩⟩
  | toServer =>
      simp only [machine, step] at after
      split at after
      · contradiction
      · obtain ⟨server, _, rfl⟩ := Option.map_eq_some_iff.mp after
        exact Or.inl rfl

/-! ### Forwards and their requests -/

/-- The requests the server has sent on the link's socket. -/
def requests (link : Link) (s : State) : List Request :=
  asked link.server.wire s.server link.ws

/-- Every request on the socket comes from a forward of the run, and no two have one
id. -/
structure Asked (link : Link) (events : List Event) (s : State) : Prop where
  distinct : ((link.requests s).map Request.id).Nodup
  issued : ∀ request ∈ link.requests s, s.server.issued.get request.id ≠ none
  origin : ∀ request ∈ link.requests s, ∃ e, Event.server e ∈ events ∧ Forwards request e

theorem Asked.extend {events : List Event} {s s' : State} (asked : link.Asked events s) (e : Event)
    (same : link.requests s' = link.requests s)
    (kept : ∀ id, s.server.issued.get id ≠ none → s'.server.issued.get id ≠ none) :
    link.Asked (events ++ [e]) s' where
  distinct := by
    rw [same]
    exact asked.distinct
  issued request member := by
    rw [same] at member
    exact kept _ (asked.issued request member)
  origin request member := by
    rw [same] at member
    obtain ⟨e', inside, forwards⟩ := asked.origin request member
    exact ⟨e', List.mem_append_left _ inside, forwards⟩

theorem asked_run (lawful : link.server.wire.Lawful) {events : List Event} {s : State}
    (ran : link.machine.run events = some s) : link.Asked events s := by
  refine Machine.run_invariant (P := fun events s => link.Asked events s) ?_ ?_ ran
  · have none : link.requests link.machine.init = [] := rfl
    constructor
    · rw [none]
      exact List.nodup_nil
    · intro request member
      rw [none] at member
      contradiction
    · intro request member
      rw [none] at member
      contradiction
  · intro events s e s' before holds after
    rcases server_of_step after with same | ⟨e', stepped, origin⟩
    · exact holds.extend e (by rw [requests, same, requests]) fun id issued => by rwa [same]
    · obtain ⟨_, ranServer⟩ := server_run before
      have move := link.server.book_step (link.server.consistent_run ranServer) stepped
      rcases asked_step lawful stepped link.ws with quiet | ⟨request, forwards, fresh, more⟩
      · exact holds.extend e quiet fun id issued => move.issued issued
      · have grown : link.requests s' = link.requests s ++ [request] := more
        have here : e = .server e' := by
          rcases origin with here | ⟨frame, _, message, _⟩
          · exact here
          · obtain ⟨_, _, _, _, _, _, forward, _⟩ := forwards
            rw [message] at forward
            contradiction
        subst here
        constructor
        · rw [grown, List.map_append, List.map_singleton, List.nodup_append]
          refine ⟨holds.distinct, List.nodup_singleton _, ?_⟩
          intro id old other new
          obtain ⟨earlier, member, rfl⟩ := List.mem_map.mp old
          rw [List.mem_singleton] at new
          rw [new]
          intro same
          exact holds.issued earlier member (same ▸ fresh)
        · intro other member
          rw [grown, List.mem_append, List.mem_singleton] at member
          rcases member with old | rfl
          · exact move.issued (holds.issued other old)
          · exact move.called forwards.callId
        · intro other member
          rw [grown, List.mem_append, List.mem_singleton] at member
          rcases member with old | rfl
          · obtain ⟨e'', inside, from'⟩ := holds.origin other old
            exact ⟨e'', List.mem_append_left _ inside, from'⟩
          · exact ⟨e', by simp, forwards⟩

/-! ### What the daemon dispatches -/

/-- What every event of the daemon keeps, of the frames that reached it and its
state, holds in every run of the link. -/
theorem arrivals_run {P : List String → Client.State → Prop}
    (initial : P [] link.options.machine.init)
    (preserved : ∀ events arrived s e s', link.options.machine.run events = some s →
      Client.Follows link.options.wire link.attempt arrived s → P arrived s →
        link.options.step s e = some s' → P (arrived ++ e.frameOn link.attempt) s')
    {events : List Event} {s : State} (ran : link.machine.run events = some s) :
    P (link.arrived s) s.client := by
  have start : P (link.arrived link.machine.init) link.machine.init.client := initial
  refine Machine.run_invariant (P := fun _ s => P (link.arrived s) s.client) start ?_ ran
  intro events s e s' before holds after
  obtain ⟨_, ranClient⟩ := client_run before
  obtain ⟨follows, bounded⟩ := follows_run before
  cases move_of_step after with
  | server e stepped client delivered =>
      obtain ⟨messages, _, sent⟩ := link.server.sends_step stepped link.ws
      have same : link.arrived s' = link.arrived s := by
        rw [arrived, sent, delivered, List.take_append_of_le_length bounded, arrived]
      rw [same, client]
      exact holds
  | client e stepped noFrame server delivered =>
      have same : link.arrived s' = link.arrived s := by rw [arrived, server, delivered, arrived]
      have next := preserved _ _ _ _ _ ranClient follows holds stepped
      rw [noFrame, List.append_nil] at next
      rw [same]
      exact next
  | toClient frame next stepped server delivered =>
      have grown : link.arrived s' = link.arrived s ++ [frame] := by
        rw [arrived, server, delivered, List.take_add_one, next, arrived]
        rfl
      have here : (Client.Event.socket link.attempt (.message frame)).frameOn link.attempt =
          [frame] := if_pos rfl
      have next' := preserved _ _ _ _ _ ranClient follows holds stepped
      rw [here] at next'
      rw [grown]
      exact next'

/-- Whatever has become of the attempt, it has dispatched the first requests among
the frames that reached it. -/
theorem dispatched_prefix_run {events : List Event} {s : State}
    (ran : link.machine.run events = some s) :
    s.client.dispatchedOn link.attempt <+: link.requests s := by
  have begins : s.client.dispatchedOn link.attempt <+:
      Client.requestFrames link.options.wire (link.arrived s) := by
    refine arrivals_run (P := fun arrived s => s.dispatchedOn link.attempt <+:
      Client.requestFrames link.options.wire arrived) (List.prefix_refl _) ?_ ran
    intro _ arrived s e s' reached follows begins after
    exact Client.dispatched_prefix_step (Client.coherent_run link.options reached)
      (Client.deaf_run link.options reached) follows begins after
  rw [requests, asked, ← link.sameWire]
  apply begins.trans
  rw [arrived]
  exact (List.take_prefix _ _).filterMap _

theorem dispatched_nodup (lawful : link.server.wire.Lawful) {events : List Event} {s : State}
    (ran : link.machine.run events = some s) :
    ((s.client.dispatchedOn link.attempt).map Request.id).Nodup :=
  (asked_run lawful ran).distinct.sublist ((dispatched_prefix_run ran).sublist.map _)

theorem dispatched_origin (lawful : link.server.wire.Lawful) {events : List Event} {s : State}
    (ran : link.machine.run events = some s) {request : Request}
    (member : request ∈ s.client.dispatchedOn link.attempt) :
    ∃ e, Event.server e ∈ events ∧ Forwards request e :=
  (asked_run lawful ran).origin request ((dispatched_prefix_run ran).subset member)

end Link

/-- The daemon dispatches every request at most once, in the order the server sent
them and without leaving one out, whatever becomes of the attempt; and each comes
from a forward of the run, whose method, path, headers and body it has. -/
theorem dispatched_at_most_once (link : Link) (lawful : link.server.wire.Lawful)
    {events : List Event} {s : State} (ran : link.machine.run events = some s) :
    s.client.dispatchedOn link.attempt <+: link.requests s ∧
      ((s.client.dispatchedOn link.attempt).map Request.id).Nodup ∧
      ∀ request ∈ s.client.dispatchedOn link.attempt,
        ∃ e, Event.server e ∈ events ∧ Forwards request e := by
  refine ⟨Link.dispatched_prefix_run ran, Link.dispatched_nodup lawful ran, ?_⟩
  intro request member
  exact Link.dispatched_origin lawful ran member

theorem dispatched_at_most_once_early : ∃ s,
    Sample.link.machine.run Sample.earlyRequest = some s ∧
      (s.client.dispatchedOn 1).map Request.id = [Relay.Sample.requestId] ∧
      s.client.dispatchedOn 1 <+: Sample.link.requests s := by
  obtain ⟨s, ran, facts⟩ := (Option.any_eq_true _ _).mp Sample.served
  obtain ⟨_, _, dispatched⟩ : Sample.Served s := of_decide_eq_true facts
  exact ⟨s, ran, dispatched, (dispatched_at_most_once Sample.link jsonWire_lawful ran).1⟩

/-! ### What the server is told -/

/-- In the run of `events` the dispatch of the request has ended with the answer. -/
def Answered (link : Link) (events : List Event) (request : Request)
    (answer : Client.LocalResponse) : Prop :=
  ∃ before t t' index, link.machine.StepAt events before t
    (.client (.dispatched index (some answer))) t' ∧
      t.client.dispatching[index]? = some (link.attempt, request) ∧ isInt32 answer.status

/-- The daemon has sent the frame for an answer, or it is the hello. -/
def Told (link : Link) (events : List Event) (frame : String) : Prop :=
  frame = Client.helloFrame link.options.crypto link.options.wire link.options.identity ∨
    ∃ request answer, Answered link events request answer ∧
      frame = link.options.wire.encodeClient (.response (Client.responseTo request answer))

theorem Told.extend {link : Link} {events : List Event} {frame : String}
    (told : Told link events frame) (more : List Event) : Told link (events ++ more) frame := by
  refine told.imp_right ?_
  rintro ⟨request, answer, ⟨before, t, t', index, step, entry, typed⟩, equal⟩
  exact ⟨request, answer, ⟨before, t, t', index, step.extend, entry, typed⟩, equal⟩

theorem mem_sentFrames {s : Client.State} {ws : Nat} {frame : String}
    (sent : frame ∈ s.log.filterMap (sentBy ws)) : (ws, frame) ∈ s.sentFrames := by
  obtain ⟨effect, member, put⟩ := List.mem_filterMap.mp sent
  refine List.mem_filterMap.mpr ⟨effect, member, ?_⟩
  cases effect with
  | send other text =>
      simp only [sentBy, Option.ite_none_right_eq_some, Option.some.injEq] at put
      obtain ⟨rfl, rfl⟩ := put
      rfl
  | _ => contradiction

/-- Every frame of the daemon is the hello or carries the answer to a request whose
dispatch has ended. -/
theorem told_run {link : Link} {events : List Event} {s : State}
    (ran : link.machine.run events = some s) {frame : String}
    (sent : (link.attempt, frame) ∈ s.client.sentFrames) : Told link events frame := by
  refine Machine.run_invariant (P := fun events s => ∀ frame,
    (link.attempt, frame) ∈ s.client.sentFrames → Told link events frame) ?_ ?_ ran frame sent
  · intro frame sent
    contradiction
  · intro events s e s' before holds after frame sent
    have old : (link.attempt, frame) ∈ s.client.sentFrames → Told link (events ++ [e]) frame :=
      fun member => (holds frame member).extend [e]
    rcases Link.client_of_step after with same | ⟨e', stepped, origin⟩
    · rw [same] at sent
      exact old sent
    · cases Client.speaks_of_step link.options stepped with
      | mute same =>
          rw [same] at sent
          exact old sent
      | greeting _ _ _ more =>
          rw [more, List.mem_append, List.mem_singleton, Prod.mk.injEq] at sent
          rcases sent with member | ⟨_, new⟩
          · exact old member
          · exact Or.inl new
      | @response index ws request answer ended entry typed _ more =>
          rw [more, List.mem_append, List.mem_singleton, Prod.mk.injEq] at sent
          rcases sent with member | ⟨here, new⟩
          · exact old member
          · have event : e = .client (.dispatched index (some answer)) := by
              rcases origin with own | ⟨_, arrived⟩
              · rw [own, ended]
              · rw [ended] at arrived
                contradiction
            subst event here
            have step := Machine.stepAt_last before after
            exact Or.inr ⟨request, answer, ⟨events, s, s', index, step, entry, typed⟩, new⟩

/-! ### What settles a forward -/

theorem mem_dispatchedOn_iff {s : Client.State} {ws : Nat} {request : Request} :
    request ∈ s.dispatchedOn ws ↔ (ws, request) ∈ s.handedOver := by
  have same : ∀ effect : Client.Effect, effect.dispatchedOn ws = some request ↔
      effect.dispatched = some (ws, request) := by
    intro effect
    cases effect with
    | dispatch other passed => simp [Client.Effect.dispatchedOn, Client.Effect.dispatched]
    | _ => simp [Client.Effect.dispatchedOn, Client.Effect.dispatched]
  simp only [Client.State.dispatchedOn, Client.State.handedOver, List.mem_filterMap, same]

/-- What is being dispatched was handed over. -/
theorem handedOver_of_dispatching {opts : Client.ConnectionOptions}
    {events : List Client.Event} {s : Client.State} (ran : opts.machine.run events = some s) :
    ∀ d ∈ s.dispatching, d ∈ s.handedOver := by
  refine Machine.run_invariant (P := fun _ s => ∀ d ∈ s.dispatching, d ∈ s.handedOver)
    ?_ ?_ ran
  · intro d inside
    contradiction
  · intro _ s e s' _ holds after d inside
    obtain ⟨more, handed, added⟩ := Client.booked_of_step after
    have grown : s'.handedOver = s.handedOver ++ more := handed
    rw [added, List.mem_append] at inside
    rw [grown, List.mem_append]
    refine inside.imp_left fun going => holds d ?_
    cases e with
    | dispatched index answer => exact List.mem_of_mem_eraseIdx going
    | _ => exact going

/-- What was handed over stays so. -/
theorem handedOver_persists {link : Link} {events earlier : List Event} {t t' s : State} {e : Event}
    (step : link.machine.StepAt events earlier t e t') {d : Nat × Request}
    (handed : d ∈ t.client.handedOver) (ran : link.machine.run events = some s) :
    d ∈ s.client.handedOver := by
  have kept : ∀ {s s' : State} {e : Event}, d ∈ s.client.handedOver →
      link.machine.step s e = some s' → d ∈ s'.client.handedOver := by
    intro s s' e inside after
    rcases Link.client_of_step after with same | ⟨e', stepped, _⟩
    · rw [same]
      exact inside
    · obtain ⟨more, grown, _⟩ := Client.booked_of_step stepped
      rw [grown]
      exact List.mem_append_left _ inside
  exact step.persists (P := fun s => d ∈ s.client.handedOver) (kept handed step.after)
    (fun _ _ _ _ _ inside after => kept inside after) ran

/-- The event settles the promise of `id` with the response. -/
def Resolves (s s' : Relay.State) (id : String) (response : ForwardResponse) : Prop :=
  s'.book.settled = s.book.settled ++ [.resolve id response]

instance (s s' : Relay.State) (id : String) (response : ForwardResponse) :
    Decidable (Resolves s s' id response) :=
  inferInstanceAs (Decidable (_ = _))

/-- What resolves a forward is a response frame under its id. -/
theorem response_of_resolves {server : Relay.RelayServer} {s s' : Relay.State}
    (consistent : s.book.Consistent server.maxPendingPerClient) {e : Relay.Event}
    (after : server.step s e = some s') {id : String} {resolved : ForwardResponse}
    (resolves : Resolves s s' id resolved) :
    ∃ ws frame response, e = .message ws frame ∧
      server.wire.decodeClient frame = .envelope (.response response) ∧ response.id = id ∧
        resolved = Relay.flattenResponse response := by
  have settled : ∀ b : Relay.Book, b = s'.book →
      b.settled = s.book.settled ++ [.resolve id resolved] := by
    rintro b rfl
    exact resolves
  have last : ∀ effect, s.book.settled ++ [effect] = s.book.settled ++ [.resolve id resolved] →
      effect = .resolve id resolved :=
    fun effect same => (List.cons.inj (List.append_cancel_left same)).1
  have quiet : s.book.settled ≠ s.book.settled ++ [.resolve id resolved] := by
    intro same
    simpa using congrArg List.length same
  generalize same : s'.book = b at settled
  cases same ▸ server.book_step consistent after with
  | quiet => exact absurd (settled _ rfl) quiet
  | forwarded => exact absurd (settled _ rfl) quiet
  | refused => exact absurd (last _ (settled _ rfl)) (by simp)
  | timedOut => exact absurd (last _ (settled _ rfl)) (by simp)
  | @responded ws frame response req answers present =>
      have equal := last _ (settled _ rfl)
      rw [Relay.Effect.resolve.injEq] at equal
      exact ⟨ws, frame, response, rfl, answers.decoded, equal.1, equal.2.symm⟩
  | closed =>
      have equal := List.append_cancel_left (settled _ rfl)
      have member : Relay.Effect.resolve id resolved ∈
          s.book.pending.entries.map fun entry => .reject entry.1 .serverClosing := by
        rw [equal]
        simp
      obtain ⟨entry, _, absurdity⟩ := List.mem_map.mp member
      contradiction

/-- Of requests with ids of their own, one alone has the id of each. -/
theorem filter_id {requests : List Request} (distinct : (requests.map Request.id).Nodup)
    {request : Request} (member : request ∈ requests) :
    requests.filter (fun other => other.id = request.id) = [request] := by
  induction requests with
  | nil => contradiction
  | cons first rest inductionHypothesis =>
      rw [List.map_cons, List.nodup_cons] at distinct
      rcases List.mem_cons.mp member with rfl | later
      · have none : rest.filter (fun other => other.id = request.id) = [] := by
          rw [List.filter_eq_nil_iff]
          intro other inside same
          exact distinct.1 (List.mem_map.mpr ⟨other, inside, of_decide_eq_true same⟩)
        rw [List.filter_cons_of_pos (by simp), none]
      · have different : first.id ≠ request.id := fun same =>
          distinct.1 (List.mem_map.mpr ⟨request, later, same.symm⟩)
        rw [List.filter_cons_of_neg (by simpa using different)]
        exact inductionHypothesis distinct.2 later

/-- What a frame on the socket resolves a forward with is what the daemon answered
to the forward's own request: the forward was called before, the daemon has
dispatched its request once in the whole run, and the response is what that dispatch
came to. -/
theorem answer_is_of_own_request (link : Link) (lawful : link.server.wire.Lawful)
    {events : List Event} {s : State} (ran : link.machine.run events = some s)
    {earlier : List Event} {t t' : State}
    (step : link.machine.StepAt events earlier t .toServer t') {id : String}
    {response : ForwardResponse} (resolves : Resolves t.server t'.server id response) :
    ∃ before e request answer, request.id = id ∧ Forwards request e ∧
      Event.server e ∈ before ∧ before <+: earlier ∧ Answered link earlier request answer ∧
      response = Relay.flattenResponse (Client.responseTo request answer) ∧
      (s.client.dispatchedOn link.attempt).filter (fun other => other.id = id) = [request] := by
  obtain ⟨_, ranServer⟩ := Link.server_run step.before
  have consistent := link.server.consistent_run ranServer
  rcases Link.server_of_step step.after with same | ⟨e', stepped, origin⟩
  · rw [Resolves, same] at resolves
    simp at resolves
  rcases origin with other | ⟨frame, _, rfl, next⟩
  · contradiction
  obtain ⟨ws, frame', answered, event, decoded, sameId, flat⟩ :=
    response_of_resolves consistent stepped resolves
  cases event
  have sent := mem_sentFrames (List.mem_of_getElem? next)
  rcases told_run step.before sent with hello | ⟨request, answer, given, equal⟩
  · have greets := lawful.decodeClient_encodeClient
      (.hello ⟨link.options.identity.decryptPubkeyB64 link.options.crypto⟩) trivial
    rw [hello, Client.helloFrame, link.sameWire, greets] at decoded
    cases decoded
  · obtain ⟨before, u, u', index, dispatched, entry, typed⟩ := given
    have answers := lawful.decodeClient_encodeClient
      (.response (Client.responseTo request answer)) typed
    rw [equal, link.sameWire, answers] at decoded
    have own : Client.responseTo request answer = answered :=
      ClientMessage.response.inj (Decoded.envelope.inj decoded)
    subst own
    obtain ⟨_, ranClient⟩ := Link.client_run dispatched.before
    have handed := handedOver_of_dispatching ranClient _ (List.mem_of_getElem? entry)
    obtain ⟨e, inside, forwards⟩ :=
      Link.dispatched_origin lawful dispatched.before (mem_dispatchedOn_iff.mpr handed)
    have final := handedOver_persists (step.within dispatched) handed ran
    have distinct := Link.dispatched_nodup lawful ran
    obtain ⟨later, split⟩ := dispatched.split
    refine ⟨before, e, request, answer, sameId, forwards, inside, ⟨_, split.symm⟩,
      ⟨before, u, u', index, dispatched, entry, typed⟩, flat, ?_⟩
    rw [← sameId]
    exact filter_id distinct (mem_dispatchedOn_iff.mpr final)

namespace Sample

/-- The daemon's dispatch of the early request ends. -/
def answeredRequest : List Event :=
  earlyRequest ++ [.client (.dispatched 0 (some ⟨200, .empty, "b2s="⟩))]

theorem resolved : (link.machine.run answeredRequest).any (fun t =>
    (link.machine.step t .toServer).any fun t' => decide
      (Resolves t.server t'.server Relay.Sample.requestId ⟨200, .empty, "b2s="⟩)) = true := by
  decide +kernel

end Sample

theorem answer_is_of_own_request_early : ∃ e request answer,
    request.id = Relay.Sample.requestId ∧ Forwards request e ∧
      Answered Sample.link Sample.answeredRequest request answer ∧
    ⟨200, .empty, "b2s="⟩ = Relay.flattenResponse (Client.responseTo request answer) := by
  obtain ⟨t, before, facts⟩ := (Option.any_eq_true _ _).mp Sample.resolved
  obtain ⟨t', after, resolves⟩ := (Option.any_eq_true _ _).mp facts
  obtain ⟨_, e, request, answer, sameId, forwards, _, _, answered, same, _⟩ :=
    answer_is_of_own_request Sample.link jsonWire_lawful (Machine.run_concat_of before after)
      (Machine.stepAt_last before after) (of_decide_eq_true resolves)
  exact ⟨e, request, answer, sameId, forwards, answered, same⟩

end DicodeRelay.Tunnel
