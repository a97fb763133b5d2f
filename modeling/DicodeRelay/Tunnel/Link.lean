import DicodeRelay.Client.Arrivals
import DicodeRelay.Relay.Sends

/-!
Contract: one connection of the relay server, one attempt of a daemon, and the
reliable FIFO socket between them.

Owns:
- the two machines side by side, each reading what the other has sent on the
  socket, in order;
- that the frames on their way are the server's messages, and what has become of
  them on the daemon's side;
- that a serving daemon has dispatched every request that crossed the socket,
  once and in order.

Does not own: how a request is answered.
-/

namespace DicodeRelay.Tunnel

open DicodeRelay.Lib DicodeRelay.Shared

/-- The frame a client effect puts on the wire of the socket. -/
def sentBy (ws : Nat) : Client.Effect → Option String
  | .send other frame => if other = ws then some frame else none
  | _ => none

/-- A relay server and a daemon with the two ends of one socket. -/
structure Link where
  server : Relay.RelayServer
  options : Client.ConnectionOptions
  /-- The server's end. -/
  ws : Relay.ConnId
  /-- The daemon's end, which is the number of its attempt. -/
  attempt : Nat
  sameWire : options.wire = server.wire

structure State where
  server : Relay.State
  client : Client.State
  /-- How many of the server's frames have reached the daemon. -/
  delivered : Nat
  /-- How many of the daemon's frames have reached the server. -/
  received : Nat

inductive Event where
  /-- Anything that happens to the server but a frame on the socket. -/
  | server (e : Relay.Event)
  /-- Anything that happens to the daemon but a frame on the socket. -/
  | client (e : Client.Event)
  /-- The next of the server's frames reaches the daemon. -/
  | toClient
  /-- The next of the daemon's frames reaches the server. -/
  | toServer

/-- The event delivers a frame on the socket. -/
def isMessageOn (ws : Relay.ConnId) : Relay.Event → Bool
  | .message other _ => other = ws
  | _ => false

namespace Link

variable (link : Link)

def serverStep (s : State) (e : Relay.Event) : Option State :=
  (link.server.step s.server e).map fun server => { s with server }

def clientStep (s : State) (e : Client.Event) : Option State :=
  (link.options.step s.client e).map fun client => { s with client }

def step (s : State) : Event → Option State
  | .server e => if isMessageOn link.ws e then none else link.serverStep s e
  | .client e => if e.frameOn link.attempt = [] then link.clientStep s e else none
  | .toClient =>
      match (s.server.sentOn link.ws)[s.delivered]? with
      | none => none
      | some frame =>
          link.clientStep { s with delivered := s.delivered + 1 }
            (.socket link.attempt (.message frame))
  | .toServer =>
      match (s.client.log.filterMap (sentBy link.attempt))[s.received]? with
      | none => none
      | some frame =>
          link.serverStep { s with received := s.received + 1 } (.message link.ws frame)

/-- The runs of the two machines. -/
def machine : Machine State Event where
  init := ⟨Relay.State.init, Client.State.init link.options, 0, 0⟩
  step := link.step

/-- What one event does: to the server, to the daemon, or to the daemon with the
server's next frame. -/
inductive Move (s s' : State) : Prop where
  | server (e : Relay.Event) (stepped : link.server.step s.server e = some s'.server)
      (client : s'.client = s.client) (delivered : s'.delivered = s.delivered)
  | client (e : Client.Event) (stepped : link.options.step s.client e = some s'.client)
      (noFrame : e.frameOn link.attempt = []) (server : s'.server = s.server)
      (delivered : s'.delivered = s.delivered)
  | toClient (frame : String) (next : (s.server.sentOn link.ws)[s.delivered]? = some frame)
      (stepped : link.options.step s.client (.socket link.attempt (.message frame)) =
        some s'.client)
      (server : s'.server = s.server) (delivered : s'.delivered = s.delivered + 1)

variable {link}

theorem move_of_step {s s' : State} {e : Event} (after : link.machine.step s e = some s') :
    link.Move s s' := by
  cases e with
  | server e =>
      simp only [machine, step, serverStep, Option.ite_none_left_eq_some,
        Option.map_eq_some_iff] at after
      obtain ⟨_, server, stepped, rfl⟩ := after
      exact .server e stepped rfl rfl
  | client e =>
      simp only [machine, step, clientStep, Option.ite_none_right_eq_some,
        Option.map_eq_some_iff] at after
      obtain ⟨noFrame, client, stepped, rfl⟩ := after
      exact .client e stepped noFrame rfl rfl
  | toClient =>
      simp only [machine, step] at after
      split at after
      · contradiction
      · rename_i frame next
        obtain ⟨client, stepped, rfl⟩ := Option.map_eq_some_iff.mp after
        exact .toClient frame next stepped rfl rfl
  | toServer =>
      simp only [machine, step] at after
      split at after
      · contradiction
      · rename_i frame next
        obtain ⟨server, stepped, rfl⟩ := Option.map_eq_some_iff.mp after
        exact .server (.message link.ws frame) stepped rfl rfl

/-! ### The two ends -/

theorem server_run {events : List Event} {s : State} (ran : link.machine.run events = some s) :
    ∃ events', link.server.machine.run events' = some s.server := by
  refine Machine.run_project link.server.machine State.server rfl ?_ ran
  intro s e s' after
  cases move_of_step after with
  | server e stepped => exact Or.inr ⟨e, stepped⟩
  | client e stepped noFrame server => exact Or.inl server
  | toClient frame next stepped server => exact Or.inl server

theorem client_run {events : List Event} {s : State} (ran : link.machine.run events = some s) :
    ∃ events', link.options.machine.run events' = some s.client := by
  refine Machine.run_project link.options.machine State.client rfl ?_ ran
  intro s e s' after
  cases move_of_step after with
  | server e stepped client => exact Or.inl client
  | client e stepped => exact Or.inr ⟨e, stepped⟩
  | toClient frame next stepped =>
      exact Or.inr ⟨.socket link.attempt (.message frame), stepped⟩

/-- The frames that reached the daemon. -/
def arrived (link : Link) (s : State) : List String :=
  (s.server.sentOn link.ws).take s.delivered

/-- The daemon has handled the frames that reached it, and they are the first
ones the server sent. -/
theorem follows_run {events : List Event} {s : State} (ran : link.machine.run events = some s) :
    Client.Follows link.options.wire link.attempt (link.arrived s) s.client ∧
      s.delivered ≤ (s.server.sentOn link.ws).length := by
  refine Machine.run_invariant (P := fun _ s =>
    Client.Follows link.options.wire link.attempt (link.arrived s) s.client ∧
      s.delivered ≤ (s.server.sentOn link.ws).length)
    ⟨?_, Nat.zero_le _⟩ ?_ ran
  · exact Client.follows_init link.options link.attempt
  rintro events s e s' before ⟨follows, bounded⟩ after
  obtain ⟨_, ranClient⟩ := client_run before
  have coherent := Client.coherent_run link.options ranClient
  cases move_of_step after with
  | server e stepped client delivered =>
      obtain ⟨messages, _, sent⟩ := link.server.sends_step stepped link.ws
      have same : link.arrived s' = link.arrived s := by
        rw [arrived, sent, delivered, List.take_append_of_le_length bounded, arrived]
      refine ⟨by rw [same, client]; exact follows, ?_⟩
      rw [sent, delivered, List.length_append]
      omega
  | client e stepped noFrame server delivered =>
      have same : link.arrived s' = link.arrived s := by rw [arrived, server, delivered, arrived]
      have next := Client.follows_step coherent follows stepped
      rw [noFrame, List.append_nil, ← same] at next
      exact ⟨next, by rw [server, delivered]; exact bounded⟩
  | toClient frame next stepped server delivered =>
      have grown : link.arrived s' = link.arrived s ++ [frame] := by
        rw [arrived, server, delivered, List.take_add_one, next, arrived]
        rfl
      have here : (Client.Event.socket link.attempt (.message frame)).frameOn link.attempt =
          [frame] := if_pos rfl
      have follows' := Client.follows_step coherent follows stepped
      rw [here, ← grown] at follows'
      obtain ⟨inRange, _⟩ := List.getElem?_eq_some_iff.mp next
      exact ⟨follows', by rw [server, delivered]; exact inRange⟩

end Link

/-! ### Nothing is lost -/

/-- The request a message carries. -/
def requestOf : ServerMessage → Option Request
  | .request request => some request
  | _ => none

theorem requestFrames_encoded {wire : WireFormat} (lawful : wire.Lawful)
    {messages : List ServerMessage} (typed : ∀ message ∈ messages, message.WellTyped) :
    Client.requestFrames wire (messages.map wire.encodeServer) = messages.filterMap requestOf := by
  rw [Client.requestFrames, List.filterMap_map]
  refine List.filterMap_congr fun message member => ?_
  simp only [Function.comp_apply, lawful.decodeServer_encodeServer message (typed message member)]
  cases message <;> rfl

/-- On the link's socket the server accepts a hello. -/
def AcceptsHello (link : Link) (s : State) (e : Event) (certPoint : Bytes) (hello : Hello) : Prop :=
  ∃ frame, e = .toServer ∧
    (s.client.log.filterMap (sentBy link.attempt))[s.received]? = some frame ∧
    Relay.HelloAccepted link.server s.server (.message link.ws frame) link.ws certPoint hello

/-- The server's answer to an accepted hello is the welcome. A daemon that serves
has read it as the first frame, and has dispatched the requests among the frames
that reached it, each once and in the order sent; before that, all frames that
reached it wait in its adapter. -/
theorem no_frame_lost (link : Link) (lawful : link.server.wire.Lawful) {events : List Event}
    {s : State} (ran : link.machine.run events = some s) :
    (∀ earlier t e t' certPoint hello, link.machine.StepAt events earlier t e t' →
      AcceptsHello link t e certPoint hello → t.server.readyState link.ws = .opened →
        t'.server.sentOn link.ws = t.server.sentOn link.ws ++ [link.server.wire.encodeServer
          (.welcome (link.server.welcome (link.server.crypto.uuidFromP256Point certPoint)))]) ∧
    (s.client.attempt = link.attempt → s.client.phase = .serving →
      ∃ welcome messages,
        s.server.sentOn link.ws =
          (ServerMessage.welcome welcome :: messages).map link.server.wire.encodeServer ∧
        s.client.dispatchedOn link.attempt =
          (messages.take (s.delivered - 1)).filterMap requestOf) ∧
    (s.client.attempt = link.attempt → s.client.phase.adapted = true →
      s.client.dispatchedOn link.attempt = [] ∧
      ∃ socket, s.client.sockets.get link.attempt = some socket ∧
        socket.adapter.arrived = (s.server.sentOn link.ws).take s.delivered) := by
  obtain ⟨follows, bounded⟩ := Link.follows_run ran
  refine ⟨?_, ?_, ?_⟩
  · rintro earlier t e t' certPoint hello step ⟨frame, rfl, next, accepted⟩ opened
    obtain ⟨_, ranServer⟩ := Link.server_run step.before
    have after := step.after
    simp only [Link.machine, Link.step, next, Link.serverStep, Option.map_eq_some_iff] at after
    obtain ⟨server, stepped, rfl⟩ := after
    exact link.server.welcome_of_accepted ranServer stepped accepted opened
  · intro current serving
    obtain ⟨raw, rest, split, ⟨welcome, decoded⟩, dispatched⟩ := follows.serving current serving
    obtain ⟨_, ranServer⟩ := Link.server_run ran
    obtain ⟨messages, typed, encoded⟩ := link.server.encoded_run ranServer link.ws
    rw [link.sameWire] at decoded dispatched
    rw [Link.arrived, encoded, ← List.map_take] at split
    cases messages with
    | nil => simp at split
    | cons first messages =>
        obtain ⟨count, counted⟩ : ∃ count, s.delivered = count + 1 := by
          cases delivered : s.delivered with
          | zero => simp [delivered] at split
          | succ count => exact ⟨count, rfl⟩
        rw [counted, List.take_succ_cons, List.map_cons, List.cons.injEq] at split
        obtain ⟨rfl, rfl⟩ := split
        rw [lawful.decodeServer_encodeServer first (typed first (by simp))] at decoded
        obtain rfl := Decoded.envelope.inj decoded
        refine ⟨welcome, messages, encoded, ?_⟩
        rw [dispatched, counted, Nat.add_sub_cancel, requestFrames_encoded lawful]
        intro message member
        exact typed message (List.mem_cons_of_mem _ (List.mem_of_mem_take member))
  · intro current adapted
    have awaited : s.client.phase.listeners ≠ none := by
      cases phase : s.client.phase <;> simp_all [Client.Phase.adapted, Client.Phase.listeners]
    obtain ⟨socket, found, handled⟩ := follows.during current awaited
    obtain ⟨holds, silent⟩ := handled.waiting adapted
    exact ⟨silent, socket, found, holds⟩

/-! ### A request before the daemon serves -/

namespace Sample

open DicodeRelay.Relay.Sample

/-- The first connection of the broker and the first attempt of the daemon. -/
def link : Link := ⟨Client.Sample.broker, Client.Sample.options, 0, 1, rfl⟩

/-- A forward crosses the socket while `onBrokerPubkey` is pending. -/
def earlyRequest : List Event :=
  [.server (.connection 0 (certificate signPointA)), .client .resume,
    .client (.socket 1 .opened), .client .resume, .toServer, .server forwardA, .toClient,
    .client .resume, .toClient, .client (.persisted none)]

/-- The daemon serves and has dispatched the request. -/
def Served (s : State) : Prop :=
  s.client.attempt = 1 ∧ s.client.phase = .serving ∧
    (s.client.dispatchedOn 1).map Request.id = [requestId]

instance : DecidablePred Served := fun _ => inferInstanceAs (Decidable (_ ∧ _))

theorem served : (link.machine.run earlyRequest).any (fun s => decide (Served s)) = true := by
  decide +kernel

end Sample

theorem no_frame_lost_early : ∃ s welcome messages,
    Sample.link.machine.run Sample.earlyRequest = some s ∧
      (s.client.dispatchedOn 1).map Request.id = [Relay.Sample.requestId] ∧
      s.server.sentOn 0 = (ServerMessage.welcome welcome :: messages).map jsonWire.encodeServer ∧
      s.client.dispatchedOn 1 = (messages.take (s.delivered - 1)).filterMap requestOf := by
  obtain ⟨s, reached, facts⟩ := (Option.any_eq_true _ _).mp Sample.served
  obtain ⟨current, serving, dispatched⟩ : Sample.Served s := of_decide_eq_true facts
  obtain ⟨welcome, messages, sent, same⟩ :=
    (no_frame_lost Sample.link jsonWire_lawful reached).2.1 current serving
  exact ⟨s, welcome, messages, reached, dispatched, sent, same⟩

end DicodeRelay.Tunnel
