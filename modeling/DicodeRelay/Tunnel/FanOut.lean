import DicodeRelay.Client.StatusFold
import DicodeRelay.Relay.Announcements
import DicodeRelay.Relay.Sockets
import DicodeRelay.Tunnel.Link

/-!
Contract: a relay client and the endpoints its connections dial.

Owns:
- the client and the relay servers behind its URLs, one for each host and port,
  over one clock, with the sockets between them as reliable FIFO pipes;
- the attempts that reached an endpoint, and that their URL leads to it;
- when one of the client's connections makes an endpoint drop another one.

Does not own: how a URL is parsed; several names of one host.
-/

namespace DicodeRelay.Tunnel

open DicodeRelay.Lib DicodeRelay.Shared

/-- Where a relay server listens. Its `WebSocketServer` takes every path. -/
structure Endpoint where
  host : String
  port : Nat
deriving DecidableEq

/-- Where a dial goes, after the URL was parsed. -/
structure DialTarget where
  scheme : String
  host : String
  port : Nat
  path : String
deriving DecidableEq

namespace DialTarget

def endpoint (target : DialTarget) : Endpoint := ⟨target.host, target.port⟩

/-- The client dials with an `https.Agent` and the relay listens with TLS, so no
other scheme gets through. -/
def secure (target : DialTarget) : Bool := target.scheme = "wss" ∨ target.scheme = "https"

end DialTarget

/-- A relay client with what it dials through, and the relay servers it can
reach. -/
structure FanOut where
  client : Client.RelayClient
  /-- How the dialling library reads a URL. -/
  parse : String → Option DialTarget
  /-- The certificate with which the client dials. -/
  clientCert : PeerCertificate
  server : Endpoint → Relay.RelayServer

/-- An attempt that reached its endpoint. -/
structure Pipe where
  endpoint : Endpoint
  /-- The endpoint's end. -/
  ws : Relay.ConnId
  /-- How many of the endpoint's frames have reached the client. -/
  delivered : Nat
  /-- How many of the client's frames have reached the endpoint. -/
  received : Nat

namespace FanOut

structure State where
  client : Client.RelayClient.State
  relays : Endpoint → Relay.State
  /-- The attempts that reached an endpoint, under their URL and number. -/
  pipes : OrderedMap (String × Nat) Pipe

inductive Event where
  /-- Anything that happens to the client, except that a socket opens or
  receives. -/
  | client (e : Client.RelayClient.Event)
  /-- Anything that happens at an endpoint but a frame on one of the pipes. -/
  | relay (endpoint : Endpoint) (e : Relay.Event)
  /-- The attempt under way to the URL reaches its endpoint. -/
  | accept (url : String) (ws : Relay.ConnId)
  | opened (url : String) (attempt : Nat)
  | toClient (url : String) (attempt : Nat)
  | toServer (url : String) (attempt : Nat)
  | tick (ms : Nat)

/-- What only a peer can cause, or the clock. -/
def notOwn : Client.RelayClient.Event → Bool
  | .on _ (.socket _ .opened) => true
  | .on _ (.socket _ (.message _)) => true
  | .tick _ => true
  | _ => false

/-- What only the pipes can cause at the endpoint, or the clock. -/
def State.notOwn (s : State) (endpoint : Endpoint) : Relay.Event → Bool
  | .tick _ => true
  | e => s.pipes.values.any fun pipe => pipe.endpoint = endpoint ∧ isMessageOn pipe.ws e

def State.setClient (s : State) (client : Client.RelayClient.State) : State := { s with client }

def State.setRelay (s : State) (endpoint : Endpoint) (relay : Relay.State) : State :=
  { s with relays := Function.update s.relays endpoint relay }

def State.setPipe (s : State) (url : String) (attempt : Nat) (pipe : Pipe) : State :=
  { s with pipes := s.pipes.set (url, attempt) pipe }

variable (fan : FanOut)

def clientStep (s : State) (e : Client.RelayClient.Event) : Option State :=
  (fan.client.step s.client e).map s.setClient

def relayStep (s : State) (endpoint : Endpoint) (e : Relay.Event) : Option State :=
  ((fan.server endpoint).step (s.relays endpoint) e).map (s.setRelay endpoint)

/-- The endpoint the URL leads to accepts the attempt that is being dialled. -/
def accept (s : State) (url : String) (ws : Relay.ConnId) : Option State :=
  match s.client.conns.get url, fan.parse url with
  | some conn, some target =>
      match conn.phase with
      | .dialing _ =>
          if s.pipes.has (url, conn.attempt) ∨ target.secure = false then none
          else
            fan.relayStep (s.setPipe url conn.attempt ⟨target.endpoint, ws, 0, 0⟩)
              target.endpoint (.connection ws (some fan.clientCert))
      | _ => none
  | _, _ => none

/-- The next of the endpoint's frames reaches the client. -/
def toClient (s : State) (url : String) (attempt : Nat) (pipe : Pipe) : Option State :=
  match ((s.relays pipe.endpoint).sentOn pipe.ws)[pipe.delivered]? with
  | none => none
  | some frame =>
      fan.clientStep (s.setPipe url attempt { pipe with delivered := pipe.delivered + 1 })
        (.on url (.socket attempt (.message frame)))

/-- The frames the connection to the URL has sent on the socket of the attempt. -/
def State.sentTo (s : State) (url : String) (attempt : Nat) : List String :=
  match s.client.conns.get url with
  | none => []
  | some conn => conn.log.filterMap (sentBy attempt)

/-- The next of the client's frames reaches the endpoint. -/
def toServer (s : State) (url : String) (attempt : Nat) (pipe : Pipe) : Option State :=
  match (s.sentTo url attempt)[pipe.received]? with
  | none => none
  | some frame =>
      fan.relayStep (s.setPipe url attempt { pipe with received := pipe.received + 1 })
        pipe.endpoint (.message pipe.ws frame)

def State.tickRelays (s : State) (ms : Nat) : State :=
  { s with
    relays := fun endpoint => { s.relays endpoint with now := (s.relays endpoint).now + ms } }

def step (s : State) : Event → Option State
  | .client e => if notOwn e then none else fan.clientStep s e
  | .relay endpoint e => if s.notOwn endpoint e then none else fan.relayStep s endpoint e
  | .accept url ws => fan.accept s url ws
  | .opened url attempt =>
      if s.pipes.has (url, attempt) then fan.clientStep s (.on url (.socket attempt .opened))
      else none
  | .toClient url attempt => (s.pipes.get (url, attempt)).bind (fan.toClient s url attempt)
  | .toServer url attempt => (s.pipes.get (url, attempt)).bind (fan.toServer s url attempt)
  | .tick ms => fan.clientStep (s.tickRelays ms) (.tick ms)

/-- The runs of the client and the endpoints. -/
def machine : Machine State Event where
  init := ⟨fan.client.init, fun _ => Relay.State.init, .empty⟩
  step := fan.step

/-! ### Evictions -/

/-- A frame of one of the client's connections makes the endpoint terminate the
socket of the client's connection to another URL. -/
def Evicts (s : State) (e : Event) (s' : State) : Prop :=
  ∃ url attempt pipe other earlier evicted, e = .toServer url attempt ∧
    s.pipes.get (url, attempt) = some pipe ∧ s.pipes.get (other, earlier) = some evicted ∧
    other ≠ url ∧ evicted.endpoint = pipe.endpoint ∧
    .terminate evicted.ws ∈
      (s'.relays pipe.endpoint).log.drop (s.relays pipe.endpoint).log.length

/-- No two of the configured URLs are read as the same dial target. -/
def Distinct : Prop :=
  ∀ url ∈ fan.client.urls, ∀ other ∈ fan.client.urls, other ≠ url →
    ∀ target, fan.parse url = some target → fan.parse other ≠ some target

/-- No two of the configured URLs are dialled over TLS at one host and port,
whatever their paths; and no two others are the same dial target. -/
def Separate : Prop :=
  ∀ url ∈ fan.client.urls, ∀ other ∈ fan.client.urls, other ≠ url →
    ∀ target otherTarget, fan.parse url = some target → fan.parse other = some otherTarget →
      if target.secure ∧ otherTarget.secure then otherTarget.endpoint ≠ target.endpoint
      else otherTarget ≠ target

/-- The hello of the client's connections. -/
def hello : String :=
  Client.helloFrame fan.client.opts.crypto fan.client.opts.wire fan.client.opts.identity

/-! ### The pipes lead where their URLs say -/

/-- A dial to the URL gets through to the endpoint. -/
def LeadsTo (url : String) (endpoint : Endpoint) : Prop :=
  ∃ target, fan.parse url = some target ∧ target.secure = true ∧ target.endpoint = endpoint

/-- Every pipe belongs to a configured URL that leads to its endpoint. -/
structure Piped (s : State) : Prop where
  client : ∃ events, fan.client.machine.run events = some s.client
  named : ∀ url attempt pipe, s.pipes.get (url, attempt) = some pipe →
    url ∈ fan.client.urls ∧ fan.LeadsTo url pipe.endpoint

variable {fan}

theorem Piped.setPipe {s : State} (piped : fan.Piped s) {url : String} {attempt : Nat}
    {pipe : Pipe} (configured : url ∈ fan.client.urls) (leads : fan.LeadsTo url pipe.endpoint) :
    fan.Piped (s.setPipe url attempt pipe) := by
  refine ⟨piped.client, ?_⟩
  intro other number found present
  rw [State.setPipe, OrderedMap.get_set] at present
  split at present
  · rename_i same
    obtain ⟨rfl, rfl⟩ := Prod.mk.inj same
    obtain rfl := Option.some.inj present
    exact ⟨configured, leads⟩
  · exact piped.named other number found present

theorem Piped.clientStep {s s' : State} {e : Client.RelayClient.Event} (piped : fan.Piped s)
    (after : fan.clientStep s e = some s') : fan.Piped s' := by
  obtain ⟨client, stepped, rfl⟩ := Option.map_eq_some_iff.mp after
  obtain ⟨events, ran⟩ := piped.client
  exact ⟨⟨events ++ [e], Machine.run_concat_of ran stepped⟩, piped.named⟩

theorem Piped.relayStep {s s' : State} {endpoint : Endpoint} {e : Relay.Event}
    (piped : fan.Piped s) (after : fan.relayStep s endpoint e = some s') : fan.Piped s' := by
  obtain ⟨relay, _, rfl⟩ := Option.map_eq_some_iff.mp after
  exact ⟨piped.client, piped.named⟩

theorem piped_step {s s' : State} {e : Event} (piped : fan.Piped s)
    (after : fan.step s e = some s') : fan.Piped s' := by
  cases e with
  | client e =>
      simp only [step, Option.ite_none_left_eq_some] at after
      exact piped.clientStep after.2
  | relay endpoint e =>
      simp only [step, Option.ite_none_left_eq_some] at after
      exact piped.relayStep after.2
  | accept url ws =>
      simp only [step, accept] at after
      split at after
      · rename_i conn target found parsed
        split at after
        · simp only [Option.ite_none_left_eq_some] at after
          obtain ⟨taken, after⟩ := after
          obtain ⟨_, secure⟩ := not_or.mp taken
          obtain ⟨_, ran⟩ := piped.client
          have configured : url ∈ fan.client.urls := by
            rw [← (Client.RelayClient.told_run ran).2.keys]
            exact (OrderedMap.mem_keys_iff _ url).mpr ⟨conn, found⟩
          have leads : fan.LeadsTo url target.endpoint :=
            ⟨target, parsed, Bool.not_eq_false _ ▸ secure, rfl⟩
          exact (piped.setPipe configured leads).relayStep after
        · cases after
      · cases after
  | opened url attempt =>
      simp only [step, Option.ite_none_right_eq_some] at after
      exact piped.clientStep after.2
  | toClient url attempt =>
      obtain ⟨pipe, found, after⟩ := Option.bind_eq_some_iff.mp after
      unfold toClient at after
      split at after
      · cases after
      · obtain ⟨configured, leads⟩ := piped.named url attempt pipe found
        have counted : fan.Piped (s.setPipe url attempt
            { pipe with delivered := pipe.delivered + 1 }) := piped.setPipe configured leads
        exact counted.clientStep after
  | toServer url attempt =>
      obtain ⟨pipe, found, after⟩ := Option.bind_eq_some_iff.mp after
      unfold toServer at after
      split at after
      · cases after
      · obtain ⟨configured, leads⟩ := piped.named url attempt pipe found
        have counted : fan.Piped (s.setPipe url attempt
            { pipe with received := pipe.received + 1 }) := piped.setPipe configured leads
        exact counted.relayStep after
  | tick ms =>
      have ticked : fan.Piped (s.tickRelays ms) := ⟨piped.client, piped.named⟩
      exact ticked.clientStep after

theorem piped_run {events : List Event} {s : State} (ran : fan.machine.run events = some s) :
    fan.Piped s := by
  refine Machine.state_invariant (P := fan.Piped) ⟨⟨[], rfl⟩, ?_⟩ ?_ ran
  · intro url attempt pipe found
    cases found
  · exact fun s e s' piped after => piped_step piped after

/-- With separate targets, no connection of the client can evict another. -/
theorem not_evicts_of_separate (separate : fan.Separate) {events : List Event} {s s' : State}
    {e : Event} (ran : fan.machine.run events = some s) : ¬ Evicts s e s' := by
  rintro ⟨url, attempt, pipe, other, earlier, evicted, _, found, foundEvicted, different, same, _⟩
  have piped := piped_run ran
  obtain ⟨configured, target, parsed, secure, here⟩ := piped.named url attempt pipe found
  obtain ⟨otherConfigured, otherTarget, otherParsed, otherSecure, there⟩ :=
    piped.named other earlier evicted foundEvicted
  have apart := separate url configured other otherConfigured different target otherTarget parsed
    otherParsed
  rw [if_pos ⟨secure, otherSecure⟩] at apart
  exact apart (there.trans (same.trans here.symm))

theorem distinct_of_separate (separate : fan.Separate) : fan.Distinct := by
  intro url configured other otherConfigured different target parsed otherParsed
  have apart := separate url configured other otherConfigured different target target parsed
    otherParsed
  split at apart
  · exact apart rfl
  · exact apart rfl

/-! ### Two URLs of one endpoint -/

/-- The connection to the URL has not begun its first attempt. -/
structure Unstarted (s : State) (url : String) : Prop where
  conn : s.client.conns.get url = some (Client.State.init (fan.client.connection url))
  noPipe : ∀ attempt, s.pipes.get (url, attempt) = none

/-- What an attempt leaves alone. -/
structure Beside (s t : State) (url : String) : Prop where
  conns : ∀ other, other ≠ url → t.client.conns.get other = s.client.conns.get other
  pipes : ∀ other attempt, other ≠ url → t.pipes.get (other, attempt) = s.pipes.get (other, attempt)

theorem Beside.trans {s t u : State} {url : String} (first : Beside s t url)
    (second : Beside t u url) : Beside s u url where
  conns other different := (second.conns other different).trans (first.conns other different)
  pipes other attempt different :=
    (second.pipes other attempt different).trans (first.pipes other attempt different)

theorem Unstarted.beside {s t : State} {url other : String} (unstarted : fan.Unstarted s other)
    (beside : Beside s t url) (different : other ≠ url) : fan.Unstarted t other where
  conn := (beside.conns other different).trans unstarted.conn
  noPipe attempt := (beside.pipes other attempt different).trans (unstarted.noPipe attempt)

/-- The first attempt up to the hello, which is on its way. -/
theorem dials {events : List Event} {s : State} (ran : fan.machine.run events = some s)
    {url : String} {endpoint : Endpoint} (leads : fan.LeadsTo url endpoint)
    (unstarted : fan.Unstarted s url) (ws : Relay.ConnId)
    (fresh : (s.relays endpoint).conns.get ws = none)
    (taking : (s.relays endpoint).closing = false) :
    ∃ t, fan.machine.run (events ++ [.client (.on url .resume), .accept url ws, .opened url 1,
        .client (.on url .resume)]) = some t ∧
      Beside s t url ∧ t.pipes.get (url, 1) = some ⟨endpoint, ws, 0, 0⟩ ∧
      t.sentTo url 1 = [fan.hello] ∧
      t.relays endpoint = (fan.server endpoint).handleConnection (s.relays endpoint) ws
        (some fan.clientCert) := by
  obtain ⟨target, parsed, secure, rfl⟩ := leads
  obtain ⟨c₁, c₂, c₃, due, dialled, dialing, first, silent₁, opened, silent₂, greeted, sent⟩ :=
    (fan.client.connection url).greeting
  let s₁ : State := s.setClient (Client.RelayClient.setConn s.client url c₁)
  let s₂ : State := (s₁.setPipe url 1 ⟨target.endpoint, ws, 0, 0⟩).setRelay target.endpoint
    ((fan.server target.endpoint).handleConnection (s.relays target.endpoint) ws
      (some fan.clientCert))
  let s₃ : State := s₂.setClient (Client.RelayClient.setConn s₁.client url c₂)
  let s₄ : State := s₃.setClient (Client.RelayClient.setConn s₃.client url c₃)
  have found₁ : s₁.client.conns.get url = some c₁ := OrderedMap.get_set_self _ _ _
  have found₂ : s₃.client.conns.get url = some c₂ := OrderedMap.get_set_self _ _ _
  have step₁ : fan.step s (.client (.on url .resume)) = some s₁ := by
    have advanced := fan.client.advance_of_silent unstarted.conn dialled (by simp [silent₁])
    simp [step, notOwn, clientStep, Client.RelayClient.step, Client.Event.shared, advanced, s₁,
      State.setClient]
  have step₂ : fan.step s₁ (.accept url ws) = some s₂ := by
    have unpiped : s₁.pipes.has (url, 1) = false := by
      rw [OrderedMap.has, show s₁.pipes.get (url, 1) = none from unstarted.noPipe 1]
      rfl
    have connects : (fan.server target.endpoint).step (s.relays target.endpoint)
        (.connection ws (some fan.clientCert)) =
        some ((fan.server target.endpoint).handleConnection (s.relays target.endpoint) ws
          (some fan.clientCert)) := if_pos ⟨by simp [fresh], taking⟩
    simp only [step, accept, found₁, parsed, dialing, first, unpiped, secure, Bool.false_eq_true,
      Bool.true_eq_false, or_self, if_false]
    exact congrArg (Option.map _) connects
  have step₃ : fan.step s₂ (.opened url 1) = some s₃ := by
    have piped : s₂.pipes.has (url, 1) = true := by
      rw [OrderedMap.has]
      exact congrArg Option.isSome (OrderedMap.get_set_self s₁.pipes (url, 1) _)
    have advanced := fan.client.advance_of_silent (s := s₁.client) found₁ opened
      (by simp [silent₁, silent₂])
    rw [step, if_pos piped]
    exact congrArg (Option.map _) advanced
  have step₄ : fan.step s₃ (.client (.on url .resume)) = some s₄ := by
    have advanced := fan.client.advance_of_silent found₂ greeted
      (by simp [silent₂, sent, Client.Effect.reported])
    simp [step, notOwn, clientStep, Client.RelayClient.step, Client.Event.shared, advanced, s₄,
      State.setClient]
  refine ⟨s₄, ?_, ⟨?_, ?_⟩, ?_, ?_, ?_⟩
  · rw [Machine.run_append, ran]
    simp [machine, step₁, step₂, step₃, step₄]
  · intro other different
    simp only [s₄, s₃, s₂, s₁, State.setClient, State.setRelay, State.setPipe,
      Client.RelayClient.setConn]
    rw [OrderedMap.get_set_of_ne _ _ different.symm, OrderedMap.get_set_of_ne _ _ different.symm,
      OrderedMap.get_set_of_ne _ _ different.symm]
  · intro other attempt different
    exact OrderedMap.get_set_of_ne _ _ fun same => different (Prod.mk.inj same).1.symm
  · exact OrderedMap.get_set_self _ _ _
  · have found₃ : s₄.client.conns.get url = some c₃ := OrderedMap.get_set_self _ _ _
    simp [State.sentTo, found₃, sent, sentBy, hello, Client.RelayClient.connection]
  · exact Function.update_self _ _ _

/-- The hello reaches the endpoint, which registers the attempt. -/
theorem greets {t : State} {url : String} {endpoint : Endpoint} {ws : Relay.ConnId}
    {relay : Relay.State} {certPoint : Bytes} {hello : Hello}
    (certified : extractP256PointFromCert fan.clientCert = some certPoint)
    (decoded : (fan.server endpoint).wire.decodeClient fan.hello = .envelope (.hello hello))
    (valid : (fan.server endpoint).validateDecryptPubkey hello = none)
    (piped : t.pipes.get (url, 1) = some ⟨endpoint, ws, 0, 0⟩) (sent : t.sentTo url 1 = [fan.hello])
    (accepted : t.relays endpoint = relay.accept ws (Relay.Conn.accepted (some fan.clientCert))) :
    ∃ t', fan.machine.step t (.toServer url 1) = some t' ∧ Beside t t' url ∧
      t'.pipes.get (url, 1) = some ⟨endpoint, ws, 0, 1⟩ ∧
      t'.relays endpoint =
        (fan.server endpoint).register (t.relays endpoint) ws certPoint hello := by
  have registers : (fan.server endpoint).step (t.relays endpoint) (.message ws fan.hello) =
      some ((fan.server endpoint).register (t.relays endpoint) ws certPoint hello) := by
    rw [accepted]
    exact (fan.server endpoint).step_hello relay ws certified decoded valid
  refine ⟨(t.setPipe url 1 ⟨endpoint, ws, 0, 1⟩).setRelay endpoint
    ((fan.server endpoint).register (t.relays endpoint) ws certPoint hello), ?_, ⟨?_, ?_⟩, ?_, ?_⟩
  · simp only [machine, step, piped, Option.bind_some, toServer, sent]
    exact congrArg (Option.map _) registers
  · exact fun other _ => rfl
  · intro other attempt different
    exact OrderedMap.get_set_of_ne _ _ fun same => different (Prod.mk.inj same).1.symm
  · exact OrderedMap.get_set_self _ _ _
  · exact Function.update_self _ _ _

/-- A second registration of the client at an endpoint it has just registered
at terminates the first. -/
theorem registered_twice (server : Relay.RelayServer) (cert : PeerCertificate) (certPoint : Bytes)
    (hello : Hello) :
    let first := server.register (Relay.State.init.accept 0 (.accepted (some cert))) 0 certPoint
      hello
    let second := first.accept 1 (.accepted (some cert))
    first.conns.get 1 = none ∧ first.closing = false ∧
      .terminate 0 ∈ (server.register second 1 certPoint hello).log.drop second.log.length := by
  intro first second
  have enrolled := server.enrolled_register (some cert) certPoint hello
  have entered : second.clients.get (server.crypto.uuidFromP256Point certPoint) =
      some ⟨0, _, certPoint, _⟩ := enrolled.entry
  have untouched : first.conns.get 1 = none := enrolled.others 1 Nat.zero_ne_one
  refine ⟨untouched, enrolled.running, ?_⟩
  obtain ⟨more, grown⟩ := server.grows_register second 1 certPoint hello
  have terminated := Relay.State.terminate_mem_evictPrevious entered
  rw [← grown, List.drop_append_of_le_length (List.IsPrefix.length_le
    (second.log_evictPrevious _))]
  exact List.mem_append_left _ terminated

/-- Two configured URLs that lead to one endpoint: the second connection that
registers there evicts the first. -/
theorem evicts_of_shared (fan : FanOut) {url other : String} (configured : url ∈ fan.client.urls)
    (otherConfigured : other ∈ fan.client.urls) (different : other ≠ url) {endpoint : Endpoint}
    (leads : fan.LeadsTo url endpoint) (otherLeads : fan.LeadsTo other endpoint)
    (registers : Relay.Registers (fan.server endpoint) (some fan.clientCert) fan.hello) :
    ∃ events earlier s e s', fan.machine.StepAt events earlier s e s' ∧ Evicts s e s' := by
  obtain ⟨certPoint, hello, certified, decoded, valid⟩ := registers
  have certified : extractP256PointFromCert fan.clientCert = some certPoint := certified
  obtain ⟨untouched, taking, terminated⟩ :=
    registered_twice (fan.server endpoint) fan.clientCert certPoint hello
  have unstarted : ∀ u ∈ fan.client.urls, fan.Unstarted fan.machine.init u :=
    fun u member => ⟨fan.client.init_conn member, fun _ => rfl⟩
  -- The first connection registers.
  obtain ⟨t, ran, beside, piped, sent, accepted⟩ :=
    dials (Machine.run_nil fan.machine) leads (unstarted url configured) 0 rfl rfl
  rw [Relay.RelayServer.handleConnection_certified _ _ _ certified] at accepted
  obtain ⟨u, registered, besideToo, piped, relay⟩ :=
    greets certified decoded valid piped sent accepted
  rw [accepted] at relay
  -- So does the second one, at the same endpoint.
  have unstartedStill : fan.Unstarted u other :=
    (unstarted other otherConfigured).beside (beside.trans besideToo) different
  obtain ⟨v, ran, besideThree, otherPiped, sent, accepted⟩ :=
    dials (Machine.run_concat_of ran registered) otherLeads unstartedStill 1
      (by rw [relay]; exact untouched) (by rw [relay]; exact taking)
  rw [Relay.RelayServer.handleConnection_certified _ _ _ certified, relay] at accepted
  obtain ⟨w, registered, _, _, evicting⟩ :=
    greets certified decoded valid otherPiped sent accepted
  refine ⟨_, _, v, _, w, Machine.stepAt_last ran registered, other, 1, _, url, 1,
    ⟨endpoint, 0, 0, 1⟩, rfl, otherPiped, ?_, different.symm, rfl, ?_⟩
  · exact (besideThree.pipes url 1 different.symm).trans piped
  · rw [evicting, accepted]
    exact terminated

end FanOut

/-- The configured URLs are different dial targets and no connection of the client
ever evicts another, exactly when no two of them are dialled over TLS at one host
and port and no two others are one target. -/
theorem one_connection_per_endpoint_iff (fan : FanOut)
    (registers : ∀ endpoint,
      Relay.Registers (fan.server endpoint) (some fan.clientCert) fan.hello) :
    (fan.Distinct ∧ ∀ events earlier s e s', fan.machine.StepAt events earlier s e s' →
      ¬ FanOut.Evicts s e s') ↔ fan.Separate := by
  constructor
  · rintro ⟨distinct, spared⟩ url configured other otherConfigured different target otherTarget
      parsed otherParsed
    split
    · rename_i secure
      intro shared
      obtain ⟨events, earlier, s, e, s', step, evicts⟩ :=
        fan.evicts_of_shared configured otherConfigured different ⟨target, parsed, secure.1, rfl⟩
          ⟨otherTarget, otherParsed, secure.2, shared⟩ (registers target.endpoint)
      exact spared events earlier s e s' step evicts
    · intro same
      exact distinct url configured other otherConfigured different target parsed
        (same ▸ otherParsed)
  · intro separate
    exact ⟨FanOut.distinct_of_separate separate, fun events earlier s e s' step =>
      FanOut.not_evicts_of_separate separate step.before⟩

/-! ### One broker, spelled twice -/

namespace Sample

open DicodeRelay.Relay.Sample

/-- How `new URL` reads the sample's URLs. -/
def parse (url : String) : Option DialTarget :=
  if url = "wss://relay.example" ∨ url = "wss://relay.example/" then
    some ⟨"wss", "relay.example", 443, "/"⟩
  else if url = "wss://relay.example/a" then some ⟨"wss", "relay.example", 443, "/a"⟩
  else if url = "wss://backup.example" then some ⟨"wss", "backup.example", 443, "/"⟩
  else none

def fanOut (client : Client.RelayClient) : FanOut where
  client := client
  parse := parse
  clientCert := ⟨some (uncompressedP256ToSpki signPointA)⟩
  server := fun _ => Client.Sample.broker

/-- The options of a client of two brokers. -/
def options (first second : String) : Client.RelayClientOptions :=
  { Client.Sample.fanOut.opts with serverURLs := some [first, second] }

theorem admitted : Relay.Registers Client.Sample.broker (certificate signPointA)
    (helloFrame decryptPointA) :=
  ⟨signPointA, ⟨base64Encode decryptPointA⟩, point_certificateA, decode_helloFrame _,
    valid_decryptPointA⟩

theorem registers (client : Client.RelayClient) {first second : String}
    (sample : client.opts = options first second) (endpoint : Endpoint) :
    Relay.Registers ((fanOut client).server endpoint) (some (fanOut client).clientCert)
      (fanOut client).hello := by
  have hello : (fanOut client).hello = helloFrame decryptPointA := by
    rw [FanOut.hello, fanOut, sample]
    rfl
  rw [hello]
  exact admitted

/-- A client whose list has two spellings of one target. -/
def spelledTwice : Client.RelayClient where
  opts := options "wss://relay.example" "wss://relay.example/"
  urls := ["wss://relay.example", "wss://relay.example/"]
  resolved := by
    rw [Client.resolveServerURLs_eq_ok_iff]
    decide

/-- A client whose list has two paths of one relay server. -/
def twoPaths : Client.RelayClient where
  opts := options "wss://relay.example" "wss://relay.example/a"
  urls := ["wss://relay.example", "wss://relay.example/a"]
  resolved := by
    rw [Client.resolveServerURLs_eq_ok_iff]
    decide

/-- A client of two brokers. -/
def spread : Client.RelayClient where
  opts := options "wss://relay.example" "wss://backup.example"
  urls := ["wss://relay.example", "wss://backup.example"]
  resolved := by
    rw [Client.resolveServerURLs_eq_ok_iff]
    decide

end Sample

theorem one_connection_per_endpoint_spread : (Sample.fanOut Sample.spread).Separate ∧
    (Sample.fanOut Sample.spread).Distinct ∧
    ∀ events earlier s e s', (Sample.fanOut Sample.spread).machine.StepAt events earlier s e s' →
      ¬ FanOut.Evicts s e s' := by
  have separate : (Sample.fanOut Sample.spread).Separate := by
    intro url configured other otherConfigured different target otherTarget parsed otherParsed
    have apart : ∀ url ∈ Sample.spread.urls, ∀ other ∈ Sample.spread.urls, other ≠ url →
        (Sample.parse other).map DialTarget.endpoint ≠
          (Sample.parse url).map DialTarget.endpoint := by decide
    have endpoints : otherTarget.endpoint ≠ target.endpoint := by
      intro same
      have parsed : Sample.parse url = some target := parsed
      have otherParsed : Sample.parse other = some otherTarget := otherParsed
      exact apart url configured other otherConfigured different
        (by rw [parsed, otherParsed, Option.map_some, Option.map_some, same])
    split
    · exact endpoints
    · exact fun same => endpoints (congrArg DialTarget.endpoint same)
  exact ⟨separate, (one_connection_per_endpoint_iff (Sample.fanOut Sample.spread)
    (Sample.registers Sample.spread rfl)).mpr separate⟩

/-- The constructor accepts the two spellings of one target, and the second
connection that registers evicts the first. -/
theorem spelled_twice_evicts : ¬ ((Sample.fanOut Sample.spelledTwice).Distinct ∧
    ∀ events earlier s e s',
      (Sample.fanOut Sample.spelledTwice).machine.StepAt events earlier s e s' →
        ¬ FanOut.Evicts s e s') := by
  rintro ⟨_, spared⟩
  have short : "wss://relay.example" ∈ Sample.spelledTwice.urls := by decide
  have long : "wss://relay.example/" ∈ Sample.spelledTwice.urls := by decide
  obtain ⟨events, earlier, s, e, s', step, evicts⟩ :=
    (Sample.fanOut Sample.spelledTwice).evicts_of_shared short long (by decide)
      ⟨⟨"wss", "relay.example", 443, "/"⟩, by decide, by decide, rfl⟩
      ⟨⟨"wss", "relay.example", 443, "/"⟩, by decide, by decide, rfl⟩
      (Sample.registers Sample.spelledTwice rfl ⟨"relay.example", 443⟩)
  exact spared events earlier s e s' step evicts

/-- Two paths are different targets, and still the connections evict each other. -/
example : ∃ events earlier s e s',
    (Sample.fanOut Sample.twoPaths).machine.StepAt events earlier s e s' ∧
      FanOut.Evicts s e s' := by
  have first : "wss://relay.example" ∈ Sample.twoPaths.urls := by decide
  have second : "wss://relay.example/a" ∈ Sample.twoPaths.urls := by decide
  exact (Sample.fanOut Sample.twoPaths).evicts_of_shared first second (by decide)
    ⟨⟨"wss", "relay.example", 443, "/"⟩, by decide, by decide, rfl⟩
    ⟨⟨"wss", "relay.example", 443, "/a"⟩, by decide, by decide, rfl⟩
    (Sample.registers Sample.twoPaths rfl ⟨"relay.example", 443⟩)

end DicodeRelay.Tunnel
