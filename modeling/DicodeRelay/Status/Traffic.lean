import DicodeRelay.Relay.Pulse
import DicodeRelay.Status.EventLog
import DicodeRelay.Status.Wiring

/-!
Contract: the figures of the status page against the run of the started server.

Owns:
- when the requests for a hook URL came in;
- the registration that a registered daemon is served under;
- that the page has the registered daemons, each with the requests that came in
  since it registered.

Does not own: the peaks; the HTML of the page.
-/

namespace DicodeRelay.Status

open DicodeRelay.Lib DicodeRelay.Shared DicodeRelay.Relay

/-! ### Requests that come in -/

/-- How far the event moves the clock. -/
def WiredEvent.elapsed : WiredEvent → Nat
  | .relay (.tick ms) => ms
  | _ => 0

/-- The event is a request for the hook URL of the uuid. -/
def WiredEvent.requests (uuid : String) : WiredEvent → Bool
  | .inbound other .. => decide (other = uuid)
  | _ => false

def elapsed (events : List WiredEvent) : Nat := (events.map WiredEvent.elapsed).sum

/-- When the requests for the hook URL came in, on a clock that starts at `now`. -/
def arrivals (uuid : String) (now : Nat) : List WiredEvent → List Nat
  | [] => []
  | e :: later =>
      (if e.requests uuid then [now] else []) ++ arrivals uuid (now + e.elapsed) later

theorem elapsed_append_singleton (events : List WiredEvent) (e : WiredEvent) :
    elapsed (events ++ [e]) = elapsed events + e.elapsed := by
  simp [elapsed]

theorem arrivals_append_singleton (uuid : String) (now : Nat) (events : List WiredEvent)
    (e : WiredEvent) :
    arrivals uuid now (events ++ [e]) =
      arrivals uuid now events ++ if e.requests uuid then [now + elapsed events] else [] := by
  induction events generalizing now with
  | nil => simp [arrivals, elapsed]
  | cons first events inductionHypothesis =>
      have clock : now + first.elapsed + elapsed events = now + elapsed (first :: events) := by
        simp only [elapsed, List.map_cons, List.sum_cons]
        omega
      rw [List.cons_append, arrivals, inductionHypothesis, clock, arrivals, List.append_assoc]

theorem length_arrivals (uuid : String) (now : Nat) (events : List WiredEvent) :
    (arrivals uuid now events).length = events.countP (WiredEvent.requests uuid) := by
  induction events generalizing now with
  | nil => rfl
  | cons e events inductionHypothesis =>
      rw [arrivals, List.length_append, inductionHypothesis, List.countP_cons]
      by_cases requested : e.requests uuid = true
      · simp [requested, Nat.add_comm]
      · simp [requested]

/-! ### What the listeners hear -/

/-- The entry of a uuid after its last announcement in a step at `now`. -/
inductive Heard (uuid : String) (now : Nat) (entry : Option ClientMetricsEntry) :
    Option Announcement → Option ClientMetricsEntry → Prop where
  | silence : Heard uuid now entry none entry
  | connected {fresh : ClientMetricsEntry} (follows : fresh.Follows uuid [] now)
      (connectedAt : fresh.connectedAt = now) : Heard uuid now entry (some .connected) (some fresh)
  | disconnected : Heard uuid now entry (some .disconnected) none

/-- An announcement decides about the entry of its uuid and no other. -/
theorem heard_listen (now : Nat) (uuid : String) (c : MetricsCollector) (effect : Effect) :
    Heard uuid now (c.entries.get uuid) (effect.announces uuid)
      ((c.listen now effect).entries.get uuid) := by
  cases effect with
  | clientConnected other =>
      simp only [MetricsCollector.listen, MetricsCollector.registerClient, Effect.announces,
        OrderedMap.get_set]
      split
      · rename_i same
        exact .connected ⟨same, Buckets.follows_zero (by decide) _,
          Buckets.follows_zero (by decide) _, Nat.le_refl _, Nat.le_refl _, rfl⟩ rfl
      · exact .silence
  | clientDisconnected other =>
      simp only [MetricsCollector.listen, MetricsCollector.removeClient, Effect.announces,
        OrderedMap.get_delete]
      split
      · exact .disconnected
      · exact .silence
  | _ => exact .silence

/-- The last announcement counts. -/
theorem heard_foldl_listen (now : Nat) (uuid : String) (effects : List Effect)
    (c : MetricsCollector) :
    Heard uuid now (c.entries.get uuid) (effects.filterMap (Effect.announces uuid)).getLast?
      ((effects.foldl (MetricsCollector.listen now) c).entries.get uuid) := by
  induction effects using List.reverseRecOn with
  | nil => exact .silence
  | append_singleton effects effect inductionHypothesis =>
      have last := heard_listen now uuid (effects.foldl (MetricsCollector.listen now) c) effect
      rw [List.foldl_append, List.foldl_cons, List.foldl_nil, List.filterMap_append]
      generalize heard : effect.announces uuid = announcement at last
      generalize (effects.foldl (MetricsCollector.listen now) c).entries.get uuid = before
        at last inductionHypothesis
      generalize MetricsCollector.entries _ = entries at last ⊢
      generalize entries.get uuid = entry at last ⊢
      cases last with
      | silence =>
          rw [List.filterMap_cons_none heard, List.filterMap_nil, List.append_nil]
          exact inductionHypothesis
      | connected follows connectedAt =>
          rw [List.filterMap_cons_some heard, List.filterMap_nil, List.getLast?_concat]
          exact .connected follows connectedAt
      | disconnected =>
          rw [List.filterMap_cons_some heard, List.filterMap_nil, List.getLast?_concat]
          exact .disconnected

/-- What an event before `close` does to the registry entry of a uuid, and what it
last announces about the uuid. -/
inductive Turn (server : RelayServer) (uuid : String) (s : State) (e : Event) (t : State) :
    Option Announcement → Prop where
  | kept (same : t.clients.get uuid = s.clients.get uuid) : Turn server uuid s e t none
  | left (gone : t.clients.get uuid = none) : Turn server uuid s e t (some .disconnected)
  | joined {ws : ConnId} {certPoint : Bytes} {hello : Hello}
      (accepted : HelloAccepted server s e ws certPoint hello)
      (named : server.crypto.uuidFromP256Point certPoint = uuid)
      (present : t.clients.get uuid = some ⟨ws, server.crypto.uuidFromP256Point certPoint,
        certPoint, base64Decode hello.decryptPubkey.toList⟩) :
      Turn server uuid s e t (some .connected)

/-- What the step announces about the uuid. -/
def news (uuid : String) (s t : State) : List Announcement :=
  (t.log.drop s.log.length).filterMap (Effect.announces uuid)

theorem announced_news {s t : State} (grown : s.log <+: t.log) (uuid : String) :
    t.announced uuid = s.announced uuid ++ news uuid s t := by
  obtain ⟨new, grown⟩ := grown
  rw [State.announced, State.announced, news, ← grown, List.drop_left, List.filterMap_append]

theorem news_eq {s t : State} {uuid : String} {new : List Announcement} (grown : s.log <+: t.log)
    (announced : t.announced uuid = s.announced uuid ++ new) : news uuid s t = new :=
  List.append_cancel_left ((announced_news grown uuid).symm.trans announced)

theorem Turn.of_backstage {server : RelayServer} {uuid : String} {s t : State} {e : Event}
    (behind : Backstage s t) : Turn server uuid s e t (news uuid s t).getLast? := by
  have quiet : news uuid s t = [] := by
    apply news_eq behind.grows
    rw [behind.announced, List.append_nil]
  rw [quiet]
  exact .kept (by rw [behind.clients])

theorem Turn.of_joined {server : RelayServer} {uuid : String} {s t : State} {e : Event}
    {ws : ConnId} {certPoint : Bytes} {hello : Hello}
    (accepted : HelloAccepted server s e ws certPoint hello)
    (joined : Joined server s ⟨ws, server.crypto.uuidFromP256Point certPoint, certPoint,
      base64Decode hello.decryptPubkey.toList⟩ t) :
    Turn server uuid s e t (news uuid s t).getLast? := by
  by_cases named : server.crypto.uuidFromP256Point certPoint = uuid
  · have spoken := named ▸ news_eq joined.grows joined.announced
    have last : (news uuid s t).getLast? = some .connected := by
      rw [spoken]
      split <;> rfl
    rw [last]
    exact .joined accepted named (by rw [joined.clients, if_pos named])
  · have quiet : news uuid s t = [] := by
      apply news_eq joined.grows
      rw [joined.others uuid (Ne.symm named), List.append_nil]
    rw [quiet]
    exact .kept (by rw [joined.clients, if_neg named])

theorem Turn.of_cleaned {server : RelayServer} {uuid : String} {s s' t : State} {e : Event}
    {ws : ConnId} (behind : Backstage s s') (cleaned : Cleaned s' ws t) :
    Turn server uuid s e t (news uuid s t).getLast? := by
  cases cleaned with
  | backstage more => exact .of_backstage (behind.trans more)
  | @left own client _ _ clients grows announced others =>
      have grown := behind.grows.trans grows
      by_cases same : uuid = own
      · subst same
        have spoken : news uuid s t = [.disconnected] := by
          apply news_eq grown
          rw [announced, behind.announced]
        rw [spoken]
        exact .left (by rw [clients, OrderedMap.get_delete_self])
      · have quiet : news uuid s t = [] := by
          apply news_eq grown
          rw [others uuid same, behind.announced, List.append_nil]
        rw [quiet]
        exact .kept (by rw [clients, OrderedMap.get_delete_of_ne _ (Ne.symm same),
          behind.clients])

theorem turn_of_step {server : RelayServer} {s t : State} {e : Event}
    (after : server.step s e = some t) (running : e ≠ .close) (uuid : String) :
    Turn server uuid s e t (news uuid s t).getLast? := by
  cases server.rosterMove_of_step after with
  | backstage behind => exact .of_backstage behind
  | joined accepted joined => exact .of_joined accepted joined
  | cleaned behind cleaned => exact .of_cleaned behind cleaned
  | shutDown => exact absurd rfl running

/-! ### Registrations -/

/-- In the run of `events`, the daemon registered at `start` with a hello that the server
accepted and stayed registered as `client` while `later` went on. -/
def Serving (server : RelayServer) (events : List WiredEvent) (client : ConnectedClient)
    (start : Nat) (later : List WiredEvent) : Prop :=
  ∃ earlier t e t' ws certPoint hello, events = earlier ++ .relay e :: later ∧
    (wired server).run earlier = some t ∧ (wired server).step t (.relay e) = some t' ∧
    HelloAccepted server t.relay e ws certPoint hello ∧
    client = ⟨ws, server.crypto.uuidFromP256Point certPoint, certPoint,
      base64Decode hello.decryptPubkey.toList⟩ ∧
    t'.relay.now = start ∧
    ∀ middle u, middle <+: later →
      (wired server).run (earlier ++ .relay e :: middle) = some u →
        u.relay.clients.get client.uuid = some client

/-- A registration goes on. -/
theorem Serving.concat {server : RelayServer} {events later : List WiredEvent}
    {client : ConnectedClient} {start : Nat} {s' : WiredState} {e : WiredEvent}
    (serving : Serving server events client start later)
    (ran : (wired server).run (events ++ [e]) = some s')
    (present : s'.relay.clients.get client.uuid = some client) :
    Serving server (events ++ [e]) client start (later ++ [e]) := by
  obtain ⟨earlier, t, f, t', ws, certPoint, hello, split, before, after, accepted, same, clock,
    stays⟩ := serving
  refine ⟨earlier, t, f, t', ws, certPoint, hello, by rw [split]; simp, before, after, accepted,
    same, clock, ?_⟩
  intro middle u within reached
  rcases List.prefix_concat_iff.mp within with rfl | inside
  · have whole : earlier ++ .relay f :: (later ++ [e]) = events ++ [e] := by
      rw [split]
      simp
    rw [whole, ran] at reached
    exact Option.some.inj reached ▸ present
  · exact stays middle u inside reached

/-- A registration starts. -/
theorem Serving.start {server : RelayServer} {events : List WiredEvent} {s s' : WiredState}
    {e : Event} {ws : ConnId} {certPoint : Bytes} {hello : Hello}
    (before : (wired server).run events = some s)
    (after : (wired server).step s (.relay e) = some s')
    (accepted : HelloAccepted server s.relay e ws certPoint hello)
    (present : s'.relay.clients.get (server.crypto.uuidFromP256Point certPoint) =
      some ⟨ws, server.crypto.uuidFromP256Point certPoint, certPoint,
        base64Decode hello.decryptPubkey.toList⟩) :
    Serving server (events ++ [.relay e]) ⟨ws, server.crypto.uuidFromP256Point certPoint,
      certPoint, base64Decode hello.decryptPubkey.toList⟩ s'.relay.now [] := by
  refine ⟨events, s, e, s', ws, certPoint, hello, rfl, before, after, accepted, rfl, rfl, ?_⟩
  intro middle u within reached
  obtain rfl := List.prefix_nil.mp within
  rw [Machine.run_concat_of before after] at reached
  exact Option.some.inj reached ▸ present

/-! ### Tallies -/

/-- The collector's entry of a registered daemon tallies with the requests since it
registered. -/
structure Tallied (server : RelayServer) (uuid : String) (events : List WiredEvent) (now : Nat)
    (client : ConnectedClient) (entry : ClientMetricsEntry) (start : Nat)
    (later : List WiredEvent) : Prop where
  named : client.uuid = uuid
  serving : Serving server events client start later
  clock : now = start + elapsed later
  follows : entry.Follows uuid (arrivals uuid start later) now
  connectedAt : entry.connectedAt = start

/-- The entry after the collector counted `e`, when it is a request for the hook URL. -/
structure Counted (uuid : String) (e : WiredEvent) (now : Nat) (entry : ClientMetricsEntry)
    (start : Nat) (later : List WiredEvent) : Prop where
  follows : entry.Follows uuid
    (arrivals uuid start later ++ if e.requests uuid then [now] else []) now
  connectedAt : entry.connectedAt = start

theorem Tallied.concat {server : RelayServer} {uuid : String} {events later : List WiredEvent}
    {now start : Nat} {client : ConnectedClient} {entry entry' : ClientMetricsEntry}
    {s' : WiredState} {e : WiredEvent}
    (tallied : Tallied server uuid events now client entry start later)
    (counted : Counted uuid e now entry' start later)
    (ran : (wired server).run (events ++ [e]) = some s')
    (clock : s'.relay.now = now + e.elapsed)
    (present : s'.relay.clients.get uuid = some client) :
    Tallied server uuid (events ++ [e]) s'.relay.now client entry' start (later ++ [e]) where
  named := tallied.named
  serving := tallied.serving.concat ran (by rw [tallied.named, present])
  clock := by
    rw [clock, tallied.clock, elapsed_append_singleton]
    omega
  follows := by
    rw [arrivals_append_singleton, ← tallied.clock]
    exact counted.follows.later (by omega)
  connectedAt := counted.connectedAt

/-- Registry and collector agree on the uuid, and the entry tallies. -/
def Tally (server : RelayServer) (uuid : String) (events : List WiredEvent) (now : Nat) :
    Option ConnectedClient → Option ClientMetricsEntry → Prop :=
  Option.Rel fun client entry => ∃ start later,
    Tallied server uuid events now client entry start later

/-- The collector has counted `e`, which the relay server is about to take. -/
def Ahead (server : RelayServer) (uuid : String) (events : List WiredEvent) (e : WiredEvent)
    (now : Nat) : Option ConnectedClient → Option ClientMetricsEntry → Prop :=
  Option.Rel fun client entry' => ∃ entry start later,
    Tallied server uuid events now client entry start later ∧ Counted uuid e now entry' start later

section

variable {server : RelayServer} {uuid : String} {events : List WiredEvent} {e : WiredEvent}
  {now : Nat} {client : Option ConnectedClient} {entry : Option ClientMetricsEntry}

theorem Tally.ahead (tally : Tally server uuid events now client entry)
    (other : e.requests uuid = false) : Ahead server uuid events e now client entry := by
  cases tally with
  | none => exact .none
  | some tallies =>
      obtain ⟨start, later, tallied⟩ := tallies
      refine .some ⟨_, start, later, tallied, ?_, tallied.connectedAt⟩
      rw [other]
      simpa using tallied.follows

theorem ClientMetricsEntry.connectedAt_advance (entry : ClientMetricsEntry) (now : Nat) :
    (entry.advance now).connectedAt = entry.connectedAt := by
  unfold advance advanceHourBuckets advanceSecondBuckets
  split <;> split <;> rfl

/-- `record` counts the request. -/
theorem Tally.record (tally : Tally server uuid events now client entry)
    (request : e.requests uuid = true) :
    Ahead server uuid events e now client (entry.map fun entry => entry.record now) := by
  cases tally with
  | none => exact .none
  | some tallies =>
      obtain ⟨start, later, tallied⟩ := tallies
      refine .some ⟨_, start, later, tallied, ?_, ?_⟩
      · rw [if_pos request]
        exact tallied.follows.record
      · exact (ClientMetricsEntry.connectedAt_advance _ _).trans tallied.connectedAt

/-- `snapshot` counts nothing. -/
theorem Tally.observe (tally : Tally server uuid events now client entry) :
    Tally server uuid events now client (entry.map fun entry => entry.observe now) := by
  cases tally with
  | none => exact .none
  | some tallies =>
      obtain ⟨start, later, tallied⟩ := tallies
      refine .some ⟨start, later, { tallied with
        follows := tallied.follows.observe
        connectedAt := ?_ }⟩
      exact (ClientMetricsEntry.connectedAt_advance _ _).trans tallied.connectedAt

/-- The registration of the uuid goes on over one more event. -/
theorem Ahead.kept {s' : WiredState} (ahead : Ahead server uuid events e now client entry)
    (reached : (wired server).run (events ++ [e]) = some s')
    (unchanged : s'.relay.clients.get uuid = client) (clock : s'.relay.now = now + e.elapsed) :
    Tally server uuid (events ++ [e]) s'.relay.now (s'.relay.clients.get uuid) entry := by
  rw [unchanged]
  cases ahead with
  | none => exact .none
  | some tallies =>
      obtain ⟨_, start, later, tallied, counted⟩ := tallies
      exact .some ⟨start, later ++ [e], tallied.concat counted reached clock unchanged⟩

/-- Registry and collector stay in step when the collector hears what the relay server
announces. -/
theorem Ahead.turn {s s' : WiredState} {f : WiredEvent} {e : Event}
    {announcement : Option Announcement} {old : Option ClientMetricsEntry}
    (ahead : Ahead server uuid events f s.relay.now (s.relay.clients.get uuid) old)
    (turn : Turn server uuid s.relay e s'.relay announcement)
    (heard : Heard uuid s.relay.now old announcement entry)
    (before : (wired server).run events = some s) (after : (wired server).step s f = some s')
    (joins : ∀ ws certPoint hello, HelloAccepted server s.relay e ws certPoint hello →
      f = .relay e)
    (clock : s'.relay.now = s.relay.now + f.elapsed) :
    Tally server uuid (events ++ [f]) s'.relay.now (s'.relay.clients.get uuid) entry := by
  have reached := Machine.run_concat_of before after
  cases turn with
  | kept unchanged =>
      cases heard
      exact ahead.kept reached unchanged clock
  | left gone =>
      cases heard
      rw [gone]
      exact .none
  | joined accepted named present =>
      obtain rfl := joins _ _ _ accepted
      obtain ⟨frame, rfl, _⟩ := accepted.delivered
      subst named
      cases heard with
      | connected follows connectedAt =>
          rw [present]
          refine .some ⟨_, [], rfl, .start before after accepted present, rfl, ?_, ?_⟩
          · exact follows.later (by omega)
          · rw [connectedAt, clock]
            rfl

end

theorem now_of_step {server : RelayServer} {s t : State} {e : Event}
    (after : server.step s e = some t) : t.now = s.now + (WiredEvent.relay e).elapsed := by
  by_cases ticks : ∃ ms, e = .tick ms
  · obtain ⟨ms, rfl⟩ := ticks
    exact congrArg State.now (Option.some.inj after).symm
  · have still : (WiredEvent.relay e).elapsed = 0 := by
      unfold WiredEvent.elapsed
      split
      · rename_i ms same
        exact absurd ⟨ms, WiredEvent.relay.inj same⟩ ticks
      · rfl
    rw [still]
    exact (server.pulse_step after).now_eq fun ms same => ticks ⟨ms, same⟩

theorem Ahead.relayStep {server : RelayServer} {uuid : String} {events : List WiredEvent}
    {s s' : WiredState} {f : WiredEvent} {e : Event} {metrics : MetricsCollector}
    (ahead : Ahead server uuid events f s.relay.now (s.relay.clients.get uuid)
      (metrics.entries.get uuid))
    (stepped : Status.relayStep server { s with metrics := metrics } e = some s')
    (running : e ≠ .close) (before : (wired server).run events = some s)
    (after : (wired server).step s f = some s')
    (joins : ∀ ws certPoint hello, HelloAccepted server s.relay e ws certPoint hello →
      f = .relay e)
    (clock : f.elapsed = (WiredEvent.relay e).elapsed) :
    Tally server uuid (events ++ [f]) s'.relay.now (s'.relay.clients.get uuid)
      (s'.metrics.entries.get uuid) := by
  obtain ⟨relay, step, rfl⟩ := Option.map_eq_some_iff.mp stepped
  apply ahead.turn (turn_of_step step running uuid) _ before after joins
  · rw [clock]
    exact now_of_step step
  · exact heard_foldl_listen s.relay.now uuid (relay.log.drop s.relay.log.length) metrics

theorem tally_step {server : RelayServer} {events : List WiredEvent} {s s' : WiredState}
    {f : WiredEvent} (before : (wired server).run events = some s)
    (after : (wired server).step s f = some s') (running : f ≠ .relay .close) {uuid : String}
    (tally : Tally server uuid events s.relay.now (s.relay.clients.get uuid)
      (s.metrics.entries.get uuid)) :
    Tally server uuid (events ++ [f]) s'.relay.now (s'.relay.clients.get uuid)
      (s'.metrics.entries.get uuid) := by
  have reached := Machine.run_concat_of before after
  cases f with
  | relay e =>
      have notClose : e ≠ .close := by
        rintro rfl
        exact running rfl
      exact (tally.ahead rfl).relayStep after notClose before after (fun _ _ _ _ => rfl) rfl
  | inbound other method path headers body id bufferedAmount =>
      have step := after
      simp only [wired, wiredStep] at step
      split at step
      · have joins : ∀ ws certPoint hello, HelloAccepted server s.relay
            (.forward other method path headers body id bufferedAmount) ws certPoint hello →
            WiredEvent.inbound other method path headers body id bufferedAmount =
              .relay (.forward other method path headers body id bufferedAmount) :=
          fun ws certPoint hello accepted =>
            absurd accepted (HelloAccepted.not_of_no_message (by simp) ws certPoint hello)
        refine Ahead.relayStep ?_ step (by simp) before after joins rfl
        by_cases same : other = uuid
        · subst same
          rw [MetricsCollector.record, OrderedMap.get_modify_self]
          exact tally.record (decide_eq_true rfl)
        · rw [MetricsCollector.record, OrderedMap.get_modify_of_ne _ _ same]
          exact tally.ahead (decide_eq_false same)
      · rename_i absent
        obtain rfl := Option.some.inj step
        -- A request for a uuid without an entry is refused before it is counted.
        by_cases same : other = uuid
        · subst same
          have missing : s.relay.clients.get other = none := by
            simpa [State.hasClient, OrderedMap.has] using absent
          rw [missing] at tally ⊢
          generalize s.metrics.entries.get other = entry at tally ⊢
          cases tally
          exact .none
        · have unasked : WiredEvent.requests uuid
              (.inbound other method path headers body id bufferedAmount) = false :=
            decide_eq_false same
          exact (tally.ahead unasked).kept reached rfl rfl
  | snapshot =>
      obtain rfl := Option.some.inj after
      rw [MetricsCollector.snapshot, OrderedMap.get_mapValues]
      exact (tally.observe.ahead rfl).kept reached rfl rfl

/-- Before `close`, in every state of every run. -/
theorem tally_run (server : RelayServer) {events : List WiredEvent} {s : WiredState}
    (ran : (wired server).run events = some s) (running : .relay .close ∉ events)
    (uuid : String) :
    Tally server uuid events s.relay.now (s.relay.clients.get uuid)
      (s.metrics.entries.get uuid) := by
  refine Machine.run_invariant (P := fun events s => .relay .close ∉ events →
    Tally server uuid events s.relay.now (s.relay.clients.get uuid)
      (s.metrics.entries.get uuid)) ?_ ?_ ran running
  · exact fun _ => Option.Rel.none
  · intro events s e s' before holds after notClosed
    rw [List.mem_append, not_or, List.mem_singleton] at notClosed
    exact tally_step before after (Ne.symm notClosed.2) (holds notClosed.1)

/-! ### The status page -/

theorem Tally.has_eq {server : RelayServer} {uuid : String} {events : List WiredEvent}
    {now : Nat} {client : Option ConnectedClient} {entry : Option ClientMetricsEntry}
    (tally : Tally server uuid events now client entry) : entry.isSome = client.isSome := by
  cases tally <;> rfl

/-- At every moment before `close` the status page has exactly the registered daemons,
each under the registration it holds; its total is the number of requests for its hook
URL that came in since it registered, and its rates are those of the times they came in,
up to the width of a cell. -/
theorem page_shows_traffic (server : RelayServer) {events : List WiredEvent} {s : WiredState}
    (ran : (wired server).run events = some s) (running : .relay .close ∉ events) :
    let shown := (s.metrics.snapshot s.relay.now).2
    shown.connectedClients = s.relay.clients.entries.length ∧
    (shown.clients.map ClientSnapshot.uuid).Perm s.relay.clients.keys ∧
    ∀ client ∈ shown.clients, ∃ registered later,
      s.relay.clients.get client.uuid = some registered ∧
      Serving server events registered client.connectedAt later ∧
      client.totalRequests = later.countP (WiredEvent.requests client.uuid) ∧
      client.Figures (arrivals client.uuid client.connectedAt later) s.relay.now ∧
      (FitCells (arrivals client.uuid client.connectedAt later) →
        client.ExactFigures (arrivals client.uuid client.connectedAt later) s.relay.now) := by
  have tally := tally_run server ran running
  have entryTally : ∀ uuid entry, s.metrics.entries.get uuid = some entry →
      ∃ registered start later, s.relay.clients.get uuid = some registered ∧
        Tallied server uuid events s.relay.now registered entry start later := by
    intro uuid entry present
    have related := tally uuid
    rw [present] at related
    generalize s.relay.clients.get uuid = client at related ⊢
    cases related with
    | some tallies =>
        obtain ⟨start, later, tallied⟩ := tallies
        exact ⟨_, start, later, rfl, tallied⟩
  have keys : s.metrics.entries.keys.Perm s.relay.clients.keys :=
    OrderedMap.keys_perm fun uuid => (tally uuid).has_eq
  refine ⟨?_, ?_, ?_⟩
  · have counted := keys.length_eq
    simp only [OrderedMap.keys, List.length_map] at counted
    simpa [MetricsCollector.snapshot, OrderedMap.mapValues] using counted
  · have shown : (s.metrics.shown s.relay.now).map ClientSnapshot.uuid =
        s.metrics.entries.keys := by
      rw [MetricsCollector.shown, List.map_map]
      apply List.map_congr_left
      rintro ⟨uuid, entry⟩ member
      obtain ⟨_, _, _, _, tallied⟩ :=
        entryTally uuid entry ((s.metrics.entries.mem_entries_iff uuid entry).mp member)
      exact tallied.follows.observe.uuid_eq
    exact ((s.metrics.clients_perm s.relay.now).map ClientSnapshot.uuid).trans
      (shown ▸ keys)
  · intro client member
    obtain ⟨uuid, entry, present, rfl⟩ :=
      (s.metrics.mem_clients_iff_entry s.relay.now).mp member
    obtain ⟨registered, start, later, held, tallied⟩ := entryTally uuid entry present
    have named : ((entry.observe s.relay.now).snapshot s.relay.now).uuid = uuid :=
      tallied.follows.observe.uuid_eq
    have since : ((entry.observe s.relay.now).snapshot s.relay.now).connectedAt = start :=
      (ClientMetricsEntry.connectedAt_advance _ _).trans tallied.connectedAt
    have figures := tallied.follows.figures
    obtain ⟨pastSec, pastHour⟩ := tallied.follows.past
    rw [named, since]
    refine ⟨registered, later, held, tallied.serving, ?_, figures,
      figures.exact pastSec pastHour⟩
    rw [figures.totalRequests, length_arrivals]

namespace Sample

open DicodeRelay.Relay.Sample

/-- A daemon registers, a request for its hook comes in, and 1.5 s pass. -/
def visit : List WiredEvent :=
  admission.map .relay ++
    [.inbound uuidA "POST" "/hooks/build" .empty [] requestId 0, .relay (.tick 1500)]

theorem visits : ∃ s, (wired server).run visit = some s ∧ s.relay.now = 1500 ∧
    s.relay.clients.keys = [uuidA] := by
  obtain ⟨metrics, joined⟩ := wired_run_relay server run_admission
  have registered : admitted.hasClient uuidA = true := by
    have present : admitted.clients.get uuidA = some clientA := enrolled_admitted.entry
    rw [State.hasClient, OrderedMap.has, present]
    rfl
  have forwards : ((server.step admitted forwardA).map fun relay =>
      (relay.now, relay.clients.keys)) = some (0, [uuidA]) := by decide +kernel
  obtain ⟨relay, forwarded, same⟩ := Option.map_eq_some_iff.mp forwards
  obtain ⟨now, keys⟩ := Prod.mk.inj same
  have split : visit = (admission.map .relay ++
      [.inbound uuidA "POST" "/hooks/build" .empty [] requestId 0]) ++ [.relay (.tick 1500)] :=
    rfl
  have asked : (wired server).run (admission.map .relay ++
      [.inbound uuidA "POST" "/hooks/build" .empty [] requestId 0]) =
        some ⟨relay, (relay.log.drop admitted.log.length).foldl
          (MetricsCollector.listen admitted.now) (metrics.record uuidA admitted.now)⟩ := by
    apply Machine.run_concat_of joined
    simp only [wired, wiredStep]
    rw [if_pos registered]
    exact Option.map_eq_some_iff.mpr ⟨relay, forwarded, rfl⟩
  rw [split]
  refine ⟨_, Machine.run_concat_of asked rfl, ?_, keys⟩
  show relay.now + 1500 = 1500
  rw [now]

/-- The only registration is the one of the hello. -/
theorem later_of_serving {client : ConnectedClient} {start : Nat} {later : List WiredEvent}
    (serving : Serving server visit client start later) :
    start = 0 ∧ later =
      [.inbound uuidA "POST" "/hooks/build" .empty [] requestId 0, .relay (.tick 1500)] := by
  obtain ⟨earlier, t, e, t', ws, certPoint, hello, split, ran, stepped, accepted, _, now, _⟩ :=
    serving
  obtain ⟨frame, rfl, _⟩ := accepted.delivered
  have registered : (wired server).run (earlier ++ [.relay (.message ws frame)]) = some t' :=
    Machine.run_concat_of ran stepped
  rcases earlier with _ | ⟨first, _ | ⟨second, _ | ⟨third, _ | ⟨fourth, rest⟩⟩⟩⟩ <;>
    simp only [visit, admission, List.map_cons, List.map_nil, List.cons_append, List.nil_append,
      List.cons.injEq, WiredEvent.relay.injEq, reduceCtorEq, false_and, and_false] at split
  · obtain ⟨rfl, ⟨rfl, rfl⟩, rfl⟩ := split
    obtain ⟨metrics, joined⟩ := wired_run_relay server run_admission
    have same : t' = ⟨admitted, metrics⟩ := Option.some.inj (registered.symm.trans joined)
    refine ⟨?_, rfl⟩
    rw [← now, same]
    rfl
  · simp at split

end Sample

/-- A second and a half after the request the page has it in the hour and in the day,
but no longer in the second. -/
theorem page_shows_traffic_visit : ∃ s client,
    (wired Relay.Sample.server).run Sample.visit = some s ∧
      (s.metrics.snapshot s.relay.now).2.connectedClients = 1 ∧
      client ∈ (s.metrics.snapshot s.relay.now).2.clients ∧
      client.uuid = Relay.Sample.uuidA ∧ client.connectedAt = 0 ∧ client.totalRequests = 1 ∧
      client.reqPerSec = 0 ∧ client.reqPerHour = 1 ∧ client.reqPerDay = 1 := by
  obtain ⟨s, ran, now, keys⟩ := Sample.visits
  obtain ⟨count, listed, figures⟩ := page_shows_traffic Relay.Sample.server ran
    (by simp [Sample.visit, Relay.Sample.admission])
  have shown : Relay.Sample.uuidA ∈
      (s.metrics.snapshot s.relay.now).2.clients.map ClientSnapshot.uuid := by
    rw [listed.mem_iff, keys]
    exact List.mem_singleton_self _
  obtain ⟨client, member, uuid⟩ := List.mem_map.mp shown
  obtain ⟨registered, later, _, serving, _, _, exact⟩ := figures client member
  obtain ⟨start, rfl⟩ := Sample.later_of_serving serving
  have times : arrivals client.uuid client.connectedAt
      [.inbound Relay.Sample.uuidA "POST" "/hooks/build" .empty [] Relay.Sample.requestId 0,
        .relay (.tick 1500)] = [0] := by
    rw [uuid, start]
    decide +kernel
  rw [times, now] at exact
  have rates := exact fun hour => lt_of_le_of_lt List.countP_le_length (by decide)
  have single : s.relay.clients.entries.length = 1 := by
    have length := congrArg List.length keys
    rwa [OrderedMap.keys, List.length_map] at length
  refine ⟨s, client, ran, count.trans single, member, uuid, start, rates.totalRequests, ?_, ?_, ?_⟩
  · rw [rates.reqPerSec]
    decide
  · rw [rates.reqPerHour]
    decide
  · rw [rates.reqPerDay]
    decide

end DicodeRelay.Status
