import DicodeRelay.Relay.Announcements
import DicodeRelay.Status.Metrics

/-!
Contract: the relay server with the metrics collector that `startServer` wires
to it.

Owns:
- the listeners on `client:connected` and `client:disconnected`;
- the inbound request that is counted before it is forwarded;
- that the collector has an entry for exactly the registered uuids.

Does not own: the HTTP answer to an inbound request.
-/

namespace DicodeRelay.Status

open DicodeRelay.Lib DicodeRelay.Shared DicodeRelay.Relay

/-- What the listeners of `startServer` do with an emitted event. -/
def MetricsCollector.listen (nowMs : Nat) (c : MetricsCollector) : Effect → MetricsCollector
  | .clientConnected uuid => c.registerClient uuid nowMs
  | .clientDisconnected uuid => c.removeClient uuid
  | _ => c

structure WiredState where
  relay : State
  metrics : MetricsCollector

inductive WiredEvent where
  | relay (e : Event)
  /-- `forwardToClient`. -/
  | inbound (uuid method path : String) (headers : Headers) (body : Bytes) (id : String)
      (bufferedAmount : Nat)
  | snapshot

/-- The events that the relay server emits in a step reach the listeners in
order. -/
def relayStep (server : RelayServer) (s : WiredState) (e : Event) : Option WiredState :=
  (server.step s.relay e).map fun relay =>
    ⟨relay, (relay.log.drop s.relay.log.length).foldl (MetricsCollector.listen s.relay.now)
      s.metrics⟩

def wiredStep (server : RelayServer) (s : WiredState) : WiredEvent → Option WiredState
  | .relay e => relayStep server s e
  | .inbound uuid method path headers body id bufferedAmount =>
      if s.relay.hasClient uuid then
        relayStep server { s with metrics := s.metrics.record uuid s.relay.now }
          (.forward uuid method path headers body id bufferedAmount)
      else some s
  | .snapshot => some { s with metrics := (s.metrics.snapshot s.relay.now).1 }

/-- The runs of a started server. -/
def wired (server : RelayServer) : Machine WiredState WiredEvent where
  init := ⟨State.init, .new⟩
  step := wiredStep server

/-! ### The collector follows the announcements -/

/-- The collector tracks the uuid exactly when its last announcement is that it
connected. -/
theorem tracks_foldl_listen (nowMs : Nat) (uuid : String) (effects : List Effect)
    (c : MetricsCollector) (before : List Announcement)
    (tracks : c.tracks uuid = true ↔ before.getLast? = some .connected) :
    (effects.foldl (MetricsCollector.listen nowMs) c).tracks uuid = true ↔
      (before ++ effects.filterMap (Effect.announces uuid)).getLast? = some .connected := by
  induction effects generalizing c before with
  | nil => simpa using tracks
  | cons effect rest inductionHypothesis =>
      rw [List.foldl_cons]
      have unheard : effect.announces uuid = none →
          (c.listen nowMs effect).tracks uuid = c.tracks uuid →
          ((rest.foldl (MetricsCollector.listen nowMs) (c.listen nowMs effect)).tracks uuid =
              true ↔
            (before ++ (effect :: rest).filterMap (Effect.announces uuid)).getLast? =
              some .connected) := by
        intro silent same
        rw [List.filterMap_cons_none silent]
        apply inductionHypothesis
        rw [same]
        exact tracks
      have heard : ∀ announcement, effect.announces uuid = some announcement →
          ((c.listen nowMs effect).tracks uuid = true ↔ announcement = .connected) →
          ((rest.foldl (MetricsCollector.listen nowMs) (c.listen nowMs effect)).tracks uuid =
              true ↔
            (before ++ (effect :: rest).filterMap (Effect.announces uuid)).getLast? =
              some .connected) := by
        intro announcement spoken now
        have regrouped : before ++ (effect :: rest).filterMap (Effect.announces uuid) =
            (before ++ [announcement]) ++ rest.filterMap (Effect.announces uuid) := by
          rw [List.filterMap_cons_some spoken]
          simp
        rw [regrouped]
        apply inductionHypothesis
        simpa using now
      cases effect with
      | clientConnected other =>
          by_cases same : other = uuid
          · exact heard .connected (if_pos same) (by simp [MetricsCollector.listen, same])
          · exact unheard (if_neg same) (by simp [MetricsCollector.listen, same])
      | clientDisconnected other =>
          by_cases same : other = uuid
          · exact heard .disconnected (if_pos same) (by simp [MetricsCollector.listen, same])
          · exact unheard (if_neg same) (by simp [MetricsCollector.listen, same])
      | _ => exact unheard rfl rfl

/-- The collector tracks the uuids whose last announcement is that they
connected. -/
def WiredState.Follows (s : WiredState) (uuid : String) : Prop :=
  s.metrics.tracks uuid = true ↔ (s.relay.announced uuid).getLast? = some .connected

theorem follows_relayStep {server : RelayServer} {s s' : WiredState} {e : Event}
    (after : relayStep server s e = some s') {uuid : String} (follows : s.Follows uuid) :
    server.step s.relay e = some s'.relay ∧ s'.Follows uuid := by
  obtain ⟨relay, stepped, rfl⟩ := Option.map_eq_some_iff.mp after
  refine ⟨stepped, ?_⟩
  obtain ⟨new, grown⟩ := server.log_step stepped
  have emitted : relay.log.drop s.relay.log.length = new := by
    rw [← grown, List.drop_left]
  have announced : relay.announced uuid =
      s.relay.announced uuid ++ new.filterMap (Effect.announces uuid) := by
    rw [State.announced, ← grown, List.filterMap_append]
    rfl
  unfold WiredState.Follows
  rw [emitted, announced]
  exact tracks_foldl_listen _ _ _ _ _ follows

/-- Registry, announcements and collector agree on the uuid. -/
structure WiredState.InStep (s : WiredState) (uuid : String) : Prop where
  mirrored : s.relay.Mirrored uuid
  follows : s.Follows uuid

theorem WiredState.InStep.relayStep {server : RelayServer} {s s' : WiredState} {e : Event}
    {uuid : String} (inStep : s.InStep uuid) (running : e ≠ .close)
    (after : Status.relayStep server s e = some s') : s'.InStep uuid := by
  obtain ⟨stepped, follows⟩ := follows_relayStep after inStep.follows
  exact ⟨(server.rosterMove_of_step stepped).mirrored running inStep.mirrored, follows⟩

theorem WiredState.InStep.step {server : RelayServer} {s s' : WiredState} {e : WiredEvent}
    {uuid : String} (inStep : s.InStep uuid) (running : e ≠ .relay .close)
    (after : wiredStep server s e = some s') : s'.InStep uuid := by
  cases e with
  | relay e =>
      apply inStep.relayStep _ after
      rintro rfl
      exact running rfl
  | inbound other method path headers body id bufferedAmount =>
      simp only [wiredStep] at after
      split at after
      · have counted : WiredState.InStep
            { s with metrics := s.metrics.record other s.relay.now } uuid :=
          ⟨inStep.mirrored, by
            unfold WiredState.Follows
            rw [MetricsCollector.tracks_record]
            exact inStep.follows⟩
        exact counted.relayStep (by simp) after
      · obtain rfl := Option.some.inj after
        exact inStep
  | snapshot =>
      obtain rfl := Option.some.inj after
      refine ⟨inStep.mirrored, ?_⟩
      unfold WiredState.Follows
      rw [MetricsCollector.tracks_snapshot]
      exact inStep.follows

theorem inStep_run (server : RelayServer) {events : List WiredEvent} {s : WiredState}
    (ran : (wired server).run events = some s) (running : .relay .close ∉ events)
    (uuid : String) : s.InStep uuid := by
  refine Machine.run_invariant (P := fun events s => .relay .close ∉ events → s.InStep uuid)
    ?_ ?_ ran running
  · intro _
    refine ⟨⟨⟨?_, List.isChain_nil⟩, ?_⟩, ?_⟩ <;>
      simp [wired, State.announced, State.init, State.hasClient, OrderedMap.has,
        WiredState.Follows]
  · intro events s e s' _ holds after notClosed
    rw [List.mem_append, not_or, List.mem_singleton] at notClosed
    exact (holds notClosed.1).step (Ne.symm notClosed.2) after

/-- Before `close`, the announcements of each uuid take strict turns from
`connected` on and the uuid is registered exactly when the last one is
`connected`; the wired collector has an entry for exactly the registered
uuids. -/
theorem announcements_mirror_registry (server : RelayServer) :
    (∀ events s, server.machine.run events = some s → .close ∉ events → ∀ uuid,
      StrictTurns (s.announced uuid) ∧
        ((s.announced uuid).getLast? = some .connected ↔ s.hasClient uuid = true)) ∧
    (∀ events s, (wired server).run events = some s → .relay .close ∉ events → ∀ uuid,
      StrictTurns (s.relay.announced uuid) ∧
        ((s.relay.announced uuid).getLast? = some .connected ↔
          s.relay.hasClient uuid = true) ∧
        (s.metrics.tracks uuid = true ↔ s.relay.hasClient uuid = true)) := by
  constructor
  · intro events s ran running uuid
    exact server.mirrored_run ran running uuid
  · intro events s ran running uuid
    have inStep := inStep_run server ran running uuid
    exact ⟨inStep.mirrored.1, inStep.mirrored.2, inStep.follows.trans inStep.mirrored.2⟩

/-- What happens to the relay server happens to it in the started server. -/
theorem wired_run_relay (server : RelayServer) {events : List Event} {relay : State}
    (ran : server.machine.run events = some relay) :
    ∃ metrics, (wired server).run (events.map .relay) = some ⟨relay, metrics⟩ := by
  refine Machine.run_invariant (P := fun events relay => ∃ metrics,
    (wired server).run (events.map .relay) = some ⟨relay, metrics⟩) ⟨.new, rfl⟩ ?_ ran
  intro events s e s' _ wiredRun after
  obtain ⟨metrics, before⟩ := wiredRun
  have stepped : (wired server).step ⟨s, metrics⟩ (.relay e) =
      some ⟨s', (s'.log.drop s.log.length).foldl (MetricsCollector.listen s.now) metrics⟩ :=
    Option.map_eq_some_iff.mpr ⟨s', after, rfl⟩
  rw [List.map_append]
  exact ⟨_, Machine.run_concat_of before stepped⟩

/-- A daemon reconnects: connected, replaced, connected again. -/
def Sample.reconnect : List WiredEvent :=
  [.relay (.connection 0 (Relay.Sample.certificate Relay.Sample.signPointA)),
    .relay (.message 0 (Relay.Sample.helloFrame Relay.Sample.decryptPointA)),
    .relay (.connection 1 (Relay.Sample.certificate Relay.Sample.signPointA)),
    .relay (.message 1 (Relay.Sample.helloFrame Relay.Sample.decryptPointA)),
    .relay (.wsClose 0)]

theorem announcements_mirror_registry_reconnect : ∃ s,
    (wired Relay.Sample.server).run Sample.reconnect = some s ∧
      StrictTurns (s.relay.announced Relay.Sample.uuidA) ∧
      (s.metrics.tracks Relay.Sample.uuidA = true ↔
        s.relay.hasClient Relay.Sample.uuidA = true) := by
  have joins := Relay.Sample.server.admits (Relay.Sample.enrolled_admitted.others 1 Nat.zero_ne_one)
    Relay.Sample.enrolled_admitted.running Relay.Sample.certified_signPointA
    (Relay.Sample.decode_helloFrame Relay.Sample.decryptPointA) Relay.Sample.valid_decryptPointA
  obtain ⟨relay, reconnects⟩ : ∃ relay, Relay.Sample.server.machine.run
      ((Relay.Sample.admission ++ [.connection 1 (Relay.Sample.certificate Relay.Sample.signPointA),
        .message 1 (Relay.Sample.helloFrame Relay.Sample.decryptPointA)]) ++ [.wsClose 0]) =
      some relay := by
    rw [Machine.run_append, Machine.run_append, Relay.Sample.run_admission, Option.bind_some,
      Relay.Sample.certificate, joins, Option.bind_some]
    exact Option.isSome_iff_exists.mp (by decide +kernel)
  obtain ⟨metrics, ran⟩ := wired_run_relay Relay.Sample.server reconnects
  have mirrors := (announcements_mirror_registry Relay.Sample.server).2 Sample.reconnect _ ran
    (by simp [Sample.reconnect]) Relay.Sample.uuidA
  exact ⟨_, ran, mirrors.1, mirrors.2.2⟩

end DicodeRelay.Status
