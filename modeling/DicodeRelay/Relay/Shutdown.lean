import DicodeRelay.Relay.Announcements
import DicodeRelay.Relay.Sockets

/-!
Contract: what is final about `close`.

Owns:
- the sockets `close` terminates;
- what must not happen any more once the server was closed;
- that the shutdown of a run is final exactly when it is orderly: `close` found
  every socket registered or already terminated, and no hello was accepted later.

Does not own: the WebSocket library, which calls back when every socket is gone.
-/

namespace DicodeRelay.Relay

open DicodeRelay.Lib DicodeRelay.Shared

/-- From `s` on the registry stayed empty, nothing was announced as connected
and no keepalive timer was started. -/
structure StaysShut (s t : State) : Prop where
  empty : ∀ uuid, t.clients.get uuid = none
  silent : ∃ more, t.log = s.log ++ more ∧ ∀ uuid, .clientConnected uuid ∉ more
  intervals : t.pingTimers.next = s.pingTimers.next
  timeouts : t.pongTimers.next = s.pongTimers.next

/-- Whenever `close` is called in the run, it leaves every socket that is still
there terminated, and the server stays shut in every later state. -/
structure ShutdownFinal (server : RelayServer) (events : List Event) : Prop where
  terminated : ∀ earlier s s', server.machine.StepAt events earlier s .close s' →
    ∀ ws, s.live ws = true → .terminate ws ∈ s'.log
  shut : ∀ earlier s s' later t, server.machine.StepAt events earlier s .close s' →
    earlier ++ .close :: later <+: events →
    server.machine.run (earlier ++ .close :: later) = some t → StaysShut s' t

/-- `close` finds every socket that is still there registered or already
terminated, and no hello is accepted after it. -/
structure OrderlyShutdown (server : RelayServer) (events : List Event) : Prop where
  known : ∀ earlier s s', server.machine.StepAt events earlier s .close s' →
    ∀ ws, s.live ws = true →
      (∃ client ∈ s.clients.values, client.ws = ws) ∨ .terminate ws ∈ s.log
  noHello : ∀ earlier s e s', server.machine.StepAt events earlier s e s' →
    .close ∈ earlier → ∀ ws certPoint hello, ¬ HelloAccepted server s e ws certPoint hello

/-! ### What `close` terminates -/

theorem State.terminated_terminateClients (s : State) {clients : List ConnectedClient}
    {client : ConnectedClient} (member : client ∈ clients) :
    .terminate client.ws ∈ (s.terminateClients clients).log := by
  induction clients generalizing s with
  | nil => contradiction
  | cons head rest inductionHypothesis =>
      rcases List.mem_cons.mp member with rfl | inRest
      · have logged : .terminate client.ws ∈ (s.terminate client.ws).log := by
          rw [Sinks.terminate_eq]
          exact List.mem_append_right _ (by simp)
        exact ((Backstage.refl _).terminateClients rest).grows.subset logged
      · exact inductionHypothesis _ inRest

theorem State.terminated_close (s : State) (ws : ConnId) :
    .terminate ws ∈ s.close.log ↔
      (∃ client ∈ s.clients.values, client.ws = ws) ∨ .terminate ws ∈ s.log := by
  have kept : (s.rejectPending s.pending.entries).clearPending.clients = s.clients :=
    s.clients_rejectPending s.pending.entries
  constructor
  · intro member
    have sinks := (Sinks.refl (fun ws => ∃ client ∈ s.clients.values, client.ws = ws) s).close
      fun client registered => ⟨client, registered, rfl⟩
    exact (sinks.terminated ws member).symm
  · rintro (⟨client, registered, rfl⟩ | before)
    · exact State.terminated_terminateClients _ (kept ▸ registered)
    · exact s.log_close.1.subset before

/-! ### After `close` -/

/-- A closed server with nothing left: no socket is open, nobody is registered. -/
structure State.Sunk (s : State) : Prop where
  closing : s.closing = true
  noneOpen : ∀ ws, s.readyState ws ≠ .opened
  empty : ∀ uuid, s.clients.get uuid = none

/-- `close` sinks a server whose sockets are registered or terminated. -/
theorem State.sunk_close {s : State} (afloat : s.Afloat)
    (known : ∀ ws, s.live ws = true →
      (∃ client ∈ s.clients.values, client.ws = ws) ∨ .terminate ws ∈ s.log) : s.close.Sunk := by
  refine ⟨rfl, ?_, fun _ => rfl⟩
  intro ws opened
  have sinks := (Sinks.refl (fun ws => ∃ client ∈ s.clients.values, client.ws = ws) s).close
    fun client registered => ⟨client, registered, rfl⟩
  obtain ⟨before, log, _⟩ := sinks.opened ws opened
  obtain ⟨notTerminated, notEmitted⟩ := afloat.opened ws before
  apply notTerminated
  apply log
  apply (s.terminated_close ws).mpr
  apply known
  unfold State.live
  cases found : s.conns.get ws with
  | none =>
      have present := State.opened_isSome before
      rw [found] at present
      contradiction
  | some conn =>
      rw [State.closeEmitted, found] at notEmitted
      simpa using notEmitted

theorem StaysShut.refl {s : State} (sunk : s.Sunk) : StaysShut s s :=
  ⟨sunk.empty, ⟨[], by simp⟩, rfl, rfl⟩

theorem StaysShut.trans {s t u : State} (first : StaysShut s t) (second : StaysShut t u) :
    StaysShut s u where
  empty := second.empty
  silent := by
    obtain ⟨one, log, quiet⟩ := first.silent
    obtain ⟨two, log', quiet'⟩ := second.silent
    refine ⟨one ++ two, by rw [log', log, List.append_assoc], ?_⟩
    intro uuid member
    rcases List.mem_append.mp member with inFirst | inSecond
    · exact quiet uuid inFirst
    · exact quiet' uuid inSecond
  intervals := second.intervals.trans first.intervals
  timeouts := second.timeouts.trans first.timeouts

/-- A log whose announcements do not grow announces nobody as connected. -/
theorem State.silent_of_announced {s t : State} (grows : s.log <+: t.log)
    (announced : ∀ uuid, t.announced uuid = s.announced uuid) :
    ∃ more, t.log = s.log ++ more ∧ ∀ uuid, .clientConnected uuid ∉ more := by
  obtain ⟨more, log⟩ := grows
  refine ⟨more, log.symm, ?_⟩
  intro uuid member
  have nothing := announced uuid
  rw [State.announced, ← log, List.filterMap_append, State.announced,
    List.append_right_eq_self, List.filterMap_eq_nil_iff] at nothing
  simpa [Effect.announces] using nothing _ member

/-- A sunk server that accepts no hello stays shut, and sunk. -/
theorem State.Sunk.step {server : RelayServer} {s s' : State} {e : Event} (sunk : s.Sunk)
    (noHello : ∀ ws certPoint hello, ¬ HelloAccepted server s e ws certPoint hello)
    (after : server.step s e = some s') : StaysShut s s' ∧ s'.Sunk := by
  have roster : (∀ uuid, s'.clients.get uuid = none) ∧ s.log <+: s'.log ∧
      (∀ uuid, s'.announced uuid = s.announced uuid) ∧
      s'.pingTimers.next = s.pingTimers.next := by
    cases server.rosterMove_of_step after with
    | backstage behind =>
        exact ⟨behind.clients ▸ sunk.empty, behind.grows, behind.announced, behind.intervals⟩
    | joined accepted => exact absurd accepted (noHello _ _ _)
    | cleaned behind cleaned =>
        have empty := behind.clients ▸ sunk.empty
        cases cleaned with
        | backstage more =>
            have both := behind.trans more
            exact ⟨both.clients ▸ sunk.empty, both.grows, both.announced, both.intervals⟩
        | left present =>
            rw [empty] at present
            contradiction
    | shutDown => exact ⟨fun _ => rfl, s.log_close⟩
  have sockets : s'.closing = true ∧ (∀ ws, s'.readyState ws ≠ .opened) ∧
      s'.pongTimers.next = s.pongTimers.next := by
    cases server.socketMove_of_step after with
    | accepted _ running =>
        rw [sunk.closing] at running
        contradiction
    | pinged _ _ opened => exact absurd opened (sunk.noneOpen _)
    | sinks sinks =>
        refine ⟨sinks.closing sunk.closing, ?_, sinks.pongNext⟩
        intro ws opened
        exact sunk.noneOpen ws (sinks.opened ws opened).1
  obtain ⟨empty, grows, announced, intervals⟩ := roster
  obtain ⟨closing, noneOpen, timeouts⟩ := sockets
  exact ⟨⟨empty, State.silent_of_announced grows announced, intervals, timeouts⟩,
    ⟨closing, noneOpen, empty⟩⟩

/-! ### Every run -/

theorem OrderlyShutdown.shut {server : RelayServer} {events : List Event}
    (orderly : OrderlyShutdown server events) {earlier : List Event} {s s' : State}
    (step : server.machine.StepAt events earlier s .close s') {later : List Event} {t : State}
    (within : earlier ++ .close :: later <+: events)
    (ran : server.machine.run (earlier ++ .close :: later) = some t) :
    StaysShut s' t ∧ t.Sunk := by
  induction later using List.reverseRecOn generalizing t with
  | nil =>
      rw [Machine.run_concat_of step.before step.after] at ran
      obtain rfl := Option.some.inj ran
      obtain rfl := Option.some.inj step.after
      have sunk := State.sunk_close (server.afloat_run step.before) (orderly.known _ _ _ step)
      exact ⟨.refl sunk, sunk⟩
  | append_singleton later last inductionHypothesis =>
      have regrouped : earlier ++ .close :: (later ++ [last]) =
          (earlier ++ .close :: later) ++ [last] := by simp
      rw [regrouped] at ran within
      obtain ⟨middle, before, after⟩ := Machine.run_concat_inv ran
      obtain ⟨shut, sunk⟩ := inductionHypothesis ((List.prefix_append _ _).trans within) before
      obtain ⟨rest, split⟩ := within
      have lastStep : server.machine.StepAt events (earlier ++ .close :: later) middle last t :=
        ⟨⟨rest, by rw [← split]; simp⟩, before, after⟩
      obtain ⟨more, sunk'⟩ := sunk.step (orderly.noHello _ _ _ _ lastStep (by simp)) after
      exact ⟨shut.trans more, sunk'⟩

theorem ShutdownFinal.noHello {server : RelayServer} {events : List Event}
    (shutdown : ShutdownFinal server events) {earlier : List Event} {s s' : State} {e : Event}
    (step : server.machine.StepAt events earlier s e s') (closed : .close ∈ earlier)
    (ws : ConnId) (certPoint : Bytes) (hello : Hello) :
    ¬ HelloAccepted server s e ws certPoint hello := by
  intro accepted
  obtain ⟨before, after, rfl⟩ := List.append_of_mem closed
  obtain ⟨rest, split⟩ := step.split
  have whole : before ++ .close :: (after ++ [e]) <+: events := ⟨rest, by rw [split]; simp⟩
  have ran : server.machine.run (before ++ .close :: (after ++ [e])) = some s' := by
    have reached := Machine.run_concat_of step.before step.after
    rwa [List.append_assoc] at reached
  obtain ⟨middle, last, closing⟩ := Machine.exists_stepAt ran whole
  have empty := (shutdown.shut _ _ _ _ _ closing whole ran).empty
  cases server.rosterMove_of_step step.after with
  | @joined _ _ _ point _ _ joined =>
      have entry := joined.clients (server.crypto.uuidFromP256Point point)
      rw [if_pos rfl, empty] at entry
      contradiction
  | backstage _ noHello | cleaned _ _ _ noHello => exact noHello _ _ _ accepted
  | shutDown => exact HelloAccepted.not_of_no_message (by simp) _ _ _ accepted

/-- The shutdown of a run is final exactly when it is orderly. -/
theorem shutdown_final_iff_orderly (server : RelayServer) (events : List Event) :
    ShutdownFinal server events ↔ OrderlyShutdown server events := by
  constructor
  · intro shutdown
    refine ⟨?_, fun _ _ _ _ step => shutdown.noHello step⟩
    intro earlier s s' step ws live
    have terminated := shutdown.terminated _ _ _ step ws live
    obtain rfl := Option.some.inj step.after
    exact (s.terminated_close ws).mp terminated
  · intro orderly
    refine ⟨?_, fun _ _ _ _ _ step within ran => (orderly.shut step within ran).1⟩
    intro earlier s s' step ws live
    obtain rfl := Option.some.inj step.after
    exact (s.terminated_close ws).mpr (orderly.known _ _ _ step ws live)

theorem ShutdownFinal.not_of_registered {server : RelayServer} {earlier later : List Event}
    {t : State} (ran : server.machine.run (earlier ++ .close :: later) = some t) {uuid : String}
    (registered : t.hasClient uuid = true) :
    ¬ ShutdownFinal server (earlier ++ .close :: later) := by
  intro shutdown
  obtain ⟨s, s', closing⟩ := Machine.exists_stepAt ran List.prefix_rfl
  have empty := (shutdown.shut _ _ _ _ t closing List.prefix_rfl ran).empty uuid
  rw [State.hasClient, OrderedMap.has, empty] at registered
  contradiction

/-- A socket that was accepted before `close` registers after it. -/
theorem RelayServer.registers_late (server : RelayServer) {cert : PeerCertificate}
    {certPoint : Bytes} {frame : String} {hello : Hello}
    (certified : extractP256PointFromCert cert = some certPoint)
    (decoded : server.wire.decodeClient frame = .envelope (.hello hello))
    (valid : server.validateDecryptPubkey hello = none) :
    ∃ s, server.machine.run ([.connection 0 (some cert)] ++ .close :: [.message 0 frame]) =
      some (server.register s 0 certPoint hello) := by
  let accepted := State.init.accept 0 (Conn.accepted (some cert))
  have connects : server.machine.run ([] ++ [.connection 0 (some cert)]) = some accepted :=
    Machine.run_concat_of rfl
      (congrArg some (server.handleConnection_certified State.init 0 certified))
  have closes : server.machine.run (([] ++ [.connection 0 (some cert)]) ++ [.close]) =
      some accepted.close := Machine.run_concat_of connects rfl
  have outlives : accepted.close.conns.get 0 = some (Conn.accepted (some cert)) := rfl
  have greets := server.step_valid_hello outlives rfl certified rfl decoded valid
  exact ⟨accepted.close, Machine.run_concat_of closes greets⟩

/-- A daemon connects before the server is closed and says hello afterwards. -/
def Sample.lateHello : List Event :=
  [.connection 0 (Sample.certificate Sample.signPointA)] ++
    .close :: [.message 0 (Sample.helloFrame Sample.decryptPointA)]

/-- The socket outlives `close`, and its hello registers the daemon. -/
theorem shutdown_outlived :
    (Sample.server.machine.run Sample.lateHello).isSome = true ∧
      ¬ ShutdownFinal Sample.server Sample.lateHello := by
  obtain ⟨s, ran⟩ := Sample.server.registers_late Sample.certified_signPointA
    (Sample.decode_helloFrame Sample.decryptPointA) Sample.valid_decryptPointA
  have registered := (Sample.server.joined_register s 0 Sample.signPointA
    ⟨base64Encode Sample.decryptPointA⟩).clients
    (Sample.server.crypto.uuidFromP256Point Sample.signPointA)
  rw [if_pos rfl] at registered
  have present := congrArg Option.isSome registered
  exact ⟨Option.isSome_iff_exists.mpr ⟨_, ran⟩, ShutdownFinal.not_of_registered ran present⟩

end DicodeRelay.Relay
