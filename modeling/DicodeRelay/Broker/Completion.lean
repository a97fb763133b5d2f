import DicodeRelay.Broker.Delivery
import DicodeRelay.Relay.Correlation
import DicodeRelay.Relay.Deadlines

/-!
Contract: what stands behind "Authorization complete".

Owns:
- what one event does to one callback, and what a fleet's events are to the relay
  servers;
- that a browser is told so only after the envelope of its callback was handed to
  the open socket registered for the recipient and answered on that socket.

Does not own: what the daemon answers.
-/

namespace DicodeRelay.Broker

open DicodeRelay.Lib DicodeRelay.Shared DicodeRelay.Relay

/-! ### One callback -/

/-- The browser has the page for a completed authorization. -/
def CallbackPhase.Told : CallbackPhase → Prop
  | .answered reply _ => reply.status = 200
  | _ => False

/-- What one event does to the callback `req` of an instance. -/
inductive CallbackMove (router : BrokerRouter) (s s' : Instance) (req : Nat)
    (e : InstanceEvent) : Prop where
  | kept (same : s'.callbacks.get req = s.callbacks.get req)
  | aside {phase : CallbackPhase} (present : s'.callbacks.get req = some phase)
      (untold : ¬ phase.Told) (unsent : ∀ id session, phase ≠ .forwarding id session)
  | forwarded {random : DeliveryRandomness} {requestId id : String} {bufferedAmount : Nat}
      {delivery : Delivery} {session : Option FlowSession}
      (event : e = .encrypted req random requestId id bufferedAmount)
      (delivered : router.delivery s req random = some delivery)
      (present : s'.callbacks.get req = some (.forwarding id session))
  | told {id : String} {session : Option FlowSession} {response : ForwardResponse}
      (event : e = .settled req)
      (waiting : s.callbacks.get req = some (.forwarding id session))
      (resolved : .resolve id response ∈ s.relay.log)
      (unsent : ∀ id session, s'.callbacks.get req ≠ some (.forwarding id session))

/-- A callback that is refused is not told otherwise. -/
theorem BrokerRouter.status_of_refused {router : BrokerRouter} {seen seen' : SeenSet}
    {query : Query} {session session' : Option FlowSession} {checkedMs usedMs : Nat}
    {reply : HtmlReply}
    (received : router.receiveCallback seen query session checkedMs usedMs =
      (.refused reply session', seen')) : reply.status = 400 := by
  unfold receiveCallback at received
  split at received
  · cases received
    rfl
  · split at received
    · split at received
      · cases received
        rfl
      · split at received
        · cases received
          rfl
        · split at received
          · cases received
            rfl
          · split at received
            · cases received
              rfl
            · cases received
    · cases received
      rfl

/-- A step that sets one callback moves no other. -/
theorem CallbackMove.of_set {router : BrokerRouter} {s s' : Instance} {req other : Nat}
    {phase : CallbackPhase} {e : InstanceEvent}
    (callbacks : s'.callbacks = s.callbacks.set other phase)
    (moved : s'.callbacks.get other = some phase → other = req → CallbackMove router s s' req e) :
    CallbackMove router s s' req e := by
  by_cases own : other = req
  · apply moved _ own
    rw [callbacks, OrderedMap.get_set_self]
  · apply CallbackMove.kept
    rw [callbacks, OrderedMap.get_set_of_ne _ _ own]

theorem BrokerRouter.callbackMove_of_step {router : BrokerRouter} {now : Nat} {s s' : Instance}
    {e : InstanceEvent} (after : router.step now s e = some s') (req : Nat) :
    CallbackMove router s s' req e := by
  cases e with
  | relay e =>
      cases BrokerRouter.move_of_step after with
      | relay _ _ callbacks => exact .kept (by rw [callbacks])
  | auth =>
      cases BrokerRouter.move_of_step after with
      | auth _ same => exact .kept (by rw [same])
  | callback other query session elapsed =>
      cases BrokerRouter.move_of_step after with
      | callback _ received =>
          subst received
          cases outcome : router.receiveCallback s.seen query session (now - elapsed) now with
          | mk result seen =>
              cases result with
              | refused reply session' =>
                  have status := BrokerRouter.status_of_refused outcome
                  refine CallbackMove.of_set rfl ?_
                  rintro present rfl
                  apply CallbackMove.aside present
                  · simp [CallbackPhase.Told, status]
                  · simp
              | consumed flow tokens session' =>
                  refine CallbackMove.of_set rfl ?_
                  rintro present rfl
                  apply CallbackMove.aside present id
                  simp
  | encrypted other random requestId id bufferedAmount =>
      simp only [step, encrypted] at after
      split at after
      · rename_i flow tokens session present
        split at after
        · obtain rfl := Option.some.inj after
          refine CallbackMove.of_set rfl ?_
          rintro present rfl
          apply CallbackMove.aside present
          · simp [CallbackPhase.Told, htmlReply]
          · simp
        · obtain rfl := Option.some.inj after
          refine CallbackMove.of_set rfl ?_
          rintro present rfl
          apply CallbackMove.aside present (fun told => told)
          simp
        · rename_i payload built
          obtain ⟨relay, _, rfl⟩ := Option.map_eq_some_iff.mp after
          refine CallbackMove.of_set rfl ?_
          rintro now rfl
          exact .forwarded rfl (delivery_of_signed present built) now
      · contradiction
  | settled other =>
      simp only [step, Instance.settled] at after
      split at after
      · rename_i id session waiting
        obtain ⟨effect, found, rfl⟩ := Option.map_eq_some_iff.mp after
        have settles : effect.settledId = some id := by
          simpa using List.find?_some found
        have logged : effect ∈ s.relay.log := List.mem_of_find?_eq_some found
        cases effect with
        | resolve other' response =>
            cases settles
            refine CallbackMove.of_set rfl ?_
            rintro present rfl
            apply CallbackMove.told rfl waiting logged
            rw [present]
            simp
        | _ =>
            refine CallbackMove.of_set rfl ?_
            rintro present rfl
            apply CallbackMove.aside present
            · simp [CallbackPhase.Told, htmlReply]
            · simp
      · contradiction

section

variable {Id : Type} [DecidableEq Id] {fleet : Fleet Id}

theorem Fleet.callbackMove {s s' : FleetState Id} {e : FleetEvent Id}
    (after : fleet.machine.step s e = some s') (i : Id) (req : Nat) :
    (s'.inst i).callbacks.get req = (s.inst i).callbacks.get req ∨
      ∃ f, e = .on i f ∧ CallbackMove (fleet.router i) (s.inst i) (s'.inst i) req f := by
  rcases Fleet.inst_step after i with same | ⟨ms, _, ticked⟩ | ⟨f, event, stepped⟩
  · exact Or.inl (by rw [same])
  · exact Or.inl (by rw [ticked, Instance.callbacks_tick])
  · exact Or.inr ⟨f, event, BrokerRouter.callbackMove_of_step stepped req⟩

/-! ### The relay servers -/

/-- What an event of the fleet is to the relay server of `i`. -/
inductive OnRelay (fleet : Fleet Id) (i : Id) (s : FleetState Id) :
    FleetEvent Id → Relay.Event → Prop where
  | tick (ms : Nat) : OnRelay fleet i s (.tick ms) (.tick ms)
  | relay (e : Relay.Event) : OnRelay fleet i s (.on i (.relay e)) e
  | delivery {req : Nat} {random : DeliveryRandomness} {delivery : Delivery}
      (delivered : (fleet.router i).delivery (s.inst i) req random = some delivery)
      (requestId id : String) (bufferedAmount : Nat) :
      OnRelay fleet i s (.on i (.encrypted req random requestId id bufferedAmount))
        (BrokerRouter.forwardEvent delivery requestId id bufferedAmount)

theorem OnRelay.step {s s' : FleetState Id} {i : Id} {e : FleetEvent Id} {f : Relay.Event}
    (onRelay : OnRelay fleet i s e f) (after : fleet.machine.step s e = some s') :
    (fleet.router i).relay.step (s.inst i).relay f = some (s'.inst i).relay := by
  cases onRelay with
  | tick ms =>
      obtain rfl := Option.some.inj after
      rfl
  | relay f =>
      obtain ⟨next, stepped, rfl⟩ := Fleet.step_on after
      rw [Fleet.inst_replace_self]
      cases BrokerRouter.move_of_step stepped with
      | relay relayStepped => exact relayStepped
  | @delivery req random delivery delivered requestId id bufferedAmount =>
      obtain ⟨next, stepped, rfl⟩ := Fleet.step_on after
      rw [Fleet.inst_replace_self]
      simp only [BrokerRouter.step, BrokerRouter.encrypted] at stepped
      simp only [BrokerRouter.delivery] at delivered
      split at delivered
      · rename_i flow tokens session present
        simp only [present] at stepped
        split at delivered
        · rename_i payload built
          simp only [built, Option.map_eq_some_iff] at stepped
          obtain rfl := Option.some.inj delivered
          obtain ⟨relay, relayStepped, rfl⟩ := stepped
          exact relayStepped
        · contradiction
      · contradiction

/-- An event of the fleet is one to the relay server of `i`, or leaves it as it
is. -/
theorem Fleet.relay_step {s s' : FleetState Id} {e : FleetEvent Id}
    (after : fleet.machine.step s e = some s') (i : Id) :
    (s'.inst i).relay = (s.inst i).relay ∨ ∃ f, OnRelay fleet i s e f := by
  rcases Fleet.inst_step after i with same | ⟨ms, rfl, _⟩ | ⟨f, rfl, stepped⟩
  · exact Or.inl (congrArg Instance.relay same)
  · exact Or.inr ⟨_, .tick ms⟩
  · cases BrokerRouter.move_of_step stepped with
    | relay => exact Or.inr ⟨_, .relay _⟩
    | auth _ same => exact Or.inl (congrArg Instance.relay same)
    | callback _ received => exact Or.inl (by rw [received, Instance.relay_receive])
    | settled relay => exact Or.inl relay
    | @delivered req random requestId id bufferedAmount =>
        cases delivered : (fleet.router i).delivery (s.inst i) req random with
        | some delivery => exact Or.inr ⟨_, .delivery delivered requestId id bufferedAmount⟩
        | none =>
            left
            simp only [BrokerRouter.step, BrokerRouter.encrypted] at stepped
            simp only [BrokerRouter.delivery] at delivered
            split at stepped
            · rename_i flow tokens session present
              simp only [present] at delivered
              split at stepped
              · rw [← Option.some.inj stepped]
                rfl
              · rw [← Option.some.inj stepped]
                rfl
              · rename_i payload built
                simp [built] at delivered
            · contradiction

/-! ### Calls -/

/-- The step calls `forward` with `id` on `i`. -/
def Calls (fleet : Fleet Id) (i : Id) (id : String) (s : FleetState Id) (e : FleetEvent Id)
    (_ : FleetState Id) : Prop :=
  ∃ f, OnRelay fleet i s e f ∧ f.callId = some id

theorem issued_fleet_step {s s' : FleetState Id} {e : FleetEvent Id} {i : Id} {id : String}
    {events : List (FleetEvent Id)} (ran : fleet.machine.run events = some s)
    (issued : (s.inst i).relay.issued.get id ≠ none)
    (after : fleet.machine.step s e = some s') : (s'.inst i).relay.issued.get id ≠ none := by
  rcases Fleet.relay_step after i with same | ⟨f, onRelay⟩
  · rw [same]
    exact issued
  · obtain ⟨relayEvents, reached⟩ := Fleet.relay_reachable ran i
    exact ((fleet.router i).relay.book_step ((fleet.router i).relay.consistent_run reached)
      (onRelay.step after)).issued issued

/-- No two steps of a run call with one id. -/
theorem calls_unique {events earlier later : List (FleetEvent Id)} {i : Id} {id : String}
    {s s' t t' : FleetState Id} {e f : FleetEvent Id}
    (first : fleet.machine.StepAt events earlier s e s') (called : Calls fleet i id s e s')
    (second : fleet.machine.StepAt events later t f t') (called' : Calls fleet i id t f t') :
    earlier = later := by
  refine Machine.StepAt.unique (Q := Calls fleet i id) ?_ first called second called'
  rintro a b s e s' t f t' inside ⟨call, onRelay, callId⟩ step ⟨call', onRelay', callId'⟩
  obtain ⟨relayEvents, reached⟩ := Fleet.relay_reachable inside.before i
  have taken : (s'.inst i).relay.issued.get id ≠ none :=
    ((fleet.router i).relay.book_step ((fleet.router i).relay.consistent_run reached)
      (onRelay.step inside.after)).called callId
  have issued : (t.inst i).relay.issued.get id ≠ none :=
    inside.persists (P := fun s => (s.inst i).relay.issued.get id ≠ none) taken
      (fun _ _ _ _ ran issued after => issued_fleet_step ran issued after) step.before
  exact issued (RelayServer.fresh_of_call (onRelay'.step step.after) callId')

/-- The step calls `forward` with `id` on `i` and puts its frame on `ws`. -/
def PutOn (fleet : Fleet Id) (i : Id) (ws : ConnId) (id : String) (s : FleetState Id)
    (e : FleetEvent Id) (s' : FleetState Id) : Prop :=
  Calls fleet i id s e s' ∧
    ∃ frame, (s'.inst i).relay.log = (s.inst i).relay.log ++ [.send ws frame]

/-- The daemons answer what they were asked: a response that meets a pending forward
comes on a socket its request frame was put on before. -/
def AnswersAsked (fleet : Fleet Id) (events : List (FleetEvent Id)) : Prop :=
  ∀ earlier t i ws frame t' response,
    fleet.machine.StepAt events earlier t (.on i (.relay (.message ws frame))) t' →
    Answers (fleet.router i).relay (t.inst i).relay ws frame response →
    (t.inst i).relay.pending.get response.id ≠ none →
    fleet.machine.Happened (PutOn fleet i ws response.id) earlier

/-- A call that puts a frame on a socket found it open and registered. -/
theorem put_of_forward {server : RelayServer} {s s' : Relay.State} {uuid method path : String}
    {headers : Headers} {body : Bytes} {id frame : String} {bufferedAmount : Nat} {ws : ConnId}
    (after : server.step s (.forward uuid method path headers body id bufferedAmount) = some s')
    (put : s'.log = s.log ++ [.send ws frame]) :
    ∃ client, s.clients.get uuid = some client ∧ client.ws = ws ∧ s.readyState ws = .opened ∧
      frame = server.wire.encodeServer (.request (requestOf id method path headers body)) := by
  rw [RelayServer.step_forward after] at put
  rcases server.forward_cases s uuid method path headers body id bufferedAmount with
    ⟨error, rejected⟩ | ⟨client, present, unsaturated, room⟩
  · rw [rejected] at put
    have emitted : [Effect.reject id error] = [.send ws frame] := List.append_cancel_left put
    simp at emitted
  · by_cases opened : s.readyState client.ws = .opened
    · rw [forward_of_opened present unsaturated room opened] at put
      have emitted : [Effect.send client.ws (server.wire.encodeServer
          (.request (requestOf id method path headers body)))] = [.send ws frame] :=
        List.append_cancel_left put
      simp only [List.cons.injEq, Effect.send.injEq, and_true] at emitted
      obtain ⟨rfl, rfl⟩ := emitted
      exact ⟨client, present, rfl, opened, rfl⟩
    · have stillShut : (((s.issue id uuid).startRequestTimer server.requestTimeoutMs id).addPending
          id ⟨uuid, s.requestTimers.next⟩).readyState client.ws ≠ .opened := opened
      rw [server.forward_of_room present unsaturated room, RelayServer.sendServerMessage,
        if_neg stillShut] at put
      have unsent : s.log = s.log ++ [.send ws frame] := put
      simp at unsent

/-! ### Answers -/

/-- The step is an answer to the pending forward `id`, on some socket of `i`. -/
def AnsweredOn (fleet : Fleet Id) (i : Id) (ws : ConnId) (id : String) (s : FleetState Id)
    (e : FleetEvent Id) (_ : FleetState Id) : Prop :=
  ∃ frame answer, e = .on i (.relay (.message ws frame)) ∧
    Answers (fleet.router i).relay (s.inst i).relay ws frame answer ∧ answer.id = id ∧
    (s.inst i).relay.pending.get id ≠ none

/-- A promise that is resolved was answered. -/
theorem answered_of_resolved {events : List (FleetEvent Id)} {s : FleetState Id}
    (ran : fleet.machine.run events = some s) {i : Id} {id : String} {response : ForwardResponse}
    (resolved : .resolve id response ∈ (s.inst i).relay.log) :
    ∃ ws, fleet.machine.Happened (AnsweredOn fleet i ws id) events := by
  refine Machine.run_invariant (P := fun events s => .resolve id response ∈ (s.inst i).relay.log →
    ∃ ws, fleet.machine.Happened (AnsweredOn fleet i ws id) events) ?_ ?_ ran resolved
  · intro absurdity
    simp [Fleet.machine, BrokerRouter.start, Relay.State.init] at absurdity
  · intro events s e s' before old after resolved
    by_cases known : .resolve id response ∈ (s.inst i).relay.log
    · obtain ⟨ws, happened⟩ := old known
      exact ⟨ws, happened.extend _⟩
    · rcases Fleet.relay_step after i with same | ⟨f, onRelay⟩
      · rw [same] at resolved
        exact absurd resolved known
      · obtain ⟨relayEvents, reached⟩ := Fleet.relay_reachable before i
        have stepped := onRelay.step after
        obtain ⟨new, grown⟩ := (fleet.router i).relay.log_step stepped
        have emits : Emits (s.inst i).relay (s'.inst i).relay (.resolve id response) := by
          rw [← grown] at resolved
          exact ⟨new, grown.symm, (List.mem_append.mp resolved).resolve_left known⟩
        obtain ⟨ws, frame, answer, req, rfl, answers, answerId, pending⟩ :=
          ((fleet.router i).relay.book_step ((fleet.router i).relay.consistent_run reached)
            stepped).resolved emits
        cases onRelay with
        | relay =>
            have unsettled : (s.inst i).relay.pending.get id ≠ none := by simp [pending]
            exact ⟨ws, Machine.happened_last before after
              ⟨frame, answer, rfl, answers, answerId, unsettled⟩⟩

/-! ### Told browsers -/

/-- The step hands the delivery of the callback `req` to the relay server of `i`,
under `id`. -/
def Delivers (fleet : Fleet Id) (i : Id) (req : Nat) (id : String) (s : FleetState Id)
    (e : FleetEvent Id) (_ : FleetState Id) : Prop :=
  ∃ random requestId bufferedAmount delivery,
    e = .on i (.encrypted req random requestId id bufferedAmount) ∧
    (fleet.router i).delivery (s.inst i) req random = some delivery

theorem delivers_of_forwarding {events : List (FleetEvent Id)} {s : FleetState Id}
    (ran : fleet.machine.run events = some s) {i : Id} {req : Nat} {id : String}
    {session : Option FlowSession}
    (waiting : (s.inst i).callbacks.get req = some (.forwarding id session)) :
    fleet.machine.Happened (Delivers fleet i req id) events := by
  refine Machine.run_invariant (P := fun events s =>
    (s.inst i).callbacks.get req = some (.forwarding id session) →
      fleet.machine.Happened (Delivers fleet i req id) events) ?_ ?_ ran waiting
  · intro absurdity
    simp [Fleet.machine, BrokerRouter.start] at absurdity
  · intro events s e s' before old after waiting
    rcases Fleet.callbackMove after i req with same | ⟨f, rfl, move⟩
    · exact (old (same ▸ waiting)).extend _
    · cases move with
      | kept same => exact (old (same ▸ waiting)).extend _
      | aside present _ unsent =>
          rw [present] at waiting
          exact absurd (Option.some.inj waiting) (unsent _ _)
      | @forwarded random requestId id' bufferedAmount delivery _ event delivered present =>
          rw [present] at waiting
          cases waiting
          subst event
          exact Machine.happened_last before after
            ⟨random, requestId, bufferedAmount, delivery, rfl, delivered⟩
      | told _ _ _ unsent => exact absurd waiting (unsent _ _)

/-- The step tells the browser of `req` on `i` that the forward `id` went through. -/
def Tells (i : Id) (req : Nat) (id : String) (s : FleetState Id) (_ : FleetEvent Id)
    (_ : FleetState Id) : Prop :=
  (∃ session, (s.inst i).callbacks.get req = some (.forwarding id session)) ∧
    ∃ response, .resolve id response ∈ (s.inst i).relay.log

theorem tells_of_told {events : List (FleetEvent Id)} {s : FleetState Id}
    (ran : fleet.machine.run events = some s) {i : Id} {req : Nat} {phase : CallbackPhase}
    (present : (s.inst i).callbacks.get req = some phase) (told : phase.Told) :
    ∃ id, fleet.machine.Happened (Tells i req id) events := by
  refine Machine.run_invariant (P := fun events s => ∀ phase,
    (s.inst i).callbacks.get req = some phase → phase.Told →
      ∃ id, fleet.machine.Happened (Tells i req id) events) ?_ ?_ ran phase present told
  · intro phase absurdity
    simp [Fleet.machine, BrokerRouter.start] at absurdity
  · intro events s e s' before old after phase present told
    have earlier : (s'.inst i).callbacks.get req = (s.inst i).callbacks.get req →
        ∃ id, fleet.machine.Happened (Tells i req id) (events ++ [e]) := by
      intro same
      obtain ⟨id, happened⟩ := old phase (same ▸ present) told
      exact ⟨id, happened.extend _⟩
    rcases Fleet.callbackMove after i req with same | ⟨f, rfl, move⟩
    · exact earlier same
    · cases move with
      | kept same => exact earlier same
      | aside now untold =>
          rw [now] at present
          cases present
          exact absurd told untold
      | forwarded _ _ now =>
          rw [now] at present
          cases present
          exact told.elim
      | @told id session response _ waiting resolved =>
          exact ⟨id, Machine.happened_last before after ⟨⟨session, waiting⟩, response, resolved⟩⟩

/-- The step signs the envelope of the callback `req` and puts it, as the request `id`, on
the open socket of `client`, which is registered under the recipient's uuid and holds its
certificate. -/
structure HandedOver (fleet : Fleet Id) (i : Id) (req : Nat) (id : String)
    (client : ConnectedClient) (delivery : Delivery) (s : FleetState Id) (e : FleetEvent Id)
    (s' : FleetState Id) : Prop where
  registered : (s.inst i).relay.clients.get delivery.recipient = some client
  held : HeldBy (fleet.router i).relay (s.inst i).relay client.ws delivery.recipient
  opened : (s.inst i).relay.readyState client.ws = .opened
  signed : ∃ random requestId bufferedAmount,
    e = .on i (.encrypted req random requestId id bufferedAmount) ∧
    (fleet.router i).delivery (s.inst i) req random = some delivery ∧
    (s'.inst i).relay.log = (s.inst i).relay.log ++
      [.send client.ws ((fleet.router i).relay.wire.encodeServer (.request (requestOf id "POST"
        "/hooks/oauth-complete" (deliveryHeaders requestId)
        (utf8 (deliveryJson delivery.payload).stringify))))]

/-- A delivery whose call puts a frame on a socket is handed over there. -/
theorem handedOver_of_put {events : List (FleetEvent Id)} {s s' : FleetState Id}
    {e : FleetEvent Id} {i : Id} {req : Nat} {id : String} {ws : ConnId}
    (ran : fleet.machine.run events = some s) (after : fleet.machine.step s e = some s')
    (delivers : Delivers fleet i req id s e s') (put : PutOn fleet i ws id s e s') :
    ∃ client delivery, client.ws = ws ∧ HandedOver fleet i req id client delivery s e s' := by
  obtain ⟨random, requestId, bufferedAmount, delivery, rfl, delivered⟩ := delivers
  obtain ⟨_, frame, logged⟩ := put
  have onRelay := OnRelay.delivery delivered requestId id bufferedAmount
  obtain ⟨client, present, rfl, opened, rfl⟩ := put_of_forward (onRelay.step after) logged
  obtain ⟨relayEvents, reached⟩ := Fleet.relay_reachable ran i
  obtain ⟨_, hash, admission⟩ := (fleet.router i).relay.sound_run reached _ _ present
  obtain ⟨conn, found, view⟩ := Option.map_eq_some_iff.mp admission
  exact ⟨client, delivery, rfl, present,
    ⟨conn, client.pubkey, found, congrArg Admission.certPoint view, hash⟩, opened,
    random, requestId, bufferedAmount, rfl, delivered, logged⟩

/-- What an instance delivers was granted to its recipient by a request that some
instance accepted before. -/
theorem granted_of_delivery (correct : fleet.crypto.GcmCorrect) {events : List (FleetEvent Id)}
    (authentic : TokensAuthentic fleet events) {earlier : List (FleetEvent Id)}
    {s s' : FleetState Id} {e : FleetEvent Id} (step : fleet.machine.StepAt events earlier s e s')
    {i : Id} {req : Nat} {random : DeliveryRandomness} {delivery : Delivery}
    (delivered : (fleet.router i).delivery (s.inst i) req random = some delivery) :
    ∃ accepted j r f r' request parts, fleet.machine.StepAt earlier accepted r f r' ∧
      Authorised fleet j request parts r f r' ∧
      Grants fleet j (r.inst j).relay request delivery := by
  obtain ⟨flow, tokens, session, delivers⟩ := BrokerRouter.makesDelivery_of_delivery delivered
  obtain ⟨token, checkedMs, received, u, g, u', receivedStep, shape⟩ :=
    Fleet.received_of_encrypting step.before delivers.present
  obtain ⟨later, rfl⟩ := step.split
  obtain ⟨j, request, parts, accepted, r, f, r', acceptedStep, authorised, _, rfl⟩ :=
    authorised_of_received correct authentic receivedStep.extend shape
  exact ⟨accepted, j, r, f, r', request, parts, receivedStep.within acceptedStep, authorised,
    grants_of_authorised acceptedStep.before authorised delivers.recipient delivers.key
      delivers.sessionId⟩

/-- A browser is told that its authorization is complete only after the envelope of its
callback was put on the open socket of the registered recipient and was answered on that
very socket; and a request that some instance accepted before grants it. -/
theorem told_answered (correct : fleet.crypto.GcmCorrect) {events : List (FleetEvent Id)}
    (authentic : TokensAuthentic fleet events) (asked : AnswersAsked fleet events)
    {s : FleetState Id} (ran : fleet.machine.run events = some s) {i : Id} {req : Nat}
    {phase : CallbackPhase} (present : (s.inst i).callbacks.get req = some phase)
    (told : phase.Told) :
    ∃ answered a f a' id client, fleet.machine.StepAt events answered a f a' ∧
      AnsweredOn fleet i client.ws id a f a' ∧
      ∃ handed u e u' delivery, fleet.machine.StepAt answered handed u e u' ∧
        HandedOver fleet i req id client delivery u e u' ∧
        ∃ accepted j r g r' request parts, fleet.machine.StepAt handed accepted r g r' ∧
          Authorised fleet j request parts r g r' ∧
          Grants fleet j (r.inst j).relay request delivery := by
  obtain ⟨id, tellsAt, v, _, v', tellsStep, ⟨session, waiting⟩, response, resolved⟩ :=
    tells_of_told ran present told
  obtain ⟨ws, answered, a, f, a', answeredStep, answers⟩ :=
    answered_of_resolved tellsStep.before resolved
  obtain ⟨deliversAt, u, e, u', deliversStep, delivers⟩ :=
    delivers_of_forwarding tellsStep.before waiting
  have answeredOn := answers
  obtain ⟨frame, answer, rfl, takes, rfl, pending⟩ := answers
  have onRun := tellsStep.within answeredStep
  obtain ⟨putAt, w, g, w', putStep, put⟩ := asked _ _ _ _ _ _ _ onRun takes pending
  -- The frame was put on the socket by the delivery: no other step calls with its id.
  have calls : Calls fleet i answer.id u e u' := by
    obtain ⟨random, requestId, bufferedAmount, delivery, rfl, delivered⟩ := delivers
    exact ⟨_, .delivery delivered requestId answer.id bufferedAmount, rfl⟩
  have handedOnRun := onRun.within putStep
  have deliversOnRun := tellsStep.within deliversStep
  obtain rfl := calls_unique handedOnRun put.1 deliversOnRun calls
  obtain rfl := handedOnRun.event_eq deliversOnRun
  obtain rfl := Option.some.inj (putStep.before.symm.trans deliversStep.before)
  obtain rfl := Option.some.inj (putStep.after.symm.trans deliversStep.after)
  obtain ⟨client, delivery, rfl, handedOver⟩ :=
    handedOver_of_put putStep.before putStep.after delivers put
  obtain ⟨random, _, _, _, delivered, _⟩ := handedOver.signed
  exact ⟨answered, a, _, a', answer.id, client, onRun, answeredOn, putAt, w, g, w', delivery,
    putStep, handedOver, granted_of_delivery correct authentic handedOnRun delivered⟩

end

/-! ### A completed authorization -/

/-- An answer to a pending forward resolves its promise. -/
theorem resolution_of_answers {server : RelayServer} {events : List Relay.Event} {s : Relay.State}
    (ran : server.machine.run events = some s) {ws : ConnId} {frame : String}
    {response : Response} {req : PendingRequest} (live : s.live ws = true)
    (answers : Answers server s ws frame response)
    (pending : s.pending.get response.id = some req) :
    ∃ s', server.machine.step s (.message ws frame) = some s' ∧
      s'.log.find? (fun effect => effect.settledId = some response.id) =
        some (.resolve response.id (flattenResponse response)) := by
  have consistent := server.consistent_run ran
  obtain ⟨s', after⟩ : ∃ s', server.step s (.message ws frame) = some s' :=
    ⟨_, server.step_message live frame⟩
  refine ⟨s', after, ?_⟩
  have unsettled : s.book.settled.find? (fun effect => effect.settledId = some response.id) =
      none := by
    have stored : s.book.pending.get response.id = some req := pending
    have none := consistent.settledOnce response.id
    rw [stored, if_neg (by simp)] at none
    rw [List.find?_eq_none]
    intro effect member
    exact List.countP_eq_zero.mp none effect member
  have move := server.book_step consistent after
  have settlement : s'.log.find? (fun effect => effect.settledId = some response.id) =
      s'.book.settled.find? fun effect => effect.settledId = some response.id := by
    rw [State.book, List.find?_filter]
    congr 1
    funext effect
    cases effect.settledId <;> simp
  rw [settlement]
  generalize s'.book = book at move
  cases move with
  | quiet _ _ inconclusive => exact absurd ⟨response, answers, rfl⟩ (inconclusive _ _ pending)
  | @responded _ _ other req' answers' present =>
      have same := answers'.decoded.symm.trans answers.decoded
      cases same
      rw [Book.settle, List.find?_append, unsettled, Option.none_or, List.find?_singleton]
      simp [Effect.settledId]

namespace Sample

def callbackHere : FleetEvent Bool :=
  .on false (.callback 0 callbackQuery (some ⟨some sealedFlow.token⟩) 0)

def completionHere : FleetEvent Bool :=
  .on false (.encrypted 0 random "f47ac10b-58cc-4372-a567-0e02b2c3d479" Relay.Sample.requestId 0)

/-- The daemon's answer to the delivery. -/
def answer : FleetEvent Bool :=
  .on false (.relay (.message 0 (Relay.Sample.okFrame Relay.Sample.requestId)))

def settling : FleetEvent Bool := .on false (.settled 0)

/-- All on the instance the daemon is registered with. -/
def completing : List (FleetEvent Bool) :=
  opening ++ [request] ++ [callbackHere] ++ [completionHere] ++ [answer] ++ [settling]

/-- The daemon is registered and the callback has not come. -/
theorem opened_here : ∃ s, fleet.machine.run opening = some s ∧ s.now = 1000 * signedAt ∧
    (s.inst false).relay.Enrolled client ∧ (s.inst false).seen.calls = [] ∧
    (s.inst false).callbacks.get 0 = none := by
  obtain ⟨relay, ran, entered⟩ := enrolled
  have starts : (fleet.router false).starts = true := show router.starts = true by decide
  have registered := Fleet.run_relay starts (by simp [Relay.Sample.admission]) ran
  have split : opening = Relay.Sample.admission.map (fun e => .on false (.relay e)) ++
      [.tick (1000 * signedAt)] := rfl
  have ticks : ∀ s ms, fleet.machine.step s (.tick ms) = some (Fleet.tick s ms) := fun _ _ => rfl
  rw [split, Machine.run_concat, registered, Option.bind_some, ticks]
  refine ⟨_, rfl, ?_, ?_, rfl, rfl⟩
  · simp [Fleet.tick, Fleet.replace, Fleet.machine]
  · exact ⟨entered.entry, entered.opened, entered.others, entered.unasked, entered.unissued,
      entered.running⟩

/-- The daemon is still registered, and owes the answer to the delivery. -/
structure Owed (s : FleetState Bool) : Prop where
  callback : ∃ session, (s.inst false).callbacks.get 0 =
    some (.forwarding Relay.Sample.requestId session)
  entry : (s.inst false).relay.clients.get client.uuid = some client
  pending : ∃ req, (s.inst false).relay.pending.get Relay.Sample.requestId = some req

/-- The envelope goes to the daemon. -/
theorem handed_here : ∃ s u, fleet.machine.run (opening ++ [request] ++ [callbackHere]) = some s ∧
    fleet.machine.step s completionHere = some u ∧
    PutOn fleet false 0 Relay.Sample.requestId s completionHere u ∧ Owed u := by
  obtain ⟨s, reached, now, enrolled, unused, idle⟩ := opened_here
  obtain ⟨payload, built⟩ := delivers
  have starts : (fleet.router false).starts = true := show router.starts = true by decide
  have requested : fleet.machine.step s request = some (Fleet.replace s false (s.inst false)) :=
    Fleet.step_on_of starts rfl
  rw [Fleet.replace_self] at requested
  have received := BrokerRouter.receiveCallback_of_consumes (consumes unused) (by decide +kernel)
    (by decide +kernel)
  rw [show filterCallbackTokenFields callbackQuery = tokens by decide +kernel] at received
  have called : fleet.machine.step s callbackHere = some (Fleet.replace s false
      ((s.inst false).receive 0 (.consumed flow tokens (some ⟨none⟩),
        (s.inst false).seen.record session (1000 * signedAt)))) := by
    apply Fleet.step_on_of starts
    simp only [BrokerRouter.step, idle, Option.isNone_none, if_true]
    change some ((s.inst false).receive 0 (router.receiveCallback (s.inst false).seen
      callbackQuery (some ⟨some sealedFlow.token⟩) (s.now - 0) s.now)) = _
    rw [Nat.sub_zero, now, received]
    rfl
  have ran := Machine.run_concat_of (Machine.run_concat_of reached requested) called
  generalize second : Fleet.replace s false _ = t at ran
  have sameRelay : (t.inst false).relay = (s.inst false).relay := by
    rw [← second, Fleet.inst_replace_self, Instance.relay_receive]
  have waiting : (t.inst false).callbacks.get 0 = some (.encrypting flow tokens (some ⟨none⟩)) := by
    rw [← second, Fleet.inst_replace_self, Instance.receive, Instance.callbacks_setCallback,
      if_pos rfl]
  have unissued : (t.inst false).relay.issued.get Relay.Sample.requestId = none := by
    rw [sameRelay, enrolled.unissued]
    rfl
  obtain ⟨next, stepped⟩ := Option.isSome_iff_exists.mp
    (router.encrypted_isSome waiting random "f47ac10b-58cc-4372-a567-0e02b2c3d479" 0 unissued)
  have after : fleet.machine.step t completionHere = some (Fleet.replace t false next) :=
    Fleet.step_on_of starts stepped
  have delivered : (fleet.router false).delivery (t.inst false) 0 random = some _ :=
    BrokerRouter.delivery_of_signed waiting built
  have onRelay := OnRelay.delivery delivered "f47ac10b-58cc-4372-a567-0e02b2c3d479"
    Relay.Sample.requestId 0
  simp only [BrokerRouter.encrypted, waiting, built, Option.map_eq_some_iff] at stepped
  obtain ⟨relay, forwards, rfl⟩ := stepped
  have present : (t.inst false).relay.clients.get flow.relayUuid = some client := by
    rw [sameRelay]
    exact enrolled.entry
  have room : ((t.inst false).relay.pendingByClient.get flow.relayUuid).getD 0 <
      router.relay.maxPendingPerClient := by
    rw [sameRelay, enrolled.unasked]
    decide
  have opened : (t.inst false).relay.readyState client.ws = .opened := by
    rw [sameRelay]
    exact enrolled.opened
  rw [BrokerRouter.forwardEvent] at forwards
  have forwarded := RelayServer.step_forward forwards
  rw [forward_of_opened present (Nat.zero_le _) room opened] at forwarded
  refine ⟨t, _, ran, after, ⟨⟨_, onRelay, rfl⟩, ?_⟩, ?_, ?_, ?_⟩
  · rw [Fleet.inst_replace_self, Instance.relay_setCallback, Instance.setRelay, forwarded]
    exact ⟨_, rfl⟩
  · rw [Fleet.inst_replace_self, Instance.callbacks_setCallback, if_pos rfl]
    exact ⟨_, rfl⟩
  · rw [Fleet.inst_replace_self, Instance.relay_setCallback, Instance.setRelay, forwarded]
    exact present
  · rw [Fleet.inst_replace_self, Instance.relay_setCallback, Instance.setRelay, forwarded]
    exact ⟨_, OrderedMap.get_set_self _ _ _⟩

/-- The browser is told after the daemon has answered. -/
theorem told_here : ∃ s phase, fleet.machine.run completing = some s ∧
    (s.inst false).callbacks.get 0 = some phase ∧ phase.Told := by
  obtain ⟨s, u, ran, after, _, owed⟩ := handed_here
  obtain ⟨session, waiting⟩ := owed.callback
  obtain ⟨req, pending⟩ := owed.pending
  have starts : (fleet.router false).starts = true := show router.starts = true by decide
  have handed := Machine.run_concat_of ran after
  obtain ⟨relayEvents, reached⟩ := Fleet.relay_reachable handed false
  obtain ⟨_, _, admission⟩ := (fleet.router false).relay.sound_run reached _ _ owed.entry
  obtain ⟨conn, found, view⟩ := Option.map_eq_some_iff.mp admission
  have live : (u.inst false).relay.live 0 = true := by
    have closeEmitted : conn.closeEmitted = false := congrArg Admission.closeEmitted view
    have present : (u.inst false).relay.conns.get 0 = some conn := found
    rw [Relay.State.live, present, Option.any_some, closeEmitted]
    rfl
  have answers : Answers (fleet.router false).relay (u.inst false).relay 0
      (Relay.Sample.okFrame Relay.Sample.requestId) ⟨Relay.Sample.requestId, 200, .empty, ""⟩ := by
    refine ⟨⟨conn, client.pubkey, found, congrArg Admission.certPoint view, ?_⟩,
      Relay.Sample.decode_okFrame Relay.Sample.requestId, by decide⟩
    rw [show conn.registeredUuid = some client.uuid from congrArg Admission.registeredUuid view]
    exact Option.some_ne_none _
  obtain ⟨relay, stepped, settled⟩ := resolution_of_answers reached live answers pending
  have answered : fleet.machine.step u answer =
      some (Fleet.replace u false ((u.inst false).setRelay relay)) := by
    apply Fleet.step_on_of starts
    exact Option.map_eq_some_iff.mpr ⟨relay, stepped, rfl⟩
  have told : fleet.machine.step (Fleet.replace u false ((u.inst false).setRelay relay)) settling =
      some (Fleet.replace (Fleet.replace u false ((u.inst false).setRelay relay)) false
        (((u.inst false).setRelay relay).setCallback 0 (.answered
          (htmlReply 200 "Authorization complete. You may close this tab.") session))) := by
    apply Fleet.step_on_of starts
    rw [Fleet.inst_replace_self, BrokerRouter.step, Instance.settled, Instance.callbacks_setRelay,
      waiting]
    have settlement : ((u.inst false).setRelay relay).settlement Relay.Sample.requestId = some _ :=
      settled
    simp only [settlement, Option.map_some]
  refine ⟨_, .answered (htmlReply 200 "Authorization complete. You may close this tab.") session,
    Machine.run_concat_of (Machine.run_concat_of handed answered) told, ?_, rfl⟩
  rw [Fleet.inst_replace_self, Instance.callbacks_setCallback, if_pos rfl]

/-- The only callback of the run comes right after the request. -/
theorem callback_position_here {earlier later : List (FleetEvent Bool)} {i : Bool} {req : Nat}
    {query : Query} {cookie : Option FlowSession} {elapsed : Nat}
    (split : completing = earlier ++ .on i (.callback req query cookie elapsed) :: later) :
    earlier = opening ++ [request] ∧ cookie = some ⟨some sealedFlow.token⟩ := by
  simp only [completing, opening, request, callbackHere, completionHere, answer, settling,
    List.cons_append, List.nil_append] at split ⊢
  rcases earlier with _ | ⟨_, _ | ⟨_, _ | ⟨_, _ | ⟨_, _ | ⟨_, _ | ⟨_, _ | ⟨_, _ | ⟨_, _⟩⟩⟩⟩⟩⟩⟩⟩ <;>
    simp only [List.cons_append, List.nil_append, List.cons.injEq, FleetEvent.on.injEq,
      InstanceEvent.callback.injEq, reduceCtorEq, false_and, and_false] at split
  · obtain ⟨rfl, rfl, rfl, rfl, ⟨_, _, _, rfl, _⟩, _⟩ := split
    exact ⟨rfl, rfl⟩
  · simp at split

theorem authentic_here : TokensAuthentic fleet completing := by
  intro earlier t i req query session elapsed t' token parts plaintext step tokenEq split decrypted
  obtain ⟨later, equal⟩ := step.split
  obtain ⟨rfl, rfl⟩ := callback_position_here equal
  obtain rfl := Option.some.inj tokenEq
  rw [splitToken_eq] at split
  obtain rfl := Option.some.inj split
  obtain ⟨s, s₁, _, ⟨now, registered, _⟩, requested, _⟩ := crossed
  have fresh : (((s.now - 0) / 1000 : Nat) - (signedAt : Int)).natAbs ≤ 30 := by
    rw [now]
    decide
  have accepted := Sample.accepted registered fresh (by decide) rfl
  have sealing : sealedFlow = encryptFlow primitives fleet.flowStateKey flowIv
      ((requestFor Sample.session).flow s.now) := by
    have key : fleet.flowStateKey = flowKey := flowStateKey_eq
    have sameFlow : (requestFor Sample.session).flow (1000 * signedAt) = flow := rfl
    rw [now, key, sameFlow, encryptFlow_eq]
  exact ⟨false, opening, s, request, s₁, requested, some "github", queryFor Sample.session,
    some ⟨none⟩, 0, flowIv, _, _, _, rfl,
    BrokerRouter.handleAuth_eq_redirected.mpr ⟨requestFor Sample.session,
      BrokerRouter.checkAuth_eq_ok.mp accepted, rfl, rfl, rfl, rfl⟩, sealing⟩

/-- The daemon says hello, and later answers. -/
theorem message_position {earlier later : List (FleetEvent Bool)} {i : Bool} {ws : ConnId}
    {frame : String}
    (split : completing = earlier ++ .on i (.relay (.message ws frame)) :: later) :
    frame = Relay.Sample.helloFrame Relay.Sample.decryptPointA ∨
      (earlier = opening ++ [request] ++ [callbackHere] ++ [completionHere] ∧ i = false ∧ ws = 0 ∧
        frame = Relay.Sample.okFrame Relay.Sample.requestId) := by
  simp only [completing, opening, request, callbackHere, completionHere, answer, settling,
    List.cons_append, List.nil_append] at split ⊢
  rcases earlier with _ | ⟨_, _ | ⟨_, _ | ⟨_, _ | ⟨_, _ | ⟨_, _ | ⟨_, _ | ⟨_, _ | ⟨_, _⟩⟩⟩⟩⟩⟩⟩⟩ <;>
    simp only [List.cons_append, List.nil_append, List.cons.injEq, FleetEvent.on.injEq,
      InstanceEvent.relay.injEq, Event.message.injEq, reduceCtorEq, false_and, and_false] at split
  · exact Or.inl split.2.1.2.2.symm
  · obtain ⟨rfl, rfl, rfl, rfl, rfl, rfl, ⟨rfl, rfl, rfl⟩, _⟩ := split
    exact Or.inr ⟨rfl, rfl, rfl, rfl⟩
  · simp at split

theorem asked_here : AnswersAsked fleet completing := by
  intro earlier t i ws frame t' response step answers _
  obtain ⟨later, split⟩ := step.split
  rcases message_position split with rfl | ⟨rfl, rfl, rfl, rfl⟩
  · have decoded := answers.decoded.symm.trans
      (Relay.Sample.decode_helloFrame Relay.Sample.decryptPointA)
    cases decoded
  · have decoded := answers.decoded.symm.trans
      (Relay.Sample.decode_okFrame Relay.Sample.requestId)
    cases decoded
    obtain ⟨s, u, ran, after, put, _⟩ := handed_here
    exact Machine.happened_last ran after put

end Sample

/-- The daemon has the envelope of the authorization that completes. -/
theorem told_answered_here : ∃ s phase, Sample.fleet.machine.run Sample.completing = some s ∧
    (s.inst false).callbacks.get 0 = some phase ∧ phase.Told ∧
    ∃ client id u e u' delivery,
      HandedOver Sample.fleet false 0 id client delivery u e u' := by
  obtain ⟨s, phase, ran, present, told⟩ := Sample.told_here
  obtain ⟨_, _, _, _, id, client, _, _, _, u, e, u', delivery, _, handed, _⟩ :=
    told_answered Sample.gcm_correct Sample.authentic_here Sample.asked_here ran present told
  exact ⟨s, phase, ran, present, told, client, id, u, e, u', delivery, handed⟩

end DicodeRelay.Broker
