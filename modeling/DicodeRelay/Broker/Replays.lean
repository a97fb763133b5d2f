import DicodeRelay.Broker.Delivery
import DicodeRelay.Broker.SingleUse
import Mathlib.Data.Fintype.Card

/-!
Contract: how often the instances of a fleet deliver for one flow token.

Owns:
- the callbacks that pass an instance's guard with a token, and the deliveries
  that come of them;
- that an instance delivers for a token at most once, so that a fleet delivers
  at most once per instance.

Does not own: signed requests that are sealed several times.
-/

namespace DicodeRelay.Broker

open DicodeRelay.Lib DicodeRelay.Shared DicodeRelay.Relay

section

variable {Id : Type} [DecidableEq Id] {fleet : Fleet Id}

/-! ### The callbacks of an instance -/

/-- A callback that has been received stays. -/
theorem BrokerRouter.callbacks_step {router : BrokerRouter} {now : Nat} {s s' : Instance}
    {e : InstanceEvent} (after : router.step now s e = some s') {req : Nat}
    (present : (s.callbacks.get req).isSome = true) : (s'.callbacks.get req).isSome = true := by
  have kept : ∀ (t : Instance) other phase, t.callbacks = s.callbacks →
      ((t.setCallback other phase).callbacks.get req).isSome = true := by
    intro t other phase same
    rw [Instance.callbacks_setCallback, same]
    split
    · rfl
    · exact present
  cases e with
  | relay e =>
      cases BrokerRouter.move_of_step after with
      | relay _ _ callbacks => exact callbacks ▸ present
  | auth =>
      cases BrokerRouter.move_of_step after with
      | auth _ same => exact same ▸ present
  | callback other query session elapsed =>
      cases BrokerRouter.move_of_step after with
      | callback _ received =>
          rw [received]
          rcases router.receiveCallback s.seen query session (now - elapsed) now with
            ⟨reply | flow, seen⟩
          · exact kept _ _ _ rfl
          · exact kept _ _ _ rfl
  | encrypted other random requestId id bufferedAmount =>
      simp only [step, encrypted] at after
      split at after
      · split at after
        · obtain rfl := Option.some.inj after
          exact kept _ _ _ rfl
        · obtain rfl := Option.some.inj after
          exact kept _ _ _ rfl
        · obtain ⟨relay, _, rfl⟩ := Option.map_eq_some_iff.mp after
          exact kept _ _ _ rfl
      · contradiction
  | settled other =>
      simp only [step, Instance.settled] at after
      split at after
      · obtain ⟨effect, _, rfl⟩ := Option.map_eq_some_iff.mp after
        split
        · exact kept _ _ _ rfl
        · exact kept _ _ _ rfl
      · contradiction

theorem Fleet.callbacks_step {s s' : FleetState Id} {e : FleetEvent Id}
    (after : fleet.machine.step s e = some s') {i : Id} {req : Nat}
    (present : ((s.inst i).callbacks.get req).isSome = true) :
    ((s'.inst i).callbacks.get req).isSome = true := by
  rcases Fleet.inst_step after i with same | ⟨ms, _, ticked⟩ | ⟨f, _, stepped⟩
  · exact same ▸ present
  · rw [ticked, Instance.callbacks_tick]
    exact present
  · exact BrokerRouter.callbacks_step stepped present

theorem callback_of_step {s s' : FleetState Id} {i : Id} {req : Nat} {query : Query}
    {session : Option FlowSession} {elapsed : Nat}
    (after : fleet.machine.step s (.on i (.callback req query session elapsed)) = some s') :
    (s.inst i).callbacks.get req = none ∧
      s'.inst i = (s.inst i).receive req
        ((fleet.router i).receiveCallback (s.inst i).seen query session (s.now - elapsed)
          s.now) := by
  obtain ⟨next, stepped, rfl⟩ := Fleet.step_on after
  cases BrokerRouter.move_of_step stepped with
  | callback fresh received =>
      rw [Fleet.inst_replace_self]
      exact ⟨fresh, received⟩

/-- The step is the callback `req` of the instance, which passes its guard with the
token. -/
def PassedOn (fleet : Fleet Id) (i : Id) (req : Nat) (token : String) (s : FleetState Id)
    (e : FleetEvent Id) (_ : FleetState Id) : Prop :=
  ∃ query session elapsed flow tokens session' seen',
    e = .on i (.callback req query session elapsed) ∧ readBrokerFlow session = some token ∧
    (fleet.router i).receiveCallback (s.inst i).seen query session (s.now - elapsed) s.now =
      (.consumed flow tokens session', seen')

theorem passedOn_of_encrypting {s s' : FleetState Id} {i : Id} {req : Nat} {query : Query}
    {session session' : Option FlowSession} {elapsed : Nat} {token : String} {flow : Session}
    {tokens : List (String × QueryValue)}
    (after : fleet.machine.step s (.on i (.callback req query session elapsed)) = some s')
    (cookie : readBrokerFlow session = some token)
    (present : (s'.inst i).callbacks.get req = some (.encrypting flow tokens session')) :
    PassedOn fleet i req token s (.on i (.callback req query session elapsed)) s' := by
  rw [(callback_of_step after).2] at present
  rcases outcome : (fleet.router i).receiveCallback (s.inst i).seen query session
      (s.now - elapsed) s.now with ⟨reply | ⟨flow', tokens', session''⟩, seen⟩
  · rw [outcome, Instance.receive, Instance.callbacks_setCallback, if_pos rfl] at present
    cases present
  · exact ⟨query, session, elapsed, flow', tokens', session'', seen, rfl, cookie, outcome⟩

/-! ### The deliveries of an instance -/

/-- The step signs and forwards the delivery of the callback `req` of the instance. -/
def CompletedOn (fleet : Fleet Id) (i : Id) (req : Nat) (s : FleetState Id) (e : FleetEvent Id)
    (_ : FleetState Id) : Prop :=
  ∃ random requestId id bufferedAmount delivery,
    e = .on i (.encrypted req random requestId id bufferedAmount) ∧
    (fleet.router i).delivery (s.inst i) req random = some delivery

/-- The callback was received, and its encryption is over. -/
def Past (i : Id) (req : Nat) (s : FleetState Id) : Prop :=
  ((s.inst i).callbacks.get req).isSome = true ∧ ∀ flow tokens session,
    (s.inst i).callbacks.get req ≠ some (.encrypting flow tokens session)

theorem past_step {i : Id} {req : Nat} {s s' : FleetState Id} {e : FleetEvent Id}
    (past : Past i req s) (after : fleet.machine.step s e = some s') : Past i req s' := by
  refine ⟨Fleet.callbacks_step after past.1, ?_⟩
  intro flow tokens session present
  rcases Fleet.encrypting_step after present with old | ⟨_, _, _, _, _, rfl, _⟩
  · exact past.2 _ _ _ old
  · have received := past.1
    rw [(callback_of_step after).1] at received
    contradiction

theorem past_of_completed {i : Id} {req : Nat} {s s' : FleetState Id} {e : FleetEvent Id}
    (after : fleet.machine.step s e = some s') (completed : CompletedOn fleet i req s e s') :
    Past i req s' := by
  obtain ⟨random, requestId, id, bufferedAmount, delivery, rfl, delivered⟩ := completed
  obtain ⟨flow, tokens, session, present, _⟩ := BrokerRouter.makesDelivery_of_delivery delivered
  obtain ⟨next, stepped, rfl⟩ := Fleet.step_on after
  simp only [BrokerRouter.delivery, present] at delivered
  simp only [BrokerRouter.step, BrokerRouter.encrypted, present] at stepped
  split at delivered
  · rename_i payload built
    simp only [built, Option.map_eq_some_iff] at stepped
    obtain ⟨relay, _, rfl⟩ := stepped
    simp [Past, Instance.callbacks_setCallback]
  · contradiction

/-- Each callback is delivered once. -/
theorem completed_once {events earlier earlier' : List (FleetEvent Id)} {i : Id} {req : Nat}
    {s s' t t' : FleetState Id} {e f : FleetEvent Id}
    (first : fleet.machine.StepAt events earlier s e s')
    (completed : CompletedOn fleet i req s e s')
    (second : fleet.machine.StepAt events earlier' t f t')
    (again : CompletedOn fleet i req t f t') : earlier = earlier' := by
  refine Machine.StepAt.unique ?_ first completed second again
  intro earlier earlier' s e s' t f t' first completed second again
  have past := first.persists (past_of_completed first.after completed)
    (fun _ _ _ _ _ holds after => past_step holds after) second.before
  obtain ⟨_, _, _, _, _, rfl, delivered⟩ := again
  obtain ⟨flow, tokens, session, present, _⟩ := BrokerRouter.makesDelivery_of_delivery delivered
  exact past.2 _ _ _ present

/-! ### The guard of an instance -/

theorem Fleet.seen_step {s s' : FleetState Id} {e : FleetEvent Id}
    (after : fleet.machine.step s e = some s') (i : Id) :
    (s'.inst i).seen = (s.inst i).seen ∨
      ∃ id, (s'.inst i).seen = (s.inst i).seen.record id s.now := by
  rcases Fleet.inst_step after i with same | ⟨ms, _, ticked⟩ | ⟨f, _, stepped⟩
  · exact Or.inl (congrArg Instance.seen same)
  · exact Or.inl (by rw [ticked, Instance.seen_tick])
  · exact seen_of_move (BrokerRouter.move_of_step stepped)

/-- The guard of the instance remembers `id` with a reading of at least `since`. -/
def Remembers (i : Id) (id : String) (since : Nat) (s : FleetState Id) : Prop :=
  since ≤ s.now ∧
    ∃ setAt, CacheCalls.lastSet (s.inst i).seen.calls id = some setAt ∧ since ≤ setAt

theorem remembers_step {i : Id} {id : String} {since : Nat} {s s' : FleetState Id}
    {e : FleetEvent Id} (remembers : Remembers i id since s)
    (after : fleet.machine.step s e = some s') : Remembers i id since s' := by
  obtain ⟨begun, setAt, recorded, late⟩ := remembers
  refine ⟨Nat.le_trans begun (Fleet.now_step after), ?_⟩
  rcases Fleet.seen_step after i with same | ⟨other, grown⟩
  · exact ⟨setAt, by rw [same]; exact recorded, late⟩
  · rw [grown, SeenSet.record, CacheCalls.lastSet_append]
    split
    · exact ⟨s.now, rfl, begun⟩
    · exact ⟨setAt, recorded, late⟩

theorem Fleet.ttlMs_run {events : List (FleetEvent Id)} {s : FleetState Id}
    (ran : fleet.machine.run events = some s) (i : Id) :
    (s.inst i).seen.ttlMs = (fleet.router i).sessionTtlMs := by
  refine Machine.state_invariant (P := fun s : FleetState Id =>
    (s.inst i).seen.ttlMs = (fleet.router i).sessionTtlMs) ?_ ?_ ran
  · change ((SeenSet.create (fleet.router i).lru (fleet.router i).sessionTtlMs).getD _).ttlMs = _
    unfold SeenSet.create
    split <;> rfl
  · intro s e s' holds after
    rcases Fleet.seen_step after i with same | ⟨other, grown⟩
    · rw [same]
      exact holds
    · rw [grown, SeenSet.ttlMs_record]
      exact holds

/-! ### One token -/

/-- How long the handler of the event takes between its readings of the clock. -/
def InstanceEvent.elapsed : InstanceEvent → Nat
  | .auth _ _ _ elapsed _ => elapsed
  | .callback _ _ _ elapsed => elapsed
  | _ => 0

/-- Handlers take at most `maxLag` milliseconds, and no instance has consumed `MAX_SEEN`
session ids yet. -/
def Timely (maxLag : Nat) (s : FleetState Id) : FleetEvent Id → Prop
  | .tick _ => True
  | .on i e => e.elapsed ≤ maxLag ∧ (CacheCalls.ids (s.inst i).seen.calls).length < MAX_SEEN

/-- The guard remembers a session id for as long as a token for it lives. -/
def GuardOutlives (router : BrokerRouter) (maxLag : Nat) : Prop :=
  router.sessionTtlMs ≤ 0 ∨ (FLOW_TTL_MS : Int) - 1 + maxLag ≤ router.sessionTtlMs

/-- What a pass of the guard with the token shows: the flow the token opens to, sealed
earlier and not expired, is one the guard did not remember and now does. -/
structure PassedWith (fleet : Fleet Id) (i : Id) (token : String) (maxLag sealedMs : Nat)
    (flow : Session) (s s' : FleetState Id) : Prop where
  up : (fleet.router i).starts = true
  opened : openFlowState fleet.crypto fleet.flowStateKey token = some flow
  expiresAt : flow.expiresAt = Decimal.ofNat (sealedMs + FLOW_TTL_MS)
  notEarly : sealedMs ≤ s.now
  unexpired : ∃ checkedMs, s.now ≤ checkedMs + maxLag ∧ flow.expiresAt.atMost checkedMs = false
  added : ∃ seen', (s.inst i).seen.add (fleet.router i).lru flow.sessionId s.now = (true, seen')
  remembers : Remembers i flow.sessionId s.now s'

theorem passedWith_of_passedOn (correct : fleet.crypto.GcmCorrect)
    {events earlier : List (FleetEvent Id)} (authentic : TokensAuthentic fleet events)
    {maxLag : Nat} (timely : fleet.machine.Meets (Timely maxLag) events) {i : Id} {req : Nat}
    {token : String} {s s' : FleetState Id} {e : FleetEvent Id}
    (step : fleet.machine.StepAt events earlier s e s')
    (passed : PassedOn fleet i req token s e s') :
    ∃ sealedMs flow, PassedWith fleet i token maxLag sealedMs flow s s' := by
  obtain ⟨query, session, elapsed, flow, tokens, session', seen', rfl, tokenEq, received⟩ := passed
  obtain ⟨⟨⟨token', tokenEq', opened⟩, _, unexpired, added⟩, _⟩ :=
    BrokerRouter.consumes_of_receiveCallback received
  obtain rfl := Option.some.inj (tokenEq.symm.trans tokenEq')
  rw [fleet.router_crypto, fleet.router_flowStateKey] at opened
  have shape : ReceivedOn fleet i req flow token (s.now - elapsed) s
      (.on i (.callback req query session elapsed)) s' :=
    ⟨query, session, elapsed, rfl, tokenEq, opened, rfl, unexpired⟩
  obtain ⟨j, request, parts, accepted, r, f, r', acceptedStep, _, _, flowEq⟩ :=
    authorised_of_received correct authentic step shape
  have clock : r.now ≤ s.now := by
    refine acceptedStep.persists (P := fun s => r.now ≤ s.now) (Fleet.now_step acceptedStep.after)
      ?_ step.before
    intro _ _ _ _ _ before after
    exact Nat.le_trans before (Fleet.now_step after)
  have lag : elapsed ≤ maxLag := (timely _ _ _ _ step).1
  refine ⟨r.now, flow, Fleet.starts_of_step_on step.after, opened, by rw [flowEq]; rfl, clock,
    ⟨s.now - elapsed, by omega, unexpired⟩, ⟨seen', added⟩, Fleet.now_step step.after, s.now, ?_,
    Nat.le_refl _⟩
  rw [(callback_of_step step.after).2, Instance.seen_receive, received,
    SeenSet.record_of_add added, SeenSet.record, CacheCalls.lastSet_append, if_pos rfl]

/-- A guard that outlives the token lets it pass once. -/
theorem passed_once (correct : fleet.crypto.GcmCorrect) {events : List (FleetEvent Id)}
    (authentic : TokensAuthentic fleet events) {maxLag : Nat}
    (timely : fleet.machine.Meets (Timely maxLag) events) {i : Id}
    (documented : (fleet.router i).lru.Documented)
    (outlives : GuardOutlives (fleet.router i) maxLag)
    {earlier earlier' : List (FleetEvent Id)} {req req' : Nat} {token : String}
    {s s' t t' : FleetState Id} {e f : FleetEvent Id}
    (first : fleet.machine.StepAt events earlier s e s')
    (passed : PassedOn fleet i req token s e s')
    (second : fleet.machine.StepAt events earlier' t f t')
    (again : PassedOn fleet i req' token t f t') : earlier = earlier' := by
  refine Machine.StepAt.unique (Q := fun s e s' => ∃ earlier req,
    fleet.machine.StepAt events earlier s e s' ∧ PassedOn fleet i req token s e s') ?_ first
    ⟨_, _, first, passed⟩ second ⟨_, _, second, again⟩
  rintro before before' s e s' t f t' inner ⟨_, req, first, passed⟩ second ⟨_, req', _, again⟩
  obtain ⟨sealedMs, flow, passed⟩ := passedWith_of_passedOn correct authentic timely first passed
  obtain ⟨_, flow', again'⟩ := passedWith_of_passedOn correct authentic timely second again
  obtain rfl := Option.some.inj (passed.opened.symm.trans again'.opened)
  obtain ⟨begun, setAt, recorded, late⟩ := inner.persists passed.remembers
    (fun _ _ _ _ _ holds after => remembers_step holds after) second.before
  obtain ⟨query, session, elapsed, _, _, _, _, rfl, _⟩ := again
  obtain ⟨seen', added⟩ := again'.added
  obtain ⟨finite, expired⟩ :=
    SeenSet.expired_of_add documented (timely _ _ _ _ second).2 recorded added
  rw [Fleet.ttlMs_run second.before] at finite expired
  have up : 0 ≤ (fleet.router i).sessionTtlMs := by
    obtain ⟨guard, created⟩ := Option.isSome_iff_exists.mp passed.up
    unfold SeenSet.create at created
    split at created
    · rename_i constructs
      exact (documented.constructs_iff _ _ (by decide)).mp constructs
    · contradiction
  -- the token has expired by the time the guard forgets it
  obtain ⟨checkedMs, prompt, unexpired⟩ := again'.unexpired
  have alive : ¬ sealedMs + FLOW_TTL_MS ≤ checkedMs := by
    simpa [passed.expiresAt] using unexpired
  have notEarly := passed.notEarly
  rcases outlives with off | long
  · omega
  · omega

/-- A delivery for the token on the instance comes right after `earlier`. -/
def DeliversAt (fleet : Fleet Id) (events : List (FleetEvent Id)) (token : String) (i : Id)
    (earlier : List (FleetEvent Id)) : Prop :=
  ∃ req s e s', fleet.machine.StepAt events earlier s e s' ∧ CompletedOn fleet i req s e s' ∧
    fleet.machine.Happened (PassedOn fleet i req token) earlier

theorem delivers_once (correct : fleet.crypto.GcmCorrect) {events : List (FleetEvent Id)}
    (authentic : TokensAuthentic fleet events) {maxLag : Nat}
    (timely : fleet.machine.Meets (Timely maxLag) events) {i : Id}
    (documented : (fleet.router i).lru.Documented)
    (outlives : GuardOutlives (fleet.router i) maxLag)
    {token : String} {earlier earlier' : List (FleetEvent Id)}
    (delivers : DeliversAt fleet events token i earlier)
    (again : DeliversAt fleet events token i earlier') : earlier = earlier' := by
  obtain ⟨req, s, e, s', step, completed, received, r, f, r', inner, passed⟩ := delivers
  obtain ⟨req', t, g, t', step', completed', received', u, h, u', inner', passed'⟩ := again
  have first := step.within inner
  have second := step'.within inner'
  obtain rfl := passed_once correct authentic timely documented outlives first passed second passed'
  have same := first.event_eq second
  obtain ⟨_, _, _, _, _, _, _, rfl, _⟩ := passed
  obtain ⟨_, _, _, _, _, _, _, rfl, _⟩ := passed'
  cases same
  exact completed_once step completed step' completed'

/-- However often a flow token is replayed, against whichever instances and in whatever
order: each instance forwards at most one delivery for it, so the fleet forwards at most
as many as it has instances. -/
theorem deliveries_bounded [Fintype Id] (correct : fleet.crypto.GcmCorrect)
    (documented : ∀ i, (fleet.router i).lru.Documented) {maxLag : Nat}
    (outlives : ∀ i, GuardOutlives (fleet.router i) maxLag) {events : List (FleetEvent Id)}
    (authentic : TokensAuthentic fleet events)
    (timely : fleet.machine.Meets (Timely maxLag) events) (token : String) :
    (∀ i earlier earlier', DeliversAt fleet events token i earlier →
      DeliversAt fleet events token i earlier' → earlier = earlier') ∧
    ∀ positions : List (List (FleetEvent Id)), positions.Nodup →
      (∀ earlier ∈ positions, ∃ i, DeliversAt fleet events token i earlier) →
        positions.length ≤ Fintype.card Id := by
  have once : ∀ i earlier earlier', DeliversAt fleet events token i earlier →
      DeliversAt fleet events token i earlier' → earlier = earlier' :=
    fun i _ _ => delivers_once correct authentic timely (documented i) (outlives i)
  refine ⟨once, fun positions distinct delivered => ?_⟩
  choose on delivers using delivered
  have instances : (positions.attach.map fun earlier => on earlier.1 earlier.2).Nodup := by
    refine List.Nodup.map_on ?_ (List.nodup_attach.mpr distinct)
    intro earlier _ earlier' _ same
    have delivers' := delivers earlier'.1 earlier'.2
    rw [← same] at delivers'
    exact Subtype.ext (once _ _ _ (delivers earlier.1 earlier.2) delivers')
  have bounded := instances.length_le_card
  rwa [List.length_map, List.length_attach] at bounded

/-- A guard has consumed no more ids than there were events. -/
theorem consumed_le {events : List (FleetEvent Id)} {s : FleetState Id}
    (ran : fleet.machine.run events = some s) (i : Id) :
    (s.inst i).seen.calls.length ≤ events.length := by
  refine Machine.run_invariant (P := fun events s =>
    (s.inst i).seen.calls.length ≤ events.length) ?_ ?_ ran
  · change ((SeenSet.create (fleet.router i).lru (fleet.router i).sessionTtlMs).getD _).calls.length
      ≤ 0
    unfold SeenSet.create
    split <;> exact Nat.le_refl 0
  · intro events s e s' _ holds after
    rw [List.length_append, List.length_singleton]
    rcases Fleet.seen_step after i with same | ⟨id, grown⟩
    · rw [same]
      omega
    · rw [grown, SeenSet.record, List.length_append, List.length_singleton]
      omega

end

namespace Sample

/-- The run with one delivery. -/
def replay : List (FleetEvent Bool) := opening ++ [request] ++ [callback] ++ [completion]

theorem timely : fleet.machine.Meets (Timely 1) replay := by
  intro earlier s e s' step
  obtain ⟨later, split⟩ := step.split
  have member : e ∈ replay := by
    rw [split]
    simp
  have prompt : ∀ e ∈ replay, ∀ i f, e = .on i f → f.elapsed ≤ 1 := by
    simp only [replay, opening, request, callback, completion, List.cons_append, List.nil_append,
      List.forall_mem_cons]
    refine ⟨?_, ?_, ?_, ?_, ?_, ?_, by simp⟩ <;>
      rintro i f ⟨⟩ <;> exact Nat.zero_le 1
  cases e with
  | tick ms => trivial
  | on i f =>
      refine ⟨prompt _ member i f rfl, ?_⟩
      have few := consumed_le step.before i
      have short := step.length_lt
      have distinct := (List.dedup_sublist ((s.inst i).seen.calls.map Prod.fst)).length_le
      rw [List.length_map] at distinct
      simp only [replay, opening, List.cons_append, List.nil_append, List.length_cons,
        List.length_nil] at short
      simp only [CacheCalls.ids, MAX_SEEN]
      omega

theorem delivers_crossing : ∃ earlier, DeliversAt fleet replay sealedFlow.token true earlier := by
  obtain ⟨s, s', delivery, step, delivered⟩ := completed
  refine ⟨_, 0, s, _, s', step, ⟨_, _, _, _, delivery, rfl, delivered⟩, ?_⟩
  obtain ⟨flow, tokens, session, present, _⟩ := BrokerRouter.makesDelivery_of_delivery delivered
  obtain ⟨r, before, after⟩ := Machine.run_concat_inv step.before
  exact Machine.happened_last before after (passedOn_of_encrypting after rfl present)

end Sample

/-- The default configuration: a flow lives as long as the guard remembers it. -/
theorem deliveries_bounded_crossing :
    (∃ earlier, DeliversAt Sample.fleet Sample.replay Sample.sealedFlow.token true earlier ∧
      ∀ other, DeliversAt Sample.fleet Sample.replay Sample.sealedFlow.token true other →
        other = earlier) ∧
    ∀ positions : List (List (FleetEvent Bool)), positions.Nodup →
      (∀ earlier ∈ positions, ∃ i,
        DeliversAt Sample.fleet Sample.replay Sample.sealedFlow.token i earlier) →
          positions.length ≤ 2 := by
  have outlives : ∀ i, GuardOutlives (Sample.fleet.router i) 1 := fun _ =>
    Or.inr (by simp [Sample.fleet, Sample.router, FLOW_TTL_MS])
  have bounded := deliveries_bounded Sample.gcm_correct (fun _ => Sample.lru_documented) outlives
    Sample.authentic Sample.timely Sample.sealedFlow.token
  obtain ⟨earlier, delivers⟩ := Sample.delivers_crossing
  exact ⟨⟨earlier, delivers, fun other again => bounded.1 _ _ _ again delivers⟩, bounded.2⟩

end DicodeRelay.Broker
