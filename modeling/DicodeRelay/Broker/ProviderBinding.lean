import DicodeRelay.Broker.Delivery

/-!
Contract: the provider in the path of a callback.

Owns:
- that a callback request is received once;
- that the deliveries of a run are bound to the provider in the path exactly when
  the path of every delivered callback names the provider sealed in its cookie.

Does not own: how the path is routed. The handler of `/callback/:provider` is
not given the route parameter.
-/

namespace DicodeRelay.Broker

open DicodeRelay.Lib DicodeRelay.Shared DicodeRelay.Relay

section

variable {Id : Type} [DecidableEq Id] {fleet : Fleet Id}

/-- Every delivery completes the sealed flow of a request that the recipient
signed for the provider in the path of the callback. `params` is the route
parameter of each callback request. -/
def ProviderBound (fleet : Fleet Id) (params : Id → Nat → String)
    (events : List (FleetEvent Id)) : Prop :=
  ∀ earlier t i req random requestId id bufferedAmount t' delivery,
    fleet.machine.StepAt events earlier t
      (.on i (.encrypted req random requestId id bufferedAmount)) t' →
    (fleet.router i).delivery (t.inst i) req random = some delivery →
    ∃ received u e u' token checkedMs flow, fleet.machine.StepAt earlier received u e u' ∧
      ReceivedOn fleet i req flow token checkedMs u e u' ∧
      ∃ accepted j r f r' request parts, fleet.machine.StepAt received accepted r f r' ∧
        splitToken token = some parts ∧ Authorised fleet j request parts r f r' ∧
        Grants fleet j (r.inst j).relay request delivery ∧ params i req = request.provider

/-- The path of every callback that leads to a delivery names the provider in
the flow its cookie opens to. -/
def PathsMatch (fleet : Fleet Id) (params : Id → Nat → String) (events : List (FleetEvent Id)) :
    Prop :=
  ∀ earlier t i req random requestId id bufferedAmount t' delivery,
    fleet.machine.StepAt events earlier t
      (.on i (.encrypted req random requestId id bufferedAmount)) t' →
    (fleet.router i).delivery (t.inst i) req random = some delivery →
    ∀ flow token checkedMs,
      fleet.machine.Happened (ReceivedOn fleet i req flow token checkedMs) earlier →
      params i req = flow.provider

/-! ### A callback request is received once -/

theorem BrokerRouter.callback_stays {router : BrokerRouter} {now : Nat} {s s' : Instance}
    {e : InstanceEvent} (after : router.step now s e = some s') {req : Nat}
    (present : s.callbacks.get req ≠ none) : s'.callbacks.get req ≠ none := by
  have put : ∀ (u : Instance) other phase, u.callbacks = s.callbacks →
      (u.setCallback other phase).callbacks.get req ≠ none := by
    intro u other phase same
    rw [Instance.callbacks_setCallback, same]
    split
    · simp
    · exact present
  cases e with
  | relay =>
      cases BrokerRouter.move_of_step after with
      | relay _ _ callbacks => exact callbacks ▸ present
  | auth =>
      cases BrokerRouter.move_of_step after with
      | auth _ same => exact same ▸ present
  | callback other query session elapsed =>
      cases BrokerRouter.move_of_step after with
      | callback _ received =>
          subst received
          cases outcome : router.receiveCallback s.seen query session (now - elapsed) now with
          | mk result seen => cases result <;> exact put { s with seen } other _ rfl
  | encrypted other random requestId id bufferedAmount =>
      simp only [step, encrypted] at after
      split at after
      · split at after
        · obtain rfl := Option.some.inj after
          exact put s other _ rfl
        · obtain rfl := Option.some.inj after
          exact put s other _ rfl
        · obtain ⟨relay, _, rfl⟩ := Option.map_eq_some_iff.mp after
          exact put (s.setRelay relay) other _ rfl
      · contradiction
  | settled other =>
      simp only [step, Instance.settled] at after
      split at after
      · obtain ⟨effect, _, rfl⟩ := Option.map_eq_some_iff.mp after
        cases effect <;> exact put s other _ rfl
      · contradiction

theorem Fleet.callback_stays {s s' : FleetState Id} {e : FleetEvent Id}
    (after : fleet.machine.step s e = some s') {i : Id} {req : Nat}
    (present : (s.inst i).callbacks.get req ≠ none) : (s'.inst i).callbacks.get req ≠ none := by
  rcases Fleet.inst_step after i with same | ⟨ms, _, ticked⟩ | ⟨f, _, stepped⟩
  · rw [same]
    exact present
  · rw [ticked]
    exact present
  · exact BrokerRouter.callback_stays stepped present

theorem ReceivedOn.callback_step {i : Id} {req : Nat} {flow : Session} {token : String}
    {checkedMs : Nat} {s s' : FleetState Id} {e : FleetEvent Id}
    (received : ReceivedOn fleet i req flow token checkedMs s e s')
    (after : fleet.machine.step s e = some s') :
    (s.inst i).callbacks.get req = none ∧ (s'.inst i).callbacks.get req ≠ none := by
  obtain ⟨query, session, elapsed, rfl, _⟩ := received
  obtain ⟨next, stepped, rfl⟩ := Fleet.step_on after
  cases BrokerRouter.move_of_step stepped with
  | callback fresh got =>
      refine ⟨fresh, ?_⟩
      rw [Fleet.inst_replace_self, got]
      cases (fleet.router i).receiveCallback (s.inst i).seen query session (s.now - elapsed)
        s.now with
      | mk result seen =>
          cases result <;> simp [Instance.receive, Instance.callbacks_setCallback]

/-- No request is received again. -/
theorem ReceivedOn.not_again {events first second : List (FleetEvent Id)} {i : Id} {req : Nat}
    {flow flow' : Session} {token token' : String} {checkedMs checkedMs' : Nat}
    {s s' t t' : FleetState Id} {e f : FleetEvent Id}
    (stepped : fleet.machine.StepAt events first s e s')
    (received : ReceivedOn fleet i req flow token checkedMs s e s')
    (stepped' : fleet.machine.StepAt events second t f t')
    (received' : ReceivedOn fleet i req flow' token' checkedMs' t f t') :
    ¬ first.length < second.length := by
  intro shorter
  have before := stepped.before_of_length_lt stepped' shorter
  have stays := before.persists (P := fun s => (s.inst i).callbacks.get req ≠ none)
    (received.callback_step stepped.after).2
    (fun _ _ _ _ _ present after => Fleet.callback_stays after present) stepped'.before
  exact stays (received'.callback_step stepped'.after).1

/-- Two receptions of one request are the same step. -/
theorem ReceivedOn.unique {events first second : List (FleetEvent Id)} {i : Id} {req : Nat}
    {flow flow' : Session} {token token' : String} {checkedMs checkedMs' : Nat}
    {s s' t t' : FleetState Id} {e f : FleetEvent Id}
    (stepped : fleet.machine.StepAt events first s e s')
    (received : ReceivedOn fleet i req flow token checkedMs s e s')
    (stepped' : fleet.machine.StepAt events second t f t')
    (received' : ReceivedOn fleet i req flow' token' checkedMs' t f t') : flow = flow' := by
  have notBefore := received.not_again stepped stepped' received'
  have notAfter := received'.not_again stepped' stepped received
  obtain rfl := stepped.earlier_eq_of_length_eq stepped' (by omega)
  obtain rfl := stepped.event_eq stepped'
  obtain ⟨query, session, elapsed, rfl, tokenEq, opened, _⟩ := received
  obtain ⟨_, _, _, sameEvent, tokenEq', opened', _⟩ := received'
  cases sameEvent
  obtain rfl := Option.some.inj (tokenEq.symm.trans tokenEq')
  exact Option.some.inj (opened.symm.trans opened')

/-! ### Every run -/

/-- The deliveries of a run are bound to the provider in the path exactly when
the paths of the delivered callbacks match their cookies. -/
theorem provider_bound_iff (correct : fleet.crypto.GcmCorrect) {events : List (FleetEvent Id)}
    (authentic : TokensAuthentic fleet events) (params : Id → Nat → String) :
    ProviderBound fleet params events ↔ PathsMatch fleet params events := by
  constructor
  · intro bound earlier t i req random requestId id bufferedAmount t' delivery step delivered flow
      token checkedMs happened
    obtain ⟨received, u, e, u', token', checkedMs', flow', receivedStep, shape, accepted, j, r, f,
      r', request, parts, _, split, authorised, _, named⟩ :=
      bound _ _ _ _ _ _ _ _ _ _ step delivered
    obtain ⟨first, s, e', s', firstStep, shape'⟩ := happened
    obtain rfl := ReceivedOn.unique firstStep shape' receivedStep shape
    rw [named, flow_of_authorised correct shape authorised split]
    rfl
  · intro paths earlier t i req random requestId id bufferedAmount t' delivery step delivered
    obtain ⟨flow, tokens, session, delivers⟩ := BrokerRouter.makesDelivery_of_delivery delivered
    obtain ⟨token, checkedMs, received, u, e, u', receivedStep, shape⟩ :=
      Fleet.received_of_encrypting step.before delivers.present
    have named := paths _ _ _ _ _ _ _ _ _ _ step delivered flow token checkedMs
      ⟨received, u, e, u', receivedStep, shape⟩
    have ofAll : fleet.machine.StepAt events received u e u' := by
      obtain ⟨later, rfl⟩ := step.split
      exact receivedStep.extend
    obtain ⟨j, request, parts, accepted, r, f, r', acceptedStep, authorised, split, rfl⟩ :=
      authorised_of_received correct authentic ofAll shape
    exact ⟨received, u, e, u', token, checkedMs, _, receivedStep, shape, accepted, j, r, f, r',
      request, parts, acceptedStep, split, authorised,
      grants_of_authorised acceptedStep.before authorised delivers.recipient delivers.key
        delivers.sessionId, named⟩

end

/-- The sample's callback comes back under the provider of its request. -/
theorem provider_bound_crossing :
    ProviderBound Sample.fleet (fun _ _ => "github")
        (Sample.opening ++ [Sample.request] ++ [Sample.callback] ++ [Sample.completion]) ↔
      PathsMatch Sample.fleet (fun _ _ => "github")
        (Sample.opening ++ [Sample.request] ++ [Sample.callback] ++ [Sample.completion]) :=
  provider_bound_iff Sample.gcm_correct Sample.authentic _

/-- The callback of a flow that was signed for `github` is requested under
`/callback/slack`, and its token is delivered. -/
theorem provider_unbound :
    ¬ ProviderBound Sample.fleet (fun _ _ => "slack")
      (Sample.opening ++ [Sample.request] ++ [Sample.callback] ++ [Sample.completion]) := by
  intro bound
  obtain ⟨s, s', delivery, step, delivered⟩ := Sample.completed
  obtain ⟨received, u, e, u', token, checkedMs, flow, receivedStep, shape, accepted, j, r, f, r',
    request, parts, _, split, authorised, _, named⟩ := bound _ _ _ _ _ _ _ _ _ _ step delivered
  obtain ⟨_, _, _, _, _, _, _, _, _, _, checked, _⟩ := authorised
  have enabled : request.provider ∈ ["github"] := (BrokerRouter.checkAuth_eq_ok.mp checked).enabled
  rw [← named] at enabled
  revert enabled
  decide

end DicodeRelay.Broker
