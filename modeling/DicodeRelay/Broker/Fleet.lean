import DicodeRelay.Broker.Router
import DicodeRelay.Lib.Machine

/-!
Contract: broker instances that share one key, run side by side.

Owns:
- an instance: its relay server, its guard and the callbacks it is handling;
- the steps of an instance, where a callback is handled in parts with other
  events between them;
- fleets of instances over one clock, and their runs;
- what each step does to the callbacks of an instance.

Does not own: what holds along the runs.
-/

namespace DicodeRelay.Broker

open DicodeRelay.Lib DicodeRelay.Shared DicodeRelay.Relay

/-! ### One instance -/

/-- How far the handling of a callback has come. -/
inductive CallbackPhase where
  /-- It awaits the encryption of the tokens. -/
  | encrypting (flow : Session) (tokens : List (String × QueryValue))
      (session : Option FlowSession)
  /-- It awaits the answer to the forward `id`. -/
  | forwarding (id : String) (session : Option FlowSession)
  | answered (reply : HtmlReply) (session : Option FlowSession)
  /-- The handler's promise was rejected. -/
  | threw

structure Instance where
  relay : Relay.State
  seen : SeenSet
  callbacks : OrderedMap Nat CallbackPhase

inductive InstanceEvent where
  /-- Anything that happens to the relay server, except that time passes. -/
  | relay (e : Relay.Event)
  /-- `GET /auth/:provider`. Between the first and the last reading of the clock
  `elapsed` milliseconds pass. -/
  | auth (provider : Option String) (query : Query) (session : Option FlowSession)
      (elapsed : Nat) (iv : Bytes)
  /-- `GET /callback/:provider`, up to the first `await`. -/
  | callback (req : Nat) (query : Query) (session : Option FlowSession) (elapsed : Nat)
  /-- The encryption of the callback's tokens has ended. -/
  | encrypted (req : Nat) (random : DeliveryRandomness) (requestId id : String)
      (bufferedAmount : Nat)
  /-- The forward of the callback's delivery has been settled. -/
  | settled (req : Nat)

/-- An envelope on its way: the daemon it is forwarded to and the key it is
encrypted to. -/
structure Delivery where
  recipient : String
  key : Bytes
  payload : OAuthTokenDeliveryPayload
deriving DecidableEq

namespace Instance

def setRelay (s : Instance) (relay : Relay.State) : Instance := { s with relay }

def setCallback (s : Instance) (req : Nat) (phase : CallbackPhase) : Instance :=
  { s with callbacks := s.callbacks.set req phase }

def tick (s : Instance) (ms : Nat) : Instance :=
  s.setRelay { s.relay with now := s.relay.now + ms }

/-- The callback has been received. -/
def receive (s : Instance) (req : Nat) : CallbackOutcome × SeenSet → Instance
  | (.refused reply session, seen) => ({ s with seen }).setCallback req (.answered reply session)
  | (.consumed flow tokens session, seen) =>
      ({ s with seen }).setCallback req (.encrypting flow tokens session)

/-- What the promise of the forward `id` settled to, if it did. -/
def settlement (s : Instance) (id : String) : Option Relay.Effect :=
  s.relay.log.find? fun effect => effect.settledId = some id

/-- `handleCallback` after the forward. -/
def settled (s : Instance) (req : Nat) : Option Instance :=
  match s.callbacks.get req with
  | some (.forwarding id session) =>
      (s.settlement id).map fun
        | .resolve _ _ => s.setCallback req (.answered
            (htmlReply 200 "Authorization complete. You may close this tab.") session)
        | _ => s.setCallback req (.answered
            (htmlReply 503 "Daemon not connected. Please retry the OAuth flow.") session)
  | _ => none

end Instance

namespace BrokerRouter

variable (router : BrokerRouter)

/-- What the callback `req` delivers when its encryption ends. -/
def delivery (s : Instance) (req : Nat) (random : DeliveryRandomness) : Option Delivery :=
  match s.callbacks.get req with
  | some (.encrypting flow tokens _) =>
      match router.buildDelivery flow tokens random with
      | .signed payload => some ⟨flow.relayUuid, flow.pubkey, payload⟩
      | _ => none
  | _ => none

/-- The forward of a delivery. -/
def forwardEvent (delivery : Delivery) (requestId id : String) (bufferedAmount : Nat) :
    Relay.Event :=
  .forward delivery.recipient "POST" "/hooks/oauth-complete" (deliveryHeaders requestId)
    (utf8 (deliveryJson delivery.payload).stringify) id bufferedAmount

/-- `handleCallback` after the encryption. -/
def encrypted (s : Instance) (req : Nat) (random : DeliveryRandomness) (requestId id : String)
    (bufferedAmount : Nat) : Option Instance :=
  match s.callbacks.get req with
  | some (.encrypting flow tokens session) =>
      match router.buildDelivery flow tokens random with
      | .encryptionFailed =>
          some (s.setCallback req (.answered (htmlReply 500 "Encryption failed") session))
      | .threw => some (s.setCallback req .threw)
      | .signed payload =>
          (router.relay.step s.relay (forwardEvent ⟨flow.relayUuid, flow.pubkey, payload⟩
            requestId id bufferedAmount)).map fun relay =>
              (s.setRelay relay).setCallback req (.forwarding id session)
  | _ => none

variable {router} in
/-- A callback whose envelope is signed delivers it. -/
theorem delivery_of_signed {s : Instance} {req : Nat} {flow : Session}
    {tokens : List (String × QueryValue)} {session : Option FlowSession}
    {random : DeliveryRandomness} {payload : OAuthTokenDeliveryPayload}
    (present : s.callbacks.get req = some (.encrypting flow tokens session))
    (built : router.buildDelivery flow tokens random = .signed payload) :
    router.delivery s req random = some ⟨flow.relayUuid, flow.pubkey, payload⟩ := by
  simp only [delivery, present, built]

variable {router} in
/-- A callback whose envelope is signed goes on with its forward. -/
theorem encrypted_of_signed {s : Instance} {req : Nat} {flow : Session}
    {tokens : List (String × QueryValue)} {session : Option FlowSession}
    {random : DeliveryRandomness} {payload : OAuthTokenDeliveryPayload}
    (present : s.callbacks.get req = some (.encrypting flow tokens session))
    (built : router.buildDelivery flow tokens random = .signed payload)
    (requestId id : String) (bufferedAmount : Nat) :
    router.encrypted s req random requestId id bufferedAmount =
      (router.relay.step s.relay (forwardEvent ⟨flow.relayUuid, flow.pubkey, payload⟩
        requestId id bufferedAmount)).map fun relay =>
          (s.setRelay relay).setCallback req (.forwarding id session) := by
  simp only [encrypted, present, built]

variable {router} in
theorem encrypted_isSome {s : Instance} {req : Nat} {flow : Session}
    {tokens : List (String × QueryValue)} {session : Option FlowSession}
    (present : s.callbacks.get req = some (.encrypting flow tokens session))
    (random : DeliveryRandomness) (requestId : String) {id : String} (bufferedAmount : Nat)
    (unissued : s.relay.issued.get id = none) :
    (router.encrypted s req random requestId id bufferedAmount).isSome = true := by
  simp only [encrypted, present]
  cases router.buildDelivery flow tokens random with
  | encryptionFailed => rfl
  | threw => rfl
  | signed payload => simp [forwardEvent, RelayServer.step, unissued]

/-- One event, at `now`. `/auth` leaves no trace in the instance: the flow it
seals is in the answer. -/
def step (now : Nat) (s : Instance) : InstanceEvent → Option Instance
  | .relay (.tick _) => none
  | .relay e => (router.relay.step s.relay e).map s.setRelay
  | .auth _ _ _ _ iv => if iv.length = IV_LEN then some s else none
  | .callback req query session elapsed =>
      if (s.callbacks.get req).isNone then
        some (s.receive req (router.receiveCallback s.seen query session (now - elapsed) now))
      else none
  | .encrypted req random requestId id bufferedAmount =>
      router.encrypted s req random requestId id bufferedAmount
  | .settled req => s.settled req

/-- What the instance answers to `/auth`. -/
def answerAuth (now : Nat) (s : Instance) (provider : Option String) (query : Query)
    (session : Option FlowSession) (elapsed : Nat) (iv : Bytes) : AuthOutcome :=
  router.handleAuth s.relay provider query session (now - elapsed) now iv

/-- The guard can be constructed, so the instance comes up. -/
def starts : Bool := (SeenSet.create router.lru router.sessionTtlMs).isSome

def start : Instance where
  relay := Relay.State.init
  seen := (SeenSet.create router.lru router.sessionTtlMs).getD ⟨router.sessionTtlMs, []⟩
  callbacks := .empty

end BrokerRouter

/-! ### What a step changes -/

namespace Instance

variable (s : Instance)

@[simp] theorem callbacks_setRelay (relay : Relay.State) :
    (s.setRelay relay).callbacks = s.callbacks := rfl

@[simp] theorem seen_setRelay (relay : Relay.State) : (s.setRelay relay).seen = s.seen := rfl

@[simp] theorem relay_setCallback (req : Nat) (phase : CallbackPhase) :
    (s.setCallback req phase).relay = s.relay := rfl

@[simp] theorem seen_setCallback (req : Nat) (phase : CallbackPhase) :
    (s.setCallback req phase).seen = s.seen := rfl

@[simp] theorem callbacks_tick (ms : Nat) : (s.tick ms).callbacks = s.callbacks := rfl

@[simp] theorem seen_tick (ms : Nat) : (s.tick ms).seen = s.seen := rfl

theorem callbacks_setCallback (req other : Nat) (phase : CallbackPhase) :
    (s.setCallback req phase).callbacks.get other =
      if req = other then some phase else s.callbacks.get other :=
  OrderedMap.get_set _ _ _ _

theorem relay_receive (req : Nat) (received : CallbackOutcome × SeenSet) :
    (s.receive req received).relay = s.relay := by
  obtain ⟨outcome, seen⟩ := received
  cases outcome <;> rfl

theorem seen_receive (req : Nat) (received : CallbackOutcome × SeenSet) :
    (s.receive req received).seen = received.2 := by
  obtain ⟨outcome, seen⟩ := received
  cases outcome <;> rfl

end Instance

/-- What one event does to an instance, as far as its relay server, its guard
and its callbacks that await an encryption go. -/
inductive InstanceMove (router : BrokerRouter) (now : Nat) (s s' : Instance) :
    InstanceEvent → Prop where
  | relay {e : Relay.Event} (stepped : router.relay.step s.relay e = some s'.relay)
      (seen : s'.seen = s.seen) (callbacks : s'.callbacks = s.callbacks) :
      InstanceMove router now s s' (.relay e)
  | auth {provider : Option String} {query : Query} {session : Option FlowSession}
      {elapsed : Nat} {iv : Bytes} (ivLength : iv.length = IV_LEN) (same : s' = s) :
      InstanceMove router now s s' (.auth provider query session elapsed iv)
  | callback {req : Nat} {query : Query} {session : Option FlowSession} {elapsed : Nat}
      (fresh : s.callbacks.get req = none)
      (received : s' = s.receive req
        (router.receiveCallback s.seen query session (now - elapsed) now)) :
      InstanceMove router now s s' (.callback req query session elapsed)
  | delivered {req : Nat} {random : DeliveryRandomness} {requestId id : String}
      {bufferedAmount : Nat}
      (relay : s'.relay = s.relay ∨ ∃ e, router.relay.step s.relay e = some s'.relay)
      (seen : s'.seen = s.seen)
      (callbacks : ∀ other flow tokens session,
        s'.callbacks.get other = some (.encrypting flow tokens session) →
          s.callbacks.get other = some (.encrypting flow tokens session)) :
      InstanceMove router now s s' (.encrypted req random requestId id bufferedAmount)
  | settled {req : Nat} (relay : s'.relay = s.relay) (seen : s'.seen = s.seen)
      (callbacks : ∀ other flow tokens session,
        s'.callbacks.get other = some (.encrypting flow tokens session) →
          s.callbacks.get other = some (.encrypting flow tokens session)) :
      InstanceMove router now s s' (.settled req)

/-- A callback that goes on to another phase leaves no new one encrypting. -/
theorem Instance.encrypting_of_setCallback {s : Instance} {req : Nat} {phase : CallbackPhase}
    (past : ∀ flow tokens session, phase ≠ .encrypting flow tokens session) {other : Nat}
    {flow : Session} {tokens : List (String × QueryValue)} {session : Option FlowSession}
    (present : (s.setCallback req phase).callbacks.get other =
      some (.encrypting flow tokens session)) :
    s.callbacks.get other = some (.encrypting flow tokens session) := by
  rw [callbacks_setCallback] at present
  split at present
  · exact absurd (Option.some.inj present) (past _ _ _)
  · exact present

theorem BrokerRouter.move_of_step {router : BrokerRouter} {now : Nat} {s s' : Instance}
    {e : InstanceEvent} (after : router.step now s e = some s') :
    InstanceMove router now s s' e := by
  cases e with
  | relay e =>
      have stepped : (router.relay.step s.relay e).map s.setRelay = some s' := by
        cases e with
        | tick => contradiction
        | _ => exact after
      obtain ⟨relay, relayStepped, rfl⟩ := Option.map_eq_some_iff.mp stepped
      exact .relay relayStepped rfl rfl
  | auth provider query session elapsed iv =>
      simp only [step, Option.ite_none_right_eq_some, Option.some.injEq] at after
      exact .auth after.1 after.2.symm
  | callback req query session elapsed =>
      simp only [step, Option.ite_none_right_eq_some, Option.some.injEq,
        Option.isNone_iff_eq_none] at after
      exact .callback after.1 after.2.symm
  | encrypted req random requestId id bufferedAmount =>
      simp only [step, encrypted] at after
      split at after
      · split at after
        · obtain rfl := Option.some.inj after
          exact .delivered (Or.inl rfl) rfl fun _ _ _ _ =>
            Instance.encrypting_of_setCallback (by simp)
        · obtain rfl := Option.some.inj after
          exact .delivered (Or.inl rfl) rfl fun _ _ _ _ =>
            Instance.encrypting_of_setCallback (by simp)
        · obtain ⟨relay, stepped, rfl⟩ := Option.map_eq_some_iff.mp after
          exact .delivered (Or.inr ⟨_, stepped⟩) rfl fun _ _ _ _ =>
            Instance.encrypting_of_setCallback (by simp)
      · contradiction
  | settled req =>
      simp only [step, Instance.settled] at after
      split at after
      · obtain ⟨effect, _, rfl⟩ := Option.map_eq_some_iff.mp after
        have past : ∀ reply session other flow tokens session',
            (s.setCallback req (.answered reply session)).callbacks.get other =
              some (.encrypting flow tokens session') →
            s.callbacks.get other = some (.encrypting flow tokens session') :=
          fun _ _ _ _ _ _ => Instance.encrypting_of_setCallback (by simp)
        cases effect with
        | resolve => exact .settled rfl rfl (past _ _)
        | _ => exact .settled rfl rfl (past _ _)
      · contradiction

/-! ### Many instances -/

/-- Instances with one broker key. -/
structure Fleet (Id : Type) where
  crypto : Primitives
  brokerKey : BrokerSigningKey
  router : Id → BrokerRouter
  router_crypto : ∀ i, (router i).crypto = crypto
  router_key : ∀ i, (router i).brokerKey = brokerKey

structure FleetState (Id : Type) where
  now : Nat
  inst : Id → Instance

inductive FleetEvent (Id : Type) where
  | tick (ms : Nat)
  | on (i : Id) (e : InstanceEvent)

namespace Fleet

variable {Id : Type} [DecidableEq Id] (fleet : Fleet Id)

/-- The key every instance seals flows with. -/
def flowStateKey : Bytes := fleet.brokerKey.flowStateKey fleet.crypto

omit [DecidableEq Id] in
theorem router_flowStateKey (i : Id) : (fleet.router i).flowStateKey = fleet.flowStateKey := by
  rw [BrokerRouter.flowStateKey, fleet.router_crypto, fleet.router_key, flowStateKey]

/-- The state with another instance in the place of `i`. -/
def replace (s : FleetState Id) (i : Id) (inst : Instance) : FleetState Id :=
  { s with inst := fun j => if j = i then inst else s.inst j }

/-- Time passes everywhere alike. -/
def tick (s : FleetState Id) (ms : Nat) : FleetState Id where
  now := s.now + ms
  inst j := (s.inst j).tick ms

def step (s : FleetState Id) : FleetEvent Id → Option (FleetState Id)
  | .tick ms => some (tick s ms)
  | .on i e =>
      if (fleet.router i).starts then
        ((fleet.router i).step s.now (s.inst i) e).map (replace s i)
      else none

/-- The runs of the fleet. -/
def machine : Machine (FleetState Id) (FleetEvent Id) where
  init := ⟨0, fun i => (fleet.router i).start⟩
  step := fleet.step

variable {fleet}

theorem step_on {s s' : FleetState Id} {i : Id} {e : InstanceEvent}
    (after : fleet.machine.step s (.on i e) = some s') :
    ∃ next, (fleet.router i).step s.now (s.inst i) e = some next ∧ s' = replace s i next := by
  simp only [machine, step, Option.ite_none_right_eq_some, Option.map_eq_some_iff] at after
  obtain ⟨_, next, stepped, rfl⟩ := after
  exact ⟨next, stepped, rfl⟩

theorem starts_of_step_on {s s' : FleetState Id} {i : Id} {e : InstanceEvent}
    (after : fleet.machine.step s (.on i e) = some s') : (fleet.router i).starts = true := by
  simp only [machine, step, Option.ite_none_right_eq_some] at after
  exact after.1

theorem step_on_of {s : FleetState Id} {i : Id} {e : InstanceEvent} {next : Instance}
    (starts : (fleet.router i).starts = true)
    (stepped : (fleet.router i).step s.now (s.inst i) e = some next) :
    fleet.machine.step s (.on i e) = some (replace s i next) := by
  simp only [machine, step, starts, if_true, stepped, Option.map_some]

omit [DecidableEq Id] in
@[simp] theorem inst_tick (s : FleetState Id) (ms : Nat) (i : Id) :
    (tick s ms).inst i = (s.inst i).tick ms := rfl

@[simp] theorem inst_replace_self (s : FleetState Id) (i : Id) (inst : Instance) :
    (replace s i inst).inst i = inst := if_pos rfl

theorem inst_replace_of_ne (s : FleetState Id) {i j : Id} (inst : Instance)
    (different : j ≠ i) : (replace s i inst).inst j = s.inst j := if_neg different

@[simp] theorem replace_self (s : FleetState Id) (i : Id) : replace s i (s.inst i) = s := by
  have same : (fun j => if j = i then s.inst i else s.inst j) = s.inst := by
    funext j
    split
    · rename_i equal
      rw [equal]
    · rfl
  rw [replace, same]

theorem replace_replace (s : FleetState Id) (i : Id) (first second : Instance) :
    replace (replace s i first) i second = replace s i second := by
  unfold replace
  congr 1
  funext j
  by_cases same : j = i
  · rw [if_pos same, if_pos same]
  · rw [if_neg same, if_neg same]
    exact if_neg same

/-- What happens to the relay server of an instance before anything else does. -/
theorem run_relay {i : Id} (starts : (fleet.router i).starts = true) {events : List Relay.Event}
    (still : ∀ ms, .tick ms ∉ events) {relay : Relay.State}
    (ran : (fleet.router i).relay.machine.run events = some relay) :
    fleet.machine.run (events.map fun e => .on i (.relay e)) =
      some (replace fleet.machine.init i ((fleet.machine.init.inst i).setRelay relay)) := by
  refine Machine.run_invariant (P := fun events relay => (∀ ms, .tick ms ∉ events) →
    fleet.machine.run (events.map fun e => .on i (.relay e)) =
      some (replace fleet.machine.init i ((fleet.machine.init.inst i).setRelay relay)))
    ?_ ?_ ran still
  · intro _
    exact congrArg some (replace_self fleet.machine.init i).symm
  · intro events relay e relay' _ before after still
    have timeless : ∀ ms, e ≠ .tick ms := fun ms same => still ms (by simp [same])
    have stepped : (fleet.router i).step 0 ((fleet.machine.init.inst i).setRelay relay)
        (.relay e) = some ((fleet.machine.init.inst i).setRelay relay') := by
      cases e with
      | tick ms => exact absurd rfl (timeless ms)
      | _ => exact Option.map_eq_some_iff.mpr ⟨relay', after, rfl⟩
    rw [← inst_replace_self fleet.machine.init i
      ((fleet.machine.init.inst i).setRelay relay)] at stepped
    have registered := before fun ms member => still ms (by simp [member])
    rw [List.map_append, ← replace_replace]
    exact Machine.run_concat_of registered (step_on_of starts stepped)

/-- An instance changes by its own events and by the passing of time. -/
theorem inst_step {s s' : FleetState Id} {e : FleetEvent Id}
    (after : fleet.machine.step s e = some s') (i : Id) :
    s'.inst i = s.inst i ∨ (∃ ms, e = .tick ms ∧ s'.inst i = (s.inst i).tick ms) ∨
      ∃ f, e = .on i f ∧ (fleet.router i).step s.now (s.inst i) f = some (s'.inst i) := by
  cases e with
  | tick ms =>
      obtain rfl := Option.some.inj after
      exact Or.inr (Or.inl ⟨ms, rfl, rfl⟩)
  | on j f =>
      obtain ⟨next, stepped, rfl⟩ := step_on after
      by_cases same : i = j
      · subst same
        right
        right
        exact ⟨f, rfl, by rw [inst_replace_self]; exact stepped⟩
      · exact Or.inl (inst_replace_of_ne s next same)

theorem now_step {s s' : FleetState Id} {e : FleetEvent Id}
    (after : fleet.machine.step s e = some s') : s.now ≤ s'.now := by
  cases e with
  | tick ms =>
      obtain rfl := Option.some.inj after
      exact Nat.le_add_right _ _
  | on j f =>
      obtain ⟨next, _, rfl⟩ := step_on after
      exact Nat.le_refl _

variable (fleet)

/-- A fleet of one. -/
def single (router : BrokerRouter) : Fleet Unit where
  crypto := router.crypto
  brokerKey := router.brokerKey
  router _ := router
  router_crypto _ := rfl
  router_key _ := rfl

end Fleet

end DicodeRelay.Broker
