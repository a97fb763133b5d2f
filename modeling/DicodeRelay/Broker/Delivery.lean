import DicodeRelay.Broker.Fleet
import DicodeRelay.Relay.Registry

/-!
Contract: where delivery envelopes go.

Owns:
- the relay servers and the callbacks of a fleet along its runs;
- that a token which opens was sealed, as an assumption on a run;
- that every envelope goes to the daemon, and is encrypted to the key, of an
  auth request that some instance accepted less than a flow's lifetime before
  the callback.

Does not own: how often one request is delivered.
-/

namespace DicodeRelay.Broker

open DicodeRelay.Lib DicodeRelay.Shared DicodeRelay.Relay

section

variable {Id : Type} [DecidableEq Id] {fleet : Fleet Id}

/-! ### The relay servers of a fleet -/

/-- The relay server of every instance is in a state it reaches by itself. -/
theorem Fleet.relay_reachable {events : List (FleetEvent Id)} {s : FleetState Id}
    (ran : fleet.machine.run events = some s) (i : Id) :
    ∃ relayEvents, (fleet.router i).relay.machine.run relayEvents = some (s.inst i).relay := by
  refine Machine.run_project (fleet.router i).relay.machine
    (fun s : FleetState Id => (s.inst i).relay) rfl ?_ ran
  intro s e s' after
  rcases Fleet.inst_step after i with same | ⟨ms, _, ticked⟩ | ⟨f, _, stepped⟩
  · exact Or.inl (congrArg Instance.relay same)
  · right
    exact ⟨.tick ms, by rw [ticked]; rfl⟩
  · cases BrokerRouter.move_of_step stepped with
    | relay relayStepped => exact Or.inr ⟨_, relayStepped⟩
    | auth _ same => exact Or.inl (congrArg Instance.relay same)
    | callback _ received =>
        left
        simp only [received, Instance.relay_receive]
    | delivered relay => exact relay
    | settled relay => exact Or.inl relay

/-! ### The flows that are delivered -/

/-- The step received a callback on `i` that goes on with `flow`, read from the
token and before the expiry at `checkedMs`. -/
def ReceivedOn (fleet : Fleet Id) (i : Id) (req : Nat) (flow : Session)
    (token : String) (checkedMs : Nat) (s : FleetState Id) (e : FleetEvent Id)
    (_ : FleetState Id) : Prop :=
  ∃ query session elapsed, e = .on i (.callback req query session elapsed) ∧
    readBrokerFlow session = some token ∧
    openFlowState fleet.crypto fleet.flowStateKey token = some flow ∧
    checkedMs = s.now - elapsed ∧ flow.expiresAt.atMost checkedMs = false

/-- A callback that awaits its encryption now did so before, or was received in
this step. -/
theorem Fleet.encrypting_step {s s' : FleetState Id} {e : FleetEvent Id}
    (after : fleet.machine.step s e = some s') {i : Id} {req : Nat} {flow : Session}
    {tokens : List (String × QueryValue)} {session : Option FlowSession}
    (present : (s'.inst i).callbacks.get req = some (.encrypting flow tokens session)) :
    (s.inst i).callbacks.get req = some (.encrypting flow tokens session) ∨
      ∃ token checkedMs, ReceivedOn fleet i req flow token checkedMs s e s' := by
  rcases Fleet.inst_step after i with same | ⟨ms, _, ticked⟩ | ⟨f, rfl, stepped⟩
  · exact Or.inl (same ▸ present)
  · rw [ticked, Instance.callbacks_tick] at present
    exact Or.inl present
  · cases BrokerRouter.move_of_step stepped with
    | relay _ _ callbacks => exact Or.inl (callbacks ▸ present)
    | auth _ same => exact Or.inl (same ▸ present)
    | delivered _ _ callbacks => exact Or.inl (callbacks _ _ _ _ present)
    | settled _ _ callbacks => exact Or.inl (callbacks _ _ _ _ present)
    | @callback other query cookie elapsed fresh received =>
        rw [received] at present
        cases outcome : (fleet.router i).receiveCallback (s.inst i).seen query cookie
            (s.now - elapsed) s.now with
        | mk result seen =>
            rw [outcome] at present
            cases result with
            | refused reply cookie' =>
                exact Or.inl (Instance.encrypting_of_setCallback (by simp) present)
            | consumed flow' tokens' cookie' =>
                simp only [Instance.receive, Instance.callbacks_setCallback] at present
                split at present
                · rename_i sameReq
                  obtain ⟨⟨⟨token, tokenEq, opened⟩, _, unexpired, _⟩, _⟩ :=
                    BrokerRouter.consumes_of_receiveCallback outcome
                  cases present
                  rw [fleet.router_crypto, fleet.router_flowStateKey] at opened
                  exact Or.inr ⟨token, _, query, cookie, elapsed, by rw [sameReq], tokenEq, opened,
                    rfl, unexpired⟩
                · exact Or.inl present

/-- A callback that awaits its encryption was received with its flow. -/
theorem Fleet.received_of_encrypting {events : List (FleetEvent Id)} {s : FleetState Id}
    (ran : fleet.machine.run events = some s) {i : Id} {req : Nat} {flow : Session}
    {tokens : List (String × QueryValue)} {session : Option FlowSession}
    (present : (s.inst i).callbacks.get req = some (.encrypting flow tokens session)) :
    ∃ token checkedMs, fleet.machine.Happened (ReceivedOn fleet i req flow token checkedMs)
      events := by
  refine Machine.run_invariant (P := fun events s => ∀ req flow tokens session,
    (s.inst i).callbacks.get req = some (.encrypting flow tokens session) →
      ∃ token checkedMs, fleet.machine.Happened (ReceivedOn fleet i req flow token checkedMs)
        events) ?_ ?_ ran req flow tokens session present
  · intro req flow tokens session absurdity
    simp [machine, BrokerRouter.start] at absurdity
  · intro events s e s' before all after req flow tokens session present
    rcases Fleet.encrypting_step after present with old | ⟨token, checkedMs, received⟩
    · obtain ⟨token, checkedMs, happened⟩ := all req flow tokens session old
      exact ⟨token, checkedMs, happened.extend _⟩
    · exact ⟨token, checkedMs, Machine.happened_last before after received⟩

/-! ### The requests behind them -/

/-- The step accepted `request` on `j` and sealed its flow into `parts`. -/
def Authorised (fleet : Fleet Id) (j : Id) (request : AuthRequest) (parts : SealedFlow)
    (s : FleetState Id) (e : FleetEvent Id) (_ : FleetState Id) : Prop :=
  ∃ provider query session elapsed iv flow cookie location,
    e = .on j (.auth provider query session elapsed iv) ∧
    (fleet.router j).answerAuth s.now (s.inst j) provider query session elapsed iv =
      .redirected flow cookie location ∧
    (fleet.router j).checkAuth (s.inst j).relay provider query (s.now - elapsed) = .ok request ∧
    parts = encryptFlow fleet.crypto fleet.flowStateKey iv (request.flow s.now)

/-- The step answered an auth request on `j` with a redirect, and sealed its flow
into `parts`. -/
def SealedOn (fleet : Fleet Id) (j : Id) (parts : SealedFlow) (s : FleetState Id)
    (e : FleetEvent Id) (_ : FleetState Id) : Prop :=
  ∃ provider query session elapsed iv flow cookie location,
    e = .on j (.auth provider query session elapsed iv) ∧
    (fleet.router j).answerAuth s.now (s.inst j) provider query session elapsed iv =
      .redirected flow cookie location ∧
    parts = encryptFlow fleet.crypto fleet.flowStateKey iv flow

/-- AES-256-GCM as the run assumes it: when the token of a callback decrypts
under the fleet's key, some instance sealed it before. -/
def TokensAuthentic (fleet : Fleet Id) (events : List (FleetEvent Id)) : Prop :=
  ∀ earlier t i req query session elapsed t' token parts plaintext,
    fleet.machine.StepAt events earlier t (.on i (.callback req query session elapsed)) t' →
    readBrokerFlow session = some token → splitToken token = some parts →
    parts.decrypt fleet.crypto fleet.flowStateKey = some plaintext →
    ∃ j, fleet.machine.Happened (SealedOn fleet j parts) earlier

omit [DecidableEq Id] in
/-- An instance seals flows of requests it accepted, and of no others. -/
theorem authorised_of_sealedOn {j : Id} {parts : SealedFlow} {s s' : FleetState Id}
    {e : FleetEvent Id} (sealedOn : SealedOn fleet j parts s e s') :
    ∃ request, Authorised fleet j request parts s e s' := by
  obtain ⟨provider, query, session, elapsed, iv, flow, cookie, location, rfl, redirected, rfl⟩ :=
    sealedOn
  obtain ⟨request, accepts, _, rfl, _, _⟩ := BrokerRouter.handleAuth_eq_redirected.mp redirected
  exact ⟨request, provider, query, session, elapsed, iv, _, cookie, location, rfl, redirected,
    BrokerRouter.checkAuth_eq_ok.mpr accepts, rfl⟩

omit [DecidableEq Id] in
/-- A callback opens the flow of the request that was sealed into its token. -/
theorem flow_of_authorised (correct : fleet.crypto.GcmCorrect) {i j : Id} {req : Nat}
    {flow : Session} {token : String} {checkedMs : Nat} {t t' r r' : FleetState Id}
    {e f : FleetEvent Id} {request : AuthRequest} {parts : SealedFlow}
    (received : ReceivedOn fleet i req flow token checkedMs t e t')
    (authorised : Authorised fleet j request parts r f r')
    (split : splitToken token = some parts) : flow = request.flow r.now := by
  obtain ⟨_, _, _, _, _, opened, _, _⟩ := received
  obtain ⟨plaintext, decrypted, read⟩ := Option.bind_eq_some_iff.mp opened
  obtain ⟨_, same, decrypted⟩ := Option.bind_eq_some_iff.mp decrypted
  obtain rfl := Option.some.inj (same.symm.trans split)
  obtain ⟨_, _, _, _, iv, _, _, _, _, _, _, rfl⟩ := authorised
  rw [decrypt_encryptFlow correct] at decrypted
  rw [← Option.some.inj decrypted,
    readPlaintext_flowPlaintext _ (request.flow_named r.now)] at read
  exact (Option.some.inj read).symm

/-- The flow of a callback is that of a request some instance accepted
before. -/
theorem authorised_of_received {events : List (FleetEvent Id)}
    (correct : fleet.crypto.GcmCorrect) (authentic : TokensAuthentic fleet events)
    {earlier : List (FleetEvent Id)} {i : Id} {req : Nat} {flow : Session} {token : String}
    {checkedMs : Nat} {t t' : FleetState Id} {e : FleetEvent Id}
    (step : fleet.machine.StepAt events earlier t e t')
    (received : ReceivedOn fleet i req flow token checkedMs t e t') :
    ∃ j request parts accepted r f r', fleet.machine.StepAt earlier accepted r f r' ∧
      Authorised fleet j request parts r f r' ∧ splitToken token = some parts ∧
      flow = request.flow r.now := by
  obtain ⟨query, session, elapsed, rfl, tokenEq, opened, _, _⟩ := id received
  obtain ⟨plaintext, decrypted, read⟩ := Option.bind_eq_some_iff.mp opened
  obtain ⟨parts, split, decrypted⟩ := Option.bind_eq_some_iff.mp decrypted
  obtain ⟨j, accepted, r, f, r', acceptedStep, sealedOn⟩ :=
    authentic _ _ _ _ _ _ _ _ _ _ _ step tokenEq split decrypted
  obtain ⟨request, authorised⟩ := authorised_of_sealedOn sealedOn
  exact ⟨j, request, parts, accepted, r, f, r', acceptedStep, authorised, split,
    flow_of_authorised correct received authorised split⟩

/-- What an accepted request gives its delivery: the request names the session
and the daemon, and its signature verifies under the certificate key of the
socket that daemon is registered on, whose decrypt key is the delivery's. -/
structure Grants (fleet : Fleet Id) (j : Id) (relay : Relay.State) (request : AuthRequest)
    (delivery : Delivery) : Prop where
  session : request.session = delivery.payload.sessionId
  recipient : request.relayUuid = delivery.recipient
  registered : relay.clients.get delivery.recipient = some request.client
  decryptKey : request.client.decryptPubkey = delivery.key
  certificate : ∃ conn, relay.conns.get request.client.ws = some conn ∧
    conn.certPoint = some request.client.pubkey
  hash : fleet.crypto.uuidFromP256Point request.client.pubkey = delivery.recipient
  verified : ∃ payload, fleet.crypto.buildSignedPayload request.session request.challenge
      request.relayUuid request.provider request.timestamp = some payload ∧
    fleet.crypto.verifyECDSA request.client.pubkey payload request.sig = true

/-- What an instance does to deliver: the envelope holds the callback's parameters
encrypted to the delivery's key, with the broker's signature over its fields, and
the callback goes on with the forward of the envelope to the recipient. -/
structure MakesDelivery (router : BrokerRouter) (s : Instance) (req : Nat)
    (random : DeliveryRandomness) (delivery : Delivery) (flow : Session)
    (tokens : List (String × QueryValue)) (session : Option FlowSession) : Prop where
  present : s.callbacks.get req = some (.encrypting flow tokens session)
  recipient : delivery.recipient = flow.relayUuid
  key : delivery.key = flow.pubkey
  envelope : ∃ encrypted digest,
    router.crypto.eciesEncrypt delivery.key flow.sessionId deliveryType
      (utf8 (tokensJson tokens).stringify) random.ephemeral random.iv = some encrypted ∧
    router.crypto.buildDeliverySignaturePayload deliveryType flow.sessionId
      encrypted.ephemeralPubkey encrypted.ciphertext encrypted.nonce = some digest ∧
    delivery.payload = ⟨deliveryType, flow.sessionId, encrypted.ephemeralPubkey,
      encrypted.ciphertext, encrypted.nonce,
      some (router.brokerKey.sign router.crypto digest random.signature)⟩
  forwards : ∀ requestId id bufferedAmount,
    router.encrypted s req random requestId id bufferedAmount =
      (router.relay.step s.relay (.forward delivery.recipient "POST" "/hooks/oauth-complete"
        (deliveryHeaders requestId) (utf8 (deliveryJson delivery.payload).stringify) id
        bufferedAmount)).map fun relay =>
          (s.setRelay relay).setCallback req (.forwarding id session)

theorem MakesDelivery.sessionId {router : BrokerRouter} {s : Instance} {req : Nat}
    {random : DeliveryRandomness} {delivery : Delivery} {flow : Session}
    {tokens : List (String × QueryValue)} {session : Option FlowSession}
    (delivers : MakesDelivery router s req random delivery flow tokens session) :
    delivery.payload.sessionId = flow.sessionId := by
  obtain ⟨_, _, _, _, payload⟩ := delivers.envelope
  rw [payload]

/-- Every delivery is the encrypted and signed envelope of a callback that awaits
its encryption. -/
theorem BrokerRouter.makesDelivery_of_delivery {router : BrokerRouter} {s : Instance} {req : Nat}
    {random : DeliveryRandomness} {delivery : Delivery}
    (delivered : router.delivery s req random = some delivery) :
    ∃ flow tokens session, MakesDelivery router s req random delivery flow tokens session := by
  unfold BrokerRouter.delivery at delivered
  split at delivered
  · rename_i flow tokens session present
    split at delivered
    · rename_i payload built
      obtain rfl := Option.some.inj delivered
      exact ⟨flow, tokens, session, present, rfl, rfl, buildDelivery_eq_signed built,
        router.encrypted_of_signed present built⟩
    · contradiction
  · contradiction

theorem grants_of_authorised {events : List (FleetEvent Id)} {r r' : FleetState Id} {j : Id}
    {request : AuthRequest} {parts : SealedFlow} {f : FleetEvent Id} {delivery : Delivery}
    (ran : fleet.machine.run events = some r) (authorised : Authorised fleet j request parts r f r')
    (recipient : delivery.recipient = request.relayUuid)
    (key : delivery.key = request.client.decryptPubkey)
    (session : delivery.payload.sessionId = request.session) :
    Grants fleet j (r.inst j).relay request delivery := by
  obtain ⟨_, _, _, _, _, _, _, _, _, _, checked, _⟩ := authorised
  have accepts := BrokerRouter.checkAuth_eq_ok.mp checked
  obtain ⟨relayEvents, reached⟩ := Fleet.relay_reachable ran j
  obtain ⟨_, hash, admission⟩ :=
    (fleet.router j).relay.sound_run reached _ _ accepts.registered
  obtain ⟨conn, found, view⟩ := Option.map_eq_some_iff.mp admission
  have crypto := fleet.router_crypto j
  refine ⟨session.symm, recipient.symm, ?_, key.symm,
    ⟨conn, found, congrArg Admission.certPoint view⟩, ?_, ?_⟩
  · rw [recipient]
    exact accepts.registered
  · rw [recipient, ← crypto]
    exact hash
  · rw [← crypto]
    exact accepts.verified

/-- Every envelope an instance signs and forwards is encrypted to the delivery's
key and goes to its recipient; they are the key and the daemon of a request with
the envelope's session that some instance accepted before the callback, and less
than a flow's lifetime before the callback's reading of the clock. -/
theorem delivery_authentic (correct : fleet.crypto.GcmCorrect) {events : List (FleetEvent Id)}
    (authentic : TokensAuthentic fleet events) {earlier : List (FleetEvent Id)}
    {t t' : FleetState Id} {i : Id} {req : Nat} {random : DeliveryRandomness}
    {requestId id : String} {bufferedAmount : Nat} {delivery : Delivery}
    (step : fleet.machine.StepAt events earlier t
      (.on i (.encrypted req random requestId id bufferedAmount)) t')
    (delivered : (fleet.router i).delivery (t.inst i) req random = some delivery) :
    (∃ flow tokens cookie,
      MakesDelivery (fleet.router i) (t.inst i) req random delivery flow tokens cookie) ∧
    ∃ received u query session elapsed u', fleet.machine.StepAt earlier received u
        (.on i (.callback req query session elapsed)) u' ∧
      ∃ accepted j r f r' request parts, fleet.machine.StepAt received accepted r f r' ∧
        Authorised fleet j request parts r f r' ∧
        Grants fleet j (r.inst j).relay request delivery ∧
        r.now ≤ u.now ∧ u.now - elapsed < r.now + FLOW_TTL_MS := by
  obtain ⟨flow, tokens, session, delivers⟩ := BrokerRouter.makesDelivery_of_delivery delivered
  obtain ⟨token, checkedMs, received, u, e, u', receivedStep, shape⟩ :=
    Fleet.received_of_encrypting step.before delivers.present
  obtain ⟨later, rfl⟩ := step.split
  obtain ⟨j, request, parts, accepted, r, f, r', acceptedStep, authorised, _, rfl⟩ :=
    authorised_of_received correct authentic receivedStep.extend shape
  obtain ⟨query, cookie, elapsed, rfl, _, _, rfl, unexpired⟩ := shape
  refine ⟨⟨_, tokens, session, delivers⟩, received, u, query, cookie, elapsed, u', receivedStep,
    accepted, j, r, f, r', request, parts, acceptedStep, authorised,
    grants_of_authorised acceptedStep.before authorised delivers.recipient delivers.key
      delivers.sessionId, ?_, ?_⟩
  · refine acceptedStep.persists (P := fun s => r.now ≤ s.now) (Fleet.now_step acceptedStep.after)
      ?_ receivedStep.before
    intro _ _ _ _ _ before after
    exact Nat.le_trans before (Fleet.now_step after)
  · have late : ¬ r.now + FLOW_TTL_MS ≤ u.now - elapsed := by
      simpa [AuthRequest.flow] using unexpired
    omega

end

/-! ### A callback that lands on another instance -/

namespace Sample

/-- Two instances with the sample's key. -/
def fleet : Fleet Bool where
  crypto := primitives
  brokerKey := router.brokerKey
  router _ := router
  router_crypto _ := rfl
  router_key _ := rfl

/-- The daemon registers on the first instance, long before the request. -/
def opening : List (FleetEvent Bool) :=
  [.on false (.relay (.connection 0 (Relay.Sample.certificate Relay.Sample.signPointA))),
    .on false (.relay (.message 0 (Relay.Sample.helloFrame Relay.Sample.decryptPointA))),
    .tick (1000 * signedAt)]

/-- The state in which the request comes. -/
def Opened (s : FleetState Bool) : Prop :=
  s.now = 1000 * signedAt ∧ (s.inst false).relay.clients.get Relay.Sample.uuidA = some client ∧
    (s.inst true).seen.calls = [] ∧ (s.inst true).callbacks.get 0 = none ∧
    (s.inst true).relay.issued.get Relay.Sample.requestId = none

instance : DecidablePred Opened := fun _ => inferInstanceAs (Decidable (_ ∧ _))

theorem opened : (fleet.machine.run opening).any (fun s => decide (Opened s)) = true := by
  obtain ⟨relay, ran, entered⟩ := enrolled
  have starts : (fleet.router false).starts = true := show router.starts = true by decide
  have registered := Fleet.run_relay starts (by simp [Relay.Sample.admission]) ran
  have split : opening = Relay.Sample.admission.map (fun e => .on false (.relay e)) ++
      [.tick (1000 * signedAt)] := rfl
  have ticks : ∀ s ms, fleet.machine.step s (.tick ms) = some (Fleet.tick s ms) := fun _ _ => rfl
  rw [split, Machine.run_concat, registered, Option.bind_some, ticks, Option.any_some]
  refine decide_eq_true ⟨?_, entered.entry, rfl, rfl, rfl⟩
  simp [Fleet.tick, Fleet.replace, Fleet.machine]

def request : FleetEvent Bool :=
  .on false (.auth (some "github") (queryFor session) (some ⟨none⟩) 0 flowIv)

def callbackQuery : Query :=
  OrderedMap.ofList (("state", .one session) :: tokens)

def random : DeliveryRandomness := ⟨ephemeralKey, deliveryIv, []⟩

def callback : FleetEvent Bool :=
  .on true (.callback 0 callbackQuery (some ⟨some sealedFlow.token⟩) 0)

def completion : FleetEvent Bool :=
  .on true (.encrypted 0 random "f47ac10b-58cc-4372-a567-0e02b2c3d479" Relay.Sample.requestId 0)

theorem envelope_eq : primitives.eciesEncrypt Relay.Sample.decryptPointA session deliveryType
    (utf8 (tokensJson tokens).stringify) ephemeralKey deliveryIv = some envelope := by
  have secretKnown : ∀ key point, primitives.computeSecret key point =
      if key = ephemeralKey ∧ point = Relay.Sample.decryptPointA then some sharedSecret else none :=
    fun _ _ => rfl
  have otherSecret : sharedSecret ≠ signingKey := by decide +kernel
  have keyKnown := hkdf_eq sharedSecret (utf8 session) (utf8 "dicode-oauth-token") 32
  rw [if_neg fun equal => otherSecret equal.1, if_pos ⟨rfl, rfl, rfl⟩] at keyKnown
  have pointKnown : ∀ key, primitives.publicPoint key =
      if key = scalar 1 then Relay.Sample.signPointA
      else if key = scalar 2 then Relay.Sample.decryptPointA
      else if key = ephemeralKey then Relay.Sample.signPointB else [] := fun _ => rfl
  have point : primitives.publicPoint ephemeralKey = Relay.Sample.signPointB := by
    rw [pointKnown, if_neg (by decide), if_neg (by decide), if_pos rfl]
  have notFlow : flowKey ≠ deliveryKey := by decide +kernel
  have found : gcmVectors.find? (fun v => v.encrypts deliveryKey deliveryIv (utf8 deliveryType)
      (utf8 (tokensJson tokens).stringify)) =
      some ⟨deliveryKey, utf8 deliveryType, utf8 (tokensJson tokens).stringify, sealedTokens⟩ := by
    rw [gcmVectors, List.find?_cons_of_neg, List.find?_cons_of_pos]
    · simp only [GcmVector.encrypts, sealedTokens, and_self, decide_true]
    · simp only [GcmVector.encrypts, notFlow, false_and, decide_false, Bool.false_eq_true,
        not_false_eq_true]
  have encrypt : primitives.gcmEncrypt = gcmEncrypt := rfl
  rw [Primitives.eciesEncrypt, secretKnown, if_pos ⟨rfl, rfl⟩]
  simp only [Option.bind_eq_bind, Option.bind_some, keyKnown, encrypt, gcmEncrypt, found, point]
  simp only [envelope]
  rfl

theorem deliveryDigest_eq : primitives.buildDeliverySignaturePayload deliveryType session
    envelope.ephemeralPubkey envelope.ciphertext envelope.nonce = some deliveryDigest := by
  have fits : ∀ field ∈ [deliveryType, session, envelope.ephemeralPubkey, envelope.ciphertext,
      envelope.nonce], lengthPrefixed (utf8 field) = some (frame (utf8 field)) := by
    intro field member
    apply if_pos
    revert field
    decide +kernel
  have other : deliveryPreimage ≠ authPreimage := by decide +kernel
  have hashed : primitives.sha256 = sha256 := rfl
  rw [Primitives.buildDeliverySignaturePayload, mapM_eq_some_map fits]
  simp only [Option.bind_eq_bind, Option.bind_some, hashed]
  rw [← List.flatMap_def, ← deliveryPreimage, sha256, if_neg other, if_pos rfl]
  rfl

theorem delivers : ∃ payload, router.buildDelivery flow tokens random = .signed payload :=
  ⟨_, BrokerRouter.buildDelivery_of_encrypted envelope_eq deliveryDigest_eq⟩

theorem splitToken_eq : splitToken sealedFlow.token = some sealedFlow :=
  splitToken_token (by decide +kernel) (by decide +kernel)

theorem consumes {seen : SeenSet} (unused : seen.calls = []) : Consumes router seen callbackQuery
    (some ⟨some sealedFlow.token⟩) (1000 * signedAt) (1000 * signedAt) flow
    (seen.record session (1000 * signedAt)) where
  opened := by
    refine ⟨sealedFlow.token, rfl, ?_⟩
    rw [flowStateKey_eq]
    have parts : splitToken sealedFlow.token =
        some (encryptFlow primitives flowKey flowIv flow) := by
      rw [splitToken_eq]
      exact congrArg some encryptFlow_eq.symm
    exact openFlowState_of_split gcm_correct (by simp [flow]) parts
  bound := by decide +kernel
  unexpired := by simp [flow, FLOW_TTL_MS]
  added := by
    have fresh : seen.has router.lru flow.sessionId (1000 * signedAt) = false := by
      rw [SeenSet.has, unused]
      exact lru_documented.absent _ _ _ _ _ rfl
    rw [SeenSet.add, fresh]
    rfl

/-- The request and the callback have been handled. -/
theorem crossed : ∃ s s₁ s₂, Opened s ∧ fleet.machine.StepAt (opening ++ [request]) opening s
      request s₁ ∧ fleet.machine.run (opening ++ [request] ++ [callback]) = some s₂ ∧
    (s₂.inst true).callbacks.get 0 = some (.encrypting flow tokens (some ⟨none⟩)) ∧
    (s₂.inst true).relay.issued.get Relay.Sample.requestId = none := by
  obtain ⟨s, reached, facts⟩ := (Option.any_eq_true _ _).mp opened
  obtain ⟨now, registered, unused, idle, unissued⟩ : Opened s := of_decide_eq_true facts
  have starts : ∀ i, (fleet.router i).starts = true := fun _ => show router.starts = true by decide
  have requested : fleet.machine.step s request = some (Fleet.replace s false (s.inst false)) :=
    Fleet.step_on_of (starts false) rfl
  have other : (Fleet.replace s false (s.inst false)).inst true = s.inst true :=
    Fleet.inst_replace_of_ne s _ (by decide)
  have received := BrokerRouter.receiveCallback_of_consumes (consumes unused) (by decide +kernel)
    (by decide +kernel)
  rw [show filterCallbackTokenFields callbackQuery = tokens by decide +kernel] at received
  have called : fleet.machine.step (Fleet.replace s false (s.inst false)) callback =
      some (Fleet.replace (Fleet.replace s false (s.inst false)) true
        ((s.inst true).receive 0 (.consumed flow tokens (some ⟨none⟩),
          (s.inst true).seen.record session (1000 * signedAt)))) := by
    apply Fleet.step_on_of (starts true)
    rw [other]
    simp only [BrokerRouter.step, idle, Option.isNone_none, if_true]
    change some ((s.inst true).receive 0 (router.receiveCallback (s.inst true).seen
      callbackQuery (some ⟨some sealedFlow.token⟩) (s.now - 0) s.now)) = _
    rw [Nat.sub_zero, now, received]
    rfl
  refine ⟨s, _, _, ⟨now, registered, unused, idle, unissued⟩,
    Machine.stepAt_last reached requested,
    Machine.run_concat_of (Machine.run_concat_of reached requested) called, ?_, ?_⟩
  · rw [Fleet.inst_replace_self, Instance.receive, Instance.callbacks_setCallback, if_pos rfl]
  · rw [Fleet.inst_replace_self, Instance.relay_receive]
    exact unissued

/-- The only callback of the run comes right after the request. -/
theorem callback_position {earlier later : List (FleetEvent Bool)} {i : Bool} {req : Nat}
    {query : Query} {cookie : Option FlowSession} {elapsed : Nat}
    (split : opening ++ [request] ++ [callback] ++ [completion] =
      earlier ++ .on i (.callback req query cookie elapsed) :: later) :
    earlier = opening ++ [request] ∧ cookie = some ⟨some sealedFlow.token⟩ := by
  simp only [opening, request, callback, completion, List.cons_append, List.nil_append] at split ⊢
  rcases earlier with _ | ⟨_, _ | ⟨_, _ | ⟨_, _ | ⟨_, _ | ⟨_, _ | ⟨_, _⟩⟩⟩⟩⟩⟩ <;>
    simp only [List.cons_append, List.nil_append, List.cons.injEq, FleetEvent.on.injEq,
      InstanceEvent.callback.injEq, reduceCtorEq, false_and, and_false] at split
  · obtain ⟨rfl, rfl, rfl, rfl, ⟨_, _, _, rfl, _⟩, _⟩ := split
    exact ⟨rfl, rfl⟩
  · simp at split

/-- The one token that the run opens was sealed in it. -/
theorem authentic : TokensAuthentic fleet (opening ++ [request] ++ [callback] ++ [completion]) := by
  intro earlier t i req query cookie elapsed t' token parts plaintext step tokenEq split decrypted
  obtain ⟨later, equal⟩ := step.split
  obtain ⟨rfl, rfl⟩ := callback_position equal
  obtain rfl := Option.some.inj tokenEq
  rw [splitToken_eq] at split
  obtain rfl := Option.some.inj split
  obtain ⟨s, s₁, _, ⟨now, registered, _⟩, requested, _⟩ := crossed
  have fresh : (((s.now - 0) / 1000 : Nat) - (signedAt : Int)).natAbs ≤ 30 := by
    rw [now]
    decide
  have accepted := Sample.accepted registered fresh (by decide) rfl
  refine ⟨false, opening, s, request, s₁, requested, some "github", queryFor session,
    some ⟨none⟩, 0, flowIv, _, _, _, rfl,
    BrokerRouter.handleAuth_eq_redirected.mpr ⟨requestFor session,
      BrokerRouter.checkAuth_eq_ok.mp accepted, rfl, rfl, rfl, rfl⟩, ?_⟩
  have key : fleet.flowStateKey = flowKey := flowStateKey_eq
  have sameFlow : (requestFor session).flow (1000 * signedAt) = flow := rfl
  rw [now, key, sameFlow]
  exact encryptFlow_eq.symm

/-- The run ends with a delivery. -/
theorem completed : ∃ s s' delivery, fleet.machine.StepAt
      (opening ++ [request] ++ [callback] ++ [completion])
      (opening ++ [request] ++ [callback]) s completion s' ∧
    (fleet.router true).delivery (s.inst true) 0 random = some delivery := by
  obtain ⟨_, _, s, _, _, reached, encrypting, unissued⟩ := crossed
  obtain ⟨payload, built⟩ := delivers
  have starts : (fleet.router true).starts = true := show router.starts = true by decide
  obtain ⟨next, stepped⟩ := Option.isSome_iff_exists.mp
    (router.encrypted_isSome encrypting random "f47ac10b-58cc-4372-a567-0e02b2c3d479" 0 unissued)
  have after : fleet.machine.step s completion = some (Fleet.replace s true next) :=
    Fleet.step_on_of starts stepped
  exact ⟨s, _, _, Machine.stepAt_last reached after,
    BrokerRouter.delivery_of_signed encrypting built⟩

end Sample

/-- The delivery of the second instance goes to the daemon that registered on
the first one. -/
theorem delivery_authentic_crossing :
    ∃ s s' delivery, Sample.fleet.machine.StepAt
        (Sample.opening ++ [Sample.request] ++ [Sample.callback] ++ [Sample.completion])
        (Sample.opening ++ [Sample.request] ++ [Sample.callback]) s Sample.completion s' ∧
      (Sample.fleet.router true).delivery (s.inst true) 0 Sample.random = some delivery ∧
      ∃ j r request, Grants Sample.fleet j (FleetState.inst r j).relay request delivery := by
  obtain ⟨s, s', delivery, step, delivered⟩ := Sample.completed
  obtain ⟨_, _, _, _, _, _, _, _, _, j, r, _, _, request, _, _, _, grants, _⟩ :=
    delivery_authentic Sample.gcm_correct Sample.authentic step delivered
  exact ⟨s, s', delivery, step, delivered, j, r, request, grants⟩

end DicodeRelay.Broker
