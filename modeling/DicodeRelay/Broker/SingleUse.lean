import DicodeRelay.Broker.Fleet

/-!
Contract: how often one signed auth request is delivered by one instance.

Owns:
- signed requests, the tokens issued for them and the callbacks that pass the
  guard with such a token;
- the configurations under which no signed request passes twice: the guard must
  remember an id for as long as the request can be sealed anew and the last
  seal can live;
- the run that passes twice under every other configuration.

Does not own: replays across instances.
-/

namespace DicodeRelay.Broker

open DicodeRelay.Lib DicodeRelay.Shared DicodeRelay.Relay

/-! ### Signed requests -/

structure SignedRequest where
  session : String
  challenge : String
  relayUuid : String
  provider : String
  timestamp : Int
  sig : String
deriving DecidableEq

def AuthRequest.signed (request : AuthRequest) : SignedRequest where
  session := request.session
  challenge := request.challenge
  relayUuid := request.relayUuid
  provider := request.provider
  timestamp := request.timestamp
  sig := request.sig

section

variable (router : BrokerRouter)

/-- The step accepted `q` and put `token` into the cookie. -/
def IssuedFor (q : SignedRequest) (token : String) (s : FleetState Unit) (e : FleetEvent Unit)
    (_ : FleetState Unit) : Prop :=
  ∃ provider query session elapsed iv flow location request,
    e = .on () (.auth provider query session elapsed iv) ∧
    router.answerAuth s.now (s.inst ()) provider query session elapsed iv =
      .redirected flow ⟨some token⟩ location ∧
    router.checkAuth (s.inst ()).relay provider query (s.now - elapsed) = .ok request ∧
    request.signed = q

/-- The step is a callback that passes the guard with a token, for `flow`. -/
def ConsumedOn (token : String) (flow : Session) (s : FleetState Unit) (e : FleetEvent Unit)
    (_ : FleetState Unit) : Prop :=
  ∃ req query session elapsed tokens session' seen',
    e = .on () (.callback req query session elapsed) ∧
    router.receiveCallback (s.inst ()).seen query session (s.now - elapsed) s.now =
      (.consumed flow tokens session', seen') ∧
    readBrokerFlow session = some token

/-- The step after `earlier` is a callback that passes the guard with a token
that was issued for `q`. -/
def Passes (events : List (FleetEvent Unit)) (q : SignedRequest)
    (earlier : List (FleetEvent Unit)) : Prop :=
  ∃ t e t' token flow, (Fleet.single router).machine.StepAt events earlier t e t' ∧
    ConsumedOn router token flow t e t' ∧
    (Fleet.single router).machine.Happened (IssuedFor router q token) earlier

/-- At most one callback passes the guard per signed request. -/
def SingleUse (events : List (FleetEvent Unit)) : Prop :=
  ∀ q earlier earlier', Passes router events q earlier → Passes router events q earlier' →
    earlier = earlier'

/-- How long the handler of the event takes between its readings of the
clock. -/
def FleetEvent.elapsed : FleetEvent Unit → Nat
  | .on _ (.auth _ _ _ elapsed _) => elapsed
  | .on _ (.callback _ _ _ elapsed) => elapsed
  | _ => 0

/-- Handlers take at most `maxLag` milliseconds, and fewer than `MAX_SEEN`
session ids have been consumed. -/
def Ordinary (maxLag : Nat) (s : FleetState Unit) (e : FleetEvent Unit) : Prop :=
  e.elapsed ≤ maxLag ∧ (CacheCalls.ids (s.inst ()).seen.calls).length < MAX_SEEN

/-- No guard, no memory loss, no acceptance, or a memory that covers the
freshness window of a request, the lifetime of its last seal and the lag of the
two handlers. -/
def GuardCovers (maxLag : Nat) : Prop :=
  router.sessionTtlMs ≤ 0 ∨ router.timestampToleranceS < 0 ∨
    2000 * router.timestampToleranceS + 300998 + 2 * maxLag ≤ router.sessionTtlMs

instance (maxLag : Nat) : Decidable (GuardCovers router maxLag) :=
  inferInstanceAs (Decidable (_ ∨ _))

variable {router}

/-! ### The guard along a run -/

theorem seen_of_move {now : Nat} {s s' : Instance} {e : InstanceEvent}
    (move : InstanceMove router now s s' e) :
    s'.seen = s.seen ∨ ∃ id, s'.seen = s.seen.record id now := by
  cases move with
  | relay _ seen => exact Or.inl seen
  | auth _ same => exact Or.inl (congrArg Instance.seen same)
  | delivered _ seen => exact Or.inl seen
  | settled _ seen => exact Or.inl seen
  | @callback _ query session elapsed _ received =>
      cases outcome : router.receiveCallback s.seen query session (now - elapsed) now with
      | mk result seen =>
          rw [received, Instance.seen_receive, outcome]
          cases result with
          | refused => exact Or.inl (BrokerRouter.seen_of_refused outcome)
          | consumed flow =>
              have added := (BrokerRouter.consumes_of_receiveCallback outcome).1.added
              exact Or.inr ⟨flow.sessionId, SeenSet.record_of_add added⟩

theorem seen_step {s s' : FleetState Unit} {e : FleetEvent Unit}
    (after : (Fleet.single router).machine.step s e = some s') :
    (s'.inst ()).seen = (s.inst ()).seen ∨
      ∃ id, (s'.inst ()).seen = (s.inst ()).seen.record id s.now := by
  rcases Fleet.inst_step after () with same | ⟨ms, _, ticked⟩ | ⟨f, _, stepped⟩
  · exact Or.inl (congrArg Instance.seen same)
  · exact Or.inl (by rw [ticked, Instance.seen_tick])
  · exact seen_of_move (BrokerRouter.move_of_step stepped)

/-- The guard remembers `id` with a reading of at least `since`. -/
def Remembered (id : String) (since : Nat) (s : FleetState Unit) : Prop :=
  since ≤ s.now ∧ ∃ setAt, CacheCalls.lastSet (s.inst ()).seen.calls id = some setAt ∧ since ≤ setAt

theorem remembered_step {id : String} {since : Nat} {s s' : FleetState Unit}
    {e : FleetEvent Unit} (remembered : Remembered id since s)
    (after : (Fleet.single router).machine.step s e = some s') : Remembered id since s' := by
  obtain ⟨begun, setAt, recorded, late⟩ := remembered
  refine ⟨Nat.le_trans begun (Fleet.now_step after), ?_⟩
  rcases seen_step after with same | ⟨other, grown⟩
  · exact ⟨setAt, by rw [same]; exact recorded, late⟩
  · rw [grown, SeenSet.record, CacheCalls.lastSet_append]
    split
    · exact ⟨s.now, rfl, begun⟩
    · exact ⟨setAt, recorded, late⟩

theorem ttlMs_run {events : List (FleetEvent Unit)} {s : FleetState Unit}
    (ran : (Fleet.single router).machine.run events = some s) :
    (s.inst ()).seen.ttlMs = router.sessionTtlMs := by
  refine Machine.state_invariant (P := fun s : FleetState Unit =>
    (s.inst ()).seen.ttlMs = router.sessionTtlMs) ?_ ?_ ran
  · change ((SeenSet.create router.lru router.sessionTtlMs).getD _).ttlMs = _
    unfold SeenSet.create
    split <;> rfl
  · intro s e s' holds after
    rcases seen_step after with same | ⟨other, grown⟩
    · rw [same]
      exact holds
    · rw [grown, SeenSet.ttlMs_record]
      exact holds

/-! ### When a signed request passes -/

/-- A token issued for `q` opens to the flow of an acceptance of `q`, made
while `q` was fresh. -/
structure Issue (router : BrokerRouter) (q : SignedRequest) (maxLag sealedMs : Nat)
    (flow : Session) : Prop where
  tolerant : 0 ≤ router.timestampToleranceS
  session : flow.sessionId = q.session
  expiresAt : flow.expiresAt = Decimal.ofNat (sealedMs + FLOW_TTL_MS)
  notEarly : 1000 * (q.timestamp - router.timestampToleranceS) ≤ sealedMs
  notLate : sealedMs ≤ 1000 * (q.timestamp + router.timestampToleranceS) + 999 + maxLag

theorem issue_of_issuedFor (correct : router.crypto.GcmCorrect) {q : SignedRequest}
    {token : String} {maxLag : Nat} {s s' : FleetState Unit} {e : FleetEvent Unit}
    (after : (Fleet.single router).machine.step s e = some s') (prompt : e.elapsed ≤ maxLag)
    (issued : IssuedFor router q token s e s') :
    ∃ flow, openFlowState router.crypto router.flowStateKey token = some flow ∧
      Issue router q maxLag s.now flow := by
  obtain ⟨provider, query, session, elapsed, iv, flow, location, request, rfl, redirected, checked,
    rfl⟩ := issued
  obtain ⟨_, stepped, _⟩ := Fleet.step_on after
  have ivLength : iv.length = IV_LEN := by
    cases BrokerRouter.move_of_step stepped with
    | auth ivLength _ => exact ivLength
  obtain ⟨request', accepts', _, rfl, cookieEq, _⟩ :=
    BrokerRouter.handleAuth_eq_redirected.mp redirected
  obtain rfl : request' = request :=
    Except.ok.inj ((BrokerRouter.checkAuth_eq_ok.mpr accepts').symm.trans checked)
  have tokenEq : token = sealFlowState router.crypto router.flowStateKey iv
      (request'.flow s.now) := Option.some.inj (FlowSession.mk.inj cookieEq)
  refine ⟨request'.flow s.now, ?_,
    Int.le_trans (Int.natCast_nonneg _) accepts'.fresh, rfl, rfl, ?_, ?_⟩
  · rw [tokenEq]
    exact openFlowState_sealFlowState correct ivLength (request'.flow_named s.now)
  · have fresh := accepts'.fresh
    simp only [AuthRequest.signed]
    omega
  · have fresh := accepts'.fresh
    have lag : elapsed ≤ maxLag := prompt
    simp only [AuthRequest.signed]
    omega

/-- A callback that passes for `q` comes while a seal of `q` lives, and the
guard had no memory of its session. -/
structure PassFacts (router : BrokerRouter) (q : SignedRequest) (maxLag : Nat)
    (s s' : FleetState Unit) : Prop where
  up : router.starts = true
  tolerant : 0 ≤ router.timestampToleranceS
  notEarly : 1000 * (q.timestamp - router.timestampToleranceS) ≤ s.now
  notLate : s.now ≤
    1000 * (q.timestamp + router.timestampToleranceS) + 999 + (FLOW_TTL_MS - 1) + 2 * maxLag
  added : ∃ seen', (s.inst ()).seen.add router.lru q.session s.now = (true, seen')
  remembered : Remembered q.session s.now s'

theorem passFacts_of_passes (correct : router.crypto.GcmCorrect) {q : SignedRequest}
    {maxLag : Nat} {events earlier : List (FleetEvent Unit)}
    (ordinary : (Fleet.single router).machine.Meets (Ordinary maxLag) events)
    (passes : Passes router events q earlier) :
    ∃ s e s', (Fleet.single router).machine.StepAt events earlier s e s' ∧
      PassFacts router q maxLag s s' := by
  obtain ⟨s, e, s', token, flow, step, consumed, accepted, r, f, r', issueStep, issued⟩ := passes
  refine ⟨s, e, s', step, ?_⟩
  obtain ⟨req, query, session, elapsed, tokens, session', seen', rfl, received, tokenEq⟩ := consumed
  obtain ⟨⟨⟨token', tokenEq', opened⟩, _, unexpired, added⟩, _⟩ :=
    BrokerRouter.consumes_of_receiveCallback received
  obtain rfl := Option.some.inj (tokenEq.symm.trans tokenEq')
  obtain ⟨later, rfl⟩ := step.split
  obtain ⟨flow', opened', issue⟩ := issue_of_issuedFor correct issueStep.after
    (ordinary _ _ _ _ issueStep.extend).1 issued
  obtain rfl := Option.some.inj (opened.symm.trans opened')
  have clock : r.now ≤ s.now := by
    refine issueStep.persists (P := fun t => r.now ≤ t.now) (Fleet.now_step issueStep.after) ?_
      step.before
    intro _ _ _ _ _ before after
    exact Nat.le_trans before (Fleet.now_step after)
  have lag : elapsed ≤ maxLag := (ordinary _ _ _ _ step).1
  have alive : ¬ r.now + FLOW_TTL_MS ≤ s.now - elapsed := by
    simpa [issue.expiresAt] using unexpired
  have early := issue.notEarly
  have late := issue.notLate
  rw [issue.session] at added
  refine ⟨Fleet.starts_of_step_on step.after, issue.tolerant, by omega, ?_, ⟨seen', added⟩,
    Fleet.now_step step.after, s.now, ?_, Nat.le_refl _⟩
  · simp only [FLOW_TTL_MS] at alive ⊢
    omega
  · obtain ⟨next, stepped, rfl⟩ := Fleet.step_on step.after
    cases BrokerRouter.move_of_step stepped with
    | callback _ receivedEq =>
        rw [Fleet.inst_replace_self, receivedEq, Instance.seen_receive]
        change CacheCalls.lastSet (SeenSet.calls (router.receiveCallback _ _ _ _ _).2) _ = _
        rw [received, SeenSet.record_of_add added, SeenSet.record, CacheCalls.lastSet_append,
          if_pos rfl]

/-- A covering guard lets no second callback pass for one request. -/
theorem not_passes_again (documented : router.lru.Documented) {maxLag : Nat}
    (covers : GuardCovers router maxLag) {q : SignedRequest}
    {events earlier earlier' : List (FleetEvent Unit)} {s s' t t' : FleetState Unit}
    {e f : FleetEvent Unit} (first : (Fleet.single router).machine.StepAt events earlier s e s')
    (passed : PassFacts router q maxLag s s')
    (second : (Fleet.single router).machine.StepAt events earlier' t f t')
    (again : PassFacts router q maxLag t t') (ordinary : Ordinary maxLag t f)
    (shorter : earlier.length < earlier'.length) : False := by
  have remembered : Remembered q.session s.now t := by
    refine (first.before_of_length_lt second shorter).persists passed.remembered ?_ second.before
    intro _ _ _ _ _ holds after
    exact remembered_step holds after
  obtain ⟨begun, setAt, recorded, late⟩ := remembered
  obtain ⟨seen', added⟩ := again.added
  obtain ⟨finite, expired⟩ := SeenSet.expired_of_add documented ordinary.2 recorded added
  rw [ttlMs_run second.before] at finite expired
  have up : 0 ≤ router.sessionTtlMs := by
    obtain ⟨guard, created⟩ := Option.isSome_iff_exists.mp passed.up
    unfold SeenSet.create at created
    split at created
    · rename_i constructs
      exact (documented.constructs_iff _ _ (by decide)).mp constructs
    · contradiction
  -- the second pass comes within the time the guard remembers the first one
  have early := passed.notEarly
  have lateAgain := again.notLate
  have tolerant := passed.tolerant
  simp only [FLOW_TTL_MS] at lateAgain
  rcases covers with off | intolerant | long
  · omega
  · omega
  · omega

theorem singleUse_of_guardCovers (documented : router.lru.Documented)
    (correct : router.crypto.GcmCorrect) {maxLag : Nat} (covers : GuardCovers router maxLag)
    {events : List (FleetEvent Unit)}
    (ordinary : (Fleet.single router).machine.Meets (Ordinary maxLag) events) :
    SingleUse router events := by
  intro q earlier earlier' passes passes'
  obtain ⟨s, e, s', first, passed⟩ := passFacts_of_passes correct ordinary passes
  obtain ⟨t, f, t', second, passed'⟩ := passFacts_of_passes correct ordinary passes'
  rcases Nat.lt_trichotomy earlier.length earlier'.length with shorter | same | longer
  · exact (not_passes_again documented covers first passed second passed'
      (ordinary _ _ _ _ second) shorter).elim
  · exact first.earlier_eq_of_length_eq second same
  · exact (not_passes_again documented covers second passed' first passed
      (ordinary _ _ _ _ first) longer).elim

/-! ### The signed URL, visited again -/

theorem Passes.extend {events more earlier : List (FleetEvent Unit)} {q : SignedRequest}
    (passes : Passes router events q earlier) : Passes router (events ++ more) q earlier := by
  obtain ⟨s, e, s', token, flow, step, consumed, issued⟩ := passes
  exact ⟨s, e, s', token, flow, step.extend, consumed, issued⟩

/-- The acceptance of a request at another time, while its daemon stays. -/
theorem Accepts.later {relay relay' : Relay.State} {provider : Option String} {query : Query}
    {now now' : Nat} {request : AuthRequest}
    (accepts : Accepts router relay provider query now request)
    (same : relay'.clients = relay.clients)
    (fresh : ((now' / 1000 : Nat) - request.timestamp).natAbs ≤ router.timestampToleranceS) :
    Accepts router relay' provider query now' request :=
  { accepts with
    fresh
    registered := by
      rw [same]
      exact accepts.registered }

/-- Visits of the signed URL with an empty session cookie. -/
def visit (request : AuthRequest) (query : Query) (lag : Nat) : FleetEvent Unit :=
  .on () (.auth (some request.provider) query (some ⟨none⟩) lag (List.replicate IV_LEN 0))

/-- The provider's answer to `session`. -/
def grantQuery (session : String) : Query :=
  OrderedMap.ofList [("state", .one session), ("access_token", .one "token")]

/-- The cookie token of a visit at `sealedMs`. -/
def visitToken (router : BrokerRouter) (request : AuthRequest) (sealedMs : Nat) : String :=
  sealFlowState router.crypto router.flowStateKey (List.replicate IV_LEN 0)
    (request.flow sealedMs)

/-- The callback of the visit at `sealedMs`. -/
def comeBack (router : BrokerRouter) (request : AuthRequest) (sealedMs lag req : Nat) :
    FleetEvent Unit :=
  .on () (.callback req (grantQuery request.session)
    (some ⟨some (visitToken router request sealedMs)⟩) lag)

theorem visit_step (up : router.starts = true) (s : FleetState Unit) (request : AuthRequest)
    (query : Query) (lag : Nat) :
    (Fleet.single router).machine.step s (visit request query lag) = some s := by
  have stepped : (Fleet.single router).machine.step s (visit request query lag) =
      some (Fleet.replace s () (s.inst ())) := Fleet.step_on_of up rfl
  rw [Fleet.replace_self] at stepped
  exact stepped

theorem issuedFor_visit {s s' : FleetState Unit} {request : AuthRequest} {query : Query}
    {lag : Nat} (accepts : Accepts router (s.inst ()).relay (some request.provider) query
      (s.now - lag) request) :
    IssuedFor router request.signed (visitToken router request s.now) s
      (visit request query lag) s' := by
  refine ⟨_, _, _, _, _, request.flow s.now, request.redirectPath, request, rfl, ?_,
    BrokerRouter.checkAuth_eq_ok.mpr accepts, rfl⟩
  exact BrokerRouter.handleAuth_eq_redirected.mpr ⟨request, accepts, rfl, rfl, rfl, rfl⟩

/-- What a callback of a visit consumes, unless the guard remembers its
session. -/
theorem consumes_comeBack (correct : router.crypto.GcmCorrect) {seen : SeenSet}
    {request : AuthRequest} {sealedMs checkedMs usedMs : Nat}
    (alive : checkedMs < sealedMs + FLOW_TTL_MS)
    (forgotten : seen.has router.lru request.session usedMs = false) :
    Consumes router seen (grantQuery request.session)
      (some ⟨some (visitToken router request sealedMs)⟩) checkedMs usedMs (request.flow sealedMs)
      (seen.record request.session usedMs) where
  opened := ⟨visitToken router request sealedMs, rfl,
    openFlowState_sealFlowState correct (List.length_replicate ..)
      (request.flow_named sealedMs)⟩
  bound := by
    simp [Query.first, grantQuery, OrderedMap.ofList, OrderedMap.get_set, AuthRequest.flow]
  unexpired := by
    simpa [AuthRequest.flow] using alive
  added := by
    have named : (request.flow sealedMs).sessionId = request.session := rfl
    rw [SeenSet.add, named, forgotten]
    rfl

theorem received_comeBack (correct : router.crypto.GcmCorrect) {seen : SeenSet}
    {request : AuthRequest} {sealedMs checkedMs usedMs : Nat}
    (alive : checkedMs < sealedMs + FLOW_TTL_MS)
    (forgotten : seen.has router.lru request.session usedMs = false) :
    router.receiveCallback seen (grantQuery request.session)
        (some ⟨some (visitToken router request sealedMs)⟩) checkedMs usedMs =
      (.consumed (request.flow sealedMs) (filterCallbackTokenFields (grantQuery request.session))
        (some ⟨none⟩), seen.record request.session usedMs) := by
  refine BrokerRouter.receiveCallback_of_consumes (consumes_comeBack correct alive forgotten) ?_ ?_
  · simp [Query.first, grantQuery, OrderedMap.ofList, OrderedMap.get_set]
  · simp [Query.first, grantQuery, OrderedMap.ofList]

/-- What a round leaves behind: time has passed and the guard has recorded the
session. -/
structure Spent (s : FleetState Unit) (request : AuthRequest) (wait req : Nat)
    (s' : FleetState Unit) : Prop where
  now : s'.now = s.now + wait
  seen : (s'.inst ()).seen = (s.inst ()).seen.record request.session (s.now + wait)
  clients : (s'.inst ()).relay.clients = (s.inst ()).relay.clients
  callbacks : ∀ other, req ≠ other →
    (s'.inst ()).callbacks.get other = (s.inst ()).callbacks.get other

/-- A visit, a wait and the callback: the callback passes when the seal still
lives and the guard does not remember the session. -/
theorem round_passes (correct : router.crypto.GcmCorrect) (up : router.starts = true)
    {events : List (FleetEvent Unit)} {s : FleetState Unit}
    (ran : (Fleet.single router).machine.run events = some s) {maxLag : Nat}
    (ordinary : (Fleet.single router).machine.Meets (Ordinary maxLag) events)
    (room : (CacheCalls.ids (s.inst ()).seen.calls).length < MAX_SEEN) {request : AuthRequest}
    {query : Query} (lag wait req : Nat) (prompt : lag ≤ maxLag)
    (accepts : Accepts router (s.inst ()).relay (some request.provider) query (s.now - lag) request)
    (idle : (s.inst ()).callbacks.get req = none) (alive : s.now + wait - lag < s.now + FLOW_TTL_MS)
    (forgotten : (s.inst ()).seen.has router.lru request.session (s.now + wait) = false) :
    ∃ between last s',
      (Fleet.single router).machine.run (events ++ between ++ [last]) = some s' ∧
      (Fleet.single router).machine.Meets (Ordinary maxLag) (events ++ between ++ [last]) ∧
      Passes router (events ++ between ++ [last]) request.signed (events ++ between) ∧
      Spent s request wait req s' := by
  have visited := visit_step up s request query lag
  have ranVisit := Machine.run_concat_of ran visited
  have waited : (Fleet.single router).machine.step s (.tick wait) = some (Fleet.tick s wait) := rfl
  have ranWait := Machine.run_concat_of ranVisit waited
  have received := received_comeBack correct alive forgotten
  have called : (Fleet.single router).machine.step (Fleet.tick s wait)
      (comeBack router request s.now lag req) =
        some (Fleet.replace (Fleet.tick s wait) () (((s.inst ()).tick wait).receive req
          (.consumed (request.flow s.now) (filterCallbackTokenFields (grantQuery request.session))
            (some ⟨none⟩), (s.inst ()).seen.record request.session (s.now + wait)))) := by
    apply Fleet.step_on_of up
    have free : ((Fleet.tick s wait).inst ()).callbacks.get req = none := idle
    simp only [BrokerRouter.step, free, Option.isNone_none, if_true]
    rw [Fleet.inst_tick, Instance.seen_tick]
    exact congrArg (fun received => some (Instance.receive _ req received)) received
  have ordinaryVisit := ordinary.concat ran (e := visit request query lag) ⟨prompt, room⟩
  have ordinaryWait := ordinaryVisit.concat ranVisit (e := .tick wait) ⟨Nat.zero_le _, room⟩
  have issued := (Machine.happened_last ran visited (issuedFor_visit accepts)).extend
    [.tick wait]
  rw [List.append_assoc] at ranWait ordinaryWait issued
  refine ⟨[visit request query lag, .tick wait], comeBack router request s.now lag req, _,
    Machine.run_concat_of ranWait called, ordinaryWait.concat ranWait ⟨prompt, room⟩, ?_, ?_⟩
  · refine ⟨_, _, _, visitToken router request s.now, request.flow s.now,
      Machine.stepAt_last ranWait called, ?_, issued⟩
    exact ⟨_, _, _, _, _, _, _, rfl, received, rfl⟩
  · refine ⟨rfl, rfl, rfl, fun other different => ?_⟩
    exact (Instance.callbacks_setCallback _ _ _ _).trans (if_neg different)

/-- After `events`, before any callback and before the freshness window of
`request` opens, its daemon is registered and its query is one the checks
accept in the window. -/
structure Awaits (router : BrokerRouter) (maxLag : Nat) (events : List (FleetEvent Unit))
    (s : FleetState Unit) (query : Query) (request : AuthRequest) : Prop where
  ran : (Fleet.single router).machine.run events = some s
  ordinary : (Fleet.single router).machine.Meets (Ordinary maxLag) events
  unused : (s.inst ()).seen.calls = []
  idle : ∀ req, (s.inst ()).callbacks.get req = none
  early : s.now ≤ 1000 * (request.timestamp - router.timestampToleranceS)
  accepts : ∃ now, Accepts router (s.inst ()).relay (some request.provider) query now request

theorem starts_of_pos (documented : router.lru.Documented) (positive : 0 < router.sessionTtlMs) :
    router.starts = true := by
  have constructs := (documented.constructs_iff MAX_SEEN router.sessionTtlMs (by decide)).mpr
    (Int.le_of_lt positive)
  rw [BrokerRouter.starts, SeenSet.create, if_pos constructs]
  rfl

/-- Time may pass in an ordinary run. -/
theorem ordinary_tick {maxLag : Nat} {events : List (FleetEvent Unit)} {s : FleetState Unit}
    (ran : (Fleet.single router).machine.run events = some s)
    (ordinary : (Fleet.single router).machine.Meets (Ordinary maxLag) events)
    (room : (CacheCalls.ids (s.inst ()).seen.calls).length < MAX_SEEN) (ms : Nat) :
    (Fleet.single router).machine.run (events ++ [.tick ms]) = some (Fleet.tick s ms) ∧
      (Fleet.single router).machine.Meets (Ordinary maxLag) (events ++ [.tick ms]) :=
  ⟨Machine.run_concat_of ran rfl, ordinary.concat ran ⟨Nat.zero_le _, room⟩⟩

/-- Under any other configuration the request passes at the first moment of its
window, is sealed again at the last one, and passes a second time just before
that seal expires. -/
theorem not_singleUse_of_not_guardCovers (documented : router.lru.Documented)
    (correct : router.crypto.GcmCorrect) {maxLag : Nat} (gap : ¬ GuardCovers router maxLag)
    {events : List (FleetEvent Unit)} {s : FleetState Unit} {query : Query}
    {request : AuthRequest} (awaits : Awaits router maxLag events s query request) :
    ∃ events', (∃ s', (Fleet.single router).machine.run events' = some s') ∧
      (Fleet.single router).machine.Meets (Ordinary maxLag) events' ∧
      ¬ SingleUse router events' := by
  obtain ⟨ran, ordinary, unused, idle, early, now, accepts⟩ := awaits
  simp only [GuardCovers, not_or, Int.not_le, Int.not_lt] at gap
  obtain ⟨positive, tolerant, short⟩ := gap
  have up := starts_of_pos documented positive
  obtain ⟨tol, tolEq⟩ := Int.eq_ofNat_of_zero_le tolerant
  have room : (CacheCalls.ids (s.inst ()).seen.calls).length < MAX_SEEN := by
    rw [unused]
    decide
  -- the window opens
  obtain ⟨ahead, opens⟩ := Int.eq_ofNat_of_zero_le (Int.sub_nonneg_of_le early)
  obtain ⟨ranOpen, ordinaryOpen⟩ := ordinary_tick ran ordinary room ahead
  obtain ⟨between, last, s₁, ran₁, ordinary₁, first, spent⟩ :=
    round_passes correct up ranOpen ordinaryOpen room 0 0 0 (Nat.zero_le maxLag)
      (accepts.later rfl (by simp only [Fleet.tick]; omega)) (idle 0)
      (by simp [FLOW_TTL_MS])
      (by rw [SeenSet.has, Fleet.inst_tick, Instance.seen_tick, unused]
          exact documented.absent _ _ _ _ _ rfl)
  have openNow : s₁.now = s.now + ahead := spent.now
  have recorded : (s₁.inst ()).seen.calls = [(request.session, s₁.now)] := by
    rw [spent.seen, ← spent.now, SeenSet.record, Fleet.inst_tick, Instance.seen_tick, unused]
    rfl
  have room₁ : (CacheCalls.ids (s₁.inst ()).seen.calls).length < MAX_SEEN := by
    rw [recorded]
    simp [CacheCalls.ids, MAX_SEEN]
  -- the window closes
  obtain ⟨ranClose, ordinaryClose⟩ :=
    ordinary_tick ran₁ ordinary₁ room₁ (2000 * tol + 999 + maxLag)
  obtain ⟨between', last', s₂, ran₂, ordinary₂, second, _⟩ :=
    round_passes correct up ranClose ordinaryClose room₁ maxLag (FLOW_TTL_MS - 1 + maxLag) 1
      (Nat.le_refl maxLag)
      (accepts.later spent.clients (by simp only [Fleet.tick]; omega))
      ((spent.callbacks 1 (by decide)).trans (idle 1)) (by simp only [FLOW_TTL_MS]; omega)
      (by
        rw [SeenSet.has, Fleet.inst_tick, Instance.seen_tick, ttlMs_run ran₁, recorded]
        refine documented.expired _ _ _ _ _ s₁.now ?_ positive ?_
        · simp [CacheCalls.lastSet]
        · simp only [Fleet.tick, FLOW_TTL_MS]
          omega)
  refine ⟨_, ⟨s₂, ran₂⟩, ordinary₂, fun single => ?_⟩
  rw [List.append_assoc _ between', List.append_assoc _ [FleetEvent.tick _]] at second single
  have same := congrArg List.length (single _ _ _ first.extend second)
  simp only [List.length_append, List.length_cons, List.length_nil] at same
  omega

/-- Every ordinary run lets at most one callback pass per signed request when
the guard covers; and only then, if some request awaits its window. -/
theorem singleUse_iff_guardCovers (documented : router.lru.Documented)
    (correct : router.crypto.GcmCorrect) (maxLag : Nat) :
    (GuardCovers router maxLag → ∀ events,
      (Fleet.single router).machine.Meets (Ordinary maxLag) events → SingleUse router events) ∧
    ((∃ events s query request, Awaits router maxLag events s query request) →
      (∀ events, (Fleet.single router).machine.Meets (Ordinary maxLag) events →
        SingleUse router events) → GuardCovers router maxLag) := by
  constructor
  · intro covers events ordinary
    exact singleUse_of_guardCovers documented correct covers ordinary
  · rintro ⟨events, s, query, request, awaits⟩ single
    by_contra gap
    obtain ⟨events', _, ordinary, twice⟩ :=
      not_singleUse_of_not_guardCovers documented correct gap awaits
    exact twice (single events' ordinary)

end

/-! ### The default configuration -/

namespace Sample

/-- The daemon registers long before it signs. -/
def quiet : List (FleetEvent Unit) :=
  [.on () (.relay (.connection 0 (Relay.Sample.certificate Relay.Sample.signPointA))),
    .on () (.relay (.message 0 (Relay.Sample.helloFrame Relay.Sample.decryptPointA)))]

/-- The state before the request's window. -/
def Quiet (s : FleetState Unit) : Prop :=
  s.now = 0 ∧ (s.inst ()).relay.clients.get Relay.Sample.uuidA = some client ∧
    (s.inst ()).seen.calls = [] ∧ (s.inst ()).callbacks.entries = []

instance : DecidablePred Quiet := fun _ => inferInstanceAs (Decidable (_ ∧ _))

theorem quiet_run :
    ((Fleet.single router).machine.run quiet).any (fun s => decide (Quiet s)) = true := by
  obtain ⟨relay, ran, entered⟩ := enrolled
  have starts : ((Fleet.single router).router ()).starts = true :=
    show router.starts = true by decide
  have registered := Fleet.run_relay starts (by simp [Relay.Sample.admission]) ran
  have split : quiet = Relay.Sample.admission.map fun e => .on () (.relay e) := rfl
  rw [split, registered]
  exact decide_eq_true ⟨rfl, entered.entry, rfl, rfl⟩

/-- The guard sleeps through the events of the relay server. -/
theorem seen_relay {s s' : FleetState Unit} {e : Relay.Event}
    (after : (Fleet.single router).machine.step s (.on () (.relay e)) = some s') :
    (s'.inst ()).seen = (s.inst ()).seen := by
  obtain ⟨next, stepped, rfl⟩ := Fleet.step_on after
  cases BrokerRouter.move_of_step stepped with
  | relay _ seen => rw [Fleet.inst_replace_self, seen]

theorem awaits : ∃ s, Awaits router 0 quiet s (queryFor session) (requestFor session) := by
  obtain ⟨s, reached, facts⟩ := (Option.any_eq_true _ _).mp quiet_run
  obtain ⟨now, registered, unused, idle⟩ : Quiet s := of_decide_eq_true facts
  obtain ⟨s₁, ran₁, after₁⟩ := Machine.run_concat_inv
    (show (Fleet.single router).machine.run (quiet.take 1 ++ [_]) = some s from reached)
  obtain ⟨s₀, ran₀, after₀⟩ := Machine.run_concat_inv
    (show (Fleet.single router).machine.run ([] ++ [_]) = some s₁ from ran₁)
  have unused₁ : (s₁.inst ()).seen.calls = [] := by rw [← seen_relay after₁, unused]
  have unused₀ : (s₀.inst ()).seen.calls = [] := by rw [← seen_relay after₀, unused₁]
  have start : (Fleet.single router).machine.Meets (Ordinary 0) [] :=
    fun _ _ _ _ step => (Machine.not_stepAt_nil step).elim
  refine ⟨s, reached, ?_, unused, ?_, ?_, 1000 * signedAt, ?_⟩
  · refine (start.concat ran₀ ⟨Nat.le_refl _, ?_⟩).concat ran₁ ⟨Nat.le_refl _, ?_⟩
    · rw [unused₀]
      decide
    · rw [unused₁]
      decide
  · intro req
    rw [OrderedMap.get, idle]
    rfl
  · rw [now]
    decide
  · exact BrokerRouter.checkAuth_eq_ok.mp (accepted registered (by decide) (by decide) rfl)

/-- The sample with a guard that remembers for long enough. -/
def patientRouter : BrokerRouter := { router with sessionTtlMs := 360998 }

end Sample

/-- With the default lifetime and tolerance one signed request passes twice. -/
theorem default_ttl_passes_twice : ∃ events,
    (∃ s, (Fleet.single Sample.router).machine.run events = some s) ∧
      (Fleet.single Sample.router).machine.Meets (Ordinary 0) events ∧
      ¬ SingleUse Sample.router events := by
  obtain ⟨s, awaits⟩ := Sample.awaits
  have gap : ¬ GuardCovers Sample.router 0 := by decide
  exact @not_singleUse_of_not_guardCovers Sample.router Sample.lru_documented Sample.gcm_correct
    0 gap _ _ _ _ awaits

theorem singleUse_iff_guardCovers_sample :
    (GuardCovers Sample.patientRouter 0 ∧ ∀ events,
      (Fleet.single Sample.patientRouter).machine.Meets (Ordinary 0) events →
        SingleUse Sample.patientRouter events) ∧
    ¬ ∀ events, (Fleet.single Sample.router).machine.Meets (Ordinary 0) events →
      SingleUse Sample.router events := by
  have covers : GuardCovers Sample.patientRouter 0 := by decide
  refine ⟨⟨covers, (@singleUse_iff_guardCovers Sample.patientRouter Sample.lru_documented
    Sample.gcm_correct 0).1 covers⟩, fun single => ?_⟩
  obtain ⟨s, awaits⟩ := Sample.awaits
  have gap : ¬ GuardCovers Sample.router 0 := by decide
  exact gap ((@singleUse_iff_guardCovers Sample.router Sample.lru_documented
    Sample.gcm_correct 0).2 ⟨_, s, _, _, awaits⟩ single)

end DicodeRelay.Broker
