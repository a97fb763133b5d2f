import DicodeRelay.Broker.Router
import DicodeRelay.Client.Identity

/-!
Contract: the URL a daemon sends its user to, and what the broker makes of it.

Owns:
- the URL with its parameters;
- the agreement of client and broker on an auth request;
- that the broker refuses every such URL for want of a parameter.

Does not own: URL encoding, which the broker's query parser undoes; delivery
envelopes.
-/

namespace DicodeRelay.Client

open DicodeRelay.Lib DicodeRelay.Shared DicodeRelay.Broker

structure BuildAuthURLOpts where
  provider : String
  scope : Option String
  identity : Identity
  brokerURL : String
  /-- The PKCE challenge. -/
  challenge : String

/-- `/auth/<provider>` on the broker, with its search parameters in order. -/
structure AuthURL where
  brokerURL : String
  provider : String
  searchParams : OrderedMap String String

structure BuildAuthURLResult where
  url : AuthURL
  sessionId : String

/-- The search parameters, in the order in which they are set. -/
def BuildAuthURLOpts.searchParams (crypto : Primitives) (opts : BuildAuthURLOpts)
    (sessionId : String) (ts : Nat) (sigB64 : String) : OrderedMap String String :=
  let params := OrderedMap.empty
  let params := params.set "session_id" sessionId
  let params := params.set "relay_uuid" (opts.identity.uuid crypto)
  let params := params.set "pubkey" (opts.identity.signPubkeyB64 crypto)
  let params := params.set "decrypt_pubkey" (opts.identity.decryptPubkeyB64 crypto)
  let params := params.set "challenge" opts.challenge
  let params := params.set "ts" (toString ts)
  let params := params.set "sig" sigB64
  match opts.scope with
  | none => params
  | some scope => params.set "scope" scope

/-- `sessionId` is the id `uuidv4` draws, `nowMs` the clock and `nonce` what
the signer draws. -/
def buildAuthURL (crypto : Primitives) (opts : BuildAuthURLOpts) (sessionId : String)
    (nowMs : Nat) (nonce : Bytes) : Option BuildAuthURLResult := do
  let ts := nowMs / 1000
  let sigB64 ← opts.identity.signAuthPayload crypto sessionId opts.challenge opts.provider ts nonce
  return {
    url := ⟨opts.brokerURL, opts.provider, opts.searchParams crypto sessionId ts sigB64⟩
    sessionId }

/-- The query of a GET of the URL. -/
def AuthURL.query (url : AuthURL) : Query := url.searchParams.mapValues QueryValue.one

/-- What the broker answers to a GET of the URL. -/
def AuthURL.visit (url : AuthURL) (router : BrokerRouter) (relay : Relay.State)
    (session : Option FlowSession) (checkedMs sealedMs : Nat) (iv : Bytes) : AuthOutcome :=
  router.handleAuth relay (some url.provider) url.query session checkedMs sealedMs iv

/-! ### The agreement -/

/-- The circumstances of an auth request: its provider is enabled, its
challenge is not empty, the two clocks agree within the tolerance, the daemon is
registered under the identity's keys, and its signature verifies. -/
structure Requested (router : BrokerRouter) (relay : Relay.State) (opts : BuildAuthURLOpts)
    (sessionId : String) (nowMs checkedMs : Nat) (nonce : Bytes) : Prop where
  enabled : opts.provider ∈ router.providers
  challenged : opts.challenge ≠ "" ∧
    opts.challenge = base64urlEncode (base64Decode opts.challenge.toList)
  synchronous : ((checkedMs / 1000 : Nat) - (nowMs / 1000 : Nat) : Int).natAbs ≤
    router.timestampToleranceS
  registered : ∃ client, relay.clients.get (opts.identity.uuid router.crypto) = some client ∧
    client.pubkey = opts.identity.signPubkey router.crypto ∧
    client.decryptPubkey = opts.identity.decryptPubkey router.crypto
  verifies : ∃ payload sig,
    router.crypto.buildSignedPayload sessionId opts.challenge (opts.identity.uuid router.crypto)
      opts.provider (nowMs / 1000 : Nat) = some payload ∧
    opts.identity.signAuthPayload router.crypto sessionId opts.challenge opts.provider
      (nowMs / 1000 : Nat) nonce = some sig ∧
    router.crypto.verifyECDSA (opts.identity.signPubkey router.crypto) payload sig = true

/-- A visit to the URL passes every check, and the flow it seals is the one
the client asked for. -/
def Agreed (router : BrokerRouter) (relay : Relay.State) (opts : BuildAuthURLOpts)
    (session : Option FlowSession) (checkedMs sealedMs : Nat) (iv : Bytes)
    (result : BuildAuthURLResult) : Prop :=
  ∃ flow cookie location,
    result.url.visit router relay session checkedMs sealedMs iv =
      .redirected flow cookie location ∧
    flow.sessionId = result.sessionId ∧ flow.provider = opts.provider ∧
    flow.pkceChallenge = opts.challenge ∧
    flow.scope = opts.scope.filter (fun scope => scope ≠ "") ∧
    flow.relayUuid = opts.identity.uuid router.crypto ∧
    flow.pubkey = opts.identity.decryptPubkey router.crypto

/-- The client names the session id otherwise than the broker reads it. -/
theorem searchParams_session (crypto : Primitives) (opts : BuildAuthURLOpts) (sessionId : String)
    (ts : Nat) (sigB64 : String) :
    (opts.searchParams crypto sessionId ts sigB64).get "session" = none := by
  unfold BuildAuthURLOpts.searchParams
  cases opts.scope <;> simp [OrderedMap.get_set]

theorem requireParam_session {crypto : Primitives} {opts : BuildAuthURLOpts} {sessionId : String}
    {nowMs : Nat} {nonce : Bytes} {result : BuildAuthURLResult}
    (built : buildAuthURL crypto opts sessionId nowMs nonce = some result) :
    requireParam result.url.query "session" = .error (.json 400 "missing session") := by
  simp only [buildAuthURL, Option.bind_eq_bind, Option.bind_eq_some_iff] at built
  obtain ⟨sig, _, equal⟩ := built
  cases equal
  simp only [requireParam, Query.first, AuthURL.query, OrderedMap.get_mapValues,
    searchParams_session, Option.map_none]
  rfl

/-- A visit to a URL the client built is refused at the first parameter. -/
theorem visit_refused {router : BrokerRouter} {opts : BuildAuthURLOpts} {sessionId : String}
    {nowMs : Nat} {nonce : Bytes} {result : BuildAuthURLResult}
    (built : buildAuthURL router.crypto opts sessionId nowMs nonce = some result)
    (enabled : result.url.provider ∈ router.providers) (relay : Relay.State)
    (session : Option FlowSession) (checkedMs sealedMs : Nat) (iv : Bytes) :
    result.url.visit router relay session checkedMs sealedMs iv =
      .refused (.json 400 "missing session") := by
  have checked : router.checkAuth relay (some result.url.provider) result.url.query checkedMs =
      .error (.json 400 "missing session") := by
    change (requireThat (decide (result.url.provider ∈ router.providers)) _ >>= _) = _
    rw [requireThat_eq_ok (u := ()).mpr (decide_eq_true enabled)]
    change (requireParam result.url.query "session" >>= _) = _
    rw [requireParam_session built]
    rfl
  rw [AuthURL.visit, BrokerRouter.handleAuth, checked]

/-- The broker accepts no URL the client builds. -/
theorem never_agreed (router : BrokerRouter) (relay : Relay.State) (opts : BuildAuthURLOpts)
    (sessionId : String) (nowMs : Nat) (nonce : Bytes) (session : Option FlowSession)
    (checkedMs sealedMs : Nat) (iv : Bytes) :
    ¬ ∃ result, buildAuthURL router.crypto opts sessionId nowMs nonce = some result ∧
      Agreed router relay opts session checkedMs sealedMs iv result := by
  rintro ⟨result, built, flow, cookie, location, redirected, _⟩
  obtain ⟨request, accepts, _⟩ := BrokerRouter.handleAuth_eq_redirected.mp redirected
  have clash := (requireParam_session built).symm.trans accepts.session_eq
  cases clash

/-! ### A registered daemon's request -/

namespace Sample

open DicodeRelay.Broker.Sample

def identity : Identity := ⟨scalar 1, scalar 2⟩

def opts : BuildAuthURLOpts where
  provider := "github"
  scope := some "repo"
  identity := identity
  brokerURL := "https://relay.example"
  challenge := challenge

def registered : Relay.State := Relay.State.init.putClient client

theorem uuid_eq : identity.uuid router.crypto = Relay.Sample.uuidA := by decide +kernel

theorem signature_eq (nonce : Bytes) :
    identity.signAuthPayload router.crypto session challenge "github" signedAt nonce =
      some (base64Encode authSignature) := by
  have der : p1363ToDer (router.crypto.signP1363 identity.signKey authDigest nonce) =
      authSignature := by
    change p1363ToDer (router.crypto.signP1363 identity.signKey authDigest []) = authSignature
    decide +kernel
  rw [Identity.signAuthPayload, uuid_eq]
  change (primitives.buildSignedPayload session challenge Relay.Sample.uuidA "github"
    signedAt).map _ = _
  rw [digest_eq, Option.map_some, der]

theorem requested (nonce : Bytes) : Requested router registered opts session
    (1000 * signedAt) (1000 * signedAt) nonce where
  enabled := by decide
  challenged := by decide +kernel
  synchronous := by decide +kernel
  registered := by
    rw [show opts.identity.uuid router.crypto = Relay.Sample.uuidA from uuid_eq]
    exact ⟨client, OrderedMap.get_set_self _ _ _, by decide +kernel, by decide +kernel⟩
  verifies := by
    rw [show opts.identity.uuid router.crypto = Relay.Sample.uuidA from uuid_eq]
    exact ⟨authDigest, base64Encode authSignature, digest_eq, signature_eq nonce,
      signature_verifies⟩

end Sample

/-- A registered daemon's URL, visited the moment it was signed, is refused. -/
theorem registered_daemon_refused :
    Requested Sample.router Sample.registered Sample.opts Sample.session
        (1000 * Sample.signedAt) (1000 * Sample.signedAt) [] ∧
      ∃ result, buildAuthURL Sample.router.crypto Sample.opts Sample.session
          (1000 * Sample.signedAt) [] = some result ∧
        result.url.visit Sample.router Sample.registered (some ⟨none⟩) (1000 * Sample.signedAt)
          (1000 * Sample.signedAt) Sample.flowIv = .refused (.json 400 "missing session") ∧
        ¬ Agreed Sample.router Sample.registered Sample.opts (some ⟨none⟩)
          (1000 * Sample.signedAt) (1000 * Sample.signedAt) Sample.flowIv result := by
  have seconds : 1000 * Sample.signedAt / 1000 = Sample.signedAt := by decide
  have built : buildAuthURL Sample.router.crypto Sample.opts Sample.session
      (1000 * Sample.signedAt) [] = some ⟨⟨Sample.opts.brokerURL, Sample.opts.provider,
        Sample.opts.searchParams Sample.router.crypto Sample.session Sample.signedAt
          (base64Encode Sample.authSignature)⟩, Sample.session⟩ := by
    unfold buildAuthURL
    rw [seconds]
    change (Sample.identity.signAuthPayload Sample.router.crypto Sample.session Sample.challenge
      "github" Sample.signedAt []).bind _ = _
    rw [Sample.signature_eq]
    rfl
  have refused := visit_refused built (by decide) Sample.registered (some ⟨none⟩)
    (1000 * Sample.signedAt) (1000 * Sample.signedAt) Sample.flowIv
  refine ⟨Sample.requested [], _, built, refused, ?_⟩
  rintro ⟨flow, cookie, location, redirected, _⟩
  rw [refused] at redirected
  cases redirected

end DicodeRelay.Client
