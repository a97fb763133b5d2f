import DicodeRelay.Broker.Router

/-!
Contract: what a daemon's signature over an auth request binds.

Owns:
- the bytes the signed preimage determines;
- the spelling of a request that decoding discards;
- that two accepted requests with one digest act on the same values exactly
  when they agree in that spelling.

Does not own: whether a signature verifies.
-/

namespace DicodeRelay.Broker

open DicodeRelay.Lib DicodeRelay.Shared DicodeRelay.Relay

/-! ### The preimage -/

/-- The fields of a preimage that was built, with the bounds their encodings
need. -/
private structure PreimageFields (session challenge uuid provider : String) (timestamp : Int)
    (preimage : Bytes) : Prop where
  timestampRange : 0 ≤ timestamp ∧ timestamp < 2 ^ 64
  sessionFits : (hexDecode (stripDashes session.toList)).length < 2 ^ 32
  challengeFits : (base64Decode challenge.toList).length < 2 ^ 32
  uuidFits : (hexDecode uuid.toList).length < 2 ^ 32
  providerFits : (utf8 provider).length < 2 ^ 32
  preimage_eq : preimage = AUTH_REQUEST_LABEL ++ (frame (hexDecode (stripDashes session.toList)) ++
    (frame (base64Decode challenge.toList) ++ (frame (hexDecode uuid.toList) ++
      (frame (utf8 provider) ++ bigEndian 8 timestamp.toNat))))

private theorem preimageFields {session challenge uuid provider : String} {timestamp : Int}
    {preimage : Bytes}
    (built : signedPreimage session challenge uuid provider timestamp = some preimage) :
    PreimageFields session challenge uuid provider timestamp preimage := by
  unfold signedPreimage at built
  split at built
  · rename_i range
    simp only [Option.bind_eq_bind, Option.bind_some, Option.bind_eq_some_iff] at built
    obtain ⟨_, sessionFramed, _, challengeFramed, _, uuidFramed, _, providerFramed, equal⟩ := built
    obtain ⟨sessionFits, rfl⟩ := lengthPrefixed_eq_some sessionFramed
    obtain ⟨challengeFits, rfl⟩ := lengthPrefixed_eq_some challengeFramed
    obtain ⟨uuidFits, rfl⟩ := lengthPrefixed_eq_some uuidFramed
    obtain ⟨providerFits, rfl⟩ := lengthPrefixed_eq_some providerFramed
    refine ⟨range, sessionFits, challengeFits, uuidFits, providerFits, ?_⟩
    rw [← Option.some.inj equal]
    simp only [List.append_assoc]
  · simp at built

/-- One preimage has one reading. -/
theorem signedPreimage_injective {session₁ challenge₁ uuid₁ provider₁ : String} {timestamp₁ : Int}
    {session₂ challenge₂ uuid₂ provider₂ : String} {timestamp₂ : Int} {preimage : Bytes}
    (built₁ : signedPreimage session₁ challenge₁ uuid₁ provider₁ timestamp₁ = some preimage)
    (built₂ : signedPreimage session₂ challenge₂ uuid₂ provider₂ timestamp₂ = some preimage) :
    hexDecode (stripDashes session₁.toList) = hexDecode (stripDashes session₂.toList) ∧
      base64Decode challenge₁.toList = base64Decode challenge₂.toList ∧
      hexDecode uuid₁.toList = hexDecode uuid₂.toList ∧
      provider₁ = provider₂ ∧ timestamp₁ = timestamp₂ := by
  have fields₁ := preimageFields built₁
  have fields₂ := preimageFields built₂
  have equal := fields₁.preimage_eq.symm.trans fields₂.preimage_eq
  have framed := List.append_cancel_left equal
  obtain ⟨session, rest⟩ := frame_append_inj fields₁.sessionFits fields₂.sessionFits framed
  obtain ⟨challenge, rest⟩ := frame_append_inj fields₁.challengeFits fields₂.challengeFits rest
  obtain ⟨uuid, rest⟩ := frame_append_inj fields₁.uuidFits fields₂.uuidFits rest
  obtain ⟨provider, rest⟩ := frame_append_inj fields₁.providerFits fields₂.providerFits rest
  have range₁ := fields₁.timestampRange
  have range₂ := fields₂.timestampRange
  have seconds : timestamp₁.toNat = timestamp₂.toNat :=
    bigEndian_injective (by omega) (by omega) rest
  exact ⟨session, challenge, uuid, utf8_injective provider, by omega⟩

/-! ### Spelling -/

/-- Where the dashes stand. -/
def dashes (sessionId : List Char) : List Bool := sessionId.map (· == '-')

theorem eq_of_stripDashes {left right : List Char} (stripped : stripDashes left = stripDashes right)
    (dashed : dashes left = dashes right) : left = right := by
  induction left generalizing right with
  | nil =>
      cases right with
      | nil => rfl
      | cons _ _ => simp [dashes] at dashed
  | cons c rest inductionHypothesis =>
      cases right with
      | nil => simp [dashes] at dashed
      | cons d rest' =>
          simp only [dashes, List.map_cons, List.cons.injEq] at dashed
          simp only [stripDashes, List.filter_cons] at stripped
          by_cases dash : c = '-'
          · have dash' : d = '-' := by simpa [dash] using dashed.1
            simp only [dash, dash', bne_self_eq_false, Bool.false_eq_true, if_false] at stripped
            rw [dash, dash', inductionHypothesis stripped dashed.2]
          · have dash' : d ≠ '-' := by simpa [dash] using dashed.1
            simp only [bne_iff_ne, ne_eq, dash, dash', not_false_eq_true, if_true,
              List.cons.injEq] at stripped
            rw [stripped.1, inductionHypothesis stripped.2 dashed.2]

/-- What decoding the parameters of a request discards. -/
structure Spelling where
  sessionDashes : List Bool
  session : List (Bool × Bool) × List Char
  challenge : Base64Discarded

def AuthRequest.spelling (request : AuthRequest) : Spelling where
  sessionDashes := dashes request.session.toList
  session := hexDiscarded (stripDashes request.session.toList)
  challenge := base64Discarded request.challenge.toList

/-- The values the handler acts on. -/
structure Action where
  session : String
  challenge : String
  relayUuid : String
  provider : String
  timestamp : Int
deriving DecidableEq

def AuthRequest.action (request : AuthRequest) : Action where
  session := request.session
  challenge := request.challenge
  relayUuid := request.relayUuid
  provider := request.provider
  timestamp := request.timestamp

/-- A text of lowercase digit pairs loses nothing in decoding. -/
theorem hexDiscarded_of_lowercase {text : List Char} (even : text.length % 2 = 0)
    (lowercase : ∀ c ∈ text, (hexValue c).isSome ∧ isUpperHex c = false) :
    hexDiscarded text = (List.replicate (text.length / 2) (false, false), []) := by
  induction text using hexDiscarded.induct with
  | case1 high low rest h l lowValue highValue inductionHypothesis =>
      have evenRest : rest.length % 2 = 0 := by
        simp only [List.length_cons] at even
        omega
      have half : (rest.length + 1 + 1) / 2 = rest.length / 2 + 1 := by omega
      have restLower : ∀ c ∈ rest, (hexValue c).isSome ∧ isUpperHex c = false := by
        intro c member
        exact lowercase c (by simp [member])
      have highLower := (lowercase high (by simp)).2
      have lowLower := (lowercase low (by simp)).2
      simp only [hexDiscarded, highValue, lowValue, highLower, lowLower,
        inductionHypothesis evenRest restLower, List.length_cons, half, List.replicate_succ]
  | case2 high low rest notDigits =>
      obtain ⟨h, highValue⟩ := Option.isSome_iff_exists.mp (lowercase high (by simp)).1
      obtain ⟨l, lowValue⟩ := Option.isSome_iff_exists.mp (lowercase low (by simp)).1
      exact absurd lowValue (notDigits h l highValue)
  | case3 rest short =>
      rcases rest with _ | ⟨high, _ | ⟨low, rest⟩⟩
      · rfl
      · simp at even
      · exact absurd rfl (short high low rest)

theorem relayUuid_injective {left right : String} (leftFormed : isRelayUuid left = true)
    (rightFormed : isRelayUuid right = true)
    (decoded : hexDecode left.toList = hexDecode right.toList) : left = right := by
  simp only [isRelayUuid, Bool.decide_and, Bool.and_eq_true, decide_eq_true_eq, List.all_eq_true,
    Bool.not_eq_true'] at leftFormed rightFormed
  have leftDiscarded := hexDiscarded_of_lowercase (by omega) leftFormed.2
  have rightDiscarded := hexDiscarded_of_lowercase (by omega) rightFormed.2
  apply String.toList_inj.mp
  apply hexDecode_discarded_injective decoded
  rw [leftDiscarded, rightDiscarded, leftFormed.1, rightFormed.1]

/-- Two accepted requests with one digest make the handler act on the same
values exactly when they are spelled alike where decoding does not look. -/
theorem same_action_iff_same_spelling {router : BrokerRouter} {relay₁ relay₂ : Relay.State}
    {provider₁ provider₂ : Option String} {query₁ query₂ : Query} {now₁ now₂ : Nat}
    {request₁ request₂ : AuthRequest}
    (collisionFree : Function.Injective router.crypto.sha256)
    (accepted₁ : router.checkAuth relay₁ provider₁ query₁ now₁ = .ok request₁)
    (accepted₂ : router.checkAuth relay₂ provider₂ query₂ now₂ = .ok request₂)
    (sameDigest : router.crypto.buildSignedPayload request₁.session request₁.challenge
        request₁.relayUuid request₁.provider request₁.timestamp =
      router.crypto.buildSignedPayload request₂.session request₂.challenge
        request₂.relayUuid request₂.provider request₂.timestamp) :
    request₁.action = request₂.action ↔ request₁.spelling = request₂.spelling := by
  have accepts₁ := BrokerRouter.checkAuth_eq_ok.mp accepted₁
  have accepts₂ := BrokerRouter.checkAuth_eq_ok.mp accepted₂
  constructor
  · intro same
    have session : request₁.session = request₂.session := congrArg Action.session same
    have challenge : request₁.challenge = request₂.challenge := congrArg Action.challenge same
    rw [AuthRequest.spelling, AuthRequest.spelling, session, challenge]
  · intro same
    obtain ⟨digest, built₁, _⟩ := accepts₁.verified
    have built₂ := sameDigest.symm.trans built₁
    obtain ⟨preimage₁, preimageEq₁, hashed₁⟩ := Option.map_eq_some_iff.mp built₁
    obtain ⟨preimage₂, preimageEq₂, hashed₂⟩ := Option.map_eq_some_iff.mp built₂
    obtain rfl := collisionFree (hashed₁.trans hashed₂.symm)
    obtain ⟨session, challenge, uuid, provider, timestamp⟩ :=
      signedPreimage_injective preimageEq₁ preimageEq₂
    have stripped := hexDecode_discarded_injective session (congrArg Spelling.session same)
    have sameSession : request₁.session = request₂.session :=
      String.toList_inj.mp (eq_of_stripDashes stripped (congrArg Spelling.sessionDashes same))
    have sameChallenge : request₁.challenge = request₂.challenge :=
      String.toList_inj.mp
        (base64Decode_discarded_injective challenge (congrArg Spelling.challenge same))
    have sameUuid := relayUuid_injective accepts₁.wellFormed accepts₂.wellFormed uuid
    rw [AuthRequest.action, AuthRequest.action, sameSession, sameChallenge, sameUuid, provider,
      timestamp]

/-! ### One signature, two session ids -/

/-- One more point of a function without collisions. -/
private theorem injective_extend {hash : Bytes → Bytes} (injective : Function.Injective hash)
    {point value : Bytes} (fresh : ∀ bytes, hash bytes ≠ value) :
    Function.Injective fun bytes => if bytes = point then value else hash bytes := by
  intro left right equal
  simp only at equal
  split at equal <;> split at equal
  · rename_i isLeft isRight
    rw [isLeft, isRight]
  · exact absurd equal.symm (fresh right)
  · exact absurd equal (fresh left)
  · exact injective equal

private theorem ne_extend {hash : Bytes → Bytes} {point value other : Bytes}
    (fresh : ∀ bytes, hash bytes ≠ other) (different : value ≠ other) (bytes : Bytes) :
    (if bytes = point then value else hash bytes) ≠ other := by
  split
  · exact different
  · exact fresh bytes

private theorem padded_ne {value : Bytes} (short : value.length = 32) (bytes : Bytes) :
    bytes ++ List.replicate 33 0 ≠ value := by
  intro equal
  have lengths := congrArg List.length equal
  rw [List.length_append, List.length_replicate, short] at lengths
  omega

theorem Sample.sha256_injective : Function.Injective Sample.router.crypto.sha256 := by
  have padded : Function.Injective fun bytes : Bytes => bytes ++ List.replicate 33 0 :=
    fun _ _ equal => List.append_cancel_right equal
  have relay : Function.Injective Relay.Sample.sha256 :=
    injective_extend (injective_extend padded (padded_ne (by decide +kernel)))
      (ne_extend (padded_ne (by decide +kernel)) (by decide +kernel))
  exact injective_extend
    (injective_extend relay (ne_extend (ne_extend (padded_ne (by decide +kernel))
      (by decide +kernel)) (by decide +kernel)))
    (ne_extend (ne_extend (ne_extend (padded_ne (by decide +kernel)) (by decide +kernel))
      (by decide +kernel)) (by decide +kernel))

/-- The daemon of the sample is registered. -/
def Sample.registered : Relay.State := State.init.putClient Sample.client

/-- The session id of the sample without its dashes. -/
def Sample.undashed : String := "1b4e28ba2fa141d2883f0016d3cca427"

theorem Sample.stripped :
    stripDashes Sample.undashed.toList = stripDashes Sample.session.toList := by
  decide

theorem Sample.accepted_dashed : Sample.router.checkAuth Sample.registered (some "github")
    (Sample.queryFor Sample.session) (1000 * Sample.signedAt) =
      .ok (Sample.requestFor Sample.session) :=
  Sample.accepted (OrderedMap.get_set_self _ _ _) (by decide) (by decide) rfl

theorem Sample.accepted_undashed : Sample.router.checkAuth Sample.registered (some "github")
    (Sample.queryFor Sample.undashed) (1000 * Sample.signedAt) =
      .ok (Sample.requestFor Sample.undashed) :=
  Sample.accepted (OrderedMap.get_set_self _ _ _) (by decide) (by decide) Sample.stripped

/-- The two spellings have one digest. -/
theorem Sample.same_digest :
    Sample.router.crypto.buildSignedPayload Sample.session Sample.challenge Relay.Sample.uuidA
        "github" Sample.signedAt =
      Sample.router.crypto.buildSignedPayload Sample.undashed Sample.challenge
        Relay.Sample.uuidA "github" Sample.signedAt := by
  rw [Primitives.buildSignedPayload, Primitives.buildSignedPayload, signedPreimage,
    signedPreimage, Sample.stripped]

/-- The two spellings are told apart. -/
theorem same_action_iff_same_spelling_undashed :
    (Sample.requestFor Sample.session).action = (Sample.requestFor Sample.undashed).action ↔
      (Sample.requestFor Sample.session).spelling = (Sample.requestFor Sample.undashed).spelling :=
  same_action_iff_same_spelling Sample.sha256_injective Sample.accepted_dashed
    Sample.accepted_undashed Sample.same_digest

/-- A signature for a session id is accepted for that id without its dashes. -/
theorem signature_accepted_undashed :
    Function.Injective Sample.router.crypto.sha256 ∧
      Sample.router.checkAuth Sample.registered (some "github") (Sample.queryFor Sample.session)
        (1000 * Sample.signedAt) = .ok (Sample.requestFor Sample.session) ∧
      Sample.router.checkAuth Sample.registered (some "github") (Sample.queryFor Sample.undashed)
        (1000 * Sample.signedAt) = .ok (Sample.requestFor Sample.undashed) ∧
      Sample.router.crypto.buildSignedPayload Sample.session Sample.challenge Relay.Sample.uuidA
          "github" Sample.signedAt =
        Sample.router.crypto.buildSignedPayload Sample.undashed Sample.challenge
          Relay.Sample.uuidA "github" Sample.signedAt ∧
      (Sample.requestFor Sample.session).action ≠ (Sample.requestFor Sample.undashed).action :=
  ⟨Sample.sha256_injective, Sample.accepted_dashed, Sample.accepted_undashed, Sample.same_digest,
    by decide +kernel⟩

end DicodeRelay.Broker
