import DicodeRelay.Broker.AuthBinding
import DicodeRelay.Broker.Delivery
import DicodeRelay.Client.Auth
import DicodeRelay.Relay.Announcements
import DicodeRelay.Relay.LiveWork
import DicodeRelay.Relay.Sockets

/-!
Contract: what a daemon makes of a delivery envelope.

Owns:
- the check and the decryption of an envelope;
- that the envelope of an accepted flow, sent as JSON, decrypts to the token
  fields of the callback, with the key its daemon registered with;
- that an envelope altered under its signature is refused.

Does not own: how the body travels to the daemon.
-/

namespace DicodeRelay.Client

open DicodeRelay.Lib DicodeRelay.Shared DicodeRelay.Broker DicodeRelay.Relay

/-- Why an envelope is refused. -/
inductive EnvelopeError where
  | missingSignature
  | signatureRejected
  /-- A call of a library threw. -/
  | thrown
deriving DecidableEq

/-- The texts of the errors the daemon throws itself. -/
def EnvelopeError.message : EnvelopeError → Option String
  | missingSignature => some "delivery envelope missing broker_sig"
  | signatureRejected => some "broker signature verification failed"
  | thrown => none

def decryptTokenEnvelope (crypto : Primitives) (keys : KeyPrimitives)
    (envelope : OAuthTokenDeliveryPayload) (identity : Identity) (brokerPubkeyB64 : String) :
    Except EnvelopeError Json :=
  match envelope.brokerSig with
  | none => .error .missingSignature
  | some sig =>
      match crypto.verifyDeliverySignature brokerPubkeyB64 sig envelope.type envelope.sessionId
          envelope.ephemeralPubkey envelope.ciphertext envelope.nonce with
      | none => .error .thrown
      | some false => .error .signatureRejected
      | some true =>
          match (keys.eciesDecryptWebCrypto crypto identity.decryptKey envelope.sessionId
              envelope.type ⟨envelope.ephemeralPubkey, envelope.ciphertext, envelope.nonce⟩).bind
              fun plain => Json.parse (utf8Decode plain) with
          | none => .error .thrown
          | some tokens => .ok tokens

/-- A parsed body as an envelope, when its fields are strings. -/
def readEnvelope (parsed : Json) : Option OAuthTokenDeliveryPayload := do
  let type ← (parsed.field "type").bind Json.asString
  let sessionId ← (parsed.field "session_id").bind Json.asString
  let ephemeralPubkey ← (parsed.field "ephemeral_pubkey").bind Json.asString
  let ciphertext ← (parsed.field "ciphertext").bind Json.asString
  let nonce ← (parsed.field "nonce").bind Json.asString
  let brokerSig ← match parsed.field "broker_sig" with
    | none => some none
    | some sig => sig.asString.map some
  return { type, sessionId, ephemeralPubkey, ciphertext, nonce, brokerSig }

theorem readEnvelope_deliveryJson (payload : OAuthTokenDeliveryPayload) :
    readEnvelope (deliveryJson payload) = some payload := by
  obtain ⟨type, sessionId, ephemeralPubkey, ciphertext, nonce, brokerSig⟩ := payload
  cases brokerSig <;> simp [readEnvelope, deliveryJson, Json.field, Json.asString]

/-! ### The host's libraries -/

/-- The host's libraries on the issuers signing key, a daemon's decrypt key and
an ephemeral key: ECDH succeeds on the points a key import accepts and agrees
with Web Crypto's, a signature verifies for the data it was made for and for no
other, a ciphertext has the length of its plaintext, and an uncompressed point
has 65 bytes. -/
structure Genuine (crypto : Primitives) (keys : KeyPrimitives)
    (brokerKey decryptKey ephemeral : Bytes) : Prop where
  computes : ∀ point, crypto.importSpki (uncompressedP256ToSpki point) = true →
    (crypto.computeSecret ephemeral point).isSome = true
  agrees : ∀ secret, crypto.computeSecret ephemeral (crypto.publicPoint decryptKey) = some secret →
    keys.deriveBits decryptKey (crypto.publicPoint ephemeral) = some secret
  verifies : ∀ data nonce, crypto.verifySha256 (keys.exportSpki brokerKey) data
    (crypto.signSha256 brokerKey data nonce) = some true
  binds : ∀ data other nonce, crypto.verifySha256 (keys.exportSpki brokerKey) other
    (crypto.signSha256 brokerKey data nonce) = some true → other = data
  ciphertext_length : ∀ key iv aad plaintext,
    (crypto.gcmEncrypt key iv aad plaintext).1.length = plaintext.length
  point_length : (crypto.publicPoint ephemeral).length = 65

/-! ### Envelopes -/

section

variable {router : BrokerRouter} {keys : KeyPrimitives} {identity : Identity} {flow : Session}
  {tokens : List (String × QueryValue)} {random : DeliveryRandomness}
  {payload : OAuthTokenDeliveryPayload}

/-- An envelope to the daemon's own key decrypts to the tokens. -/
theorem decryptTokenEnvelope_signed (correct : router.crypto.GcmCorrect)
    (genuine : Genuine router.crypto keys router.brokerKey.privateKey identity.decryptKey
      random.ephemeral)
    (own : flow.pubkey = identity.decryptPubkey router.crypto)
    (built : router.buildDelivery flow tokens random = .signed payload) :
    decryptTokenEnvelope router.crypto keys payload identity
      (router.brokerKey.publicKeyBase64 keys) = .ok (tokensJson tokens) := by
  obtain ⟨encrypted, digest, encryptedEq, digestEq, rfl⟩ :=
    BrokerRouter.buildDelivery_eq_signed built
  have verified : router.crypto.verifyDeliverySignature (router.brokerKey.publicKeyBase64 keys)
      (router.brokerKey.sign router.crypto digest random.signature) deliveryType flow.sessionId
      encrypted.ephemeralPubkey encrypted.ciphertext encrypted.nonce = some true := by
    simp only [Primitives.verifyDeliverySignature, digestEq, BrokerSigningKey.publicKeyBase64,
      BrokerSigningKey.sign, base64Decode_base64Encode, Option.bind_eq_bind, Option.bind_some]
    exact genuine.verifies digest random.signature
  have decrypted : keys.eciesDecryptWebCrypto router.crypto identity.decryptKey flow.sessionId
      deliveryType encrypted = some (utf8 (tokensJson tokens).stringify) := by
    rw [own] at encryptedEq
    exact KeyPrimitives.eciesDecrypt_eciesEncrypt correct genuine.agrees encryptedEq
  simp only [decryptTokenEnvelope, verified, decrypted, Option.bind_some, utf8Decode_utf8,
    Json.parse_stringify]

/-- An envelope with the signature of another one is refused. -/
theorem decryptTokenEnvelope_tampered (collisionFree : Function.Injective router.crypto.sha256)
    (genuine : Genuine router.crypto keys router.brokerKey.privateKey identity.decryptKey
      random.ephemeral)
    (built : router.buildDelivery flow tokens random = .signed payload)
    {tampered : OAuthTokenDeliveryPayload} (sameSig : tampered.brokerSig = payload.brokerSig)
    (altered : tampered ≠ payload) :
    ∃ err, decryptTokenEnvelope router.crypto keys tampered identity
      (router.brokerKey.publicKeyBase64 keys) = .error err := by
  obtain ⟨encrypted, digest, _, digestEq, rfl⟩ :=
    BrokerRouter.buildDelivery_eq_signed built
  have notVerified : router.crypto.verifyDeliverySignature
      (router.brokerKey.publicKeyBase64 keys)
      (router.brokerKey.sign router.crypto digest random.signature) tampered.type
      tampered.sessionId tampered.ephemeralPubkey tampered.ciphertext tampered.nonce ≠
      some true := by
    intro verified
    simp only [Primitives.verifyDeliverySignature, BrokerSigningKey.publicKeyBase64,
      BrokerSigningKey.sign, base64Decode_base64Encode] at verified
    obtain ⟨other, otherEq, verified⟩ := Option.bind_eq_some_iff.mp verified
    obtain rfl := genuine.binds digest other random.signature verified
    have fields := deliveryDigest_injective collisionFree otherEq digestEq
    simp only [List.cons.injEq, and_true] at fields
    obtain ⟨type, sessionId, ephemeralPubkey, ciphertext, nonce⟩ := fields
    apply altered
    cases tampered
    simp_all
  unfold decryptTokenEnvelope
  rw [sameSig]
  dsimp only
  split
  · exact ⟨_, rfl⟩
  · exact ⟨_, rfl⟩
  · rename_i verified
    exact absurd verified notVerified

/-- A point that a key import accepts can be encrypted to. -/
theorem eciesEncrypt_of_imported
    (genuine : Genuine router.crypto keys router.brokerKey.privateKey identity.decryptKey
      random.ephemeral)
    (imported : router.crypto.importSpki (uncompressedP256ToSpki flow.pubkey) = true)
    (plaintext : Bytes) :
    ∃ key, router.crypto.eciesEncrypt flow.pubkey flow.sessionId deliveryType plaintext
        random.ephemeral random.iv = some {
      ephemeralPubkey := base64Encode (router.crypto.publicPoint random.ephemeral)
      ciphertext := base64Encode
        ((router.crypto.gcmEncrypt key random.iv (utf8 deliveryType) plaintext).1 ++
          (router.crypto.gcmEncrypt key random.iv (utf8 deliveryType) plaintext).2)
      nonce := base64Encode random.iv } := by
  obtain ⟨secret, computed⟩ := Option.isSome_iff_exists.mp (genuine.computes _ imported)
  refine ⟨router.crypto.hkdfSha256 secret (utf8 flow.sessionId) (utf8 "dicode-oauth-token") 32, ?_⟩
  rw [Primitives.eciesEncrypt, computed]
  rfl

theorem buildDelivery_ne_encryptionFailed
    (genuine : Genuine router.crypto keys router.brokerKey.privateKey identity.decryptKey
      random.ephemeral)
    (imported : router.crypto.importSpki (uncompressedP256ToSpki flow.pubkey) = true) :
    router.buildDelivery flow tokens random ≠ .encryptionFailed := by
  obtain ⟨key, encrypted⟩ := eciesEncrypt_of_imported genuine imported
    (utf8 (tokensJson tokens).stringify)
  intro failed
  simp only [BrokerRouter.buildDelivery, encrypted] at failed
  split at failed <;> cases failed

/-- The session id, and the tokens once they are encrypted and in base64, are
below the 2^32 bytes that a length prefix of the signature can hold. -/
def FieldsFit (flow : Session) (tokens : List (String × QueryValue)) : Prop :=
  (utf8 flow.sessionId).length < 2 ^ 32 ∧
    4 * (((utf8 (tokensJson tokens).stringify).length + 16 + 2) / 3) < 2 ^ 32

/-- An envelope whose fields fit is signed. -/
theorem buildDelivery_signed (correct : router.crypto.GcmCorrect)
    (genuine : Genuine router.crypto keys router.brokerKey.privateKey identity.decryptKey
      random.ephemeral)
    (imported : router.crypto.importSpki (uncompressedP256ToSpki flow.pubkey) = true)
    (nonceLength : random.iv.length = 12) (fit : FieldsFit flow tokens) :
    ∃ payload, router.buildDelivery flow tokens random = .signed payload := by
  obtain ⟨key, encrypted⟩ := eciesEncrypt_of_imported genuine imported
    (utf8 (tokensJson tokens).stringify)
  have fits : ∀ field ∈ [deliveryType, flow.sessionId,
      base64Encode (router.crypto.publicPoint random.ephemeral),
      base64Encode
        ((router.crypto.gcmEncrypt key random.iv (utf8 deliveryType)
            (utf8 (tokensJson tokens).stringify)).1 ++
          (router.crypto.gcmEncrypt key random.iv (utf8 deliveryType)
            (utf8 (tokensJson tokens).stringify)).2),
      base64Encode random.iv], (utf8 field).length < 2 ^ 32 := by
    intro field member
    simp only [List.mem_cons, List.not_mem_nil, or_false] at member
    rcases member with rfl | rfl | rfl | rfl | rfl
    · decide
    · exact fit.1
    · rw [utf8_base64Encode_length, genuine.point_length]
      decide
    · rw [utf8_base64Encode_length, List.length_append, genuine.ciphertext_length,
        correct.tag_length]
      exact fit.2
    · rw [utf8_base64Encode_length, nonceLength]
      decide
  obtain ⟨digest, digestEq⟩ := router.crypto.buildDeliverySignaturePayload_of_fits fits
  exact ⟨_, BrokerRouter.buildDelivery_of_encrypted encrypted digestEq⟩

end

/-! ### The key a daemon registered with -/

/-- Every hello the relay accepted under the identity's uuid, which takes its
certificate, was the daemon's own. -/
def OwnHellos (server : RelayServer) (identity : Identity) (events : List Relay.Event) : Prop :=
  ∀ earlier s e s' ws certPoint hello, server.machine.StepAt events earlier s e s' →
    HelloAccepted server s e ws certPoint hello →
    server.crypto.uuidFromP256Point certPoint = identity.uuid server.crypto →
    hello.decryptPubkey = identity.decryptPubkeyB64 server.crypto

theorem imported_of_validateDecryptPubkey {server : RelayServer} {hello : Hello}
    (valid : server.validateDecryptPubkey hello = none) :
    server.crypto.importSpki
      (uncompressedP256ToSpki (base64Decode hello.decryptPubkey.toList)) = true := by
  unfold RelayServer.validateDecryptPubkey at valid
  simp only at valid
  split at valid
  · cases valid
  · split at valid
    · cases valid
    · split at valid
      · assumption
      · cases valid

/-- An entry has the key of a hello that was accepted under its uuid. -/
theorem accepted_of_registered (server : RelayServer) {events : List Relay.Event}
    {relay : Relay.State} (ran : server.machine.run events = some relay) {uuid : String}
    {client : ConnectedClient} (present : relay.clients.get uuid = some client) :
    ∃ hello earlier s e s', server.machine.StepAt events earlier s e s' ∧
      HelloAccepted server s e client.ws client.pubkey hello ∧
      server.crypto.uuidFromP256Point client.pubkey = uuid ∧
      client.decryptPubkey = base64Decode hello.decryptPubkey.toList := by
  refine Machine.run_invariant (P := fun events s => ∀ uuid client,
    s.clients.get uuid = some client → ∃ hello earlier t e t',
      server.machine.StepAt events earlier t e t' ∧
        HelloAccepted server t e client.ws client.pubkey hello ∧
        server.crypto.uuidFromP256Point client.pubkey = uuid ∧
        client.decryptPubkey = base64Decode hello.decryptPubkey.toList)
    (fun _ _ absurdity => absurd absurdity (by simp [RelayServer.machine, Relay.State.init])) ?_ ran
    uuid client present
  intro events s e s' before all after uuid client present
  have move := server.registry_step after
  rcases move.client_cases present with ⟨old, _⟩ | ⟨hello, accepted, _, key⟩
  · obtain ⟨hello, earlier, t, f, t', step, rest⟩ := all uuid client old
    exact ⟨hello, earlier, t, f, t', step.extend, rest⟩
  · exact ⟨hello, events, s, e, s', Machine.stepAt_last before after, accepted,
      (move.sound (server.sound_run before) uuid client present).2.1, key⟩

theorem decryptPubkey_of_registered {server : RelayServer} {identity : Identity}
    {events : List Relay.Event} {relay : Relay.State}
    (ran : server.machine.run events = some relay) (own : OwnHellos server identity events)
    {client : ConnectedClient}
    (present : relay.clients.get (identity.uuid server.crypto) = some client) :
    client.decryptPubkey = identity.decryptPubkey server.crypto ∧
      server.crypto.importSpki (uncompressedP256ToSpki client.decryptPubkey) = true := by
  obtain ⟨hello, earlier, s, e, s', step, accepted, hash, key⟩ :=
    accepted_of_registered server ran present
  have spoken := own earlier s e s' _ _ hello step accepted hash
  refine ⟨?_, ?_⟩
  · rw [key, spoken, Identity.decryptPubkeyB64, base64Decode_base64Encode]
  · rw [key]
    exact imported_of_validateDecryptPubkey accepted.valid

/-! ### From the callback to the daemon -/

/-- The delivered object has the allow-listed parameters of the query with their
values, and nothing else. -/
theorem field_tokensJson (query : Query) (name : String) :
    (tokensJson (filterCallbackTokenFields query)).field name =
      if name ∈ ALLOWED_TOKEN_FIELDS then (query.get name).map QueryValue.toJson else none := by
  rw [tokensJson, Json.field, ← List.map_reverse, List.find?_map]
  cases found : (filterCallbackTokenFields query).reverse.find?
      ((fun member : String × Json => decide (member.1 = name)) ∘ fun entry =>
        (entry.1, entry.2.toJson)) with
  | some entry =>
      obtain ⟨key, value⟩ := entry
      have member := List.mem_of_find?_eq_some found
      have named := List.find?_some found
      simp only [Function.comp_apply, decide_eq_true_eq] at named
      obtain rfl := named
      simp only [filterCallbackTokenFields, List.mem_reverse, List.mem_filter,
        decide_eq_true_eq] at member
      rw [if_pos member.2, (query.mem_entries_iff key value).mp member.1]
      rfl
  | none =>
      have absent := List.find?_eq_none.mp found
      split
      · rename_i allowed
        cases present : query.get name with
        | none => rfl
        | some value =>
            have member : (name, value) ∈ (filterCallbackTokenFields query).reverse := by
              simp only [filterCallbackTokenFields, List.mem_reverse, List.mem_filter,
                decide_eq_true_eq]
              exact ⟨(query.mem_entries_iff name value).mpr present, allowed⟩
            exact absurd (by simp) (absent _ member)
      · rfl

/-- For a daemon that registered itself, a flow that was accepted for it and a
callback that is delivered with the flow's cookie: the encryption succeeds; an
envelope whose fields fit their length prefixes is signed and its JSON is the body
of the forward to the daemon; the daemon decrypts it to the allow-listed
parameters of the callback, and refuses every envelope that differs from it but
has its signature. -/
theorem token_delivery_round_trip {router : BrokerRouter} {keys : KeyPrimitives}
    (correct : router.crypto.GcmCorrect) (collisionFree : Function.Injective router.crypto.sha256)
    {identity : Identity} {random : DeliveryRandomness}
    (genuine : Genuine router.crypto keys router.brokerKey.privateKey identity.decryptKey
      random.ephemeral)
    {events : List Relay.Event} {relay : Relay.State}
    (ran : router.relay.machine.run events = some relay)
    (own : OwnHellos router.relay identity events)
    {provider : Option String} {authQuery : Query} {session : Option FlowSession}
    {authCheckedMs sealedMs : Nat} {iv : Bytes} {flow : Session} {cookie : FlowSession}
    {location : String} (ivLength : iv.length = IV_LEN)
    (accepted : router.handleAuth relay provider authQuery session authCheckedMs sealedMs iv =
      .redirected flow cookie location)
    (addressee : flow.relayUuid = identity.uuid router.crypto)
    {seen seen' : SeenSet} {query : Query} {checkedMs usedMs : Nat} {delivered : Session}
    {tokens : List (String × QueryValue)} {session' : Option FlowSession}
    (received : router.receiveCallback seen query (some cookie) checkedMs usedMs =
      (.consumed delivered tokens session', seen'))
    (nonceLength : random.iv.length = 12) :
    delivered = flow ∧
    router.buildDelivery delivered tokens random ≠ .encryptionFailed ∧
    (FieldsFit delivered tokens → ∃ payload body,
      router.buildDelivery delivered tokens random = .signed payload ∧
      (Json.parse (utf8Decode body)).bind readEnvelope = some payload ∧
      (∀ (s : Instance) req requestId id bufferedAmount,
        s.callbacks.get req = some (.encrypting delivered tokens session') →
        router.encrypted s req random requestId id bufferedAmount =
          (router.relay.step s.relay (.forward (identity.uuid router.crypto) "POST"
            "/hooks/oauth-complete" (deliveryHeaders requestId) body id bufferedAmount)).map
              fun relay' => (s.setRelay relay').setCallback req (.forwarding id session')) ∧
      decryptTokenEnvelope router.crypto keys payload identity
          (router.brokerKey.publicKeyBase64 keys) =
        .ok (tokensJson (filterCallbackTokenFields query)) ∧
      (∀ name, (tokensJson (filterCallbackTokenFields query)).field name =
        if name ∈ ALLOWED_TOKEN_FIELDS then (query.get name).map QueryValue.toJson else none) ∧
      ∀ tampered, tampered.brokerSig = payload.brokerSig → tampered ≠ payload →
        ∃ err, decryptTokenEnvelope router.crypto keys tampered identity
          (router.brokerKey.publicKeyBase64 keys) = .error err) := by
  obtain ⟨request, accepts, _, rfl, rfl, _⟩ := BrokerRouter.handleAuth_eq_redirected.mp accepted
  obtain ⟨⟨⟨token, tokenEq, opened⟩, _, _, _⟩, rfl⟩ :=
    BrokerRouter.consumes_of_receiveCallback received
  obtain rfl := Option.some.inj tokenEq
  -- The sealed cookie opens to the flow it was sealed for.
  rw [openFlowState_sealFlowState correct ivLength (request.flow_named sealedMs)] at opened
  obtain rfl := Option.some.inj opened
  -- Its key is the one the daemon said hello with.
  have uuid : request.relayUuid = identity.uuid router.crypto := addressee
  obtain ⟨key, imported⟩ := decryptPubkey_of_registered ran own (uuid ▸ accepts.registered)
  refine ⟨rfl, buildDelivery_ne_encryptionFailed genuine imported, ?_⟩
  intro fit
  have signed : ∃ payload, router.buildDelivery (request.flow sealedMs) _ random =
      .signed payload := buildDelivery_signed correct genuine imported nonceLength fit
  obtain ⟨payload, built⟩ := signed
  refine ⟨payload, utf8 (deliveryJson payload).stringify, built, ?_, ?_,
    decryptTokenEnvelope_signed correct genuine key built, field_tokensJson query,
    fun tampered sameSig altered =>
      decryptTokenEnvelope_tampered collisionFree genuine built sameSig altered⟩
  · rw [utf8Decode_utf8, Json.parse_stringify, Option.bind_some, readEnvelope_deliveryJson]
  · intro s req requestId id bufferedAmount present
    rw [← uuid]
    exact router.encrypted_of_signed present built requestId id bufferedAmount

/-! ### A delivery to a registered daemon -/

namespace Sample

open DicodeRelay.Broker.Sample DicodeRelay.Relay.Sample

/-- The issuers signatures: the sample's, and a stand-in for other data. -/
def brokerSignature (key data : Bytes) : Bytes :=
  if key = signingKey ∧ data = deliveryDigest then deliverySignature
  else data ++ List.replicate 80 0

/-- The sample's primitives, with the signing key's signatures and ECDH on every
point. -/
def complete : Primitives :=
  { Broker.Sample.primitives with
    computeSecret := fun key point =>
      if key = ephemeralKey ∧ point = decryptPointA then some sharedSecret else some []
    signSha256 := fun key data _ => brokerSignature key data
    verifySha256 := fun spki data signature =>
      some ((spki = uncompressedP256ToSpki signPointA ∧ data = authDigest ∧
          signature = authSignature) ∨
        (spki = uncompressedP256ToSpki decryptPointB ∧
          signature = brokerSignature signingKey data)) }

def keys : KeyPrimitives where
  deriveBits key point :=
    if key = scalar 2 ∧ point = signPointB then some sharedSecret else none
  exportSpki key := if key = signingKey then uncompressedP256ToSpki decryptPointB else []

def issuer : BrokerRouter := { Broker.Sample.router with
  relay := { Broker.Sample.router.relay with crypto := complete } }

theorem brokerSignature_injective {data other : Bytes}
    (equal : brokerSignature signingKey data = brokerSignature signingKey other) :
    data = other := by
  have short : deliverySignature.length < 80 := by decide +kernel
  have padded : ∀ bytes : Bytes, bytes ++ List.replicate 80 0 ≠ deliverySignature := by
    intro bytes same
    have lengths := congrArg List.length same
    rw [List.length_append, List.length_replicate] at lengths
    omega
  unfold brokerSignature at equal
  by_cases known : data = deliveryDigest <;> by_cases otherKnown : other = deliveryDigest <;>
    simp only [known, otherKnown, true_and, if_true, if_false] at equal
  · rw [known, otherKnown]
  · exact absurd equal.symm (padded other)
  · exact absurd equal (padded data)
  · exact List.append_cancel_right equal

theorem ciphertext_length_gcmVectors : ∀ v ∈ gcmVectors,
    v.sealed.ciphertext.length = v.plaintext.length := by
  have bytes : ∀ value : Json, utf8 value.stringify =
      value.write.flatMap String.utf8EncodeChar := by
    intro value
    rw [utf8, Json.stringify, String.toList_ofList]
  intro v member
  simp only [gcmVectors, List.mem_cons, List.not_mem_nil, or_false] at member
  rcases member with rfl | rfl
  · rw [flowPlaintext, bytes]
    decide +kernel
  · rw [bytes]
    decide +kernel

theorem genuine : Genuine complete keys signingKey (scalar 2) ephemeralKey where
  computes point _ := by
    simp only [complete]
    split <;> rfl
  agrees secret computed := by
    have point : complete.publicPoint (scalar 2) = decryptPointA := by decide +kernel
    have ephemeralPoint : complete.publicPoint ephemeralKey = signPointB := by decide +kernel
    rw [point] at computed
    rw [ephemeralPoint, ← computed]
    simp [complete, keys]
  verifies data nonce := by
    simp [complete, keys]
  binds data other nonce verified := by
    have different : uncompressedP256ToSpki decryptPointB ≠ uncompressedP256ToSpki signPointA := by
      decide +kernel
    have spki : keys.exportSpki signingKey = uncompressedP256ToSpki decryptPointB := if_pos rfl
    rw [spki] at verified
    rcases of_decide_eq_true (Option.some.inj verified) with auth | delivery
    · exact absurd auth.1 different
    · exact (brokerSignature_injective delivery.2).symm
  ciphertext_length key iv aad plaintext := by
    have same : complete.gcmEncrypt = gcmEncrypt := rfl
    rw [same, gcmEncrypt]
    split
    · rename_i v found
      have fields := List.find?_some found
      simp only [GcmVector.encrypts, decide_eq_true_eq] at fields
      rw [← fields.2.2.2]
      exact ciphertext_length_gcmVectors v (List.mem_of_find?_eq_some found)
    · rfl
  point_length := by decide +kernel

theorem complete_gcm : complete.GcmCorrect := ⟨gcm_correct.tag_length, gcm_correct.decrypt_encrypt⟩

theorem uuid_signPointA : complete.uuidFromP256Point signPointA = uuidA :=
  Broker.Sample.uuid_signPointA

/-- The daemon is registered by its hello. -/
theorem enrolled : ∃ relay, issuer.relay.machine.run admission = some relay ∧
    relay.Enrolled client :=
  Relay.Sample.enrols issuer.relay rfl rfl uuid_signPointA

theorem uuid_complete : identity.uuid complete = uuidA := by
  have point : identity.signPubkey complete = signPointA := by decide +kernel
  rw [Identity.uuid, point, uuid_signPointA]

/-- The one hello of the run is the daemon's. -/
theorem ownHellos : OwnHellos issuer.relay identity admission := by
  intro earlier s e s' ws certPoint hello step accepted _
  have key : identity.decryptPubkeyB64 complete = base64Encode decryptPointA := by decide +kernel
  obtain ⟨later, split⟩ := step.split
  obtain ⟨frame, rfl, read⟩ := accepted.delivered
  have member : Relay.Event.message ws frame ∈ admission := by simp [split]
  simp only [admission, List.mem_cons, Relay.Event.message.injEq, List.not_mem_nil, or_false,
    reduceCtorEq, false_or] at member
  obtain ⟨rfl, rfl⟩ := member
  obtain rfl := ClientMessage.hello.inj (Decoded.envelope.inj
    ((decode_helloFrame decryptPointA).symm.trans read))
  exact key.symm

theorem redirected {relay : Relay.State} (registered : relay.clients.get uuidA = some client) :
    issuer.handleAuth relay (some "github") (queryFor Broker.Sample.session) (some ⟨none⟩)
        (1000 * signedAt) (1000 * signedAt) flowIv =
      .redirected flow ⟨some (sealFlowState complete issuer.flowStateKey flowIv flow)⟩
        (requestFor Broker.Sample.session).redirectPath := by
  have fresh : ((1000 * signedAt / 1000 : Nat) - (signedAt : Int)).natAbs ≤ 30 := by decide
  have digest : complete.buildSignedPayload Broker.Sample.session challenge uuidA "github"
      signedAt = some authDigest := by
    rw [← digest_eq]
    rfl
  have verifies :
      complete.verifyECDSA signPointA authDigest (base64Encode authSignature) = true := by
    rw [Primitives.verifyECDSA, base64Decode_base64Encode]
    simp [complete]
  have accepted : issuer.checkAuth relay (some "github") (queryFor Broker.Sample.session)
      (1000 * signedAt) = .ok (requestFor Broker.Sample.session) :=
    accepted_by rfl rfl registered fresh (by decide) digest verifies
  exact BrokerRouter.handleAuth_eq_redirected.mpr
    ⟨_, BrokerRouter.checkAuth_eq_ok.mp accepted, rfl, rfl, rfl, rfl⟩

theorem consumed : issuer.receiveCallback ⟨300000, []⟩ callbackQuery
      (some ⟨some (sealFlowState complete issuer.flowStateKey flowIv flow)⟩)
      (1000 * signedAt) (1000 * signedAt) =
    (.consumed flow (filterCallbackTokenFields callbackQuery) (some ⟨none⟩),
      SeenSet.record ⟨300000, []⟩ Broker.Sample.session (1000 * signedAt)) := by
  have ivLength : flowIv.length = IV_LEN := by decide
  have named : flow.scope ≠ some "" := by simp [flow]
  have opened : openFlowState complete issuer.flowStateKey
      (sealFlowState complete issuer.flowStateKey flowIv flow) = some flow :=
    openFlowState_sealFlowState complete_gcm ivLength named
  refine BrokerRouter.receiveCallback_of_consumes ⟨⟨_, rfl, opened⟩, by decide +kernel, ?_, ?_⟩
    (by decide +kernel) (by decide +kernel)
  · simp [flow, FLOW_TTL_MS]
  · rfl

/-- The instance whose callback awaits its encryption. -/
def waiting (relay : Relay.State) : Instance where
  relay := relay
  seen := ⟨300000, []⟩
  callbacks := OrderedMap.empty.set 0
    (.encrypting flow (filterCallbackTokenFields callbackQuery) (some ⟨none⟩))

/-- The frame of the delivery with the given body. -/
def deliveryFrame (body : Bytes) : String :=
  jsonWire.encodeServer (.request (requestOf Relay.Sample.requestId "POST" "/hooks/oauth-complete"
    (deliveryHeaders "f47ac10b-58cc-4372-a567-0e02b2c3d479") body))

/-- The forward of the delivery goes to the daemon's socket. -/
theorem forwards {relay : Relay.State} (entered : relay.Enrolled client) (body : Bytes) :
    ∃ relay', issuer.relay.step relay (.forward uuidA "POST" "/hooks/oauth-complete"
        (deliveryHeaders "f47ac10b-58cc-4372-a567-0e02b2c3d479") body Relay.Sample.requestId 0) =
        some relay' ∧
      Relay.Effect.send 0 (deliveryFrame body) ∈ relay'.log := by
  have unissued : relay.issued.get Relay.Sample.requestId = none := by
    rw [entered.unissued]
    rfl
  have room : (relay.pendingByClient.get uuidA).getD 0 < issuer.relay.maxPendingPerClient := by
    rw [entered.unasked]
    decide
  have present : relay.clients.get uuidA = some client := entered.entry
  have stepped : issuer.relay.step relay (.forward uuidA "POST" "/hooks/oauth-complete"
      (deliveryHeaders "f47ac10b-58cc-4372-a567-0e02b2c3d479") body Relay.Sample.requestId 0) =
      some _ := if_pos (Option.isNone_iff_eq_none.mpr unissued)
  refine ⟨_, stepped, ?_⟩
  rw [forward_of_opened present (Nat.zero_le _) room entered.opened]
  exact List.mem_append_right _ (List.mem_singleton_self _)

end Sample

/-- The sample's callback is delivered to the daemon's socket, and the daemon
decrypts it. -/
theorem token_delivery_round_trip_sample : ∃ relay payload body delivered,
    Sample.issuer.relay.machine.run Relay.Sample.admission = some relay ∧
    Sample.issuer.buildDelivery Broker.Sample.flow
        (filterCallbackTokenFields Broker.Sample.callbackQuery) Broker.Sample.random =
      .signed payload ∧
    (Json.parse (utf8Decode body)).bind readEnvelope = some payload ∧
    Sample.issuer.encrypted (Sample.waiting relay) 0 Broker.Sample.random
        "f47ac10b-58cc-4372-a567-0e02b2c3d479" Relay.Sample.requestId 0 = some delivered ∧
    Relay.Effect.send 0 (Sample.deliveryFrame body) ∈ delivered.relay.log ∧
    decryptTokenEnvelope Sample.complete Sample.keys payload Sample.identity
        (Sample.issuer.brokerKey.publicKeyBase64 Sample.keys) =
      .ok (tokensJson (filterCallbackTokenFields Broker.Sample.callbackQuery)) := by
  obtain ⟨relay, ran, entered⟩ := Sample.enrolled
  have correct : Sample.issuer.crypto.GcmCorrect := Sample.complete_gcm
  have collisionFree : Function.Injective Sample.issuer.crypto.sha256 :=
    Broker.Sample.sha256_injective
  have genuine : Genuine Sample.issuer.crypto Sample.keys Sample.issuer.brokerKey.privateKey
      Sample.identity.decryptKey Broker.Sample.random.ephemeral := Sample.genuine
  have ivLength : Broker.Sample.flowIv.length = IV_LEN := by decide
  have nonceLength : Broker.Sample.random.iv.length = 12 := by decide
  have addressee : Broker.Sample.flow.relayUuid = Sample.identity.uuid Sample.issuer.crypto :=
    Sample.uuid_complete.symm
  have fit : FieldsFit Broker.Sample.flow
      (filterCallbackTokenFields Broker.Sample.callbackQuery) := ⟨by decide, by decide +kernel⟩
  obtain ⟨_, _, delivers⟩ := token_delivery_round_trip correct collisionFree genuine ran
    Sample.ownHellos ivLength (Sample.redirected entered.entry) addressee Sample.consumed
    nonceLength
  obtain ⟨payload, body, built, read, forwards, decrypted, _⟩ := delivers fit
  obtain ⟨relay', stepped, sent⟩ := Sample.forwards entered body
  have here := forwards (Sample.waiting relay) 0 "f47ac10b-58cc-4372-a567-0e02b2c3d479"
    Relay.Sample.requestId 0 rfl
  rw [← addressee] at here
  have moved : Sample.issuer.relay.step (Sample.waiting relay).relay _ = some relay' := stepped
  rw [show Broker.Sample.flow.relayUuid = Relay.Sample.uuidA from rfl, moved] at here
  exact ⟨relay, payload, body, _, ran, built, read, here, sent, decrypted⟩

end DicodeRelay.Client
