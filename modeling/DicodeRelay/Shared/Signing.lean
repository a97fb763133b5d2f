import DicodeRelay.Shared.Crypto

/-!
Contract: the broker's signing key and the delivery signature.

Owns:
- the key that seals flow states, derived from the signing key, so that
  instances with one signing key derive one sealing key;
- the delivery envelope, the digest its signature is over and the check of that
  signature.

Does not own: loading or generating the signing key.
-/

namespace DicodeRelay.Shared

open DicodeRelay.Lib

structure BrokerSigningKey where
  /-- The private key, PKCS8 DER. -/
  privateKey : Bytes
deriving DecidableEq

/-- HKDF domain label for the key that seals the flow-state token. -/
def FLOW_STATE_KEY_LABEL : String := "dicode/oauth-flow-state/v1"

/-- HKDF domain label for the cookie-session signing key. -/
def FLOW_COOKIE_KEY_LABEL : String := "dicode/oauth-flow-cookie/v1"

namespace BrokerSigningKey

def flowStateKey (crypto : Primitives) (key : BrokerSigningKey) : Bytes :=
  crypto.hkdfSha256 key.privateKey [] (utf8 FLOW_STATE_KEY_LABEL) 32

/-- The keys that sign the cookie of an OAuth flow. -/
def cookieKeys (crypto : Primitives) (key : BrokerSigningKey) : List String :=
  [base64urlEncode (crypto.hkdfSha256 key.privateKey [] (utf8 FLOW_COOKIE_KEY_LABEL) 32)]

/-- A base64 DER signature; `nonce` is what the signer draws. -/
def sign (crypto : Primitives) (key : BrokerSigningKey) (data nonce : Bytes) : String :=
  base64Encode (crypto.signSha256 key.privateKey data nonce)

/-- What the welcome announces. -/
def publicKeyBase64 (keys : KeyPrimitives) (key : BrokerSigningKey) : String :=
  base64Encode (keys.exportSpki key.privateKey)

end BrokerSigningKey

structure OAuthTokenDeliveryPayload where
  type : String
  sessionId : String
  ephemeralPubkey : String
  ciphertext : String
  nonce : String
  brokerSig : Option String
deriving DecidableEq

/-- Domain-separation label for the delivery-envelope signature. -/
def DELIVERY_LABEL : Bytes := utf8 "dicode/oauth-token-delivery/v4"

/-- `none` where a length prefix does not fit. -/
def Primitives.buildDeliverySignaturePayload (crypto : Primitives)
    (type sessionId ephemeralPubkey ciphertext nonce : String) : Option Bytes := do
  let fields ← [type, sessionId, ephemeralPubkey, ciphertext, nonce].mapM fun field =>
    lengthPrefixed (utf8 field)
  return crypto.sha256 (DELIVERY_LABEL ++ fields.flatten)

/-- `none` where a call throws. -/
def Primitives.verifyDeliverySignature (crypto : Primitives)
    (publicKeyBase64 sig type sessionId ephemeralPubkey ciphertext nonce : String) :
    Option Bool := do
  let pubKeyDer := base64Decode publicKeyBase64.toList
  let payload ← crypto.buildDeliverySignaturePayload type sessionId ephemeralPubkey ciphertext nonce
  crypto.verifySha256 pubKeyDer payload (base64Decode sig.toList)

theorem mapM_lengthPrefixed {fields : List String} {framed : List Bytes}
    (built : (fields.mapM fun field => lengthPrefixed (utf8 field)) = some framed) :
    (∀ field ∈ fields.map utf8, field.length < 2 ^ 32) ∧
      framed = (fields.map utf8).map frame := by
  induction fields generalizing framed with
  | nil =>
      obtain rfl := Option.some.inj built
      simp
  | cons field rest inductionHypothesis =>
      rw [List.mapM_cons] at built
      obtain ⟨first, fits, built⟩ := Option.bind_eq_some_iff.mp built
      obtain ⟨others, restBuilt, same⟩ := Option.bind_eq_some_iff.mp built
      obtain rfl := Option.some.inj same
      obtain ⟨restFits, rfl⟩ := inductionHypothesis restBuilt
      obtain ⟨short, rfl⟩ := lengthPrefixed_eq_some fits
      exact ⟨List.forall_mem_cons.mpr ⟨short, restFits⟩, rfl⟩

/-- What the digest of an envelope is taken of. -/
def deliveryPreimage (type sessionId ephemeralPubkey ciphertext nonce : String) : Option Bytes :=
  ([type, sessionId, ephemeralPubkey, ciphertext, nonce].mapM fun field =>
    lengthPrefixed (utf8 field)).map fun fields => DELIVERY_LABEL ++ fields.flatten

theorem Primitives.buildDeliverySignaturePayload_eq (crypto : Primitives)
    (type sessionId ephemeralPubkey ciphertext nonce : String) :
    crypto.buildDeliverySignaturePayload type sessionId ephemeralPubkey ciphertext nonce =
      (deliveryPreimage type sessionId ephemeralPubkey ciphertext nonce).map crypto.sha256 := by
  unfold buildDeliverySignaturePayload deliveryPreimage
  cases [type, sessionId, ephemeralPubkey, ciphertext, nonce].mapM fun field =>
      lengthPrefixed (utf8 field) with
  | none => rfl
  | some fields => rfl

/-- Fields below 2^32 bytes have a digest. -/
theorem Primitives.buildDeliverySignaturePayload_of_fits (crypto : Primitives)
    {type sessionId ephemeralPubkey ciphertext nonce : String}
    (fits : ∀ field ∈ [type, sessionId, ephemeralPubkey, ciphertext, nonce],
      (utf8 field).length < 2 ^ 32) :
    ∃ digest, crypto.buildDeliverySignaturePayload type sessionId ephemeralPubkey ciphertext
      nonce = some digest := by
  have framed : ∀ field ∈ [type, sessionId, ephemeralPubkey, ciphertext, nonce],
      lengthPrefixed (utf8 field) = some (frame (utf8 field)) :=
    fun field member => if_pos (fits field member)
  rw [buildDeliverySignaturePayload, mapM_eq_some_map framed]
  exact ⟨_, rfl⟩

/-- One preimage belongs to one list of fields. -/
theorem deliveryPreimage_injective
    {type₁ session₁ pubkey₁ ciphertext₁ nonce₁ type₂ session₂ pubkey₂ ciphertext₂ nonce₂ : String}
    {preimage : Bytes}
    (built₁ : deliveryPreimage type₁ session₁ pubkey₁ ciphertext₁ nonce₁ = some preimage)
    (built₂ : deliveryPreimage type₂ session₂ pubkey₂ ciphertext₂ nonce₂ = some preimage) :
    [type₁, session₁, pubkey₁, ciphertext₁, nonce₁] =
      [type₂, session₂, pubkey₂, ciphertext₂, nonce₂] := by
  obtain ⟨framed₁, fields₁, same₁⟩ := Option.map_eq_some_iff.mp built₁
  obtain ⟨framed₂, fields₂, same₂⟩ := Option.map_eq_some_iff.mp built₂
  obtain ⟨fits₁, rfl⟩ := mapM_lengthPrefixed fields₁
  obtain ⟨fits₂, rfl⟩ := mapM_lengthPrefixed fields₂
  have encoded := frames_injective fits₁ fits₂ (by simp)
    (List.append_cancel_left (same₁.trans same₂.symm))
  exact utf8_injective.list_map encoded

/-- One digest belongs to one list of fields, unless the hash collides. -/
theorem deliveryDigest_injective {crypto : Primitives}
    (collisionFree : Function.Injective crypto.sha256)
    {type₁ session₁ pubkey₁ ciphertext₁ nonce₁ type₂ session₂ pubkey₂ ciphertext₂ nonce₂ : String}
    {digest : Bytes}
    (built₁ : crypto.buildDeliverySignaturePayload type₁ session₁ pubkey₁ ciphertext₁ nonce₁ =
      some digest)
    (built₂ : crypto.buildDeliverySignaturePayload type₂ session₂ pubkey₂ ciphertext₂ nonce₂ =
      some digest) :
    [type₁, session₁, pubkey₁, ciphertext₁, nonce₁] =
      [type₂, session₂, pubkey₂, ciphertext₂, nonce₂] := by
  rw [Primitives.buildDeliverySignaturePayload_eq, Option.map_eq_some_iff] at built₁ built₂
  obtain ⟨preimage₁, fields₁, hashed₁⟩ := built₁
  obtain ⟨preimage₂, fields₂, hashed₂⟩ := built₂
  obtain rfl := collisionFree (hashed₁.trans hashed₂.symm)
  exact deliveryPreimage_injective fields₁ fields₂

end DicodeRelay.Shared
