import DicodeRelay.Shared.Signing

/-!
Contract: the two kinds of preimages that are hashed for a signature.

Owns:
- that a delivery preimage belongs to one envelope and to no auth request;
- that a digest does too, unless two byte strings collide.

Does not own: which auth requests share a preimage; whether a signature verifies.
-/

namespace DicodeRelay.Shared

open DicodeRelay.Lib

/-- Every field fits its length prefix. -/
theorem deliveryPreimage_isSome {type sessionId ephemeralPubkey ciphertext nonce : String}
    (fits : ∀ field ∈ [type, sessionId, ephemeralPubkey, ciphertext, nonce],
      (utf8 field).length < 2 ^ 32) :
    ∃ preimage, deliveryPreimage type sessionId ephemeralPubkey ciphertext nonce =
      some preimage := by
  have framed : ∀ field ∈ [type, sessionId, ephemeralPubkey, ciphertext, nonce],
      lengthPrefixed (utf8 field) = some (frame (utf8 field)) :=
    fun field member => if_pos (fits field member)
  rw [deliveryPreimage, mapM_eq_some_map framed]
  exact ⟨_, rfl⟩

theorem label_of_deliveryPreimage {type sessionId ephemeralPubkey ciphertext nonce : String}
    {preimage : Bytes}
    (built : deliveryPreimage type sessionId ephemeralPubkey ciphertext nonce = some preimage) :
    DELIVERY_LABEL <+: preimage := by
  obtain ⟨fields, _, rfl⟩ := Option.map_eq_some_iff.mp built
  exact List.prefix_append _ _

theorem label_of_signedPreimage {sessionId pkceChallenge relayUuid provider : String}
    {timestamp : Int} {preimage : Bytes}
    (built : signedPreimage sessionId pkceChallenge relayUuid provider timestamp =
      some preimage) : AUTH_REQUEST_LABEL <+: preimage := by
  unfold signedPreimage at built
  split at built
  · simp only [Option.bind_eq_bind, Option.bind_some, Option.bind_eq_some_iff] at built
    obtain ⟨session, _, challenge, _, uuid, _, name, _, equal⟩ := built
    rw [← Option.some.inj equal]
    simp only [List.append_assoc]
    exact List.prefix_append _ _
  · simp at built

/-- The labels part the two kinds. -/
theorem deliveryPreimage_ne_signedPreimage
    {type session₁ ephemeralPubkey ciphertext nonce session₂ challenge uuid provider : String}
    {timestamp : Int} {preimage : Bytes}
    (delivery : deliveryPreimage type session₁ ephemeralPubkey ciphertext nonce = some preimage) :
    signedPreimage session₂ challenge uuid provider timestamp ≠ some preimage := by
  intro auth
  rcases List.prefix_or_prefix_of_prefix (label_of_deliveryPreimage delivery)
    (label_of_signedPreimage auth) with shorter | shorter
  · exact absurd shorter (by decide +kernel)
  · exact absurd shorter (by decide +kernel)

/-- Two byte strings with one digest. -/
def Primitives.Collides (crypto : Primitives) : Prop :=
  ∃ left right, left ≠ right ∧ crypto.sha256 left = crypto.sha256 right

/-- The preimage of an envelope belongs to no other envelope and to no auth request.
A digest it shares with one is a collision. -/
theorem delivery_preimage_binds
    {type₁ session₁ pubkey₁ ciphertext₁ nonce₁ type₂ session₂ pubkey₂ ciphertext₂ nonce₂ : String}
    (fits₁ : ∀ field ∈ [type₁, session₁, pubkey₁, ciphertext₁, nonce₁],
      (utf8 field).length < 2 ^ 32)
    (fits₂ : ∀ field ∈ [type₂, session₂, pubkey₂, ciphertext₂, nonce₂],
      (utf8 field).length < 2 ^ 32) :
    ∃ preimage₁ preimage₂,
      deliveryPreimage type₁ session₁ pubkey₁ ciphertext₁ nonce₁ = some preimage₁ ∧
      deliveryPreimage type₂ session₂ pubkey₂ ciphertext₂ nonce₂ = some preimage₂ ∧
      (preimage₁ = preimage₂ → type₁ = type₂ ∧ session₁ = session₂ ∧ pubkey₁ = pubkey₂ ∧
        ciphertext₁ = ciphertext₂ ∧ nonce₁ = nonce₂) ∧
      (∀ session challenge uuid provider timestamp,
        signedPreimage session challenge uuid provider timestamp ≠ some preimage₁) ∧
      ∀ (crypto : Primitives) (digest : Bytes),
        crypto.buildDeliverySignaturePayload type₁ session₁ pubkey₁ ciphertext₁ nonce₁ =
          some digest →
        (crypto.buildDeliverySignaturePayload type₂ session₂ pubkey₂ ciphertext₂ nonce₂ =
            some digest → (type₁ = type₂ ∧ session₁ = session₂ ∧ pubkey₁ = pubkey₂ ∧
              ciphertext₁ = ciphertext₂ ∧ nonce₁ = nonce₂) ∨ crypto.Collides) ∧
        ∀ session challenge uuid provider timestamp,
          crypto.buildSignedPayload session challenge uuid provider timestamp = some digest →
            crypto.Collides := by
  obtain ⟨preimage₁, built₁⟩ := deliveryPreimage_isSome fits₁
  obtain ⟨preimage₂, built₂⟩ := deliveryPreimage_isSome fits₂
  have injective : preimage₁ = preimage₂ → type₁ = type₂ ∧ session₁ = session₂ ∧
      pubkey₁ = pubkey₂ ∧ ciphertext₁ = ciphertext₂ ∧ nonce₁ = nonce₂ := by
    rintro rfl
    simpa using deliveryPreimage_injective built₁ built₂
  refine ⟨preimage₁, preimage₂, built₁, built₂, injective,
    fun _ _ _ _ _ => deliveryPreimage_ne_signedPreimage built₁, ?_⟩
  intro crypto digest hashed₁
  rw [Primitives.buildDeliverySignaturePayload_eq, built₁, Option.map_some,
    Option.some.injEq] at hashed₁
  constructor
  · intro hashed₂
    rw [Primitives.buildDeliverySignaturePayload_eq, built₂, Option.map_some,
      Option.some.injEq] at hashed₂
    by_cases same : preimage₁ = preimage₂
    · exact Or.inl (injective same)
    · exact Or.inr ⟨preimage₁, preimage₂, same, hashed₁.trans hashed₂.symm⟩
  · intro session challenge uuid provider timestamp signed
    obtain ⟨preimage, built, hashed⟩ := Option.map_eq_some_iff.mp signed
    refine ⟨preimage₁, preimage, ?_, hashed₁.trans hashed.symm⟩
    rintro rfl
    exact deliveryPreimage_ne_signedPreimage built₁ built

/-- A boundary that moves between two fields changes the preimage. -/
theorem delivery_preimage_binds_boundary :
    deliveryPreimage "ab" "c" "d" "e" "f" ≠ deliveryPreimage "a" "bc" "d" "e" "f" := by
  have fits₁ : ∀ field ∈ ["ab", "c", "d", "e", "f"], (utf8 field).length < 2 ^ 32 := by decide
  have fits₂ : ∀ field ∈ ["a", "bc", "d", "e", "f"], (utf8 field).length < 2 ^ 32 := by decide
  obtain ⟨preimage₁, preimage₂, built₁, built₂, injective, _⟩ :=
    delivery_preimage_binds fits₁ fits₂
  intro same
  rw [built₁, built₂] at same
  exact absurd (injective (Option.some.inj same)).1 (by decide)

end DicodeRelay.Shared
