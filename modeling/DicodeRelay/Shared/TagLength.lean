import DicodeRelay.Lib.Buffers
import DicodeRelay.Shared.Crypto

/-!
Contract: the authentication tag that decryption of an envelope insists on.

Owns:
- decryption with a Node ECDH key, beside the one with a Web Crypto key;
- the two parts both hand to the cipher, at every length of the ciphertext;
- exactly which envelopes are accepted on the strength of a shorter tag.

Does not own: the signature over the envelope.
-/

namespace DicodeRelay.Shared

open DicodeRelay.Lib

/-! ### The two decryptions -/

/-- The ciphertext and the tag in a decoded ciphertext. -/
def splitTag (ciphertextWithTag : Bytes) : Bytes × Bytes :=
  (subarray ciphertextWithTag 0 (ciphertextWithTag.length - 16),
    subarray ciphertextWithTag (ciphertextWithTag.length - 16) ciphertextWithTag.length)

/-- `none` where one of the calls throws. -/
def Primitives.eciesDecrypt (crypto : Primitives) (daemonECDH : Bytes)
    (sessionId messageType : String) (payload : EciesPayload) : Option Bytes := do
  let ephPubBytes := base64Decode payload.ephemeralPubkey.toList
  let sharedSecret ← crypto.computeSecret daemonECDH ephPubBytes
  let encKey := crypto.hkdfSha256 sharedSecret (utf8 sessionId) (utf8 "dicode-oauth-token") 32
  let iv := base64Decode payload.nonce.toList
  let ciphertextWithTag := base64Decode payload.ciphertext.toList
  let (ct, authTag) := splitTag ciphertextWithTag
  crypto.gcmDecrypt encKey iv (utf8 messageType) ct authTag

theorem placeOf_eq_tagStart (bytes : Bytes) :
    placeOf bytes.length (bytes.length - 16) = tagStart bytes := by
  unfold placeOf tagStart
  split <;> split <;> omega

theorem splitTag_eq (bytes : Bytes) :
    splitTag bytes = (bytes.take (tagStart bytes), bytes.drop (tagStart bytes)) := by
  rw [splitTag, subarray_zero, subarray_length, placeOf_eq_tagStart]

/-- What both do once they have the shared secret. -/
def Primitives.openSealed (crypto : Primitives) (sessionId messageType : String)
    (payload : EciesPayload) (sharedSecret : Bytes) : Option Bytes :=
  crypto.gcmDecrypt
    (crypto.hkdfSha256 sharedSecret (utf8 sessionId) (utf8 "dicode-oauth-token") 32)
    (base64Decode payload.nonce.toList) (utf8 messageType)
    (splitTag (base64Decode payload.ciphertext.toList)).1
    (splitTag (base64Decode payload.ciphertext.toList)).2

theorem Primitives.eciesDecrypt_eq (crypto : Primitives) (daemonECDH : Bytes)
    (sessionId messageType : String) (payload : EciesPayload) :
    crypto.eciesDecrypt daemonECDH sessionId messageType payload =
      (crypto.computeSecret daemonECDH (base64Decode payload.ephemeralPubkey.toList)).bind
        (crypto.openSealed sessionId messageType payload) := rfl

theorem KeyPrimitives.eciesDecryptWebCrypto_eq (keys : KeyPrimitives) (crypto : Primitives)
    (decryptKey : Bytes) (sessionId messageType : String) (payload : EciesPayload) :
    keys.eciesDecryptWebCrypto crypto decryptKey sessionId messageType payload =
      (keys.deriveBits decryptKey (base64Decode payload.ephemeralPubkey.toList)).bind
        (crypto.openSealed sessionId messageType payload) := by
  unfold eciesDecryptWebCrypto Primitives.openSealed
  rw [splitTag_eq]
  rfl

/-! ### Tags -/

/-- The tag lengths that `setAuthTag` takes when no length is set. -/
def GCM_TAG_LENGTHS : List Nat := [4, 8, 12, 13, 14, 15, 16]

/-- AES-256-GCM where no tag length is set: a tag of a length that is taken
verifies if the full tag begins with it. `takes`: the nonces it works with. -/
structure Primitives.GcmTruncates (crypto : Primitives) (takes : Bytes → Prop) : Prop where
  key_length : ∀ secret salt info, (crypto.hkdfSha256 secret salt info 32).length = 32
  tag_length : ∀ key iv aad plaintext, (crypto.gcmEncrypt key iv aad plaintext).2.length = 16
  decrypts_iff : ∀ key iv aad ct tag plaintext, key.length = 32 →
    (crypto.gcmDecrypt key iv aad ct tag = some plaintext ↔
      takes iv ∧ tag.length ∈ GCM_TAG_LENGTHS ∧
        (crypto.gcmEncrypt key iv aad plaintext).1 = ct ∧
        tag <+: (crypto.gcmEncrypt key iv aad plaintext).2)

/-- The call fails, or it hands the cipher a whole tag and what comes before it. -/
def FullTag (payload : EciesPayload) (outcome : Option Bytes) : Prop :=
  outcome = none ∨
    ((splitTag (base64Decode payload.ciphertext.toList)).2.length = 16 ∧
      (splitTag (base64Decode payload.ciphertext.toList)).1 ++
        (splitTag (base64Decode payload.ciphertext.toList)).2 =
          base64Decode payload.ciphertext.toList)

/-- The lengths of a ciphertext and of the part of its tag behind it that the
split takes for a ciphertext and a tag. -/
def CUT_LENGTHS : List (Nat × Nat) := [(0, 4), (0, 8), (8, 4)]

/-- The payload is encrypted under the shared secret, but its tag is cut off: it is
of 4, 8 or 12 bytes. -/
def CutTag (crypto : Primitives) (takes : Bytes → Prop) (sessionId messageType : String)
    (payload : EciesPayload) (sharedSecret : Bytes) : Prop :=
  takes (base64Decode payload.nonce.toList) ∧ ∃ plaintext ct tag rest,
    crypto.gcmEncrypt
      (crypto.hkdfSha256 sharedSecret (utf8 sessionId) (utf8 "dicode-oauth-token") 32)
      (base64Decode payload.nonce.toList) (utf8 messageType) plaintext = (ct, tag ++ rest) ∧
    base64Decode payload.ciphertext.toList = ct ++ tag ∧ (ct.length, tag.length) ∈ CUT_LENGTHS

theorem append_splitTag (bytes : Bytes) : (splitTag bytes).1 ++ (splitTag bytes).2 = bytes := by
  rw [splitTag_eq]
  dsimp only
  rw [List.take_append_drop]

/-- The tag is a whole one or the bytes are too few for it; of the lengths that are
then left for the tag, the cipher takes those of `CUT_LENGTHS`. -/
theorem splitTag_lengths (bytes : Bytes) :
    (splitTag bytes).2.length = 16 ∨
      ((splitTag bytes).2.length < 16 ∧
        ((splitTag bytes).2.length ∈ GCM_TAG_LENGTHS →
          ((splitTag bytes).1.length, (splitTag bytes).2.length) ∈ CUT_LENGTHS)) := by
  rw [splitTag_eq]
  simp only [List.length_drop, List.length_take]
  unfold tagStart
  by_cases long : 16 ≤ bytes.length
  · left
    rw [if_pos long]
    omega
  · right
    rw [if_neg long]
    refine ⟨by omega, ?_⟩
    simp only [GCM_TAG_LENGTHS, CUT_LENGTHS, List.mem_cons, List.not_mem_nil, or_false,
      Prod.mk.injEq]
    omega

/-- A ciphertext and a tag of such lengths are split where they were joined. -/
theorem splitTag_append {ct tag : Bytes} (cut : (ct.length, tag.length) ∈ CUT_LENGTHS) :
    splitTag (ct ++ tag) = (ct, tag) := by
  have place : tagStart (ct ++ tag) = ct.length := by
    simp only [CUT_LENGTHS, List.mem_cons, List.not_mem_nil, or_false, Prod.mk.injEq] at cut
    unfold tagStart
    rw [List.length_append]
    split <;> omega
  rw [splitTag_eq, place, List.take_left, List.drop_left]

theorem fullTag_openSealed_iff {crypto : Primitives} {takes : Bytes → Prop}
    (truncates : crypto.GcmTruncates takes) (sessionId messageType : String)
    (payload : EciesPayload) (sharedSecret : Bytes) :
    FullTag payload (crypto.openSealed sessionId messageType payload sharedSecret) ↔
      ¬CutTag crypto takes sessionId messageType payload sharedSecret := by
  have opens := fun plaintext => truncates.decrypts_iff
    (crypto.hkdfSha256 sharedSecret (utf8 sessionId) (utf8 "dicode-oauth-token") 32)
    (base64Decode payload.nonce.toList) (utf8 messageType)
    (splitTag (base64Decode payload.ciphertext.toList)).1
    (splitTag (base64Decode payload.ciphertext.toList)).2 plaintext (truncates.key_length _ _ _)
  constructor
  · rintro full ⟨taken, plaintext, ct, tag, rest, encrypted, decoded, cut⟩
    have split := splitTag_append cut
    rw [← decoded] at split
    have short : tag.length ∈ GCM_TAG_LENGTHS ∧ tag.length ≠ 16 := by
      simp only [CUT_LENGTHS, List.mem_cons, List.not_mem_nil, or_false, Prod.mk.injEq] at cut
      simp only [GCM_TAG_LENGTHS, List.mem_cons, List.not_mem_nil, or_false]
      omega
    rcases full with failed | ⟨whole, _⟩
    · have accepted := (opens plaintext).mpr (by
        rw [split, encrypted]
        exact ⟨taken, short.1, rfl, List.prefix_append _ _⟩)
      exact Option.some_ne_none _ (accepted.symm.trans failed)
    · rw [split] at whole
      exact short.2 whole
  · intro uncut
    cases outcome : crypto.openSealed sessionId messageType payload sharedSecret with
    | none => exact Or.inl rfl
    | some plaintext =>
        obtain ⟨taken, length, ciphertext, rest, full⟩ := (opens plaintext).mp outcome
        have joined := append_splitTag (base64Decode payload.ciphertext.toList)
        rcases splitTag_lengths (base64Decode payload.ciphertext.toList) with whole | ⟨_, cut⟩
        · exact Or.inr ⟨whole, joined⟩
        · exact absurd ⟨taken, plaintext, _, _, rest, Prod.ext ciphertext full.symm, joined.symm,
            cut length⟩ uncut

/-- A decryption with either key fails or hands the cipher a whole tag, if and only
if the key has no shared secret under which the payload's tag is cut off. -/
theorem full_tag_iff {crypto : Primitives} {takes : Bytes → Prop}
    (truncates : crypto.GcmTruncates takes) (keys : KeyPrimitives) (key : Bytes)
    (sessionId messageType : String) (payload : EciesPayload) :
    (FullTag payload (crypto.eciesDecrypt key sessionId messageType payload) ↔
      ∀ secret, crypto.computeSecret key (base64Decode payload.ephemeralPubkey.toList) =
        some secret → ¬CutTag crypto takes sessionId messageType payload secret) ∧
    (FullTag payload (keys.eciesDecryptWebCrypto crypto key sessionId messageType payload) ↔
      ∀ secret, keys.deriveBits key (base64Decode payload.ephemeralPubkey.toList) =
        some secret → ¬CutTag crypto takes sessionId messageType payload secret) := by
  have either : ∀ derived : Option Bytes,
      FullTag payload (derived.bind (crypto.openSealed sessionId messageType payload)) ↔
        ∀ secret, derived = some secret →
          ¬CutTag crypto takes sessionId messageType payload secret := by
    intro derived
    cases derived with
    | none => exact iff_of_true (Or.inl rfl) (by simp)
    | some secret =>
        rw [Option.bind_some, fullTag_openSealed_iff truncates]
        simp only [Option.some.injEq, forall_eq']
  rw [crypto.eciesDecrypt_eq, keys.eciesDecryptWebCrypto_eq]
  exact ⟨either _, either _⟩

/-! ### A tag of four bytes -/

namespace Sample

@[irreducible] def pointOfThree : Bytes :=
  4 :: hexDecode
    ("5ecbe4d1a6330a44c8f7ef951d4bf165e6c6b721efada985fb41661bc6e7fd6c".toList ++
      "8734640c4998ff7e374b06ce1a64a2ecd82ab036384fb83d9a79b127a27d5032".toList)

/-- What ECDH makes of that point and the private key 2. -/
@[irreducible] def secretOfTwo : Bytes :=
  hexDecode "b01a172a76a4602c92d3242cb897dde3024c740debb215b4c6b0aae93c2291a9".toList

def keyOfTwo : Bytes := List.replicate 31 0 ++ [2]

def saltOfTwo : String := "1b4e28ba-2fa1-41d2-883f-0016d3cca427"

@[irreducible] def keyOfSecret : Bytes :=
  hexDecode "2482089477b0682f77f0ffa39558f356426435186325d2988f8f33d944491e74".toList

def nonce : Bytes := hexDecode "0c0d0e0f1011121314151617".toList

/-- The tag of the empty plaintext under the derived key. -/
def emptyTag : Bytes := hexDecode "1d95cb83ccc4ea6c2c736386a6e6a111".toList

/-- The tag of the sample's encryption, and of those it does not make. -/
def tagOf (key iv aad plaintext : Bytes) : Bytes :=
  if key = keyOfSecret ∧ iv = nonce ∧ aad = utf8 "oauth_token_delivery" ∧ plaintext = [] then
    emptyTag
  else List.replicate 16 0

/-- What the decryption calls, on the sample's keys. -/
def truncating : Primitives where
  sha256 := id
  importSpki _ := true
  verifySha256 _ _ _ := none
  signSha256 _ _ _ := []
  signP1363 _ _ _ := []
  publicPoint _ := pointOfThree
  computeSecret key point :=
    if key = keyOfTwo ∧ point = pointOfThree then some secretOfTwo else none
  hkdfSha256 secret salt info length :=
    if secret = secretOfTwo ∧ salt = utf8 saltOfTwo ∧ info = utf8 "dicode-oauth-token" ∧
        length = 32 then keyOfSecret
    else List.replicate length 0
  gcmEncrypt key iv aad plaintext := (plaintext, tagOf key iv aad plaintext)
  gcmDecrypt key iv aad ct tag :=
    if iv ≠ [] ∧ tag.length ∈ GCM_TAG_LENGTHS ∧ tag <+: tagOf key iv aad ct then some ct
    else none

theorem truncates : truncating.GcmTruncates (· ≠ []) where
  key_length secret salt info := by
    simp only [truncating]
    split
    · decide +kernel
    · rfl
  tag_length key iv aad plaintext := by
    simp only [truncating, tagOf]
    split
    · decide +kernel
    · rfl
  decrypts_iff key iv aad ct tag plaintext _ := by
    simp only [truncating, Option.ite_none_right_eq_some, Option.some.injEq]
    constructor
    · rintro ⟨⟨taken, length, start⟩, rfl⟩
      exact ⟨taken, length, rfl, start⟩
    · rintro ⟨taken, length, rfl, start⟩
      exact ⟨⟨taken, length, start⟩, rfl⟩

def webKeys : KeyPrimitives where
  deriveBits key point :=
    if key = keyOfTwo ∧ point = pointOfThree then some secretOfTwo else none
  exportSpki := id

/-- The payload whose ciphertext is the tag, as far as its first `length` bytes. -/
def tagOnly (length : Nat) : EciesPayload where
  ephemeralPubkey := base64Encode pointOfThree
  ciphertext := base64Encode (emptyTag.take length)
  nonce := base64Encode nonce

theorem split_tagOnly : splitTag (base64Decode (tagOnly 4).ciphertext.toList) =
    ([], emptyTag.take 4) := by
  rw [tagOnly, base64Decode_base64Encode]
  decide +kernel

theorem opens_tagOnly : truncating.openSealed saltOfTwo "oauth_token_delivery" (tagOnly 4)
    secretOfTwo = some [] := by
  have key : truncating.hkdfSha256 secretOfTwo (utf8 saltOfTwo) (utf8 "dicode-oauth-token") 32 =
      keyOfSecret := if_pos ⟨rfl, rfl, rfl, rfl⟩
  have taken : base64Decode (tagOnly 4).nonce.toList = nonce := base64Decode_base64Encode _
  have tag : tagOf keyOfSecret nonce (utf8 "oauth_token_delivery") [] = emptyTag :=
    if_pos ⟨rfl, rfl, rfl, rfl⟩
  have four : (emptyTag.take 4).length ∈ GCM_TAG_LENGTHS := by decide +kernel
  have nonempty : nonce ≠ [] := by decide +kernel
  rw [Primitives.openSealed, key, taken, split_tagOnly]
  refine if_pos ⟨nonempty, four, ?_⟩
  rw [tag]
  exact List.take_prefix _ _

theorem decrypt_tagOnly :
    truncating.eciesDecrypt keyOfTwo saltOfTwo "oauth_token_delivery" (tagOnly 4) = some [] := by
  have secret : truncating.computeSecret keyOfTwo
      (base64Decode (tagOnly 4).ephemeralPubkey.toList) = some secretOfTwo := by
    rw [tagOnly, base64Decode_base64Encode]
    exact if_pos ⟨rfl, rfl⟩
  rw [Primitives.eciesDecrypt_eq, secret, Option.bind_some, opens_tagOnly]

theorem decryptWebCrypto_tagOnly :
    webKeys.eciesDecryptWebCrypto truncating keyOfTwo saltOfTwo "oauth_token_delivery"
      (tagOnly 4) = some [] := by
  have secret : webKeys.deriveBits keyOfTwo
      (base64Decode (tagOnly 4).ephemeralPubkey.toList) = some secretOfTwo := by
    rw [tagOnly, base64Decode_base64Encode]
    exact if_pos ⟨rfl, rfl⟩
  rw [KeyPrimitives.eciesDecryptWebCrypto_eq, secret, Option.bind_some, opens_tagOnly]

end Sample

/-- Sixteen bytes are a whole tag. -/
theorem full_tag_sixteen :
    FullTag (Sample.tagOnly 16) (Sample.truncating.eciesDecrypt Sample.keyOfTwo Sample.saltOfTwo
      "oauth_token_delivery" (Sample.tagOnly 16)) := by
  refine (full_tag_iff Sample.truncates Sample.webKeys Sample.keyOfTwo Sample.saltOfTwo
    "oauth_token_delivery" (Sample.tagOnly 16)).1.mpr ?_
  rintro secret _ ⟨_, _, ct, tag, _, _, decoded, cut⟩
  have sixteen : (base64Decode (Sample.tagOnly 16).ciphertext.toList).length = 16 := by
    rw [Sample.tagOnly, base64Decode_base64Encode]
    decide +kernel
  rw [decoded, List.length_append] at sixteen
  simp only [CUT_LENGTHS, List.mem_cons, List.not_mem_nil, or_false, Prod.mk.injEq] at cut
  omega

/-- Four bytes of it are accepted as well, by both decryptions. -/
theorem four_byte_tag_accepted :
    Sample.truncating.eciesDecrypt Sample.keyOfTwo Sample.saltOfTwo "oauth_token_delivery"
        (Sample.tagOnly 4) = some [] ∧
      ¬FullTag (Sample.tagOnly 4) (Sample.truncating.eciesDecrypt Sample.keyOfTwo
        Sample.saltOfTwo "oauth_token_delivery" (Sample.tagOnly 4)) ∧
      ¬FullTag (Sample.tagOnly 4) (Sample.webKeys.eciesDecryptWebCrypto Sample.truncating
        Sample.keyOfTwo Sample.saltOfTwo "oauth_token_delivery" (Sample.tagOnly 4)) := by
  have short : (splitTag (base64Decode (Sample.tagOnly 4).ciphertext.toList)).2.length ≠ 16 := by
    rw [Sample.split_tagOnly]
    decide +kernel
  rw [Sample.decrypt_tagOnly, Sample.decryptWebCrypto_tagOnly]
  have accepted : ¬FullTag (Sample.tagOnly 4) (some []) := by
    rintro (failed | ⟨whole, _⟩)
    · exact Option.some_ne_none _ failed
    · exact short whole
  exact ⟨rfl, accepted, accepted⟩

end DicodeRelay.Shared
