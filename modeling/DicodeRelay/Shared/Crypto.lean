import DicodeRelay.Lib.Base64
import DicodeRelay.Lib.Hex

/-!
Contract: the preimages and envelopes of the OAuth broker's cryptography.

Owns:
- the primitives of the host's crypto library, as a parameter;
- the auth-request preimage and its digest;
- ECDSA verification over a raw P-256 point;
- ECIES encryption of a delivery, and its decryption with a Web Crypto key.

Does not own: certificates; the delivery signature.
-/

namespace DicodeRelay.Shared

open DicodeRelay.Lib

/-- The primitives of the host's crypto library. Where a call throws, the
answer is `none`; randomness is an argument. -/
structure Primitives where
  sha256 : Bytes → Bytes
  /-- `createPublicKey({ format: "der", type: "spki" })` accepts the key. -/
  importSpki : Bytes → Bool
  /-- `createVerify("SHA256").update(data).verify(spki, signature)`. -/
  verifySha256 : (spki data signature : Bytes) → Option Bool
  /-- `createSign("SHA256").update(data).sign(key)`, DER. -/
  signSha256 : (key data nonce : Bytes) → Bytes
  /-- `subtle.sign({ name: "ECDSA", hash: "SHA-256" }, key, data)`: r and s. -/
  signP1363 : (key data nonce : Bytes) → Bytes
  /-- The uncompressed point of a private key. -/
  publicPoint : Bytes → Bytes
  /-- `ECDH.computeSecret`. -/
  computeSecret : (key point : Bytes) → Option Bytes
  hkdfSha256 : (secret salt info : Bytes) → (length : Nat) → Bytes
  /-- AES-256-GCM, answering the ciphertext and the tag. -/
  gcmEncrypt : (key iv aad plaintext : Bytes) → Bytes × Bytes
  gcmDecrypt : (key iv aad ciphertext tag : Bytes) → Option Bytes

/-- AES-256-GCM decrypts what it encrypted, and its tag has sixteen bytes. -/
structure Primitives.GcmCorrect (crypto : Primitives) : Prop where
  tag_length : ∀ key iv aad plaintext, (crypto.gcmEncrypt key iv aad plaintext).2.length = 16
  decrypt_encrypt : ∀ key iv aad plaintext,
    crypto.gcmDecrypt key iv aad (crypto.gcmEncrypt key iv aad plaintext).1
      (crypto.gcmEncrypt key iv aad plaintext).2 = some plaintext

/-! ### The auth-request preimage -/

/-- Domain-separation label for the auth-request signature. -/
def AUTH_REQUEST_LABEL : Bytes := utf8 "dicode/oauth-auth-request/v4"

/-- `writeUInt32BE` throws on a length that does not fit. -/
def lengthPrefixed (field : Bytes) : Option Bytes :=
  if field.length < 2 ^ 32 then some (frame field) else none

theorem lengthPrefixed_eq_some {field framed : Bytes}
    (fits : lengthPrefixed field = some framed) : field.length < 2 ^ 32 ∧ framed = frame field := by
  unfold lengthPrefixed at fits
  split at fits
  · rename_i short
    exact ⟨short, (Option.some.inj fits).symm⟩
  · contradiction

/-- The session id without its dashes. -/
def stripDashes (sessionId : List Char) : List Char := sessionId.filter (· != '-')

/-- What the digest is taken of. `none` where a write throws: a field of
2^32 bytes or more, a timestamp outside the unsigned 64-bit range. -/
def signedPreimage (sessionId pkceChallenge relayUuid provider : String) (timestamp : Int) :
    Option Bytes := do
  let ts ← if 0 ≤ timestamp ∧ timestamp < 2 ^ 64 then some (bigEndian 8 timestamp.toNat) else none
  let session ← lengthPrefixed (hexDecode (stripDashes sessionId.toList))
  let challenge ← lengthPrefixed (base64Decode pkceChallenge.toList)
  let uuid ← lengthPrefixed (hexDecode relayUuid.toList)
  let name ← lengthPrefixed (utf8 provider)
  return AUTH_REQUEST_LABEL ++ session ++ challenge ++ uuid ++ name ++ ts

/-- The bytes the daemon signs when it starts an OAuth flow. -/
def Primitives.buildSignedPayload (crypto : Primitives)
    (sessionId pkceChallenge relayUuid provider : String) (timestamp : Int) : Option Bytes :=
  (signedPreimage sessionId pkceChallenge relayUuid provider timestamp).map crypto.sha256

/-! ### Keys and signatures -/

/-- The DER prefix of a P-256 SubjectPublicKeyInfo. -/
def P256_SPKI_HEADER : Bytes :=
  hexDecode "3059301306072a8648ce3d020106082a8648ce3d030107034200".toList

def uncompressedP256ToSpki (pubkey : Bytes) : Bytes := P256_SPKI_HEADER ++ pubkey

/-- ECDSA over `payload`; a verification that throws is a failed one. -/
def Primitives.verifyECDSA (crypto : Primitives) (pubkeyBytes payload : Bytes)
    (sigDerBase64 : String) : Bool :=
  (crypto.verifySha256 (uncompressedP256ToSpki pubkeyBytes) payload
    (base64Decode sigDerBase64.toList)).getD false

/-! ### ECIES -/

structure EciesPayload where
  ephemeralPubkey : String
  ciphertext : String
  nonce : String
deriving DecidableEq

/-- `ephemeral` and `iv` are the key and the nonce the call draws. -/
def Primitives.eciesEncrypt (crypto : Primitives) (daemonPubkeyBytes : Bytes)
    (sessionId messageType : String) (plaintext ephemeral iv : Bytes) : Option EciesPayload := do
  let sharedSecret ← crypto.computeSecret ephemeral daemonPubkeyBytes
  let encKey := crypto.hkdfSha256 sharedSecret (utf8 sessionId) (utf8 "dicode-oauth-token") 32
  let (ctWithoutTag, authTag) := crypto.gcmEncrypt encKey iv (utf8 messageType) plaintext
  return {
    ephemeralPubkey := base64Encode (crypto.publicPoint ephemeral)
    ciphertext := base64Encode (ctWithoutTag ++ authTag)
    nonce := base64Encode iv }

/-- What the host's crypto libraries do with key objects. -/
structure KeyPrimitives where
  /-- `subtle.importKey("raw", point)` and `subtle.deriveBits` over 256 bits,
  for ECDH on P-256. -/
  deriveBits : (key point : Bytes) → Option Bytes
  /-- `createPublicKey(key).export({ type: "spki", format: "der" })`. -/
  exportSpki : Bytes → Bytes

/-- Where `subarray(0, length - 16)` ends, which counts from the end when the
difference is negative. -/
def tagStart (bytes : Bytes) : Nat :=
  if 16 ≤ bytes.length then bytes.length - 16 else 2 * bytes.length - 16

/-- `none` where one of the calls throws. -/
def KeyPrimitives.eciesDecryptWebCrypto (keys : KeyPrimitives) (crypto : Primitives)
    (decryptKey : Bytes) (sessionId messageType : String) (payload : EciesPayload) :
    Option Bytes := do
  let ephPubBytes := base64Decode payload.ephemeralPubkey.toList
  let sharedSecret ← keys.deriveBits decryptKey ephPubBytes
  let encKey := crypto.hkdfSha256 sharedSecret (utf8 sessionId) (utf8 "dicode-oauth-token") 32
  let iv := base64Decode payload.nonce.toList
  let ciphertextWithTag := base64Decode payload.ciphertext.toList
  let ct := ciphertextWithTag.take (tagStart ciphertextWithTag)
  let authTag := ciphertextWithTag.drop (tagStart ciphertextWithTag)
  crypto.gcmDecrypt encKey iv (utf8 messageType) ct authTag

/-- A payload decrypts with the key it was encrypted to, when the two ECDH
computations agree. -/
theorem KeyPrimitives.eciesDecrypt_eciesEncrypt {keys : KeyPrimitives} {crypto : Primitives}
    (correct : crypto.GcmCorrect) {decryptKey ephemeral : Bytes}
    (agrees : ∀ secret, crypto.computeSecret ephemeral (crypto.publicPoint decryptKey) =
      some secret → keys.deriveBits decryptKey (crypto.publicPoint ephemeral) = some secret)
    {sessionId messageType : String} {plaintext iv : Bytes} {payload : EciesPayload}
    (encrypted : crypto.eciesEncrypt (crypto.publicPoint decryptKey) sessionId messageType
      plaintext ephemeral iv = some payload) :
    keys.eciesDecryptWebCrypto crypto decryptKey sessionId messageType payload =
      some plaintext := by
  unfold Primitives.eciesEncrypt at encrypted
  obtain ⟨secret, computed, rest⟩ := Option.bind_eq_some_iff.mp encrypted
  obtain rfl := Option.some.inj rest
  generalize key : crypto.hkdfSha256 secret (utf8 sessionId) (utf8 "dicode-oauth-token") 32 = encKey
  have tagLength := correct.tag_length encKey iv (utf8 messageType) plaintext
  have cut : tagStart ((crypto.gcmEncrypt encKey iv (utf8 messageType) plaintext).1 ++
      (crypto.gcmEncrypt encKey iv (utf8 messageType) plaintext).2) =
      (crypto.gcmEncrypt encKey iv (utf8 messageType) plaintext).1.length := by
    rw [tagStart, List.length_append, tagLength, if_pos (by omega), Nat.add_sub_cancel]
  simp only [eciesDecryptWebCrypto, base64Decode_base64Encode, agrees secret computed, key, cut,
    Option.bind_eq_bind, Option.bind_some, List.take_left, List.drop_left]
  exact correct.decrypt_encrypt encKey iv (utf8 messageType) plaintext

end DicodeRelay.Shared
