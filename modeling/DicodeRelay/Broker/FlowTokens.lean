import DicodeRelay.Broker.Router
import Mathlib.Data.Set.Basic

/-!
Contract: what the tokens under one flow key open to.

Owns:
- the seal calls made under a key, and AES-256-GCM as they see it;
- opening a token with the throws of its calls;
- that a token opens exactly to the flow that was sealed into its parts.

Does not own: who sets the cookie; expiry and single use.
-/

namespace DicodeRelay.Broker

open DicodeRelay.Lib DicodeRelay.Shared

/-- A call of `sealFlowState`: the nonce it draws and its flow. -/
structure SealCall where
  iv : Bytes
  session : Session
  ivLength : iv.length = IV_LEN
  named : session.scope ≠ some ""

def SealCall.parts (call : SealCall) (crypto : Primitives) (key : Bytes) : SealedFlow :=
  encryptFlow crypto key call.iv call.session

def SealCall.token (call : SealCall) (crypto : Primitives) (key : Bytes) : String :=
  sealFlowState crypto key call.iv call.session

/-- AES-256-GCM under `key` when `calls` are the seal calls made under it, on
any instance: it decrypts what they encrypted and rejects everything else. -/
structure SealedBy (crypto : Primitives) (key : Bytes) (calls : Set SealCall) : Prop where
  tag_length : ∀ call ∈ calls, (call.parts crypto key).tag.length = TAG_LEN
  decrypts : ∀ call ∈ calls,
    (call.parts crypto key).decrypt crypto key = some (flowPlaintext call.session)
  rejects : ∀ (parts : SealedFlow) (plaintext : Bytes),
    parts.decrypt crypto key = some plaintext → ∃ call ∈ calls, parts = call.parts crypto key

/-! ### The throws of a call -/

/-- The `try` of `openFlowState`: an early return or the parsed payload, and an
error where a call throws. -/
def tryOpenFlowState (crypto : Primitives) (key : Bytes) (token : String) :
    Except Unit (Option Json) :=
  match splitToken token with
  | none => .ok none
  | some parts =>
    match parts.decrypt crypto key with
    | none => .error ()
    | some plaintext =>
      match Json.parse (utf8Decode plaintext) with
      | none => .error ()
      | some parsed => .ok (some parsed)

/-- A call of `openFlowState`, which may throw as far as its type goes. -/
def openFlowStateCall (crypto : Primitives) (key : Bytes) (token : String) :
    Except Unit (Option Session) :=
  match tryOpenFlowState crypto key token with
  | .error () => .ok none
  | .ok none => .ok none
  | .ok (some parsed) => .ok (readFlowState parsed)

theorem openFlowStateCall_eq (crypto : Primitives) (key : Bytes) (token : String) :
    openFlowStateCall crypto key token = .ok (openFlowState crypto key token) := by
  unfold openFlowStateCall tryOpenFlowState openFlowState readPlaintext
  cases splitToken token with
  | none => rfl
  | some parts =>
      rw [Option.bind_some]
      dsimp only
      cases parts.decrypt crypto key with
      | none => rfl
      | some plaintext =>
          rw [Option.bind_some]
          dsimp only
          cases Json.parse (utf8Decode plaintext) <;> rfl

/-! ### What the tokens open to -/

section Tokens

variable {crypto : Primitives} {key : Bytes} {calls : Set SealCall}

/-- A token whose parts a call sealed opens to the flow of that call. -/
theorem SealedBy.open_of_parts (gcm : SealedBy crypto key calls) {call : SealCall}
    (made : call ∈ calls) {token : String}
    (parts : splitToken token = some (call.parts crypto key)) :
    openFlowState crypto key token = some call.session := by
  rw [openFlowState, parts, Option.bind_some, gcm.decrypts call made, Option.bind_some,
    readPlaintext_flowPlaintext call.session call.named]

theorem SealedBy.split_token (gcm : SealedBy crypto key calls) {call : SealCall}
    (made : call ∈ calls) :
    splitToken (call.token crypto key) = some (call.parts crypto key) :=
  splitToken_token call.ivLength (gcm.tag_length call made)

/-- A token that opens has the parts of a call, and opens to its flow. -/
theorem SealedBy.call_of_open (gcm : SealedBy crypto key calls) {token : String}
    {session : Session} (opened : openFlowState crypto key token = some session) :
    ∃ call ∈ calls, splitToken token = some (call.parts crypto key) ∧
      call.session = session := by
  obtain ⟨plaintext, decrypted, _⟩ := Option.bind_eq_some_iff.mp opened
  obtain ⟨parts, split, accepted⟩ := Option.bind_eq_some_iff.mp decrypted
  obtain ⟨call, made, rfl⟩ := gcm.rejects parts plaintext accepted
  have own := gcm.open_of_parts made split
  rw [opened] at own
  exact ⟨call, made, split, (Option.some.inj own).symm⟩

/-- Every sealed token opens to the flow that was sealed. Any other token opens,
without a throw, to the flow of a seal call when it has the parts of that call's
token, and to nothing otherwise. -/
theorem flow_tokens_authentic (gcm : SealedBy crypto key calls) :
    (∀ call ∈ calls, openFlowStateCall crypto key (call.token crypto key) =
      .ok (some call.session)) ∧
    ∀ token, ∃ result, openFlowStateCall crypto key token = .ok result ∧
      (∀ session, result = some session ↔ ∃ call ∈ calls,
        splitToken token = some (call.parts crypto key) ∧ call.session = session) ∧
      (result = none ↔ ∀ call ∈ calls, splitToken token ≠ some (call.parts crypto key)) := by
  constructor
  · intro call made
    rw [openFlowStateCall_eq, gcm.open_of_parts made (gcm.split_token made)]
  · intro token
    have opens : ∀ session, openFlowState crypto key token = some session ↔ ∃ call ∈ calls,
        splitToken token = some (call.parts crypto key) ∧ call.session = session := by
      intro session
      constructor
      · exact gcm.call_of_open
      · rintro ⟨call, made, split, rfl⟩
        exact gcm.open_of_parts made split
    refine ⟨_, openFlowStateCall_eq crypto key token, opens, ?_⟩
    constructor
    · intro closed call made split
      have opened := (opens call.session).mpr ⟨call, made, split, rfl⟩
      rw [closed] at opened
      contradiction
    · intro foreign
      cases result : openFlowState crypto key token with
      | none => rfl
      | some session =>
          obtain ⟨call, made, split, _⟩ := (opens session).mp result
          exact absurd split (foreign call made)

end Tokens

/-! ### A sealed flow -/

namespace Sample

def sealCall : SealCall where
  iv := flowIv
  session := flow
  ivLength := by decide +kernel
  named := by simp [flow]

/-- The sample's primitives, when the flow is all that was ever encrypted. -/
def flowPrimitives : Primitives where
  sha256 := primitives.sha256
  importSpki := primitives.importSpki
  verifySha256 := primitives.verifySha256
  signSha256 := primitives.signSha256
  signP1363 := primitives.signP1363
  publicPoint := primitives.publicPoint
  computeSecret := primitives.computeSecret
  hkdfSha256 := primitives.hkdfSha256
  gcmEncrypt := gcmEncrypt
  gcmDecrypt key iv aad ciphertext tag :=
    if key = flowKey ∧ aad = [] ∧ (⟨iv, ciphertext, tag⟩ : SealedFlow) = sealedFlow then
      some (flowPlaintext flow)
    else none

theorem parts_sealCall : sealCall.parts flowPrimitives flowKey = sealedFlow := by
  have same : flowPrimitives.gcmEncrypt = primitives.gcmEncrypt := rfl
  have encrypted := encryptFlow_eq
  rw [encryptFlow, ← same, ← encryptFlow] at encrypted
  exact encrypted

theorem tag_length_sealedFlow : sealedFlow.tag.length = TAG_LEN := by
  rw [← encryptFlow_eq]
  exact tag_length_encryptFlow gcm_correct flowKey flowIv flow

theorem decrypt_eq (sealed : SealedFlow) : sealed.decrypt flowPrimitives flowKey =
    if flowKey = flowKey ∧ ([] : Bytes) = [] ∧ sealed = sealedFlow then some (flowPlaintext flow)
    else none :=
  rfl

theorem decrypt_sealedFlow :
    sealedFlow.decrypt flowPrimitives flowKey = some (flowPlaintext flow) := by
  rw [decrypt_eq, if_pos ⟨rfl, rfl, rfl⟩]

theorem sealedFlow_of_decrypt {parts : SealedFlow} {plaintext : Bytes}
    (accepted : parts.decrypt flowPrimitives flowKey = some plaintext) : parts = sealedFlow := by
  rw [decrypt_eq] at accepted
  split at accepted
  · rename_i matched
    exact matched.2.2
  · contradiction

theorem sealedBy : SealedBy flowPrimitives flowKey {sealCall} where
  tag_length := by
    rintro call rfl
    rw [parts_sealCall]
    exact tag_length_sealedFlow
  decrypts := by
    rintro call rfl
    rw [parts_sealCall]
    exact decrypt_sealedFlow
  rejects parts plaintext accepted :=
    ⟨sealCall, rfl, (sealedFlow_of_decrypt accepted).trans parts_sealCall.symm⟩

end Sample

theorem flow_tokens_authentic_sample :
    openFlowStateCall Sample.flowPrimitives Sample.flowKey
      (Sample.sealCall.token Sample.flowPrimitives Sample.flowKey) = .ok (some Sample.flow) :=
  (flow_tokens_authentic Sample.sealedBy).1 Sample.sealCall rfl

end DicodeRelay.Broker
