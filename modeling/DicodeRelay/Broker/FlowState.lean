import DicodeRelay.Broker.Sessions
import DicodeRelay.Lib.Utf8
import DicodeRelay.Shared.Crypto

/-!
Contract: the flow state in the browser's cookie.

Owns:
- the cookie session, as far as the broker reads and writes it;
- sealing a flow into a token and opening a token;
- that a token opens to the flow that was sealed, and that a token which
  decrypts to a sealed text opens to nothing else.

Does not own: the signature on the cookie; expiry and single use.
-/

namespace DicodeRelay.Broker

open DicodeRelay.Lib DicodeRelay.Shared

/-! ### The cookie session -/

/-- `req.session`, with the broker's own field. -/
structure FlowSession where
  broker : Option String
deriving DecidableEq

def readBrokerFlow (session : Option FlowSession) : Option String :=
  session.bind FlowSession.broker

/-- `none`: no session middleware is mounted, and the call throws. -/
def writeBrokerFlow (session : Option FlowSession) (token : String) : Option FlowSession :=
  session.map fun _ => ⟨some token⟩

def clearBrokerFlow (session : Option FlowSession) : Option FlowSession :=
  session.map fun _ => ⟨none⟩

/-! ### Tokens -/

def FLOW_VERSION : Nat := 1

def IV_LEN : Nat := 12

def TAG_LEN : Nat := 16

/-- The payload of a token, in the order of its fields. -/
def serializedFlowState (session : Session) : Json :=
  .obj ([("v", .ofNat FLOW_VERSION),
    ("sessionId", .str session.sessionId),
    ("relayUuid", .str session.relayUuid),
    ("pubkey", .str (base64Encode session.pubkey)),
    ("pkceChallenge", .str session.pkceChallenge),
    ("provider", .str session.provider),
    ("expiresAt", .num session.expiresAt.mantissa session.expiresAt.exponent)] ++
    match session.scope with
    | none => []
    | some scope => if scope = "" then [] else [("scope", .str scope)])

/-- What `sealFlowState` encrypts. -/
def flowPlaintext (session : Session) : Bytes := utf8 (serializedFlowState session).stringify

/-- The nonce, the ciphertext and the tag of a token. -/
structure SealedFlow where
  iv : Bytes
  ciphertext : Bytes
  tag : Bytes
deriving DecidableEq

def SealedFlow.token (sealed : SealedFlow) : String :=
  base64urlEncode (sealed.iv ++ sealed.ciphertext ++ sealed.tag)

/-- `iv` is the nonce the call draws. -/
def encryptFlow (crypto : Primitives) (key iv : Bytes) (session : Session) :
    SealedFlow :=
  let (ciphertext, tag) := crypto.gcmEncrypt key iv [] (flowPlaintext session)
  ⟨iv, ciphertext, tag⟩

def sealFlowState (crypto : Primitives) (key iv : Bytes) (session : Session) : String :=
  (encryptFlow crypto key iv session).token

/-- The parts of a token, when it is long enough to have them. -/
def splitToken (token : String) : Option SealedFlow :=
  let raw := base64Decode token.toList
  if raw.length < IV_LEN + TAG_LEN then none
  else some ⟨raw.take IV_LEN, (raw.drop IV_LEN).take (raw.length - TAG_LEN - IV_LEN),
    raw.drop (raw.length - TAG_LEN)⟩

/-- The flow a payload describes, if it has the fields of one. -/
def readFlowState (parsed : Json) : Option Session := do
  let v ← (parsed.field "v").bind Json.asInt
  if v ≠ FLOW_VERSION then none
  else
    let sessionId ← (parsed.field "sessionId").bind Json.asString
    let relayUuid ← (parsed.field "relayUuid").bind Json.asString
    let pubkey ← (parsed.field "pubkey").bind Json.asString
    let pkceChallenge ← (parsed.field "pkceChallenge").bind Json.asString
    let provider ← (parsed.field "provider").bind Json.asString
    let expiresAt ← (parsed.field "expiresAt").bind Json.asNumber
    let scope ← match parsed.field "scope" with
      | none => some none
      | some scope => scope.asString.map some
    return { sessionId, relayUuid, pubkey := base64Decode pubkey.toList, pkceChallenge, provider,
             expiresAt, scope }

/-- The flow of a decrypted payload. -/
def readPlaintext (plaintext : Bytes) : Option Session :=
  (Json.parse (utf8Decode plaintext)).bind readFlowState

def SealedFlow.decrypt (crypto : Primitives) (key : Bytes) (sealed : SealedFlow) : Option Bytes :=
  crypto.gcmDecrypt key sealed.iv [] sealed.ciphertext sealed.tag

def openFlowState (crypto : Primitives) (key : Bytes) (token : String) :
    Option Session :=
  ((splitToken token).bind (SealedFlow.decrypt crypto key)).bind readPlaintext

/-! ### What a token opens to -/

/-- A payload reads back, unless its scope is the empty one that sealing
leaves out. -/
theorem readFlowState_serialized (session : Session) (named : session.scope ≠ some "") :
    readFlowState (serializedFlowState session) = some session := by
  obtain ⟨sessionId, relayUuid, pubkey, pkceChallenge, provider, expiresAt, scope⟩ := session
  cases scope with
  | none =>
      simp [readFlowState, serializedFlowState, Json.field, Json.asInt, Json.asString,
        Json.asNumber, Json.ofNat, FLOW_VERSION, base64Decode_base64Encode]
  | some scope =>
      have nonempty : scope ≠ "" := fun equal => named (congrArg some equal)
      simp [readFlowState, serializedFlowState, Json.field, Json.asInt, Json.asString,
        Json.asNumber, Json.ofNat, FLOW_VERSION, base64Decode_base64Encode, nonempty]

theorem readPlaintext_flowPlaintext (session : Session) (named : session.scope ≠ some "") :
    readPlaintext (flowPlaintext session) = some session := by
  rw [readPlaintext, flowPlaintext, utf8Decode_utf8, Json.parse_stringify, Option.bind_some,
    readFlowState_serialized session named]

theorem decrypt_encryptFlow {crypto : Primitives} (correct : crypto.GcmCorrect) (key iv : Bytes)
    (session : Session) :
    (encryptFlow crypto key iv session).decrypt crypto key =
      some (flowPlaintext session) :=
  correct.decrypt_encrypt key iv [] (flowPlaintext session)

theorem tag_length_encryptFlow {crypto : Primitives} (correct : crypto.GcmCorrect)
    (key iv : Bytes) (session : Session) :
    (encryptFlow crypto key iv session).tag.length = TAG_LEN :=
  correct.tag_length key iv [] (flowPlaintext session)

/-- A token whose parts were sealed opens to the flow that was sealed. -/
theorem openFlowState_of_split {crypto : Primitives} (correct : crypto.GcmCorrect)
    {key iv : Bytes} {session : Session} (named : session.scope ≠ some "") {token : String}
    (parts : splitToken token = some (encryptFlow crypto key iv session)) :
    openFlowState crypto key token = some session := by
  rw [openFlowState, parts, Option.bind_some, decrypt_encryptFlow correct,
    Option.bind_some, readPlaintext_flowPlaintext session named]

theorem splitToken_token {sealed : SealedFlow} (ivLength : sealed.iv.length = IV_LEN)
    (tagLength : sealed.tag.length = TAG_LEN) : splitToken sealed.token = some sealed := by
  obtain ⟨iv, ciphertext, tag⟩ := sealed
  simp only at ivLength tagLength
  have total : (iv ++ ciphertext ++ tag).length = IV_LEN + ciphertext.length + TAG_LEN := by
    simp [ivLength, tagLength, Nat.add_assoc]
  have middle : IV_LEN + ciphertext.length + TAG_LEN - TAG_LEN - IV_LEN = ciphertext.length := by
    omega
  have front : IV_LEN + ciphertext.length + TAG_LEN - TAG_LEN = (iv ++ ciphertext).length := by
    simp [ivLength]
  simp only [splitToken, SealedFlow.token, base64Decode_base64urlEncode]
  rw [total, if_neg (by omega), middle, front, List.drop_left, List.append_assoc, ← ivLength,
    List.take_left, List.drop_left, List.take_left]

/-- A sealed token opens to the flow that was sealed. -/
theorem openFlowState_sealFlowState {crypto : Primitives} (correct : crypto.GcmCorrect)
    {key iv : Bytes} (ivLength : iv.length = IV_LEN) {session : Session}
    (named : session.scope ≠ some "") :
    openFlowState crypto key (sealFlowState crypto key iv session) =
      some session :=
  openFlowState_of_split correct named
    (splitToken_token ivLength (tag_length_encryptFlow correct key iv session))

end DicodeRelay.Broker
