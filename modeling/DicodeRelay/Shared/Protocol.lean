import DicodeRelay.Lib.OrderedMap

/-!
Contract: the messages of the relay protocol and of the tunnel's consumers.

Owns:
- the oneof envelopes of `relay.proto` and the flat forward response;
- what reading a wire frame can come to: text that is no JSON, JSON that is no
  envelope, or an envelope;
- the wire format as a parameter, and the laws its users rely on.

Does not own: the JSON encoding of the generated schemas.
-/

namespace DicodeRelay.Shared

open DicodeRelay.Lib

structure HeaderValues where
  values : List String
deriving DecidableEq

abbrev WireHeaders := OrderedMap String HeaderValues

abbrev Headers := OrderedMap String (List String)

structure Hello where
  decryptPubkey : String
deriving DecidableEq

structure Welcome where
  url : String
  brokerPubkey : Option String
  protocol : Option Int
deriving DecidableEq

structure ErrorMessage where
  message : String
deriving DecidableEq

structure Request where
  id : String
  method : String
  path : String
  headers : WireHeaders
  body : String
deriving DecidableEq

structure Response where
  id : String
  status : Int
  headers : WireHeaders
  body : String
deriving DecidableEq

/-- A message from the server to the daemon; `unset` is an empty oneof. -/
inductive ServerMessage where
  | welcome (value : Welcome)
  | error (value : ErrorMessage)
  | request (value : Request)
  | unset
deriving DecidableEq

/-- A message from the daemon to the server; `unset` is an empty oneof. -/
inductive ClientMessage where
  | hello (value : Hello)
  | response (value : Response)
  | unset
deriving DecidableEq

/-- What `forward` resolves to. -/
structure ForwardResponse where
  status : Int
  headers : Headers
  /-- base64 -/
  body : String
deriving DecidableEq

/-- What `JSON.parse` and `fromJson` make of a frame. -/
inductive Decoded (Message : Type) where
  | invalidJson
  | malformedEnvelope
  | envelope (message : Message)
deriving DecidableEq

/-- The text of the frames: `JSON.stringify(toJson(…))` and back. -/
structure WireFormat where
  encodeServer : ServerMessage → String
  decodeServer : String → Decoded ServerMessage
  encodeClient : ClientMessage → String
  decodeClient : String → Decoded ClientMessage
  /-- The frame is a JSON object with a `challenge` key. -/
  hasChallengeKey : String → Bool

/-- The range of an `int32` field. -/
def isInt32 (n : Int) : Prop := -2147483648 ≤ n ∧ n ≤ 2147483647

instance (n : Int) : Decidable (isInt32 n) := by
  unfold isInt32
  infer_instance

/-- The message's `int32` fields are in range. -/
def ServerMessage.WellTyped : ServerMessage → Prop
  | .welcome value => ∀ n, value.protocol = some n → isInt32 n
  | _ => True

def ClientMessage.WellTyped : ClientMessage → Prop
  | .response value => isInt32 value.status
  | _ => True

/-- Frames read back as the message they were written from. -/
structure WireFormat.Lawful (wire : WireFormat) : Prop where
  decodeServer_encodeServer : ∀ message : ServerMessage, message.WellTyped →
    wire.decodeServer (wire.encodeServer message) = .envelope message
  decodeClient_encodeClient : ∀ message : ClientMessage, message.WellTyped →
    wire.decodeClient (wire.encodeClient message) = .envelope message
  hasChallengeKey_encodeServer : ∀ message : ServerMessage,
    wire.hasChallengeKey (wire.encodeServer message) = false

end DicodeRelay.Shared
