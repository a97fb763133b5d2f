import DicodeRelay.Tunnel.Egress

/-!
Contract: the body of a public request, up to the frame that carries it.

Owns:
- a request as it was received, and what the body parser makes of it;
- the forward of a request that the router and the body parser pass on;
- the requests whose entity the frame carries, exactly.

Does not own: media types and content codings, which are parameters.
-/

namespace DicodeRelay.Tunnel

open DicodeRelay.Lib DicodeRelay.Shared

/-! ### The body parser -/

/-- The value of all headers of a lowercase name. -/
def headerValue (headers : Headers) (name : String) : Option String :=
  (headers.get name).map (", ".intercalate ·)

/-- One of the headers that announce a body is there. -/
def hasBody (headers : Headers) : Bool :=
  headers.has "transfer-encoding" || headers.has "content-length"

/-- A request to the public listener as it was received, its body still coded. -/
structure ReceivedRequest where
  method : String
  target : HookTarget
  headers : Headers
  payload : Bytes
  legal : ∀ e ∈ headers.entries, ∀ value ∈ e.2, isLegalHeader e.1 value = true
  announced : payload ≠ [] → hasBody headers = true

/-- The content coding of a request. -/
def contentEncoding (headers : Headers) : Option String := headerValue headers "content-encoding"

/-- The entity the caller sent. -/
def ReceivedRequest.entity (codec : Codec) (r : ReceivedRequest) : DecodedBody :=
  codec.entity (contentEncoding r.headers) r.payload

/-- What the body parser makes of a request: it answers with a status, or it passes
the request on, with a buffer in `req.body` or without. -/
inductive Parsed where
  | refused (status : Nat)
  | passed (body : Option Bytes)
deriving DecidableEq

/-- `express.raw` for every media type. -/
structure BodyParser where
  codec : Codec
  /-- The value of a `Content-Type` header can be parsed. -/
  typed : String → Bool
  parse : ReceivedRequest → Parsed
  /-- It leaves a request alone that has no body or no media type. -/
  skips : ∀ r, (hasBody r.headers && (headerValue r.headers "content-type").any typed) = false →
    parse r = .passed none
  /-- It decodes the body of any other request that it passes on. -/
  reads : ∀ r body, (hasBody r.headers && (headerValue r.headers "content-type").any typed) = true →
    parse r = .passed body → ∃ bytes, body = some bytes ∧ r.entity codec = ⟨bytes, false⟩

/-- The request has a body and a media type: its body is read. -/
def BodyParser.isRead (parser : BodyParser) (r : ReceivedRequest) : Bool :=
  hasBody r.headers && (headerValue r.headers "content-type").any parser.typed

/-! ### The hooks route -/

/-- The request as the handler gets it; its headers are the ones that were
received. -/
def ReceivedRequest.withBody (r : ReceivedRequest) (body : Option Bytes) : PublicRequest where
  method := r.method
  target := r.target
  headers := r.headers
  body := body
  legal := r.legal

/-- What the hooks route does with a request, if the router and the body parser pass
it on. -/
def BodyParser.hooks (parser : BodyParser) (r : ReceivedRequest) (id : String)
    (bufferedAmount : Nat) : Option Status.WiredEvent :=
  match hooksRoute r.target, parser.parse r with
  | .ok (uuid, path), .passed body =>
      some ((r.withBody body).forwardToClient uuid path id bufferedAmount)
  | _, _ => none

/-- What the body of a request message stands for, under the content coding that the
message carries. -/
def Codec.messageEntity (codec : Codec) (message : Request) : DecodedBody :=
  codec.entity ((message.headers.get "content-encoding").map fun hv => ", ".intercalate hv.values)
    (base64Decode message.body.toList)

theorem messageEntity_message (codec : Codec) (request : PublicRequest) (id path : String) :
    codec.messageEntity (request.message id path) =
      codec.entity (contentEncoding request.headers) (request.body.getD []) := by
  have coding : ((request.message id path).headers.get "content-encoding").map
      (fun hv => ", ".intercalate hv.values) = contentEncoding request.headers := by
    rw [PublicRequest.message, forwardedRequest, OrderedMap.get_mapValues, Option.map_map]
    rfl
  have body : base64Decode (request.message id path).body.toList = request.body.getD [] :=
    base64Decode_base64Encode _
  rw [Codec.messageEntity, coding, body]

/-! ### The condition -/

/-- The coding of the request's body, if it has one that is decoded. -/
def BodyParser.coding (parser : BodyParser) (r : ReceivedRequest) : Option String :=
  (contentEncoding r.headers).filter parser.codec.known

theorem entity_eq (parser : BodyParser) (r : ReceivedRequest) (bytes : Bytes) :
    parser.codec.entity (contentEncoding r.headers) bytes =
      match parser.coding r with
      | none => ⟨bytes, false⟩
      | some coding => parser.codec.decode coding bytes := by
  unfold Codec.entity BodyParser.coding
  cases contentEncoding r.headers with
  | none => rfl
  | some coding =>
      dsimp only
      by_cases known : parser.codec.known coding = true
      · rw [if_pos known, Option.filter_some_pos known]
      · rw [if_neg known, Option.filter_some_neg (Bool.eq_false_iff.mpr known)]

/-- A body without a coding is read or empty. A coded body decodes to what decodes to
itself, or, where it is not read, to what no bytes at all decode to. -/
def BodyParser.Preserves (parser : BodyParser) (r : ReceivedRequest) : Prop :=
  match parser.coding r with
  | none => parser.isRead r = true ∨ r.payload = []
  | some coding =>
      if parser.isRead r = true then
        parser.codec.decode coding (parser.codec.decode coding r.payload).output =
          parser.codec.decode coding r.payload
      else parser.codec.decode coding [] = parser.codec.decode coding r.payload

/-- A frame the hooks route sends for a request carries the entity of the request
under the content coding it carries, if and only if the body parser preserves it. -/
theorem entity_carried_iff {server : Relay.RelayServer} (lawful : server.wire.Lawful)
    (parser : BodyParser) {r : ReceivedRequest} {id : String} {bufferedAmount : Nat}
    {event : Status.WiredEvent} (routed : parser.hooks r id bufferedAmount = some event)
    {s s' : Status.WiredState} (stepped : Status.wiredStep server s event = some s')
    {ws : Relay.ConnId} {frame : String}
    (sent : s'.relay.sentOn ws = s.relay.sentOn ws ++ [frame]) {message : Request}
    (decodes : server.wire.decodeServer frame = .envelope (.request message)) :
    parser.codec.messageEntity message = r.entity parser.codec ↔ parser.Preserves r := by
  unfold BodyParser.hooks at routed
  split at routed
  · rename_i uuid path body _ passed
    obtain rfl := Option.some.inj routed
    rw [inbound_sent stepped sent, lawful.decodeServer_encodeServer (.request _) trivial] at decodes
    obtain rfl := ServerMessage.request.inj (Decoded.envelope.inj decodes)
    rw [messageEntity_message]
    have carried : parser.codec.entity (contentEncoding (r.withBody body).headers)
        ((r.withBody body).body.getD []) = _ := entity_eq parser r (body.getD [])
    have own : r.entity parser.codec = _ := entity_eq parser r r.payload
    rw [carried]
    unfold BodyParser.Preserves
    cases read : parser.isRead r with
    | true =>
        obtain ⟨bytes, rfl, entity⟩ := parser.reads r body read passed
        rw [entity] at own ⊢
        cases coding : parser.coding r with
        | none => exact iff_of_true rfl (Or.inl rfl)
        | some name =>
            rw [coding] at own
            dsimp only at own ⊢
            rw [if_pos rfl, ← own]
            rfl
    | false =>
        obtain rfl := Parsed.passed.inj ((parser.skips r read).symm.trans passed)
        rw [own]
        cases coding : parser.coding r with
        | none =>
            simp only [Option.getD_none, DecodedBody.mk.injEq, and_true, Bool.false_eq_true,
              false_or]
            exact eq_comm
        | some name =>
            dsimp only
            rw [if_neg Bool.false_ne_true]
            rfl
  · contradiction

namespace Sample

open DicodeRelay.Relay.Sample

def hook : HookTarget where
  uuid := uuidA
  path := "pay"
  query := none
  uuid_segment := segment_uuidA
  path_noQuery := noQuery_pay

/-- A webhook without a content coding, with or without a media type. -/
def webhook (typed : Bool) : ReceivedRequest where
  method := "POST"
  target := hook
  headers :=
    if typed then (OrderedMap.empty.set "content-length" ["2"]).set "content-type" ["text/plain"]
    else OrderedMap.empty.set "content-length" ["2"]
  payload := [104, 105]
  legal := by cases typed <;> decide +kernel
  announced _ := by cases typed <;> rfl

/-- A parser that takes every media type and refuses coded bodies as malformed. -/
def parser : BodyParser where
  codec := ⟨fun coding => coding ∈ ["gzip", "deflate", "br"], fun _ _ => ⟨[], true⟩⟩
  typed _ := true
  parse r :=
    if (hasBody r.headers && (headerValue r.headers "content-type").any fun _ => true) = true then
      match r.entity ⟨fun coding => coding ∈ ["gzip", "deflate", "br"], fun _ _ => ⟨[], true⟩⟩ with
      | ⟨bytes, false⟩ => .passed (some bytes)
      | ⟨_, true⟩ => .refused 400
    else .passed none
  skips r skipped := by rw [skipped, if_neg Bool.false_ne_true]
  reads r body read passed := by
    rw [read, if_pos rfl] at passed
    split at passed
    · rename_i bytes entity
      exact ⟨bytes, (Parsed.passed.inj passed).symm, entity⟩
    · contradiction

theorem route : hooksRoute hook = .ok (uuidA, "/hooks/pay") := by decide +kernel

/-- The handler forwards the webhook, whose body is read if it has a media type. -/
theorem forwarded (typed : Bool) : ∃ event s s',
    parser.hooks (webhook typed) requestId 0 = some event ∧
      server.machine.run admission = some s.relay ∧
      Status.wiredStep server s event = some s' ∧
      s'.relay.sentOn 0 = s.relay.sentOn 0 ++ [jsonWire.encodeServer (.request
        (((webhook typed).withBody (if typed then some [104, 105] else none)).message requestId
          "/hooks/pay"))] := by
  obtain ⟨relay, ran, enrolled⟩ := enrols server rfl rfl uuid_signPointA
  have registered : relay.clients.get uuidA = some clientA := enrolled.entry
  have routed : parser.hooks (webhook typed) requestId 0 =
      some (((webhook typed).withBody (if typed then some [104, 105] else none)).forwardToClient
        uuidA "/hooks/pay" requestId 0) := by
    have parsed : parser.parse (webhook typed) =
        .passed (if typed then some [104, 105] else none) := by
      cases typed <;> decide +kernel
    have target : hooksRoute (webhook typed).target = .ok (uuidA, "/hooks/pay") := route
    rw [BodyParser.hooks, target, parsed]
  have present : relay.hasClient uuidA = true := by
    rw [Relay.State.hasClient, OrderedMap.has, registered]
    rfl
  have drained : 0 ≤ server.maxBufferedBytes := Nat.zero_le _
  have free : ((relay.issue requestId uuidA).pendingByClient.get uuidA).getD 0 <
      server.maxPendingPerClient := by
    have idle : (relay.issue requestId uuidA).pendingByClient = .empty := enrolled.unasked
    rw [idle]
    decide
  have stillOpen : (relay.issue requestId uuidA).readyState clientA.ws = .opened := enrolled.opened
  have fresh : relay.issued.get requestId = none := by
    rw [enrolled.unissued]
    rfl
  have sent := sentOn_forward (s := relay.issue requestId uuidA) registered stillOpen drained free
    (webhook typed).method "/hooks/pay" (webhook typed).headers
    ((if typed then some [104, 105] else none : Option Bytes).getD []) requestId
  have stepped : ∃ metrics, Status.wiredStep server ⟨relay, .new⟩
      (((webhook typed).withBody (if typed then some [104, 105] else none)).forwardToClient
        uuidA "/hooks/pay" requestId 0) =
      some ⟨server.forward (relay.issue requestId uuidA) uuidA (webhook typed).method "/hooks/pay"
        (webhook typed).headers ((if typed then some [104, 105] else none : Option Bytes).getD [])
        requestId 0, metrics⟩ := by
    rw [PublicRequest.forwardToClient, Status.wiredStep, if_pos present, Status.relayStep,
      Relay.RelayServer.step, if_pos (by rw [fresh]; rfl)]
    exact ⟨_, rfl⟩
  obtain ⟨metrics, stepped⟩ := stepped
  exact ⟨_, ⟨relay, .new⟩, _, routed, ran, stepped, sent⟩

end Sample

/-- A webhook with a media type is carried as it is. -/
theorem entity_carried_typed : ∃ event s s' message,
    Sample.parser.hooks (Sample.webhook true) Relay.Sample.requestId 0 = some event ∧
      Status.wiredStep Relay.Sample.server s event = some s' ∧
      s'.relay.sentOn 0 = s.relay.sentOn 0 ++ [jsonWire.encodeServer (.request message)] ∧
      Sample.parser.codec.messageEntity message =
        (Sample.webhook true).entity Sample.parser.codec := by
  obtain ⟨event, s, s', routed, _, stepped, sent⟩ := Sample.forwarded true
  have lawful : Relay.Sample.server.wire.Lawful := jsonWire_lawful
  have preserved : Sample.parser.Preserves (Sample.webhook true) := by
    have uncoded : Sample.parser.coding (Sample.webhook true) = none := by decide +kernel
    rw [BodyParser.Preserves, uncoded]
    exact Or.inl (by decide +kernel)
  exact ⟨event, s, s', _, routed, stepped, sent, (entity_carried_iff lawful Sample.parser routed
    stepped sent (jsonWire_lawful.decodeServer_encodeServer (.request _) trivial)).mpr preserved⟩

/-- A webhook without a media type: its body is dropped, while the message carries its
other headers. -/
theorem untyped_body_dropped : ∃ event s s' message,
    Sample.parser.hooks (Sample.webhook false) Relay.Sample.requestId 0 = some event ∧
      Relay.Sample.server.machine.run Relay.Sample.admission = some s.relay ∧
      Status.wiredStep Relay.Sample.server s event = some s' ∧
      s'.relay.sentOn 0 = s.relay.sentOn 0 ++ [jsonWire.encodeServer (.request message)] ∧
      Sample.parser.codec.messageEntity message ≠
        (Sample.webhook false).entity Sample.parser.codec := by
  obtain ⟨event, s, s', routed, ran, stepped, sent⟩ := Sample.forwarded false
  refine ⟨event, s, s', _, routed, ran, stepped, sent, ?_⟩
  rw [messageEntity_message]
  decide

end DicodeRelay.Tunnel
