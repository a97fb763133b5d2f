import DicodeRelay.Tunnel.Ingress

/-!
Contract: the answer to a public request.

Owns:
- the calls the listener makes on the web framework's response object, for a
  forward that resolved or was rejected;
- what the framework, the HTTP server under it and `fetch` are documented to do,
  as assumptions on parameters.

Does not own: media types, entity tags, freshness and content codings, which are
parameters too.
-/

namespace DicodeRelay.Tunnel

open DicodeRelay.Lib DicodeRelay.Shared

/-! ### The response object -/

/-- A header as `setHeader` keeps it. -/
inductive FieldValue where
  | values (values : List String)
  /-- `false`, which the framework sets where it makes out no media type. -/
  | unknown
deriving DecidableEq

/-- The value on the wire. -/
def FieldValue.wire : FieldValue → String
  | .values lines => ", ".intercalate lines
  | .unknown => "false"

def FieldValue.truthy : FieldValue → Bool
  | .values lines => lines ≠ [""]
  | .unknown => false

/-- `res`, its headers under their lowercase names. -/
structure Res where
  status : Int
  headers : OrderedMap String FieldValue

/-- `res` as a handler gets it. -/
def Res.initial : Res := ⟨200, OrderedMap.empty.set "x-powered-by" (.values ["Express"])⟩

/-- `res.get(name)`, as it goes out. -/
def Res.get (res : Res) (name : String) : Option String :=
  (res.headers.get name).map FieldValue.wire

/-- `res.setHeader(name, value)`. -/
def Res.set (res : Res) (name : String) (value : FieldValue) : Res :=
  { res with headers := res.headers.set name value }

/-- The answer the public caller receives. -/
structure PublicResponse where
  status : Int
  /-- The value of all headers of a lowercase name. -/
  header : String → Option String
  body : Bytes

/-- The caller reads a body after the headers. -/
def PublicRequest.awaitsBody (request : PublicRequest) (status : Int) : Prop :=
  request.method ≠ "HEAD" ∧ status ≠ 204 ∧ status ≠ 304

instance (request : PublicRequest) (status : Int) : Decidable (request.awaitsBody status) := by
  unfold PublicRequest.awaitsBody
  infer_instance

/-- The value of a `Content-Length` header that promises nothing. -/
def zeroLength (value : String) : Prop := value ≠ "" ∧ value.toList.all (· = '0') = true

instance (value : String) : Decidable (zeroLength value) := by
  unfold zeroLength
  infer_instance

/-- Express, with the HTTP server under it. A call on `res` that throws leaves it
changed; one that ends the answer comes to what the caller receives, if it is a
complete message. -/
structure Express where
  /-- The media type with a charset, if it has a default one; `none`: `false`. -/
  contentType : String → Option String
  /-- The generated entity tag; empty if none is generated. -/
  etag : Bytes → String
  /-- Whether the caller's copy is fresh, from its request headers and the
  response's `ETag` and `Last-Modified`, empty where they are not set. -/
  fresh : Headers → String → String → Bool
  /-- The caller speaks HTTP/1.1, which has chunked messages. -/
  chunked : PublicRequest → Bool
  append : Res → (field value : String) → Except Res Res
  /-- `res.send(body)` for a buffer. -/
  send : PublicRequest → Res → Bytes → Except Res (Option PublicResponse)
  /-- `res.end()`. -/
  finish : PublicRequest → Res → Except Res (Option PublicResponse)
  json : PublicRequest → Res → Json → Except Res (Option PublicResponse)

namespace Express

variable (express : Express)

/-! ### The listener -/

/-- The loop over the headers of a forward response. -/
def appendHeaders (res : Res) : List (String × List String) → Except Res Res
  | [] => .ok res
  | (k, vals) :: rest =>
      match vals.foldlM (fun res v => express.append res k v) res with
      | .error res => .error res
      | .ok res => appendHeaders res rest

/-- The handler of a forward that resolved. -/
def handle (request : PublicRequest) (response : ForwardResponse) :
    Except Res (Option PublicResponse) :=
  match express.appendHeaders { Res.initial with status := response.status }
      response.headers.entries with
  | .error res => .error res
  | .ok res =>
      if response.body ≠ "" then express.send request res (base64Decode response.body.toList)
      else express.finish request res

/-- `res.status(status).json({ error })`, after which nothing handles a throw. -/
def fail (request : PublicRequest) (res : Res) (status : Int) (error : String) :
    Option PublicResponse :=
  match express.json request { res with status } (.obj [("error", .str error)]) with
  | .error _ => none
  | .ok received => received

/-- The status and the error of a rejected forward. -/
def rejection : Relay.ForwardError → Int × String
  | .pendingCapExceeded _ => (429, "daemon overloaded — too many in-flight requests")
  | .backpressure _ => (503, "daemon connection saturated")
  | _ => (504, "forwarding failed or timed out")

/-- An exception in the handler of the response ends in the handler of rejections. -/
def caught (request : PublicRequest) :
    Except Res (Option PublicResponse) → Option PublicResponse
  | .error res => express.fail request res 504 "forwarding failed or timed out"
  | .ok received => received

/-- What the caller receives once the forward is settled. -/
def answer (request : PublicRequest) :
    Except Relay.ForwardError ForwardResponse → Option PublicResponse
  | .error error => express.fail request .initial (rejection error).1 (rejection error).2
  | .ok response => express.caught request (express.handle request response)

/-- The relay's answer to what the daemon has for a request: a throw and a status
out of range leave the forward to its timeout. -/
def relayed (request : PublicRequest) (id : String) : Option Response → Option PublicResponse
  | none => express.answer request (.error (.forwardTimeout id))
  | some response =>
      if response.status < 100 ∨ response.status > 599 then
        express.answer request (.error (.forwardTimeout id))
      else express.answer request (.ok (Relay.flattenResponse response))

/-! ### What Express is documented to do -/

/-- A media type as `res.append` sets it. -/
def typed (value : String) : FieldValue :=
  match express.contentType value with
  | some type => .values [type]
  | none => .unknown

/-- The media type of a buffer that is sent. -/
def sentType (res : Res) : String :=
  match res.headers.get "content-type" with
  | none => "application/octet-stream"
  | some type => if type.truthy then type.wire else "application/octet-stream"

/-- The entity tag of a buffer that is sent: one is generated if `res` has none. -/
def sentTag (own : Option String) (body : Bytes) : Option String :=
  if own.getD "" = "" ∧ express.etag body ≠ "" then some (express.etag body) else own

/-- `req.fresh`, where the response has this status, `ETag` and `Last-Modified`. -/
def isFresh (request : PublicRequest) (status : Int) (tag modified : Option String) : Prop :=
  (request.method = "GET" ∨ request.method = "HEAD") ∧
    ((200 ≤ status ∧ status < 300) ∨ status = 304) ∧
    express.fresh request.headers (tag.getD "") (modified.getD "") = true

instance (request : PublicRequest) (status : Int) (tag modified : Option String) :
    Decidable (express.isFresh request status tag modified) := by
  unfold isFresh
  infer_instance

/-- `req.fresh` when a buffer is sent. -/
def sendsFresh (request : PublicRequest) (res : Res) (body : Bytes) : Prop :=
  express.isFresh request res.status (express.sentTag (res.get "etag") body)
    (res.get "last-modified")

/-- The headers of messages that the HTTP server adds to by itself. -/
def ADDED : List String :=
  ["date", "connection", "keep-alive", "content-length", "transfer-encoding"]

/-- The answer has the status and the headers of `res`, but for those that the call
sets itself. -/
structure Carries (res : Res) (itself : List String) (p : PublicResponse) : Prop where
  status : p.status = res.status
  kept : ∀ name value, name ∉ itself → res.headers.get name = some value →
    p.header name = some value.wire
  own : ∀ name, name ∉ itself → name ∉ ADDED → res.headers.get name = none →
    p.header name = none

/-- `res` announces trailers, and no chunked message that could have them. -/
def trailing (res : Res) : Prop :=
  res.headers.get "trailer" ≠ none ∧ res.headers.get "transfer-encoding" = none

/-- `res.end()` frames the message in chunks. -/
def inChunks (request : PublicRequest) (res : Res) : Prop :=
  request.awaitsBody res.status ∧ res.headers.get "content-length" = none ∧
    express.chunked request = true

/-- What the documentation of Express and of the HTTP server says of these calls:
- `res.append` sets a header or adds a value to it; a media type gets a charset;
- `res.send` adds a length, a media type and an entity tag where there are none,
  and sends no more than a 304 to a caller whose copy is fresh;
- `res.end` adds no body, whatever length the headers promise;
- an answer with a `Trailer` header that is no chunked message cannot be sent: the
  call throws;
- `res.json` sends an error. -/
structure Documented : Prop where
  named : ∀ value, express.contentType value ≠ some ""
  append_unset : ∀ res name value, lowercase name = name → isFieldLine name value = true →
    name ≠ "content-type" → res.headers.get name = none →
    express.append res name value = .ok (res.set name (.values [value]))
  append_type : ∀ res value, isFieldLine "content-type" value = true →
    res.headers.get "content-type" = none →
    express.append res "content-type" value = .ok (res.set "content-type" (express.typed value))
  append_set : ∀ res name value previous, lowercase name = name → isFieldLine name value = true →
    name ≠ "content-type" → res.headers.get name = some (.values [previous]) → previous ≠ "" →
    express.append res name value = .ok (res.set name (.values [previous, value]))
  send_fresh : ∀ request res body, res.headers.get "trailer" = none →
    express.sendsFresh request res body →
    ∃ p, express.send request res body = .ok (some p) ∧ p.status = 304
  send_stale : ∀ request res body, res.headers.get "trailer" = none →
    res.headers.get "transfer-encoding" = none → ¬ express.sendsFresh request res body →
    200 ≤ res.status → res.status ≠ 205 → request.awaitsBody res.status →
    ∃ p, express.send request res body = .ok (some p) ∧
      Carries res ["content-type", "content-length", "etag"] p ∧ p.body = body ∧
      p.header "content-type" = some (sentType res) ∧
      p.header "content-length" = some (toString body.length) ∧
      p.header "etag" = express.sentTag (res.get "etag") body
  send_trailing : ∀ request res body, trailing res →
    ∃ res', express.send request res body = .error res' ∧ trailing res'
  finish_plain : ∀ request res, res.headers.get "trailer" = none →
    res.headers.get "transfer-encoding" = none → 200 ≤ res.status →
    (request.awaitsBody res.status → ∀ value, res.headers.get "content-length" = some value →
      zeroLength value.wire) →
    ∃ p, express.finish request res = .ok (some p) ∧ Carries res [] p ∧ p.body = []
  finish_short : ∀ request res value, res.headers.get "trailer" = none →
    res.headers.get "transfer-encoding" = none → 200 ≤ res.status → request.awaitsBody res.status →
    res.headers.get "content-length" = some value → ¬ zeroLength value.wire →
    express.finish request res = .ok none
  finish_inChunks : ∀ request res, trailing res → 200 ≤ res.status →
    express.inChunks request res →
    ∃ p, express.finish request res = .ok (some p) ∧ Carries res [] p ∧ p.body = []
  finish_trailing : ∀ request res, trailing res → ¬ express.inChunks request res →
    ∃ res', express.finish request res = .error res' ∧ trailing res'
  json_error : ∀ request status value, 400 ≤ status → status ≤ 599 →
    ∃ p, express.json request { Res.initial with status } value = .ok (some p) ∧
      p.status = status ∧
      ∀ name, name ∉ ["x-powered-by", "content-type", "etag"] → name ∉ ADDED →
        p.header name = none
  json_trailing : ∀ request res value, trailing res →
    ∃ res', express.json request res value = .error res'

end Express

/-! ### The answer of the local server -/

/-- What the local server sends: a message that an HTTP parser takes. -/
structure ServerResponse where
  status : Nat
  headers : HeaderList
  body : Bytes
  legal : headers.Legal

def REDIRECT_STATUS : List Nat := [301, 302, 303, 307, 308]

def NULL_BODY_STATUS : List Nat := [101, 103, 204, 205, 304]

/-- A redirect, which `fetch` follows. -/
def ServerResponse.redirects (r : ServerResponse) : Bool :=
  r.status ∈ REDIRECT_STATUS ∧ "location" ∈ r.headers.names

/-- The bytes of a content-coded body, up to where decoding fails. -/
structure DecodedBody where
  output : Bytes
  fails : Bool
deriving DecidableEq

/-- The content codings. -/
structure Codec where
  /-- The value of a `Content-Encoding` header names codings that `fetch` decodes. -/
  known : String → Bool
  decode : String → Bytes → DecodedBody

/-- What a body under a `Content-Encoding` header stands for. -/
def Codec.entity (codec : Codec) (contentEncoding : Option String) (body : Bytes) : DecodedBody :=
  match contentEncoding with
  | none => ⟨body, false⟩
  | some coding => if codec.known coding then codec.decode coding body else ⟨body, false⟩

/-- What the local server sends. -/
def ServerResponse.entity (codec : Codec) (r : ServerResponse) : DecodedBody :=
  codec.entity (r.headers.get "content-encoding") r.body

/-- A response without a body, whatever the server sent. -/
def bodyless (method : String) (status : Nat) : Bool :=
  method = "HEAD" ∨ method = "CONNECT" ∨ status ∈ NULL_BODY_STATUS

/-- `fetch` resolves with the answer: its status, its headers, and a stream of the
decoded body in some chunks. -/
structure ResolvesTo (codec : Codec) (method : String) (r : ServerResponse)
    (resp : Client.FetchResponse) : Prop where
  status : resp.status = r.status
  headers : resp.headers = r.headers
  without : bodyless method r.status = true → resp.body = none
  body : bodyless method r.status = false → ∃ chunks,
    resp.body = some ⟨chunks, (r.entity codec).fails⟩ ∧
      chunks.flatten = (r.entity codec).output

/-- Node's `fetch`. -/
structure Fetching where
  codec : Codec
  /-- The call is sent. `fetch` rejects some at once, such as a GET with a body. -/
  sends : Client.FetchCall → Bool
  /-- The HTTP client takes the headers of an answer: they are within its limits, and
  frame the message in one way. -/
  takes : HeaderList → Bool
  /-- What it resolves to, where the function is what the local server answers to a
  call each time it is made; `none`: it rejects. -/
  fetch : (Client.FetchCall → Option ServerResponse) → Client.FetchCall →
    Option Client.FetchResponse

/-- What is documented of an answer: it is resolved with, but a redirect is followed
to an answer that is none, and a 407 is a network error, as are headers that the HTTP
client does not take. (A call that is answered with 421 is made once more, and resolved with the
second answer.) -/
structure Fetching.Documented (fetching : Fetching) : Prop where
  resolves : ∀ server call r, fetching.sends call = true → server call = some r →
    200 ≤ r.status → fetching.takes r.headers = true → r.redirects = false → r.status ≠ 407 →
    ∃ resp, fetching.fetch server call = some resp ∧ ResolvesTo fetching.codec call.method r resp
  rejects : ∀ server call r, fetching.sends call = true → server call = some r →
    fetching.takes r.headers = false ∨ r.status = 407 → fetching.fetch server call = none
  follows : ∀ server call r resp, fetching.sends call = true → server call = some r →
    r.redirects = true → fetching.fetch server call = some resp →
    ∃ final method, ResolvesTo fetching.codec method final resp ∧ final.redirects = false ∧
      200 ≤ final.status ∧ (method = "HEAD" ↔ call.method = "HEAD")

/-! ### Headers and errors -/

namespace Express

variable {express : Express}

/-- What `res` keeps of a header with one value, beside the framework's own header. -/
def field (express : Express) (name value : String) : FieldValue :=
  if name = "content-type" then express.typed value
  else if name = "x-powered-by" then .values ["Express", value]
  else .values [value]

/-- Appending to a header that the handler has not set yet. -/
theorem append_eq (documented : express.Documented) {res : Res} {name value : String}
    (lower : lowercase name = name) (legal : isFieldLine name value = true)
    (unset : res.headers.get name = Res.initial.headers.get name) :
    express.append res name value = .ok (res.set name (express.field name value)) := by
  rw [Res.initial, OrderedMap.get_set] at unset
  by_cases type : name = "content-type"
  · subst type
    rw [if_neg (by decide)] at unset
    rw [field, if_pos rfl]
    exact documented.append_type res value legal unset
  · by_cases powered : "x-powered-by" = name
    · rw [if_pos powered] at unset
      rw [field, if_neg type, if_pos powered.symm]
      exact documented.append_set res name value "Express" lower legal type unset (by decide)
    · rw [if_neg powered] at unset
      rw [field, if_neg type, if_neg (Ne.symm powered)]
      exact documented.append_unset res name value lower legal type unset

/-- Headers of distinct names, with one value each, are appended to what is set. -/
theorem appendHeaders_eq (documented : express.Documented) {names : List String}
    {value : String → String} (nodup : names.Nodup)
    (legal : ∀ name ∈ names, lowercase name = name ∧ isFieldLine name (value name) = true)
    {res : Res} (unset : ∀ name ∈ names, res.headers.get name = Res.initial.headers.get name) :
    ∃ res', express.appendHeaders res (names.map fun name => (name, [value name])) = .ok res' ∧
      res'.status = res.status ∧
      ∀ name, res'.headers.get name =
        if name ∈ names then some (express.field name (value name)) else res.headers.get name := by
  induction names generalizing res with
  | nil => exact ⟨res, rfl, rfl, fun name => by simp⟩
  | cons name rest inductionHypothesis =>
      obtain ⟨fresh, restNodup⟩ := List.nodup_cons.mp nodup
      obtain ⟨lower, line⟩ := legal name List.mem_cons_self
      have appended := append_eq documented lower line (unset name List.mem_cons_self)
      have set : ∀ other, (res.set name (express.field name (value name))).headers.get other =
          if name = other then some (express.field name (value name))
          else res.headers.get other := fun other => OrderedMap.get_set _ _ _ _
      obtain ⟨res', looped, status, headers⟩ := @inductionHypothesis restNodup
        (fun other member => legal other (List.mem_cons_of_mem _ member))
        (res.set name (express.field name (value name))) (by
          intro other member
          have different : name ≠ other := by
            rintro rfl
            exact fresh member
          rw [set, if_neg different]
          exact unset other (List.mem_cons_of_mem _ member))
      refine ⟨res', ?_, status, fun other => ?_⟩
      · rw [List.map_cons, appendHeaders, List.foldlM_cons, appended]
        exact looped
      · rw [headers, set]
        by_cases here : name = other
        · subst here
          rw [if_neg fresh, if_pos rfl, if_pos List.mem_cons_self]
        · simp only [List.mem_cons, Ne.symm here, false_or, if_neg here]

/-- The answer to a forward that timed out has status 504 and none but the
framework's own headers. -/
theorem answer_timeout (documented : express.Documented) (request : PublicRequest) (id : String) :
    ∃ p, express.answer request (.error (.forwardTimeout id)) = some p ∧ p.status = 504 ∧
      ∀ name, name ∉ ["x-powered-by", "content-type", "etag"] → name ∉ ADDED →
        p.header name = none := by
  obtain ⟨p, sent, status, own⟩ := documented.json_error request 504
    (.obj [("error", .str "forwarding failed or timed out")]) (by decide) (by decide)
  refine ⟨p, ?_, status, own⟩
  simp only [answer, fail, rejection, sent]

/-- The handler of rejections cannot answer either when the answer has trailers. -/
theorem fail_trailing (documented : express.Documented) {res : Res} (trails : trailing res)
    (request : PublicRequest) (status : Int) (error : String) :
    express.fail request res status error = none := by
  obtain ⟨_, thrown⟩ := documented.json_trailing request { res with status }
    (.obj [("error", .str error)]) trails
  rw [fail, thrown]

end Express

end DicodeRelay.Tunnel
