import DicodeRelay.Lib.Json
import DicodeRelay.Shared.Protocol

/-!
Contract: a wire format, the JSON form of the envelopes.

Owns:
- the JSON of each message: camel-case keys from the server, the schema's own
  from the daemon, fields at their default left out;
- reading it back: either spelling of a key, unknown keys skipped, a `null`
  field at its default, two set variants refused;
- that this wire format is lawful.

Does not own: numbers written as strings.
-/

namespace DicodeRelay.Shared

open DicodeRelay.Lib

namespace Wire

/-! ### Fields -/

/-- The last member under one of the names, unless it is `null`. -/
def member (names : List String) (members : List (String × Json)) : Option Json :=
  match (members.reverse.find? fun m => m.1 ∈ names).map Prod.snd with
  | some .null => none
  | value => value

def textField (name : String) (value : String) : List (String × Json) :=
  if value = "" then [] else [(name, .str value)]

def readText (names : List String) (members : List (String × Json)) : Option String :=
  match member names members with
  | none => some ""
  | some value => value.asString

def readOptionalText (names : List String) (members : List (String × Json)) :
    Option (Option String) :=
  match member names members with
  | none => some none
  | some value => value.asString.map some

def readInt32 (value : Json) : Option Int :=
  match value.asInt with
  | none => none
  | some n => if isInt32 n then some n else none

def headerValuesJson (value : HeaderValues) : Json :=
  .obj (if value.values = [] then [] else [("values", .arr (value.values.map Json.str))])

def headersField (headers : WireHeaders) : List (String × Json) :=
  if headers.entries = [] then []
  else [("headers", .obj (headers.entries.map fun e => (e.1, headerValuesJson e.2)))]

def readHeaderValues : Json → Option HeaderValues
  | .obj members =>
      match member ["values"] members with
      | none => some ⟨[]⟩
      | some (.arr items) => (items.mapM Json.asString).map HeaderValues.mk
      | some _ => none
  | _ => none

def readHeaders (members : List (String × Json)) : Option WireHeaders :=
  match member ["headers"] members with
  | none => some .empty
  | some (.obj entries) =>
      (entries.mapM fun e => (readHeaderValues e.2).map fun values => (e.1, values)).map
        OrderedMap.ofList
  | some _ => none

/-! ### Messages -/

def serverJson : ServerMessage → Json
  | .welcome value => .obj [("welcome", .obj (textField "url" value.url ++
      (value.brokerPubkey.map fun key => ("brokerPubkey", Json.str key)).toList ++
      (value.protocol.map fun n => ("protocol", Json.num n 0)).toList))]
  | .error value => .obj [("error", .obj (textField "message" value.message))]
  | .request value => .obj [("request", .obj (textField "id" value.id ++
      textField "method" value.method ++ textField "path" value.path ++
      headersField value.headers ++ textField "body" value.body))]
  | .unset => .obj []

def clientJson : ClientMessage → Json
  | .hello value => .obj [("hello", .obj (textField "decrypt_pubkey" value.decryptPubkey))]
  | .response value => .obj [("response", .obj (textField "id" value.id ++
      (if value.status = 0 then [] else [("status", Json.num value.status 0)]) ++
      headersField value.headers ++ textField "body" value.body))]
  | .unset => .obj []

def readWelcome : Json → Option Welcome
  | .obj members => do
      let url ← readText ["url"] members
      let brokerPubkey ← readOptionalText ["brokerPubkey", "broker_pubkey"] members
      let protocol ← match member ["protocol"] members with
        | none => some none
        | some value => (readInt32 value).map some
      return { url, brokerPubkey, protocol }
  | _ => none

def readError : Json → Option ErrorMessage
  | .obj members => (readText ["message"] members).map ErrorMessage.mk
  | _ => none

def readRequest : Json → Option Request
  | .obj members => do
      let id ← readText ["id"] members
      let method ← readText ["method"] members
      let path ← readText ["path"] members
      let headers ← readHeaders members
      let body ← readText ["body"] members
      return { id, method, path, headers, body }
  | _ => none

def readHello : Json → Option Hello
  | .obj members => (readText ["decryptPubkey", "decrypt_pubkey"] members).map Hello.mk
  | _ => none

def readResponse : Json → Option Response
  | .obj members => do
      let id ← readText ["id"] members
      let status ← match member ["status"] members with
        | none => some 0
        | some value => readInt32 value
      let headers ← readHeaders members
      let body ← readText ["body"] members
      return { id, status, headers, body }
  | _ => none

def readServer : Json → Option ServerMessage
  | .obj members =>
      match member ["welcome"] members, member ["error"] members, member ["request"] members with
      | none, none, none => some .unset
      | some value, none, none => (readWelcome value).map .welcome
      | none, some value, none => (readError value).map .error
      | none, none, some value => (readRequest value).map .request
      | _, _, _ => none
  | _ => none

def readClient : Json → Option ClientMessage
  | .obj members =>
      match member ["hello"] members, member ["response"] members with
      | none, none => some .unset
      | some value, none => (readHello value).map .hello
      | none, some value => (readResponse value).map .response
      | _, _ => none
  | _ => none

def decode {Message : Type} (read : Json → Option Message) (frame : String) : Decoded Message :=
  match Json.parse frame with
  | none => .invalidJson
  | some value =>
      match read value with
      | none => .malformedEnvelope
      | some message => .envelope message

end Wire

open Wire

/-- The JSON wire format. -/
def jsonWire : WireFormat where
  encodeServer message := Json.stringify (serverJson message)
  decodeServer := decode readServer
  encodeClient message := Json.stringify (clientJson message)
  decodeClient := decode readClient
  hasChallengeKey frame :=
    match Json.parse frame with
    | some (.obj members) => members.any fun m => m.1 = "challenge"
    | _ => false

/-! ### Reading back -/

namespace Wire

/-- No member has one of the names. -/
def Avoids (names : List String) (members : List (String × Json)) : Prop :=
  ∀ m ∈ members, m.1 ∉ names

private theorem find?_none_of_avoids {names : List String} {members : List (String × Json)}
    (avoids : Avoids names members) : (members.reverse.find? fun m => m.1 ∈ names) = none := by
  rw [List.find?_eq_none]
  intro m found
  simpa using avoids m (List.mem_reverse.mp found)

theorem member_skip {names : List String} {before : List (String × Json)}
    (avoids : Avoids names before) (members : List (String × Json)) :
    member names (before ++ members) = member names members := by
  rw [member, member, List.reverse_append, List.find?_append, find?_none_of_avoids avoids,
    Option.or_none]

theorem member_take {names : List String} {after : List (String × Json)}
    (members : List (String × Json)) (avoids : Avoids names after) :
    member names (members ++ after) = member names members := by
  rw [member, member, List.reverse_append, List.find?_append, find?_none_of_avoids avoids,
    Option.none_or]

@[simp] theorem avoids_nil (names : List String) : Avoids names [] := by simp [Avoids]

@[simp] theorem avoids_append (names : List String) (first second : List (String × Json)) :
    Avoids names (first ++ second) ↔ Avoids names first ∧ Avoids names second := by
  simp [Avoids, or_imp, forall_and]

theorem avoids_textField {names : List String} {name : String} (other : name ∉ names)
    (value : String) : Avoids names (textField name value) := by
  unfold textField Avoids
  split
  · simp
  · simpa using other

theorem avoids_headersField {names : List String} (other : "headers" ∉ names)
    (headers : WireHeaders) : Avoids names (headersField headers) := by
  unfold headersField Avoids
  split
  · simp
  · simpa using other

theorem member_textField {names : List String} {name : String} (named : name ∈ names)
    (value : String) :
    member names (textField name value) = if value = "" then none else some (.str value) := by
  unfold textField
  split
  · rfl
  · simp [member, named]

/-- A text field between fields of other names reads back. -/
theorem readText_textField {names : List String} {name : String} (named : name ∈ names)
    (value : String) (before after : List (String × Json)) (avoidsBefore : Avoids names before)
    (avoidsAfter : Avoids names after) :
    readText names (before ++ (textField name value ++ after)) = some value := by
  rw [readText, member_skip avoidsBefore, member_take _ avoidsAfter, member_textField named]
  by_cases empty : value = ""
  · rw [if_pos empty, empty]
  · rw [if_neg empty]
    rfl

theorem readHeaderValues_headerValuesJson (value : HeaderValues) :
    readHeaderValues (headerValuesJson value) = some value := by
  unfold headerValuesJson
  split
  · rename_i noValues
    cases value
    cases noValues
    rfl
  · have strings : value.values.mapM (Json.asString ∘ Json.str) = some (value.values.map id) :=
      mapM_eq_some_map fun _ _ => rfl
    simp [readHeaderValues, member, strings]

private theorem mapM_readHeaderValues (entries : List (String × HeaderValues)) :
    ((entries.map fun e => (e.1, headerValuesJson e.2)).mapM fun e =>
      (readHeaderValues e.2).map fun values => (e.1, values)) = some entries := by
  induction entries with
  | nil => rfl
  | cons e rest inductionHypothesis =>
      rw [List.map_cons, List.mapM_cons, inductionHypothesis, readHeaderValues_headerValuesJson]
      rfl

/-- The headers between fields of other names read back. -/
theorem readHeaders_headersField (headers : WireHeaders) (before after : List (String × Json))
    (avoidsBefore : Avoids ["headers"] before) (avoidsAfter : Avoids ["headers"] after) :
    readHeaders (before ++ (headersField headers ++ after)) = some headers := by
  rw [readHeaders, member_skip avoidsBefore, member_take _ avoidsAfter]
  by_cases empty : headers.entries = []
  · rw [headersField, if_pos empty, ← headers.ofList_entries, empty]
    rfl
  · have found : member ["headers"] (headersField headers) =
        some (.obj (headers.entries.map fun e => (e.1, headerValuesJson e.2))) := by
      rw [headersField, if_neg empty]
      rfl
    have entries := mapM_readHeaderValues headers.entries
    simp only [found, entries, Option.map_some, headers.ofList_entries]

/-! An envelope with one set variant reads as that variant. -/

private theorem readServer_welcomeFields (fields : List (String × Json)) :
    readServer (.obj [("welcome", .obj fields)]) = (readWelcome (.obj fields)).map .welcome := rfl

private theorem readServer_errorFields (fields : List (String × Json)) :
    readServer (.obj [("error", .obj fields)]) = (readError (.obj fields)).map .error := rfl

private theorem readServer_requestFields (fields : List (String × Json)) :
    readServer (.obj [("request", .obj fields)]) = (readRequest (.obj fields)).map .request := rfl

private theorem readClient_helloFields (fields : List (String × Json)) :
    readClient (.obj [("hello", .obj fields)]) = (readHello (.obj fields)).map .hello := rfl

private theorem readClient_responseFields (fields : List (String × Json)) :
    readClient (.obj [("response", .obj fields)]) =
      (readResponse (.obj fields)).map .response := rfl

theorem readServer_request (value : Request) :
    readServer (serverJson (.request value)) = some (.request value) := by
  have id := readText_textField (show "id" ∈ ["id"] by decide) value.id []
    (textField "method" value.method ++
      (textField "path" value.path ++ (headersField value.headers ++ textField "body" value.body)))
    (avoids_nil _) (by simp [avoids_textField, avoids_headersField])
  have method := readText_textField (show "method" ∈ ["method"] by decide) value.method
    (textField "id" value.id)
    (textField "path" value.path ++ (headersField value.headers ++ textField "body" value.body))
    (by simp [avoids_textField]) (by simp [avoids_textField, avoids_headersField])
  have path := readText_textField (show "path" ∈ ["path"] by decide) value.path
    (textField "id" value.id ++ textField "method" value.method)
    (headersField value.headers ++ textField "body" value.body)
    (by simp [avoids_textField]) (by simp [avoids_textField, avoids_headersField])
  have headers := readHeaders_headersField value.headers
    (textField "id" value.id ++ (textField "method" value.method ++ textField "path" value.path))
    (textField "body" value.body)
    (by simp [avoids_textField]) (by simp [avoids_textField])
  have body := readText_textField (show "body" ∈ ["body"] by decide) value.body
    (textField "id" value.id ++ (textField "method" value.method ++
      (textField "path" value.path ++ headersField value.headers))) []
    (by simp [avoids_textField, avoids_headersField]) (avoids_nil _)
  simp only [List.append_assoc, List.nil_append, List.append_nil] at id method path headers body
  simp only [serverJson, readServer_requestFields, readRequest, List.append_assoc, id, method,
    path, headers, body, Option.bind_eq_bind, Option.bind_some, Option.pure_def, Option.map_some]

theorem readServer_welcome (value : Welcome) (int32 : ∀ n, value.protocol = some n → isInt32 n) :
    readServer (serverJson (.welcome value)) = some (.welcome value) := by
  obtain ⟨url, brokerPubkey, protocol⟩ := value
  have url' := readText_textField (show "url" ∈ ["url"] by decide) url []
    ((brokerPubkey.map fun key => ("brokerPubkey", Json.str key)).toList ++
      (protocol.map fun n => ("protocol", Json.num n 0)).toList)
    (avoids_nil _) (by cases brokerPubkey <;> cases protocol <;> simp [Avoids])
  have key : readOptionalText ["brokerPubkey", "broker_pubkey"] (textField "url" url ++
      ((brokerPubkey.map fun key => ("brokerPubkey", Json.str key)).toList ++
        (protocol.map fun n => ("protocol", Json.num n 0)).toList)) = some brokerPubkey := by
    rw [readOptionalText, member_skip (avoids_textField (by decide) _)]
    cases brokerPubkey <;> cases protocol <;> rfl
  have number : member ["protocol"] (textField "url" url ++
      ((brokerPubkey.map fun key => ("brokerPubkey", Json.str key)).toList ++
        (protocol.map fun n => ("protocol", Json.num n 0)).toList)) =
      protocol.map fun n => Json.num n 0 := by
    rw [member_skip (avoids_textField (by decide) _)]
    cases brokerPubkey <;> cases protocol <;> rfl
  simp only [List.nil_append] at url'
  simp only [serverJson, readServer_welcomeFields, readWelcome, List.append_assoc, url', key,
    number, Option.bind_eq_bind, Option.bind_some, Option.pure_def]
  cases protocol with
  | none => rfl
  | some n =>
      have read : readInt32 (.num n 0) = some n := by
        simp [readInt32, Json.asInt, int32 n rfl]
      simp [read]

theorem readServer_serverJson (message : ServerMessage) (typed : message.WellTyped) :
    readServer (serverJson message) = some message := by
  cases message with
  | welcome value => exact readServer_welcome value typed
  | error value =>
      have text := readText_textField (show "message" ∈ ["message"] by decide) value.message [] []
        (avoids_nil _) (avoids_nil _)
      simp only [List.nil_append, List.append_nil] at text
      simp [serverJson, readServer_errorFields, readError, text]
  | request value => exact readServer_request value
  | unset => rfl

theorem readClient_clientJson (message : ClientMessage) (typed : message.WellTyped) :
    readClient (clientJson message) = some message := by
  cases message with
  | hello value =>
      have text := readText_textField
        (show "decrypt_pubkey" ∈ ["decryptPubkey", "decrypt_pubkey"] by decide)
        value.decryptPubkey [] [] (avoids_nil _) (avoids_nil _)
      simp only [List.nil_append, List.append_nil] at text
      simp [clientJson, readClient_helloFields, readHello, text]
  | response value =>
      have statusAvoids : ∀ names : List String, "status" ∉ names → Avoids names
          (if value.status = 0 then [] else [("status", Json.num value.status 0)]) := by
        intro names other
        unfold Avoids
        split
        · simp
        · simpa using other
      have id := readText_textField (show "id" ∈ ["id"] by decide) value.id []
        ((if value.status = 0 then [] else [("status", Json.num value.status 0)]) ++
          (headersField value.headers ++ textField "body" value.body))
        (avoids_nil _) (by simp [statusAvoids, avoids_textField, avoids_headersField])
      have status : member ["status"] (textField "id" value.id ++
          ((if value.status = 0 then [] else [("status", Json.num value.status 0)]) ++
            (headersField value.headers ++ textField "body" value.body))) =
          if value.status = 0 then none else some (.num value.status 0) := by
        rw [member_skip (avoids_textField (by decide) _),
          member_take _ (by simp [avoids_textField, avoids_headersField])]
        split <;> rfl
      have headers := readHeaders_headersField value.headers
        (textField "id" value.id ++
          (if value.status = 0 then [] else [("status", Json.num value.status 0)]))
        (textField "body" value.body)
        (by simp [statusAvoids, avoids_textField]) (by simp [avoids_textField])
      have body := readText_textField (show "body" ∈ ["body"] by decide) value.body
        (textField "id" value.id ++ ((if value.status = 0 then []
          else [("status", Json.num value.status 0)]) ++ headersField value.headers))
        [] (by simp [statusAvoids, avoids_textField, avoids_headersField])
        (avoids_nil _)
      simp only [List.append_assoc, List.nil_append, List.append_nil] at id headers body
      simp only [clientJson, readClient_responseFields, readResponse, List.append_assoc, id,
        status, headers, body, Option.bind_eq_bind, Option.bind_some, Option.pure_def]
      by_cases zero : value.status = 0
      · cases value
        cases zero
        rfl
      · have int32 : isInt32 value.status := typed
        simp [zero, readInt32, Json.asInt, int32]
  | unset => rfl

end Wire

theorem jsonWire_lawful : jsonWire.Lawful where
  decodeServer_encodeServer message typed := by
    simp [jsonWire, decode, Json.parse_stringify, readServer_serverJson message typed]
  decodeClient_encodeClient message typed := by
    simp [jsonWire, decode, Json.parse_stringify, readClient_clientJson message typed]
  hasChallengeKey_encodeServer message := by
    cases message <;> simp [jsonWire, Json.parse_stringify, serverJson]

end DicodeRelay.Shared
