import DicodeRelay.Tunnel.Egress

/-!
Contract: the answer of the local server, as the public caller receives it.

Owns:
- the condition under which status, headers and entity of an answer come through;
- that they do exactly under that condition.

Does not own: requests that the daemon refuses, and calls that are never sent.
-/

namespace DicodeRelay.Tunnel

open DicodeRelay.Lib DicodeRelay.Shared
open DicodeRelay.Client (HOP_BY_HOP INHERITED MAX_BODY keptNames mem_keptNames keptNames_nodup)

/-! ### What passes the daemon -/

section Daemon

variable {codec : Codec} {method : String} {r : ServerResponse} {resp : Client.FetchResponse}

/-- The bytes the daemon passes on. -/
def Codec.delivered (codec : Codec) (method : String) (r : ServerResponse) : Bytes :=
  if bodyless method r.status then [] else (r.entity codec).output.take MAX_BODY

/-- The body is read to its end, or to the cap. -/
def Codec.Readable (codec : Codec) (method : String) (r : ServerResponse) : Prop :=
  bodyless method r.status = false → (r.entity codec).fails = true →
    MAX_BODY < (r.entity codec).output.length

instance : Decidable (codec.Readable method r) := by
  unfold Codec.Readable
  infer_instance

theorem ResolvesTo.readBody_eq (resolved : ResolvesTo codec method r resp) :
    Client.readBody resp.body =
      if codec.Readable method r then some (codec.delivered method r) else none := by
  by_cases noBody : bodyless method r.status = true
  · have readable : codec.Readable method r := by
      rw [Codec.Readable, noBody]
      exact fun impossible => absurd impossible.symm Bool.false_ne_true
    rw [resolved.without noBody, if_pos readable, Codec.delivered, if_pos noBody]
    rfl
  · obtain ⟨chunks, body, whole⟩ := resolved.body (Bool.eq_false_iff.mpr noBody)
    rw [body, Client.readBody_some, whole, Codec.delivered, if_neg noBody]
    by_cases failed : (r.entity codec).fails = true ∧ (r.entity codec).output.length ≤ MAX_BODY
    · rw [if_pos failed, if_neg fun readable => Nat.not_lt.mpr failed.2
        (readable (Bool.eq_false_iff.mpr noBody) failed.1)]
    · have readable : codec.Readable method r := fun _ fails =>
        Nat.lt_of_not_le fun short => failed ⟨fails, short⟩
      rw [if_neg failed, if_pos readable]

/-- What the daemon answers with. -/
theorem ResolvesTo.answerFetched_eq (resolved : ResolvesTo codec method r resp)
    (readable : codec.Readable method r) (own : ∀ name ∈ keptNames r.headers, name ∉ INHERITED)
    (id : String) :
    ∃ headers : WireHeaders,
      Client.answerFetched id resp =
        some ⟨id, r.status, headers, base64Encode (codec.delivered method r)⟩ ∧
      headers.entries =
        (keptNames r.headers).map fun name => (name, ⟨[r.headers.combined name]⟩) := by
  have none : ((keptNames r.headers).any fun name => name ∈ INHERITED) = false := by
    rw [List.any_eq_false]
    intro name member
    simpa using own name member
  have passed := Client.responseHeaders_iterate r.headers
  rw [none, if_neg Bool.false_ne_true, Option.map_eq_some_iff] at passed
  obtain ⟨headers, built, entries⟩ := passed
  refine ⟨headers, ?_, entries⟩
  rw [Client.answerFetched, resolved.readBody_eq, if_pos readable, Option.bind_some,
    resolved.headers, resolved.status, built]
  rfl

/-- When the daemon has no answer. -/
theorem ResolvesTo.answerFetched_none (resolved : ResolvesTo codec method r resp) {id : String}
    (fails : ¬ codec.Readable method r ∨ ∃ name ∈ keptNames r.headers, name ∈ INHERITED) :
    Client.answerFetched id resp = none := by
  rw [Client.answerFetched, resolved.readBody_eq, resolved.headers]
  rcases fails with unreadable | ⟨name, kept, inherited⟩
  · rw [if_neg unreadable]
    rfl
  · have some : ((keptNames r.headers).any fun name => name ∈ INHERITED) = true :=
      List.any_eq_true.mpr ⟨name, kept, decide_eq_true inherited⟩
    have passed := Client.responseHeaders_iterate r.headers
    rw [some, if_pos rfl, Option.map_eq_none_iff] at passed
    rw [passed]
    split <;> rfl

end Daemon

/-! ### What the listener sends -/

/-- The response object with an answer's status and kept headers. -/
structure Composed (express : Express) (r : ServerResponse) (res : Res) : Prop where
  status : res.status = r.status
  headers : ∀ name, res.headers.get name =
    if name ∈ keptNames r.headers then some (express.field name (r.headers.combined name))
    else Res.initial.headers.get name

namespace Express

/-- The last call of the handler. -/
def sent (express : Express) (request : PublicRequest) (res : Res) (body : Bytes) :
    Except Res (Option PublicResponse) :=
  if body = [] then express.finish request res else express.send request res body

/-- The media type that a value set for it goes out as. -/
def mediaType (express : Express) (body : Bytes) (value : String) : String :=
  match express.contentType value with
  | some type => type
  | none => if body = [] then "false" else "application/octet-stream"

/-- The value a kept header goes out with. -/
def sentValue (express : Express) (body : Bytes) (name value : String) : String :=
  if name = "content-type" then express.mediaType body value
  else if name = "x-powered-by" then "Express" ++ ", " ++ value
  else if body = [] then value
  else if name = "content-length" then toString body.length
  else if name = "etag" then (express.sentTag (some value) body).getD ""
  else value

end Express

section Listener

variable {express : Express} {codec : Codec} {request : PublicRequest} {r : ServerResponse}
  {method : String} {resp : Client.FetchResponse} {res : Res} {p : PublicResponse} {body : Bytes}

/-- What the listener does with a response that the daemon passes on. -/
theorem relayed_resolved (documented : express.Documented)
    (resolved : ResolvesTo codec method r resp) (readable : codec.Readable method r)
    (own : ∀ name ∈ keptNames r.headers, name ∉ INHERITED)
    (inRange : 200 ≤ r.status ∧ r.status ≤ 599) (request : PublicRequest) (id : String) :
    ∃ res, Composed express r res ∧
      express.relayed request id (Client.answerFetched id resp) =
        express.caught request (express.sent request res (codec.delivered method r)) := by
  obtain ⟨headers, answered, entries⟩ := resolved.answerFetched_eq readable own id
  have flat : (headers.mapValues HeaderValues.values).entries =
      (keptNames r.headers).map fun name => (name, [r.headers.combined name]) := by
    have mapped : (headers.mapValues HeaderValues.values).entries =
        headers.entries.map fun e => (e.1, e.2.values) := rfl
    rw [mapped, entries, List.map_map]
    rfl
  obtain ⟨res, appended, status, composed⟩ := @Express.appendHeaders_eq express documented
    (keptNames r.headers) r.headers.combined (keptNames_nodup r.headers)
    (fun name member => ⟨HeaderList.lowercase_of_mem_names (mem_keptNames.mp member).1,
      r.legal.combined (mem_keptNames.mp member).1⟩)
    { Res.initial with status := r.status } (fun _ _ => rfl)
  refine ⟨res, ⟨status, composed⟩, ?_⟩
  have body : base64Encode (codec.delivered method r) = "" ↔ codec.delivered method r = [] := by
    constructor
    · intro empty
      rw [← base64Decode_base64Encode (codec.delivered method r), empty]
      rfl
    · intro empty
      rw [empty]
      rfl
  have within : ¬ ((r.status : Int) < 100 ∨ (r.status : Int) > 599) := by omega
  rw [answered, Express.relayed]
  dsimp only
  rw [if_neg within, Express.answer, Express.handle]
  simp only [Relay.flattenResponse, flat, appended, base64Decode_base64Encode, ne_eq, body,
    ite_not, Express.sent]

/-- A kept header is set to its value, and a content type to its typed value. -/
theorem Composed.get_some (composed : Composed express r res) {name value : String}
    (kept : name ∉ HOP_BY_HOP) (present : r.headers.get name = some value) :
    res.headers.get name = some (express.field name value) := by
  obtain ⟨named, combined⟩ := Option.ite_none_right_eq_some.mp present
  obtain rfl := Option.some.inj combined
  rw [composed.headers, if_pos (mem_keptNames.mpr ⟨named, kept⟩)]

/-- No other header is set. -/
theorem Composed.get_none (composed : Composed express r res) {name : String}
    (unpowered : name ≠ "x-powered-by")
    (absent : name ∈ HOP_BY_HOP ∨ r.headers.get name = none) :
    res.headers.get name = none := by
  have notKept : name ∉ keptNames r.headers := by
    intro member
    obtain ⟨named, kept⟩ := mem_keptNames.mp member
    rcases absent with stripped | absent
    · exact kept stripped
    · rw [HeaderList.get_of_mem_names named] at absent
      contradiction
  rw [composed.headers, if_neg notKept, Res.initial, OrderedMap.get_set,
    if_neg (Ne.symm unpowered), OrderedMap.get_empty]

/-- A header that the framework does not know goes out as it came. -/
theorem Composed.get_plain (composed : Composed express r res) {name : String}
    (kept : name ∉ HOP_BY_HOP) (plain : name ≠ "content-type" ∧ name ≠ "x-powered-by") :
    res.get name = r.headers.get name := by
  rw [Res.get]
  cases present : r.headers.get name with
  | none => rw [composed.get_none plain.2 (Or.inr present), Option.map_none]
  | some value =>
      rw [composed.get_some kept present, Option.map_some, Express.field, if_neg plain.1,
        if_neg plain.2, FieldValue.wire, String.intercalate_singleton]

theorem Composed.trailer_eq_none_iff (composed : Composed express r res) :
    res.headers.get "trailer" = none ↔ r.headers.get "trailer" = none := by
  have plain : res.get "trailer" = r.headers.get "trailer" :=
    composed.get_plain (by decide) (by decide)
  rw [← plain, Res.get, Option.map_eq_none_iff]

/-- The answer has the status and the headers of the response, as they go out with
the body. -/
structure Arrives (express : Express) (r : ServerResponse) (body : Bytes) (p : PublicResponse) :
    Prop where
  status : p.status = r.status
  delivered : p.body = body
  headers : ∀ name value, name ∉ HOP_BY_HOP → r.headers.get name = some value →
    p.header name = some (express.sentValue body name value)
  own : ∀ name, name ∉ ["x-powered-by", "content-type", "etag"] → name ∉ Express.ADDED →
    r.headers.get name = none → p.header name = none

theorem Express.wire_field_of_empty (express : Express) (name value : String) :
    (express.field name value).wire = express.sentValue [] name value := by
  unfold Express.field Express.sentValue
  by_cases type : name = "content-type"
  · rw [if_pos type, if_pos type, Express.typed, Express.mediaType]
    cases express.contentType value with
    | none => rfl
    | some type =>
        dsimp only
        rw [FieldValue.wire, String.intercalate_singleton]
  · rw [if_neg type, if_neg type]
    by_cases powered : name = "x-powered-by"
    · rw [if_pos powered, if_pos powered, FieldValue.wire, String.intercalate_cons_cons,
        String.intercalate_singleton]
    · rw [if_neg powered, if_neg powered, if_pos rfl, FieldValue.wire,
        String.intercalate_singleton]

/-- An answer that ends without a body. -/
theorem Composed.arrives_of_finish (composed : Composed express r res)
    (carries : Express.Carries res [] p) (empty : p.body = []) : Arrives express r [] p := by
  refine ⟨carries.status.trans composed.status, empty, fun name value kept present => ?_,
    fun name other unadded absent => ?_⟩
  · rw [carries.kept name _ List.not_mem_nil (composed.get_some kept present),
      express.wire_field_of_empty]
  · have unpowered : name ≠ "x-powered-by" := fun same => other (by simp [same])
    exact carries.own name List.not_mem_nil unadded
      (composed.get_none unpowered (Or.inr absent))

/-- The media type of an answer with a body. -/
theorem Composed.sentType_eq (composed : Composed express r res) (documented : express.Documented)
    {value : String} (present : r.headers.get "content-type" = some value) (nonempty : body ≠ []) :
    Express.sentType res = express.mediaType body value := by
  rw [Express.sentType, composed.get_some (by decide) present, Express.field, if_pos rfl,
    Express.typed, Express.mediaType]
  cases typed : express.contentType value with
  | none => simp [FieldValue.truthy, nonempty]
  | some type =>
      have named : type ≠ "" := by
        rintro rfl
        exact documented.named value typed
      have truthy : (FieldValue.values [type]).truthy = true := by simp [FieldValue.truthy, named]
      dsimp only
      rw [if_pos truthy, FieldValue.wire, String.intercalate_singleton]

/-- An answer that is sent with a body. -/
theorem Composed.arrives_of_send (composed : Composed express r res)
    (documented : express.Documented) (nonempty : body ≠ [])
    (carries : Express.Carries res ["content-type", "content-length", "etag"] p)
    (whole : p.body = body) (type : p.header "content-type" = some (Express.sentType res))
    (length : p.header "content-length" = some (toString body.length))
    (tag : p.header "etag" = express.sentTag (res.get "etag") body) : Arrives express r body p := by
  refine ⟨carries.status.trans composed.status, whole, fun name value kept present => ?_,
    fun name other unadded absent => ?_⟩
  · by_cases isType : name = "content-type"
    · subst isType
      rw [type, composed.sentType_eq documented present nonempty, Express.sentValue, if_pos rfl]
    · by_cases isLength : name = "content-length"
      · subst isLength
        rw [length, Express.sentValue, if_neg (by decide), if_neg (by decide), if_neg nonempty,
          if_pos rfl]
      · by_cases isTag : name = "etag"
        · subst isTag
          have own : res.get "etag" = r.headers.get "etag" :=
            composed.get_plain (by decide) (by decide)
          rw [tag, own, present, Express.sentValue, if_neg (by decide), if_neg (by decide),
            if_neg nonempty, if_neg (by decide), if_pos rfl, Express.sentTag]
          split <;> rfl
        · have plain : name ∉ ["content-type", "content-length", "etag"] := by
            simp [isType, isLength, isTag]
          rw [carries.kept name _ plain (composed.get_some kept present),
            express.wire_field_of_empty]
          simp only [Express.sentValue, isType, isLength, isTag, if_false, ite_self]
  · have unpowered : name ≠ "x-powered-by" := fun same => other (by simp [same])
    have plain : name ∉ ["content-type", "content-length", "etag"] := by
      intro listed
      simp only [List.mem_cons, List.not_mem_nil, or_false, not_or, Express.ADDED] at *
      tauto
    exact carries.own name plain unadded (composed.get_none unpowered (Or.inr absent))

/-! ### Framing -/

/-- The answer is a message that can be sent: trailers are announced of a message in
chunks only, and an answer without a body promises none. -/
structure Framed (express : Express) (request : PublicRequest) (r : ServerResponse)
    (body : Bytes) : Prop where
  trailer : r.headers.get "trailer" ≠ none → body = [] ∧ request.awaitsBody r.status ∧
    r.headers.get "content-length" = none ∧ express.chunked request = true
  length : body = [] → request.awaitsBody r.status → ∀ value,
    r.headers.get "content-length" = some value → zeroLength value

theorem Composed.trailing_iff (composed : Composed express r res) :
    Express.trailing res ↔ r.headers.get "trailer" ≠ none := by
  have unchunked : res.headers.get "transfer-encoding" = none :=
    composed.get_none (by decide) (Or.inl (by decide))
  rw [Express.trailing, ne_eq, composed.trailer_eq_none_iff]
  exact and_iff_left unchunked

/-- The caller's copy of the answer is fresh. -/
def Express.Revalidates (express : Express) (request : PublicRequest) (r : ServerResponse)
    (body : Bytes) : Prop :=
  express.isFresh request r.status (express.sentTag (r.headers.get "etag") body)
    (r.headers.get "last-modified")

instance : Decidable (express.Revalidates request r body) := by
  unfold Express.Revalidates
  infer_instance

theorem Composed.sendsFresh_iff (composed : Composed express r res) :
    express.sendsFresh request res body ↔ express.Revalidates request r body := by
  have tag : res.get "etag" = r.headers.get "etag" := composed.get_plain (by decide) (by decide)
  have modified : res.get "last-modified" = r.headers.get "last-modified" :=
    composed.get_plain (by decide) (by decide)
  rw [Express.sendsFresh, Express.Revalidates, tag, modified, composed.status]

/-- The caller waits for the bytes that are passed on. -/
def Awaited (request : PublicRequest) (r : ServerResponse) (body : Bytes) : Prop :=
  body ≠ [] → request.awaitsBody r.status ∧ r.status ≠ 205

/-- An answer that cannot be framed does not reach the caller. -/
theorem Composed.caught_unframed (composed : Composed express r res)
    (documented : express.Documented) (answered : 200 ≤ r.status)
    (unframed : ¬ Framed express request r body) :
    express.caught request (express.sent request res body) = none := by
  have final : 200 ≤ res.status := by
    rw [composed.status]
    omega
  have length : res.get "content-length" = r.headers.get "content-length" :=
    composed.get_plain (by decide) (by decide)
  by_cases trailer : r.headers.get "trailer" = none
  · -- Without trailers it is the length that fails.
    have short : body = [] ∧ request.awaitsBody r.status ∧
        ∃ value, r.headers.get "content-length" = some value ∧ ¬ zeroLength value := by
      by_contra framed
      push Not at framed
      exact unframed ⟨fun announced => absurd trailer announced, framed⟩
    obtain ⟨rfl, awaits, value, present, promises⟩ := short
    rw [← length, Res.get, Option.map_eq_some_iff] at present
    obtain ⟨field, set, rfl⟩ := present
    rw [Express.sent, if_pos rfl, documented.finish_short request res field
      (composed.trailer_eq_none_iff.mpr trailer)
      (composed.get_none (by decide) (Or.inl (by decide))) final
      (by rw [composed.status]; exact awaits) set promises]
    rfl
  · have trails := composed.trailing_iff.mpr trailer
    have thrown : ∃ res', express.sent request res body = .error res' ∧ Express.trailing res' := by
      rw [Express.sent]
      by_cases empty : body = []
      · rw [if_pos empty]
        refine documented.finish_trailing request res trails ?_
        rintro ⟨awaits, unset, chunked⟩
        rw [composed.status] at awaits
        have noLength : r.headers.get "content-length" = none := by
          rw [← length, Res.get, unset, Option.map_none]
        refine unframed ⟨fun _ => ⟨empty, awaits, noLength, chunked⟩, ?_⟩
        intro _ _ value present
        rw [noLength] at present
        contradiction
      · rw [if_neg empty]
        exact documented.send_trailing request res body trails
    obtain ⟨res', threw, still⟩ := thrown
    rw [threw, Express.caught, Express.fail_trailing documented still]

/-- An answer without a body that can be framed is a complete message. -/
theorem Composed.finished (composed : Composed express r res) (documented : express.Documented)
    (answered : 200 ≤ r.status) (framed : Framed express request r []) :
    ∃ p, express.finish request res = .ok (some p) ∧ Express.Carries res [] p ∧ p.body = [] := by
  have final : 200 ≤ res.status := by
    rw [composed.status]
    omega
  have length : res.get "content-length" = r.headers.get "content-length" :=
    composed.get_plain (by decide) (by decide)
  by_cases trailer : r.headers.get "trailer" = none
  · refine documented.finish_plain request res (composed.trailer_eq_none_iff.mpr trailer)
      (composed.get_none (by decide) (Or.inl (by decide))) final fun awaits value set => ?_
    rw [composed.status] at awaits
    apply framed.length rfl awaits
    rw [← length, Res.get, set, Option.map_some]
  · obtain ⟨_, awaits, noLength, chunked⟩ := framed.trailer trailer
    refine documented.finish_inChunks request res (composed.trailing_iff.mpr trailer) final
      ⟨by rw [composed.status]; exact awaits, ?_, chunked⟩
    rw [← length, Res.get, Option.map_eq_none_iff] at noLength
    exact noLength

/-- An answer that can be framed reaches the caller, as not modified where the
caller's copy is fresh. -/
theorem Composed.caught_framed (composed : Composed express r res)
    (documented : express.Documented) (answered : 200 ≤ r.status)
    (framed : Framed express request r body) (awaited : Awaited request r body) :
    ∃ p, express.caught request (express.sent request res body) = some p ∧
      if body ≠ [] ∧ express.Revalidates request r body then p.status = 304
      else Arrives express r body p := by
  by_cases empty : body = []
  · subst empty
    obtain ⟨p, finished, carries, without⟩ := composed.finished documented answered framed
    refine ⟨p, ?_, ?_⟩
    · rw [Express.sent, if_pos rfl, finished]
      rfl
    · rw [if_neg fun fresh => fresh.1 rfl]
      exact composed.arrives_of_finish carries without
  · have noTrailer : res.headers.get "trailer" = none := by
      rw [composed.trailer_eq_none_iff]
      by_contra announced
      exact empty (framed.trailer announced).1
    obtain ⟨awaits, notReset⟩ := awaited empty
    rw [Express.sent, if_neg empty]
    by_cases fresh : express.Revalidates request r body
    · obtain ⟨p, notModified, status⟩ := documented.send_fresh request res body noTrailer
        (composed.sendsFresh_iff.mpr fresh)
      refine ⟨p, ?_, ?_⟩
      · rw [notModified]
        rfl
      · rw [if_pos ⟨empty, fresh⟩]
        exact status
    · have unchunked : res.headers.get "transfer-encoding" = none :=
        composed.get_none (by decide) (Or.inl (by decide))
      obtain ⟨p, stale, carries, whole, type, counted, tag⟩ := documented.send_stale request res
        body noTrailer unchunked (composed.sendsFresh_iff.not.mpr fresh)
        (by rw [composed.status]; omega) (by rw [composed.status]; omega)
        (by rw [composed.status]; exact awaits)
      refine ⟨p, ?_, ?_⟩
      · rw [stale]
        rfl
      · rw [if_neg fun both => fresh both.2]
        exact composed.arrives_of_send documented empty carries whole type counted tag

/-- A body is passed on under a status and for a method that have one. -/
theorem awaited_of_delivered (sameHead : method = "HEAD" ↔ request.method = "HEAD") :
    Awaited request r (codec.delivered method r) := by
  intro delivered
  have bodied : ¬ bodyless method r.status = true := fun noBody => delivered (if_pos noBody)
  simp only [bodyless, NULL_BODY_STATUS, List.mem_cons, List.not_mem_nil, or_false,
    decide_eq_true_eq, not_or] at bodied
  obtain ⟨notHead, _, _, _, noContent, resetContent, notModified⟩ := bodied
  exact ⟨⟨sameHead.not.mp notHead, by omega, by omega⟩, resetContent⟩

/-- A response that the daemon passes on. -/
def Codec.Passes (codec : Codec) (method : String) (r : ServerResponse) : Prop :=
  codec.Readable method r ∧ ∀ name ∈ keptNames r.headers, name ∉ INHERITED

/-- A response that the daemon does not pass on is answered like a timeout. -/
theorem relayed_lost (documented : express.Documented) (resolved : ResolvesTo codec method r resp)
    (lost : ¬ codec.Passes method r) (request : PublicRequest) (id : String) :
    ∃ p, express.relayed request id (Client.answerFetched id resp) = some p ∧ p.status = 504 ∧
      ∀ name, name ∉ ["x-powered-by", "content-type", "etag"] → name ∉ Express.ADDED →
        p.header name = none := by
  have silent : Client.answerFetched id resp = none := by
    apply resolved.answerFetched_none
    rw [Codec.Passes, not_and_or] at lost
    refine lost.imp_right fun some => ?_
    push Not at some
    exact some
  rw [silent]
  exact Express.answer_timeout documented request id

/-- Where the status and the location of an answer come from. -/
theorem relayed_bounds (documented : express.Documented) (resolved : ResolvesTo codec method r resp)
    (answered : 200 ≤ r.status) (sameHead : method = "HEAD" ↔ request.method = "HEAD")
    {id : String}
    (received : express.relayed request id (Client.answerFetched id resp) = some p) :
    p.status = 304 ∨ p.status = 504 ∨
      (p.status = r.status ∧ (p.header "location" ≠ none → "location" ∈ r.headers.names)) := by
  by_cases passes : codec.Passes method r
  · by_cases inRange : r.status ≤ 599
    · obtain ⟨res, composed, same⟩ := relayed_resolved documented resolved passes.1 passes.2
        ⟨answered, inRange⟩ request id
      rw [same] at received
      by_cases framed : Framed express request r (codec.delivered method r)
      · obtain ⟨q, caught, arrives⟩ := composed.caught_framed documented answered framed
          (awaited_of_delivered sameHead)
        obtain rfl := Option.some.inj (caught.symm.trans received)
        split at arrives
        · exact Or.inl arrives
        · refine Or.inr (Or.inr ⟨arrives.status, fun located => ?_⟩)
          by_contra absent
          exact located (arrives.own "location" (by decide) (by decide) (if_neg absent))
      · rw [composed.caught_unframed documented answered framed] at received
        contradiction
    · obtain ⟨headers, passed, _⟩ := resolved.answerFetched_eq passes.1 passes.2 id
      have outside : (r.status : Int) < 100 ∨ (r.status : Int) > 599 := by omega
      rw [passed, Express.relayed] at received
      dsimp only at received
      rw [if_pos outside] at received
      obtain ⟨q, timeout, status, _⟩ := Express.answer_timeout documented request id
      obtain rfl := Option.some.inj (timeout.symm.trans received)
      exact Or.inr (Or.inl status)
  · obtain ⟨q, lost, status, _⟩ := relayed_lost documented resolved passes request id
    obtain rfl := Option.some.inj (lost.symm.trans received)
    exact Or.inr (Or.inl status)

/-- The answer to a call that `fetch` rejects. -/
theorem relayed_badGateway (documented : express.Documented) (request : PublicRequest)
    (id : String) :
    ∃ p, express.relayed request id (some (Client.errorResponse id 502)) = some p ∧
      p.status = 502 := by
  have unset : ∀ name, name ≠ "x-powered-by" → Res.initial.headers.get name = none := by
    intro name unpowered
    rw [Res.initial, OrderedMap.get_set, if_neg (Ne.symm unpowered), OrderedMap.get_empty]
  obtain ⟨p, finished, carries, _⟩ := documented.finish_plain request
    { Res.initial with status := 502 } (unset "trailer" (by decide))
    (unset "transfer-encoding" (by decide)) (by decide) (by
      intro _ value set
      rw [unset "content-length" (by decide)] at set
      contradiction)
  refine ⟨p, ?_, carries.status⟩
  have handled : express.handle request (Relay.flattenResponse (Client.errorResponse id 502)) =
      express.finish request { Res.initial with status := 502 } := rfl
  have within : ¬ ((Client.errorResponse id 502).status < 100 ∨
      (Client.errorResponse id 502).status > 599) := by
    show ¬ ((502 : Int) < 100 ∨ (502 : Int) > 599)
    decide
  rw [Express.relayed, if_neg within, Express.answer, handled, finished]
  rfl

end Listener

/-! ### Transparency -/

/-- The caller receives the status, every header that is not stripped, and a body
that stands for the same entity. -/
structure Transparent (codec : Codec) (r : ServerResponse) (p : PublicResponse) : Prop where
  status : p.status = r.status
  headers : ∀ name value, name ∉ HOP_BY_HOP → r.headers.get name = some value →
    p.header name = some value
  entity : codec.entity (p.header "content-encoding") p.body = r.entity codec

/-- No header changes on the way out, and the bytes passed on stand for the entity,
although they are decoded and cut. -/
structure Unaltered (express : Express) (codec : Codec) (r : ServerResponse) (body : Bytes) :
    Prop where
  entity : codec.entity (r.headers.get "content-encoding") body = r.entity codec
  unpowered : r.headers.get "x-powered-by" = none
  typed : ∀ value, r.headers.get "content-type" = some value →
    express.mediaType body value = value
  length : body ≠ [] → ∀ value, r.headers.get "content-length" = some value →
    value = toString body.length
  tagged : body ≠ [] → r.headers.get "etag" = some "" → express.etag body = ""

/-- What a response has to be like to come through. -/
structure Carried (express : Express) (fetching : Fetching) (request : PublicRequest)
    (r : ServerResponse) : Prop where
  unredirected : r.redirects = false
  accepted : r.status ≠ 407
  taken : fetching.takes r.headers = true
  passes : fetching.codec.Passes request.method r
  framed : Framed express request r (fetching.codec.delivered request.method r)
  stale : fetching.codec.delivered request.method r ≠ [] →
    ¬ express.Revalidates request r (fetching.codec.delivered request.method r)
  unaltered : Unaltered express fetching.codec r (fetching.codec.delivered request.method r)

section Through

variable {express : Express} {codec : Codec} {fetching : Fetching} {request : PublicRequest}
  {r : ServerResponse} {resp : Client.FetchResponse} {p : PublicResponse} {body : Bytes}

theorem Unaltered.sentValue_eq (unaltered : Unaltered express codec r body) {name value : String}
    (present : r.headers.get name = some value) :
    express.sentValue body name value = value := by
  unfold Express.sentValue
  by_cases type : name = "content-type"
  · rw [if_pos type]
    exact unaltered.typed value (type ▸ present)
  · have unpowered : name ≠ "x-powered-by" := by
      rintro rfl
      rw [unaltered.unpowered] at present
      contradiction
    rw [if_neg type, if_neg unpowered]
    by_cases empty : body = []
    · rw [if_pos empty]
    · rw [if_neg empty]
      by_cases length : name = "content-length"
      · rw [if_pos length]
        exact (unaltered.length empty value (length ▸ present)).symm
      · rw [if_neg length]
        by_cases tag : name = "etag"
        · rw [if_pos tag, Express.sentTag]
          by_cases generated : (some value).getD "" = "" ∧ express.etag body ≠ ""
          · obtain ⟨rfl, some⟩ := generated
            exact absurd (unaltered.tagged empty (tag ▸ present)) some
          · rw [if_neg generated]
            rfl
        · rw [if_neg tag]

/-- An answer that arrives is transparent exactly when it is unaltered. -/
theorem Arrives.transparent_iff_unaltered (arrives : Arrives express r body p) :
    Transparent codec r p ↔ Unaltered express codec r body := by
  have coding : p.header "content-encoding" = r.headers.get "content-encoding" := by
    cases present : r.headers.get "content-encoding" with
    | none => exact arrives.own _ (by decide) (by decide) present
    | some value =>
        rw [arrives.headers _ value (by decide) present]
        simp [Express.sentValue]
  constructor
  · intro transparent
    have sent : ∀ name value, name ∉ HOP_BY_HOP → r.headers.get name = some value →
        express.sentValue body name value = value := by
      intro name value kept present
      have received := transparent.headers name value kept present
      rw [arrives.headers name value kept present] at received
      exact Option.some.inj received
    refine ⟨?_, ?_, ?_, ?_, ?_⟩
    · have entity := transparent.entity
      rwa [coding, arrives.delivered] at entity
    · by_contra present
      obtain ⟨value, powered⟩ := Option.ne_none_iff_exists'.mp present
      have received := sent _ value (by decide) powered
      rw [Express.sentValue, if_neg (by decide), if_pos rfl] at received
      have length := congrArg String.length received
      have added : ("Express" ++ ", ").length = 9 := by decide
      rw [String.length_append, added] at length
      omega
    · intro value present
      have received := sent _ value (by decide) present
      rwa [Express.sentValue, if_pos rfl] at received
    · intro nonempty value present
      have received := sent _ value (by decide) present
      rw [Express.sentValue, if_neg (by decide), if_neg (by decide), if_neg nonempty,
        if_pos rfl] at received
      exact received.symm
    · intro nonempty present
      have received := sent _ "" (by decide) present
      rw [Express.sentValue, if_neg (by decide), if_neg (by decide), if_neg nonempty,
        if_neg (by decide), if_pos rfl, Express.sentTag] at received
      by_contra generated
      rw [if_pos ⟨rfl, generated⟩, Option.getD_some] at received
      exact generated received
  · intro unaltered
    refine ⟨arrives.status, fun name value kept present => ?_, ?_⟩
    · rw [arrives.headers name value kept present, unaltered.sentValue_eq present]
    · rw [coding, arrives.delivered]
      exact unaltered.entity

/-- A response that the daemon does not pass on has a header that is lost. -/
theorem not_transparent_of_lost (lost : ¬ codec.Passes request.method r)
    (own : ∀ name, name ∉ ["x-powered-by", "content-type", "etag"] → name ∉ Express.ADDED →
      p.header name = none) : ¬ Transparent codec r p := by
  intro transparent
  have gone : ∀ name value, name ∉ HOP_BY_HOP → r.headers.get name = some value →
      name ∈ ["x-powered-by", "content-type", "etag"] ∨ name ∈ Express.ADDED := by
    intro name value kept present
    by_contra other
    rw [not_or] at other
    have received := transparent.headers name value kept present
    rw [own name other.1 other.2] at received
    contradiction
  apply lost
  constructor
  · -- Only a body under a content coding fails.
    intro _ fails
    cases coding : r.headers.get "content-encoding" with
    | none =>
        rw [ServerResponse.entity, coding] at fails
        exact absurd fails Bool.false_ne_true
    | some value => exact absurd (gone _ value (by decide) coding) (by decide)
  · intro name member inherited
    obtain ⟨named, kept⟩ := mem_keptNames.mp member
    have listed := gone name _ kept (HeaderList.get_of_mem_names named)
    rw [INHERITED, List.mem_cons, List.mem_singleton] at inherited
    rcases inherited with rfl | rfl <;> exact absurd listed (by decide)

/-- What the caller receives of an answer that `fetch` resolves with. -/
theorem relayed_transparent_iff (documented : express.Documented)
    (resolved : ResolvesTo codec request.method r resp)
    (inRange : 200 ≤ r.status ∧ r.status ≤ 599) (id : String) :
    (∃ p, express.relayed request id (Client.answerFetched id resp) = some p ∧
        Transparent codec r p) ↔
      codec.Passes request.method r ∧ Framed express request r (codec.delivered request.method r) ∧
        (codec.delivered request.method r ≠ [] →
          ¬ express.Revalidates request r (codec.delivered request.method r)) ∧
        Unaltered express codec r (codec.delivered request.method r) := by
  by_cases passes : codec.Passes request.method r
  · obtain ⟨res, composed, same⟩ := relayed_resolved documented resolved passes.1 passes.2 inRange
      request id
    have awaited : Awaited request r (codec.delivered request.method r) :=
      awaited_of_delivered Iff.rfl
    rw [same]
    by_cases framed : Framed express request r (codec.delivered request.method r)
    · obtain ⟨q, caught, outcome⟩ := composed.caught_framed documented inRange.1 framed awaited
      have received : (∃ p, express.caught request
          (express.sent request res (codec.delivered request.method r)) = some p ∧
            Transparent codec r p) ↔ Transparent codec r q := by
        rw [caught]
        simp
      rw [received]
      by_cases fresh : codec.delivered request.method r ≠ [] ∧
          express.Revalidates request r (codec.delivered request.method r)
      · rw [if_pos fresh] at outcome
        refine iff_of_false (fun transparent => ?_) fun all => all.2.2.1 fresh.1 fresh.2
        have status := transparent.status
        have modified := (awaited fresh.1).1.2.2
        omega
      · rw [if_neg fresh] at outcome
        rw [outcome.transparent_iff_unaltered, and_iff_right passes, and_iff_right framed]
        exact (and_iff_right fun nonempty copied => fresh ⟨nonempty, copied⟩).symm
    · rw [composed.caught_unframed documented inRange.1 framed]
      refine iff_of_false ?_ fun all => framed all.2.1
      rintro ⟨p, received, _⟩
      contradiction
  · obtain ⟨q, lost, _, own⟩ := relayed_lost documented resolved passes request id
    rw [lost]
    refine iff_of_false ?_ fun all => passes all.1
    rintro ⟨p, received, transparent⟩
    obtain rfl := Option.some.inj received
    exact not_transparent_of_lost passes own transparent

/-- A followed redirect has neither the status nor the location of the answer. -/
theorem not_transparent_of_redirects (documented : express.Documented)
    (fetches : fetching.Documented) {server : Client.FetchCall → Option ServerResponse}
    {call : Client.FetchCall} (sent : fetching.sends call = true) (answers : server call = some r)
    (redirects : r.redirects = true) (followed : fetching.fetch server call = some resp)
    (method : call.method = request.method) {id : String}
    (received : express.relayed request id (Client.answerFetched id resp) = some p) :
    ¬ Transparent codec r p := by
  intro transparent
  obtain ⟨final, finalMethod, resolved, settled, answered, sameHead⟩ :=
    fetches.follows server call r resp sent answers redirects followed
  rw [method] at sameHead
  have bounds := relayed_bounds documented resolved answered sameHead received
  have status := transparent.status
  simp only [ServerResponse.redirects, REDIRECT_STATUS, List.mem_cons, List.not_mem_nil, or_false,
    decide_eq_true_eq] at redirects
  obtain ⟨redirectStatus, located⟩ := redirects
  rcases bounds with notModified | timeout | ⟨same, location⟩
  · omega
  · omega
  · have passed := transparent.headers "location" _ (by decide)
      (HeaderList.get_of_mem_names located)
    have finalLocated := location (Option.ne_none_iff_exists'.mpr ⟨_, passed⟩)
    have sameStatus : final.status = r.status := by omega
    simp [ServerResponse.redirects, REDIRECT_STATUS, sameStatus, redirectStatus,
      finalLocated] at settled

/-- The daemon's own 502 has another status than the answer. -/
theorem not_transparent_of_rejected (documented : express.Documented) (other : r.status ≠ 502)
    (id : String) :
    ¬ ∃ p, express.relayed request id (some (Client.errorResponse id 502)) = some p ∧
      Transparent codec r p := by
  rintro ⟨p, received, transparent⟩
  obtain ⟨q, gateway, status⟩ := relayed_badGateway documented request id
  obtain rfl := Option.some.inj (gateway.symm.trans received)
  have same := transparent.status
  omega

/-- A response of the local server reaches the public caller transparently exactly
when it is one that is carried. Where its headers are not taken, the caller
gets the daemon's own 502; a 502 of the local server is then not told apart. -/
theorem transparent_iff (documented : express.Documented) (fetches : fetching.Documented)
    (server : Client.FetchCall → Option ServerResponse) (request : PublicRequest)
    (id path : String) (ctx : Client.ForwardCtx) {call : Client.FetchCall}
    (called : Client.prepareRequest (request.message id path) ctx = .calls call)
    (sent : fetching.sends call = true) (answers : server call = some r)
    (inRange : 200 ≤ r.status ∧ r.status ≤ 599)
    (distinct : fetching.takes r.headers = true ∨ r.status ≠ 502) :
    (∃ p, express.relayed request id
          (Client.dispatchRequest (fetching.fetch server) (request.message id path) ctx) = some p ∧
        Transparent fetching.codec r p) ↔
      Carried express fetching request r := by
  have method : call.method = request.method := Client.method_of_calls called
  have rejected : fetching.fetch server call = none → r.status ≠ 502 →
      ¬ ∃ p, express.relayed request id (Client.dispatchRequest (fetching.fetch server)
          (request.message id path) ctx) = some p ∧ Transparent fetching.codec r p := by
    intro fails other
    rw [Client.dispatchRequest_of_rejected called fails]
    exact not_transparent_of_rejected documented other id
  by_cases redirects : r.redirects = true
  · refine iff_of_false ?_ fun carried => ?_
    · cases followed : fetching.fetch server call with
      | none =>
          apply rejected followed
          intro gateway
          simp [ServerResponse.redirects, REDIRECT_STATUS, gateway] at redirects
      | some resp =>
          rw [Client.dispatchRequest_of_resolved called followed]
          rintro ⟨p, received, transparent⟩
          exact not_transparent_of_redirects documented fetches sent answers redirects followed
            method received transparent
    · rw [carried.unredirected] at redirects
      contradiction
  · have settled : r.redirects = false := Bool.eq_false_iff.mpr redirects
    by_cases refused : fetching.takes r.headers = false ∨ r.status = 407
    · refine iff_of_false (rejected (fetches.rejects server call r sent answers refused) ?_) ?_
      · rcases refused with untaken | unauthorised
        · rw [untaken] at distinct
          exact distinct.resolve_left Bool.false_ne_true
        · omega
      · intro carried
        rcases refused with untaken | unauthorised
        · rw [carried.taken] at untaken
          contradiction
        · exact carried.accepted unauthorised
    · rw [not_or, Bool.not_eq_false] at refused
      obtain ⟨resp, resolves, resolved⟩ :=
        fetches.resolves server call r sent answers inRange.1 refused.1 settled refused.2
      rw [method] at resolved
      rw [Client.dispatchRequest_of_resolved called resolves]
      apply (relayed_transparent_iff documented resolved inRange id).trans
      constructor
      · rintro ⟨passes, framed, stale, unaltered⟩
        exact ⟨settled, refused.2, refused.1, passes, framed, stale, unaltered⟩
      · intro carried
        exact ⟨carried.passes, carried.framed, carried.stale, carried.unaltered⟩

end Through

namespace Sample

def orders : HookTarget where
  uuid := "a"
  path := "pay"
  query := none
  uuid_segment := by decide +kernel
  path_noQuery := noQuery_pay

def order : PublicRequest where
  method := "POST"
  target := orders
  headers := .empty
  body := none
  legal := legal_empty

def mime (value : String) : Option String :=
  if value = "" then none
  else if value = "application/json" then some "application/json; charset=utf-8"
  else some value

def tag (body : Bytes) : String := "W/" ++ toString body.length

def typed (value : String) : FieldValue :=
  match mime value with
  | some type => .values [type]
  | none => .unknown

/-- `res.append`, which throws for a second content type. -/
def append (res : Res) (field value : String) : Except Res Res :=
  let name := lowercase field
  match res.headers.get name with
  | some (.values previous) =>
      if name = "content-type" then .error res
      else .ok (res.set name (.values (previous ++ [value])))
  | _ => .ok (res.set name (if name = "content-type" then typed value else .values [value]))

instance (res : Res) : Decidable (Express.trailing res) := by
  unfold Express.trailing
  infer_instance

/-- A buffer with the headers that describe it. -/
def send (request : PublicRequest) (res : Res) (body : Bytes) :
    Except Res (Option PublicResponse) :=
  if Express.trailing res then .error res
  else .ok (some {
    status := res.status
    header := fun name =>
      if name = "content-type" then some (Express.sentType res)
      else if name = "content-length" then some (toString body.length)
      else if name = "etag" then
        if (res.get "etag").getD "" = "" then some (tag body) else res.get "etag"
      else res.get name
    body := if request.awaitsBody res.status then body else [] })

def finish (request : PublicRequest) (res : Res) : Except Res (Option PublicResponse) :=
  let awaits := request.awaitsBody res.status
  let length := res.headers.get "content-length"
  if Express.trailing res ∧ ¬ (awaits ∧ length = none) then .error res
  else if awaits ∧ (length.map fun value => decide (zeroLength value.wire)) = some false then
    .ok none
  else .ok (some ⟨res.status, res.get, []⟩)

/-- An HTTP/1.1 framework, with copies that are never fresh. -/
def express : Express where
  contentType := mime
  etag := tag
  fresh _ _ _ := false
  chunked _ := true
  append := append
  send := send
  finish := finish
  json request res value :=
    send request (res.set "content-type" (typed "application/json")) (utf8 (Json.stringify value))

theorem tag_ne_empty (body : Bytes) : tag body ≠ "" := by
  intro empty
  have length := congrArg String.length empty
  rw [tag, String.length_append] at length
  simp at length

theorem mime_ne_empty (value : String) : mime value ≠ some "" := by
  intro empty
  rw [mime] at empty
  split at empty
  · contradiction
  · split at empty
    · simp at empty
    · rename_i some _
      exact some (Option.some.inj empty)

/-- Without a call that sets headers of its own, the headers go out as they are set. -/
theorem carries_get (res : Res) : Express.Carries res [] ⟨res.status, res.get, []⟩ := by
  refine ⟨rfl, ?_, ?_⟩
  · intro name value _ set
    simp only [Res.get, set, Option.map_some]
  · intro name _ _ absent
    simp only [Res.get, absent, Option.map_none]

theorem send_untrailed (request : PublicRequest) {res : Res} (body : Bytes)
    (unset : res.headers.get "trailer" = none) (awaits : request.awaitsBody res.status) :
    ∃ p, send request res body = .ok (some p) ∧
      Express.Carries res ["content-type", "content-length", "etag"] p ∧ p.body = body ∧
      p.header "content-type" = some (Express.sentType res) ∧
      p.header "content-length" = some (toString body.length) ∧
      p.header "etag" = express.sentTag (res.get "etag") body := by
  rw [send, if_neg fun trails => trails.1 unset]
  refine ⟨_, rfl, ⟨rfl, ?_, ?_⟩, if_pos awaits, rfl, rfl, ?_⟩
  · intro name value other set
    simp only [List.mem_cons, List.not_mem_nil, or_false, not_or] at other
    simp only [other, if_false, Res.get, set, Option.map_some]
  · intro name other _ absent
    simp only [List.mem_cons, List.not_mem_nil, or_false, not_or] at other
    simp only [other, if_false, Res.get, absent, Option.map_none]
  · have generates : express.etag body ≠ "" := tag_ne_empty body
    simp only [Express.sentTag, generates, ne_eq, not_false_eq_true, and_true]
    rfl

theorem finish_untrailed (request : PublicRequest) {res : Res}
    (unset : res.headers.get "trailer" = none)
    (promised : request.awaitsBody res.status → ∀ value,
      res.headers.get "content-length" = some value → zeroLength value.wire) :
    finish request res = .ok (some ⟨res.status, res.get, []⟩) := by
  have kept : ¬ (request.awaitsBody res.status ∧
      ((res.headers.get "content-length").map fun value =>
        decide (zeroLength value.wire)) = some false) := by
    rintro ⟨awaits, short⟩
    obtain ⟨value, set, promises⟩ := Option.map_eq_some_iff.mp short
    exact (decide_eq_false_iff_not.mp promises) (promised awaits value set)
  simp only [finish]
  rw [if_neg fun both => both.1.1 unset, if_neg kept]

/-- An error has none but the framework's own headers. -/
theorem json_initial (request : PublicRequest) (status : Int) (value : Json) :
    ∃ p, express.json request { Res.initial with status } value = .ok (some p) ∧
      p.status = status ∧
      ∀ name, name ∉ ["x-powered-by", "content-type", "etag"] → name ∉ Express.ADDED →
        p.header name = none := by
  have unset : ∀ name, name ∉ ["x-powered-by", "content-type", "etag"] →
      ((Res.mk status Res.initial.headers).set "content-type"
        (typed "application/json")).headers.get name = none := by
    intro name other
    simp only [List.mem_cons, List.not_mem_nil, or_false, not_or] at other
    simp [Res.set, Res.initial, OrderedMap.get_set, Ne.symm other.1, Ne.symm other.2.1]
  have noTrailer := unset "trailer" (by decide)
  simp only [express, send]
  rw [if_neg fun trails => trails.1 noTrailer]
  refine ⟨_, rfl, rfl, fun name other unadded => ?_⟩
  have notLength : name ≠ "content-length" := by
    rintro rfl
    exact unadded (by decide)
  have absent := unset name other
  simp only [List.mem_cons, List.not_mem_nil, or_false, not_or] at other
  simp only [other, notLength, if_false, Res.get, absent, Option.map_none]

theorem express_documented : express.Documented where
  named := mime_ne_empty
  append_unset := by
    intro res name value lower _ notType unset
    simp only [express, append, lower, unset, if_neg notType]
  append_type := by
    intro res value _ unset
    have lower : lowercase "content-type" = "content-type" := by decide
    simp only [express, append, lower, unset, if_true]
    rfl
  append_set := by
    intro res name value previous lower _ notType set _
    simp only [express, append, lower, set, if_neg notType, List.singleton_append]
  send_fresh := by
    intro request res body _ fresh
    exact absurd fresh.2.2 Bool.false_ne_true
  send_stale := by
    intro request res body unset _ _ _ _ awaits
    exact send_untrailed request body unset awaits
  send_trailing := by
    intro request res body trails
    exact ⟨res, if_pos trails, trails⟩
  finish_plain := by
    intro request res unset _ _ promised
    exact ⟨_, finish_untrailed request unset promised, carries_get res, rfl⟩
  finish_short := by
    intro request res value unset _ _ awaits set promises
    simp only [express, finish, set, Option.map_some, decide_eq_false promises]
    rw [if_neg fun both => both.1.1 unset, if_pos ⟨awaits, trivial⟩]
  finish_inChunks := by
    intro request res trails _ chunks
    refine ⟨⟨res.status, res.get, []⟩, ?_, carries_get res, rfl⟩
    simp only [express, finish, chunks.2.1, Option.map_none]
    rw [if_neg fun both => both.2 ⟨chunks.1, trivial⟩, if_neg fun both => by simp at both]
  finish_trailing := by
    intro request res trails unchunked
    refine ⟨res, ?_, trails⟩
    simp only [express, finish]
    rw [if_pos ⟨trails, fun both => unchunked ⟨both.1, both.2, rfl⟩⟩]
  json_error := by
    intro request status value _ _
    exact json_initial request status value
  json_trailing := by
    intro request res value trails
    refine ⟨_, if_pos (?_ : Express.trailing (res.set "content-type" (typed "application/json")))⟩
    obtain ⟨announced, unchunked⟩ := trails
    constructor
    · rw [Res.set, OrderedMap.get_set, if_neg (by decide)]
      exact announced
    · rw [Res.set, OrderedMap.get_set, if_neg (by decide)]
      exact unchunked

/-- The answer to a webhook, with its own entity tag. -/
def received : ServerResponse where
  status := 202
  headers := [("Content-Type", "text/plain; charset=utf-8"), ("ETag", "v1"), ("X-Trace", "a")]
  body := [0x6f, 0x6b]
  legal := by
    unfold HeaderList.Legal
    decide +kernel

def seeOther : ServerResponse where
  status := 303
  headers := [("Location", "/hooks/done")]
  body := []
  legal := by
    unfold HeaderList.Legal
    decide +kernel

def codec : Codec := ⟨fun _ => false, fun _ body => ⟨body, false⟩⟩

def response (method : String) (r : ServerResponse) : Client.FetchResponse where
  status := r.status
  headers := r.headers
  body := if bodyless method r.status then none else some ⟨[(r.entity codec).output],
    (r.entity codec).fails⟩

theorem resolves_response (method : String) (r : ServerResponse) :
    ResolvesTo codec method r (response method r) := by
  refine ⟨rfl, rfl, fun noBody => if_pos noBody, fun bodied => ⟨[(r.entity codec).output], ?_, ?_⟩⟩
  · exact if_neg (Bool.eq_false_iff.mp bodied)
  · rw [List.flatten_singleton]

def sends (call : Client.FetchCall) : Bool :=
  ¬ ((call.method = "GET" ∨ call.method = "HEAD") ∧ call.body.isSome)

def takes (headers : HeaderList) : Bool :=
  (headers.map fun h => h.1.length + h.2.length).sum < 16384

/-- Redirects lead to `received`. -/
def fetch (server : Client.FetchCall → Option ServerResponse) (call : Client.FetchCall) :
    Option Client.FetchResponse :=
  if sends call then
    (server call).bind fun r =>
      if takes r.headers ∧ r.status ≠ 407 then
        some (response call.method (if r.redirects then received else r))
      else none
  else none

theorem fetch_of_sent {server : Client.FetchCall → Option ServerResponse}
    {call : Client.FetchCall} {r : ServerResponse} (sent : sends call = true)
    (answers : server call = some r) :
    fetch server call =
      if takes r.headers ∧ r.status ≠ 407 then
        some (response call.method (if r.redirects then received else r))
      else none := by
  rw [fetch, if_pos sent, answers, Option.bind_some]

def fetching : Fetching := ⟨codec, sends, takes, fetch⟩

theorem fetching_documented : fetching.Documented where
  resolves := by
    intro server call r sent answers _ taken settled accepted
    refine ⟨response call.method r, ?_, resolves_response call.method r⟩
    have passed : takes r.headers = true ∧ r.status ≠ 407 := ⟨taken, accepted⟩
    apply (fetch_of_sent sent answers).trans
    rw [if_pos passed, settled]
    rfl
  rejects := by
    intro server call r sent answers refused
    apply (fetch_of_sent sent answers).trans
    rw [if_neg]
    rintro ⟨taken, accepted⟩
    rcases refused with untaken | unauthorised
    · exact absurd (taken.symm.trans untaken) (by decide)
    · exact accepted unauthorised
  follows := by
    intro server call r resp sent answers redirects followed
    have settled : received.redirects = false := by decide +kernel
    refine ⟨received, call.method, ?_, settled, by decide, Iff.rfl⟩
    have fetched := (fetch_of_sent sent answers).symm.trans followed
    rw [redirects, if_pos rfl, Option.ite_none_right_eq_some] at fetched
    obtain rfl := Option.some.inj fetched.2
    exact resolves_response call.method received

def plainCtx : Client.ForwardCtx := ⟨8080, "a"⟩

def plainCall : Client.FetchCall :=
  ⟨8080, "/hooks/pay", "POST", [("X-Relay-Base", "/u/a")], none⟩

theorem prepareRequest_order :
    Client.prepareRequest (order.message "1" "/hooks/pay") plainCtx = .calls plainCall := by
  decide +kernel

end Sample

theorem transparent_received :
    ∃ p, Sample.express.relayed Sample.order "1"
        (Client.dispatchRequest (Sample.fetching.fetch fun _ => some Sample.received)
          (Sample.order.message "1" "/hooks/pay") Sample.plainCtx) = some p ∧
      Transparent Sample.codec Sample.received p := by
  refine (transparent_iff Sample.express_documented Sample.fetching_documented
    (fun _ => some Sample.received) Sample.order "1" "/hooks/pay" Sample.plainCtx
    Sample.prepareRequest_order (by decide) rfl (by decide) (Or.inl (by decide))).mpr ?_
  have unset : ∀ name ∈ ["trailer", "content-length", "content-encoding"],
      Sample.received.headers.get name = none := by decide +kernel
  refine ⟨by decide +kernel, by decide, by decide, ⟨by decide +kernel, by decide +kernel⟩, ?_, ?_,
    ?_⟩
  · refine ⟨fun announced => absurd (unset _ (by decide)) announced, fun empty => ?_⟩
    exact absurd empty (by decide +kernel)
  · exact fun _ fresh => Bool.false_ne_true fresh.2.2
  · refine ⟨by decide +kernel, by decide +kernel, ?_, ?_, ?_⟩
    · intro value present
      obtain rfl : "text/plain; charset=utf-8" = value := Option.some.inj present
      decide
    · intro _ value present
      rw [unset _ (by decide)] at present
      contradiction
    · exact fun _ present => absurd present (by decide +kernel)

/-- A redirect is followed instead of being passed on. -/
theorem redirect_followed :
    ¬ ∃ p, Sample.express.relayed Sample.order "1"
        (Client.dispatchRequest (Sample.fetching.fetch fun _ => some Sample.seeOther)
          (Sample.order.message "1" "/hooks/pay") Sample.plainCtx) = some p ∧
      Transparent Sample.codec Sample.seeOther p := by
  rintro ⟨p, received, transparent⟩
  have sent : Sample.fetching.sends Sample.plainCall = true := by decide
  have redirects : Sample.seeOther.redirects = true := by decide +kernel
  have followed : Sample.fetching.fetch (fun _ => some Sample.seeOther) Sample.plainCall =
      some (Sample.response "POST" Sample.received) := rfl
  rw [Client.dispatchRequest_of_resolved Sample.prepareRequest_order followed] at received
  exact not_transparent_of_redirects Sample.express_documented Sample.fetching_documented sent
    rfl redirects followed rfl received transparent

end DicodeRelay.Tunnel
