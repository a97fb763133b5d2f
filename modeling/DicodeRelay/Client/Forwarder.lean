import DicodeRelay.Client.Connection
import DicodeRelay.Lib.HeaderList
import DicodeRelay.Lib.Paths
import DicodeRelay.Lib.Percent

/-!
Contract: the daemon's dispatch of a request to the local server.

Owns:
- the checks a request has to pass, and the status each failure is answered
  with;
- the call of `fetch` that a request comes to;
- the response that is sent for what `fetch` came to, its body read up to a cap.

Does not own: what `fetch` makes of a URL, of redirects and of coded bodies.
-/

namespace DicodeRelay.Client

open DicodeRelay.Lib DicodeRelay.Shared

def MAX_BODY : Nat := 5 * 1024 * 1024

def HOP_BY_HOP : List String :=
  ["connection", "keep-alive", "proxy-authenticate", "proxy-authorization", "te", "trailers",
    "transfer-encoding", "upgrade", "set-cookie"]

def STRIP_INBOUND : List String := ["authorization", "cookie", "x-api-key"]

structure ForwardCtx where
  localPort : Nat
  daemonUUID : String

/-- The context `handleFrame` passes. -/
def ConnectionOptions.forwardCtx (opts : ConnectionOptions) (localPort : Nat) : ForwardCtx :=
  ⟨localPort, opts.identity.uuid opts.crypto⟩

def errorResponse (id : String) (status : Nat) : Response := ⟨id, status, .empty, ""⟩

/-! ### The request -/

/-- The path before the raw query. -/
def barePath (path : String) : String := String.ofList (path.toList.takeWhile (· ≠ '?'))

/-- The status a path is refused with. -/
def checkPath (path : String) : Option Nat :=
  match decodeURIComponent (barePath path) with
  | none => some 400
  | some decoded =>
      let normalised := String.ofList (posixNormalize decoded.toList)
      if normalised ≠ decoded ∨ normalised ≠ barePath path then some 403
      else if ¬ "/hooks/".toList <+: normalised.toList ∧ normalised ≠ "/dicode.js" then some 403
      else none

/-- The paths that pass: without escapes, in normal form, and listed. -/
theorem checkPath_eq_none {path : String} :
    checkPath path = none ↔
      '%' ∉ (barePath path).toList ∧
        posixNormalize (barePath path).toList = (barePath path).toList ∧
        ("/hooks/".toList <+: (barePath path).toList ∨ barePath path = "/dicode.js") := by
  rw [← decodeURIComponent_eq_self_iff, checkPath]
  generalize barePath path = bare
  cases decodes : decodeURIComponent bare with
  | none => simp
  | some decoded =>
      dsimp only
      by_cases changed : String.ofList (posixNormalize decoded.toList) ≠ decoded ∨
          String.ofList (posixNormalize decoded.toList) ≠ bare
      · rw [if_pos changed]
        simp only [reduceCtorEq, false_iff, not_and]
        intro same normal
        obtain rfl := Option.some.inj same
        rw [normal, String.ofList_toList] at changed
        simp at changed
      · rw [if_neg changed]
        push Not at changed
        obtain ⟨normal, same⟩ := changed
        rw [same] at normal ⊢
        obtain rfl := normal
        have toList : posixNormalize bare.toList = bare.toList := by
          rw [← String.toList_ofList (l := posixNormalize bare.toList), same]
        rw [ite_eq_right_iff]
        simp only [reduceCtorEq, imp_false, toList, true_and]
        tauto

theorem status_of_checkPath {path : String} {status : Nat}
    (refused : checkPath path = some status) : status = 400 ∨ status = 403 := by
  unfold checkPath at refused
  split at refused
  · exact Or.inl (Option.some.inj refused).symm
  · simp only at refused
    split at refused
    · exact Or.inr (Option.some.inj refused).symm
    · split at refused
      · exact Or.inr (Option.some.inj refused).symm
      · contradiction

/-- The headers that go on to the local server; `none`: one of them is not
legal, and `append` throws. -/
def forwardHeaders (headers : HeaderList) : List (String × HeaderValues) → Option HeaderList
  | [] => some headers
  | (k, hv) :: rest =>
      let lk := lowercase k
      if lk = "x-relay-base" then forwardHeaders headers rest
      else if lk ∈ STRIP_INBOUND then forwardHeaders headers rest
      else (hv.values.foldlM (fun (headers : HeaderList) v => headers.append k v) headers).bind
        (forwardHeaders · rest)

/-- The header is one that goes on: it is neither stamped anew nor stripped. -/
def goesOn (name : String) : Bool :=
  lowercase name ≠ "x-relay-base" ∧ lowercase name ∉ STRIP_INBOUND

/-- `append` throws where a header that goes on is not legal. -/
theorem forwardHeaders_isSome_iff {entries : List (String × HeaderValues)}
    {headers : HeaderList} :
    (forwardHeaders headers entries).isSome = true ↔
      ∀ e ∈ entries, goesOn e.1 = true → ∀ value ∈ e.2.values, isLegalHeader e.1 value = true := by
  induction entries generalizing headers with
  | nil => simp [forwardHeaders]
  | cons e rest inductionHypothesis =>
      rw [forwardHeaders, List.forall_mem_cons]
      by_cases stamped : lowercase e.1 = "x-relay-base"
      · have stays : goesOn e.1 ≠ true := by simp [goesOn, stamped]
        rw [if_pos stamped, inductionHypothesis]
        exact (and_iff_right fun forwarded => absurd forwarded stays).symm
      · by_cases stripped : lowercase e.1 ∈ STRIP_INBOUND
        · have stays : goesOn e.1 ≠ true := by simp [goesOn, stripped]
          rw [if_neg stamped, if_pos stripped, inductionHypothesis]
          exact (and_iff_right fun forwarded => absurd forwarded stays).symm
        · have forwarded : goesOn e.1 = true := by simp [goesOn, stamped, stripped]
          rw [if_neg stamped, if_neg stripped]
          have own := @HeaderList.foldlM_append_isSome_iff e.1 e.2.values headers
          cases appended : e.2.values.foldlM
              (fun (headers : HeaderList) value => headers.append e.1 value) headers with
          | none =>
              rw [appended] at own
              exact iff_of_false Bool.false_ne_true fun both =>
                Bool.false_ne_true (own.mpr (both.1 forwarded))
          | some grown =>
              rw [appended] at own
              rw [Option.bind_some, inductionHypothesis]
              exact (and_iff_right fun _ => own.mp rfl).symm

/-- The stamp is legal: a uuid is written in hex digits. -/
theorem stamp_legal (opts : ConnectionOptions) (localPort : Nat) :
    isLegalHeader "X-Relay-Base" ("/u/" ++ (opts.forwardCtx localPort).daemonUUID) = true := by
  have name : isHeaderName "X-Relay-Base" = true := by decide
  have digit : ∀ n : Fin 16, (hexDigit false n).toNat ≤ 0xFF ∧ (hexDigit false n).toNat ≠ 0 ∧
      hexDigit false n ≠ '\n' ∧ hexDigit false n ≠ '\r' := by decide
  have value : isHeaderValue ("/u/" ++ (opts.forwardCtx localPort).daemonUUID) = true := by
    rw [isHeaderValue, List.all_eq_true]
    intro c member
    rw [String.toList_append, List.mem_append] at member
    rcases member with literal | inUuid
    · have listed : c = '/' ∨ c = 'u' ∨ c = '/' := by simpa using literal
      rcases listed with rfl | rfl | rfl <;> decide
    · have hex :
          c ∈ (hexEncode (opts.crypto.sha256 (opts.identity.signPubkey opts.crypto))).toList :=
        inUuid
      rw [hexEncode, String.toList_ofList] at hex
      obtain ⟨b, _, inPair⟩ := List.mem_flatMap.mp hex
      have bLt : b.toNat < 256 := b.toNat_lt
      simp only [hexPair, List.mem_cons, List.not_mem_nil, or_false] at inPair
      rcases inPair with rfl | rfl
      · exact decide_eq_true (digit ⟨b.toNat / 16, by omega⟩)
      · exact decide_eq_true (digit ⟨b.toNat % 16, by omega⟩)
  rw [isLegalHeader, name, HeaderList.isHeaderValue_normalizeValue value]
  rfl

/-- What `fetch` is called with. -/
structure FetchCall where
  /-- The port and the target of the URL, which names localhost. -/
  localPort : Nat
  target : String
  method : String
  headers : HeaderList
  body : Option Bytes
deriving DecidableEq

def FetchCall.url (call : FetchCall) : String :=
  "http://localhost:" ++ toString call.localPort ++ call.target

/-- What `dispatchRequest` comes to before it calls `fetch`. -/
inductive Prepared where
  | refused (status : Nat)
  | threw
  | calls (call : FetchCall)
deriving DecidableEq

def prepareRequest (req : Request) (ctx : ForwardCtx) : Prepared :=
  match checkPath req.path with
  | some status => .refused status
  | none =>
      let body := base64Decode req.body.toList
      if body.length > MAX_BODY then .refused 413
      else
        match (forwardHeaders [] req.headers.entries).bind fun headers : HeaderList =>
            headers.set "X-Relay-Base" ("/u/" ++ ctx.daemonUUID) with
        | none => .threw
        | some headers =>
            .calls {
              localPort := ctx.localPort
              target := req.path
              method := req.method
              headers
              body := if body.length > 0 then some body else none }

/-- Every header that goes on is legal. -/
def LegalHeaders (req : Request) : Prop :=
  ∀ e ∈ req.headers.entries, goesOn e.1 = true → ∀ value ∈ e.2.values,
    isLegalHeader e.1 value = true

theorem prepareRequest_of_refused {req : Request} {status : Nat} (ctx : ForwardCtx)
    (checked : checkPath req.path = some status) : prepareRequest req ctx = .refused status := by
  rw [prepareRequest, checked]

theorem prepareRequest_of_large {req : Request} (ctx : ForwardCtx)
    (checked : checkPath req.path = none)
    (large : MAX_BODY < (base64Decode req.body.toList).length) :
    prepareRequest req ctx = .refused 413 := by
  rw [prepareRequest, checked]
  exact if_pos large

/-- A request that passes the checks throws unless its headers are legal. -/
theorem prepareRequest_of_checked {req : Request} (opts : ConnectionOptions) (localPort : Nat)
    (checked : checkPath req.path = none)
    (small : (base64Decode req.body.toList).length ≤ MAX_BODY) :
    (¬LegalHeaders req ∧ prepareRequest req (opts.forwardCtx localPort) = .threw) ∨
    (LegalHeaders req ∧ ∃ call, prepareRequest req (opts.forwardCtx localPort) = .calls call ∧
      call.localPort = localPort ∧ call.target = req.path) := by
  have legal := @forwardHeaders_isSome_iff req.headers.entries []
  unfold prepareRequest
  simp only [checked, if_neg (Nat.not_lt.mpr small)]
  cases forwarded : forwardHeaders [] req.headers.entries with
  | none =>
      rw [forwarded] at legal
      exact Or.inl ⟨fun all => Bool.false_ne_true (legal.mpr all), rfl⟩
  | some headers =>
      rw [forwarded] at legal
      simp only [Option.bind_some, HeaderList.set, if_pos (stamp_legal opts localPort)]
      exact Or.inr ⟨fun e member => legal.mp rfl e member, _, rfl, rfl, rfl⟩

/-- A call is for the port of the context and the path of the request, which
passes. -/
theorem checked_of_calls {req : Request} {ctx : ForwardCtx} {call : FetchCall}
    (called : prepareRequest req ctx = .calls call) :
    checkPath req.path = none ∧ call.localPort = ctx.localPort ∧ call.target = req.path := by
  unfold prepareRequest at called
  split at called
  · contradiction
  · rename_i passes
    dsimp only at called
    split at called
    · contradiction
    · split at called
      · contradiction
      · obtain rfl := Prepared.calls.inj called
        exact ⟨passes, rfl, rfl⟩

theorem method_of_calls {req : Request} {ctx : ForwardCtx} {call : FetchCall}
    (called : prepareRequest req ctx = .calls call) : call.method = req.method := by
  unfold prepareRequest at called
  split at called
  · contradiction
  · dsimp only at called
    split at called
    · contradiction
    · split at called
      · contradiction
      · obtain rfl := Prepared.calls.inj called
        rfl

/-! ### The response -/

/-- What the reader of a body yields, and whether it fails after that. -/
structure BodyStream where
  chunks : List Bytes
  fails : Bool

/-- What `fetch` resolves to. -/
structure FetchResponse where
  status : Nat
  headers : HeaderList
  body : Option BodyStream

/-- The read loop's variables. -/
structure BodyRead where
  buf : Bytes
  /-- How often `reader.read()` was called. -/
  reads : Nat
  cancelled : Bool

/-- The read loop on what the reader still yields; `none`: it fails. -/
def readLoop (fails : Bool) (read : BodyRead) : List Bytes → Option BodyRead
  | [] => if fails then none else some { read with reads := read.reads + 1 }
  | chunk :: rest =>
      if read.buf.length + chunk.length > MAX_BODY then
        some {
          buf := read.buf ++ chunk.take (MAX_BODY - read.buf.length)
          reads := read.reads + 1
          cancelled := true }
      else
        readLoop fails { read with buf := read.buf ++ chunk, reads := read.reads + 1 } rest

/-- At most `MAX_BODY` bytes of the body; `none`: reading it fails. -/
def readBody (body : Option BodyStream) : Option Bytes :=
  match body with
  | none => some []
  | some stream => (readLoop stream.fails ⟨[], 0, false⟩ stream.chunks).map BodyRead.buf

/-- The lowercase names every object inherits, under which a lookup finds what
has no values. -/
def INHERITED : List String := ["constructor", "__proto__"]

/-- The headers that go back to the caller; `none`: a lookup found an inherited
property, and `push` throws. -/
def responseHeaders (respHeaders : WireHeaders) : HeaderList → Option WireHeaders
  | [] => some respHeaders
  | (k, v) :: rest =>
      if lowercase k ∈ HOP_BY_HOP then responseHeaders respHeaders rest
      else
        match respHeaders.get k with
        | some existing => responseHeaders (respHeaders.set k ⟨existing.values ++ [v]⟩) rest
        | none =>
            if k ∈ INHERITED then none
            else responseHeaders (respHeaders.set k ⟨[v]⟩) rest

/-- The answer to what `fetch` resolved to; `none`: it throws. -/
def answerFetched (id : String) (resp : FetchResponse) : Option Response :=
  (readBody resp.body).bind fun buf =>
    (responseHeaders .empty resp.headers.iterate).map fun respHeaders =>
      ⟨id, resp.status, respHeaders, base64Encode buf⟩

/-- `dispatchRequest(req, ctx)`; `none`: it throws. `fetch` answers `none` where
it rejects. -/
def dispatchRequest (fetch : FetchCall → Option FetchResponse) (req : Request)
    (ctx : ForwardCtx) : Option Response :=
  match prepareRequest req ctx with
  | .refused status => some (errorResponse req.id status)
  | .threw => none
  | .calls call =>
      match fetch call with
      | none => some (errorResponse req.id 502)
      | some resp => answerFetched req.id resp

theorem dispatchRequest_of_rejected {fetch : FetchCall → Option FetchResponse} {req : Request}
    {ctx : ForwardCtx} {call : FetchCall} (called : prepareRequest req ctx = .calls call)
    (rejected : fetch call = none) :
    dispatchRequest fetch req ctx = some (errorResponse req.id 502) := by
  simp only [dispatchRequest, called, rejected]

theorem dispatchRequest_of_resolved {fetch : FetchCall → Option FetchResponse} {req : Request}
    {ctx : ForwardCtx} {call : FetchCall} {resp : FetchResponse}
    (called : prepareRequest req ctx = .calls call) (resolved : fetch call = some resp) :
    dispatchRequest fetch req ctx = answerFetched req.id resp := by
  simp only [dispatchRequest, called, resolved]

/-! ### What is answered -/

/-- The loop ends with the first `MAX_BODY` bytes, unless the reader fails before
it has yielded more. -/
theorem readLoop_eq {fails : Bool} {chunks : List Bytes} {read : BodyRead}
    (bounded : read.buf.length ≤ MAX_BODY) :
    (readLoop fails read chunks).map BodyRead.buf =
      if fails = true ∧ (read.buf ++ chunks.flatten).length ≤ MAX_BODY then none
      else some ((read.buf ++ chunks.flatten).take MAX_BODY) := by
  induction chunks generalizing read with
  | nil =>
      rw [readLoop, List.flatten_nil, List.append_nil, List.take_of_length_le bounded]
      cases fails <;> simp [bounded]
  | cons chunk rest inductionHypothesis =>
      rw [readLoop, List.flatten_cons, ← List.append_assoc]
      by_cases exceeds : read.buf.length + chunk.length > MAX_BODY
      · have longer : ¬ (read.buf ++ chunk ++ rest.flatten).length ≤ MAX_BODY := by
          rw [List.length_append, List.length_append]
          omega
        have cut : (read.buf ++ chunk ++ rest.flatten).take MAX_BODY =
            read.buf ++ chunk.take (MAX_BODY - read.buf.length) := by
          rw [List.append_assoc, List.take_append, List.take_of_length_le bounded,
            List.take_append_of_le_length (by omega)]
        rw [if_pos exceeds, if_neg fun failed => longer failed.2, cut]
        rfl
      · have fits : (read.buf ++ chunk).length ≤ MAX_BODY := by
          rw [List.length_append]
          omega
        rw [if_neg exceeds, inductionHypothesis fits]

theorem readBody_some (stream : BodyStream) : readBody (some stream) =
    if stream.fails = true ∧ stream.chunks.flatten.length ≤ MAX_BODY then none
    else some (stream.chunks.flatten.take MAX_BODY) := by
  rw [readBody, readLoop_eq (Nat.zero_le _), List.nil_append]

/-- The headers that are not stripped. -/
def keptHeaders (headers : HeaderList) : HeaderList :=
  headers.filter fun h => lowercase h.1 ∉ HOP_BY_HOP

/-- The kept headers go back to the caller, unless one has the name of an inherited
property. -/
theorem responseHeaders_eq {headers : HeaderList} {respHeaders : WireHeaders}
    (nodup : (respHeaders.keys ++ (keptHeaders headers).map Prod.fst).Nodup) :
    (responseHeaders respHeaders headers).map OrderedMap.entries =
      if (keptHeaders headers).any fun h => h.1 ∈ INHERITED then none
      else some (respHeaders.entries ++
        (keptHeaders headers).map fun h => (h.1, ⟨[h.2]⟩)) := by
  induction headers generalizing respHeaders with
  | nil => simp [responseHeaders, keptHeaders]
  | cons h rest inductionHypothesis =>
      rw [responseHeaders]
      by_cases stripped : lowercase h.1 ∈ HOP_BY_HOP
      · have skipped : keptHeaders (h :: rest) = keptHeaders rest :=
          List.filter_cons_of_neg (by simpa using stripped)
        rw [skipped] at nodup ⊢
        rw [if_pos stripped, inductionHypothesis nodup]
      · have taken : keptHeaders (h :: rest) = h :: keptHeaders rest :=
          List.filter_cons_of_pos (by simpa using stripped)
        rw [taken, List.map_cons] at nodup
        have absent : h.1 ∉ respHeaders.keys := fun present =>
          (List.nodup_append.mp nodup).2.2 _ present _ List.mem_cons_self rfl
        have unset : respHeaders.get h.1 = none := by
          by_contra present
          exact absent ((respHeaders.mem_keys_iff h.1).mpr (Option.ne_none_iff_exists'.mp present))
        rw [if_neg stripped, unset, taken, List.any_cons, List.map_cons]
        dsimp only
        by_cases inherited : h.1 ∈ INHERITED
        · rw [if_pos inherited, if_pos (by simp [inherited])]
          rfl
        · have entries := respHeaders.entries_set_of_not_mem ⟨[h.2]⟩ absent
          have keys : (respHeaders.set h.1 ⟨[h.2]⟩).keys = respHeaders.keys ++ [h.1] := by
            rw [OrderedMap.keys, entries, List.map_append]
            rfl
          rw [if_neg inherited, inductionHypothesis (by simpa [keys] using nodup), entries,
            decide_eq_false inherited, Bool.false_or, List.append_assoc]
          rfl

/-- The names of the headers that are not stripped. -/
def keptNames (headers : HeaderList) : List String :=
  headers.names.filter fun name => name ∉ HOP_BY_HOP

theorem mem_keptNames {headers : HeaderList} {name : String} :
    name ∈ keptNames headers ↔ name ∈ headers.names ∧ name ∉ HOP_BY_HOP := by
  rw [keptNames, List.mem_filter, decide_eq_true_eq]

theorem keptNames_nodup (headers : HeaderList) : (keptNames headers).Nodup :=
  headers.names_nodup.filter _

theorem keptHeaders_iterate (headers : HeaderList) :
    keptHeaders headers.iterate =
      (keptNames headers).map fun name => (name, headers.combined name) := by
  have split : ∀ names : List String, (∀ name ∈ names, lowercase name = name) →
      keptHeaders (names.flatMap fun name =>
          if name = "set-cookie" then (headers.values name).map fun value => (name, value)
          else [(name, headers.combined name)]) =
        (names.filter fun name => name ∉ HOP_BY_HOP).map
          fun name => (name, headers.combined name) := by
    intro names lower
    induction names with
    | nil => rfl
    | cons name rest inductionHypothesis =>
        have later := inductionHypothesis fun other member =>
          lower other (List.mem_cons_of_mem _ member)
        have same := lower name List.mem_cons_self
        rw [keptHeaders] at later ⊢
        rw [List.flatMap_cons, List.filter_append, later]
        by_cases stripped : name ∈ HOP_BY_HOP
        · have none : (if name = "set-cookie" then
              (headers.values name).map fun value => (name, value)
              else [(name, headers.combined name)]).filter
                (fun h => decide (lowercase h.1 ∉ HOP_BY_HOP)) = [] := by
            rw [List.filter_eq_nil_iff]
            intro h member
            have named : h.1 = name := by
              split at member
              · obtain ⟨value, _, rfl⟩ := List.mem_map.mp member
                rfl
              · rw [List.mem_singleton.mp member]
            simp [named, same, stripped]
          rw [none, List.nil_append, List.filter_cons_of_neg (by simpa using stripped)]
        · have notCookie : name ≠ "set-cookie" := by
            rintro rfl
            exact stripped (by decide)
          rw [if_neg notCookie, List.filter_cons_of_pos (by simpa [same] using stripped),
            List.filter_nil, List.filter_cons_of_pos (by simpa using stripped)]
          rfl
  exact split headers.names fun name member => HeaderList.lowercase_of_mem_names member

theorem responseHeaders_iterate (headers : HeaderList) :
    (responseHeaders .empty headers.iterate).map OrderedMap.entries =
      if (keptNames headers).any fun name => name ∈ INHERITED then none
      else some ((keptNames headers).map fun name => (name, ⟨[headers.combined name]⟩)) := by
  have kept := keptHeaders_iterate headers
  have keys : (keptHeaders headers.iterate).map Prod.fst = keptNames headers := by
    rw [kept, List.map_map]
    exact List.map_id _
  rw [responseHeaders_eq (by rw [keys]; exact keptNames_nodup headers), kept,
    List.map_map, List.any_map]
  rfl

end DicodeRelay.Client
