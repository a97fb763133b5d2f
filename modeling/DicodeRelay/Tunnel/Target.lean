import DicodeRelay.Lib.Url
import DicodeRelay.Tunnel.Ingress

/-!
Contract: the target of a public request, as the local server receives it.

Owns:
- what becomes of a public request to the hooks of a connected daemon: a refusal
  on the way, or a request to the local server;
- which requests are refused, and which targets cross without distortion;
- that a request which is not refused reaches the local server with its own
  segments and query exactly when its target crosses without distortion.

Does not own: whether the daemon is connected, the answer of the local server.
-/

namespace DicodeRelay.Tunnel

open DicodeRelay.Lib DicodeRelay.Shared

/-! ### What becomes of a request -/

inductive Outcome where
  /-- The router or the daemon's checks refuse it. -/
  | refused (status : Nat)
  /-- `fetch` is called, and puts this path and raw query on its request line. That
  counts every call: `fetch` rejects some unsent, such as a GET with a body, which the
  daemon answers with a 502, and it follows the redirects of the local server. -/
  | received (path query : String)
  /-- `dispatchRequest` throws. -/
  | failed
deriving DecidableEq

/-- The request line `fetch` makes for a target. -/
def receivedTarget (target : String) : Outcome :=
  let parsed := parseTarget target.toList
  .received (String.ofList parsed.pathname) (String.ofList (parsed.query.getD []))

/-- What the daemon does with the request message of the route's path, up to its call
of `fetch`. -/
def PublicRequest.dispatched (request : PublicRequest) (ctx : Client.ForwardCtx)
    (id path : String) : Outcome :=
  match Client.prepareRequest (request.message id path) ctx with
  | .refused status => .refused status
  | .threw => .failed
  | .calls call => receivedTarget call.target

/-- What becomes of a public request, where `ctx` is the context of the daemon it
is for. -/
def PublicRequest.outcome (request : PublicRequest) (ctx : Client.ForwardCtx) (id : String) :
    Outcome :=
  match hooksRoute request.target with
  | .error status => .refused status
  | .ok (_, path) => request.dispatched ctx id path

/-- The request is refused with a 4xx, or received with its own segments and
query. -/
def HookTarget.Faithful (target : HookTarget) : Outcome → Prop
  | .refused status => 400 ≤ status ∧ status < 500
  | .received path query =>
      query = target.query.getD "" ∧ (decodedSegments target.hook).isSome = true ∧
        decodedSegments path = decodedSegments target.hook
  | .failed => False

/-! ### The condition -/

/-- The decoded path below `/hooks/`. -/
def decodedPath (segments : List String) : List Char := joinSegments (segments.map String.toList)

/-- What the daemon takes for the path: the decoded path up to its first `?`. -/
def checkedPath (segments : List String) : List Char :=
  (decodedPath segments).takeWhile (· ≠ '?')

/-- Nothing refuses the request, whose path decodes to `segments`. -/
structure PublicRequest.Admitted (request : PublicRequest) (segments : List String) : Prop where
  uuid_some : request.target.uuid ≠ ""
  path_some : request.target.path ≠ ""
  uuid_decodes : (decodeURIComponent request.target.uuid).isSome = true
  path_decodes : decodedSegments request.target.path = some segments
  noPercent : '%' ∉ checkedPath segments
  settled : Settled (pathSegments (checkedPath segments))
  small : (request.body.getD []).length ≤ Client.MAX_BODY

/-- No decoded segment has a delimiter of the URL parser, a path that ends the
target does not end in what the parser trims, and the query has nothing that it
escapes. -/
structure HookTarget.Undistorted (target : HookTarget) (segments : List String) : Prop where
  delimiters : ∀ segment ∈ segments, ∀ c ∈ segment.toList, isDelimiter c = false
  ends : target.query = none → ∀ c, (decodedPath segments).getLast? = some c →
    isC0ControlOrSpace c = false
  query : ∀ query, target.query = some query → ∀ c ∈ query.toList, specialQuerySet c = false

/-! ### The route -/

theorem decodedSegments_hook (target : HookTarget) :
    decodedSegments target.hook =
      (decodedSegments target.path).map fun segments => "" :: "hooks" :: segments := by
  have segments : pathSegments target.hook.toList =
      [] :: "hooks".toList :: pathSegments target.path.toList := by
    rw [HookTarget.hook, String.toList_append]
    exact (pathSegments_slash _).trans (congrArg _ (pathSegments_append_slash "hooks".toList _))
  have empty : decodeURIComponent (String.ofList []) = some "" :=
    decodeURIComponent_eq_self_iff.mpr (by simp)
  have hooks : decodeURIComponent (String.ofList "hooks".toList) = some "hooks" := by
    rw [String.ofList_toList]
    exact decodeURIComponent_eq_self_iff.mpr (by decide)
  rw [decodedSegments, segments, List.mapM_cons, List.mapM_cons, empty, hooks,
    ← decodedSegments]
  cases decodedSegments target.path <;> rfl

theorem toList_queryText (query : Option String) :
    (queryText query).toList = querySuffix (query.map String.toList) := by
  cases query with
  | none => rfl
  | some query => exact String.toList_append

theorem rawQuery_originalUrl (target : HookTarget) :
    rawQuery target.originalUrl = queryText target.query := by
  have noQuery : ∀ c ∈ "/u/".toList ++ target.uuid.toList ++ target.hook.toList,
      decide (c ≠ '?') = true := by
    intro c member
    apply decide_eq_true
    rintro rfl
    rw [HookTarget.hook, String.toList_append, List.mem_append, List.mem_append,
      List.mem_append] at member
    rcases member with (literal | inUuid) | literal | inPath
    · exact absurd literal (by decide)
    · exact target.uuid_segment.2 inUuid
    · exact absurd literal (by decide)
    · exact target.path_noQuery inPath
  have suffix : (queryText target.query).toList.dropWhile (· ≠ '?') =
      (queryText target.query).toList := by
    rw [toList_queryText]
    cases target.query <;> simp [querySuffix]
  rw [rawQuery, HookTarget.originalUrl, String.toList_append, String.toList_append,
    String.toList_append, List.dropWhile_append_of_pos noQuery, suffix, String.ofList_toList]

/-- The path the route forwards to. -/
def forwardedPath (segments : List String) (query : Option String) : String :=
  "/hooks/" ++ "/".intercalate segments ++ queryText query

theorem toList_forwardedPath (segments : List String) (query : Option String) :
    (forwardedPath segments query).toList =
      "/hooks/".toList ++ (decodedPath segments ++ querySuffix (query.map String.toList)) := by
  rw [forwardedPath, String.toList_append, String.toList_append, String.toList_intercalate,
    toList_queryText, List.append_assoc]
  rfl

theorem hooksRoute_eq_ok {target : HookTarget} {uuid path : String} :
    hooksRoute target = .ok (uuid, path) ↔
      target.uuid ≠ "" ∧ target.path ≠ "" ∧ decodeURIComponent target.uuid = some uuid ∧
        ∃ segments, decodedSegments target.path = some segments ∧
          path = forwardedPath segments target.query := by
  unfold hooksRoute
  rw [rawQuery_originalUrl]
  by_cases blank : target.uuid = "" ∨ target.path = ""
  · simp only [if_pos blank, reduceCtorEq, false_iff]
    tauto
  · rw [if_neg blank]
    push Not at blank
    cases decodeURIComponent target.uuid with
    | none => simp
    | some decoded =>
        cases decodedSegments target.path with
        | none => simp
        | some segments =>
            simp only [Except.ok.injEq, Prod.mk.injEq, Option.some.injEq, exists_eq_left',
              forwardedPath]
            exact ⟨fun same => ⟨blank.1, blank.2, same.1, same.2.symm⟩,
              fun facts => ⟨facts.2.2.1, facts.2.2.2.symm⟩⟩

theorem status_of_hooksRoute {target : HookTarget} {status : Nat}
    (refused : hooksRoute target = .error status) : 400 ≤ status ∧ status < 500 := by
  unfold hooksRoute at refused
  split at refused
  · obtain rfl := Except.error.inj refused
    decide
  · split at refused
    · contradiction
    · obtain rfl := Except.error.inj refused
      decide

/-! ### The daemon's checks -/

theorem barePath_forwardedPath (segments : List String) (query : Option String) :
    (Client.barePath (forwardedPath segments query)).toList =
      "/hooks/".toList ++ checkedPath segments := by
  have literal : ∀ c ∈ "/hooks/".toList, decide (c ≠ '?') = true := by simp
  have suffix : (querySuffix (query.map String.toList)).takeWhile (· ≠ '?') = [] := by
    cases query <;> simp [querySuffix]
  rw [Client.barePath, String.toList_ofList, toList_forwardedPath,
    List.takeWhile_append_of_pos literal, List.takeWhile_append, suffix, List.append_nil,
    checkedPath]
  split
  · rename_i whole
    rw [((List.takeWhile_prefix _).eq_of_length whole)]
  · rfl

theorem checkPath_forwardedPath (segments : List String) (query : Option String) :
    Client.checkPath (forwardedPath segments query) = none ↔
      '%' ∉ checkedPath segments ∧ Settled (pathSegments (checkedPath segments)) := by
  have bare := barePath_forwardedPath segments query
  have percent : '%' ∈ (Client.barePath (forwardedPath segments query)).toList ↔
      '%' ∈ checkedPath segments := by
    rw [bare, List.mem_append]
    exact or_iff_right (by decide)
  have normal : posixNormalize (Client.barePath (forwardedPath segments query)).toList =
      (Client.barePath (forwardedPath segments query)).toList ↔
      Settled (pathSegments (checkedPath segments)) := by
    have hooks : Names "hooks".toList := by decide
    rw [bare]
    apply (posixNormalize_eq_self_iff ("hooks/".toList ++ checkedPath segments)).trans
    refine Iff.trans ?_ (settled_cons_iff hooks (pathSegments_ne_nil _))
    exact Iff.of_eq (congrArg Settled (pathSegments_append_slash "hooks".toList _))
  have listed : "/hooks/".toList <+: (Client.barePath (forwardedPath segments query)).toList := by
    rw [bare]
    exact List.prefix_append _ _
  rw [Client.checkPath_eq_none, percent, normal]
  exact ⟨fun passes => ⟨passes.1, passes.2.1⟩, fun passes => ⟨passes.1, passes.2, Or.inl listed⟩⟩

/-! ### The daemon's answer -/

/-- The daemon refuses the message or calls `fetch` with its path. -/
theorem dispatched_cases (request : PublicRequest) (opts : Client.ConnectionOptions)
    (localPort : Nat) (id path : String) :
    (∃ status, request.dispatched (opts.forwardCtx localPort) id path = .refused status ∧
      400 ≤ status ∧ status < 500 ∧
      (Client.checkPath path ≠ none ∨ Client.MAX_BODY < (request.body.getD []).length)) ∨
    (request.dispatched (opts.forwardCtx localPort) id path = receivedTarget path ∧
      Client.checkPath path = none ∧ (request.body.getD []).length ≤ Client.MAX_BODY) := by
  have body : base64Decode (request.message id path).body.toList = request.body.getD [] :=
    base64Decode_base64Encode _
  unfold PublicRequest.dispatched
  cases checked : Client.checkPath path with
  | some status =>
      left
      have refused : 400 ≤ status ∧ status < 500 := by
        rcases Client.status_of_checkPath checked with rfl | rfl <;> decide
      have message : Client.checkPath (request.message id path).path = some status := checked
      rw [Client.prepareRequest_of_refused _ message]
      exact ⟨status, rfl, refused.1, refused.2, Or.inl (by simp)⟩
  | none =>
      have message : Client.checkPath (request.message id path).path = none := checked
      by_cases large : Client.MAX_BODY < (request.body.getD []).length
      · left
        rw [Client.prepareRequest_of_large _ message (body ▸ large)]
        exact ⟨413, rfl, by decide, by decide, Or.inr large⟩
      · right
        have legal : Client.LegalHeaders (request.message id path) := by
          intro e member _
          obtain ⟨e', inHeaders, rfl⟩ := List.mem_map.mp member
          exact request.legal e' inHeaders
        have small : (base64Decode (request.message id path).body.toList).length ≤
            Client.MAX_BODY := by
          rw [body]
          exact Nat.not_lt.mp large
        rcases Client.prepareRequest_of_checked opts localPort message small with
          ⟨illegal, _⟩ | ⟨_, call, calls, _, target⟩
        · exact absurd legal illegal
        · rw [calls]
          exact ⟨congrArg receivedTarget target, rfl, Nat.not_lt.mp large⟩

/-! ### The request line -/

/-- The segments the local server decodes are the ones before escaping. -/
theorem decodedSegments_pathname {target : UrlTarget} (segments : List (List Char))
    (path : target.path = segments.map (percentEncode pathSet))
    (plain : ∀ segment ∈ segments, '%' ∉ segment ∧ '/' ∉ segment) :
    decodedSegments (String.ofList target.pathname) =
      some ("" :: segments.map String.ofList) := by
  have slashFree : ∀ segment ∈ segments.map (percentEncode pathSet), '/' ∉ segment := by
    intro escaped member slash
    obtain ⟨segment, inSegments, rfl⟩ := List.mem_map.mp member
    rcases mem_percentEncode slash with escape | ⟨inSegment, _⟩
    · exact absurd escape (by decide)
    · exact (plain segment inSegments).2 inSegment
  have empty : decodeURIComponent (String.ofList []) = some "" :=
    decodeURIComponent_eq_self_iff.mpr (by simp)
  have decoded : (segments.map (percentEncode pathSet)).mapM
      (fun segment => decodeURIComponent (String.ofList segment)) =
      some (segments.map String.ofList) := by
    rw [List.mapM_map]
    exact mapM_eq_some_map fun segment member =>
      decodeURIComponent_percentEncode fun percent => absurd percent (plain segment member).1
  rw [decodedSegments, String.toList_ofList, UrlTarget.pathname, path,
    pathSegments_spelled slashFree, List.mapM_cons, empty, decoded]
  rfl

section Received

variable {target : HookTarget} {segments : List String}

theorem segments_ne_nil (decodes : decodedSegments target.path = some segments) :
    segments ≠ [] := by
  rintro rfl
  obtain ⟨first, others, parts⟩ :=
    List.exists_cons_of_ne_nil (pathSegments_ne_nil target.path.toList)
  rw [decodedSegments, parts, List.mapM_cons] at decodes
  obtain ⟨_, _, rest⟩ := Option.bind_eq_some_iff.mp decodes
  obtain ⟨_, _, same⟩ := Option.bind_eq_some_iff.mp rest
  exact absurd (Option.some.inj same) (by simp)

/-- What the daemon calls `fetch` with, as segments and query. -/
theorem toList_forwardedPath_segments (some : segments ≠ []) (query : Option String) :
    (forwardedPath segments query).toList =
      '/' :: joinSegments ("hooks".toList :: segments.map String.toList) ++
        querySuffix (query.map String.toList) := by
  have parts : segments.map String.toList ≠ [] := by simpa using some
  rw [toList_forwardedPath, joinSegments_cons parts, decodedPath]
  rfl

theorem map_ofList_map_toList (segments : List String) :
    (segments.map String.toList).map String.ofList = segments := by
  rw [List.map_map]
  exact (List.map_congr_left fun s _ => String.ofList_toList).trans (List.map_id _)

/-- What crosses undistorted is received as it is. -/
theorem faithful_of_undistorted (decodes : decodedSegments target.path = some segments)
    (noPercent : '%' ∉ checkedPath segments)
    (settled : Settled (pathSegments (checkedPath segments)))
    (undistorted : target.Undistorted segments) :
    target.Faithful (receivedTarget (forwardedPath segments target.query)) := by
  have some := segments_ne_nil decodes
  have parts : segments.map String.toList ≠ [] := by simpa using some
  have plain : ∀ segment ∈ segments.map String.toList, ∀ c ∈ segment, isDelimiter c = false := by
    intro segment member
    obtain ⟨text, inSegments, rfl⟩ := List.mem_map.mp member
    exact undistorted.delimiters text inSegments
  have slashFree : ∀ segment ∈ segments.map String.toList, '/' ∉ segment :=
    fun segment member slash => absurd (plain segment member '/' slash) (by decide)
  have whole : checkedPath segments = decodedPath segments := by
    rw [checkedPath, List.takeWhile_eq_self_iff]
    intro c member
    apply decide_eq_true
    rintro rfl
    rcases segment_of_mem_joinSegments member with slash | ⟨segment, inSegments, inSegment⟩
    · exact absurd slash (by decide)
    · exact absurd (plain segment inSegments '?' inSegment) (by decide)
  rw [whole] at noPercent settled
  rw [decodedPath, pathSegments_joinSegments parts slashFree] at settled
  have percentFree : ∀ segment ∈ segments.map String.toList, '%' ∉ segment := by
    intro segment member percent
    exact noPercent (mem_joinSegments member percent)
  have parsed := parseTarget_joinSegments ("hooks".toList :: segments.map String.toList)
    (target.query.map String.toList) (by simp)
    (List.forall_mem_cons.mpr ⟨by simp [isDelimiter, isSeparator, endsPath, isTabOrNewline], plain⟩)
    (List.forall_mem_cons.mpr ⟨by decide, percentFree⟩)
    (List.forall_mem_cons.mpr ⟨by decide, fun segment member => settled.no_dots member⟩)
    (by
      intro noQuery c last
      rw [joinSegments_cons parts, List.getLast?_append_of_ne_nil _ (by simp),
        List.getLast?_cons] at last
      cases inPath : (joinSegments (segments.map String.toList)).getLast? with
      | none =>
          rw [inPath] at last
          obtain rfl := Option.some.inj last
          rfl
      | some d =>
          rw [inPath] at last
          obtain rfl := Option.some.inj last
          exact undistorted.ends (Option.map_eq_none_iff.mp noQuery) d inPath)
    (by
      intro text present
      obtain ⟨query, queried, rfl⟩ := Option.map_eq_some_iff.mp present
      exact undistorted.query query queried)
  rw [← toList_forwardedPath_segments some] at parsed
  have received := @decodedSegments_pathname
    (parseTarget (forwardedPath segments target.query).toList)
    ("hooks".toList :: segments.map String.toList)
    (by rw [parsed]) (List.forall_mem_cons.mpr ⟨by decide, fun segment member =>
      ⟨percentFree segment member, slashFree segment member⟩⟩)
  rw [List.map_cons, map_ofList_map_toList, String.ofList_toList] at received
  refine ⟨?_, ?_, ?_⟩
  · rw [parsed]
    cases target.query <;> simp
  · rw [decodedSegments_hook, decodes]
    rfl
  · rw [received, decodedSegments_hook, decodes]
    rfl

/-- What is received as it is has crossed undistorted. -/
theorem undistorted_of_faithful (decodes : decodedSegments target.path = some segments)
    (noPercent : '%' ∉ checkedPath segments)
    (faithful : target.Faithful (receivedTarget (forwardedPath segments target.query))) :
    target.Undistorted segments := by
  have some := segments_ne_nil decodes
  have spelled := toList_forwardedPath_segments some target.query
  have percentFree : '%' ∉ (forwardedPath segments target.query).toList.takeWhile (· ≠ '?') := by
    have bare := barePath_forwardedPath segments target.query
    rw [Client.barePath, String.toList_ofList] at bare
    rw [bare, List.mem_append, not_or]
    exact ⟨by decide, noPercent⟩
  have nonempty : urlInput (forwardedPath segments target.query).toList ≠ [] := by
    rw [spelled]
    exact urlInput_ne_nil _
  obtain ⟨parsed, path, plain, bounded⟩ := parseTarget_path percentFree nonempty
  have received := decodedSegments_pathname _ path fun segment member =>
    ⟨(plain segment member).1, fun slash => absurd ((plain segment member).2 '/' slash) (by decide)⟩
  obtain ⟨query, _, sameSegments⟩ := faithful
  rw [received, decodedSegments_hook, decodes] at sameSegments
  have same : parsed = "hooks".toList :: segments.map String.toList := by
    have texts := congrArg (List.map String.toList) (List.cons.inj (Option.some.inj sameSegments)).2
    rw [List.map_map] at texts
    have kept : parsed.map (String.toList ∘ String.ofList) = parsed :=
      (List.map_congr_left fun s _ => String.toList_ofList).trans (List.map_id _)
    rw [kept] at texts
    exact texts
  subst same
  refine ⟨?_, ?_, ?_⟩
  · intro segment member c inSegment
    exact (plain segment.toList (List.mem_cons_of_mem _ (List.mem_map_of_mem member))).2 c inSegment
  · intro noQuery c last
    refine Bool.eq_false_iff.mpr fun trimmed => ?_
    -- The trimmed target is too short to spell the segments.
    obtain ⟨init, ends⟩ := List.getLast?_eq_some_iff.mp last
    have target :
        (forwardedPath segments target.query).toList = "/hooks/".toList ++ init ++ [c] := by
      rw [toList_forwardedPath, noQuery, ends]
      simp [querySuffix]
    have shorter := (List.rdropWhile_prefix isC0ControlOrSpace ("/hooks/".toList ++ init)).length_le
    have length := congrArg List.length spelled
    rw [target, List.rdropWhile_concat_pos _ _ _ trimmed, spelledLength_eq (by simp)] at bounded
    rw [target, noQuery] at length
    simp only [querySuffix, Option.map_none, List.append_nil, List.length_append,
      List.length_cons, List.length_nil] at bounded shorter length
    omega
  · intro text queried c inText
    cases parsedQuery : (parseTarget (forwardedPath segments target.query).toList).query with
    | none =>
        rw [parsedQuery, queried] at query
        have empty : text = "" := query.symm
        simp [empty] at inText
    | some found =>
        rw [parsedQuery, queried] at query
        have same : found = text.toList := by
          rw [← String.toList_ofList (l := found)]
          exact congrArg String.toList query
        exact mem_parseTarget_query parsedQuery c (same ▸ inText)

end Received

/-! ### Fidelity -/

/-- A request that nothing refuses is received with its own segments and query
exactly when its target crosses undistorted; every other request is refused with
a 4xx. -/
theorem target_faithful_iff (request : PublicRequest) (opts : Client.ConnectionOptions)
    (localPort : Nat) (id : String) :
    request.target.Faithful (request.outcome (opts.forwardCtx localPort) id) ↔
      ∀ segments, request.Admitted segments → request.target.Undistorted segments := by
  unfold PublicRequest.outcome
  cases routed : hooksRoute request.target with
  | error status =>
      refine iff_of_true (status_of_hooksRoute routed) fun segments admitted => ?_
      obtain ⟨uuid, decoded⟩ := Option.isSome_iff_exists.mp admitted.uuid_decodes
      have route := hooksRoute_eq_ok.mpr
        ⟨admitted.uuid_some, admitted.path_some, decoded, segments, admitted.path_decodes, rfl⟩
      rw [routed] at route
      contradiction
  | ok route =>
      obtain ⟨uuid, path⟩ := route
      obtain ⟨uuidSome, pathSome, decoded, segments, decodes, rfl⟩ := hooksRoute_eq_ok.mp routed
      have only : ∀ {other}, request.Admitted other → other = segments := fun admitted =>
        Option.some.inj (admitted.path_decodes.symm.trans decodes)
      have checked := checkPath_forwardedPath segments request.target.query
      rcases dispatched_cases request opts localPort id
        (forwardedPath segments request.target.query) with
        ⟨status, refused, low, high, reason⟩ | ⟨received, passes, small⟩
      · dsimp only
        rw [refused]
        refine iff_of_true ⟨low, high⟩ fun other admitted => ?_
        obtain rfl := only admitted
        rcases reason with fails | large
        · exact absurd (checked.mpr ⟨admitted.noPercent, admitted.settled⟩) fails
        · exact absurd admitted.small (Nat.not_le.mpr large)
      · dsimp only
        rw [received]
        obtain ⟨noPercent, settled⟩ := checked.mp passes
        constructor
        · intro faithful other admitted
          obtain rfl := only admitted
          exact undistorted_of_faithful decodes noPercent faithful
        · intro undistorted
          refine faithful_of_undistorted decodes noPercent settled (undistorted segments ?_)
          exact ⟨uuidSome, pathSome, by rw [decoded]; rfl, decodes, noPercent, settled, small⟩

namespace Sample

/-- The target `/u/<uuid>/hooks/pay%3Famount=1?amount=2`. -/
def escapedMark : HookTarget where
  uuid := Relay.Sample.uuidA
  path := "pay%3Famount=1"
  query := some "amount=2"
  uuid_segment := segment_uuidA
  path_noQuery := by decide

def payment : PublicRequest where
  method := "POST"
  target := escapedMark
  headers := .empty
  body := none
  legal := legal_empty

theorem payment_outcome : payment.outcome (Client.Sample.options.forwardCtx 8080) "1" =
    .received "/hooks/pay" "amount=1?amount=2" := by
  decide +kernel

end Sample

/-- An escaped question mark ends the path. -/
theorem escaped_mark_splits : ¬ Sample.escapedMark.Faithful
    (Sample.payment.outcome (Client.Sample.options.forwardCtx 8080) "1") := by
  rw [Sample.payment_outcome]
  exact fun faithful => absurd faithful.1 (by decide)

end DicodeRelay.Tunnel
