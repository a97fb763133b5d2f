import DicodeRelay.Client.Forwarder
import DicodeRelay.Lib.HttpUrl

/-!
Contract: the local paths that requests of the broker reach.

Owns:
- the paths that are listed, and the paths of requests that stay listed as the
  URL parser reads them;
- that a request that passes the checks reaches a listed path of the local server
  exactly when its path is one of these.

Does not own: redirects the local server answers with.
-/

namespace DicodeRelay.Client

open DicodeRelay.Lib DicodeRelay.Shared

/-! ### Paths -/

/-- The local paths that are open to the broker. -/
def Listed (pathname : List Char) : Prop :=
  pathname = "/dicode.js".toList ∨ "/hooks/".toList <+: pathname

instance : DecidablePred Listed := fun _ => inferInstanceAs (Decidable (_ ∨ _))

/-- The segments enter `hooks` from the root, go on and stay below it, or end with
`dicode.js` at the root. -/
def StaysListed (segments : List (List Char)) : Prop :=
  (∃ rest, rest ≠ [] ∧ Enters "hooks".toList segments rest) ∨
    ∃ before, segments = before ++ ["dicode.js".toList] ∧ climbs 0 before = 0

/-- The segments of a request's path, as the URL parser separates them. -/
def parsedSegments (path : String) : List (List Char) := rawSegments (urlInput path.toList)

/-! ### What the parser reads -/

/-- A path that passes begins with a slash, and has no escape before its query. -/
theorem slash_of_checkPath {path : String} (passes : checkPath path = none) :
    '%' ∉ path.toList.takeWhile (· ≠ '?') ∧ ∃ rest, path.toList = '/' :: rest := by
  obtain ⟨noPercent, _, listed⟩ := checkPath_eq_none.mp passes
  have bare : (barePath path).toList = path.toList.takeWhile (· ≠ '?') := String.toList_ofList
  refine ⟨bare ▸ noPercent, ?_⟩
  have start : ∃ rest, (barePath path).toList = '/' :: rest := by
    rcases listed with ⟨rest, equal⟩ | same
    · exact ⟨_, equal.symm⟩
    · exact ⟨"dicode.js".toList, by rw [same]; rfl⟩
  obtain ⟨rest, equal⟩ := start
  obtain ⟨more, whole⟩ := List.takeWhile_prefix (l := path.toList) (· ≠ '?')
  rw [← bare, equal] at whole
  exact ⟨rest ++ more, whole.symm⟩

/-- What is left of the segments of a path that passes, when its dot segments are
resolved, is the local path. -/
theorem listed_pathname_iff {path : String} (passes : checkPath path = none) :
    Listed (parseTarget path.toList).pathname ↔ StaysListed (parsedSegments path) := by
  have percentFree : ∀ segment ∈ parsedSegments path, '%' ∉ segment := by
    intro segment member percent
    refine (slash_of_checkPath passes).1 (mem_pathPart ?_)
    exact List.mem_of_mem_tail (mem_of_mem_splitOnP member percent)
  have path' : (parseTarget path.toList).path =
      (resolveSegments [] (parsedSegments path)).map (percentEncode pathSet) :=
    resolveSegments_percentEncode percentFree []
  have slashFree : ∀ segment ∈ (parseTarget path.toList).path, '/' ∉ segment := by
    intro segment member slash
    rw [path'] at member
    obtain ⟨raw, resolved, rfl⟩ := List.mem_map.mp member
    rcases mem_percentEncode slash with escape | ⟨inRaw, _⟩
    · exact absurd escape (by decide)
    · rcases mem_resolveSegments resolved with new | parsed | rfl
      · simp at new
      · exact absurd (mem_rawSegments parsed '/' inRaw).2.2 (by decide)
      · simp at inRaw
  have hooks : "/hooks/".toList <+: (parseTarget path.toList).pathname ↔
      ∃ rest, rest ≠ [] ∧ Enters "hooks".toList (parsedSegments path) rest := by
    refine Iff.trans ?_ (resolveSegments_eq_cons_cons_iff (by decide))
    apply (@isPrefix_pathname_iff _ "hooks".toList slashFree (by decide)).trans
    have unescaped : ∀ segment, percentEncode pathSet segment = "hooks".toList ↔
        segment = "hooks".toList :=
      fun segment => percentEncode_eq_iff (by decide) (by simp [pathSet, querySet])
    rw [path']
    constructor
    · rintro ⟨next, others, equal⟩
      obtain ⟨first, rest, resolved, named, more⟩ := List.map_eq_cons_iff.mp equal
      obtain ⟨second, rest', rfl, _⟩ := List.map_eq_cons_iff.mp more
      exact ⟨second, rest', by rw [resolved, (unescaped first).mp named]⟩
    · rintro ⟨next, others, resolved⟩
      rw [resolved, List.map_cons, List.map_cons, (unescaped _).mpr rfl]
      exact ⟨_, _, rfl⟩
  have script : (parseTarget path.toList).pathname = "/dicode.js".toList ↔
      ∃ before, parsedSegments path = before ++ ["dicode.js".toList] ∧ climbs 0 before = 0 := by
    refine Iff.trans ?_ (resolveSegments_eq_singleton_iff (by decide) (by decide))
    apply (@pathname_eq_singleton_iff _ "dicode.js".toList slashFree (by decide)).trans
    have unescaped : ∀ segment, percentEncode pathSet segment = "dicode.js".toList ↔
        segment = "dicode.js".toList :=
      fun segment => percentEncode_eq_iff (by decide) (by simp [pathSet, querySet])
    rw [path', List.map_eq_singleton_iff]
    constructor
    · rintro ⟨segment, resolved, named⟩
      rw [resolved, (unescaped segment).mp named]
    · intro resolved
      exact ⟨_, resolved, (unescaped _).mpr rfl⟩
  rw [Listed, StaysListed, hooks, script]
  exact or_comm

/-! ### What is requested -/

/-- The URL of a call names the local port, and goes on with the path. -/
theorem parseHttpUrl_of_calls {req : Request} {ctx : ForwardCtx} {call : FetchCall}
    (calls : prepareRequest req ctx = .calls call) :
    parseHttpUrl call.url.toList =
      if ctx.localPort ≤ 65535 then
        some ⟨"localhost".toList, ctx.localPort, parseTarget req.path.toList⟩
      else none := by
  obtain ⟨passes, port, target⟩ := checked_of_calls calls
  obtain ⟨_, rest, slash⟩ := slash_of_checkPath passes
  have text : call.url.toList =
      "http://localhost:".toList ++ Nat.toDigits 10 ctx.localPort ++ req.path.toList := by
    unfold FetchCall.url
    rw [port, target, String.toList_append, String.toList_append, ← @Nat.toList_repr ctx.localPort]
    rfl
  rw [text, slash]
  exact parseHttpUrl_localhost ctx.localPort rest

/-- A request that passes the checks is made to the local port, and for a listed path
if and only if its path stays listed as the URL parser reads it. -/
theorem requested_listed_iff {req : Request} {ctx : ForwardCtx} {call : FetchCall}
    {url : HttpUrl} (calls : prepareRequest req ctx = .calls call)
    (parsed : parseHttpUrl call.url.toList = some url) :
    (url.host = "localhost".toList ∧ url.port = ctx.localPort ∧ Listed url.target.pathname) ↔
      StaysListed (parsedSegments req.path) := by
  rw [parseHttpUrl_of_calls calls] at parsed
  obtain ⟨_, equal⟩ := Option.ite_none_right_eq_some.mp parsed
  obtain rfl := Option.some.inj equal
  have passes := (checked_of_calls calls).1
  simp only [true_and]
  exact listed_pathname_iff passes

namespace Sample

/-- A request without headers or a body, and the call it comes to. -/
def getRequest (path : String) : Request := ⟨"r1", "GET", path, .empty, ""⟩

def forwardCtx : ForwardCtx := ⟨8080, "u1"⟩

def getCall (path : String) : FetchCall :=
  ⟨8080, path, "GET", [("X-Relay-Base", "/u/u1")], none⟩

end Sample

/-- An ordinary hook is requested as it is. -/
theorem requested_listed_hook : ∃ url,
    parseHttpUrl (Sample.getCall "/hooks/x?y=1").url.toList = some url ∧
      (url.host = "localhost".toList ∧ url.port = Sample.forwardCtx.localPort ∧
        Listed url.target.pathname) := by
  have calls : prepareRequest (Sample.getRequest "/hooks/x?y=1") Sample.forwardCtx =
      .calls (Sample.getCall "/hooks/x?y=1") := by decide +kernel
  have parsed := parseHttpUrl_of_calls calls
  rw [if_pos (by decide)] at parsed
  refine ⟨_, parsed, (requested_listed_iff calls parsed).mpr (Or.inl ⟨["x".toList], by simp, [], ?_,
    rfl, fun part start => ?_⟩)⟩
  · decide +kernel
  · rcases List.prefix_cons_iff.mp start with rfl | ⟨_, rfl, more⟩
    · decide
    · rw [List.prefix_nil.mp more]
      decide

/-- The parser takes a backslash for a slash: two of them lead out of the listed
paths. -/
theorem backslashes_leave :
    prepareRequest (Sample.getRequest "/hooks/..\\..\\admin") Sample.forwardCtx =
        .calls (Sample.getCall "/hooks/..\\..\\admin") ∧
      ∃ url, parseHttpUrl (Sample.getCall "/hooks/..\\..\\admin").url.toList = some url ∧
        url.target.pathname = "/admin".toList ∧ ¬Listed url.target.pathname := by
  have calls : prepareRequest (Sample.getRequest "/hooks/..\\..\\admin") Sample.forwardCtx =
      .calls (Sample.getCall "/hooks/..\\..\\admin") := by decide +kernel
  have parsed := parseHttpUrl_of_calls calls
  rw [if_pos (by decide)] at parsed
  exact ⟨calls, _, parsed, by decide +kernel, by decide +kernel⟩

end DicodeRelay.Client
