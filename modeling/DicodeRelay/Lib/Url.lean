import DicodeRelay.Lib.Paths
import DicodeRelay.Lib.Percent
import Mathlib.Data.List.DropRight

/-!
Contract: the path and the query of an `http` URL, as the URL standard parses
them.

Owns:
- what the parser discards and escapes, and where it cuts path and query;
- its dot segments;
- which targets it takes as they are, and what no parsed path contains.

Does not own: schemes, hosts, fragments, relative references.
-/

namespace DicodeRelay.Lib

/-! ### Characters -/

def isTabOrNewline (c : Char) : Bool := c = '\t' ∨ c = '\n' ∨ c = '\r'

def isC0ControlOrSpace (c : Char) : Bool := c.toNat ≤ 0x20

/-- The query percent-encode set. -/
def querySet (c : Char) : Bool :=
  c.toNat ≤ 0x20 ∨ 0x7E < c.toNat ∨ c = '"' ∨ c = '#' ∨ c = '<' ∨ c = '>'

/-- The special-query percent-encode set. -/
def specialQuerySet (c : Char) : Bool := querySet c ∨ c = '\''

/-- The path percent-encode set. -/
def pathSet (c : Char) : Bool :=
  querySet c ∨ c = '?' ∨ c = '^' ∨ c = '`' ∨ c = '\x7b' ∨ c = '\x7d'

/-- What separates segments in the path of a special URL. -/
def isSeparator (c : Char) : Bool := c = '/' ∨ c = '\\'

/-- What ends a path. -/
def endsPath (c : Char) : Bool := c = '?' ∨ c = '#'

/-! ### Parsing -/

def singleDots : List (List Char) := [".", "%2e", "%2E"].map String.toList

def doubleDots : List (List Char) :=
  ["..", ".%2e", ".%2E", "%2e.", "%2E.", "%2e%2e", "%2e%2E", "%2E%2e", "%2E%2E"].map
    String.toList

/-- The path state, on the segments between the separators. -/
def resolveSegments (out : List (List Char)) : List (List Char) → List (List Char)
  | [] => out
  | segment :: rest =>
      if segment ∈ doubleDots then
        if rest = [] then out.dropLast ++ [[]] else resolveSegments out.dropLast rest
      else if segment ∈ singleDots then
        if rest = [] then out ++ [[]] else resolveSegments out rest
      else resolveSegments (out ++ [segment]) rest

/-- How deep below the root the parser is after the segment. -/
def climb (depth : Nat) (segment : List Char) : Nat :=
  if segment ∈ doubleDots then depth - 1 else if segment ∈ singleDots then depth else depth + 1

/-- The path after a segment that is not the last. -/
def walk (out : List (List Char)) (segment : List Char) : List (List Char) :=
  if segment ∈ doubleDots then out.dropLast else if segment ∈ singleDots then out
  else out ++ [segment]

def IsDots (segment : List Char) : Prop := segment ∈ doubleDots ∨ segment ∈ singleDots

instance : DecidablePred IsDots := fun _ => inferInstanceAs (Decidable (_ ∨ _))

/-- The path and the query of a URL, percent-encoded. -/
structure UrlTarget where
  path : List (List Char)
  query : Option (List Char)
deriving DecidableEq

/-- The input without what the parser discards. -/
def urlInput (target : List Char) : List Char :=
  (target.rdropWhile isC0ControlOrSpace).filter fun c => !isTabOrNewline c

/-- The segments of the path part, before dot segments are resolved. -/
def rawSegments (input : List Char) : List (List Char) :=
  (input.takeWhile fun c => !endsPath c).tail.splitOnP isSeparator

def rawUrlQuery (input : List Char) : Option (List Char) :=
  match input.dropWhile fun c => !endsPath c with
  | '?' :: rest => some (rest.takeWhile (· ≠ '#'))
  | _ => none

/-- What the parser makes of a target that begins with `/` and follows the
authority. -/
def parseTarget (target : List Char) : UrlTarget where
  path := resolveSegments [] ((rawSegments (urlInput target)).map (percentEncode pathSet))
  query := (rawUrlQuery (urlInput target)).map (percentEncode specialQuerySet)

/-- `url.pathname`. -/
def UrlTarget.pathname (target : UrlTarget) : List Char := target.path.flatMap ('/' :: ·)

/-- `url.search`. -/
def UrlTarget.search (target : UrlTarget) : List Char :=
  match target.query with
  | none => []
  | some query => if query = [] then [] else '?' :: query

/-! ### Dot segments -/

theorem percentDecode_singleDot {segment : List Char} (dot : segment ∈ singleDots) :
    percentDecode segment = some (utf8 ".") := by
  have all : ∀ segment ∈ singleDots, percentDecode segment = some (utf8 ".") := by decide +kernel
  exact all segment dot

theorem percentDecode_doubleDot {segment : List Char} (dots : segment ∈ doubleDots) :
    percentDecode segment = some (utf8 "..") := by
  have all : ∀ segment ∈ doubleDots, percentDecode segment = some (utf8 "..") := by
    decide +kernel
  exact all segment dots

/-- Escaping makes no dot segment of another segment. -/
theorem percentEncode_mem_singleDots {segment : List Char} (plain : '%' ∉ segment) :
    percentEncode pathSet segment ∈ singleDots ↔ segment = ['.'] := by
  constructor
  · intro dot
    have decoded := percentDecode_percentEncode pathSet fun percent => absurd percent plain
    rw [percentDecode_singleDot dot] at decoded
    have same : utf8 "." = utf8 (String.ofList segment) := by
      rw [Option.some.inj decoded, utf8, String.toList_ofList]
    rw [← String.toList_ofList (l := segment), ← utf8_injective same]
    rfl
  · rintro rfl
    decide

theorem percentEncode_mem_doubleDots {segment : List Char} (plain : '%' ∉ segment) :
    percentEncode pathSet segment ∈ doubleDots ↔ segment = ['.', '.'] := by
  constructor
  · intro dots
    have decoded := percentDecode_percentEncode pathSet fun percent => absurd percent plain
    rw [percentDecode_doubleDot dots] at decoded
    have same : utf8 ".." = utf8 (String.ofList segment) := by
      rw [Option.some.inj decoded, utf8, String.toList_ofList]
    rw [← String.toList_ofList (l := segment), ← utf8_injective same]
    rfl
  · rintro rfl
    decide

theorem mem_singleDots {segment : List Char} (plain : '%' ∉ segment) :
    segment ∈ singleDots ↔ segment = ['.'] := by
  constructor
  · intro dot
    simp only [singleDots, List.map_cons, List.map_nil, List.mem_cons, List.not_mem_nil,
      or_false] at dot
    rcases dot with rfl | rfl | rfl
    · rfl
    all_goals simp at plain
  · rintro rfl
    decide

theorem mem_doubleDots {segment : List Char} (plain : '%' ∉ segment) :
    segment ∈ doubleDots ↔ segment = ['.', '.'] := by
  constructor
  · intro dots
    simp only [doubleDots, List.map_cons, List.map_nil, List.mem_cons, List.not_mem_nil,
      or_false] at dots
    rcases dots with rfl | rfl | rfl | rfl | rfl | rfl | rfl | rfl | rfl
    · rfl
    all_goals simp at plain
  · rintro rfl
    decide

/-- Without escapes in the text, it does not matter whether the segments are
escaped before dot segments are resolved or after. -/
theorem resolveSegments_percentEncode {segments : List (List Char)}
    (plain : ∀ segment ∈ segments, '%' ∉ segment) (out : List (List Char)) :
    resolveSegments (out.map (percentEncode pathSet)) (segments.map (percentEncode pathSet)) =
      (resolveSegments out segments).map (percentEncode pathSet) := by
  have empty : percentEncode pathSet [] = [] := rfl
  induction segments generalizing out with
  | nil => rfl
  | cons segment rest inductionHypothesis =>
      have noPercent := plain segment List.mem_cons_self
      have later := inductionHypothesis fun other member =>
        plain other (List.mem_cons_of_mem _ member)
      simp only [List.map_cons, resolveSegments, percentEncode_mem_doubleDots noPercent,
        percentEncode_mem_singleDots noPercent, mem_doubleDots noPercent,
        mem_singleDots noPercent, List.map_eq_nil_iff]
      split
      · split
        · simp [empty, List.map_dropLast]
        · rw [← List.map_dropLast, later]
      · split
        · split
          · simp [empty]
          · rw [later]
        · rw [← later, List.map_append, List.map_singleton]

theorem resolveSegments_of_no_dots {segments : List (List Char)}
    (noDots : ∀ segment ∈ segments, segment ∉ doubleDots ∧ segment ∉ singleDots)
    (out : List (List Char)) : resolveSegments out segments = out ++ segments := by
  induction segments generalizing out with
  | nil => simp [resolveSegments]
  | cons segment rest inductionHypothesis =>
      obtain ⟨notDouble, notSingle⟩ := noDots segment List.mem_cons_self
      rw [resolveSegments, if_neg notDouble, if_neg notSingle,
        inductionHypothesis fun other member => noDots other (List.mem_cons_of_mem _ member)]
      simp

theorem mem_resolveSegments {out segments : List (List Char)} {segment : List Char}
    (member : segment ∈ resolveSegments out segments) :
    segment ∈ out ∨ segment ∈ segments ∨ segment = [] := by
  induction segments generalizing out with
  | nil => exact Or.inl member
  | cons first rest inductionHypothesis =>
      rw [resolveSegments] at member
      have shortened : segment ∈ out.dropLast → segment ∈ out := fun inOut =>
        List.dropLast_subset _ inOut
      split at member
      · split at member
        · simp only [List.mem_append, List.mem_singleton] at member
          tauto
        · have before := inductionHypothesis member
          simp only [List.mem_cons]
          tauto
      · split at member
        · split at member
          · simp only [List.mem_append, List.mem_singleton] at member
            tauto
          · have before := inductionHypothesis member
            simp only [List.mem_cons]
            tauto
        · have before := inductionHypothesis member
          simp only [List.mem_append, List.mem_cons, List.not_mem_nil, or_false] at before ⊢
          tauto

/-- The length of the segments with a slash before each. -/
def spelledLength (segments : List (List Char)) : Nat :=
  (segments.map fun segment => segment.length + 1).sum

@[simp] theorem spelledLength_append (segments others : List (List Char)) :
    spelledLength (segments ++ others) = spelledLength segments + spelledLength others := by
  simp [spelledLength]

@[simp] theorem spelledLength_cons (segment : List Char) (rest : List (List Char)) :
    spelledLength (segment :: rest) = segment.length + 1 + spelledLength rest := by
  simp [spelledLength]

@[simp] theorem spelledLength_nil : spelledLength [] = 0 := rfl

theorem spelledLength_dropLast (segments : List (List Char)) :
    spelledLength segments.dropLast ≤ spelledLength segments := by
  rcases List.eq_nil_or_concat segments with rfl | ⟨init, last, rfl⟩
  · simp
  · simp

theorem spelledLength_eq {segments : List (List Char)} (some : segments ≠ []) :
    spelledLength segments = (joinSegments segments).length + 1 := by
  induction segments with
  | nil => contradiction
  | cons first others inductionHypothesis =>
      by_cases last : others = []
      · simp [last, joinSegments]
      · rw [joinSegments_cons last, spelledLength_cons, inductionHypothesis last,
          List.length_append, List.length_cons]
        omega

/-- Dot segments only make a path shorter. -/
theorem spelledLength_resolveSegments (out segments : List (List Char)) :
    spelledLength (resolveSegments out segments) ≤ spelledLength out + spelledLength segments := by
  induction segments generalizing out with
  | nil => simp [resolveSegments]
  | cons segment rest inductionHypothesis =>
      have shortened := spelledLength_dropLast out
      have popped := inductionHypothesis out.dropLast
      have kept := inductionHypothesis out
      have pushed := inductionHypothesis (out ++ [segment])
      rw [resolveSegments]
      simp only [spelledLength_append, spelledLength_cons, spelledLength_nil] at pushed ⊢
      split
      · split
        · simp only [spelledLength_append, spelledLength_cons, List.length_nil, spelledLength_nil]
          omega
        · omega
      · split
        · split
          · simp only [spelledLength_append, spelledLength_cons, List.length_nil,
              spelledLength_nil]
            omega
          · omega
        · omega

/-! ### The parts of the input -/

theorem mem_urlInput {target : List Char} {c : Char} (member : c ∈ urlInput target) :
    c ∈ target ∧ isTabOrNewline c = false := by
  obtain ⟨kept, noTab⟩ := List.mem_filter.mp member
  exact ⟨(List.rdropWhile_prefix _ _).subset kept, by simpa using noTab⟩

theorem length_urlInput_le (target : List Char) :
    (urlInput target).length ≤ (target.rdropWhile isC0ControlOrSpace).length :=
  List.length_filter_le _ _

theorem urlInput_eq_self {target : List Char} (noTab : ∀ c ∈ target, isTabOrNewline c = false)
    (ends : ∀ c, target.getLast? = some c → isC0ControlOrSpace c = false) :
    urlInput target = target := by
  have kept : target.rdropWhile isC0ControlOrSpace = target := by
    rw [List.rdropWhile_eq_self_iff]
    intro nonempty
    rw [ends _ (List.getLast?_eq_some_getLast nonempty)]
    simp
  rw [urlInput, kept, List.filter_eq_self]
  intro c member
  simp [noTab c member]

theorem rdropWhile_slash_ne_nil (rest : List Char) :
    ('/' :: rest).rdropWhile isC0ControlOrSpace ≠ [] := by
  rw [Ne, List.rdropWhile_eq_nil_iff]
  exact fun all => absurd (all '/' List.mem_cons_self) (by decide)

/-- The slash a target begins with is not discarded. -/
theorem urlInput_slash (rest : List Char) : ∃ more, urlInput ('/' :: rest) = '/' :: more := by
  obtain ⟨c, text, eq⟩ := List.exists_cons_of_ne_nil (rdropWhile_slash_ne_nil rest)
  have first : c = '/' := by
    have start := List.rdropWhile_prefix isC0ControlOrSpace ('/' :: rest)
    rw [eq] at start
    exact (List.cons_prefix_cons.mp start).1
  exact ⟨text.filter fun c => !isTabOrNewline c, by rw [urlInput, eq, first]; rfl⟩

theorem urlInput_ne_nil (rest : List Char) : urlInput ('/' :: rest) ≠ [] := by
  obtain ⟨more, eq⟩ := urlInput_slash rest
  rw [eq]
  exact List.cons_ne_nil _ _

theorem mem_rawSegments {input segment : List Char} (member : segment ∈ rawSegments input) :
    ∀ c ∈ segment, c ∈ input ∧ endsPath c = false ∧ isSeparator c = false := by
  intro c inSegment
  have separate := not_mem_of_mem_splitOnP member c inSegment
  have inPath : c ∈ input.takeWhile fun c => !endsPath c :=
    List.mem_of_mem_tail (mem_of_mem_splitOnP member inSegment)
  exact ⟨(List.takeWhile_prefix _).subset inPath, by simpa using List.mem_takeWhile_imp inPath,
    separate⟩

theorem spelledLength_splitOnP (p : Char → Bool) (text : List Char) :
    spelledLength (text.splitOnP p) = text.length + 1 := by
  induction text with
  | nil => rfl
  | cons c text inductionHypothesis =>
      obtain ⟨first, others, parts⟩ := List.exists_cons_of_ne_nil (List.splitOnP_ne_nil p text)
      rw [List.splitOnP_cons_eq_if_modifyHead]
      rw [parts] at inductionHypothesis ⊢
      split
      · simp only [spelledLength_cons, List.length_nil, List.length_cons] at inductionHypothesis ⊢
        omega
      · simp only [List.modifyHead_cons, spelledLength_cons, List.length_cons]
          at inductionHypothesis ⊢
        omega

/-- The segments spell no more than the input. -/
theorem spelledLength_rawSegments {input : List Char} (nonempty : input ≠ []) :
    spelledLength (rawSegments input) ≤ input.length := by
  have shorter := (List.takeWhile_prefix (l := input) fun c => !endsPath c).length_le
  have some := List.length_pos_iff.mpr nonempty
  rw [rawSegments, spelledLength_splitOnP, List.length_tail]
  omega

theorem splitOnP_congr {p q : Char → Bool} {text : List Char} (same : ∀ c ∈ text, p c = q c) :
    text.splitOnP p = text.splitOnP q := by
  induction text with
  | nil => rfl
  | cons c text inductionHypothesis =>
      rw [List.splitOnP_cons_eq_if_modifyHead, List.splitOnP_cons_eq_if_modifyHead,
        same c List.mem_cons_self,
        inductionHypothesis fun d member => same d (List.mem_cons_of_mem _ member)]

/-- Where the path part ends, and what follows it. -/
theorem takeWhile_endsPath {path rest : List Char} (inPath : ∀ c ∈ path, endsPath c = false)
    (cut : ∀ c, rest.head? = some c → endsPath c = true) :
    (path ++ rest).takeWhile (fun c => !endsPath c) = path ∧
      (path ++ rest).dropWhile (fun c => !endsPath c) = rest := by
  have none : rest.takeWhile (fun c => !endsPath c) = [] ∧
      rest.dropWhile (fun c => !endsPath c) = rest := by
    cases rest with
    | nil => simp
    | cons c rest => simp [cut c rfl]
  have all : ∀ c ∈ path, (!endsPath c) = true := by
    intro c member
    simp [inPath c member]
  rw [List.takeWhile_append_of_pos all, List.dropWhile_append_of_pos all, none.1, none.2,
    List.append_nil]
  exact ⟨rfl, rfl⟩

/-- The query of a target, with its question mark. -/
def querySuffix : Option (List Char) → List Char
  | none => []
  | some query => '?' :: query

/-- What no segment of a parsed path contains: what separates or ends it, and
what the parser discards. -/
def isDelimiter (c : Char) : Bool := isSeparator c || endsPath c || isTabOrNewline c

theorem isDelimiter_eq_false {c : Char} : isDelimiter c = false ↔
    isSeparator c = false ∧ endsPath c = false ∧ isTabOrNewline c = false := by
  simp [isDelimiter, and_assoc]

/-- Escaping keeps the characters outside the set, and adds what escapes are made
of. -/
theorem mem_percentEncode {set : Char → Bool} {text : List Char} {c : Char}
    (member : c ∈ percentEncode set text) :
    c ∈ "%0123456789ABCDEF".toList ∨ (c ∈ text ∧ set c = false) := by
  obtain ⟨d, inText, inPiece⟩ := List.mem_flatMap.mp member
  split at inPiece
  · obtain ⟨b, _, inEscape⟩ := List.mem_flatMap.mp inPiece
    have digit : ∀ n : Fin 16, hexDigit true n ∈ "%0123456789ABCDEF".toList := by decide
    have bLt : b.toNat < 256 := b.toNat_lt
    simp only [escapeByte, hexPair, List.mem_cons, List.not_mem_nil, or_false] at inEscape
    left
    rcases inEscape with rfl | rfl | rfl
    · decide
    · exact digit ⟨b.toNat / 16, by omega⟩
    · exact digit ⟨b.toNat % 16, by omega⟩
  · rename_i notInSet
    obtain rfl := List.mem_singleton.mp inPiece
    exact Or.inr ⟨inText, Bool.eq_false_iff.mpr notInSet⟩

theorem pathSegments_spelled {path : List (List Char)}
    (slashFree : ∀ segment ∈ path, '/' ∉ segment) :
    pathSegments (path.flatMap ('/' :: ·)) = [] :: path := by
  have after : ∀ first : List Char, '/' ∉ first →
      pathSegments (first ++ path.flatMap ('/' :: ·)) = first :: path := by
    induction path with
    | nil =>
        intro first noSlash
        rw [List.flatMap_nil, List.append_nil, pathSegments, List.splitOn_eq_singleton noSlash]
    | cons segment rest inductionHypothesis =>
        intro first noSlash
        have later := inductionHypothesis
          (fun other member => slashFree other (List.mem_cons_of_mem _ member)) segment
          (slashFree segment List.mem_cons_self)
        rw [List.flatMap_cons, List.cons_append, pathSegments,
          List.splitOn_append_cons_self_of_not_mem noSlash, ← pathSegments, later]
  exact after [] (by simp)

/-! ### What the parser leaves as it is -/

theorem rawSegments_joinSegments {segments : List (List Char)} (some : segments ≠ [])
    (plain : ∀ segment ∈ segments, ∀ c ∈ segment, isDelimiter c = false)
    (query : Option (List Char)) :
    rawSegments ('/' :: joinSegments segments ++ querySuffix query) = segments ∧
      rawUrlQuery ('/' :: joinSegments segments ++ querySuffix query) =
        query.map (List.takeWhile (· ≠ '#')) := by
  have inPath : ∀ c ∈ '/' :: joinSegments segments, endsPath c = false := by
    intro c member
    rcases List.mem_cons.mp member with rfl | member
    · rfl
    · rcases segment_of_mem_joinSegments member with rfl | ⟨segment, inSegments, inSegment⟩
      · rfl
      · exact (isDelimiter_eq_false.mp (plain segment inSegments c inSegment)).2.1
  have cut : ∀ c, (querySuffix query).head? = Option.some c → endsPath c = true := by
    intro c first
    cases query with
    | none => simp [querySuffix] at first
    | some query =>
        obtain rfl := Option.some.inj first
        rfl
  obtain ⟨path, rest⟩ := takeWhile_endsPath inPath cut
  constructor
  · have separators : ∀ c ∈ joinSegments segments, isSeparator c = (c == '/') := by
      intro c member
      rcases segment_of_mem_joinSegments member with rfl | ⟨segment, inSegments, inSegment⟩
      · rfl
      · have noSeparator := (isDelimiter_eq_false.mp (plain segment inSegments c inSegment)).1
        have noSlash : c ≠ '/' := by
          rintro rfl
          exact absurd noSeparator (by decide)
        rw [noSeparator, beq_eq_false_iff_ne.mpr noSlash]
    rw [rawSegments, path, List.tail_cons, splitOnP_congr separators]
    refine pathSegments_joinSegments some fun segment member slash => ?_
    exact absurd (isDelimiter_eq_false.mp (plain segment member '/' slash)).1 (by decide)
  · rw [rawUrlQuery, rest]
    cases query <;> rfl

/-- Segments that are no dot segments, without delimiters or escapes, and a query
that needs no escapes: the parser only escapes the segments. -/
theorem parseTarget_joinSegments (segments : List (List Char)) (query : Option (List Char))
    (some : segments ≠ [])
    (plain : ∀ segment ∈ segments, ∀ c ∈ segment, isDelimiter c = false)
    (noPercent : ∀ segment ∈ segments, '%' ∉ segment)
    (noDots : ∀ segment ∈ segments, segment ≠ ['.'] ∧ segment ≠ ['.', '.'])
    (ends : query = none → ∀ c, (joinSegments segments).getLast? = Option.some c →
      isC0ControlOrSpace c = false)
    (plainQuery : ∀ text, query = Option.some text → ∀ c ∈ text, specialQuerySet c = false) :
    parseTarget ('/' :: joinSegments segments ++ querySuffix query) =
      ⟨segments.map (percentEncode pathSet), query⟩ := by
  have notEscaped : ∀ c : Char, specialQuerySet c = false →
      isTabOrNewline c = false ∧ isC0ControlOrSpace c = false ∧ c ≠ '#' := by
    intro c plainChar
    simp only [specialQuerySet, querySet, decide_eq_false_iff_not, not_or, decide_eq_true_eq]
      at plainChar
    obtain ⟨⟨noControl, _, _, noHash, _⟩, _⟩ := plainChar
    refine ⟨?_, decide_eq_false noControl, noHash⟩
    simp only [isTabOrNewline, decide_eq_false_iff_not]
    rintro (rfl | rfl | rfl) <;> exact noControl (by decide)
  have input : urlInput ('/' :: joinSegments segments ++ querySuffix query) =
      '/' :: joinSegments segments ++ querySuffix query := by
    refine urlInput_eq_self ?_ ?_
    · intro c member
      rcases List.mem_append.mp member with inPath | inQuery
      · rcases List.mem_cons.mp inPath with rfl | inPath
        · rfl
        · rcases segment_of_mem_joinSegments inPath with rfl | ⟨segment, inSegments, inSegment⟩
          · rfl
          · exact (isDelimiter_eq_false.mp (plain segment inSegments c inSegment)).2.2
      · cases query with
        | none => simp [querySuffix] at inQuery
        | some text =>
            rcases List.mem_cons.mp inQuery with rfl | inText
            · rfl
            · exact (notEscaped c (plainQuery text rfl c inText)).1
    · intro c last
      cases query with
      | none =>
          rw [querySuffix, List.append_nil, List.getLast?_cons] at last
          cases inPath : (joinSegments segments).getLast? with
          | none =>
              rw [inPath] at last
              obtain rfl := Option.some.inj last
              rfl
          | some d =>
              rw [inPath] at last
              obtain rfl := Option.some.inj last
              exact ends rfl d inPath
      | some text =>
          rw [List.getLast?_append_of_ne_nil _ (by simp [querySuffix])] at last
          rw [querySuffix, List.getLast?_cons] at last
          cases inText : text.getLast? with
          | none =>
              rw [inText] at last
              obtain rfl := Option.some.inj last
              rfl
          | some d =>
              rw [inText] at last
              obtain rfl := Option.some.inj last
              exact (notEscaped d (plainQuery text rfl d (List.mem_of_getLast? inText))).2.1
  obtain ⟨raw, rawQuery⟩ := rawSegments_joinSegments some plain query
  have resolved : resolveSegments [] segments = segments := by
    refine resolveSegments_of_no_dots (fun segment member => ?_) []
    have percentFree := noPercent segment member
    rw [mem_doubleDots percentFree, mem_singleDots percentFree]
    exact ⟨(noDots segment member).2, (noDots segment member).1⟩
  have path := resolveSegments_percentEncode noPercent []
  rw [resolved] at path
  have kept :
      (query.map (List.takeWhile (· ≠ '#'))).map (percentEncode specialQuerySet) = query := by
    cases query with
    | none => rfl
    | some text =>
        have plainText := plainQuery text rfl
        have all : text.takeWhile (· ≠ '#') = text := by
          rw [List.takeWhile_eq_self_iff]
          intro c member
          simpa using (notEscaped c (plainText c member)).2.2
        rw [Option.map_some, Option.map_some, all, percentEncode_eq_self plainText]
  rw [parseTarget, input, raw, rawQuery, kept]
  exact congrArg (UrlTarget.mk · query) path

/-! ### What every parsed path is made of -/

private theorem mem_takeWhile_mono {p q : Char → Bool} (weaker : ∀ c, p c = true → q c = true)
    {text : List Char} {c : Char} (member : c ∈ text.takeWhile p) : c ∈ text.takeWhile q := by
  induction text with
  | nil => simp at member
  | cons d rest inductionHypothesis =>
      by_cases holds : p d = true
      · rw [List.takeWhile_cons_of_pos (weaker d holds)]
        rw [List.takeWhile_cons_of_pos holds] at member
        rcases List.mem_cons.mp member with rfl | later
        · exact List.mem_cons_self
        · exact List.mem_cons_of_mem _ (inductionHypothesis later)
      · rw [List.takeWhile_cons_of_neg holds] at member
        simp at member

private theorem mem_takeWhile_of_isPrefix {p : Char → Bool} {text whole : List Char} {c : Char}
    (start : text <+: whole) (member : c ∈ text.takeWhile p) : c ∈ whole.takeWhile p := by
  obtain ⟨rest, rfl⟩ := start
  rw [List.takeWhile_append]
  split
  · exact List.mem_append_left _ (List.takeWhile_subset _ member)
  · exact member

/-- The path part of the input comes from before the first `?`. -/
theorem mem_pathPart {target : List Char} {c : Char}
    (member : c ∈ (urlInput target).takeWhile fun c => !endsPath c) :
    c ∈ target.takeWhile (· ≠ '?') := by
  rw [urlInput, List.takeWhile_filter] at member
  have inPrefix := mem_takeWhile_of_isPrefix (List.rdropWhile_prefix isC0ControlOrSpace target)
    (List.mem_filter.mp member).1
  refine mem_takeWhile_mono (fun d holds => decide_eq_true ?_) inPrefix
  rintro rfl
  exact absurd holds (by decide)

/-- The path of a target without escapes before its query: segments without
delimiters, spelled no longer than the target without its white space at the
end. -/
theorem parseTarget_path {target : List Char} (noPercent : '%' ∉ target.takeWhile (· ≠ '?'))
    (nonempty : urlInput target ≠ []) :
    ∃ segments, (parseTarget target).path = segments.map (percentEncode pathSet) ∧
      (∀ segment ∈ segments, '%' ∉ segment ∧ ∀ c ∈ segment, isDelimiter c = false) ∧
      spelledLength segments ≤ (target.rdropWhile isC0ControlOrSpace).length := by
  have percentFree : ∀ segment ∈ rawSegments (urlInput target), '%' ∉ segment := by
    intro segment member percent
    exact noPercent (mem_pathPart (List.mem_of_mem_tail (mem_of_mem_splitOnP member percent)))
  refine ⟨resolveSegments [] (rawSegments (urlInput target)),
    resolveSegments_percentEncode percentFree [], ?_, ?_⟩
  · intro segment member
    rcases mem_resolveSegments member with new | raw | rfl
    · simp at new
    · refine ⟨percentFree segment raw, fun c inSegment => ?_⟩
      obtain ⟨inInput, inPath, noSeparator⟩ := mem_rawSegments raw c inSegment
      exact isDelimiter_eq_false.mpr ⟨noSeparator, inPath, (mem_urlInput inInput).2⟩
    · simp
  · have resolved := spelledLength_resolveSegments [] (rawSegments (urlInput target))
    have spelled := spelledLength_rawSegments nonempty
    have input := length_urlInput_le target
    rw [spelledLength_nil] at resolved
    omega

theorem mem_parseTarget_query {target query : List Char}
    (parsed : (parseTarget target).query = some query) :
    ∀ c ∈ query, specialQuerySet c = false := by
  obtain ⟨raw, _, rfl⟩ := Option.map_eq_some_iff.mp parsed
  intro c member
  have spared : ∀ c ∈ "%0123456789ABCDEF".toList, specialQuerySet c = false := by
    simp [specialQuerySet, querySet]
  rcases mem_percentEncode member with escape | ⟨_, outside⟩
  · exact spared c escape
  · exact outside

end DicodeRelay.Lib
