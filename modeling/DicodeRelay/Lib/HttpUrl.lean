import DicodeRelay.Lib.Url

/-!
Contract: whole `http` URLs, and where their paths lead.

Owns:
- the host and the port of a URL whose host is a plain name;
- how deep below the root the segments of a path are;
- which segments a path enters from the root and does not leave.

Does not own: credentials, hosts that are addresses or need encoding.
-/

namespace DicodeRelay.Lib

/-! ### Parsing -/

/-- The parts of a URL that decide what is requested, and from whom. -/
structure HttpUrl where
  host : List Char
  port : Nat
  target : UrlTarget
deriving DecidableEq

/-- What the parser makes of the input that follows the authority. -/
def UrlTarget.ofInput (input : List Char) : UrlTarget where
  path := resolveSegments [] ((rawSegments input).map (percentEncode pathSet))
  query := (rawUrlQuery input).map (percentEncode specialQuerySet)

theorem parseTarget_eq (target : List Char) :
    parseTarget target = UrlTarget.ofInput (urlInput target) := rfl

/-- What ends the authority. -/
def endsAuthority (c : Char) : Bool := isSeparator c || endsPath c

/-- A host that is its own serialization: a name in lowercase letters. -/
def isPlainHost (host : List Char) : Bool :=
  host ≠ [] ∧ host.all fun c => 'a' ≤ c ∧ c ≤ 'z'

/-- The port state, on what follows the host. -/
def parsePort : List Char → Option Nat
  | ':' :: digits =>
      if digits = [] then some 80
      else if digits.all Char.isDigit ∧ Nat.ofDigitChars 10 digits 0 ≤ 65535 then
        some (Nat.ofDigitChars 10 digits 0)
      else none
  | [] => some 80
  | _ => none

/-- `new URL(url)`; `none`: it throws, or the URL is not an `http` URL with a plain
host. -/
def parseHttpUrl (url : List Char) : Option HttpUrl :=
  let input := urlInput (url.dropWhile isC0ControlOrSpace)
  if (input.take 5).map Char.toLower = "http:".toList then
    let rest := (input.drop 5).dropWhile isSeparator
    let authority := rest.takeWhile fun c => !endsAuthority c
    let host := authority.takeWhile (· ≠ ':')
    if isPlainHost host then
      (parsePort (authority.dropWhile (· ≠ ':'))).map fun port =>
        ⟨host, port, .ofInput (rest.dropWhile fun c => !endsAuthority c)⟩
    else none
  else none

theorem rdropWhile_append {p : Char → Bool} (before : List Char) {text : List Char}
    (stays : text.rdropWhile p ≠ []) :
    (before ++ text).rdropWhile p = before ++ text.rdropWhile p := by
  have kept : (text.reverse.dropWhile p).isEmpty = false := by
    rw [List.isEmpty_eq_false_iff]
    intro none
    exact stays (by rw [List.rdropWhile, none, List.reverse_nil])
  rw [List.rdropWhile, List.reverse_append, List.dropWhile_append, kept, if_neg Bool.false_ne_true,
    List.reverse_append, List.reverse_reverse, List.rdropWhile]

/-- What comes before the target is not trimmed. -/
theorem urlInput_append {before : List Char} (rest : List Char)
    (noTab : ∀ c ∈ before, isTabOrNewline c = false) :
    urlInput (before ++ '/' :: rest) = before ++ urlInput ('/' :: rest) := by
  have kept : before.filter (fun c => !isTabOrNewline c) = before := by
    rw [List.filter_eq_self]
    intro c member
    simp [noTab c member]
  rw [urlInput, rdropWhile_append before (rdropWhile_slash_ne_nil rest), List.filter_append, kept,
    urlInput]

theorem isDigit_apart {c : Char} (digit : c.isDigit = true) :
    isTabOrNewline c = false ∧ endsAuthority c = false := by
  refine ⟨?_, ?_⟩
  · simp only [isTabOrNewline, decide_eq_false_iff_not]
    rintro (rfl | rfl | rfl) <;> exact absurd digit (by decide)
  · simp only [endsAuthority, isSeparator, endsPath, Bool.or_eq_false_iff,
      decide_eq_false_iff_not]
    refine ⟨?_, ?_⟩ <;> rintro (rfl | rfl) <;> exact absurd digit (by decide)

theorem parsePort_toDigits (port : Nat) :
    parsePort (':' :: Nat.toDigits 10 port) = if port ≤ 65535 then some port else none := by
  have all : (Nat.toDigits 10 port).all Char.isDigit = true := List.all_eq_true.mpr
    fun _ member => Nat.isDigit_of_mem_toDigits (by decide) (by decide) member
  simp only [parsePort, Nat.toDigits_ne_nil, if_false, all, Nat.ofDigitChars_ten_toDigits,
    true_and]

/-- A URL of a local port, followed by an absolute target. -/
theorem parseHttpUrl_localhost (port : Nat) (rest : List Char) :
    parseHttpUrl ("http://localhost:".toList ++ Nat.toDigits 10 port ++ '/' :: rest) =
      if port ≤ 65535 then some ⟨"localhost".toList, port, parseTarget ('/' :: rest)⟩
      else none := by
  have digits : ∀ c ∈ Nat.toDigits 10 port, c.isDigit = true :=
    fun _ member => Nat.isDigit_of_mem_toDigits (by decide) (by decide) member
  obtain ⟨more, target⟩ := urlInput_slash rest
  have noTab : ∀ c ∈ "http://localhost:".toList ++ Nat.toDigits 10 port,
      isTabOrNewline c = false := by
    have literal : ∀ c ∈ "http://localhost:".toList, isTabOrNewline c = false := by
      simp [isTabOrNewline]
    intro c member
    exact (List.mem_append.mp member).elim (literal c) fun digit =>
      (isDigit_apart (digits c digit)).1
  have input : urlInput (("http://localhost:".toList ++ Nat.toDigits 10 port ++
      '/' :: rest).dropWhile isC0ControlOrSpace) =
        "http://".toList ++ ("localhost:".toList ++ Nat.toDigits 10 port ++ '/' :: more) := by
    have untrimmed : ("http://localhost:".toList ++ Nat.toDigits 10 port ++
        '/' :: rest).dropWhile isC0ControlOrSpace =
          "http://localhost:".toList ++ Nat.toDigits 10 port ++ '/' :: rest := by
      simp [isC0ControlOrSpace]
    have scheme : "http://localhost:".toList = "http://".toList ++ "localhost:".toList := by
      decide
    rw [untrimmed, urlInput_append rest noTab, target, scheme]
    simp only [List.append_assoc]
  have scheme : (("http://".toList ++ ("localhost:".toList ++ Nat.toDigits 10 port ++
      '/' :: more)).take 5).map Char.toLower = "http:".toList := by
    simp
  have slashes : (("http://".toList ++ ("localhost:".toList ++ Nat.toDigits 10 port ++
      '/' :: more)).drop 5).dropWhile isSeparator =
        "localhost:".toList ++ Nat.toDigits 10 port ++ '/' :: more := by
    simp [isSeparator]
  have authority : ∀ c ∈ "localhost:".toList ++ Nat.toDigits 10 port,
      (!endsAuthority c) = true := by
    have literal : ∀ c ∈ "localhost:".toList, (!endsAuthority c) = true := by
      simp [endsAuthority, isSeparator, endsPath]
    intro c member
    refine (List.mem_append.mp member).elim (literal c) fun digit => ?_
    simp [(isDigit_apart (digits c digit)).2]
  have path : ('/' :: more).takeWhile (fun c => !endsAuthority c) = [] ∧
      ('/' :: more).dropWhile (fun c => !endsAuthority c) = '/' :: more := ⟨rfl, rfl⟩
  have host : ("localhost:".toList ++ Nat.toDigits 10 port).takeWhile (· ≠ ':') =
      "localhost".toList := by simp
  have portText : ("localhost:".toList ++ Nat.toDigits 10 port).dropWhile (· ≠ ':') =
      ':' :: Nat.toDigits 10 port := by simp
  have plain : isPlainHost "localhost".toList = true := by decide
  unfold parseHttpUrl
  simp only [input, if_pos scheme, slashes]
  rw [List.takeWhile_append_of_pos authority, List.dropWhile_append_of_pos authority, path.1,
    path.2, List.append_nil, host, portText, if_pos plain, parsePort_toDigits, parseTarget_eq,
    target]
  split <;> rfl

/-! ### Depth -/

def climbs (depth : Nat) (segments : List (List Char)) : Nat := segments.foldl climb depth

@[simp] theorem climbs_nil (depth : Nat) : climbs depth [] = depth := rfl

@[simp] theorem climbs_cons (depth : Nat) (segment : List Char) (rest : List (List Char)) :
    climbs depth (segment :: rest) = climbs (climb depth segment) rest := rfl

@[simp] theorem climbs_append (depth : Nat) (segments rest : List (List Char)) :
    climbs depth (segments ++ rest) = climbs (climbs depth segments) rest :=
  List.foldl_append

theorem length_walk (out : List (List Char)) (segment : List Char) :
    (walk out segment).length = climb out.length segment := by
  unfold walk climb
  split
  · exact List.length_dropLast
  · split
    · rfl
    · exact List.length_append

theorem length_foldl_walk (out segments : List (List Char)) :
    (segments.foldl walk out).length = climbs out.length segments := by
  induction segments generalizing out with
  | nil => rfl
  | cons segment rest inductionHypothesis =>
      rw [List.foldl_cons, inductionHypothesis, length_walk, climbs_cons]

/-- The last segment is not left: a dot segment there names a directory. -/
theorem resolveSegments_concat (out init : List (List Char)) (last : List Char) :
    resolveSegments out (init ++ [last]) =
      (init ++ [last]).foldl walk out ++ if IsDots last then [[]] else [] := by
  induction init generalizing out with
  | nil =>
      rw [List.nil_append, resolveSegments, List.foldl_cons, List.foldl_nil, walk]
      by_cases double : last ∈ doubleDots
      · simp [double, IsDots]
      · by_cases single : last ∈ singleDots
        · simp [double, single, IsDots]
        · simp [double, single, IsDots, resolveSegments]
  | cons segment rest inductionHypothesis =>
      have more : rest ++ [last] ≠ [] := by simp
      rw [List.cons_append, resolveSegments, if_neg more, if_neg more, inductionHypothesis,
        inductionHypothesis, inductionHypothesis, List.foldl_cons]
      unfold walk
      split
      · rfl
      · split <;> rfl

/-- The segments enter `name` from the root and stay below it. -/
def Enters (name : List Char) (segments rest : List (List Char)) : Prop :=
  ∃ before, segments = before ++ name :: rest ∧ climbs 0 before = 0 ∧
    ∀ part, part <+: rest → 0 < climbs 1 part

/-- While the parser stays below the root, it keeps where it entered. -/
theorem head?_foldl_walk {out segments : List (List Char)}
    (below : ∀ part, part <+: segments → 0 < climbs out.length part) :
    (segments.foldl walk out).head? = out.head? := by
  induction segments generalizing out with
  | nil => rfl
  | cons segment rest inductionHypothesis =>
      have later : ∀ part, part <+: rest → 0 < climbs (walk out segment).length part := by
        intro part start
        rw [length_walk]
        exact below (segment :: part) (List.cons_prefix_cons.mpr ⟨rfl, start⟩)
      have here : 0 < out.length := below [] List.nil_prefix
      have next : 0 < (walk out segment).length := later [] List.nil_prefix
      rw [List.foldl_cons, inductionHypothesis later]
      obtain ⟨first, others, rfl⟩ := List.exists_cons_of_length_pos here
      unfold walk at next ⊢
      split
      · rename_i double
        rw [if_pos double] at next
        cases others with
        | nil => simp at next
        | cons second others => rfl
      · split <;> rfl

theorem climb_of_name {name : List Char} (names : ¬IsDots name) (depth : Nat) :
    climb depth name = depth + 1 := by
  unfold climb
  rw [if_neg fun double => names (Or.inl double), if_neg fun single => names (Or.inr single)]

theorem walk_of_name {name : List Char} (names : ¬IsDots name) (out : List (List Char)) :
    walk out name = out ++ [name] := by
  unfold walk
  rw [if_neg fun double => names (Or.inl double), if_neg fun single => names (Or.inr single)]

/-- The depth after a name that is entered from the root. -/
theorem climbs_of_root {before : List (List Char)} {name : List Char} (names : ¬IsDots name)
    (root : climbs 0 before = 0) (rest : List (List Char)) :
    climbs 0 (before ++ name :: rest) = climbs 1 rest := by
  rw [climbs_append, climbs_cons, root, climb_of_name names]

theorem head?_walk {out : List (List Char)} {last name : List Char}
    (first : (walk out last).head? = some name) :
    out.head? = some name ∨ (out = [] ∧ last = name) := by
  cases out with
  | nil =>
      unfold walk at first
      split at first
      · simp at first
      · split at first
        · simp at first
        · exact Or.inr ⟨rfl, by simpa using first⟩
  | cons kept others =>
      left
      unfold walk at first
      split at first
      · cases others with
        | nil => simp at first
        | cons second others => exact first
      · split at first <;> exact first

/-- The first segment of the path is the one that is entered from the root. -/
theorem head?_foldl_walk_iff {name : List Char} (names : ¬IsDots name)
    (segments : List (List Char)) :
    (segments.foldl walk []).head? = some name ↔ ∃ rest, Enters name segments rest := by
  constructor
  · intro first
    induction segments using List.reverseRecOn with
    | nil => simp at first
    | append_singleton init last inductionHypothesis =>
        rw [List.foldl_concat] at first
        rcases head?_walk first with kept | ⟨empty, rfl⟩
        · obtain ⟨rest, before, rfl, root, below⟩ := inductionHypothesis kept
          refine ⟨rest ++ [last], before, by simp, root, fun part start => ?_⟩
          rcases List.prefix_concat_iff.mp start with rfl | inside
          · -- The whole stays below the root: the path still has its first segment.
            rw [← climbs_of_root names root, ← List.cons_append, ← List.append_assoc,
              ← List.length_nil (α := List Char), ← length_foldl_walk, List.foldl_concat]
            exact List.length_pos_of_mem (List.mem_of_mem_head? first)
          · exact below part inside
        · refine ⟨[], init, rfl, ?_, fun part start => ?_⟩
          · have depth := length_foldl_walk [] init
            rw [empty] at depth
            exact depth.symm
          · rw [List.prefix_nil.mp start]
            decide
  · rintro ⟨rest, before, rfl, root, below⟩
    have empty : before.foldl walk [] = [] := by
      rw [← List.length_eq_zero_iff, length_foldl_walk]
      exact root
    rw [List.foldl_append, empty, List.foldl_cons, walk_of_name names, List.nil_append,
      head?_foldl_walk below]
    rfl

/-- The path begins with a name and goes on if and only if the segments enter the
name, stay below it and go on. -/
theorem resolveSegments_eq_cons_cons_iff {name : List Char} (names : ¬IsDots name)
    {segments : List (List Char)} :
    (∃ next others, resolveSegments [] segments = name :: next :: others) ↔
      ∃ rest, rest ≠ [] ∧ Enters name segments rest := by
  rcases List.eq_nil_or_concat segments with rfl | ⟨init, last, rfl⟩
  · apply iff_of_false (by simp [resolveSegments])
    rintro ⟨_, _, before, equal, _⟩
    simp at equal
  rw [List.concat_eq_append, resolveSegments_concat]
  have first := head?_foldl_walk_iff names (init ++ [last])
  have depth := length_foldl_walk [] (init ++ [last])
  rw [List.length_nil] at depth
  generalize (init ++ [last]).foldl walk [] = out at first depth
  constructor
  · rintro ⟨next, others, equal⟩
    have nonempty : out ≠ [] := by
      rintro rfl
      have short := congrArg List.length equal
      split at short <;> simp at short
    have kept : out.head? = some name := by
      rw [← List.head?_append_of_ne_nil _ nonempty, equal]
      rfl
    obtain ⟨rest, before, split, root, below⟩ := first.mp kept
    refine ⟨rest, ?_, before, split, root, below⟩
    rintro rfl
    obtain rfl : last = name := by simpa using congrArg List.getLast? split
    rw [if_neg names, List.append_nil] at equal
    rw [split, climbs_of_root names root, equal] at depth
    simp at depth
  · rintro ⟨rest, more, before, split, root, below⟩
    have kept := first.mpr ⟨rest, before, split, root, below⟩
    obtain ⟨others, rfl⟩ : ∃ others, out = name :: others := by
      cases out with
      | nil => simp at kept
      | cons head others => exact ⟨others, by rw [Option.some.inj kept]⟩
    obtain ⟨rest', last', rfl⟩ := (List.eq_nil_or_concat rest).resolve_left more
    rw [List.concat_eq_append] at split below
    have ends := congrArg List.getLast? split
    rw [List.getLast?_concat, ← List.cons_append, ← List.append_assoc, List.getLast?_concat] at ends
    obtain rfl := Option.some.inj ends
    by_cases dots : IsDots last
    · rw [if_pos dots]
      cases others with
      | nil => exact ⟨[], [], rfl⟩
      | cons next others => exact ⟨next, others ++ [[]], rfl⟩
    · -- The last name is one more than what is above it, which is below the root.
      have above := below rest' (List.prefix_append _ _)
      rw [split, climbs_of_root names root, climbs_append, climbs_cons,
        climb_of_name dots, climbs_nil, List.length_cons] at depth
      rw [if_neg dots, List.append_nil]
      cases others with
      | nil => simp at depth; omega
      | cons next others => exact ⟨next, others, rfl⟩

/-- The path is a single name if and only if the name is the last segment, entered
from the root. -/
theorem resolveSegments_eq_singleton_iff {name : List Char} (names : ¬IsDots name)
    (nonempty : name ≠ []) {segments : List (List Char)} :
    resolveSegments [] segments = [name] ↔
      ∃ before, segments = before ++ [name] ∧ climbs 0 before = 0 := by
  rcases List.eq_nil_or_concat segments with rfl | ⟨init, last, rfl⟩
  · simp [resolveSegments]
  rw [List.concat_eq_append, resolveSegments_concat, List.foldl_concat]
  have depth := length_foldl_walk [] init
  rw [List.length_nil] at depth
  constructor
  · intro equal
    by_cases dots : IsDots last
    · rw [if_pos dots] at equal
      have ends := congrArg List.getLast? equal
      simp only [List.getLast?_concat, List.getLast?_singleton, Option.some.injEq] at ends
      exact absurd ends.symm nonempty
    · rw [if_neg dots, List.append_nil, walk_of_name dots] at equal
      obtain ⟨above, rfl⟩ : init.foldl walk [] = [] ∧ last = name := by
        simpa [List.append_eq_singleton_iff] using equal
      rw [above] at depth
      exact ⟨init, rfl, depth.symm⟩
  · rintro ⟨before, split, root⟩
    obtain ⟨rfl, rfl⟩ : init = before ∧ last = name := by simpa using split
    rw [root] at depth
    rw [List.length_eq_zero_iff.mp depth, walk_of_name names, if_neg names]
    rfl

/-! ### Pathnames -/

section Pathnames

variable {path : List (List Char)} {name : List Char}

theorem pathname_eq_singleton_iff (slashFree : ∀ segment ∈ path, '/' ∉ segment)
    (noSlash : '/' ∉ name) : path.flatMap ('/' :: ·) = '/' :: name ↔ path = [name] := by
  constructor
  · intro equal
    have spelled := pathSegments_spelled slashFree
    rw [equal, pathSegments_slash, pathSegments, List.splitOn_eq_singleton noSlash] at spelled
    exact (List.cons.inj spelled).2.symm
  · rintro rfl
    simp

theorem isPrefix_pathname_iff (slashFree : ∀ segment ∈ path, '/' ∉ segment)
    (noSlash : '/' ∉ name) : '/' :: name ++ ['/'] <+: path.flatMap ('/' :: ·) ↔
      ∃ next others, path = name :: next :: others := by
  constructor
  · rintro ⟨rest, equal⟩
    have spelled := pathSegments_spelled slashFree
    rw [← equal, List.append_assoc, List.cons_append, pathSegments_slash, List.singleton_append,
      pathSegments_append_slash, pathSegments, List.splitOn_eq_singleton noSlash] at spelled
    obtain ⟨next, others, more⟩ := List.exists_cons_of_ne_nil (pathSegments_ne_nil rest)
    exact ⟨next, others, by rw [← (List.cons.inj spelled).2, more]; rfl⟩
  · rintro ⟨next, others, rfl⟩
    exact ⟨next ++ others.flatMap ('/' :: ·), by simp⟩

end Pathnames

end DicodeRelay.Lib
