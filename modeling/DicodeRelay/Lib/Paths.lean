import Mathlib.Data.List.Basic

/-!
Contract: slash-separated paths and their normal form.

Owns:
- the segments of a path;
- `posix.normalize`;
- that an absolute path is its own normal form exactly when no segment is a dot
  segment and none but the last is empty.

Does not own: paths of a file system.
-/

namespace DicodeRelay.Lib

/-! ### Segments -/

/-- The texts between the slashes. -/
def pathSegments (path : List Char) : List (List Char) := path.splitOn '/'

def joinSegments (segments : List (List Char)) : List Char := ['/'].intercalate segments

theorem not_mem_of_mem_splitOnP {p : Char → Bool} {text part : List Char}
    (member : part ∈ text.splitOnP p) : ∀ c ∈ part, p c = false := by
  induction text generalizing part with
  | nil =>
      rw [List.splitOnP_nil, List.mem_singleton] at member
      simp [member]
  | cons d text inductionHypothesis =>
      rw [List.splitOnP_cons_eq_if_modifyHead] at member
      obtain ⟨first, others, parts⟩ := List.exists_cons_of_ne_nil (List.splitOnP_ne_nil p text)
      rw [parts] at member inductionHypothesis
      by_cases separates : p d = true
      · rw [if_pos separates, List.mem_cons] at member
        rcases member with rfl | member
        · simp
        · exact inductionHypothesis member
      · rw [if_neg separates, List.modifyHead_cons, List.mem_cons] at member
        rcases member with rfl | member
        · intro c inPart
          rcases List.mem_cons.mp inPart with rfl | inFirst
          · exact Bool.eq_false_iff.mpr separates
          · exact inductionHypothesis List.mem_cons_self c inFirst
        · exact inductionHypothesis (List.mem_cons_of_mem _ member)

theorem mem_of_mem_splitOnP {p : Char → Bool} {text part : List Char} {c : Char}
    (member : part ∈ text.splitOnP p) (inPart : c ∈ part) : c ∈ text := by
  induction text generalizing part with
  | nil =>
      rw [List.splitOnP_nil, List.mem_singleton] at member
      simp [member] at inPart
  | cons d text inductionHypothesis =>
      rw [List.splitOnP_cons_eq_if_modifyHead] at member
      obtain ⟨first, others, parts⟩ := List.exists_cons_of_ne_nil (List.splitOnP_ne_nil p text)
      rw [parts] at member inductionHypothesis
      by_cases separates : p d = true
      · rw [if_pos separates, List.mem_cons] at member
        rcases member with rfl | member
        · simp at inPart
        · exact List.mem_cons_of_mem _ (inductionHypothesis member inPart)
      · rw [if_neg separates, List.modifyHead_cons, List.mem_cons] at member
        rcases member with rfl | member
        · rcases List.mem_cons.mp inPart with rfl | inFirst
          · exact List.mem_cons_self
          · exact List.mem_cons_of_mem _ (inductionHypothesis List.mem_cons_self inFirst)
        · exact List.mem_cons_of_mem _ (inductionHypothesis (List.mem_cons_of_mem _ member) inPart)

theorem slash_not_mem {path segment : List Char} (member : segment ∈ pathSegments path) :
    '/' ∉ segment := by
  intro slash
  have other := not_mem_of_mem_splitOnP member '/' slash
  simp at other

theorem pathSegments_ne_nil (path : List Char) : pathSegments path ≠ [] := by
  simp [pathSegments]

theorem joinSegments_pathSegments (path : List Char) : joinSegments (pathSegments path) = path :=
  List.intercalate_splitOn '/'

theorem pathSegments_joinSegments {segments : List (List Char)} (some : segments ≠ [])
    (slashFree : ∀ segment ∈ segments, '/' ∉ segment) :
    pathSegments (joinSegments segments) = segments :=
  List.splitOn_intercalate '/' slashFree some

theorem pathSegments_of_slashFree {segment : List Char} (slashFree : '/' ∉ segment) :
    pathSegments segment = [segment] := by
  have alone := pathSegments_joinSegments (List.cons_ne_nil segment []) (by simpa using slashFree)
  simpa [joinSegments] using alone

theorem pathSegments_slash (path : List Char) :
    pathSegments ('/' :: path) = [] :: pathSegments path := by
  rw [pathSegments, List.splitOn_cons_eq_if_modifyHead, if_pos (beq_self_eq_true _), pathSegments]

theorem pathSegments_append_slash (path rest : List Char) :
    pathSegments (path ++ '/' :: rest) = pathSegments path ++ pathSegments rest :=
  List.splitOn_append_cons_self path rest

theorem joinSegments_cons {segments : List (List Char)} (some : segments ≠ [])
    (first : List Char) :
    joinSegments (first :: segments) = first ++ '/' :: joinSegments segments := by
  rw [joinSegments, List.intercalate_cons_of_ne_nil some, List.append_assoc]
  rfl

theorem mem_joinSegments {segments : List (List Char)} {segment : List Char} {c : Char}
    (member : segment ∈ segments) (inSegment : c ∈ segment) : c ∈ joinSegments segments := by
  induction segments with
  | nil => simp at member
  | cons first others inductionHypothesis =>
      by_cases last : others = []
      · obtain rfl := List.mem_singleton.mp (last ▸ member)
        simpa [last, joinSegments] using inSegment
      · rw [joinSegments_cons last, List.mem_append, List.mem_cons]
        rcases List.mem_cons.mp member with rfl | later
        · exact Or.inl inSegment
        · exact Or.inr (Or.inr (inductionHypothesis later))

theorem segment_of_mem_joinSegments {segments : List (List Char)} {c : Char}
    (member : c ∈ joinSegments segments) : c = '/' ∨ ∃ segment ∈ segments, c ∈ segment := by
  induction segments with
  | nil => simp [joinSegments] at member
  | cons first others inductionHypothesis =>
      by_cases last : others = []
      · exact Or.inr ⟨first, List.mem_cons_self, by simpa [last, joinSegments] using member⟩
      · rw [joinSegments_cons last, List.mem_append, List.mem_cons] at member
        rcases member with inFirst | slash | later
        · exact Or.inr ⟨first, List.mem_cons_self, inFirst⟩
        · exact Or.inl slash
        · rcases inductionHypothesis later with slash | ⟨segment, inOthers, inSegment⟩
          · exact Or.inl slash
          · exact Or.inr ⟨segment, List.mem_cons_of_mem _ inOthers, inSegment⟩

theorem joinSegments_concat {segments : List (List Char)} (some : segments ≠ [])
    (last : List Char) :
    joinSegments (segments ++ [last]) = joinSegments segments ++ '/' :: last := by
  induction segments with
  | nil => contradiction
  | cons first others inductionHypothesis =>
      cases others with
      | nil => simp [joinSegments]
      | cons second others =>
          have tail := inductionHypothesis (by simp)
          simp only [joinSegments, List.cons_append, List.intercalate_cons_cons] at tail ⊢
          rw [tail]
          simp

/-! ### The normal form -/

/-- What `posix.normalize` does with the next segment. -/
def pushSegment (allowAboveRoot : Bool) (out : List (List Char)) (segment : List Char) :
    List (List Char) :=
  if segment = [] ∨ segment = ['.'] then out
  else if segment = ['.', '.'] then
    if out = [] ∨ out.getLast? = some ['.', '.'] then
      if allowAboveRoot then out ++ [segment] else out
    else out.dropLast
  else out ++ [segment]

/-- `posix.normalize(path)`. -/
def posixNormalize (path : List Char) : List Char :=
  if path = [] then ['.']
  else
    let isAbsolute := path.head? = some '/'
    let trailingSeparator := path.getLast? = some '/'
    let normal := joinSegments ((pathSegments path).foldl (pushSegment (!isAbsolute)) [])
    if normal = [] then
      if isAbsolute then ['/'] else if trailingSeparator then ['.', '/'] else ['.']
    else
      (if isAbsolute then ['/'] else []) ++ normal ++ (if trailingSeparator then ['/'] else [])

/-- A segment that names something. -/
def Names (segment : List Char) : Prop := segment ≠ [] ∧ segment ≠ ['.'] ∧ segment ≠ ['.', '.']

instance : DecidablePred Names := fun _ => inferInstanceAs (Decidable (_ ∧ _))

/-- No segment is a dot segment, and none but the last is empty. -/
structure Settled (segments : List (List Char)) : Prop where
  inner : ∀ segment ∈ segments.dropLast, Names segment
  last : ∀ segment, segments.getLast? = some segment → segment ≠ [] → Names segment

theorem settled_cons_iff {segment : List Char} {segments : List (List Char)} (names : Names segment)
    (nonempty : segments ≠ []) : Settled (segment :: segments) ↔ Settled segments := by
  have last : (segment :: segments).getLast? = segments.getLast? :=
    List.getLast?_cons_of_ne_nil nonempty
  have inner : (segment :: segments).dropLast = segment :: segments.dropLast :=
    List.dropLast_cons_of_ne_nil nonempty
  constructor
  · intro settled
    refine ⟨fun other member => settled.inner other ?_, fun other ends => settled.last other ?_⟩
    · rw [inner]
      exact List.mem_cons_of_mem _ member
    · rw [last]
      exact ends
  · intro settled
    refine ⟨?_, ?_⟩
    · rw [inner]
      exact List.forall_mem_cons.mpr ⟨names, settled.inner⟩
    · rw [last]
      exact settled.last

theorem Settled.no_dots {segments : List (List Char)} (settled : Settled segments)
    {segment : List Char} (member : segment ∈ segments) :
    segment ≠ ['.'] ∧ segment ≠ ['.', '.'] := by
  rcases List.eq_nil_or_concat segments with rfl | ⟨init, last, rfl⟩
  · simp at member
  · rw [List.concat_eq_append] at settled member
    rcases List.mem_append.mp member with inInit | isLast
    · exact (settled.inner segment (by simpa using inInit)).2
    · obtain rfl := List.mem_singleton.mp isLast
      by_cases empty : segment = []
      · simp [empty]
      · exact (settled.last segment (by simp) empty).2

theorem pushSegment_of_names {allowAboveRoot : Bool} {out : List (List Char)}
    {segment : List Char} (names : Names segment) :
    pushSegment allowAboveRoot out segment = out ++ [segment] := by
  obtain ⟨nonempty, noDot, noDots⟩ := names
  simp [pushSegment, nonempty, noDot, noDots]

theorem foldl_pushSegment_of_names {allowAboveRoot : Bool} {segments : List (List Char)}
    (names : ∀ segment ∈ segments, Names segment) (out : List (List Char)) :
    segments.foldl (pushSegment allowAboveRoot) out = out ++ segments := by
  induction segments generalizing out with
  | nil => simp
  | cons segment rest inductionHypothesis =>
      rw [List.foldl_cons, pushSegment_of_names (names _ List.mem_cons_self),
        inductionHypothesis fun other member => names other (List.mem_cons_of_mem _ member),
        List.append_assoc, List.singleton_append]

/-- Below the root, the folded segments all name something. -/
theorem pushSegment_names {out : List (List Char)} {segment : List Char}
    (names : ∀ other ∈ out, Names other) :
    ∀ other ∈ pushSegment false out segment, Names other := by
  unfold pushSegment
  split
  · exact names
  · rename_i notSkipped
    split
    · split
      · exact names
      · exact fun other member => names other (List.dropLast_subset _ member)
    · rename_i noDots
      intro other member
      rcases List.mem_append.mp member with before | new
      · exact names other before
      · obtain rfl := List.mem_singleton.mp new
        exact ⟨fun empty => notSkipped (Or.inl empty), fun dot => notSkipped (Or.inr dot), noDots⟩

theorem pushSegment_subset (allowAboveRoot : Bool) (out : List (List Char))
    (segment : List Char) :
    ∀ other ∈ pushSegment allowAboveRoot out segment, other ∈ out ∨ other = segment := by
  unfold pushSegment
  intro other member
  split at member
  · exact Or.inl member
  · split at member
    · split at member
      · split at member
        · simpa using member
        · exact Or.inl member
      · exact Or.inl (List.dropLast_subset _ member)
    · simpa using member

/-- What the fold leaves of segments without slashes. -/
theorem foldl_pushSegment {segments : List (List Char)}
    (slashFree : ∀ segment ∈ segments, '/' ∉ segment) (out : List (List Char))
    (settled : ∀ segment ∈ out, Names segment ∧ '/' ∉ segment) :
    ∀ segment ∈ segments.foldl (pushSegment false) out, Names segment ∧ '/' ∉ segment := by
  induction segments generalizing out with
  | nil => exact settled
  | cons segment rest inductionHypothesis =>
      have later : ∀ other ∈ rest, '/' ∉ other := fun other member =>
        slashFree other (List.mem_cons_of_mem _ member)
      refine inductionHypothesis later _ fun other member =>
        ⟨pushSegment_names (fun kept inOut => (settled kept inOut).1) other member, ?_⟩
      rcases pushSegment_subset false out segment other member with inOut | rfl
      · exact (settled other inOut).2
      · exact slashFree other List.mem_cons_self

theorem joinSegments_ne_nil {segments : List (List Char)} (some : segments ≠ [])
    (names : ∀ segment ∈ segments, Names segment) : joinSegments segments ≠ [] := by
  cases segments with
  | nil => contradiction
  | cons first others =>
      have nonempty := (names first List.mem_cons_self).1
      cases others with
      | nil => simpa [joinSegments] using nonempty
      | cons second others => simp [joinSegments, List.intercalate_cons_cons]

/-- The normal form of an absolute path. -/
theorem posixNormalize_absolute (rest : List Char) :
    posixNormalize ('/' :: rest) =
      let normal := joinSegments ((pathSegments rest).foldl (pushSegment false) [])
      if normal = [] then ['/']
      else '/' :: (normal ++ if ('/' :: rest).getLast? = some '/' then ['/'] else []) := by
  have skipped : pushSegment false [] [] = [] := rfl
  simp [posixNormalize, pathSegments_slash, skipped]

theorem getLast?_joinSegments_concat {segments : List (List Char)} {last : List Char}
    (nonempty : last ≠ []) : (joinSegments (segments ++ [last])).getLast? = last.getLast? := by
  cases segments with
  | nil => simp [joinSegments]
  | cons first others =>
      obtain ⟨c, cs, rfl⟩ := List.exists_cons_of_ne_nil nonempty
      rw [joinSegments_concat (by simp), List.getLast?_append_of_ne_nil _ (by simp)]
      simp

theorem settled_of_names {segments : List (List Char)}
    (names : ∀ segment ∈ segments, Names segment) : Settled segments where
  inner segment member := names segment (List.dropLast_subset _ member)
  last segment last _ := names segment (List.mem_of_getLast? last)

private theorem settled_of_posixNormalize {rest : List Char}
    (same : posixNormalize ('/' :: rest) = '/' :: rest) : Settled (pathSegments rest) := by
  have kept := @foldl_pushSegment (pathSegments rest) (fun _ => slash_not_mem) [] (by simp)
  rw [posixNormalize_absolute] at same
  dsimp only at same
  generalize (pathSegments rest).foldl (pushSegment false) [] = out at same kept
  have names : ∀ segment ∈ out, Names segment := fun segment member => (kept segment member).1
  by_cases empty : joinSegments out = []
  · rw [if_pos empty] at same
    obtain rfl := (List.cons.inj same).2
    exact ⟨by simp [pathSegments], by simp [pathSegments]⟩
  · rw [if_neg empty] at same
    have some : out ≠ [] := by
      rintro rfl
      exact empty rfl
    have segments := pathSegments_joinSegments some fun segment member => (kept segment member).2
    have form := (List.cons.inj same).2
    split at form
    · rw [← form, pathSegments_append_slash, segments]
      exact ⟨by simpa [pathSegments] using names, by simp [pathSegments]⟩
    · rw [← form, List.append_nil, segments]
      exact settled_of_names names

private theorem posixNormalize_of_settled {rest : List Char}
    (settled : Settled (pathSegments rest)) : posixNormalize ('/' :: rest) = '/' :: rest := by
  obtain ⟨init, last, segments⟩ :=
    List.eq_nil_or_concat (pathSegments rest) |>.resolve_left (pathSegments_ne_nil rest)
  rw [List.concat_eq_append] at segments
  have joined : joinSegments (init ++ [last]) = rest := by
    rw [← segments, joinSegments_pathSegments]
  have noSlash : '/' ∉ last := @slash_not_mem rest _ (by simp [segments])
  rw [segments] at settled
  have inner : ∀ segment ∈ init, Names segment := by simpa using settled.inner
  rw [posixNormalize_absolute, segments, List.foldl_concat, foldl_pushSegment_of_names inner,
    List.nil_append]
  by_cases empty : last = []
  · -- The path ends in a slash, which the fold drops and the normal form keeps.
    have skipped : pushSegment false init last = init := by
      rw [empty]
      rfl
    rw [skipped, ← joined, empty]
    by_cases none : init = []
    · rw [none]
      rfl
    · have trailing : ('/' :: (joinSegments init ++ ['/'])).getLast? = some '/' := by
        rw [← List.cons_append, List.getLast?_concat]
      rw [joinSegments_concat none, if_neg (joinSegments_ne_nil none inner), if_pos trailing]
  · have names := settled.last last (by simp) empty
    have ends : rest.getLast? = last.getLast? := by
      rw [← joined, getLast?_joinSegments_concat empty]
    have nonempty : rest ≠ [] := by
      rintro rfl
      exact empty (List.getLast?_eq_none_iff.mp ends.symm)
    have noTrailing : ('/' :: rest).getLast? ≠ some '/' := by
      rw [List.getLast?_cons_of_ne_nil nonempty, ends]
      exact fun slash => noSlash (List.mem_of_getLast? slash)
    rw [pushSegment_of_names names, joined, if_neg nonempty, if_neg noTrailing, List.append_nil]

/-- The absolute paths that are their own normal form. -/
theorem posixNormalize_eq_self_iff (rest : List Char) :
    posixNormalize ('/' :: rest) = '/' :: rest ↔ Settled (pathSegments rest) :=
  ⟨settled_of_posixNormalize, posixNormalize_of_settled⟩

end DicodeRelay.Lib
