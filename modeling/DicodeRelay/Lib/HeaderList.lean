import Mathlib.Data.List.Dedup
import Mathlib.Data.List.Sort

/-!
Contract: header lists, as the fetch standard has them.

Owns:
- the names and the values that are legal, and the lines a parser takes;
- `append`, `set` and iteration of a `Headers` object.

Does not own: how headers are framed in a message.
-/

namespace DicodeRelay.Lib

abbrev HeaderList := List (String × String)

/-! ### Names and values -/

/-- Lowercase, as far as a comparison with an ASCII name goes: besides the ASCII
letters only the Kelvin sign has an ASCII lowercase. -/
def lowercaseChar (c : Char) : Char := if c.toNat = 0x212A then 'k' else c.toLower

/-- `name.toLowerCase()`, as far as a comparison with an ASCII name goes. -/
def lowercase (name : String) : String := String.ofList (name.toList.map lowercaseChar)

private theorem toNat_lowercaseChar (c : Char) : (lowercaseChar c).toNat =
    if c.toNat = 0x212A then 107 else if 65 ≤ c.toNat ∧ c.toNat ≤ 90 then c.toNat + 32
    else c.toNat := by
  unfold lowercaseChar
  split
  · rfl
  · have value : c.val.toNat = c.toNat := rfl
    unfold Char.toLower
    split
    · rename_i upper
      have bounds : 65 ≤ c.toNat ∧ c.toNat ≤ 90 := by
        simpa [UInt32.le_iff_toNat_le] using upper
      have shift : ('a'.val - 'A'.val : UInt32).toNat = 32 := rfl
      rw [if_pos bounds]
      simp only [Char.toNat, UInt32.toNat_add]
      omega
    · rename_i other
      rw [if_neg fun bounds => other (by simpa [UInt32.le_iff_toNat_le] using bounds)]

theorem lowercaseChar_lowercaseChar (c : Char) :
    lowercaseChar (lowercaseChar c) = lowercaseChar c := by
  have same : (lowercaseChar (lowercaseChar c)).toNat = (lowercaseChar c).toNat := by
    rw [toNat_lowercaseChar, toNat_lowercaseChar]
    split_ifs <;> omega
  rw [← Char.ofNat_toNat (lowercaseChar (lowercaseChar c)), same, Char.ofNat_toNat]

theorem lowercase_lowercase (name : String) : lowercase (lowercase name) = lowercase name := by
  rw [lowercase, lowercase, String.toList_ofList, List.map_map]
  exact congrArg String.ofList
    (List.map_congr_left fun c _ => lowercaseChar_lowercaseChar c)

/-- The characters of a token. -/
def isTokenChar (c : Char) : Bool :=
  (c.isAlphanum ∧ c.toNat < 128) ∨ c ∈ "!#$%&'*+-.^_`|~".toList

def isHeaderName (name : String) : Bool := name ≠ "" ∧ name.toList.all isTokenChar

def isHttpWhitespace (c : Char) : Bool := c = '\t' ∨ c = '\n' ∨ c = '\r' ∨ c = ' '

/-- The value without white space around it. -/
def normalizeValue (value : String) : String :=
  String.ofList
    ((value.toList.dropWhile isHttpWhitespace).reverse.dropWhile isHttpWhitespace).reverse

def isHeaderValue (value : String) : Bool :=
  value.toList.all fun c => c.toNat ≤ 0xFF ∧ c.toNat ≠ 0 ∧ c ≠ '\n' ∧ c ≠ '\r'

/-- The name and the value are ones `Headers` takes. -/
def isLegalHeader (name value : String) : Bool :=
  isHeaderName name ∧ isHeaderValue (normalizeValue value)

/-- A character of a field value on the wire. -/
def isFieldChar (c : Char) : Bool :=
  c = '\t' ∨ (0x20 ≤ c.toNat ∧ c.toNat ≤ 0xFF ∧ c.toNat ≠ 0x7F)

/-- A header line that an HTTP parser takes. -/
def isFieldLine (name value : String) : Bool := isHeaderName name ∧ value.toList.all isFieldChar

theorem isTokenChar_lowercaseChar {c : Char} (token : isTokenChar c = true) :
    isTokenChar (lowercaseChar c) = true := by
  have ascii : c.toNat < 128 := by
    simp only [isTokenChar, decide_eq_true_eq] at token
    rcases token with alphanumeric | listed
    · exact alphanumeric.2
    · have ascii : ("!#$%&'*+-.^_`|~".toList.all fun d => d.toNat < 128) = true := by decide
      exact of_decide_eq_true (List.all_eq_true.mp ascii c listed)
  have all : ∀ n : Fin 128, isTokenChar (Char.ofNat n) = true →
      isTokenChar (lowercaseChar (Char.ofNat n)) = true := by decide +kernel
  have here := all ⟨c.toNat, ascii⟩
  simp only [Char.ofNat_toNat] at here
  exact here token

theorem isHeaderName_lowercase {name : String} (valid : isHeaderName name = true) :
    isHeaderName (lowercase name) = true := by
  simp only [isHeaderName, decide_eq_true_eq, List.all_eq_true] at valid ⊢
  obtain ⟨named, tokens⟩ := valid
  rw [lowercase, String.toList_ofList]
  refine ⟨?_, ?_⟩
  · intro empty
    have nothing := congrArg String.toList empty
    rw [String.toList_ofList, String.toList_empty, List.map_eq_nil_iff] at nothing
    exact named (String.toList_inj.mp (nothing.trans String.toList_empty.symm))
  · intro c member
    obtain ⟨d, inName, rfl⟩ := List.mem_map.mp member
    exact isTokenChar_lowercaseChar (tokens d inName)

private theorem mem_of_mem_intercalate {separator : String} {values : List String} {c : Char}
    (member : c ∈ (separator.intercalate values).toList) :
    c ∈ separator.toList ∨ ∃ value ∈ values, c ∈ value.toList := by
  induction values with
  | nil => simp at member
  | cons value rest inductionHypothesis =>
      by_cases last : rest = []
      · subst last
        rw [String.intercalate_singleton] at member
        exact Or.inr ⟨value, List.mem_cons_self, member⟩
      · rw [String.intercalate_cons_of_ne_nil last, String.toList_append, String.toList_append,
          List.mem_append, List.mem_append] at member
        rcases member with (here | between) | later
        · exact Or.inr ⟨value, List.mem_cons_self, here⟩
        · exact Or.inl between
        · refine (inductionHypothesis later).imp_right ?_
          rintro ⟨other, inRest, inOther⟩
          exact ⟨other, List.mem_cons_of_mem _ inRest, inOther⟩

/-! ### Operations -/

namespace HeaderList

/-- `headers.append(name, value)`; `none`: it throws. -/
def append (headers : HeaderList) (name value : String) : Option HeaderList :=
  if isLegalHeader name value then some (headers ++ [(name, normalizeValue value)]) else none

/-- `headers.set(name, value)`; `none`: it throws. -/
def set (headers : HeaderList) (name value : String) : Option HeaderList :=
  if isLegalHeader name value then
    some (headers.filter (fun h => lowercase h.1 ≠ lowercase name) ++
      [(name, normalizeValue value)])
  else none

/-- The values under a lowercase name, oldest first. -/
def values (headers : HeaderList) (name : String) : List String :=
  (headers.filter fun h => lowercase h.1 = name).map Prod.snd

/-- The value of all headers of a name. -/
def combined (headers : HeaderList) (name : String) : String :=
  ", ".intercalate (headers.values name)

def names (headers : HeaderList) : List String :=
  ((headers.map fun h => lowercase h.1).dedup).insertionSort (· ≤ ·)

/-- `headers.get(name)` for a lowercase name; `none`: there is no such header. -/
def get (headers : HeaderList) (name : String) : Option String :=
  if name ∈ headers.names then some (headers.combined name) else none

/-- What iteration yields: sorted lowercase names, the values of each combined
but those of `set-cookie`. -/
def iterate (headers : HeaderList) : HeaderList :=
  headers.names.flatMap fun name =>
    if name = "set-cookie" then (headers.values name).map fun value => (name, value)
    else [(name, headers.combined name)]

/-! ### Legal headers -/

/-- What is trimmed off a legal value leaves it legal. -/
theorem isHeaderValue_normalizeValue {value : String} (valid : isHeaderValue value = true) :
    isHeaderValue (normalizeValue value) = true := by
  rw [isHeaderValue, List.all_eq_true] at valid ⊢
  intro c member
  rw [normalizeValue, String.toList_ofList] at member
  apply valid c
  have trimmed := (List.dropWhile_suffix isHttpWhitespace).subset (List.mem_reverse.mp member)
  exact (List.dropWhile_suffix isHttpWhitespace).subset (List.mem_reverse.mp trimmed)

/-- Values are appended one after the other as long as they are legal. -/
theorem foldlM_append_isSome_iff {name : String} {values : List String} {headers : HeaderList} :
    (values.foldlM (fun (headers : HeaderList) value => headers.append name value)
      headers).isSome = true ↔ ∀ value ∈ values, isLegalHeader name value = true := by
  induction values generalizing headers with
  | nil => simp
  | cons value rest inductionHypothesis =>
      rw [List.foldlM_cons, List.forall_mem_cons, append]
      by_cases legal : isLegalHeader name value = true
      · rw [if_pos legal]
        exact inductionHypothesis.trans (and_iff_right legal).symm
      · rw [if_neg legal]
        simp [legal]

/-! ### Iteration -/

theorem mem_names {headers : HeaderList} {name : String} :
    name ∈ names headers ↔ ∃ h ∈ headers, lowercase h.1 = name := by
  rw [names, List.mem_insertionSort, List.mem_dedup, List.mem_map]

theorem get_of_mem_names {headers : HeaderList} {name : String}
    (member : name ∈ headers.names) : headers.get name = some (headers.combined name) :=
  if_pos member

theorem names_nodup (headers : HeaderList) : (names headers).Nodup :=
  (List.perm_insertionSort _ _).nodup_iff.mpr (List.nodup_dedup _)

theorem lowercase_of_mem_names {headers : HeaderList} {name : String}
    (member : name ∈ names headers) : lowercase name = name := by
  obtain ⟨h, _, rfl⟩ := mem_names.mp member
  exact lowercase_lowercase h.1

/-- Every line is one that an HTTP parser takes. -/
def Legal (headers : HeaderList) : Prop := ∀ h ∈ headers, isFieldLine h.1 h.2 = true

theorem Legal.combined {headers : HeaderList} (legal : headers.Legal) {name : String}
    (member : name ∈ headers.names) : isFieldLine name (headers.combined name) = true := by
  obtain ⟨h, inHeaders, rfl⟩ := mem_names.mp member
  have own := legal h inHeaders
  simp only [isFieldLine, decide_eq_true_eq] at own
  have separator : ", ".toList.all isFieldChar = true := by decide
  simp only [isFieldLine, decide_eq_true_eq, List.all_eq_true]
  refine ⟨isHeaderName_lowercase own.1, ?_⟩
  intro c inCombined
  rcases mem_of_mem_intercalate inCombined with between | ⟨value, inValues, inValue⟩
  · exact List.all_eq_true.mp separator c between
  · obtain ⟨line, found, rfl⟩ := List.mem_map.mp inValues
    have valid := legal line (List.mem_filter.mp found).1
    simp only [isFieldLine, decide_eq_true_eq, List.all_eq_true] at valid
    exact valid.2 c inValue

end HeaderList

end DicodeRelay.Lib
