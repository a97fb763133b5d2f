import DicodeRelay.Lib.Datum
import DicodeRelay.Lib.OrderedMap

/-!
Contract: schemas that read plain data into typed values.

Owns:
- schemas with the laws that what they accept is well formed, and that a well-formed
  value is read back from its own data;
- strings, numbers, arrays, records and objects with optional and defaulted members;
- where the issues of a refused value are.

Does not own: the texts of issues a schema gives no text of its own.
-/

namespace DicodeRelay.Lib

/-! ### Issues -/

inductive PathItem where
  | key (name : String)
  | index (n : Nat)
deriving DecidableEq

inductive DatumType where
  | string
  | boolean
  | number
  | integer
  | array
  | object
  | record
deriving DecidableEq

/-- What is wrong with a value. -/
inductive Fault where
  | expected (type : DatumType)
  | unsafeInteger
  | notPositive
  /-- A check with a text of its own. -/
  | custom (message : String)
deriving DecidableEq

structure Issue where
  path : List PathItem
  fault : Fault
deriving DecidableEq

/-- A value that was read, or everything that is wrong with the data. -/
abbrev Parsed (α : Type) := Except (List Issue) α

namespace Parsed

variable {α β : Type}

def refuse (fault : Fault) : Parsed α := .error [⟨[], fault⟩]

/-- The issues are below `item`. -/
def below (item : PathItem) (parsed : Parsed α) : Parsed α :=
  parsed.mapError fun issues => issues.map fun issue => { issue with path := item :: issue.path }

/-- Both parts are read, and the issues of both are reported. -/
def both : Parsed α → Parsed β → Parsed (α × β)
  | .ok a, .ok b => .ok (a, b)
  | .ok _, .error issues => .error issues
  | .error issues, .ok _ => .error issues
  | .error issues, .error issues' => .error (issues ++ issues')

@[simp] theorem below_ok (item : PathItem) (a : α) : below item (.ok a) = .ok a := rfl

theorem below_eq_ok {item : PathItem} {parsed : Parsed α} {a : α} :
    parsed.below item = .ok a ↔ parsed = .ok a := by
  cases parsed with
  | error issues => simp [below, Except.mapError]
  | ok b => simp

@[simp] theorem both_ok (a : α) (b : β) : both (.ok a) (.ok b) = .ok (a, b) := rfl

theorem both_eq_ok {first : Parsed α} {second : Parsed β} {p : α × β} :
    first.both second = .ok p ↔ first = .ok p.1 ∧ second = .ok p.2 := by
  cases first <;> cases second <;> simp [both, Prod.ext_iff]

theorem map_eq_ok {parsed : Parsed α} {f : α → β} {b : β} :
    parsed.map f = .ok b ↔ ∃ a, parsed = .ok a ∧ f a = b := by
  cases parsed <;> simp [Except.map]

/-- Everything that is wrong. -/
def issues : Parsed α → List Issue
  | .ok _ => []
  | .error issues => issues

end Parsed

/-! ### Schemas -/

/-- A schema reads a value. Whatever it accepts is admissible, and an admissible value
is read back from its own data. -/
structure Schema (α : Type) where
  Admissible : α → Prop
  encode : α → Datum
  decode : Datum → Parsed α
  decode_encode : ∀ a, Admissible a → decode (encode a) = .ok a
  admissible_of_decode : ∀ d a, decode d = .ok a → Admissible a

/-- A schema of a member that may be missing. -/
structure Setting (α : Type) where
  Admissible : α → Prop
  encode : α → Option Datum
  decode : Option Datum → Parsed α
  decode_encode : ∀ a, Admissible a → decode (encode a) = .ok a
  admissible_of_decode : ∀ d a, decode d = .ok a → Admissible a

namespace Schema

variable {α β : Type}

/-- Strings that pass a check. -/
def ofString (check : String → Option Fault) : Schema String where
  Admissible value := check value = none
  encode := .string
  decode
    | .string value =>
        match check value with
        | none => .ok value
        | some fault => .refuse fault
    | _ => .refuse (.expected .string)
  decode_encode value passes := by simp only [passes]
  admissible_of_decode d value accepted := by
    split at accepted
    · split at accepted
      · rename_i passes
        cases accepted
        exact passes
      · cases accepted
    · cases accepted

def string : Schema String := ofString fun _ => none

def MAX_SAFE_INTEGER : Int := 9007199254740991

def isSafe (n : Int) : Bool := -MAX_SAFE_INTEGER ≤ n ∧ n ≤ MAX_SAFE_INTEGER

/-- What is wrong with an integer; one that is unsafe is still checked for its sign. -/
def integerFaults (positive : Bool) (n : Int) : List Fault :=
  (if isSafe n then [] else [.unsafeInteger]) ++
    if positive = true ∧ n ≤ 0 then [.notPositive] else []

theorem integerFaults_eq_nil {positive : Bool} {n : Int} :
    integerFaults positive n = [] ↔ isSafe n = true ∧ (positive = true → 0 < n) := by
  rw [integerFaults, List.append_eq_nil_iff]
  simp

/-- Safe integers. -/
def ofInteger (positive : Bool) : Schema Int where
  Admissible n := isSafe n = true ∧ (positive = true → 0 < n)
  encode := .integer
  decode
    | .integer n =>
        match integerFaults positive n with
        | [] => .ok n
        | faults => .error (faults.map fun fault => ⟨[], fault⟩)
    | .fraction => .refuse (.expected .integer)
    | _ => .refuse (.expected .number)
  decode_encode n admissible := by
    simp only [integerFaults_eq_nil.mpr admissible]
  admissible_of_decode d n accepted := by
    split at accepted
    · split at accepted
      · rename_i clean
        cases accepted
        exact integerFaults_eq_nil.mp clean
      · cases accepted
    · cases accepted
    · cases accepted

def int : Schema Int := ofInteger false

def positive : Schema Int := ofInteger true

/-- The items of an array, from place `n` on. -/
def decodeItems (s : Schema α) : Nat → List Datum → Parsed (List α)
  | _, [] => .ok []
  | n, item :: items =>
      (((s.decode item).below (.index n)).both (decodeItems s (n + 1) items)).map
        fun p => p.1 :: p.2

theorem decodeItems_encode (s : Schema α) {values : List α}
    (admissible : ∀ a ∈ values, s.Admissible a) (n : Nat) :
    s.decodeItems n (values.map s.encode) = .ok values := by
  induction values generalizing n with
  | nil => rfl
  | cons a values inductionHypothesis =>
      have first := s.decode_encode a (admissible a List.mem_cons_self)
      have rest := inductionHypothesis
        (fun b member => admissible b (List.mem_cons_of_mem _ member)) (n + 1)
      rw [List.map_cons, decodeItems, first, rest]
      rfl

theorem admissible_of_decodeItems (s : Schema α) {n : Nat} {items : List Datum}
    {values : List α} (accepted : s.decodeItems n items = .ok values) :
    ∀ a ∈ values, s.Admissible a := by
  induction items generalizing n values with
  | nil =>
      cases accepted
      simp
  | cons item items inductionHypothesis =>
      obtain ⟨p, read, rfl⟩ := Parsed.map_eq_ok.mp accepted
      obtain ⟨first, rest⟩ := Parsed.both_eq_ok.mp read
      intro a member
      rcases List.mem_cons.mp member with rfl | member
      · exact s.admissible_of_decode item _ (Parsed.below_eq_ok.mp first)
      · exact inductionHypothesis rest a member

def array (s : Schema α) : Schema (List α) where
  Admissible values := ∀ a ∈ values, s.Admissible a
  encode values := .array (values.map s.encode)
  decode
    | .array items => s.decodeItems 0 items
    | _ => .refuse (.expected .array)
  decode_encode values admissible := s.decodeItems_encode admissible 0
  admissible_of_decode d values accepted := by
    split at accepted
    · exact s.admissible_of_decodeItems accepted
    · cases accepted

def decodeMembers (s : Schema α) : List (String × Datum) → Parsed (List (String × α))
  | [] => .ok []
  | member :: members =>
      (((s.decode member.2).below (.key member.1)).both (decodeMembers s members)).map
        fun p => (member.1, p.1) :: p.2

theorem decodeMembers_encode (s : Schema α) {values : List (String × α)}
    (admissible : ∀ entry ∈ values, s.Admissible entry.2) :
    s.decodeMembers (values.map fun entry => (entry.1, s.encode entry.2)) = .ok values := by
  induction values with
  | nil => rfl
  | cons entry values inductionHypothesis =>
      have first := s.decode_encode entry.2 (admissible entry List.mem_cons_self)
      have rest := inductionHypothesis
        fun other member => admissible other (List.mem_cons_of_mem _ member)
      rw [List.map_cons, decodeMembers, first, rest]
      rfl

theorem admissible_of_decodeMembers (s : Schema α) {members : List (String × Datum)}
    {values : List (String × α)} (accepted : s.decodeMembers members = .ok values) :
    ∀ entry ∈ values, s.Admissible entry.2 := by
  induction members generalizing values with
  | nil =>
      cases accepted
      simp
  | cons member members inductionHypothesis =>
      obtain ⟨p, read, rfl⟩ := Parsed.map_eq_ok.mp accepted
      obtain ⟨first, rest⟩ := Parsed.both_eq_ok.mp read
      intro entry present
      rcases List.mem_cons.mp present with rfl | present
      · exact s.admissible_of_decode member.2 _ (Parsed.below_eq_ok.mp first)
      · exact inductionHypothesis rest entry present

/-- Objects with any keys. -/
def record (s : Schema α) : Schema (OrderedMap String α) where
  Admissible m := ∀ entry ∈ m.entries, s.Admissible entry.2
  encode m := .object (m.entries.map fun entry => (entry.1, s.encode entry.2))
  decode
    | .object members => (s.decodeMembers members).map OrderedMap.ofList
    | _ => .refuse (.expected .record)
  decode_encode m admissible := by
    simp only [s.decodeMembers_encode admissible]
    exact congrArg Except.ok m.ofList_entries
  admissible_of_decode d m accepted := by
    split at accepted
    · obtain ⟨values, read, rfl⟩ := Parsed.map_eq_ok.mp accepted
      have each := s.admissible_of_decodeMembers read
      intro entry present
      exact OrderedMap.forall_ofList each _ _
        ((OrderedMap.mem_entries_iff _ entry.1 entry.2).mp present)
    · cases accepted

/-! ### Other readings of a value -/

end Schema

/-! ### Members of an object -/

namespace Setting

variable {α β : Type}

end Setting

/-- Some of the members of an object, read by their keys. -/
structure Fields (α : Type) where
  keys : List String
  Admissible : α → Prop
  encode : α → List (String × Datum)
  decode : (String → Option Datum) → Parsed α
  keys_encode : ∀ a, ∀ member ∈ encode a, member.1 ∈ keys
  decode_congr : ∀ {found found' : String → Option Datum},
    (∀ key ∈ keys, found key = found' key) → decode found = decode found'
  decode_encode : ∀ a, Admissible a → decode (fun key => (encode a).lookup key) = .ok a
  admissible_of_decode : ∀ found a, decode found = .ok a → Admissible a

namespace Fields

variable {α β : Type}

/-- The member under one key. -/
def one (key : String) (s : Setting α) : Fields α where
  keys := [key]
  Admissible := s.Admissible
  encode a := (s.encode a).toList.map fun d => (key, d)
  decode found := (s.decode (found key)).below (.key key)
  keys_encode a member present := by
    obtain ⟨d, _, rfl⟩ := List.mem_map.mp present
    exact List.mem_singleton_self key
  decode_congr agree := by rw [agree key (List.mem_singleton_self key)]
  decode_encode a admissible := by
    have looked : ((s.encode a).toList.map fun d => (key, d)).lookup key = s.encode a := by
      cases s.encode a <;> simp
    simp only [looked, s.decode_encode a admissible, Parsed.below_ok]
  admissible_of_decode found a accepted :=
    s.admissible_of_decode _ a (Parsed.below_eq_ok.mp accepted)

theorem lookup_of_not_mem {key : String} {members : List (String × Datum)}
    (absent : ∀ member ∈ members, member.1 ≠ key) : members.lookup key = none := by
  induction members with
  | nil => rfl
  | cons member members inductionHypothesis =>
      have different := (absent member List.mem_cons_self).symm
      rw [List.lookup_cons, beq_false_of_ne different]
      exact inductionHypothesis fun other present => absent other (List.mem_cons_of_mem _ present)

/-- The members of both, which have different keys. -/
def both (f : Fields α) (g : Fields β) (disjoint : ∀ key ∈ f.keys, key ∉ g.keys) :
    Fields (α × β) where
  keys := f.keys ++ g.keys
  Admissible p := f.Admissible p.1 ∧ g.Admissible p.2
  encode p := f.encode p.1 ++ g.encode p.2
  decode found := (f.decode found).both (g.decode found)
  keys_encode p member present := by
    rcases List.mem_append.mp present with first | second
    · exact List.mem_append_left _ (f.keys_encode p.1 member first)
    · exact List.mem_append_right _ (g.keys_encode p.2 member second)
  decode_congr agree := by
    rw [f.decode_congr fun key present => agree key (List.mem_append_left _ present),
      g.decode_congr fun key present => agree key (List.mem_append_right _ present)]
  decode_encode p admissible := by
    have first : ∀ key ∈ f.keys,
        (f.encode p.1 ++ g.encode p.2).lookup key = (f.encode p.1).lookup key := by
      intro key present
      have absent : (g.encode p.2).lookup key = none := by
        apply lookup_of_not_mem
        rintro member inside rfl
        exact disjoint _ present (g.keys_encode p.2 member inside)
      rw [List.lookup_append, absent, Option.or_none]
    have second : ∀ key ∈ g.keys,
        (f.encode p.1 ++ g.encode p.2).lookup key = (g.encode p.2).lookup key := by
      intro key present
      have absent : (f.encode p.1).lookup key = none := by
        apply lookup_of_not_mem
        rintro member inside rfl
        exact disjoint _ (f.keys_encode p.1 member inside) present
      rw [List.lookup_append, absent, Option.none_or]
    rw [f.decode_congr first, g.decode_congr second, f.decode_encode p.1 admissible.1,
      g.decode_encode p.2 admissible.2]
    rfl
  admissible_of_decode found p accepted := by
    obtain ⟨first, second⟩ := Parsed.both_eq_ok.mp accepted
    exact ⟨f.admissible_of_decode found p.1 first, g.admissible_of_decode found p.2 second⟩

/-- Objects with these members; others are left out. -/
def object (f : Fields α) : Schema α where
  Admissible := f.Admissible
  encode a := .object (f.encode a)
  decode
    | .object members => f.decode fun key => members.lookup key
    | _ => .refuse (.expected .object)
  decode_encode := f.decode_encode
  admissible_of_decode d a accepted := by
    split at accepted
    · exact f.admissible_of_decode _ a accepted
    · cases accepted

end Fields

/-! ### Replacing a part of the data -/

/-- With `g` applied to the data, the schema reads what it reads without, with `h`
applied to it. -/
def Schema.Maps {α : Type} (s : Schema α) (g : Datum → Datum) (h : α → α) : Prop :=
  ∀ d, s.decode (g d) = (s.decode d).map h

def Setting.Maps {α : Type} (s : Setting α) (g : Datum → Datum) (h : α → α) : Prop :=
  ∀ d, s.decode (d.map g) = (s.decode d).map h

/-- The same for the member under one key. -/
def Fields.Maps {α : Type} (f : Fields α) (key : String) (g : Datum → Datum) (h : α → α) : Prop :=
  ∀ found : String → Option Datum,
    f.decode (fun name => if name = key then (found name).map g else found name) =
      (f.decode found).map h

namespace Parsed

variable {α β γ : Type}

theorem map_below (item : PathItem) (parsed : Parsed α) (f : α → β) :
    (parsed.below item).map f = Parsed.below item (parsed.map f) := by
  cases parsed <;> rfl

theorem map_both {first : Parsed α} {second : Parsed β} (f : α → α) (g : β → β) :
    (first.both second).map (Prod.map f g) =
      Parsed.both (first.map f) (second.map g) := by
  cases first <;> cases second <;> rfl

theorem map_map (parsed : Parsed α) (f : α → β) (g : β → γ) :
    Except.map g (parsed.map f) = parsed.map fun a => g (f a) := by
  cases parsed <;> rfl

theorem map_id (parsed : Parsed α) : Except.map id parsed = parsed := by
  cases parsed <;> rfl

end Parsed

section

variable {α β : Type} {g : Datum → Datum}

theorem Fields.Maps.one {s : Setting α} {h : α → α} (maps : s.Maps g h) (key : String) :
    (Fields.one key s).Maps key g h := by
  intro found
  change Parsed.below (.key key) (s.decode (if key = key then (found key).map g else found key)) = _
  rw [if_pos rfl, maps]
  exact (Parsed.map_below _ _ _).symm

theorem Fields.decode_of_not_mem (f : Fields α) {key : String} (absent : key ∉ f.keys)
    (g : Datum → Datum) (found : String → Option Datum) :
    f.decode (fun name => if name = key then (found name).map g else found name) =
      f.decode found := by
  apply f.decode_congr
  intro name present
  apply if_neg
  rintro rfl
  exact absent present

theorem Fields.Maps.left {f : Fields α} {f' : Fields β}
    {disjoint : ∀ key ∈ f.keys, key ∉ f'.keys} {key : String} {h : α → α} (maps : f.Maps key g h)
    (present : key ∈ f.keys) : (f.both f' disjoint).Maps key g (Prod.map h id) := by
  intro found
  have other := f'.decode_of_not_mem (disjoint key present) g found
  change Parsed.both _ _ = _
  rw [maps found, other, ← Parsed.map_id (f'.decode found), ← Parsed.map_both]
  rfl

theorem Fields.Maps.right {f : Fields α} {f' : Fields β}
    {disjoint : ∀ key ∈ f.keys, key ∉ f'.keys} {key : String} {h : β → β} (maps : f'.Maps key g h)
    (absent : key ∉ f.keys) : (f.both f' disjoint).Maps key g (Prod.map id h) := by
  intro found
  have other := f.decode_of_not_mem absent g found
  change Parsed.both _ _ = _
  rw [maps found, other, ← Parsed.map_id (f.decode found), ← Parsed.map_both]
  rfl

theorem Fields.Maps.object {f : Fields α} {key : String} {h : α → α} (maps : f.Maps key g h) :
    f.object.Maps (Datum.modifyMember key g) h := by
  intro d
  cases d with
  | object members =>
      have looked : (fun name => (members.map fun member =>
            if member.1 = key then (key, g member.2) else member).lookup name) =
          fun name => if name = key then (members.lookup name).map g else members.lookup name := by
        funext name
        exact Datum.lookup_modifyMember key name g members
      change f.decode _ = _
      rw [looked]
      exact maps _
  | _ => rfl

theorem Schema.Maps.record {s : Schema α} {h : α → α} (maps : s.Maps g h) :
    s.record.Maps (Datum.modifyMembers g) (OrderedMap.mapValues h) := by
  have each : ∀ members : List (String × Datum),
      s.decodeMembers (members.map fun member => (member.1, g member.2)) =
        (s.decodeMembers members).map fun values => values.map fun e => (e.1, h e.2) := by
    intro members
    induction members with
    | nil => rfl
    | cons member members inductionHypothesis =>
        rw [List.map_cons, decodeMembers, decodeMembers, inductionHypothesis, maps]
        cases s.decode member.2 <;> cases s.decodeMembers members <;> rfl
  intro d
  cases d with
  | object members =>
      change (s.decodeMembers _).map OrderedMap.ofList = Except.map _ (Except.map _ _)
      rw [each, Parsed.map_map, Parsed.map_map]
      congr 1
      funext values
      exact OrderedMap.ofList_map h values
  | _ => rfl

end

end DicodeRelay.Lib
