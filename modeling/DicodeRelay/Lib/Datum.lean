import Mathlib.Data.List.Basic

/-!
Contract: plain data, as YAML and JSON documents hold it.

Owns:
- values built of scalars, arrays and objects;
- the strings of a value, and replacing each of them;
- the value at a member, and replacing it.

Does not own: texts of documents; what the numbers that are no integers are.
-/

namespace DicodeRelay.Lib

/-- A plain value. The members of an object have distinct keys, and stand in the order
in which the object lists them. -/
inductive Datum where
  | null
  | bool (value : Bool)
  | integer (value : Int)
  /-- A finite number that is not an integer. -/
  | fraction
  /-- `NaN` or an infinity. -/
  | nonFinite
  | string (value : String)
  | array (items : List Datum)
  | object (members : List (String × Datum))

namespace Datum

/-! ### Strings -/

mutual

/-- The value with each of its strings replaced; keys are kept. -/
def mapStrings (f : String → String) : Datum → Datum
  | .string value => .string (f value)
  | .array items => .array (mapItems f items)
  | .object members => .object (mapMembers f members)
  | value => value

def mapItems (f : String → String) : List Datum → List Datum
  | [] => []
  | item :: items => item.mapStrings f :: mapItems f items

def mapMembers (f : String → String) : List (String × Datum) → List (String × Datum)
  | [] => []
  | member :: members => (member.1, member.2.mapStrings f) :: mapMembers f members

end

mutual

/-- The strings in a value, keys aside, in order of appearance. -/
def strings : Datum → List String
  | .string value => [value]
  | .array items => itemStrings items
  | .object members => memberStrings members
  | _ => []

def itemStrings : List Datum → List String
  | [] => []
  | item :: items => item.strings ++ itemStrings items

def memberStrings : List (String × Datum) → List String
  | [] => []
  | member :: members => member.2.strings ++ memberStrings members

end

variable {f g : String → String}

theorem mapMembers_eq (members : List (String × Datum)) :
    mapMembers f members = members.map fun member => (member.1, member.2.mapStrings f) := by
  induction members with
  | nil => rfl
  | cons member members inductionHypothesis =>
      rw [mapMembers, inductionHypothesis, List.map_cons]

mutual

/-- What the strings are replaced by depends on the strings that are there. -/
theorem mapStrings_congr (d : Datum) (agree : ∀ s ∈ d.strings, f s = g s) :
    d.mapStrings f = d.mapStrings g := by
  cases d with
  | string value => rw [mapStrings, mapStrings, agree value (by simp [strings])]
  | array items =>
      rw [mapStrings, mapStrings, mapItems_congr items fun s member => agree s (by
        rw [strings]
        exact member)]
  | object members =>
      rw [mapStrings, mapStrings, mapMembers_congr members fun s member => agree s (by
        rw [strings]
        exact member)]
  | _ => rfl

theorem mapItems_congr (items : List Datum) (agree : ∀ s ∈ itemStrings items, f s = g s) :
    mapItems f items = mapItems g items := by
  cases items with
  | nil => rfl
  | cons item items =>
      rw [mapItems, mapItems, mapStrings_congr item fun s member => agree s (by
          rw [itemStrings]
          exact List.mem_append_left _ member),
        mapItems_congr items fun s member => agree s (by
          rw [itemStrings]
          exact List.mem_append_right _ member)]

theorem mapMembers_congr (members : List (String × Datum))
    (agree : ∀ s ∈ memberStrings members, f s = g s) :
    mapMembers f members = mapMembers g members := by
  cases members with
  | nil => rfl
  | cons member members =>
      rw [mapMembers, mapMembers, mapStrings_congr member.2 fun s inside => agree s (by
          rw [memberStrings]
          exact List.mem_append_left _ inside),
        mapMembers_congr members fun s inside => agree s (by
          rw [memberStrings]
          exact List.mem_append_right _ inside)]

end

/-! ### Members -/

/-- The value of a member. -/
def member (key : String) : Datum → Option Datum
  | .object members => members.lookup key
  | _ => none

/-- The text of a value that is a string. -/
def text : Datum → Option String
  | .string value => some value
  | _ => none

/-- The value with one member replaced. -/
def modifyMember (key : String) (f : Datum → Datum) : Datum → Datum
  | .object members =>
      .object (members.map fun member => if member.1 = key then (key, f member.2) else member)
  | d => d

/-- The value with the values of all members replaced. -/
def modifyMembers (f : Datum → Datum) : Datum → Datum
  | .object members => .object (members.map fun member => (member.1, f member.2))
  | d => d

theorem lookup_modifyMember (key other : String) (f : Datum → Datum)
    (members : List (String × Datum)) :
    (members.map fun member => if member.1 = key then (key, f member.2) else member).lookup other =
      if other = key then (members.lookup other).map f else members.lookup other := by
  induction members with
  | nil => simp
  | cons head tail inductionHypothesis =>
      obtain ⟨name, value⟩ := head
      rw [List.map_cons]
      by_cases same : name = key
      · subst same
        simp only [if_pos, List.lookup_cons, inductionHypothesis]
        by_cases found : other = name
        · simp [found]
        · simp [found, beq_false_of_ne found]
      · simp only [if_neg same, List.lookup_cons, inductionHypothesis]
        by_cases found : other = name
        · subst found
          simp [same]
        · simp [beq_false_of_ne found]

/-! ### Parts of a value -/

/-- What `c` finds in one member. -/
def inMember (key : String) (c : Datum → List Datum) : Datum → List Datum
  | .object members => members.flatMap fun member => if member.1 = key then c member.2 else []
  | _ => []

/-- What `c` finds in any member. -/
def inMembers (c : Datum → List Datum) : Datum → List Datum
  | .object members => members.flatMap fun member => c member.2
  | _ => []

theorem mem_memberStrings {s : String} {members : List (String × Datum)} :
    s ∈ memberStrings members ↔ ∃ member ∈ members, s ∈ member.2.strings := by
  induction members with
  | nil => simp [memberStrings]
  | cons head tail inductionHypothesis =>
      rw [memberStrings, List.mem_append, inductionHypothesis, List.exists_mem_cons_iff]

/-- After `g` nothing is left of how the strings of a value were replaced, where the two
ways agree on the strings that `hide` leaves and `R` holds of the parts that `c` finds. -/
def Levels (f f' : String → String) (hide g : Datum → Datum) (c : Datum → List Datum)
    (R : Datum → Prop) : Prop :=
  ∀ d, (∀ s ∈ (hide d).strings, f s = f' s) → (∀ part ∈ c d, R part) →
    g (d.mapStrings f) = g (d.mapStrings f')

variable {hide : Datum → Datum} {h : Datum → Datum} {c : Datum → List Datum} {R : Datum → Prop}

theorem Levels.member (levels : Levels f g hide h c R) (key : String) :
    Levels f g (modifyMember key hide) (modifyMember key h) (inMember key c) R := by
  intro d agree parts
  cases d with
  | object members =>
      rw [mapStrings, mapStrings, mapMembers_eq, mapMembers_eq, modifyMember, modifyMember,
        List.map_map, List.map_map]
      congr 1
      apply List.map_congr_left
      intro member present
      have kept : ∀ s ∈ (if member.1 = key then (key, hide member.2) else member).2.strings,
          f s = g s := by
        intro s inside
        apply agree
        rw [modifyMember, strings, mem_memberStrings]
        exact ⟨_, List.mem_map_of_mem present, inside⟩
      by_cases same : member.1 = key
      · rw [if_pos same] at kept
        have leveled := levels member.2 kept fun part inside => parts part
          (List.mem_flatMap.mpr ⟨member, present, by rw [if_pos same]; exact inside⟩)
        simp only [Function.comp_apply, if_pos same, leveled]
      · rw [if_neg same] at kept
        simp only [Function.comp_apply, if_neg same, mapStrings_congr member.2 kept]
  | string value => exact congrArg (fun s => modifyMember key h (.string s)) (agree value (by
      simp [modifyMember, strings]))
  | array items =>
      have same : (Datum.array items).mapStrings f = (Datum.array items).mapStrings g :=
        mapStrings_congr _ agree
      rw [same]
  | _ => rfl

theorem Levels.members (levels : Levels f g hide h c R) :
    Levels f g (modifyMembers hide) (modifyMembers h) (inMembers c) R := by
  intro d agree parts
  cases d with
  | object members =>
      rw [mapStrings, mapStrings, mapMembers_eq, mapMembers_eq, modifyMembers, modifyMembers,
        List.map_map, List.map_map]
      congr 1
      apply List.map_congr_left
      intro member present
      have kept : ∀ s ∈ (hide member.2).strings, f s = g s := by
        intro s inside
        apply agree
        rw [modifyMembers, strings, mem_memberStrings]
        exact ⟨_, List.mem_map_of_mem present, inside⟩
      have leveled := levels member.2 kept fun part inside => parts part
        (List.mem_flatMap.mpr ⟨member, present, inside⟩)
      simp only [Function.comp_apply, leveled]
  | string value => exact congrArg (fun s => modifyMembers h (.string s)) (agree value (by
      simp [modifyMembers, strings]))
  | array items =>
      have same : (Datum.array items).mapStrings f = (Datum.array items).mapStrings g :=
        mapStrings_congr _ agree
      rw [same]
  | _ => rfl

end Datum

end DicodeRelay.Lib
