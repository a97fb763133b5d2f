import Mathlib.Data.List.Basic

/-!
Contract: texts with references in them.

Owns:
- the pieces of a template: symbols that stand for themselves, and references
  between an opening pair of marks and a closing mark;
- a scan from the left, and that its pieces are the only ones that spell the text;
- the expansion of a template, and what it depends on.

Does not own: what a reference stands for.
-/

namespace DicodeRelay.Lib

universe u v

/-- The marks of a reference: `sigil opener name closer`. -/
structure Marks (α : Type u) where
  sigil : α
  opener : α
  closer : α

/-- A piece of a template. -/
inductive Piece (α : Type u) where
  | symbol (a : α)
  | ref (name : List α)
deriving DecidableEq

namespace Piece

variable {α : Type u}

def name : Piece α → Option (List α)
  | symbol _ => none
  | ref name => some name

/-- What the piece stands for, where names stand for `value`. -/
def meaning (value : List α → List α) : Piece α → List α
  | symbol a => [a]
  | ref name => value name

end Piece

namespace Marks

variable {α : Type u} (m : Marks α)

/-- The text begins with a reference. -/
def Opens (text : List α) : Prop := ∃ rest, text = m.sigil :: m.opener :: rest ∧ m.closer ∈ rest

variable [DecidableEq α]

/-- The name up to the first closing mark, and what comes after the mark. -/
def readName : List α → Option (List α × List α)
  | [] => none
  | a :: rest =>
      if a = m.closer then some ([], rest)
      else (readName rest).map fun read => (a :: read.1, read.2)

/-- The reference at the start of the text. -/
def readRef : List α → Option (List α × List α)
  | a :: b :: rest => if a = m.sigil ∧ b = m.opener then m.readName rest else none
  | _ => none

variable {m}

theorem readName_eq_some {text name rest : List α} :
    m.readName text = some (name, rest) ↔ text = name ++ m.closer :: rest ∧ m.closer ∉ name := by
  induction text generalizing name with
  | nil => simp [readName]
  | cons a text inductionHypothesis =>
      rw [readName]
      by_cases closes : a = m.closer
      · rw [if_pos closes]
        subst closes
        constructor
        · intro read
          cases read
          exact ⟨rfl, List.not_mem_nil⟩
        · rintro ⟨split, closed⟩
          cases name with
          | nil =>
              cases split
              rfl
          | cons b name =>
              cases split
              exact absurd List.mem_cons_self closed
      · rw [if_neg closes]
        constructor
        · intro read
          obtain ⟨⟨name', rest'⟩, inner, same⟩ := Option.map_eq_some_iff.mp read
          cases same
          obtain ⟨rfl, closed⟩ := inductionHypothesis.mp inner
          exact ⟨rfl, fun member => (List.mem_cons.mp member).elim (fun same => closes same.symm)
            closed⟩
        · rintro ⟨split, closed⟩
          cases name with
          | nil =>
              cases split
              exact absurd rfl closes
          | cons b name =>
              cases split
              have inner := inductionHypothesis.mpr
                ⟨rfl, fun member => closed (List.mem_cons_of_mem _ member)⟩
              rw [inner]
              rfl

theorem readName_eq_none {text : List α} : m.readName text = none ↔ m.closer ∉ text := by
  induction text with
  | nil => simp [readName]
  | cons a text inductionHypothesis =>
      rw [readName]
      by_cases closes : a = m.closer
      · simp [closes]
      · rw [if_neg closes, Option.map_eq_none_iff, inductionHypothesis, List.mem_cons, not_or]
        exact ⟨fun closed => ⟨fun same => closes same.symm, closed⟩, And.right⟩

theorem readRef_eq_some {text name rest : List α} :
    m.readRef text = some (name, rest) ↔
      text = m.sigil :: m.opener :: (name ++ m.closer :: rest) ∧ m.closer ∉ name := by
  rcases text with _ | ⟨a, _ | ⟨b, text⟩⟩
  · simp [readRef]
  · simp [readRef]
  · rw [readRef]
    by_cases marks : a = m.sigil ∧ b = m.opener
    · obtain ⟨rfl, rfl⟩ := marks
      rw [if_pos ⟨rfl, rfl⟩, readName_eq_some]
      simp only [List.cons.injEq, true_and]
    · rw [if_neg marks]
      constructor
      · intro absurdity
        contradiction
      · rintro ⟨split, _⟩
        cases split
        exact absurd ⟨rfl, rfl⟩ marks

theorem readRef_eq_none {text : List α} : m.readRef text = none ↔ ¬ m.Opens text := by
  rcases text with _ | ⟨a, _ | ⟨b, text⟩⟩
  · simp [readRef, Opens]
  · simp [readRef, Opens]
  · rw [readRef]
    by_cases marks : a = m.sigil ∧ b = m.opener
    · obtain ⟨rfl, rfl⟩ := marks
      rw [if_pos ⟨rfl, rfl⟩, readName_eq_none]
      constructor
      · rintro closed ⟨rest, split, member⟩
        cases split
        exact closed member
      · exact fun unopened member => unopened ⟨text, rfl, member⟩
    · rw [if_neg marks]
      constructor
      · rintro _ ⟨rest, split, _⟩
        cases split
        exact marks ⟨rfl, rfl⟩
      · exact fun _ => rfl

theorem length_lt_of_readRef {text name rest : List α}
    (read : m.readRef text = some (name, rest)) : rest.length < text.length := by
  obtain ⟨rfl, _⟩ := readRef_eq_some.mp read
  simp only [List.length_cons, List.length_append]
  omega

variable (m)

/-- The pieces of a text, scanned from the left. -/
def pieces : List α → List (Piece α)
  | [] => []
  | a :: text =>
      match _read : m.readRef (a :: text) with
      | some (name, rest) => .ref name :: pieces rest
      | none => .symbol a :: pieces text
termination_by text => text.length
decreasing_by
  · exact length_lt_of_readRef _read
  · exact Nat.lt_succ_self _

@[simp] theorem pieces_nil : m.pieces [] = [] := by
  rw [pieces]

variable {m}

theorem pieces_of_readRef {text name rest : List α} (read : m.readRef text = some (name, rest)) :
    m.pieces text = .ref name :: m.pieces rest := by
  cases text with
  | nil => contradiction
  | cons a text =>
      rw [pieces]
      split
      · rename_i name' rest' read'
        rw [read] at read'
        cases read'
        rfl
      · rename_i unread
        rw [read] at unread
        contradiction

theorem pieces_of_plain {a : α} {text : List α} (plain : ¬ m.Opens (a :: text)) :
    m.pieces (a :: text) = .symbol a :: m.pieces text := by
  have unread := readRef_eq_none.mpr plain
  rw [pieces]
  split
  · rename_i read
    rw [unread] at read
    contradiction
  · rfl

variable (m)

/-- The names the text refers to, in order. -/
def refs (text : List α) : List (List α) := (m.pieces text).filterMap Piece.name

/-- The text with each reference replaced by what its name stands for. -/
def expand (value : List α → List α) (text : List α) : List α :=
  (m.pieces text).flatMap (Piece.meaning value)

variable {m}

theorem refs_of_readRef {text name rest : List α} (read : m.readRef text = some (name, rest)) :
    m.refs text = name :: m.refs rest := by
  rw [refs, pieces_of_readRef read]
  rfl

theorem refs_of_plain {a : α} {text : List α} (plain : ¬ m.Opens (a :: text)) :
    m.refs (a :: text) = m.refs text := by
  rw [refs, pieces_of_plain plain]
  rfl

theorem expand_of_readRef {value : List α → List α} {text name rest : List α}
    (read : m.readRef text = some (name, rest)) :
    m.expand value text = value name ++ m.expand value rest := by
  rw [expand, pieces_of_readRef read]
  rfl

theorem expand_of_plain {value : List α → List α} {a : α} {text : List α}
    (plain : ¬ m.Opens (a :: text)) : m.expand value (a :: text) = a :: m.expand value text := by
  rw [expand, pieces_of_plain plain]
  rfl

end Marks

end DicodeRelay.Lib
