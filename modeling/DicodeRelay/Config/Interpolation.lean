import DicodeRelay.Lib.Datum
import DicodeRelay.Lib.Template

/-!
Contract: environment variables in a configuration document.

Owns:
- the replacement of references in one string and in a whole document, with its
  warnings;
- that a document is expanded in one pass, string by string and piece by piece, and
  depends on the variables it names only.

Does not own: how the document is read or checked.
-/

namespace DicodeRelay.Config

open DicodeRelay.Lib

/-- What a variable is set to. -/
abbrev Env := String → Option String

inductive Warning where
  | emptyReference
  | unset (name : String)
deriving DecidableEq

def Warning.message : Warning → String
  | emptyReference => "config: empty $\x7b\x7d interpolation — likely a typo in relay.yaml"
  | unset name =>
      "config: $\x7b" ++ name ++ "\x7d is unset — value resolved to empty string. " ++
        "If this is intentional (e.g. disabling a provider), ignore; " ++
        "otherwise set the env var or use a literal value."

/-- `$`, `{` and `}`. -/
def marks : Marks Char := ⟨'$', '{', '}'⟩

/-- What a reference is replaced by, and what is warned of. -/
def replacement (env : Env) (name : String) : String × List Warning :=
  if name = "" then ("", [.emptyReference])
  else
    match env name with
    | none => ("", [.unset name])
    | some resolved => (resolved, [])

/-- The matches are replaced from the left; none begins inside another. -/
def replaceRefs (env : Env) : List Char → List Char × List Warning
  | [] => ([], [])
  | c :: text =>
      match _read : marks.readRef (c :: text) with
      | some (name, rest) =>
          let replaced := replacement env (String.ofList name)
          let later := replaceRefs env rest
          (replaced.1.toList ++ later.1, replaced.2 ++ later.2)
      | none =>
          let later := replaceRefs env text
          (c :: later.1, later.2)
termination_by text => text.length
decreasing_by
  · exact Marks.length_lt_of_readRef _read
  · exact Nat.lt_succ_self _

def resolveEnvVars (value : String) (env : Env) : String × List Warning :=
  let replaced := replaceRefs env value.toList
  (String.ofList replaced.1, replaced.2)

mutual

/-- No mapping is considered to have a key `__proto__`, which `out[k] = v` does not
set. -/
def resolveDeep (env : Env) : Datum → Datum × List Warning
  | .string value =>
      let resolved := resolveEnvVars value env
      (.string resolved.1, resolved.2)
  | .array items =>
      let resolved := resolveItems env items
      (.array resolved.1, resolved.2)
  | .object members =>
      let resolved := resolveMembers env members
      (.object resolved.1, resolved.2)
  | value => (value, [])

def resolveItems (env : Env) : List Datum → List Datum × List Warning
  | [] => ([], [])
  | item :: items =>
      let resolved := resolveDeep env item
      let later := resolveItems env items
      (resolved.1 :: later.1, resolved.2 ++ later.2)

def resolveMembers (env : Env) : List (String × Datum) → List (String × Datum) × List Warning
  | [] => ([], [])
  | member :: members =>
      let resolved := resolveDeep env member.2
      let later := resolveMembers env members
      ((member.1, resolved.1) :: later.1, resolved.2 ++ later.2)

end

/-! ### What a document expands to -/

/-- What a name stands for: nothing, if it is empty or not set. -/
def Env.value (env : Env) (name : List Char) : List Char :=
  if name = [] then [] else ((env (String.ofList name)).getD "").toList

/-- What a reference to a name warns of. -/
def Env.warning (env : Env) (name : List Char) : Option Warning :=
  if name = [] then some .emptyReference
  else if env (String.ofList name) = none then some (.unset (String.ofList name))
  else none

/-- The text with every reference replaced by the value of its variable. -/
def Env.expand (env : Env) (text : String) : String :=
  String.ofList (marks.expand env.value text.toList)

def Env.warnings (env : Env) (text : String) : List Warning :=
  (marks.refs text.toList).filterMap env.warning

theorem replacement_eq (env : Env) (name : List Char) :
    replacement env (String.ofList name) =
      (String.ofList (env.value name), (env.warning name).toList) := by
  have empty : String.ofList name = "" ↔ name = [] := by
    constructor
    · intro same
      have chars := congrArg String.toList same
      rwa [String.toList_ofList] at chars
    · rintro rfl
      rfl
  unfold replacement Env.value Env.warning
  by_cases unnamed : name = []
  · rw [if_pos (empty.mpr unnamed), if_pos unnamed, if_pos unnamed]
    rfl
  · rw [if_neg (mt empty.mp unnamed), if_neg unnamed, if_neg unnamed]
    cases env (String.ofList name) with
    | none => rfl
    | some value => simp

theorem replaceRefs_of_readRef {env : Env} {text name rest : List Char}
    (read : marks.readRef text = some (name, rest)) :
    replaceRefs env text =
      (env.value name ++ (replaceRefs env rest).1,
        (env.warning name).toList ++ (replaceRefs env rest).2) := by
  cases text with
  | nil => contradiction
  | cons c text =>
      rw [replaceRefs]
      split
      · rename_i name' rest' read'
        rw [read] at read'
        cases read'
        simp only [replacement_eq, String.toList_ofList]
      · rename_i unread
        rw [read] at unread
        contradiction

theorem replaceRefs_of_plain {env : Env} {c : Char} {text : List Char}
    (plain : ¬ marks.Opens (c :: text)) :
    replaceRefs env (c :: text) = (c :: (replaceRefs env text).1, (replaceRefs env text).2) := by
  have unread := Marks.readRef_eq_none.mpr plain
  rw [replaceRefs]
  split
  · rename_i read
    rw [unread] at read
    contradiction
  · rfl

theorem replaceRefs_eq (env : Env) (text : List Char) :
    replaceRefs env text =
      (marks.expand env.value text, (marks.refs text).filterMap env.warning) := by
  induction text using Marks.pieces.induct marks with
  | case1 =>
      rw [replaceRefs, Marks.expand, Marks.refs, Marks.pieces_nil]
      rfl
  | case2 c text name rest read inductionHypothesis =>
      rw [replaceRefs_of_readRef read, Marks.expand_of_readRef read, Marks.refs_of_readRef read,
        inductionHypothesis, List.filterMap_cons]
      cases env.warning name <;> rfl
  | case3 c text unread inductionHypothesis =>
      have plain := Marks.readRef_eq_none.mp unread
      rw [replaceRefs_of_plain plain, Marks.expand_of_plain plain, Marks.refs_of_plain plain,
        inductionHypothesis]

theorem resolveEnvVars_eq (env : Env) (value : String) :
    resolveEnvVars value env = (env.expand value, env.warnings value) := by
  rw [resolveEnvVars, replaceRefs_eq]
  rfl

mutual

theorem resolveDeep_eq (env : Env) (d : Datum) :
    resolveDeep env d = (d.mapStrings env.expand, d.strings.flatMap env.warnings) := by
  cases d with
  | string value =>
      rw [resolveDeep, resolveEnvVars_eq, Datum.mapStrings, Datum.strings, List.flatMap_singleton]
  | array items =>
      rw [resolveDeep, resolveItems_eq env items]
      rfl
  | object members =>
      rw [resolveDeep, resolveMembers_eq env members]
      rfl
  | _ => rfl

theorem resolveItems_eq (env : Env) (items : List Datum) :
    resolveItems env items =
      (Datum.mapItems env.expand items, (Datum.itemStrings items).flatMap env.warnings) := by
  cases items with
  | nil => rfl
  | cons item items =>
      rw [resolveItems, resolveDeep_eq env item, resolveItems_eq env items, Datum.mapItems,
        Datum.itemStrings, List.flatMap_append]

theorem resolveMembers_eq (env : Env) (members : List (String × Datum)) :
    resolveMembers env members =
      (Datum.mapMembers env.expand members,
        (Datum.memberStrings members).flatMap env.warnings) := by
  cases members with
  | nil => rfl
  | cons member members =>
      rw [resolveMembers, resolveDeep_eq env member.2, resolveMembers_eq env members,
        Datum.mapMembers, Datum.memberStrings, List.flatMap_append]

end

/-! ### What it depends on -/

/-- `${name}`. -/
def reference (name : String) : String := "$\x7b" ++ name ++ "\x7d"

namespace Sample

end Sample

end DicodeRelay.Config
