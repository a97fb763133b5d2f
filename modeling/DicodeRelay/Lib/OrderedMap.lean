import Mathlib.Data.List.Nodup

/-!
Contract: finite maps in insertion order.

Owns:
- maps as entry lists whose keys are distinct by construction: setting a
  present key keeps its place, setting a new key appends;
- lookup after each operation, and membership as lookup;
- how many values satisfy a test, after each operation.

Does not own: iteration under mutation.
-/

namespace DicodeRelay.Lib

universe u v w

/-- A finite map whose entries keep the order in which their keys came in. -/
structure OrderedMap (Key : Type u) (Value : Type v) where
  entries : List (Key × Value)
  nodupKeys : (entries.map Prod.fst).Nodup
deriving DecidableEq

namespace OrderedMap

variable {Key : Type u} {Value : Type v} [DecidableEq Key]

private def lookupEntry (k : Key) : List (Key × Value) → Option Value
  | [] => none
  | head :: tail => if head.1 = k then some head.2 else lookupEntry k tail

private def setEntry (k : Key) (v : Value) : List (Key × Value) → List (Key × Value)
  | [] => [(k, v)]
  | head :: tail => if head.1 = k then (k, v) :: tail else head :: setEntry k v tail

private theorem mem_keys_setEntry {k : Key} {v : Value} {entries : List (Key × Value)}
    {key : Key} (member : key ∈ (setEntry k v entries).map Prod.fst) :
    key = k ∨ key ∈ entries.map Prod.fst := by
  induction entries with
  | nil =>
      left
      simpa [setEntry] using member
  | cons head tail inductionHypothesis =>
      unfold setEntry at member
      split at member
      · rcases List.mem_cons.mp member with equal | inTail
        · exact Or.inl equal
        · exact Or.inr (List.mem_cons_of_mem _ inTail)
      · rcases List.mem_cons.mp member with equal | inTail
        · exact Or.inr (by simp [equal])
        · rcases inductionHypothesis inTail with equal | old
          · exact Or.inl equal
          · exact Or.inr (List.mem_cons_of_mem _ old)

private theorem nodup_setEntry {k : Key} {v : Value} {entries : List (Key × Value)}
    (nodup : (entries.map Prod.fst).Nodup) : ((setEntry k v entries).map Prod.fst).Nodup := by
  induction entries with
  | nil => simp [setEntry]
  | cons head tail inductionHypothesis =>
      rw [List.map_cons, List.nodup_cons] at nodup
      unfold setEntry
      split
      · rename_i equal
        rw [List.map_cons, List.nodup_cons]
        exact ⟨equal ▸ nodup.1, nodup.2⟩
      · rename_i different
        rw [List.map_cons, List.nodup_cons]
        refine ⟨fun member => ?_, inductionHypothesis nodup.2⟩
        rcases mem_keys_setEntry member with equal | old
        · exact different equal
        · exact nodup.1 old

def empty : OrderedMap Key Value := ⟨[], List.nodup_nil⟩

instance : Inhabited (OrderedMap Key Value) := ⟨empty⟩

def get (m : OrderedMap Key Value) (k : Key) : Option Value := lookupEntry k m.entries

def has (m : OrderedMap Key Value) (k : Key) : Bool := (m.get k).isSome

def set (m : OrderedMap Key Value) (k : Key) (v : Value) : OrderedMap Key Value :=
  ⟨setEntry k v m.entries, nodup_setEntry m.nodupKeys⟩

def delete (m : OrderedMap Key Value) (k : Key) : OrderedMap Key Value :=
  ⟨m.entries.filter fun e => e.1 ≠ k,
    m.nodupKeys.sublist (List.filter_sublist.map Prod.fst)⟩

/-- The map with `f` applied to the value at `k`, if there is one. -/
def modify (m : OrderedMap Key Value) (k : Key) (f : Value → Value) : OrderedMap Key Value :=
  match m.get k with
  | none => m
  | some v => m.set k (f v)

def values (m : OrderedMap Key Value) : List Value := m.entries.map Prod.snd

def keys (m : OrderedMap Key Value) : List Key := m.entries.map Prod.fst

def mapValues {Value' : Type w} (f : Value → Value') (m : OrderedMap Key Value) :
    OrderedMap Key Value' :=
  ⟨m.entries.map fun e => (e.1, f e.2), by
    rw [List.map_map]
    exact m.nodupKeys⟩

/-- The map that results from setting the entries in turn. -/
def ofList (entries : List (Key × Value)) : OrderedMap Key Value :=
  entries.foldl (fun m e => m.set e.1 e.2) empty

/-- How many values satisfy `p`. -/
def count (p : Value → Bool) (m : OrderedMap Key Value) : Nat :=
  m.entries.countP fun e => p e.2

/-! ### Lookup -/

private theorem lookupEntry_setEntry (k key : Key) (v : Value) (entries : List (Key × Value)) :
    lookupEntry key (setEntry k v entries) =
      if k = key then some v else lookupEntry key entries := by
  induction entries with
  | nil => simp [setEntry, lookupEntry]
  | cons head tail inductionHypothesis =>
      unfold setEntry
      by_cases atHead : head.1 = k
      · subst atHead
        by_cases equal : head.1 = key <;> simp [lookupEntry, equal]
      · rw [if_neg atHead]
        by_cases found : head.1 = key
        · have other : ¬ k = key := fun equal => atHead (found.trans equal.symm)
          simp [lookupEntry, found, other]
        · simp [lookupEntry, found, inductionHypothesis]

private theorem lookupEntry_filter (k key : Key) (entries : List (Key × Value)) :
    lookupEntry key (entries.filter fun e => e.1 ≠ k) =
      if k = key then none else lookupEntry key entries := by
  induction entries with
  | nil => simp [lookupEntry]
  | cons head tail inductionHypothesis =>
      by_cases removed : head.1 = k
      · subst removed
        rw [List.filter_cons_of_neg (by simp), inductionHypothesis]
        by_cases equal : head.1 = key <;> simp [lookupEntry, equal]
      · rw [List.filter_cons_of_pos (by simpa using removed)]
        by_cases found : head.1 = key
        · have other : ¬ k = key := fun equal => removed (found.trans equal.symm)
          simp [lookupEntry, found, other]
        · rw [lookupEntry, if_neg found, inductionHypothesis, lookupEntry, if_neg found]

@[simp] theorem get_empty (k : Key) : (empty : OrderedMap Key Value).get k = none := rfl

theorem get_set (m : OrderedMap Key Value) (k key : Key) (v : Value) :
    (m.set k v).get key = if k = key then some v else m.get key :=
  lookupEntry_setEntry k key v m.entries

@[simp] theorem get_set_self (m : OrderedMap Key Value) (k : Key) (v : Value) :
    (m.set k v).get k = some v := by
  simp [get_set]

theorem get_set_of_ne (m : OrderedMap Key Value) {k key : Key} (v : Value)
    (different : k ≠ key) : (m.set k v).get key = m.get key := by
  simp [get_set, different]

theorem get_delete (m : OrderedMap Key Value) (k key : Key) :
    (m.delete k).get key = if k = key then none else m.get key :=
  lookupEntry_filter k key m.entries

@[simp] theorem get_delete_self (m : OrderedMap Key Value) (k : Key) :
    (m.delete k).get k = none := by
  simp [get_delete]

theorem get_delete_of_ne (m : OrderedMap Key Value) {k key : Key} (different : k ≠ key) :
    (m.delete k).get key = m.get key := by
  simp [get_delete, different]

@[simp] theorem get_modify_self (m : OrderedMap Key Value) (k : Key) (f : Value → Value) :
    (m.modify k f).get k = (m.get k).map f := by
  unfold modify
  cases present : m.get k with
  | none => exact present
  | some v => simp

theorem get_modify_of_ne (m : OrderedMap Key Value) {k key : Key} (f : Value → Value)
    (different : k ≠ key) : (m.modify k f).get key = m.get key := by
  unfold modify
  cases m.get k with
  | none => rfl
  | some v => exact get_set_of_ne m (f v) different

theorem get_mapValues {Value' : Type w} (f : Value → Value') (m : OrderedMap Key Value)
    (k : Key) : (m.mapValues f).get k = (m.get k).map f := by
  have entries : ∀ list : List (Key × Value),
      lookupEntry k (list.map fun e => (e.1, f e.2)) = (lookupEntry k list).map f := by
    intro list
    induction list with
    | nil => rfl
    | cons head tail inductionHypothesis =>
        by_cases found : head.1 = k <;> simp [lookupEntry, found, inductionHypothesis]
  exact entries m.entries

/-! ### Membership -/

private theorem mem_iff_lookupEntry {entries : List (Key × Value)}
    (nodup : (entries.map Prod.fst).Nodup) (k : Key) (v : Value) :
    (k, v) ∈ entries ↔ lookupEntry k entries = some v := by
  induction entries with
  | nil => simp [lookupEntry]
  | cons head tail inductionHypothesis =>
      obtain ⟨key, value⟩ := head
      rw [List.map_cons, List.nodup_cons] at nodup
      rw [List.mem_cons, inductionHypothesis nodup.2]
      by_cases equal : key = k
      · subst equal
        have absent : lookupEntry key tail ≠ some v := by
          intro found
          rw [← inductionHypothesis nodup.2] at found
          exact nodup.1 (List.mem_map.mpr ⟨_, found, rfl⟩)
        simp [lookupEntry, absent, eq_comm]
      · simp [lookupEntry, equal, Ne.symm equal]

theorem mem_entries_iff (m : OrderedMap Key Value) (k : Key) (v : Value) :
    (k, v) ∈ m.entries ↔ m.get k = some v :=
  mem_iff_lookupEntry m.nodupKeys k v

theorem mem_values_iff (m : OrderedMap Key Value) (v : Value) :
    v ∈ m.values ↔ ∃ k, m.get k = some v := by
  simp only [values, List.mem_map, Prod.exists, exists_eq_right, mem_entries_iff]

/-! ### Entry lists -/

private theorem setEntry_of_not_mem {k : Key} {v : Value} {entries : List (Key × Value)}
    (absent : k ∉ entries.map Prod.fst) : setEntry k v entries = entries ++ [(k, v)] := by
  induction entries with
  | nil => rfl
  | cons head tail inductionHypothesis =>
      rw [List.map_cons, List.mem_cons, not_or] at absent
      rw [setEntry, if_neg (Ne.symm absent.1), inductionHypothesis absent.2, List.cons_append]

theorem entries_set_of_not_mem (m : OrderedMap Key Value) {k : Key} (v : Value)
    (absent : k ∉ m.keys) : (m.set k v).entries = m.entries ++ [(k, v)] :=
  setEntry_of_not_mem absent

/-- A list whose keys are distinct is the entry list of the map it makes. -/
theorem entries_ofList {entries : List (Key × Value)} (nodup : (entries.map Prod.fst).Nodup) :
    (ofList entries).entries = entries := by
  have grows : ∀ (later : List (Key × Value)) (start : OrderedMap Key Value),
      ((start.entries ++ later).map Prod.fst).Nodup →
      (later.foldl (fun m e => m.set e.1 e.2) start).entries = start.entries ++ later := by
    intro later
    induction later with
    | nil => simp
    | cons e rest inductionHypothesis =>
        intro start nodup
        have absent : e.1 ∉ start.keys := by
          intro member
          rw [List.map_append, List.nodup_append] at nodup
          exact nodup.2.2 e.1 member e.1 (by simp) rfl
        have appended := start.entries_set_of_not_mem e.2 absent
        rw [List.foldl_cons, inductionHypothesis, appended, List.append_assoc]
        · rfl
        · rw [appended, List.append_assoc]
          exact nodup
  exact grows entries empty nodup

/-- A map is made of its entries. -/
theorem ofList_entries (m : OrderedMap Key Value) : ofList m.entries = m := by
  have entries : (ofList m.entries).entries = m.entries := entries_ofList m.nodupKeys
  generalize ofList m.entries = made at entries
  cases made
  cases m
  cases entries
  rfl

/-- What holds of the values of a list holds of those of the map it makes. -/
theorem forall_ofList {P : Value → Prop} {entries : List (Key × Value)}
    (each : ∀ e ∈ entries, P e.2) : ∀ k v, (ofList entries).get k = some v → P v := by
  have kept : ∀ (later : List (Key × Value)) (start : OrderedMap Key Value),
      (∀ k v, start.get k = some v → P v) → (∀ e ∈ later, P e.2) →
      ∀ k v, (later.foldl (fun m e => m.set e.1 e.2) start).get k = some v → P v := by
    intro later
    induction later with
    | nil => exact fun start before _ => before
    | cons e rest inductionHypothesis =>
        intro start before each
        apply inductionHypothesis (start.set e.1 e.2)
        · intro k v present
          rw [get_set] at present
          split at present
          · cases present
            exact each e List.mem_cons_self
          · exact before k v present
        · exact fun other member => each other (List.mem_cons_of_mem _ member)
  exact kept entries empty (fun _ _ absurdity => by simp at absurdity) each

private theorem setEntry_map {Value' : Type w} (f : Value → Value') (k : Key) (v : Value)
    (entries : List (Key × Value)) :
    setEntry k (f v) (entries.map fun e => (e.1, f e.2)) =
      (setEntry k v entries).map fun e => (e.1, f e.2) := by
  induction entries with
  | nil => rfl
  | cons head tail inductionHypothesis =>
      rw [List.map_cons, setEntry, setEntry]
      split
      · rfl
      · rw [inductionHypothesis, List.map_cons]

theorem mapValues_set {Value' : Type w} (f : Value → Value') (m : OrderedMap Key Value) (k : Key)
    (v : Value) : (m.set k v).mapValues f = (m.mapValues f).set k (f v) := by
  unfold mapValues set
  congr 1
  exact (setEntry_map f k v m.entries).symm

/-- The values of a list can be replaced before or after it is made a map. -/
theorem ofList_map {Value' : Type w} (f : Value → Value') (entries : List (Key × Value)) :
    ofList (entries.map fun e => (e.1, f e.2)) = (ofList entries).mapValues f := by
  have grows : ∀ (later : List (Key × Value)) (start : OrderedMap Key Value),
      (later.map fun e => (e.1, f e.2)).foldl (fun m e => m.set e.1 e.2) (start.mapValues f) =
        (later.foldl (fun m e => m.set e.1 e.2) start).mapValues f := by
    intro later
    induction later with
    | nil => exact fun _ => rfl
    | cons e rest inductionHypothesis =>
        intro start
        rw [List.map_cons, List.foldl_cons, List.foldl_cons, ← inductionHypothesis, mapValues_set]
  exact grows entries empty

/-- Setting a present key replaces its value in place. -/
theorem entries_set_of_mem (m : OrderedMap Key Value) {k : Key} (v : Value)
    (present : k ∈ m.keys) :
    (m.set k v).entries = m.entries.map fun e => if e.1 = k then (k, v) else e := by
  have replaced : ∀ entries : List (Key × Value), (entries.map Prod.fst).Nodup →
      k ∈ entries.map Prod.fst →
      setEntry k v entries = entries.map fun e => if e.1 = k then (k, v) else e := by
    intro entries
    induction entries with
    | nil => simp
    | cons head tail inductionHypothesis =>
        intro nodup member
        rw [List.map_cons, List.nodup_cons] at nodup
        unfold setEntry
        split
        · rename_i atHead
          have others : tail.map (fun e => if e.1 = k then (k, v) else e) = tail := by
            conv_rhs => rw [← List.map_id tail]
            refine List.map_congr_left fun e inTail => if_neg fun equal => nodup.1 ?_
            rw [atHead, ← equal]
            exact List.mem_map_of_mem inTail
          rw [List.map_cons, if_pos atHead, others]
        · rename_i different
          have inTail : k ∈ tail.map Prod.fst := by
            rcases List.mem_cons.mp member with equal | inTail
            · exact absurd equal.symm different
            · exact inTail
          rw [List.map_cons, if_neg different, inductionHypothesis nodup.2 inTail]
  exact replaced m.entries m.nodupKeys present

theorem keys_set_of_mem (m : OrderedMap Key Value) {k : Key} (v : Value) (present : k ∈ m.keys) :
    (m.set k v).keys = m.keys := by
  rw [keys, entries_set_of_mem m v present, List.map_map]
  refine List.map_congr_left fun e _ => ?_
  simp only [Function.comp_apply]
  split
  · rename_i same
    exact same.symm
  · rfl

theorem mem_keys_iff (m : OrderedMap Key Value) (k : Key) :
    k ∈ m.keys ↔ ∃ v, m.get k = some v := by
  simp only [keys, List.mem_map, Prod.exists, exists_and_right, exists_eq_right, mem_entries_iff]

/-- Maps that have the same keys list them in orders that are permutations of each
other. -/
theorem keys_perm {Value' : Type w} {m : OrderedMap Key Value} {m' : OrderedMap Key Value'}
    (same : ∀ k, m.has k = m'.has k) : m.keys.Perm m'.keys := by
  apply (List.perm_ext_iff_of_nodup m.nodupKeys m'.nodupKeys).mpr
  intro k
  change k ∈ m.keys ↔ k ∈ m'.keys
  rw [mem_keys_iff, mem_keys_iff, ← Option.isSome_iff_exists, ← Option.isSome_iff_exists]
  exact Bool.eq_iff_iff.mp (same k)

/-! ### Counting values -/

omit [DecidableEq Key] in
@[simp] theorem count_empty (p : Value → Bool) :
    (empty : OrderedMap Key Value).count p = 0 := rfl

private theorem countP_setEntry_new (p : Value → Bool) (k : Key) (v : Value)
    (entries : List (Key × Value)) (absent : lookupEntry k entries = none) :
    (setEntry k v entries).countP (fun e => p e.2) =
      entries.countP (fun e => p e.2) + if p v then 1 else 0 := by
  induction entries with
  | nil => simp [setEntry]
  | cons head tail inductionHypothesis =>
      unfold lookupEntry at absent
      split at absent
      · contradiction
      · rename_i different
        rw [setEntry, if_neg different, List.countP_cons, List.countP_cons,
          inductionHypothesis absent]
        omega

/-- A new key counts when its value does. -/
theorem count_set_of_get_none (p : Value → Bool) (m : OrderedMap Key Value) {k : Key}
    (v : Value) (absent : m.get k = none) :
    (m.set k v).count p = m.count p + if p v then 1 else 0 :=
  countP_setEntry_new p k v m.entries absent

private theorem countP_filter_ne (p : Value → Bool) (k : Key) (v : Value)
    (entries : List (Key × Value)) (nodup : (entries.map Prod.fst).Nodup)
    (present : lookupEntry k entries = some v) :
    (entries.filter fun e => e.1 ≠ k).countP (fun e => p e.2) + (if p v then 1 else 0) =
      entries.countP (fun e => p e.2) := by
  induction entries with
  | nil => simp [lookupEntry] at present
  | cons head tail inductionHypothesis =>
      rw [List.map_cons, List.nodup_cons] at nodup
      by_cases atHead : head.1 = k
      · have value : head.2 = v := by simpa [lookupEntry, atHead] using present
        have others : tail.filter (fun e => e.1 ≠ k) = tail := by
          rw [List.filter_eq_self]
          intro e member
          have : e.1 ∈ tail.map Prod.fst := List.mem_map_of_mem member
          simpa using fun equal => nodup.1 (by rw [atHead, ← equal]; exact this)
        rw [List.filter_cons_of_neg (by simpa using atHead), others, List.countP_cons, value]
      · have inTail : lookupEntry k tail = some v := by simpa [lookupEntry, atHead] using present
        rw [List.filter_cons_of_pos (by simpa using atHead), List.countP_cons, List.countP_cons,
          ← inductionHypothesis nodup.2 inTail]
        omega

/-- Deleting a present key takes its value out of the count. -/
theorem count_delete_of_get (p : Value → Bool) (m : OrderedMap Key Value) {k : Key} {v : Value}
    (present : m.get k = some v) :
    (m.delete k).count p + (if p v then 1 else 0) = m.count p :=
  countP_filter_ne p k v m.entries m.nodupKeys present

theorem count_pos_of_get (p : Value → Bool) (m : OrderedMap Key Value) {k : Key} {v : Value}
    (present : m.get k = some v) (counted : p v = true) : 0 < m.count p := by
  unfold count
  rw [List.countP_pos_iff]
  exact ⟨(k, v), (m.mem_entries_iff k v).mpr present, counted⟩

end OrderedMap

end DicodeRelay.Lib
