import Mathlib.Data.List.Basic

/-!
Contract: choices made along a list by an optional time.

Owns:
- the last of the elements with the greatest time, and the first element of a
  list without times;
- how that choice goes on when the list grows at its end;
- how the greatest time goes on when the list grows at its end.

Does not own: any particular choosing function.
-/

namespace DicodeRelay.Lib

universe u v

variable {α : Type u} {β : Type v}

/-- Nothing in the list has a greater time than `e` and nothing after it has the
same; in a list without times, `e` is the first element. -/
inductive LastGreatest (time : α → Option Nat) (list : List α) (e : α) : Prop where
  | dated (before after : List α) (t : Nat) (split : list = before ++ e :: after)
      (known : time e = some t) (greatest : ∀ x ∈ list, ∀ u, time x = some u → u ≤ t)
      (last : ∀ x ∈ after, ∀ u, time x = some u → u < t)
  | undated (rest : List α) (first : list = e :: rest) (unknown : ∀ x ∈ list, time x = none)

namespace LastGreatest

variable {time : α → Option Nat} {list : List α} {e : α}

theorem singleton (time : α → Option Nat) (e : α) : LastGreatest time [e] e := by
  cases known : time e with
  | none => exact .undated [] rfl (by simp [known])
  | some t => exact .dated [] [] t rfl known (by simp [known]) (by simp)

theorem mem (chosen : LastGreatest time list e) : e ∈ list := by
  cases chosen with
  | dated before after t split => simp [split]
  | undated rest first => simp [first]

/-- A later element with no smaller time takes over. -/
theorem supersede (chosen : LastGreatest time list e) {x : α} {t : Nat} (known : time x = some t)
    (notSmaller : ∀ u, time e = some u → u ≤ t) : LastGreatest time (list ++ [x]) x := by
  refine .dated list [] t rfl known ?_ (by simp)
  intro y member u dated
  rcases List.mem_append.mp member with inside | isLast
  · cases chosen with
    | dated before after v split knownOld greatest last =>
        exact Nat.le_trans (greatest y inside u dated) (notSmaller _ knownOld)
    | undated rest first unknown =>
        rw [unknown y inside] at dated
        cases dated
  · obtain rfl := List.mem_singleton.mp isLast
    exact Nat.le_of_eq (Option.some.inj (dated.symm.trans known))

/-- A later element with no time, or a smaller one, does not. -/
theorem remain (chosen : LastGreatest time list e) {x : α}
    (smaller : ∀ u, time x = some u → ∃ t, time e = some t ∧ u < t) :
    LastGreatest time (list ++ [x]) e := by
  cases chosen with
  | dated before after t split known greatest last =>
      have below : ∀ u, time x = some u → u < t := by
        intro u dated
        obtain ⟨t', known', less⟩ := smaller u dated
        rw [known] at known'
        exact Option.some.inj known' ▸ less
      refine .dated before (after ++ [x]) t (by simp [split]) known ?_ ?_
      · intro y member u dated
        rcases List.mem_append.mp member with inside | isLast
        · exact greatest y inside u dated
        · obtain rfl := List.mem_singleton.mp isLast
          exact Nat.le_of_lt (below u dated)
      · intro y member u dated
        rcases List.mem_append.mp member with inside | isLast
        · exact last y inside u dated
        · obtain rfl := List.mem_singleton.mp isLast
          exact below u dated
  | undated rest first unknown =>
      apply LastGreatest.undated (rest ++ [x]) (by simp [first])
      intro y member
      rcases List.mem_append.mp member with inside | isLast
      · exact unknown y inside
      · obtain rfl := List.mem_singleton.mp isLast
        cases dated : time y with
        | none => rfl
        | some u =>
            obtain ⟨t, known, _⟩ := smaller u dated
            rw [unknown e (by simp [first])] at known
            cases known

/-- The choice among images is the image of the choice. -/
theorem of_map {list : List β} {f : β → α} (chosen : LastGreatest time (list.map f) e) :
    ∃ x, LastGreatest (fun x => time (f x)) list x ∧ e = f x := by
  cases chosen with
  | dated before after t split known greatest last =>
      obtain ⟨before, rest, rfl, _, mapped⟩ := List.map_eq_append_iff.mp split
      obtain ⟨x, after, rfl, rfl, rfl⟩ := List.map_eq_cons_iff.mp mapped
      refine ⟨x, .dated before after t rfl known ?_ ?_, rfl⟩
      · exact fun y member => greatest (f y) (List.mem_map_of_mem member)
      · exact fun y member => last (f y) (List.mem_map_of_mem member)
  | undated images first unknown =>
      obtain ⟨x, rest, rfl, rfl, rfl⟩ := List.map_eq_cons_iff.mp first
      exact ⟨x, .undated rest rfl fun y member => unknown (f y) (List.mem_map_of_mem member), rfl⟩

end LastGreatest

/-- The greatest time of a longer list. -/
theorem max?_filterMap_concat (time : α → Option Nat) (list : List α) (x : α) :
    ((list ++ [x]).filterMap time).max? =
      match time x with
      | none => (list.filterMap time).max?
      | some t =>
          match (list.filterMap time).max? with
          | none => some t
          | some greatest => some (max greatest t) := by
  rw [List.filterMap_append]
  cases known : time x with
  | none => simp [known]
  | some t =>
      cases times : list.filterMap time with
      | nil => simp [known]
      | cons first rest =>
          have alone : [x].filterMap time = [t] := by simp [known]
          rw [alone, List.cons_append, List.max?_cons', List.max?_cons', List.foldl_append]
          rfl

end DicodeRelay.Lib
