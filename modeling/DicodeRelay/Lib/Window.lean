import Mathlib.Algebra.BigOperators.Group.Finset.Piecewise
import Mathlib.Algebra.Order.BigOperators.Group.Finset

/-!
Contract: circular arrays that count the events of the last units of time.

Owns:
- where a circular array keeps the counter of a number of units ago;
- arrays that follow a log of events: a fresh one, one that moves on, one that
  counts an event;
- what the cells of such an array add up to.

Does not own: how the cells are stored; what a unit of time is.
-/

namespace DicodeRelay.Lib

/-- The place `back` places before `index`, going round. -/
def slotBack (size index back : Nat) : Nat :=
  if back ≤ index then index - back else index + size - back

/-- `i` is one of the `count` places after `index`, going round. -/
def Ahead (size index count i : Nat) : Prop :=
  ∃ steps, 0 < steps ∧ steps ≤ count ∧ i = (index + steps) % size

/-- The cell at `index` counts the events of the unit `epoch`, the cells before
it those of the units before. -/
structure Window where
  cell : Nat → Nat
  index : Nat
  epoch : Nat

/-- The cells hold, up to a modulus, how often each of the last `size` units
stands in `log`. -/
structure Window.Follows (window : Window) (size modulus : Nat) (log : List Nat) : Prop where
  inside : window.index < size
  past : ∀ unit ∈ log, unit ≤ window.epoch
  cell_slotBack : ∀ back < size, window.cell (slotBack size window.index back) =
    log.countP (fun unit => unit + back = window.epoch) % modulus

/-! ### Places -/

theorem slotBack_lt {size index back : Nat} (inside : index < size) (short : back < size) :
    slotBack size index back < size := by
  unfold slotBack
  split <;> omega

theorem slotBack_slotBack {size index back : Nat} (inside : index < size) (short : back < size) :
    slotBack size index (slotBack size index back) = back := by
  unfold slotBack
  split <;> split <;> omega

theorem add_mod_of_le {size index steps : Nat} (inside : index < size) (short : steps ≤ size) :
    (index + steps) % size = if index + steps < size then index + steps
      else index + steps - size := by
  split
  · exact Nat.mod_eq_of_lt (by assumption)
  · rw [Nat.mod_eq_sub_mod (by omega), Nat.mod_eq_of_lt (by omega)]

/-- A whole round ahead reaches every place. -/
theorem ahead_full {size index i : Nat} (inside : index < size) (place : i < size) :
    Ahead size index size i := by
  by_cases later : index < i
  · refine ⟨i - index, by omega, by omega, ?_⟩
    rw [add_mod_of_le inside (by omega), if_pos (by omega)]
    omega
  · refine ⟨i + size - index, by omega, by omega, ?_⟩
    rw [add_mod_of_le inside (by omega), if_neg (by omega)]
    omega

/-- The places passed on the way are those of the units that began since. -/
theorem ahead_slotBack_iff {size index elapsed back : Nat} (inside : index < size)
    (short : elapsed < size) (near : back < size) :
    Ahead size index elapsed (slotBack size ((index + elapsed) % size) back) ↔
      back < elapsed := by
  rw [add_mod_of_le inside (Nat.le_of_lt short)]
  constructor
  · rintro ⟨steps, positive, bound, equal⟩
    rw [add_mod_of_le inside (by omega)] at equal
    unfold slotBack at equal
    split at equal <;> split at equal <;> split at equal <;> omega
  · intro recent
    refine ⟨elapsed - back, by omega, by omega, ?_⟩
    rw [add_mod_of_le inside (by omega)]
    unfold slotBack
    split <;> split <;> split <;> omega

theorem slotBack_move {size index elapsed back : Nat} (inside : index < size)
    (short : elapsed < size) (old : elapsed ≤ back) (near : back < size) :
    slotBack size ((index + elapsed) % size) back = slotBack size index (back - elapsed) := by
  rw [add_mod_of_le inside (Nat.le_of_lt short)]
  unfold slotBack
  split <;> split <;> split <;> omega

namespace Window.Follows

/-! ### What keeps an array in step -/

variable {window window' : Window} {size modulus : Nat} {log : List Nat}

theorem start (inside : window.index < size) (blank : ∀ i < size, window.cell i = 0) :
    window.Follows size modulus [] where
  inside := inside
  past _ member := by simp at member
  cell_slotBack back short := by
    rw [blank _ (slotBack_lt inside short), List.countP_nil, Nat.zero_mod]

/-- The array moves on to a later unit: the places it passes are emptied. -/
theorem advance (follows : window.Follows size modulus log)
    (later : window.epoch < window'.epoch)
    (index : window'.index = (window.index + (window'.epoch - window.epoch)) % size)
    (emptied : ∀ i < size,
      Ahead size window.index (min (window'.epoch - window.epoch) size) i → window'.cell i = 0)
    (kept : ∀ i < size, ¬Ahead size window.index (min (window'.epoch - window.epoch) size) i →
      window'.cell i = window.cell i) :
    window'.Follows size modulus log := by
  have inside := follows.inside
  have inside' : window'.index < size := by
    rw [index]
    exact Nat.mod_lt _ (by omega)
  refine ⟨inside', fun unit member => ?_, fun back short => ?_⟩
  · have past := follows.past unit member
    omega
  · have place := slotBack_lt inside' short
    -- An old event is never in a unit that began since.
    have unseen : back < window'.epoch - window.epoch →
        log.countP (fun unit => unit + back = window'.epoch) = 0 := by
      intro recent
      rw [List.countP_eq_zero]
      intro unit member
      have past := follows.past unit member
      simp only [decide_eq_true_eq]
      omega
    by_cases round : size ≤ window'.epoch - window.epoch
    · rw [Nat.min_eq_right round] at emptied
      rw [emptied _ place (ahead_full inside place), unseen (by omega), Nat.zero_mod]
    · have passed := ahead_slotBack_iff inside (Nat.lt_of_not_le round) short
      rw [← index] at passed
      rw [Nat.min_eq_left (by omega)] at emptied kept
      by_cases recent : back < window'.epoch - window.epoch
      · rw [emptied _ place (passed.mpr recent), unseen recent, Nat.zero_mod]
      · rw [kept _ place fun ahead => recent (passed.mp ahead), index,
          slotBack_move inside (by omega) (by omega) short, follows.cell_slotBack _ (by omega)]
        congr 1
        apply List.countP_congr
        intro unit _
        simp only [decide_eq_true_eq]
        omega

/-- The array counts an event of the present unit. -/
theorem count (follows : window.Follows size modulus log)
    (index : window'.index = window.index) (epoch : window'.epoch = window.epoch)
    (counted : window'.cell window.index = (window.cell window.index + 1) % modulus)
    (kept : ∀ i, i ≠ window.index → window'.cell i = window.cell i) :
    window'.Follows size modulus (log ++ [window.epoch]) := by
  have inside := follows.inside
  refine ⟨index ▸ inside, fun unit member => ?_, fun back short => ?_⟩
  · rw [List.mem_append, List.mem_singleton] at member
    rcases member with old | rfl
    · exact epoch ▸ follows.past unit old
    · exact Nat.le_of_eq epoch.symm
  · have old := follows.cell_slotBack back short
    rw [index, epoch, List.countP_append, List.countP_singleton]
    by_cases present : back = 0
    · subst present
      have here : slotBack size window.index 0 = window.index := by simp [slotBack]
      rw [here] at old ⊢
      rw [counted, old, if_pos (by simp), Nat.mod_add_mod]
    · have elsewhere : slotBack size window.index back ≠ window.index := by
        unfold slotBack
        split <;> omega
      rw [kept _ elsewhere, old, if_neg (by simpa using present), Nat.add_zero]

/-! ### What the cells add up to -/

/-- The present cell counts the present unit. -/
theorem cell_index (follows : window.Follows size modulus log) :
    window.cell window.index = log.countP (fun unit => unit = window.epoch) % modulus := by
  simpa [slotBack] using follows.cell_slotBack 0 (Nat.zero_lt_of_lt follows.inside)

theorem sum_cells (follows : window.Follows size modulus log) :
    ∑ i ∈ Finset.range size, window.cell i =
      ∑ back ∈ Finset.range size,
        log.countP (fun unit => unit + back = window.epoch) % modulus := by
  have inside := follows.inside
  refine Finset.sum_nbij' (slotBack size window.index) (slotBack size window.index)
    ?_ ?_ ?_ ?_ ?_
  · intro i place
    exact Finset.mem_range.mpr (slotBack_lt inside (Finset.mem_range.mp place))
  · intro back short
    exact Finset.mem_range.mpr (slotBack_lt inside (Finset.mem_range.mp short))
  · intro i place
    exact slotBack_slotBack inside (Finset.mem_range.mp place)
  · intro back short
    exact slotBack_slotBack inside (Finset.mem_range.mp short)
  · intro i place
    have place := Finset.mem_range.mp place
    rw [← follows.cell_slotBack _ (slotBack_lt inside place), slotBack_slotBack inside place]

end Window.Follows

/-- The counts of the last `size` units together. -/
theorem sum_countP_back {log : List Nat} {now : Nat} (past : ∀ unit ∈ log, unit ≤ now)
    (size : Nat) :
    ∑ back ∈ Finset.range size, log.countP (fun unit => unit + back = now) =
      log.countP (fun unit => now < unit + size) := by
  induction log with
  | nil => simp
  | cons unit log inductionHypothesis =>
      have bound := past unit List.mem_cons_self
      have back : ∀ back, (unit + back = now) ↔ (now - unit = back) := fun _ => by omega
      have inside : now < unit + size ↔ now - unit < size := by omega
      simp only [List.countP_cons, Finset.sum_add_distrib, decide_eq_true_eq, back, inside,
        Finset.sum_ite_eq, Finset.mem_range]
      rw [← inductionHypothesis fun unit member => past unit (List.mem_cons_of_mem _ member)]

end DicodeRelay.Lib
