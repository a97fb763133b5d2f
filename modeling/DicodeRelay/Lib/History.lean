import DicodeRelay.Lib.Machine

/-!
Contract: machines with a history variable.

Owns:
- a machine beside which a history is written, one note for each step;
- that the history changes nothing: the machine has the same runs and steps.

Does not own: what is worth writing down.
-/

namespace DicodeRelay.Lib

universe u v w

namespace Machine

variable {State : Type u} {Event : Type v} {History : Type w}

/-- The machine with a history that starts as `start` and grows by `note`. -/
def withHistory (m : Machine State Event) (start : History)
    (note : History → State → Event → State → History) : Machine (State × History) Event where
  init := (m.init, start)
  step sh e := (m.step sh.1 e).map fun s' => (s', note sh.2 sh.1 e s')

variable {m : Machine State Event} {start : History}
  {note : History → State → Event → State → History}

theorem withHistory_step_iff {s s' : State} {h h' : History} {e : Event} :
    (m.withHistory start note).step (s, h) e = some (s', h') ↔
      m.step s e = some s' ∧ h' = note h s e s' := by
  simp only [withHistory, Option.map_eq_some_iff, Prod.mk.injEq]
  constructor
  · rintro ⟨t, after, rfl, rfl⟩
    exact ⟨after, rfl⟩
  · rintro ⟨after, rfl⟩
    exact ⟨s', after, rfl, rfl⟩

/-- The history is written along the runs of the machine. -/
theorem run_of_withHistory {events : List Event} {s : State} {h : History}
    (ran : (m.withHistory start note).run events = some (s, h)) : m.run events = some s := by
  refine run_invariant (P := fun events sh => m.run events = some sh.1) rfl ?_ ran
  rintro events ⟨s, h⟩ e ⟨s', h'⟩ _ before after
  exact run_concat_of before (withHistory_step_iff.mp after).1

end Machine

end DicodeRelay.Lib
