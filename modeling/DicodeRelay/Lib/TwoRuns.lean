import Mathlib.Logic.Basic

/-!
Contract: two runs of one computation from related states.

Owns:
- computations that change a state and may fail, run to their answer and their
  last state;
- what it means that such a computation answers the same from related states,
  and that what it does to a state stays within a bound;
- the rules for answers, failures, sequences and branches.

Does not own: any particular state, relation or bound.
-/

namespace DicodeRelay.Lib

universe u

/-- A computation that may fail, which keeps what it did to the state. -/
abbrev Computation (ε σ α : Type u) := ExceptT ε (StateM σ) α

namespace Computation

variable {ε σ α β : Type u}

/-- The answer and the state after it. -/
def exec (m : Computation ε σ α) (s : σ) : Except ε α × σ := m.run.run s

theorem exec_bind_of_ok {m : Computation ε σ α} {s s' : σ} {answer : α}
    (ran : m.exec s = (.ok answer, s')) (next : α → Computation ε σ β) :
    (m >>= next).exec s = (next answer).exec s' := by
  have first : m.run.run s = (Except.ok answer, s') := ran
  simp only [exec, ExceptT.run_bind, StateT.run_bind]
  rw [first]
  rfl

theorem exec_bind_of_error {m : Computation ε σ α} {s s' : σ} {failure : ε}
    (ran : m.exec s = (.error failure, s')) (next : α → Computation ε σ β) :
    (m >>= next).exec s = (.error failure, s') := by
  have first : m.run.run s = (Except.error failure, s') := ran
  simp only [exec, ExceptT.run_bind, StateT.run_bind]
  rw [first]
  rfl

end Computation

/-- From related states the computation has the same answer and ends in related
states, and `bound` relates every state to the one it ends in. -/
structure TwoRuns {ε σ α : Type u} (related bound : σ → σ → Prop) (m : Computation ε σ α) :
    Prop where
  answer : ∀ s t, related s t → (m.exec s).1 = (m.exec t).1
  ends : ∀ s t, related s t → related (m.exec s).2 (m.exec t).2
  bounded : ∀ s, bound s (m.exec s).2

namespace TwoRuns

variable {ε σ α β : Type u} {related bound : σ → σ → Prop}

theorem pure (reflexive : ∀ s, bound s s) (answer : α) :
    TwoRuns related bound (Pure.pure answer : Computation ε σ α) :=
  ⟨fun _ _ _ => rfl, fun _ _ same => same, reflexive⟩

theorem throw (reflexive : ∀ s, bound s s) (failure : ε) :
    TwoRuns related bound (throw failure : Computation ε σ α) :=
  ⟨fun _ _ _ => rfl, fun _ _ same => same, reflexive⟩

theorem bind (transitive : ∀ s t u, bound s t → bound t u → bound s u)
    {m : Computation ε σ α} {next : α → Computation ε σ β} (first : TwoRuns related bound m)
    (later : ∀ answer, TwoRuns related bound (next answer)) :
    TwoRuns related bound (m >>= next) := by
  have both : ∀ s t, related s t → ((m >>= next).exec s).1 = ((m >>= next).exec t).1 ∧
      related ((m >>= next).exec s).2 ((m >>= next).exec t).2 := by
    intro s t same
    have answer := first.answer s t same
    have ends := first.ends s t same
    rcases ranS : m.exec s with ⟨answerS, s'⟩
    rcases ranT : m.exec t with ⟨answerT, t'⟩
    rw [ranS, ranT] at answer ends
    obtain rfl : answerS = answerT := answer
    cases answerS with
    | error failure =>
        rw [Computation.exec_bind_of_error ranS, Computation.exec_bind_of_error ranT]
        exact ⟨rfl, ends⟩
    | ok value =>
        rw [Computation.exec_bind_of_ok ranS, Computation.exec_bind_of_ok ranT]
        exact ⟨(later value).answer s' t' ends, (later value).ends s' t' ends⟩
  refine ⟨fun s t same => (both s t same).1, fun s t same => (both s t same).2, fun s => ?_⟩
  have bounded := first.bounded s
  rcases ran : m.exec s with ⟨answer, s'⟩
  rw [ran] at bounded
  cases answer with
  | error failure =>
      rw [Computation.exec_bind_of_error ran]
      exact bounded
  | ok value =>
      rw [Computation.exec_bind_of_ok ran]
      exact transitive _ _ _ bounded ((later value).bounded s')

theorem ite {condition : Prop} [Decidable condition] {yes no : Computation ε σ α}
    (left : condition → TwoRuns related bound yes)
    (right : ¬ condition → TwoRuns related bound no) :
    TwoRuns related bound (if condition then yes else no) := by
  split
  · exact left ‹_›
  · exact right ‹_›

end TwoRuns

end DicodeRelay.Lib
