import DicodeRelay.Lib.TwoRuns

/-!
Contract: a computation run once more, and a computation beside its rehearsal.

Owns:
- what it means that a computation stays within a bound, that a successful run can be
  repeated from what it has left behind, and that a rehearsal answers like the
  computation unless that fails with an excuse;
- the rules for answers, failures, sequences and branches of each.

Does not own: any particular state, relation or excuse.
-/

namespace DicodeRelay.Lib

universe u

variable {ε σ α β : Type u}

/-- A run of a sequence that succeeds has two successful parts. -/
theorem Computation.exec_bind_eq_ok {m : Computation ε σ α} {next : α → Computation ε σ β}
    {s s'' : σ} {last : β} (ran : (m >>= next).exec s = (.ok last, s'')) :
    ∃ answer s', m.exec s = (.ok answer, s') ∧ (next answer).exec s' = (.ok last, s'') := by
  rcases first : m.exec s with ⟨answer, s'⟩
  cases answer with
  | error failure =>
      rw [exec_bind_of_error first] at ran
      cases ran
  | ok value =>
      rw [exec_bind_of_ok first] at ran
      exact ⟨value, s', rfl, ran⟩

/-! ### Bounds -/

/-- The bound relates every state to the one the computation ends in. -/
def Within (bound : σ → σ → Prop) (m : Computation ε σ α) : Prop :=
  ∀ s, bound s (m.exec s).2

namespace Within

variable {bound : σ → σ → Prop}

theorem pure (reflexive : ∀ s, bound s s) (answer : α) :
    Within bound (Pure.pure answer : Computation ε σ α) := reflexive

theorem throw (reflexive : ∀ s, bound s s) (failure : ε) :
    Within bound (throw failure : Computation ε σ α) := reflexive

/-- From one state, with what is known of the state between. -/
theorem bind_at (transitive : ∀ s t u, bound s t → bound t u → bound s u)
    {m : Computation ε σ α} {next : α → Computation ε σ β} {s : σ} (first : bound s (m.exec s).2)
    (later : ∀ answer s', m.exec s = (.ok answer, s') → bound s' ((next answer).exec s').2) :
    bound s ((m >>= next).exec s).2 := by
  rcases ran : m.exec s with ⟨answer, s'⟩
  rw [ran] at first
  cases answer with
  | error failure =>
      rw [Computation.exec_bind_of_error ran]
      exact first
  | ok value =>
      rw [Computation.exec_bind_of_ok ran]
      exact transitive _ _ _ first (later value s' ran)

theorem bind (transitive : ∀ s t u, bound s t → bound t u → bound s u) {m : Computation ε σ α}
    {next : α → Computation ε σ β} (first : Within bound m)
    (later : ∀ answer, Within bound (next answer)) : Within bound (m >>= next) :=
  fun s => bind_at transitive (first s) fun answer s' _ => later answer s'

theorem ite {condition : Prop} [Decidable condition] {yes no : Computation ε σ α}
    (left : condition → Within bound yes) (right : ¬ condition → Within bound no) :
    Within bound (if condition then yes else no) := by
  split
  · exact left ‹_›
  · exact right ‹_›

end Within

/-! ### Repetition -/

/-- A run from `s` that succeeds can be repeated, as `again`, from every state later
than the one it has left behind, with the same answer and no more than `quiet` does. -/
def Replays (later quiet : σ → σ → Prop) (m again : Computation ε σ α) (s : σ) : Prop :=
  ∀ s' answer, m.exec s = (.ok answer, s') → ∀ t, later s' t →
    ∃ t', again.exec t = (.ok answer, t') ∧ quiet t t'

namespace Replays

variable {later quiet : σ → σ → Prop} {s : σ}

theorem pure (reflexive : ∀ s, quiet s s) (answer : α) :
    Replays later quiet (Pure.pure answer : Computation ε σ α) (Pure.pure answer) s := by
  intro s' value ran t _
  cases ran
  exact ⟨t, rfl, reflexive t⟩

theorem throw (failure : ε) (again : Computation ε σ α) :
    Replays later quiet (throw failure) again s := by
  intro s' value ran
  cases ran

/-- What comes after the first part may only add to what it has left behind. -/
theorem bind (transitive : ∀ s t u, later s t → later t u → later s u)
    (quietly : ∀ s t u, later s t → quiet t u → later s u)
    (composes : ∀ s t u, quiet s t → quiet t u → quiet s u)
    {m again : Computation ε σ α} {next next' : α → Computation ε σ β}
    (first : Replays later quiet m again s) (grows : ∀ answer, Within later (next answer))
    (rest : ∀ answer s, Replays later quiet (next answer) (next' answer) s) :
    Replays later quiet (m >>= next) (again >>= next') s := by
  intro s'' last ran t after
  obtain ⟨answer, s', ranFirst, ranRest⟩ := Computation.exec_bind_eq_ok ran
  have grown := grows answer s'
  rw [ranRest] at grown
  obtain ⟨t', repeated, still⟩ := first s' answer ranFirst t (transitive _ _ _ grown after)
  obtain ⟨t'', repeatedRest, still'⟩ :=
    rest answer s' s'' last ranRest t' (quietly _ _ _ after still)
  refine ⟨t'', ?_, composes _ _ _ still still'⟩
  rw [Computation.exec_bind_of_ok repeated]
  exact repeatedRest

theorem ite {condition : Prop} [Decidable condition] {yes no yes' no' : Computation ε σ α}
    (left : condition → Replays later quiet yes yes' s)
    (right : ¬ condition → Replays later quiet no no' s) :
    Replays later quiet (if condition then yes else no) (if condition then yes' else no') s := by
  split
  · exact left ‹_›
  · exact right ‹_›

end Replays

/-! ### Rehearsal -/

/-- From states that `before` relates the rehearsal answers like the computation, and
`after` relates the states they end in, unless the computation fails with an excuse. -/
def Mirrors (excused : ε → Prop) (before after : σ → σ → Prop)
    (m rehearsal : Computation ε σ α) : Prop :=
  ∀ s t, before s t → (∃ failure, (m.exec s).1 = .error failure ∧ excused failure) ∨
    ((m.exec s).1 = (rehearsal.exec t).1 ∧ after (m.exec s).2 (rehearsal.exec t).2)

namespace Mirrors

variable {excused : ε → Prop} {before between after : σ → σ → Prop}

theorem pure (weaker : ∀ s t, before s t → after s t) (answer : α) :
    Mirrors excused before after (Pure.pure answer : Computation ε σ α) (Pure.pure answer) :=
  fun s t related => Or.inr ⟨rfl, weaker s t related⟩

theorem throw (weaker : ∀ s t, before s t → after s t) (failure : ε) :
    Mirrors excused before after (throw failure : Computation ε σ α) (throw failure) :=
  fun s t related => Or.inr ⟨rfl, weaker s t related⟩

/-- A failure ends both, so what relates the states between must do at the end. -/
theorem bind (weaker : ∀ s t, between s t → after s t) {m rehearsal : Computation ε σ α}
    {next next' : α → Computation ε σ β} (first : Mirrors excused before between m rehearsal)
    (rest : ∀ answer, Mirrors excused between after (next answer) (next' answer)) :
    Mirrors excused before after (m >>= next) (rehearsal >>= next') := by
  intro s t related
  have both := first s t related
  rcases ranS : m.exec s with ⟨answerS, s'⟩
  rcases ranT : rehearsal.exec t with ⟨answerT, t'⟩
  rw [ranS, ranT] at both
  rcases both with ⟨failure, failed, excuse⟩ | ⟨same, ends⟩
  · obtain rfl : answerS = .error failure := failed
    left
    rw [Computation.exec_bind_of_error ranS]
    exact ⟨failure, rfl, excuse⟩
  · obtain rfl : answerS = answerT := same
    cases answerS with
    | error failure =>
        right
        rw [Computation.exec_bind_of_error ranS, Computation.exec_bind_of_error ranT]
        exact ⟨rfl, weaker _ _ ends⟩
    | ok value =>
        rw [Computation.exec_bind_of_ok ranS, Computation.exec_bind_of_ok ranT]
        exact rest value s' t' ends

theorem ite {condition : Prop} [Decidable condition] {yes no yes' no' : Computation ε σ α}
    (left : condition → Mirrors excused before after yes yes')
    (right : ¬ condition → Mirrors excused before after no no') :
    Mirrors excused before after (if condition then yes else no)
      (if condition then yes' else no') := by
  split
  · exact left ‹_›
  · exact right ‹_›

/-- A part of the computation that the rehearsal leaves out. -/
theorem skip {m : Computation ε σ α} {next : α → Computation ε σ β}
    {rehearsal : Computation ε σ β}
    (omitted : ∀ s t, before s t → (∃ failure, (m.exec s).1 = .error failure ∧ excused failure) ∨
      ∃ answer s', m.exec s = (.ok answer, s') ∧ between s' t)
    (rest : ∀ answer, Mirrors excused between after (next answer) rehearsal) :
    Mirrors excused before after (m >>= next) rehearsal := by
  intro s t related
  rcases omitted s t related with ⟨failure, failed, excuse⟩ | ⟨answer, s', ran, ends⟩
  · left
    rw [Computation.exec_bind_of_error (show m.exec s = (.error failure, (m.exec s).2) from
      Prod.ext failed rfl)]
    exact ⟨failure, rfl, excuse⟩
  · rw [Computation.exec_bind_of_ok ran]
    exact rest answer s' t ends

theorem weaken {before' after' : σ → σ → Prop} {m rehearsal : Computation ε σ α}
    (mirrors : Mirrors excused before after m rehearsal)
    (start : ∀ s t, before' s t → before s t) (finish : ∀ s t, after s t → after' s t) :
    Mirrors excused before' after' m rehearsal := by
  intro s t related
  exact (mirrors s t (start s t related)).imp_right fun both => ⟨both.1, finish _ _ both.2⟩

end Mirrors

end DicodeRelay.Lib
