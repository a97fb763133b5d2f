import Mathlib.Data.List.Induction

/-!
Contract: event machines and their runs.

Owns:
- deterministic machines with partial steps and the runs of event lists;
- the steps of a run, and what happened earlier or most recently in it;
- the induction rules: invariants of runs, invariants of the runs whose steps
  all meet a condition, and projection onto a component machine.

Does not own: any particular machine.
-/

namespace DicodeRelay.Lib

universe u v w

/-- An element of a list that grew by one is an element it had or the last. -/
theorem split_concat_inv {α : Type u} {list before after : List α} {last x : α}
    (split : list ++ [last] = before ++ x :: after) :
    (∃ rest, list = before ++ x :: rest) ∨ (before = list ∧ x = last) := by
  rcases List.eq_nil_or_concat after with rfl | ⟨rest, final, rfl⟩
  · right
    have lists := List.append_inj' split rfl
    simp only [List.cons.injEq, and_true] at lists
    exact ⟨lists.1.symm, lists.2.symm⟩
  · left
    have regrouped : list ++ [last] = (before ++ x :: rest) ++ [final] := by
      rw [split]
      simp
    exact ⟨rest, (List.append_inj' regrouped rfl).1⟩

/-- A deterministic event machine. `step` answers `none` to an event that
cannot happen in the state. -/
structure Machine (State : Type u) (Event : Type v) where
  init : State
  step : State → Event → Option State

namespace Machine

variable {State : Type u} {Event : Type v} (m : Machine State Event)

/-- The state after `events`, when each of them can happen in turn. -/
def run (events : List Event) : Option State :=
  events.foldlM m.step m.init

@[simp] theorem run_nil : m.run [] = some m.init := rfl

theorem run_append (first second : List Event) :
    m.run (first ++ second) =
      (m.run first).bind fun middle => second.foldlM m.step middle := by
  unfold run
  rw [List.foldlM_append]
  rfl

theorem run_concat (events : List Event) (e : Event) :
    m.run (events ++ [e]) = (m.run events).bind fun s => m.step s e := by
  rw [run_append]
  simp [List.foldlM_cons, List.foldlM_nil]

variable {m}

theorem run_concat_of {events : List Event} {s s' : State} {e : Event}
    (before : m.run events = some s) (after : m.step s e = some s') :
    m.run (events ++ [e]) = some s' := by
  rw [run_concat, before]
  exact after

/-- The last step of a nonempty run. -/
theorem run_concat_inv {events : List Event} {e : Event} {s' : State}
    (ran : m.run (events ++ [e]) = some s') :
    ∃ s, m.run events = some s ∧ m.step s e = some s' := by
  rw [run_concat] at ran
  exact Option.bind_eq_some_iff.mp ran

theorem run_of_append {first second : List Event} {s' : State}
    (ran : m.run (first ++ second) = some s') : ∃ s, m.run first = some s := by
  rw [run_append] at ran
  obtain ⟨s, before, _⟩ := Option.bind_eq_some_iff.mp ran
  exact ⟨s, before⟩

/-- Invariants of runs: what holds of the empty run and is preserved by one
more event holds of every run. -/
theorem run_invariant {P : List Event → State → Prop}
    (initial : P [] m.init)
    (preserved : ∀ events s e s', m.run events = some s → P events s →
      m.step s e = some s' → P (events ++ [e]) s')
    {events : List Event} {s : State} (ran : m.run events = some s) :
    P events s := by
  induction events using List.reverseRecOn generalizing s with
  | nil =>
      obtain rfl := Option.some.inj ran
      exact initial
  | append_singleton events e inductionHypothesis =>
      obtain ⟨middle, before, after⟩ := run_concat_inv ran
      exact preserved events middle e s before (inductionHypothesis before) after

/-- Invariants that speak of the state alone. -/
theorem state_invariant {P : State → Prop} (initial : P m.init)
    (preserved : ∀ s e s', P s → m.step s e = some s' → P s')
    {events : List Event} {s : State} (ran : m.run events = some s) : P s :=
  run_invariant (P := fun _ s => P s) initial
    (fun _ s e s' _ holds after => preserved s e s' holds after) ran

/-! ### The steps of a run -/

/-- In the run of `events`, the event `e` is taken in `s`, after the events
`earlier`, and leads to `s'`. -/
structure StepAt (m : Machine State Event) (events earlier : List Event)
    (s : State) (e : Event) (s' : State) : Prop where
  split : ∃ later, events = earlier ++ e :: later
  before : m.run earlier = some s
  after : m.step s e = some s'

theorem stepAt_last {events : List Event} {s s' : State} {e : Event}
    (before : m.run events = some s) (after : m.step s e = some s') :
    m.StepAt (events ++ [e]) events s e s' :=
  ⟨⟨[], rfl⟩, before, after⟩

/-- The last event of a run is a step of it. -/
theorem exists_stepAt_last {events : List Event} {e : Event}
    (ran : (m.run (events ++ [e])).isSome = true) :
    ∃ s s', m.StepAt (events ++ [e]) events s e s' := by
  obtain ⟨s', reached⟩ := Option.isSome_iff_exists.mp ran
  obtain ⟨s, before, after⟩ := run_concat_inv reached
  exact ⟨s, s', stepAt_last before after⟩

theorem StepAt.extend {events more earlier : List Event} {s s' : State} {e : Event}
    (step : m.StepAt events earlier s e s') :
    m.StepAt (events ++ more) earlier s e s' := by
  obtain ⟨⟨later, rfl⟩, before, after⟩ := step
  exact ⟨⟨later ++ more, by simp⟩, before, after⟩

/-- Every event of a run is taken in some step. -/
theorem exists_stepAt {events earlier later : List Event} {e : Event} {t : State}
    (ran : m.run (earlier ++ e :: later) = some t) (within : earlier ++ e :: later <+: events) :
    ∃ s s', m.StepAt events earlier s e s' := by
  have regrouped : earlier ++ e :: later = (earlier ++ [e]) ++ later := by simp
  rw [regrouped] at ran
  obtain ⟨s', reached⟩ := run_of_append ran
  obtain ⟨s, before, after⟩ := run_concat_inv reached
  obtain ⟨rest, split⟩ := within
  exact ⟨s, s', ⟨later ++ rest, by rw [← split]; simp⟩, before, after⟩

/-- The steps before a step are steps of the whole run. -/
theorem StepAt.within {events earlier earlier' : List Event} {s s' t t' : State} {e f : Event}
    (step : m.StepAt events earlier s e s') (inner : m.StepAt earlier earlier' t f t') :
    m.StepAt events earlier' t f t' := by
  obtain ⟨later, rfl⟩ := step.split
  exact inner.extend

theorem not_stepAt_nil {earlier : List Event} {s s' : State} {e : Event} :
    ¬ m.StepAt [] earlier s e s' := by
  rintro ⟨⟨later, equal⟩, _, _⟩
  simp at equal

/-- A step of a longer run is a step of the shorter one or the last step. -/
theorem StepAt.concat_inv {events earlier : List Event} {s s' : State} {last e : Event}
    (step : m.StepAt (events ++ [last]) earlier s e s') :
    m.StepAt events earlier s e s' ∨ (earlier = events ∧ e = last) := by
  obtain ⟨⟨later, split⟩, before, after⟩ := step
  rcases split_concat_inv split with ⟨rest, inside⟩ | atEnd
  · exact Or.inl ⟨⟨rest, inside⟩, before, after⟩
  · exact Or.inr atEnd

theorem StepAt.length_lt {events earlier : List Event} {s s' : State} {e : Event}
    (step : m.StepAt events earlier s e s') : earlier.length < events.length := by
  obtain ⟨⟨later, rfl⟩, _, _⟩ := step
  simp

theorem StepAt.length_le {events earlier : List Event} {s s' : State} {last e : Event}
    (step : m.StepAt (events ++ [last]) earlier s e s') : earlier.length ≤ events.length := by
  have shorter := step.length_lt
  rw [List.length_append, List.length_singleton] at shorter
  omega

/-- Of two steps of a run, the one with fewer events before it is a step of the
run before the other. -/
theorem StepAt.before_of_length_lt {events earlier earlier' : List Event}
    {s s' t t' : State} {e f : Event} (first : m.StepAt events earlier s e s')
    (second : m.StepAt events earlier' t f t') (shorter : earlier.length < earlier'.length) :
    m.StepAt earlier' earlier s e s' := by
  obtain ⟨later, split⟩ := first.split
  obtain ⟨later', split'⟩ := second.split
  have long : earlier ++ [e] <+: events := ⟨later, by rw [split]; simp⟩
  have short : earlier' <+: events := ⟨f :: later', split'.symm⟩
  have prefixes : earlier ++ [e] <+: earlier' := by
    apply List.prefix_of_prefix_length_le long short
    rw [List.length_append, List.length_singleton]
    exact shorter
  obtain ⟨between, rfl⟩ := prefixes
  exact ⟨⟨between, by simp⟩, first.before, first.after⟩

theorem StepAt.earlier_eq_of_length_eq {events earlier earlier' : List Event}
    {s s' t t' : State} {e f : Event} (first : m.StepAt events earlier s e s')
    (second : m.StepAt events earlier' t f t') (same : earlier.length = earlier'.length) :
    earlier = earlier' := by
  obtain ⟨later, split⟩ := first.split
  obtain ⟨later', split'⟩ := second.split
  exact (List.append_inj (split.symm.trans split') same).1

theorem StepAt.event_eq {events earlier : List Event} {s s' t t' : State} {e f : Event}
    (first : m.StepAt events earlier s e s') (second : m.StepAt events earlier t f t') :
    e = f := by
  obtain ⟨later, split⟩ := first.split
  obtain ⟨later', split'⟩ := second.split
  exact (List.cons.inj (List.append_cancel_left (split.symm.trans split'))).1

/-- What cannot happen a second time happens in one step of a run. -/
theorem StepAt.unique {Q : State → Event → State → Prop} {events : List Event}
    (never : ∀ earlier earlier' s e s' t f t', m.StepAt earlier' earlier s e s' → Q s e s' →
      m.StepAt events earlier' t f t' → ¬ Q t f t')
    {earlier earlier' : List Event} {s s' t t' : State} {e f : Event}
    (first : m.StepAt events earlier s e s') (holds : Q s e s')
    (second : m.StepAt events earlier' t f t') (holds' : Q t f t') : earlier = earlier' := by
  rcases Nat.lt_trichotomy earlier.length earlier'.length with shorter | same | longer
  · exact absurd holds' (never _ _ _ _ _ _ _ _ (first.before_of_length_lt second shorter) holds
      second)
  · exact first.earlier_eq_of_length_eq second same
  · exact absurd holds (never _ _ _ _ _ _ _ _ (second.before_of_length_lt first longer) holds'
      first)

/-- What holds right after a step and is preserved from there on holds at the
end of the run. -/
theorem StepAt.persists {P : State → Prop} {events earlier : List Event} {s s' t : State}
    {e : Event} (step : m.StepAt events earlier s e s') (holds : P s')
    (preserved : ∀ events s e s', m.run events = some s → P s → m.step s e = some s' → P s')
    (ran : m.run events = some t) : P t := by
  obtain ⟨⟨later, rfl⟩, before, after⟩ := step
  induction later using List.reverseRecOn generalizing t with
  | nil =>
      rw [run_concat_of before after] at ran
      exact Option.some.inj ran ▸ holds
  | append_singleton later last inductionHypothesis =>
      have regrouped : earlier ++ e :: (later ++ [last]) = (earlier ++ e :: later) ++ [last] := by
        simp
      rw [regrouped] at ran
      obtain ⟨middle, reached, final⟩ := run_concat_inv ran
      exact preserved _ _ _ _ reached (inductionHypothesis reached) final

/-- Every step of the run of `events` meets `C`. -/
def Meets (m : Machine State Event) (C : State → Event → Prop) (events : List Event) : Prop :=
  ∀ earlier s e s', m.StepAt events earlier s e s' → C s e

theorem Meets.of_append {C : State → Event → Prop} {first second : List Event}
    (meets : m.Meets C (first ++ second)) : m.Meets C first :=
  fun _ _ _ _ step => meets _ _ _ _ step.extend

theorem Meets.concat {C : State → Event → Prop} {events : List Event} {s : State} {e : Event}
    (meets : m.Meets C events) (before : m.run events = some s) (condition : C s e) :
    m.Meets C (events ++ [e]) := by
  intro earlier t f t' step
  rcases step.concat_inv with inside | ⟨rfl, rfl⟩
  · exact meets _ _ _ _ inside
  · obtain rfl := Option.some.inj (before.symm.trans step.before)
    exact condition

/-- Checks a condition on every step from `s` on. -/
def meetsFrom (m : Machine State Event) (C : State → Event → Bool) (s : State) :
    List Event → Bool
  | [] => true
  | e :: rest => C s e && (m.step s e).all fun s' => meetsFrom m C s' rest

private theorem meetsFrom_split {C : State → Event → Bool} {earlier later : List Event}
    {t s : State} {e : Event} (met : m.meetsFrom C t (earlier ++ e :: later) = true)
    (reached : earlier.foldlM m.step t = some s) : C s e = true := by
  induction earlier generalizing t with
  | nil =>
      obtain rfl := Option.some.inj reached
      exact (Bool.and_eq_true_iff.mp met).1
  | cons first rest inductionHypothesis =>
      rw [List.foldlM_cons] at reached
      obtain ⟨middle, stepped, continued⟩ := Option.bind_eq_some_iff.mp reached
      have onward := (Bool.and_eq_true_iff.mp met).2
      rw [stepped, Option.all_some] at onward
      exact inductionHypothesis onward continued

theorem meets_of_meetsFrom {C : State → Event → Prop} [∀ s e, Decidable (C s e)]
    {events : List Event} (met : m.meetsFrom (fun s e => decide (C s e)) m.init events = true) :
    m.Meets C events := by
  intro earlier s e s' step
  obtain ⟨later, rfl⟩ := step.split
  have checked : decide (C s e) = true :=
    meetsFrom_split (C := fun s e => decide (C s e)) met step.before
  exact of_decide_eq_true checked

/-- Invariants of the runs whose steps all meet a condition. -/
theorem run_invariant_of_meets {C : State → Event → Prop}
    {P : List Event → State → Prop} (initial : P [] m.init)
    (preserved : ∀ events s e s', m.run events = some s → P events s → C s e →
      m.step s e = some s' → P (events ++ [e]) s')
    {events : List Event} {s : State} (ran : m.run events = some s)
    (meets : m.Meets C events) : P events s := by
  refine run_invariant (P := fun events s => m.Meets C events → P events s)
    (fun _ => initial) ?_ ran meets
  intro events s e s' before holds after meetsAll
  exact preserved events s e s' before (holds meetsAll.of_append)
    (meetsAll _ _ _ _ (stepAt_last before after)) after

/-! ### History -/

/-- Some step of the run of `events` was a `Q` step. -/
def Happened (m : Machine State Event) (Q : State → Event → State → Prop)
    (events : List Event) : Prop :=
  ∃ earlier s e s', m.StepAt events earlier s e s' ∧ Q s e s'

theorem Happened.extend {Q : State → Event → State → Prop} {events : List Event}
    (happened : m.Happened Q events) (more : List Event) : m.Happened Q (events ++ more) := by
  obtain ⟨earlier, s, e, s', step, holds⟩ := happened
  exact ⟨earlier, s, e, s', step.extend, holds⟩

theorem happened_last {Q : State → Event → State → Prop} {events : List Event}
    {s s' : State} {e : Event} (before : m.run events = some s)
    (after : m.step s e = some s') (holds : Q s e s') :
    m.Happened Q (events ++ [e]) :=
  ⟨events, s, e, s', stepAt_last before after, holds⟩

/-- The most recent step of the run that `Q` relates to some value relates to
`v`. -/
def Latest {Value : Type w} (m : Machine State Event)
    (Q : State → Event → State → Value → Prop) (events : List Event) (v : Value) : Prop :=
  ∃ earlier s e s', m.StepAt events earlier s e s' ∧ Q s e s' v ∧
    ∀ later t f t' w, m.StepAt events later t f t' → Q t f t' w →
      later.length ≤ earlier.length

theorem latest_last {Value : Type w} {Q : State → Event → State → Value → Prop}
    {events : List Event} {s s' : State} {e : Event} {v : Value}
    (before : m.run events = some s) (after : m.step s e = some s') (holds : Q s e s' v) :
    m.Latest Q (events ++ [e]) v := by
  refine ⟨events, s, e, s', stepAt_last before after, holds, ?_⟩
  intro later t f t' w step _
  exact step.length_le

theorem Latest.extend {Value : Type w} {Q : State → Event → State → Value → Prop}
    {events : List Event} {s s' : State} {e : Event} {v : Value}
    (latest : m.Latest Q events v) (before : m.run events = some s)
    (after : m.step s e = some s') (quiet : ∀ w, ¬ Q s e s' w) :
    m.Latest Q (events ++ [e]) v := by
  obtain ⟨earlier, t, f, t', step, holds, newest⟩ := latest
  refine ⟨earlier, t, f, t', step.extend, holds, ?_⟩
  intro later r g r' w laterStep related
  rcases laterStep.concat_inv with inside | ⟨rfl, rfl⟩
  · exact newest later r g r' w inside related
  · obtain rfl := Option.some.inj (before.symm.trans laterStep.before)
    obtain rfl := Option.some.inj (after.symm.trans laterStep.after)
    exact absurd related (quiet w)

/-! ### Components -/

/-- A component whose state moves only by steps of its own machine is in a
state that machine reaches. -/
theorem run_project {State' : Type u} {Event' : Type v} (part : Machine State' Event')
    (view : State → State') (initial : view m.init = part.init)
    (moves : ∀ s e s', m.step s e = some s' →
      view s' = view s ∨ ∃ e', part.step (view s) e' = some (view s'))
    {events : List Event} {s : State} (ran : m.run events = some s) :
    ∃ events', part.run events' = some (view s) := by
  refine run_invariant (P := fun _ s => ∃ events', part.run events' = some (view s))
    ⟨[], by rw [initial]; rfl⟩ ?_ ran
  intro _ s e s' _ ⟨events', reached⟩ after
  rcases moves s e s' after with same | ⟨e', moved⟩
  · exact ⟨events', same ▸ reached⟩
  · exact ⟨events' ++ [e'], run_concat_of reached moved⟩

end Machine

end DicodeRelay.Lib
