import DicodeRelay.Client.Abort
import DicodeRelay.Client.Ledger
import DicodeRelay.Lib.History
import Mathlib.Tactic.Linarith

/-!
Contract: how long a connection sleeps between its attempts.

Owns:
- the course of the attempts: when the current one was welcomed, and how many
  sleeps there were since the latest stable one;
- two notions of a stable attempt: its service was long, and it ended without an
  error a long time after its dial began;
- that every sleep follows the doubling law under the second, and under the
  first exactly when the two agree wherever it matters.

Does not own: sleeps that an abort cuts short.
-/

namespace DicodeRelay.Client

open DicodeRelay.Lib DicodeRelay.Shared

/-! ### Waits -/

/-- The base of the wait after `k` sleeps. -/
def backoffBase (k : Nat) : Nat := min (INITIAL_MS * MULT ^ k) MAX_MS

theorem backoffBase_zero : backoffBase 0 = INITIAL_MS := by decide

theorem backoffBase_succ (k : Nat) :
    min (backoffBase k * MULT) MAX_MS = backoffBase (k + 1) := by
  unfold backoffBase MULT MAX_MS
  rw [pow_succ, ← Nat.mul_assoc]
  omega

theorem backoffBase_le (k : Nat) : backoffBase k ≤ MAX_MS := Nat.min_le_right _ _

theorem initial_le_backoffBase (k : Nat) : INITIAL_MS ≤ backoffBase k :=
  Nat.le_min.mpr ⟨Nat.le_mul_of_pos_right _ (Nat.pow_pos (by decide)), by decide⟩

theorem five_dvd_backoffBase (k : Nat) : 5 ∣ backoffBase k := by
  unfold backoffBase
  rcases Nat.le_total (INITIAL_MS * MULT ^ k) MAX_MS with small | large
  · rw [Nat.min_eq_left small]
    exact Dvd.dvd.mul_right (by decide) _
  · rw [Nat.min_eq_right large]
    decide

/-- The wait lies within a fifth of its base. -/
theorem nextBackoff_bounds {cur : Nat} (bound : cur ≤ MAX_MS) (whole : 5 ∣ cur) {draw : Rat}
    (drawn : 0 ≤ draw ∧ draw < 1) :
    4 * (cur : Int) ≤ 5 * (nextBackoff cur draw).1 ∧
      5 * (nextBackoff cur draw).1 ≤ 6 * (cur : Int) := by
  obtain ⟨fifth, rfl⟩ := whole
  have capped : (5 * fifth : Rat) ≤ 60000 := by exact_mod_cast bound
  have positive : (0 : Rat) ≤ fifth := by exact_mod_cast Nat.zero_le fifth
  have low : 4 * (fifth : Rat) ≤ (5 * fifth : Nat) * (1 + (draw * 2 - 1) * JITTER) := by
    push_cast
    simp only [JITTER]
    nlinarith [mul_nonneg positive drawn.1]
  have high : (5 * fifth : Nat) * (1 + (draw * 2 - 1) * JITTER) ≤ 6 * (fifth : Rat) := by
    push_cast
    simp only [JITTER]
    nlinarith [mul_nonneg positive (sub_nonneg.mpr drawn.2.le)]
  have uncut : (5 * fifth : Nat) * (1 + (draw * 2 - 1) * JITTER) ≤
      (MAX_MS : Rat) * (1 + JITTER) := by
    apply high.trans
    norm_num [MAX_MS, JITTER]
    linarith
  have wait : (nextBackoff (5 * fifth) draw).1 =
      ((5 * fifth : Nat) * (1 + (draw * 2 - 1) * JITTER) + 1 / 2 : Rat).floor := by
    simp only [nextBackoff, roundHalfUp]
    rw [min_eq_left uncut]
  rw [wait]
  constructor
  · have least : (4 * fifth : Int) ≤
        ((5 * fifth : Nat) * (1 + (draw * 2 - 1) * JITTER) + 1 / 2 : Rat).floor := by
      rw [Rat.le_floor_iff]
      push_cast at low ⊢
      linarith
    omega
  · have most : ((5 * fifth : Nat) * (1 + (draw * 2 - 1) * JITTER) + 1 / 2 : Rat).floor <
        (6 * fifth + 1 : Int) := by
      rw [Rat.floor_lt_iff]
      push_cast at high ⊢
      linarith
    omega

/-! ### The course of the attempts -/

structure Course where
  /-- When the handshake of the current attempt was answered with a welcome. -/
  welcomedAt : Option Nat
  /-- The sleeps since the end of the latest stable attempt, or since the
  start. -/
  sleeps : Nat
deriving DecidableEq

/-- The handshake is answered with a welcome in this step. -/
def ConnectionOptions.welcomed (opts : ConnectionOptions) (s : State) : Event → Bool
  | .resume =>
      match s.phase with
      | .handshaking _ =>
          match (s.sockets.get s.attempt).bind fun socket => socket.adapter.answers.head? with
          | some (.ok raw) => (readWelcome opts.crypto opts.wire opts.identity raw).isOk
          | _ => false
      | _ => false
  | _ => false

/-- When an attempt that has ended was stable: its course, the state in which
`run` goes on after it, and its outcome. -/
abbrev Stability := Course → State → Option RunError → Bool

/-- The attempt served, from its welcome on, for `STABLE_MS`. -/
def servedLong : Stability := fun course s _ =>
  course.welcomedAt.any fun since => decide (since + STABLE_MS ≤ s.now)

/-- The attempt ended without an error, `STABLE_MS` after its dial began. -/
def endedWell : Stability := fun _ s outcome =>
  outcome.isNone && decide (s.startedAt + STABLE_MS ≤ s.now)

/-- The earlier sleeps that count for the wait after an attempt. -/
def Course.counted (course : Course) (stable : Stability) (s : State)
    (outcome : Option RunError) : Nat :=
  if stable course s outcome then 0 else course.sleeps

def Course.note (opts : ConnectionOptions) (stable : Stability) (course : Course) (s : State)
    (e : Event) (_ : State) : Course :=
  if opts.welcomed s e then { course with welcomedAt := some s.now }
  else
    match e, s.phase with
    | .resume, .looping => { course with welcomedAt := none }
    | .backOff _, .ended outcome => { course with sleeps := course.counted stable s outcome + 1 }
    | _, _ => course

/-- The connection with the course of its attempts. -/
def ConnectionOptions.chronicled (opts : ConnectionOptions) (stable : Stability) :
    Machine (State × Course) Event :=
  opts.machine.withHistory ⟨none, 0⟩ (Course.note opts stable)

/-- The sleep that a step begins lies within a fifth of the base for the earlier
sleeps that count. -/
def SleepsWithin (stable : Stability) (before : State × Course) (after : State) : Prop :=
  ∀ outcome due, before.1.phase = .ended outcome → after.phase = .sleeping due →
    ∃ wait, due = before.1.now + wait ∧
      4 * backoffBase (before.2.counted stable before.1 outcome) ≤ 5 * wait ∧
      5 * wait ≤ 6 * backoffBase (before.2.counted stable before.1 outcome)

/-- Every sleep of the run follows the doubling law. -/
def DoublingLaw (opts : ConnectionOptions) (stable : Stability) (events : List Event) : Prop :=
  ∀ earlier before e after, (opts.chronicled stable).StepAt events earlier before e after →
    SleepsWithin stable before after.1

/-! ### One event -/

/-- The base of the wait after an attempt. -/
def State.waitBase (s : State) (outcome : Option RunError) : Nat :=
  if endedWell ⟨none, 0⟩ s outcome then INITIAL_MS else s.backoff

theorem endAttempt_ledger (s : State) (outcome : Option RunError) :
    (s.endAttempt outcome).backoff = s.waitBase outcome ∧
      (s.endAttempt outcome).now = s.now := by
  cases outcome with
  | some err => exact ⟨rfl, rfl⟩
  | none =>
      have longEnough : s.now - s.startedAt ≥ STABLE_MS ↔ s.startedAt + STABLE_MS ≤ s.now := by
        have positive : 0 < STABLE_MS := by decide
        omega
      simp only [State.endAttempt, State.waitBase, endedWell, longEnough, Option.isNone_none,
        Bool.true_and, decide_eq_true_eq]
      split <;> exact ⟨rfl, rfl⟩

theorem backOff_backoff (s : State) (outcome : Option RunError) (draw : Rat) :
    (s.backOff outcome draw).backoff = min (s.waitBase outcome * MULT) MAX_MS := by
  have slept : ∀ (t : State) (wait : Int), (t.sleep wait).backoff = t.backoff :=
    fun t wait => ((Aside.refl t).sleep wait).backoff
  simp only [State.backOff]
  rw [slept, (endAttempt_ledger s outcome).1]
  rfl

theorem timerDelay_eq {ms : Int} (least : 1 ≤ ms) (most : ms ≤ 2147483647) :
    timerDelay ms = ms.toNat :=
  if_pos ⟨least, most⟩

/-- The sleep after an attempt lies within a fifth of its base. -/
theorem backOff_sleep {s : State} {outcome : Option RunError} {draw : Rat} {k due : Nat}
    (drawn : 0 ≤ draw ∧ draw < 1) (base : s.waitBase outcome = backoffBase k)
    (sleeping : (s.backOff outcome draw).phase = .sleeping due) :
    ∃ wait, due = s.now + wait ∧ 4 * backoffBase k ≤ 5 * wait ∧ 5 * wait ≤ 6 * backoffBase k := by
  obtain ⟨backoff, now⟩ := endAttempt_ledger s outcome
  simp only [State.backOff, State.sleep] at sleeping
  split at sleeping
  · contradiction
  · obtain rfl := Phase.sleeping.inj sleeping
    have bounds := nextBackoff_bounds (backoffBase_le k) (five_dvd_backoffBase k) drawn
    have least := initial_le_backoffBase k
    have most := backoffBase_le k
    simp only [INITIAL_MS, MAX_MS] at least most
    refine ⟨_, congrArg (· + _) now, ?_⟩
    rw [backoff, base, timerDelay_eq (by omega) (by omega)]
    omega

/-- Only the end of an attempt moves the backoff. -/
theorem backoff_step {opts : ConnectionOptions} {s s' : State} {e : Event}
    (after : opts.step s e = some s') :
    (s'.backoff = s.backoff ∧ ∀ draw, e ≠ .backOff draw) ∨
    ∃ outcome draw, s.phase = .ended outcome ∧ (0 ≤ draw ∧ draw < 1) ∧ e = .backOff draw ∧
      s' = s.backOff outcome draw := by
  cases ledger_of_step opts after with
  | aside aside _ going => exact Or.inl ⟨aside.backoff, going⟩
  | ticked tick equal => exact Or.inl ⟨equal ▸ rfl, by simp [tick]⟩
  | started resumed _ _ equal => exact Or.inl ⟨equal ▸ rfl, by simp [resumed]⟩
  | @connected result enters equal =>
      refine Or.inl ⟨equal ▸ (clock_connect opts s result).2.2, ?_⟩
      rintro draw rfl
      cases enters
  | backedOff ended drawn event equal => exact Or.inr ⟨_, _, ended, drawn, event, equal⟩

/-- A sleep begins when an attempt has ended. -/
theorem sleeps_note {opts : ConnectionOptions} {stable : Stability} {course : Course}
    {s s' : State} {e : Event} (going : ∀ draw, e ≠ .backOff draw) :
    (course.note opts stable s e s').sleeps = course.sleeps := by
  unfold Course.note
  split
  · rfl
  · split
    · rfl
    · exact absurd rfl (going _)
    · rfl

theorem note_backOff (opts : ConnectionOptions) (stable : Stability) (course : Course)
    {s : State} (s' : State) {outcome : Option RunError} (ended : s.phase = .ended outcome)
    (draw : Rat) : (course.note opts stable s (.backOff draw) s').sleeps =
      course.counted stable s outcome + 1 := by
  simp only [Course.note, ConnectionOptions.welcomed, ended, Bool.false_eq_true, if_false]

/-- From the end of an attempt only the choice of the wait leads into a sleep. -/
theorem backOff_of_sleeping {opts : ConnectionOptions} {s s' : State} {e : Event}
    (coherent : Coherent s) (after : opts.step s e = some s') {outcome : Option RunError}
    {due : Nat} (ended : s.phase = .ended outcome) (sleeping : s'.phase = .sleeping due) :
    ∃ draw, (0 ≤ draw ∧ draw < 1) ∧ e = .backOff draw ∧ s' = s.backOff outcome draw := by
  rcases backoff_step after with ⟨_, going⟩ | ⟨outcome', draw, ended', drawn, event, equal⟩
  · have kept : s.phase ≠ .sleeping due := by simp [ended]
    cases stepCase_of_step opts coherent after with
    | unattended _ unattended => exact absurd (unattended.phase ▸ sleeping) kept
    | started _ looping => simp [looping] at ended
    | moved move moved =>
        rw [moved.phase] at sleeping
        cases move with
        | slept draw => exact absurd rfl (going draw)
        | quiet => exact absurd sleeping kept
        | buffered => exact absurd sleeping kept
        | adapterFailed => exact absurd sleeping kept
        | served => exact absurd sleeping kept
        | peerClosing => exact absurd sleeping kept
        | abortedElsewhere => exact absurd sleeping kept
        | _ => contradiction
  · obtain rfl := Phase.ended.inj (ended.symm.trans ended')
    exact ⟨draw, drawn, event, equal⟩

/-- The base of a wait belongs to the sleeps that count, when the backoff
does. -/
theorem waitBase_eq {s : State} {course : Course} (base : s.backoff = backoffBase course.sleeps)
    (outcome : Option RunError) :
    s.waitBase outcome = backoffBase (course.counted endedWell s outcome) := by
  have same : endedWell course s outcome = endedWell ⟨none, 0⟩ s outcome := rfl
  rw [State.waitBase, Course.counted, same]
  cases endedWell ⟨none, 0⟩ s outcome with
  | true => exact backoffBase_zero.symm
  | false => exact base

/-! ### Whole runs -/

theorem coherent_of_chronicled {opts : ConnectionOptions} {stable : Stability}
    {events : List Event} {before : State × Course}
    (ran : (opts.chronicled stable).run events = some before) : Coherent before.1 :=
  coherent_run opts (Machine.run_of_withHistory ran)

/-- At the end of the attempt both notions of a stable attempt lead to the same
base. -/
def SameBase (stable : Stability) (before : State × Course) : Prop :=
  ∀ outcome, before.1.phase = .ended outcome → before.1.signal.aborted = false →
    backoffBase (before.2.counted stable before.1 outcome) =
      backoffBase (before.2.counted endedWell before.1 outcome)

/-- Until the abort, the backoff follows the sleeps that count. -/
theorem backoff_eq_base {opts : ConnectionOptions} {stable : Stability} {events : List Event}
    {s : State} {course : Course} (ran : (opts.chronicled stable).run events = some (s, course))
    (same : ∀ earlier before draw after,
      (opts.chronicled stable).StepAt events earlier before (.backOff draw) after →
        before.1.backoff = backoffBase before.2.sleeps → SameBase stable before)
    (going : s.signal.aborted = false) : s.backoff = backoffBase course.sleeps := by
  refine Machine.run_invariant (P := fun events sc => (∀ earlier before draw after,
      (opts.chronicled stable).StepAt events earlier before (.backOff draw) after →
        before.1.backoff = backoffBase before.2.sleeps → SameBase stable before) →
    sc.1.signal.aborted = false → sc.1.backoff = backoffBase sc.2.sleeps)
    (fun _ _ => backoffBase_zero.symm) ?_ ran same going
  rintro events ⟨s, course⟩ e ⟨s', course'⟩ ran holds after same going
  obtain ⟨stepped, rfl⟩ := Machine.withHistory_step_iff.mp after
  have before : s.signal.aborted = false := by
    rw [← Bool.not_eq_true] at going ⊢
    exact fun aborted =>
      going (forward_of_aborted (coherent_of_chronicled ran) stepped aborted).aborted
  have base := holds (fun _ _ _ _ step => same _ _ _ _ step.extend) before
  dsimp only at base ⊢
  rcases backoff_step stepped with ⟨kept, other⟩ | ⟨outcome, draw, ended, _, rfl, rfl⟩
  · rw [kept, sleeps_note other, base]
  · rw [note_backOff opts stable course _ ended, backOff_backoff, waitBase_eq base,
      ← same _ _ _ _ (Machine.stepAt_last ran after) base outcome ended before]
    exact backoffBase_succ _

/-- A sleep begins only before the abort. -/
theorem going_of_sleeping {s : State} {outcome : Option RunError} {draw : Rat} {due : Nat}
    (sleeping : (s.backOff outcome draw).phase = .sleeping due) : s.signal.aborted = false := by
  rcases Moved.backOff s outcome draw with ⟨_, moved⟩ | ⟨going, _⟩
  · rw [moved.phase] at sleeping
    contradiction
  · exact going

/-- In every run, the sleep after an attempt lies within a fifth of the base for
the earlier sleeps since the latest attempt that ended without an error,
`STABLE_MS` after its dial began. -/
theorem doubling_law (opts : ConnectionOptions) (events : List Event) :
    DoublingLaw opts endedWell events := by
  rintro earlier ⟨s, course⟩ e ⟨s', course'⟩ step outcome due ended sleeping
  obtain ⟨stepped, _⟩ := Machine.withHistory_step_iff.mp step.after
  obtain ⟨draw, drawn, rfl, rfl⟩ :=
    backOff_of_sleeping (coherent_of_chronicled step.before) stepped ended sleeping
  have base := backoff_eq_base step.before (fun _ _ _ _ _ _ _ _ _ => rfl)
    (going_of_sleeping sleeping)
  exact backOff_sleep drawn (waitBase_eq base outcome) sleeping

/-! ### Service that was long -/

/-- Waits that fit two bases show that the bases are the same. -/
theorem backoffBase_eq_of_wait {k k' wait : Nat}
    (within : 4 * backoffBase k ≤ 5 * wait ∧ 5 * wait ≤ 6 * backoffBase k)
    (within' : 4 * backoffBase k' ≤ 5 * wait ∧ 5 * wait ≤ 6 * backoffBase k') :
    backoffBase k = backoffBase k' := by
  have apart : ∀ i j, i < j → 5 * wait ≤ 6 * backoffBase i → 4 * backoffBase j ≤ 5 * wait →
      backoffBase i = backoffBase j := by
    intro i j before below above
    have doubled : backoffBase (i + 1) ≤ backoffBase j := by
      unfold backoffBase
      have grows : MULT ^ (i + 1) ≤ MULT ^ j := Nat.pow_le_pow_right (by decide) before
      have scaled := Nat.mul_le_mul_left INITIAL_MS grows
      omega
    have small : backoffBase i = INITIAL_MS * MULT ^ i ∧ i ≤ 5 ∨ backoffBase i = MAX_MS := by
      unfold backoffBase
      by_cases early : i ≤ 5
      · left
        refine ⟨Nat.min_eq_left ?_, early⟩
        have bound : MULT ^ i ≤ MULT ^ 5 := Nat.pow_le_pow_right (by decide) early
        simp only [MULT, INITIAL_MS, MAX_MS] at bound ⊢
        omega
      · right
        apply Nat.min_eq_right
        have bound : MULT ^ 6 ≤ MULT ^ i := Nat.pow_le_pow_right (by decide) (by omega)
        simp only [MULT, INITIAL_MS, MAX_MS] at bound ⊢
        omega
    have most := backoffBase_le j
    rcases small with ⟨equal, early⟩ | full
    · exfalso
      have bound : MULT ^ i ≤ MULT ^ 5 := Nat.pow_le_pow_right (by decide) early
      have positive : 0 < MULT ^ i := Nat.pow_pos (by decide)
      rw [← backoffBase_succ] at doubled
      simp only [MULT, INITIAL_MS, MAX_MS] at *
      omega
    · have least : backoffBase i ≤ backoffBase j := by
        rw [← backoffBase_succ, full] at doubled
        simp only [MULT, MAX_MS] at doubled full ⊢
        omega
      omega
  rcases Nat.lt_trichotomy k k' with lower | same | upper
  · exact apart k k' lower within.2 within'.1
  · rw [same]
  · exact (apart k' k upper within'.2 within.1).symm

/-- Under any notion of a stable attempt, the law holds exactly in the runs in
which, at every end of an attempt before the abort, the sleeps that count lead to
the same base under that notion and the code's. -/
theorem doublingLaw_iff (opts : ConnectionOptions) (stable : Stability) (events : List Event) :
    DoublingLaw opts stable events ↔
      ∀ earlier before draw after,
        (opts.chronicled stable).StepAt events earlier before (.backOff draw) after →
          SameBase stable before := by
  constructor
  · intro law
    -- A wait that fits the law fits the base that the code has taken, too.
    have same : ∀ earlier before draw after,
        (opts.chronicled stable).StepAt events earlier before (.backOff draw) after →
          before.1.backoff = backoffBase before.2.sleeps → SameBase stable before := by
      rintro earlier ⟨s, course⟩ draw ⟨s', course'⟩ step base outcome ended going
      have stepped : opts.step s (.backOff draw) = some s' :=
        (Machine.withHistory_step_iff.mp step.after).1
      rcases backoff_step stepped with ⟨_, other⟩ | ⟨outcome', _, ended', drawn, event, rfl⟩
      · exact absurd rfl (other draw)
      · obtain rfl := Phase.ended.inj (ended.symm.trans ended')
        obtain ⟨_, due, moved⟩ := (Moved.backOff s outcome _).resolve_left
          fun aborted => Bool.false_ne_true (going.symm.trans aborted.1)
        obtain ⟨wait, equal, within⟩ := law _ _ _ _ step outcome due ended moved.phase
        obtain ⟨wait', equal', within'⟩ :=
          backOff_sleep drawn (waitBase_eq base outcome) moved.phase
        have waits : wait = wait' := Nat.add_left_cancel (n := s.now) (equal.symm.trans equal')
        exact backoffBase_eq_of_wait within (waits ▸ within')
    rintro earlier ⟨s, course⟩ draw after step outcome ended going
    have base := backoff_eq_base step.before
      (fun _ _ _ _ inner => same _ _ _ _ (step.within inner)) going
    exact same _ _ _ _ step base outcome ended going
  · rintro same earlier ⟨s, course⟩ e ⟨s', course'⟩ step outcome due ended sleeping
    obtain ⟨stepped, _⟩ := Machine.withHistory_step_iff.mp step.after
    obtain ⟨draw, drawn, rfl, rfl⟩ :=
      backOff_of_sleeping (coherent_of_chronicled step.before) stepped ended sleeping
    have going := going_of_sleeping sleeping
    have base := backoff_eq_base step.before
      (fun _ _ _ _ inner _ => same _ _ _ _ (step.within inner)) going
    have equal := same _ _ _ _ step outcome ended going
    obtain ⟨wait, due, within⟩ := backOff_sleep drawn (waitBase_eq base outcome) sleeping
    exact ⟨wait, due, by rwa [equal]⟩

/-- Where no sleep counts yet, it does not matter whether the attempt was
stable; elsewhere both notions have to agree. -/
theorem sameBase_iff (stable : Stability) (before : State × Course) :
    SameBase stable before ↔ ∀ outcome, before.1.phase = .ended outcome →
      before.1.signal.aborted = false → before.2.sleeps = 0 ∨
        stable before.2 before.1 outcome = endedWell before.2 before.1 outcome := by
  obtain ⟨s, course⟩ := before
  refine forall_congr' fun outcome => imp_congr_right fun _ => imp_congr_right fun _ => ?_
  have restarts : backoffBase 0 = backoffBase course.sleeps ↔ course.sleeps = 0 := by
    constructor
    · intro same
      by_contra counts
      obtain ⟨n, equal⟩ := Nat.exists_eq_succ_of_ne_zero counts
      have least := initial_le_backoffBase n
      rw [equal, Nat.succ_eq_add_one, ← backoffBase_succ, backoffBase_zero] at same
      simp only [INITIAL_MS, MULT, MAX_MS] at same least
      omega
    · intro none
      rw [none]
  unfold Course.counted
  cases stable course s outcome <;> cases endedWell course s outcome <;>
    simp [restarts, eq_comm (a := backoffBase course.sleeps)]

/-! ### A long service that ends with an error -/

namespace Sample

/-- The first dial is refused; the second attempt serves for ten seconds until
its socket fails. -/
def servedThenFailed : List Event :=
  [.resume, .socket 1 (.error "connect ECONNREFUSED"), .backOff (1 / 2), .tick 1000, .sleepTimer,
    .resume, .socket 2 .opened, .resume, .socket 2 (.message welcomeFrame), .resume,
    .persisted none, .tick 10000, .socket 2 (.error "read ECONNRESET"), .resume]

/-- How the second attempt ends. -/
def reset : RunError := .socket "read ECONNRESET"

/-- The service was long, and a wait of two seconds follows it. -/
theorem slept_on : ((options.chronicled servedLong).run servedThenFailed).any (fun before =>
    decide (before.1.phase = .ended (some reset) ∧ before.1.now = 11000) &&
      servedLong before.2 before.1 (some reset) &&
      ((options.step before.1 (.backOff (1 / 2))).any fun after =>
        decide (after.phase = .sleeping 13000))) = true := by
  decide +kernel

end Sample

/-- An attempt that has served for ten seconds and ends with an error does not
restart the waits. -/
theorem served_long_sleeps_on :
    ¬DoublingLaw Sample.options servedLong (Sample.servedThenFailed ++ [.backOff (1 / 2)]) := by
  obtain ⟨before, ran, holds⟩ := (Option.any_eq_true _ _).mp Sample.slept_on
  rw [Bool.and_eq_true, Bool.and_eq_true, decide_eq_true_eq] at holds
  obtain ⟨⟨⟨ended, now⟩, long⟩, slept⟩ := holds
  obtain ⟨after, stepped, sleeping⟩ := (Option.any_eq_true _ _).mp slept
  intro law
  have machineStep : Sample.options.machine.step before.1 (.backOff (1 / 2)) = some after := stepped
  have step := Machine.stepAt_last ran (Machine.withHistory_step_iff.mpr ⟨machineStep, rfl⟩)
  obtain ⟨wait, due, _, most⟩ := law _ _ _ _ step _ _ ended (of_decide_eq_true sleeping)
  have fresh : before.2.counted servedLong before.1 (some Sample.reset) = 0 := if_pos long
  rw [fresh, backoffBase_zero] at most
  rw [now] at due
  simp only [INITIAL_MS] at most
  omega

end DicodeRelay.Client
