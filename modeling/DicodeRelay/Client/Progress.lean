import DicodeRelay.Client.BackoffLaw

/-!
Contract: how long a connection takes from one dial to the next.

Owns:
- punctual runs: code that can go on does so before time passes, and no timer fires
  later than a lag;
- the order of an attempt's phases, each with the timer that bounds it;
- that a connection dials again within one cycle of these timers, unless it serves,
  waits for its consumer or is done.

Does not own: how long a socket serves, or how long the consumer takes.
-/

namespace DicodeRelay.Client

open DicodeRelay.Lib DicodeRelay.Shared

/-! ### Punctual runs -/

/-- `run` goes on in a microtask. -/
def Phase.immediate : Phase → Bool
  | .looping => true
  | .dialed => true
  | .unwinding _ => true
  | .ended _ => true
  | _ => false

/-- The phases between one dial and the next that wait for nobody but the timers. -/
def Phase.underway : Phase → Bool
  | .serving => false
  | .persisting _ => false
  | .done => false
  | _ => true

/-- When the timer of the phase is due. -/
def Phase.due : Phase → Option Nat
  | .dialing due => some due
  | .handshaking due => some due
  | .sleeping due => some due
  | _ => none

/-- No time passes before code that can go on does, and no timer fires later than
`lag`. -/
def Punctual (lag : Nat) (s : State) : Event → Prop
  | .tick ms => s.phase.immediate = false ∧ ∀ due, s.phase.due = some due → s.now + ms ≤ due + lag
  | _ => True

instance (lag : Nat) (s : State) (e : Event) : Decidable (Punctual lag s e) :=
  match e with
  | .tick ms => decidable_of_iff
      (s.phase.immediate = false ∧ s.phase.due.all (fun due => s.now + ms ≤ due + lag) = true)
      (by simp only [Punctual, Option.all_eq_true, decide_eq_true_eq])
  | .socket _ _ | .peerClosing _ | .dialTimer | .handshakeTimer | .sleepTimer | .resume
  | .persisted _ | .backOff _ | .dispatched _ _ | .abort => isTrue trivial

/-- The longest backoff sleep. -/
def LONGEST_SLEEP_MS : Nat := 72000

def ConnectionOptions.dialDelay (opts : ConnectionOptions) : Nat :=
  timerDelay (opts.dialTimeoutMs.getD DIAL_TIMEOUT_MS)

def ConnectionOptions.handshakeDelay (opts : ConnectionOptions) : Nat :=
  timerDelay (opts.handshakeTimeoutMs.getD HANDSHAKE_TIMEOUT_MS)

/-- The longest time from one dial to the next. -/
def ConnectionOptions.cycle (opts : ConnectionOptions) (lag : Nat) : Nat :=
  opts.dialDelay + lag + (opts.handshakeDelay + lag) + (LONGEST_SLEEP_MS + lag)

/-! ### The order of the phases -/

/-- No wait is longer than the cap with its jitter. -/
theorem nextBackoff_le (cur : Nat) (draw : Rat) :
    (nextBackoff cur draw).1 ≤ LONGEST_SLEEP_MS := by
  have capped : min ((cur : Rat) * (1 + (draw * 2 - 1) * JITTER)) (MAX_MS * (1 + JITTER)) ≤
      72000 := by
    apply (min_le_right _ _).trans
    norm_num [MAX_MS, JITTER]
  have floor : (nextBackoff cur draw).1 < 72001 := by
    simp only [nextBackoff, roundHalfUp]
    rw [Rat.floor_lt_iff]
    push_cast
    linarith
  simp only [LONGEST_SLEEP_MS]
  omega

theorem timerDelay_le {ms : Int} {most : Nat} (positive : 1 ≤ most) (bound : ms ≤ most) :
    timerDelay ms ≤ most := by
  unfold timerDelay
  split <;> omega

/-- Where the code between two awaits leads, when the clock shows `now`. -/
inductive Onward (opts : ConnectionOptions) (now : Nat) : Phase → Phase → Prop where
  | stays (phase : Phase) : Onward opts now phase phase
  | opened (due : Nat) : Onward opts now (.dialing due) .dialed
  | dialFailed (due : Nat) (outcome : Option RunError) :
      Onward opts now (.dialing due) (.ended outcome)
  | greeted : Onward opts now .dialed (.handshaking (now + opts.handshakeDelay))
  | handshakeFailed (due : Nat) (outcome : Option RunError) :
      Onward opts now (.handshaking due) (.unwinding outcome)
  | unwound (outcome : Option RunError) : Onward opts now (.unwinding outcome) (.ended outcome)
  | slept (outcome : Option RunError) {wait : Nat} (bound : wait ≤ LONGEST_SLEEP_MS) :
      Onward opts now (.ended outcome) (.sleeping (now + wait))
  | sleepless (outcome : Option RunError) : Onward opts now (.ended outcome) .looping
  | woken (due : Nat) : Onward opts now (.sleeping due) .looping
  /-- The connection serves, waits for its consumer or is done, before or after. -/
  | aside {phase phase' : Phase} (aside : phase.underway = false ∨ phase'.underway = false)
      (timerless : phase'.due = none) : Onward opts now phase phase'

/-- The sleep after an attempt. -/
theorem backOff_onward (opts : ConnectionOptions) (s : State) (outcome : Option RunError)
    (draw : Rat) : Onward opts s.now (.ended outcome) (s.backOff outcome draw).phase := by
  have clock := (endAttempt_ledger s outcome).2
  simp only [State.backOff, State.sleep]
  split
  · exact .sleepless outcome
  · rw [← clock]
    apply Onward.slept
    exact timerDelay_le (by decide) (nextBackoff_le (s.endAttempt outcome).backoff draw)

theorem Move.onward {opts : ConnectionOptions} {s s' : State} {e : Event} {phase : Phase}
    {signal : AbortSignal} {f : Socket → Socket} {new : List Request}
    (move : Move opts s e phase signal f new) (after : opts.step s e = some s')
    (moved : s'.phase = phase) : Onward opts s.now s.phase s'.phase := by
  rw [moved]
  cases move with
  | opened dialing => exact dialing ▸ .opened _
  | dialFailed dialing => exact dialing ▸ .dialFailed _ _
  | serveEnded serving => exact .aside (Or.inl (by rw [serving]; rfl)) rfl
  | dialTimeout dialing => exact dialing ▸ .dialFailed _ _
  | handshakeTimeout handshaking => exact handshaking ▸ .handshakeFailed _ _
  | woken sleeping => exact sleeping ▸ .woken _
  | stopped => exact .aside (Or.inr rfl) rfl
  | greeted due dialed =>
      simp only [ConnectionOptions.step, ConnectionOptions.resume, dialed,
        Option.some.injEq] at after
      have clock := ((Aside.refl s).beginHandshake opts).now
      have phase : (opts.beginHandshake s).phase =
          .handshaking ((opts.beginHandshake s).now + opts.handshakeDelay) := rfl
      rw [← moved, ← after, dialed, phase, clock]
      exact .greeted
  | handshakeFailed err handshaking => exact handshaking ▸ .handshakeFailed _ _
  | announcing => exact .aside (Or.inr rfl) rfl
  | connected => exact .aside (Or.inr rfl) rfl
  | connectedLate enters =>
      cases enters with
      | announced persisting => exact .aside (Or.inl (by rw [persisting]; rfl)) rfl
      | keyless handshaking => exact handshaking ▸ .handshakeFailed _ _
  | consumerFailed message persisting => exact .aside (Or.inl (by rw [persisting]; rfl)) rfl
  | unwound unwinding => exact unwinding ▸ .unwound _
  | slept draw due ended =>
      simp only [ConnectionOptions.step, ended, Option.ite_none_right_eq_some,
        Option.some.injEq] at after
      rw [← moved, ← after.2, ended]
      exact backOff_onward opts s _ draw
  | sleepless draw ended => exact ended ▸ .sleepless _
  | abortedDialing dialing => exact dialing ▸ .dialFailed _ _
  | abortedServing serving => exact .aside (Or.inl (by rw [serving]; rfl)) rfl
  | abortedSleeping sleeping => exact sleeping ▸ .woken _
  | _ => exact .stays _

/-- What one event does to the clock and the phase. -/
inductive Advance (opts : ConnectionOptions) (s : State) (e : Event) (s' : State) : Prop where
  | ticked {ms : Nat} (tick : e = .tick ms) (equal : s' = { s with now := s.now + ms })
  | started (looping : s.phase = .looping) (equal : s' = opts.startAttempt s)
  | went (now : s'.now = s.now) (attempt : s'.attempt = s.attempt)
      (onward : Onward opts s.now s.phase s'.phase)

theorem advance_of_step {opts : ConnectionOptions} {s s' : State} {e : Event}
    (coherent : Coherent s) (after : opts.step s e = some s') : Advance opts s e s' := by
  have clock : (∃ ms, e = .tick ms ∧ s' = { s with now := s.now + ms }) ∨
      (s.phase = .looping ∧ s' = opts.startAttempt s) ∨ s'.now = s.now := by
    cases ledger_of_step opts after with
    | ticked tick equal => exact Or.inl ⟨_, tick, equal⟩
    | started _ looping _ equal => exact Or.inr (Or.inl ⟨looping, equal⟩)
    | aside aside => exact Or.inr (Or.inr aside.now)
    | connected _ equal => exact Or.inr (Or.inr (equal ▸ (clock_connect opts s _).1))
    | @backedOff outcome draw _ _ _ equal =>
        refine Or.inr (Or.inr ?_)
        rw [equal, State.backOff]
        exact ((Aside.refl _).sleep _).now.trans (endAttempt_ledger s outcome).2
  rcases clock with ⟨ms, tick, equal⟩ | ⟨looping, equal⟩ | still
  · exact .ticked tick equal
  · exact .started looping equal
  · cases stepCase_of_step opts coherent after with
    | unattended _ unattended =>
        refine .went still unattended.attempt ?_
        rw [unattended.phase]
        exact .stays _
    | started _ looping _ equal => exact .started looping equal
    | moved move moved =>
        exact .went still moved.attempt (move.onward after moved.phase)

/-! ### One cycle -/

/-- How long the timer of the phase runs at most. -/
def ConnectionOptions.delay (opts : ConnectionOptions) : Phase → Nat
  | .dialing _ => opts.dialDelay
  | .handshaking _ => opts.handshakeDelay
  | _ => LONGEST_SLEEP_MS

/-- What is left of a cycle after the timer of the phase, or from now on where it has
none. -/
def ConnectionOptions.rest (opts : ConnectionOptions) (lag : Nat) : Phase → Nat
  | .dialing _ => lag + (opts.handshakeDelay + lag) + (LONGEST_SLEEP_MS + lag)
  | .dialed => opts.handshakeDelay + lag + (LONGEST_SLEEP_MS + lag)
  | .handshaking _ => lag + (LONGEST_SLEEP_MS + lag)
  | .unwinding _ => LONGEST_SLEEP_MS + lag
  | .ended _ => LONGEST_SLEEP_MS + lag
  | .sleeping _ => lag
  | _ => 0

/-- By when the connection begins its next dial. -/
def ConnectionOptions.redialBy (opts : ConnectionOptions) (lag : Nat) (s : State) : Nat :=
  s.phase.due.getD s.now + opts.rest lag s.phase

/-- The timer of the phase runs no longer than its delay, and is not overdue by more
than `lag`. -/
structure Timed (opts : ConnectionOptions) (lag : Nat) (s : State) : Prop where
  late : ∀ due, s.phase.due = some due → s.now ≤ due + lag
  set : ∀ due, s.phase.due = some due → due ≤ s.now + opts.delay s.phase

section

variable {opts : ConnectionOptions} {lag : Nat} {s s' : State} {e : Event}

theorem Timed.of_due {due : Nat} (armed : s.phase.due = some due) (late : s.now ≤ due + lag)
    (set : due ≤ s.now + opts.delay s.phase) : Timed opts lag s := by
  constructor <;>
  · intro other same
    obtain rfl := Option.some.inj (armed.symm.trans same)
    assumption

theorem Timed.of_timerless (timerless : s.phase.due = none) : Timed opts lag s := by
  constructor <;> simp [timerless]

theorem Onward.timed (onward : Onward opts s.now s.phase s'.phase) (now : s'.now = s.now)
    (timed : Timed opts lag s) : Timed opts lag s' := by
  generalize before : s.phase = phase at onward
  generalize after : s'.phase = phase' at onward
  cases onward with
  | stays =>
      have same : s'.phase = s.phase := after.trans before.symm
      constructor
      · rw [same, now]
        exact timed.late
      · rw [same, now]
        exact timed.set
  | greeted =>
      have armed : s'.phase.due = some (s.now + opts.handshakeDelay) := by
        rw [after]
        rfl
      apply Timed.of_due armed
      · omega
      · rw [after, now]
        exact Nat.le_refl _
  | @slept outcome wait bound =>
      have armed : s'.phase.due = some (s.now + wait) := by
        rw [after]
        rfl
      apply Timed.of_due armed
      · omega
      · rw [after, now]
        exact Nat.add_le_add_left bound _
  | aside _ timerless => exact .of_timerless (by rw [after, timerless])
  | _ => exact .of_timerless (by rw [after]; rfl)

theorem Timed.step (timed : Timed opts lag s) (coherent : Coherent s)
    (punctual : Punctual lag s e) (after : opts.step s e = some s') : Timed opts lag s' := by
  cases advance_of_step coherent after with
  | @ticked ms tick equal =>
      subst tick equal
      constructor
      · exact punctual.2
      · intro due same
        have set := timed.set due same
        dsimp only at same ⊢
        omega
  | started looping equal =>
      subst equal
      have armed : (opts.startAttempt s).phase.due = some (s.now + opts.dialDelay) := rfl
      apply Timed.of_due armed
      · change s.now ≤ s.now + opts.dialDelay + lag
        omega
      · exact Nat.le_refl _
  | went now _ onward => exact onward.timed now timed

theorem Timed.now_le (timed : Timed opts lag s) : s.now ≤ opts.redialBy lag s := by
  unfold ConnectionOptions.redialBy
  cases due : s.phase.due with
  | none => exact Nat.le_add_right _ _
  | some due' =>
      have late := timed.late due' due
      have least : lag ≤ opts.rest lag s.phase := by
        cases phase : s.phase with
        | dialing => simp only [ConnectionOptions.rest]; omega
        | handshaking => simp only [ConnectionOptions.rest]; omega
        | sleeping => exact Nat.le_refl _
        | _ => simp [phase, Phase.due] at due
      rw [Option.getD_some]
      omega

theorem Timed.redialBy_le (timed : Timed opts lag s) :
    opts.redialBy lag s ≤ s.now + opts.cycle lag := by
  have set := timed.set
  unfold ConnectionOptions.redialBy ConnectionOptions.cycle
  cases phase : s.phase with
  | dialing due =>
      have set := set due (by rw [phase]; rfl)
      simp only [phase, ConnectionOptions.delay] at set
      simp only [Phase.due, ConnectionOptions.rest, Option.getD_some]
      omega
  | handshaking due =>
      have set := set due (by rw [phase]; rfl)
      simp only [phase, ConnectionOptions.delay] at set
      simp only [Phase.due, ConnectionOptions.rest, Option.getD_some]
      omega
  | sleeping due =>
      have set := set due (by rw [phase]; rfl)
      simp only [phase, ConnectionOptions.delay] at set
      simp only [Phase.due, ConnectionOptions.rest, Option.getD_some]
      omega
  | _ =>
      simp only [Phase.due, ConnectionOptions.rest, Option.getD_none]
      omega

/-- While the connection is underway to its next dial, no event puts the dial off. -/
theorem Onward.redialBy_le (onward : Onward opts s.now s.phase s'.phase) (now : s'.now = s.now)
    (timed : Timed opts lag s) (underway : s.phase.underway = true)
    (underway' : s'.phase.underway = true) : opts.redialBy lag s' ≤ opts.redialBy lag s := by
  have late := timed.late
  unfold ConnectionOptions.redialBy
  rw [now]
  generalize s.phase = phase at onward late underway ⊢
  generalize s'.phase = phase' at onward underway' ⊢
  cases onward with
  | stays => exact Nat.le_refl _
  | aside aside => simp [underway, underway'] at aside
  | opened due =>
      have late := late due rfl
      simp only [Phase.due, ConnectionOptions.rest, Option.getD_some, Option.getD_none]
      omega
  | dialFailed due outcome =>
      have late := late due rfl
      simp only [Phase.due, ConnectionOptions.rest, Option.getD_some, Option.getD_none]
      omega
  | handshakeFailed due outcome =>
      have late := late due rfl
      simp only [Phase.due, ConnectionOptions.rest, Option.getD_some, Option.getD_none]
      omega
  | woken due =>
      have late := late due rfl
      simp only [Phase.due, ConnectionOptions.rest, Option.getD_some, Option.getD_none]
      omega
  | _ =>
      simp only [Phase.due, ConnectionOptions.rest, Option.getD_some, Option.getD_none]
      omega

theorem redialBy_step (timed : Timed opts lag s) (coherent : Coherent s)
    (punctual : Punctual lag s e) (after : opts.step s e = some s')
    (underway : s.phase.underway = true) (underway' : s'.phase.underway = true)
    (undialled : ¬ s.attempt < s'.attempt) :
    s'.attempt = s.attempt ∧ opts.redialBy lag s' ≤ opts.redialBy lag s := by
  cases advance_of_step coherent after with
  | @ticked ms tick equal =>
      subst tick equal
      refine ⟨rfl, ?_⟩
      -- Time passes only while a timer runs.
      cases due : s.phase.due with
      | none =>
          have waiting := punctual.1
          cases phase : s.phase <;> simp [phase, Phase.due, Phase.immediate, Phase.underway]
            at due waiting underway
      | some due' => simp [ConnectionOptions.redialBy, due]
  | started _ equal =>
      subst equal
      exact absurd (Nat.lt_succ_self s.attempt) undialled
  | went now attempt onward =>
      exact ⟨attempt, onward.redialBy_le now timed underway underway'⟩

end

theorem timed_run (opts : ConnectionOptions) {lag : Nat} {events : List Event} {s : State}
    (ran : opts.machine.run events = some s) (punctual : opts.machine.Meets (Punctual lag) events) :
    Timed opts lag s := by
  refine Machine.run_invariant_of_meets (P := fun _ s => Timed opts lag s)
    (.of_timerless rfl) ?_ ran punctual
  intro events s e s' before timed condition after
  exact timed.step (coherent_run opts before) condition after

/-- Over a stretch of a punctual run in which the connection is underway and does not
dial, its next dial is not put off. -/
theorem redialBy_stretch (opts : ConnectionOptions) {lag : Nat} {events more : List Event}
    {s s' : State} (ran : opts.machine.run events = some s)
    (ran' : opts.machine.run (events ++ more) = some s')
    (punctual : opts.machine.Meets (Punctual lag) (events ++ more))
    (stretch : ∀ middle u, middle <+: more → opts.machine.run (events ++ middle) = some u →
      u.phase.underway = true ∧ ¬ s.attempt < u.attempt) :
    s'.attempt = s.attempt ∧ opts.redialBy lag s' ≤ opts.redialBy lag s := by
  induction more using List.reverseRecOn generalizing s' with
  | nil =>
      rw [List.append_nil, ran] at ran'
      obtain rfl := Option.some.inj ran'
      exact ⟨rfl, Nat.le_refl _⟩
  | append_singleton more e inductionHypothesis =>
      have final := stretch _ s' List.prefix_rfl ran'
      rw [← List.append_assoc] at ran' punctual
      obtain ⟨u, before, after⟩ := Machine.run_concat_inv ran'
      obtain ⟨same, earlier⟩ := inductionHypothesis before punctual.of_append
        fun middle v within => stretch middle v (within.trans (List.prefix_append _ _))
      have underway := (stretch more u (List.prefix_append _ _) before).1
      obtain ⟨kept, later⟩ := redialBy_step (timed_run opts before punctual.of_append)
        (coherent_run opts before) (punctual _ _ _ _ (Machine.stepAt_last before after)) after
        underway final.1 (by rw [same]; exact final.2)
      exact ⟨kept.trans same, later.trans earlier⟩

/-- The events by which a connection goes on by itself. -/
inductive Own : Event → Prop where
  | resume : Own .resume
  | backOff (draw : Rat) : Own (.backOff draw)
  | dialTimer : Own .dialTimer
  | handshakeTimer : Own .handshakeTimer
  | sleepTimer : Own .sleepTimer

/-- Where time cannot pass punctually, the connection can go on. -/
theorem goes_on (opts : ConnectionOptions) (lag : Nat) {s : State}
    (underway : s.phase.underway = true)
    (stuck : ∀ ms, 0 < ms → ¬ Punctual lag s (.tick ms)) :
    ∃ e, Own e ∧ (opts.step s e).isSome = true := by
  have overdue : ∀ due, s.phase.due = some due → s.phase.immediate = false → due ≤ s.now := by
    intro due armed waiting
    by_contra early
    apply stuck 1 (Nat.le_refl 1)
    refine ⟨waiting, fun other same => ?_⟩
    obtain rfl := Option.some.inj (armed.symm.trans same)
    omega
  cases phase : s.phase with
  | looping => exact ⟨_, .resume, by simp [ConnectionOptions.step, ConnectionOptions.resume, phase]⟩
  | dialed => exact ⟨_, .resume, by simp [ConnectionOptions.step, ConnectionOptions.resume, phase]⟩
  | unwinding outcome =>
      exact ⟨_, .resume, by simp [ConnectionOptions.step, ConnectionOptions.resume, phase]⟩
  | ended outcome => exact ⟨_, .backOff 0, by simp [ConnectionOptions.step, phase]⟩
  | dialing due =>
      have passed := overdue due (by rw [phase]; rfl) (by rw [phase]; rfl)
      exact ⟨_, .dialTimer, by simp [ConnectionOptions.step, phase, passed]⟩
  | handshaking due =>
      have passed := overdue due (by rw [phase]; rfl) (by rw [phase]; rfl)
      exact ⟨_, .handshakeTimer, by simp [ConnectionOptions.step, phase, passed]⟩
  | sleeping due =>
      have passed := overdue due (by rw [phase]; rfl) (by rw [phase]; rfl)
      exact ⟨_, .sleepTimer, by simp [ConnectionOptions.step, phase, passed]⟩
  | _ => simp [phase, Phase.underway] at underway

/-- In every punctual run, from any state on: within one cycle of the dial timeout, the
handshake timeout and the longest sleep the connection dials again, unless it serves,
waits for its consumer or is done; and where time cannot pass, it can go on by itself. -/
theorem redials_within_cycle (opts : ConnectionOptions) {lag : Nat} {events more : List Event}
    {s s' : State} (ran : opts.machine.run events = some s)
    (ran' : opts.machine.run (events ++ more) = some s')
    (punctual : opts.machine.Meets (Punctual lag) (events ++ more)) :
    (s.now + opts.cycle lag < s'.now → ∃ middle u, middle <+: more ∧
      opts.machine.run (events ++ middle) = some u ∧
        (s.attempt < u.attempt ∨ u.phase.underway = false)) ∧
    (s.phase.underway = true → (∃ ms, 0 < ms ∧ Punctual lag s (.tick ms)) ∨
      ∃ e, Own e ∧ (opts.step s e).isSome = true) := by
  constructor
  · intro long
    by_contra never
    have stretch : ∀ middle u, middle <+: more → opts.machine.run (events ++ middle) = some u →
        u.phase.underway = true ∧ ¬ s.attempt < u.attempt := by
      intro middle u within reached
      constructor
      · by_contra left
        exact never ⟨middle, u, within, reached, Or.inr (Bool.eq_false_iff.mpr left)⟩
      · exact fun dialled => never ⟨middle, u, within, reached, Or.inl dialled⟩
    have kept := (redialBy_stretch opts ran ran' punctual stretch).2
    have soon := (timed_run opts ran punctual.of_append).redialBy_le
    have past := (timed_run opts ran' punctual).now_le
    omega
  · intro underway
    by_cases passes : ∃ ms, 0 < ms ∧ Punctual lag s (.tick ms)
    · exact Or.inl passes
    · refine Or.inr (goes_on opts lag underway fun ms positive holds => ?_)
      exact passes ⟨ms, positive, holds⟩

/-- The first dial times out. -/
def Sample.unreachable : List Event := [.resume, .tick 15000, .dialTimer, .backOff (1 / 2)]

/-- So do the five that follow, each after the next longer sleep. -/
def Sample.redials : List Event :=
  [1000, 2000, 4000, 8000, 16000].flatMap fun ms =>
    [.tick ms, .sleepTimer, .resume, .tick 15000, .dialTimer, .backOff (1 / 2)]

/-- From the first failed attempt on the relay stays out of reach, and the connection
dials a second time. -/
theorem redials_within_cycle_unreachable : ∃ s s' middle u,
    Sample.options.machine.run Sample.unreachable = some s ∧ s.attempt = 1 ∧
      s.phase.underway = true ∧
      Sample.options.machine.run (Sample.unreachable ++ Sample.redials) = some s' ∧
      s.now + Sample.options.cycle 0 < s'.now ∧
      middle <+: Sample.redials ∧
      Sample.options.machine.run (Sample.unreachable ++ middle) = some u ∧
      (s.attempt < u.attempt ∨ u.phase.underway = false) := by
  have punctual : Sample.options.machine.Meets (Punctual 0)
      (Sample.unreachable ++ Sample.redials) := Machine.meets_of_meetsFrom (by decide +kernel)
  have failed : ((Sample.options.machine.run Sample.unreachable).map fun s =>
      (s.attempt, s.now, s.phase.underway)) = some (1, 15000, true) := by decide +kernel
  have later : ((Sample.options.machine.run (Sample.unreachable ++ Sample.redials)).map
      State.now) = some 121000 := by decide +kernel
  obtain ⟨s, ran, here⟩ := Option.map_eq_some_iff.mp failed
  obtain ⟨s', ran', there⟩ := Option.map_eq_some_iff.mp later
  obtain ⟨attempt, now, underway⟩ : s.attempt = 1 ∧ s.now = 15000 ∧ s.phase.underway = true := by
    simpa using here
  have long : s.now + Sample.options.cycle 0 < s'.now := by
    rw [now, there]
    decide
  obtain ⟨middle, u, within, reached, redialled⟩ :=
    (redials_within_cycle Sample.options ran ran' punctual).1 long
  exact ⟨s, s', middle, u, ran, attempt, underway, ran', long, within, reached, redialled⟩

end DicodeRelay.Client
