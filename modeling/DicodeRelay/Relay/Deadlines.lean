import DicodeRelay.Relay.LiveWork
import DicodeRelay.Relay.Silence

/-!
Contract: when a forward is settled at the latest.

Owns:
- that every call of `forward` has an id of its own, and its request timer the due
  time of that call;
- that a forward is settled by the timeout after its call, and not timed out before.

Does not own: which answer settles it.
-/

namespace DicodeRelay.Relay

open DicodeRelay.Lib DicodeRelay.Shared

namespace RelayServer

variable {server : RelayServer} {events : List Event} {s s' : State} {e : Event}

/-! ### Calls -/

theorem fresh_of_call (after : server.step s e = some s') {id : String}
    (call : e.callId = some id) : s.issued.get id = none := by
  cases e with
  | forward uuid method path headers body other bufferedAmount =>
      obtain rfl := Option.some.inj call
      simp only [step, Option.ite_none_right_eq_some, Option.isNone_iff_eq_none] at after
      exact after.1
  | _ => contradiction

/-- The id of a call is taken from then on. -/
theorem issued_of_call {earlier : List Event} {t t' : State}
    (step : server.machine.StepAt events earlier t e t') {id : String}
    (call : e.callId = some id) (ran : server.machine.run events = some s) :
    s.issued.get id ≠ none := by
  have taken : t'.issued.get id ≠ none := (server.book_stepAt step).called call
  refine step.persists (P := fun s => s.issued.get id ≠ none) taken ?_ ran
  intro _ _ _ _ reached issued after
  exact (server.book_step (server.consistent_run reached) after).issued issued

/-- No two calls have one id. -/
theorem call_unique {earlier later : List Event} {t t' u u' : State} {f : Event}
    (step : server.machine.StepAt events earlier t e t')
    (step' : server.machine.StepAt events later u f u') {id : String}
    (call : e.callId = some id) (call' : f.callId = some id) : earlier = later := by
  have apart : ∀ {a b : List Event} {t t' u u' : State} {e f : Event},
      server.machine.StepAt events a t e t' → server.machine.StepAt events b u f u' →
      e.callId = some id → f.callId = some id → ¬ a.length < b.length := by
    intro a b t t' u u' e f first second called called' shorter
    have inside := first.before_of_length_lt second shorter
    exact issued_of_call inside called second.before (fresh_of_call second.after called')
  apply step.earlier_eq_of_length_eq step'
  have notBefore := apart step step' call call'
  have notAfter := apart step' step call' call
  omega

/-! ### Request timers -/

theorem requestTimers_forward (server : RelayServer) (s : State) (uuid method path : String)
    (headers : Headers) (body : Bytes) (id : String) (bufferedAmount : Nat) :
    (server.forward (s.issue id uuid) uuid method path headers body id
          bufferedAmount).requestTimers = s.requestTimers ∨
      (server.forward (s.issue id uuid) uuid method path headers body id
          bufferedAmount).requestTimers =
        s.requestTimers.start (s.now + timerDelay server.requestTimeoutMs) id := by
  rcases server.forward_cases s uuid method path headers body id bufferedAmount with
    ⟨error, rejected⟩ | ⟨client, present, unsaturated, room⟩
  · rw [rejected]
    exact Or.inl rfl
  · rw [server.forward_of_room present unsaturated room]
    exact Or.inr (congrArg Book.requestTimers (server.book_sendServerMessage _ _ _))

theorem late_of_requestTimer {timer due : Nat} {id : String}
    (after : server.step s (.requestTimer timer) = some s')
    (armed : s.requestTimers.get timer = some ⟨due, id⟩) : due ≤ s.now := by
  simp only [step, Option.map_eq_some_iff] at after
  obtain ⟨other, fires, _⟩ := after
  obtain ⟨time, found, late⟩ := State.dueTimer_late fires
  rw [armed] at found
  cases found
  exact late

/-- A request timer that runs after an event ran before it, or the event is the call
that started it. -/
theorem requestTimer_step (consistent : s.book.Consistent server.maxPendingPerClient)
    (after : server.step s e = some s') {timer due : Nat} {id : String}
    (armed : s'.requestTimers.get timer = some ⟨due, id⟩) :
    s.requestTimers.get timer = some ⟨due, id⟩ ∨
      (e.callId = some id ∧ due = s.now + timerDelay server.requestTimeoutMs) := by
  have move := server.book_step consistent after
  have cleared : ∀ {handle : Nat},
      (s.requestTimers.clear handle).get timer = some ⟨due, id⟩ →
        s.requestTimers.get timer = some ⟨due, id⟩ := by
    intro handle running
    rw [Timers.get_clear] at running
    split at running
    · contradiction
    · exact running
  have called : ∀ {uuid method path : String} {headers : Headers} {body : Bytes} {other : String}
      {bufferedAmount : Nat}, e = .forward uuid method path headers body other bufferedAmount →
      s.requestTimers.get timer = some ⟨due, id⟩ ∨
        (e.callId = some id ∧ due = s.now + timerDelay server.requestTimeoutMs) := by
    rintro uuid method path headers body other bufferedAmount rfl
    obtain rfl := step_forward after
    rcases server.requestTimers_forward s uuid method path headers body other bufferedAmount with
      same | started
    · rw [same] at armed
      exact Or.inl armed
    · rw [started, Timers.get_start] at armed
      split at armed
      · cases armed
        exact Or.inr ⟨rfl, rfl⟩
      · exact Or.inl armed
  have armedBook : s'.book.requestTimers.get timer = some ⟨due, id⟩ := armed
  have consistent' := move.consistent consistent
  generalize s'.book = book at move armedBook consistent'
  cases move with
  | quiet => exact Or.inl armedBook
  | refused => exact called rfl
  | forwarded => exact called rfl
  | responded => exact Or.inl (cleared armedBook)
  | timedOut => exact Or.inl (cleared armedBook)
  | closed =>
      obtain ⟨req, present, _⟩ := (consistent'.timed timer id).mp ⟨due, armedBook⟩
      contradiction

/-- Every armed request timer is one of a call, and due a timeout after it. -/
theorem due_run (ran : server.machine.run events = some s) :
    ∀ timer due id, s.requestTimers.get timer = some ⟨due, id⟩ →
      ∃ earlier t e t', server.machine.StepAt events earlier t e t' ∧ e.callId = some id ∧
        due = t.now + timerDelay server.requestTimeoutMs := by
  refine Machine.run_invariant (P := fun events s => ∀ timer due id,
    s.requestTimers.get timer = some ⟨due, id⟩ →
      ∃ earlier t e t', server.machine.StepAt events earlier t e t' ∧ e.callId = some id ∧
        due = t.now + timerDelay server.requestTimeoutMs) ?_ ?_ ran
  · intro timer due id armed
    contradiction
  · intro events s e s' before holds after timer due id armed
    rcases requestTimer_step (server.consistent_run before) after armed with old | ⟨call, started⟩
    · obtain ⟨earlier, t, f, t', step, call, equal⟩ := holds timer due id old
      exact ⟨earlier, t, f, t', step.extend, call, equal⟩
    · exact ⟨events, s, e, s', Machine.stepAt_last before after, call, started⟩

/-- No request timer is overdue. -/
theorem requestTimers_punctual {lag : Nat} (ran : server.machine.run events = some s)
    (onTime : server.machine.Meets (OnTime lag) events) : s.requestTimers.Punctual s.now lag := by
  refine Machine.run_invariant_of_meets (P := fun _ s => s.requestTimers.Punctual s.now lag)
    (Timers.Punctual.empty _ _) ?_ ran onTime
  intro events s e s' before punctual onTime after timer t armed
  have move := server.pulse_step after
  rcases requestTimer_step (server.consistent_run before) after armed with old | ⟨call, started⟩
  · by_cases ticks : ∃ ms, e = .tick ms
    · obtain ⟨ms, rfl⟩ := ticks
      obtain rfl := Option.some.inj after
      exact (onTime ms rfl).2.2 timer t old
    · have stopped : s'.now = s.now := move.now_eq fun ms same => ticks ⟨ms, same⟩
      rw [stopped]
      exact punctual timer t old
  · have stopped : s'.now = s.now := move.now_eq fun ms tick => by
      rw [tick] at call
      contradiction
    rw [stopped, started]
    omega

end RelayServer

/-- When no timer fires later than `lag` after it is due, a forward is settled at the
latest a request timeout and `lag` after its call, exactly once; and its own timer does
not fire before the timeout is over. -/
theorem forward_settles_in_time (server : RelayServer) {lag : Nat} {events : List Event} {s : State}
    (ran : server.machine.run events = some s)
    (onTime : server.machine.Meets (OnTime lag) events) {earlier : List Event} {t t' : State}
    {e : Event} (step : server.machine.StepAt events earlier t e t') {id : String}
    (call : e.callId = some id) :
    (t.now + timerDelay server.requestTimeoutMs + lag < s.now → s.settlements id = 1) ∧
      ∀ later u u' timer due, server.machine.StepAt events later u (.requestTimer timer) u' →
        u.requestTimers.get timer = some ⟨due, id⟩ →
          t.now + timerDelay server.requestTimeoutMs ≤ u.now ∧
            u.now ≤ t.now + timerDelay server.requestTimeoutMs + lag := by
  -- The timer of the id is the one its call has started.
  have own : ∀ {inner : List Event} {u : State} {timer due : Nat}, inner <+: events →
      server.machine.run inner = some u → u.requestTimers.get timer = some ⟨due, id⟩ →
      due = t.now + timerDelay server.requestTimeoutMs := by
    intro inner u timer due within reached armed
    obtain ⟨rest, rfl⟩ := within
    obtain ⟨before, v, f, v', started, call', equal⟩ :=
      RelayServer.due_run reached timer due id armed
    have same := RelayServer.call_unique started.extend step call' call
    have sameState : v = t := by
      have reachedHere := started.before
      rw [same] at reachedHere
      exact Option.some.inj (reachedHere.symm.trans step.before)
    rw [equal, sameState]
  constructor
  · intro passed
    have member : e ∈ events := by
      obtain ⟨later, rfl⟩ := step.split
      simp
    rw [server.settlements_of_call ran member call]
    split
    · rfl
    · rename_i pending
      obtain ⟨req, present⟩ := Option.ne_none_iff_exists'.mp pending
      obtain ⟨due, armed⟩ :=
        ((server.consistent_run ran).timed req.timer id).mpr ⟨req, present, rfl⟩
      have late := RelayServer.requestTimers_punctual ran onTime req.timer _ armed
      have equal := own (List.prefix_refl _) ran armed
      dsimp only at late
      omega
  · intro later u u' timer due fires armed
    have within : later <+: events := by
      obtain ⟨rest, rfl⟩ := fires.split
      exact List.prefix_append _ _
    have equal := own within fires.before armed
    have inTime : server.machine.Meets (OnTime lag) later := by
      obtain ⟨rest, rfl⟩ := within
      exact onTime.of_append
    have late := RelayServer.requestTimers_punctual fires.before inTime timer _ armed
    have after : server.step u (.requestTimer timer) = some u' := fires.after
    have due' := RelayServer.late_of_requestTimer after armed
    dsimp only at late
    omega

/-- Daemon A does not answer, and the timer of the forward fires as it is due. -/
def Sample.unanswered : List Event :=
  Sample.admission ++ [Sample.forwardA] ++ [.tick 30000] ++ [.requestTimer 0]

/-- The forward is made at time zero, and no timer is due before its own. -/
def Sample.Waiting (s : State) : Prop :=
  s.now = 0 ∧ (s.pingTimers.Punctual 30000 0 ∧ s.pongTimers.Punctual 30000 0 ∧
    s.requestTimers.Punctual 30000 0) ∧
      s.requestTimers.get 0 = some ⟨30000, Sample.requestId⟩

instance : DecidablePred Sample.Waiting := fun _ => inferInstanceAs (Decidable (_ ∧ _))

theorem Sample.waiting : (Sample.server.machine.run (Sample.admission ++ [Sample.forwardA])).any
    (fun s => decide (Sample.Waiting s)) = true := by
  rw [Machine.run_append, Sample.run_admission, Option.bind_some]
  decide +kernel

theorem forward_settles_in_time_unanswered : ∃ t t' u u',
    Sample.server.machine.StepAt Sample.unanswered Sample.admission t Sample.forwardA t' ∧
      Sample.server.machine.StepAt Sample.unanswered
        (Sample.admission ++ [Sample.forwardA] ++ [.tick 30000]) u (.requestTimer 0) u' ∧
      t.now + timerDelay 30000 ≤ u.now ∧ u.now ≤ t.now + timerDelay 30000 + 0 := by
  obtain ⟨waiting, called, facts⟩ := (Option.any_eq_true _ _).mp Sample.waiting
  obtain ⟨clock, punctual, armed⟩ : Sample.Waiting waiting := of_decide_eq_true facts
  obtain ⟨t, before, after⟩ := Machine.run_concat_inv called
  have ticked : Sample.server.machine.step waiting (.tick 30000) =
      some { waiting with now := waiting.now + 30000 } := rfl
  have waited := Machine.run_concat_of called ticked
  obtain ⟨late, fired⟩ : ∃ late,
      Sample.server.machine.step { waiting with now := waiting.now + 30000 } (.requestTimer 0) =
        some late := by
    simp [RelayServer.machine, RelayServer.step, State.dueTimer, armed, clock]
  have ran := Machine.run_concat_of waited fired
  have still : ∀ {s : State} {e : Event}, (∀ ms, e ≠ .tick ms) → OnTime 0 s e :=
    fun other ms tick => absurd tick (other ms)
  have inTime : OnTime 0 waiting (.tick 30000) := by
    intro ms tick
    cases tick
    rw [clock]
    exact punctual
  have onTime : Sample.server.machine.Meets (OnTime 0) Sample.unanswered :=
    ((Sample.onTime_admission.concat before (still (by simp [Sample.forwardA]))).concat called
      inTime).concat waited (still (by simp))
  have call : Sample.server.machine.StepAt Sample.unanswered Sample.admission t Sample.forwardA
      waiting := (Machine.stepAt_last before after).extend.extend
  have fires := Machine.stepAt_last waited fired
  have settled := forward_settles_in_time Sample.server ran onTime call rfl
  exact ⟨_, _, _, _, call, fires, settled.2 _ _ _ _ _ fires armed⟩

end DicodeRelay.Relay
