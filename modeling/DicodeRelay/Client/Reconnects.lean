import DicodeRelay.Client.StatusFold
import Mathlib.Algebra.Order.BigOperators.Group.List

/-!
Contract: the listeners that reconnecting leaves on the abort signal.

Owns:
- the signal of a connection in every state: the listener of its phase, and those
  of the sleeps that have elapsed;
- each connection's own events among those of a client, and that they alone move
  it;
- in exactly which runs the reconnects leave the signal as they found it.

Does not own: what the listeners do.
-/

namespace DicodeRelay.Client

open DicodeRelay.Lib DicodeRelay.Shared

/-! ### The listeners of a phase -/

/-- No attempt is under way. -/
def Phase.betweenAttempts : Phase → Bool
  | .looping => true
  | .done => true
  | _ => false

/-- The listeners of the first `slept` backoff sleeps. -/
def leftBehind (slept : Nat) : List AbortListener :=
  (List.range slept).map fun earlier => .backoff (earlier + 1)

theorem leftBehind_succ (slept : Nat) :
    leftBehind (slept + 1) = leftBehind slept ++ [.backoff (slept + 1)] := by
  rw [leftBehind, List.range_succ, List.map_append]
  rfl

theorem mem_leftBehind {slept : Nat} {l : AbortListener} :
    l ∈ leftBehind slept ↔ ∃ earlier, l = .backoff (earlier + 1) ∧ earlier < slept := by
  simp only [leftBehind, List.mem_map, List.mem_range]
  exact ⟨fun ⟨earlier, within, equal⟩ => ⟨earlier, equal.symm, within⟩,
    fun ⟨earlier, equal, within⟩ => ⟨earlier, within, equal.symm⟩⟩

/-- The signal in a phase, after so many sleeps have elapsed: until the abort each of
them has left its listener; from then on there is at most that of the phase. -/
structure SignalLedger (attempt : Nat) (phase : Phase) (signal : AbortSignal) (slept : Nat) :
    Prop where
  started : phase.betweenAttempts = false → 0 < attempt
  counted : signal.aborted = false →
    attempt = slept + if phase.betweenAttempts then 0 else 1
  going : signal.aborted = false →
    signal.listeners = leftBehind slept ++ (phase.abortListener attempt).toList
  aborted : signal.aborted = true → signal.listeners.Sublist (phase.abortListener attempt).toList
  awake : signal.aborted = true → ∀ due, phase ≠ .sleeping due

namespace SignalLedger

variable {attempt slept : Nat} {phase next : Phase} {signal : AbortSignal}

/-- The phase takes its listener off as it ends. -/
theorem remove (ledger : SignalLedger attempt phase signal slept) {l : AbortListener}
    (own : phase.abortListener attempt = some l) (awake : ∀ n, l ≠ .backoff n)
    (within : phase.betweenAttempts = false) (within' : next.betweenAttempts = false)
    (unlistened : next.abortListener attempt = none) :
    SignalLedger attempt next (signal.remove l) slept where
  started _ := ledger.started within
  counted going := by
    rw [within', ← within]
    exact ledger.counted going
  going going := by
    have kept : (leftBehind slept).filter (· ≠ l) = leftBehind slept := by
      rw [List.filter_eq_self]
      intro other member
      obtain ⟨earlier, rfl, _⟩ := mem_leftBehind.mp member
      exact decide_eq_true fun same => awake _ same.symm
    rw [AbortSignal.remove, ledger.going going, own, unlistened, List.filter_append, kept]
    simp
  aborted aborted := by
    have listeners := (ledger.aborted aborted).filter (· ≠ l)
    rw [own] at listeners
    simpa [AbortSignal.remove, unlistened] using listeners
  awake _ due sleeping := by
    rw [sleeping] at unlistened
    contradiction

/-- Phases without a listener follow each other. -/
theorem keep (ledger : SignalLedger attempt phase signal slept)
    (unlistened : phase.abortListener attempt = none)
    (unlistened' : next.abortListener attempt = none)
    (same : next.betweenAttempts = phase.betweenAttempts) :
    SignalLedger attempt next signal slept where
  started within := ledger.started (same.symm.trans within)
  counted going := by
    rw [same]
    exact ledger.counted going
  going going := by
    rw [unlistened', ← unlistened]
    exact ledger.going going
  aborted aborted := by
    rw [unlistened', ← unlistened]
    exact ledger.aborted aborted
  awake _ due sleeping := by
    rw [sleeping] at unlistened'
    contradiction

/-- A phase attaches its listener as it begins. -/
theorem add (ledger : SignalLedger attempt phase signal slept)
    (unlistened : phase.abortListener attempt = none) (within : phase.betweenAttempts = false)
    (within' : next.betweenAttempts = false) {l : AbortListener}
    (own : next.abortListener attempt = some l)
    (awake : signal.aborted = true → ∀ due, next ≠ .sleeping due) :
    SignalLedger attempt next (signal.add l) slept where
  started _ := ledger.started within
  counted going := by
    rw [within', ← within]
    exact ledger.counted going
  going going := by
    rw [AbortSignal.add, ledger.going going, own, unlistened]
    simp
  aborted aborted := by
    have none := ledger.aborted aborted
    rw [unlistened] at none
    rw [AbortSignal.add, own, List.sublist_nil.mp none]
    exact List.Sublist.refl _
  awake := awake

/-- A sleep that elapses leaves its listener behind. -/
theorem wake {due : Nat} (ledger : SignalLedger attempt (.sleeping due) signal slept) :
    SignalLedger attempt .looping signal (slept + 1) where
  started within := absurd within.symm Bool.false_ne_true
  counted going := ledger.counted going
  going going := by
    have counted : attempt = slept + 1 := ledger.counted going
    rw [ledger.going going, leftBehind_succ, counted]
    simp [Phase.abortListener]
  aborted aborted := absurd rfl (ledger.awake aborted due)
  awake _ _ := by simp

/-- An abort during the backoff's preparation leaves no sleep. -/
theorem sleepless {outcome : Option RunError}
    (ledger : SignalLedger attempt (.ended outcome) signal slept)
    (aborted : signal.aborted = true) : SignalLedger attempt .looping signal slept where
  started within := absurd within.symm Bool.false_ne_true
  counted going := absurd (going.symm.trans aborted) Bool.false_ne_true
  going going := absurd (going.symm.trans aborted) Bool.false_ne_true
  aborted aborted := ledger.aborted aborted
  awake _ _ := by simp

/-- The abort runs every listener and takes it off. -/
theorem abort (ledger : SignalLedger attempt phase signal slept)
    (within : next.betweenAttempts = false → phase.betweenAttempts = false)
    (awake : ∀ due, next ≠ .sleeping due) : SignalLedger attempt next ⟨true, []⟩ slept where
  started between := ledger.started (within between)
  counted going := absurd going.symm Bool.false_ne_true
  going going := absurd going.symm Bool.false_ne_true
  aborted _ := List.nil_sublist _
  awake _ := awake

/-- The next attempt begins to dial. -/
theorem dial (ledger : SignalLedger attempt .looping signal slept)
    (going : signal.aborted = false) (due : Nat) :
    SignalLedger (attempt + 1) (.dialing due) (signal.add (.dial (attempt + 1))) slept where
  started _ := Nat.succ_pos _
  counted _ := congrArg (· + 1) (ledger.counted going)
  going _ := by
    rw [AbortSignal.add, ledger.going going]
    simp [Phase.abortListener]
  aborted aborted := absurd (going.symm.trans aborted) Bool.false_ne_true
  awake _ _ := by simp

/-- There is one listener for each sleep, and one more where a phase attaches one. -/
theorem length (ledger : SignalLedger attempt phase signal slept)
    (going : signal.aborted = false) :
    signal.listeners.length = slept + (phase.abortListener attempt).toList.length := by
  rw [ledger.going going, List.length_append, leftBehind, List.length_map, List.length_range]

/-- Where no sleep has elapsed, there is at most one listener. -/
theorem length_le (ledger : SignalLedger attempt phase signal 0) :
    signal.listeners.length ≤ 1 := by
  have own : (phase.abortListener attempt).toList.length ≤ 1 := by
    cases phase.abortListener attempt <;> simp
  by_cases aborted : signal.aborted = true
  · exact (ledger.aborted aborted).length_le.trans own
  · rw [ledger.length (Bool.eq_false_iff.mpr aborted), Nat.zero_add]
    exact own

end SignalLedger

/-! ### One connection -/

/-- A backoff sleep elapses. -/
def Event.elapses : Event → Bool
  | .sleepTimer => true
  | _ => false

theorem EntersServe.within {opts : ConnectionOptions} {s : State} {e : Event}
    (enters : EntersServe opts s e) : s.phase.betweenAttempts = false := by
  cases enters with
  | announced persisting => rw [persisting]; rfl
  | keyless handshaking => rw [handshaking]; rfl

theorem Move.signalLedger {opts : ConnectionOptions} {s : State} {e : Event} {phase : Phase}
    {signal : AbortSignal} {f : Socket → Socket} {new : List Request}
    (move : Move opts s e phase signal f new) {slept : Nat}
    (ledger : SignalLedger s.attempt s.phase s.signal slept) :
    SignalLedger s.attempt phase signal (slept + if e.elapses then 1 else 0) := by
  have entering : EntersServe opts s e → e.elapses = false := by
    rintro (_ | _) <;> rfl
  cases move with
  | quiet calm => cases calm <;> exact ledger
  | opened dialing =>
      rw [dialing] at ledger
      exact ledger.remove rfl (by simp) rfl rfl rfl
  | dialFailed dialing =>
      rw [dialing] at ledger
      exact ledger.remove rfl (by simp) rfl rfl rfl
  | buffered => exact ledger
  | adapterFailed => exact ledger
  | served => exact ledger
  | serveEnded serving =>
      rw [serving] at ledger
      exact ledger.remove rfl (by simp) rfl rfl rfl
  | peerClosing => exact ledger
  | dialTimeout dialing =>
      rw [dialing] at ledger
      exact ledger.remove rfl (by simp) rfl rfl rfl
  | handshakeTimeout handshaking =>
      rw [handshaking] at ledger
      exact ledger.keep rfl rfl rfl
  | woken sleeping =>
      rw [sleeping] at ledger
      exact ledger.wake
  | stopped looping =>
      rw [looping] at ledger
      exact ledger.keep rfl rfl rfl
  | greeted due dialed =>
      rw [dialed] at ledger
      exact ledger.keep rfl rfl rfl
  | handshakeFailed err handshaking =>
      rw [handshaking] at ledger
      exact ledger.keep rfl rfl rfl
  | announcing handshaking =>
      rw [handshaking] at ledger
      exact ledger.keep rfl rfl rfl
  | connected enters =>
      rw [entering enters]
      obtain ⟨_, unlistened, _⟩ := enters.shaped
      exact ledger.add unlistened enters.within rfl rfl (by simp)
  | connectedLate enters =>
      rw [entering enters]
      obtain ⟨_, unlistened, _⟩ := enters.shaped
      exact ledger.keep unlistened rfl enters.within.symm
  | consumerFailed message persisting =>
      rw [persisting] at ledger
      exact ledger.keep rfl rfl rfl
  | unwound unwinding =>
      rw [unwinding] at ledger
      exact ledger.keep rfl rfl rfl
  | slept draw due ended going =>
      rw [ended] at ledger
      exact ledger.add rfl rfl rfl rfl fun aborted =>
        absurd (going.symm.trans aborted) Bool.false_ne_true
  | sleepless draw ended aborted =>
      rw [ended] at ledger
      exact ledger.sleepless aborted
  | abortedDialing dialing =>
      rw [dialing] at ledger
      exact ledger.abort (fun _ => rfl) (by simp)
  | abortedServing serving =>
      rw [serving] at ledger
      exact ledger.abort (fun _ => rfl) (by simp)
  | abortedSleeping sleeping =>
      rw [sleeping] at ledger
      exact ledger.abort (fun _ => rfl) (by simp)
  | abortedElsewhere unlistened =>
      refine ledger.abort id fun due sleeping => ?_
      rw [sleeping] at unlistened
      contradiction

theorem signalLedger_step (opts : ConnectionOptions) {s s' : State} {e : Event} {slept : Nat}
    (coherent : Coherent s) (ledger : SignalLedger s.attempt s.phase s.signal slept)
    (after : opts.step s e = some s') :
    SignalLedger s'.attempt s'.phase s'.signal (slept + if e.elapses then 1 else 0) := by
  cases stepCase_of_step opts coherent after with
  | unattended idle unattended own present =>
      rw [unattended.attempt, unattended.phase, unattended.signal]
      rcases own with ⟨event, rfl⟩ | rfl <;> exact ledger
  | started resumed looping going equal =>
      subst equal resumed
      rw [looping] at ledger
      exact ledger.dial going _
  | moved move moved =>
      rw [moved.attempt, moved.phase, moved.signal]
      exact move.signalLedger ledger

/-- The signal in every state of every run. -/
theorem signalLedger_run (opts : ConnectionOptions) {events : List Event} {s : State}
    (ran : opts.machine.run events = some s) :
    SignalLedger s.attempt s.phase s.signal (events.countP Event.elapses) := by
  refine Machine.run_invariant
    (P := fun events s => SignalLedger s.attempt s.phase s.signal (events.countP Event.elapses))
    ⟨by simp [ConnectionOptions.machine, State.init, Phase.betweenAttempts], fun _ => rfl,
      fun _ => rfl, fun _ => List.nil_sublist _, by simp [ConnectionOptions.machine, State.init]⟩
    ?_ ran
  intro events s e s' ran ledger after
  rw [List.countP_append, List.countP_singleton]
  exact signalLedger_step opts (coherent_run opts ran) ledger after

/-- An iteration of the loop in the run: it begins in `s`, before the abort, and `s'`
is the state after its backoff sleep has elapsed. -/
structure Reconnect (opts : ConnectionOptions) (events : List Event) (s s' : State) : Prop where
  begins : ∃ earlier t, opts.machine.StepAt events earlier s .resume t
  looping : s.phase = .looping
  going : s.signal.aborted = false
  elapses : ∃ earlier t, opts.machine.StepAt events earlier t .sleepTimer s'
  same : s'.attempt = s.attempt + 1

theorem sleeping_of_sleepTimer (opts : ConnectionOptions) {s s' : State}
    (after : opts.step s .sleepTimer = some s') :
    ∃ due, s.phase = .sleeping due ∧ s' = s.enter .looping := by
  simp only [ConnectionOptions.step] at after
  split at after
  · rename_i due sleeping
    obtain ⟨_, woken⟩ := Option.ite_none_right_eq_some.mp after
    obtain rfl := Option.some.inj woken
    refine ⟨due, sleeping, ?_⟩
    rw [State.wake, sleeping, if_pos rfl]
  · contradiction

/-- Whatever its path, the iteration leaves the listener of its sleep. -/
theorem Reconnect.listeners {opts : ConnectionOptions} {events : List Event} {s s' : State}
    (reconnect : Reconnect opts events s s') :
    s'.signal.listeners = s.signal.listeners ++ [.backoff s'.attempt] ∧
      .backoff s'.attempt ∉ s.signal.listeners := by
  obtain ⟨earlier, _, begins⟩ := reconnect.begins
  obtain ⟨later, u, elapses⟩ := reconnect.elapses
  have before := signalLedger_run opts begins.before
  have asleep := signalLedger_run opts elapses.before
  obtain ⟨due, sleeping, rfl⟩ := sleeping_of_sleepTimer opts elapses.after
  rw [reconnect.looping] at before
  rw [sleeping] at asleep
  have going : u.signal.aborted = false :=
    Bool.eq_false_iff.mpr fun aborted => asleep.awake aborted due rfl
  have counted := before.counted reconnect.going
  have counted' := asleep.counted going
  have same : u.attempt = s.attempt + 1 := reconnect.same
  simp only [Phase.betweenAttempts, if_true, Bool.false_eq_true, if_false] at counted counted'
  have sleeps : later.countP Event.elapses = earlier.countP Event.elapses := by omega
  have left := before.going reconnect.going
  have left' := asleep.going going
  rw [sleeps] at left'
  have present : u.attempt = earlier.countP Event.elapses + 1 := by omega
  have attempt : (u.enter .looping).attempt = earlier.countP Event.elapses + 1 := present
  rw [attempt]
  constructor
  · rw [left]
    apply left'.trans
    rw [present]
    simp [Phase.abortListener]
  · rw [left]
    intro member
    simp only [Phase.abortListener, Option.toList_none, List.append_nil] at member
    obtain ⟨n, equal, within⟩ := mem_leftBehind.mp member
    have number := AbortListener.backoff.inj equal
    omega

/-- The attempt that is under way began in the run. -/
theorem begun_run (opts : ConnectionOptions) {events : List Event} {s : State}
    (ran : opts.machine.run events = some s) (started : 0 < s.attempt) :
    ∃ t, (∃ earlier t', opts.machine.StepAt events earlier t .resume t') ∧
      t.phase = .looping ∧ t.signal.aborted = false ∧ s.attempt = t.attempt + 1 := by
  have begun : 0 < s.attempt → opts.machine.Happened (fun t e t' => e = .resume ∧
      t.phase = .looping ∧ t.signal.aborted = false ∧ s.attempt = t.attempt + 1) events := by
    refine Machine.run_invariant (P := fun events s => 0 < s.attempt →
      opts.machine.Happened (fun t e _ => e = .resume ∧ t.phase = .looping ∧
        t.signal.aborted = false ∧ s.attempt = t.attempt + 1) events) ?_ ?_ ran
    · exact fun impossible => absurd impossible (Nat.lt_irrefl 0)
    · intro events s e s' ran begun after started
      have kept : s'.attempt = s.attempt → opts.machine.Happened (fun t e _ => e = .resume ∧
          t.phase = .looping ∧ t.signal.aborted = false ∧ s'.attempt = t.attempt + 1)
            (events ++ [e]) := by
        intro same
        rw [same] at started ⊢
        exact (begun started).extend [e]
      cases stepCase_of_step opts (coherent_run opts ran) after with
      | unattended idle unattended own present => exact kept unattended.attempt
      | moved move moved => exact kept moved.attempt
      | started resumed looping going equal =>
          subst equal
          exact Machine.happened_last ran after ⟨resumed, looping, going, rfl⟩
  obtain ⟨earlier, t, e, t', step, rfl, looping, going, number⟩ := begun started
  exact ⟨t, ⟨earlier, t', step⟩, looping, going, number⟩

theorem exists_reconnect {opts : ConnectionOptions} {events : List Event} {s : State}
    (ran : opts.machine.run events = some s) (elapsed : Event.sleepTimer ∈ events) :
    ∃ t t', Reconnect opts events t t' := by
  obtain ⟨earlier, later, rfl⟩ := List.append_of_mem elapsed
  obtain ⟨u, u', step⟩ := Machine.exists_stepAt ran List.prefix_rfl
  obtain ⟨due, sleeping, rfl⟩ := sleeping_of_sleepTimer opts step.after
  have asleep := signalLedger_run opts step.before
  rw [sleeping] at asleep
  obtain ⟨t, ⟨before, t', begins⟩, looping, going, same⟩ :=
    begun_run opts step.before (asleep.started rfl)
  exact ⟨t, _, ⟨before, t', step.within begins⟩, looping, going, ⟨earlier, u, step⟩, same⟩

/-! ### All connections -/

namespace RelayClient

/-- What happens to the connection to the URL. -/
def Event.own (url : String) : Event → Option Client.Event
  | .on other e => if other = url then some e else none
  | .abort => some .abort
  | .tick ms => some (.tick ms)

variable {client : RelayClient}

theorem conns_advance {s s' : State} {url : String} {e : Client.Event}
    (after : client.advance s url e = some s') :
    ∃ conn next, s.conns.get url = some conn ∧ (client.connection url).step conn e = some next ∧
      s'.conns = s.conns.set url next := by
  unfold advance at after
  split at after
  · contradiction
  · rename_i conn found
    obtain ⟨next, stepped, rfl⟩ := Option.map_eq_some_iff.mp after
    exact ⟨conn, next, found, stepped, (client.foldl_onStatus _ _).1⟩

/-- Every connection takes the step, once. -/
theorem conns_advanceAll {e : Client.Event} {urls : List String} (nodup : urls.Nodup)
    {s s' : State} (after : urls.foldlM (fun s url => client.advance s url e) s = some s')
    (url : String) :
    (url ∉ urls → s'.conns.get url = s.conns.get url) ∧
      (url ∈ urls → ∃ conn next, s.conns.get url = some conn ∧
        (client.connection url).step conn e = some next ∧ s'.conns.get url = some next) := by
  induction urls generalizing s with
  | nil =>
      obtain rfl := Option.some.inj after
      exact ⟨fun _ => rfl, fun member => absurd member List.not_mem_nil⟩
  | cons first rest inductionHypothesis =>
      rw [List.foldlM_cons] at after
      obtain ⟨middle, stepped, later⟩ := Option.bind_eq_some_iff.mp after
      obtain ⟨fresh, others⟩ := List.nodup_cons.mp nodup
      obtain ⟨untouched, moved⟩ := inductionHypothesis others later
      obtain ⟨conn, next, found, own, conns⟩ := conns_advance stepped
      constructor
      · intro outside
        rw [List.mem_cons, not_or] at outside
        rw [untouched outside.2, conns, OrderedMap.get_set_of_ne _ _ (Ne.symm outside.1)]
      · intro member
        by_cases same : url = first
        · subst same
          refine ⟨conn, next, found, own, ?_⟩
          rw [untouched fresh, conns, OrderedMap.get_set_self]
        · obtain ⟨conn', next', found', own', reached⟩ :=
            moved ((List.mem_cons.mp member).resolve_left same)
          rw [conns, OrderedMap.get_set_of_ne _ _ (Ne.symm same)] at found'
          exact ⟨conn', next', found', own', reached⟩

/-- A step of the client is a step of the connection to the URL, or passes it by. -/
theorem conn_of_step {s s' : State} {e : Event} (keys : s.conns.keys = client.urls)
    (after : client.step s e = some s') {url : String} {next : Client.State}
    (found : s'.conns.get url = some next) :
    ∃ conn, s.conns.get url = some conn ∧ ((∃ e', Event.own url e = some e' ∧
        (client.connection url).step conn e' = some next) ∨
      (Event.own url e = none ∧ next = conn)) := by
  have all : ∀ e', Event.own url e = some e' → client.advanceAll s e' = some s' →
      ∃ conn, s.conns.get url = some conn ∧ ((∃ e', Event.own url e = some e' ∧
        (client.connection url).step conn e' = some next) ∨
      (Event.own url e = none ∧ next = conn)) := by
    intro e' shared after
    obtain ⟨untouched, moved⟩ := conns_advanceAll client.urls_nodup after url
    by_cases configured : url ∈ client.urls
    · obtain ⟨conn, next', found', stepped, reached⟩ := moved configured
      obtain rfl := Option.some.inj (reached.symm.trans found)
      exact ⟨conn, found', Or.inl ⟨e', shared, stepped⟩⟩
    · rw [untouched configured] at found
      rw [← keys] at configured
      exact absurd ((s.conns.mem_keys_iff url).mpr ⟨next, found⟩) configured
  cases e with
  | abort => exact all .abort rfl after
  | tick ms => exact all (.tick ms) rfl after
  | on other e =>
      simp only [step] at after
      split at after
      · contradiction
      · obtain ⟨conn, next', found', stepped, conns⟩ := conns_advance after
        rw [conns] at found
        by_cases same : other = url
        · subst same
          rw [OrderedMap.get_set_self] at found
          obtain rfl := Option.some.inj found
          exact ⟨conn, found', Or.inl ⟨e, if_pos rfl, stepped⟩⟩
        · rw [OrderedMap.get_set_of_ne _ _ same] at found
          exact ⟨next, found, Or.inr ⟨if_neg same, rfl⟩⟩

/-- Each connection is in the state that its own events lead to. -/
theorem own_run {events : List Event} {s : State} (ran : client.machine.run events = some s)
    {url : String} {conn : Client.State} (found : s.conns.get url = some conn) :
    (client.connection url).machine.run (events.filterMap (Event.own url)) = some conn := by
  refine Machine.run_invariant (P := fun events s => ∀ conn, s.conns.get url = some conn →
    (client.connection url).machine.run (events.filterMap (Event.own url)) = some conn)
    ?_ ?_ ran conn found
  · intro conn found
    have configured : url ∈ client.urls := by
      rw [← (told_init client).2.keys]
      exact (client.init.conns.mem_keys_iff url).mpr ⟨conn, found⟩
    exact congrArg some (Option.some.inj ((client.init_conn configured).symm.trans found))
  · intro events s e s' ran own after next found
    obtain ⟨conn, found', moved⟩ := conn_of_step (told_run ran).2.keys after found
    rw [List.filterMap_append]
    rcases moved with ⟨e', happens, stepped⟩ | ⟨passes, rfl⟩
    · rw [List.filterMap_cons_some happens, List.filterMap_nil]
      exact Machine.run_concat_of (own conn found') stepped
    · rw [List.filterMap_cons_none passes, List.filterMap_nil, List.append_nil]
      exact own _ found'

/-- The abort listeners of all connections, which share one signal. -/
def State.listeners (s : State) : List (String × AbortListener) :=
  s.conns.entries.flatMap fun e => e.2.signal.listeners.map (Prod.mk e.1)

/-- Reconnecting leaves the signal as it found it: an iteration that ends with its
sleep elapsing ends with the listeners it began with, and there are never more
listeners than connections. -/
structure LeavesSignal (client : RelayClient) (events : List Event) : Prop where
  restores : ∀ url ∈ client.urls, ∀ s s',
    Reconnect (client.connection url) (events.filterMap (Event.own url)) s s' →
      ∀ l, l ∈ s'.signal.listeners ↔ l ∈ s.signal.listeners
  bounded : ∀ earlier s, earlier <+: events → client.machine.run earlier = some s →
    s.listeners.length ≤ client.urls.length

/-- The sleep of one connection elapses in the run. -/
theorem not_leavesSignal_of_elapsed {events : List Event} {s : State}
    (ran : client.machine.run events = some s) {url : String}
    (elapsed : Event.on url .sleepTimer ∈ events) : ¬LeavesSignal client events := by
  intro leaves
  have keys := (told_run ran).2.keys
  have configured : url ∈ client.urls := by
    obtain ⟨earlier, later, rfl⟩ := List.append_of_mem elapsed
    obtain ⟨t, t', step⟩ := Machine.exists_stepAt ran List.prefix_rfl
    obtain ⟨conn, _, found, _⟩ := conns_advance step.after
    rw [← (told_run step.before).2.keys]
    exact (t.conns.mem_keys_iff url).mpr ⟨conn, found⟩
  obtain ⟨conn, found⟩ := (s.conns.mem_keys_iff url).mp (keys ▸ configured)
  obtain ⟨t, t', reconnect⟩ := exists_reconnect (own_run ran found)
    (List.mem_filterMap.mpr ⟨_, elapsed, if_pos rfl⟩)
  obtain ⟨left, fresh⟩ := reconnect.listeners
  refine fresh ((leaves.restores url configured t t' reconnect _).mp ?_)
  rw [left]
  exact List.mem_append_right _ (List.mem_singleton_self _)

/-- Without such a sleep every connection has at most one listener. -/
theorem listeners_length_le {events : List Event} {s : State}
    (ran : client.machine.run events = some s)
    (awake : ∀ url, Event.on url .sleepTimer ∉ events) :
    s.listeners.length ≤ client.urls.length := by
  have each : ∀ count ∈ s.conns.entries.map fun e => e.2.signal.listeners.length,
      count ≤ 1 := by
    intro count member
    obtain ⟨e, entry, rfl⟩ := List.mem_map.mp member
    have ledger := signalLedger_run _ (own_run ran ((s.conns.mem_entries_iff e.1 e.2).mp entry))
    have none : (events.filterMap (Event.own e.1)).countP Client.Event.elapses = 0 := by
      rw [List.countP_eq_zero]
      intro own member elapses
      obtain ⟨event, happened, same⟩ := List.mem_filterMap.mp member
      cases own with
      | sleepTimer =>
          cases event with
          | on other e' =>
              obtain ⟨rfl, equal⟩ := Option.ite_none_right_eq_some.mp same
              obtain rfl := Option.some.inj equal
              exact awake _ happened
          | abort => simp [Event.own] at same
          | tick ms => simp [Event.own] at same
      | _ => exact Bool.false_ne_true elapses
    rw [none] at ledger
    exact ledger.length_le
  have total : s.conns.entries.length = client.urls.length := by
    rw [← (told_run ran).2.keys, OrderedMap.keys, List.length_map]
  have sum := List.sum_le_card_nsmul _ 1 each
  rw [List.length_map, Nat.nsmul_eq_mul, Nat.mul_one, total] at sum
  rw [State.listeners, List.length_flatMap]
  simpa only [List.length_map] using sum

end RelayClient

/-- Exactly the runs in which no backoff sleep elapses leave the signal as they
found it. -/
theorem signal_left_iff (client : RelayClient) {events : List RelayClient.Event}
    {s : RelayClient.State} (ran : client.machine.run events = some s) :
    client.LeavesSignal events ↔ ∀ url, RelayClient.Event.on url .sleepTimer ∉ events := by
  constructor
  · intro leaves url elapsed
    exact RelayClient.not_leavesSignal_of_elapsed ran elapsed leaves
  · intro awake
    constructor
    · intro url _ s s' reconnect
      obtain ⟨earlier, t, step⟩ := reconnect.elapses
      obtain ⟨later, split⟩ := step.split
      have member : Event.sleepTimer ∈ events.filterMap (RelayClient.Event.own url) := by
        simp [split]
      obtain ⟨event, happened, same⟩ := List.mem_filterMap.mp member
      cases event with
      | on other e' =>
          obtain ⟨rfl, equal⟩ := Option.ite_none_right_eq_some.mp same
          obtain rfl := Option.some.inj equal
          exact absurd happened (awake _)
      | abort => simp [RelayClient.Event.own] at same
      | tick ms => simp [RelayClient.Event.own] at same
    · intro earlier t start reached
      exact RelayClient.listeners_length_le reached
        fun url member => awake url (start.subset member)

/-! ### A broker that refuses its daemon -/

namespace Sample

/-- One attempt at the first broker, refused, and the sleep after it. -/
def refusedOnce (attempt : Nat) : List RelayClient.Event :=
  [.on "wss://relay.example:5553" .resume,
    .on "wss://relay.example:5553" (.socket attempt (.error "connect ECONNREFUSED")),
    .on "wss://relay.example:5553" (.backOff 0), .tick 72000,
    .on "wss://relay.example:5553" .sleepTimer]

/-- Three reconnects of one of the two connections. -/
def refusedThrice : List RelayClient.Event := refusedOnce 1 ++ refusedOnce 2 ++ refusedOnce 3

theorem refusedThrice_listeners :
    (fanOut.machine.run refusedThrice).map RelayClient.State.listeners =
      some ([1, 2, 3].map fun attempt => ("wss://relay.example:5553", .backoff attempt)) := by
  decide +kernel

end Sample

/-- The refusals themselves leave nothing. -/
theorem signal_left_refused : ∃ s,
    Sample.fanOut.machine.run ((Sample.refusedOnce 1).take 3) = some s ∧
    Sample.fanOut.LeavesSignal ((Sample.refusedOnce 1).take 3) := by
  obtain ⟨s, ran⟩ := Option.isSome_iff_exists.mp (show
    (Sample.fanOut.machine.run ((Sample.refusedOnce 1).take 3)).isSome = true by decide +kernel)
  refine ⟨s, ran, (signal_left_iff Sample.fanOut ran).mpr fun url => ?_⟩
  simp [Sample.refusedOnce]

/-- After three reconnects of one connection, two connections have three listeners. -/
theorem reconnects_pile_up : ∃ s, Sample.fanOut.machine.run Sample.refusedThrice = some s ∧
    s.listeners.length = 3 ∧ Sample.fanOut.urls.length = 2 ∧
      ¬Sample.fanOut.LeavesSignal Sample.refusedThrice := by
  obtain ⟨s, ran, listeners⟩ := Option.map_eq_some_iff.mp Sample.refusedThrice_listeners
  refine ⟨s, ran, by rw [listeners]; rfl, rfl, ?_⟩
  exact RelayClient.not_leavesSignal_of_elapsed ran
    (List.mem_of_getElem? (show Sample.refusedThrice[4]? = _ from rfl))

end DicodeRelay.Client
