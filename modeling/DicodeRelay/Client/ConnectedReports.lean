import DicodeRelay.Client.Arrivals
import DicodeRelay.Client.Ledger

/-!
Contract: a connection's reports that its endpoint is connected.

Owns:
- that the adapter has recorded a failure exactly when its socket has closed or
  failed, and that a handshake that succeeds has read a frame of its socket;
- that a report of the endpoint as connected is followed by exactly one report
  before the next dial, of the endpoint as not connected;
- the steps that report a dead endpoint as connected: the handshake's end is
  taken up although the adapter has recorded a failure.

Does not own: the other fields of a report.
-/

namespace DicodeRelay.Client

open DicodeRelay.Lib DicodeRelay.Shared

/-! ### Dead sockets -/

/-- The event is a `close` or an `error` of the socket. -/
def Event.endsSocket (ws : Nat) : Event → Bool
  | .socket other event => decide (other = ws) && event.adapterError.isSome
  | _ => false

/-- What the adapter knows of its socket: it has recorded a failure exactly when
the socket has emitted `close` or `error`, and sockets of later attempts have
emitted nothing. -/
structure Watched (events : List Event) (s : State) : Prop where
  failure : s.phase.adapted = true → ∃ socket, s.sockets.get s.attempt = some socket ∧
    (socket.adapter.failure ≠ none ↔ events.any (Event.endsSocket s.attempt) = true)
  future : ∀ ws, s.attempt < ws → events.any (Event.endsSocket ws) = false

theorem failure_onMessage (a : Adapter) (raw : String) : (a.onMessage raw).failure = a.failure := by
  unfold Adapter.onMessage
  split <;> rfl

theorem failure_fail (a : Adapter) (err : RunError) : (a.fail err).failure ≠ none := by
  simp only [Adapter.fail]
  cases a.failure <;> simp

theorem failure_recv (a : Adapter) : a.recv.failure = a.failure := by
  unfold Adapter.recv
  split
  · rfl
  · split <;> rfl

theorem endsSocket_own (ws : Nat) (event : SocketEvent) :
    (Event.socket ws event).endsSocket ws = event.adapterError.isSome := by
  simp [Event.endsSocket]

/-- A move into a phase in which the adapter listens comes from such a phase,
and the adapter records the end of the socket. -/
theorem Move.failure {opts : ConnectionOptions} {s : State} {e : Event} {phase : Phase}
    {signal : AbortSignal} {f : Socket → Socket} {new : List Request}
    (move : Move opts s e phase signal f new) (adapted : phase.adapted = true) :
    s.phase.adapted = true ∧ ∀ socket, ((f socket).adapter.failure ≠ none ↔
      socket.adapter.failure ≠ none ∨ e.endsSocket s.attempt = true) := by
  cases move with
  | quiet calm =>
      refine ⟨adapted, fun socket => ?_⟩
      cases calm <;> simp [Event.endsSocket]
  | opened dialing => exact ⟨by rw [dialing]; rfl, fun socket => by
      simp [endsSocket_own, SocketEvent.adapterError, Socket.modifyListeners]⟩
  | buffered before => exact ⟨before, fun socket => by
      simp [endsSocket_own, SocketEvent.adapterError, Socket.modifyAdapter, failure_onMessage]⟩
  | adapterFailed before _ fails => exact ⟨before, fun socket => by
      simp [endsSocket_own, fails, Socket.modifyAdapter, failure_fail]⟩
  | peerClosing => exact ⟨adapted, fun socket => by simp [Event.endsSocket]⟩
  | greeted due dialed => exact ⟨by rw [dialed]; rfl, fun socket => by
      simp [Event.endsSocket, Socket.modifyAdapter, Socket.modifyListeners, failure_recv]⟩
  | announcing handshaking => exact ⟨by rw [handshaking]; rfl, fun socket => by
      simp [Event.endsSocket]⟩
  | abortedElsewhere => exact ⟨adapted, fun socket => by simp [Event.endsSocket]⟩
  | served serving => rw [serving] at adapted; contradiction
  | _ => contradiction

/-- Moves are events of the current socket or of none. -/
theorem Move.endsSocket_of_ne {opts : ConnectionOptions} {s : State} {e : Event} {phase : Phase}
    {signal : AbortSignal} {f : Socket → Socket} {new : List Request}
    (move : Move opts s e phase signal f new) {ws : Nat} (different : s.attempt ≠ ws) :
    e.endsSocket ws = false := by
  have elsewhere : ∀ event, (Event.socket s.attempt event).endsSocket ws = false := by
    intro event
    simp [Event.endsSocket, different]
  cases move with
  | quiet calm => cases calm <;> rfl
  | connected enters => cases enters <;> rfl
  | connectedLate enters => cases enters <;> rfl
  | opened => exact elsewhere _
  | dialFailed => exact elsewhere _
  | buffered => exact elsewhere _
  | adapterFailed => exact elsewhere _
  | served => exact elsewhere _
  | serveEnded => exact elsewhere _
  | _ => rfl

theorem adapted_listeners {phase : Phase} (adapted : phase.adapted = true) :
    phase.listeners ≠ none := by
  cases phase <;> simp_all [Phase.adapted, Phase.listeners]

theorem watched_step {opts : ConnectionOptions} {events : List Event} {s s' : State} {e : Event}
    (coherent : Coherent s) (watched : Watched events s) (after : opts.step s e = some s') :
    Watched (events ++ [e]) s' := by
  have grown : ∀ ws, (events ++ [e]).any (Event.endsSocket ws) =
      (events.any (Event.endsSocket ws) || e.endsSocket ws) := fun ws => by simp
  cases stepCase_of_step opts coherent after with
  | @unattended other idle unattended own present =>
      have elsewhere : ∀ ws, ws ≠ other → e.endsSocket ws = false := by
        intro ws different
        rcases own with ⟨event, rfl⟩ | rfl
        · simp [Event.endsSocket, different.symm]
        · rfl
      constructor
      · intro adapted
        rw [unattended.phase] at adapted
        have different : s.attempt ≠ other := fun same =>
          adapted_listeners adapted (idle.phase same)
        obtain ⟨socket, found, failure⟩ := watched.failure adapted
        rw [unattended.attempt, unattended.sockets _ different, grown, elsewhere _ different,
          Bool.or_false]
        exact ⟨socket, found, failure⟩
      · intro ws later
        rw [unattended.attempt] at later
        have different : ws ≠ other := by
          rintro rfl
          exact present (coherent.future ws later)
        rw [grown, watched.future ws later, elsewhere ws different]
        rfl
  | started resumed looping going equal =>
      subst resumed equal
      constructor
      · intro _
        refine ⟨.dialled, OrderedMap.get_set_self _ _ _, ?_⟩
        have fresh := watched.future (s.attempt + 1) (Nat.lt_succ_self _)
        have attempt : (opts.startAttempt s).attempt = s.attempt + 1 := rfl
        rw [attempt, grown, fresh]
        simp [Socket.dialled, Adapter.empty, Event.endsSocket]
      · intro ws later
        rw [grown, watched.future ws (Nat.lt_of_succ_lt later)]
        rfl
  | @moved phase signal f new move moved =>
      constructor
      · intro adapted
        rw [moved.phase] at adapted
        obtain ⟨before, records⟩ := move.failure adapted
        obtain ⟨socket, found, failure⟩ := watched.failure before
        rw [moved.attempt, moved.socket, found, grown]
        refine ⟨f socket, rfl, ?_⟩
        rw [records, failure, Bool.or_eq_true]
      · intro ws later
        rw [moved.attempt] at later
        rw [grown, watched.future ws later, move.endsSocket_of_ne (Nat.ne_of_lt later)]
        rfl

theorem watched_run (opts : ConnectionOptions) {events : List Event} {s : State}
    (ran : opts.machine.run events = some s) : Watched events s := by
  refine Machine.run_invariant (P := Watched) ⟨?_, fun _ _ => rfl⟩ ?_ ran
  · intro adapted
    simp [ConnectionOptions.machine, State.init, Phase.adapted] at adapted
  · intro events s e s' before watched after
    exact watched_step (coherent_run opts before) watched after

/-! ### Handshakes that succeed -/

/-- A frame of the socket has been read as the answer of the handshake. -/
def ShookHands (opts : ConnectionOptions) (events : List Event) (ws : Nat)
    (result : HandshakeResult) : Prop :=
  ∃ raw, .socket ws (.message raw) ∈ events ∧
    readWelcome opts.crypto opts.wire opts.identity raw = .ok result

theorem follows_run (opts : ConnectionOptions) (ws : Nat) {events : List Event} {s : State}
    (ran : opts.machine.run events = some s) :
    Follows opts.wire ws (events.flatMap (Event.frameOn ws)) s := by
  refine Machine.run_invariant
    (P := fun events s => Follows opts.wire ws (events.flatMap (Event.frameOn ws)) s)
    (follows_init opts ws) ?_ ran
  intro events s e s' before follows after
  rw [List.flatMap_append, List.flatMap_singleton]
  exact follows_step (coherent_run opts before) follows after

theorem mem_of_frameOn {events : List Event} {ws : Nat} {raw : String}
    (member : raw ∈ events.flatMap (Event.frameOn ws)) :
    .socket ws (.message raw) ∈ events := by
  obtain ⟨e, present, delivered⟩ := List.mem_flatMap.mp member
  unfold Event.frameOn at delivered
  split at delivered
  · split at delivered
    · rename_i same
      obtain rfl := List.mem_singleton.mp delivered
      rwa [same] at present
    · simp at delivered
  · simp at delivered

/-- The answer to the one `recv` call of the handshake is a frame of the
socket. -/
theorem delivered_of_answered {opts : ConnectionOptions} {events : List Event} {s : State}
    {due : Nat} {socket : Socket} {raw : String} (ran : opts.machine.run events = some s)
    (handshaking : s.phase = .handshaking due) (current : s.sockets.get s.attempt = some socket)
    (answered : socket.adapter.answers.head? = some (.ok raw)) :
    .socket s.attempt (.message raw) ∈ events := by
  obtain ⟨socket', found, handled⟩ := (follows_run opts s.attempt ran).during rfl
    (by simp [handshaking, Phase.listeners])
  obtain rfl := Option.some.inj (current.symm.trans found)
  rw [handshaking] at handled
  obtain ⟨once, arrived, _⟩ := handled
  have first := Adapter.arrived_of_answered once answered
  exact mem_of_frameOn (arrived ▸ first ▸ List.mem_cons_self)

/-- While the consumer saves the key, the handshake has succeeded. -/
theorem shookHands_of_persisting {opts : ConnectionOptions} {events : List Event} {s : State}
    (ran : opts.machine.run events = some s) {result : HandshakeResult}
    (persisting : s.phase = .persisting result) : ShookHands opts events s.attempt result := by
  refine Machine.run_invariant (P := fun events s => ∀ result, s.phase = .persisting result →
    ShookHands opts events s.attempt result) ?_ ?_ ran result persisting
  · intro result persisting
    simp [ConnectionOptions.machine, State.init] at persisting
  · intro events s e s' before shook after result persisting
    have kept : s.phase = .persisting result →
        ShookHands opts (events ++ [e]) s.attempt result := by
      intro same
      obtain ⟨raw, member, read⟩ := shook result same
      exact ⟨raw, List.mem_append_left _ member, read⟩
    cases stepCase_of_step opts (coherent_run opts before) after with
    | unattended idle unattended own present =>
        rw [unattended.attempt]
        exact kept (unattended.phase ▸ persisting)
    | started resumed looping going equal =>
        subst equal
        simp [ConnectionOptions.startAttempt] at persisting
    | moved move moved =>
        rw [moved.attempt]
        rw [moved.phase] at persisting
        cases move with
        | quiet => exact kept persisting
        | buffered => exact kept persisting
        | adapterFailed => exact kept persisting
        | served => exact kept persisting
        | peerClosing => exact kept persisting
        | abortedElsewhere => exact kept persisting
        | announcing handshaking current answered read =>
            obtain rfl := Phase.persisting.inj persisting
            exact ⟨_, List.mem_append_left _
              (delivered_of_answered before handshaking current answered), read⟩
        | _ => contradiction

/-- Whoever goes on after the handshake has shaken hands. -/
theorem shookHands_of_enters {opts : ConnectionOptions} {events : List Event} {s : State}
    {e : Event} (ran : opts.machine.run events = some s) (enters : EntersServe opts s e) :
    ∃ result, ShookHands opts events s.attempt result := by
  cases enters with
  | announced persisting => exact ⟨_, shookHands_of_persisting ran persisting⟩
  | keyless handshaking current answered read unnamed =>
      exact ⟨_, _, delivered_of_answered ran handshaking current answered, read⟩

/-! ### The report after it -/

/-- The phases from serving to the end of the attempt. -/
def Phase.pastHandshake : Phase → Bool
  | .serving => true
  | .unwinding _ => true
  | .ended _ => true
  | _ => false

/-- Since the attempt reported `reports`, it has ended and made one more report,
of the endpoint as not connected, or it has made none. -/
structure ReportedSince (attempt : Nat) (reports : List RelayEndpointStatus) (s : State) :
    Prop where
  latest : attempt ≤ s.attempt
  going : s.attempt = attempt → s.phase.rested = false →
    s.phase.pastHandshake = true ∧ s.reports = reports
  afterwards : s.attempt = attempt → s.phase.rested = true →
    ∃ report, report.connected = false ∧ s.reports = reports ++ [report]

theorem rested_of_pastHandshake {phase : Phase} (past : phase.pastHandshake = true) :
    phase.rested = false := by
  cases phase <;> simp_all [Phase.pastHandshake, Phase.rested]

/-- An attempt past its handshake stays there until its backoff begins, and no
move leads back from there. -/
theorem Move.stays {opts : ConnectionOptions} {s : State} {e : Event} {phase : Phase}
    {signal : AbortSignal} {f : Socket → Socket} {new : List Request}
    (move : Move opts s e phase signal f new) :
    (s.phase.pastHandshake = true → (∀ draw, e ≠ .backOff draw) → phase.pastHandshake = true) ∧
      (s.phase.rested = true → phase.rested = true) := by
  cases move with
  | quiet => exact ⟨fun past _ => past, id⟩
  | buffered => exact ⟨fun past _ => past, id⟩
  | adapterFailed => exact ⟨fun past _ => past, id⟩
  | served => exact ⟨fun past _ => past, id⟩
  | peerClosing => exact ⟨fun past _ => past, id⟩
  | abortedElsewhere => exact ⟨fun past _ => past, id⟩
  | connected enters =>
      obtain ⟨_, _, unrested, _⟩ := enters.shaped
      exact ⟨fun _ _ => rfl, fun rested => by rw [unrested] at rested; contradiction⟩
  | connectedLate enters =>
      obtain ⟨_, _, unrested, _⟩ := enters.shaped
      exact ⟨fun _ _ => rfl, fun rested => by rw [unrested] at rested; contradiction⟩
  | slept => exact ⟨fun _ other => absurd rfl (other _), fun _ => rfl⟩
  | sleepless => exact ⟨fun _ other => absurd rfl (other _), fun _ => rfl⟩
  | opened before => simp [before, Phase.pastHandshake, Phase.rested]
  | dialFailed before => simp [before, Phase.pastHandshake, Phase.rested]
  | serveEnded before => simp [before, Phase.pastHandshake, Phase.rested]
  | dialTimeout before => simp [before, Phase.pastHandshake, Phase.rested]
  | handshakeTimeout before => simp [before, Phase.pastHandshake, Phase.rested]
  | woken before => simp [before, Phase.pastHandshake, Phase.rested]
  | stopped before => simp [before, Phase.pastHandshake, Phase.rested]
  | greeted due before => simp [before, Phase.pastHandshake, Phase.rested]
  | handshakeFailed err before => simp [before, Phase.pastHandshake, Phase.rested]
  | announcing before => simp [before, Phase.pastHandshake, Phase.rested]
  | consumerFailed message before => simp [before, Phase.pastHandshake, Phase.rested]
  | unwound before => simp [before, Phase.pastHandshake, Phase.rested]
  | abortedDialing before => simp [before, Phase.pastHandshake, Phase.rested]
  | abortedServing before => simp [before, Phase.pastHandshake, Phase.rested]
  | abortedSleeping before => simp [before, Phase.pastHandshake, Phase.rested]

theorem ReportedSince.keep {attempt : Nat} {reports : List RelayEndpointStatus} {s s' : State}
    (since : ReportedSince attempt reports s) (same : s'.attempt = s.attempt)
    (told : s'.reports = s.reports)
    (stays : s.phase.pastHandshake = true → s'.phase.pastHandshake = true)
    (rests : s.phase.rested = true → s'.phase.rested = true) :
    ReportedSince attempt reports s' where
  latest := same ▸ since.latest
  going own unrested := by
    have before : s.phase.rested = false := by
      cases rested : s.phase.rested with
      | false => rfl
      | true => rw [rests rested] at unrested; contradiction
    obtain ⟨past, kept⟩ := since.going (same ▸ own) before
    exact ⟨stays past, told.trans kept⟩
  afterwards own rested := by
    rw [told]
    cases before : s.phase.rested with
    | true => exact since.afterwards (same ▸ own) before
    | false =>
        obtain ⟨past, _⟩ := since.going (same ▸ own) before
        rw [rested_of_pastHandshake (stays past)] at rested
        contradiction

theorem reportedSince_step {opts : ConnectionOptions} {attempt : Nat}
    {reports : List RelayEndpointStatus} {s s' : State} {e : Event} (coherent : Coherent s)
    (since : ReportedSince attempt reports s) (after : opts.step s e = some s') :
    ReportedSince attempt reports s' := by
  cases ledger_of_step opts after with
  | aside aside unentered going =>
      cases stepCase_of_step opts coherent after with
      | unattended _ unattended =>
          exact since.keep unattended.attempt aside.reports (fun past => unattended.phase ▸ past)
            fun rested => unattended.phase ▸ rested
      | started _ _ _ equal =>
          subst equal
          have later := since.latest
          have next : (opts.startAttempt s).attempt = s.attempt + 1 := rfl
          exact ⟨by omega, fun own => by omega, fun own => by omega⟩
      | moved move moved =>
          obtain ⟨stays, rests⟩ := move.stays
          exact since.keep moved.attempt aside.reports
            (fun past => moved.phase ▸ stays past going) fun rested => moved.phase ▸ rests rested
  | ticked tick equal => subst equal; exact since.keep rfl rfl id id
  | started _ _ _ equal =>
      subst equal
      have later := since.latest
      have next : (opts.startAttempt s).attempt = s.attempt + 1 := rfl
      exact ⟨by omega, fun own => by omega, fun own => by omega⟩
  | connected enters equal =>
      have other : s.attempt ≠ attempt := by
        intro own
        obtain ⟨_, _, unrested, _⟩ := enters.shaped
        obtain ⟨past, _⟩ := since.going own unrested
        cases enters with
        | announced persisting => simp [persisting, Phase.pastHandshake] at past
        | keyless handshaking => simp [handshaking, Phase.pastHandshake] at past
      have same : s'.attempt = s.attempt := by
        subst equal
        rcases Moved.connect opts s _ with ⟨_, moved⟩ | ⟨_, moved⟩ <;> exact moved.attempt
      exact ⟨same ▸ since.latest, fun own => absurd (same ▸ own) other,
        fun own => absurd (same ▸ own) other⟩
  | @backedOff outcome draw ended _ _ equal =>
      have told : s'.reports = s.reports ++ [s.status.disconnect outcome] :=
        equal ▸ reports_backOff s outcome draw
      have moved : s'.attempt = s.attempt ∧ s'.phase.rested = true := by
        subst equal
        rcases Moved.backOff s outcome draw with ⟨_, moved⟩ | ⟨_, due, moved⟩
        · exact ⟨moved.attempt, by rw [moved.phase]; rfl⟩
        · exact ⟨moved.attempt, by rw [moved.phase]; rfl⟩
      obtain ⟨same, rested⟩ := moved
      refine ⟨same ▸ since.latest, fun _ unrested => ?_, fun own _ => ?_⟩
      · rw [rested] at unrested
        contradiction
      · obtain ⟨_, kept⟩ := since.going (same ▸ own) (by simp [ended, Phase.rested])
        refine ⟨s.status.disconnect outcome, ?_, by rw [told, kept]⟩
        cases outcome <;> rfl

/-! ### Whole runs -/

/-- The step makes the report. -/
def Reports (s s' : State) (report : RelayEndpointStatus) : Prop :=
  report ∈ s'.reports.drop s.reports.length

/-- A report of the endpoint as connected, made by the step from `s` to `s'`
after `earlier`: the attempt's handshake has succeeded, its socket has emitted
neither `close` nor `error`, and by the next dial exactly one report follows, of
the endpoint as not connected. -/
structure AliveReport (opts : ConnectionOptions) (events earlier : List Event) (s s' : State) :
    Prop where
  shook : ∃ result, ShookHands opts earlier s.attempt result
  alive : earlier.any (Event.endsSocket s.attempt) = false
  followed : ∀ later t f t', opts.machine.StepAt events later t f t' →
    earlier.length < later.length → t.attempt = s.attempt → t'.attempt ≠ s.attempt →
    ∃ report, report.connected = false ∧ t.reports = s'.reports ++ [report]

def ReportsAlive (opts : ConnectionOptions) (events : List Event) : Prop :=
  ∀ earlier s e s' report, opts.machine.StepAt events earlier s e s' → Reports s s' report →
    report.connected = true → AliveReport opts events earlier s s'

/-- The handshake's end is taken up although the adapter has recorded a
failure. -/
def DeadEntry (opts : ConnectionOptions) (s : State) (e : Event) : Prop :=
  EntersServe opts s e ∧
    ∃ socket, s.sockets.get s.attempt = some socket ∧ socket.adapter.failure ≠ none

theorem not_reports_of_eq {s s' : State} {report : RelayEndpointStatus}
    (same : s'.reports = s.reports) : ¬Reports s s' report := by
  intro member
  rw [Reports, same, List.drop_length] at member
  contradiction

theorem reports_iff_of_append {s s' : State} {told report : RelayEndpointStatus}
    (grown : s'.reports = s.reports ++ [told]) : Reports s s' report ↔ report = told := by
  rw [Reports, grown, List.drop_left, List.mem_singleton]

/-- Only the end of a handshake reports the endpoint as connected. -/
theorem enters_of_reports {opts : ConnectionOptions} {s s' : State} {e : Event}
    {report : RelayEndpointStatus} (after : opts.step s e = some s') (told : Reports s s' report)
    (connected : report.connected = true) : EntersServe opts s e := by
  cases ledger_of_step opts after with
  | aside aside => exact absurd told (not_reports_of_eq aside.reports)
  | ticked _ equal => exact absurd told (not_reports_of_eq (equal ▸ rfl))
  | started _ _ _ equal => exact absurd told (not_reports_of_eq (equal ▸ rfl))
  | connected enters => exact enters
  | @backedOff outcome _ _ _ _ equal =>
      obtain rfl := (reports_iff_of_append (equal ▸ reports_backOff s outcome _)).mp told
      cases outcome <;> contradiction

theorem failure_iff_ended {opts : ConnectionOptions} {events : List Event} {s : State} {e : Event}
    (ran : opts.machine.run events = some s) (enters : EntersServe opts s e) :
    (∃ socket, s.sockets.get s.attempt = some socket ∧ socket.adapter.failure ≠ none) ↔
      events.any (Event.endsSocket s.attempt) = true := by
  have adapted : s.phase.adapted = true := by
    cases enters with
    | announced persisting => rw [persisting]; rfl
    | keyless handshaking => rw [handshaking]; rfl
  obtain ⟨socket, found, failure⟩ := (watched_run opts ran).failure adapted
  simp only [found, Option.some.injEq, exists_eq_left']
  exact failure

theorem reportedSince_connect (opts : ConnectionOptions) (s : State) (result : HandshakeResult) :
    ReportedSince s.attempt (opts.connect s result).reports (opts.connect s result) := by
  rcases Moved.connect opts s result with ⟨_, moved⟩ | ⟨_, moved⟩ <;>
    exact ⟨Nat.le_of_eq moved.attempt.symm, fun _ _ => ⟨by rw [moved.phase]; rfl, rfl⟩,
      fun _ rested => by rw [moved.phase] at rested; contradiction⟩

/-- A new dial starts from the loop. -/
theorem rested_of_attempt_ne {opts : ConnectionOptions} {s s' : State} {e : Event}
    (coherent : Coherent s) (after : opts.step s e = some s') (next : s'.attempt ≠ s.attempt) :
    s.phase.rested = true := by
  cases stepCase_of_step opts coherent after with
  | unattended _ unattended => exact absurd unattended.attempt next
  | started _ looping => rw [looping]; rfl
  | moved _ moved => exact absurd moved.attempt next

/-- In every run, each report of the endpoint as connected is of an attempt
whose handshake succeeded and whose socket lives, and one report of it as not
connected follows by the next dial, exactly when no step takes up the end of a
handshake after the adapter has recorded a failure. -/
theorem reports_alive_iff (opts : ConnectionOptions) (events : List Event) :
    ReportsAlive opts events ↔
      ∀ earlier s e s', opts.machine.StepAt events earlier s e s' → ¬DeadEntry opts s e := by
  constructor
  · rintro alive earlier s e s' step ⟨enters, failed⟩
    obtain ⟨result, stepped⟩ := enters.step
    obtain rfl := Option.some.inj (stepped.symm.trans step.after)
    have told : Reports s (opts.connect s result) (s.status.connect result s.now) :=
      (reports_iff_of_append (reports_connect opts s result)).mpr rfl
    have living := (alive _ _ _ _ _ step told rfl).alive
    rw [(failure_iff_ended step.before enters).mp failed] at living
    contradiction
  · intro living earlier s e s' report step told connected
    have enters := enters_of_reports step.after told connected
    refine ⟨shookHands_of_enters step.before enters, ?_, ?_⟩
    · rw [← Bool.not_eq_true, ← failure_iff_ended step.before enters]
      exact fun failed => living _ _ _ _ step ⟨enters, failed⟩
    · intro later t f t' dial after own next
      obtain ⟨result, stepped⟩ := enters.step
      obtain rfl := Option.some.inj (stepped.symm.trans step.after)
      have since : ReportedSince s.attempt (opts.connect s result).reports t :=
        (step.before_of_length_lt dial after).persists (reportedSince_connect opts s result)
          (fun _ _ _ _ ran since stepped =>
            reportedSince_step (coherent_run opts ran) since stepped)
          dial.before
      exact since.afterwards own (rested_of_attempt_ne (coherent_run opts dial.before) dial.after
        (own ▸ next))

/-! ### A socket that closes while the consumer saves the key -/

namespace Sample

def closedWhilePersisting : List Event := handshake ++ [.socket 1 (.closed 1006)]

theorem closed_reported : (options.machine.run closedWhilePersisting).any (fun s =>
    decide (s.attempt = 1 ∧ s.reports = []) &&
      ((options.step s (.persisted none)).any fun s' =>
        decide (s'.reports.any RelayEndpointStatus.connected = true))) = true := by
  rw [closedWhilePersisting, Machine.run_append, run_handshake, Option.bind_some]
  decide +kernel

end Sample

/-- The socket has closed, and the endpoint is reported as connected. -/
theorem reports_dead_endpoint :
    ¬ReportsAlive Sample.options (Sample.closedWhilePersisting ++ [.persisted none]) := by
  obtain ⟨s, ran, holds⟩ := (Option.any_eq_true _ _).mp Sample.closed_reported
  rw [Bool.and_eq_true, decide_eq_true_eq] at holds
  obtain ⟨⟨first, silent⟩, told⟩ := holds
  obtain ⟨s', after, told⟩ := (Option.any_eq_true _ _).mp told
  obtain ⟨report, member, connected⟩ := List.any_eq_true.mp (of_decide_eq_true told)
  intro alive
  have reported : Reports s s' report := by
    rw [Reports, silent]
    exact member
  have living := (alive _ _ _ _ report (Machine.stepAt_last ran after) reported connected).alive
  rw [first] at living
  exact absurd living (by decide)

end DicodeRelay.Client
