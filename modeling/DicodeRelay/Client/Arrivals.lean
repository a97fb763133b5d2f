import DicodeRelay.Client.Moves

/-!
Contract: the frames that arrive on a connection's socket, and the requests
among them.

Owns:
- what an attempt has done with the frames that arrived so far, phase by phase;
- that the frame after the handshake's is the first one dispatched, and that no
  request after it is lost, dispatched twice or out of order.

Does not own: where the frames come from.
-/

namespace DicodeRelay.Client

open DicodeRelay.Lib DicodeRelay.Shared

/-- The frame that an event delivers on the socket. -/
def Event.frameOn (ws : Nat) : Event → List String
  | .socket other (.message raw) => if other = ws then [raw] else []
  | _ => []

/-- The frame decodes to a welcome. -/
def IsWelcome (wire : WireFormat) (raw : String) : Prop :=
  ∃ welcome, wire.decodeServer raw = .envelope (.welcome welcome)

/-- What a phase has made of the frames `arrived`: the adapter holds all of them
but the one it gave to `recv`, until they are dispatched. -/
def Handled (wire : WireFormat) (adapter : Adapter) (dispatched : List Request)
    (arrived : List String) : Phase → Prop
  | .dialing _ => adapter.calls = 0 ∧ adapter.arrived = arrived ∧ dispatched = []
  | .dialed => adapter.calls = 0 ∧ adapter.arrived = arrived ∧ dispatched = []
  | .handshaking _ => adapter.calls = 1 ∧ adapter.arrived = arrived ∧ dispatched = []
  | .persisting _ => adapter.calls = 1 ∧ adapter.arrived = arrived ∧ dispatched = [] ∧
      ∃ raw, adapter.answers.head? = some (.ok raw) ∧ IsWelcome wire raw
  | .serving => ∃ raw rest, arrived = raw :: rest ∧ IsWelcome wire raw ∧
      dispatched = requestFrames wire rest
  | _ => True

/-- The frames that arrived on the socket, as the connection has handled them. -/
structure Follows (wire : WireFormat) (ws : Nat) (arrived : List String) (s : State) : Prop where
  before : s.attempt < ws → arrived = [] ∧ s.dispatchedOn ws = []
  during : s.attempt = ws → s.phase.listeners ≠ none → ∃ socket, s.sockets.get ws = some socket ∧
    Handled wire socket.adapter (s.dispatchedOn ws) arrived s.phase

/-! ### The adapter -/

namespace Adapter

variable {a : Adapter}

private theorem head?_append {answers more : List (Except RunError String)}
    {answer : Except RunError String} (answered : answers.head? = some answer) :
    (answers ++ more).head? = some answer := by
  cases answers with
  | nil => contradiction
  | cons first rest => exact answered

theorem head?_onMessage {answer : Except RunError String} (answered : a.answers.head? = some answer)
    (raw : String) : (a.onMessage raw).answers.head? = some answer := by
  unfold onMessage
  split
  · exact answered
  · exact head?_append answered

theorem head?_fail {answer : Except RunError String} (answered : a.answers.head? = some answer)
    (err : RunError) : (a.fail err).answers.head? = some answer :=
  head?_append answered

/-- After the one `recv` call was answered the rest waits in the inbox. -/
theorem arrived_of_answered {raw : String} (once : a.calls = 1)
    (answered : a.answers.head? = some (.ok raw)) : a.arrived = raw :: a.inbox := by
  obtain ⟨rest, split⟩ : ∃ rest, a.answers = .ok raw :: rest := by
    cases answers : a.answers with
    | nil => simp [answers] at answered
    | cons first rest =>
        rw [answers, List.head?_cons] at answered
        exact ⟨rest, by rw [Option.some.inj answered]⟩
  have noMore : rest = [] := by
    rw [calls, split, List.length_cons] at once
    exact List.length_eq_zero_iff.mp (by omega)
  rw [arrived, split, noMore]
  simp [Except.toOption]

end Adapter

theorem requestFrames_append (wire : WireFormat) (first second : List String) :
    requestFrames wire (first ++ second) = requestFrames wire first ++ requestFrames wire second :=
  List.filterMap_append

@[simp] theorem Socket.adapter_emitting (socket : Socket) (event : SocketEvent) :
    (socket.emitting event).adapter = socket.adapter := by
  cases event <;> rfl

/-! ### One step -/

theorem Handled.onMessage {wire : WireFormat} {adapter : Adapter} {dispatched : List Request}
    {arrived : List String} {phase : Phase} (adapted : phase.adapted = true)
    (handled : Handled wire adapter dispatched arrived phase) (raw : String) :
    Handled wire (adapter.onMessage raw) dispatched (arrived ++ [raw]) phase := by
  cases phase with
  | persisting result =>
      obtain ⟨calls, rfl, none, first, answered, welcome⟩ := handled
      exact ⟨by rw [Adapter.calls_onMessage, calls], adapter.arrived_onMessage raw, none, first,
        Adapter.head?_onMessage answered raw, welcome⟩
  | dialing due =>
      obtain ⟨calls, rfl, none⟩ := handled
      exact ⟨by rw [Adapter.calls_onMessage, calls], adapter.arrived_onMessage raw, none⟩
  | dialed =>
      obtain ⟨calls, rfl, none⟩ := handled
      exact ⟨by rw [Adapter.calls_onMessage, calls], adapter.arrived_onMessage raw, none⟩
  | handshaking due =>
      obtain ⟨calls, rfl, none⟩ := handled
      exact ⟨by rw [Adapter.calls_onMessage, calls], adapter.arrived_onMessage raw, none⟩
  | _ => contradiction

theorem Handled.fail {wire : WireFormat} {adapter : Adapter} {dispatched : List Request}
    {arrived : List String} {phase : Phase} (adapted : phase.adapted = true)
    (handled : Handled wire adapter dispatched arrived phase) (err : RunError) :
    Handled wire (adapter.fail err) dispatched arrived phase := by
  cases phase with
  | persisting result =>
      obtain ⟨calls, rfl, none, first, answered, welcome⟩ := handled
      exact ⟨by rw [Adapter.calls_fail, calls], adapter.arrived_fail err, none, first,
        Adapter.head?_fail answered err, welcome⟩
  | dialing due =>
      obtain ⟨calls, rfl, none⟩ := handled
      exact ⟨by rw [Adapter.calls_fail, calls], adapter.arrived_fail err, none⟩
  | dialed =>
      obtain ⟨calls, rfl, none⟩ := handled
      exact ⟨by rw [Adapter.calls_fail, calls], adapter.arrived_fail err, none⟩
  | handshaking due =>
      obtain ⟨calls, rfl, none⟩ := handled
      exact ⟨by rw [Adapter.calls_fail, calls], adapter.arrived_fail err, none⟩
  | _ => contradiction

/-- Before serving, the adapter holds every frame. -/
theorem Handled.waiting {wire : WireFormat} {adapter : Adapter} {dispatched : List Request}
    {arrived : List String} {phase : Phase} (adapted : phase.adapted = true)
    (handled : Handled wire adapter dispatched arrived phase) :
    adapter.arrived = arrived ∧ dispatched = [] := by
  cases phase with
  | dialing due => exact handled.2
  | dialed => exact handled.2
  | handshaking due => exact handled.2
  | persisting result => exact ⟨handled.2.1, handled.2.2.1⟩
  | _ => contradiction

/-- As serving begins, the first frame was a welcome and the adapter holds all
frames after it. -/
theorem EntersServe.handled {opts : ConnectionOptions} {s : State} {e : Event} {socket : Socket}
    {arrived : List String} (enters : EntersServe opts s e)
    (found : s.sockets.get s.attempt = some socket)
    (handled : Handled opts.wire socket.adapter (s.dispatchedOn s.attempt) arrived s.phase) :
    s.dispatchedOn s.attempt = [] ∧
      ∃ raw, IsWelcome opts.wire raw ∧ arrived = raw :: s.inbox s.attempt := by
  have inbox : s.inbox s.attempt = socket.adapter.inbox := by rw [State.inbox, found]
  rw [inbox]
  cases enters with
  | announced persisting =>
      rw [persisting] at handled
      obtain ⟨calls, rfl, none, raw, answered, welcome⟩ := handled
      exact ⟨none, raw, welcome, Adapter.arrived_of_answered calls answered⟩
  | keyless handshaking current answered read unnamed =>
      obtain rfl := Option.some.inj (found.symm.trans current)
      rw [handshaking] at handled
      obtain ⟨calls, rfl, none⟩ := handled
      exact ⟨none, _, welcome_of_readWelcome read, Adapter.arrived_of_answered calls answered⟩

/-- A move handles the frame it is given. -/
theorem Move.handled {opts : ConnectionOptions} {s : State} {e : Event} {phase : Phase}
    {signal : AbortSignal} {f : Socket → Socket} {new : List Request}
    (move : Move opts s e phase signal f new) {arrived : List String} {socket : Socket}
    (found : s.sockets.get s.attempt = some socket)
    (handled : Handled opts.wire socket.adapter (s.dispatchedOn s.attempt) arrived s.phase) :
    Handled opts.wire (f socket).adapter (s.dispatchedOn s.attempt ++ new)
      (arrived ++ e.frameOn s.attempt) phase := by
  have quiet : ∀ {event : SocketEvent} {err : RunError}, event.adapterError = some err →
      (Event.socket s.attempt event).frameOn s.attempt = [] := by
    intro event err fails
    cases event with
    | message raw => contradiction
    | _ => rfl
  have delivered : ∀ raw, (Event.socket s.attempt (.message raw)).frameOn s.attempt = [raw] :=
    fun raw => if_pos rfl
  cases move with
  | quiet calm =>
      have none : e.frameOn s.attempt = [] := by cases calm <;> rfl
      rw [none, List.append_nil, List.append_nil]
      exact handled
  | opened dialing =>
      rw [dialing] at handled
      obtain ⟨calls, same, none⟩ := handled
      exact ⟨calls, same.trans (List.append_nil _).symm, by rw [none]; rfl⟩
  | buffered adapted =>
      rw [delivered, List.append_nil]
      exact handled.onMessage adapted _
  | adapterFailed adapted past fails =>
      rw [quiet fails, List.append_nil, List.append_nil]
      simp only [Socket.modifyAdapter, Socket.adapter_emitting]
      exact handled.fail adapted _
  | served serving =>
      rw [delivered]
      rw [serving] at handled ⊢
      obtain ⟨first, rest, rfl, welcome, dispatched⟩ := handled
      exact ⟨first, rest ++ [_], rfl, welcome, by rw [dispatched, requestFrames_append]⟩
  | peerClosing =>
      rw [List.append_nil, show (Event.peerClosing s.attempt).frameOn s.attempt = [] from rfl,
        List.append_nil]
      exact handled
  | greeted due dialed =>
      rw [dialed] at handled
      obtain ⟨calls, same, none⟩ := handled
      refine ⟨(socket.adapter.calls_recv).trans (by rw [calls]), ?_, by rw [none]; rfl⟩
      exact (socket.adapter.arrived_recv).trans (same.trans (List.append_nil _).symm)
  | announcing handshaking current answered read =>
      obtain rfl := Option.some.inj (found.symm.trans current)
      rw [handshaking] at handled
      obtain ⟨calls, same, none⟩ := handled
      exact ⟨calls, same.trans (List.append_nil _).symm, by rw [none]; rfl, _, answered,
        welcome_of_readWelcome read⟩
  | connected enters alive =>
      obtain ⟨none, raw, welcome, split⟩ := enters.handled found handled
      have noFrame : e.frameOn s.attempt = [] := by cases enters <;> rfl
      refine ⟨raw, s.inbox s.attempt, ?_, welcome, by rw [none]; rfl⟩
      rw [noFrame, List.append_nil, split]
  | abortedServing serving first =>
      rw [serving] at handled
      obtain ⟨raw, rest, rfl, welcome, dispatched⟩ := handled
      exact ⟨raw, rest, List.append_nil _, welcome, by rw [dispatched, List.append_nil]⟩
  | abortedElsewhere unlistened first =>
      rw [List.append_nil, show Event.abort.frameOn s.attempt = [] from rfl, List.append_nil]
      exact handled
  | _ => trivial

/-- Moves deliver frames on the current socket only. -/
theorem Move.frameOn_of_ne {opts : ConnectionOptions} {s : State} {e : Event} {phase : Phase}
    {signal : AbortSignal} {f : Socket → Socket} {new : List Request}
    (move : Move opts s e phase signal f new) {ws : Nat} (different : s.attempt ≠ ws) :
    e.frameOn ws = [] := by
  have elsewhere : ∀ event, (Event.socket s.attempt event).frameOn ws = [] := by
    intro event
    cases event with
    | message raw => exact if_neg different
    | _ => rfl
  cases move with
  | quiet calm => cases calm <;> rfl
  | connected enters => cases enters <;> rfl
  | connectedLate enters => cases enters <;> rfl
  | opened => exact elsewhere _
  | dialFailed => exact elsewhere _
  | buffered => exact elsewhere _
  | adapterFailed => exact elsewhere _
  | served => exact elsewhere _
  | serveEnded => exact elsewhere _
  | _ => rfl

/-- A move into a phase that awaits the socket comes from such a phase. -/
theorem Move.awaited {opts : ConnectionOptions} {s : State} {e : Event} {phase : Phase}
    {signal : AbortSignal} {f : Socket → Socket} {new : List Request}
    (move : Move opts s e phase signal f new) (awaited : phase.listeners ≠ none) :
    s.phase.listeners ≠ none := by
  cases move with
  | opened before => simp [before, Phase.listeners]
  | greeted due before => simp [before, Phase.listeners]
  | announcing before => simp [before, Phase.listeners]
  | connected enters => simp [enters.shaped.1]
  | abortedServing before => simp [before, Phase.listeners]
  | quiet => exact awaited
  | buffered => exact awaited
  | adapterFailed => exact awaited
  | served => exact awaited
  | peerClosing => exact awaited
  | abortedElsewhere => exact awaited
  | _ => exact absurd rfl awaited

theorem follows_step {opts : ConnectionOptions} {ws : Nat} {arrived : List String} {s s' : State}
    {e : Event} (coherent : Coherent s) (follows : Follows opts.wire ws arrived s)
    (after : opts.step s e = some s') : Follows opts.wire ws (arrived ++ e.frameOn ws) s' := by
  cases stepCase_of_step opts coherent after with
  | @unattended other idle unattended own present =>
      have elsewhere : ws ≠ other → e.frameOn ws = [] := by
        intro different
        rcases own with ⟨event, rfl⟩ | rfl
        · cases event with
          | message raw => exact if_neg different.symm
          | _ => rfl
        · rfl
      constructor
      · intro before
        rw [unattended.attempt] at before
        have different : ws ≠ other := by
          rintro rfl
          exact present (coherent.future ws before)
        rw [elsewhere different, List.append_nil, unattended.dispatched ws different]
        exact follows.before before
      · intro current awaited
        rw [unattended.attempt] at current
        rw [unattended.phase] at awaited ⊢
        have different : ws ≠ other := by
          rintro rfl
          exact awaited (idle.phase current)
        rw [elsewhere different, List.append_nil, unattended.dispatched ws different,
          unattended.sockets ws different]
        exact follows.during current awaited
  | started resumed looping going equal =>
      subst resumed equal
      have noFrame : Event.resume.frameOn ws = [] := rfl
      rw [noFrame, List.append_nil]
      constructor
      · intro before
        exact follows.before (Nat.lt_of_succ_lt before)
      · intro current _
        have current' : s.attempt + 1 = ws := current
        obtain ⟨none, silent⟩ := follows.before (by omega)
        subst current'
        exact ⟨.dialled, OrderedMap.get_set_self _ _ _, rfl, none.symm, silent⟩
  | @moved phase signal f new move moved =>
      constructor
      · intro before
        rw [moved.attempt] at before
        have different : ws ≠ s.attempt := Nat.ne_of_gt before
        rw [move.frameOn_of_ne different.symm, List.append_nil, moved.dispatchedOthers ws different]
        exact follows.before before
      · intro current awaited
        rw [moved.attempt] at current
        subst current
        rw [moved.phase] at awaited ⊢
        obtain ⟨socket, found, handled⟩ := follows.during rfl (move.awaited awaited)
        refine ⟨f socket, ?_, ?_⟩
        · rw [moved.socket, found]
          rfl
        · rw [moved.dispatched]
          exact move.handled found handled

/-! ### Whole runs -/

theorem follows_init (opts : ConnectionOptions) (ws : Nat) :
    Follows opts.wire ws [] opts.machine.init where
  before _ := ⟨rfl, rfl⟩
  during _ awaited := absurd rfl awaited

/-- The serving attempt has dispatched the requests among all frames after the
welcome. -/
theorem Follows.serving {wire : WireFormat} {ws : Nat} {arrived : List String} {s : State}
    (follows : Follows wire ws arrived s) (current : s.attempt = ws)
    (serving : s.phase = .serving) :
    ∃ raw rest, arrived = raw :: rest ∧ IsWelcome wire raw ∧
      s.dispatchedOn ws = requestFrames wire rest := by
  obtain ⟨_, _, handled⟩ := follows.during current (by simp [serving, Phase.listeners])
  rwa [serving] at handled

end DicodeRelay.Client
