import DicodeRelay.Client.Connection

/-!
Contract: how each phase of a connection has set up its socket and the abort
signal.

Owns:
- the listeners of the current socket in each phase, and the phase's listener on
  the signal;
- the shape of the signal: the phase's listener and those that earlier sleeps
  left behind, and what each change of phase does to it.

Does not own: that every run keeps the shape.
-/

namespace DicodeRelay.Client

open DicodeRelay.Lib DicodeRelay.Shared

/-! ### Listeners on the signal -/

def AbortSignal.add (signal : AbortSignal) (l : AbortListener) : AbortSignal :=
  { signal with listeners := signal.listeners ++ [l] }

def AbortSignal.remove (signal : AbortSignal) (l : AbortListener) : AbortSignal :=
  { signal with listeners := signal.listeners.filter (· ≠ l) }

/-! ### The shape of each phase -/

/-- The listeners of the current socket in the phases that await it. -/
def Phase.listeners : Phase → Option Listeners
  | .dialing _ => some Listeners.adapted.attachDial
  | .dialed => some Listeners.adapted
  | .handshaking _ => some Listeners.adapted.attachAdmission
  | .persisting _ => some Listeners.adapted.attachAdmission
  | .serving => some Listeners.adapted.attachAdmission.detachAdapter.attachServe
  | _ => none

/-- The abort listener a phase has attached. -/
def Phase.abortListener (attempt : Nat) : Phase → Option AbortListener
  | .dialing _ => some (.dial attempt)
  | .serving => some (.serve attempt)
  | .sleeping _ => some (.backoff attempt)
  | _ => none

/-- The phases after the backoff of an attempt has begun. -/
def Phase.rested : Phase → Bool
  | .looping => true
  | .sleeping _ => true
  | .done => true
  | _ => false

/-- Whose listener it is: that of the phase, or one that an earlier sleep has
left behind. -/
def AbortListener.Owned (attempt : Nat) (phase : Phase) : AbortListener → Prop
  | .backoff earlier => earlier < attempt ∨ (earlier = attempt ∧ phase.rested = true)
  | l => phase.abortListener attempt = some l

/-- The signal's listeners in a phase. -/
structure SignalShape (attempt : Nat) (phase : Phase) (signal : AbortSignal) : Prop where
  owned : ∀ l ∈ signal.listeners, l.Owned attempt phase
  distinct : signal.listeners.Nodup
  attached : ∀ l, signal.aborted = false → phase.abortListener attempt = some l →
    l ∈ signal.listeners

/-- The current socket, as its phase has set it up. -/
structure SocketShape (phase : Phase) (listeners : Listeners) (socket : Socket) : Prop where
  attached : socket.listeners = listeners
  connected : (∀ due, phase ≠ .dialing due) → socket.readyState ≠ .connecting
  spared : phase ≠ .serving → socket.terminated = false

structure Coherent (s : State) : Prop where
  signal : SignalShape s.attempt s.phase s.signal
  shaped : ∀ listeners, s.phase.listeners = some listeners →
    ∃ socket, s.sockets.get s.attempt = some socket ∧ SocketShape s.phase listeners socket
  future : ∀ ws, s.attempt < ws → s.sockets.get ws = none

namespace SignalShape

variable {attempt : Nat} {phase next : Phase} {signal : AbortSignal}

/-- The phase's listener is removed when the phase ends. -/
theorem remove (shape : SignalShape attempt phase signal) {l : AbortListener}
    (own : phase.abortListener attempt = some l) (unrested : phase.rested = false)
    (none : next.abortListener attempt = none) :
    SignalShape attempt next (signal.remove l) where
  owned other member := by
    obtain ⟨present, different⟩ := List.mem_filter.mp member
    have owned := shape.owned other present
    have foreign : phase.abortListener attempt ≠ some other := by
      rw [own]
      simpa using fun equal => of_decide_eq_true different equal.symm
    cases other with
    | backoff earlier =>
        simp only [AbortListener.Owned, unrested, Bool.false_eq_true, and_false, or_false] at owned
        exact Or.inl owned
    | _ => exact absurd owned foreign
  distinct := shape.distinct.filter _
  attached other _ own' := by
    rw [none] at own'
    contradiction

/-- Next to the listener of the phase there are only those of earlier sleeps. -/
theorem stale (shape : SignalShape attempt phase signal) {l : AbortListener}
    (member : l ∈ signal.listeners) (other : phase.abortListener attempt ≠ some l) :
    ∃ earlier, l = .backoff earlier ∧
      (earlier < attempt ∨ (earlier = attempt ∧ phase.rested = true)) := by
  have owned := shape.owned l member
  cases l with
  | dial ws => exact absurd owned other
  | serve ws => exact absurd owned other
  | backoff earlier => exact ⟨earlier, rfl, owned⟩

/-- Phases without a listener of their own follow each other. -/
theorem keep (shape : SignalShape attempt phase signal)
    (unlistened : phase.abortListener attempt = none)
    (unlistened' : next.abortListener attempt = none)
    (rested : phase.rested = true → next.rested = true) : SignalShape attempt next signal where
  owned l member := by
    obtain ⟨earlier, rfl, left⟩ := shape.stale member (by rw [unlistened]; simp)
    exact left.imp_right fun both => ⟨both.1, rested both.2⟩
  distinct := shape.distinct
  attached l _ own := by
    rw [unlistened'] at own
    contradiction

/-- A phase attaches its listener as it begins. -/
theorem add (shape : SignalShape attempt phase signal)
    (unlistened : phase.abortListener attempt = none) (unrested : phase.rested = false)
    {l : AbortListener} (own : next.abortListener attempt = some l) :
    SignalShape attempt next (signal.add l) := by
  have left : ∀ other ∈ signal.listeners, ∃ earlier, other = .backoff earlier ∧
      earlier < attempt := by
    intro other member
    obtain ⟨earlier, equal, left⟩ := shape.stale member (by rw [unlistened]; simp)
    rw [unrested] at left
    exact ⟨earlier, equal, left.resolve_right (by simp)⟩
  have sleeps : ∀ earlier, l = .backoff earlier → earlier = attempt ∧ next.rested = true := by
    rintro earlier rfl
    cases next <;> simp_all [Phase.abortListener, Phase.rested]
  constructor
  · intro other member
    rcases List.mem_append.mp member with old | new
    · obtain ⟨earlier, rfl, before⟩ := left other old
      exact Or.inl before
    · obtain rfl := List.mem_singleton.mp new
      cases other with
      | backoff earlier => exact Or.inr (sleeps earlier rfl)
      | _ => exact own
  · rw [AbortSignal.add, List.nodup_append]
    refine ⟨shape.distinct, List.nodup_singleton l, ?_⟩
    rintro other old _ new rfl
    obtain ⟨earlier, rfl, before⟩ := left other old
    have same := (sleeps earlier (List.mem_singleton.mp new).symm).1
    omega
  · intro other _ own'
    rw [own] at own'
    obtain rfl := Option.some.inj own'
    simp [AbortSignal.add]

/-- The next attempt begins to dial. -/
theorem dial (shape : SignalShape attempt .looping signal) (due : Nat) :
    SignalShape (attempt + 1) (.dialing due) (signal.add (.dial (attempt + 1))) := by
  have left : ∀ other ∈ signal.listeners, ∃ earlier, other = .backoff earlier ∧
      earlier < attempt + 1 := by
    intro other member
    obtain ⟨earlier, equal, left⟩ := shape.stale member (by simp [Phase.abortListener])
    exact ⟨earlier, equal, by omega⟩
  constructor
  · intro other member
    rcases List.mem_append.mp member with old | new
    · obtain ⟨earlier, rfl, before⟩ := left other old
      exact Or.inl before
    · obtain rfl := List.mem_singleton.mp new
      rfl
  · rw [AbortSignal.add, List.nodup_append]
    refine ⟨shape.distinct, List.nodup_singleton _, ?_⟩
    rintro other old _ new rfl
    obtain ⟨earlier, rfl, _⟩ := left other old
    simp at new
  · intro other _ own
    obtain rfl := Option.some.inj own
    simp [AbortSignal.add]

/-- A sleep that runs out leaves its listener behind. -/
theorem wake {due : Nat} (shape : SignalShape attempt (.sleeping due) signal) :
    SignalShape attempt .looping signal where
  owned l member := by
    by_cases own : (Phase.sleeping due).abortListener attempt = some l
    · obtain rfl := Option.some.inj own
      exact Or.inr ⟨rfl, rfl⟩
    · obtain ⟨earlier, rfl, left⟩ := shape.stale member own
      exact left
  distinct := shape.distinct
  attached l _ own := by simp [Phase.abortListener] at own

/-- Nothing is left of the listeners once the signal is aborted. -/
theorem aborted (attempt : Nat) (phase : Phase) : SignalShape attempt phase ⟨true, []⟩ where
  owned _ member := by simp at member
  distinct := List.nodup_nil
  attached _ first := by simp at first

end SignalShape

end DicodeRelay.Client
