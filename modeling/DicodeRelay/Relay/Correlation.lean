import DicodeRelay.Relay.Pending

/-!
Contract: which frames settle which promises.

Owns:
- the correlation a caller of `forward` expects: its promise resolves by a
  frame from the daemon it named, and no other daemon's frame touches it;
- that a run keeps it exactly when no daemon answers a pending forward to
  another one.

Does not own: whether a promise is settled at all.
-/

namespace DicodeRelay.Relay

open DicodeRelay.Lib DicodeRelay.Shared

/-- The step did `effect`. -/
def Emits (s s' : State) (effect : Effect) : Prop :=
  ∃ new, s'.log = s.log ++ new ∧ effect ∈ new

/-- The client certificate of the connection hashes to `uuid`. -/
def HeldBy (server : RelayServer) (s : State) (ws : ConnId) (uuid : String) : Prop :=
  ∃ conn certPoint, s.conns.get ws = some conn ∧ conn.certPoint = some certPoint ∧
    server.crypto.uuidFromP256Point certPoint = uuid

/-- Forwards resolve only by frames of the daemon they were issued to, and the
frames of another daemon neither settle nor remove them. -/
structure Correlated (server : RelayServer) (events : List Event) : Prop where
  resolvedByOwn : ∀ asked t₀ uuid method path headers body id buffered t₀' earlier t e t' response,
    server.machine.StepAt events asked t₀
      (.forward uuid method path headers body id buffered) t₀' →
    server.machine.StepAt events earlier t e t' → Emits t t' (.resolve id response) →
    ∃ ws frame, e = .message ws frame ∧ HeldBy server t ws uuid
  othersInert : ∀ earlier t ws frame t' id req,
    server.machine.StepAt events earlier t (.message ws frame) t' →
    t.pending.get id = some req → ¬ HeldBy server t ws req.uuid →
    t'.pending.get id = some req ∧ t'.settlements id = t.settlements id

/-- The event is a response the server takes, from a registered daemon, to a
pending forward that was issued to another uuid. -/
def ForeignAnswer (server : RelayServer) (s : State) (e : Event) : Prop :=
  ∃ ws frame response req, e = .message ws frame ∧ Answers server s ws frame response ∧
    s.pending.get response.id = some req ∧ ¬ HeldBy server s ws req.uuid

/-! ### What one step settles -/

theorem settled_of_emits {s s' : State} {effect : Effect} (emits : Emits s s' effect)
    (settles : effect.settledId.isSome) :
    ∃ new, s'.book.settled = s.book.settled ++ new ∧ effect ∈ new := by
  obtain ⟨new, log, member⟩ := emits
  refine ⟨new.filter fun effect => effect.settledId.isSome, ?_, ?_⟩
  · simp [State.book, log]
  · exact List.mem_filter.mpr ⟨member, settles⟩

/-- A promise resolves only by a response to its pending entry. -/
theorem BookMove.resolved {server : RelayServer} {s s' : State} {e : Event}
    (move : BookMove server s e s'.book) {id : String} {response : ForwardResponse}
    (emits : Emits s s' (.resolve id response)) :
    ∃ ws frame answer req, e = .message ws frame ∧ Answers server s ws frame answer ∧
      answer.id = id ∧ s.pending.get id = some req := by
  obtain ⟨new, settled, member⟩ := settled_of_emits emits rfl
  generalize s'.book = b at move settled
  cases move with
  | quiet =>
      rw [List.append_right_eq_self.mp settled.symm] at member
      contradiction
  | refused =>
      obtain rfl := List.append_cancel_left settled
      simp at member
  | forwarded =>
      rw [List.append_right_eq_self.mp settled.symm] at member
      contradiction
  | @responded ws frame answer req answers present =>
      obtain rfl := List.append_cancel_left settled
      simp only [List.mem_singleton, Effect.resolve.injEq] at member
      exact ⟨ws, frame, answer, req, rfl, answers, member.1.symm, member.1 ▸ present⟩
  | timedOut =>
      obtain rfl := List.append_cancel_left settled
      simp at member
  | closed =>
      obtain rfl := List.append_cancel_left settled
      simp at member

theorem BookMove.issued_eq {server : RelayServer} {s : State} {e : Event} {b : Book}
    (move : BookMove server s e b) {id uuid : String} (asked : s.issued.get id = some uuid) :
    b.issued.get id = some uuid := by
  cases move with
  | quiet => exact asked
  | @refused _ _ _ _ _ other _ fresh _ =>
      have different : other ≠ id := by
        rintro rfl
        rw [fresh] at asked
        contradiction
      exact (OrderedMap.get_set_of_ne _ _ different).trans asked
  | @forwarded _ _ _ _ _ other _ fresh _ _ =>
      have different : other ≠ id := by
        rintro rfl
        rw [fresh] at asked
        contradiction
      exact (OrderedMap.get_set_of_ne _ _ different).trans asked
  | responded | timedOut | closed => exact asked

theorem BookMove.call_eq {server : RelayServer} {s : State} {uuid method path : String}
    {headers : Headers} {body : Bytes} {id : String} {buffered : Nat} {b : Book}
    (move : BookMove server s (.forward uuid method path headers body id buffered) b) :
    b.issued.get id = some uuid := by
  cases move with
  | quiet _ noCall => contradiction
  | refused => exact OrderedMap.get_set_self _ _ _
  | forwarded => exact OrderedMap.get_set_self _ _ _

/-- The uuid a forward was issued to stands for the rest of the run. -/
theorem RelayServer.issued_persists (server : RelayServer) {events earlier : List Event}
    {s t t' : State} {e : Event} (ran : server.machine.run events = some s)
    (step : server.machine.StepAt events earlier t e t') {id uuid : String}
    (asked : t'.issued.get id = some uuid) : s.issued.get id = some uuid := by
  refine step.persists (P := fun s => s.issued.get id = some uuid) asked ?_ ran
  intro _ _ _ _ reached before after
  exact (server.book_step (server.consistent_run reached) after).issued_eq before

/-- The pending entry of a forward of the run names the uuid it was issued
to. -/
theorem RelayServer.pending_uuid (server : RelayServer) {events asked earlier : List Event}
    {s t₀ t₀' t t' : State} {uuid method path : String} {headers : Headers} {body : Bytes}
    {id : String} {buffered : Nat} {e : Event} {req : PendingRequest}
    (ran : server.machine.run events = some s)
    (call : server.machine.StepAt events asked t₀
      (.forward uuid method path headers body id buffered) t₀')
    (step : server.machine.StepAt events earlier t e t') (present : t.pending.get id = some req) :
    req.uuid = uuid := by
  have called := (server.book_stepAt call).call_eq
  have pending := (server.consistent_run step.before).asked id req present
  have pendingAfter := (server.book_stepAt step).issued_eq pending
  have first := server.issued_persists ran call called
  have second := server.issued_persists ran step pendingAfter
  exact Option.some.inj (second.symm.trans first)

/-! ### The exact condition -/

/-- A foreign answer settles and removes the forward it names. -/
theorem not_correlated_of_foreign_answer {server : RelayServer} {events earlier : List Event}
    {t t' : State} {e : Event} (step : server.machine.StepAt events earlier t e t')
    (foreignAnswer : ForeignAnswer server t e) : ¬ Correlated server events := by
  obtain ⟨ws, frame, response, req, rfl, answers, present, foreign⟩ := foreignAnswer
  intro correlated
  have concluded := (server.book_stepAt step).concluded (server.consistent_run step.before) present
    (show Concludes server t response.id (.message ws frame) from ⟨response, answers, rfl⟩)
  have gone : t'.pending.get response.id = none := concluded.2
  have kept := (correlated.othersInert _ _ _ _ _ _ _ step present foreign).1
  rw [gone] at kept
  contradiction

/-- Every run keeps the correlation exactly when none of its steps is a
daemon's answer to a pending forward to another daemon. -/
theorem correlated_iff_no_foreign_answer (server : RelayServer) {events : List Event} {s : State}
    (ran : server.machine.run events = some s) :
    Correlated server events ↔
      server.machine.Meets (fun t e => ¬ ForeignAnswer server t e) events := by
  constructor
  · intro correlated earlier t e t' step foreign
    exact not_correlated_of_foreign_answer step foreign correlated
  · intro meets
    constructor
    · intro asked t₀ uuid method path headers body id buffered t₀' earlier t e t' response call
        step emits
      have move := server.book_stepAt step
      obtain ⟨ws, frame, answer, req, rfl, answers, rfl, present⟩ := move.resolved emits
      refine ⟨ws, frame, rfl, ?_⟩
      have own : HeldBy server t ws req.uuid := by
        by_contra foreign
        exact meets _ _ _ _ step ⟨ws, frame, answer, req, rfl, answers, present, foreign⟩
      rwa [server.pending_uuid ran call step present] at own
    · intro earlier t ws frame t' id req step present foreign
      have move := server.book_stepAt step
      rw [State.settlements_eq_book, State.settlements_eq_book,
        show t'.pending = t'.book.pending from rfl]
      cases shape : t'.book with
      | mk pending pendingByClient requestTimers issued settled =>
          rw [shape] at move
          cases move with
          | quiet => exact ⟨present, rfl⟩
          | @responded _ _ response other answers found =>
              have different : response.id ≠ id := by
                rintro rfl
                rw [present] at found
                obtain rfl := Option.some.inj found
                exact meets _ _ _ _ step ⟨ws, frame, response, req, rfl, answers, present, foreign⟩
              refine ⟨(OrderedMap.get_delete_of_ne _ different).trans present, ?_⟩
              have settles : (Effect.resolve response.id (flattenResponse response)).settledId =
                  some response.id := rfl
              simp only [List.countP_append, List.countP_singleton, settles,
                Option.some.injEq, different, decide_false, Bool.false_eq_true, if_false,
                Nat.add_zero]

/-- The run in which daemon A answers its own forward. -/
theorem correlated_iff_exchange :
    Correlated Sample.server (Sample.admission ++
        [Sample.forwardA, .message 0 (Sample.okFrame Sample.requestId)]) ↔
      Sample.server.machine.Meets (fun t e => ¬ ForeignAnswer Sample.server t e)
        (Sample.admission ++
          [Sample.forwardA, .message 0 (Sample.okFrame Sample.requestId)]) := by
  obtain ⟨s, ran⟩ := Sample.exchanged
  exact correlated_iff_no_foreign_answer Sample.server ran

/-- Daemon B registers as well, and a forward to daemon A is pending. -/
def Sample.crossing : List Event :=
  Sample.admission ++ [.connection 1 (Sample.certificate Sample.signPointB),
    .message 1 (Sample.helloFrame Sample.decryptPointB), Sample.forwardA]

/-- Daemon B is connected and registered while the forward is pending. -/
def Sample.Crossed (s : State) : Prop :=
  s.live 1 = true ∧ (s.conns.get 1).map (fun conn => (conn.certPoint, conn.registeredUuid.isSome)) =
      some (some Sample.signPointB, true) ∧
    (s.pending.get Sample.requestId).map PendingRequest.uuid = some Sample.uuidA

instance : DecidablePred Sample.Crossed := fun _ => inferInstanceAs (Decidable (_ ∧ _))

theorem Sample.crossed : (Sample.server.machine.run Sample.crossing).any
    (fun s => decide (Sample.Crossed s)) = true := by
  have certified : extractP256PointFromCert ⟨some (uncompressedP256ToSpki Sample.signPointB)⟩ =
      some Sample.signPointB := by decide +kernel
  have valid : Sample.server.validateDecryptPubkey ⟨base64Encode Sample.decryptPointB⟩ = none := by
    decide +kernel
  have joins := Sample.server.admits (Sample.enrolled_admitted.others 1 Nat.zero_ne_one)
    Sample.enrolled_admitted.running certified
    (Sample.decode_helloFrame Sample.decryptPointB) valid
  have split : Sample.crossing = (Sample.admission ++
      [.connection 1 (Sample.certificate Sample.signPointB),
        .message 1 (Sample.helloFrame Sample.decryptPointB)]) ++ [Sample.forwardA] := rfl
  rw [split, Machine.run_append, Machine.run_append, Sample.run_admission, Option.bind_some,
    Sample.certificate, joins, Option.bind_some]
  decide +kernel

theorem Sample.foreign_answer {s : State} (crossed : Sample.Crossed s) :
    ForeignAnswer Sample.server s (.message 1 (Sample.okFrame Sample.requestId)) := by
  obtain ⟨_, connected, pending⟩ := crossed
  obtain ⟨conn, found, shape⟩ := Option.map_eq_some_iff.mp connected
  obtain ⟨certPoint, registered⟩ := Prod.mk.inj shape
  obtain ⟨req, present, asked⟩ := Option.map_eq_some_iff.mp pending
  refine ⟨1, _, ⟨Sample.requestId, 200, .empty, ""⟩, req, rfl,
    ⟨?_, Sample.decode_okFrame Sample.requestId, by decide⟩, present, ?_⟩
  · refine ⟨conn, Sample.signPointB, found, certPoint, ?_⟩
    intro unregistered
    rw [unregistered] at registered
    contradiction
  · rintro ⟨conn', certPoint', found', held, hashes⟩
    obtain rfl := Option.some.inj (found.symm.trans found')
    obtain rfl := Option.some.inj (certPoint.symm.trans held)
    rw [asked] at hashes
    revert hashes
    decide +kernel

/-- Daemon B's answer settles and removes the forward to daemon A. -/
theorem correlation_crosses_daemons :
    (Sample.server.machine.run
      (Sample.crossing ++ [.message 1 (Sample.okFrame Sample.requestId)])).isSome = true ∧
    ¬ Correlated Sample.server
      (Sample.crossing ++ [.message 1 (Sample.okFrame Sample.requestId)]) := by
  obtain ⟨s, reached, facts⟩ := (Option.any_eq_true _ _).mp Sample.crossed
  have crossed : Sample.Crossed s := of_decide_eq_true facts
  have after := Sample.server.step_message crossed.1 (Sample.okFrame Sample.requestId)
  have step := Machine.stepAt_last reached after
  refine ⟨?_, not_correlated_of_foreign_answer step (Sample.foreign_answer crossed)⟩
  rw [Machine.run_concat_of reached after]
  rfl

end DicodeRelay.Relay
