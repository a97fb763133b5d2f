import DicodeRelay.Client.Forwarder
import DicodeRelay.Client.Ledger

/-!
Contract: the answer to a request frame.

Owns:
- the requests that were handed to `dispatchRequest`, and what a step hands over;
- the frames `handleFrame` sends for a request, before and after its dispatch;
- the requests that get one response, under their id, exactly.

Does not own: when a dispatch ends.
-/

namespace DicodeRelay.Client

open DicodeRelay.Lib DicodeRelay.Shared

/-! ### Requests that were handed over -/

/-- The requests handed to `dispatchRequest`, oldest first. -/
def State.handedOver (s : State) : List (Nat × Request) := s.log.filterMap Effect.dispatched

/-- What was handed over in between is what was added to the dispatches. -/
def Booked (s t : State) : Prop :=
  ∃ more, t.handedOver = s.handedOver ++ more ∧ t.dispatching = s.dispatching ++ more

theorem Aside.booked {s t : State} (aside : Aside s t) : Booked s t := by
  obtain ⟨more, grown, _, added⟩ := aside.log
  exact ⟨more.filterMap Effect.dispatched,
    by rw [State.handedOver, grown, List.filterMap_append]; rfl, added⟩

namespace Booked

variable {s t u : State}

theorem trans (first : Booked s t) (second : Booked t u) : Booked s u := by
  obtain ⟨more, grown, added⟩ := first
  obtain ⟨more', grown', added'⟩ := second
  exact ⟨more ++ more', by rw [grown', grown, List.append_assoc],
    by rw [added', added, List.append_assoc]⟩

/-- A report hands nothing over. -/
theorem report (s : State) (status : RelayEndpointStatus) :
    Booked s (s.setStatus status).report :=
  ⟨[], by simp [State.handedOver, State.report, State.emit, State.setStatus, Effect.dispatched],
    by simp [State.report, State.emit, State.setStatus]⟩

theorem connect (opts : ConnectionOptions) (s : State) (result : HandshakeResult) :
    Booked s (opts.connect s result) :=
  (((Aside.refl s).replay opts).booked.trans (report _ _)).trans
    (aside_connect opts s result).booked

theorem backOff (s : State) (outcome : Option RunError) (draw : Rat) :
    Booked s (s.backOff outcome draw) := by
  have slept : ∀ (t : State) (wait : Int), Booked t (t.sleep wait) :=
    fun t wait => ((Aside.refl t).sleep wait).booked
  have set : ∀ (t : State) (backoff : Nat), Booked t (t.setBackoff backoff) :=
    fun t _ => ⟨[], (List.append_nil _).symm, (List.append_nil _).symm⟩
  have ended : Booked s (s.endAttempt outcome) := by
    cases outcome with
    | none =>
        simp only [State.endAttempt]
        split
        · exact (set s INITIAL_MS).trans (report _ _)
        · exact report s _
    | some err =>
        have logged : Aside (s.setStatus (s.status.disconnect (some err))).report
            (s.endAttempt (some err)) := (Aside.refl _).emit rfl rfl
        exact (report s _).trans logged.booked
  exact (ended.trans (set _ _)).trans (slept _ _)

end Booked

/-- One event: besides the dispatch it ends, it books what it hands over. -/
theorem booked_of_step {opts : ConnectionOptions} {s s' : State} {e : Event}
    (after : opts.step s e = some s') :
    Booked { s with dispatching := e.undispatched s.dispatching } s' := by
  cases ledger_of_step opts after with
  | aside aside => exact aside.booked
  | ticked tick equal =>
      subst tick equal
      exact ⟨[], (List.append_nil _).symm, (List.append_nil _).symm⟩
  | started resumed _ _ equal =>
      subst resumed equal
      exact ⟨[], (List.append_nil _).symm, (List.append_nil _).symm⟩
  | connected enters equal =>
      subst equal
      have unended : e.undispatched s.dispatching = s.dispatching := by
        cases enters <;> rfl
      rw [unended]
      exact Booked.connect opts s _
  | backedOff _ _ event equal =>
      subst event equal
      exact Booked.backOff s _ _

/-! ### The frames of a request -/

def Effect.sent : Effect → Option (Nat × String)
  | .send ws frame => some (ws, frame)
  | _ => none

/-- The frames sent in between, with the sockets they went to. -/
def framesSent (s t : State) : List (Nat × String) :=
  (t.log.drop s.log.length).filterMap Effect.sent

theorem framesSent_of_append {s t : State} {more : List Effect} (grown : t.log = s.log ++ more) :
    framesSent s t = more.filterMap Effect.sent := by
  rw [framesSent, grown, List.drop_left]

/-- What a dispatch ends with. -/
def ConnectionOptions.answer (opts : ConnectionOptions) (localPort : Nat)
    (fetch : FetchCall → Option FetchResponse) (request : Request) : Option LocalResponse :=
  (dispatchRequest fetch request (opts.forwardCtx localPort)).map fun response =>
    ⟨response.status, response.headers, response.body⟩

/-- The frames are one response, which has the id of the request. -/
def AnsweredOnce (opts : ConnectionOptions) (ws : Nat) (request : Request)
    (frames : List (Nat × String)) : Prop :=
  ∃ response : Response, response.id = request.id ∧
    frames = [(ws, opts.wire.encodeClient (.response response))]

/-- Up to the dispatch no frame is sent. -/
theorem framesSent_handleFrame {opts : ConnectionOptions} {raw : String} {request : Request}
    (decodes : opts.wire.decodeServer raw = .envelope (.request request)) (s : State) (ws : Nat) :
    framesSent s (opts.handleFrame s ws raw) = [] := by
  have grown : (opts.handleFrame s ws raw).log = s.log ++ [.dispatch ws request] := by
    rw [ConnectionOptions.handleFrame, decodes]
    rfl
  rw [framesSent_of_append grown]
  rfl

/-- An open socket gets a response for an answer with a status in range, and
nothing for a dispatch that threw. -/
theorem answeredOnce_handleDispatched (opts : ConnectionOptions) {s : State} {ws : Nat}
    (opened : s.readyState ws = .opened) (request : Request) {answer : Option LocalResponse}
    (inRange : ∀ response, answer = some response → isInt32 response.status) :
    AnsweredOnce opts ws request (framesSent s (opts.handleDispatched s ws request answer)) ↔
      answer.isSome = true := by
  cases answer with
  | none =>
      have grown : (opts.handleDispatched s ws request none).log =
          s.log ++ [.log .warn "relay: handleFrame error"] := rfl
      rw [framesSent_of_append grown]
      refine iff_of_false ?_ Bool.false_ne_true
      rintro ⟨_, _, one⟩
      exact absurd one.symm (List.cons_ne_nil _ _)
  | some response =>
      have grown : (opts.handleDispatched s ws request (some response)).log =
          s.log ++ [.send ws (opts.wire.encodeClient
            (.response ⟨request.id, response.status, response.headers, response.body⟩))] := by
        simp only [ConnectionOptions.handleDispatched, if_pos (inRange response rfl), State.send,
          if_pos opened]
        rfl
      rw [framesSent_of_append grown]
      exact iff_of_true ⟨_, rfl, rfl⟩ rfl

/-! ### The condition -/

/-- The response to what `fetch` resolved to can be read and built. -/
structure FetchResponse.Answerable (resp : FetchResponse) : Prop where
  readable : ∀ stream, resp.body = some stream → stream.fails = true →
    MAX_BODY < stream.chunks.flatten.length
  own : ∀ name ∈ keptNames resp.headers, name ∉ INHERITED

theorem answerFetched_isSome_iff {id : String} {resp : FetchResponse} :
    (answerFetched id resp).isSome = true ↔ resp.Answerable := by
  have read : (readBody resp.body).isSome = true ↔
      ∀ stream, resp.body = some stream → stream.fails = true →
        MAX_BODY < stream.chunks.flatten.length := by
    cases resp.body with
    | none => simp [readBody]
    | some stream =>
        rw [readBody_some]
        by_cases failed : stream.fails = true ∧ stream.chunks.flatten.length ≤ MAX_BODY
        · rw [if_pos failed]
          exact iff_of_false Bool.false_ne_true fun all =>
            Nat.not_lt.mpr failed.2 (all stream rfl failed.1)
        · rw [if_neg failed]
          refine iff_of_true rfl fun other same fails => ?_
          obtain rfl := Option.some.inj same
          exact Nat.lt_of_not_le fun short => failed ⟨fails, short⟩
  have built : (responseHeaders .empty resp.headers.iterate).isSome = true ↔
      ∀ name ∈ keptNames resp.headers, name ∉ INHERITED := by
    have passed := responseHeaders_iterate resp.headers
    rw [← Option.isSome_map (f := OrderedMap.entries), passed]
    by_cases inherited : ((keptNames resp.headers).any fun name => name ∈ INHERITED) = true
    · rw [if_pos inherited]
      obtain ⟨name, kept, isIn⟩ := List.any_eq_true.mp inherited
      exact iff_of_false Bool.false_ne_true fun all => all name kept (of_decide_eq_true isIn)
    · rw [if_neg inherited]
      refine iff_of_true rfl fun name kept isIn => inherited ?_
      exact List.any_eq_true.mpr ⟨name, kept, decide_eq_true isIn⟩
  rw [answerFetched]
  cases buf : readBody resp.body with
  | none =>
      rw [buf] at read
      exact iff_of_false Bool.false_ne_true fun answerable =>
        Bool.false_ne_true (read.mpr answerable.readable)
  | some bytes =>
      rw [buf] at read
      rw [Option.bind_some, Option.isSome_map, built]
      exact ⟨fun own => ⟨read.mp rfl, own⟩, fun answerable => answerable.own⟩

/-- The dispatch of the request ends with an answer: unless it is refused before,
its headers are legal, and what `fetch` resolves to is answerable. -/
structure Answerable (opts : ConnectionOptions) (localPort : Nat)
    (fetch : FetchCall → Option FetchResponse) (request : Request) : Prop where
  legal : checkPath request.path = none →
    (base64Decode request.body.toList).length ≤ MAX_BODY → LegalHeaders request
  answerable : ∀ call resp, prepareRequest request (opts.forwardCtx localPort) = .calls call →
    fetch call = some resp → resp.Answerable

theorem answer_isSome_iff {opts : ConnectionOptions} {localPort : Nat}
    {fetch : FetchCall → Option FetchResponse} {request : Request} :
    (opts.answer localPort fetch request).isSome = true ↔
      Answerable opts localPort fetch request := by
  rw [ConnectionOptions.answer, Option.isSome_map, dispatchRequest]
  cases checked : checkPath request.path with
  | some status =>
      have refused := prepareRequest_of_refused (opts.forwardCtx localPort) checked
      rw [refused]
      refine iff_of_true rfl ⟨fun passes => absurd (checked.symm.trans passes) (by simp), ?_⟩
      exact fun _ _ calls => absurd (refused.symm.trans calls) (by simp)
  | none =>
      by_cases large : MAX_BODY < (base64Decode request.body.toList).length
      · have refused := prepareRequest_of_large (opts.forwardCtx localPort) checked large
        rw [refused]
        refine iff_of_true rfl ⟨fun _ small => absurd large (Nat.not_lt.mpr small), ?_⟩
        exact fun _ _ calls => absurd (refused.symm.trans calls) (by simp)
      · have small := Nat.not_lt.mp large
        rcases prepareRequest_of_checked opts localPort checked small with
          ⟨illegal, throws⟩ | ⟨legal, call, calls, _⟩
        · rw [throws]
          exact iff_of_false Bool.false_ne_true fun answerable =>
            illegal (answerable.legal checked small)
        · rw [calls]
          dsimp only
          cases fetched : fetch call with
          | none =>
              refine iff_of_true rfl ⟨fun _ _ => legal, ?_⟩
              intro call' resp calls' resolved
              obtain rfl := Prepared.calls.inj (calls.symm.trans calls')
              exact absurd (fetched.symm.trans resolved) (by simp)
          | some resp =>
              refine answerFetched_isSome_iff.trans
                ⟨fun answerable => ⟨fun _ _ => legal, ?_⟩,
                  fun answerable => answerable.answerable call resp calls fetched⟩
              intro call' resp' calls' resolved
              obtain rfl := Prepared.calls.inj (calls.symm.trans calls')
              obtain rfl := Option.some.inj (fetched.symm.trans resolved)
              exact answerable

/-- Every status is an `int32`: the four `dispatchRequest` sets, and those of three
digits that `fetch` reads. -/
theorem isInt32_of_answer {opts : ConnectionOptions} {localPort : Nat}
    {fetch : FetchCall → Option FetchResponse} {request : Request}
    (threeDigits : ∀ call resp, fetch call = some resp → resp.status < 1000)
    {answer : LocalResponse} (answers : opts.answer localPort fetch request = some answer) :
    isInt32 answer.status := by
  obtain ⟨response, dispatched, rfl⟩ := Option.map_eq_some_iff.mp answers
  change isInt32 response.status
  have small : ∃ status : Nat, response.status = status ∧ status < 1000 := by
    unfold dispatchRequest at dispatched
    split at dispatched
    · rename_i status refused
      obtain rfl := Option.some.inj dispatched
      refine ⟨status, rfl, ?_⟩
      cases checked : checkPath request.path with
      | some refusal =>
          rw [prepareRequest_of_refused _ checked] at refused
          obtain rfl := Prepared.refused.inj refused
          rcases status_of_checkPath checked with rfl | rfl <;> decide
      | none =>
          by_cases large : MAX_BODY < (base64Decode request.body.toList).length
          · rw [prepareRequest_of_large _ checked large] at refused
            obtain rfl := Prepared.refused.inj refused
            decide
          · rcases prepareRequest_of_checked opts localPort checked (Nat.not_lt.mp large) with
              ⟨_, throws⟩ | ⟨_, _, calls, _⟩
            · exact absurd (throws.symm.trans refused) (by simp)
            · exact absurd (calls.symm.trans refused) (by simp)
    · contradiction
    · split at dispatched
      · obtain rfl := Option.some.inj dispatched
        exact ⟨502, rfl, by decide⟩
      · rename_i call _ _ resp resolved
        obtain ⟨_, _, built⟩ := Option.bind_eq_some_iff.mp dispatched
        obtain ⟨_, _, rfl⟩ := Option.map_eq_some_iff.mp built
        exact ⟨resp.status, rfl, threeDigits call resp resolved⟩
  obtain ⟨status, same, bound⟩ := small
  rw [same, isInt32]
  omega

/-- The end of a dispatch. -/
theorem answeredOnce_of_step {opts : ConnectionOptions} {localPort : Nat}
    {fetch : FetchCall → Option FetchResponse}
    (threeDigits : ∀ call resp, fetch call = some resp → resp.status < 1000) {s s' : State}
    {ws index : Nat} {request : Request} (entry : s.dispatching[index]? = some (ws, request))
    (after : opts.step s (.dispatched index (opts.answer localPort fetch request)) = some s')
    (opened : s.readyState ws = .opened) :
    AnsweredOnce opts ws request (framesSent s s') ↔ Answerable opts localPort fetch request := by
  simp only [ConnectionOptions.step, entry, Option.some.injEq] at after
  subst after
  have still : State.readyState { s with dispatching := s.dispatching.eraseIdx index } ws =
      .opened := opened
  exact (answeredOnce_handleDispatched opts still request
    fun _ answers => isInt32_of_answer threeDigits answers).trans answer_isSome_iff

theorem exists_step_dispatched (opts : ConnectionOptions) {s : State} {index : Nat}
    {d : Nat × Request} (entry : s.dispatching[index]? = some d)
    (answer : Option LocalResponse) : ∃ s', opts.step s (.dispatched index answer) = some s' := by
  simp only [ConnectionOptions.step, entry]
  exact ⟨_, rfl⟩

/-- A request frame gets exactly one response, with its id, on the socket it came on
and which is still open when its dispatch ends, if and only if it is answerable. -/
theorem request_frame_answered (opts : ConnectionOptions) (localPort : Nat)
    {fetch : FetchCall → Option FetchResponse}
    (threeDigits : ∀ call resp, fetch call = some resp → resp.status < 1000)
    {events earlier : List Event} {s₀ s s' : State} {ws index : Nat} {raw : String}
    {request : Request} (decodes : opts.wire.decodeServer raw = .envelope (.request request))
    (entry : s.dispatching[index]? = some (ws, request))
    (ends : opts.machine.StepAt events earlier s
      (.dispatched index (opts.answer localPort fetch request)) s')
    (opened : s.readyState ws = .opened) :
    AnsweredOnce opts ws request
        (framesSent s₀ (opts.handleFrame s₀ ws raw) ++ framesSent s s') ↔
      Answerable opts localPort fetch request := by
  rw [framesSent_handleFrame decodes, List.nil_append]
  exact answeredOnce_of_step threeDigits entry ends.after opened

namespace Sample

/-- A request of the broker for a hook, with the given headers. -/
def hookRequest (headers : WireHeaders) : Request := ⟨"r1", "POST", "/hooks/x", headers, ""⟩

def hookFrame (headers : WireHeaders) : String :=
  jsonWire.encodeServer (.request (hookRequest headers))

/-- The daemon serves, and the request arrives. -/
def arriving (headers : WireHeaders) : List Event :=
  handshake ++ [.persisted none, .socket 1 (.message (hookFrame headers))]

theorem decodes (headers : WireHeaders) :
    options.wire.decodeServer (hookFrame headers) = .envelope (.request (hookRequest headers)) :=
  jsonWire_lawful.decodeServer_encodeServer (.request (hookRequest headers)) trivial

theorem serving : (options.machine.run (handshake ++ [.persisted none])).any (fun s =>
    decide (s.dispatching = []) && (s.sockets.get 1).any fun socket =>
      decide (socket.readyState = .opened ∧ socket.listeners.message = [.serve])) = true := by
  rw [Machine.run_append, run_handshake, Option.bind_some]
  decide +kernel

/-- The dispatch ends while the local server refuses the connection. -/
def refusedEnd (headers : WireHeaders) : Event :=
  .dispatched 0 (options.answer 8080 (fun _ => none) (hookRequest headers))

/-- The request is being dispatched, the dispatch can end, and the socket is open. -/
theorem ends (headers : WireHeaders) : ∃ s s',
    options.machine.run (arriving headers) = some s ∧ s.readyState 1 = .opened ∧
      s.dispatching[0]? = some (1, hookRequest headers) ∧
      options.step s (refusedEnd headers) = some s' := by
  obtain ⟨s, before, holds⟩ := (Option.any_eq_true _ _).mp serving
  rw [Bool.and_eq_true, decide_eq_true_eq, Option.any_eq_true] at holds
  obtain ⟨idle, socket, found, listens⟩ := holds
  obtain ⟨opened, listeners⟩ := of_decide_eq_true listens
  have heard : options.emitEvent s 1 socket (.message (hookFrame headers)) =
      (s.modifySocket 1 fun socket => socket).dispatch 1 (hookRequest headers) := by
    simp only [ConnectionOptions.emitEvent, Listeners.of, listeners, List.foldl_cons,
      List.foldl_nil, ConnectionOptions.runListener, ConnectionOptions.handleFrame, decodes]
    rfl
  have after : options.machine.step s (.socket 1 (.message (hookFrame headers))) =
      some ((s.modifySocket 1 fun socket => socket).dispatch 1 (hookRequest headers)) := by
    have possible : socket.canEmit (.message (hookFrame headers)) = true := by
      simp [Socket.canEmit, opened]
    simp only [ConnectionOptions.machine, ConnectionOptions.step, found, if_pos possible, heard]
  have ran := Machine.run_concat_of before after
  rw [List.append_assoc] at ran
  have entry : ((s.modifySocket 1 fun socket => socket).dispatch 1
      (hookRequest headers)).dispatching[0]? = some (1, hookRequest headers) := by
    simp [State.dispatch, State.emit, State.modifySocket, idle]
  have still : (s.modifySocket 1 fun socket => socket).readyState 1 = socket.readyState :=
    readyState_eq (by simp [State.modifySocket, OrderedMap.get_modify_self, found])
  obtain ⟨s', ended⟩ := exists_step_dispatched options entry
    (options.answer 8080 (fun _ => none) (hookRequest headers))
  exact ⟨_, s', ran, still.trans opened, entry, ended⟩

/-- A header name with a space in it. -/
def illegal : WireHeaders := OrderedMap.empty.set "bad header" ⟨["x"]⟩

end Sample

/-- The caller gets a response. -/
theorem request_frame_answered_refused : ∃ s s',
    Sample.options.machine.run (Sample.arriving .empty) = some s ∧
      AnsweredOnce Sample.options 1 (Sample.hookRequest .empty)
        (framesSent s (Sample.options.handleFrame s 1 (Sample.hookFrame .empty)) ++
          framesSent s s') := by
  obtain ⟨s, s', before, opened, entry, after⟩ := Sample.ends .empty
  have ends : Sample.options.machine.StepAt (Sample.arriving .empty ++ [Sample.refusedEnd .empty])
      (Sample.arriving .empty) s (Sample.refusedEnd .empty) s' :=
    Machine.stepAt_last before after
  have answerable : Answerable Sample.options 8080 (fun _ => none) (Sample.hookRequest .empty) :=
    ⟨fun _ _ _ member => absurd member List.not_mem_nil,
      fun _ _ _ resolved => absurd resolved (Option.some_ne_none _).symm⟩
  exact ⟨s, s', before, (request_frame_answered Sample.options 8080
    (fun _ _ resolved => absurd resolved (Option.some_ne_none _).symm) (Sample.decodes .empty)
    entry ends opened).mpr answerable⟩

/-- A header name that is not legal: the dispatch throws, and although the socket is
open no response is sent. -/
theorem illegal_header_unanswered : ∃ s s',
    Sample.options.machine.run (Sample.arriving Sample.illegal) = some s ∧
      s.readyState 1 = .opened ∧
      s.dispatching[0]? = some (1, Sample.hookRequest Sample.illegal) ∧
      Sample.options.step s (Sample.refusedEnd Sample.illegal) = some s' ∧
      ¬AnsweredOnce Sample.options 1 (Sample.hookRequest Sample.illegal)
        (framesSent s (Sample.options.handleFrame s 1 (Sample.hookFrame Sample.illegal)) ++
          framesSent s s') := by
  obtain ⟨s, s', before, opened, entry, after⟩ := Sample.ends Sample.illegal
  refine ⟨s, s', before, opened, entry, after, fun answered => ?_⟩
  rw [framesSent_handleFrame (Sample.decodes Sample.illegal), List.nil_append] at answered
  have answerable := (answeredOnce_of_step
    (fun _ _ resolved => absurd resolved (Option.some_ne_none _).symm) entry after
    opened).mp answered
  have legal := answerable.legal (by decide +kernel) (by decide +kernel) ("bad header", ⟨["x"]⟩)
    (by decide +kernel) (by decide +kernel) "x" (by decide)
  exact absurd legal (by decide +kernel)

end DicodeRelay.Client
