import DicodeRelay.Relay.Server

/-!
Contract: the cases of one event of a relay server.

Owns:
- when an event is a hello that the server accepts;
- the inversion of `RelayServer.step`: which listener ran, what it found, and
  the operation the state went through.

Does not own: what an operation leaves alone.
-/

namespace DicodeRelay.Relay

open DicodeRelay.Lib DicodeRelay.Shared

/-- The socket got past admission with this certificate point. -/
def State.Admitted (s : State) (ws : ConnId) (conn : Conn) (certPoint : Bytes) : Prop :=
  s.conns.get ws = some conn ∧ conn.certPoint = some certPoint

/-- The event delivers a hello that `validateDecryptPubkey` accepts on the
socket `ws`, which has not registered and has the certificate point
`certPoint`. -/
structure HelloAccepted (server : RelayServer) (s : State) (e : Event) (ws : ConnId)
    (certPoint : Bytes) (hello : Hello) : Prop where
  delivered : ∃ frame, e = .message ws frame ∧
    server.wire.decodeClient frame = .envelope (.hello hello)
  unregistered : ∃ conn, s.conns.get ws = some conn ∧ conn.certPoint = some certPoint ∧
    conn.registeredUuid = none
  valid : server.validateDecryptPubkey hello = none

/-- One event, listener by listener. -/
inductive StepCase (server : RelayServer) (s : State) : Event → State → Prop where
  | connected {ws : ConnId} {peerCert : Option PeerCertificate} (fresh : s.conns.get ws = none)
      (running : s.closing = false) :
      StepCase server s (.connection ws peerCert) (server.handleConnection s ws peerCert)
  /-- A frame or pong that no listener hears, or that a listener drops. -/
  | ignored (e : Event) (noHello : ∀ ws certPoint hello,
      ¬ HelloAccepted server s e ws certPoint hello) : StepCase server s e s
  /-- Whoever sends no JSON is turned away; who has not registered, also for
  anything but a valid hello. -/
  | turnedAway {ws : ConnId} {frame : String} (live : s.live ws = true)
      (cause : server.wire.decodeClient frame = .invalidJson ∨
        ∃ conn, s.conns.get ws = some conn ∧ conn.registeredUuid = none)
      (error : String) (code : Option Nat) (reason : String) (noHello : ∀ certPoint hello,
        ¬ HelloAccepted server s (.message ws frame) ws certPoint hello) :
      StepCase server s (.message ws frame)
        ((server.sendError s ws error).closeSocket ws code reason)
  | registered {ws : ConnId} {frame : String} {certPoint : Bytes} {hello : Hello}
      (live : s.live ws = true)
      (accepted : HelloAccepted server s (.message ws frame) ws certPoint hello) :
      StepCase server s (.message ws frame) (server.register s ws certPoint hello)
  | answered {ws : ConnId} {frame : String} {conn : Conn} {certPoint : Bytes}
      (live : s.live ws = true) (admitted : s.Admitted ws conn certPoint)
      (member : conn.registeredUuid ≠ none) (response : Response)
      (decoded : server.wire.decodeClient frame = .envelope (.response response)) :
      StepCase server s (.message ws frame) (s.handleResponse response)
  | ponged {ws : ConnId} {conn : Conn} {certPoint : Bytes} (live : s.live ws = true)
      (admitted : s.Admitted ws conn certPoint) :
      StepCase server s (.pong ws) (s.handlePong ws)
  | failedEarly {ws : ConnId} (live : s.live ws = true)
      (unadmitted : ∀ conn certPoint, ¬ s.Admitted ws conn certPoint) :
      StepCase server s (.wsError ws) (s.terminate ws)
  | failed {ws : ConnId} {conn : Conn} {certPoint : Bytes} (live : s.live ws = true)
      (admitted : s.Admitted ws conn certPoint) :
      StepCase server s (.wsError ws) ((s.terminate ws).cleanup ws)
  | closedEarly {ws : ConnId} (live : s.live ws = true)
      (unadmitted : ∀ conn certPoint, ¬ s.Admitted ws conn certPoint) :
      StepCase server s (.wsClose ws) (s.socketClosed ws)
  | closed {ws : ConnId} {conn : Conn} {certPoint : Bytes} (live : s.live ws = true)
      (admitted : s.Admitted ws conn certPoint) :
      StepCase server s (.wsClose ws) ((s.socketClosed ws).cleanup ws)
  | peerClosing {ws : ConnId} (live : s.live ws = true) :
      StepCase server s (.peerClosing ws) (s.modifyConn ws State.startClosing)
  | timedOut {timer due : Nat} {id : String}
      (armed : s.requestTimers.get timer = some ⟨due, id⟩) (late : due ≤ s.now) :
      StepCase server s (.requestTimer timer) ((s.clearRequestTimer timer).requestTimeout id)
  | pinged {timer due : Nat} {ws : ConnId} (armed : s.pingTimers.get timer = some ⟨due, ws⟩)
      (late : due ≤ s.now) :
      StepCase server s (.pingTimer timer)
        (server.pingInterval (s.repeatPingTimer server.pingIntervalMs timer) ws)
  | pongMissed {timer due : Nat} {ws : ConnId}
      (armed : s.pongTimers.get timer = some ⟨due, ws⟩) (late : due ≤ s.now) :
      StepCase server s (.pongTimer timer) ((s.clearPongTimer timer).pongTimeout ws)
  | ticked (ms : Nat) : StepCase server s (.tick ms) { s with now := s.now + ms }
  | forwarded (uuid method path : String) (headers : Headers) (body : Bytes) {id : String}
      (bufferedAmount : Nat) (fresh : s.issued.get id = none) :
      StepCase server s (.forward uuid method path headers body id bufferedAmount)
        (server.forward (s.issue id uuid) uuid method path headers body id bufferedAmount)
  | shutDown : StepCase server s .close s.close

theorem State.dueTimer_late {Payload : Type} {s : State} {timers : Timers Payload}
    {timer : Nat} {payload : Payload} (due : s.dueTimer timers timer = some payload) :
    ∃ time, timers.get timer = some ⟨time, payload⟩ ∧ time ≤ s.now := by
  unfold dueTimer at due
  split at due
  · contradiction
  · rename_i t armed
    split at due
    · rename_i late
      obtain rfl := Option.some.inj due
      exact ⟨t.due, armed, late⟩
    · contradiction

/-- What `whenAdmitted` ran. -/
theorem State.whenAdmitted_cases (s : State) (ws : ConnId) (listener : Conn → Bytes → State) :
    (∃ conn certPoint, s.Admitted ws conn certPoint ∧
      s.whenAdmitted ws listener = listener conn certPoint) ∨
    ((∀ conn certPoint, ¬ s.Admitted ws conn certPoint) ∧ s.whenAdmitted ws listener = s) := by
  unfold State.whenAdmitted
  split
  · rename_i absent
    right
    refine ⟨?_, rfl⟩
    intro conn certPoint admitted
    have present := admitted.1
    rw [absent] at present
    contradiction
  · rename_i conn found
    split
    · rename_i unadmitted
      right
      refine ⟨?_, rfl⟩
      intro other certPoint admitted
      have certified := admitted.2
      rw [← Option.some.inj (found.symm.trans admitted.1), unadmitted] at certified
      contradiction
    · rename_i certPoint certified
      exact Or.inl ⟨conn, certPoint, ⟨found, certified⟩, rfl⟩

/-- Closing a socket does not change whether it was admitted. -/
theorem State.admitted_modifyConn (s : State) (ws : ConnId) {f : Conn → Conn}
    (keeps : ∀ conn, (f conn).certPoint = conn.certPoint) (certPoint : Bytes) :
    (∃ conn, (s.modifyConn ws f).Admitted ws conn certPoint) ↔
      ∃ conn, s.Admitted ws conn certPoint := by
  unfold Admitted State.modifyConn
  cases found : s.conns.get ws with
  | none => simp [found]
  | some conn => simp [keeps]

theorem State.certPoint_startClosing (conn : Conn) :
    (State.startClosing conn).certPoint = conn.certPoint := by
  unfold State.startClosing
  split <;> rfl

theorem State.log_modifyConn (s : State) (ws : ConnId) (f : Conn → Conn) :
    (s.modifyConn ws f).log = s.log := by
  unfold State.modifyConn
  split <;> rfl

namespace RelayServer

variable {server : RelayServer} {s s' : State}

/-- The `message` listener of an admitted socket. -/
theorem stepCase_of_handleMessage {ws : ConnId} {conn : Conn} {certPoint : Bytes}
    {frame : String} (live : s.live ws = true) (admitted : s.Admitted ws conn certPoint) :
    StepCase server s (.message ws frame) (server.handleMessage s ws conn certPoint frame) := by
  obtain ⟨found, certified⟩ := admitted
  -- A hello is accepted on this socket only as this frame, before it registers.
  have refused : (∀ hello, server.wire.decodeClient frame = .envelope (.hello hello) →
      conn.registeredUuid = none → server.validateDecryptPubkey hello ≠ none) →
      ∀ other point hello, ¬ HelloAccepted server s (.message ws frame) other point hello := by
    intro invalid other point hello accepted
    obtain ⟨⟨_, sameEvent, decoded⟩, ⟨otherConn, sameConn, _, unregistered⟩, valid⟩ := accepted
    cases sameEvent
    rw [found] at sameConn
    obtain rfl := Option.some.inj sameConn
    exact invalid hello decoded unregistered valid
  unfold handleMessage
  split
  · rename_i decoded
    apply StepCase.turnedAway live (Or.inl decoded)
    intro point hello
    apply refused
    intro other same
    rw [decoded] at same
    contradiction
  · rename_i decoded
    have noHello : ∀ hello, server.wire.decodeClient frame = .envelope (.hello hello) →
        conn.registeredUuid = none → server.validateDecryptPubkey hello ≠ none := by
      intro other same
      rw [decoded] at same
      contradiction
    split
    · rename_i unregistered
      apply StepCase.turnedAway live (Or.inr ⟨conn, found, unregistered⟩)
      intro point hello
      exact refused noHello _ _ _
    · apply StepCase.ignored
      exact refused noHello
  · rename_i envelope decoded
    split
    · rename_i unregistered
      unfold handleHello
      split
      · rename_i hello
        split
        · rename_i err invalid
          apply StepCase.turnedAway live (Or.inr ⟨conn, found, unregistered⟩)
          intro point other
          apply refused
          intro same sameDecoded _
          rw [decoded] at sameDecoded
          cases sameDecoded
          simp [invalid]
        · rename_i valid
          apply StepCase.registered live
          exact ⟨⟨frame, rfl, decoded⟩, ⟨conn, found, certified, unregistered⟩, valid⟩
      · rename_i notHello
        apply StepCase.turnedAway live (Or.inr ⟨conn, found, unregistered⟩)
        intro point other
        apply refused
        intro hello sameDecoded _
        rw [decoded] at sameDecoded
        cases sameDecoded
        exact absurd rfl (notHello hello)
    · rename_i member
      split
      · rename_i response
        exact .answered live ⟨found, certified⟩ member response decoded
      · apply StepCase.ignored
        apply refused
        intro _ _ unregistered
        exact absurd unregistered member

/-- Every event is one of the cases. -/
theorem stepCase_of_step {e : Event} (after : server.step s e = some s') :
    StepCase server s e s' := by
  have unheard : ∀ {e : Event}, (∀ ws frame, e ≠ .message ws frame) →
      ∀ ws certPoint hello, ¬ HelloAccepted server s e ws certPoint hello := by
    intro e noMessage ws certPoint hello accepted
    obtain ⟨frame, isMessage, _⟩ := accepted.delivered
    exact noMessage ws frame isMessage
  cases e with
  | connection ws peerCert =>
      simp only [step, Option.ite_none_right_eq_some, Option.some.injEq,
        Option.isNone_iff_eq_none] at after
      obtain ⟨⟨fresh, running⟩, rfl⟩ := after
      exact .connected fresh running
  | message ws frame =>
      simp only [step, Option.ite_none_right_eq_some, Option.some.injEq] at after
      obtain ⟨live, rfl⟩ := after
      rcases State.whenAdmitted_cases s ws (fun conn certPoint =>
        server.handleMessage s ws conn certPoint frame) with
        ⟨conn, certPoint, admitted, ran⟩ | ⟨unadmitted, skipped⟩
      · rw [ran]
        exact stepCase_of_handleMessage live admitted
      · rw [skipped]
        apply StepCase.ignored
        intro other certPoint hello accepted
        obtain ⟨_, sameEvent, _⟩ := accepted.delivered
        cases sameEvent
        obtain ⟨conn, found, certified, _⟩ := accepted.unregistered
        exact unadmitted conn certPoint ⟨found, certified⟩
  | pong ws =>
      simp only [step, Option.ite_none_right_eq_some, Option.some.injEq] at after
      obtain ⟨live, rfl⟩ := after
      rcases State.whenAdmitted_cases s ws (fun _ _ => s.handlePong ws) with
        ⟨conn, certPoint, admitted, ran⟩ | ⟨_, skipped⟩
      · rw [ran]
        exact .ponged live admitted
      · rw [skipped]
        apply StepCase.ignored
        exact unheard (by simp)
  | wsError ws =>
      simp only [step, Option.ite_none_right_eq_some, Option.some.injEq] at after
      obtain ⟨live, rfl⟩ := after
      have same := (s.emit (.terminate ws)).admitted_modifyConn ws State.certPoint_startClosing
      rcases State.whenAdmitted_cases (s.terminate ws) ws
        (fun _ _ => (s.terminate ws).cleanup ws) with
        ⟨conn, certPoint, admitted, ran⟩ | ⟨unadmitted, skipped⟩
      · rw [ran]
        obtain ⟨before, admittedBefore⟩ := (same certPoint).mp ⟨conn, admitted⟩
        exact .failed live admittedBefore
      · rw [skipped]
        apply StepCase.failedEarly live
        intro conn certPoint admitted
        obtain ⟨later, admittedLater⟩ := (same certPoint).mpr ⟨conn, admitted⟩
        exact unadmitted later certPoint admittedLater
  | wsClose ws =>
      simp only [step, Option.ite_none_right_eq_some, Option.some.injEq] at after
      obtain ⟨live, rfl⟩ := after
      have same := s.admitted_modifyConn ws
        (f := fun conn => { conn with readyState := .closed, closeEmitted := true }) fun _ => rfl
      rcases State.whenAdmitted_cases (s.socketClosed ws) ws
        (fun _ _ => (s.socketClosed ws).cleanup ws) with
        ⟨conn, certPoint, admitted, ran⟩ | ⟨unadmitted, skipped⟩
      · rw [ran]
        obtain ⟨before, admittedBefore⟩ := (same certPoint).mp ⟨conn, admitted⟩
        exact .closed live admittedBefore
      · rw [skipped]
        apply StepCase.closedEarly live
        intro conn certPoint admitted
        obtain ⟨later, admittedLater⟩ := (same certPoint).mpr ⟨conn, admitted⟩
        exact unadmitted later certPoint admittedLater
  | peerClosing ws =>
      simp only [step, Option.ite_none_right_eq_some, Option.some.injEq] at after
      obtain ⟨live, rfl⟩ := after
      exact .peerClosing live
  | requestTimer timer =>
      simp only [step, Option.map_eq_some_iff] at after
      obtain ⟨id, due, rfl⟩ := after
      obtain ⟨time, armed, late⟩ := State.dueTimer_late due
      exact .timedOut armed late
  | pingTimer timer =>
      simp only [step, Option.map_eq_some_iff] at after
      obtain ⟨ws, due, rfl⟩ := after
      obtain ⟨time, armed, late⟩ := State.dueTimer_late due
      exact .pinged armed late
  | pongTimer timer =>
      simp only [step, Option.map_eq_some_iff] at after
      obtain ⟨ws, due, rfl⟩ := after
      obtain ⟨time, armed, late⟩ := State.dueTimer_late due
      exact .pongMissed armed late
  | tick ms =>
      obtain rfl := Option.some.inj after
      exact .ticked ms
  | forward uuid method path headers body id bufferedAmount =>
      simp only [step, Option.ite_none_right_eq_some, Option.some.injEq,
        Option.isNone_iff_eq_none] at after
      obtain ⟨fresh, rfl⟩ := after
      exact .forwarded uuid method path headers body bufferedAmount fresh
  | close =>
      obtain rfl := Option.some.inj after
      exact .shutDown

end RelayServer

end DicodeRelay.Relay
