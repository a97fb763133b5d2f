import DicodeRelay.Client.Handshake
import DicodeRelay.Lib.Machine
import DicodeRelay.Lib.Timers
import DicodeRelay.Relay.Server
import Mathlib.Data.Rat.Floor

/-!
Contract: a daemon's connection to one broker instance as an event machine.

Owns:
- the reconnect loop, the attempts it makes and the promises each attempt
  awaits, with the code between two `await`s as one step;
- the listeners each part attaches to the socket and to the abort signal, and
  what they do;
- the backoff between attempts and the status that is reported.

Does not own: how a request is answered locally; several connections at once.
-/

namespace DicodeRelay.Client

open DicodeRelay.Lib DicodeRelay.Shared

/-! ### Backoff -/

def INITIAL_MS : Nat := 1000
def MAX_MS : Nat := 60000
def JITTER : Rat := 1 / 5
def MULT : Nat := 2

/-- `Math.round`. -/
def roundHalfUp (x : Rat) : Int := (x + 1 / 2).floor

/-- `next()`, where `draw` is what `Math.random()` answers: the wait and the
next base. -/
def nextBackoff (cur : Nat) (draw : Rat) : Int × Nat :=
  let jitter := 1 + (draw * 2 - 1) * JITTER
  (roundHalfUp (min (cur * jitter) (MAX_MS * (1 + JITTER))), min (cur * MULT) MAX_MS)

/-! ### Sockets -/

/-- Who listens to a socket: the handshake adapter, the dial, the watch for
admission close codes, the catch-all of a dial that is given up, the server of
requests. -/
inductive Listener where
  | adapter
  | dial
  | admission
  | swallow
  | serve
deriving DecidableEq

/-- The listeners of a socket's events, each in the order of attachment. -/
structure Listeners where
  opened : List Listener
  message : List Listener
  error : List Listener
  closed : List Listener
deriving DecidableEq

inductive SocketEvent where
  | opened
  | message (raw : String)
  | error (message : String)
  | closed (code : Nat)

namespace Listeners

/-- `adaptWs` on a new socket. -/
def adapted : Listeners := ⟨[], [.adapter], [.adapter], [.adapter]⟩

def attachDial (l : Listeners) : Listeners :=
  { l with
    opened := l.opened ++ [.dial], error := l.error ++ [.dial], closed := l.closed ++ [.dial] }

/-- The dial's `cleanup`. -/
def cleanupDial (l : Listeners) : Listeners :=
  { l with
    opened := l.opened.erase .dial, error := l.error.erase .dial
    closed := l.closed.erase .dial }

def attachSwallow (l : Listeners) : Listeners := { l with error := l.error ++ [.swallow] }

def removeSwallow (l : Listeners) : Listeners := { l with error := l.error.erase .swallow }

def attachAdmission (l : Listeners) : Listeners := { l with closed := l.closed ++ [.admission] }

def removeAdmission (l : Listeners) : Listeners := { l with closed := l.closed.erase .admission }

/-- The adapter's `detach`. -/
def detachAdapter (l : Listeners) : Listeners :=
  { l with
    message := l.message.erase .adapter, error := l.error.erase .adapter
    closed := l.closed.erase .adapter }

def attachServe (l : Listeners) : Listeners :=
  { l with
    message := l.message ++ [.serve], error := l.error ++ [.serve], closed := l.closed ++ [.serve] }

/-- The `cleanup` of `serve`. -/
def cleanupServe (l : Listeners) : Listeners :=
  { l with
    message := l.message.erase .serve, error := l.error.erase .serve
    closed := l.closed.erase .serve }

/-- The listeners an event runs. -/
def of (l : Listeners) : SocketEvent → List Listener
  | .opened => l.opened
  | .message _ => l.message
  | .error _ => l.error
  | .closed _ => l.closed

end Listeners

inductive ReadyState where
  | connecting
  | opened
  | closing
  | closed
deriving DecidableEq

structure Socket where
  readyState : ReadyState
  /-- `terminate()` has been called. -/
  terminated : Bool
  adapter : Adapter
  listeners : Listeners

namespace Socket

/-- A socket that is being dialled. -/
def dialled : Socket := ⟨.connecting, false, .empty, Listeners.adapted.attachDial⟩

def modifyListeners (w : Socket) (f : Listeners → Listeners) : Socket :=
  { w with listeners := f w.listeners }

def modifyAdapter (w : Socket) (f : Adapter → Adapter) : Socket :=
  { w with adapter := f w.adapter }

/-- `ws.terminate()`; an open socket emits `close` later. -/
def terminate (w : Socket) : Socket :=
  { w with
    terminated := true
    readyState := if w.readyState = .closed then .closed else .closing }

/-- The ready state with which the socket emits an event. -/
def emitting (w : Socket) : SocketEvent → Socket
  | .opened => { w with readyState := .opened }
  | .closed _ => { w with readyState := .closed }
  | _ => w

/-- Whether the socket can emit the event. -/
def canEmit (w : Socket) : SocketEvent → Bool
  | .opened => w.readyState = .connecting
  | .message _ => w.readyState = .opened ∨ w.readyState = .closing
  | .error _ => w.readyState ≠ .closed
  | .closed _ => w.readyState ≠ .closed

end Socket

/-! ### State -/

/-- Who listens for the abort: an attempt's dial, its serving phase, the sleep
after it. -/
inductive AbortListener where
  | dial (attempt : Nat)
  | serve (attempt : Nat)
  | backoff (attempt : Nat)
deriving DecidableEq

structure AbortSignal where
  aborted : Bool
  listeners : List AbortListener
deriving DecidableEq

structure RelayEndpointStatus where
  serverURL : String
  connected : Bool
  hookBaseURL : Option String
  brokerPubkey : Option String
  lastError : Option RunError
  lastConnectedAt : Option Nat
  reconnectAttempts : Nat
deriving DecidableEq

/-- How far `run` has come. An outcome `none` is a clean end. -/
inductive Phase where
  /-- It is about to test its loop condition. -/
  | looping
  | dialing (due : Nat)
  /-- The dial promise is fulfilled. -/
  | dialed
  /-- It awaits the race of the handshake with its timeout. -/
  | handshaking (due : Nat)
  /-- It awaits the consumer's `onBrokerPubkey`. -/
  | persisting (result : HandshakeResult)
  | serving
  /-- The body of `runOnce` is left, its `finally` is to come. -/
  | unwinding (outcome : Option RunError)
  /-- `runOnce` is settled. -/
  | ended (outcome : Option RunError)
  | sleeping (due : Nat)
  | done
deriving DecidableEq

inductive LogLevel where
  | info
  | warn
  | error
deriving DecidableEq

/-- What the connection does to the outside. -/
inductive Effect where
  | send (ws : Nat) (frame : String)
  /-- A call of `dispatchRequest`. -/
  | dispatch (ws : Nat) (request : Request)
  | report (status : RelayEndpointStatus)
  | log (level : LogLevel) (text : String)
deriving DecidableEq

/-- The status a connection reports, if the effect is a report. -/
def Effect.reported : Effect → Option RelayEndpointStatus
  | .report status => some status
  | _ => none

structure State where
  now : Nat
  signal : AbortSignal
  phase : Phase
  /-- How many attempts were started; the last one's number. -/
  attempt : Nat
  /-- The sockets of the attempts so far. -/
  sockets : OrderedMap Nat Socket
  startedAt : Nat
  backoff : Nat
  status : RelayEndpointStatus
  /-- The requests that are being dispatched, with the socket each came on. -/
  dispatching : List (Nat × Request)
  /-- Everything the connection did so far, oldest first. -/
  log : List Effect

/-- The reports of a connection, oldest first. -/
def State.reports (s : State) : List RelayEndpointStatus := s.log.filterMap Effect.reported

structure ConnectionOptions where
  serverURL : String
  identity : Identity
  /-- Whether the consumer gives an `onBrokerPubkey`. -/
  onBrokerPubkey : Bool
  dialTimeoutMs : Option Int
  handshakeTimeoutMs : Option Int
  crypto : Primitives
  wire : WireFormat

def STABLE_MS : Nat := 10000
def DIAL_TIMEOUT_MS : Int := 15000
def HANDSHAKE_TIMEOUT_MS : Int := 15000

def MTLS_CLOSE_MESSAGES : Nat → Option String
  | 4400 => some "broker rejected our hello frame"
  | 4401 => some ("broker did not receive our TLS client certificate — check that the tls " ++
      "option carries the identity cert/key and that no TLS-terminating proxy sits in front of " ++
      "the mTLS port")
  | 4402 => some "broker rejected our TLS client certificate: key is not P-256"
  | _ => none

namespace State

/-! ### Elementary changes -/

def emit (s : State) (effect : Effect) : State := { s with log := s.log ++ [effect] }

def enter (s : State) (phase : Phase) : State := { s with phase }

def modifySocket (s : State) (ws : Nat) (f : Socket → Socket) : State :=
  { s with sockets := s.sockets.modify ws f }

def setSignal (s : State) (signal : AbortSignal) : State := { s with signal }

def addAbortListener (s : State) (l : AbortListener) : State :=
  s.setSignal { s.signal with listeners := s.signal.listeners ++ [l] }

def removeAbortListener (s : State) (l : AbortListener) : State :=
  s.setSignal { s.signal with listeners := s.signal.listeners.filter (· ≠ l) }

def terminate (s : State) (ws : Nat) : State := s.modifySocket ws Socket.terminate

def setStatus (s : State) (status : RelayEndpointStatus) : State := { s with status }

/-- `report()`. -/
def report (s : State) : State := s.emit (.report s.status)

/-! ### Dialling -/

def cleanupDial (s : State) (ws : Nat) : State :=
  (s.modifySocket ws fun socket => socket.modifyListeners Listeners.cleanupDial)
    |>.removeAbortListener (.dial ws)

/-- The dial promise of the attempt is settled, unless it was before. -/
def settleDial (s : State) (ws : Nat) (outcome : Option RunError) : State :=
  match s.phase with
  | .dialing _ =>
      if s.attempt = ws then
        match outcome with
        | none => s.enter .dialed
        | some err => s.enter (.ended (some err))
      else s
  | _ => s

def terminateQuietly (s : State) (ws : Nat) : State :=
  (s.modifySocket ws fun socket => socket.modifyListeners Listeners.attachSwallow).terminate ws

/-- The dial is given up: its timeout, or the abort. -/
def giveUpDial (s : State) (ws : Nat) (err : RunError) : State :=
  ((s.cleanupDial ws).terminateQuietly ws).settleDial ws (some err)

/-! ### Serving -/

def cleanupServe (s : State) (ws : Nat) : State :=
  (s.modifySocket ws fun socket => socket.modifyListeners Listeners.cleanupServe)
    |>.removeAbortListener (.serve ws)

/-- The promise of `serve` is settled, unless it was before. -/
def settleServe (s : State) (ws : Nat) (outcome : Option RunError) : State :=
  if s.phase = .serving ∧ s.attempt = ws then s.enter (.unwinding outcome) else s

/-- The ready state of a socket. -/
def readyState (s : State) (ws : Nat) : ReadyState :=
  match s.sockets.get ws with
  | none => .closed
  | some socket => socket.readyState

/-- `serve(ws, signal)`. -/
def serve (s : State) (ws : Nat) : State :=
  if s.readyState ws = .closed then s.enter (.unwinding none)
  else
    ((s.addAbortListener (.serve ws)).modifySocket ws fun socket =>
      socket.modifyListeners Listeners.attachServe).enter .serving

/-- `ws.send(frame)`, which only an open socket puts on the wire. -/
def send (s : State) (ws : Nat) (frame : String) : State :=
  if s.readyState ws = .opened then s.emit (.send ws frame) else s

def dispatch (s : State) (ws : Nat) (request : Request) : State :=
  State.emit { s with dispatching := s.dispatching ++ [(ws, request)] } (.dispatch ws request)

end State

theorem readyState_eq {s : State} {ws : Nat} {socket : Socket}
    (found : s.sockets.get ws = some socket) : s.readyState ws = socket.readyState := by
  rw [State.readyState, found]

/-- `handleFrame` up to the dispatch. -/
def ConnectionOptions.handleFrame (opts : ConnectionOptions) (s : State) (ws : Nat)
    (raw : String) : State :=
  match opts.wire.decodeServer raw with
  | .invalidJson => s.emit (.log .warn "relay: malformed JSON from server")
  | .malformedEnvelope => s.emit (.log .warn "relay: malformed envelope")
  | .envelope (.request request) => s.dispatch ws request
  | .envelope _ => s

/-- What `dispatchRequest` answers with, under the id of its request. -/
structure LocalResponse where
  status : Int
  headers : WireHeaders
  body : String

/-- `handleFrame` from the end of the dispatch on; `none`: it threw. A status
that is no `int32` makes the encoder throw. -/
def ConnectionOptions.handleDispatched (opts : ConnectionOptions) (s : State) (ws : Nat)
    (request : Request) : Option LocalResponse → State
  | none => s.emit (.log .warn "relay: handleFrame error")
  | some response =>
      if isInt32 response.status then
        s.send ws (opts.wire.encodeClient
          (.response ⟨request.id, response.status, response.headers, response.body⟩))
      else s.emit (.log .warn "relay: handleFrame error")

/-! ### Socket events -/

/-- What a listener of the socket does with an event. -/
def ConnectionOptions.runListener (opts : ConnectionOptions) (s : State) (ws : Nat)
    (event : SocketEvent) (listener : Listener) : State :=
  match listener, event with
  | .adapter, .message raw =>
      s.modifySocket ws fun socket => socket.modifyAdapter fun a => a.onMessage raw
  | .adapter, .error message =>
      s.modifySocket ws fun socket => socket.modifyAdapter fun a => a.fail (.socket message)
  | .adapter, .closed code =>
      s.modifySocket ws fun socket =>
        socket.modifyAdapter fun a => a.fail (.closedDuringHandshake code)
  | .dial, .opened => (s.cleanupDial ws).settleDial ws none
  | .dial, .error message => (s.cleanupDial ws).settleDial ws (some (.socket message))
  | .dial, .closed _ => (s.cleanupDial ws).settleDial ws (some .closedBeforeOpen)
  | .admission, .closed code =>
      match MTLS_CLOSE_MESSAGES code with
      | none => s
      | some text => s.emit (.log .error ("relay: " ++ text))
  | .swallow, .error _ =>
      s.modifySocket ws fun socket => socket.modifyListeners Listeners.removeSwallow
  | .serve, .message raw => opts.handleFrame s ws raw
  | .serve, .error message => (s.cleanupServe ws).settleServe ws (some (.socket message))
  | .serve, .closed _ => (s.cleanupServe ws).settleServe ws none
  | _, _ => s

/-- The socket emits the event to the listeners it has at that moment. -/
def ConnectionOptions.emitEvent (opts : ConnectionOptions) (s : State) (ws : Nat)
    (socket : Socket) (event : SocketEvent) : State :=
  (socket.listeners.of event).foldl (fun s listener => opts.runListener s ws event listener)
    (s.modifySocket ws fun socket => socket.emitting event)

/-! ### The attempts -/

/-- `runOnce` up to its first `await`. -/
def ConnectionOptions.startAttempt (opts : ConnectionOptions) (s : State) : State :=
  let ws := s.attempt + 1
  { s with
    attempt := ws
    startedAt := s.now
    sockets := s.sockets.set ws .dialled
    signal := { s.signal with listeners := s.signal.listeners ++ [.dial ws] }
    phase := .dialing (s.now + timerDelay (opts.dialTimeoutMs.getD DIAL_TIMEOUT_MS)) }

/-- `runOnce` from the open socket to the race of the handshake with its
timeout. -/
def ConnectionOptions.beginHandshake (opts : ConnectionOptions) (s : State) : State :=
  let ws := s.attempt
  let s := s.modifySocket ws fun socket => socket.modifyListeners Listeners.attachAdmission
  let s := s.send ws (helloFrame opts.crypto opts.wire opts.identity)
  let s := s.modifySocket ws fun socket => socket.modifyAdapter Adapter.recv
  s.enter (.handshaking (s.now + timerDelay (opts.handshakeTimeoutMs.getD HANDSHAKE_TIMEOUT_MS)))

/-- The status after a handshake. -/
def RelayEndpointStatus.connect (status : RelayEndpointStatus) (result : HandshakeResult)
    (now : Nat) : RelayEndpointStatus :=
  { status with
    connected := true
    hookBaseURL := some result.hookBaseURL
    brokerPubkey := some result.brokerPubkey
    lastError := none
    lastConnectedAt := some (now / 1000) }

/-- The frames that wait in a socket's adapter. -/
def State.inbox (s : State) (ws : Nat) : List String :=
  match s.sockets.get ws with
  | none => []
  | some socket => socket.adapter.inbox

def State.warnReplayed (s : State) (leftover : List String) : State :=
  if leftover = [] then s
  else s.emit (.log .warn "relay: replayed buffered frames at handshake→serve")

/-- The adapter is detached, and what waits in it goes to `handleFrame`. -/
def ConnectionOptions.replay (opts : ConnectionOptions) (s : State) : State :=
  let ws := s.attempt
  let leftover := s.inbox ws
  let s := s.modifySocket ws fun socket =>
    (socket.modifyListeners Listeners.detachAdapter).modifyAdapter Adapter.detach
  leftover.foldl (fun s raw => opts.handleFrame s ws raw) (s.warnReplayed leftover)

/-- `runOnce` from the end of the handshake to the `await` of `serve`. -/
def ConnectionOptions.connect (opts : ConnectionOptions) (s : State)
    (result : HandshakeResult) : State :=
  let ws := s.attempt
  let s := opts.replay s
  let s := (s.setStatus (s.status.connect result s.now)).report
  (s.emit (.log .info "relay connected")).serve ws

/-- The handshake has answered. -/
def ConnectionOptions.endHandshake (opts : ConnectionOptions) (s : State) :
    Except RunError String → State
  | .error err => s.enter (.unwinding (some err))
  | .ok raw =>
      match readWelcome opts.crypto opts.wire opts.identity raw with
      | .error err => s.enter (.unwinding (some err))
      | .ok result =>
          if result.brokerPubkey = "" then opts.connect s result
          else s.enter (.persisting result)

/-- The `finally` of `runOnce`. -/
def State.unwind (s : State) (outcome : Option RunError) : State :=
  ((s.modifySocket s.attempt fun socket => socket.modifyListeners Listeners.removeAdmission)
    |>.terminate s.attempt).enter (.ended outcome)

/-- The status after an attempt. -/
def RelayEndpointStatus.disconnect (status : RelayEndpointStatus) :
    Option RunError → RelayEndpointStatus
  | none => { status with connected := false }
  | some err =>
      { status with
        connected := false
        lastError := some err
        reconnectAttempts := status.reconnectAttempts + 1 }

def State.setBackoff (s : State) (backoff : Nat) : State := { s with backoff }

/-- `run` from the end of an attempt to the choice of the wait. -/
def State.endAttempt (s : State) : Option RunError → State
  | none =>
      let s := if s.now - s.startedAt ≥ STABLE_MS then s.setBackoff INITIAL_MS else s
      (s.setStatus (s.status.disconnect none)).report
  | some err =>
      (s.setStatus (s.status.disconnect (some err))).report.emit (.log .warn "relay disconnected")

/-- The backoff sleep, which an abort that came before ends at once. -/
def State.sleep (s : State) (wait : Int) : State :=
  if s.signal.aborted then s.enter .looping
  else (s.addAbortListener (.backoff s.attempt)).enter (.sleeping (s.now + timerDelay wait))

/-- `run` from the end of an attempt to the backoff sleep. -/
def State.backOff (s : State) (outcome : Option RunError) (draw : Rat) : State :=
  let s := s.endAttempt outcome
  let next := nextBackoff s.backoff draw
  (s.setBackoff next.2).sleep next.1

/-! ### The abort -/

/-- The sleep after an attempt is over, if it still lasts. -/
def State.wake (s : State) (attempt : Nat) : State :=
  match s.phase with
  | .sleeping _ => if s.attempt = attempt then s.enter .looping else s
  | _ => s

def State.runAbortListener (s : State) : AbortListener → State
  | .dial ws => s.giveUpDial ws .aborted
  | .serve ws => s.terminate ws
  | .backoff attempt => s.wake attempt

/-- The signal is aborted: every listener runs, once. -/
def State.abort (s : State) : State :=
  if s.signal.aborted then s
  else s.signal.listeners.foldl State.runAbortListener (s.setSignal ⟨true, []⟩)

/-! ### Events -/

inductive Event where
  | socket (ws : Nat) (event : SocketEvent)
  /-- The peer's close frame arrived: the socket is no longer open. -/
  | peerClosing (ws : Nat)
  | dialTimer
  | handshakeTimer
  | sleepTimer
  /-- `run` goes on after a promise was settled. -/
  | resume
  /-- The consumer's `onBrokerPubkey` is settled; `some`: it rejected. -/
  | persisted (rejection : Option String)
  /-- `run` goes on after `runOnce`, with what `Math.random()` answers. -/
  | backOff (draw : Rat)
  /-- A dispatch has ended. -/
  | dispatched (index : Nat) (response : Option LocalResponse)
  | abort
  | tick (ms : Nat)

/-- Code that waits for a promise goes on. -/
def ConnectionOptions.resume (opts : ConnectionOptions) (s : State) : Option State :=
  match s.phase with
  | .looping => some (if s.signal.aborted then s.enter .done else opts.startAttempt s)
  | .dialed => some (opts.beginHandshake s)
  | .handshaking _ =>
      match (s.sockets.get s.attempt).bind fun socket => socket.adapter.answers.head? with
      | none => none
      | some answer => some (opts.endHandshake s answer)
  | .unwinding outcome => some (s.unwind outcome)
  | _ => none

/-- One event. `none`: it cannot happen in this state. -/
def ConnectionOptions.step (opts : ConnectionOptions) (s : State) : Event → Option State
  | .socket ws event =>
      match s.sockets.get ws with
      | none => none
      | some socket =>
          if socket.canEmit event then some (opts.emitEvent s ws socket event) else none
  | .peerClosing ws =>
      if s.readyState ws = .opened then
        some (s.modifySocket ws fun socket => { socket with readyState := .closing })
      else none
  | .dialTimer =>
      match s.phase with
      | .dialing due => if due ≤ s.now then some (s.giveUpDial s.attempt .dialTimeout) else none
      | _ => none
  | .handshakeTimer =>
      match s.phase with
      | .handshaking due =>
          if due ≤ s.now then some (s.enter (.unwinding (some .handshakeTimeout))) else none
      | _ => none
  | .sleepTimer =>
      match s.phase with
      | .sleeping due => if due ≤ s.now then some (s.wake s.attempt) else none
      | _ => none
  | .resume => opts.resume s
  | .persisted rejection =>
      match s.phase with
      | .persisting result =>
          match rejection with
          | none => some (opts.connect s result)
          | some message =>
              if opts.onBrokerPubkey then some (s.enter (.unwinding (some (.consumer message))))
              else none
      | _ => none
  | .backOff draw =>
      match s.phase with
      | .ended outcome =>
          if 0 ≤ draw ∧ draw < 1 then some (s.backOff outcome draw) else none
      | _ => none
  | .dispatched index response =>
      match s.dispatching[index]? with
      | none => none
      | some (ws, request) =>
          some (opts.handleDispatched { s with dispatching := s.dispatching.eraseIdx index } ws
            request response)
  | .abort => some s.abort
  | .tick ms => some { s with now := s.now + ms }

def State.init (opts : ConnectionOptions) : State where
  now := 0
  signal := ⟨false, []⟩
  phase := .looping
  attempt := 0
  sockets := .empty
  startedAt := 0
  backoff := INITIAL_MS
  status := ⟨opts.serverURL, false, none, none, none, none, 0⟩
  dispatching := []
  log := []

/-- The runs of a connection. -/
def ConnectionOptions.machine (opts : ConnectionOptions) : Machine State Event where
  init := State.init opts
  step := opts.step

/-- The first attempt of every connection opens with the hello. -/
theorem ConnectionOptions.greeting (opts : ConnectionOptions) : ∃ c₁ c₂ c₃ due,
    opts.step (State.init opts) .resume = some c₁ ∧ c₁.phase = .dialing due ∧ c₁.attempt = 1 ∧
      c₁.log = [] ∧ opts.step c₁ (.socket 1 .opened) = some c₂ ∧ c₂.log = [] ∧
      opts.step c₂ .resume = some c₃ ∧
      c₃.log = [.send 1 (helloFrame opts.crypto opts.wire opts.identity)] :=
  ⟨opts.startAttempt (State.init opts), _, _, _, rfl, rfl, rfl, rfl, rfl, rfl, rfl, rfl⟩

/-- A welcome that the handshake accepts goes to the consumer. -/
theorem ConnectionOptions.step_welcomed (opts : ConnectionOptions) {s : State} {due : Nat}
    {raw : String} {result : HandshakeResult} (handshaking : s.phase = .handshaking due)
    (answered : ((s.sockets.get s.attempt).bind fun socket => socket.adapter.answers.head?) =
      some (.ok raw))
    (read : readWelcome opts.crypto opts.wire opts.identity raw = .ok result)
    (announced : result.brokerPubkey ≠ "") :
    opts.machine.step s .resume = some (s.enter (.persisting result)) := by
  simp only [machine, step, resume, handshaking, answered, endHandshake, read, if_neg announced]

/-! ### A daemon and its broker -/

namespace Sample

open DicodeRelay.Relay.Sample

/-- The relay's primitives, with the daemon's key pairs. -/
def primitives : Primitives :=
  { Relay.Sample.primitives with
    publicPoint := fun key => if key = [1] then signPointA else decryptPointA }

def options : ConnectionOptions where
  serverURL := "wss://relay.example:5553"
  identity := ⟨[1], [2]⟩
  onBrokerPubkey := true
  dialTimeoutMs := none
  handshakeTimeoutMs := none
  crypto := primitives
  wire := jsonWire

/-- The broker, which announces its key. -/
def broker : Relay.RelayServer :=
  { Relay.Sample.server with brokerPubkey := some "BGsX0fLhLEJH" }

def welcomeFrame : String := jsonWire.encodeServer (.welcome (broker.welcome uuidA))

/-- What the daemon makes of the welcome. -/
def welcomed : HandshakeResult := ⟨(broker.welcome uuidA).url, "BGsX0fLhLEJH"⟩

theorem readWelcome_welcomeFrame :
    readWelcome primitives jsonWire options.identity welcomeFrame = .ok welcomed := by
  rw [welcomeFrame, readWelcome_encodeServer jsonWire_lawful options.identity _
    (broker.welcome_wellTyped uuidA)]
  decide +kernel

/-- The first attempt up to the consumer's `onBrokerPubkey`. -/
def handshake : List Event :=
  [.resume, .socket 1 .opened, .resume, .socket 1 (.message welcomeFrame), .resume]

/-- The welcome has arrived. -/
def answered : State where
  now := 0
  signal := ⟨false, []⟩
  phase := .handshaking 15000
  attempt := 1
  sockets := OrderedMap.empty.set 1 {
    readyState := .opened
    terminated := false
    adapter := { Adapter.empty with answers := [.ok welcomeFrame] }
    listeners := ⟨[], [.adapter], [.adapter], [.adapter, .admission]⟩ }
  startedAt := 0
  backoff := INITIAL_MS
  status := (State.init options).status
  dispatching := []
  log := [.send 1 (helloFrame primitives jsonWire options.identity)]

/-- The daemon awaits its consumer. -/
def awaiting : State := answered.enter (.persisting welcomed)

theorem run_answered : options.machine.run (handshake.take 4) = some answered := rfl

theorem run_handshake : options.machine.run handshake = some awaiting := by
  have handshaking : answered.phase = .handshaking 15000 := rfl
  have answer : ((answered.sockets.get answered.attempt).bind fun socket =>
      socket.adapter.answers.head?) = some (.ok welcomeFrame) := rfl
  have announced : welcomed.brokerPubkey ≠ "" := by decide
  have split : handshake = handshake.take 4 ++ [.resume] := rfl
  rw [split, Machine.run_concat, run_answered, Option.bind_some]
  exact options.step_welcomed handshaking answer readWelcome_welcomeFrame announced

end Sample

end DicodeRelay.Client
