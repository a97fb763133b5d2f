import DicodeRelay.Client.Identity
import DicodeRelay.Lib.Text
import DicodeRelay.Shared.Protocol

/-!
Contract: the handshake of a daemon with a broker, and the frames it reads.

Owns:
- the errors a connection attempt ends with;
- the hello frame and the checks of the frame that answers it;
- the adapter that turns the socket's events into `recv` calls, and its law:
  what arrived is what `recv` answered, then what waits.

Does not own: the socket; when `recv` is called.
-/

namespace DicodeRelay.Client

open DicodeRelay.Lib DicodeRelay.Shared

/-- Why an attempt ended. -/
inductive RunError where
  | dialTimeout
  | aborted
  | closedBeforeOpen
  | handshakeTimeout
  | closedDuringHandshake (code : Nat)
  | invalidJson
  | malformedEnvelope
  | challenge
  | rejected (message : String)
  | unexpected (case : String)
  | protocolTooOld (protocol : Int)
  | foreignUrl (url : String)
  /-- An `error` event of the socket. -/
  | socket (message : String)
  /-- The consumer's `onBrokerPubkey` rejected. -/
  | consumer (message : String)
deriving DecidableEq

def BROKER_PROTOCOL_MIN : Int := 4

/-- The message of an error; `none` where the JSON libraries choose it. -/
def RunError.message : RunError → Option String
  | .dialTimeout => some "dial timeout"
  | .aborted => some "aborted"
  | .closedBeforeOpen => some "closed before open"
  | .handshakeTimeout => some "handshake timeout"
  | .closedDuringHandshake code =>
      some ("socket closed during handshake (code " ++ toString code ++ ")")
  | .invalidJson => none
  | .malformedEnvelope => none
  | .challenge => some ("relay: broker sent a handshake challenge — it is running dicode-relay " ++
      "< 0.2.0, which this client no longer supports. Upgrade the broker.")
  | .rejected message => some ("relay rejected handshake: " ++ message)
  | .unexpected case => some ("unexpected " ++ case ++ " after hello")
  | .protocolTooOld protocol => some ("broker protocol " ++ toString protocol ++
      " too old — require >= " ++ toString BROKER_PROTOCOL_MIN)
  | .foreignUrl url => some ("relay: welcome URL does not contain our uuid — client " ++
      "certificate and identity are out of sync (url: " ++ url ++ ")")
  | .socket message => some message
  | .consumer message => some message

/-! ### The handshake -/

structure HandshakeResult where
  hookBaseURL : String
  brokerPubkey : String
deriving DecidableEq

/-- The frame the client speaks first. -/
def helloFrame (crypto : Primitives) (wire : WireFormat) (identity : Identity) : String :=
  wire.encodeClient (.hello ⟨identity.decryptPubkeyB64 crypto⟩)

/-- The checks of a welcome. -/
def checkWelcome (uuid : String) (welcome : Welcome) : Except RunError HandshakeResult :=
  if welcome.protocol.getD 0 < BROKER_PROTOCOL_MIN then
    .error (.protocolTooOld (welcome.protocol.getD 0))
  else if !includes welcome.url ("/u/" ++ uuid ++ "/") then .error (.foreignUrl welcome.url)
  else .ok ⟨welcome.url, welcome.brokerPubkey.getD ""⟩

/-- `runHandshake` from the answer `welcomeRaw` on. -/
def readWelcome (crypto : Primitives) (wire : WireFormat) (identity : Identity)
    (welcomeRaw : String) : Except RunError HandshakeResult :=
  match wire.decodeServer welcomeRaw with
  | .invalidJson => .error .invalidJson
  | decoded =>
      if wire.hasChallengeKey welcomeRaw then .error .challenge
      else
        match decoded with
        | .envelope (.error error) => .error (.rejected error.message)
        | .envelope (.welcome welcome) => checkWelcome (identity.uuid crypto) welcome
        | .envelope (.request _) => .error (.unexpected "request")
        | .envelope .unset => .error (.unexpected "undefined")
        | _ => .error .malformedEnvelope

/-- A handshake that succeeds has read a welcome. -/
theorem welcome_of_readWelcome {crypto : Primitives} {wire : WireFormat} {identity : Identity}
    {raw : String} {result : HandshakeResult}
    (read : readWelcome crypto wire identity raw = .ok result) :
    ∃ welcome, wire.decodeServer raw = .envelope (.welcome welcome) := by
  unfold readWelcome at read
  split at read
  · contradiction
  · split at read
    · contradiction
    · split at read
      · contradiction
      · rename_i welcome decoded
        exact ⟨welcome, decoded⟩
      · contradiction
      · contradiction
      · contradiction

/-- A welcome is read as it was sent. -/
theorem readWelcome_encodeServer {crypto : Primitives} {wire : WireFormat} (lawful : wire.Lawful)
    (identity : Identity) (welcome : Welcome)
    (wellTyped : (ServerMessage.welcome welcome).WellTyped) :
    readWelcome crypto wire identity (wire.encodeServer (.welcome welcome)) =
      checkWelcome (identity.uuid crypto) welcome := by
  rw [readWelcome, lawful.decodeServer_encodeServer _ wellTyped,
    lawful.hasChallengeKey_encodeServer]
  rfl

/-! ### The adapter -/

/-- The closure of `adaptWs`. Frames wait in `inbox` or `recv` calls do. -/
structure Adapter where
  inbox : List String
  /-- How many `recv` calls wait. -/
  waiters : Nat
  failure : Option RunError
  /-- What the other `recv` calls came to, in the order of the calls. -/
  answers : List (Except RunError String)
  exclusive : inbox = [] ∨ waiters = 0

namespace Adapter

def empty : Adapter := ⟨[], 0, none, [], Or.inl rfl⟩

/-- The `message` listener. -/
def onMessage (a : Adapter) (raw : String) : Adapter :=
  if idle : a.waiters = 0 then
    { a with inbox := a.inbox ++ [raw], exclusive := Or.inr idle }
  else
    { a with
      waiters := a.waiters - 1
      answers := a.answers ++ [.ok raw]
      exclusive := Or.inl (a.exclusive.resolve_right idle) }

/-- `fail`, which both the `error` and the `close` listener call. -/
def fail (a : Adapter) (err : RunError) : Adapter where
  inbox := a.inbox
  waiters := 0
  failure := a.failure.or (some err)
  answers := a.answers ++ List.replicate a.waiters (.error err)
  exclusive := Or.inr rfl

/-- `sock.recv()`. -/
def recv (a : Adapter) : Adapter :=
  match a.failure with
  | some err => { a with answers := a.answers ++ [.error err] }
  | none =>
      match waiting : a.inbox with
      | [] => { a with waiters := a.waiters + 1, exclusive := Or.inl waiting }
      | raw :: rest =>
          { a with
            inbox := rest
            answers := a.answers ++ [.ok raw]
            exclusive := Or.inr (a.exclusive.resolve_left (by simp [waiting])) }

/-- `detach()`, apart from the listeners: the frames that wait are handed back. -/
def detach (a : Adapter) : Adapter := { a with inbox := [], exclusive := Or.inl rfl }

/-- The frames that arrived at the adapter and were not handed back. -/
def arrived (a : Adapter) : List String := a.answers.filterMap Except.toOption ++ a.inbox

variable (a : Adapter)

theorem arrived_onMessage (raw : String) : (a.onMessage raw).arrived = a.arrived ++ [raw] := by
  unfold onMessage
  split
  · simp [arrived]
  · rename_i busy
    simp [arrived, a.exclusive.resolve_right busy, Except.toOption]

theorem arrived_fail (err : RunError) : (a.fail err).arrived = a.arrived := by
  simp [fail, arrived, Except.toOption]

theorem arrived_recv : a.recv.arrived = a.arrived := by
  unfold recv
  split
  · simp [arrived, Except.toOption]
  · split
    · rfl
    · rename_i raw rest waiting
      simp [arrived, waiting, Except.toOption]

/-- The `recv` calls so far. -/
def calls : Nat := a.answers.length + a.waiters

@[simp] theorem calls_onMessage (raw : String) : (a.onMessage raw).calls = a.calls := by
  unfold onMessage
  split
  · rfl
  · simp only [calls, List.length_append, List.length_singleton]
    omega

@[simp] theorem calls_fail (err : RunError) : (a.fail err).calls = a.calls := by
  simp [fail, calls]

@[simp] theorem calls_recv : a.recv.calls = a.calls + 1 := by
  unfold recv
  split
  · simp only [calls, List.length_append, List.length_singleton]
    omega
  · split
    · rfl
    · simp only [calls, List.length_append, List.length_singleton]
      omega

end Adapter

end DicodeRelay.Client
