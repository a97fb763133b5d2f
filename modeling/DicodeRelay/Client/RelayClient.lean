import DicodeRelay.Client.Connection
import DicodeRelay.Lib.Selection

/-!
Contract: a daemon's relay client, which keeps one connection to each of the
configured broker URLs.

Owns:
- which URL lists the constructor accepts, and the error for the others;
- the status the consumer is called with, folded from those of the URLs;
- the connections side by side, over one clock and one abort signal, and what
  the consumer is called with along their runs.

Does not own: what a connection reports; the broker instances.
-/

namespace DicodeRelay.Client

open DicodeRelay.Lib DicodeRelay.Shared

/-! ### The configured URLs -/

/-- The loop over the configured URLs, after those in `seen`; `some`: what it
throws. -/
def checkServerURLs (seen : List String) : List String → Option String
  | [] => none
  | u :: rest =>
      if u = "" then some "RelayClient: serverURLs entries must be non-empty strings"
      else if u ∈ seen then some ("RelayClient: duplicate server URL " ++ u)
      else checkServerURLs (seen ++ [u]) rest

/-- `resolveServerURLs`. -/
def resolveServerURLs (serverURL : Option String) (serverURLs : Option (List String)) :
    Except String (List String) :=
  if serverURL.isSome ∧ serverURLs.isSome then
    .error "RelayClient: set either serverURL or serverURLs, not both"
  else if serverURL.isNone ∧ serverURLs.isNone then
    .error "RelayClient: one of serverURL or serverURLs is required"
  else
    let urls := serverURLs.getD serverURL.toList
    if urls = [] then .error "RelayClient: serverURLs must not be empty"
    else
      match checkServerURLs [] urls with
      | none => .ok urls
      | some err => .error err

theorem checkServerURLs_eq_none_iff (seen urls : List String) :
    checkServerURLs seen urls = none ↔ "" ∉ urls ∧ urls.Nodup ∧ ∀ u ∈ urls, u ∉ seen := by
  induction urls generalizing seen with
  | nil => simp [checkServerURLs]
  | cons u rest inductionHypothesis =>
      unfold checkServerURLs
      by_cases blank : u = ""
      · simp [blank]
      · by_cases repeated : u ∈ seen
        · simp [blank, repeated]
        · rw [if_neg blank, if_neg repeated, inductionHypothesis]
          simp only [List.mem_cons, not_or, List.nodup_cons, List.mem_append, List.not_mem_nil,
            or_false, forall_eq_or_imp]
          constructor
          · rintro ⟨noBlank, nodup, fresh⟩
            exact ⟨⟨Ne.symm blank, noBlank⟩, ⟨fun again => (fresh u again).2 rfl, nodup⟩, repeated,
              fun v member => (fresh v member).1⟩
          · rintro ⟨⟨_, noBlank⟩, ⟨absent, nodup⟩, _, fresh⟩
            refine ⟨noBlank, nodup, fun v member => ⟨fresh v member, ?_⟩⟩
            rintro rfl
            exact absent member

/-- What the constructor accepts: one URL or a list of distinct ones. -/
theorem resolveServerURLs_eq_ok_iff (serverURL : Option String)
    (serverURLs : Option (List String)) (urls : List String) :
    resolveServerURLs serverURL serverURLs = .ok urls ↔
      ((∃ url, serverURL = some url ∧ serverURLs = none ∧ urls = [url]) ∨
        (serverURL = none ∧ serverURLs = some urls)) ∧
        urls ≠ [] ∧ "" ∉ urls ∧ urls.Nodup := by
  have checked : ∀ list : List String,
      (if list = [] then Except.error "RelayClient: serverURLs must not be empty"
        else match checkServerURLs [] list with
          | none => .ok list
          | some err => .error err) = .ok urls ↔
        list = urls ∧ urls ≠ [] ∧ "" ∉ urls ∧ urls.Nodup := by
    intro list
    by_cases empty : list = []
    · subst empty
      simp +contextual [eq_comm]
    · rw [if_neg empty]
      cases outcome : checkServerURLs [] list with
      | none =>
          have fine := (checkServerURLs_eq_none_iff [] list).mp outcome
          simp only [Except.ok.injEq]
          constructor
          · rintro rfl
            exact ⟨rfl, empty, fine.1, fine.2.1⟩
          · exact fun same => same.1
      | some err =>
          simp only [reduceCtorEq, false_iff]
          rintro ⟨rfl, _, noBlank, nodup⟩
          rw [(checkServerURLs_eq_none_iff [] list).mpr ⟨noBlank, nodup, by simp⟩] at outcome
          cases outcome
  unfold resolveServerURLs
  cases serverURL with
  | none =>
      cases serverURLs with
      | none => simp
      | some list => simpa [eq_comm] using checked list
  | some url =>
      cases serverURLs with
      | none => simpa [eq_comm] using checked [url]
      | some list => simp

/-! ### Status -/

structure RelayStatus where
  connected : Bool
  hookBaseURL : Option String
  brokerPubkey : Option String
  reconnectAttempts : Nat
  lastError : Option RunError
  lastConnectedAt : Option Nat
  endpoints : Option (List RelayEndpointStatus)
deriving DecidableEq

/-- The loop body of `mostRecentlyConnected`. -/
def moreRecent (best : Option RelayEndpointStatus) (e : RelayEndpointStatus) :
    Option RelayEndpointStatus :=
  match best with
  | none => some e
  | some b =>
      match e.lastConnectedAt with
      | none => some b
      | some time => if (b.lastConnectedAt.map Int.ofNat).getD (-1) ≤ time then some e else some b

def mostRecentlyConnected (list : List RelayEndpointStatus) : Option RelayEndpointStatus :=
  list.foldl moreRecent none

/-- The loop body of `maxLastConnectedAt`. -/
def laterConnectedAt (max : Option Nat) (e : RelayEndpointStatus) : Option Nat :=
  match e.lastConnectedAt with
  | none => max
  | some time =>
      match max with
      | none => some time
      | some greatest => if greatest < time then some time else some greatest

def maxLastConnectedAt (list : List RelayEndpointStatus) : Option Nat :=
  list.foldl laterConnectedAt none

def aggregateStatus (endpoints : OrderedMap String RelayEndpointStatus) (multi : Bool) :
    RelayStatus :=
  let list := endpoints.values
  let up := list.filter fun e => e.connected
  let rep := up.head?.or (mostRecentlyConnected list)
  { connected := 0 < up.length
    hookBaseURL := rep.bind fun e => e.hookBaseURL
    brokerPubkey := rep.bind fun e => e.brokerPubkey
    reconnectAttempts := list.foldl (fun n e => n + e.reconnectAttempts) 0
    lastError := rep.bind fun e => if e.connected then none else e.lastError
    lastConnectedAt := maxLastConnectedAt list
    endpoints := if multi then some list else none }

/-! ### The client -/

structure RelayClientOptions where
  serverURL : Option String
  serverURLs : Option (List String)
  identity : Identity
  /-- Whether the consumer gives an `onBrokerPubkey`. -/
  onBrokerPubkey : Bool
  /-- Whether the consumer gives an `onStatus`. -/
  onStatus : Bool
  dialTimeoutMs : Option Int
  handshakeTimeoutMs : Option Int
  crypto : Primitives
  wire : WireFormat

/-- A client that was constructed, with the URLs it resolved. -/
structure RelayClient where
  opts : RelayClientOptions
  urls : List String
  resolved : resolveServerURLs opts.serverURL opts.serverURLs = .ok urls

/-- What a connection says of its URL before it has reported. -/
def RelayEndpointStatus.unreported (url : String) : RelayEndpointStatus :=
  ⟨url, false, none, none, none, none, 0⟩

/-- A report that was handled, with what the consumer's `onStatus` was called
with, if there is one. -/
structure StatusCall where
  report : RelayEndpointStatus
  status : Option RelayStatus
deriving DecidableEq

namespace RelayClient

structure State where
  conns : OrderedMap String Client.State
  endpoints : OrderedMap String RelayEndpointStatus
  /-- The reports so far, oldest first. -/
  calls : List StatusCall

inductive Event where
  /-- Something happens to the connection to the URL. -/
  | on (url : String) (e : Client.Event)
  | abort
  | tick (ms : Nat)

variable (client : RelayClient)

theorem urls_ne_nil : client.urls ≠ [] :=
  ((resolveServerURLs_eq_ok_iff _ _ _).mp client.resolved).2.1

theorem urls_nodup : client.urls.Nodup :=
  ((resolveServerURLs_eq_ok_iff _ _ _).mp client.resolved).2.2.2

/-- The connection to a URL. -/
def connection (url : String) : ConnectionOptions where
  serverURL := url
  identity := client.opts.identity
  onBrokerPubkey := client.opts.onBrokerPubkey
  dialTimeoutMs := client.opts.dialTimeoutMs
  handshakeTimeoutMs := client.opts.handshakeTimeoutMs
  crypto := client.opts.crypto
  wire := client.opts.wire

def multi : Bool := 1 < client.urls.length

/-- The `onStatus` of the connections. -/
def onStatus (s : State) (report : RelayEndpointStatus) : State :=
  let endpoints := s.endpoints.set report.serverURL report
  { s with
    endpoints
    calls := s.calls ++ [⟨report,
      if client.opts.onStatus then some (aggregateStatus endpoints client.multi) else none⟩] }

end RelayClient

/-- The events of all connections at once. -/
def Event.shared : Event → Bool
  | .abort => true
  | .tick _ => true
  | _ => false

namespace RelayClient

variable (client : RelayClient)

def setConn (s : State) (url : String) (conn : Client.State) : State :=
  { s with conns := s.conns.set url conn }

/-- One event of the connection to the URL, with the calls it makes of the
connection's `onStatus`. -/
def advance (s : State) (url : String) (e : Client.Event) : Option State :=
  match s.conns.get url with
  | none => none
  | some conn =>
      ((client.connection url).step conn e).map fun next =>
        ((next.log.drop conn.log.length).filterMap Effect.reported).foldl client.onStatus
          (setConn s url next)

/-- An event with which the connection reports nothing. -/
theorem advance_of_silent {s : State} {url : String} {conn next : Client.State}
    {e : Client.Event} (found : s.conns.get url = some conn)
    (after : (client.connection url).step conn e = some next)
    (silent : (next.log.drop conn.log.length).filterMap Effect.reported = []) :
    client.advance s url e = some (setConn s url next) := by
  simp [advance, found, after, silent]

/-- One event of every connection. -/
def advanceAll (s : State) (e : Client.Event) : Option State :=
  client.urls.foldlM (fun s url => client.advance s url e) s

def step (s : State) : Event → Option State
  | .on url e => if e.shared then none else client.advance s url e
  | .abort => client.advanceAll s .abort
  | .tick ms => client.advanceAll s (.tick ms)

def init : State where
  conns := .ofList (client.urls.map fun url => (url, State.init (client.connection url)))
  endpoints := .ofList (client.urls.map fun url => (url, .unreported url))
  calls := []

/-- The runs of a client. -/
def machine : Machine State Event where
  init := client.init
  step := client.step

end RelayClient

end DicodeRelay.Client
