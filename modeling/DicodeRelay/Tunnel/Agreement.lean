import DicodeRelay.Client.Greeting
import DicodeRelay.Lib.Paths
import DicodeRelay.Tunnel.Exchange
import Mathlib.Data.List.Infix

/-!
Contract: what a daemon and its server agree on once the daemon reports that it is
connected.

Owns:
- that every welcome on the socket answers a hello the server has accepted on it;
- that the uuid of a welcome the daemon accepts is the daemon's own;
- that a daemon which reports itself connected is announced under the address and
  the broker key of the server, and was registered with its own decrypt key.

Does not own: how long the server keeps it registered.
-/

namespace DicodeRelay.Tunnel

open DicodeRelay.Lib DicodeRelay.Shared

/-! ### The uuid of a welcome -/

theorem isHexDigit_hexEncode {bytes : Bytes} {c : Char} (member : c ∈ (hexEncode bytes).toList) :
    hexValue c ≠ none := by
  rw [hexEncode, String.toList_ofList, List.mem_flatMap] at member
  obtain ⟨b, _, inPair⟩ := member
  have low : b.toNat % 16 < 16 := Nat.mod_lt _ (by decide)
  have high : b.toNat / 16 < 16 := Nat.div_lt_of_lt_mul b.toNat_lt
  simp only [hexPair, List.mem_cons, List.not_mem_nil, or_false] at inPair
  rcases inPair with rfl | rfl
  · simp [hexValue_hexDigit false high]
  · simp [hexValue_hexDigit false low]

theorem slash_not_mem_hexEncode (bytes : Bytes) : '/' ∉ (hexEncode bytes).toList :=
  fun member => isHexDigit_hexEncode member (by decide)

theorem hexEncode_ne_u (bytes : Bytes) : (hexEncode bytes).toList ≠ ['u'] := by
  intro same
  have member : 'u' ∈ (hexEncode bytes).toList := by simp [same]
  exact isHexDigit_hexEncode member (by decide)

/-- A welcome holds no uuid but the one it was made for, if the address of the server
has no segment `u`. -/
theorem uuid_of_includes {base uuid other : String} (noUser : ['u'] ∉ pathSegments base.toList)
    (slashFree : '/' ∉ uuid.toList) (otherFree : '/' ∉ other.toList) (named : uuid.toList ≠ ['u'])
    (inside : includes (base ++ "/u/" ++ uuid ++ "/hooks/") ("/u/" ++ other ++ "/") = true) :
    other = uuid := by
  obtain ⟨rest, member, begins⟩ := List.any_eq_true.mp inside
  obtain ⟨before, cut⟩ := (List.mem_tails _ _).mp member
  obtain ⟨after, rfl⟩ := List.isPrefixOf_iff_prefix.mp begins
  have split : before ++ '/' :: (['u'] ++ '/' :: (other.toList ++ '/' :: after)) =
      base.toList ++ '/' :: (['u'] ++ '/' :: (uuid.toList ++ '/' ::
        (['h', 'o', 'o', 'k', 's'] ++ '/' :: []))) := by
    simpa [String.toList_append] using cut
  have segments := congrArg pathSegments split
  have user : pathSegments ['u'] = [['u']] := pathSegments_of_slashFree (by decide)
  have hooks : pathSegments ['h', 'o', 'o', 'k', 's'] = [['h', 'o', 'o', 'k', 's']] :=
    pathSegments_of_slashFree (by decide)
  have nothing : pathSegments [] = [[]] := pathSegments_of_slashFree (by decide)
  simp only [pathSegments_append_slash, user, hooks, nothing, pathSegments_of_slashFree slashFree,
    pathSegments_of_slashFree otherFree] at segments
  rcases List.append_eq_append_iff.mp segments with ⟨m, address, tail⟩ | ⟨m, _, tail⟩
  · cases m with
    | nil =>
        simp only [List.nil_append, List.cons_append, List.cons.injEq, true_and] at tail
        exact String.toList_inj.mp tail.1
    | cons first m =>
        have equal : ['u'] = first := (List.cons.inj tail).1
        exact absurd (by simp [address, ← equal]) noUser
  · -- The segments `u` and `other` would begin at `uuid` or after it.
    rcases m with _ | ⟨first, _ | ⟨second, _ | ⟨third, _ | ⟨fourth, m⟩⟩⟩⟩
    · simp only [List.nil_append, List.cons_append, List.cons.injEq, true_and] at tail
      exact (String.toList_inj.mp tail.1).symm
    all_goals simp [named] at tail

/-! ### Welcomes -/

/-- A hello that the server accepts leaves the daemon's entry. -/
theorem entry_of_accepted {server : Relay.RelayServer} {s s' : Relay.State} {e : Relay.Event}
    (after : server.step s e = some s') {ws : Relay.ConnId} {certPoint : Bytes} {hello : Hello}
    (accepted : Relay.HelloAccepted server s e ws certPoint hello) :
    s'.clients.get (server.crypto.uuidFromP256Point certPoint) =
      some ⟨ws, server.crypto.uuidFromP256Point certPoint, certPoint,
        base64Decode hello.decryptPubkey.toList⟩ := by
  obtain ⟨⟨frame, rfl, decoded⟩, ⟨conn, found, admitted, unregistered⟩, valid⟩ := accepted
  simp only [Relay.RelayServer.step, Option.ite_none_right_eq_some, Option.some.injEq] at after
  obtain ⟨_, rfl⟩ := after
  simp only [Relay.State.whenAdmitted, found, admitted, Relay.RelayServer.handleMessage, decoded,
    unregistered, if_true, Relay.RelayServer.handleHello, valid]
  have entered := congrArg Relay.Registry.client (server.registry_register s ws certPoint hello)
  exact (congrFun entered _).trans (Function.update_self _ _ _)

/-- The step of the run accepts the hello of the daemon on the link's socket. -/
def Joins (link : Link) (events earlier : List Event) (t t' : State) (certPoint : Bytes) : Prop :=
  link.machine.StepAt events earlier t .toServer t' ∧
    AcceptsHello link t .toServer certPoint
      ⟨link.options.identity.decryptPubkeyB64 link.options.crypto⟩

theorem entry_of_joins {link : Link} {events earlier : List Event} {t t' : State}
    {certPoint : Bytes} (joins : Joins link events earlier t t' certPoint) :
    t'.server.clients.get (link.server.crypto.uuidFromP256Point certPoint) =
      some ⟨link.ws, link.server.crypto.uuidFromP256Point certPoint, certPoint, base64Decode
        (link.options.identity.decryptPubkeyB64 link.options.crypto).toList⟩ := by
  obtain ⟨step, frame, _, next, accepted⟩ := joins
  have after := step.after
  simp only [Link.machine, Link.step, next, Link.serverStep, Option.map_eq_some_iff] at after
  obtain ⟨server, stepped, rfl⟩ := after
  exact entry_of_accepted stepped accepted

/-- What the daemon says hello with is its own decrypt key. -/
theorem hello_of_told {link : Link} (lawful : link.server.wire.Lawful) {events : List Event}
    {frame : String} (told : Told link events frame) {hello : Hello}
    (decoded : link.server.wire.decodeClient frame = .envelope (.hello hello)) :
    hello = ⟨link.options.identity.decryptPubkeyB64 link.options.crypto⟩ := by
  rcases told with greeting | ⟨request, answer, ⟨_, _, _, _, _, _, typed⟩, response⟩
  · have greets := lawful.decodeClient_encodeClient
      (.hello ⟨link.options.identity.decryptPubkeyB64 link.options.crypto⟩) trivial
    rw [greeting, Client.helloFrame, link.sameWire, greets] at decoded
    exact (ClientMessage.hello.inj (Decoded.envelope.inj decoded)).symm
  · have answers := lawful.decodeClient_encodeClient
      (.response (Client.responseTo request answer)) typed
    rw [response, link.sameWire, answers] at decoded
    cases decoded

/-- Every welcome on the socket answers the daemon's hello. -/
theorem joins_of_welcome {link : Link} (lawful : link.server.wire.Lawful) {events : List Event}
    {s : State} (ran : link.machine.run events = some s) {welcome : Welcome} {frame : String}
    (sent : frame ∈ s.server.sentOn link.ws)
    (decoded : link.server.wire.decodeServer frame = .envelope (.welcome welcome)) :
    ∃ earlier t t' certPoint, Joins link events earlier t t' certPoint ∧
      welcome = link.server.welcome (link.server.crypto.uuidFromP256Point certPoint) := by
  refine Machine.run_invariant (P := fun events s => ∀ frame ∈ s.server.sentOn link.ws,
    link.server.wire.decodeServer frame = .envelope (.welcome welcome) →
      ∃ earlier t t' certPoint, Joins link events earlier t t' certPoint ∧
        welcome = link.server.welcome (link.server.crypto.uuidFromP256Point certPoint))
    ?_ ?_ ran frame sent decoded
  · intro frame sent
    contradiction
  · intro events s e s' before holds after frame sent decoded
    have old : frame ∈ s.server.sentOn link.ws → ∃ earlier t t' certPoint,
        Joins link (events ++ [e]) earlier t t' certPoint ∧
          welcome = link.server.welcome (link.server.crypto.uuidFromP256Point certPoint) := by
      intro member
      obtain ⟨earlier, t, t', certPoint, ⟨step, accepts⟩, equal⟩ := holds frame member decoded
      exact ⟨earlier, t, t', certPoint, ⟨step.extend, accepts⟩, equal⟩
    rcases Link.server_of_step after with same | ⟨e', stepped, origin⟩
    · rw [same] at sent
      exact old sent
    obtain ⟨messages, utters, grown⟩ := utters_of_step stepped link.ws
    rw [grown, List.mem_append] at sent
    rcases sent with earlier | new
    · exact old earlier
    obtain ⟨message, member, rfl⟩ := List.mem_map.mp new
    rw [lawful.decodeServer_encodeServer message (utters.wellTyped message member)] at decoded
    obtain rfl := Decoded.envelope.inj decoded
    cases utters with
    | @welcome certPoint hello accepted =>
        obtain rfl := ServerMessage.welcome.inj (List.mem_singleton.mp member)
        obtain ⟨raw, isMessage, hello'⟩ := accepted.delivered
        rcases origin with rfl | ⟨raw', rfl, isMessage', next⟩
        · -- Frames on the link's socket reach the server as `toServer` only.
          simp [Link.machine, Link.step, isMessage, isMessageOn] at after
        · obtain rfl : raw' = raw := by
            rw [isMessage'] at isMessage
            exact (Relay.Event.message.inj isMessage).2
          have told := told_run before (mem_sentFrames (List.mem_of_getElem? next))
          obtain rfl := hello_of_told lawful told hello'
          rw [isMessage'] at accepted
          exact ⟨events, s, s', certPoint,
            ⟨Machine.stepAt_last before after, raw', rfl, next, accepted⟩, rfl⟩
    | _ => simp at member

/-! ### The status of the daemon -/

theorem greeted_run {link : Link} {events : List Event} {s : State}
    (ran : link.machine.run events = some s) :
    Client.Greeted link.options link.attempt (link.arrived s) s.client := by
  refine Link.arrivals_run (P := Client.Greeted link.options link.attempt)
    (Client.greeted_init link.options link.attempt) ?_ ran
  intro _ arrived s e s' reached follows greeted after
  exact Client.greeted_step (Client.coherent_run link.options reached) follows greeted after

/-- A daemon that reports itself connected was registered by the server, on its own
socket and with its own decrypt key, and the address and the broker key it reports are
the server's. If no segment of the server's address is `u`, then the uuid is its own. -/
theorem registration_agreed (link : Link) (lawful : link.server.wire.Lawful) {events : List Event}
    {s : State} (ran : link.machine.run events = some s)
    (current : s.client.attempt = link.attempt) (connected : s.client.status.connected = true) :
    ∃ earlier t t' certPoint uuid, Joins link events earlier t t' certPoint ∧
      uuid = link.server.crypto.uuidFromP256Point certPoint ∧
      t'.server.clients.get uuid = some ⟨link.ws, uuid, certPoint, base64Decode
        (link.options.identity.decryptPubkeyB64 link.options.crypto).toList⟩ ∧
      s.client.status.hookBaseURL = some (link.server.baseUrl ++ "/u/" ++ uuid ++ "/hooks/") ∧
      s.client.status.brokerPubkey = some (link.server.brokerPubkey.getD "") ∧
      (['u'] ∉ pathSegments link.server.baseUrl.toList →
        link.options.identity.uuid link.options.crypto = uuid) := by
  obtain ⟨result, ⟨raw, rest, split, read⟩, announces⟩ :=
    (greeted_run ran).connected current connected
  obtain ⟨welcome, decoded, own, rfl⟩ := Client.result_of_readWelcome read
  have sent : raw ∈ s.server.sentOn link.ws := by
    apply List.mem_of_mem_take
    rw [← Link.arrived, split]
    exact List.mem_cons_self
  rw [link.sameWire] at decoded
  obtain ⟨earlier, t, t', certPoint, joins, rfl⟩ := joins_of_welcome lawful ran sent decoded
  have entry := entry_of_joins joins
  refine ⟨earlier, t, t', certPoint, _, joins, rfl, entry, announces.hookBaseURL,
    announces.brokerPubkey, ?_⟩
  intro noUser
  exact uuid_of_includes noUser (slash_not_mem_hexEncode _) (slash_not_mem_hexEncode _)
    (hexEncode_ne_u _) own

namespace Sample

open DicodeRelay.Relay.Sample

/-- The socket closes while `onBrokerPubkey` is pending. -/
def closedEarly : List Event :=
  [.server (.connection 0 (certificate signPointA)), .client .resume,
    .client (.socket 1 .opened), .client .resume, .toServer, .toClient, .client .resume,
    .client (.socket 1 (.closed 1006)), .client (.persisted none)]

/-- The daemon reports itself connected and does not serve. -/
def Unserved (s : State) : Prop :=
  s.client.attempt = 1 ∧ s.client.status.connected = true ∧ s.client.phase = .unwinding none

instance : DecidablePred Unserved := fun _ => inferInstanceAs (Decidable (_ ∧ _))

theorem unserved : (link.machine.run closedEarly).any (fun s => decide (Unserved s)) = true := by
  decide +kernel

end Sample

theorem registration_agreed_unserved : ∃ s,
    Sample.link.machine.run Sample.closedEarly = some s ∧ s.client.status.connected = true ∧
      s.client.phase = .unwinding none ∧
      (∃ uuid, s.client.status.hookBaseURL =
        some (Sample.link.server.baseUrl ++ "/u/" ++ uuid ++ "/hooks/")) ∧
      s.client.status.brokerPubkey = some (Sample.link.server.brokerPubkey.getD "") := by
  obtain ⟨s, ran, facts⟩ := (Option.any_eq_true _ _).mp Sample.unserved
  obtain ⟨current, connected, unwinding⟩ : Sample.Unserved s := of_decide_eq_true facts
  obtain ⟨_, _, _, _, uuid, _, _, _, address, key, _⟩ :=
    registration_agreed Sample.link jsonWire_lawful ran current connected
  exact ⟨s, ran, connected, unwinding, ⟨uuid, address⟩, key⟩

end DicodeRelay.Tunnel
