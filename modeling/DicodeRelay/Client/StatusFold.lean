import DicodeRelay.Client.RelayClient
import DicodeRelay.Client.Reports

/-!
Contract: what a relay client tells its consumer.

Owns:
- what an aggregate status says when it is a faithful fold of the latest
  reports of the configured URLs;
- that the fold over a map which holds these reports in configured order is
  faithful;
- that along every run the map holds them, so that every status the consumer
  is called with is faithful.

Does not own: when a connection reports.
-/

namespace DicodeRelay.Client

open DicodeRelay.Lib DicodeRelay.Shared

/-! ### Faithful folds -/

/-- The latest of the reports that bears the URL; without one, the URL is down
and never was connected. -/
def latestReport (reports : List RelayEndpointStatus) (url : String) : RelayEndpointStatus :=
  ((reports.filter fun report => report.serverURL = url).getLast?).getD (.unreported url)

theorem latestReport_concat (reports : List RelayEndpointStatus) (report : RelayEndpointStatus)
    (url : String) : latestReport (reports ++ [report]) url =
      if report.serverURL = url then report else latestReport reports url := by
  unfold latestReport
  rw [List.filter_append]
  by_cases own : report.serverURL = url
  · simp [own]
  · simp [own]

/-- The status says of the URLs what their reports say. -/
structure FaithfulFold (urls : List String) (latest : String → RelayEndpointStatus)
    (status : RelayStatus) : Prop where
  connected : status.connected = true ↔ ∃ url ∈ urls, (latest url).connected = true
  attempts : status.reconnectAttempts = (urls.map fun url => (latest url).reconnectAttempts).sum
  /-- The first URL that is up speaks for all. -/
  up : (∃ url ∈ urls, (latest url).connected = true) →
    ∃ before url after, urls = before ++ url :: after ∧ (latest url).connected = true ∧
      (∀ other ∈ before, (latest other).connected = false) ∧
      status.hookBaseURL = (latest url).hookBaseURL ∧
      status.brokerPubkey = (latest url).brokerPubkey ∧ status.lastError = none
  /-- With none up, the URL that was connected most recently does. -/
  down : (∀ url ∈ urls, (latest url).connected = false) →
    ∃ url, LastGreatest (fun url => (latest url).lastConnectedAt) urls url ∧
      status.hookBaseURL = (latest url).hookBaseURL ∧
      status.brokerPubkey = (latest url).brokerPubkey ∧
      status.lastError = (latest url).lastError
  lastConnectedAt : status.lastConnectedAt =
    (urls.filterMap fun url => (latest url).lastConnectedAt).max?
  endpoints : status.endpoints = if 1 < urls.length then some (urls.map latest) else none

theorem lastGreatest_mostRecentlyConnected {list : List RelayEndpointStatus}
    (nonempty : list ≠ []) : ∃ e, mostRecentlyConnected list = some e ∧
      LastGreatest (fun e => e.lastConnectedAt) list e := by
  induction list using List.reverseRecOn with
  | nil => exact absurd rfl nonempty
  | append_singleton list x inductionHypothesis =>
      unfold mostRecentlyConnected
      rw [List.foldl_concat]
      by_cases empty : list = []
      · subst empty
        exact ⟨x, rfl, .singleton _ x⟩
      · obtain ⟨best, chosen, greatest⟩ := inductionHypothesis empty
        rw [mostRecentlyConnected] at chosen
        rw [chosen, moreRecent]
        cases time : x.lastConnectedAt with
        | none => exact ⟨best, rfl, greatest.remain (by simp [time])⟩
        | some t =>
            dsimp only
            split
            · rename_i later
              refine ⟨x, rfl, greatest.supersede time ?_⟩
              intro u known
              rw [known] at later
              exact Int.ofNat_le.mp later
            · rename_i earlier
              refine ⟨best, rfl, greatest.remain ?_⟩
              intro u known
              obtain rfl := Option.some.inj (time.symm.trans known)
              cases known : best.lastConnectedAt with
              | none =>
                  rw [known] at earlier
                  simp only [Option.map_none, Option.getD_none] at earlier
                  omega
              | some v =>
                  rw [known] at earlier
                  exact ⟨v, rfl, Int.ofNat_lt.mp (Int.not_le.mp earlier)⟩

theorem maxLastConnectedAt_eq (list : List RelayEndpointStatus) :
    maxLastConnectedAt list = (list.filterMap fun e => e.lastConnectedAt).max? := by
  induction list using List.reverseRecOn with
  | nil => rfl
  | append_singleton list x inductionHypothesis =>
      unfold maxLastConnectedAt at inductionHypothesis ⊢
      rw [List.foldl_concat, inductionHypothesis, max?_filterMap_concat, laterConnectedAt]
      cases x.lastConnectedAt with
      | none => rfl
      | some t =>
          cases (list.filterMap fun e => e.lastConnectedAt).max? with
          | none => rfl
          | some greatest =>
              dsimp only
              split
              · rw [Nat.max_eq_right (by omega)]
              · rw [Nat.max_eq_left (by omega)]

theorem foldl_reconnectAttempts (list : List RelayEndpointStatus) (n : Nat) :
    list.foldl (fun n e => n + e.reconnectAttempts) n =
      n + (list.map fun e => e.reconnectAttempts).sum := by
  induction list generalizing n with
  | nil => simp
  | cons e rest inductionHypothesis =>
      rw [List.foldl_cons, inductionHypothesis, List.map_cons, List.sum_cons, Nat.add_assoc]

/-- Over a map that holds the latest reports in configured order, the aggregate
is faithful. -/
theorem faithfulFold_aggregateStatus {urls : List String} (nonempty : urls ≠ [])
    {latest : String → RelayEndpointStatus} {endpoints : OrderedMap String RelayEndpointStatus}
    (holds : endpoints.values = urls.map latest) :
    FaithfulFold urls latest (aggregateStatus endpoints (decide (1 < urls.length))) := by
  have found : ((urls.map latest).filter fun e => e.connected).head? =
      (urls.find? fun url => (latest url).connected).map latest := by
    rw [List.head?_filter, List.find?_map]
    rfl
  constructor
  · simp [aggregateStatus, holds, List.length_pos_iff_exists_mem]
  · simp [aggregateStatus, holds, foldl_reconnectAttempts, Function.comp_def]
  · intro someUp
    cases first : urls.find? fun url => (latest url).connected with
    | none =>
        obtain ⟨url, member, connected⟩ := someUp
        exact absurd connected (List.find?_eq_none.mp first url member)
    | some url =>
        obtain ⟨connected, before, after, split, earlier⟩ :=
          List.find?_eq_some_iff_append.mp first
        refine ⟨before, url, after, split, connected, ?_, ?_, ?_, ?_⟩
        · exact fun other member => by simpa using earlier other member
        all_goals simp [aggregateStatus, holds, found, first, connected]
  · intro allDown
    have none : urls.find? (fun url => (latest url).connected) = none := by
      rw [List.find?_eq_none]
      intro url member connected
      rw [allDown url member] at connected
      cases connected
    have someReport : urls.map latest ≠ [] := by simpa using nonempty
    obtain ⟨e, chosen, greatest⟩ := lastGreatest_mostRecentlyConnected someReport
    obtain ⟨url, most, rfl⟩ := greatest.of_map
    have member : url ∈ urls := most.mem
    refine ⟨url, most, ?_, ?_, ?_⟩
    all_goals simp [aggregateStatus, holds, found, none, chosen, allDown url member]
  · rw [aggregateStatus, holds, maxLastConnectedAt_eq, List.filterMap_map]
    rfl
  · simp [aggregateStatus, holds]

/-! ### Along a run -/

/-- The reports the client has handled, oldest first. -/
def RelayClient.State.reports (s : RelayClient.State) : List RelayEndpointStatus :=
  s.calls.map fun call => call.report

namespace RelayClient

variable (client : RelayClient)

/-- The map holds the latest reports in configured order, and every status the
consumer was called with was a faithful fold of the reports up to its own. -/
structure Told (s : State) : Prop where
  entries : s.endpoints.entries = client.urls.map fun url => (url, latestReport s.reports url)
  given : ∀ call ∈ s.calls, call.status.isSome = client.opts.onStatus
  faithful : ∀ before call after, s.calls = before ++ call :: after → ∀ status,
    call.status = some status → FaithfulFold client.urls
      (latestReport ((before ++ [call]).map fun call => call.report)) status

/-- The connections are those to the configured URLs; each connection's status
bears its URL, and what the client has handled of it is what it has reported. -/
structure Heard (s : State) : Prop where
  keys : s.conns.keys = client.urls
  own : ∀ url conn, s.conns.get url = some conn → conn.status.serverURL = url ∧
    (s.reports.filter fun report => report.serverURL = url) = conn.reports

variable {client}

theorem Told.onStatus {s : State} (told : client.Told s) {report : RelayEndpointStatus}
    (configured : report.serverURL ∈ client.urls) : client.Told (client.onStatus s report) := by
  have reports : (client.onStatus s report).reports = s.reports ++ [report] := by
    simp [State.reports, RelayClient.onStatus]
  have present : report.serverURL ∈ s.endpoints.keys := by
    rw [OrderedMap.keys, told.entries, List.map_map]
    simpa using configured
  have entries : (s.endpoints.set report.serverURL report).entries =
      client.urls.map fun url => (url, latestReport (s.reports ++ [report]) url) := by
    rw [OrderedMap.entries_set_of_mem _ _ present, told.entries, List.map_map]
    refine List.map_congr_left fun url _ => ?_
    simp only [Function.comp_apply, latestReport_concat, eq_comm (a := report.serverURL)]
    split
    · rename_i same
      rw [same]
    · rfl
  have holds : (s.endpoints.set report.serverURL report).values =
      client.urls.map (latestReport (s.reports ++ [report])) := by
    rw [OrderedMap.values, entries, List.map_map]
    rfl
  refine ⟨?_, ?_, ?_⟩
  · rw [reports]
    exact entries
  · intro call member
    rcases List.mem_append.mp member with earlier | latest
    · exact told.given call earlier
    · obtain rfl := List.mem_singleton.mp latest
      dsimp only
      split
      · rename_i given
        rw [given]
        rfl
      · rename_i absent
        rw [Option.isSome_none, Bool.eq_false_iff.mpr absent]
  · intro before call after split status called
    rcases split_concat_inv split with ⟨rest, inside⟩ | ⟨rfl, rfl⟩
    · exact told.faithful before call rest inside status called
    · dsimp only at called
      split at called
      · obtain rfl := Option.some.inj called
        have all : (s.calls ++ [_]).map (fun call : StatusCall => call.report) =
            s.reports ++ [report] := reports
        rw [all]
        exact faithfulFold_aggregateStatus client.urls_ne_nil holds
      · cases called

theorem Told.foldl {s : State} (told : client.Told s) {reports : List RelayEndpointStatus}
    (configured : ∀ report ∈ reports, report.serverURL ∈ client.urls) :
    client.Told (reports.foldl client.onStatus s) := by
  induction reports generalizing s with
  | nil => exact told
  | cons report rest inductionHypothesis =>
      exact inductionHypothesis (told.onStatus (configured report (by simp)))
        fun other member => configured other (by simp [member])

theorem foldl_onStatus (client : RelayClient) (s : State) (reports : List RelayEndpointStatus) :
    (reports.foldl client.onStatus s).conns = s.conns ∧
      (reports.foldl client.onStatus s).reports = s.reports ++ reports := by
  induction reports generalizing s with
  | nil => simp
  | cons report rest inductionHypothesis =>
      obtain ⟨conns, reports⟩ := inductionHypothesis (client.onStatus s report)
      refine ⟨conns, reports.trans ?_⟩
      simp [State.reports, RelayClient.onStatus]

/-- One event of one connection. -/
theorem told_advance {s s' : State} {url : String} {e : Client.Event}
    (told : client.Told s ∧ client.Heard s) (after : client.advance s url e = some s') :
    client.Told s' ∧ client.Heard s' := by
  obtain ⟨told, heard⟩ := told
  unfold advance at after
  cases found : s.conns.get url with
  | none => simp [found] at after
  | some conn =>
      simp only [found, Option.map_eq_some_iff] at after
      obtain ⟨next, stepped, rfl⟩ := after
      have present : url ∈ s.conns.keys := (s.conns.mem_keys_iff url).mpr ⟨conn, found⟩
      have configured : url ∈ client.urls := heard.keys ▸ present
      obtain ⟨bears, handled⟩ := heard.own url conn found
      obtain ⟨same, more, grown, own⟩ := reporting_of_step stepped
      rw [grown, List.drop_left]
      have fresh : ∀ report ∈ more.filterMap Effect.reported, report.serverURL = url :=
        fun report member => (own report member).trans bears
      have told : client.Told (setConn s url next) := ⟨told.entries, told.given, told.faithful⟩
      refine ⟨told.foldl fun report member => fresh report member ▸ configured, ?_, ?_⟩
      · rw [(client.foldl_onStatus _ _).1]
        exact (OrderedMap.keys_set_of_mem _ _ present).trans heard.keys
      · obtain ⟨conns, reports⟩ := client.foldl_onStatus (setConn s url next)
          (more.filterMap Effect.reported)
        intro other conn' found'
        rw [conns, setConn, OrderedMap.get_set] at found'
        rw [reports, List.filter_append]
        have earlier : (setConn s url next).reports = s.reports := rfl
        split at found'
        · rename_i isOther
          subst isOther
          obtain rfl := Option.some.inj found'
          refine ⟨same.trans bears, ?_⟩
          have all :
              (more.filterMap Effect.reported).filter (fun report => report.serverURL = url) =
              more.filterMap Effect.reported := by
            rw [List.filter_eq_self]
            exact fun report member => decide_eq_true (fresh report member)
          rw [all, earlier, handled, Client.State.reports, Client.State.reports, grown,
            List.filterMap_append]
        · rename_i different
          have none : (more.filterMap Effect.reported).filter
              (fun report => report.serverURL = other) = [] := by
            rw [List.filter_eq_nil_iff]
            intro report member same
            exact different ((fresh report member).symm.trans (of_decide_eq_true same))
          rw [none, List.append_nil]
          exact heard.own other conn' found'

theorem told_advanceAll {s s' : State} {e : Client.Event} (told : client.Told s ∧ client.Heard s)
    (after : client.advanceAll s e = some s') : client.Told s' ∧ client.Heard s' := by
  unfold advanceAll at after
  generalize client.urls = urls at after
  induction urls generalizing s with
  | nil =>
      obtain rfl := Option.some.inj after
      exact told
  | cons url rest inductionHypothesis =>
      rw [List.foldlM_cons] at after
      obtain ⟨middle, first, later⟩ := Option.bind_eq_some_iff.mp after
      exact inductionHypothesis (told_advance told first) later

theorem entries_ofList_urls (client : RelayClient) {Value : Type} (f : String → Value) :
    (OrderedMap.ofList (client.urls.map fun url => (url, f url))).entries =
      client.urls.map fun url => (url, f url) := by
  apply OrderedMap.entries_ofList
  rw [List.map_map]
  exact (List.map_id' client.urls).symm ▸ client.urls_nodup

theorem told_init (client : RelayClient) : client.Told client.init ∧ client.Heard client.init := by
  refine ⟨⟨client.entries_ofList_urls _, by simp [init], by simp [init]⟩, ?_, ?_⟩
  · rw [OrderedMap.keys, init, client.entries_ofList_urls, List.map_map]
    exact List.map_id' client.urls
  · intro url conn found
    rw [← OrderedMap.mem_entries_iff, init, client.entries_ofList_urls, List.mem_map] at found
    obtain ⟨_, _, equal⟩ := found
    obtain ⟨rfl, rfl⟩ := Prod.mk.inj equal
    exact ⟨rfl, rfl⟩

theorem init_conn (client : RelayClient) {url : String} (configured : url ∈ client.urls) :
    client.init.conns.get url = some (State.init (client.connection url)) := by
  rw [← OrderedMap.mem_entries_iff, init, client.entries_ofList_urls]
  exact List.mem_map_of_mem configured

theorem told_run {events : List Event} {s : State} (ran : client.machine.run events = some s) :
    client.Told s ∧ client.Heard s := by
  refine Machine.state_invariant (P := fun s => client.Told s ∧ client.Heard s)
    client.told_init ?_ ran
  intro s e s' told after
  cases e with
  | on url e =>
      simp only [machine, step] at after
      split at after
      · cases after
      · exact told_advance told after
  | abort => exact told_advanceAll told after
  | tick ms => exact told_advanceAll told after

end RelayClient

/-- Every status the consumer is called with is a faithful fold of the reports
that the connections have made by then. -/
theorem status_faithful (client : RelayClient) {events : List RelayClient.Event}
    {s : RelayClient.State} (ran : client.machine.run events = some s) :
    (∀ before call after, s.calls = before ++ call :: after →
      call.status.isSome = client.opts.onStatus ∧
      ∀ status, call.status = some status →
        FaithfulFold client.urls
          (latestReport ((before ++ [call]).map fun call => call.report)) status) ∧
    s.conns.keys = client.urls ∧
    ∀ url conn, s.conns.get url = some conn →
      (s.reports.filter fun report => report.serverURL = url) = conn.reports := by
  obtain ⟨told, heard⟩ := RelayClient.told_run ran
  refine ⟨?_, heard.keys, fun url conn found => (heard.own url conn found).2⟩
  intro before call after split
  exact ⟨told.given call (by simp [split]), told.faithful before call after split⟩

/-! ### A daemon with two brokers -/

namespace Sample

def fanOut : RelayClient where
  opts :=
    { serverURL := none
      serverURLs := some ["wss://relay.example:5553", "wss://backup.example:5553"]
      identity := options.identity
      onBrokerPubkey := true
      onStatus := true
      dialTimeoutMs := none
      handshakeTimeoutMs := none
      crypto := primitives
      wire := jsonWire }
  urls := ["wss://relay.example:5553", "wss://backup.example:5553"]
  resolved := by
    rw [resolveServerURLs_eq_ok_iff]
    decide

/-- The second broker refuses the connection, the first one accepts it. -/
def oneUp : List RelayClient.Event :=
  [.on "wss://backup.example:5553" .resume,
    .on "wss://backup.example:5553" (.socket 1 (.error "connect ECONNREFUSED")),
    .on "wss://backup.example:5553" (.backOff 0)] ++
  (handshake ++ [Event.persisted none]).map (.on "wss://relay.example:5553")

theorem oneUp_calls : (fanOut.machine.run oneUp).map (fun s => s.calls.map fun call =>
      call.status.map fun status => (status.connected, status.reconnectAttempts)) =
    some [some (false, 1), some (true, 1)] := by
  decide +kernel

end Sample

theorem status_faithful_oneUp : ∃ s first second status,
    Sample.fanOut.machine.run Sample.oneUp = some s ∧ s.calls = [first] ++ second :: [] ∧
      second.status = some status ∧ status.connected = true ∧
      FaithfulFold Sample.fanOut.urls (latestReport [first.report, second.report]) status := by
  obtain ⟨s, ran, calls⟩ := Option.map_eq_some_iff.mp Sample.oneUp_calls
  obtain ⟨first, rest, split, _, tail⟩ := List.map_eq_cons_iff.mp calls
  obtain ⟨second, others, rfl, called, last⟩ := List.map_eq_cons_iff.mp tail
  obtain rfl := List.map_eq_nil_iff.mp last
  obtain ⟨status, called, equal⟩ := Option.map_eq_some_iff.mp called
  have faithful := (status_faithful Sample.fanOut ran).1 [first] second [] split
  exact ⟨s, first, second, status, ran, split, called, congrArg Prod.fst equal,
    faithful.2 status called⟩

end DicodeRelay.Client
