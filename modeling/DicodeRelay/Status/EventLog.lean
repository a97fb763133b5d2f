import DicodeRelay.Lib.Window
import DicodeRelay.Status.Metrics

/-!
Contract: the figures of a snapshot against the log of the collector's calls.

Owns:
- runs of the collector, and the record calls since a client registered;
- that the buckets of an entry follow that log, up to the width of a cell;
- what a snapshot reports of each client, and of all of them.

Does not own: the peaks; who calls the collector.
-/

namespace DicodeRelay.Status

open DicodeRelay.Lib

/-! ### Buckets -/

namespace Buckets

variable {size : Nat}

theorem get_set (b : Buckets size) {index : Nat} (inside : index < size) (value i : Nat) :
    (b.set index value).get i = if i = index then value % 2 ^ 32 else b.get i := by
  have bound : index < b.cells.length := b.length_cells.symm ▸ inside
  simp only [get, set, List.getD_eq_getElem?_getD, List.getElem?_set, bound, if_true]
  by_cases same : i = index
  · simp [same]
  · simp [same, Ne.symm same]

theorem get_zero (i : Nat) : (Buckets.zero size).get i = 0 := by
  simp only [get, zero, List.getD_eq_getElem?_getD, List.getElem?_replicate]
  split <;> rfl

theorem get_clearAfter_of_ahead (b : Buckets size) (index : Nat) {i : Nat} (inside : i < size)
    {count : Nat} (ahead : Ahead size index count i) : (b.clearAfter index count).get i = 0 := by
  have place : ∀ steps, (index + steps) % size < size := fun _ => Nat.mod_lt _ (by omega)
  induction count with
  | zero =>
      obtain ⟨steps, positive, bound, _⟩ := ahead
      omega
  | succ count inductionHypothesis =>
      obtain ⟨steps, positive, bound, equal⟩ := ahead
      rw [clearAfter, get_set _ (place _)]
      split
      · rfl
      · rename_i different
        have before : steps ≠ count + 1 := by
          rintro rfl
          exact different equal
        exact inductionHypothesis ⟨steps, positive, by omega, equal⟩

theorem get_clearAfter_of_not_ahead (b : Buckets size) (index : Nat) {i : Nat} (inside : i < size)
    {count : Nat} (clear : ¬Ahead size index count i) :
    (b.clearAfter index count).get i = b.get i := by
  have place : ∀ steps, (index + steps) % size < size := fun _ => Nat.mod_lt _ (by omega)
  induction count with
  | zero => rfl
  | succ count inductionHypothesis =>
      have different : i ≠ (index + (count + 1)) % size := fun equal =>
        clear ⟨count + 1, by omega, by omega, equal⟩
      rw [clearAfter, get_set _ (place _), if_neg different]
      apply inductionHypothesis
      rintro ⟨steps, positive, bound, equal⟩
      exact clear ⟨steps, positive, by omega, equal⟩

theorem sum_eq (b : Buckets size) : b.sum = ∑ i ∈ Finset.range size, b.get i := by
  have total : ∀ cells : List Nat,
      cells.sum = ∑ i ∈ Finset.range cells.length, cells.getD i 0 := by
    intro cells
    induction cells with
    | nil => rfl
    | cons cell cells inductionHypothesis =>
        rw [List.sum_cons, List.length_cons, Finset.sum_range_succ', inductionHypothesis]
        simp [Nat.add_comm]
  rw [sum, total, b.length_cells]
  rfl

/-- The buckets, when the cell at `index` counts the unit `epoch`. -/
def window (b : Buckets size) (index epoch : Nat) : Window := ⟨b.get, index, epoch⟩

variable {b : Buckets size} {index epoch : Nat} {log : List Nat}

theorem follows_zero (positive : 0 < size) (epoch : Nat) :
    ((Buckets.zero size).window 0 epoch).Follows size (2 ^ 32) [] :=
  .start positive fun i _ => get_zero i

theorem follows_clearAfter (follows : (b.window index epoch).Follows size (2 ^ 32) log)
    {now : Nat} (later : epoch < now) :
    ((b.clearAfter index (min (now - epoch) size)).window
      ((index + (now - epoch)) % size) now).Follows size (2 ^ 32) log :=
  follows.advance later rfl (fun _ inside => b.get_clearAfter_of_ahead index inside)
    fun _ inside => b.get_clearAfter_of_not_ahead index inside

theorem follows_count (follows : (b.window index epoch).Follows size (2 ^ 32) log) :
    ((b.set index (b.get index + 1)).window index epoch).Follows size (2 ^ 32)
      (log ++ [epoch]) :=
  follows.count rfl rfl ((get_set b follows.inside _ _).trans (if_pos rfl))
    fun _ different => (get_set b follows.inside _ _).trans (if_neg different)

end Buckets

/-! ### Runs of the collector -/

inductive CollectorCall where
  | registerClient (uuid : String)
  | removeClient (uuid : String)
  | record (uuid : String)
  | snapshot
deriving DecidableEq

/-- A call with its reading of the clock. -/
structure TimedCall where
  call : CollectorCall
  now : Nat
deriving DecidableEq

def MetricsCollector.handle (c : MetricsCollector) (e : TimedCall) : MetricsCollector :=
  match e.call with
  | .registerClient uuid => c.registerClient uuid e.now
  | .removeClient uuid => c.removeClient uuid
  | .record uuid => c.record uuid e.now
  | .snapshot => (c.snapshot e.now).1

/-- The collector after `calls`. -/
def MetricsCollector.after (calls : List TimedCall) : MetricsCollector :=
  calls.foldl MetricsCollector.handle .new

/-- The clock never goes back. -/
def Nondecreasing (calls : List TimedCall) : Prop :=
  (calls.map TimedCall.now).Pairwise (· ≤ ·)

/-- What `e` does to the log of the client `uuid`: `none` while the client is
not registered, else when it was recorded. -/
def logAfter (uuid : String) (log : Option (List Nat)) (e : TimedCall) : Option (List Nat) :=
  match e.call with
  | .registerClient other => if other = uuid then some [] else log
  | .removeClient other => if other = uuid then none else log
  | .record other => if other = uuid then log.map (· ++ [e.now]) else log
  | .snapshot => log

/-- When the client was recorded since its latest registration. -/
def recordedSince (uuid : String) (calls : List TimedCall) : Option (List Nat) :=
  calls.foldl (logAfter uuid) none

/-! ### Entries that follow a log -/

namespace ClientMetricsEntry

def seconds (entry : ClientMetricsEntry) : Window :=
  entry.secondBuckets.window entry.secondIndex entry.secondEpoch

def hours (entry : ClientMetricsEntry) : Window :=
  entry.hourBuckets.window entry.hourIndex entry.hourEpoch

/-- The entry of the client `uuid` that was recorded at `times`, as of `now`. -/
structure Follows (entry : ClientMetricsEntry) (uuid : String) (times : List Nat) (now : Nat) :
    Prop where
  uuid_eq : entry.uuid = uuid
  seconds : entry.seconds.Follows SECONDS_PER_HOUR (2 ^ 32) (times.map nowSec)
  hours : entry.hours.Follows HOURS_PER_DAY (2 ^ 32) (times.map nowHour)
  secondEpoch : entry.secondEpoch ≤ nowSec now
  hourEpoch : entry.hourEpoch ≤ nowHour now
  total : entry.totalRequests = times.length

theorem nowSec_mono {now now' : Nat} (later : now ≤ now') : nowSec now ≤ nowSec now' :=
  Nat.div_le_div_right later

theorem nowHour_mono {now now' : Nat} (later : now ≤ now') : nowHour now ≤ nowHour now' :=
  Nat.div_le_div_right (nowSec_mono later)

theorem Follows.later {entry : ClientMetricsEntry} {uuid : String} {times : List Nat}
    {now now' : Nat} (follows : entry.Follows uuid times now) (later : now ≤ now') :
    entry.Follows uuid times now' :=
  { follows with
    secondEpoch := follows.secondEpoch.trans (nowSec_mono later)
    hourEpoch := follows.hourEpoch.trans (nowHour_mono later) }

theorem seconds_advance (entry : ClientMetricsEntry) {now : Nat}
    (past : entry.secondEpoch ≤ now) {log : List Nat}
    (follows : entry.seconds.Follows SECONDS_PER_HOUR (2 ^ 32) log) :
    (advanceSecondBuckets entry now).seconds.Follows SECONDS_PER_HOUR (2 ^ 32) log ∧
      (advanceSecondBuckets entry now).secondEpoch = now := by
  unfold advanceSecondBuckets
  split
  · exact ⟨follows, by omega⟩
  · exact ⟨Buckets.follows_clearAfter follows (by omega), rfl⟩

theorem hours_advance (entry : ClientMetricsEntry) {now : Nat}
    (past : entry.hourEpoch ≤ now) {log : List Nat}
    (follows : entry.hours.Follows HOURS_PER_DAY (2 ^ 32) log) :
    (advanceHourBuckets entry now).hours.Follows HOURS_PER_DAY (2 ^ 32) log ∧
      (advanceHourBuckets entry now).hourEpoch = now := by
  unfold advanceHourBuckets
  split
  · exact ⟨follows, by omega⟩
  · exact ⟨Buckets.follows_clearAfter follows (by omega), rfl⟩

@[simp] theorem seconds_advanceHour (entry : ClientMetricsEntry) (now : Nat) :
    (advanceHourBuckets entry now).seconds = entry.seconds ∧
      (advanceHourBuckets entry now).secondEpoch = entry.secondEpoch := by
  unfold advanceHourBuckets
  split <;> exact ⟨rfl, rfl⟩

@[simp] theorem hours_advanceSecond (entry : ClientMetricsEntry) (now : Nat) :
    (advanceSecondBuckets entry now).hours = entry.hours ∧
      (advanceSecondBuckets entry now).hourEpoch = entry.hourEpoch := by
  unfold advanceSecondBuckets
  split <;> exact ⟨rfl, rfl⟩

theorem kept_advance (entry : ClientMetricsEntry) (now : Nat) :
    (entry.advance now).uuid = entry.uuid ∧
      (entry.advance now).totalRequests = entry.totalRequests := by
  unfold advance advanceHourBuckets advanceSecondBuckets
  split <;> split <;> exact ⟨rfl, rfl⟩

/-- The windows move on with the clock and keep following. -/
theorem Follows.advance {entry : ClientMetricsEntry} {uuid : String} {times : List Nat}
    {now : Nat} (follows : entry.Follows uuid times now) :
    (entry.advance now).Follows uuid times now ∧
      (entry.advance now).secondEpoch = nowSec now ∧
      (entry.advance now).hourEpoch = nowHour now := by
  obtain ⟨seconds, secondEpoch⟩ := entry.seconds_advance follows.secondEpoch follows.seconds
  have moved := hours_advanceSecond entry (nowSec now)
  obtain ⟨hours, hourEpoch⟩ := (advanceSecondBuckets entry (nowSec now)).hours_advance
    (moved.2 ▸ follows.hourEpoch) (moved.1 ▸ follows.hours)
  have kept := seconds_advanceHour (advanceSecondBuckets entry (nowSec now)) (nowHour now)
  have same := entry.kept_advance now
  have secondEpoch' : (entry.advance now).secondEpoch = nowSec now := kept.2.trans secondEpoch
  refine ⟨⟨same.1.trans follows.uuid_eq, ?_, hours, secondEpoch'.le, hourEpoch.le,
    same.2.trans follows.total⟩, secondEpoch', hourEpoch⟩
  rw [ClientMetricsEntry.advance, kept.1]
  exact seconds

theorem Follows.record {entry : ClientMetricsEntry} {uuid : String} {times : List Nat}
    {now : Nat} (follows : entry.Follows uuid times now) :
    (entry.record now).Follows uuid (times ++ [now]) now := by
  obtain ⟨moved, secondEpoch, hourEpoch⟩ := follows.advance
  refine ⟨moved.uuid_eq, ?_, ?_, moved.secondEpoch, moved.hourEpoch, ?_⟩
  · rw [List.map_append, List.map_singleton, ← secondEpoch]
    exact Buckets.follows_count moved.seconds
  · rw [List.map_append, List.map_singleton, ← hourEpoch]
    exact Buckets.follows_count moved.hours
  · rw [List.length_append, List.length_singleton, ← moved.total]
    rfl

theorem Follows.observe {entry : ClientMetricsEntry} {uuid : String} {times : List Nat}
    {now : Nat} (follows : entry.Follows uuid times now) :
    (entry.observe now).Follows uuid times now := by
  obtain ⟨moved, _⟩ := follows.advance
  exact ⟨moved.uuid_eq, moved.seconds, moved.hours, moved.secondEpoch, moved.hourEpoch,
    moved.total⟩

end ClientMetricsEntry

/-! ### What a run leaves -/

/-- Every entry follows the log of its client, and only registered clients have
one. -/
def MetricsCollector.Follows (c : MetricsCollector) (calls : List TimedCall) (now : Nat) :
    Prop :=
  ∀ uuid, Option.Rel (fun entry times => ClientMetricsEntry.Follows entry uuid times now)
    (c.entries.get uuid) (recordedSince uuid calls)

theorem recordedSince_append (uuid : String) (calls : List TimedCall) (e : TimedCall) :
    recordedSince uuid (calls ++ [e]) = logAfter uuid (recordedSince uuid calls) e := by
  rw [recordedSince, List.foldl_append]
  rfl

theorem MetricsCollector.after_append (calls : List TimedCall) (e : TimedCall) :
    MetricsCollector.after (calls ++ [e]) = (MetricsCollector.after calls).handle e := by
  rw [MetricsCollector.after, List.foldl_append]
  rfl

/-- What every entry keeps and every log keeps is kept between them. -/
private theorem rel_map {α β : Type} {r r' : α → β → Prop} {x : Option α} {y : Option β}
    (f : α → α) (g : β → β) (related : Option.Rel r x y)
    (keeps : ∀ a b, r a b → r' (f a) (g b)) : Option.Rel r' (x.map f) (y.map g) := by
  cases related with
  | some holds => exact .some (keeps _ _ holds)
  | none => exact .none

/-- A call keeps the entries in step with the logs. -/
theorem MetricsCollector.Follows.handle {c : MetricsCollector} {calls : List TimedCall}
    {e : TimedCall} (follows : c.Follows calls e.now) :
    (c.handle e).Follows (calls ++ [e]) e.now := by
  intro uuid
  have old := follows uuid
  rw [recordedSince_append]
  obtain ⟨call, now⟩ := e
  cases call with
  | registerClient other =>
      simp only [MetricsCollector.handle, MetricsCollector.registerClient, logAfter,
        OrderedMap.get_set]
      by_cases same : other = uuid
      · simp only [same, if_true]
        exact .some ⟨rfl, Buckets.follows_zero (by decide) _,
          Buckets.follows_zero (by decide) _, Nat.le_refl _, Nat.le_refl _, rfl⟩
      · simpa only [same, if_false] using old
  | removeClient other =>
      simp only [MetricsCollector.handle, MetricsCollector.removeClient, logAfter,
        OrderedMap.get_delete]
      by_cases same : other = uuid
      · simp only [same, if_true]
        exact .none
      · simpa only [same, if_false] using old
  | record other =>
      simp only [MetricsCollector.handle, MetricsCollector.record, logAfter]
      by_cases same : other = uuid
      · subst same
        rw [OrderedMap.get_modify_self, if_pos rfl]
        exact rel_map _ _ old fun _ _ followed => followed.record
      · rw [OrderedMap.get_modify_of_ne _ _ same, if_neg same]
        exact old
  | snapshot =>
      simp only [MetricsCollector.handle, MetricsCollector.snapshot, logAfter,
        OrderedMap.get_mapValues]
      have kept : Option.Rel (fun entry times => ClientMetricsEntry.Follows entry uuid times now)
          ((c.entries.get uuid).map (·.observe now)) ((recordedSince uuid calls).map id) :=
        rel_map _ id old fun _ _ followed => followed.observe
      rwa [Option.map_id] at kept

theorem MetricsCollector.Follows.later {c : MetricsCollector} {calls : List TimedCall}
    {now now' : Nat} (follows : c.Follows calls now) (later : now ≤ now') :
    c.Follows calls now' := by
  intro uuid
  have kept : Option.Rel (fun entry times => ClientMetricsEntry.Follows entry uuid times now')
      ((c.entries.get uuid).map id) ((recordedSince uuid calls).map id) :=
    rel_map id id (follows uuid) fun _ _ followed => followed.later later
  rwa [Option.map_id, Option.map_id] at kept

/-- The clock up to the last call. -/
theorem Nondecreasing.upto {calls : List TimedCall} {e : TimedCall} {now : Nat}
    (ordered : Nondecreasing (calls ++ [e] ++ [⟨.snapshot, now⟩])) :
    Nondecreasing (calls ++ [⟨.snapshot, e.now⟩]) := by
  unfold Nondecreasing at ordered ⊢
  rw [List.map_append, List.pairwise_append] at ordered
  simpa only [List.map_append, List.map_singleton] using ordered.1

/-- After any calls on a clock that never goes back, the entries follow the
logs. -/
theorem MetricsCollector.follows_after {calls : List TimedCall} {now : Nat}
    (ordered : Nondecreasing (calls ++ [⟨.snapshot, now⟩])) :
    (MetricsCollector.after calls).Follows calls now := by
  induction calls using List.reverseRecOn generalizing now with
  | nil => exact fun _ => .none
  | append_singleton calls e inductionHypothesis =>
      have latest : e.now ≤ now := by
        unfold Nondecreasing at ordered
        rw [List.map_append, List.pairwise_append] at ordered
        exact ordered.2.2 e.now (by simp) now (by simp)
      rw [MetricsCollector.after_append]
      exact (inductionHypothesis ordered.upto).handle.later latest

namespace MetricsCollector.Follows

variable {c : MetricsCollector} {calls : List TimedCall} {now : Nat} {uuid : String}

/-- An entry has a log to follow. -/
theorem entry {entry : ClientMetricsEntry} (follows : c.Follows calls now)
    (present : c.entries.get uuid = some entry) :
    ∃ times, recordedSince uuid calls = some times ∧ entry.Follows uuid times now := by
  have related := follows uuid
  rw [present] at related
  cases log : recordedSince uuid calls with
  | none => simp [log] at related
  | some times =>
      rw [log, Option.rel_some_some] at related
      exact ⟨times, rfl, related⟩

/-- A client with a log has an entry. -/
theorem registered {times : List Nat} (follows : c.Follows calls now)
    (log : recordedSince uuid calls = some times) :
    ∃ entry, c.entries.get uuid = some entry ∧ entry.Follows uuid times now := by
  have related := follows uuid
  rw [log] at related
  cases present : c.entries.get uuid with
  | none => simp [present] at related
  | some entry =>
      rw [present, Option.rel_some_some] at related
      exact ⟨entry, rfl, related⟩

end MetricsCollector.Follows

/-! ### What a snapshot reports -/

/-- The figures of a client that was recorded at `times`, at the time `t`: each
cell counts modulo 2^32. -/
structure ClientSnapshot.Figures (client : ClientSnapshot) (times : List Nat) (t : Nat) :
    Prop where
  reqPerSec : client.reqPerSec = times.countP (fun ms => nowSec ms = nowSec t) % 2 ^ 32
  reqPerHour : client.reqPerHour = ∑ back ∈ Finset.range SECONDS_PER_HOUR,
    times.countP (fun ms => nowSec ms + back = nowSec t) % 2 ^ 32
  reqPerDay : client.reqPerDay = ∑ back ∈ Finset.range HOURS_PER_DAY,
    times.countP (fun ms => nowHour ms + back = nowHour t) % 2 ^ 32
  totalRequests : client.totalRequests = times.length

/-- The figures of a client whose cells never overflow. -/
structure ClientSnapshot.ExactFigures (client : ClientSnapshot) (times : List Nat) (t : Nat) :
    Prop where
  reqPerSec : client.reqPerSec = times.countP fun ms => nowSec ms = nowSec t
  reqPerHour : client.reqPerHour =
    times.countP fun ms => nowSec t < nowSec ms + SECONDS_PER_HOUR ∧ nowSec ms ≤ nowSec t
  reqPerDay : client.reqPerDay =
    times.countP fun ms => nowHour t < nowHour ms + HOURS_PER_DAY ∧ nowHour ms ≤ nowHour t
  totalRequests : client.totalRequests = times.length
  ordered : client.reqPerSec ≤ client.reqPerHour ∧ client.reqPerHour ≤ client.reqPerDay ∧
    client.reqPerDay ≤ client.totalRequests

/-- No clock hour has 2^32 of the times. -/
def FitCells (times : List Nat) : Prop :=
  ∀ hour, times.countP (fun ms => nowHour ms = hour) < 2 ^ 32

namespace ClientSnapshot.Figures

variable {client : ClientSnapshot} {times : List Nat} {t : Nat}

/-- The figure of the second is part of the figure of the hour. -/
theorem reqPerSec_le (figures : client.Figures times t) :
    client.reqPerSec ≤ client.reqPerHour := by
  rw [figures.reqPerSec, figures.reqPerHour]
  have first : 0 ∈ Finset.range SECONDS_PER_HOUR := Finset.mem_range.mpr (by decide)
  exact Finset.single_le_sum (f := fun back =>
    times.countP (fun ms => nowSec ms + back = nowSec t) % 2 ^ 32) (fun _ _ => Nat.zero_le _) first

theorem sum_countP_le {unit : Nat → Nat} (past : ∀ ms ∈ times, unit ms ≤ unit t) (size : Nat) :
    ∑ back ∈ Finset.range size, times.countP (fun ms => unit ms + back = unit t) =
      times.countP fun ms => unit t < unit ms + size ∧ unit ms ≤ unit t := by
  have before : ∀ n ∈ times.map unit, n ≤ unit t := by
    intro n member
    obtain ⟨ms, recorded, rfl⟩ := List.mem_map.mp member
    exact past ms recorded
  have units := sum_countP_back before size
  simp only [List.countP_map] at units
  refine units.trans (List.countP_congr fun ms recorded => ?_)
  simp [past ms recorded]

/-- The figure of the day is at most the number of calls. -/
theorem reqPerDay_le (figures : client.Figures times t)
    (past : ∀ ms ∈ times, nowHour ms ≤ nowHour t) :
    client.reqPerDay ≤ client.totalRequests := by
  rw [figures.reqPerDay, figures.totalRequests]
  calc ∑ back ∈ Finset.range HOURS_PER_DAY,
        times.countP (fun ms => nowHour ms + back = nowHour t) % 2 ^ 32
      ≤ ∑ back ∈ Finset.range HOURS_PER_DAY,
        times.countP (fun ms => nowHour ms + back = nowHour t) :=
        Finset.sum_le_sum fun _ _ => Nat.mod_le _ _
    _ = times.countP _ := sum_countP_le past HOURS_PER_DAY
    _ ≤ times.length := List.countP_le_length

/-- While the cells suffice, the figures are the numbers of calls. -/
theorem exact (figures : client.Figures times t) (pastSec : ∀ ms ∈ times, nowSec ms ≤ nowSec t)
    (pastHour : ∀ ms ∈ times, nowHour ms ≤ nowHour t) (fit : FitCells times) :
    client.ExactFigures times t := by
  have hourFits : ∀ back, times.countP (fun ms => nowHour ms + back = nowHour t) < 2 ^ 32 := by
    intro back
    refine lt_of_le_of_lt (List.countP_mono_left fun ms _ present => ?_) (fit (nowHour t - back))
    simp only [decide_eq_true_eq] at present ⊢
    omega
  -- A second is part of one clock hour.
  have secFits : ∀ back, times.countP (fun ms => nowSec ms + back = nowSec t) < 2 ^ 32 := by
    intro back
    refine lt_of_le_of_lt (List.countP_mono_left fun ms _ present => ?_)
      (fit ((nowSec t - back) / 3600))
    have same : nowSec ms = nowSec t - back := by
      have present := of_decide_eq_true present
      omega
    exact decide_eq_true (congrArg (· / 3600) same)
  have perSec : client.reqPerSec = times.countP fun ms => nowSec ms = nowSec t := by
    rw [figures.reqPerSec]
    exact Nat.mod_eq_of_lt (by simpa using secFits 0)
  have perHour : client.reqPerHour =
      times.countP fun ms => nowSec t < nowSec ms + SECONDS_PER_HOUR ∧ nowSec ms ≤ nowSec t := by
    rw [figures.reqPerHour, ← sum_countP_le pastSec]
    exact Finset.sum_congr rfl fun back _ => Nat.mod_eq_of_lt (secFits back)
  have perDay : client.reqPerDay =
      times.countP fun ms => nowHour t < nowHour ms + HOURS_PER_DAY ∧ nowHour ms ≤ nowHour t := by
    rw [figures.reqPerDay, ← sum_countP_le pastHour]
    exact Finset.sum_congr rfl fun back _ => Nat.mod_eq_of_lt (hourFits back)
  refine ⟨perSec, perHour, perDay, figures.totalRequests, figures.reqPerSec_le, ?_,
    figures.reqPerDay_le pastHour⟩
  rw [perHour, perDay]
  refine List.countP_mono_left fun ms _ recent => decide_eq_true ?_
  have recent := of_decide_eq_true recent
  simp only [nowHour, SECONDS_PER_HOUR, HOURS_PER_DAY] at recent ⊢
  omega

end ClientSnapshot.Figures

/-- What an entry in step with its log shows. -/
theorem ClientMetricsEntry.Follows.figures {entry : ClientMetricsEntry} {uuid : String}
    {times : List Nat} {t : Nat} (follows : entry.Follows uuid times t) :
    ((entry.observe t).snapshot t).Figures times t := by
  obtain ⟨moved, secondEpoch, hourEpoch⟩ := follows.advance
  have cell := moved.seconds.cell_index
  have seconds := moved.seconds.sum_cells
  have hours := moved.hours.sum_cells
  simp only [ClientMetricsEntry.seconds, ClientMetricsEntry.hours, Buckets.window, secondEpoch,
    hourEpoch, List.countP_map, ← Buckets.sum_eq] at cell seconds hours
  exact ⟨cell, seconds, hours, moved.total⟩

/-- What a snapshot at the time `t` reports after `calls`. -/
structure StatusSnapshot.Reports (snapshot : StatusSnapshot) (calls : List TimedCall) (t : Nat) :
    Prop where
  clients : ∀ uuid, (∃ client ∈ snapshot.clients, client.uuid = uuid) ↔
    recordedSince uuid calls ≠ none
  nodup : (snapshot.clients.map ClientSnapshot.uuid).Nodup
  figures : ∀ client ∈ snapshot.clients, ∃ times,
    recordedSince client.uuid calls = some times ∧ client.Figures times t ∧
    client.reqPerSec ≤ client.reqPerHour ∧ client.reqPerDay ≤ client.totalRequests ∧
    (FitCells times → client.ExactFigures times t)
  connectedClients : snapshot.connectedClients = snapshot.clients.length
  reqPerSec : snapshot.reqPerSec = (snapshot.clients.map ClientSnapshot.reqPerSec).sum
  reqPerHour : snapshot.reqPerHour = (snapshot.clients.map ClientSnapshot.reqPerHour).sum
  reqPerDay : snapshot.reqPerDay = (snapshot.clients.map ClientSnapshot.reqPerDay).sum

theorem ClientMetricsEntry.Follows.past {entry : ClientMetricsEntry} {uuid : String}
    {times : List Nat} {t : Nat} (follows : entry.Follows uuid times t) :
    (∀ ms ∈ times, nowSec ms ≤ nowSec t) ∧ ∀ ms ∈ times, nowHour ms ≤ nowHour t :=
  ⟨fun _ recorded =>
      (follows.seconds.past _ (List.mem_map_of_mem recorded)).trans follows.secondEpoch,
    fun _ recorded =>
      (follows.hours.past _ (List.mem_map_of_mem recorded)).trans follows.hourEpoch⟩

/-- The clients of a snapshot, before they are sorted. -/
def MetricsCollector.shown (c : MetricsCollector) (t : Nat) : List ClientSnapshot :=
  c.entries.entries.map fun e => (e.2.observe t).snapshot t

theorem MetricsCollector.clients_perm (c : MetricsCollector) (t : Nat) :
    (c.snapshot t).2.clients.Perm (c.shown t) := by
  refine (List.mergeSort_perm _ _).trans (List.Perm.of_eq ?_)
  simp [MetricsCollector.shown, OrderedMap.values, OrderedMap.mapValues, Function.comp_def]

/-- A snapshot shows the entries. -/
theorem MetricsCollector.mem_clients_iff_entry (c : MetricsCollector) (t : Nat)
    {client : ClientSnapshot} :
    client ∈ (c.snapshot t).2.clients ↔
      ∃ uuid entry, c.entries.get uuid = some entry ∧ (entry.observe t).snapshot t = client := by
  rw [(c.clients_perm t).mem_iff, MetricsCollector.shown, List.mem_map]
  simp only [Prod.exists, c.entries.mem_entries_iff]

/-- The clients of a snapshot are the registered ones. -/
theorem MetricsCollector.Follows.mem_clients_iff {c : MetricsCollector} {calls : List TimedCall}
    {t : Nat} {uuid : String} (follows : c.Follows calls t) :
    (∃ client ∈ (c.snapshot t).2.clients, client.uuid = uuid) ↔
      recordedSince uuid calls ≠ none := by
  constructor
  · rintro ⟨client, member, rfl⟩
    obtain ⟨other, entry, present, rfl⟩ := (c.mem_clients_iff_entry t).mp member
    obtain ⟨times, log, followed⟩ := follows.entry present
    rw [followed.observe.uuid_eq.symm] at log
    exact log ▸ Option.some_ne_none times
  · intro registered
    obtain ⟨times, log⟩ := Option.ne_none_iff_exists'.mp registered
    obtain ⟨entry, present, followed⟩ := follows.registered log
    exact ⟨_, (c.mem_clients_iff_entry t).mpr ⟨uuid, entry, present, rfl⟩,
      followed.observe.uuid_eq⟩

theorem MetricsCollector.sum_shown (c : MetricsCollector) (t : Nat)
    (figure : ClientSnapshot → Nat) :
    ((((c.entries.mapValues fun entry => entry.observe t).values.map
      fun entry => entry.snapshot t).map figure).sum) =
      ((c.snapshot t).2.clients.map figure).sum := by
  rw [((c.clients_perm t).map figure).sum_eq]
  simp [MetricsCollector.shown, OrderedMap.values, OrderedMap.mapValues, Function.comp_def]

/-- For any calls on a clock that never goes back, a snapshot has every
registered client once, and its figures are those of its log since the latest
registration; the global figures are the sums. -/
theorem snapshot_reports (calls : List TimedCall) (t : Nat)
    (ordered : Nondecreasing (calls ++ [⟨.snapshot, t⟩])) :
    ((MetricsCollector.after calls).snapshot t).2.Reports calls t := by
  have follows := MetricsCollector.follows_after ordered
  generalize MetricsCollector.after calls = c at follows
  have shown := c.clients_perm t
  have entryLog : ∀ e ∈ c.entries.entries, ∃ times, recordedSince e.1 calls = some times ∧
      e.2.Follows e.1 times t := by
    rintro ⟨uuid, entry⟩ member
    exact follows.entry ((c.entries.mem_entries_iff uuid entry).mp member)
  have shownUuid : ∀ e ∈ c.entries.entries, ((e.2.observe t).snapshot t).uuid = e.1 := by
    intro e member
    obtain ⟨_, _, followed⟩ := entryLog e member
    exact followed.observe.uuid_eq
  constructor
  · exact fun uuid => follows.mem_clients_iff
  · have keys : (c.shown t).map ClientSnapshot.uuid = c.entries.entries.map Prod.fst := by
      rw [MetricsCollector.shown, List.map_map]
      exact List.map_congr_left shownUuid
    rw [(shown.map ClientSnapshot.uuid).nodup_iff, keys]
    exact c.entries.nodupKeys
  · intro client member
    obtain ⟨e, present, rfl⟩ := List.mem_map.mp (shown.mem_iff.mp member)
    obtain ⟨times, log, followed⟩ := entryLog e present
    obtain ⟨pastSec, pastHour⟩ := followed.past
    have figures := followed.figures
    exact ⟨times, (shownUuid e present).symm ▸ log, figures, figures.reqPerSec_le,
      figures.reqPerDay_le pastHour, figures.exact pastSec pastHour⟩
  · rw [shown.length_eq, MetricsCollector.shown, List.length_map]
    simp [MetricsCollector.snapshot, OrderedMap.mapValues]
  · exact c.sum_shown t ClientSnapshot.reqPerSec
  · exact c.sum_shown t ClientSnapshot.reqPerHour
  · exact c.sum_shown t ClientSnapshot.reqPerDay

/-- A client that is recorded in two hours, and a snapshot half a day later. -/
theorem snapshot_reports_two_hours :
    let calls : List TimedCall := [⟨.registerClient "a", 1767225600000⟩,
      ⟨.record "a", 1767225600000⟩, ⟨.record "a", 1767229200000⟩]
    ((MetricsCollector.after calls).snapshot 1767268800000).2.Reports calls 1767268800000 :=
  snapshot_reports _ _ (by simp [Nondecreasing])

/-! ### A cell that overflows -/

/-- A client registers and is recorded `n` times at the same moment. -/
def burst (uuid : String) (n t : Nat) : List TimedCall :=
  ⟨.registerClient uuid, t⟩ :: List.replicate n ⟨.record uuid, t⟩

theorem recordedSince_burst (uuid : String) (n t : Nat) :
    recordedSince uuid (burst uuid n t) = some (List.replicate n t) := by
  induction n with
  | zero => simp [burst, recordedSince, logAfter]
  | succ n inductionHypothesis =>
      have split : burst uuid (n + 1) t = burst uuid n t ++ [⟨.record uuid, t⟩] := by
        simp [burst, List.replicate_succ']
      rw [split, recordedSince_append, inductionHypothesis]
      simp [logAfter, List.replicate_succ']

theorem nondecreasing_burst (uuid : String) (n t : Nat) :
    Nondecreasing (burst uuid n t ++ [⟨.snapshot, t⟩]) := by
  unfold Nondecreasing
  apply List.pairwise_of_forall_mem_list
  have same : ∀ ms ∈ (burst uuid n t ++ [TimedCall.mk .snapshot t]).map TimedCall.now,
      ms = t := by
    intro ms member
    simp [burst] at member
    omega
  intro first member second member'
  rw [same first member, same second member']

/-- After `n` records in one second, the figure of that second is what is left
of `n` in a cell. -/
theorem reqPerSec_burst (uuid : String) (n t : Nat) :
    ∃ client ∈ ((MetricsCollector.after (burst uuid n t)).snapshot t).2.clients,
      client.uuid = uuid ∧ client.reqPerSec = n % 2 ^ 32 := by
  have follows := MetricsCollector.follows_after (nondecreasing_burst uuid n t)
  obtain ⟨entry, present, followed⟩ := follows.registered (recordedSince_burst uuid n t)
  refine ⟨_, (MetricsCollector.mem_clients_iff_entry _ t).mpr ⟨uuid, entry, present, rfl⟩,
    followed.observe.uuid_eq, ?_⟩
  rw [followed.figures.reqPerSec, List.countP_replicate, if_pos (by simp)]

/-- The client is shown with no request in the second that had 2^32 of them. -/
theorem reqPerSec_overflows :
    Nondecreasing (burst "a" (2 ^ 32) 1767225600000 ++ [⟨.snapshot, 1767225600000⟩]) ∧
    ∃ client ∈ ((MetricsCollector.after (burst "a" (2 ^ 32) 1767225600000)).snapshot
        1767225600000).2.clients,
      client.uuid = "a" ∧ ∃ times,
        recordedSince "a" (burst "a" (2 ^ 32) 1767225600000) = some times ∧
        client.reqPerSec = 0 ∧
        times.countP (fun ms => nowSec ms = nowSec 1767225600000) = 2 ^ 32 ∧
        ¬client.ExactFigures times 1767225600000 := by
  refine ⟨nondecreasing_burst _ _ _, ?_⟩
  generalize 1767225600000 = t
  obtain ⟨client, member, uuid, figure⟩ := reqPerSec_burst "a" (2 ^ 32) t
  have blank : client.reqPerSec = 0 := figure.trans (Nat.mod_self _)
  have count : ∀ n, (List.replicate n t).countP (fun ms => nowSec ms = nowSec t) = n := fun n => by
    rw [List.countP_replicate, if_pos (by simp)]
  refine ⟨client, member, uuid, _, recordedSince_burst _ _ _, blank, count _, fun exactly => ?_⟩
  have shown := exactly.reqPerSec
  rw [blank, count] at shown
  exact absurd shown (by decide)

end DicodeRelay.Status
