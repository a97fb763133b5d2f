import DicodeRelay.Status.EventLog
import Mathlib.Order.Bounds.Basic

/-!
Contract: the peaks of the clients against what their counts ever reached.

Owns:
- how many calls of a client a window has at each moment since it registered;
- that a peak is the greatest figure that a snapshot has seen;
- when the peaks of two runs that differ in their snapshots are the same, and
  the greatest counts.

Does not own: the windows themselves; the peaks over all clients.
-/

namespace DicodeRelay.Status

open DicodeRelay.Lib

/-! ### The windows whose peaks are kept -/

inductive Rate where
  | perSec
  | perHour
  | perDay
deriving DecidableEq

namespace Rate

/-- What the cells of the window count by. -/
def unit : Rate → Nat → Nat
  | perSec | perHour => nowSec
  | perDay => nowHour

/-- How many units the window spans. -/
def size : Rate → Nat
  | perSec => 1
  | perHour => SECONDS_PER_HOUR
  | perDay => HOURS_PER_DAY

def entryPeak : Rate → ClientMetricsEntry → Nat
  | perSec => ClientMetricsEntry.peakReqPerSec
  | perHour => ClientMetricsEntry.peakReqPerHour
  | perDay => ClientMetricsEntry.peakReqPerDay

def peak : Rate → ClientSnapshot → Nat
  | perSec => ClientSnapshot.peakReqPerSec
  | perHour => ClientSnapshot.peakReqPerHour
  | perDay => ClientSnapshot.peakReqPerDay

theorem peak_snapshot (rate : Rate) (entry : ClientMetricsEntry) (now : Nat) :
    rate.peak (entry.snapshot now) = rate.entryPeak entry := by
  cases rate <;> rfl

/-- How many of the calls at `times` the window has at the time `now`. -/
def count (rate : Rate) (times : List Nat) (now : Nat) : Nat :=
  times.countP fun ms => rate.unit now < rate.unit ms + rate.size

/-- No unit of the window has 2^32 of the calls. -/
def Fits (rate : Rate) (times : List Nat) (now : Nat) : Prop :=
  ∀ back < rate.size, times.countP (fun ms => rate.unit ms + back = rate.unit now) < 2 ^ 32

/-- What the cells of the window add up to. -/
def figure (rate : Rate) (times : List Nat) (now : Nat) : Nat :=
  ∑ back ∈ Finset.range rate.size,
    times.countP (fun ms => rate.unit ms + back = rate.unit now) % 2 ^ 32

theorem unit_mono (rate : Rate) {now now' : Nat} (later : now ≤ now') :
    rate.unit now ≤ rate.unit now' := by
  cases rate with
  | perSec => exact ClientMetricsEntry.nowSec_mono later
  | perHour => exact ClientMetricsEntry.nowSec_mono later
  | perDay => exact ClientMetricsEntry.nowHour_mono later

section Cells

variable (rate : Rate) {times : List Nat} {now : Nat}

theorem count_eq_sum (past : ∀ ms ∈ times, ms ≤ now) :
    rate.count times now = ∑ back ∈ Finset.range rate.size,
      times.countP (fun ms => rate.unit ms + back = rate.unit now) := by
  have before : ∀ n ∈ times.map rate.unit, n ≤ rate.unit now := by
    intro n member
    obtain ⟨ms, recorded, rfl⟩ := List.mem_map.mp member
    exact rate.unit_mono (past ms recorded)
  have units := sum_countP_back before rate.size
  simp only [List.countP_map] at units
  exact units.symm

theorem figure_le_count (past : ∀ ms ∈ times, ms ≤ now) :
    rate.figure times now ≤ rate.count times now := by
  rw [rate.count_eq_sum past]
  exact Finset.sum_le_sum fun _ _ => Nat.mod_le _ _

/-- The cells have the whole count when none of them overflows. -/
theorem figure_eq_count_iff (past : ∀ ms ∈ times, ms ≤ now) :
    rate.figure times now = rate.count times now ↔ rate.Fits times now := by
  rw [rate.count_eq_sum past]
  unfold figure
  rw [Finset.sum_eq_sum_iff_of_le fun _ _ => Nat.mod_le _ _]
  constructor
  · intro whole back inside
    rw [← whole back (Finset.mem_range.mpr inside)]
    exact Nat.mod_lt _ (Nat.two_pow_pos 32)
  · intro fits back inside
    exact Nat.mod_eq_of_lt (fits back (Finset.mem_range.mp inside))

end Cells

end Rate

/-! ### Moments of a run -/

/-- The calls without the snapshots. -/
def deeds (calls : List TimedCall) : List TimedCall :=
  calls.filter fun e => e.call ≠ .snapshot

/-- At some time `now` up to `t`, when some of the calls are over and the
others do not register the client again, it was recorded at `times`. -/
def Moment (uuid : String) (calls : List TimedCall) (t : Nat) (times : List Nat) (now : Nat) :
    Prop :=
  ∃ before after, calls = before ++ after ∧ recordedSince uuid before = some times ∧
    (∀ e ∈ before, e.now ≤ now) ∧ now ≤ t ∧
    ∀ e ∈ after, now ≤ e.now ∧ e.call ≠ .registerClient uuid

/-- A snapshot of the run is taken at the time `now`, when the client was
recorded at `times`, and the client does not register again. -/
def Sighted (uuid : String) (run : List TimedCall) (times : List Nat) (now : Nat) : Prop :=
  ∃ before after, run = before ++ ⟨.snapshot, now⟩ :: after ∧
    recordedSince uuid before = some times ∧ ∀ e ∈ after, e.call ≠ .registerClient uuid

/-- The counts that the client's window had since it registered. -/
def Rate.reached (rate : Rate) (uuid : String) (calls : List TimedCall) (t : Nat) : Set Nat :=
  {n | ∃ times now, Moment uuid (deeds calls) t times now ∧ rate.count times now = n}

theorem deeds_append (calls others : List TimedCall) :
    deeds (calls ++ others) = deeds calls ++ deeds others :=
  List.filter_append _ _

/-- A run ends with its last call. -/
private theorem append_singleton_cons {run before after : List TimedCall} {e call : TimedCall}
    (split : run ++ [e] = before ++ call :: after) :
    (after = [] ∧ run = before ∧ e = call) ∨
      ∃ front, after = front ++ [e] ∧ run = before ++ call :: front := by
  rcases List.eq_nil_or_concat' after with rfl | ⟨front, last, rfl⟩
  · obtain ⟨same, final⟩ := List.append_inj' split rfl
    exact .inl ⟨rfl, same, List.singleton_inj.mp final⟩
  · rw [← List.cons_append, ← List.append_assoc] at split
    obtain ⟨same, final⟩ := List.append_inj' split rfl
    exact .inr ⟨front, by rw [List.singleton_inj.mp final], same⟩

theorem sighted_append (uuid : String) (run : List TimedCall) (e : TimedCall) (times : List Nat)
    (now : Nat) :
    Sighted uuid (run ++ [e]) times now ↔
      (e.call ≠ .registerClient uuid ∧ Sighted uuid run times now) ∨
      (e = ⟨.snapshot, now⟩ ∧ recordedSince uuid run = some times) := by
  constructor
  · rintro ⟨before, after, split, log, quiet⟩
    rcases append_singleton_cons split with ⟨_, rfl, rfl⟩ | ⟨front, rfl, rfl⟩
    · exact .inr ⟨rfl, log⟩
    · exact .inl ⟨quiet e (by simp), before, front, rfl, log,
        fun other member => quiet other (by simp [member])⟩
  · rintro (⟨still, before, after, rfl, log, quiet⟩ | ⟨rfl, log⟩)
    · refine ⟨before, after ++ [e], by simp, log, fun other member => ?_⟩
      rcases List.mem_append.mp member with earlier | last
      · exact quiet other earlier
      · rw [List.mem_singleton.mp last]
        exact still
    · exact ⟨run, [], rfl, log, by simp⟩

theorem recordedSince_deeds (uuid : String) (calls : List TimedCall) :
    recordedSince uuid (deeds calls) = recordedSince uuid calls := by
  induction calls using List.reverseRecOn with
  | nil => rfl
  | append_singleton calls e inductionHypothesis =>
      rw [recordedSince_append, deeds_append, ← inductionHypothesis]
      by_cases watching : e.call = .snapshot
      · simp [deeds, logAfter, watching]
      · have kept : deeds [e] = [e] := by simp [deeds, watching]
        rw [kept, recordedSince_append]

/-- On a clock that never goes back, what a snapshot sees is a moment of the
run. -/
theorem Sighted.moment {uuid : String} {calls : List TimedCall} {t : Nat} {times : List Nat}
    {now : Nat} (ordered : Nondecreasing (calls ++ [⟨.snapshot, t⟩]))
    (sighted : Sighted uuid (calls ++ [⟨.snapshot, t⟩]) times now) :
    Moment uuid (deeds calls) t times now := by
  obtain ⟨before, after, split, log, quiet⟩ := sighted
  have parts : deeds calls = deeds before ++ deeds after := by
    have filtered := congrArg deeds split
    rw [deeds_append, deeds_append] at filtered
    simpa [deeds] using filtered
  have clock : ((before.map TimedCall.now) ++ now :: after.map TimedCall.now).Pairwise
      (· ≤ ·) := by
    unfold Nondecreasing at ordered
    rwa [split, List.map_append, List.map_cons] at ordered
  rw [List.pairwise_append, List.pairwise_cons] at clock
  obtain ⟨_, ⟨later, _⟩, earlier⟩ := clock
  have final : now ≤ t := by
    rcases append_singleton_cons split with ⟨_, _, same⟩ | ⟨front, rfl, _⟩
    · exact (congrArg TimedCall.now same).ge
    · exact later t (by simp)
  refine ⟨deeds before, deeds after, parts, (recordedSince_deeds uuid before).trans log, ?_,
    final, ?_⟩
  · intro e member
    exact earlier e.now (List.mem_map_of_mem (List.mem_filter.mp member).1) now (by simp)
  · intro e member
    have member := (List.mem_filter.mp member).1
    exact ⟨later e.now (List.mem_map_of_mem member), quiet e member⟩

/-- When the client was recorded, registered or not. -/
def recordsOf (uuid : String) (calls : List TimedCall) : List Nat :=
  (calls.filter fun e => e.call = .record uuid).map TimedCall.now

theorem recordsOf_append (uuid : String) (calls others : List TimedCall) :
    recordsOf uuid (calls ++ others) = recordsOf uuid calls ++ recordsOf uuid others := by
  rw [recordsOf, List.filter_append, List.map_append]
  rfl

/-- The log of a client is a part of its records. -/
theorem recordedSince_sublist {uuid : String} {calls : List TimedCall} {times : List Nat}
    (log : recordedSince uuid calls = some times) : times.Sublist (recordsOf uuid calls) := by
  induction calls using List.reverseRecOn generalizing times with
  | nil => simp [recordedSince] at log
  | append_singleton calls e inductionHypothesis =>
      rw [recordsOf_append]
      have older : ∀ times, recordedSince uuid calls = some times →
          times.Sublist (recordsOf uuid calls ++ recordsOf uuid [e]) := fun _ log =>
        (inductionHypothesis log).trans (List.sublist_append_left _ _)
      rw [recordedSince_append] at log
      obtain ⟨call, now⟩ := e
      cases call with
      | registerClient other =>
          by_cases same : other = uuid
          · obtain rfl : [] = times := by simpa [logAfter, same] using log
            exact List.nil_sublist _
          · exact older times (by simpa [logAfter, same] using log)
      | removeClient other =>
          by_cases same : other = uuid
          · simp [logAfter, same] at log
          · exact older times (by simpa [logAfter, same] using log)
      | record other =>
          by_cases same : other = uuid
          · subst same
            obtain ⟨old, logged, rfl⟩ : ∃ old, recordedSince other calls = some old ∧
                old ++ [now] = times := by
              simpa [logAfter] using log
            have new : recordsOf other [⟨.record other, now⟩] = [now] := by simp [recordsOf]
            rw [new]
            exact (inductionHypothesis logged).append (List.Sublist.refl _)
          · exact older times (by simpa [logAfter, same] using log)
      | snapshot => exact older times (by simpa [logAfter] using log)

theorem Moment.past {uuid : String} {calls : List TimedCall} {t : Nat} {times : List Nat}
    {now : Nat} (moment : Moment uuid calls t times now) : ∀ ms ∈ times, ms ≤ now := by
  obtain ⟨before, _, _, log, past, _⟩ := moment
  intro ms recorded
  obtain ⟨e, member, rfl⟩ := List.mem_map.mp ((recordedSince_sublist log).subset recorded)
  exact past e (List.mem_filter.mp member).1

/-- A window never has more calls than the client was recorded in all. -/
theorem Moment.count_le {uuid : String} {calls : List TimedCall} {t : Nat} {times : List Nat}
    {now : Nat} (moment : Moment uuid calls t times now) (rate : Rate) :
    rate.count times now ≤ (recordsOf uuid calls).length := by
  obtain ⟨before, after, rfl, log, _⟩ := moment
  rw [recordsOf_append, List.length_append]
  calc rate.count times now ≤ times.length := List.countP_le_length
    _ ≤ (recordsOf uuid before).length := (recordedSince_sublist log).length_le
    _ ≤ _ := Nat.le_add_right _ _

/-! ### A peak is the greatest figure seen -/

/-- The peaks of an entry against the snapshots of its client. -/
def ClientMetricsEntry.PeaksFollow (entry : ClientMetricsEntry) (uuid : String)
    (run : List TimedCall) : Prop :=
  ∀ rate : Rate,
    (∀ times now, Sighted uuid run times now → rate.figure times now ≤ rate.entryPeak entry) ∧
    (rate.entryPeak entry = 0 ∨
      ∃ times now, Sighted uuid run times now ∧ rate.figure times now = rate.entryPeak entry)

namespace ClientMetricsEntry

theorem entryPeak_advance (rate : Rate) (entry : ClientMetricsEntry) (now : Nat) :
    rate.entryPeak (entry.advance now) = rate.entryPeak entry := by
  unfold advance advanceHourBuckets advanceSecondBuckets
  split <;> split <;> cases rate <;> rfl

theorem entryPeak_record (rate : Rate) (entry : ClientMetricsEntry) (now : Nat) :
    rate.entryPeak (entry.record now) = rate.entryPeak entry := by
  rw [← entryPeak_advance rate entry now]
  cases rate <;> rfl

/-- A snapshot raises the peaks to the figures it shows. -/
theorem Follows.entryPeak_observe {entry : ClientMetricsEntry} {uuid : String}
    {times : List Nat} {now : Nat} (follows : entry.Follows uuid times now) (rate : Rate) :
    rate.entryPeak (entry.observe now) = max (rate.entryPeak entry) (rate.figure times now) := by
  have figures := follows.figures
  rw [← entryPeak_advance rate entry now]
  cases rate with
  | perSec =>
      have seen : Rate.perSec.figure times now = ((entry.observe now).snapshot now).reqPerSec := by
        rw [figures.reqPerSec]
        simp [Rate.figure, Rate.size, Rate.unit]
      rw [seen]
      rfl
  | perHour =>
      have seen : Rate.perHour.figure times now =
          ((entry.observe now).snapshot now).reqPerHour := figures.reqPerHour.symm
      rw [seen]
      rfl
  | perDay =>
      have seen : Rate.perDay.figure times now = ((entry.observe now).snapshot now).reqPerDay :=
        figures.reqPerDay.symm
      rw [seen]
      rfl

/-- Calls other than snapshots and registrations of the client leave its
peaks alone. -/
theorem PeaksFollow.quiet {entry entry' : ClientMetricsEntry} {uuid : String}
    {run : List TimedCall} {e : TimedCall} (follow : entry.PeaksFollow uuid run)
    (same : ∀ rate : Rate, rate.entryPeak entry' = rate.entryPeak entry)
    (still : e.call ≠ .registerClient uuid) (unseen : e.call ≠ .snapshot) :
    entry'.PeaksFollow uuid (run ++ [e]) := by
  have sightings : ∀ times now, Sighted uuid (run ++ [e]) times now ↔
      Sighted uuid run times now := by
    intro times now
    rw [sighted_append]
    constructor
    · rintro (⟨_, sighted⟩ | ⟨rfl, _⟩)
      · exact sighted
      · exact absurd rfl unseen
    · exact fun sighted => .inl ⟨still, sighted⟩
  intro rate
  simp only [sightings, same rate]
  exact follow rate

/-- A client that registers has no snapshots yet. -/
theorem PeaksFollow.start {entry : ClientMetricsEntry} {uuid : String} {run : List TimedCall}
    {now : Nat} (blank : ∀ rate : Rate, rate.entryPeak entry = 0) :
    entry.PeaksFollow uuid (run ++ [⟨.registerClient uuid, now⟩]) := by
  refine fun rate => ⟨fun times moment sighted => ?_, .inl (blank rate)⟩
  rcases (sighted_append ..).mp sighted with ⟨still, _⟩ | ⟨same, _⟩
  · exact absurd rfl still
  · simp at same

/-- A snapshot sees the figures of the moment and keeps the greatest. -/
theorem PeaksFollow.observe {entry : ClientMetricsEntry} {uuid : String} {run : List TimedCall}
    {times : List Nat} {now : Nat} (follow : entry.PeaksFollow uuid run)
    (follows : entry.Follows uuid times now) (log : recordedSince uuid run = some times) :
    ∀ rate : Rate, IsGreatest
      {n | ∃ times' moment, Sighted uuid (run ++ [⟨.snapshot, now⟩]) times' moment ∧
        rate.figure times' moment = n}
      (rate.entryPeak (entry.observe now)) := by
  intro rate
  obtain ⟨bound, attained⟩ := follow rate
  have raised := follows.entryPeak_observe rate
  have here : Sighted uuid (run ++ [⟨.snapshot, now⟩]) times now :=
    (sighted_append ..).mpr (.inr ⟨rfl, log⟩)
  constructor
  · rcases Nat.le_total (rate.entryPeak entry) (rate.figure times now) with more | less
    · exact ⟨times, now, here, (raised.trans (Nat.max_eq_right more)).symm⟩
    · rcases attained with none | ⟨times', moment, sighted, equal⟩
      · exact ⟨times, now, here, by omega⟩
      · exact ⟨times', moment, (sighted_append ..).mpr (.inl ⟨by simp, sighted⟩), by omega⟩
  · rintro n ⟨times', moment, sighted, rfl⟩
    rcases (sighted_append ..).mp sighted with ⟨_, earlier⟩ | ⟨same, log'⟩
    · have old := bound times' moment earlier
      omega
    · obtain rfl : now = moment := congrArg TimedCall.now same
      obtain rfl : times = times' := Option.some.inj (log.symm.trans log')
      omega

end ClientMetricsEntry

/-- The peaks of every entry follow the snapshots. -/
def MetricsCollector.PeaksFollow (c : MetricsCollector) (calls : List TimedCall) : Prop :=
  ∀ uuid entry, c.entries.get uuid = some entry → entry.PeaksFollow uuid calls

/-- A call keeps the peaks in step with the snapshots. -/
theorem MetricsCollector.PeaksFollow.handle {c : MetricsCollector} {calls : List TimedCall}
    {e : TimedCall} (follow : c.PeaksFollow calls) (follows : c.Follows calls e.now) :
    (c.handle e).PeaksFollow (calls ++ [e]) := by
  intro uuid entry present
  obtain ⟨call, now⟩ := e
  cases call with
  | registerClient other =>
      simp only [MetricsCollector.handle, MetricsCollector.registerClient,
        OrderedMap.get_set] at present
      by_cases same : other = uuid
      · subst same
        rw [if_pos rfl] at present
        obtain rfl := Option.some.inj present
        exact .start fun rate => by cases rate <;> rfl
      · rw [if_neg same] at present
        exact (follow uuid entry present).quiet (fun _ => rfl) (by simpa using same) (by simp)
  | removeClient other =>
      simp only [MetricsCollector.handle, MetricsCollector.removeClient,
        OrderedMap.get_delete] at present
      by_cases same : other = uuid
      · simp [same] at present
      · rw [if_neg same] at present
        exact (follow uuid entry present).quiet (fun _ => rfl) (by simp) (by simp)
  | record other =>
      simp only [MetricsCollector.handle, MetricsCollector.record] at present
      by_cases same : other = uuid
      · subst same
        rw [OrderedMap.get_modify_self, Option.map_eq_some_iff] at present
        obtain ⟨old, present, rfl⟩ := present
        exact (follow other old present).quiet (old.entryPeak_record · now) (by simp) (by simp)
      · rw [OrderedMap.get_modify_of_ne _ _ same] at present
        exact (follow uuid entry present).quiet (fun _ => rfl) (by simp) (by simp)
  | snapshot =>
      simp only [MetricsCollector.handle, MetricsCollector.snapshot, OrderedMap.get_mapValues,
        Option.map_eq_some_iff] at present
      obtain ⟨old, present, rfl⟩ := present
      obtain ⟨times, log, followed⟩ := follows.entry present
      intro rate
      obtain ⟨attained, bound⟩ := (follow uuid old present).observe followed log rate
      exact ⟨fun times' moment sighted => bound ⟨times', moment, sighted, rfl⟩, .inr attained⟩

/-- After any calls on a clock that never goes back, the peaks follow the
snapshots. -/
theorem MetricsCollector.peaksFollow_after {calls : List TimedCall} {now : Nat}
    (ordered : Nondecreasing (calls ++ [⟨.snapshot, now⟩])) :
    (MetricsCollector.after calls).PeaksFollow calls := by
  induction calls using List.reverseRecOn generalizing now with
  | nil =>
      intro uuid entry present
      simp [MetricsCollector.after, MetricsCollector.new] at present
  | append_singleton calls e inductionHypothesis =>
      have earlier := ordered.upto
      rw [MetricsCollector.after_append]
      exact (inductionHypothesis earlier).handle (MetricsCollector.follows_after earlier)

/-! ### The peaks of a snapshot -/

/-- The peak shown is the greatest count the window ever had exactly when a
snapshot saw that count, in cells that hold it. -/
theorem ClientMetricsEntry.peak_isGreatest_iff {entry : ClientMetricsEntry} {uuid : String}
    {calls : List TimedCall} {times : List Nat} {t : Nat}
    (ordered : Nondecreasing (calls ++ [⟨.snapshot, t⟩]))
    (follow : entry.PeaksFollow uuid calls) (follows : entry.Follows uuid times t)
    (log : recordedSince uuid calls = some times) (rate : Rate) :
    IsGreatest (rate.reached uuid calls t) (rate.peak ((entry.observe t).snapshot t)) ↔
      ∃ times now, Sighted uuid (calls ++ [⟨.snapshot, t⟩]) times now ∧ rate.Fits times now ∧
        rate.count times now ∈ upperBounds (rate.reached uuid calls t) := by
  rw [rate.peak_snapshot]
  obtain ⟨⟨times₀, now₀, sighted₀, equal⟩, bound⟩ := follow.observe follows log rate
  have moment₀ := sighted₀.moment ordered
  have least := rate.figure_le_count moment₀.past
  constructor
  · rintro ⟨_, greatest⟩
    have most := greatest ⟨times₀, now₀, moment₀, rfl⟩
    have whole : rate.figure times₀ now₀ = rate.count times₀ now₀ := by omega
    refine ⟨times₀, now₀, sighted₀, (rate.figure_eq_count_iff moment₀.past).mp whole, ?_⟩
    rwa [← whole, equal]
  · rintro ⟨times₁, now₁, sighted₁, fits, greatest⟩
    have moment₁ := sighted₁.moment ordered
    have whole := (rate.figure_eq_count_iff moment₁.past).mpr fits
    have seen := bound ⟨times₁, now₁, sighted₁, rfl⟩
    have most := greatest ⟨times₀, now₀, moment₀, rfl⟩
    have same : rate.count times₁ now₁ = rate.entryPeak (entry.observe t) := by omega
    exact ⟨⟨times₁, now₁, moment₁, same⟩, same ▸ greatest⟩

/-- A registered client is shown with the greatest figures that a snapshot has
seen. -/
theorem exists_peak {calls : List TimedCall} {uuid : String} {times : List Nat} {t : Nat}
    (ordered : Nondecreasing (calls ++ [⟨.snapshot, t⟩]))
    (log : recordedSince uuid calls = some times) :
    ∃ client ∈ ((MetricsCollector.after calls).snapshot t).2.clients, client.uuid = uuid ∧
      ∀ rate : Rate, IsGreatest
        {n | ∃ times now, Sighted uuid (calls ++ [⟨.snapshot, t⟩]) times now ∧
          rate.figure times now = n} (rate.peak client) := by
  obtain ⟨entry, present, followed⟩ :=
    (MetricsCollector.follows_after ordered).registered log
  refine ⟨_, (MetricsCollector.mem_clients_iff_entry _ t).mpr ⟨uuid, entry, present, rfl⟩,
    followed.observe.uuid_eq, fun rate => ?_⟩
  have peaks := MetricsCollector.peaksFollow_after ordered uuid entry present
  rw [rate.peak_snapshot]
  exact peaks.observe followed log rate

/-- Both final snapshots, at the time `t`, show the same clients with the same
peaks, the greatest counts since the clients registered. -/
structure PeaksAgree (calls calls' : List TimedCall) (t : Nat) : Prop where
  clients : ∀ uuid,
    (∃ client ∈ ((MetricsCollector.after calls).snapshot t).2.clients, client.uuid = uuid) ↔
      ∃ client ∈ ((MetricsCollector.after calls').snapshot t).2.clients, client.uuid = uuid
  same : ∀ client ∈ ((MetricsCollector.after calls).snapshot t).2.clients,
    ∀ client' ∈ ((MetricsCollector.after calls').snapshot t).2.clients,
      client.uuid = client'.uuid → ∀ rate : Rate, rate.peak client = rate.peak client'
  greatest : ∀ client ∈ ((MetricsCollector.after calls).snapshot t).2.clients,
    ∀ rate : Rate, IsGreatest (rate.reached client.uuid calls t) (rate.peak client)
  greatest' : ∀ client ∈ ((MetricsCollector.after calls').snapshot t).2.clients,
    ∀ rate : Rate, IsGreatest (rate.reached client.uuid calls' t) (rate.peak client)

/-- For every registered client and each window, some snapshot since it
registered, the final one included, is taken when the count is the greatest,
in cells that hold it. -/
def Watched (calls : List TimedCall) (t : Nat) : Prop :=
  ∀ uuid, recordedSince uuid calls ≠ none → ∀ rate : Rate,
    ∃ times now, Sighted uuid (calls ++ [⟨.snapshot, t⟩]) times now ∧ rate.Fits times now ∧
      rate.count times now ∈ upperBounds (rate.reached uuid calls t)

/-- A run reports the greatest counts exactly when it was watched. -/
theorem greatest_iff_watched {calls : List TimedCall} {t : Nat}
    (ordered : Nondecreasing (calls ++ [⟨.snapshot, t⟩])) :
    (∀ client ∈ ((MetricsCollector.after calls).snapshot t).2.clients,
      ∀ rate : Rate, IsGreatest (rate.reached client.uuid calls t) (rate.peak client)) ↔
      Watched calls t := by
  have follows := MetricsCollector.follows_after ordered
  have peaks := MetricsCollector.peaksFollow_after ordered
  constructor
  · intro greatest uuid registered rate
    obtain ⟨times, log⟩ := Option.ne_none_iff_exists'.mp registered
    obtain ⟨entry, present, followed⟩ := follows.registered log
    have shown := greatest _ ((MetricsCollector.mem_clients_iff_entry _ t).mpr
      ⟨uuid, entry, present, rfl⟩) rate
    have named : ((entry.observe t).snapshot t).uuid = uuid := followed.observe.uuid_eq
    rw [named] at shown
    exact (ClientMetricsEntry.peak_isGreatest_iff ordered (peaks uuid entry present) followed log
      rate).mp shown
  · intro watched client member rate
    obtain ⟨uuid, entry, present, rfl⟩ := (MetricsCollector.mem_clients_iff_entry _ t).mp member
    obtain ⟨times, log, followed⟩ := follows.entry present
    have named : ((entry.observe t).snapshot t).uuid = uuid := followed.observe.uuid_eq
    rw [named]
    exact (ClientMetricsEntry.peak_isGreatest_iff ordered (peaks uuid entry present) followed log
      rate).mpr (watched uuid (by simp [log]) rate)

/-- For two runs on a clock that never goes back that differ in their snapshots
only, the peaks agree exactly when both runs were watched. -/
theorem peaks_agree_iff (calls calls' : List TimedCall) (t : Nat)
    (ordered : Nondecreasing (calls ++ [⟨.snapshot, t⟩]))
    (ordered' : Nondecreasing (calls' ++ [⟨.snapshot, t⟩]))
    (sameDeeds : deeds calls = deeds calls') :
    PeaksAgree calls calls' t ↔ Watched calls t ∧ Watched calls' t := by
  have greatest := greatest_iff_watched ordered
  have greatest' := greatest_iff_watched ordered'
  have logs : ∀ uuid, recordedSince uuid calls = recordedSince uuid calls' := by
    intro uuid
    rw [← recordedSince_deeds uuid calls, sameDeeds, recordedSince_deeds]
  have reached : ∀ (rate : Rate) uuid, rate.reached uuid calls t = rate.reached uuid calls' t := by
    intro rate uuid
    rw [Rate.reached, sameDeeds]
    rfl
  constructor
  · intro agree
    exact ⟨greatest.mp agree.greatest, greatest'.mp agree.greatest'⟩
  · rintro ⟨watched, watched'⟩
    refine ⟨fun uuid => ?_, ?_, greatest.mpr watched, greatest'.mpr watched'⟩
    · rw [(MetricsCollector.follows_after ordered).mem_clients_iff,
        (MetricsCollector.follows_after ordered').mem_clients_iff, logs]
    · intro client member client' member' named rate
      have most := greatest.mpr watched client member rate
      have most' := greatest'.mpr watched' client' member' rate
      rw [reached, named] at most
      exact most.unique most'

/-! ### A client that is recorded twice -/

theorem Rate.fits_of_length {rate : Rate} {times : List Nat} {now : Nat}
    (short : times.length < 2 ^ 32) : rate.Fits times now :=
  fun _ _ => lt_of_le_of_lt List.countP_le_length short

/-- A run without snapshots is seen at its end only. -/
theorem sighted_final_iff {uuid : String} {calls : List TimedCall} {t : Nat} {times : List Nat}
    {now : Nat} (unseen : ∀ e ∈ calls, e.call ≠ .snapshot) :
    Sighted uuid (calls ++ [⟨.snapshot, t⟩]) times now ↔
      t = now ∧ recordedSince uuid calls = some times := by
  rw [sighted_append]
  constructor
  · rintro (⟨_, before, after, rfl, _⟩ | ⟨same, log⟩)
    · exact absurd rfl (unseen _ (List.mem_append_right _ List.mem_cons_self))
    · exact ⟨congrArg TimedCall.now same, log⟩
  · rintro ⟨rfl, log⟩
    exact .inr ⟨rfl, log⟩

namespace Sample

/-- A client is recorded twice in one second. -/
def twice : List TimedCall :=
  [⟨.registerClient "a", 1767225600000⟩, ⟨.record "a", 1767225600100⟩,
    ⟨.record "a", 1767225600200⟩]

/-- The status page is read in that second. -/
def watchedTwice : List TimedCall := twice ++ [⟨.snapshot, 1767225600300⟩]

/-- The status page is read more than a day later. -/
def nextDay : Nat := 1767315600000

theorem unseen_twice : ∀ e ∈ twice, e.call ≠ .snapshot := by simp [twice]

theorem recordedSince_twice :
    recordedSince "a" twice = some [1767225600100, 1767225600200] := by
  simp [recordedSince, twice, logAfter]

theorem count_twice (rate : Rate) :
    rate.count [1767225600100, 1767225600200] 1767225600300 = 2 ∧
      rate.count [1767225600100, 1767225600200] nextDay = 0 := by
  cases rate <;> decide

/-- The cells hold these counts. -/
theorem figure_twice (rate : Rate) :
    rate.figure [1767225600100, 1767225600200] 1767225600300 = 2 ∧
      rate.figure [1767225600100, 1767225600200] nextDay = 0 := by
  have whole : ∀ now, 1767225600300 ≤ now →
      rate.figure [1767225600100, 1767225600200] now =
        rate.count [1767225600100, 1767225600200] now := by
    intro now later
    refine (rate.figure_eq_count_iff ?_).mpr (Rate.fits_of_length (by decide))
    simp only [List.mem_cons, List.not_mem_nil, or_false]
    rintro ms (rfl | rfl) <;> omega
  rw [whole _ (Nat.le_refl _), whole nextDay (by decide)]
  exact count_twice rate

theorem recordedSince_watchedTwice :
    recordedSince "a" watchedTwice = some [1767225600100, 1767225600200] := by
  rw [watchedTwice, recordedSince_append, recordedSince_twice]
  rfl

theorem nondecreasing_twice : Nondecreasing (twice ++ [⟨.snapshot, nextDay⟩]) := by
  simp [Nondecreasing, twice, nextDay]

theorem nondecreasing_watchedTwice :
    Nondecreasing (watchedTwice ++ [⟨.snapshot, nextDay⟩]) := by
  simp [Nondecreasing, watchedTwice, twice, nextDay]

theorem sighted_watchedTwice {t : Nat} {times : List Nat} {now : Nat} :
    Sighted "a" (watchedTwice ++ [⟨.snapshot, t⟩]) times now ↔
      times = [1767225600100, 1767225600200] ∧ (now = 1767225600300 ∨ now = t) := by
  rw [sighted_append, recordedSince_watchedTwice, watchedTwice, sighted_final_iff unseen_twice,
    recordedSince_twice]
  simp
  tauto

/-- Whoever reads the page in that second sees every peak. -/
theorem watched_of_sighted {calls : List TimedCall} {t : Nat} (same : deeds calls = twice)
    (sighted : Sighted "a" (calls ++ [⟨.snapshot, t⟩]) [1767225600100, 1767225600200]
      1767225600300) : Watched calls t := by
  intro uuid registered rate
  obtain rfl : "a" = uuid := by
    by_contra other
    rw [← recordedSince_deeds, same] at registered
    simp [recordedSince, twice, logAfter, other] at registered
  refine ⟨_, _, sighted, Rate.fits_of_length (by decide), ?_⟩
  rintro n ⟨times, now, moment, rfl⟩
  rw [(count_twice rate).1]
  rw [same] at moment
  exact moment.count_le rate

theorem deeds_watchedTwice : deeds watchedTwice = twice := by
  simp [deeds, watchedTwice, twice]

end Sample

/-- The page is read in the busy second only, and once more later. -/
theorem peaks_agree_watched :
    PeaksAgree Sample.watchedTwice (Sample.watchedTwice ++ [⟨.snapshot, 1767225600900⟩])
      Sample.nextDay := by
  have same : deeds (Sample.watchedTwice ++ [⟨.snapshot, 1767225600900⟩]) = Sample.twice := by
    rw [deeds_append, Sample.deeds_watchedTwice]
    rfl
  refine (peaks_agree_iff _ _ _ Sample.nondecreasing_watchedTwice
    (by simp [Nondecreasing, Sample.watchedTwice, Sample.twice, Sample.nextDay])
    (Sample.deeds_watchedTwice.trans same.symm)).mpr
      ⟨Sample.watched_of_sighted Sample.deeds_watchedTwice ?_,
        Sample.watched_of_sighted same ?_⟩
  · exact Sample.sighted_watchedTwice.mpr ⟨rfl, .inl rfl⟩
  · rw [sighted_append]
    exact .inl ⟨by simp, Sample.sighted_watchedTwice.mpr ⟨rfl, .inl rfl⟩⟩

/-- Nobody reads the page in the busy second: every peak is zero on the next
day, where a reader in that second makes it two. -/
theorem peaks_depend_on_watching :
    Nondecreasing (Sample.twice ++ [⟨.snapshot, Sample.nextDay⟩]) ∧
    Nondecreasing (Sample.watchedTwice ++ [⟨.snapshot, Sample.nextDay⟩]) ∧
    deeds Sample.twice = deeds Sample.watchedTwice ∧
    (∃ client ∈ ((MetricsCollector.after Sample.twice).snapshot Sample.nextDay).2.clients,
      client.uuid = "a" ∧ ∀ rate : Rate, rate.peak client = 0) ∧
    (∃ client ∈ ((MetricsCollector.after Sample.watchedTwice).snapshot
        Sample.nextDay).2.clients,
      client.uuid = "a" ∧ ∀ rate : Rate, rate.peak client = 2) ∧
    ¬PeaksAgree Sample.twice Sample.watchedTwice Sample.nextDay := by
  obtain ⟨client, member, named, unwatched⟩ :=
    exists_peak Sample.nondecreasing_twice Sample.recordedSince_twice
  obtain ⟨client', member', named', watched⟩ :=
    exists_peak Sample.nondecreasing_watchedTwice Sample.recordedSince_watchedTwice
  have none : ∀ rate : Rate, rate.peak client = 0 := by
    intro rate
    obtain ⟨times, now, sighted, equal⟩ := (unwatched rate).1
    rw [sighted_final_iff Sample.unseen_twice, Sample.recordedSince_twice] at sighted
    obtain ⟨rfl, same⟩ := sighted
    obtain rfl := Option.some.inj same
    rw [← equal, (Sample.figure_twice rate).2]
  have two : ∀ rate : Rate, rate.peak client' = 2 := by
    intro rate
    obtain ⟨⟨times, now, sighted, equal⟩, bound⟩ := watched rate
    have seen := bound ⟨_, _, Sample.sighted_watchedTwice.mpr ⟨rfl, .inl rfl⟩, rfl⟩
    obtain ⟨rfl, rfl | rfl⟩ := Sample.sighted_watchedTwice.mp sighted
    · rw [← equal, (Sample.figure_twice rate).1]
    · rw [(Sample.figure_twice rate).1, ← equal, (Sample.figure_twice rate).2] at seen
      exact absurd seen (by decide)
  refine ⟨Sample.nondecreasing_twice, Sample.nondecreasing_watchedTwice,
    Sample.deeds_watchedTwice.symm, ⟨client, member, named, none⟩,
    ⟨client', member', named', two⟩, fun agree => ?_⟩
  have same := agree.same client member client' member' (named.trans named'.symm) .perSec
  rw [none, two] at same
  exact absurd same (by decide)

end DicodeRelay.Status
