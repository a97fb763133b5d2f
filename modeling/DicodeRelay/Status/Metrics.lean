import DicodeRelay.Lib.OrderedMap
import Mathlib.Algebra.Ring.Int.Defs
import Mathlib.Algebra.Ring.Nat

/-!
Contract: the metrics collector of the status page.

Owns:
- the per-client sliding windows and their rotation;
- registering, removing and counting clients, and the snapshot;
- which clients have an entry after each operation.

Does not own: the process metrics of a snapshot, or who calls the collector.
-/

namespace DicodeRelay.Status

open DicodeRelay.Lib

def SECONDS_PER_HOUR : Nat := 3600
def HOURS_PER_DAY : Nat := 24

/-! ### Buckets -/

/-- A `Uint32Array` of the given length. -/
structure Buckets (size : Nat) where
  cells : List Nat
  length_cells : cells.length = size
deriving DecidableEq

namespace Buckets

variable {size : Nat}

def zero (size : Nat) : Buckets size := ⟨List.replicate size 0, List.length_replicate⟩

def get (b : Buckets size) (index : Nat) : Nat := b.cells.getD index 0

/-- A cell holds 32 bits. -/
def set (b : Buckets size) (index value : Nat) : Buckets size where
  cells := b.cells.set index (value % 2 ^ 32)
  length_cells := by rw [List.length_set, b.length_cells]

/-- `sumUint32Array` -/
def sum (b : Buckets size) : Nat := b.cells.sum

/-- Empty the `count` cells after `index`, going round. -/
def clearAfter (b : Buckets size) (index : Nat) : Nat → Buckets size
  | 0 => b
  | count + 1 => (b.clearAfter index count).set ((index + (count + 1)) % size) 0

end Buckets

/-! ### Entries -/

structure ClientMetricsEntry where
  uuid : String
  connectedAt : Nat
  secondBuckets : Buckets SECONDS_PER_HOUR
  secondIndex : Nat
  secondEpoch : Nat
  hourBuckets : Buckets HOURS_PER_DAY
  hourIndex : Nat
  hourEpoch : Nat
  totalRequests : Nat
  peakReqPerSec : Nat
  peakReqPerHour : Nat
  peakReqPerDay : Nat

structure ClientSnapshot where
  uuid : String
  connectedAt : Nat
  connectedDuration : String
  reqPerSec : Nat
  reqPerHour : Nat
  reqPerDay : Nat
  totalRequests : Nat
  peakReqPerSec : Nat
  peakReqPerHour : Nat
  peakReqPerDay : Nat

structure PeakValues where
  connectedClients : Nat
  reqPerSec : Nat
  reqPerHour : Nat
  reqPerDay : Nat

/-- The status snapshot without its process part. -/
structure StatusSnapshot where
  connectedClients : Nat
  reqPerSec : Nat
  reqPerHour : Nat
  reqPerDay : Nat
  peak : PeakValues
  clients : List ClientSnapshot

/-- Seconds and hours of a time in milliseconds. -/
def nowSec (nowMs : Nat) : Nat := nowMs / 1000

def nowHour (nowMs : Nat) : Nat := nowSec nowMs / 3600

def advanceSecondBuckets (entry : ClientMetricsEntry) (nowSec : Nat) : ClientMetricsEntry :=
  if nowSec ≤ entry.secondEpoch then entry
  else
    let elapsed := nowSec - entry.secondEpoch
    { entry with
      secondBuckets :=
        entry.secondBuckets.clearAfter entry.secondIndex (min elapsed SECONDS_PER_HOUR)
      secondIndex := (entry.secondIndex + elapsed) % SECONDS_PER_HOUR
      secondEpoch := nowSec }

def advanceHourBuckets (entry : ClientMetricsEntry) (nowHour : Nat) : ClientMetricsEntry :=
  if nowHour ≤ entry.hourEpoch then entry
  else
    let elapsed := nowHour - entry.hourEpoch
    { entry with
      hourBuckets := entry.hourBuckets.clearAfter entry.hourIndex (min elapsed HOURS_PER_DAY)
      hourIndex := (entry.hourIndex + elapsed) % HOURS_PER_DAY
      hourEpoch := nowHour }

/-- Bring the windows of an entry to the present. -/
def ClientMetricsEntry.advance (entry : ClientMetricsEntry) (nowMs : Nat) : ClientMetricsEntry :=
  advanceHourBuckets (advanceSecondBuckets entry (nowSec nowMs)) (nowHour nowMs)

/-- What `record` does to the client's entry. -/
def ClientMetricsEntry.record (entry : ClientMetricsEntry) (nowMs : Nat) : ClientMetricsEntry :=
  let entry := entry.advance nowMs
  { entry with
    secondBuckets :=
      entry.secondBuckets.set entry.secondIndex (entry.secondBuckets.get entry.secondIndex + 1)
    hourBuckets := entry.hourBuckets.set entry.hourIndex (entry.hourBuckets.get entry.hourIndex + 1)
    totalRequests := entry.totalRequests + 1 }

/-- What `snapshot` does to an entry: its windows move on and its peaks rise. -/
def ClientMetricsEntry.observe (entry : ClientMetricsEntry) (nowMs : Nat) : ClientMetricsEntry :=
  let entry := entry.advance nowMs
  { entry with
    peakReqPerSec := max entry.peakReqPerSec (entry.secondBuckets.get entry.secondIndex)
    peakReqPerHour := max entry.peakReqPerHour entry.secondBuckets.sum
    peakReqPerDay := max entry.peakReqPerDay entry.hourBuckets.sum }

/-! ### Snapshots of entries -/

def formatDuration (ms : Int) : String :=
  let totalSeconds := ms.fdiv 1000
  let days := totalSeconds.fdiv 86400
  let hours := (totalSeconds.tmod 86400).fdiv 3600
  let minutes := (totalSeconds.tmod 3600).fdiv 60
  let seconds := totalSeconds.tmod 60
  if days > 0 then toString days ++ "d " ++ toString hours ++ "h " ++ toString minutes ++ "m"
  else if hours > 0 then toString hours ++ "h " ++ toString minutes ++ "m"
  else if minutes > 0 then toString minutes ++ "m " ++ toString seconds ++ "s"
  else toString seconds ++ "s"

/-- What a snapshot shows of an entry that it has observed. -/
def ClientMetricsEntry.snapshot (entry : ClientMetricsEntry) (nowMs : Nat) : ClientSnapshot where
  uuid := entry.uuid
  connectedAt := entry.connectedAt
  connectedDuration := formatDuration ((nowMs : Int) - entry.connectedAt)
  reqPerSec := entry.secondBuckets.get entry.secondIndex
  reqPerHour := entry.secondBuckets.sum
  reqPerDay := entry.hourBuckets.sum
  totalRequests := entry.totalRequests
  peakReqPerSec := entry.peakReqPerSec
  peakReqPerHour := entry.peakReqPerHour
  peakReqPerDay := entry.peakReqPerDay

/-! ### The collector -/

structure MetricsCollector where
  entries : OrderedMap String ClientMetricsEntry
  peakConnectedClients : Nat
  peakReqPerSec : Nat
  peakReqPerHour : Nat
  peakReqPerDay : Nat

namespace MetricsCollector

def new : MetricsCollector := ⟨.empty, 0, 0, 0, 0⟩

def registerClient (c : MetricsCollector) (uuid : String) (nowMs : Nat) : MetricsCollector :=
  { c with entries := c.entries.set uuid {
      uuid
      connectedAt := nowMs
      secondBuckets := .zero SECONDS_PER_HOUR
      secondIndex := 0
      secondEpoch := nowSec nowMs
      hourBuckets := .zero HOURS_PER_DAY
      hourIndex := 0
      hourEpoch := nowHour nowMs
      totalRequests := 0
      peakReqPerSec := 0
      peakReqPerHour := 0
      peakReqPerDay := 0 } }

def removeClient (c : MetricsCollector) (uuid : String) : MetricsCollector :=
  { c with entries := c.entries.delete uuid }

def record (c : MetricsCollector) (uuid : String) (nowMs : Nat) : MetricsCollector :=
  { c with entries := c.entries.modify uuid fun entry => entry.record nowMs }

/-- The collector after the snapshot, and the snapshot. -/
def snapshot (c : MetricsCollector) (nowMs : Nat) : MetricsCollector × StatusSnapshot :=
  let entries := c.entries.mapValues fun entry => entry.observe nowMs
  let clients := entries.values.map fun entry => entry.snapshot nowMs
  let perSec := (clients.map ClientSnapshot.reqPerSec).sum
  let perHour := (clients.map ClientSnapshot.reqPerHour).sum
  let perDay := (clients.map ClientSnapshot.reqPerDay).sum
  let connected := entries.entries.length
  let collector : MetricsCollector := {
    entries
    peakConnectedClients := max c.peakConnectedClients connected
    peakReqPerSec := max c.peakReqPerSec perSec
    peakReqPerHour := max c.peakReqPerHour perHour
    peakReqPerDay := max c.peakReqPerDay perDay }
  (collector, {
    connectedClients := connected
    reqPerSec := perSec
    reqPerHour := perHour
    reqPerDay := perDay
    peak := ⟨collector.peakConnectedClients, collector.peakReqPerSec,
      collector.peakReqPerHour, collector.peakReqPerDay⟩
    clients := clients.mergeSort fun a b => decide (b.totalRequests ≤ a.totalRequests) })

/-! ### Which clients have an entry -/

/-- The collector counts for this client. -/
def tracks (c : MetricsCollector) (uuid : String) : Bool := c.entries.has uuid

@[simp] theorem tracks_new (uuid : String) : new.tracks uuid = false := rfl

@[simp] theorem tracks_registerClient (c : MetricsCollector) (uuid other : String) (nowMs : Nat) :
    (c.registerClient uuid nowMs).tracks other = (decide (uuid = other) || c.tracks other) := by
  unfold tracks registerClient OrderedMap.has
  rw [OrderedMap.get_set]
  by_cases same : uuid = other <;> simp [same]

@[simp] theorem tracks_removeClient (c : MetricsCollector) (uuid other : String) :
    (c.removeClient uuid).tracks other = (!decide (uuid = other) && c.tracks other) := by
  unfold tracks removeClient OrderedMap.has
  rw [OrderedMap.get_delete]
  by_cases same : uuid = other <;> simp [same]

@[simp] theorem tracks_record (c : MetricsCollector) (uuid other : String) (nowMs : Nat) :
    (c.record uuid nowMs).tracks other = c.tracks other := by
  unfold tracks record OrderedMap.has
  by_cases same : uuid = other
  · subst same
    simp
  · rw [OrderedMap.get_modify_of_ne _ _ same]

@[simp] theorem tracks_snapshot (c : MetricsCollector) (other : String) (nowMs : Nat) :
    (c.snapshot nowMs).1.tracks other = c.tracks other := by
  unfold tracks snapshot OrderedMap.has
  rw [OrderedMap.get_mapValues, Option.isSome_map]

end MetricsCollector

end DicodeRelay.Status
