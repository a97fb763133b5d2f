import DicodeRelay.Lib.Json
import Mathlib.Data.List.Dedup

/-!
Contract: the flow a browser carries through an OAuth round, and the guard
that lets each session id through once.

Owns:
- the flow payload;
- the cache behind the guard, as a parameter with its documented behaviour;
- the guard, and what it answers for an id that was let through.

Does not own: how a flow is sealed; when the guard is asked.
-/

namespace DicodeRelay.Broker

open DicodeRelay.Lib

structure Session where
  sessionId : String
  relayUuid : String
  /-- The ECIES recipient. -/
  pubkey : Bytes
  pkceChallenge : String
  provider : String
  /-- In milliseconds. -/
  expiresAt : Decimal
  scope : Option String
deriving DecidableEq

/-! ### The cache -/

/-- The `set` calls on a cache so far, each with its clock reading. -/
abbrev CacheCalls := List (String × Nat)

def CacheCalls.ids (calls : CacheCalls) : List String := (calls.map Prod.fst).dedup

/-- When `id` was set last. -/
def CacheCalls.lastSet (calls : CacheCalls) (id : String) : Option Nat :=
  (calls.reverse.find? fun call => call.1 = id).map Prod.snd

/-- The cache library: which options its constructor takes, and what `has`
answers at a clock reading after some calls. -/
structure LruCache where
  constructs : (max : Nat) → (ttl : Int) → Bool
  has : (max : Nat) → (ttl : Int) → CacheCalls → String → (now : Nat) → Bool

/-- The documented behaviour of the cache: an id that was set stays for `ttl`
milliseconds, or forever when `ttl` is 0, unless `max` ids push it out. -/
structure LruCache.Documented (lru : LruCache) : Prop where
  constructs_iff : ∀ max ttl, 0 < max → (lru.constructs max ttl = true ↔ 0 ≤ ttl)
  absent : ∀ max ttl calls id now, CacheCalls.lastSet calls id = none →
    lru.has max ttl calls id now = false
  kept : ∀ max ttl calls id (now setAt : Nat), (CacheCalls.ids calls).length < max →
    CacheCalls.lastSet calls id = some setAt → (ttl = 0 ∨ (now : Int) ≤ setAt + ttl) →
    lru.has max ttl calls id now = true
  expired : ∀ max ttl calls id (now setAt : Nat), CacheCalls.lastSet calls id = some setAt →
    0 < ttl → setAt + ttl < (now : Int) → lru.has max ttl calls id now = false

/-! ### The guard -/

/-- Hard ceiling on tracked session ids. -/
def MAX_SEEN : Nat := 10000

structure SeenSet where
  ttlMs : Int
  calls : CacheCalls

/-- `none`: the constructor throws. -/
def SeenSet.create (lru : LruCache) (ttlMs : Int) : Option SeenSet :=
  if lru.constructs MAX_SEEN ttlMs then some ⟨ttlMs, []⟩ else none

def SeenSet.has (lru : LruCache) (seen : SeenSet) (id : String) (now : Nat) : Bool :=
  lru.has MAX_SEEN seen.ttlMs seen.calls id now

def SeenSet.record (seen : SeenSet) (id : String) (now : Nat) : SeenSet :=
  { seen with calls := seen.calls ++ [(id, now)] }

/-- Whether `id` is new, and the guard after recording it. -/
def SeenSet.add (lru : LruCache) (seen : SeenSet) (id : String) (now : Nat) : Bool × SeenSet :=
  if seen.has lru id now then (false, seen) else (true, seen.record id now)

/-! ### What the guard remembers -/

theorem CacheCalls.lastSet_append (calls : CacheCalls) (id id' : String) (now : Nat) :
    CacheCalls.lastSet (calls ++ [(id', now)]) id =
      if id' = id then some now else CacheCalls.lastSet calls id := by
  unfold CacheCalls.lastSet
  rw [List.reverse_append, List.reverse_singleton, List.singleton_append, List.find?_cons]
  by_cases same : id' = id <;> simp [same]

@[simp] theorem SeenSet.ttlMs_record (seen : SeenSet) (id : String) (now : Nat) :
    (seen.record id now).ttlMs = seen.ttlMs := rfl

theorem SeenSet.record_of_add {lru : LruCache} {seen seen' : SeenSet} {id : String} {now : Nat}
    (added : seen.add lru id now = (true, seen')) : seen' = seen.record id now := by
  unfold SeenSet.add at added
  split at added
  · simp at added
  · exact (Prod.mk.inj added).2.symm

/-- An id is let through again only after its time to live. -/
theorem SeenSet.expired_of_add {lru : LruCache} (documented : lru.Documented) {seen seen' : SeenSet}
    {id : String} {now setAt : Nat} (room : (CacheCalls.ids seen.calls).length < MAX_SEEN)
    (recorded : CacheCalls.lastSet seen.calls id = some setAt)
    (added : seen.add lru id now = (true, seen')) :
    seen.ttlMs ≠ 0 ∧ setAt + seen.ttlMs < now := by
  unfold SeenSet.add at added
  split at added
  · simp at added
  · rename_i fresh
    by_contra kept
    rw [not_and_or, not_not, Int.not_lt] at kept
    exact fresh (documented.kept _ _ _ _ _ _ room recorded kept)

end DicodeRelay.Broker
