import DicodeRelay.Lib.OrderedMap

/-!
Contract: armed timers under handles that are never reused.

Owns:
- timers with a due time and a payload, started under a fresh handle;
- starting, rescheduling and clearing, and lookup after each;
- that armed timers are fired in time, up to a lag, after each operation.

Does not own: the clock.
-/

namespace DicodeRelay.Lib

universe u

/-- The delay a timer gets: out of range means one millisecond. -/
def timerDelay (ms : Int) : Nat := if 1 ≤ ms ∧ ms ≤ 2147483647 then ms.toNat else 1

theorem timerDelay_pos (ms : Int) : 0 < timerDelay ms := by
  unfold timerDelay
  split <;> omega

structure Timer (Payload : Type u) where
  due : Nat
  payload : Payload
deriving DecidableEq

/-- The armed timers, and the handle the next one gets. -/
structure Timers (Payload : Type u) where
  armed : OrderedMap Nat (Timer Payload)
  next : Nat
  fresh : ∀ handle, next ≤ handle → armed.get handle = none

namespace Timers

variable {Payload : Type u}

def empty : Timers Payload := ⟨OrderedMap.empty, 0, fun _ _ => rfl⟩

def get (t : Timers Payload) (handle : Nat) : Option (Timer Payload) := t.armed.get handle

/-- Arm a timer under the handle `t.next`. -/
def start (t : Timers Payload) (due : Nat) (payload : Payload) : Timers Payload where
  armed := t.armed.set t.next ⟨due, payload⟩
  next := t.next + 1
  fresh := by
    intro handle later
    rw [OrderedMap.get_set_of_ne _ _ (by omega)]
    exact t.fresh handle (by omega)

/-- Put off an armed timer. -/
def reschedule (t : Timers Payload) (handle due : Nat) : Timers Payload :=
  match present : t.armed.get handle with
  | none => t
  | some timer =>
      { armed := t.armed.set handle { timer with due }
        next := t.next
        fresh := by
          intro other later
          have different : handle ≠ other := by
            rintro rfl
            rw [t.fresh handle later] at present
            contradiction
          rw [OrderedMap.get_set_of_ne _ _ different]
          exact t.fresh other later }

def clear (t : Timers Payload) (handle : Nat) : Timers Payload where
  armed := t.armed.delete handle
  next := t.next
  fresh := by
    intro other later
    rw [OrderedMap.get_delete, t.fresh other later, ite_self]

@[simp] theorem get_empty (handle : Nat) : (empty : Timers Payload).get handle = none := rfl

theorem get_next (t : Timers Payload) : t.get t.next = none := t.fresh t.next (Nat.le_refl _)

theorem get_start (t : Timers Payload) (due : Nat) (payload : Payload) (handle : Nat) :
    (t.start due payload).get handle =
      if t.next = handle then some ⟨due, payload⟩ else t.get handle :=
  OrderedMap.get_set _ _ _ _

theorem get_clear (t : Timers Payload) (handle other : Nat) :
    (t.clear handle).get other = if handle = other then none else t.get other :=
  OrderedMap.get_delete _ _ _

theorem get_reschedule (t : Timers Payload) (handle due other : Nat) :
    (t.reschedule handle due).get other =
      if handle = other then (t.get handle).map fun timer => { timer with due }
      else t.get other := by
  unfold reschedule
  split
  · rename_i absent
    split
    · rename_i equal
      subst equal
      simp [get, absent]
    · rfl
  · rename_i timer present
    change (t.armed.set handle { timer with due }).get other = _
    rw [OrderedMap.get_set]
    split
    · simp [get, present]
    · rfl

@[simp] theorem next_reschedule (t : Timers Payload) (handle due : Nat) :
    (t.reschedule handle due).next = t.next := by
  unfold reschedule
  split <;> rfl

/-! ### Firing in time -/

/-- No armed timer is overdue by more than `lag`. -/
def Punctual (t : Timers Payload) (now lag : Nat) : Prop :=
  ∀ handle timer, t.get handle = some timer → now ≤ timer.due + lag

instance (t : Timers Payload) (now lag : Nat) : Decidable (t.Punctual now lag) :=
  decidable_of_iff (∀ entry ∈ t.armed.entries, now ≤ entry.2.due + lag) <| by
    constructor
    · intro holds handle timer armed
      exact holds _ ((OrderedMap.mem_entries_iff _ _ _).mpr armed)
    · intro punctual entry member
      exact punctual entry.1 entry.2 ((OrderedMap.mem_entries_iff _ _ _).mp member)

namespace Punctual

variable {t : Timers Payload} {now lag : Nat}

theorem empty (now lag : Nat) : (Timers.empty : Timers Payload).Punctual now lag := by
  intro handle timer armed
  contradiction

theorem start (punctual : t.Punctual now lag) {due : Nat} (later : now ≤ due) (payload : Payload) :
    (t.start due payload).Punctual now lag := by
  intro handle timer armed
  rw [get_start] at armed
  split at armed
  · obtain rfl := Option.some.inj armed
    exact Nat.le_add_right_of_le later
  · exact punctual handle timer armed

theorem clear (punctual : t.Punctual now lag) (handle : Nat) :
    (t.clear handle).Punctual now lag := by
  intro other timer armed
  rw [get_clear] at armed
  split at armed
  · contradiction
  · exact punctual other timer armed

theorem reschedule (punctual : t.Punctual now lag) (handle : Nat) {due : Nat}
    (later : now ≤ due) : (t.reschedule handle due).Punctual now lag := by
  intro other timer armed
  rw [get_reschedule] at armed
  split at armed
  · obtain ⟨earlier, _, rfl⟩ := Option.map_eq_some_iff.mp armed
    exact Nat.le_add_right_of_le later
  · exact punctual other timer armed

end Punctual

end Timers

end DicodeRelay.Lib
