/-!
# Keys

A key owns a queue or a group of events: one actor, the shared worker pool, or the system as a
whole. Keys are ordered actors first, by slot number, then the pool, then the system; `compare` is
that order and its laws are instances below.
-/

namespace QueueDepth

/-- The owner of a queue or of a group of events. -/
inductive Key where
  /-- One actor, named by its slot number. -/
  | actor (id : Nat)
  /-- The shared worker pool. -/
  | pool
  /-- Everything that belongs to no actor and to no queue. -/
  | system
  deriving DecidableEq

namespace Key

/-- The name under which a key is printed. -/
def label : Key → String
  | actor id => "actor " ++ id.repr
  | pool => "pool"
  | system => "system"

/-- The actor a key stands for, if it stands for one. -/
def actor? : Key → Option Nat
  | actor id => some id
  | _ => none

/-! ## Order -/

/-- Actors come before the pool and the pool before the system. -/
def group : Key → Nat
  | actor _ => 0
  | pool => 1
  | system => 2

/-- The slot number that orders keys of one group. -/
def slot : Key → Nat
  | actor id => id
  | _ => 0

instance : Ord Key :=
  ⟨compareLex (compareOn group) (compareOn slot)⟩

instance : Std.TransOrd Key :=
  inferInstanceAs (Std.TransCmp (compareLex (compareOn group) (compareOn slot)))

theorem eq_of_group_of_slot {a b : Key} (hgroup : a.group = b.group) (hslot : a.slot = b.slot) :
    a = b := by
  cases a <;> cases b <;> simp_all [group, slot]

instance : Std.LawfulEqOrd Key where
  eq_of_compare {a b} h := by
    have h' : (compareOn group a b).then (compareOn slot a b) = .eq := h
    rw [Ordering.then_eq_eq] at h'
    exact eq_of_group_of_slot (Std.LawfulEqOrd.eq_of_compare h'.1)
      (Std.LawfulEqOrd.eq_of_compare h'.2)

end Key

end QueueDepth
