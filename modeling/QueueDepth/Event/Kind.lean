/-!
# Kinds of events

The runtime writes a fixed vocabulary of event names, and the set is open: a name outside the
vocabulary is kept as it stands. Kinds are ordered as they are displayed, the vocabulary in its own
order and then the unknown names by their text.

* `Kind.name`, `Kind.ofName`: the text of a kind and the kind of a text.
* `name_ofName`: reading a name keeps its text.
* `ofName_name`: writing and reading a kind gives it back, unless it is an unknown kind that bears a
  name of the vocabulary.
-/

namespace QueueDepth

/-- What a trace event reports. -/
inductive Kind where
  | register
  | unregister
  | restart
  | fail
  | drainStart
  | drainEnd
  | enqueue
  | dequeue
  | poolEnqueue
  | poolDequeue
  | stopSystem
  /-- A name outside the vocabulary, kept verbatim. -/
  | other (name : String)
  deriving DecidableEq

namespace Kind

/-- The name a trace bears for a kind. -/
def name : Kind → String
  | register => "Register"
  | unregister => "Unregister"
  | restart => "Restart"
  | fail => "Fail"
  | drainStart => "DrainStart"
  | drainEnd => "DrainEnd"
  | enqueue => "Enqueue"
  | dequeue => "Dequeue"
  | poolEnqueue => "PoolEnqueue"
  | poolDequeue => "PoolDequeue"
  | stopSystem => "StopSystem"
  | other name => name

/-- The vocabulary, in display order. -/
def vocabulary : List Kind :=
  [register, unregister, restart, fail, drainStart, drainEnd, enqueue, dequeue,
    poolEnqueue, poolDequeue, stopSystem]

/-- The kind a name stands for; capitals count. -/
def ofName (name : String) : Kind :=
  (vocabulary.find? fun kind => kind.name = name).getD (other name)

/-- Whether a kind lies outside the vocabulary. -/
def isOther : Kind → Bool
  | other _ => true
  | _ => false

/-- Whether an event of this kind must name its actor. -/
def needsActor : Kind → Bool
  | register | unregister | restart | fail | drainStart | drainEnd | enqueue | dequeue => true
  | _ => false

@[simp]
theorem name_ofName (name : String) : (ofName name).name = name := by
  unfold ofName
  cases hfound : vocabulary.find? fun kind => kind.name = name with
  | none => rfl
  | some kind => simpa using List.find?_some hfound

theorem ofName_name_of_mem {kind : Kind} (hmem : kind ∈ vocabulary) :
    ofName kind.name = kind := by
  simp only [vocabulary, List.mem_cons, List.not_mem_nil, or_false] at hmem
  rcases hmem with rfl | rfl | rfl | rfl | rfl | rfl | rfl | rfl | rfl | rfl | rfl <;> decide

/-! ## Order -/

/-- The place of a kind in display order; unknown names share the last one. -/
def rank : Kind → Nat
  | register => 0
  | unregister => 1
  | restart => 2
  | fail => 3
  | drainStart => 4
  | drainEnd => 5
  | enqueue => 6
  | dequeue => 7
  | poolEnqueue => 8
  | poolDequeue => 9
  | stopSystem => 10
  | other _ => 11

instance : Ord Kind :=
  ⟨compareLex (compareOn rank) (compareOn name)⟩

instance : Std.TransOrd Kind :=
  inferInstanceAs (Std.TransCmp (compareLex (compareOn rank) (compareOn name)))

theorem eq_of_rank_of_name {a b : Kind} (hrank : a.rank = b.rank) (hname : a.name = b.name) :
    a = b := by
  cases a <;> cases b <;> simp_all [rank, name]

instance : Std.LawfulEqOrd Kind where
  eq_of_compare {a b} h := by
    have h' : (compareOn rank a b).then (compareOn name a b) = .eq := h
    rw [Ordering.then_eq_eq] at h'
    exact eq_of_rank_of_name (Std.LawfulEqOrd.eq_of_compare h'.1)
      (Std.LawfulEqOrd.eq_of_compare h'.2)

end Kind

end QueueDepth
