import QueueDepth.Event

/-!
# Queue depth

The depth of a queue at an instant is the number of enqueues up to and including that instant less
the number of dequeues. Events of one millisecond are taken together, so their order never counts.
A depth below zero means that the trace lost or misplaced an event; the series of that key ends
there, and the rows before it are kept. Totals are words of 64 bits and a depth is a signed one, so
both would wrap on a trace of astronomic length.

* `Depth.outcome`: the depth series of a key, or its violation.
-/

namespace QueueDepth.Depth

/-- What a queue did at one timestamp. -/
structure Row where
  timestamp : Nat
  /-- Enqueues at exactly this timestamp. -/
  enqueued : Nat
  /-- Dequeues at exactly this timestamp. -/
  dequeued : Nat
  /-- What waits in the queue afterwards. -/
  depth : Nat
  deriving DecidableEq

/-- The depth of one queue, with a row for each timestamp at which it moved. -/
structure Series where
  key : Key
  rows : List Row
  deriving DecidableEq

/-- More was dequeued than enqueued. -/
structure Violation where
  key : Key
  timestamp : Nat
  /-- The depth at the end of that millisecond, below zero. -/
  depth : Int
  /-- The rows before it. -/
  rows : List Row
  deriving DecidableEq

/-- The message that reports a violation. -/
def Violation.message (violation : Violation) : String :=
  violation.key.label ++ " queue depth went negative at " ++ violation.timestamp.repr
    ++ "ms (depth " ++ violation.depth.repr ++ ")"

namespace Series

/-- Whether the queue never moved. -/
def isEmpty (series : Series) : Bool :=
  series.rows.isEmpty

/-- The depth after the last row; a queue that never moved ends empty. -/
def finalDepth (series : Series) : Nat :=
  (series.rows.getLast?.map Row.depth).getD 0

/-- All enqueues of the series. -/
def totalEnqueued (series : Series) : Nat :=
  series.rows.foldl (fun total row => total + row.enqueued) 0

/-- All dequeues of the series. -/
def totalDequeued (series : Series) : Nat :=
  series.rows.foldl (fun total row => total + row.dequeued) 0

/-- The deeper of two rows; of equals the first. -/
def deeper (best row : Row) : Row :=
  if best.depth < row.depth then row else best

/-- The first row at which the queue was deepest. -/
def peak? (series : Series) : Option Row :=
  match series.rows with
  | [] => none
  | first :: rest => some (rest.foldl deeper first)

/-- The first and the last timestamp at which the queue moved. -/
def span? (series : Series) : Option (Nat × Nat) := do
  let first ← series.rows.head?
  let last ← series.rows.getLast?
  return (first.timestamp, last.timestamp)

end Series

/-! ## Reconstruction -/

/-- What becomes of a key: its series or its violation. -/
abbrev Outcome := Except Violation Series

/-- An outcome behind one more row. -/
def Outcome.behind (row : Row) : Outcome → Outcome
  | .ok series => .ok { series with rows := row :: series.rows }
  | .error violation => .error { violation with rows := row :: violation.rows }

/-- Whether an event moves the queue of `key` to a side. -/
def movesTo (key : Key) (side : Side) (event : Event) : Bool :=
  event.kind.side key = some side

/-- How many events move the queue of `key` to a side, as a word of 64 bits. -/
def moves (key : Key) (side : Side) (events : List Event) : UInt64 :=
  .ofNat (events.countP (movesTo key side))

/-- The depth behind `enqueued` enqueues and `dequeued` dequeues: the difference of the two words,
read as signed. -/
def difference (enqueued dequeued : UInt64) : Int64 :=
  enqueued.toInt64 - dequeued.toInt64

/-- The outcome of groups of events, one group for each timestamp, behind `enqueued` enqueues and
`dequeued` dequeues. Groups that do not move the queue leave no row. -/
def outcomeFrom (key : Key) (enqueued dequeued : UInt64) : List (List Event) → Outcome
  | [] => .ok ⟨key, []⟩
  | [] :: rest => outcomeFrom key enqueued dequeued rest
  | (event :: more) :: rest =>
    let came := moves key .enqueue (event :: more)
    let went := moves key .dequeue (event :: more)
    if came = 0 ∧ went = 0 then
      outcomeFrom key enqueued dequeued rest
    else
      let depth := difference (enqueued + came) (dequeued + went)
      if depth < 0 then
        .error ⟨key, event.timestamp, depth.toInt, []⟩
      else
        (outcomeFrom key (enqueued + came) (dequeued + went) rest).behind
          ⟨event.timestamp, came.toNat, went.toNat, depth.toUInt64.toNat⟩

/-- Events in timestamp order, cut into the groups of one timestamp each. -/
def instants (events : List Event) : List (List Event) :=
  events.splitBy fun a b => a.timestamp == b.timestamp

/-- The outcome of the queue of `key` under events in timestamp order. Events that do not move this
queue are passed over. -/
def outcome (key : Key) (events : List Event) : Outcome :=
  outcomeFrom key 0 0 (instants events)

end QueueDepth.Depth
