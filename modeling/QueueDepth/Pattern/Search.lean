import QueueDepth.Balanced
import QueueDepth.Pattern

/-!
# Looking for patterns

A text has an occurrence of a pattern if the pattern describes one of its parts. Occurrences are found
by marks that are carried through the pattern while the text is read once: each mark stands behind a
character that has just been read, and at every place one more mark enters the pattern from outside.

* `Pattern.occursIn`: whether a text has an occurrence of a pattern.
-/

namespace QueueDepth.Pattern

open Text (CharSet)

/-! ## Machines -/

/-- A pattern that is ready to carry marks. -/
inductive Machine where
  /-- Lets marks through. -/
  | silent
  /-- Takes a character. A mark stands behind it if the last character that has been read was taken. -/
  | letter (set : CharSet) (marked : Bool)
  /-- Lets marks through at some places. -/
  | anchor (condition : Anchor)
  | both (first second : Machine)
  | either (first second : Machine)
  /-- A machine once or more often. -/
  | many (part : Machine)

namespace Machine

/-- Whether a mark comes out of a machine at a place, given whether one enters there. -/
def leaves (spot : Spot) (enters : Bool) : Machine → Bool
  | silent => enters
  | letter _ marked => marked
  | anchor condition => enters && condition.holds spot
  | both first second => second.leaves spot (first.leaves spot enters)
  | either first second => first.leaves spot enters || second.leaves spot enters
  | many part => part.leaves spot enters

/-- Let a machine read the character behind a place, given whether a mark enters there. Whether one
comes out at the place is answered too. -/
def step (spot : Spot) (c : Char) (enters : Bool) : Machine → Machine × Bool
  | silent => (silent, enters)
  | letter set marked => (letter set (enters && set.holds c), marked)
  | anchor condition => (anchor condition, enters && condition.holds spot)
  | both first second =>
    let (first, middle) := first.step spot c enters
    let (second, leaves) := second.step spot c middle
    (both first second, leaves)
  | either first second =>
    let (first, leaves) := first.step spot c enters
    let (second, leaves') := second.step spot c enters
    (either first second, leaves || leaves')
  | many part =>
    let (part, leaves) := part.step spot c (enters || part.leaves spot false)
    (many part, leaves)

/-- Whether a mark comes out of a machine at some place of a text, behind the character `before`. -/
def findsFrom (before : Option Char) (machine : Machine) : List Char → Bool
  | [] => machine.leaves ⟨before, none⟩ true
  | c :: rest =>
    let (machine, leaves) := machine.step ⟨before, some c⟩ c true
    leaves || findsFrom (some c) machine rest

/-! ## Construction -/

/-- Machines, one behind the other. None of them lies deep within the others. -/
def inSequence (machines : List Machine) : Machine :=
  joinAll both silent machines

/-- One of several machines. None of them lies deep within the others. -/
def inChoice (machines : List Machine) : Machine :=
  joinAll either (letter .empty false) machines

end Machine

mutual

/-- The machine of a pattern, for texts with so many places. There is nothing to gain from repeating a
part more often than there are places. -/
def machine (places : Nat) : Pattern → Machine
  | empty => .silent
  | literal text => .inSequence (text.map fun c => .letter (.only c) false)
  | oneOf set _ => .letter set false
  | anchor condition => .anchor condition
  | group part => part.machine places
  | sequence parts => .inSequence (machines places parts)
  | choice branches => .inChoice (machines places branches)
  | repeated least most _ part =>
    let once := part.machine places
    let needed := List.replicate (min least places) once
    match most with
    | some most =>
      .inSequence (needed ++ List.replicate (min (most - least) places) (.either .silent once))
    | none =>
      if least = 0 then .either .silent (.many once) else .inSequence (needed.drop 1 ++ [.many once])

/-- The machines of several patterns. -/
def machines (places : Nat) : List Pattern → List Machine
  | [] => []
  | part :: parts => part.machine places :: machines places parts

end

/-- Whether a text has an occurrence of a pattern. -/
def occursIn (pattern : Pattern) (text : List Char) : Bool :=
  (pattern.leastLength.getD 0 ≤ byteLength text)
    && (pattern.machine (text.length + 1)).findsFrom none text

end QueueDepth.Pattern
