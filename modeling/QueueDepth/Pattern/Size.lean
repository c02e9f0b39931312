import Std.Data.HashSet
import QueueDepth.Pattern
import QueueDepth.Text.ByteRanges

/-!
# The size of patterns

How much room a pattern takes when it is laid out for the search, where it is a graph of states that
take single bytes. Every repetition is written out. A state costs the same as any other, and so does
every link from a state at which ways part.

A pattern is laid out twice, to be read forward and to be read backward.

* `Pattern.size`: the bytes of each layout.
-/

namespace QueueDepth.Pattern

open Text (CharSet ByteRange)

/-- The ways in which a pattern is read. -/
inductive Direction where
  | forward
  | backward
  deriving DecidableEq

/-- Things in the order in which they are met. -/
def Direction.order {α : Type} : Direction → List α → List α
  | forward, items => items
  | backward, items => items.reverse

/-! ## Layouts -/

/-- The bytes of a state. -/
def stateSize : Nat := 32

/-- The bytes of a link from a state at which ways part. -/
def linkSize : Nat := 4

/-- The bytes of a range of bytes that leads from a state, if it has several. -/
def rangeSize : Nat := 8

/-- The layout of a part of a pattern. -/
structure Layout where
  /-- How many bytes it takes. -/
  size : Nat
  /-- Whether ways part in its last state. -/
  parts : Bool

namespace Layout

/-- States without anything special about them. -/
def states (count : Nat) : Layout :=
  ⟨stateSize * count, false⟩

/-- The bytes that it takes to go on behind a layout. -/
def exit (layout : Layout) : Nat :=
  if layout.parts then linkSize else 0

/-- Two layouts, the second behind the first. -/
def append (first second : Layout) : Layout :=
  ⟨first.size + first.exit + second.size, second.parts⟩

/-- Layouts, one behind the other. -/
def chain : List Layout → Layout
  | [] => states 1
  | first :: rest => rest.foldl append first

/-- A layout so many times. -/
def times (layout : Layout) : Nat → Layout
  | 0 => states 1
  | count + 1 => ⟨layout.size + count * (layout.exit + layout.size), layout.parts⟩

/-- A layout from whose end a way leads back to its start. -/
def looped (layout : Layout) : Layout :=
  ⟨layout.size + layout.exit + stateSize + linkSize, true⟩

/-- A layout with a way around it, up to a given end. -/
def bypassed (layout : Layout) : Nat :=
  layout.size + layout.exit + stateSize + 2 * linkSize

/-- A layout at least so many times. A part without width needs an end of its own. -/
def atLeast (layout : Layout) (hasWidth : Bool) : Nat → Layout
  | 0 =>
    if hasWidth then layout.looped
    else ⟨layout.looped.size + linkSize + 2 * stateSize + 2 * linkSize, false⟩
  | 1 => layout.looped
  | count + 2 => (layout.times (count + 1)).append layout.looped

/-- A layout at least and at most so many times. -/
def within (layout : Layout) (least most : Nat) : Layout :=
  let needed := layout.times least
  ⟨needed.size + needed.exit + stateSize + (most - least) * layout.bypassed, false⟩

/-- A layout again and again. -/
def repeated (layout : Layout) (hasWidth : Bool) (least : Nat) : Option Nat → Layout
  | none => layout.atLeast hasWidth least
  | some most =>
    if least = most then layout.times least
    else if most = 1 then ⟨stateSize + layout.bypassed, false⟩
    else layout.within least most

/-- One of several layouts. -/
def fork (layouts : List Layout) : Layout :=
  ⟨layouts.foldl (fun size layout => size + layout.size + layout.exit + linkSize) (2 * stateSize),
    false⟩

end Layout

/-! ## Sequences with a common start -/

/-- Add what follows on `first` to what is known to follow on others. -/
def addRest {α : Type} [DecidableEq α] (first : α) (rest : List α) :
    List (α × List (List α)) → List (α × List (List α))
  | [] => [(first, [rest])]
  | (first', rests) :: others =>
    if first = first' then (first', rest :: rests) :: others
    else (first', rests) :: addRest first rest others

/-- What sequences begin with, each time with all that follows on it. -/
def byFirst {α : Type} [DecidableEq α] (sequences : List (List α)) : List (α × List (List α)) :=
  sequences.foldr
    (fun
      | [], known => known
      | first :: rest, known => addRest first rest known)
    []

/-- The bytes of a state that so many ranges lead from. -/
def sparseSize (count : Nat) : Nat :=
  stateSize + rangeSize * count

/-! ## Sets -/

/-- The ranges of bytes that the characters of a set run through. -/
def byteRangesOf (set : CharSet) : List (List ByteRange) :=
  set.ranges.flatMap fun range => Text.byteRanges range.1 range.2

/-- The states that take one of several sequences, each given by what may follow on it. No sequence is
longer than `limit`. -/
def statesFor : Nat → List (List ByteRange) → List (List (List ByteRange))
  | 0, _ => []
  | limit + 1, sequences =>
    if sequences.all (·.isEmpty) then []
    else sequences :: (byFirst sequences).flatMap fun (_, rests) => statesFor limit rests

/-- The layout of a set. ASCII takes one state; otherwise, what ends in the same way is laid out once
if it is read forward, and what begins in the same way if it is read backward. -/
def setLayout (direction : Direction) (set : CharSet) : Layout :=
  if set.isAscii then ⟨stateSize + sparseSize set.ranges.length, false⟩
  else
    let sequences := byteRangesOf set
    match direction with
    | .forward =>
      let states := (Std.HashSet.ofList (statesFor 4 sequences)).toList
      let sizes := states.map fun state => sparseSize (byFirst state).length
      ⟨sizes.foldl (· + ·) stateSize, false⟩
    | .backward =>
      let fronts := sequences.flatMap fun bytes =>
        (List.range bytes.length).map fun count => bytes.take (count + 1)
      ⟨stateSize * ((Std.HashSet.ofList fronts).size + 2) + linkSize * sequences.length, false⟩

/-! ## Given texts -/

/-- Part texts where one of them is at its end. Ends that come before all others are one. -/
def sections (texts : List (List UInt8)) : List (List (List UInt8)) :=
  match texts.splitOn [] with
  | [] :: rest => [] :: rest.dropWhile (·.isEmpty)
  | all => all

/-- The bytes of the states that take one of several texts, where texts share what they begin with. A
text that is at its end is preferred to those that come after it. No text is longer than `limit`. -/
def sharedSize : Nat → List (List UInt8) → Nat
  | 0, _ => 0
  | limit + 1, texts =>
    if texts.all (·.isEmpty) then 0
    else
      let sections := sections texts
      let filled := sections.filter (!·.isEmpty)
      let sizes := filled.map fun texts =>
        let ways := byFirst texts
        (if ways.length = 1 then stateSize else sparseSize ways.length)
          + (ways.map fun (_, rests) => sharedSize limit rests).foldl (· + ·) 0
      sizes.foldl (· + ·) (stateSize + linkSize * (filled.length + sections.length - 1))

/-- The layout of a choice between given texts. -/
def textsLayout (direction : Direction) (texts : List (List Char)) : Layout :=
  let texts := texts.map fun text => direction.order (text.flatMap String.utf8EncodeChar)
  let limit := (texts.map (·.length)).foldl max 0
  ⟨stateSize + sharedSize limit texts, false⟩

/-! ## Patterns -/

/-- The text that a pattern gives. -/
def literal? : Pattern → Option (List Char)
  | literal text => some text
  | _ => none

mutual

/-- The layout of a pattern. -/
def layout (direction : Direction) : Pattern → Layout
  | empty | anchor _ => .states 1
  | literal text => .states (byteLength text)
  | oneOf set _ => setLayout direction set
  | group part =>
    let layout := part.layout direction
    match direction with
    | .forward => (Layout.states 1).append (layout.append (.states 1))
    | .backward => layout
  | sequence parts => .chain (direction.order (layouts direction parts))
  | choice branches =>
    match branches.mapM literal? with
    | some texts => textsLayout direction texts
    | none => .fork (layouts direction branches)
  | repeated least most _ part =>
    (part.layout direction).repeated (part.leastLength.any (0 < ·)) least most

/-- The layouts of several patterns. -/
def layouts (direction : Direction) : List Pattern → List Layout
  | [] => []
  | part :: parts => part.layout direction :: layouts direction parts

end

/-! ## Whole patterns -/

/-- Whether one of the first parts asks for a condition, down to the first part with width. -/
def asksFirst : List (Bool × Bool) → Bool
  | [] => false
  | (asks, widthless) :: rest => asks || (widthless && asksFirst rest)

mutual

/-- Whether a pattern can only be found where a condition holds: in front of it or behind it, as it is
read. -/
def asks (direction : Direction) (condition : Anchor) : Pattern → Bool
  | empty | literal _ | oneOf _ _ => false
  | anchor condition' => condition = condition'
  | group part => part.asks direction condition
  | sequence parts => asksFirst (direction.order (asksOfEach direction condition parts))
  | choice branches => (asksOfEach direction condition branches).all (·.1)
  | repeated least _ _ part => 0 < least && part.asks direction condition

/-- For each of several patterns, whether it asks for a condition, and whether it is without width. -/
def asksOfEach (direction : Direction) (condition : Anchor) : List Pattern → List (Bool × Bool)
  | [] => []
  | part :: parts =>
    (part.asks direction condition, part.isWidthless) :: asksOfEach direction condition parts

end

/-- The layout of the bytes that may come before an occurrence. -/
def leadLayout (direction : Direction) (pattern : Pattern) : Layout :=
  let edge :=
    match direction with
    | .forward => .textStart
    | .backward => .textFinish
  if pattern.asks direction edge then .states 1
  else Layout.looped ⟨stateSize + sparseSize 1, false⟩

/-- The bytes that a pattern takes. -/
def size (direction : Direction) (pattern : Pattern) : Nat :=
  let whole : Pattern :=
    match direction with
    | .forward => group pattern
    | .backward => pattern
  (Layout.chain [pattern.leadLayout direction, whole.layout direction, .states 1]).size

end QueueDepth.Pattern
