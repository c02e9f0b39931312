import QueueDepth.Pattern.Anchor
import QueueDepth.Text.CharSet

/-!
# Patterns

A pattern describes texts: given texts, single characters of a set, parts one behind another,
alternatives, repetitions, and conditions on what stands on either side.

Patterns are built by `Pattern.inSequence`, `Pattern.inChoice` and `Pattern.repetition`, which bring
them into a plain form: no sequence stands directly in a sequence and no choice in a choice, given
texts are as long as they can be, characters to choose from are one set, and what all branches of a
choice begin with stands in front of it.
-/

namespace QueueDepth

open Text (CharSet)

/-- A description of texts. -/
inductive Pattern where
  /-- The text without characters. -/
  | empty
  /-- A given text. -/
  | literal (text : List Char)
  /-- Any character of a set. A narrow set has been written for ASCII alone. -/
  | oneOf (set : CharSet) (narrow : Bool)
  /-- The text without characters, at a place that meets a condition. -/
  | anchor (condition : Pattern.Anchor)
  /-- A part that is set off by parentheses of its own. -/
  | group (part : Pattern)
  /-- Parts, one behind the other. -/
  | sequence (parts : List Pattern)
  /-- One of several alternatives. -/
  | choice (branches : List Pattern)
  /-- A part again and again, at least and at most so many times. Whether few times are tried first
  makes no difference to what the pattern describes. -/
  | repeated (least : Nat) (most : Option Nat) (fewFirst : Bool) (part : Pattern)

namespace Pattern

/-! ## Comparison -/

mutual

/-- Whether two patterns are the same. Groups count each for itself, so no two of them are. -/
def same : Pattern → Pattern → Bool
  | empty, empty => true
  | literal text, literal text' => text = text'
  | oneOf set narrow, oneOf set' narrow' => set = set' && narrow = narrow'
  | anchor condition, anchor condition' => condition = condition'
  | sequence parts, sequence parts' => sameAll parts parts'
  | choice branches, choice branches' => sameAll branches branches'
  | repeated least most fewFirst part, repeated least' most' fewFirst' part' =>
    least = least' && most = most' && fewFirst = fewFirst' && part.same part'
  | _, _ => false

/-- Whether two lists hold the same patterns in the same order. -/
def sameAll : List Pattern → List Pattern → Bool
  | [], [] => true
  | part :: parts, part' :: parts' => part.same part' && sameAll parts parts'
  | _, _ => false

end

/-- What two lists of patterns both begin with. -/
def shared : List Pattern → List Pattern → List Pattern
  | part :: parts, part' :: parts' => if part.same part' then part :: shared parts parts' else []
  | _, _ => []

/-! ## Lengths -/

/-- How many bytes a text takes. -/
def byteLength (text : List Char) : Nat :=
  text.foldl (fun length c => length + c.utf8Size) 0

/-- The sum of lengths, if all are known. -/
def total (lengths : List (Option Nat)) : Option Nat :=
  lengths.foldl (fun sum length => do return (← sum) + (← length)) (some 0)

/-- The one of several lengths that is preferred, if all are known. -/
def preferred (prefer : Nat → Nat → Nat) : List (Option Nat) → Option Nat
  | [] => none
  | first :: rest => rest.foldl (fun best length => do return prefer (← best) (← length)) first

mutual

/-- How many bytes the shortest text takes that a pattern describes, if it surely describes one. -/
def leastLength : Pattern → Option Nat
  | empty | anchor _ => some 0
  | literal text => some (byteLength text)
  | oneOf set _ => set.ranges.head?.map (·.1.utf8Size)
  | group part => part.leastLength
  | sequence parts => total (leastLengths parts)
  | choice branches => preferred min (leastLengths branches)
  | repeated least _ _ part => part.leastLength.map (least * ·)

/-- The least length of each of several patterns. -/
def leastLengths : List Pattern → List (Option Nat)
  | [] => []
  | part :: parts => part.leastLength :: leastLengths parts

end

mutual

/-- How many bytes the longest text takes that a pattern describes, if there is a longest one. -/
def greatestLength : Pattern → Option Nat
  | empty | anchor _ => some 0
  | literal text => some (byteLength text)
  | oneOf set _ => set.ranges.getLast?.map (·.2.utf8Size)
  | group part => part.greatestLength
  | sequence parts => total (greatestLengths parts)
  | choice branches => preferred max (greatestLengths branches)
  | repeated _ most _ part => do return (← most) * (← part.greatestLength)

/-- The greatest length of each of several patterns. -/
def greatestLengths : List Pattern → List (Option Nat)
  | [] => []
  | part :: parts => part.greatestLength :: greatestLengths parts

end

/-- Whether a pattern describes no more than the text without characters. -/
def isWidthless (pattern : Pattern) : Bool :=
  pattern.greatestLength = some 0

/-! ## Construction -/

/-- The pattern that describes no text at all. -/
def nothing : Pattern :=
  .oneOf .empty true

/-- Any character of a set. -/
def ofSet (set : CharSet) (narrow : Bool) : Pattern :=
  match set.single? with
  | some c => literal [c]
  | none => if set = .empty then nothing else oneOf set narrow

/-- The parts of a pattern, if it is a sequence. -/
def parts : Pattern → List Pattern
  | empty => []
  | sequence parts => parts
  | pattern => [pattern]

/-- Put a part in front of others. Given texts that meet are one. -/
def prepend : Pattern → List Pattern → List Pattern
  | literal text, literal text' :: rest => literal (text ++ text') :: rest
  | part, rest => part :: rest

/-- Patterns, one behind the other. -/
def inSequence (patterns : List Pattern) : Pattern :=
  match (patterns.flatMap parts).foldr prepend [] with
  | [] => empty
  | [part] => part
  | parts => sequence parts

/-- The branches of a pattern, if it is a choice. -/
def branches : Pattern → List Pattern
  | choice branches => branches
  | pattern => [pattern]

/-- The set of a single given character. -/
def letter? : Pattern → Option CharSet
  | literal [c] => some (.only c)
  | _ => none

/-- The set of a pattern that describes its characters. -/
def set? : Pattern → Option CharSet
  | oneOf set _ => some set
  | _ => none

/-- The parts of a sequence of several. -/
def sequence? : Pattern → Option (List Pattern)
  | sequence parts => some parts
  | _ => none

/-- One of several branches, of which none is a choice and which do not all begin with the same. -/
def plainChoice (branches : List Pattern) : Pattern :=
  match branches with
  | [] => nothing
  | [branch] => branch
  | _ =>
    match branches.mapM letter?, branches.mapM set? with
    | some sets, _ => ofSet (.unionAll sets) false
    | none, some sets => ofSet (.unionAll sets) false
    | none, none => choice branches

/-- What all of several sequences begin with. -/
def sharedByAll : List (List Pattern) → List Pattern
  | first :: second :: rest => (second :: rest).foldl shared first
  | _ => []

/-- One of several patterns. Behind what all of them begin with, at most one of them goes on with a
choice of its own. -/
def inChoice (patterns : List Pattern) : Pattern :=
  let branches := patterns.flatMap branches
  let sequences := (branches.mapM sequence?).getD []
  match sharedByAll sequences with
  | [] => plainChoice branches
  | front =>
    let rests := sequences.map fun parts => inSequence (parts.drop front.length)
    inSequence (front ++ [plainChoice (rests.flatMap Pattern.branches)])

/-- A part again and again. A part without width gains nothing from a second time. -/
def repetition (least : Nat) (most : Option Nat) (fewFirst : Bool) (part : Pattern) : Pattern :=
  let (least, most) :=
    if part.isWidthless then (min least 1, some ((most.map (min 1)).getD 1)) else (least, most)
  if most = some 0 then empty
  else if least = 1 && most = some 1 then part
  else repeated least most fewFirst part

end Pattern

end QueueDepth
