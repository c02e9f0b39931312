import QueueDepth.Pattern.Anchor
import QueueDepth.Text.Place

/-!
# Written patterns

A pattern as it is written: characters and their escapes, sets between brackets, groups between
parentheses, alternatives, repetitions, and flags that change the meaning of what follows. What the
parts mean depends on the flags in force and is not settled here.
-/

namespace QueueDepth.Pattern

open Text (Place Placed)

/-! ## Characters -/

/-- A character that stands for itself. -/
structure Letter where
  char : Char
  /-- Whether it is written with two hexadecimal digits, and so may mean a byte. -/
  isByte : Bool

/-- The sets that have an escape of their own. -/
inductive Shorthand where
  | digit
  | blank
  | word

/-- Whether the name of a property of characters is that of a value of one as well. -/
inductive PropertyName where
  | plain
  | value

/-- A condition on a place, as it is written. -/
inductive Assertion where
  | lineStart
  | lineFinish
  | textStart
  | textFinish
  | word (edge : WordEdge)

/-- The smallest parts of a pattern. -/
inductive Atom where
  | letter (letter : Letter)
  | dot
  | shorthand (kind : Shorthand) (negated : Bool)
  | property (name : PropertyName)
  | assertion (assertion : Assertion)

/-! ## Sets -/

/-- The sets that have a name between colons. -/
inductive ClassName where
  | alnum | alpha | ascii | blank | cntrl | digit | graph | lower | print | punct | space | upper | word
  | xdigit

/-- What joins two sets. -/
inductive SetOperator where
  | intersection
  | difference
  | symmetricDifference

/-- A set of characters, as it is written between brackets. -/
inductive SetTree where
  /-- A place where an item might stand. -/
  | nothing (place : Place)
  | letter (letter : Placed Letter)
  | range (first last : Placed Letter)
  | named (place : Place) (name : ClassName) (negated : Bool)
  | shorthand (place : Place) (kind : Shorthand) (negated : Bool)
  | property (place : Place) (name : PropertyName)
  /-- A set with brackets of its own. -/
  | bracketed (place : Place) (negated : Bool) (inner : SetTree)
  /-- Several items. -/
  | union (place : Place) (items : List SetTree)
  | joined (operator : SetOperator) (first second : SetTree)

/-- Where a set stands. -/
def SetTree.place : SetTree → Place
  | nothing place | named place _ _ | shorthand place _ _ | property place _ | bracketed place _ _
  | union place _ => place
  | letter written => written.place
  | range first last => ⟨first.place.start, last.place.rest⟩
  | joined _ first second => ⟨first.place.start, second.place.rest⟩

/-- Items one behind the other, the last of which comes first. Without any there is but a place. -/
def SetTree.ofItems (place : Place) : List SetTree → SetTree
  | [] => .nothing place
  | [item] => item
  | last :: items =>
    let first := items.getLast?.getD last
    .union ⟨first.place.start, last.place.rest⟩ (last :: items).reverse

/-! ## Patterns -/

/-- What a pattern can be told about its meaning. -/
inductive Flag where
  | ignoresCase
  /-- Whether anchors for lines are about lines, and not about the text. -/
  | lines
  /-- Whether the dot takes line ends too. -/
  | dotTakesAll
  /-- Whether repetitions prefer few to many; occurrences are the same. -/
  | fewFirst
  /-- Whether characters are those of all scripts. -/
  | allScripts
  /-- Whether a carriage return ends lines too. -/
  | returns
  /-- Whether blanks and comments mean nothing. -/
  | spaced
  deriving DecidableEq

/-- Flags that are switched on or off. -/
abbrev Switches := List (Flag × Bool)

/-- How a group is opened: with a number of its own, or without one but with switches for it alone. -/
inductive GroupKind where
  | numbered
  | plain (switches : Switches)

/-- The switches at the start of a group. -/
def GroupKind.switches : GroupKind → Switches
  | numbered => []
  | plain switches => switches

/-- A pattern, as it is written. -/
inductive Tree where
  | empty
  | atom (atom : Placed Atom)
  | set (set : SetTree)
  /-- Switches for the rest of the group. -/
  | switches (switches : Switches)
  | group (place : Place) (kind : GroupKind) (inner : Tree)
  | sequence (place : Place) (parts : List Tree)
  | choice (place : Place) (branches : List Tree)
  | repeated (place : Place) (least : Nat) (most : Option Nat) (fewFirst : Bool) (part : Tree)

namespace Tree

/-- Whether a part is no more than switches. -/
def isSwitches : Tree → Bool
  | switches _ => true
  | _ => false

/-- Parts one behind the other. -/
def inSequence (place : Place) : List Tree → Tree
  | [] => .empty
  | [part] => part
  | parts => .sequence place parts

/-- One of several alternatives. -/
def inChoice (place : Place) : List Tree → Tree
  | [] => .empty
  | [branch] => branch
  | branches => .choice place branches

end Tree

end QueueDepth.Pattern
