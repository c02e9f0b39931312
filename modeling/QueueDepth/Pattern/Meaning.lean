import QueueDepth.Pattern.Reading
import QueueDepth.Pattern.Size

/-!
# The meaning of written patterns

Flags say what the parts of a written pattern mean. Characters are those of all scripts unless a flag
narrows them to ASCII. For all scripts, neither a table of cases nor one of classes is at hand, so what
would need one is refused; and narrowed to ASCII, a set may not hold anything beyond.

* `Tree.meaning`: the pattern that a tree means.
* `Pattern.ofText`: the pattern that a text means, or why there is none.
-/

namespace QueueDepth.Pattern

open Text (CharSet Place Placed)

/-! ## Flags -/

/-- The flags that are switched on. -/
abbrev Flags := Flag → Bool

/-- The flags at the start of a pattern. -/
def Flags.initial : Flags :=
  (· = .allScripts)

/-- The flags behind switches. -/
def Flags.switched (flags : Flags) (switches : Switches) : Flags := fun flag =>
  (switches.lookup flag).getD (flags flag)

/-! ## Sets -/

/-- The ranges of a set with a name. -/
def ClassName.ranges : ClassName → List (Char × Char)
  | alnum => [('0', '9'), ('A', 'Z'), ('a', 'z')]
  | alpha => [('A', 'Z'), ('a', 'z')]
  | ascii => [('\x00', '\x7f')]
  | blank => [('\t', '\t'), (' ', ' ')]
  | cntrl => [('\x00', '\x1f'), ('\x7f', '\x7f')]
  | digit => [('0', '9')]
  | graph => [('!', '~')]
  | lower => [('a', 'z')]
  | print => [(' ', '~')]
  | punct => [('!', '/'), (':', '@'), ('[', '\x60'), ('\x7b', '~')]
  | space => [('\t', '\r'), (' ', ' ')]
  | upper => [('A', 'Z')]
  | word => [('0', '9'), ('A', 'Z'), ('_', '_'), ('a', 'z')]
  | xdigit => [('0', '9'), ('A', 'F'), ('a', 'f')]

/-- The set whose name means the same in ASCII as a letter. -/
def Shorthand.name : Shorthand → ClassName
  | digit => .digit
  | blank => .space
  | word => .word

/-- What it takes to be in the set that two sets are joined to, given what it is to be in each. -/
def SetOperator.holds : SetOperator → Bool → Bool → Bool
  | intersection, first, second => first && second
  | difference, first, second => first && !second
  | symmetricDifference, first, second => first != second

mutual

/-- Whether there is nothing in a set that has a case to be looked up. -/
def SetTree.isBare : SetTree → Bool
  | nothing _ => true
  | bracketed _ _ inner => inner.isBare
  | union _ items => SetTree.allBare items
  | joined _ first second => first.isBare && second.isBare
  | letter _ | range _ _ | named _ _ _ | shorthand _ _ _ | property _ _ => false

/-- Whether there is nothing in several sets that has a case to be looked up. -/
def SetTree.allBare : List SetTree → Bool
  | [] => true
  | item :: items => item.isBare && SetTree.allBare items

end

/-- A set without regard to case, if case is ignored. A bare one has no case. -/
def folded (flags : Flags) (place : Place) (bare : Bool) (set : CharSet) :
    Except Complaint CharSet :=
  if !flags .ignoresCase then .ok set
  else if !flags .allScripts then .ok set.folded
  else if bare then .ok set
  else .error { fault := .caseUnavailable, place }

/-- A set or all other characters. -/
def inverted (negated : Bool) (set : CharSet) : CharSet :=
  if negated then set.complement else set

/-- Make sure that a set may hold what it holds. -/
def confined (flags : Flags) (place : Place) (set : CharSet) : Except Complaint CharSet :=
  if !flags .allScripts && !set.isAscii then .error { fault := .notUtf8, place } else .ok set

/-- The character that a letter means. -/
def Letter.meaning (flags : Flags) (written : Placed Letter) : Except Complaint Char :=
  let c := written.item.char
  if !flags .allScripts && written.item.isByte && 128 ≤ c.toNat then
    .error { fault := .notUtf8, place := written.place }
  else .ok c

/-- The character that a letter in a set means. -/
def Letter.member (flags : Flags) (written : Placed Letter) : Except Complaint Char := do
  let c ← Letter.meaning flags written
  if !flags .allScripts && 128 ≤ c.toNat then
    .error { fault := .allScriptsRefused, place := written.place }
  else return c

/-- The set that a letter stands for. -/
def Shorthand.meaning (flags : Flags) (place : Place) (kind : Shorthand) (negated : Bool) :
    Except Complaint CharSet :=
  if flags .allScripts then .error { fault := .shorthandUnavailable, place }
  else confined flags place (inverted negated (.ofRanges kind.name.ranges))

/-- There is no set for the name of a property. -/
def PropertyName.fault (flags : Flags) (name : PropertyName) : Fault :=
  if flags .allScripts then
    match name with
    | plain => .propertyUnknown
    | value => .propertyValueUnknown
  else .allScriptsRefused

mutual

/-- The characters of a set. -/
def SetTree.members (flags : Flags) : SetTree → Except Complaint CharSet
  | nothing _ => .ok .empty
  | letter written => do return .only (← Letter.member flags written)
  | range first last => do
    return .between (← Letter.member flags first) (← Letter.member flags last)
  | named place name negated => do
    let set ← folded flags place false (.ofRanges name.ranges)
    confined flags place (inverted negated set)
  | shorthand place kind negated => Shorthand.meaning flags place kind negated
  | property place name => .error { fault := name.fault flags, place }
  | bracketed place negated inner => do
    let set ← inner.members flags
    let set ← folded flags place inner.isBare set
    confined flags place (inverted negated set)
  | union _ items => SetTree.membersOfAll flags [] items
  | joined operator first second => do
    let front ← first.members flags
    let back ← second.members flags
    let back ← folded flags second.place second.isBare back
    let front ← folded flags first.place first.isBare front
    return .combine operator.holds front back

/-- The characters of several sets and of those that are known. -/
def SetTree.membersOfAll (flags : Flags) (known : List CharSet) :
    List SetTree → Except Complaint CharSet
  | [] => .ok (.unionAll known)
  | item :: items => do
    let set ← item.members flags
    SetTree.membersOfAll flags (set :: known) items

end

/-! ## Parts -/

/-- The pattern that a letter means. -/
def Letter.pattern (flags : Flags) (written : Placed Letter) : Except Complaint Pattern := do
  let c ← Letter.meaning flags written
  if !flags .ignoresCase then return .literal [c]
  else if flags .allScripts then .error { fault := .caseUnavailable, place := written.place }
  else return .ofSet (CharSet.only c).folded true

/-- The pattern that a dot means. -/
def dot (flags : Flags) (place : Place) : Except Complaint Pattern :=
  let without (cs : List Char) : Pattern :=
    .ofSet (CharSet.ofRanges (cs.map fun c => (c, c))).complement false
  if !flags .allScripts then .error { fault := .notUtf8, place }
  else if flags .dotTakesAll then .ok (without [])
  else if flags .returns then .ok (without ['\n', '\r'])
  else .ok (without ['\n'])

/-- The condition that an assertion means. -/
def Assertion.anchor (flags : Flags) : Assertion → Anchor
  | lineStart => if flags .lines then .lineStart (flags .returns) else .textStart
  | lineFinish => if flags .lines then .lineFinish (flags .returns) else .textFinish
  | textStart => .textStart
  | textFinish => .textFinish
  | word edge => .word edge (flags .allScripts)

/-- The pattern that an atom means. -/
def Atom.meaning (flags : Flags) (place : Place) : Atom → Except Complaint Pattern
  | letter written => Letter.pattern flags ⟨place, written⟩
  | dot => Pattern.dot flags place
  | shorthand kind negated => do return .ofSet (← Shorthand.meaning flags place kind negated) true
  | property name => .error { fault := name.fault flags, place }
  | assertion written => .ok (.anchor (written.anchor flags))

mutual

/-- The pattern that a tree means under flags, and the flags behind it. -/
def Tree.meaning (flags : Flags) : Tree → Except Complaint (Pattern × Flags)
  | empty => .ok (.empty, flags)
  | atom written => do return (← written.item.meaning flags written.place, flags)
  | set written => do return (.ofSet (← written.members flags) (!flags .allScripts), flags)
  | switches changes => .ok (.empty, flags.switched changes)
  | group _ kind inner => do
    let (pattern, _) ← inner.meaning (flags.switched kind.switches)
    match kind with
    | .numbered => return (.group pattern, flags)
    | .plain _ => return (pattern, flags)
  | sequence _ parts => do
    let (patterns, flags) ← Tree.meanings flags [] parts
    return (Pattern.inSequence patterns, flags)
  | choice _ branches => do
    let (patterns, flags) ← Tree.meanings flags [] branches
    return (Pattern.inChoice patterns, flags)
  | repeated _ least most fewFirst part => do
    let (part, flags) ← part.meaning flags
    return (repetition least most (fewFirst != flags .fewFirst) part, flags)

/-- The patterns that trees mean, each under the flags behind the one in front of it. The patterns
`before` are known, the last of which comes first. -/
def Tree.meanings (flags : Flags) (before : List Pattern) :
    List Tree → Except Complaint (List Pattern × Flags)
  | [] => .ok (before.reverse, flags)
  | tree :: trees => do
    let (pattern, flags) ← tree.meaning flags
    Tree.meanings flags (pattern :: before) trees

end

/-! ## Patterns -/

/-- Why a text is refused as a pattern. -/
inductive Refusal where
  /-- There is a fault in it. -/
  | illFormed (text : String) (complaint : Complaint)
  /-- It is too large to look for. -/
  | tooLarge
  /-- It asks for words of all scripts, which are not known. -/
  | unknownWords

/-- The most bytes that a pattern may take. -/
def sizeLimit : Nat := 10485760

/-- The wording of a refusal. -/
def Refusal.message : Refusal → String
  | illFormed text complaint => complaint.report text.toList
  | tooLarge => "Compiled regex exceeds size limit of " ++ sizeLimit.repr ++ " bytes."
  | unknownWords => "error building NFA"

mutual

/-- Whether a pattern asks for words of all scripts. -/
def asksAllScripts : Pattern → Bool
  | anchor (.word _ allScripts) => allScripts
  | group part | repeated _ _ _ part => part.asksAllScripts
  | sequence parts | choice parts => anyAsksAllScripts parts
  | empty | literal _ | oneOf _ _ | anchor _ => false

/-- Whether one of several patterns asks for words of all scripts. -/
def anyAsksAllScripts : List Pattern → Bool
  | [] => false
  | part :: parts => part.asksAllScripts || anyAsksAllScripts parts

end

/-- The pattern that a text means. -/
def ofText (text : String) : Except Refusal Pattern := do
  let tree ← (Tree.ofText text.toList).mapError (.illFormed text)
  let (pattern, _) ← (tree.meaning Flags.initial).mapError (.illFormed text)
  if sizeLimit < pattern.size .forward then .error .tooLarge
  else if pattern.asksAllScripts then .error .unknownWords
  else if sizeLimit < pattern.size .backward then .error .tooLarge
  else return pattern

end QueueDepth.Pattern
