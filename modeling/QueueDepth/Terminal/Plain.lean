/-!
# Plain output

Output that is not meant for a terminal loses its escape sequences and its control characters; white
space stays. The reader of escape sequences knows the sequences that ANSI terminals know: single
escapes, control sequences, device control strings, system commands and other strings.

A line end or a tab inside an unfinished control sequence is shown, and so is the text right behind
it, up to the next character that is not for showing; there the unfinished sequence goes on.

* `plain`: what is left of pieces of output that are written one after the other.
-/

namespace QueueDepth.Terminal

/-- What an escape sequence has come to. -/
inductive Sequence where
  /-- No sequence. -/
  | ground
  | escape
  | escapeIntermediate
  | controlEntry
  | controlParameter
  | controlIntermediate
  | controlIgnored
  | deviceEntry
  | deviceParameter
  | deviceIntermediate
  | deviceIgnored
  | deviceData
  | systemCommand
  /-- The strings that end only at a string terminator. -/
  | string
  deriving DecidableEq

/-- What happens to a character. -/
inductive Effect where
  /-- It is for showing. -/
  | print
  /-- It is a control character that acts by itself. -/
  | execute
  /-- It belongs to a sequence. -/
  | absorb
  deriving DecidableEq

namespace Sequence

/-- Whether a code lies in a range, both ends included. -/
def within (low high code : Nat) : Bool :=
  low ≤ code && code ≤ high

/-- The sequence behind one of the codes from 0x20 to 0x7E. -/
def afterGraphic (sequence : Sequence) (code : Nat) : Sequence :=
  match sequence with
  | ground => ground
  | escape =>
    if code < 0x30 then escapeIntermediate
    else if code = 0x50 then deviceEntry
    else if code = 0x58 then string
    else if code = 0x5B then controlEntry
    else if code = 0x5D then systemCommand
    else if code = 0x5E then string
    else if code = 0x5F then string
    else ground
  | escapeIntermediate => if code < 0x30 then escapeIntermediate else ground
  | controlEntry =>
    if code < 0x30 then controlIntermediate
    else if code < 0x40 then controlParameter
    else ground
  | controlParameter =>
    if code < 0x30 then controlIntermediate
    else if code < 0x3C then controlParameter
    else if code < 0x40 then controlIgnored
    else ground
  | controlIntermediate =>
    if code < 0x30 then controlIntermediate
    else if code < 0x40 then controlIgnored
    else ground
  | controlIgnored => if code < 0x40 then controlIgnored else ground
  | deviceEntry =>
    if code < 0x30 then deviceIntermediate
    else if code < 0x40 then deviceParameter
    else deviceData
  | deviceParameter =>
    if code < 0x30 then deviceIntermediate
    else if code < 0x3C then deviceParameter
    else if code < 0x40 then deviceIgnored
    else deviceData
  | deviceIntermediate =>
    if code < 0x30 then deviceIntermediate
    else if code < 0x40 then deviceIgnored
    else deviceData
  | deviceIgnored => deviceIgnored
  | deviceData => deviceData
  | systemCommand => systemCommand
  | string => string

/-- Whether control characters act by themselves inside a sequence. -/
def executes : Sequence → Bool
  | ground | escape | escapeIntermediate | controlEntry | controlParameter | controlIntermediate
  | controlIgnored => true
  | _ => false

/-- Whether a byte 0x9C ends a sequence, also one inside the code of a character. -/
def endsAtTerminator : Sequence → Bool
  | deviceIgnored | deviceData | string => true
  | _ => false

/-- The characters that break off any sequence, with what they begin: the two cancel characters and
the escape character. -/
def broken? (c : Char) : Option Sequence :=
  if c = '\x18' ∨ c = '\x1a' then some ground
  else if c = '\x1b' then some escape
  else none

/-- The sequence behind a character, and what happens to the character. -/
def step (sequence : Sequence) (c : Char) : Sequence × Effect :=
  let code := c.toNat
  if let some next := broken? c then (next, .absorb)
  else if code < 0x20 then
    if sequence.executes then (sequence, .execute)
    else if sequence = systemCommand ∧ code = 0x07 then (ground, .absorb)
    else (sequence, .absorb)
  else if code < 0x7F then
    (sequence.afterGraphic code, if sequence = ground then .print else .absorb)
  else if code = 0x7F then (sequence, .absorb)
  else if sequence = ground then (ground, .print)
  else if sequence.endsAtTerminator && (String.utf8EncodeChar c).contains 0x9C then
    (ground, .absorb)
  else (sequence, .absorb)

end Sequence

/-- The white space of ASCII among the control characters. -/
def isLayout (c : Char) : Bool :=
  c = '\t' || c = '\n' || c = '\x0c' || c = '\r'

/-- Whether a character is shown that has an effect. -/
def Effect.shows (effect : Effect) (c : Char) : Bool :=
  effect = .print || (effect = .execute && isLayout c)

/-- A reader of output. -/
structure Filter where
  /-- The sequence that is being read, or that is to go on. -/
  sequence : Sequence
  /-- Whether the last character was shown. -/
  showing : Bool

namespace Filter

/-- Read a character of a sequence. One that is shown interrupts the sequence. -/
def absorb (sequence : Sequence) (c : Char) : Filter × Bool :=
  let (next, effect) := sequence.step c
  (⟨next, effect.shows c⟩, effect.shows c)

/-- Read a character behind one that was shown. It is taken as if there were no sequence. One that is
not for showing takes up the sequence again, and one beyond ASCII ends it. -/
def continueShowing (sequence : Sequence) (c : Char) : Filter × Bool :=
  if (Sequence.ground.step c).2.shows c then
    (⟨if c.toNat < 0x80 then sequence else .ground, true⟩, true)
  else
    absorb ((Sequence.broken? c).getD sequence) c

/-- Read a character; the answer says whether it is shown. -/
def read (filter : Filter) (c : Char) : Filter × Bool :=
  if filter.showing then continueShowing filter.sequence c else absorb filter.sequence c

/-- Read a character behind a text of which `shown` was shown, latest first. -/
def readBehind (state : Filter × List Char) (c : Char) : Filter × List Char :=
  let (next, shows) := state.1.read c
  (next, if shows then c :: state.2 else state.2)

/-- What is shown of a text, and the reader behind it. -/
def run (filter : Filter) (text : List Char) : Filter × List Char :=
  let (last, shown) := text.foldl readBehind (filter, [])
  (last, shown.reverse)

end Filter

/-- What is shown of pieces of output. A new piece takes up an unfinished sequence. -/
def plainFrom (sequence : Sequence) : List (List Char) → List Char
  | [] => []
  | piece :: pieces =>
    let (filter, text) := Filter.run ⟨sequence, false⟩ piece
    text ++ plainFrom filter.sequence pieces

/-- What is left of pieces of output that is not meant for a terminal. -/
def plain (pieces : List String) : String :=
  String.ofList (plainFrom .ground (pieces.map String.toList))

end QueueDepth.Terminal
