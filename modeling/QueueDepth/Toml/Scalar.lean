import QueueDepth.Calendar
import QueueDepth.Toml.Text
import QueueDepth.Toml.Value

/-!
# Plain values of TOML documents

Truth values, numbers, dates and times are written without quotation marks. Each of them is one word,
but for a date and a time that are parted by a space.

* `integer?`, `real?`, `isMoment`: the meaning of a word.
* `scalar`: reads a plain value.
-/

namespace QueueDepth.Toml

/-! ## Digits -/

/-- The value of a digit in a base of at most sixteen. -/
def digitIn? (base : Nat) (c : Char) : Option Nat := do
  let digit ← Text.hexDigit? c
  if digit < base then some digit else none

/-- The value of digits behind others of value `value`. Single underscores may part them. -/
def digitsFrom? (base value : Nat) : List Char → Option Nat
  | [] => none
  | [c] => do return value * base + (← digitIn? base c)
  | c :: '_' :: rest => do digitsFrom? base (value * base + (← digitIn? base c)) rest
  | c :: rest => do digitsFrom? base (value * base + (← digitIn? base c)) rest

/-- A decimal without a needless zero in front. -/
def whole? (text : List Char) : Option Nat :=
  match text with
  | '0' :: _ :: _ => none
  | text => digitsFrom? 10 0 text

/-- Whether a sign says that a number is negative, and the text behind the sign. -/
def signed : List Char → Bool × List Char
  | '-' :: rest => (true, rest)
  | '+' :: rest => (false, rest)
  | rest => (false, rest)

/-- A number with the sign of another. -/
def withSign (negative : Bool) (size : Nat) : Int :=
  if negative then -(size : Int) else size

/-! ## Numbers -/

/-- The integer that a word means. Only decimals bear a sign. -/
def integer? (word : List Char) : Option Int :=
  match word with
  | '0' :: 'x' :: digits => (digitsFrom? 16 0 digits).map Int.ofNat
  | '0' :: 'o' :: digits => (digitsFrom? 8 0 digits).map Int.ofNat
  | '0' :: 'b' :: digits => (digitsFrom? 2 0 digits).map Int.ofNat
  | word =>
    let (negative, digits) := signed word
    (whole? digits).map (withSign negative)

/-- A text up to a separator, and the text behind it if there is one. -/
def splitAt? (isSeparator : Char → Bool) (text : List Char) : List Char × Option (List Char) :=
  let head := text.takeWhile (!isSeparator ·)
  match text.dropWhile (!isSeparator ·) with
  | [] => (head, none)
  | _ :: rest => (head, some rest)

/-- The exponent behind its letter. -/
def exponent? : Option (List Char) → Option Int
  | none => some 0
  | some text =>
    let (negative, digits) := signed text
    (digitsFrom? 10 0 digits).map (withSign negative)

/-- The decimal that a word without its sign means. There is a fraction or an exponent. -/
def decimal? (negative : Bool) (word : List Char) : Option Number.Decimal := do
  let (mantissa, power) := splitAt? (fun c => c = 'e' || c = 'E') word
  let (front, fraction) := splitAt? (· = '.') mantissa
  let units ← whole? front
  let exponent ← exponent? power
  match fraction with
  | some digits =>
    return ⟨negative, ← digitsFrom? 10 units digits, exponent - (digits.filter (· ≠ '_')).length⟩
  | none => if power.isSome then return ⟨negative, units, exponent⟩ else none

/-- The floating-point number that a word means. -/
def real? (word : List Char) : Option Real :=
  let (negative, size) := signed word
  if size = "inf".toList then some (.infinite negative)
  else if size = "nan".toList then some .notANumber
  else (decimal? negative size).map .decimal

/-! ## Dates and times -/

/-- The value of a decimal that is written with exactly `width` digits at the head of a text, and the
text behind it. -/
def fixedDigits? (width : Nat) (text : List Char) : Option (Nat × List Char) :=
  let digits := text.take width
  if digits.length = width && digits.all Char.isDigit then
    some (digits.foldl (fun value c => 10 * value + (c.toNat - '0'.toNat)) 0, text.drop width)
  else none

/-- A text behind a character that must stand at its head. -/
def expect? (isExpected : Char → Bool) : List Char → Option (List Char)
  | c :: rest => if isExpected c then some rest else none
  | [] => none

/-- A text behind the date at its head. -/
def date? (text : List Char) : Option (List Char) := do
  let (year, text) ← fixedDigits? 4 text
  let (month, text) ← fixedDigits? 2 (← expect? (· = '-') text)
  let (day, text) ← fixedDigits? 2 (← expect? (· = '-') text)
  if 1 ≤ month && month ≤ 12 && 1 ≤ day && day ≤ Calendar.daysOfMonth year month then some text else none

/-- A text behind the hours and minutes at its head. -/
def clock? (text : List Char) : Option (List Char) := do
  let (hour, text) ← fixedDigits? 2 text
  let (minute, text) ← fixedDigits? 2 (← expect? (· = ':') text)
  if hour ≤ 23 && minute ≤ 59 then some text else none

/-- A text behind the fraction of a second that may stand at its head. -/
def fraction? : List Char → Option (List Char)
  | '.' :: text =>
    match text.dropWhile Char.isDigit with
    | rest => if rest.length < text.length then some rest else none
  | text => some text

/-- A text behind the time at its head. The seconds may be left out; the sixtieth is one of leap. -/
def time? (text : List Char) : Option (List Char) := do
  match ← clock? text with
  | ':' :: text =>
    let (second, text) ← fixedDigits? 2 text
    if second ≤ 60 then fraction? text else none
  | text => some text

/-- Whether a text is nothing or an offset from UTC. -/
def isOffset : List Char → Bool
  | [] => true
  | ['Z'] => true
  | ['z'] => true
  | sign :: text => (sign = '+' || sign = '-') && clock? text = some []

/-- Whether what follows a date completes it: nothing, or a time that may have an offset. -/
def isTimeOfDate : List Char → Bool
  | [] => true
  | mark :: text =>
    (mark = 'T' || mark = 't' || mark = ' ') &&
      match time? text with
      | some offset => isOffset offset
      | none => false

/-- Whether a word is a date, a time or both. -/
def isMoment (word : List Char) : Bool :=
  match date? word with
  | some rest => isTimeOfDate rest
  | none => time? word = some []

/-! ## Words -/

/-- Whether a character can belong to the word of a plain value. -/
def isWordChar (c : Char) : Bool :=
  c.isAlphanum || c = '_' || c = '+' || c = '-' || c = '.' || c = ':'

/-- Split a text behind its leading word. A date and the digits behind a space are one word. -/
def splitWord (text : List Char) : List Char × List Char :=
  let word := text.takeWhile isWordChar
  match text.dropWhile isWordChar with
  | ' ' :: c :: rest =>
    if c.isDigit && date? word = some [] then
      (word ++ ' ' :: c :: rest.takeWhile isWordChar, rest.dropWhile isWordChar)
    else (word, ' ' :: c :: rest)
  | rest => (word, rest)

/-- The value that a word means. -/
def valueOfWord? (word : List Char) : Option Value :=
  if word = "true".toList then some (.boolean true)
  else if word = "false".toList then some (.boolean false)
  else
    match integer? word, real? word with
    | some value, _ => some (.integer value)
    | none, some value => some (.real value)
    | none, none => if isMoment word then some .moment else none

/-- Read a plain value. -/
def scalar : Reader Value := fun text => do
  let (word, rest) := splitWord text
  return (← valueOfWord? word, rest)

end QueueDepth.Toml
