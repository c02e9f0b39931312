/-!
# Unsigned integers of 64 bits

An unsigned integer is written as decimal digits after an optional plus sign. Its value must fit in
64 bits. Reading stops at the first character that decides, so a text with two faults has the one
that comes first.
-/

namespace QueueDepth.Number

/-- One more than the greatest unsigned integer of 64 bits. -/
def unsignedBound : Nat := Nat.pow 2 64

/-- Why a text is no unsigned integer. -/
inductive UnsignedFault where
  /-- There is no text at all. -/
  | empty
  /-- A character is no digit. -/
  | badDigit
  /-- The value does not fit in 64 bits. -/
  | tooLarge
  deriving DecidableEq

/-- The wording of a fault. -/
def UnsignedFault.message : UnsignedFault → String
  | empty => "cannot parse integer from empty string"
  | badDigit => "invalid digit found in string"
  | tooLarge => "number too large to fit in target type"

/-- The value of an ASCII digit. -/
def digit? (c : Char) : Option Nat :=
  if c.isDigit then some (c.toNat - '0'.toNat) else none

/-- Read digits behind the value `value` of the digits before them. -/
def readDigits (value : Nat) : List Char → Except UnsignedFault Nat
  | [] => .ok value
  | c :: rest =>
    match digit? c with
    | none => .error .badDigit
    | some d =>
      if value * 10 + d < unsignedBound then readDigits (value * 10 + d) rest
      else .error .tooLarge

/-- Read an unsigned integer of 64 bits. -/
def readUnsigned : List Char → Except UnsignedFault Nat
  | [] => .error .empty
  | ['+'] => .error .badDigit
  | '+' :: digits => readDigits 0 digits
  | digits => readDigits 0 digits

end QueueDepth.Number
