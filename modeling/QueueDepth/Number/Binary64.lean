/-!
# Binary floating-point numbers of 64 bits

The number of 64 bits that is nearest to a decimal, and the shortest decimal that reads back as it.
All arithmetic is exact: a finite positive number is a significand below `2 ^ 53` times a power of
two, and the reals that round to it form an interval around it.

* `Binary64.ofDecimal`: the number nearest to a decimal; of two as near, the one with an even
  significand.
* `Binary64.shortest`: the digits and the exponent of the shortest decimal in the interval.
* `Binary64.text`: a number without exponent, and with one digit behind the point at least.
-/

namespace QueueDepth.Number

/-- The decimal `± digits · 10 ^ exponent`. -/
structure Decimal where
  negative : Bool
  digits : Nat
  exponent : Int
  deriving DecidableEq

/-- A binary floating-point number. -/
inductive Binary64 where
  /-- The number `± significand · 2 ^ exponent`. -/
  | finite (negative : Bool) (significand : Nat) (exponent : Int)
  | infinite (negative : Bool)
  | notANumber
  deriving DecidableEq

namespace Binary64

/-- The exponent of the smallest numbers. -/
def leastExponent : Int := -1074

/-- One more than the greatest significand. -/
def significandBound : Nat := Nat.pow 2 53

/-- The ratio `a · base ^ exponent`, as a numerator and a denominator. -/
def scaled (base a : Nat) (exponent : Int) : Nat × Nat :=
  if 0 ≤ exponent then (a * base.pow exponent.toNat, 1) else (a, base.pow (-exponent).toNat)

/-- A ratio to the nearest integer, a half to the even neighbour. -/
def roundHalfEven (numerator denominator : Nat) : Nat :=
  let below := numerator / denominator
  let rest := 2 * (numerator % denominator)
  if rest < denominator ∨ (rest = denominator ∧ below % 2 = 0) then below else below + 1

/-- How many decimal digits a number has. -/
def digitCount (n : Nat) : Nat :=
  (Nat.toDigits 10 n).length

/-- A ratio divided by a power of two, rounded. -/
def roundAt (numerator denominator : Nat) (exponent : Int) : Nat :=
  let (a, b) := scaled 2 numerator (-exponent)
  roundHalfEven a (b * denominator)

/-- The exponent of the number nearest to a positive ratio: the least one that leaves the significand
in bounds. -/
def exponentOf (numerator denominator : Nat) : Int :=
  let guess : Int := (numerator.log2 : Int) - denominator.log2 - 52
  let (a, b) := scaled 2 numerator (-guess)
  max leastExponent (if a / (b * denominator) < Nat.pow 2 52 then guess - 1 else guess)

/-- The number nearest to a decimal. -/
def ofDecimal (decimal : Decimal) : Binary64 :=
  let magnitude := decimal.exponent + digitCount decimal.digits
  if decimal.digits = 0 ∨ magnitude < -330 then finite decimal.negative 0 leastExponent
  else if 310 < magnitude then infinite decimal.negative
  else
    let (numerator, denominator) := scaled 10 decimal.digits decimal.exponent
    let exponent := exponentOf numerator denominator
    let rounded := roundAt numerator denominator exponent
    let (significand, exponent) :=
      if rounded = significandBound then (Nat.pow 2 52, exponent + 1) else (rounded, exponent)
    if 971 < exponent then infinite decimal.negative
    else finite decimal.negative significand exponent

/-! ## The shortest decimal -/

/-- Whether the decimal `digits · 10 ^ place` rounds to `significand · 2 ^ exponent`: it lies between
the middles to both neighbours, or on one of them if the significand is even. -/
def readsBack (significand : Nat) (exponent : Int) (digits : Nat) (place : Int) : Bool :=
  -- In units of a quarter of the last place of the significand.
  let low := if significand = Nat.pow 2 52 ∧ leastExponent < exponent then 4 * significand - 1
    else 4 * significand - 2
  let high := 4 * significand + 2
  let (a, b) := scaled 10 digits place
  let (c, d) := scaled 2 1 (exponent - 2)
  let value := a * d
  let unit := b * c
  if significand % 2 = 0 then low * unit ≤ value && value ≤ high * unit
  else low * unit < value && value < high * unit

/-- The decimals on the grid of `10 ^ place` that are next to a number, the nearer one first; of two as
near, the greater one. -/
def neighbours (significand : Nat) (exponent place : Int) : List Nat :=
  let (a, b) := scaled 2 significand exponent
  let (c, d) := scaled 10 1 place
  let numerator := a * d
  let denominator := b * c
  let below := numerator / denominator
  if 2 * (numerator % denominator) < denominator then [below, below + 1] else [below + 1, below]

/-- Look for the shortest decimal from `places`, coarse grids first. -/
def shortestOn (significand : Nat) (exponent : Int) : List Int → Nat × Int
  | [] => (significand, 0)
  | place :: places =>
    match (neighbours significand exponent place).find? (readsBack significand exponent · place) with
    | some digits => (digits, place)
    | none => shortestOn significand exponent places

/-- The digits and the exponent of the shortest decimal that reads back as a positive number. -/
def shortest (significand : Nat) (exponent : Int) : Nat × Int :=
  let (a, b) := scaled 2 significand exponent
  let magnitude : Int := (digitCount a : Int) - digitCount b
  shortestOn significand exponent ((List.range 20).map fun (i : Nat) => magnitude + 1 - i)

/-! ## Text -/

/-- The decimal `digits · 10 ^ place` without exponent. -/
def positional (digits : Nat) (place : Int) : String :=
  let shown := (Nat.toDigits 10 digits)
  if 0 ≤ place then String.ofList (shown ++ List.replicate place.toNat '0') ++ ".0"
  else
    let behind := (-place).toNat
    let shown := List.replicate (behind + 1 - shown.length) '0' ++ shown
    String.ofList (shown.take (shown.length - behind)) ++ "."
      ++ String.ofList (shown.drop (shown.length - behind))

/-- The text of a number. -/
def text : Binary64 → String
  | finite negative significand exponent =>
    (if negative then "-" else "") ++
      if significand = 0 then "0.0"
      else
        let (digits, place) := shortest significand exponent
        positional digits place
  | infinite negative => if negative then "-inf" else "inf"
  | notANumber => "NaN"

end Binary64

end QueueDepth.Number
