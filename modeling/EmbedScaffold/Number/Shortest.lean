import EmbedScaffold.Number.Binary64

/-!
# Shortest decimals

The text of a floating-point number is the shortest decimal that reads back as the number, and
among those the nearest to it.  The search runs over the decimal grids of 1, 2, … 17 digits in
exact integer arithmetic.
-/

namespace EmbedScaffold

namespace Binary64

/-- A decimal `digits · 10 ^ exponent`. -/
structure Decimal where
  digits : Nat
  exponent : Int
  deriving DecidableEq, Repr

def digitCount (number : Nat) : Nat :=
  (Nat.toDigits 10 number).length

/-- The reals that round to a finite number: between `low` and `high` quarters of its unit, the
ends included if `closed`; the number itself is `middle` quarters. -/
structure Interval where
  low : Nat
  middle : Nat
  high : Nat
  closed : Bool
  /-- The exponent of a quarter of the unit. -/
  quarter : Int

/-- The reals that round to `significand · 2 ^ exponent`. -/
def interval (significand : Nat) (exponent : Int) : Interval :=
  let narrow := significand = Nat.pow 2 52 && -1074 < exponent
  ⟨4 * significand - (if narrow then 1 else 2), 4 * significand, 4 * significand + 2,
    significand % 2 == 0, exponent - 2⟩

namespace Interval

/-- The exponent of the first decimal digit of the number. -/
def leadingPlace (range : Interval) : Int :=
  let above := range.middle * Nat.pow 2 range.quarter.toNat
  let below := Nat.pow 2 (-range.quarter).toNat
  if below ≤ above then (digitCount (above / below) : Int) - 1
  else -(digitCount ((below + above - 1) / above - 1) : Int)

/-- The point of the decimal grid `10 ^ place` that rounds to the number and is nearest to it; of
two equally near ones the even one. -/
def onGrid? (range : Interval) (place : Int) : Option Nat :=
  let unit := Nat.pow 2 (-range.quarter).toNat * Nat.pow 10 place.toNat
  let scale := Nat.pow 2 range.quarter.toNat * Nat.pow 10 (-place).toNat
  let middle := range.middle * scale
  let inside (point : Nat) : Bool :=
    if range.closed then range.low * scale ≤ point * unit && point * unit ≤ range.high * scale
    else range.low * scale < point * unit && point * unit < range.high * scale
  let below := middle / unit
  let nearest := roundDiv middle unit
  if inside nearest then some nearest
  else if inside below then some below
  else if inside (below + 1) then some (below + 1)
  else none

/-- The shortest decimal in the interval, with at least `count` and at most `count + more`
digits. -/
def shortestFrom (range : Interval) (count : Nat) : (more : Nat) → Decimal
  | 0 =>
      ⟨roundDiv (range.middle * Nat.pow 2 range.quarter.toNat)
        (Nat.pow 2 (-range.quarter).toNat), 0⟩
  | more + 1 =>
      let place := range.leadingPlace + 1 - count
      match range.onGrid? place with
      | some point => ⟨point, place⟩
      | none => shortestFrom range (count + 1) more

end Interval

/-- The shortest decimal that reads back as `significand · 2 ^ exponent`. -/
def shortest (significand : Nat) (exponent : Int) : Decimal :=
  (interval significand exponent).shortestFrom 1 17

/-! ## Texts -/

/-- The digits of a number without its trailing zeros. -/
def significantDigits (number : Nat) : Text :=
  Text.trimEnd (· == '0') (Text.ofNat number)

/-- Positional notation lasts from the fourth place behind the point to the sixteenth before it. -/
def isPositional (leading : Int) : Bool :=
  -4 ≤ leading && leading < 16

/-- Digits in positional notation, the first of them at the place `leading`; at least one digit
stands on either side of the point. -/
def positionalText (digits : Text) (leading : Int) : Text :=
  if leading < 0 then
    "0.".toList ++ List.replicate (-leading - 1).toNat '0' ++ digits
  else
    let whole := leading.toNat + 1
    if digits.length ≤ whole then
      digits ++ List.replicate (whole - digits.length) '0' ++ ".0".toList
    else digits.take whole ++ ['.'] ++ digits.drop whole

/-- Digits in scientific notation; the exponent has a sign and at least two digits. -/
def scientificText (digits : Text) (leading : Int) : Text :=
  let significand :=
    match digits with
    | first :: second :: rest => first :: '.' :: second :: rest
    | few => few
  let places := Text.ofNat leading.natAbs
  significand ++ ['e', if leading < 0 then '-' else '+'] ++
    (if places.length < 2 then ['0'] else []) ++ places

/-- The text of a decimal that is not zero. -/
def decimalText (decimal : Decimal) : Text :=
  let leading := decimal.exponent + digitCount decimal.digits - 1
  let digits := significantDigits decimal.digits
  if isPositional leading then positionalText digits leading else scientificText digits leading

/-- The words for the values that are no finite numbers. -/
structure SpecialWords where
  infinite : Text
  notANumber : Text

def textWith (words : SpecialWords) (number : Binary64) : Text :=
  let sign := if number.isNegative then ['-'] else []
  match number.classify with
  | .notANumber => words.notANumber
  | .infinite => sign ++ words.infinite
  | .finite significand exponent =>
      sign ++
        if significand = 0 then "0.0".toList else decimalText (shortest significand exponent)

/-- The text of a number, `inf` and `nan` included. -/
def toText (number : Binary64) : Text :=
  number.textWith ⟨"inf".toList, "nan".toList⟩

end Binary64

end EmbedScaffold
