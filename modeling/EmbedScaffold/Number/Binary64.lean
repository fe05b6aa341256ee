import EmbedScaffold.Text.Basic

/-!
# Binary floating-point numbers

A 64-bit floating-point number as its bits, read in exact integer arithmetic.  `ofDecimal` gives
the number nearest to a decimal, of two equally near ones the one with an even significand.
-/

namespace EmbedScaffold

/-- A number of the 64-bit binary format, by its bits. -/
structure Binary64 where
  bits : UInt64
  deriving DecidableEq, Repr, Inhabited

namespace Binary64

/-! ## Parts -/

/-- Whether the sign bit is set. -/
def isNegative (number : Binary64) : Bool :=
  number.bits.toNat / Nat.pow 2 63 == 1

def exponentField (number : Binary64) : Nat :=
  number.bits.toNat / Nat.pow 2 52 % Nat.pow 2 11

/-- The significand without its leading bit. -/
def fractionField (number : Binary64) : Nat :=
  number.bits.toNat % Nat.pow 2 52

def ofParts (negative : Bool) (exponent fraction : Nat) : Binary64 :=
  ⟨((if negative then Nat.pow 2 63 else 0) + exponent * Nat.pow 2 52 + fraction).toUInt64⟩

def infinity (negative : Bool) : Binary64 :=
  ofParts negative 2047 0

def notANumber : Binary64 :=
  ofParts false 2047 (Nat.pow 2 51)

def zero (negative : Bool) : Binary64 :=
  ofParts negative 0 0

/-- What a number stands for: a finite value is `significand · 2 ^ exponent`. -/
inductive Class where
  | finite (significand : Nat) (exponent : Int)
  | infinite
  | notANumber
  deriving DecidableEq, Repr

/-- What a number stands for, its sign aside. -/
def classify (number : Binary64) : Class :=
  let exponent := number.exponentField
  let fraction := number.fractionField
  if exponent = 2047 then if fraction = 0 then .infinite else .notANumber
  else if exponent = 0 then .finite fraction (-1074)
  else .finite (fraction + Nat.pow 2 52) ((exponent : Int) - 1075)

/-- The integer that a number equals, if it equals one. -/
def integer? (number : Binary64) : Option Int :=
  match number.classify with
  | .finite significand exponent =>
      let divisor := Nat.pow 2 (-exponent).toNat
      let whole : Int := significand * Nat.pow 2 exponent.toNat / divisor
      if significand % divisor = 0 then some (if number.isNegative then -whole else whole) else none
  | _ => none

/-- The whole thousandths of a number; none of a negative one, or of one that is not finite. -/
def thousandths (number : Binary64) : Nat :=
  match number.classify with
  | .finite significand exponent =>
      if number.isNegative then 0
      else significand * 1000 * Nat.pow 2 exponent.toNat / Nat.pow 2 (-exponent).toNat
  | _ => 0

/-! ## Rounding -/

/-- The quotient rounded to the nearest natural number, a tie going to the even one. -/
def roundDiv (dividend divisor : Nat) : Nat :=
  let quotient := dividend / divisor
  let twice := 2 * (dividend % divisor)
  if twice < divisor then quotient
  else if divisor < twice then quotient + 1
  else if quotient % 2 = 0 then quotient else quotient + 1

/-- The number nearest to a positive fraction. -/
def ofFraction (negative : Bool) (dividend divisor : Nat) : Binary64 :=
  let estimate : Int := (dividend.log2 : Int) - divisor.log2 - 52
  let scaled (exponent : Int) : Nat × Nat :=
    (dividend * Nat.pow 2 (-exponent).toNat, divisor * Nat.pow 2 exponent.toNat)
  let exponent :=
    let (above, below) := scaled estimate
    max (-1074) (if above / below < Nat.pow 2 52 then estimate - 1 else estimate)
  let (above, below) := scaled exponent
  let significand := roundDiv above below
  let (significand, exponent) :=
    if significand = Nat.pow 2 53 then (Nat.pow 2 52, exponent + 1) else (significand, exponent)
  if 971 < exponent then infinity negative
  else if significand < Nat.pow 2 52 then ofParts negative 0 significand
  else ofParts negative (exponent + 1075).toNat (significand - Nat.pow 2 52)

/-- The number nearest to `digits · 10 ^ exponent`. -/
def ofDecimal (negative : Bool) (digits : Nat) (exponent : Int) : Binary64 :=
  if digits = 0 then zero negative
  else
    let places : Int := exponent + (Nat.toDigits 10 digits).length
    if 400 < places then infinity negative
    else if places < -400 then zero negative
    else ofFraction negative (digits * Nat.pow 10 exponent.toNat) (Nat.pow 10 (-exponent).toNat)

/-! ## Reading decimals -/

/-- The value of a run of decimal digits. -/
def digitsValue (digits : Text) : Nat :=
  digits.foldl (fun value digit => value * 10 + (digit.toNat - '0'.toNat)) 0

/-- Read an exponent: digits after an optional sign. -/
def readExponent? (content : Text) : Option Int :=
  let (negative, digits) :=
    match content with
    | '-' :: rest => (true, rest)
    | '+' :: rest => (false, rest)
    | rest => (false, rest)
  if digits.isEmpty || ! digits.all Char.isDigit then none
  else
    let value : Int := digitsValue digits
    some (if negative then -value else value)

/-- Read a decimal without sign: digits with an optional point and an optional exponent. -/
def ofUnsignedText? (negative : Bool) (content : Text) : Option Binary64 :=
  let whole := content.takeWhile Char.isDigit
  let behindWhole := content.dropWhile Char.isDigit
  let (fraction, behindFraction) :=
    match behindWhole with
    | '.' :: rest => (rest.takeWhile Char.isDigit, rest.dropWhile Char.isDigit)
    | rest => ([], rest)
  let exponent? :=
    match behindFraction with
    | [] => some 0
    | mark :: rest => if mark = 'e' || mark = 'E' then readExponent? rest else none
  if whole.isEmpty && fraction.isEmpty then none
  else
    exponent?.map fun exponent =>
      ofDecimal negative (digitsValue (whole ++ fraction)) (exponent - fraction.length)

/-- Read a decimal, an infinity or `nan`, with an optional sign. -/
def ofText? (content : Text) : Option Binary64 :=
  let (negative, rest) :=
    match content with
    | '-' :: rest => (true, rest)
    | '+' :: rest => (false, rest)
    | rest => (false, rest)
  if rest = "inf".toList then some (infinity negative)
  else if rest = "nan".toList then some notANumber
  else ofUnsignedText? negative rest

end Binary64

end EmbedScaffold
