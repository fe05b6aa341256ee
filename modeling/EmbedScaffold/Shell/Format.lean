import EmbedScaffold.Number.Binary64
import EmbedScaffold.Shell.Arithmetic

/-!
# Formatted output

`echo` and `printf` in the two ways in which they are known: as commands of the shell and as tools
of their own, which differ in the escapes they replace.
-/

namespace EmbedScaffold.Shell

/-- What a tool printed: its output, its complaints line by line, and the status it ended with. -/
structure Printed where
  status : Nat := 0
  output : Text := []
  complaints : List Text := []
  milliseconds : Nat := 0

/-! ## Escapes -/

structure Escapes where
  /-- Hexadecimal bytes. -/
  hasHex : Bool
  /-- The escape that ends all output. -/
  hasEnd : Bool
  /-- A zero in front of three octal digits. -/
  hasLeadingZero : Bool

namespace Escapes

def ofArgument : Escapes := ⟨false, true, true⟩

def ofFormat : Escapes := ⟨false, false, false⟩

def ofToolArgument : Escapes := ⟨true, true, true⟩

def ofToolFormat : Escapes := ⟨true, true, false⟩

end Escapes

/-- Whether a character is an octal digit. -/
def isOctal (tested : Char) : Bool :=
  '0' ≤ tested && tested ≤ '7'

/-- The octal digits that a text begins with, at most three. -/
def octalDigits (content : Text) : Text :=
  (content.take 3).takeWhile isOctal

def byteOf (number : Nat) : Char :=
  Char.ofNat (number % 256)

/-- The bytes that a letter stands for behind a backslash. -/
def escapedByte? (letter : Char) : Option Char :=
  let codes := [('a', 7), ('b', 8), ('e', 27), ('f', 12), ('n', 10), ('r', 13), ('t', 9), ('v', 11),
    ('\\', 92)]
  (codes.lookup letter).map byteOf

/-- A text with its escapes replaced, and whether it was cut short by the escape that ends all
output.  `skipped` characters belong to an escape that was replaced. -/
def unescape (escapes : Escapes) (skipped : Nat) : Text → Text × Bool
  | [] => ([], false)
  | first :: rest =>
      match skipped with
      | remaining + 1 => unescape escapes remaining rest
      | 0 =>
          let keep (shown : Char) (length : Nat) : Text × Bool :=
            let (others, isCut) := unescape escapes length rest
            (shown :: others, isCut)
          match first, rest with
          | '\\', letter :: behind =>
              if escapes.hasEnd && letter = 'c' then ([], true)
              else if escapes.hasLeadingZero && letter = '0' then
                let digits := octalDigits behind
                keep (byteOf (Text.numberOf 8 digits)) (digits.length + 1)
              else if isOctal letter then
                let digits := octalDigits rest
                keep (byteOf (Text.numberOf 8 digits)) digits.length
              else if escapes.hasHex && letter = 'x' && behind.head?.any Text.isHexDigit then
                let digits := (behind.take 2).takeWhile Text.isHexDigit
                keep (byteOf (Text.numberOf 16 digits)) (digits.length + 1)
              else
                match escapedByte? letter with
                | some byte => keep byte 1
                | none => keep '\\' 0
          | _, _ => keep first 0

/-! ## Words in a row -/

/-- The words with blanks between them. -/
def spaced (arguments : List Text) : Text :=
  Text.join [' '] arguments

/-- Print the arguments as the shell does: escapes are always replaced. -/
def echo (arguments : List Text) : Printed :=
  let (isBare, shown) :=
    match arguments with
    | ['-', 'n'] :: rest => (true, rest)
    | rest => (false, rest)
  let (content, isCut) := unescape .ofArgument 0 (spaced shown)
  { output := if isBare || isCut then content else content ++ ['\n'] }

/-- The letters of the options that the arguments of the tool begin with, and the arguments behind
them. -/
def echoOptions : List Text → Text × List Text
  | ('-' :: letters) :: rest =>
      if ! letters.isEmpty && letters.all "neE".toList.contains then
        let (others, shown) := echoOptions rest
        (letters ++ others, shown)
      else ([], ('-' :: letters) :: rest)
  | rest => ([], rest)

/-- Print the arguments as the tool does: escapes are replaced if an option asks for it. -/
def echoTool (arguments : List Text) : Printed :=
  let (letters, shown) := echoOptions arguments
  let replaces := (letters.filter (· ≠ 'n')).getLast? = some 'e'
  let (content, isCut) :=
    if replaces then unescape .ofToolArgument 0 (spaced shown) else (spaced shown, false)
  { output := if letters.contains 'n' || isCut then content else content ++ ['\n'] }

/-! ## Directives -/

/-- How a value is written: the flags, the least number of characters, and the digits that are
asked for. -/
structure Layout where
  flags : Text := []
  width : Nat := 0
  precision : Option Nat := none

namespace Layout

def has (layout : Layout) (flag : Char) : Bool :=
  layout.flags.contains flag

/-- Fill a text up to the width with blanks. -/
def pad (layout : Layout) (content : Text) : Text :=
  let filler := List.replicate (layout.width - content.length) ' '
  if layout.has '-' then content ++ filler else filler ++ content

/-- Write digits behind a sign. -/
def number (layout : Layout) (sign digits : Text) : Text :=
  let digits :=
    match layout.precision with
    | some least =>
        if least = 0 && digits = ['0'] then []
        else List.replicate (least - digits.length) '0' ++ digits
    | none =>
        if layout.has '0' && ! layout.has '-' then
          List.replicate (layout.width - sign.length - digits.length) '0' ++ digits
        else digits
  layout.pad (sign ++ digits)

def signed (layout : Layout) (value : Int) : Text :=
  let sign :=
    if value < 0 then ['-']
    else if layout.has '+' then ['+']
    else if layout.has ' ' then [' ']
    else []
  layout.number sign (Text.ofNat value.natAbs)

/-- Write an unsigned integer to a base. -/
def unsigned (layout : Layout) (letter : Char) (value : Int) : Text :=
  let number := Arithmetic.bitsOf value
  let base := if letter = 'o' then 8 else if letter = 'u' then 10 else 16
  let digits := Nat.toDigits base number
  let digits := if letter = 'X' then digits.map Char.toUpper else digits
  let isMarked := layout.has '#' && number ≠ 0
  if letter = 'o' && isMarked then layout.number [] ('0' :: digits)
  else layout.number (if isMarked && base = 16 then ['0', letter] else []) digits

/-- The digits of a fraction with a fixed number of places. -/
def fixedDigits (dividend divisor places : Nat) : Text :=
  let digits := Text.ofNat (Binary64.roundDiv (dividend * Nat.pow 10 places) divisor)
  let padded := List.replicate (places + 1 - digits.length) '0' ++ digits
  let whole := padded.take (padded.length - places)
  if places = 0 then whole else whole ++ ['.'] ++ padded.drop whole.length

/-- The power of ten of the first digit of a fraction, and its first digits. -/
def leadingDigits (dividend divisor count : Nat) : Int × Text :=
  if dividend = 0 then (0, List.replicate count '0')
  else
    let size (number : Nat) : Int := (Text.ofNat number).length
    let scaled (power : Int) : Nat × Nat :=
      let shift : Int := count - 1 - power
      (dividend * Nat.pow 10 shift.toNat, divisor * Nat.pow 10 (-shift).toNat)
    let estimate := size dividend - size divisor
    let (above, below) := scaled estimate
    let power := if above < below * Nat.pow 10 (count - 1) then estimate - 1 else estimate
    let (above, below) := scaled power
    let digits := Text.ofNat (Binary64.roundDiv above below)
    if count < digits.length then (power + 1, digits.take count) else (power, digits)

/-- Digits with a point behind the first one, and the power of ten that they are taken to. -/
def scientificDigits (letter : Char) (digits : Text) (power : Int) : Text :=
  let fraction := digits.drop 1
  let exponent := Text.ofNat power.natAbs
  digits.take 1 ++ (if fraction.isEmpty then [] else '.' :: fraction) ++ [letter] ++
    [if power < 0 then '-' else '+'] ++ List.replicate (2 - exponent.length) '0' ++ exponent

/-- Drop the zeros at the end of a fraction. -/
def trimZeros (digits : Text) : Text :=
  if digits.contains '.' then
    let kept := Text.trimEnd (· == '0') digits
    if kept.getLast? = some '.' then kept.dropLast else kept
  else digits

/-- Write a floating-point number: with a fixed number of places, with a power of ten, or in the
shorter one of both ways. -/
def decimal (layout : Layout) (letter : Char) (value : Binary64) : Text :=
  let sign :=
    if value.isNegative then ['-']
    else if layout.has '+' then ['+']
    else if layout.has ' ' then [' ']
    else []
  match value.classify with
  | .finite significand exponent =>
      let dividend := significand * Nat.pow 2 exponent.toNat
      let divisor := Nat.pow 2 (-exponent).toNat
      let places := layout.precision.getD 6
      let mark := if letter.isUpper then 'E' else 'e'
      let shown :=
        if letter.toLower = 'f' then fixedDigits dividend divisor places
        else if letter.toLower = 'e' then
          let (power, digits) := leadingDigits dividend divisor (places + 1)
          scientificDigits mark digits power
        else
          let count := max places 1
          let (power, digits) := leadingDigits dividend divisor count
          if power < -4 || (count : Int) ≤ power then
            let kept := Text.trimEnd (· == '0') (digits.drop 1)
            scientificDigits mark (digits.take 1 ++ kept) power
          else trimZeros (fixedDigits dividend divisor (count - 1 - power).toNat)
      { layout with precision := none }.number sign shown
  | .infinite => layout.pad (sign ++ "inf".toList)
  | .notANumber => layout.pad (sign ++ "nan".toList)

end Layout

/-- A piece of a format: text, or a directive for an argument.  A star takes its number from the
arguments. -/
inductive Piece where
  | plain (content : Text)
  | directive (flags : Text) (width precision : Option (Option Nat)) (letter : Option Char)
  | finish

/-- The number of a directive that a text begins with, and the text behind it: a star is no
number. -/
def directiveNumber (content : Text) : Option (Option Nat) × Text :=
  match content with
  | '*' :: rest => (some none, rest)
  | _ =>
      let digits := content.takeWhile Char.isDigit
      (if digits.isEmpty then none else some (some (Text.numberOf 10 digits)),
        content.drop digits.length)

/-- The pieces that plain characters make up; what ends all output ends the format. -/
def plainPieces (escapes : Escapes) (content : Text) (others : Unit → List Piece) : List Piece :=
  let (shown, isCut) := unescape escapes 0 content
  .plain shown :: if isCut then [.finish] else others ()

/-- The pieces of a format; `pending` collects the characters before the next directive, the last
one first. -/
def formatPieces (escapes : Escapes) : (fuel : Nat) → (pending : Text) → Text → List Piece
  | 0, _, _ => []
  | fuel + 1, pending, content =>
      match content with
      | [] => plainPieces escapes pending.reverse fun _ => []
      | '%' :: '%' :: rest =>
          plainPieces escapes pending.reverse fun _ =>
            .plain ['%'] :: formatPieces escapes fuel [] rest
      | '%' :: rest =>
          let flags := rest.takeWhile "#-+ 0".toList.contains
          let (width, behind) := directiveNumber (rest.drop flags.length)
          let (precision, last) :=
            match behind with
            | '.' :: digits =>
                let (number, remaining) := directiveNumber digits
                (some (number.getD (some 0)), remaining)
            | _ => (none, behind)
          plainPieces escapes pending.reverse fun _ =>
            .directive flags width precision last.head? ::
              formatPieces escapes fuel [] (last.drop 1)
      | '\\' :: '\\' :: rest => formatPieces escapes fuel ('\\' :: '\\' :: pending) rest
      | first :: rest => formatPieces escapes fuel (first :: pending) rest

/-- What is printed so far, and the arguments that are left. -/
structure Printing where
  output : Text := []
  complaints : List Text := []
  status : Nat := 0
  arguments : List Text
  isOver : Bool := false

namespace Printing

def take (printing : Printing) : Option Text × Printing :=
  (printing.arguments.head?, { printing with arguments := printing.arguments.drop 1 })

def write (printing : Printing) (content : Text) : Printing :=
  { printing with output := printing.output ++ content }

def complain (printing : Printing) (complaint : Text) : Printing :=
  { printing with complaints := printing.complaints ++ [complaint], status := 1 }

/-- Complain about an argument unless it was read to its end. -/
def check (printing : Printing) (argument : Text) (rest : Option Text) : Printing :=
  match rest with
  | some [] => printing
  | some _ => printing.complain (argument ++ ": not completely converted".toList)
  | none =>
      if argument.isEmpty then printing
      else printing.complain (argument ++ ": expected numeric value".toList)

/-- The next argument as an integer between two bounds. -/
def takeInteger (printing : Printing) (least most : Int) : Int × Printing :=
  let (argument, printing) := printing.take
  match argument with
  | none => (0, printing)
  | some ('"' :: rest) => (((rest.head?.map Char.toNat).getD 0 : Nat), printing)
  | some ('\'' :: rest) => (((rest.head?.map Char.toNat).getD 0 : Nat), printing)
  | some content =>
      match signedInteger? content with
      | some (value, rest) =>
          let kept := max least (min value most)
          if rest.isEmpty && kept ≠ value then
            (kept, printing.complain (content ++ ": Numerical result out of range".toList))
          else (kept, printing.check content (some rest))
      | none => (0, printing.check content none)

/-- The next argument as a floating-point number. -/
def takeDecimal (printing : Printing) : Binary64 × Printing :=
  let (argument, printing) := printing.take
  match argument with
  | none => (Binary64.zero false, printing)
  | some content =>
      let lengths := (List.range (content.length + 1)).reverse
      let read? := lengths.findSome? fun length =>
        (Binary64.ofText? (content.take length)).map (·, content.drop length)
      match read? with
      | some (value, rest) => (value, printing.check content (some rest))
      | none => (Binary64.zero false, printing.check content none)

/-- The number of a directive, which may come from the arguments. -/
def takeNumber (printing : Printing) (number : Option (Option Nat)) : Option Int × Printing :=
  match number with
  | none => (none, printing)
  | some (some value) => (some value, printing)
  | some none =>
      let (value, printing) := printing.takeInteger (-(Nat.pow 2 31 : Int)) (Nat.pow 2 31 - 1)
      (some value, printing)

/-- The wording of a directive that is not known. -/
def directiveText (flags : Text) (width precision : Option (Option Nat)) (letter : Option Char) :
    Text :=
  let numberText (number : Option Nat) : Text :=
    match number with
    | some value => Text.ofNat value
    | none => ['*']
  ['%'] ++ flags ++ ((width.map numberText).getD []) ++
    ((precision.map fun number => '.' :: numberText number).getD []) ++ letter.toList

/-- Give up because of a directive that is not known. -/
def refuse (printing : Printing) (flags : Text) (width precision : Option (Option Nat))
    (letter : Option Char) : Printing :=
  let reason :=
    if letter.isNone then "missing format character".toList
    else directiveText flags width precision letter ++ ": invalid directive".toList
  { printing.complain reason with
    status := 2
    isOver := true
    arguments := [] }

def piece (argumentEscapes : Escapes) (printing : Printing) (piece : Piece) : Printing :=
  if printing.isOver then printing
  else
    match piece with
    | .plain content => printing.write content
    | .finish => { printing with isOver := true, arguments := [] }
    | .directive flags width precision letter =>
        let (widthValue, printing) := printing.takeNumber width
        let (precisionValue, printing) := printing.takeNumber precision
        let widthNumber := widthValue.getD 0
        let layout : Layout :=
          { flags := if widthNumber < 0 then '-' :: flags else flags
            width := widthNumber.natAbs
            precision := precisionValue.bind fun value =>
              if value < 0 then none else some value.toNat }
        let cut (content : Text) : Text :=
          match layout.precision with
          | some most => content.take most
          | none => content
        match letter with
        | some letter =>
            if letter = 's' then
              let (argument, printing) := printing.take
              printing.write (layout.pad (cut (argument.getD [])))
            else if letter = 'b' then
              let (argument, printing) := printing.take
              let (content, isCut) := unescape argumentEscapes 0 (argument.getD [])
              let printing := printing.write (layout.pad (cut content))
              if isCut then { printing with isOver := true, arguments := [] } else printing
            else if letter = 'c' then
              let (argument, printing) := printing.take
              printing.write (layout.pad ((argument.getD []).take 1))
            else if letter = 'd' || letter = 'i' then
              let (value, printing) :=
                printing.takeInteger (-(Nat.pow 2 63 : Int)) (Nat.pow 2 63 - 1)
              printing.write (layout.signed value)
            else if "ouxX".toList.contains letter then
              let (value, printing) :=
                printing.takeInteger (-(Nat.pow 2 64 : Int) + 1) (Nat.pow 2 64 - 1)
              printing.write (layout.unsigned letter value)
            else if "fFeEgG".toList.contains letter then
              let (value, printing) := printing.takeDecimal
              printing.write (layout.decimal letter value)
            else printing.refuse flags width precision (some letter)
        | none => printing.refuse flags width precision none

/-- Print the pieces of a format again and again until no argument is left. -/
def pieces (argumentEscapes : Escapes) (known : List Piece) : (fuel : Nat) → Printing → Printing
  | 0, printing => printing
  | fuel + 1, printing =>
      let count := printing.arguments.length
      let printed := known.foldl (piece argumentEscapes) printing
      if printed.arguments.isEmpty || count ≤ printed.arguments.length then printed
      else pieces argumentEscapes known fuel printed

end Printing

/-- Print arguments under the control of a format. -/
def printf (formatEscapes argumentEscapes : Escapes) (arguments : List Text) : Printed :=
  match if arguments.head? = some ['-', '-'] then arguments.drop 1 else arguments with
  | [] => { status := 2, complaints := ["usage: printf format [arg ...]".toList] }
  | ('-' :: letter :: letters) :: rest =>
      if arguments.head? = some ('-' :: letter :: letters) then
        { status := 2, complaints := ["Illegal option -".toList ++ [letter]] }
      else printed ('-' :: letter :: letters) rest
  | format :: rest => printed format rest
where
  /-- Print arguments under the control of a format. -/
  printed (format : Text) (rest : List Text) : Printed :=
    let known := formatPieces formatEscapes (format.length + 1) [] format
    let ended := Printing.pieces argumentEscapes known (rest.length + 1) { arguments := rest }
    { status := ended.status, output := ended.output, complaints := ended.complaints }

end EmbedScaffold.Shell
