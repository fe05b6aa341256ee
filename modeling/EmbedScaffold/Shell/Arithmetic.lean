import EmbedScaffold.Text.Digit
import EmbedScaffold.Shell.Syntax

/-!
# Arithmetic of a shell

An expression is read from its text and then evaluated with 64-bit numbers.  Evaluating can set
variables, so it hands on the values that were set.
-/

namespace EmbedScaffold.Shell

/-- The number in 64 bits that a number wraps around to. -/
def wrapped (number : Int) : Int :=
  Int.bmod number (Nat.pow 2 64)

/-- The number in 64 bits that comes closest to a number. -/
def clamped (number : Int) : Int :=
  max (-(Nat.pow 2 63 : Int)) (min number (Nat.pow 2 63 - 1))

/-- The integer that a text begins with, and the text behind it.  Digits behind `0x` are
hexadecimal, and behind another zero octal. -/
def leadingInteger? (content : Text) : Option (Int × Text) :=
  let digitsOf (base : Nat) (isDigit : Char → Bool) (digits : Text) : Int × Text :=
    let run := digits.takeWhile isDigit
    (Text.numberOf base run, digits.drop run.length)
  match content with
  | '0' :: mark :: first :: rest =>
      if (mark == 'x' || mark == 'X') && Text.isHexDigit first then
        some (digitsOf 16 Text.isHexDigit (first :: rest))
      else some (digitsOf 8 (fun digit => '0' ≤ digit && digit ≤ '7') content)
  | '0' :: _ => some (digitsOf 8 (fun digit => '0' ≤ digit && digit ≤ '7') content)
  | first :: _ => if first.isDigit then some (digitsOf 10 Char.isDigit content) else none
  | [] => none

/-- The integer that a text begins with behind blanks and a sign, and the text behind it. -/
def signedInteger? (content : Text) : Option (Int × Text) :=
  match content.dropWhile (fun tested => tested == ' ' || ('\t' ≤ tested && tested ≤ '\r')) with
  | '-' :: rest => (leadingInteger? rest).map fun (value, behind) => (-value, behind)
  | '+' :: rest => leadingInteger? rest
  | rest => leadingInteger? rest

namespace Arithmetic

/-- Why an expression has no value. -/
inductive Fault where
  | expecting (wanted : String)
  | divisionByZero
  | notNumber (content : Text)
  deriving DecidableEq, Repr

/-- The wording of the fault in an expression. -/
def Fault.message (expression : Text) : Fault → Text
  | .expecting wanted =>
      "arithmetic expression: expecting ".toList ++ wanted.toList ++ ": \"".toList ++ expression ++
        ['"']
  | .divisionByZero =>
      "arithmetic expression: division by zero: \"".toList ++ expression ++ ['"']
  | .notNumber content => "Illegal number: ".toList ++ content

/-- An operator between two values. -/
inductive Operator where
  | times
  | quotient
  | remainder
  | plus
  | minus
  | shiftLeft
  | shiftRight
  | less
  | lessOrEqual
  | greater
  | greaterOrEqual
  | equal
  | unequal
  | bitAnd
  | bitXor
  | bitOr
  deriving DecidableEq, Repr

/-- An operator in front of a value. -/
inductive Sign where
  | keep
  | negate
  | invert
  | complement
  deriving DecidableEq, Repr

inductive Expression where
  | number (value : Int)
  | variable (name : Text)
  | signed (sign : Sign) (inner : Expression)
  | binary (operator : Operator) (left right : Expression)
  | both (left right : Expression)
  | either (left right : Expression)
  | conditional (test consequence alternative : Expression)
  | assign (name : Text) (operator : Option Operator) (value : Expression)
  deriving Repr

/-! ## Lexemes -/

inductive Lexeme where
  | number (value : Int)
  | name (content : Text)
  | mark (content : Text)
  deriving DecidableEq, Repr

/-- The marks of expressions, longer ones first. -/
def marks : List Text :=
  ["<<=", ">>=", "<<", ">>", "<=", ">=", "==", "!=", "&&", "||", "+=", "-=", "*=", "/=", "%=", "&=",
    "^=", "|=", "+", "-", "*", "/", "%", "<", ">", "=", "!", "~", "&", "^", "|", "?", ":", "(",
    ")"].map String.toList

/-- The lexemes of an expression; a character that begins none is a mark of its own. -/
def lexemes : (fuel : Nat) → Text → List Lexeme
  | 0, _ => []
  | _, [] => []
  | fuel + 1, first :: rest =>
      if first = ' ' || first = '\t' || first = '\n' then lexemes fuel rest
      else if isNameStart first then
        let name := (first :: rest).takeWhile isNamePart
        .name name :: lexemes fuel ((first :: rest).drop name.length)
      else
        match leadingInteger? (first :: rest) with
        | some (value, behind) => .number (clamped value) :: lexemes fuel behind
        | none =>
            let mark := (marks.find? (·.isPrefixOf (first :: rest))).getD [first]
            .mark mark :: lexemes fuel ((first :: rest).drop mark.length)

/-! ## Reading -/

/-- The operators with how tightly they bind. -/
def operators : List (Text × Operator × Nat) :=
  [("*", .times, 8), ("/", .quotient, 8), ("%", .remainder, 8), ("+", .plus, 7), ("-", .minus, 7),
    ("<<", .shiftLeft, 6), (">>", .shiftRight, 6), ("<", .less, 5), ("<=", .lessOrEqual, 5),
    (">", .greater, 5), (">=", .greaterOrEqual, 5), ("==", .equal, 4), ("!=", .unequal, 4),
    ("&", .bitAnd, 3), ("^", .bitXor, 2), ("|", .bitOr, 1)].map
    fun (mark, operator, strength) => (String.toList mark, operator, strength)

/-- The operators that take part in an assignment. -/
def assigningOperator? (mark : Text) : Option (Option Operator) :=
  if mark = ['='] then some none
  else if mark.getLast? = some '=' then
    match operators.lookup mark.dropLast with
    | some (operator, strength) =>
        if 4 ≤ strength && strength ≤ 5 then none else some (some operator)
    | none => none
  else none

/-- The operators in front of a value. -/
def signs : List (Text × Sign) :=
  [(['+'], .keep), (['-'], .negate), (['!'], .invert), (['~'], .complement)]

/-- An expression and the lexemes behind it. -/
abbrev Parsed := Except Fault (Expression × List Lexeme)

mutual

/-- Read a number, a variable, a signed value or an expression in brackets. -/
def primary (fuel : Nat) (lexemes : List Lexeme) : Parsed :=
  match fuel with
  | 0 => .error (.expecting "primary")
  | fuel + 1 =>
      match lexemes with
      | .number value :: rest => .ok (.number value, rest)
      | .name content :: rest => .ok (.variable content, rest)
      | .mark mark :: rest =>
          if mark = ['('] then do
            let (inner, behind) ← assignment fuel rest
            match behind with
            | .mark [')'] :: last => pure (inner, last)
            | _ => throw (.expecting "')'")
          else
            match signs.lookup mark with
            | some sign => do
                let (inner, behind) ← primary fuel rest
                pure (.signed sign inner, behind)
            | none => .error (.expecting "primary")
      | [] => .error (.expecting "primary")
termination_by structural fuel

/-- Go on behind a value with the operators that bind at least as tightly as a strength. -/
def operations (fuel strength : Nat) (left : Expression) (lexemes : List Lexeme) : Parsed :=
  match fuel with
  | 0 => .ok (left, lexemes)
  | fuel + 1 =>
      match lexemes with
      | .mark mark :: rest =>
          match operators.lookup mark with
          | some (operator, found) =>
              if strength ≤ found then do
                let (first, behind) ← primary fuel rest
                let (right, last) ← operations fuel (found + 1) first behind
                operations fuel strength (.binary operator left right) last
              else .ok (left, lexemes)
          | none => .ok (left, lexemes)
      | _ => .ok (left, lexemes)
termination_by structural fuel

/-- Read values that all have to hold. -/
def conjunction (fuel : Nat) (lexemes : List Lexeme) : Parsed :=
  match fuel with
  | 0 => .error (.expecting "primary")
  | fuel + 1 => do
      let (first, behind) ← primary fuel lexemes
      let (left, rest) ← operations fuel 0 first behind
      match rest with
      | .mark ['&', '&'] :: last => do
          let (right, remaining) ← conjunction fuel last
          pure (.both left right, remaining)
      | _ => pure (left, rest)
termination_by structural fuel

/-- Read values one of which has to hold. -/
def disjunction (fuel : Nat) (lexemes : List Lexeme) : Parsed :=
  match fuel with
  | 0 => .error (.expecting "primary")
  | fuel + 1 => do
      let (left, rest) ← conjunction fuel lexemes
      match rest with
      | .mark ['|', '|'] :: last => do
          let (right, remaining) ← disjunction fuel last
          pure (.either left right, remaining)
      | _ => pure (left, rest)
termination_by structural fuel

def conditional (fuel : Nat) (lexemes : List Lexeme) : Parsed :=
  match fuel with
  | 0 => .error (.expecting "primary")
  | fuel + 1 => do
      let (test, rest) ← disjunction fuel lexemes
      match rest with
      | .mark ['?'] :: behind => do
          let (consequence, remaining) ← assignment fuel behind
          match remaining with
          | .mark [':'] :: last => do
              let (alternative, final) ← conditional fuel last
              pure (.conditional test consequence alternative, final)
          | _ => throw (.expecting "':'")
      | _ => pure (test, rest)
termination_by structural fuel

def assignment (fuel : Nat) (lexemes : List Lexeme) : Parsed :=
  match fuel with
  | 0 => .error (.expecting "primary")
  | fuel + 1 =>
      match lexemes with
      | .name name :: .mark mark :: rest =>
          match assigningOperator? mark with
          | some operator => do
              let (value, behind) ← assignment fuel rest
              pure (.assign name operator value, behind)
          | none => conditional fuel lexemes
      | _ => conditional fuel lexemes
termination_by structural fuel

end

def Expression.ofText? (content : Text) : Except Fault Expression := do
  let read := lexemes (content.length + 1) content
  let (expression, rest) ← assignment (12 * read.length + 12) read
  if rest.isEmpty then pure expression else throw (.expecting "EOF")

/-! ## Evaluating -/

def ofBool (holds : Bool) : Int :=
  if holds then 1 else 0

def bitsOf (number : Int) : Nat :=
  (number % Nat.pow 2 64).toNat

def Operator.apply (operator : Operator) (left right : Int) : Except Fault Int :=
  match operator with
  | .times => .ok (wrapped (left * right))
  | .quotient => if right = 0 then .error .divisionByZero else .ok (wrapped (left.tdiv right))
  | .remainder => if right = 0 then .error .divisionByZero else .ok (left.tmod right)
  | .plus => .ok (wrapped (left + right))
  | .minus => .ok (wrapped (left - right))
  | .shiftLeft => .ok (wrapped (left * Nat.pow 2 (right % 64).toNat))
  | .shiftRight => .ok (Int.fdiv left (Nat.pow 2 (right % 64).toNat))
  | .less => .ok (ofBool (left < right))
  | .lessOrEqual => .ok (ofBool (left ≤ right))
  | .greater => .ok (ofBool (right < left))
  | .greaterOrEqual => .ok (ofBool (right ≤ left))
  | .equal => .ok (ofBool (left = right))
  | .unequal => .ok (ofBool (left ≠ right))
  | .bitAnd => .ok (wrapped (bitsOf left &&& bitsOf right : Nat))
  | .bitXor => .ok (wrapped (bitsOf left ^^^ bitsOf right : Nat))
  | .bitOr => .ok (wrapped (bitsOf left ||| bitsOf right : Nat))

def Sign.apply (sign : Sign) (value : Int) : Int :=
  match sign with
  | .keep => value
  | .negate => wrapped (-value)
  | .invert => ofBool (value = 0)
  | .complement => -value - 1

/-- The values that were set while evaluating, the last one first. -/
abbrev Settings := List (Text × Int)

/-- The number that a text stands for; an empty one stands for zero. -/
def numberOf (content : Text) : Except Fault Int :=
  if content.isEmpty then .ok 0
  else
    match signedInteger? content with
    | some (value, rest) =>
        if rest.all fun tested => tested == ' ' || ('\t' ≤ tested && tested ≤ '\r') then
          .ok (clamped value)
        else .error (.notNumber content)
    | none => .error (.notNumber content)

def lookUp (known : Text → Text) (name : Text) : StateT Settings (Except Fault) Int := do
  match (← get).lookup name with
  | some value => pure value
  | none => numberOf (known name)

/-- The value of an expression.  Parts that do not matter are not evaluated. -/
def Expression.value (known : Text → Text) : Expression → StateT Settings (Except Fault) Int
  | .number value => pure value
  | .variable name => lookUp known name
  | .signed sign inner => do
      let value ← inner.value known
      pure (sign.apply value)
  | .binary operator left right => do
      let first ← left.value known
      let second ← right.value known
      operator.apply first second
  | .both left right => do
      let first ← left.value known
      if first = 0 then pure 0
      else do
        let second ← right.value known
        pure (ofBool (second ≠ 0))
  | .either left right => do
      let first ← left.value known
      if first ≠ 0 then pure 1
      else do
        let second ← right.value known
        pure (ofBool (second ≠ 0))
  | .conditional test consequence alternative => do
      let decision ← test.value known
      if decision ≠ 0 then consequence.value known else alternative.value known
  | .assign name operator inner => do
      let added ← inner.value known
      let value ← match operator with
        | some combining => do
            let old ← lookUp known name
            combining.apply old added
        | none => pure added
      modify fun settings => (name, value) :: settings
      pure value

/-- Evaluate the text of an expression: its value, and the variables that it sets. -/
def evaluate (known : Text → Text) (content : Text) : Except Text (Int × Settings) :=
  let result := do
    let expression ← Expression.ofText? content
    (expression.value known).run []
  result.mapError (Fault.message content)

end Arithmetic

end EmbedScaffold.Shell
