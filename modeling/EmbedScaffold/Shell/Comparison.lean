import EmbedScaffold.Text.Digit

/-!
# Tests

The conditions that a shell can test: on texts, on numbers and on files.
-/

namespace EmbedScaffold.Shell

namespace Comparison

/-- Why a condition has no answer. -/
structure Fault where
  reason : Text

/-- What can be asked of a file. -/
abbrev FileQuestion := Char → Text → Bool

/-- The operators between two operands. -/
def binaryOperators : List Text :=
  ["=", "!=", "<", ">", "-eq", "-ne", "-gt", "-ge", "-lt", "-le", "-nt", "-ot", "-ef"].map
    String.toList

/-- The letters of the operators in front of an operand. -/
def unaryLetters : Text :=
  "rwxefdcbpugkstzhLSnOG".toList

inductive Lexeme where
  | finish
  | operand
  | unary (letter : Char)
  | binary (operator : Text)
  | conjunction
  | disjunction
  | negation
  | opening
  | closing
  deriving DecidableEq, Repr

def operator? (word : Text) : Option Lexeme :=
  if binaryOperators.contains word then some (.binary word)
  else
    match word with
    | ['-', 'a'] => some .conjunction
    | ['-', 'o'] => some .disjunction
    | ['!'] => some .negation
    | ['('] => some .opening
    | [')'] => some .closing
    | ['-', letter] => if unaryLetters.contains letter then some (.unary letter) else none
    | _ => none

/-- Whether the word in front of others is an operand although it looks like an operator. -/
def isOperand (behind : List Text) : Bool :=
  match behind with
  | [] => true
  | [_] => false
  | second :: third :: _ =>
      match operator? second with
      | some (.binary _) => third ≠ [')']
      | _ => false

/-- What the first of some words is. -/
def lexeme : List Text → Lexeme
  | [] => .finish
  | word :: rest =>
      match operator? word with
      | some (.unary letter) => if isOperand rest then .operand else .unary letter
      | some .opening => if rest.isEmpty then .operand else .opening
      | some other => other
      | none => .operand

/-- The number that decimal digits stand for, with a sign and blanks around it. -/
def numberOf (word : Text) : Except Fault Int :=
  let isBlank (tested : Char) : Bool := tested == ' ' || ('\t' ≤ tested && tested ≤ '\r')
  let (isNegative, digits) := match Text.trimBoth isBlank word with
    | '-' :: rest => (true, rest)
    | '+' :: rest => (false, rest)
    | rest => (false, rest)
  if digits.isEmpty || ! digits.all Char.isDigit then .error ⟨"Illegal number: ".toList ++ word⟩
  else
    let value : Int := Text.numberOf 10 digits
    .ok (if isNegative then -value else value)

def compare (operator left right : Text) : Except Fault Bool :=
  match String.ofList operator with
  | "=" => .ok (left = right)
  | "!=" => .ok (left ≠ right)
  | "<" => .ok (List.lex left right (· < ·))
  | ">" => .ok (List.lex right left (· < ·))
  | "-eq" => do pure (decide ((← numberOf left) = (← numberOf right)))
  | "-ne" => do pure (decide ((← numberOf left) ≠ (← numberOf right)))
  | "-gt" => do pure (decide ((← numberOf right) < (← numberOf left)))
  | "-ge" => do pure (decide ((← numberOf right) ≤ (← numberOf left)))
  | "-lt" => do pure (decide ((← numberOf left) < (← numberOf right)))
  | "-le" => do pure (decide ((← numberOf left) ≤ (← numberOf right)))
  | _ => .ok false

/-- An answer, and the last words that were looked at. -/
abbrev Answer := Except Fault (Bool × List Text)

mutual

/-- Answer a condition without joints. -/
def primary (question : FileQuestion) (fuel : Nat) (words : List Text) : Answer :=
  match fuel with
  | 0 => .error ⟨"too many arguments".toList⟩
  | fuel + 1 =>
      match lexeme words with
      | .finish => .ok (false, words)
      | .opening => do
          let inner := words.drop 1
          if lexeme inner = .closing then pure (false, inner)
          else
            let (answer, rest) ← disjunction question fuel inner
            if lexeme (rest.drop 1) = .closing then pure (answer, rest.drop 1)
            else throw ⟨"closing paren expected".toList⟩
      | .unary letter =>
          match words with
          | _ :: operand :: rest =>
              if letter = 'z' then .ok (operand.isEmpty, operand :: rest)
              else if letter = 'n' then .ok (! operand.isEmpty, operand :: rest)
              else if letter = 't' then do
                let _ ← numberOf operand
                pure (false, operand :: rest)
              else .ok (question letter operand, operand :: rest)
          | _ => .error ⟨words.headD [] ++ ": argument expected".toList⟩
      | _ =>
          match words with
          | left :: middle :: rest =>
              match lexeme (middle :: rest) with
              | .binary operator =>
                  match rest with
                  | right :: _ => do
                      let answer ← compare operator left right
                      pure (answer, rest)
                  | [] => .error ⟨operator ++ ": argument expected".toList⟩
              | _ => .ok (! left.isEmpty, words)
          | _ => .ok (! (words.headD []).isEmpty, words)
termination_by structural fuel

/-- Answer a condition that may be negated. -/
def negation (question : FileQuestion) (fuel : Nat) (words : List Text) : Answer :=
  match fuel with
  | 0 => .error ⟨"too many arguments".toList⟩
  | fuel + 1 =>
      if lexeme words = .negation then
        (negation question fuel (words.drop 1)).map fun (answer, rest) => (! answer, rest)
      else primary question fuel words
termination_by structural fuel

/-- Answer conditions that all have to hold. -/
def conjunction (question : FileQuestion) (fuel : Nat) (words : List Text) : Answer :=
  match fuel with
  | 0 => .error ⟨"too many arguments".toList⟩
  | fuel + 1 => do
      let (answer, rest) ← negation question fuel words
      if lexeme (rest.drop 1) = .conjunction then
        let (other, last) ← conjunction question fuel (rest.drop 2)
        pure (answer && other, last)
      else pure (answer, rest)
termination_by structural fuel

/-- Answer conditions one of which has to hold. -/
def disjunction (question : FileQuestion) (fuel : Nat) (words : List Text) : Answer :=
  match fuel with
  | 0 => .error ⟨"too many arguments".toList⟩
  | fuel + 1 => do
      let (answer, rest) ← conjunction question fuel words
      if lexeme (rest.drop 1) = .disjunction then
        let (other, last) ← disjunction question fuel (rest.drop 2)
        pure (answer || other, last)
      else pure (answer, rest)
termination_by structural fuel

end

/-- Answer a condition that fills all words. -/
def whole (question : FileQuestion) (words : List Text) : Except Fault Bool := do
  let fuel := 5 * words.length + 10
  let (answer, rest) ←
    match words with
    | [_, middle, _] =>
        match operator? middle with
        | some (.binary _) => primary question fuel words
        | _ => disjunction question fuel words
    | _ => disjunction question fuel words
  match rest with
  | found :: _ :: _ => throw ⟨found ++ ": unexpected operator".toList⟩
  | _ => pure answer

/-- Answer a condition.  Three or four words may be in brackets or negated as a whole. -/
def answer (question : FileQuestion) (words : List Text) : Except Fault Bool :=
  match words with
  | [] => .ok false
  | [first, middle, _] =>
      match operator? middle with
      | some (.binary _) => whole question words
      | _ => outer first words
  | [first, _, _, _] => outer first words
  | _ => whole question words
where
  /-- Answer a condition that may be in brackets or negated as a whole. -/
  outer (first : Text) (words : List Text) : Except Fault Bool :=
    if first = ['('] && words.getLast? = some [')'] then whole question (words.drop 1).dropLast
    else if first = ['!'] then (whole question (words.drop 1)).map (! ·)
    else whole question words

end Comparison

end EmbedScaffold.Shell
