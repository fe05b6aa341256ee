import EmbedScaffold.Number.Binary64
import EmbedScaffold.Text.Digit

/-!
# JSON values

Settings files and remote answers are JSON.  Besides the standard's numbers the reader knows `NaN`
and the infinities.  An object keeps all its members; of those with one name the last counts.
-/

namespace EmbedScaffold

inductive JsonValue where
  | null
  | boolean (value : Bool)
  | integer (value : Int)
  | decimal (value : Binary64)
  | text (content : Text)
  | array (items : List JsonValue)
  | object (members : List (Text × JsonValue))

/-- Why a text is not read as a JSON value. -/
inductive JsonFault where
  | malformed
  /-- An integer has more digits than can be read. -/
  | longInteger (digits : Nat)
  /-- Arrays and objects are nested too deeply. -/
  | tooDeep
  deriving DecidableEq, Repr

/-- What a reader of JSON accepts: how deeply values may be nested, and whether an escape may name
half of a surrogate pair. -/
structure JsonRules where
  depth : Nat
  halfPairs : Bool

namespace JsonValue

/-- The most digits that an integer can be read from. -/
def longestInteger : Nat := 4300

def memberOf? (members : List (Text × JsonValue)) (name : Text) : Option JsonValue :=
  members.reverse.lookup name

/-! ## Reading -/

def isSpace (tested : Char) : Bool :=
  tested = ' ' || tested = '\t' || tested = '\n' || tested = '\r'

def skip (content : Text) : Text :=
  content.dropWhile isSpace

def behind? : (mark content : Text) → Option Text
  | [], rest => some rest
  | _ :: _, [] => none
  | first :: mark, next :: rest => if first = next then behind? mark rest else none

/-- The value of four hexadecimal digits at the front of a text. -/
def fourDigits? (content : Text) : Option Nat :=
  let digits := content.take 4
  if digits.length = 4 && digits.all Text.isHexDigit then
    some <| digits.foldl (fun value digit => value * 16 +
      (if digit.isDigit then digit.toNat - '0'.toNat
      else digit.toLower.toNat - 'a'.toNat + 10)) 0
  else none

/-- The character that a short escape names. -/
def escaped? (mark : Char) : Option Char :=
  if mark = '"' || mark = '\\' || mark = '/' then some mark
  else if mark = 'b' then some '\x08'
  else if mark = 'f' then some '\x0c'
  else if mark = 'n' then some '\n'
  else if mark = 'r' then some '\r'
  else if mark = 't' then some '\t'
  else none

/-- What stands for half of a surrogate pair. -/
def replacement : Char :=
  '\uFFFD'

/-- The character that the digits of a long escape begin, and the length of the escape behind its
mark: one code, or two that make up a surrogate pair.  Half of a pair is read only where the rules
allow it. -/
def longEscape? (rules : JsonRules) (content : Text) : Option (Char × Nat) := do
  let code ← fourDigits? content
  let half := if rules.halfPairs then some (replacement, 4) else none
  if 0xD800 ≤ code && code < 0xDC00 then
    match (behind? "\\u".toList (content.drop 4)).bind fourDigits? with
    | some low =>
        if 0xDC00 ≤ low && low < 0xE000 then
          some (Char.ofNat (0x10000 + (code - 0xD800) * 0x400 + (low - 0xDC00)), 10)
        else half
    | none => half
  else if 0xDC00 ≤ code && code < 0xE000 then half
  else some (Char.ofNat code, 4)

/-- A string behind its opening quote, with the text behind its closing one; `inside` characters
still belong to an escape. -/
def stringRest? (rules : JsonRules) (inside : Nat) : Text → Option (Text × Text)
  | [] => none
  | first :: rest =>
      match inside with
      | remaining + 1 => stringRest? rules remaining rest
      | 0 =>
          if first = '"' then some ([], rest)
          else if first.toNat < 0x20 then none
          else if first = '\\' then do
            let mark ← rest.head?
            if mark = 'u' then
              let (read, length) ← longEscape? rules (rest.drop 1)
              let (content, behind) ← stringRest? rules (length + 1) rest
              some (read :: content, behind)
            else
              let read ← escaped? mark
              let (content, behind) ← stringRest? rules 1 rest
              some (read :: content, behind)
          else do
            let (content, behind) ← stringRest? rules 0 rest
            some (first :: content, behind)

def splitDigits (content : Text) : Text × Text :=
  (content.takeWhile Char.isDigit, content.dropWhile Char.isDigit)

/-- The exponent that a text begins with, and the text behind it. -/
def exponentPart? (content : Text) : Option (Text × Text) :=
  match content with
  | mark :: rest =>
      if mark = 'e' || mark = 'E' then
        let sign := if rest.head? = some '+' || rest.head? = some '-' then rest.take 1 else []
        let (digits, behind) := splitDigits (rest.drop sign.length)
        if digits.isEmpty then none else some (mark :: sign ++ digits, behind)
      else some ([], content)
  | [] => some ([], [])

/-- The fraction that a text begins with, and the text behind it. -/
def fractionPart? (content : Text) : Option (Text × Text) :=
  match content with
  | '.' :: rest =>
      let (digits, behind) := splitDigits rest
      if digits.isEmpty then none else some ('.' :: digits, behind)
  | _ => some ([], content)

/-- The value of a part, or the fault of a malformed text. -/
def orMalformed {α : Type} : Option α → Except JsonFault α
  | some value => .ok value
  | none => .error .malformed

/-- A number without a sign, and the text behind it. -/
def number (negative : Bool) (content : Text) : Except JsonFault (JsonValue × Text) := do
  let (whole, behindWhole) := splitDigits content
  let leads := whole.length ≤ 1 || whole.head? ≠ some '0'
  if whole.isEmpty || ! leads then throw .malformed
  else
    let (fraction, behindFraction) ← orMalformed (fractionPart? behindWhole)
    let (exponent, behind) ← orMalformed (exponentPart? behindFraction)
    if fraction.isEmpty && exponent.isEmpty then
      if longestInteger < whole.length then throw (.longInteger whole.length)
      else
        let value : Int := Binary64.digitsValue whole
        pure (.integer (if negative then -value else value), behind)
    else
      let value ← orMalformed <|
        Binary64.ofUnsignedText? negative (whole ++ fraction ++ exponent)
      pure (.decimal value, behind)

/-- A value that a word stands for, and the text behind the word. -/
def word? (content : Text) : Option (JsonValue × Text) :=
  let words : List (String × JsonValue) := [
    ("null", .null), ("true", .boolean true), ("false", .boolean false),
    ("NaN", .decimal Binary64.notANumber), ("Infinity", .decimal (Binary64.infinity false)),
    ("-Infinity", .decimal (Binary64.infinity true))]
  words.findSome? fun (word, value) => (behind? word.toList content).map (value, ·)

mutual

/-- A value and the text behind it.  `fuel` bounds the number of values inside, and `room` the
number of levels on which they nest. -/
def value (rules : JsonRules) (room : Nat) : (fuel : Nat) → Text →
    Except JsonFault (JsonValue × Text)
  | 0, _ => .error .malformed
  | fuel + 1, content =>
      match skip content with
      | '"' :: rest =>
          (orMalformed (stringRest? rules 0 rest)).map fun (read, behind) => (.text read, behind)
      | '[' :: rest =>
          match skip rest, room with
          | ']' :: behind, _ => .ok (.array [], behind)
          | _, 0 => .error .tooDeep
          | others, inner + 1 =>
              (items rules inner fuel others).map fun (items, behind) => (.array items, behind)
      | '\x7b' :: rest =>
          match skip rest, room with
          | '\x7d' :: behind, _ => .ok (.object [], behind)
          | _, 0 => .error .tooDeep
          | others, inner + 1 =>
              (members rules inner fuel others).map fun (members, behind) =>
                (.object members, behind)
      | others =>
          match word? others with
          | some found => .ok found
          | none =>
              match others with
              | '-' :: rest => number true rest
              | rest => number false rest

/-- The items of an array up to its closing bracket, and the text behind it. -/
def items (rules : JsonRules) (room : Nat) : (fuel : Nat) → Text →
    Except JsonFault (List JsonValue × Text)
  | 0, _ => .error .malformed
  | fuel + 1, content => do
      let (item, behind) ← value rules room fuel content
      match skip behind with
      | ']' :: rest => pure ([item], rest)
      | ',' :: rest =>
          let (others, behindItems) ← items rules room fuel rest
          pure (item :: others, behindItems)
      | _ => throw .malformed

/-- The members of an object up to its closing brace, and the text behind it. -/
def members (rules : JsonRules) (room : Nat) : (fuel : Nat) → Text →
    Except JsonFault (List (Text × JsonValue) × Text)
  | 0, _ => .error .malformed
  | fuel + 1, content => do
      let behindQuote ← orMalformed (behind? ['"'] (skip content))
      let (name, behindName) ← orMalformed (stringRest? rules 0 behindQuote)
      let behindColon ← orMalformed (behind? [':'] (skip behindName))
      let (member, behind) ← value rules room fuel behindColon
      match skip behind with
      | '\x7d' :: rest => pure ([(name, member)], rest)
      | ',' :: rest =>
          let (others, behindMembers) ← members rules room fuel rest
          pure ((name, member) :: others, behindMembers)
      | _ => throw .malformed

end

def ofText (rules : JsonRules) (content : Text) : Except JsonFault JsonValue := do
  let (read, behind) ← value rules rules.depth (content.length + 1) content
  if (skip behind).isEmpty then pure read else throw .malformed

end JsonValue

end EmbedScaffold
