import EmbedScaffold.Field.Basic
import EmbedScaffold.Script.Name

/-!
# Values of literals

What the strings and the numbers of a script stand for.  A string is read as a list of code points,
since escapes can name halves of surrogate pairs.
-/

namespace EmbedScaffold

namespace Script

/-- Why the fields of a script cannot be read. -/
inductive Fault where
  /-- The script is not well formed; `line` counts from one, where a line is to blame. -/
  | malformed (line : Option Nat)
  /-- An escape names a code beyond all bounds. -/
  | escapeTooLarge
  deriving DecidableEq, Repr

def Fault.message : Fault → String
  | .malformed none => "Invalid component script"
  | .malformed (some line) => s!"Invalid component script (line {line})"
  | .escapeTooLarge => "Escape too large"

/-! ## Escapes -/

/-- The codes of the characters of a text. -/
def codes (content : Text) : List Nat :=
  content.map Char.toNat

/-- The code that an escape with hexadecimal digits names.  A value that is no code point leaves
the escape as it is, without its backslash; beyond 31 bits it is a fault. -/
def decodeCode (digits body : Text) : Except Fault (List Nat) :=
  let value := Text.numberOf 16 digits
  if value < 0x110000 then .ok [value]
  else if value < Nat.pow 2 31 then .ok (codes body)
  else .error .escapeTooLarge

/-- The codes that an escape stands for, given its text behind the backslash. -/
def decodeEscape (body : Text) : Except Fault (List Nat) :=
  match body with
  | ['\n'] => .ok []
  | ['\r', '\n'] => .ok []
  | ['\r'] => .ok []
  | ['n'] => .ok [0x0A]
  | ['t'] => .ok [0x09]
  | ['r'] => .ok [0x0D]
  | ['b'] => .ok [0x08]
  | ['f'] => .ok [0x0C]
  | ['v'] => .ok [0x0B]
  | ['0'] => .ok [0]
  | 'u' :: '\x7b' :: rest => decodeCode rest.dropLast body
  | 'x' :: rest => decodeCode rest body
  | 'u' :: rest => decodeCode rest body
  | _ => .ok (codes body)

def isOctalDigit (tested : Char) : Bool :=
  '0' ≤ tested && tested ≤ '7'

/-- A character that an escape may join to a carriage return. -/
def isJoined (tested : Char) : Bool :=
  tested = '\n' || tested = '\u2028' || tested = '\u2029'

/-- The length of the escape that a text begins with. -/
def escapeLength? : Text → Option Nat
  | '\\' :: 'u' :: rest => codePointLength? ('\\' :: 'u' :: rest)
  | '\\' :: 'x' :: high :: low :: _ =>
      if Text.isHexDigit high && Text.isHexDigit low then some 4 else none
  | '\\' :: first :: rest =>
      if first = 'x' || first = '\x00' then none
      else if isOctalDigit first then
        some (1 + min 3 ((first :: rest).takeWhile isOctalDigit).length)
      else if (first = '\r' || first = '?') && (rest.head?.map isJoined).getD false then some 3
      else some 2
  | _ => none

/-! ## Strings -/

/-- The codes of the characters inside the quotes of a string, and what follows the string.  There
are none if an escape names nothing, or if a null character or the end of the line comes before
the closing quote; `inside` characters still belong to an escape that was decoded. -/
def readString? (quote : Char) (inside : Nat) : Text → Option (List Nat × Text)
  | [] => none
  | first :: rest =>
      match inside with
      | remaining + 1 => readString? quote remaining rest
      | 0 =>
          if first = quote then some ([], rest)
          else if first = '\n' || first = '\r' || first = '\x00' then none
          else
            match escapeLength? (first :: rest) with
            | some (length + 1) => do
                let decoded ← (decodeEscape (rest.take length)).toOption
                let (others, behind) ← readString? quote length rest
                pure (decoded ++ others, behind)
            | _ =>
                if first = '\\' then none
                else do
                  let (others, behind) ← readString? quote 0 rest
                  pure (first.toNat :: others, behind)

/-! ## Numbers -/

/-- The value of decimal digits with perhaps a point or an exponent.  Digits that begin with a
zero, or that are more than 4300, are no integer. -/
def decimalValue (digits : Text) : Option Scalar :=
  let isInteger :=
    digits.all Char.isDigit && digits.length ≤ 4300 &&
      (digits.head? ≠ some '0' || digits.all (· = '0'))
  if isInteger then some (.integer (Binary64.digitsValue digits))
  else (Binary64.ofText? digits).map .decimal

def numberValue (content : Text) : Option Scalar :=
  let cleaned := Text.trimEnd (· = 'n') (content.filter (· ≠ '_'))
  match cleaned with
  | '0' :: mark :: digits =>
      if mark = 'x' || mark = 'X' then some (.integer (Text.numberOf 16 digits))
      else if mark = 'o' || mark = 'O' then some (.integer (Text.numberOf 8 digits))
      else if mark = 'b' || mark = 'B' then some (.integer (Text.numberOf 2 digits))
      else decimalValue cleaned
  | _ => decimalValue cleaned

end Script

end EmbedScaffold
