import EmbedScaffold.Json.Reader
import EmbedScaffold.Literal.Basic

/-!
# Writing JSON values

A value is written on one line, with a blank behind every comma and colon, in the characters of
ASCII.
-/

namespace EmbedScaffold

namespace JsonValue

def unitEscape (unit : Nat) : Text :=
  "\\u".toList ++ Literal.hexDigits 4 unit

/-- Escape one character of a string; one beyond 16 bits takes two units. -/
def asciiChar (escaped : Char) : Text :=
  let code := escaped.toNat
  if code < 0x7F then Literal.escapeJsonChar escaped
  else if code < 0x10000 then unitEscape code
  else
    unitEscape (0xD800 + (code - 0x10000) / 0x400) ++
      unitEscape (0xDC00 + (code - 0x10000) % 0x400)

def asciiString (content : Text) : Text :=
  '"' :: content.flatMap asciiChar ++ ['"']

mutual

def line : JsonValue → Text
  | .null => "null".toList
  | .boolean value => if value then "true".toList else "false".toList
  | .integer value => Text.ofInt value
  | .decimal value => value.textWith ⟨"Infinity".toList, "NaN".toList⟩
  | .text content => asciiString content
  | .array items => '[' :: Text.join ", ".toList (itemLines items) ++ [']']
  | .object members => '\x7b' :: Text.join ", ".toList (memberLines members) ++ ['\x7d']

/-- The texts of the items of an array. -/
def itemLines : List JsonValue → List Text
  | [] => []
  | item :: rest => item.line :: itemLines rest

/-- The texts of the members of an object, with their names. -/
def memberLines : List (Text × JsonValue) → List Text
  | [] => []
  | (name, value) :: rest => (asciiString name ++ ": ".toList ++ value.line) :: memberLines rest

end

end JsonValue

end EmbedScaffold
