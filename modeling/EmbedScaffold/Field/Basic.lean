import EmbedScaffold.Number.Shortest

/-!
# Fields of a component

A field is a variable that a component lets its user set.  Its default is a literal: text, a
truth value, an integer or a floating-point number.
-/

namespace EmbedScaffold

inductive FieldKind where
  | text
  | array
  | color
  | select
  deriving DecidableEq, Repr

namespace FieldKind

/-- All kinds, in the order in which they are declared. -/
def all : List FieldKind :=
  [.text, .array, .color, .select]

/-- The constant that names the kind in a registry. -/
def constant : FieldKind → Text
  | .text => "TEXT".toList
  | .array => "ARRAY".toList
  | .color => "COLOR".toList
  | .select => "SELECT".toList

def value : FieldKind → Text
  | .text => "text".toList
  | .array => "array".toList
  | .color => "color".toList
  | .select => "select".toList

end FieldKind

/-- A literal default.  Escapes in a script can name halves of surrogate pairs; the code points of
such a string are kept apart from texts, since no file can hold them. -/
inductive Scalar where
  | text (content : Text)
  | illFormed (codes : List Nat)
  | boolean (value : Bool)
  | integer (value : Int)
  | decimal (value : Binary64)
  deriving DecidableEq, Repr

namespace Scalar

/-- Whether a code point is the first half of a surrogate pair. -/
def isHighHalf (code : Nat) : Bool :=
  0xD800 ≤ code && code < 0xDC00

/-- Whether a code point is the second half of a surrogate pair. -/
def isLowHalf (code : Nat) : Bool :=
  0xDC00 ≤ code && code < 0xE000

/-- The text that code points show: adjacent halves show the character they stand for, and a half
on its own the replacement character. -/
def shownText : List Nat → Text
  | [] => []
  | [code] => [if isHighHalf code || isLowHalf code then '\uFFFD' else Char.ofNat code]
  | high :: low :: rest =>
      if isHighHalf high && isLowHalf low then
        Char.ofNat (0x10000 + (high - 0xD800) * 0x400 + (low - 0xDC00)) :: shownText rest
      else
        (if isHighHalf high || isLowHalf high then '\uFFFD' else Char.ofNat high) ::
          shownText (low :: rest)

/-- The default of a string with the given code points. -/
def ofCodes (codes : List Nat) : Scalar :=
  if codes.any fun code => isHighHalf code || isLowHalf code then .illFormed codes
  else .text (codes.map Char.ofNat)

/-- Whether the value can be written with the digits that an integer may have. -/
def isWritable : Scalar → Bool
  | .integer value => value.natAbs < Nat.pow 10 4300
  | _ => true

/-- Whether a file can hold the value. -/
def isEncodable : Scalar → Bool
  | .illFormed _ => false
  | _ => true

end Scalar

/-- A field with its default, if a literal one is known. -/
structure Field where
  name : Text
  default : Option Scalar
  deriving DecidableEq, Repr

namespace Field

/-- Whether the field's default can be written. -/
def isWritable (field : Field) : Bool :=
  (field.default.map Scalar.isWritable).getD true

/-- The wording for a default with too many digits. -/
def unwritableMessage : Text :=
  ("Exceeds the limit (4300 digits) for integer string conversion; " ++
    "use sys.set_int_max_str_digits() to increase the limit").toList

/-- Whether a file can hold the field's default. -/
def isEncodable (field : Field) : Bool :=
  (field.default.map Scalar.isEncodable).getD true

/-- The fields without those whose name was seen before. -/
def keepFirst (seen : List Text) : List Field → List Field
  | [] => []
  | field :: rest =>
      if seen.contains field.name then keepFirst seen rest
      else field :: keepFirst (field.name :: seen) rest

/-- The fields that every component declares, in order. -/
def shared : List Field := [
  ⟨"brand_colors_primary".toList, some (.text "#4f46e5".toList)⟩,
  ⟨"brand_colors_text_on_primary".toList, some (.text "white".toList)⟩,
  ⟨"component_width".toList, some (.text "auto".toList)⟩]

/-- Declared fields followed by the added ones that are missing; a repeated name keeps its first
place and default. -/
def merge (declared : List Field) (added : List Field := shared) : List Field :=
  keepFirst [] (declared ++ added)

end Field

end EmbedScaffold
