import EmbedScaffold.Field.Basic
import EmbedScaffold.Name
import EmbedScaffold.Text.HiddenRanges
import EmbedScaffold.Text.Lines
import EmbedScaffold.Text.Utf8

/-!
# Literals

The values that documents are filled with, and their texts: `Literal.render` writes a literal of
the registries' language, spread over indented lines where it nests, `Literal.json` a JSON
literal, and `Literal.display` the bare form that a template shows without a filter.
-/

namespace EmbedScaffold

/-- A value that a document can be filled with.  An expression is text that is written as it
stands; a byte string has no literal, and is given by the text that it encodes. -/
inductive Literal where
  | null
  | boolean (value : Bool)
  | integer (value : Int)
  | decimal (value : Binary64)
  | text (content : Text)
  | expression (content : Text)
  | kind (value : FieldKind)
  | sequence (frozen : Bool) (items : List Literal)
  | object (members : List (Text × Literal))
  | bytes (content : Text)

namespace Literal

def list (items : List Literal) : Literal :=
  .sequence false items

/-- The literal of a field's default. -/
def ofScalar : Scalar → Literal
  | .text content => .text content
  | .illFormed codes => .text (Scalar.shownText codes)
  | .boolean value => .boolean value
  | .integer value => .integer value
  | .decimal value => .decimal value

/-- The default of a field that a literal stands for: the value itself, or the text of an
expression, a kind or a byte string. -/
def scalar? : Literal → Option Scalar
  | .boolean value => some (.boolean value)
  | .integer value => some (.integer value)
  | .decimal value => some (.decimal value)
  | .text content => some (.text content)
  | .expression content => some (.text content)
  | .kind value => some (.text value.value)
  | .bytes content => some (.text content)
  | _ => none

/-- The object with the given members; a repeated name keeps its first place and its last
value. -/
def ofMembers (members : List (Text × Literal)) : Literal :=
  .object <| members.foldl (fun kept (name, value) =>
    if kept.any fun (known, _) => known = name then
      kept.map fun (known, earlier) => (known, if known = name then value else earlier)
    else kept ++ [(name, value)]) []

/-- Whether a literal has neither items nor members. -/
def isAtom : Literal → Bool
  | .sequence _ _ => false
  | .object _ => false
  | _ => true

/-- The value of an object's member; a kind of field has its name and its value as members. -/
def member? (literal : Literal) (name : Text) : Option Literal :=
  match literal with
  | .object members => members.lookup name
  | .kind value =>
      if name = "name".toList then some (.text value.constant)
      else if name = "value".toList then some (.text value.value)
      else none
  | _ => none

/-! ## Literals of the registries' language -/

/-- Escape one character of a single-quoted string. -/
def escapeChar (escaped : Char) : Text :=
  if escaped = '\\' then "\\\\".toList
  else if escaped = '\'' then "\\'".toList
  else if escaped = '\n' then "\\n".toList
  else if escaped = '\r' then "\\r".toList
  else if escaped = '\t' then "\\t".toList
  else [escaped]

def quotedString (content : Text) : Text :=
  '\'' :: content.flatMap escapeChar ++ ['\'']

/-- The indentation of a nesting level; there is none at a level below zero. -/
def indentOf (level : Int) : Text :=
  Text.copies level.toNat Text.indentStep

def memberLine (level : Int) (content : Text) : Text :=
  indentOf (level + 1) ++ content ++ ",\n".toList

mutual

/-- The text of a literal whose later lines are indented for `level`; fails with the name of the
type that has no literals. -/
def render (level : Int) : Literal → Except Text Text
  | .null => .ok "null".toList
  | .boolean value => .ok (if value then "true".toList else "false".toList)
  | .integer value => .ok (Text.ofInt value)
  | .decimal value => .ok value.toText
  | .text content => .ok (quotedString content)
  | .expression content => .ok content
  | .kind value => .ok (quotedString value.value)
  | .sequence _ [] => .ok "[]".toList
  | .sequence _ (first :: rest) =>
      if (first :: rest).all isAtom then do
        let items ← renderItems level (first :: rest)
        pure ("[".toList ++ Text.join ", ".toList items ++ "]".toList)
      else do
        let items ← renderItems (level + 1) (first :: rest)
        pure ("[\n".toList ++ items.flatMap (memberLine level) ++ indentOf level ++ "]".toList)
  | .object [] => .ok "\x7b\x7d".toList
  | .object (first :: rest) => do
      let members ← renderMembers (level + 1) (first :: rest)
      pure ("\x7b\n".toList ++ members.flatMap (memberLine level) ++ indentOf level ++
        "\x7d".toList)
  | .bytes _ => .error "bytes".toList

/-- The texts of literals at one level. -/
def renderItems (level : Int) : List Literal → Except Text (List Text)
  | [] => .ok []
  | first :: rest => do
      let item ← render level first
      let items ← renderItems level rest
      pure (item :: items)

/-- The texts of members at one level. -/
def renderMembers (level : Int) : List (Text × Literal) → Except Text (List Text)
  | [] => .ok []
  | (key, value) :: rest => do
      let shown ← render level value
      let members ← renderMembers level rest
      pure ((propertyKey key ++ ": ".toList ++ shown) :: members)

end

/-! ## JSON -/

/-- The lower-case hexadecimal digits of a number, padded to `width` places. -/
def hexDigits (width number : Nat) : Text :=
  let digits := Nat.toDigits 16 number
  List.replicate (width - digits.length) '0' ++ digits

/-- Escape one character of a JSON string. -/
def escapeJsonChar (escaped : Char) : Text :=
  if escaped = '"' then "\\\"".toList
  else if escaped = '\\' then "\\\\".toList
  else if escaped = '\n' then "\\n".toList
  else if escaped = '\r' then "\\r".toList
  else if escaped = '\t' then "\\t".toList
  else if escaped = '\x08' then "\\b".toList
  else if escaped = '\x0c' then "\\f".toList
  else if escaped.toNat < 0x20 then "\\u".toList ++ hexDigits 4 escaped.toNat
  else [escaped]

/-- A JSON string; characters beyond ASCII stand for themselves. -/
def jsonString (content : Text) : Text :=
  '"' :: content.flatMap escapeJsonChar ++ ['"']

mutual

/-- The JSON text of a literal; there is none for a byte string. -/
def json? : Literal → Option Text
  | .null => some "null".toList
  | .boolean value => some (if value then "true".toList else "false".toList)
  | .integer value => some (Text.ofInt value)
  | .decimal value => some (value.textWith ⟨"Infinity".toList, "NaN".toList⟩)
  | .text content => some (jsonString content)
  | .expression content => some (jsonString content)
  | .kind value => some (jsonString value.value)
  | .sequence _ items => do
      let shown ← jsonItems? items
      pure ('[' :: Text.join ", ".toList shown ++ [']'])
  | .object members => do
      let shown ← jsonMembers? members
      pure ('\x7b' :: Text.join ", ".toList shown ++ ['\x7d'])
  | .bytes _ => none

def jsonItems? : List Literal → Option (List Text)
  | [] => some []
  | first :: rest => do
      let item ← json? first
      let items ← jsonItems? rest
      pure (item :: items)

def jsonMembers? : List (Text × Literal) → Option (List Text)
  | [] => some []
  | (key, value) :: rest => do
      let shown ← json? value
      let members ← jsonMembers? rest
      pure ((jsonString key ++ ": ".toList ++ shown) :: members)

end

/-! ## Bare display -/

/-- The quote around a displayed string: the single one, or the double one if the string has a
single quote and no double one. -/
def displayQuote (content : Text) : Char :=
  if content.contains '\'' && ! content.contains '"' then '"' else '\''

/-- The code of a character without a glyph: in two, four or eight hexadecimal digits. -/
def displayCode (code : Nat) : Text :=
  if code < 0x100 then "\\x".toList ++ hexDigits 2 code
  else if code < 0x10000 then "\\u".toList ++ hexDigits 4 code
  else "\\U".toList ++ hexDigits 8 code

/-- Escape one character between displayed quotes. -/
def displayChar (quote escaped : Char) : Text :=
  if escaped = '\\' || escaped = quote then ['\\', escaped]
  else if escaped = '\n' then "\\n".toList
  else if escaped = '\r' then "\\r".toList
  else if escaped = '\t' then "\\t".toList
  else if Text.inRanges Text.hiddenRanges escaped.toNat then displayCode escaped.toNat
  else [escaped]

/-- A string as it is displayed inside a list. -/
def displayString (content : Text) : Text :=
  let quote := displayQuote content
  quote :: content.flatMap (displayChar quote) ++ [quote]

/-- A byte string as it is displayed: bytes beyond ASCII are shown by their codes. -/
def displayBytes (content : Text) : Text :=
  let quote := displayQuote content
  let showByte (byte : UInt8) : Text :=
    if byte.toNat < 0x7F then displayChar quote (Char.ofNat byte.toNat)
    else "\\x".toList ++ hexDigits 2 byte.toNat
  'b' :: quote :: (Text.encode content).flatMap showByte ++ [quote]

mutual

/-- A literal as it is displayed inside a list. -/
def displayNested : Literal → Text
  | .null => "None".toList
  | .boolean value => if value then "True".toList else "False".toList
  | .integer value => Text.ofInt value
  | .decimal value => value.toText
  | .text content => displayString content
  | .expression content => displayString content
  | .kind value =>
      "<FieldType.".toList ++ value.constant ++ ": ".toList ++ displayString value.value ++ ['>']
  | .sequence false items => '[' :: Text.join ", ".toList (displayItems items) ++ [']']
  | .sequence true [item] => '(' :: displayNested item ++ ",)".toList
  | .sequence true items => '(' :: Text.join ", ".toList (displayItems items) ++ [')']
  | .object members => '\x7b' :: Text.join ", ".toList (displayMembers members) ++ ['\x7d']
  | .bytes content => displayBytes content

/-- Literals as they are displayed inside a list. -/
def displayItems : List Literal → List Text
  | [] => []
  | first :: rest => displayNested first :: displayItems rest

/-- Members as they are displayed inside a list. -/
def displayMembers : List (Text × Literal) → List Text
  | [] => []
  | (key, value) :: rest =>
      (displayString key ++ ": ".toList ++ displayNested value) :: displayMembers rest

end

/-- A literal as a template shows it without a filter. -/
def display : Literal → Text
  | .text content => content
  | .expression content => content
  | .kind value => "FieldType.".toList ++ value.constant
  | literal => displayNested literal

end Literal

end EmbedScaffold
