import EmbedScaffold.Text.Case

/-!
# Names

A component is declared under a name in Pascal case and addressed by its lookup key, which
separates the words of the name by hyphens.  Property keys are written bare where the language
of the registries allows it and quoted otherwise.
-/

namespace EmbedScaffold

/-- A pattern's end: the end of the text, or a last line feed. -/
def atEnd (rest : Text) : Bool :=
  rest = [] || rest = ['\n']

/-- A letter or a digit of the ASCII alphabet. -/
def isAsciiAlphanumeric (tested : Char) : Bool :=
  tested.isAlphanum

/-- Whether a text names a component: a capital followed by ASCII letters and digits.  A final
line feed is tolerated. -/
def isDeclarationName : Text → Bool
  | [] => false
  | first :: rest => first.isUpper && atEnd (rest.dropWhile isAsciiAlphanumeric)

/-- A character that identifiers may begin with. -/
def isIdentifierStart (tested : Char) : Bool :=
  tested.isAlpha || tested == '_' || tested == '$'

/-- A character that identifiers may go on with. -/
def isIdentifierPart (tested : Char) : Bool :=
  isIdentifierStart tested || tested.isDigit

/-- Whether a text is an ASCII identifier.  A final line feed is tolerated. -/
def isIdentifier : Text → Bool
  | [] => false
  | first :: rest => isIdentifierStart first && atEnd (rest.dropWhile isIdentifierPart)

/-! ## Lookup keys -/

/-- Put a hyphen between a small ASCII letter and the capital behind it; the capital does not
count as the left neighbour of another hyphen. -/
def hyphenateWords : Text → Text
  | first :: second :: rest =>
      if first.isLower && second.isUpper then first :: '-' :: second :: hyphenateWords rest
      else first :: hyphenateWords (second :: rest)
  | rest => rest

/-- Put one hyphen for every run of blanks. -/
def hyphenateBlanks (afterBlank : Bool) : Text → Text
  | [] => []
  | first :: rest =>
      if Text.isBlank first then
        if afterBlank then hyphenateBlanks true rest else '-' :: hyphenateBlanks true rest
      else first :: hyphenateBlanks false rest

/-- The key under which the registries list a component. -/
def lookupKey (name : Text) : Text :=
  Text.lower (hyphenateBlanks false (hyphenateWords name))

/-! ## Property keys -/

/-- Put a backslash before backslashes and single quotes. -/
def escapeQuoted (content : Text) : Text :=
  content.flatMap fun escaped =>
    if escaped = '\\' || escaped = '\'' then ['\\', escaped] else [escaped]

/-- A text between single quotes, with backslashes and quotes escaped. -/
def singleQuoted (content : Text) : Text :=
  '\'' :: escapeQuoted content ++ ['\'']

/-- A key as an object literal shows it: bare if it is an identifier, else quoted. -/
def propertyKey (key : Text) : Text :=
  if isIdentifier key then key else singleQuoted key

end EmbedScaffold
