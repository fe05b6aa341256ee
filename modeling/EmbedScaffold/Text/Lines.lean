import EmbedScaffold.Text.Basic

/-!
# Lines of a document

A line of a document ends with its line feed.  The functions here find the line around an
offset, read its indentation and shift the lines of a value.  Header lines are compared under
the wider notion of a line break that `splitLines` uses.
-/

namespace EmbedScaffold.Text

/-! ## The line around an offset -/

/-- Offset of the first character of the line that contains `offset`. -/
def lineStart (content : Text) (offset : Nat) : Nat :=
  let before := content.take offset
  before.length - (before.reverse.takeWhile (! isLineFeed ·)).length

/-- Offset just past the line feed that ends the line containing `offset`. -/
def lineEnd (content : Text) (offset : Nat) : Nat :=
  match (content.drop offset).findIdx? isLineFeed with
  | some distance => offset + distance + 1
  | none => content.length

/-- Blanks, up to a line feed, at the front of a text. -/
def leadingIndent (content : Text) : Text :=
  content.takeWhile fun tested => isBlank tested && ! isLineFeed tested

/-- The indentation of the line that contains `offset`. -/
def lineIndent (content : Text) (offset : Nat) : Text :=
  leadingIndent (content.drop (lineStart content offset))

/-- Whether only blanks stand before `offset` on its line. -/
def startsLine (content : Text) (offset : Nat) : Bool :=
  isBlankText (slice content (lineStart content offset) offset)

/-! ## Shifting lines -/

def indentStep : Text := [' ', ' ']

/-- Indent one continuation line; a blank one becomes empty. -/
def indentLine (indent line : Text) : Text :=
  if isBlankText line then [] else indent ++ line

/-- Put `indent` before every line after the first; blank lines become empty. -/
def reindent (value indent : Text) : Text :=
  match splitOn '\n' value with
  | [] => []
  | first :: others => join ['\n'] (first :: others.map (indentLine indent))

/-! ## Universal line breaks -/

/-- The characters that end a line when header lines are compared. -/
def isLineBreak (tested : Char) : Bool :=
  let code := tested.toNat
  (10 ≤ code && code ≤ 13) || (28 ≤ code && code ≤ 30) || code == 0x85 || code == 0x2028 ||
    code == 0x2029

/-- The lines of a text without their breaks; a carriage return and the line feed after it are
one break, and a break at the very end opens no further line. -/
def splitLines : Text → List Text
  | [] => []
  | '\r' :: '\n' :: rest => [] :: splitLines rest
  | first :: rest =>
      if isLineBreak first then [] :: splitLines rest
      else
        match splitLines rest with
        | [] => [[first]]
        | line :: others => (first :: line) :: others

/-- Turn every `\r\n` and every lone `\r` into a line feed, as reading a document does. -/
def normalizeNewlines : Text → Text
  | [] => []
  | '\r' :: '\n' :: rest => '\n' :: normalizeNewlines rest
  | first :: rest => (if first = '\r' then '\n' else first) :: normalizeNewlines rest

end EmbedScaffold.Text
