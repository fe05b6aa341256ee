import EmbedScaffold.Text.Word

/-!
# Tokens of a document

A document is edited through its tokens: punctuation, words and the three kinds of literal that
may hide brackets.  A token records its offsets, so every edit can be made in the text itself.
-/

namespace EmbedScaffold

inductive TokenKind where
  | punct
  | word
  | string
  | template
  | regex
  deriving DecidableEq, Repr

/-- A token with the offsets of its first character and of the character behind it. -/
structure Token where
  kind : TokenKind
  value : Text
  start : Nat
  stop : Nat
  deriving DecidableEq, Repr

namespace Token

/-- Whether the token is the punctuation `mark`. -/
def isPunct (token : Token) (mark : Char) : Bool :=
  token.kind = .punct && token.value = [mark]

/-- Whether the token is the word `name`. -/
def isWord (token : Token) (name : Text) : Bool :=
  token.kind = .word && token.value = name

/-- The token of the given kind that a text begins with. -/
def cut (kind : TokenKind) (content : Text) (start stop : Nat) : Token :=
  ⟨kind, content.take (stop - start), start, stop⟩

/-! ## Brackets -/

/-- The closing bracket that belongs to an opening one. -/
def closingMark? (mark : Char) : Option Char :=
  if mark = '\x7b' then some '\x7d'
  else if mark = '[' then some ']'
  else if mark = '(' then some ')'
  else none

def isClosingMark (mark : Char) : Bool :=
  mark = '\x7d' || mark = ']' || mark = ')'

/-- The single character of a punctuation token. -/
def mark? (token : Token) : Option Char :=
  if token.kind = .punct then
    match token.value with
    | [mark] => some mark
    | _ => none
  else none

/-- The bracket that has to close this token, if the token opens one. -/
def closing? (token : Token) : Option Char :=
  token.mark?.bind closingMark?

/-- Whether the token is an opening bracket. -/
def isOpener (token : Token) : Bool :=
  token.closing?.isSome

/-- Whether the token is a closing bracket. -/
def isCloser (token : Token) : Bool :=
  (token.mark?.map isClosingMark).getD false

/-! ## Slashes -/

/-- The marks after which a slash begins a regular expression. -/
def marksBeforeRegex : Text :=
  "(,=:[!&|?\x7b\x7d;+-*%<>~^".toList

/-- The words after which a slash begins a regular expression. -/
def wordsBeforeRegex : List Text :=
  ["return", "typeof", "case", "do", "else", "in", "of", "new", "delete", "void", "throw",
    "yield", "await"].map String.toList

/-- Whether a slash behind this token begins a regular expression and is no division. -/
def allowsRegex (token : Token) : Bool :=
  match token.kind with
  | .punct => (token.mark?.map (marksBeforeRegex.contains ·)).getD false
  | .word => wordsBeforeRegex.contains token.value
  | _ => false

/-! ## Quoted values -/

/-- Undo backslash escapes: a backslash gives way to the character behind it, unless that is a
line feed. -/
def unescape : Text → Text
  | [] => []
  | '\\' :: next :: rest =>
      if next = '\n' then '\\' :: '\n' :: unescape rest else next :: unescape rest
  | first :: rest => first :: unescape rest

/-- The value between the quotes of a quoted token. -/
def quotedValue (value : Text) : Text :=
  unescape (value.drop 1).dropLast

end Token

/-! ## Malformed documents -/

/-- Why a document has no tokens or no matching brackets. -/
inductive Malformed where
  | unterminatedComment (offset : Nat)
  | unterminatedString (offset : Nat)
  | unterminatedTemplate (offset : Nat)
  | unterminatedSubstitution (offset : Nat)
  | unterminatedRegex (offset : Nat)
  | unexpectedCloser (found : Text) (offset : Nat)
  | mismatchedCloser (expected : Char) (openedAt : Nat) (found : Text) (offset : Nat)
  | unclosed (opener : Text) (offset : Nat)
  /-- Templates nest beyond what a scan follows. -/
  | nestedTooDeeply (offset : Nat)
  deriving DecidableEq, Repr

namespace Malformed

/-- Where in the document the fault lies. -/
def offset : Malformed → Nat
  | .unterminatedComment offset | .unterminatedString offset | .unterminatedTemplate offset
  | .unterminatedSubstitution offset | .unterminatedRegex offset | .unexpectedCloser _ offset
  | .mismatchedCloser _ _ _ offset | .unclosed _ offset | .nestedTooDeeply offset => offset

/-- Whether the document is beyond what a scan follows, and may be well formed. -/
def isLimit : Malformed → Bool
  | .nestedTooDeeply _ => true
  | _ => false

def message : Malformed → String
  | .unterminatedComment _ => "Unterminated block comment"
  | .unterminatedString _ => "Unterminated string literal"
  | .unterminatedTemplate _ => "Unterminated template literal"
  | .unterminatedSubstitution _ => "Unterminated template substitution"
  | .unterminatedRegex _ => "Unterminated regular expression literal"
  | .unexpectedCloser found offset =>
      s!"Unexpected '{String.ofList found}' at offset {offset}"
  | .mismatchedCloser expected openedAt found offset =>
      s!"Expected '{String.singleton expected}' to close offset {openedAt}, " ++
        s!"found '{String.ofList found}' at offset {offset}"
  | .unclosed opener offset => s!"Unclosed '{String.ofList opener}' at offset {offset}"
  | .nestedTooDeeply offset => s!"Templates nest too deeply at offset {offset}"

end Malformed

end EmbedScaffold
