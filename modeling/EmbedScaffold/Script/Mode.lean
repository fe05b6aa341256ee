import EmbedScaffold.Script.Token

/-!
# Modes of reading

Which tokens can stand at a place decides how the characters there are read: a slash divides, opens
a comment or closes a regular expression.  A mode is a set of tokens that can be told apart; the
words of the grammar are read as names in all of them.
-/

namespace EmbedScaffold

namespace Script

/-- The tokens that are looked for at a place. -/
structure Mode where
  symbols : List Symbol
  acceptsEnd : Bool
  deriving Inhabited

namespace Mode

/-- The mode of the tokens that a text lists between blanks. -/
def ofNames (content : String) : Mode :=
  let symbols := (Text.words content.toList).map fun word => symbolNamed (String.ofList word)
  ⟨symbols.filter (· ≠ Symbol.finish), symbols.contains Symbol.finish⟩

/-- The tokens that begin a value. -/
def beginnings : String :=
  " name number private-name comment \x7b ( [ < \" ' ` + - ! ~ ++ -- / @"

/-- The operators between two values, the ones aside that also begin one. -/
def operators : String :=
  " * . ?. && || >> >>> << & ^ | % ** <= == === != !== >= ?? >"

/-- The operators that assign a value. -/
def assignments : String :=
  " += -= *= /= %= ^= &= |= >>= >>>= <<= **= &&= ||= ??="

/-- The modes in the order of their numbers: where a script went wrong, at a statement, in a class,
behind a name, behind a value, in front of an element or a value, behind a regular expression,
in a class body or an element, in the tag of an element, in a template, in the strings and
attributes of either quote, and in the body and at the end of a regular expression. -/
def all : Array Mode :=
  (#["shebang , \x7d ; ) : = ] </ => ... escape $\x7b name number private-name comment \x7b ( [ <
      \" ' ` + - ! ~ ++ -- / @ regex-end static-get end" ++ operators ++ assignments,
    "shebang * , \x7d ; ) : = ] > => ... end" ++ beginnings,
    "* , \x7d ; ... static-get" ++ beginnings,
    ", \x7d ; ) : = ] =>" ++ beginnings ++ operators ++ assignments,
    ", \x7d ; ) : = ] end" ++ beginnings ++ operators,
    ": > ." ++ beginnings,
    "name comment regex-flags \x7b , \x7d ( ; ) : [ ] < + - / ++ -- `" ++ operators,
    "* . </ \x7b ( [ < \" ' name number private-name comment @ character-reference static-get",
    "\x7b : = > . /> name comment element-name",
    "` $\x7b escape comment",
    "\" double-text escape comment",
    "' single-text escape comment",
    "\" double-attribute-text character-reference comment",
    "' single-attribute-text character-reference comment",
    "regex-body comment",
    "regex-end comment"]).map ofNames

end Mode

end Script

end EmbedScaffold
