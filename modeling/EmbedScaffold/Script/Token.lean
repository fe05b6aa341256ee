import EmbedScaffold.Script.Pattern

/-!
# Tokens of scripts

The words, signs and shapes that scripts are made of.  A token is known by its number, its place in
`tokens`; the numbers order the tokens where a missing one is looked for, and the rules of the
grammar are numbered behind them.
-/

namespace EmbedScaffold

namespace Script

/-! ## Characters -/

def basicBlanks : List (Nat × Nat) :=
  [(9, 13), (32, 32)]

/-- Spaces of other alphabets, the line and paragraph marks, and the invisible marks. -/
def otherBlanks : List (Nat × Nat) :=
  [(0xA0, 0xA0), (0x1680, 0x1680), (0x2000, 0x200B), (0x2028, 0x2029), (0x202F, 0x202F),
    (0x205F, 0x2060), (0x3000, 0x3000), (0xFEFF, 0xFEFF)]

def blanks : CharSet :=
  .within (basicBlanks ++ otherBlanks)

def digitRange : List (Nat × Nat) :=
  CharSet.range '0' '9'

/-- The ranges of the letters of the basic alphabet. -/
def letterRanges : List (Nat × Nat) :=
  CharSet.range 'A' 'Z' ++ CharSet.range 'a' 'z'

/-- The characters that end a line of a script. -/
def lineMarks : List (Nat × Nat) :=
  CharSet.rangesOf "\r\n" ++ [(0x2028, 0x2029)]

def signs : List (Nat × Nat) :=
  CharSet.rangesOf ":;`\"'@#.,|^&<=>+-*/\\%?!~()[]\x7b\x7d"

def hexDigit : Pattern :=
  .one (.within (digitRange ++ CharSet.range 'A' 'F' ++ CharSet.range 'a' 'f'))

def digit : Pattern :=
  .one (.within digitRange)

namespace Pattern

/-- A code point escape of a name. -/
def nameEscape : Pattern :=
  oneOf [inOrder [exactly "\\u", times 4 hexDigit],
    inOrder [exactly "\\u\x7b", many hexDigit, exactly "\x7d"]]

/-- The characters that no name begins with. -/
def unnamed : List (Nat × Nat) :=
  (0, 0x1F) :: basicBlanks ++ otherBlanks ++ signs

def name : Pattern :=
  inOrder [oneOf [one (.outside (unnamed ++ digitRange)), nameEscape],
    star (oneOf [one (.outside unnamed), nameEscape])]

/-- Digits between which single underscores may stand. -/
def digits (some : Pattern) : Pattern :=
  inOrder [some, star (inOrder [optional (exactly "_"), some])]

/-- A number to a base, behind its mark. -/
def based (marks : String) (some : Pattern) : Pattern :=
  inOrder [exactly "0", one (.anyOf marks), digits some]

def number : Pattern :=
  let whole := digits digit
  let power := inOrder [one (.anyOf "eE"), optional (one (.anyOf "-+")), whole]
  let lead := oneOf [exactly "0", inOrder [optional (exactly "0"),
    one (.within (CharSet.range '1' '9')), optional (inOrder [optional (exactly "_"), whole])]]
  let hexadecimal := based "xX" hexDigit
  let binary := based "bB" (one (.anyOf "01"))
  let octal := based "oO" (one (.within (CharSet.range '0' '7')))
  oneOf [hexadecimal,
    inOrder [lead, exactly ".", optional whole, optional power],
    inOrder [exactly ".", whole, optional power],
    inOrder [lead, power],
    whole, binary, octal,
    inOrder [oneOf [hexadecimal, binary, octal, whole], exactly "n"]]

/-- A comment to the end of its line or between its marks. -/
def comment : Pattern :=
  let noStar := one (.noneOf "*")
  let stars := many (exactly "*")
  oneOf [inOrder [exactly "//", star (one (.outside lineMarks))],
    inOrder [exactly "/*", star noStar, stars,
      star (inOrder [one (.noneOf "/*"), star noStar, stars]), exactly "/"]]

def escape : Pattern :=
  inOrder [exactly "\\",
    oneOf [one (.outside (CharSet.rangesOf "xu" ++ CharSet.range '0' '7')),
      upTo 3 (one (.within (CharSet.range '0' '7'))),
      inOrder [exactly "x", times 2 hexDigit],
      inOrder [exactly "u", times 4 hexDigit],
      inOrder [exactly "u\x7b", many hexDigit, exactly "\x7d"],
      inOrder [one (.anyOf "\r?"), one (.within ((10, 10) :: [(0x2028, 0x2029)]))]]]

/-- The text between the slashes of a regular expression. -/
def regexBody : Pattern :=
  let escaped := inOrder [exactly "\\", one (.noneOf "\n")]
  many (oneOf [
    inOrder [exactly "[", star (oneOf [escaped, one (.noneOf "]\n\\")]), exactly "]"],
    escaped,
    one (.noneOf "/\\[\n")])

/-- A reference to a character of a page. -/
def characterReference : Pattern :=
  inOrder [exactly "&",
    oneOf [
      inOrder [exactly "#",
        oneOf [inOrder [one (.anyOf "xX"), upTo 6 hexDigit], upTo 5 digit]],
      upTo 30 (one (.within letterRanges))],
    exactly ";"]

/-- A name with a hyphen, as elements and their attributes have. -/
def elementName : Pattern :=
  let start := letterRanges ++ CharSet.rangesOf "_$"
  inOrder [one (.within start), star (one (.within (start ++ digitRange))), exactly "-",
    star (one (.within (start ++ digitRange ++ CharSet.rangesOf "-")))]

/-- The text of an attribute up to its closing quote or a reference. -/
def attributeText (quote : String) : Pattern :=
  many (oneOf [one (.noneOf (quote ++ "&")),
    inOrder [exactly "&", one (.outside (CharSet.rangesOf "#" ++ letterRanges))]])

/-- The text of a string up to its closing quote, an escape or the end of the line. -/
def stringText (quote : String) : Pattern :=
  many (one (.noneOf (quote ++ "\\\r\n")))

/-- The word `static` with the word `get` that ends its line. -/
def staticGet : Pattern :=
  let blank := one (.within basicBlanks)
  inOrder [exactly "static", many blank, exactly "get", star blank, exactly "\n"]

end Pattern

/-! ## Tokens -/

/-- A kind of token.  Of tokens that match equally long texts the one with the higher rank is
taken, and then a fixed text before a pattern; an immediate token does not stand behind blanks. -/
structure Token where
  name : String
  pattern : Pattern
  rank : Int
  isFixed : Bool
  isImmediate : Bool
  deriving Inhabited

namespace Token

def fixed (content : String) : Token :=
  ⟨content, .exactly content, 0, true, false⟩

/-- A token that is described by a pattern. -/
def shaped (name : String) (pattern : Pattern) : Token :=
  ⟨name, pattern, 0, false, false⟩

/-- A token that is described by a pattern and stands right behind the one before it. -/
def attached (name : String) (rank : Int) (pattern : Pattern) : Token :=
  ⟨name, pattern, rank, false, true⟩

/-- How fixed the form of the token is. -/
def firmness (token : Token) : Nat :=
  (if token.isFixed then 2 else 0) + if token.isImmediate then 1 else 0

end Token

/-- The words and signs that a text lists between blanks. -/
def fixedTokens (content : String) : List Token :=
  (Text.words content.toList).map fun word => .fixed (String.ofList word)

/-- The tokens in the order of their numbers; the first one is the end of the script, which no
pattern describes. -/
def tokens : List Token :=
  [.shaped "end" .empty,
    .shaped "name" .name,
    .shaped "shebang" (.inOrder [.exactly "#!", .star (.one (.noneOf "\n"))])] ++
  fixedTokens
    "export * default as \x7b , \x7d import from with var let const of else if switch for ( ; )
    await in while do try break continue debugger return throw : case catch finally yield = [ ]" ++
  [.shaped "character-reference" .characterReference] ++
  fixedTokens "< >" ++
  [.shaped "element-name" .elementName] ++
  fixedTokens ". </ /> \" '" ++
  [.attached "double-attribute-text" 1 (.attributeText "\""),
    .attached "single-attribute-text" 1 (.attributeText "'")] ++
  fixedTokens
    "class extends async function => ?. new using += -= *= /= %= ^= &= |= >>= >>>= <<= **= &&= ||=
    ??= ... && || >> >>> << & ^ | + - / % ** <= == === != !== >= ?? instanceof ! ~ typeof void
    delete ++ --" ++
  [.attached "double-text" 1 (.stringText "\""),
    .attached "single-text" 1 (.stringText "'"),
    .attached "escape" 0 .escape,
    .shaped "comment" .comment] ++
  fixedTokens "` $\x7b" ++
  [⟨"regex-end", .exactly "/", 1, true, true⟩,
    .attached "regex-body" (-1) .regexBody,
    .attached "regex-flags" 0 (.many (.one (.within (CharSet.range 'a' 'z')))),
    .shaped "number" .number,
    .shaped "private-name" (.sequence (.exactly "#") .name)] ++
  fixedTokens "target meta this super true false null undefined @ static" ++
  [.shaped "static-get" .staticGet] ++
  fixedTokens "get set"

/-- The tokens that depend on what surrounds them. -/
def contextualTokens : List String :=
  ["line-end", "template-text", "?", "page-comment", "element-text"]

/-! ## Symbols -/

/-- The number of a token or of a rule. -/
abbrev Symbol := Nat

/-- The names of the tokens in the order of their numbers. -/
def tokenNames : List String :=
  tokens.map (·.name) ++ contextualTokens

def tokenCount : Nat :=
  tokenNames.length

/-- The rules of the grammar in the order of their numbers.  The nodes of a rule whose name begins
with an underscore are left out of the tree that a reader of a script sees. -/
def rules : List String :=
  (Text.words <| String.toList
    "program export-statement export-all export-clause export-specifier _exported-name
    _declaration import import-statement import-clause _from-clause namespace-import named-imports
    import-specifier import-attribute _statement expression-statement variable-declaration
    lexical-declaration variable-declarator statement-block else-clause if-statement
    switch-statement for-statement for-in-statement _for-header while-statement do-statement
    try-statement with-statement break-statement continue-statement debugger-statement
    return-statement throw-statement empty-statement labeled-statement switch-body switch-case
    switch-default catch-clause finally-clause parenthesized-expression _expressions _expression
    _primary-expression yield-expression object object-pattern assignment-pattern
    object-assignment-pattern array array-pattern _element element embedded-expression
    _element-child opening-element _element-identifier nested-name namespace-name
    _element-title closing-element self-closing-element _attribute _attribute-name attribute
    attribute-string _attribute-value class class-declaration class-heritage function-expression
    function-declaration generator-function generator-function-declaration arrow-function
    _call-signature _formal-parameter call-expression new-expression await-expression
    member-expression subscript-expression _left-side assignment-expression
    _augmented-left-side augmented-assignment-expression _initializer _destructuring-pattern
    spread-element ternary-expression binary-expression unary-expression update-expression
    sequence-expression string template-string template-substitution regex _identifier
    meta-property arguments decorator decorator-member decorator-call class-body field-definition
    formal-parameters class-static-block _pattern rest-pattern method-definition pair
    pair-pattern _property-name computed-property-name _contextual-name _semicolon _statements
    _decorators _export-specifiers _import-specifiers _declarators _switch-clauses
    _object-members _object-pattern-members _array-members _array-pattern-members
    _element-children _attributes _double-attribute-parts _single-attribute-parts
    _sequence-members _double-string-parts _single-string-parts _template-parts _class-members
    _formal-parameters").map String.ofList

/-- The names of all symbols in the order of their numbers. -/
def symbolNames : List String :=
  tokenNames ++ rules

def symbolNamed (name : String) : Symbol :=
  symbolNames.idxOf name

namespace Symbol

def finish : Symbol := 0

/-- A name, unless it is a word of the grammar. -/
def name : Symbol := 1

def comment : Symbol := symbolNamed "comment"

/-- A comment in the manner of a page. -/
def pageComment : Symbol := symbolNamed "page-comment"

/-- The symbol of skipped tokens that belong to a node of their own later on. -/
def skipped : Symbol := symbolNames.length

/-- The symbol of a node that holds what does not fit. -/
def misfit : Symbol := symbolNames.length + 1

end Symbol

/-- For each symbol whether its nodes are seen. -/
def visibility : Array Bool :=
  ((symbolNames.map fun name => ! (name.startsWith "_" || name = "end" || name = "line-end")) ++
    [false, true]).toArray

/-- Whether the nodes of a symbol are seen. -/
def isVisible (symbol : Symbol) : Bool :=
  visibility.getD symbol false

/-! ## Words -/

/-- The words that name nothing. -/
def reservedNames : List String :=
  (Text.words <| String.toList
    "break case catch class const continue debugger default delete do else export extends false
    finally for function if import in instanceof new null return super switch this throw true try
    typeof var void while with").map String.ofList

/-- The words of the grammar, which are told from names by their text alone. -/
def keywords : List (Text × Symbol) :=
  (tokens.zipIdx.filter fun (token, _) =>
    token.isFixed && token.name.toList.all Char.isLower).map fun (token, symbol) =>
      (token.name.toList, symbol)

def reservedSymbols : List Symbol :=
  reservedNames.map symbolNamed

end Script

end EmbedScaffold
