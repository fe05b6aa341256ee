import EmbedScaffold.Token.Scan

/-!
# Pairing the brackets of a document

`pairBrackets` matches every opening bracket of a token list with its closing one, and a
`Document` is a text whose brackets are known to match.  `Document.topLevel` lists the marks of a
stretch of tokens that lie in no bracket of that stretch.
-/

namespace EmbedScaffold

/-- The index of each opening bracket with the index of the bracket that closes it.  `pending`
lists the brackets still open, innermost first, and `index` is that of the next token. -/
def pairBracketsFrom (index : Nat) (pending : List (Nat × Token)) :
    List Token → Except Malformed (List (Nat × Nat))
  | [] =>
      match pending with
      | [] => .ok []
      | (_, opener) :: _ => .error (.unclosed opener.value opener.start)
  | token :: rest =>
      if token.isOpener then pairBracketsFrom (index + 1) ((index, token) :: pending) rest
      else if token.isCloser then
        match pending with
        | [] => .error (.unexpectedCloser token.value token.start)
        | (openedAt, opener) :: outer =>
            match opener.closing? with
            | none => .error (.unexpectedCloser token.value token.start)
            | some expected =>
                if token.isPunct expected then
                  (pairBracketsFrom (index + 1) outer rest).map ((openedAt, index) :: ·)
                else
                  .error (.mismatchedCloser expected opener.start token.value token.start)
      else pairBracketsFrom (index + 1) pending rest

/-- The pairs of matching brackets in a token list, by token index. -/
def pairBrackets (tokens : List Token) : Except Malformed (List (Nat × Nat)) :=
  pairBracketsFrom 0 [] tokens

/-- A text with its tokens and the pairs of its brackets. -/
structure Document where
  content : Text
  tokens : Array Token
  pairs : List (Nat × Nat)

namespace Document

/-- Scan a text and pair its brackets. -/
def ofText (content : Text) : Except Malformed Document := do
  let tokens ← scan content
  let pairs ← pairBrackets tokens
  pure ⟨content, tokens.toArray, pairs⟩

def token? (document : Document) (index : Nat) : Option Token :=
  document.tokens[index]?

/-- Index of the bracket that closes the one at `index`; the index itself if none does. -/
def closer (document : Document) (index : Nat) : Nat :=
  (document.pairs.lookup index).getD index

/-- Offset at which the token at an index begins. -/
def startOf (document : Document) (index : Nat) : Nat :=
  ((document.token? index).map Token.start).getD document.content.length

/-- Offset behind the token at an index. -/
def stopOf (document : Document) (index : Nat) : Nat :=
  ((document.token? index).map Token.stop).getD document.content.length

/-- Whether the token at an index is the punctuation `mark`. -/
def isPunctAt (document : Document) (index : Nat) (mark : Char) : Bool :=
  ((document.token? index).map (·.isPunct mark)).getD false

/-- Whether the token at an index is the word `name`. -/
def isWordAt (document : Document) (index : Nat) (name : Text) : Bool :=
  ((document.token? index).map (·.isWord name)).getD false

/-- The indices from `start` up to `stop` whose token satisfies `wanted`, brackets being skipped
as a whole from their opening one on. -/
def topLevelWhere (document : Document) (wanted : Token → Bool) (start stop : Nat) : List Nat :=
  if start < stop then
    match document.token? start with
    | none => []
    | some token =>
        if token.isOpener then
          topLevelWhere document wanted (max start (document.closer start) + 1) stop
        else
          let others := topLevelWhere document wanted (start + 1) stop
          if wanted token then start :: others else others
  else []
termination_by stop - start

/-- The indices from `start` up to `stop` of the punctuation `mark` outside all brackets. -/
def topLevel (document : Document) (mark : Text) (start stop : Nat) : List Nat :=
  document.topLevelWhere (fun token => token.kind = .punct && token.value = mark) start stop

end Document

/-- Check that a text has tokens and that its brackets match. -/
def checkBalanced (content : Text) : Except Malformed Unit :=
  (Document.ofText content).map fun _ => ()

end EmbedScaffold
