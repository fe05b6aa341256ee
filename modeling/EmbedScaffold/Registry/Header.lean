import EmbedScaffold.Text.Lines
import EmbedScaffold.Registry.Mapping

/-!
# Header lines of a document

A document that mentions a component has to import it.  `ensureHeaderLine` puts the import behind
the last import statement, and `ensurePrelude` puts shared declarations there.
-/

namespace EmbedScaffold

namespace Header

/-- The place behind the string that ends an import statement, and behind its semicolon; `none`
if a semicolon comes first. -/
def statementEnd? : List Token → Option Nat
  | [] => none
  | token :: rest =>
      if token.kind = .string then
        match rest with
        | following :: _ => some (if following.isPunct ';' then following.stop else token.stop)
        | [] => some token.stop
      else if token.isPunct ';' then none
      else statementEnd? rest

/-- The ends of the import statements outside all brackets; `depth` brackets are open. -/
def importEnds (depth : Nat) : List Token → List Nat
  | [] => []
  | token :: rest =>
      if token.kind = .punct then
        if token.isOpener then importEnds (depth + 1) rest
        else if token.isCloser then importEnds (depth - 1) rest
        else importEnds depth rest
      else if depth = 0 && token.isWord "import".toList then
        match rest with
        | [] => []
        | following :: _ =>
            if following.isPunct '(' || following.isPunct '.' then importEnds depth rest
            else
              match statementEnd? rest with
              | some ended => ended :: importEnds depth rest
              | none => importEnds depth rest
      else importEnds depth rest

/-- Whether some line of a document is `line`, blanks around it aside. -/
def hasLine (content line : Text) : Bool :=
  (Text.splitLines content).any fun existing => Text.strip existing = Text.strip line

/-- The offset behind the line of the last import statement, and the indentation of that line. -/
def insertionPoint (content : Text) : Except PatchFault (Option (Nat × Text)) := do
  let document ← Document.forEdit content
  pure <|
    (importEnds 0 document.tokens.toList).getLast?.map fun last =>
      (Text.lineEnd content last, Text.lineIndent content last)

/-- The indentation of the first line that is not blank. -/
def firstIndent (content : Text) : Text :=
  match (Text.splitLines content).find? fun line => ! Text.isBlankText line with
  | some line => line.takeWhile Text.isBlank
  | none => []

/-- A text that ends with a line feed. -/
def endLine (content : Text) : Text :=
  if content.getLast? = some '\n' then content else content ++ ['\n']

end Header

open Header in
/-- Insert a header line behind the last import, or at the top, unless the document has it. -/
def ensureHeaderLine (content headerLine : Text) : Except PatchFault Text := do
  let line := Text.strip headerLine
  if line.isEmpty || hasLine content headerLine then return content
  match ← insertionPoint content with
  | none =>
      let lead := (content.takeWhile fun tested => tested == '\r' || tested == '\n').length
      pure (content.take lead ++ firstIndent content ++ line ++ ['\n'] ++ content.drop lead)
  | some (offset, indent) =>
      pure (endLine (content.take offset) ++ indent ++ line ++ ['\n'] ++ content.drop offset)

namespace Header

/-- Whether a token list declares `marker`, directly behind a declaration word. -/
def declaresMarker (marker : Text) : List Token → Bool
  | keyword :: word :: rest =>
      (word.isWord marker && keyword.kind = .word &&
          Mapping.declarationWords.contains keyword.value) ||
        declaresMarker marker (word :: rest)
  | _ => false

end Header

open Header in
/-- Put shared declarations behind the imports unless `marker` is declared already. -/
def ensurePrelude (content marker prelude : Text) : Except PatchFault Outcome := do
  let document ← Document.forEdit content
  if declaresMarker marker document.tokens.toList then return ⟨content, false⟩
  let block := Text.trimBoth Text.isLineFeed prelude ++ ['\n']
  match ← insertionPoint content with
  | none =>
      let tail := if Text.isBlankText content then [] else '\n' :: content
      pure ⟨block ++ tail, true⟩
  | some (offset, _) =>
      pure ⟨endLine (content.take offset) ++ ['\n'] ++ block ++ content.drop offset, true⟩

end EmbedScaffold
