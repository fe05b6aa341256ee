import EmbedScaffold.Script.Value
import EmbedScaffold.Text.Lines

/-!
# Plain scripts

Most scripts of components are plain: each line is blank, a comment, the import of one name, or the
declaration of one variable, and perhaps a call of `onMount` holds comments.  Such a script is read
line by line.  `Plain.fields?` says nothing about a script that is not plain.
-/

namespace EmbedScaffold

namespace Script.Plain

/-! ## Lines -/

inductive Line where
  /-- A blank line or a comment. -/
  | remark
  /-- The import of a name. -/
  | importing
  /-- The declaration of a variable. -/
  | declaring (field : Field)
  /-- The beginning of a call that waits for the component. -/
  | mounting
  /-- The end of that call. -/
  | mounted
  deriving DecidableEq, Repr

/-- What follows a given text at the beginning of another. -/
def dropText? (wanted : String) (content : Text) : Option Text :=
  if wanted.toList.isPrefixOf content then some (content.drop wanted.toList.length) else none

/-- A character that a comment to the end of the line can hold. -/
def isRemarkPart (tested : Char) : Bool :=
  tested ≠ '\x00' && tested ≠ '\r' && tested ≠ '\u2028' && tested ≠ '\u2029'

/-- The name that a text begins with, and what follows it. -/
def name? (content : Text) : Option (Text × Text) :=
  let name := content.take (nameLength content)
  if isVariableName name then some (name, content.drop name.length) else none

/-- Whether a text is the rest of an import, behind the word itself. -/
def isImport (content : Text) : Bool :=
  let behind : Option Text := do
    let (_, rest) ← (dropText? "\x7b " content).bind name?
    let path ← dropText? " \x7d from '" rest
    let (_, behind) ← readString? '\'' 0 path
    pure behind
  behind = some [';']

/-- The value that a text begins with and a semicolon ends: a string, a whole number, a word or an
empty list. -/
def value? (content : Text) : Option (Option Scalar) :=
  match content with
  | [] => none
  | first :: rest =>
      if first = '"' || first = '\'' then do
        let (codes, behind) ← readString? first 0 rest
        if behind = [';'] then some (some (.ofCodes codes)) else none
      else
        let literal := content.dropLast
        if content.getLast? ≠ some ';' then none
        else if literal = "true".toList then some (some (.boolean true))
        else if literal = "false".toList then some (some (.boolean false))
        else if literal = "null".toList || literal = "[]".toList then some none
        else if ! literal.isEmpty && literal.all Char.isDigit &&
            (literal.head? ≠ some '0' || literal.length = 1) then
          some (numberValue literal)
        else none

/-- The field that a text declares behind the word `let`. -/
def declared? (content : Text) : Option Field := do
  let (name, rest) ← name? content
  if rest = [';'] then pure ⟨name, none⟩
  else
    let value ← (dropText? " = " rest).bind value?
    pure ⟨name, value⟩

/-- What a line without its indentation is, if it is plain. -/
def Line.ofContent? (content : Text) : Option Line :=
  if content.isEmpty then some .remark
  else if "//".toList.isPrefixOf content then
    if content.all isRemarkPart then some .remark else none
  else if content = "onMount(() => \x7b".toList then some .mounting
  else if content = "\x7d);".toList then some .mounted
  else
    match dropText? "import " content with
    | some rest => if isImport rest then some .importing else none
    | none =>
        ((dropText? "let " ((dropText? "export " content).getD content)).bind declared?).map
          .declaring

/-- A blank that a line of a plain script is indented with. -/
def isIndent (tested : Char) : Bool :=
  tested = ' ' || tested = '\t'

/-! ## Scripts -/

/-- The fields that the lines of a plain script declare; `isOpen` tells whether a call is open. -/
def collect? (isOpen : Bool) : List Text → Option (List Field)
  | [] => if isOpen then none else some []
  | first :: rest =>
      match Line.ofContent? (first.dropWhile isIndent) with
      | some .remark => collect? isOpen rest
      | some .importing => if isOpen then none else collect? false rest
      | some (.declaring field) =>
          if isOpen then none else (collect? false rest).map (field :: ·)
      | some .mounting => if isOpen then none else collect? true rest
      | some .mounted => if isOpen then collect? false rest else none
      | none => none

/-- The fields that a script declares, in order, if it is plain. -/
def fields? (content : Text) : Option (List Field) :=
  collect? false (Text.splitOn '\n' content)

end Script.Plain

end EmbedScaffold
