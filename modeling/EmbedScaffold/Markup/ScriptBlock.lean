import EmbedScaffold.Text.Lines

/-!
# Script blocks of a component document

A component document may hold a module script and an instance script.  Tags are recognised in any
letter case.  `instanceScript` reads the instance script of a document; `findInstance?` locates
the script that an edit changes.
-/

namespace EmbedScaffold

namespace Markup

/-! ## Caseless matching -/

/-- Whether a character matches a small ASCII letter (or any other sign) in some letter case; the
long s counts as an s and the Turkish forms of the i as an i. -/
def matchesCaseless (wanted tested : Char) : Bool :=
  tested.toLower == wanted || (wanted == 's' && tested == 'ſ') ||
    (wanted == 'i' && (tested == 'İ' || tested == 'ı'))

/-- The text behind `wanted`, if a text begins with it in some letter case. -/
def dropCaseless? : (wanted content : Text) → Option Text
  | [], content => some content
  | _ :: _, [] => none
  | expected :: others, first :: rest =>
      if matchesCaseless expected first then dropCaseless? others rest else none

/-- The text behind `wanted`, if a text begins with exactly it. -/
def dropExact? : (wanted content : Text) → Option Text
  | [], content => some content
  | _ :: _, [] => none
  | expected :: others, first :: rest =>
      if expected = first then dropExact? others rest else none

/-! ## The module mark -/

/-- The text behind a quote of either kind. -/
def dropQuote? : Text → Option Text
  | first :: rest => if first = '"' || first = '\'' then some rest else none
  | [] => none

/-- Whether a text begins with the attribute that marks a module script. -/
def beginsModuleMark (drop? : Text → Text → Option Text) (content : Text) : Bool :=
  (do
    let behindName ← drop? "context".toList content
    let behindEquals ← dropExact? ['='] (behindName.dropWhile Text.isBlank)
    let value ← dropQuote? (behindEquals.dropWhile Text.isBlank)
    let behindValue ← drop? "module".toList value
    dropQuote? behindValue).isSome

/-- Whether the attributes of a tag mark a module script. -/
def hasModuleMark (drop? : Text → Text → Option Text) : Text → Bool
  | [] => false
  | first :: rest => beginsModuleMark drop? (first :: rest) || hasModuleMark drop? rest

/-! ## Blocks -/

/-- A script block: the attributes of its opening tag, its body, and the closing tag. -/
structure ScriptBlock where
  attributes : Text
  body : Text
  closing : Text

namespace ScriptBlock

/-- The number of characters before the body. -/
def openingLength (block : ScriptBlock) : Nat :=
  "<script".length + block.attributes.length + 1

/-- The number of characters of the whole block. -/
def length (block : ScriptBlock) : Nat :=
  block.openingLength + block.body.length + block.closing.length

end ScriptBlock

/-- The closing tag that a text begins with. -/
def closingTag? (content : Text) : Option Text := do
  let behindName ← dropCaseless? "</script".toList content
  let rest ← dropExact? ['>'] (behindName.dropWhile Text.isBlank)
  pure (content.take (content.length - rest.length))

/-- The body before the first closing tag, and the tag. -/
def bodyAndClosing? : Text → Option (Text × Text)
  | [] => none
  | first :: rest =>
      match closingTag? (first :: rest) with
      | some closing => some ([], closing)
      | none => (bodyAndClosing? rest).map fun (body, closing) => (first :: body, closing)

/-- The script block that a text begins with. -/
def blockAtFront? (content : Text) : Option ScriptBlock := do
  let behindName ← dropCaseless? "<script".toList content
  let attributes := behindName.takeWhile (· ≠ '>')
  let inner ← dropExact? ['>'] (behindName.dropWhile (· ≠ '>'))
  let (body, closing) ← bodyAndClosing? inner
  pure ⟨attributes, body, closing⟩

/-! ## Reading the instance script -/

/-- The body of the first block without a module mark, whole blocks being passed over; `skip`
characters still belong to such a block. -/
def instanceScriptFrom (skip : Nat) : Text → Text
  | [] => []
  | first :: rest =>
      match skip with
      | more + 1 => instanceScriptFrom more rest
      | 0 =>
          match blockAtFront? (first :: rest) with
          | none => instanceScriptFrom 0 rest
          | some block =>
              if hasModuleMark dropExact? block.attributes then
                instanceScriptFrom (block.length - 1) rest
              else block.body

/-- The body of the instance script of a component document; empty if there is none. -/
def instanceScript (content : Text) : Text :=
  instanceScriptFrom 0 content

/-! ## Editing the instance script -/

/-- The block that an edit takes for the instance script, if a text begins with one. -/
def instanceAtFront? (content : Text) : Option ScriptBlock :=
  (blockAtFront? content).filter fun block => ! hasModuleMark dropCaseless? block.attributes

/-- The first block that an edit takes for the instance script, with its offset. -/
def findInstance? (offset : Nat) : Text → Option (Nat × ScriptBlock)
  | [] => none
  | first :: rest =>
      match instanceAtFront? (first :: rest) with
      | some block => some (offset, block)
      | none => findInstance? (offset + 1) rest

/-- A document without the blocks that an edit takes for instance scripts; `skip` characters
still belong to such a block. -/
def withoutInstancesFrom (skip : Nat) : Text → Text
  | [] => []
  | first :: rest =>
      match skip with
      | more + 1 => withoutInstancesFrom more rest
      | 0 =>
          match instanceAtFront? (first :: rest) with
          | some block => withoutInstancesFrom (block.length - 1) rest
          | none => first :: withoutInstancesFrom 0 rest

/-- A document without the blocks that an edit takes for instance scripts. -/
def withoutInstances (content : Text) : Text :=
  withoutInstancesFrom 0 content

/-! ## Deprecated options -/

def isSpaceOrTab (tested : Char) : Bool :=
  tested == ' ' || tested == '\t'

/-- The text behind a line feed, with or without a carriage return before it. -/
def dropLineEnd : Text → Text
  | '\r' :: '\n' :: rest => rest
  | '\r' :: rest => rest
  | '\n' :: rest => rest
  | rest => rest

/-- The length of the self-closing options element that a line begins with, its line end
included. -/
def optionsLength? (line : Text) : Option Nat := do
  let behindName ← dropExact? "<svelte:options".toList (line.dropWhile isSpaceOrTab)
  let attributes := behindName.takeWhile (· ≠ '>')
  let behind ← dropExact? ['>'] (behindName.dropWhile (· ≠ '>'))
  if attributes.getLast? = some '/' then
    pure (line.length - (dropLineEnd (behind.dropWhile isSpaceOrTab)).length)
  else none

/-- Delete the options elements that begin a line; `skip` characters still belong to one, and
`previous` is the character before. -/
def withoutOptionsFrom (skip : Nat) (previous : Char) : Text → Text
  | [] => []
  | first :: rest =>
      match skip with
      | more + 1 => withoutOptionsFrom more first rest
      | 0 =>
          match if previous = '\n' then optionsLength? (first :: rest) else none with
          | some length => withoutOptionsFrom (length - 1) first rest
          | none => first :: withoutOptionsFrom 0 first rest

/-- A document without the options elements at the beginning of its lines. -/
def withoutOptions (content : Text) : Text :=
  withoutOptionsFrom 0 '\n' content

end Markup

end EmbedScaffold
