import EmbedScaffold.Script.Token
import EmbedScaffold.Text.Digit

/-!
# Names of variables

A name consists of characters that are neither blanks, signs nor controls, and of escapes; it does
not begin with a digit, and some words are no names.
-/

namespace EmbedScaffold

namespace Script

/-- A character that a name can hold. -/
def isNamePart (tested : Char) : Bool :=
  ! Text.inRanges Pattern.unnamed tested.toNat

/-- The length of the code point escape that a text begins with. -/
def codePointLength? : Text → Option Nat
  | '\\' :: 'u' :: '\x7b' :: rest =>
      let digits := rest.takeWhile Text.isHexDigit
      if ! digits.isEmpty && (rest.drop digits.length).head? = some '\x7d' then
        some (digits.length + 4)
      else none
  | '\\' :: 'u' :: rest =>
      if 4 ≤ (rest.takeWhile Text.isHexDigit).length then some 6 else none
  | _ => none

/-- The length of the name characters and escapes that a text begins with; `inside` characters
still belong to an escape. -/
def namePartsLength (inside : Nat) : Text → Nat
  | [] => 0
  | first :: rest =>
      match inside with
      | remaining + 1 => namePartsLength remaining rest + 1
      | 0 =>
          if isNamePart first then namePartsLength 0 rest + 1
          else
            match codePointLength? (first :: rest) with
            | some (remaining + 1) => namePartsLength remaining rest + 1
            | _ => 0

/-- The length of the name that a text begins with. -/
def nameLength (content : Text) : Nat :=
  if (content.head?.map Char.isDigit).getD true then 0 else namePartsLength 0 content

def reservedWords : List Text :=
  reservedNames.map String.toList

/-- Whether a variable can have a name. -/
def isVariableName (name : Text) : Bool :=
  ! name.isEmpty && nameLength name = name.length && ! reservedWords.contains name

end Script

end EmbedScaffold
