import EmbedScaffold.Text.CaseRanges
import EmbedScaffold.Text.Word

/-!
# Letter case

Full case mapping of a text.  A mapping may lengthen the text (`ß` becomes `SS`), and a capital
sigma becomes the final form exactly at the end of a word.
-/

namespace EmbedScaffold.Text

/-- The partner that the runs assign to a code point, if any. -/
def casePartner? (runs : List CaseRun) (code : Nat) : Option Nat :=
  (runs.find? fun run =>
      run.first ≤ code && code ≤ run.last && (code - run.first) % run.step == 0).map
    fun run => ((code : Int) + run.shift).toNat

/-- Map one character by the runs, or by a longer replacement where one is listed. -/
def mapCase (runs : List CaseRun) (expansions : List (Nat × List Nat)) (mapped : Char) : Text :=
  match expansions.lookup mapped.toNat with
  | some codes => codes.map Char.ofNat
  | none => [((casePartner? runs mapped.toNat).map Char.ofNat).getD mapped]

/-- The lower-case form of one character outside a word's end. -/
def lowerChar (mapped : Char) : Text :=
  if mapped.toNat < 128 then [mapped.toLower] else mapCase lowerRuns lowerExpansions mapped

/-- The upper-case form of one character. -/
def upperChar (mapped : Char) : Text :=
  if mapped.toNat < 128 then [mapped.toUpper] else mapCase upperRuns upperExpansions mapped

/-- A character with a case that counts when the end of a word is sought. -/
def isCased (tested : Char) : Bool :=
  inRanges casedRanges tested.toNat

/-- A character that is skipped when the end of a word is sought. -/
def isCaseIgnorable (tested : Char) : Bool :=
  inRanges caseIgnorableRanges tested.toNat

/-- Whether the first character that is not skipped has a case. -/
def meetsCased (content : Text) : Bool :=
  ((content.dropWhile isCaseIgnorable).head?.map isCased).getD false

/-- Lower-case a text whose preceding characters, nearest first, are `before`. -/
def lowerAfter (before : Text) : Text → Text
  | [] => []
  | first :: rest =>
      (if first = 'Σ' then
          [if meetsCased before && ! meetsCased rest then 'ς' else 'σ']
        else lowerChar first) ++ lowerAfter (first :: before) rest

def lower (content : Text) : Text :=
  lowerAfter [] content

/-- A text whose first character is in upper case. -/
def capitalizeFirst : Text → Text
  | [] => []
  | first :: rest => upperChar first ++ rest

end EmbedScaffold.Text
