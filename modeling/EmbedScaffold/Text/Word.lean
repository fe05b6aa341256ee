import EmbedScaffold.Text.Basic
import EmbedScaffold.Text.WordRanges

/-!
# Word characters

The characters that words of a document consist of: letters and numbers of any alphabet, the
underscore and the dollar sign.
-/

namespace EmbedScaffold.Text

/-- Whether a number lies in one of the inclusive ranges. -/
def inRanges (ranges : List (Nat × Nat)) (code : Nat) : Bool :=
  ranges.any fun (low, high) => low ≤ code && code ≤ high

/-- A letter or a number of any alphabet. -/
def isAlphanumeric (tested : Char) : Bool :=
  tested.isAlphanum || (128 ≤ tested.toNat && inRanges wordRanges tested.toNat)

def isWordChar (tested : Char) : Bool :=
  isAlphanumeric tested || tested == '_' || tested == '$'

end EmbedScaffold.Text
