import EmbedScaffold.Markup.ScriptBlock
import EmbedScaffold.Site.Tree
import EmbedScaffold.Token.Pairing

/-!
# Drafts

A draft is the text that a document is going to have.  A run keeps one draft for each place of the
site, however its path is spelled, in the order in which the places were first reached.
-/

namespace EmbedScaffold

/-- The text that a document is going to have, and the one it was read with; a new document had
none before.  A text that holds half of a surrogate pair is not encodable. -/
structure Draft where
  path : Path
  before : Option Text
  content : Text
  encodable : Bool := true
  deriving DecidableEq, Repr

namespace Draft

/-- Whether there is something to write. -/
def isDirty (draft : Draft) : Bool :=
  ! draft.encodable || draft.before ≠ some draft.content

/-- The ending of documents whose script is what has to be balanced. -/
def markupSuffix : Text :=
  ".svelte".toList

/-- The part of a draft that has to be balanced. -/
def script (draft : Draft) : Text :=
  if draft.path.suffix = markupSuffix then Markup.instanceScript draft.content else draft.content

/-- Check that the brackets of a draft pair up. -/
def check (draft : Draft) : Except Malformed Unit :=
  checkBalanced draft.script

/-- Whether the brackets of a draft pair up. -/
def isBalanced (draft : Draft) : Bool :=
  match draft.check with
  | .ok _ => true
  | .error _ => false

end Draft

abbrev Drafts := List (Place × Draft)

namespace Drafts

def at? (drafts : Drafts) (place : Place) : Option Draft :=
  drafts.lookup place

/-- Put a draft at a place: where the old one stands, or behind all others. -/
def put (drafts : Drafts) (place : Place) (draft : Draft) : Drafts :=
  match drafts with
  | [] => [(place, draft)]
  | (known, old) :: rest =>
      if known = place then (place, draft) :: rest else (known, old) :: put rest place draft

/-- The drafts that are written: those that changed and are balanced. -/
def writable (drafts : Drafts) : List Draft :=
  (drafts.map Prod.snd).filter fun draft => draft.isDirty && draft.isBalanced

end Drafts

end EmbedScaffold
