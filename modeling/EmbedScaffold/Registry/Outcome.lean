import EmbedScaffold.Token.Pairing

/-!
# Outcomes of an edit

An edit of a registry document gives a new text and tells whether it differs, or fails for a
cause named here.
-/

namespace EmbedScaffold

/-- The text an edit gives, and whether it differs from the text before. -/
structure Outcome where
  content : Text
  changed : Bool
  deriving DecidableEq, Repr

/-- The outcome of replacing `before` by `after`. -/
def Outcome.ofTexts (before after : Text) : Outcome :=
  ⟨after, after ≠ before⟩

/-- Why an edit of a registry document fails. -/
inductive PatchFault where
  | malformed (cause : Malformed)
  | emptyEntry (mapping : Text) (offset : Nat)
  | missingMapping (mapping : Text)
  | duplicateKey (key mapping : Text)
  | notAnObject (mapping : Text)
  | duplicateCase (key function : Text)
  deriving DecidableEq, Repr

namespace PatchFault

def message : PatchFault → String
  | .malformed cause => cause.message
  | .emptyEntry mapping offset =>
      s!"Empty entry in mapping '{String.ofList mapping}' at offset {offset}"
  | .missingMapping mapping => s!"Mapping '{String.ofList mapping}' not found"
  | .duplicateKey key mapping =>
      s!"Duplicate key '{String.ofList key}' in mapping '{String.ofList mapping}'"
  | .notAnObject mapping => s!"Mapping '{String.ofList mapping}' is not an object literal"
  | .duplicateCase key function =>
      s!"Duplicate case '{String.ofList key}' in {String.ofList function}()"

/-- Whether the document is beyond what an edit can follow. -/
def isLimit : PatchFault → Bool
  | .malformed cause => cause.isLimit
  | _ => false

end PatchFault

/-- Scan a text that an edit is about to change. -/
def Document.forEdit (content : Text) : Except PatchFault Document :=
  (Document.ofText content).mapError .malformed

end EmbedScaffold
