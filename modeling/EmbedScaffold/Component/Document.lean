import EmbedScaffold.Markup.ScriptBlock
import EmbedScaffold.Schema.Entry
import EmbedScaffold.Script.Fields
import EmbedScaffold.Template.Library

/-!
# Component documents

A component is kept as one document: a script that declares its fields, its markup and its style.
The fields that an older document declares are read from its instance script, so that a new
document can keep them.
-/

namespace EmbedScaffold

namespace Component

/-- The name of the declaration that every document begins with; it is no field. -/
def identityName : Text :=
  "tagName".toList

/-- The fields that an existing document declares, in order. -/
def declaredFields (existing : Option Text) : Except Script.Fault (List Field) := do
  let content := Markup.withoutOptions (existing.getD [])
  let fields ← Script.fields (Markup.instanceScript content)
  pure (fields.filter fun field => field.name ≠ identityName)

/-- The width that a document's style falls back to. -/
def fallbackWidth (fields : List Field) : Literal :=
  match fields.find? fun field => field.name = "component_width".toList with
  | some field => field.effectiveDefault
  | none => .text "auto".toList

def documentContext (name : Text) (fields : List Field) : Template.Context := [
  ("lookup_key".toList, .text (lookupKey name)),
  ("fields".toList, .list <| fields.map fun field =>
    .object [("name".toList, .text field.name), ("value".toList, field.effectiveDefault)]),
  ("width".toList, fallbackWidth fields)]

/-- The document of a component with the given fields. -/
def document (name : Text) (fields : List Field) : Text :=
  Template.fill (documentContext name fields) Template.component

end Component

end EmbedScaffold
