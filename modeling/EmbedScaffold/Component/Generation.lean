import EmbedScaffold.Component.Document
import EmbedScaffold.Formatter
import EmbedScaffold.Site.Path

/-!
# Generating components

A component is generated from its name and the document it has so far: the fields that the
document declares are kept, the shared ones are added, and the new document is formatted if a
formatter is given and works.
-/

namespace EmbedScaffold

/-- A generated component.  Its document can be written unless a default holds half of a
surrogate pair. -/
structure Component where
  name : Text
  lookupKey : Text
  fields : List Field
  path : Path
  text : Text
  formatted : Bool
  encodable : Bool
  deriving DecidableEq, Repr

namespace Component

/-- What generating a component told the console, and the commands that it ran. -/
structure Generation where
  component : Component
  console : List ConsoleItem
  commands : List Command

def language : Text :=
  "svelte".toList

def plain (name : Text) (path : Path) (fields : List Field) : Component :=
  { name
    lookupKey := EmbedScaffold.lookupKey name
    fields
    path
    text := document name fields
    formatted := false
    encodable := fields.all Field.isEncodable }

/-- A component whose document was formatted; the formatted text can be written unless it still
holds one that cannot. -/
def withText (component : Component) (formattedText : Text) : Component :=
  { component with
    text := formattedText
    formatted := true
    encodable := component.encodable || ! Text.includes formattedText component.text }

def format (formatter : Option Formatter) (shell : Shell) (component : Component) : Generation :=
  match formatter with
  | none => ⟨component, [], []⟩
  | some formatter =>
      let attempt := formatter.format shell language component.text
      match attempt.result with
      | .ok formattedText => ⟨component.withText formattedText, [], attempt.commands⟩
      | .error reason =>
          ⟨component, [Console.warning ("Formatting skipped: ".toList ++ reason)],
            attempt.commands⟩

/-- Why a component cannot be generated. -/
inductive Fault where
  /-- The fields of the document it has so far cannot be read. -/
  | script (fault : Script.Fault)
  /-- A default is an integer with too many digits to be written. -/
  | longInteger
  deriving DecidableEq, Repr

/-- Generate a component from the document it has so far. -/
def generate (formatter : Option Formatter) (shell : Shell) (name : Text) (path : Path)
    (existing : Option Text) : Except Fault Generation := do
  let declared ← (declaredFields existing).mapError .script
  let fields := Field.merge declared
  if fields.all Field.isWritable then pure (format formatter shell (plain name path fields))
  else throw .longInteger

end Component

end EmbedScaffold
