import EmbedScaffold.Literal.Basic
import EmbedScaffold.Text.Case

/-!
# The configuration schema

Every field of a component gets an entry in the configuration schema, from which an editor is
built.  The kind of editor is guessed from the field's name.  Three fields are shared by all
components; entries of a component refer to them by name instead of repeating them.
-/

namespace EmbedScaffold

namespace Field

/-! ## Guesses from a name -/

/-- The kind of a field, guessed from its name; the first clue counts. -/
def guessKind (name : Text) : FieldKind :=
  if Text.includes name "color".toList then .color
  else if Text.includes name "width".toList then .select
  else if Text.includes name "message".toList || name.getLast? = some 's' then .array
  else .text

/-- The label of a field: its name with spaces for underscores and each word capitalized. -/
def label (name : Text) : Text :=
  let spaced := name.map fun tested => if tested = '_' then ' ' else tested
  Text.join [' '] ((Text.splitOn ' ' spaced).map Text.capitalizeFirst)

/-- The default of a field that has no literal one. -/
def fallback : FieldKind → Literal
  | .array => .list []
  | .color => .text "#000000".toList
  | _ => .text []

/-- The default of a field, or the fallback for its kind. -/
def effectiveDefault (field : Field) : Literal :=
  match field.default with
  | some value => .ofScalar value
  | none => fallback (guessKind field.name)

def sample (field : Field) : Literal :=
  match field.default with
  | some value => .ofScalar value
  | none =>
      if Text.includes field.name "color".toList then .text "#cccccc".toList
      else if Text.includes field.name "width".toList then .text "auto".toList
      else .text "example".toList

end Field

/-! ## Entries -/

/-- An entry of the configuration schema; only select fields list options. -/
structure SchemaEntry where
  kind : FieldKind
  label : Text
  description : Text
  default : Literal
  category : Text
  options : Option (List Text)

namespace SchemaEntry

def ofField (field : Field) : SchemaEntry :=
  let kind := Field.guessKind field.name
  let label := Field.label field.name
  { kind
    label
    description := "Configure the ".toList ++ Text.lower label ++ ['.']
    default := field.effectiveDefault
    category := "general".toList
    options := if kind = .select then some [] else none }

/-- The entry as a literal that refers to its kind by name. -/
def literal (entry : SchemaEntry) : Literal :=
  let options :=
    match entry.options with
    | some listed => [("options".toList, Literal.list (listed.map .text))]
    | none => []
  .object <| [
    ("type".toList, .expression ("FIELD_TYPES.".toList ++ entry.kind.constant)),
    ("label".toList, .text entry.label),
    ("description".toList, .text entry.description),
    ("default".toList, entry.default),
    ("category".toList, .text entry.category)] ++ options

end SchemaEntry

/-! ## Schemas -/

/-- Entries under the names of their fields, in order. -/
abbrev Schema := List (Text × SchemaEntry)

namespace Schema

/-- The width field that every component shares. -/
def commonFields : Schema := [
  ("component_width".toList, {
    kind := .select
    label := "Component Width".toList
    description := "Width of the embedded component".toList
    default := .text "auto".toList
    category := "layout".toList
    options := some ["auto".toList, "300px".toList, "full".toList] })]

/-- The colour fields that every component shares. -/
def brandColorFields : Schema := [
  ("brand_colors_primary".toList, {
    kind := .color
    label := "Primary Brand Color".toList
    description := "Primary color for branding".toList
    default := .text "#4f46e5".toList
    category := "branding".toList
    options := none }),
  ("brand_colors_text_on_primary".toList, {
    kind := .color
    label := "Text on Primary Color".toList
    description := "Text color when on primary background".toList
    default := .text "white".toList
    category := "branding".toList
    options := none })]

def sharedNames : List Text :=
  (commonFields ++ brandColorFields).map Prod.fst

/-- One entry per field name outside `skipped`, in order. -/
def ofFields (fields : List Field) (skipped : List Text := sharedNames) : Schema :=
  ((Field.keepFirst [] fields).filter fun field => ! skipped.contains field.name).map
    fun field => (field.name, SchemaEntry.ofField field)

/-- The entries of a schema as literals under their names. -/
def literal (schema : Schema) : Literal :=
  .object (schema.map fun (name, entry) => (name, entry.literal))

/-- The kinds of fields under the constants that name them. -/
def kindConstants : Literal :=
  .object (FieldKind.all.map fun kind => (kind.constant, .text kind.value))

end Schema

end EmbedScaffold
