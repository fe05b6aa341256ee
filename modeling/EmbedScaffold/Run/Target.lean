import EmbedScaffold.Component.Generation
import EmbedScaffold.Component.Import
import EmbedScaffold.Markup.Playground
import EmbedScaffold.Registry.Switch
import EmbedScaffold.Registry.Upsert
import EmbedScaffold.Settings.Basic

/-!
# The documents that know a component

A generated component is entered into every document of the site that has to know it.  A target is
one such document with the edit that enters the component, and the text that the document starts
with where it may be created.
-/

namespace EmbedScaffold

/-- A document that has to know a component.  Its edit gives nothing if the document has no place
for the component. -/
structure Target where
  name : Text
  path : Path
  edit : Text → Except PatchFault (Option Outcome)
  initial : Option Text := none
  withoutPlace : Text := []
  encodable : Bool := true

namespace Target

/-! ## Names that the documents are read by -/

/-- The mapping of the bundler from components to their documents. -/
def bundlerMapping : Text := "input".toList

/-- The mapping from lookup keys to components. -/
def componentMapping : Text := "embedRegistry".toList

/-- The mapping from lookup keys to schemas. -/
def schemaMapping : Text := "embedConfigRegistry".toList

/-- The mapping from lookup keys to the names of fields. -/
def propsMapping : Text := "componentProps".toList

/-- The mapping of a loader from lookup keys to components. -/
def loaderMapping : Text := "embedComponents".toList

def mockFunction : Text := "getMockPropertiesForEmbed".toList

/-- What the function for mock data switches on. -/
def mockDiscriminant : Text := "embedName".toList

/-- The constant by which the shared declarations of the schema registry are recognized. -/
def preludeMarker : Text := "COMMON_FIELDS".toList

/-! ## Snippets -/

/-- The schema of a component, as the schema registry holds it. -/
def schemaText (fields : List Field) : Text :=
  Template.fill [("schema".toList, (Schema.ofFields fields).literal)] Template.schemaEntry

/-- The shared declarations of the schema registry. -/
def preludeText : Text :=
  Template.fill [
    ("field_types".toList, Schema.kindConstants),
    ("common_fields".toList, Schema.commonFields.literal),
    ("brand_color_fields".toList, Schema.brandColorFields.literal)] Template.schemaPrelude

/-- The body of the clause that gives a component's mock data. -/
def mockText (fields : List Field) : Text :=
  Template.fill
    [("values".toList, .ofMembers (fields.map fun field => (field.name, field.sample)))]
    Template.mockCase

/-- The names of fields, as the props registry holds them. -/
def namesText (fields : List Field) : Text :=
  match (Literal.list (fields.map fun field => .text field.name)).render 0 with
  | .ok content => content
  | .error _ => []

def emptyMapping (template : List Template.Block) (mapping : Text) : Text :=
  Template.fill [("mapping_name".toList, .text mapping)] template

/-! ## Edits -/

def upsertOf (wanted : EntryUpsert) (content : Text) : Except PatchFault (Option Outcome) :=
  (upsertEntry content wanted).map some

/-- Declare what all schemas share, and upsert a schema. -/
def schemaEdit (key : Text) (fields : List Field) (content : Text) : Except PatchFault Outcome := do
  let prepared ← ensurePrelude content preludeMarker preludeText
  let entered ← upsertEntry prepared.content
    { mapping := schemaMapping, key, value := schemaText fields }
  pure (Outcome.ofTexts content entered.content)

/-! ## Targets -/

/-- The bundler configuration: it lists the documents of all components. -/
def bundler (settings : Settings) (workplace : Place) (component : Component) : Target :=
  let path := settings.locate settings.bundler
  { name := "bundler input".toList
    path
    edit := upsertOf {
      mapping := bundlerMapping
      key := component.name
      value := Literal.quotedString (Path.relativeText workplace settings.root component.path)
      headerLine := some (Component.importLine workplace component.name path component.path)
      createIfMissing := false }
    initial := some (Template.fill [] Template.bundler) }

def componentRegistry (settings : Settings) (workplace : Place) (component : Component) : Target :=
  let path := settings.locate settings.componentRegistry
  { name := "component registry".toList
    path
    edit := upsertOf {
      mapping := componentMapping
      key := component.lookupKey
      value := component.name
      headerLine := some (Component.importLine workplace component.name path component.path) }
    initial := some (emptyMapping Template.registry componentMapping) }

def schemaRegistry (settings : Settings) (component : Component) : Target :=
  { name := "schema registry".toList
    path := settings.locate settings.schemaRegistry
    edit := fun content => (schemaEdit component.lookupKey component.fields content).map some
    initial := some (emptyMapping Template.registry schemaMapping)
    encodable := component.fields.all fun field =>
      Schema.sharedNames.contains field.name || field.isEncodable }

def propsRegistry (settings : Settings) (component : Component) : Target :=
  { name := "props registry".toList
    path := settings.locate settings.propsRegistry
    edit := upsertOf {
      mapping := propsMapping
      key := component.lookupKey
      value := namesText component.fields }
    initial := some (emptyMapping Template.registry propsMapping) }

/-- The document with mock data, which is never created. -/
def mockData (settings : Settings) (component : Component) : Target :=
  { name := "mock data".toList
    path := settings.locate settings.mockData
    edit := fun content => upsertCase content {
      function := mockFunction
      discriminant := mockDiscriminant
      key := component.lookupKey
      body := mockText component.fields }
    withoutPlace := mockFunction ++ "() not found".toList
    encodable := component.fields.all Field.isEncodable }

def loaderEdit (workplace : Place) (component : Component) (path : Path) :
    Text → Except PatchFault (Option Outcome) :=
  upsertOf {
    mapping := loaderMapping
    key := component.lookupKey
    value := component.name
    headerLine := some (Component.importLine workplace component.name path component.path)
    declaration := "const".toList }

/-- The loader of components at run time. -/
def loader (settings : Settings) (workplace : Place) (component : Component) : Target :=
  let path := settings.locate settings.loader
  { name := "runtime loader".toList
    path
    edit := loaderEdit workplace component path
    initial := some (emptyMapping Template.loader loaderMapping) }

/-- A published loader, which is never created. -/
def publicLoader (workplace : Place) (component : Component) (path : Path) : Target :=
  { name := "public ".toList ++ path.name
    path
    edit := loaderEdit workplace component path }

/-- The playground, unless the component itself is kept there. -/
def playground (settings : Settings) (workplace : Place) (component : Component) : List Target :=
  let path := settings.locate settings.playground
  if path.place workplace = component.path.place workplace then []
  else
    let importLine := Component.importLine workplace component.name path component.path
    [{  name := "playground".toList
        path
        edit := fun content =>
          (Markup.patchPlayground content importLine component.lookupKey).map some }]

/-- The targets that every site has, in the order in which they are edited. -/
def registries (settings : Settings) (workplace : Place) (component : Component) : List Target := [
  bundler settings workplace component,
  componentRegistry settings workplace component,
  schemaRegistry settings component,
  propsRegistry settings component,
  mockData settings component,
  loader settings workplace component]

/-- The targets that are edited last: the published loaders that the site holds, and the
playground. -/
def loadersAndPlayground (settings : Settings) (site : Site) (component : Component) :
    Except Settings.SearchFault (List Target) := do
  let published ← settings.publicLoaders site
  pure <| published.map (publicLoader site.workplace component) ++
    playground settings site.workplace component

end Target

end EmbedScaffold
