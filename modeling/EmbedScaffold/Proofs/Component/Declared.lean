import EmbedScaffold.Run.Target
import Mathlib.Data.List.Basic

/-!
# Fields as a document declares them

A document declares every field with its effective default, so that a field without a literal
default has one when it is read back, unless the fallback for its kind is a list.  The document, the
schema and the names of the fields are the same for both; the mock data is the same exactly for
fields that do not change.
-/

namespace EmbedScaffold

namespace Field

variable {field : Field}

/-- The fallback for a kind, as far as it is a default that a field can have. -/
def fallbackScalar : FieldKind → Option Scalar
  | .array => none
  | .color => some (.text "#000000".toList)
  | .text | .select => some (.text [])

/-- A field as a document declares it. -/
def declared (field : Field) : Field :=
  ⟨field.name, field.default.or (fallbackScalar (guessKind field.name))⟩

/-- Whether a field is declared as it is. -/
def IsSettled (field : Field) : Prop :=
  field.default.isSome ∨ guessKind field.name = .array

theorem effectiveDefault_declared : field.declared.effectiveDefault = field.effectiveDefault := by
  obtain ⟨name, default⟩ := field
  cases default with
  | some value => rfl
  | none =>
      -- Only the fallback of a list is no default, and it stays the fallback.
      cases kind : guessKind name <;>
        simp [declared, effectiveDefault, kind, fallbackScalar, fallback, Literal.ofScalar]

theorem declared_of_isSettled (settled : field.IsSettled) : field.declared = field := by
  obtain ⟨name, default⟩ := field
  rcases settled with literal | isArray
  · obtain ⟨value, rfl⟩ := Option.isSome_iff_exists.mp literal
    rfl
  · rw [declared, isArray]
    cases default <;> rfl

/-- A field without a literal default shows another sample when it is read back, unless its
fallback is a list. -/
theorem sample_declared_iff : field.declared.sample = field.sample ↔ field.IsSettled := by
  refine ⟨fun same => ?_, fun settled => by rw [declared_of_isSettled settled]⟩
  obtain ⟨name, default⟩ := field
  cases default with
  | some value => exact .inl rfl
  | none =>
      refine .inr (by_contra fun other => ?_)
      unfold guessKind at other
      simp only [declared, sample, Option.none_or] at same
      unfold guessKind at same
      split_ifs at same other <;> simp [fallbackScalar, Literal.ofScalar] at same other

theorem isWritable_declared (writable : field.isWritable = true) :
    field.declared.isWritable = true := by
  obtain ⟨name, default⟩ := field
  cases default with
  | some value => exact writable
  | none => cases kind : guessKind name <;> simp [declared, isWritable, kind, fallbackScalar,
      Scalar.isWritable]

theorem isEncodable_declared : field.declared.isEncodable = field.isEncodable := by
  obtain ⟨name, default⟩ := field
  cases default with
  | some value => rfl
  | none => cases kind : guessKind name <;> simp [declared, isEncodable, kind, fallbackScalar,
      Scalar.isEncodable]

end Field

/-! ## Components -/

namespace Component

variable {name : Text} {path : Path} {fields : List Field} {component : Component}
  {formatter : Option Formatter} {shell : Shell} {existing : Option Text} {generation : Generation}

/-- A component with its fields as its document declares them. -/
def redeclared (component : Component) : Component :=
  { component with fields := component.fields.map Field.declared }

theorem fallbackWidth_declared :
    fallbackWidth (fields.map Field.declared) = fallbackWidth fields := by
  have found : (fields.map Field.declared).find?
      (fun field => field.name = "component_width".toList) =
      (fields.find? fun field => field.name = "component_width".toList).map Field.declared := by
    rw [List.find?_map]
    rfl
  rw [fallbackWidth, found, fallbackWidth]
  cases fields.find? fun field => field.name = "component_width".toList with
  | none => rfl
  | some field => exact Field.effectiveDefault_declared

theorem document_declared : document name (fields.map Field.declared) = document name fields := by
  have declarations : (fields.map Field.declared).map (fun field =>
        Literal.object [("name".toList, .text field.name),
          ("value".toList, field.effectiveDefault)]) =
      fields.map fun field =>
        Literal.object [("name".toList, .text field.name),
          ("value".toList, field.effectiveDefault)] := by
    rw [List.map_map]
    refine List.map_congr_left fun field _ => ?_
    rw [Function.comp_apply, Field.effectiveDefault_declared]
    rfl
  rw [document, documentContext, declarations, fallbackWidth_declared]
  rfl

theorem all_isEncodable_declared :
    (fields.map Field.declared).all Field.isEncodable = fields.all Field.isEncodable := by
  rw [List.all_map]
  exact congrArg fields.all (funext fun field => Field.isEncodable_declared)

theorem plain_declared :
    plain name path (fields.map Field.declared) = (plain name path fields).redeclared := by
  rw [plain, document_declared, all_isEncodable_declared]
  rfl

theorem format_redeclared :
    (format formatter shell component.redeclared).component =
      (format formatter shell component).component.redeclared := by
  unfold format
  cases formatter with
  | none => rfl
  | some formatter =>
      rw [show component.redeclared.text = component.text from rfl]
      dsimp only
      split <;> rfl

theorem fields_format : (format formatter shell component).component.fields = component.fields := by
  unfold format
  cases formatter with
  | none => rfl
  | some formatter =>
      dsimp only
      split <;> rfl

theorem generate_eq {declared : List Field} (declares : declaredFields existing = .ok declared) :
    generate formatter shell name path existing =
      if (Field.merge declared).all Field.isWritable then
        .ok (format formatter shell (plain name path (Field.merge declared)))
      else .error .longInteger := by
  rw [generate, declares]
  rfl

/-- Generating a component from its own document, if the fields are read back as it declares them,
gives the same document again. -/
theorem generate_again
    (generates : generate formatter shell name path existing = .ok generation)
    (rereads : (declaredFields (some generation.component.text)).map Field.merge =
      .ok (generation.component.fields.map Field.declared)) :
    ∃ again, generate formatter shell name path (some generation.component.text) = .ok again ∧
      again.component = generation.component.redeclared := by
  cases declares : declaredFields existing with
  | error fault =>
      rw [generate, declares] at generates
      cases generates
  | ok declared =>
      rw [generate_eq declares] at generates
      split_ifs at generates with writable
      obtain rfl := Except.ok.inj generates
      rw [fields_format] at rereads
      cases redeclares : declaredFields (some (format formatter shell
          (plain name path (Field.merge declared))).component.text) with
      | error fault => rw [redeclares] at rereads; cases rereads
      | ok again =>
          rw [redeclares] at rereads
          have merged : Field.merge again = (Field.merge declared).map Field.declared :=
            Except.ok.inj rereads
          have stillWritable :
              ((Field.merge declared).map Field.declared).all Field.isWritable := by
            rw [List.all_eq_true] at writable ⊢
            intro field member
            obtain ⟨original, among, rfl⟩ := List.mem_map.mp member
            exact Field.isWritable_declared (writable original among)
          refine ⟨_, by rw [generate_eq redeclares, merged, if_pos stillWritable], ?_⟩
          rw [plain_declared, format_redeclared]

/-- A component with nothing but settled fields is declared as it is. -/
theorem redeclared_of_isSettled (settled : ∀ field ∈ component.fields, field.IsSettled) :
    component.redeclared = component := by
  have same : component.fields.map Field.declared = component.fields := by
    rw [List.map_congr_left fun field member => Field.declared_of_isSettled (settled field member)]
    exact List.map_id' component.fields
  rw [redeclared, same]

end Component

/-! ## Targets -/

namespace Target

variable {settings : Settings} {workplace : Place} {component : Component} {fields : List Field}

theorem keepFirst_declared (seen : List Text) :
    Field.keepFirst seen (fields.map Field.declared) =
      (Field.keepFirst seen fields).map Field.declared := by
  induction fields generalizing seen with
  | nil => rfl
  | cons field rest inductionHypothesis =>
      rw [List.map_cons, Field.keepFirst, Field.keepFirst]
      rw [show field.declared.name = field.name from rfl]
      split_ifs
      · exact inductionHypothesis seen
      · rw [List.map_cons, inductionHypothesis]

theorem schemaText_declared : schemaText (fields.map Field.declared) = schemaText fields := by
  have entries : Schema.ofFields (fields.map Field.declared) = Schema.ofFields fields := by
    rw [Schema.ofFields, Schema.ofFields, keepFirst_declared, List.filter_map, List.map_map]
    refine List.map_congr_left fun field _ => ?_
    rw [Function.comp_apply, SchemaEntry.ofField, SchemaEntry.ofField,
      Field.effectiveDefault_declared]
    rfl
  rw [schemaText, entries, schemaText]

theorem namesText_declared : namesText (fields.map Field.declared) = namesText fields := by
  rw [namesText, List.map_map, namesText]
  rfl

theorem schemaEdit_declared (key : Text) :
    schemaEdit key (fields.map Field.declared) = schemaEdit key fields := by
  funext content
  rw [schemaEdit, schemaText_declared, schemaEdit]

theorem schemaRegistry_redeclared :
    schemaRegistry settings component.redeclared = schemaRegistry settings component := by
  have encodable : (component.fields.map Field.declared).all (fun field =>
        Schema.sharedNames.contains field.name || field.isEncodable) =
      component.fields.all fun field =>
        Schema.sharedNames.contains field.name || field.isEncodable := by
    rw [List.all_map]
    refine congrArg component.fields.all (funext fun field => ?_)
    rw [Function.comp_apply, Field.isEncodable_declared]
    rfl
  unfold schemaRegistry
  rw [show component.redeclared.fields = component.fields.map Field.declared from rfl,
    schemaEdit_declared, encodable]
  rfl

theorem propsRegistry_redeclared :
    propsRegistry settings component.redeclared = propsRegistry settings component := by
  unfold propsRegistry
  rw [show component.redeclared.fields = component.fields.map Field.declared from rfl,
    namesText_declared]
  rfl

/-- The targets that every site has, but for the mock data. -/
def lasting (settings : Settings) (workplace : Place) (component : Component) : List Target := [
  bundler settings workplace component,
  componentRegistry settings workplace component,
  schemaRegistry settings component,
  propsRegistry settings component,
  loader settings workplace component]

/-- Only the target for mock data differs for a component with its fields as its document declares
them. -/
theorem mem_registries_redeclared {target : Target} :
    target ∈ registries settings workplace component.redeclared ↔
      target = mockData settings component.redeclared ∨
        target ∈ lasting settings workplace component := by
  have same : registries settings workplace component.redeclared = [
        bundler settings workplace component,
        componentRegistry settings workplace component,
        schemaRegistry settings component,
        propsRegistry settings component] ++
      mockData settings component.redeclared :: [loader settings workplace component] := by
    rw [registries, schemaRegistry_redeclared, propsRegistry_redeclared]
    rfl
  rw [same, List.perm_middle.mem_iff, List.mem_cons]
  rfl

theorem mem_registries_of_lasting {target : Target}
    (member : target ∈ lasting settings workplace component) :
    target ∈ registries settings workplace component := by
  rw [lasting] at member
  rw [registries]
  simp only [List.mem_cons, List.not_mem_nil, or_false] at member ⊢
  rcases member with here | here | here | here | here <;> simp [here]

theorem forall_path_redeclared {p : Path → Prop}
    (all : ∀ target ∈ registries settings workplace component, p target.path) :
    ∀ target ∈ registries settings workplace component.redeclared, p target.path := by
  intro target member
  rcases mem_registries_redeclared.mp member with rfl | lasting
  · have among : mockData settings component ∈ registries settings workplace component := by
      simp [registries]
    exact all (mockData settings component) among
  · exact all target (mem_registries_of_lasting lasting)

end Target

end EmbedScaffold
