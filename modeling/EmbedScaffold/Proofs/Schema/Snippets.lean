import EmbedScaffold.Proofs.Field.Merge
import EmbedScaffold.Proofs.Literal.Rendered
import EmbedScaffold.Proofs.Template.Rendering
import EmbedScaffold.Run.Target

/-!
# The snippets of a component

The schema of a component and the clause with its sample values are self-contained, whatever
defaults its fields have.  Their names have to stay on one line, for a quoted name is not escaped
where it holds a line feed.
-/

namespace EmbedScaffold

open Text Scan Lexeme Literal

/-! ## Plain literals -/

theorem Literal.arePlainItems_iff {items : List Literal} :
    arePlainItems items = true ↔ ∀ item ∈ items, isPlain item = true := by
  induction items with
  | nil => simp [arePlainItems]
  | cons first rest inductionHypothesis => simp [arePlainItems, inductionHypothesis]

theorem Literal.arePlainMembers_iff {members : List (Text × Literal)} :
    arePlainMembers members = true ↔
      ∀ member ∈ members, '\n' ∉ member.1 ∧ isPlain member.2 = true := by
  induction members with
  | nil => simp [arePlainMembers]
  | cons first rest inductionHypothesis =>
      simp [arePlainMembers, inductionHypothesis, List.contains_eq_mem]

theorem Literal.isPlain_ofScalar (value : Scalar) : isPlain (.ofScalar value) = true := by
  cases value <;> rfl

theorem Field.isPlain_effectiveDefault (field : Field) :
    isPlain field.effectiveDefault = true := by
  obtain ⟨name, default⟩ := field
  cases default with
  | some value => exact isPlain_ofScalar value
  | none =>
      rw [Field.effectiveDefault]
      cases Field.guessKind name <;> rfl

theorem Field.isPlain_sample (field : Field) : isPlain field.sample = true := by
  obtain ⟨name, default⟩ := field
  cases default with
  | some value => exact isPlain_ofScalar value
  | none =>
      rw [Field.sample]
      split_ifs <;> rfl

theorem SchemaEntry.isPlain_literal {entry : SchemaEntry} (plain : isPlain entry.default = true) :
    isPlain entry.literal = true := by
  obtain ⟨kind, label, description, default, category, options⟩ := entry
  have isPath : isPath ("FIELD_TYPES.".toList ++ kind.constant) = true := by
    cases kind <;> decide
  have listed (texts : List Text) : isPlain (.list (texts.map .text)) = true := by
    rw [Literal.list, isPlain, arePlainItems_iff]
    intro item member
    obtain ⟨content, -, rfl⟩ := List.mem_map.mp member
    rfl
  cases options with
  | none => simpa [SchemaEntry.literal, isPlain, arePlainMembers, plain] using isPath
  | some texts => simpa [SchemaEntry.literal, isPlain, arePlainMembers, plain, listed] using isPath

/-! ## Schemas -/

/-- The text of an entry inside a schema. -/
def SchemaEntry.shown (entry : SchemaEntry) : Text :=
  (entry.literal.render (2 : Nat)).toOption.getD []

theorem SchemaEntry.render_literal {entry : SchemaEntry} (plain : isPlain entry.default = true) :
    entry.literal.render (2 : Nat) = .ok entry.shown ∧ SelfContained entry.shown := by
  obtain ⟨content, rendered, selfContained⟩ :=
    exists_render entry.literal (2 : Nat) (SchemaEntry.isPlain_literal plain)
  rw [SchemaEntry.shown, rendered]
  exact ⟨rfl, selfContained⟩

namespace Schema

variable {schema : Schema} {name : Text} {entry : SchemaEntry}

/-- An entry of a schema under its name. -/
def memberText (member : Text × SchemaEntry) : Text :=
  propertyKey member.1 ++ ": ".toList ++ member.2.shown

/-- What the fields of a schema begin with: the fields that all components share. -/
def sharedTexts : List Text :=
  ["...COMMON_FIELDS".toList, "...BRAND_COLOR_FIELDS".toList]

/-- A schema as the registry holds it, in the form of an object literal. -/
def shown (schema : Schema) : Text :=
  let fields := '\x7b' :: '\n' :: ((sharedTexts ++ schema.map memberText).flatMap (memberLine 1) ++
    (indentOf 1 ++ ['\x7d']))
  '\x7b' :: '\n' :: ([propertyKey "fields".toList ++ ": ".toList ++ fields].flatMap (memberLine 0) ++
    (indentOf 0 ++ ['\x7d']))

theorem selfContained_shown
    (each : ∀ member ∈ schema, '\n' ∉ member.1 ∧ isPlain member.2.default = true) :
    SelfContained schema.shown := by
  have fields : ∀ content ∈ sharedTexts ++ schema.map memberText, SelfContained content := by
    intro content member
    rcases List.mem_append.mp member with isShared | isMember
    · have bare : ∀ content ∈ sharedTexts, content ≠ [] ∧ content.all isBare = true := by decide
      exact .bare (bare content isShared).1 (bare content isShared).2
    · obtain ⟨entry, among, rfl⟩ := List.mem_map.mp isMember
      obtain ⟨sameLine, plain⟩ := each entry among
      exact (SchemaEntry.render_literal plain).2.member sameLine
  have inner : SelfContained ('\x7b' :: _) := .enclose rfl (interior_object 1 fields)
  have member := inner.member (show '\n' ∉ "fields".toList by decide)
  exact .enclose rfl (interior_object 0 fun content isMember => List.mem_singleton.mp isMember ▸ member)

/-- The body of the template's loop. -/
def memberPieces : List Template.Piece := [
  .verbatim "    ".toList,
  .hole (.variable "name".toList) .propertyKey,
  .verbatim ": ".toList,
  .hole (.variable "entry".toList) (.literal 2),
  .verbatim ",\n".toList]

theorem renderPieces_member (context : Template.Context) {literal : Literal} {content : Text}
    (shown : literal.render (2 : Nat) = .ok content) :
    Template.renderPieces (("name".toList, .text name) :: ("entry".toList, literal) :: context)
      memberPieces = .ok (memberLine 1 (propertyKey name ++ ": ".toList ++ content)) := by
  have named : Template.Reference.value
      (("name".toList, .text name) :: ("entry".toList, literal) :: context)
      (.variable "name".toList) = .ok (.text name) := by
    simp [Template.Reference.value, Template.lookupVariable]
  have valued : Template.Reference.value
      (("name".toList, .text name) :: ("entry".toList, literal) :: context)
      (.variable "entry".toList) = .ok literal := by
    simp [Template.Reference.value, Template.lookupVariable, List.lookup_cons]
  have rendered := Template.renderPieces_verbatim "    ".toList <|
    Template.renderPieces_hole named (Template.apply_propertyKey (.text name)) <|
      Template.renderPieces_verbatim ": ".toList <|
        Template.renderPieces_hole valued (Template.apply_literal shown) <|
          Template.renderPieces_verbatim ",\n".toList Template.renderPieces_nil
  have indent : indentOf (1 + 1) = "    ".toList := by decide
  have bare : (Literal.text name).display = name := rfl
  refine Eq.trans rendered (congrArg Except.ok ?_)
  rw [memberLine, indent, bare]
  simp only [List.append_assoc, List.append_nil]

/-- The template gives the schema with a line feed behind it. -/
theorem render_schemaEntry
    (each : ∀ member ∈ schema, isPlain member.2.default = true) :
    Template.render [("schema".toList, schema.literal)] Template.schemaEntry =
      .ok (schema.shown ++ ['\n']) := by
  have turns : (Template.Source.members "name".toList "entry".toList "schema".toList).contexts
      [("schema".toList, schema.literal)] = .ok (schema.map fun member =>
        [("name".toList, .text member.1), ("entry".toList, member.2.literal),
          ("schema".toList, schema.literal)]) := by
    simp [Template.Source.contexts, Template.lookupVariable, Schema.literal, bind, Except.bind, pure,
      Except.pure]
  have loop : Template.Block.render [("schema".toList, schema.literal)] (.loop _ memberPieces) =
      .ok (schema.flatMap (memberLine 1 ∘ memberText)) :=
    Template.render_loop turns fun member among =>
      renderPieces_member _ (SchemaEntry.render_literal (each member among)).1
  have verbatim (content : Text) :
      Template.renderPieces [("schema".toList, schema.literal)] [.verbatim content] =
        .ok (content ++ []) :=
    Template.renderPieces_verbatim content Template.renderPieces_nil
  have front := verbatim ("\x7b\n" ++ "  fields: \x7b\n" ++ "    ...COMMON_FIELDS,\n" ++
    "    ...BRAND_COLOR_FIELDS,\n").toList
  have back := verbatim ("  \x7d,\n" ++ "\x7d\n").toList
  have whole := Template.render_three (Template.render_plain front) loop (Template.render_plain back)
  have opening : ("\x7b\n" ++ "  fields: \x7b\n" ++ "    ...COMMON_FIELDS,\n" ++
      "    ...BRAND_COLOR_FIELDS,\n").toList =
        '\x7b' :: '\n' :: (indentOf 1 ++ (propertyKey "fields".toList ++ ": ".toList ++
          '\x7b' :: '\n' :: sharedTexts.flatMap (memberLine 1))) := by
    decide
  have closing : ("  \x7d,\n" ++ "\x7d\n").toList =
      indentOf 1 ++ '\x7d' :: ",\n".toList ++ indentOf 0 ++ ['\x7d', '\n'] := by
    decide
  refine Eq.trans whole (congrArg Except.ok ?_)
  rw [opening, closing, shown, List.flatMap_append, List.flatMap_map, List.flatMap_singleton]
  simp only [memberLine, List.append_assoc, List.cons_append, List.nil_append]
  rfl

theorem strip_shown
    (each : ∀ member ∈ schema, '\n' ∉ member.1 ∧ isPlain member.2.default = true) :
    strip (Template.fill [("schema".toList, schema.literal)] Template.schemaEntry) =
      schema.shown := by
  rw [Template.fill, render_schemaEntry fun member among => (each member among).2]
  exact (selfContained_shown each).strip_line

/-- The entries of a schema have the names and the defaults of fields. -/
theorem mem_ofFields {fields : List Field} {skipped : List Text} {member : Text × SchemaEntry}
    (among : member ∈ ofFields fields skipped) :
    ∃ field ∈ fields, member.1 = field.name ∧ member.2.default = field.effectiveDefault := by
  obtain ⟨field, kept, rfl⟩ := List.mem_map.mp among
  exact ⟨field, Field.mem_of_mem_keepFirst (List.mem_filter.mp kept).1, rfl, rfl⟩

/-- The schema of fields is self-contained. -/
theorem selfContained_ofFields {fields : List Field} (named : ∀ field ∈ fields, '\n' ∉ field.name)
    (skipped : List Text) :
    SelfContained (strip <| Template.fill
      [("schema".toList, (ofFields fields skipped).literal)] Template.schemaEntry) := by
  have each : ∀ member ∈ ofFields fields skipped,
      '\n' ∉ member.1 ∧ isPlain member.2.default = true := by
    intro member among
    obtain ⟨field, isField, name, default⟩ := mem_ofFields among
    rw [name, default]
    exact ⟨named field isField, field.isPlain_effectiveDefault⟩
  rw [strip_shown each]
  exact selfContained_shown each

end Schema

/-! ## Sample values -/

/-- What holds of all members of an object literal holds of those that are kept of them. -/
theorem Literal.exists_ofMembers (holds : Text → Literal → Prop) {members : List (Text × Literal)}
    (each : ∀ member ∈ members, holds member.1 member.2) :
    ∃ kept, Literal.ofMembers members = .object kept ∧
      ∀ member ∈ kept, holds member.1 member.2 := by
  let insert (kept : List (Text × Literal)) (member : Text × Literal) : List (Text × Literal) :=
    if kept.any (·.1 = member.1) then
      kept.map fun known => (known.1, if known.1 = member.1 then member.2 else known.2)
    else kept ++ [member]
  have step (kept : List (Text × Literal)) (keeps : ∀ member ∈ kept, holds member.1 member.2)
      (member : Text × Literal) (held : holds member.1 member.2) :
      ∀ other ∈ insert kept member, holds other.1 other.2 := by
    intro other among
    dsimp only [insert] at among
    split at among
    · obtain ⟨known, isKept, rfl⟩ := List.mem_map.mp among
      dsimp only
      split
      · next same => exact same ▸ held
      · exact keeps _ isKept
    · rcases List.mem_append.mp among with isKept | isNew
      · exact keeps _ isKept
      · exact List.mem_singleton.mp isNew ▸ held
  have run (kept : List (Text × Literal)) (keeps : ∀ member ∈ kept, holds member.1 member.2) :
      ∀ other ∈ members.foldl insert kept, holds other.1 other.2 := by
    induction members generalizing kept with
    | nil => exact keeps
    | cons first rest inductionHypothesis =>
        exact inductionHypothesis (fun member among => each member (List.mem_cons_of_mem _ among)) _
          (step kept keeps first (each first List.mem_cons_self))
  exact ⟨_, rfl, run [] (by simp)⟩

/-- A word that begins a clause of a switch. -/
def Token.isClauseWord (token : Token) : Bool :=
  token.isWord "case".toList || token.isWord "default".toList

/-- Whether a text has tokens, and no word outside its brackets begins a clause of a switch. -/
def isClauseFree (content : Text) : Bool :=
  match Document.ofText content with
  | .error _ => false
  | .ok document => (document.topLevelWhere Token.isClauseWord 0 document.tokens.size).isEmpty

theorem isClauseFree_of_nest {lexemes : List Lexeme} (fits : Fits true lexemes [])
    (nest : Nest (·.token.isClauseWord) lexemes) : isClauseFree (textOf lexemes) = true := by
  obtain ⟨document, scannedText, scanned⟩ := exists_scanned fits (Trailing.ofTrivia .nil)
    (by simpa [closes] using nest.closes_append [] [])
  have avoids (lexeme : Lexeme) (offset : Nat) (goesOn : lexeme.token.isClauseWord = false) :
      (lexeme.tokenAt offset).isClauseWord = false := by
    rw [Token.isClauseWord, (kindred_tokenAt offset lexeme).isWord,
      (kindred_tokenAt offset lexeme).isWord]
    exact goesOn
  rw [List.append_nil] at scannedText
  rw [isClauseFree, scannedText]
  dsimp only
  rw [scanned.topLevelWhere_whole avoids nest]
  rfl

/-- A statement that returns an object. -/
theorem exists_returned {rest : Text} (interior : Interior '\x7d' rest) :
    ∃ lexemes, "return ".toList ++ ('\x7b' :: rest ++ [';']) = textOf lexemes ∧ Snippet lexemes ∧
      Nest (·.token.isClauseWord) lexemes := by
  obtain ⟨others, rfl, fits, ⟨inner, gap, rfl, balanced⟩, wordsApart⟩ := interior
  let head : Lexeme := ⟨[], .word, "return".toList⟩
  let brace : Lexeme := ⟨[' '], .punct, ['\x7b']⟩
  let closing : Lexeme := ⟨gap, .punct, ['\x7d']⟩
  let ending : Lexeme := ⟨[], .punct, [';']⟩
  have nest {stops : Lexeme → Bool} (noHead : stops head = false) (noEnding : stops ending = false) :
      Nest stops (head :: brace :: (inner ++ [closing] ++ [ending])) := by
    rw [List.append_assoc]
    exact .plain rfl rfl noHead <|
      .group rfl ((Lexeme.isPunct_iff _ _).mpr ⟨rfl, rfl⟩) balanced (.single rfl rfl noEnding)
  have letters : ∀ letter ∈ "return".toList, isWordChar letter = true := forall_of_all (by decide)
  have allFit : Fits true (head :: brace :: (inner ++ [closing] ++ [ending])) [] := by
    refine ⟨.nil, .word (by decide) letters true,
      .ofLetters letters ?_, Fits.mark rfl (.ofBlank rfl) ?_⟩
    · rintro _ ⟨⟩
      rfl
    · exact fits_append.mpr ⟨fits _, Fits.mark rfl .nil trivial⟩
  refine ⟨head :: brace :: (inner ++ [closing] ++ [ending]), ?_, ⟨⟨allFit, by simp, rfl,
    nest rfl rfl, ?_⟩, ?_⟩, nest rfl rfl⟩
  · simp [head, brace, closing, ending, Lexeme.text]
  · intro last member
    rw [← List.cons_append, ← List.cons_append, List.getLast?_concat] at member
    rw [← Option.some.inj member]
    decide
  · have behind := wordsApart.around (show ending.kind ≠ .word by decide) wordsApart_nil
    exact (wordsApart_singleton head).around (show brace.kind ≠ .word by decide) behind

/-- The clause returns the object of the sample values. -/
theorem Target.mockText_of_render {fields : List Field} {content : Text}
    (rendered : (Literal.ofMembers (fields.map fun field => (field.name, field.sample))).render
      (0 : Nat) = .ok content) :
    mockText fields = "return ".toList ++ (content ++ ";\n".toList) := by
  generalize gathered : Literal.ofMembers (fields.map fun field => (field.name, field.sample)) =
    values at rendered
  have valued : Template.Reference.value [("values".toList, values)] (.variable "values".toList) =
      .ok values := by
    simp [Template.Reference.value, Template.lookupVariable]
  have pieces := Template.renderPieces_verbatim "return ".toList <|
    Template.renderPieces_hole valued (Template.apply_literal rendered) <|
      Template.renderPieces_verbatim ";\n".toList Template.renderPieces_nil
  have filled : Template.render [("values".toList, values)] Template.mockCase = _ :=
    Template.render_one (Template.render_plain pieces)
  rw [mockText, gathered, Template.fill, filled]
  exact congrArg (_ ++ ·) (congrArg (_ ++ ·) (List.append_nil _))

/-- The clause that returns sample values is a self-contained statement in which no clause
begins. -/
theorem mockText_returned {fields : List Field} (named : ∀ field ∈ fields, '\n' ∉ field.name) :
    ∃ lexemes, strip (Target.mockText fields) = textOf lexemes ∧ Snippet lexemes ∧
      Nest (·.token.isClauseWord) lexemes ∧
      (strip (Target.mockText fields)).getLast? = some ';' := by
  have held : ∀ member ∈ fields.map fun field => (field.name, field.sample),
      '\n' ∉ member.1 ∧ isPlain member.2 = true := by
    intro member among
    obtain ⟨field, isField, rfl⟩ := List.mem_map.mp among
    exact ⟨named field isField, field.isPlain_sample⟩
  obtain ⟨kept, members, each⟩ := Literal.exists_ofMembers
    (fun name value => '\n' ∉ name ∧ isPlain value = true) held
  have shown := exists_renderMembers kept ((0 : Nat) + 1) (arePlainMembers_iff.mpr each)
  obtain ⟨rest, rendered, interior⟩ := exists_renderObject shown
  rw [← members] at rendered
  obtain ⟨lexemes, shape, snippet, nest⟩ := exists_returned interior
  have text : Target.mockText fields = "return ".toList ++ ('\x7b' :: rest ++ [';']) ++ ['\n'] := by
    rw [Target.mockText_of_render rendered]
    simp
  have stripped := SelfContained.strip_line ⟨lexemes, shape, snippet⟩
  rw [text, stripped]
  refine ⟨lexemes, shape, snippet, nest, ?_⟩
  rw [← List.append_assoc, List.getLast?_concat]

/-! ## All snippets -/

end EmbedScaffold
