import EmbedScaffold.Proofs.Component.Declared
import EmbedScaffold.Proofs.Component.Script
import EmbedScaffold.Proofs.Field.Merge
import EmbedScaffold.Proofs.Literal.Embedded
import EmbedScaffold.Proofs.Markup.Options
import EmbedScaffold.Proofs.Script.Fields
import EmbedScaffold.Proofs.Script.Plain

/-!
# Reading a document back

The script of a generated document is plain: its lines are imports, remarks, declarations and a call.
It declares the fields as the document was given them, so that generating the component again gives
the same document.
-/

namespace EmbedScaffold

open Text Literal

namespace Component

/-! ## Defaults -/

/-- A literal that is read back as a default and stays within its line and within its script. -/
structure Reads (literal : Text) (default : Option Scalar) : Prop where
  value : Script.Plain.value? (literal ++ [';']) = some default
  oneLine : '\n' ∉ literal
  noTag : Markup.bodyAndClosing? literal = none

/-- Whether a document keeps a field's default: it is no floating-point number, it has no half of a
surrogate pair, and it holds no closing tag of a script. -/
def isKept (field : Field) : Bool :=
  match field.default with
  | some (.decimal _) | some (.illFormed _) => false
  | some (.text content) => (Markup.bodyAndClosing? content).isNone
  | some (.boolean _) | some (.integer _) | none => true

section Default

variable {field : Field}

theorem Reads.ofText {content : Text} (noTag : Markup.bodyAndClosing? content = none) :
    Reads (jsonString content) (some (.text content)) :=
  ⟨Script.Plain.value?_jsonString content, notMem_jsonString_of_control (by decide) content,
    bodyAndClosing?_jsonString noTag⟩

theorem Reads.ofDigits {number : Nat} (within : (ofNat number).length ≤ 4300) :
    Reads (ofNat number) (some (.integer number)) := by
  have apart {other : Char} (noDigit : other.isDigit = false) : other ∉ ofNat number := by
    intro member
    rw [isDigit_of_mem_ofNat member] at noDigit
    cases noDigit
  exact ⟨Script.Plain.value?_ofNat within, apart rfl, Markup.bodyAndClosing?_of_notMem (apart rfl)⟩

/-- The defaults that are written as words are read back. -/
theorem Reads.ofBoolean (value : Bool) :
    Reads (if value then "true".toList else "false".toList) (some (.boolean value)) := by
  cases value with
  | true => exact ⟨rfl, by decide, rfl⟩
  | false => exact ⟨rfl, by decide, rfl⟩

theorem Reads.ofEmptyList : Reads "[]".toList none :=
  ⟨rfl, by decide, rfl⟩

theorem length_ofNat_le {number length : Nat} (positive : 0 < length)
    (bound : number < Nat.pow 10 length) : (ofNat number).length ≤ length :=
  (Nat.length_toDigits_le_iff (by decide) positive).mpr bound

theorem isWritable_some (name : Text) (value : Scalar) :
    Field.isWritable ⟨name, some value⟩ = value.isWritable :=
  rfl

/-- A field is read back as it is declared. -/
theorem reads_literalText (isRead : field.IsRead) (writable : field.isWritable = true)
    (kept : isKept field = true) : Reads (literalText field) field.declared.default := by
  obtain ⟨name, default⟩ := field
  cases default with
  | none =>
      rw [literalText, Field.effectiveDefault, Field.declared, Option.none_or]
      cases Field.guessKind name with
      | array => exact .ofEmptyList
      | color => exact @Reads.ofText "#000000".toList (by decide)
      | text => exact @Reads.ofText [] rfl
      | select => exact @Reads.ofText [] rfl
  | some value =>
      cases value with
      | text content => exact .ofText (Option.isNone_iff_eq_none.mp kept)
      | illFormed codes => cases kept
      | boolean truth => exact .ofBoolean truth
      | integer number =>
          obtain ⟨natural, rfl⟩ := Int.eq_ofNat_of_zero_le (isRead.natural number rfl)
          rw [isWritable_some, Scalar.isWritable, decide_eq_true_eq, Int.natAbs_natCast] at writable
          exact .ofDigits (length_ofNat_le (by decide) writable)
      | decimal number => cases kept

end Default

/-! ## The lines of a script -/

section Lines

variable {name literal : Text} {default : Option Scalar} {fields : List Field}

/-- The line that declares a variable, without its line feed. -/
def declarationLine (name literal : Text) : Text :=
  "  ".toList ++ ("export let ".toList ++ (name ++ (" = ".toList ++ (literal ++ [';']))))

theorem dropWhile_declarationLine (name literal : Text) :
    (declarationLine name literal).dropWhile Script.Plain.isIndent =
      "export let ".toList ++ (name ++ (" = ".toList ++ (literal ++ [';']))) :=
  rfl

theorem ofContent?_declarationLine (isName : Script.isVariableName name = true)
    (reads : Reads literal default) :
    Script.Plain.Line.ofContent? ((declarationLine name literal).dropWhile Script.Plain.isIndent) =
      some (.declaring ⟨name, default⟩) := by
  rw [dropWhile_declarationLine]
  exact Script.Plain.ofContent?_declaring isName reads.value

/-- The line that declares a variable without a default. -/
def bareLine (name : Text) : Text :=
  "  ".toList ++ ("export let ".toList ++ (name ++ [';']))

theorem ofContent?_bareLine (isName : Script.isVariableName name = true) :
    Script.Plain.Line.ofContent? ((bareLine name).dropWhile Script.Plain.isIndent) =
      some (.declaring ⟨name, none⟩) := by
  have stripped : (bareLine name).dropWhile Script.Plain.isIndent =
      "export let ".toList ++ (name ++ [';']) := rfl
  rw [stripped]
  exact Script.Plain.ofContent?_exporting (Script.Plain.declared?_bare isName)

theorem notMem_declarationLine (isName : Script.isVariableName name = true)
    (oneLine : '\n' ∉ literal) : '\n' ∉ declarationLine name literal := by
  have nameLine : '\n' ∉ name :=
    (Script.Plain.isNameText_of_isVariableName isName).notMem (by decide) rfl rfl
  have indent : '\n' ∉ "  ".toList := by decide
  have opening : '\n' ∉ "export let ".toList := by decide
  have equals : '\n' ∉ " = ".toList := by decide
  have ending : '\n' ∉ [';'] := by decide
  rw [declarationLine, List.mem_append, List.mem_append, List.mem_append, List.mem_append,
    List.mem_append, not_or, not_or, not_or, not_or, not_or]
  exact ⟨indent, opening, nameLine, equals, oneLine, ending⟩

/-- The lines of the imports and of the remark. -/
def importLines : List Text :=
  (splitOn '\n' scriptImports).tail

/-- The line that imports a name; `path` is what follows the quote of the path. -/
def namedImport (name path : Text) : Text :=
  "  ".toList ++ ("import \x7b ".toList ++ (name ++ (" \x7d from '".toList ++ path)))

theorem importLines_eq : importLines = [
    namedImport "onMount".toList "svelte';".toList,
    namedImport "parseArrayProp".toList "./utils/propUtils.js';".toList,
    [],
    "  // Retain kebab-case tag name for runtime reference".toList] := by
  delta importLines scriptImports
  rw [String.toList_append, String.toList_append]
  repeat rw [String.toList_ofList]
  decide

theorem isPassed_namedImport {path : Text} (isName : Script.isVariableName name = true)
    (closes : (Script.readString? '\'' 0 path).map Prod.snd = some [';']) :
    Script.Plain.isPassed (namedImport name path) = true := by
  have stripped : (namedImport name path).dropWhile Script.Plain.isIndent =
      "import \x7b ".toList ++ (name ++ (" \x7d from '".toList ++ path)) := rfl
  rw [Script.Plain.isPassed, stripped, Script.Plain.ofContent?_importing isName closes]

/-- The imports and the remark declare nothing. -/
theorem all_isPassed_importLines : importLines.all Script.Plain.isPassed = true := by
  have mounting : Script.isVariableName "onMount".toList = true := by
    rw [Script.isVariableName, Script.reservedWords, Script.reservedNames_eq]
    decide
  have parsing : Script.isVariableName "parseArrayProp".toList = true := by
    rw [Script.isVariableName, Script.reservedWords, Script.reservedNames_eq]
    decide
  have remark : Script.Plain.isPassed
      "  // Retain kebab-case tag name for runtime reference".toList = true := by
    decide
  rw [importLines_eq, List.all_cons, isPassed_namedImport mounting (by decide),
    List.all_cons, isPassed_namedImport parsing (by decide), List.all_cons, List.all_cons,
    remark]
  decide

def mountLines : List Text :=
  splitOn '\n' scriptMount

/-- The lines of a script behind the one of its tag. -/
def scriptLines (name : Text) (fields : List Field) : List Text :=
  importLines ++ (declarationLine identityName (jsonString (EmbedScaffold.lookupKey name)) :: [] ::
    (fields.map (fun field => declarationLine field.name (literalText field)) ++ mountLines))

def textOfLines (lines : List Text) : Text :=
  lines.flatMap (· ++ ['\n'])

theorem textOfLines_cons (line : Text) (lines : List Text) :
    textOfLines (line :: lines) = (line ++ ['\n']) ++ textOfLines lines :=
  List.flatMap_cons

theorem textOfLines_append (front back : List Text) :
    textOfLines (front ++ back) = textOfLines front ++ textOfLines back :=
  List.flatMap_append

theorem textOfLines_splitOn (content : Text) :
    textOfLines (splitOn '\n' content) = content ++ ['\n'] := by
  induction content with
  | nil => rfl
  | cons first rest inductionHypothesis =>
      by_cases feed : first = '\n'
      · rw [feed, splitOn_cons_self, textOfLines_cons, inductionHypothesis]
        rfl
      · obtain ⟨line, lines, pieced⟩ := List.exists_cons_of_ne_nil (splitOn_ne_nil '\n' rest)
        rw [pieced, textOfLines_cons] at inductionHypothesis
        rw [splitOn_cons_of_ne feed pieced, textOfLines_cons, List.cons_append, List.cons_append,
          inductionHypothesis]
        rfl

theorem splitOn_textOfLines {lines : List Text} (oneLine : ∀ line ∈ lines, '\n' ∉ line) :
    splitOn '\n' (textOfLines lines) = lines ++ [[]] := by
  induction lines with
  | nil => rfl
  | cons line others inductionHypothesis =>
      rw [List.forall_mem_cons] at oneLine
      rw [textOfLines_cons, List.append_assoc, List.singleton_append, splitOn_append_cons,
        splitOn_of_notMem oneLine.1, inductionHypothesis oneLine.2]
      rfl

theorem textOfLines_four (imports : List Text) (tagLine : Text) (lines mount : List Text) :
    textOfLines (imports ++ (tagLine :: [] :: (lines ++ mount))) = textOfLines imports ++
      (tagLine ++ ['\n'] ++ (['\n'] ++ (textOfLines lines ++ textOfLines mount))) := by
  rw [textOfLines_append, textOfLines_cons, textOfLines_cons, textOfLines_append, List.nil_append]

/-- The parts of a script as lines. -/
private theorem asLines {imports importText tagLine opening key ending lines lineText mount
    mountText : Text} (importParts : imports ++ ['\n'] = '\n' :: importText)
    (tagParts : opening ++ (key ++ ending) = tagLine ++ ['\n', '\n'])
    (lineParts : lines = lineText) (mountParts : mount ++ ['\n'] = mountText) :
    imports ++ ('\n' :: ((opening ++ (key ++ (ending ++ lines))) ++ (mount ++ ['\n']))) =
      '\n' :: (importText ++ (tagLine ++ ['\n'] ++ (['\n'] ++ (lineText ++ mountText)))) := by
  have front : imports ++ '\n' :: (opening ++ (key ++ ending)) =
      '\n' :: (importText ++ (tagLine ++ ['\n', '\n'])) := by
    rw [← List.singleton_append, ← List.append_assoc, importParts, tagParts]
    rfl
  rw [mountParts, lineParts]
  have whole := congrArg (· ++ (lineText ++ mountText)) front
  simpa using whole

/-- The declaration of the tag's name with the line feeds behind it. -/
private theorem asTagLine {opening indent exporting named equals ending : Text}
    (openingParts : opening = indent ++ (exporting ++ (named ++ equals)))
    (endingParts : ending = [';', '\n', '\n']) (key : Text) :
    opening ++ (key ++ ending) =
      indent ++ (exporting ++ (named ++ (equals ++ (key ++ [';'])))) ++ ['\n', '\n'] := by
  simp [openingParts, endingParts]

/-- A declaration with its line feed. -/
private theorem asLine {opening indent exporting equals ending : Text}
    (openingParts : opening = indent ++ exporting) (endingParts : ending = [';', '\n'])
    (name literal : Text) :
    opening ++ (name ++ (equals ++ (literal ++ ending))) =
      indent ++ (exporting ++ (name ++ (equals ++ (literal ++ [';'])))) ++ ['\n'] := by
  simp [openingParts, endingParts]

theorem fieldLine_line (field : Field) :
    fieldLine field = declarationLine field.name (literalText field) ++ ['\n'] :=
  asLine (by decide) (by decide) _ _

theorem scriptText_lines (name : Text) (fields : List Field) :
    scriptText name fields = '\n' :: textOfLines (scriptLines name fields) := by
  have imports : scriptImports ++ ['\n'] = '\n' :: textOfLines importLines := by
    obtain ⟨rest, shape⟩ : ∃ rest, scriptImports = '\n' :: rest := by
      delta scriptImports
      rw [String.toList_append, String.toList_append]
      repeat rw [String.toList_ofList]
      exact ⟨_, rfl⟩
    rw [importLines, shape, splitOn_cons_self, List.tail_cons, textOfLines_splitOn]
    rfl
  have mount : scriptMount ++ ['\n'] = textOfLines mountLines := (textOfLines_splitOn _).symm
  have lines : fields.flatMap fieldLine = textOfLines
      (fields.map fun field => declarationLine field.name (literalText field)) := by
    rw [textOfLines, List.flatMap_map]
    exact congrArg fields.flatMap (funext fieldLine_line)
  have tagName : "  export let tagName = ".toList ++
      (jsonString (EmbedScaffold.lookupKey name) ++ ";\n\n".toList) =
        declarationLine identityName (jsonString (EmbedScaffold.lookupKey name)) ++ ['\n', '\n'] :=
    asTagLine (by decide) (by decide) _
  exact (asLines imports tagName lines mount).trans
    (congrArg ('\n' :: ·) (textOfLines_four _ _ _ _).symm)

/-! ## Reading the lines -/

/-- A field whose declaration is read back. -/
structure IsLegible (field : Field) : Prop where
  named : Script.isVariableName field.name = true
  reads : Reads (literalText field) field.declared.default

/-- The field that a document declares for the name of its tag. -/
def identityField (name : Text) : Field :=
  ⟨identityName, some (.text (EmbedScaffold.lookupKey name))⟩

theorem reads_lookupKey (named : isDeclarationName name = true) :
    Reads (jsonString (EmbedScaffold.lookupKey name))
      (some (.text (EmbedScaffold.lookupKey name))) :=
  .ofText (Markup.bodyAndClosing?_of_notMem (notMem_lookupKey named))

theorem isVariableName_identityName : Script.isVariableName identityName = true := by
  rw [Script.isVariableName, Script.reservedWords, Script.reservedNames_eq]
  decide

theorem oneLine_scriptLines (legible : ∀ field ∈ fields, IsLegible field) :
    ∀ line ∈ scriptLines name fields, '\n' ∉ line := by
  have imports : ∀ line ∈ importLines, '\n' ∉ line := fun _ among =>
    notMem_of_mem_splitOn (List.mem_of_mem_tail among)
  have mount : ∀ line ∈ mountLines, '\n' ∉ line := fun _ => notMem_of_mem_splitOn
  have tagName := notMem_declarationLine isVariableName_identityName
    (notMem_jsonString_of_control (by decide) (EmbedScaffold.lookupKey name))
  intro line member
  rcases List.mem_append.mp member with among | member
  · exact imports line among
  · rcases List.mem_cons.mp member with rfl | member
    · exact tagName
    · rcases List.mem_cons.mp member with rfl | member
      · exact List.not_mem_nil
      · rcases List.mem_append.mp member with among | among
        · obtain ⟨field, inside, rfl⟩ := List.mem_map.mp among
          exact notMem_declarationLine (legible field inside).named
            (legible field inside).reads.oneLine
        · exact mount line among

/-- The fields of a list of lines like those of a script. -/
private theorem collect?_lines {imports mount : List Text} {tagLine : Text} {tagField : Field}
    {line : Field → Text} (front : ([] :: imports).all Script.Plain.isPassed = true)
    (tag : Script.Plain.Line.ofContent? (tagLine.dropWhile Script.Plain.isIndent) =
      some (.declaring tagField))
    (declares : ∀ field ∈ fields, Script.Plain.Line.ofContent?
      ((line field).dropWhile Script.Plain.isIndent) = some (.declaring field.declared))
    (back : Script.Plain.collect? false (mount ++ [[]]) = some []) :
    Script.Plain.collect? false
        ([] :: (imports ++ (tagLine :: [] :: (fields.map line ++ mount)) ++ [[]])) =
      some (tagField :: fields.map Field.declared) := by
  have gap : [([] : Text)].all Script.Plain.isPassed = true := by decide
  have shape : [] :: (imports ++ (tagLine :: [] :: (fields.map line ++ mount)) ++ [[]]) =
      ([] :: imports) ++ (tagLine :: ([[]] ++ (fields.map line ++ (mount ++ [[]])))) := by
    simp
  rw [shape, Script.Plain.collect?_passed front, Script.Plain.collect?_cons_declaring tag,
    Script.Plain.collect?_passed gap, Script.Plain.collect?_declaring declares, back]
  simp

/-- The script of a document is plain, and declares its fields as they are declared. -/
theorem fields_scriptText (named : isDeclarationName name = true)
    (legible : ∀ field ∈ fields, IsLegible field) :
    Script.fields (scriptText name fields) =
      .ok (identityField name :: fields.map Field.declared) := by
  have front : ([] :: importLines).all Script.Plain.isPassed = true := by
    rw [List.all_cons, all_isPassed_importLines]
    rfl
  have back : Script.Plain.collect? false (mountLines ++ [[]]) = some [] := by decide
  have tag := ofContent?_declarationLine isVariableName_identityName (reads_lookupKey named)
  have declares : ∀ field ∈ fields, Script.Plain.Line.ofContent?
      ((declarationLine field.name (literalText field)).dropWhile Script.Plain.isIndent) =
        some (.declaring field.declared) := fun field member =>
    ofContent?_declarationLine (legible field member).named (legible field member).reads
  have plain : Script.Plain.fields? (scriptText name fields) =
      some (identityField name :: fields.map Field.declared) := by
    rw [Script.Plain.fields?, scriptText_lines, splitOn_cons_self,
      splitOn_textOfLines (oneLine_scriptLines legible)]
    exact collect?_lines front tag declares back
  rw [Script.fields, plain]

end Lines

/-! ## Reading the document -/

section Document

variable {name : Text} {fields : List Field}

/-- A line whose first character but blanks is no opening bracket. -/
def beginsPlain (line : Text) : Bool :=
  ! line.contains '\n' && (line.dropWhile Markup.isSpaceOrTab).head? != some '<'

theorem untouched_textOfLines {lines : List Text} (plain : lines.all beginsPlain = true) :
    Markup.Untouched (textOfLines lines) := by
  induction lines with
  | nil => exact .nil
  | cons line others inductionHypothesis =>
      rw [List.all_cons, Bool.and_eq_true] at plain
      have begins := plain.1
      simp only [beginsPlain, Bool.and_eq_true, Bool.not_eq_true', bne_iff_ne, ne_eq] at begins
      have oneLine : '\n' ∉ line := fun member => by
        rw [List.contains_iff_mem.mpr member] at begins
        cases begins.1
      rw [textOfLines_cons]
      exact (Markup.Untouched.ofPlainLine oneLine begins.2).append (inductionHypothesis plain.2)

theorem beginsPlain_declarationLine {literal : Text} (isName : Script.isVariableName name = true)
    (oneLine : '\n' ∉ literal) : beginsPlain (declarationLine name literal) = true := by
  have absent : (declarationLine name literal).contains '\n' = false :=
    Bool.eq_false_iff.mpr fun member =>
      notMem_declarationLine isName oneLine (List.contains_iff_mem.mp member)
  rw [beginsPlain, absent]
  rfl

theorem all_beginsPlain (name : Text) (legible : ∀ field ∈ fields, IsLegible field) :
    (scriptLines name fields).all beginsPlain = true := by
  have imports : importLines.all beginsPlain = true := by
    rw [importLines_eq]
    decide
  have mount : mountLines.all beginsPlain = true := by decide
  have tagName := beginsPlain_declarationLine isVariableName_identityName
    (notMem_jsonString_of_control (by decide) (EmbedScaffold.lookupKey name))
  have lines : (fields.map fun field =>
      declarationLine field.name (literalText field)).all beginsPlain = true := by
    rw [List.all_map, List.all_eq_true]
    exact fun field member => beginsPlain_declarationLine (legible field member).named
      (legible field member).reads.oneLine
  rw [scriptLines, List.all_append, imports, List.all_cons, tagName, List.all_cons,
    List.all_append, lines, mount]
  rfl

/-- A document with its first line apart. -/
private theorem firstLine (opening attributes tag lines behind : Text) :
    (opening ++ (attributes ++ '/' :: '>' :: '\n' :: '\n' :: tag)) ++ ('\n' :: lines ++ behind) =
      opening ++ (attributes ++ '/' :: '>' :: '\n' ::
        ((([] ++ ['\n']) ++ (tag ++ ['\n']) ++ lines) ++ behind)) := by
  simp

private theorem laterLines (tag lines closing rest : Text) :
    (([] ++ ['\n']) ++ (tag ++ ['\n']) ++ lines) ++ (closing ++ rest) =
      '\n' :: (tag ++ ('\n' :: lines ++ (closing ++ rest))) := by
  simp

/-- Only the first line of a document is deleted before its script is read. -/
theorem exists_withoutOptions (legible : ∀ field ∈ fields, IsLegible field) :
    ∃ rest, Markup.withoutOptions (document name fields) =
      '\n' :: ("<script>".toList ++ (scriptText name fields ++ ("</script>".toList ++ rest))) := by
  obtain ⟨attributes, noEnd, head⟩ : ∃ attributes, '>' ∉ attributes ∧ documentHead =
      "<svelte:options".toList ++ (attributes ++ '/' :: '>' :: '\n' :: '\n' ::
        "<script>".toList) :=
    ⟨" customElement=\x7btrue\x7d ".toList, by decide, by decide⟩
  obtain ⟨behind, tail⟩ : ∃ behind, documentTail fields = "</script>".toList ++ behind := ⟨_, rfl⟩
  obtain ⟨rest, closing⟩ : ∃ rest, Markup.withoutOptionsFrom 0 '\n' ("</script>".toList ++ behind) =
      "</script>".toList ++ rest := ⟨_, rfl⟩
  have blank : Markup.Untouched ([] ++ ['\n']) := .ofPlainLine (by decide) (by decide)
  have tag : Markup.Untouched ("<script>".toList ++ ['\n']) :=
    .ofLine (by decide) fun _ => rfl
  have kept := (blank.append tag).append (untouched_textOfLines (all_beginsPlain name legible))
  refine ⟨rest, ?_⟩
  rw [document_eq, head, scriptText_lines, tail, firstLine, Markup.withoutOptions_element noEnd,
    Markup.withoutOptions, kept, closing]
  exact laterLines _ _ _ _

theorem instanceScript_withoutOptions (named : isDeclarationName name = true)
    (legible : ∀ field ∈ fields, IsLegible field) :
    Markup.instanceScript (Markup.withoutOptions (document name fields)) =
      scriptText name fields := by
  have identifiers : ∀ field ∈ fields, Script.nameLength field.name = field.name.length := by
    intro field member
    have isName := (legible field member).named
    simp only [Script.isVariableName, Bool.and_eq_true, decide_eq_true_eq] at isName
    exact isName.1.2
  have noTag : Markup.bodyAndClosing? (scriptText name fields) = none :=
    (bodyAndClosing?_scriptText named identifiers).mpr fun field member =>
      (legible field member).reads.noTag
  obtain ⟨rest, shape⟩ := @exists_withoutOptions name fields legible
  have noBracket : '<' ∉ ['\n'] := by decide
  rw [shape, ← List.singleton_append, Markup.instanceScript,
    Markup.instanceScriptFrom_append noBracket, Markup.instanceScriptFrom_script, noTag]
  rfl

/-- A document declares its fields as they are declared. -/
theorem declaredFields_document (named : isDeclarationName name = true)
    (legible : ∀ field ∈ fields, IsLegible field)
    (noIdentity : ∀ field ∈ fields, field.name ≠ identityName) :
    declaredFields (some (document name fields)) = .ok (fields.map Field.declared) := by
  have others : (fields.map Field.declared).filter (fun field => field.name ≠ identityName) =
      fields.map Field.declared := by
    refine List.filter_eq_self.mpr fun field member => ?_
    obtain ⟨original, among, rfl⟩ := List.mem_map.mp member
    exact decide_eq_true (noIdentity original among)
  rw [declaredFields, Option.getD_some, instanceScript_withoutOptions named legible,
    fields_scriptText named legible]
  show Except.ok ((identityField name :: fields.map Field.declared).filter _) = _
  rw [List.filter_cons_of_neg (by simp [identityField]), others]

end Document

/-! ## Generating again -/

section Generate

variable {name : Text} {path : Path} {shell : Shell} {existing : Option Text}
  {generation : Generation} {declared : List Field}

/-- What holds of the fields of an existing document. -/
theorem isRead_of_declaredFields (reads : declaredFields existing = .ok declared) :
    ∀ field ∈ declared, field.IsRead ∧ field.name ≠ identityName := by
  obtain ⟨fields, given, shape⟩ := exists_of_bind reads
  obtain rfl := Except.ok.inj shape
  intro field member
  obtain ⟨among, other⟩ := List.mem_filter.mp member
  exact ⟨Script.isRead_of_fields given field among, of_decide_eq_true other⟩

theorem isRead_of_shared : ∀ field ∈ Field.shared, field.IsRead ∧ field.name ≠ identityName := by
  have names : ∀ field ∈ Field.shared,
      Script.isVariableName field.name = true ∧ field.name ≠ identityName := by
    simp only [Script.isVariableName, Script.reservedWords, Script.reservedNames_eq]
    decide
  intro field member
  refine ⟨⟨(names field member).1, ?_⟩, (names field member).2⟩
  simp only [Field.shared, List.mem_cons, List.not_mem_nil, or_false] at member
  rcases member with rfl | rfl | rfl <;> rintro number ⟨⟩

/-- A document that declares a text with quotes, an integer, a name without a default and a name
twice. -/
theorem declaredFields_quoted :
    declaredFields (some ("<script>\n  export let title = 'a \"b\"';\n  export let size = 3;\n" ++
        "  export let tabs;\n  export let title = 'c';\n</script>\n").toList) = .ok [
      ⟨"title".toList, some (.text "a \"b\"".toList)⟩, ⟨"size".toList, some (.integer 3)⟩,
      ⟨"tabs".toList, none⟩, ⟨"title".toList, some (.text "c".toList)⟩] := by
  have named : ∀ name ∈ ["title".toList, "size".toList, "tabs".toList],
      Script.isVariableName name = true := by
    simp only [Script.isVariableName, Script.reservedWords, Script.reservedNames_eq]
    decide
  simp only [List.forall_mem_cons, List.not_mem_nil, false_implies, implies_true, and_true] at named
  obtain ⟨title, size, tabs⟩ := named
  have quoted : Reads "'a \"b\"'".toList (some (.text "a \"b\"".toList)) :=
    ⟨by decide, by decide, by decide⟩
  have digit : Reads "3".toList (some (.integer 3)) := ⟨by decide, by decide, by decide⟩
  have letter : Reads "'c'".toList (some (.text "c".toList)) := ⟨by decide, by decide, by decide⟩
  have lines : splitOn '\n' (Markup.instanceScript (Markup.withoutOptions
      ("<script>\n  export let title = 'a \"b\"';\n  export let size = 3;\n" ++
        "  export let tabs;\n  export let title = 'c';\n</script>\n").toList)) = [
      [], declarationLine "title".toList "'a \"b\"'".toList,
      declarationLine "size".toList "3".toList, bareLine "tabs".toList,
      declarationLine "title".toList "'c'".toList, []] := by
    rw [String.toList_append]
    repeat rw [String.toList_ofList]
    decide
  have blank : [([] : Text)].all Script.Plain.isPassed = true := by decide
  rw [declaredFields, Option.getD_some, Script.fields, Script.Plain.fields?, lines,
    ← List.singleton_append, Script.Plain.collect?_passed blank,
    Script.Plain.collect?_cons_declaring (ofContent?_declarationLine title quoted),
    Script.Plain.collect?_cons_declaring (ofContent?_declarationLine size digit),
    Script.Plain.collect?_cons_declaring (ofContent?_bareLine tabs),
    Script.Plain.collect?_cons_declaring (ofContent?_declarationLine title letter)]
  decide

end Generate

end Component

end EmbedScaffold
