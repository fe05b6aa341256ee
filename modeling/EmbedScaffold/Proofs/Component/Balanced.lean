import EmbedScaffold.Proofs.Component.Script
import EmbedScaffold.Proofs.Token.Stretch
import EmbedScaffold.Run.Staging

/-!
# The script of a document is balanced

Whatever names and defaults the fields have, the script that a document is given is balanced.  A
default that holds the closing tag of a script cuts the script short when it is read back, and the
part that is left ends inside a string.
-/

namespace EmbedScaffold

open Text Scan Literal

namespace Component

/-! ## Names and literals -/

section Name

variable {name : Text}

theorem isCalm_of_ne {tested : Char}
    (noSpecial : ['\'', '"', '`', '/', '.'].contains tested = false) : isCalm tested = true := by
  rw [isCalm, isMark, noSpecial]
  cases isBlank tested <;> cases isWordChar tested <;> rfl

/-- A name has no character that hides others. -/
theorem all_isCalm_name (isName : Script.IsNameText name) : name.all isCalm = true := by
  rw [List.all_eq_true]
  intro tested member
  refine isCalm_of_ne (Bool.eq_false_iff.mpr fun special => ?_)
  have absent : ∀ other ∈ ['\'', '"', '`', '/', '.'], other ∉ name := by
    simp only [List.forall_mem_cons]
    exact ⟨isName.notMem (by decide) rfl rfl, isName.notMem (by decide) rfl rfl,
      isName.notMem (by decide) rfl rfl, isName.notMem (by decide) rfl rfl,
      isName.notMem (by decide) rfl rfl, by simp⟩
  exact absent tested (List.contains_iff_mem.mp special) member

theorem isNoBracket_of_isHexDigit {digit : Char} (isDigit : isHexDigit digit = true) :
    isNoBracket digit = true := by
  have apart {mark : Char} (noDigit : isHexDigit mark = false) : digit ≠ mark := by
    rintro rfl
    rw [isDigit] at noDigit
    cases noDigit
  simp [isNoBracket, Token.closingMark?, Token.isClosingMark,
    apart (show isHexDigit '\x7b' = false from rfl), apart (show isHexDigit '[' = false from rfl),
    apart (show isHexDigit '(' = false from rfl), apart (show isHexDigit '\x7d' = false from rfl),
    apart (show isHexDigit ']' = false from rfl), apart (show isHexDigit ')' = false from rfl)]

theorem isNoBracket_of_isNamePart {part : Char} (isPart : Script.isNamePart part = true) :
    isNoBracket part = true := by
  have apart {mark : Char} (noPart : Script.isNamePart mark = false) : part ≠ mark := by
    rintro rfl
    rw [isPart] at noPart
    cases noPart
  simp [isNoBracket, Token.closingMark?, Token.isClosingMark,
    apart (show Script.isNamePart '\x7b' = false by decide),
    apart (show Script.isNamePart '[' = false by decide),
    apart (show Script.isNamePart '(' = false by decide),
    apart (show Script.isNamePart '\x7d' = false by decide),
    apart (show Script.isNamePart ']' = false by decide),
    apart (show Script.isNamePart ')' = false by decide)]

/-- The only brackets of a name are those around the digits of an escape. -/
theorem closesText_name (isName : Script.IsNameText name) (pending : List Char) (rest : Text) :
    closesText pending (name ++ rest) = closesText pending rest := by
  have digitsPass {digits : Text} (areDigits : digits.all isHexDigit = true)
      (pending : List Char) (rest : Text) :
      closesText pending (digits ++ rest) = closesText pending rest := by
    refine closesText_append_of_noBracket (List.all_eq_true.mpr fun digit member => ?_) pending rest
    exact isNoBracket_of_isHexDigit (List.all_eq_true.mp areDigits digit member)
  induction isName with
  | nil => rfl
  | @part first others isPart _ inductionHypothesis =>
      have noBracket : [first].all isNoBracket = true := by
        simp [isNoBracket_of_isNamePart isPart]
      rw [← inductionHypothesis]
      exact closesText_append_of_noBracket noBracket pending _
  | escape isEscape _ inductionHypothesis =>
      rw [List.append_assoc, ← inductionHypothesis]
      cases isEscape with
      | @braced digits _ areDigits =>
          simp only [List.append_assoc]
          show closesText ('\x7d' :: pending) (digits ++ '\x7d' :: _) = _
          rw [digitsPass areDigits]
          rfl
      | coded _ areDigits =>
          simp only [List.append_assoc]
          exact digitsPass areDigits pending _

end Name

/-- A declaration up to its value is a stretch. -/
theorem stretch_opening {opening name : Text} (calm : opening.all isCalm = true)
    (noBracket : opening.all isNoBracket = true) (isName : Script.IsNameText name) :
    Stretch (opening ++ (name ++ " = ".toList)) := by
  have closed : closesText [] ((opening ++ (name ++ [' '])) ++ ['=']) = true := by
    rw [List.append_assoc, closesText_append_of_noBracket noBracket, List.append_assoc,
      closesText_name isName]
    rfl
  have front : (opening ++ (name ++ [' '])).all isCalm = true := by
    rw [List.all_append, List.all_append, calm, all_isCalm_name isName]
    rfl
  have stretch : Stretch ((opening ++ (name ++ [' '])) ++ '=' :: [' ']) :=
    .ofCalm front closed rfl rfl
  simpa using stretch

/-- A calm literal and the semicolon behind it are a stretch. -/
theorem stretch_literal {literal : Text} (calm : literal.all isCalm = true)
    (noBracket : literal.all isNoBracket = true) : Stretch (literal ++ ";\n".toList) := by
  refine .ofCalm calm ?_ rfl rfl
  rw [closesText_append_of_noBracket noBracket]
  rfl

/-! ## The script -/

section Script

variable {name : Text} {field : Field} {fields : List Field}

/-- A default that is a text, a truth value or an integer, or no default at all. -/
def isPlainDefault : Option Scalar → Bool
  | none | some (.text _) | some (.boolean _) | some (.integer _) => true
  | some (.illFormed _) | some (.decimal _) => false

/-- A field whose default, as it is written, holds no closing tag of a script. -/
def KeepsScript (field : Field) : Prop :=
  ∀ content, field.default = some (.text content) →
    Markup.bodyAndClosing? (jsonString content) = none

/-- The literal of a plain default is a JSON string or holds neither quotes nor brackets, but for
that of a list. -/
theorem literalText_cases (isPlain : isPlainDefault field.default = true) :
    (∃ content, literalText field = jsonString content ∧
        (field.default = some (.text content) ∨
          field.default = none ∧ Markup.bodyAndClosing? (jsonString content) = none)) ∨
      (∀ content, field.default ≠ some (.text content)) ∧ '<' ∉ literalText field ∧
        Stretch (literalText field ++ ";\n".toList) := by
  obtain ⟨name, default⟩ := field
  cases default with
  | none =>
      rw [literalText, Field.effectiveDefault]
      cases Field.guessKind name with
      | array =>
          have list : Stretch ("[]".toList ++ ";\n".toList) :=
            .ofCalm (by decide) (by decide) rfl rfl
          exact .inr ⟨by simp, show '<' ∉ "[]".toList by decide, list⟩
      | color => exact .inl ⟨"#000000".toList, rfl, .inr ⟨rfl, by decide⟩⟩
      | text => exact .inl ⟨[], rfl, .inr ⟨rfl, by decide⟩⟩
      | select => exact .inl ⟨[], rfl, .inr ⟨rfl, by decide⟩⟩
  | some value =>
      cases value with
      | text content => exact .inl ⟨content, rfl, .inl rfl⟩
      | illFormed codes => cases isPlain
      | boolean truth =>
          have word : ∃ literal : Text, literalText ⟨name, some (.boolean truth)⟩ = literal ∧
              '<' ∉ literal ∧ literal.all isCalm = true ∧ literal.all isNoBracket = true := by
            cases truth with
            | true => exact ⟨"true".toList, rfl, by decide, by decide, by decide⟩
            | false => exact ⟨"false".toList, rfl, by decide, by decide, by decide⟩
          obtain ⟨literal, shape, noTag, calm, noBracket⟩ := word
          rw [shape]
          exact .inr ⟨by simp, noTag, stretch_literal calm noBracket⟩
      | integer number =>
          have digit {tested : Char} (isDigit : tested.isDigit = true) :
              isWordChar tested = true := by
            simp [isWordChar, isAlphanumeric, Char.isAlphanum, isDigit]
          refine .inr ⟨by simp, notMem_ofInt number (by decide) (by decide),
            stretch_literal (all_ofInt number rfl fun tested isDigit => ?_)
              (all_ofInt number rfl fun tested isDigit => ?_)⟩
          · simp [isCalm, digit isDigit]
          · exact isNoBracket_of_isWordChar (digit isDigit)
      | decimal number => cases isPlain

/-- A default is written without a closing tag exactly if the field keeps the script. -/
theorem bodyAndClosing?_literalText (isPlain : isPlainDefault field.default = true) :
    Markup.bodyAndClosing? (literalText field) = none ↔ KeepsScript field := by
  rcases literalText_cases isPlain with ⟨content, shape, holds | ⟨absent, noTag⟩⟩ | ⟨noText, plain, -⟩
  · rw [shape, KeepsScript, holds]
    simp
  · rw [shape, KeepsScript, absent]
    simp [noTag]
  · exact iff_of_true (Markup.bodyAndClosing?_of_notMem plain)
      fun content holds => absurd holds (noText content)

theorem stretch_jsonString (content : Text) {blanks : Text} (areBlank : isBlankText blanks = true) :
    Stretch (jsonString content ++ ';' :: blanks) :=
  .ofString (readsAlone_jsonString true content) areBlank

theorem stretch_literalText (isPlain : isPlainDefault field.default = true) :
    Stretch (literalText field ++ ";\n".toList) := by
  rcases literalText_cases isPlain with ⟨content, shape, -⟩ | ⟨-, -, stretch⟩
  · rw [shape]
    exact stretch_jsonString content rfl
  · exact stretch

theorem stretch_fieldOpening (isName : Script.nameLength field.name = field.name.length) :
    Stretch ("  export let ".toList ++ (field.name ++ " = ".toList)) :=
  stretch_opening (by decide) (by decide) (.of_nameLength isName)

/-- The parts of a line in two pieces, cut in front of the value. -/
private theorem cutBeforeValue (opening name equals literal ending : Text) :
    opening ++ (name ++ (equals ++ (literal ++ ending))) =
      (opening ++ (name ++ equals)) ++ (literal ++ ending) := by
  simp

theorem fieldLine_eq (field : Field) :
    fieldLine field = ("  export let ".toList ++ (field.name ++ " = ".toList)) ++
      (literalText field ++ ";\n".toList) :=
  cutBeforeValue _ _ _ _ _

theorem stretch_fieldLine (isName : Script.nameLength field.name = field.name.length)
    (isPlain : isPlainDefault field.default = true) : Stretch (fieldLine field) := by
  rw [fieldLine_eq]
  exact (stretch_fieldOpening isName).append (stretch_literalText isPlain)

/-- The parts of what leads up to the fields, cut where one statement ends. -/
private theorem cutIntoStatements {opening named exporting equals : Text}
    (parts : opening = exporting ++ (named ++ equals)) (imports key gap : Text) :
    imports ++ ('\n' :: (opening ++ (key ++ gap))) =
      (imports ++ ['\n']) ++ ((exporting ++ (named ++ equals)) ++ (key ++ gap)) := by
  simp [parts]

/-- What leads up to the fields of a script. -/
theorem stretch_scriptFront (name : Text) : Stretch (scriptFront name) := by
  have imports : Stretch (scriptImports ++ ['\n']) := by
    delta scriptImports
    rw [String.toList_append, String.toList_append]
    repeat rw [String.toList_ofList]
    exact .ofPaused (by decide +kernel)
  have tagName : Stretch ("  export let ".toList ++ ("tagName".toList ++ " = ".toList)) :=
    stretch_opening (by decide) (by decide) (.of_nameLength (by decide))
  have key : Stretch (jsonString (EmbedScaffold.lookupKey name) ++ ";\n\n".toList) :=
    stretch_jsonString _ rfl
  have parts : "  export let tagName = ".toList =
      "  export let ".toList ++ ("tagName".toList ++ " = ".toList) := by
    decide
  rw [scriptFront, cutIntoStatements parts]
  exact imports.append (tagName.append key)

/-- The script of a document is a stretch. -/
theorem stretch_scriptText
    (identifiers : ∀ field ∈ fields, Script.nameLength field.name = field.name.length)
    (plainDefaults : ∀ field ∈ fields, isPlainDefault field.default = true) :
    Stretch (scriptText name fields) := by
  have lines : Stretch (fields.flatMap fieldLine) := by
    induction fields with
    | nil => exact .blank rfl
    | cons field others inductionHypothesis =>
        rw [List.flatMap_cons]
        exact (stretch_fieldLine (identifiers field List.mem_cons_self)
          (plainDefaults field List.mem_cons_self)).append
            (inductionHypothesis (fun other member => identifiers other (List.mem_cons_of_mem _ member))
              fun other member => plainDefaults other (List.mem_cons_of_mem _ member))
  have mount : Stretch (scriptMount ++ ['\n']) := .ofPaused (by decide +kernel)
  rw [scriptText_eq]
  exact (stretch_scriptFront name).append (lines.append mount)

/-! ## The script that is read back -/

/-- What stands in front of an opening bracket in a JSON string does not close the string. -/
theorem stringEnd_of_bracket {content left more : Text}
    (parts : content.flatMap escapeJsonChar ++ ['"'] = left ++ '<' :: more) (offset : Nat) :
    stringEnd '"' offset left = none := by
  induction content generalizing left offset with
  | nil =>
      cases left with
      | nil => cases parts
      | cons first others =>
          have none := (List.cons.inj parts).2
          simp at none
  | cons first others inductionHypothesis =>
      rw [List.flatMap_cons, List.append_assoc] at parts
      rcases List.append_eq_append_iff.mp parts with ⟨inside, rfl, behind⟩ | ⟨inside, shown, behind⟩
      · rw [(jsonEscape first).stringEnd]
        exact inductionHypothesis behind _
      · -- A bracket is written by itself, so nothing of its text stands in front of it.
        cases inside with
        | nil =>
            rw [List.append_nil] at shown
            rw [← shown, ← List.append_nil (escapeJsonChar first), (jsonEscape first).stringEnd]
            rfl
        | cons head others =>
            obtain rfl : '<' = head := (List.cons.inj behind).1
            have isFirst : first = '<' := by
              refine Classical.byContradiction fun different => ?_
              refine (jsonEscape first).notMem (Ne.symm different) rfl rfl ?_
              rw [shown]
              simp
            rw [isFirst, show escapeJsonChar '<' = ['<'] from rfl] at shown
            obtain rfl : left = [] := by
              cases left with
              | nil => rfl
              | cons other letters =>
                  have none := (List.cons.inj shown).2
                  simp at none
            rfl

/-- The part of a JSON string in front of a closing tag is not closed. -/
theorem exists_of_bodyAndClosing?_jsonString {content inner closing : Text}
    (found : Markup.bodyAndClosing? (jsonString content) = some (inner, closing)) :
    ∃ left, inner = '"' :: left ∧ ∀ offset, stringEnd '"' offset left = none := by
  obtain ⟨name, rest, rfl, parts, -, -⟩ := Markup.exists_of_bodyAndClosing? found
  cases inner with
  | nil => cases parts
  | cons first left =>
      obtain ⟨rfl, inside⟩ := List.cons.inj parts
      exact ⟨left, rfl, stringEnd_of_bracket inside⟩

theorem notMem_fieldOpening (isName : Script.nameLength field.name = field.name.length) :
    '<' ∉ "  export let ".toList ++ (field.name ++ " = ".toList) := by
  have exporting : '<' ∉ "  export let ".toList := by decide
  have equals : '<' ∉ " = ".toList := by decide
  rw [List.mem_append, List.mem_append, not_or, not_or]
  exact ⟨exporting, notMem_name isName, equals⟩

theorem severs_opening (rest : Text) : Markup.Severs ("  export let ".toList ++ rest) := by
  obtain ⟨letters, shape⟩ : ∃ letters, "  export let ".toList = "  ".toList ++ 'e' :: letters :=
    ⟨"xport let ".toList, by decide⟩
  rw [shape, List.append_assoc]
  exact .ofBlanks (by decide) (.ofSolid rfl (by decide) (by decide))

/-- A text with a line in it, cut in front of the value of the line. -/
private theorem cutInside (front opening value lines behind : Text) :
    front ++ (((opening ++ value) ++ lines) ++ behind) =
      (front ++ opening) ++ (value ++ (lines ++ behind)) := by
  simp

/-- A script that is cut at a closing tag in a default ends inside a string. -/
theorem unclosed_of_bodyAndClosing? {front behind body closing : Text} (stretch : Stretch front)
    (noTag : Markup.bodyAndClosing? front = none)
    (noTagBehind : Markup.bodyAndClosing? behind = none) (severs : Markup.Severs behind)
    (identifiers : ∀ field ∈ fields, Script.nameLength field.name = field.name.length)
    (plainDefaults : ∀ field ∈ fields, isPlainDefault field.default = true)
    (found : Markup.bodyAndClosing? (front ++ (fields.flatMap fieldLine ++ behind)) =
      some (body, closing)) :
    ∃ offset, checkBalanced body = .error (.unterminatedString offset) := by
  induction fields generalizing front with
  | nil =>
      rw [List.flatMap_nil, List.nil_append,
        (Markup.bodyAndClosing?_append_eq_none severs).mpr ⟨noTag, noTagBehind⟩] at found
      cases found
  | cons field others inductionHypothesis =>
      have isName := identifiers field List.mem_cons_self
      have isPlain := plainDefaults field List.mem_cons_self
      have noBracket := notMem_fieldOpening isName
      have openingSevers (rest : Text) :
          Markup.Severs ("  export let ".toList ++ (field.name ++ " = ".toList) ++ rest) := by
        rw [List.append_assoc]
        exact severs_opening _
      have openingStretch := stretch_fieldOpening isName
      have endingSevers (rest : Text) : Markup.Severs (";\n".toList ++ rest) :=
        .ofSolid rfl (by decide) (by decide)
      rw [List.flatMap_cons, fieldLine_eq] at found
      generalize "  export let ".toList ++ (field.name ++ " = ".toList) = opening
        at noBracket openingSevers openingStretch found
      rw [cutInside] at found
      -- the first closing tag stands behind this line or inside the default in it
      cases tag : Markup.bodyAndClosing? (literalText field) with
      | none =>
          have noTagLine : Markup.bodyAndClosing?
              ((front ++ opening) ++ (literalText field ++ ";\n".toList)) = none := by
            rw [List.append_assoc, Markup.bodyAndClosing?_append_eq_none (openingSevers _),
              Markup.bodyAndClosing?_eq_none_of_notMem noBracket]
            refine ⟨noTag, ?_⟩
            rw [← List.append_nil ";\n".toList,
              Markup.bodyAndClosing?_append_eq_none (endingSevers _)]
            exact ⟨tag, rfl⟩
          rw [← List.append_assoc (front ++ opening)] at found
          exact inductionHypothesis
            ((stretch.append openingStretch).append (stretch_literalText isPlain)) noTagLine
            (fun other member => identifiers other (List.mem_cons_of_mem _ member))
            (fun other member => plainDefaults other (List.mem_cons_of_mem _ member)) found
      | some pair =>
          obtain ⟨inner, mark⟩ := pair
          rcases literalText_cases isPlain with ⟨content, shape, -⟩ | ⟨-, plain, -⟩
          · rw [shape] at tag found
            obtain ⟨left, rfl, isOpen⟩ := exists_of_bodyAndClosing?_jsonString tag
            have stringSevers (rest : Text) : Markup.Severs (jsonString content ++ rest) :=
              .ofSolid rfl (by decide) (by decide)
            have noTagOpening : Markup.bodyAndClosing? (front ++ opening) = none := by
              rw [← List.append_nil opening,
                Markup.bodyAndClosing?_append_eq_none (openingSevers _), List.append_nil]
              exact ⟨noTag, Markup.bodyAndClosing?_of_notMem noBracket⟩
            rw [List.append_assoc (jsonString content),
              Markup.bodyAndClosing?_append (stringSevers _), noTagOpening, Option.none_or,
              Markup.bodyAndClosing?_append (endingSevers _), tag] at found
            obtain rfl := (Prod.ext_iff.mp (Option.some.inj found)).1
            exact ⟨_, (stretch.append openingStretch).unclosed isOpen⟩
          · rw [Markup.bodyAndClosing?_of_notMem plain] at tag
            cases tag

theorem forall_bodyAndClosing?_literalText
    (plainDefaults : ∀ field ∈ fields, isPlainDefault field.default = true) :
    (∀ field ∈ fields, Markup.bodyAndClosing? (literalText field) = none) ↔
      ∀ field ∈ fields, KeepsScript field :=
  forall₂_congr fun field member => bodyAndClosing?_literalText (plainDefaults field member)

/-- Where a default holds a closing tag, the script ends inside a string when it is read back. -/
theorem unclosed_scriptText (named : isDeclarationName name = true)
    (identifiers : ∀ field ∈ fields, Script.nameLength field.name = field.name.length)
    (plainDefaults : ∀ field ∈ fields, isPlainDefault field.default = true)
    {body closing : Text}
    (found : Markup.bodyAndClosing? (scriptText name fields) = some (body, closing)) :
    ∃ offset, checkBalanced body = .error (.unterminatedString offset) := by
  have severs : Markup.Severs (scriptMount ++ ['\n']) := by
    obtain ⟨rest, shape⟩ : ∃ rest, scriptMount ++ ['\n'] = ['\n', ' ', ' '] ++ 'o' :: rest :=
      ⟨(scriptMount ++ ['\n']).drop 4, by decide⟩
    rw [shape]
    exact .ofBlanks (by decide) (.ofSolid rfl (by decide) (by decide))
  rw [scriptText_eq] at found
  exact unclosed_of_bodyAndClosing? (stretch_scriptFront name)
    (Markup.bodyAndClosing?_of_notMem (notMem_scriptFront named))
    (Markup.bodyAndClosing?_of_notMem notMem_scriptMount) severs identifiers plainDefaults found

/-- What stands in front of a closing tag is not the whole script. -/
theorem ne_of_bodyAndClosing? {content body closing : Text}
    (found : Markup.bodyAndClosing? content = some (body, closing)) : body ≠ content := by
  obtain ⟨tagName, rest, rfl, parts, -, -⟩ := Markup.exists_of_bodyAndClosing? found
  intro same
  have lengths := congrArg List.length (same.trans parts)
  simp at lengths

/-- A draft of a document is valid exactly if the script that is read back from it is balanced. -/
theorem imbalance?_eq_none_iff {draft : Draft} (dirty : draft.isDirty = true)
    (suffix : draft.path.suffix = Draft.markupSuffix) :
    Staging.imbalance? draft = .ok none ↔
      checkBalanced (Markup.instanceScript draft.content) = .ok () := by
  rw [Staging.imbalance?, if_pos dirty, Draft.check, Draft.script, if_pos suffix]
  cases checkBalanced (Markup.instanceScript draft.content) with
  | ok _ => exact iff_of_true rfl rfl
  | error cause => cases limit : cause.isLimit <;> simp [limit]

/-- The script of a document, as it is read back, is the one that the document was given exactly if
no default holds a closing tag of a script, and exactly then a draft of the document is valid. -/
theorem instanceScript_document_iff (named : isDeclarationName name = true)
    (identifiers : ∀ field ∈ fields, Script.nameLength field.name = field.name.length)
    (plainDefaults : ∀ field ∈ fields, isPlainDefault field.default = true) :
    document name fields = documentHead ++ (scriptText name fields ++ documentTail fields) ∧
      checkBalanced (scriptText name fields) = .ok () ∧
      (Markup.instanceScript (document name fields) = scriptText name fields ↔
        ∀ field ∈ fields, KeepsScript field) ∧
      ∀ draft : Draft, draft.isDirty = true → draft.path.suffix = Draft.markupSuffix →
        draft.content = document name fields →
        (Staging.imbalance? draft = .ok none ↔ ∀ field ∈ fields, KeepsScript field) := by
  have balanced := (@stretch_scriptText name _ identifiers plainDefaults).checkBalanced
  have keeps := (bodyAndClosing?_scriptText named identifiers).trans
    (forall_bodyAndClosing?_literalText plainDefaults)
  have read : Markup.instanceScript (document name fields) = scriptText name fields ∧
      (∀ field ∈ fields, KeepsScript field) ∨
      Markup.instanceScript (document name fields) ≠ scriptText name fields ∧
        checkBalanced (Markup.instanceScript (document name fields)) ≠ .ok () ∧
        ¬ ∀ field ∈ fields, KeepsScript field := by
    rw [instanceScript_document, ← keeps]
    cases found : Markup.bodyAndClosing? (scriptText name fields) with
    | none => exact .inl ⟨rfl, rfl⟩
    | some pair =>
        obtain ⟨body, closing⟩ := pair
        obtain ⟨offset, unclosed⟩ := unclosed_scriptText named identifiers plainDefaults found
        refine .inr ⟨ne_of_bodyAndClosing? found, fun accepted => ?_, by simp⟩
        rw [Option.map_some, Option.getD_some, unclosed] at accepted
        cases accepted
  refine ⟨document_eq name fields, balanced, ?_, fun draft dirty suffix content => ?_⟩
  · rcases read with ⟨same, keep⟩ | ⟨different, -, cut⟩
    · exact iff_of_true same keep
    · exact iff_of_false different cut
  · rw [imbalance?_eq_none_iff dirty suffix, content]
    rcases read with ⟨same, keep⟩ | ⟨-, invalid, cut⟩
    · exact iff_of_true (same ▸ balanced) keep
    · exact iff_of_false invalid cut

theorem instanceScript_document_iff_note :
    Markup.instanceScript (document "Banner".toList [⟨"note".toList, some (.text "<b>".toList)⟩]) =
      scriptText "Banner".toList [⟨"note".toList, some (.text "<b>".toList)⟩] := by
  have keeps : KeepsScript ⟨"note".toList, some (.text "<b>".toList)⟩ := by
    rintro _ ⟨⟩
    decide
  have read := @instanceScript_document_iff "Banner".toList
    [⟨"note".toList, some (.text "<b>".toList)⟩] (by decide)
    (by simp only [List.forall_mem_singleton]; decide)
    (by simp only [List.forall_mem_singleton]; rfl)
  exact read.2.2.1.mpr (by simpa using keeps)

/-- A default may be the closing tag of a script.  The script then ends inside the default when it
is read back, and the document is not valid. -/
theorem instanceScript_document_closing :
    ∃ offset,
      Markup.instanceScript (document "Banner".toList
          [⟨"note".toList, some (.text "</script>".toList)⟩]) ≠
        scriptText "Banner".toList [⟨"note".toList, some (.text "</script>".toList)⟩] ∧
      checkBalanced (Markup.instanceScript (document "Banner".toList
        [⟨"note".toList, some (.text "</script>".toList)⟩])) =
          .error (.unterminatedString offset) := by
  have named : isDeclarationName "Banner".toList = true := by decide
  have identifiers : ∀ field ∈ [Field.mk "note".toList (some (.text "</script>".toList))],
      Script.nameLength field.name = field.name.length := by
    simp only [List.forall_mem_singleton]
    decide
  have plainDefaults : ∀ field ∈ [Field.mk "note".toList (some (.text "</script>".toList))],
      isPlainDefault field.default = true := by
    simp only [List.forall_mem_singleton]
    rfl
  have tagged : Markup.bodyAndClosing?
      (literalText ⟨"note".toList, some (.text "</script>".toList)⟩) ≠ none := by
    decide
  rw [instanceScript_document]
  cases found : Markup.bodyAndClosing? (scriptText "Banner".toList
      [⟨"note".toList, some (.text "</script>".toList)⟩]) with
  | none =>
      exact absurd ((bodyAndClosing?_scriptText named identifiers).mp found _
        List.mem_cons_self) tagged
  | some pair =>
      obtain ⟨offset, unclosed⟩ := unclosed_scriptText named identifiers plainDefaults found
      exact ⟨offset, ne_of_bodyAndClosing? found, unclosed⟩

end Script

end Component

end EmbedScaffold
