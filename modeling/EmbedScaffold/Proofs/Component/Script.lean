import EmbedScaffold.Component.Document
import EmbedScaffold.Proofs.Literal.Json
import EmbedScaffold.Proofs.Markup.Block
import EmbedScaffold.Proofs.Name.LookupKey
import EmbedScaffold.Proofs.Template.Rendering
import EmbedScaffold.Proofs.Text.Digits

/-!
# The script of a component's document

A component's document is its opening line, a script that declares the fields, and the markup and
style behind it.  The script is read back from the document exactly if no default holds the closing
tag of a script.
-/

namespace EmbedScaffold

open Text Literal Template

namespace Component

/-! ## The parts of a document -/

/-- A field's default as a document declares it. -/
def literalText (field : Field) : Text :=
  field.effectiveDefault.json?.getD []

def fieldLine (field : Field) : Text :=
  "  export let ".toList ++ (field.name ++ (" = ".toList ++ (literalText field ++ ";\n".toList)))

/-- The imports and the remark that begin a script, up to the end of the remark. -/
def scriptImports : Text :=
  ("\n  import \x7b onMount \x7d from 'svelte';\n" ++
    "  import \x7b parseArrayProp \x7d from './utils/propUtils.js';\n\n" ++
    "  // Retain kebab-case tag name for runtime reference").toList

/-- The call that ends a script, up to its last line feed. -/
def scriptMount : Text :=
  ("\n  onMount(() => \x7b\n    // lazy load external dependencies here\n" ++
    "  \x7d);").toList

def declarations (name : Text) (fields : List Field) : Text :=
  "  export let tagName = ".toList ++ (jsonString (EmbedScaffold.lookupKey name) ++
    (";\n\n".toList ++ fields.flatMap fieldLine))

/-- What leads up to the fields of a script. -/
def scriptFront (name : Text) : Text :=
  scriptImports ++ ('\n' :: ("  export let tagName = ".toList ++
    (jsonString (EmbedScaffold.lookupKey name) ++ ";\n\n".toList)))

/-- The text between the tags of the script in a component's document. -/
def scriptText (name : Text) (fields : List Field) : Text :=
  scriptImports ++ ('\n' :: (declarations name fields ++ (scriptMount ++ ['\n'])))

/-- What a document begins with, up to the tag that opens its script. -/
def documentHead : Text :=
  "<svelte:options customElement=\x7btrue\x7d />\n\n<script>".toList

/-- What a document ends with, from the tag that closes its script. -/
def documentTail (fields : List Field) : Text :=
  "</script>".toList ++ ("\n\n<slot></slot>\n\n<style>\n  :host \x7b\n".toList ++
    ("    width: var(--component-width, ".toList ++ ((fallbackWidth fields).display ++
      ");\n  \x7d\n</style>\n".toList)))

section Document

variable {name : Text} {field : Field} {fields : List Field}

theorem json?_effectiveDefault (field : Field) :
    field.effectiveDefault.json? = some (literalText field) := by
  obtain ⟨name, default⟩ := field
  cases default with
  | some value => cases value <;> rfl
  | none =>
      rw [literalText, Field.effectiveDefault]
      cases Field.guessKind name <;> rfl

/-- The object under which the template's loop sees a field. -/
def fieldObject (field : Field) : Literal :=
  .object [("name".toList, .text field.name), ("value".toList, field.effectiveDefault)]

/-- The body of the template's loop. -/
def fieldPieces : List Template.Piece := [
  .verbatim "  export let ".toList,
  .hole (.member "field".toList "name".toList) .display,
  .verbatim " = ".toList,
  .hole (.member "field".toList "value".toList) .json,
  .verbatim ";\n".toList]

/-- What the body of the template's loop makes of a field. -/
theorem renderPieces_field (context : Template.Context) (field : Field) :
    Template.renderPieces (("field".toList, fieldObject field) :: context) fieldPieces =
      .ok (fieldLine field) := by
  have named : Template.Reference.value (("field".toList, fieldObject field) :: context)
      (.member "field".toList "name".toList) = .ok (.text field.name) := by
    simp [Template.Reference.value, Template.lookupVariable, fieldObject, Literal.member?, bind,
      Except.bind, pure, Except.pure]
  have valued : Template.Reference.value (("field".toList, fieldObject field) :: context)
      (.member "field".toList "value".toList) = .ok field.effectiveDefault := by
    simp [Template.Reference.value, Template.lookupVariable, fieldObject, Literal.member?, bind,
      Except.bind, pure, Except.pure, List.lookup_cons]
  have rendered := renderPieces_verbatim "  export let ".toList <|
    renderPieces_hole named (apply_display (.text field.name)) <|
      renderPieces_verbatim " = ".toList <|
        renderPieces_hole valued (apply_json (json?_effectiveDefault field)) <|
          renderPieces_verbatim ";\n".toList renderPieces_nil
  rw [List.append_nil] at rendered
  exact rendered

theorem render_fields (name : Text) (fields : List Field) :
    Template.Block.render (documentContext name fields)
      (.loop (.items "field".toList "fields".toList) fieldPieces) =
        .ok (fields.flatMap fieldLine) := by
  have listed : Template.lookupVariable (documentContext name fields) "fields".toList =
      .ok (.list (fields.map fieldObject)) := by
    simp [Template.lookupVariable, documentContext, List.lookup_cons]
    rfl
  have turns : (Template.Source.items "field".toList "fields".toList).contexts
      (documentContext name fields) = .ok (fields.map fun field =>
        ("field".toList, fieldObject field) :: documentContext name fields) := by
    rw [Template.Source.contexts, listed]
    show Except.ok ((fields.map fieldObject).map fun item =>
      ("field".toList, item) :: documentContext name fields) = _
    rw [List.map_map]
    rfl
  exact Template.render_loop turns fun field _ => renderPieces_field _ field

/-- The parts of a script with what leads up to the fields in one piece. -/
private theorem ledUp (imports opening key gap lines behind : Text) :
    imports ++ ('\n' :: ((opening ++ (key ++ (gap ++ lines))) ++ behind)) =
      (imports ++ ('\n' :: (opening ++ (key ++ gap)))) ++ (lines ++ behind) := by
  simp

/-- The script up to the fields, the lines of the fields, and the call behind them. -/
theorem scriptText_eq (name : Text) (fields : List Field) :
    scriptText name fields =
      scriptFront name ++ (fields.flatMap fieldLine ++ (scriptMount ++ ['\n'])) :=
  ledUp _ _ _ _ _ _

/-- The parts of a document, put together by the template's blocks and by its script. -/
private theorem assembled {head imports opened opening key gap lines mount closed tag markup style
    width ending : Text} (openedParts : opened = '\n' :: opening)
    (closedParts : closed = '\n' :: (tag ++ (markup ++ style))) :
    (head ++ (imports ++ opened)) ++ (key ++ (gap ++ [])) ++
        (lines ++ ((mount ++ closed) ++ (width ++ (ending ++ [])))) =
      head ++ ((imports ++ ('\n' :: ((opening ++ (key ++ (gap ++ lines))) ++ (mount ++ ['\n'])))) ++
        (tag ++ (markup ++ (style ++ (width ++ ending))))) := by
  simp [openedParts, closedParts]

/-- The blocks of the template, with the parts of a document for the texts in them. -/
private theorem asBlocks {leading front trailing back : Text} (frontParts : leading = front)
    (backParts : trailing = back) (key gap width ending : Template.Piece) (loop : Template.Block) :
    [Template.Block.plain [.verbatim leading, key, gap], loop,
        .plain [.verbatim trailing, width, ending]] =
      [.plain [.verbatim front, key, gap], loop, .plain [.verbatim back, width, ending]] := by
  rw [frontParts, backParts]

theorem component_eq :
    Template.component = [
      .plain [
        .verbatim (documentHead ++ (scriptImports ++ "\n  export let tagName = ".toList)),
        .hole (.variable "lookup_key".toList) .json, .verbatim ";\n\n".toList],
      .loop (.items "field".toList "fields".toList) fieldPieces,
      .plain [
        .verbatim (scriptMount ++ ("\n</script>\n\n<slot></slot>\n\n<style>\n  :host \x7b\n" ++
          "    width: var(--component-width, ").toList),
        .hole (.variable "width".toList) .display,
        .verbatim ");\n  \x7d\n</style>\n".toList]] := by
  -- Strings are compared as strings, for their characters are dear to list.
  refine asBlocks ?front ?back _ _ _ _ _
  case front =>
    delta documentHead scriptImports
    rw [← String.toList_append, ← String.toList_append]
    exact congrArg String.toList (by decide +kernel)
  case back =>
    delta scriptMount
    rw [← String.toList_append]
    exact congrArg String.toList (by decide)

theorem document_eq (name : Text) (fields : List Field) :
    document name fields = documentHead ++ (scriptText name fields ++ documentTail fields) := by
  have key : Template.Reference.value (documentContext name fields)
      (.variable "lookup_key".toList) = .ok (.text (EmbedScaffold.lookupKey name)) := by
    simp [Template.Reference.value, Template.lookupVariable, documentContext]
  have width : Template.Reference.value (documentContext name fields)
      (.variable "width".toList) = .ok (fallbackWidth fields) := by
    simp [Template.Reference.value, Template.lookupVariable, documentContext, List.lookup_cons]
  have rendered : Template.render (documentContext name fields) Template.component =
      .ok (documentHead ++ (scriptText name fields ++ documentTail fields)) := by
    have front := renderPieces_verbatim
        (documentHead ++ (scriptImports ++ "\n  export let tagName = ".toList)) <|
      renderPieces_hole key (apply_json rfl) <|
        renderPieces_verbatim ";\n\n".toList renderPieces_nil
    have back := renderPieces_verbatim
        (scriptMount ++ ("\n</script>\n\n<slot></slot>\n\n<style>\n  :host \x7b\n" ++
          "    width: var(--component-width, ").toList) <|
      renderPieces_hole width (apply_display (fallbackWidth fields)) <|
        renderPieces_verbatim ");\n  \x7d\n</style>\n".toList renderPieces_nil
    rw [component_eq, render_three (render_plain front) (render_fields name fields) (render_plain back)]
    have opened : "\n  export let tagName = ".toList = '\n' :: "  export let tagName = ".toList := by
      decide
    have closed : ("\n</script>\n\n<slot></slot>\n\n<style>\n  :host \x7b\n" ++
        "    width: var(--component-width, ").toList = '\n' :: ("</script>".toList ++
          ("\n\n<slot></slot>\n\n<style>\n  :host \x7b\n".toList ++
            "    width: var(--component-width, ".toList)) := by
      decide
    exact congrArg Except.ok (assembled opened closed)
  rw [document, Template.fill, rendered]

/-! ## Closing tags -/

/-- Lookup keys hold no bracket, for they are spelled with letters, digits and hyphens. -/
theorem notMem_lookupKey (named : isDeclarationName name = true) :
    '<' ∉ EmbedScaffold.lookupKey name := fun member =>
  absurd (isKeyChar_of_mem_lookupKey named '<' member) (by decide)

theorem notMem_jsonString {content : Text} (noBracket : '<' ∉ content) :
    '<' ∉ jsonString content := by
  have inside : '<' ∉ content.flatMap escapeJsonChar := by
    intro member
    obtain ⟨escaped, among, shown⟩ := List.mem_flatMap.mp member
    have different : '<' ≠ escaped := fun same => noBracket (same ▸ among)
    exact (jsonEscape escaped).notMem different rfl rfl shown
  simp [jsonString, inside]

theorem notMem_name {name : Text} (isName : Script.nameLength name = name.length) : '<' ∉ name :=
  (Script.IsNameText.of_nameLength isName).notMem (by decide) rfl rfl

/-- A line whose only brackets are in the literal that it declares, cut behind the literal. -/
theorem bodyAndClosing?_line {opening named equals literal ending rest : Text}
    (noOpening : '<' ∉ opening) (noName : '<' ∉ named) (noEquals : '<' ∉ equals)
    (noEnding : '<' ∉ ending) (severs : Markup.Severs (ending ++ rest)) :
    Markup.bodyAndClosing? (opening ++ (named ++ (equals ++ (literal ++ ending))) ++ rest) = none ↔
      Markup.bodyAndClosing? literal = none ∧ Markup.bodyAndClosing? rest = none := by
  simp only [List.append_assoc]
  rw [Markup.bodyAndClosing?_eq_none_of_notMem noOpening,
    Markup.bodyAndClosing?_eq_none_of_notMem noName,
    Markup.bodyAndClosing?_eq_none_of_notMem noEquals,
    Markup.bodyAndClosing?_append_eq_none severs,
    Markup.bodyAndClosing?_eq_none_of_notMem noEnding]

theorem bodyAndClosing?_flatMap {rest : Text}
    (identifiers : ∀ field ∈ fields, Script.nameLength field.name = field.name.length) :
    Markup.bodyAndClosing? (fields.flatMap fieldLine ++ rest) = none ↔
      (∀ field ∈ fields, Markup.bodyAndClosing? (literalText field) = none) ∧
        Markup.bodyAndClosing? rest = none := by
  induction fields with
  | nil => simp
  | cons field others inductionHypothesis =>
      have isName := identifiers field List.mem_cons_self
      have behind := inductionHypothesis fun other member =>
        identifiers other (List.mem_cons_of_mem _ member)
      have severs : Markup.Severs (";\n".toList ++ (others.flatMap fieldLine ++ rest)) :=
        .ofSolid rfl (by decide) (by decide)
      have line : Markup.bodyAndClosing? (fieldLine field ++ (others.flatMap fieldLine ++ rest)) =
          none ↔ _ :=
        bodyAndClosing?_line (by decide) (notMem_name isName) (by decide)
          (by decide) severs
      rw [List.flatMap_cons, List.append_assoc, line, behind, List.forall_mem_cons, and_assoc]

theorem notMem_scriptFront (named : isDeclarationName name = true) : '<' ∉ scriptFront name := by
  have imports : '<' ∉ scriptImports := by
    delta scriptImports
    rw [String.toList_append, String.toList_append, String.toList_ofList, String.toList_ofList,
      String.toList_ofList]
    decide
  have tagName : '<' ∉ "  export let tagName = ".toList := by decide
  have ended : '<' ∉ ";\n\n".toList := by decide
  rw [scriptFront, List.mem_append, List.mem_cons, List.mem_append, List.mem_append, not_or, not_or,
    not_or, not_or]
  exact ⟨imports, by decide, tagName, notMem_jsonString (notMem_lookupKey named), ended⟩

theorem notMem_scriptMount : '<' ∉ scriptMount ++ ['\n'] := by
  delta scriptMount
  rw [String.toList_append, String.toList_ofList, String.toList_ofList]
  decide

/-- The script of a document holds a closing tag exactly if a default does. -/
theorem bodyAndClosing?_scriptText (named : isDeclarationName name = true)
    (identifiers : ∀ field ∈ fields, Script.nameLength field.name = field.name.length) :
    Markup.bodyAndClosing? (scriptText name fields) = none ↔
      ∀ field ∈ fields, Markup.bodyAndClosing? (literalText field) = none := by
  rw [scriptText_eq, Markup.bodyAndClosing?_eq_none_of_notMem (notMem_scriptFront named),
    bodyAndClosing?_flatMap identifiers, Markup.bodyAndClosing?_of_notMem notMem_scriptMount]
  exact and_iff_left rfl

theorem instanceScript_document :
    Markup.instanceScript (document name fields) =
      ((Markup.bodyAndClosing? (scriptText name fields)).map Prod.fst).getD
        (scriptText name fields) := by
  obtain ⟨options, head, noBracket, noBlock⟩ : ∃ options,
      documentHead = '<' :: (options ++ "<script>".toList) ∧ '<' ∉ options ∧
        ∀ rest, Markup.blockAtFront? ('<' :: (options ++ rest)) = none :=
    ⟨"svelte:options customElement=\x7btrue\x7d />\n\n".toList, by decide,
      by decide, fun _ => rfl⟩
  obtain ⟨rest, tail⟩ : ∃ rest, documentTail fields = "</script>".toList ++ rest := ⟨_, rfl⟩
  have shape : document name fields = '<' :: (options ++ ("<script>".toList ++
      (scriptText name fields ++ ("</script>".toList ++ rest)))) := by
    rw [document_eq, head, tail, List.cons_append, List.append_assoc]
  have noneAtFront := noBlock ("<script>".toList ++
    (scriptText name fields ++ ("</script>".toList ++ rest)))
  have atScript := Markup.instanceScriptFrom_script (scriptText name fields) rest
  rw [← Markup.instanceScriptFrom_append noBracket] at atScript
  rw [shape, Markup.instanceScript, Markup.instanceScriptFrom_cons, noneAtFront]
  exact atScript

end Document

end Component

end EmbedScaffold
