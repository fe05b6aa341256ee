import EmbedScaffold.Markup.Playground
import EmbedScaffold.Proofs.Markup.Block
import EmbedScaffold.Proofs.Registry.HeaderLine

/-!
# Patching the playground again

The import goes into the first instance script, which is found again whatever is written into its
body, and the instance goes in front of the last closing tag of the main part, wherever that tag
stands.  Both are there for a second patch if the tag stands in the markup and not in a script.
-/

namespace EmbedScaffold

open Text

namespace Text

/-- The last occurrence of a text cuts the text around it. -/
theorem exists_of_lastIndexOf? {wanted content : Text} {offset : Nat}
    (found : lastIndexOf? wanted content = some offset) :
    ∃ before rest, content = before ++ (wanted ++ rest) ∧ offset = before.length := by
  induction content generalizing offset with
  | nil =>
      rw [lastIndexOf?] at found
      split at found
      · next empty =>
          cases found
          exact ⟨[], [], by rw [List.isEmpty_iff.mp empty]; rfl, rfl⟩
      · cases found
  | cons first others inductionHypothesis =>
      rw [lastIndexOf?] at found
      split at found
      · next later =>
          obtain rfl := Option.some.inj found
          obtain ⟨before, rest, rfl, rfl⟩ := inductionHypothesis later
          exact ⟨first :: before, rest, rfl, rfl⟩
      · split at found
        · next here =>
            obtain rfl := Option.some.inj found
            obtain ⟨rest, parts⟩ := List.isPrefixOf_iff_prefix.mp here
            exact ⟨[], rest, parts.symm, rfl⟩
        · cases found

theorem isBlank_of_isLineBreak {tested : Char} (isBreak : isLineBreak tested = true) :
    isBlank tested = true := by
  simp only [isLineBreak, isBlank, Bool.or_eq_true, Bool.and_eq_true, decide_eq_true_eq,
    beq_iff_eq] at isBreak ⊢
  omega

end Text

namespace Markup

/-! ## The import in the instance script -/

section Import

variable {content line imported body : Text}

/-- An import line on a line of its own brings no closing tag into a body. -/
theorem bodyAndClosing?_written (isImport : Header.IsImportLine line)
    (lineFree : bodyAndClosing? line = none) {closed indent behind : Text}
    (closes : ClosesLine closed) (closedFree : bodyAndClosing? closed = none)
    (areBlank : isBlankText indent = true) (behindFree : bodyAndClosing? behind = none) :
    bodyAndClosing? (closed ++ (indent ++ (line ++ '\n' :: behind))) = none := by
  obtain ⟨rest, keyword⟩ := isImport.keyword
  -- The line is cut in front of its last character, with which no tag goes on.
  have fromLine : bodyAndClosing? (line ++ '\n' :: behind) = none := by
    obtain ⟨statement, last, rfl, isEnd⟩ := isImport.exists_last
    have noTag : ";'\"\x7d".toList.all (fun tested =>
        ! isBlank tested && ! isTagPart tested && tested != '>' && tested != '<') = true := by
      decide
    have quiet := List.all_eq_true.mp noTag last (List.contains_iff_mem.mp isEnd)
    simp only [Bool.and_eq_true, Bool.not_eq_true', bne_iff_ne, ne_eq] at quiet
    obtain ⟨⟨⟨solid, noName⟩, noClosing⟩, noOpening⟩ := quiet
    rw [List.append_assoc, List.singleton_append,
      bodyAndClosing?_append (.ofSolid solid noName noClosing), bodyAndClosing?_left lineFree,
      bodyAndClosing?_cons_of_ne noOpening,
      bodyAndClosing?_cons_of_ne (by decide), behindFree]
    rfl
  have fromIndent : bodyAndClosing? (indent ++ (line ++ '\n' :: behind)) = none := by
    have noBracket : '<' ∉ indent := fun member =>
      absurd (List.all_eq_true.mp areBlank '<' member) (by decide)
    rw [bodyAndClosing?_append_of_notMem noBracket, fromLine]
    rfl
  rcases List.eq_nil_or_concat closed with rfl | ⟨front, last, rfl⟩
  · exact fromIndent
  · rw [List.concat_eq_append] at closes closedFree ⊢
    have isBreak : isBlank last = true :=
      isBlank_of_isLineBreak (closes last (by rw [List.getLast?_concat]; rfl))
    have noBracket : ((indent ++ (line ++ '\n' :: behind)).dropWhile isBlank).head? ≠ some '>' := by
      rw [List.dropWhile_append_of_pos (List.all_eq_true.mp areBlank), ← keyword]
      intro same
      cases same
    rw [List.append_assoc, List.singleton_append,
      bodyAndClosing?_append (.ofBlank isBreak noBracket), bodyAndClosing?_left closedFree,
      bodyAndClosing?_cons_of_ne (ne_of_isBlank isBreak (by decide)), fromIndent]
    rfl

/-- Writing an import line into a body leaves the body without a closing tag. -/
theorem bodyAndClosing?_ensureHeaderLine (isImport : Header.IsImportLine (strip line))
    (lineFree : bodyAndClosing? (strip line) = none) (free : bodyAndClosing? content = none)
    (ensured : ensureHeaderLine content line = .ok body) : bodyAndClosing? body = none := by
  cases absent : Header.hasLine content line with
  | true =>
      rw [ensureHeaderLine_of_hasLine absent] at ensured
      rw [← Except.ok.inj ensured, free]
  | false =>
      obtain ⟨front, closed, indent, behind, rfl, shape, closes, areBlank, rfl⟩ :=
        Header.exists_written ensured isImport.ne_nil absent
      refine bodyAndClosing?_written isImport lineFree closes ?_ areBlank
        (bodyAndClosing?_right free)
      rcases shape with rfl | rfl
      · exact bodyAndClosing?_left free
      · rw [bodyAndClosing?_append (.ofBlank (by decide) (by decide)), bodyAndClosing?_left free]
        rfl

/-- The body of an instance script is not blank and has an import line. -/
structure Imports (line : Text) (block : ScriptBlock) : Prop where
  filled : isBlankText block.body = false
  imported : Header.hasLine block.body line = true

/-- What is written as the body of an instance script is the body that is found there. -/
theorem findInstance?_splice {place : Nat} {block : ScriptBlock}
    (found : findInstance? 0 content = some (place, block)) (free : bodyAndClosing? body = none) :
    let start := place + block.openingLength
    findInstance? 0 (splice content start (start + block.body.length) body) =
      some (place, ⟨block.attributes, body, block.closing⟩) := by
  obtain ⟨front, rest, rfl, rfl, starts, absent⟩ := exists_of_findInstance? found
  obtain ⟨opening, name, behind, isOpening, isClosing, rfl, oldFree, ends⟩ :=
    exists_of_instanceAtFront? starts
  dsimp only
  have length : 0 + front.length + block.openingLength = (front ++ opening).length := by
    rw [List.length_append, isOpening.length, ScriptBlock.openingLength, Nat.zero_add]
  rw [length, ← List.append_assoc front, splice_middle, List.append_assoc]
  have closes {inner : Text} (innerFree : bodyAndClosing? inner = none) :
      bodyAndClosing? (inner ++ (block.closing ++ behind)) = some (inner, block.closing) := by
    have severs : Severs (block.closing ++ behind) := by
      rw [isClosing]
      exact .ofOpening _
    rw [bodyAndClosing?_append severs, innerFree, Option.none_or, ends]
    exact congrArg some (Prod.ext (List.append_nil _) rfl)
  have starts : instanceAtFront? (opening ++ (body ++ (block.closing ++ behind))) =
      some ⟨block.attributes, body, block.closing⟩ := by
    rw [isOpening.opens, closes free]
    rfl
  have alike := isOpening.alike (closes oldFree) (closes free)
  rw [findInstance?_append (alike.noInstanceWithin absent)]
  exact findInstance?_of_instanceAtFront? starts

/-- The body that an import line is written into is found again and has the line. -/
theorem exists_imports (isImport : Header.IsImportLine (strip line))
    (lineFree : bodyAndClosing? (strip line) = none)
    (ensured : ensureScriptImport content line = .ok imported) :
    ∃ place block, findInstance? 0 imported = some (place, block) ∧ Imports line block := by
  -- A script whose body is nothing but the line.
  have aloneFree : bodyAndClosing? ("\n  ".toList ++ strip line ++ ['\n']) = none :=
    @bodyAndClosing?_written _ isImport lineFree ['\n'] "  ".toList []
      (by simp [ClosesLine, show isLineBreak '\n' = true from rfl]) rfl rfl rfl
  have aloneImports (attributes closing : Text) :
      Imports line ⟨attributes, "\n  ".toList ++ strip line ++ ['\n'], closing⟩ := by
    refine ⟨?_, @Header.hasLine_written _ isImport ['\n'] "  ".toList
      (by simp [ClosesLine, show isLineBreak '\n' = true from rfl]) rfl []⟩
    rw [isBlankText_append, isBlankText_append, isImport.isBlankText_eq]
    rfl
  rw [ensureScriptImport] at ensured
  split at ensured
  · obtain rfl := Except.ok.inj ensured
    refine ⟨0, ⟨[], "\n  ".toList ++ strip line ++ ['\n'], "</script>".toList⟩, ?_,
      aloneImports [] _⟩
    apply findInstance?_of_instanceAtFront?
    have shape : "<script>\n  ".toList ++ strip line ++ "\n</script>\n\n".toList ++ content =
        "<script".toList ++ '>' :: (("\n  ".toList ++ strip line ++ ['\n']) ++
          ("</script>".toList ++ ("\n\n".toList ++ content))) := by
      simp
    have severs : Severs ("</script>".toList ++ ("\n\n".toList ++ content)) := .ofOpening _
    rw [shape, instanceAtFront?_eq,
      show ∀ other, dropCaseless? "<script".toList ("<script".toList ++ other) = some other from
        fun _ => rfl,
      Option.bind_some, instanceBehind_bracket, bodyAndClosing?_append severs, aloneFree,
      Option.none_or, bodyAndClosing?_script, if_neg (by simp [hasModuleMark]), Option.map_some,
      Option.map_some, behind, List.append_nil]
  · next place block found =>
      obtain ⟨front, rest, rfl, rfl, starts, -⟩ := exists_of_findInstance? found
      obtain ⟨-, -, -, -, -, -, oldFree, -⟩ := exists_of_instanceAtFront? starts
      by_cases blank : isBlankText block.body = true
      · rw [if_pos blank] at ensured
        obtain rfl := Except.ok.inj ensured
        exact ⟨_, _, findInstance?_splice found aloneFree, aloneImports _ _⟩
      · rw [if_neg blank] at ensured
        cases written : ensureHeaderLine block.body line with
        | error fault =>
            rw [written] at ensured
            cases ensured
        | ok body =>
            rw [written] at ensured
            obtain rfl := Except.ok.inj ensured
            have free := bodyAndClosing?_ensureHeaderLine isImport lineFree oldFree written
            exact ⟨_, _, findInstance?_splice found free,
              isBlankText_ensureHeaderLine isImport (by simpa using blank) written,
              hasLine_of_ensureHeaderLine isImport written⟩

/-- An instance script that has the import line stays as it is. -/
theorem ensureScriptImport_of_imports {place : Nat} {block : ScriptBlock}
    (found : findInstance? 0 content = some (place, block)) (imports : Imports line block) :
    ensureScriptImport content line = .ok content := by
  obtain ⟨front, rest, rfl, rfl, starts, -⟩ := exists_of_findInstance? found
  obtain ⟨opening, name, behind, isOpening, -, rfl, -⟩ := exists_of_instanceAtFront? starts
  rw [ensureScriptImport, found]
  dsimp only
  rw [if_neg (by simp [imports.filled]), ensureHeaderLine_of_hasLine imports.imported]
  have length : 0 + front.length + block.openingLength = (front ++ opening).length := by
    rw [List.length_append, isOpening.length, ScriptBlock.openingLength, Nat.zero_add]
  refine congrArg Except.ok ?_
  rw [length, ← List.append_assoc front, splice_middle]

end Import

/-! ## The element in the markup -/

/-- A character of the tags that components are rendered under. -/
def isTagChar (tested : Char) : Bool :=
  "abcdefghijklmnopqrstuvwxyz0123456789-".toList.contains tested

/-- The line that renders a component, without its indentation. -/
def elementLine (tag : Text) : Text :=
  '<' :: (tag ++ " />\n".toList)

/-- The place of a document where a missing element is written. -/
def usagePlace (content : Text) : Nat :=
  match lastIndexOf? "</main>".toList content with
  | none => (trimEnd isLineFeed content).length
  | some close => if startsLine content close then lineStart content close else close

/-- What follows the place of an element, before and after the element is written: a closing tag
of the main part, or the line feeds that end a document and that the element replaces. -/
inductive ElementRest : (before after : Text) → Prop
  | main {blanks : Text} (rest : Text) : isBlankText blanks = true →
      ElementRest (blanks ++ ("</main>".toList ++ rest)) (blanks ++ ("</main>".toList ++ rest))
  | ended {feeds : Text} : isBlankText feeds = true → ElementRest feeds []

section Element

variable {content tag before after lead : Text}

/-- A missing element is written on a line of its own. -/
theorem exists_ensureUsage (missing : hasUsage content tag = false) :
    ∃ front before lead after, content = front ++ before ∧ usagePlace content = front.length ∧
      ElementRest before after ∧ isBlankText lead = true ∧
      ensureUsage content tag = front ++ (lead ++ (elementLine tag ++ after)) := by
  rw [ensureUsage, if_neg (by simp [missing]), usagePlace]
  cases found : lastIndexOf? "</main>".toList content with
  | none =>
      obtain ⟨feeds, areFeeds, parts⟩ := trimEnd_append_tail isLineFeed content
      have areBlank : isBlankText feeds = true := by
        refine List.all_eq_true.mpr fun tested member => ?_
        have isFeed := List.all_eq_true.mp areFeeds tested member
        rw [(by simpa [isLineFeed] using isFeed : tested = '\n')]
        rfl
      refine ⟨_, feeds, "\n\n".toList, [], parts, rfl, .ended areBlank, rfl, ?_⟩
      simp [elementLine]
  | some close =>
      obtain ⟨upTo, rest, rfl, rfl⟩ := exists_of_lastIndexOf? found
      dsimp only
      have indentBlank : isBlankText (lineIndent (upTo ++ ("</main>".toList ++ rest)) upTo.length) =
          true := (leadingIndent_blank _).1
      generalize lineIndent (upTo ++ ("</main>".toList ++ rest)) upTo.length = indent at indentBlank
      by_cases starts : startsLine (upTo ++ ("</main>".toList ++ rest)) upTo.length = true
      · rw [if_pos starts, if_pos starts]
        rw [startsLine_eq, List.take_left] at starts
        obtain ⟨front, parts⟩ := exists_eq_append_lastLine upTo
        have line : lineStart (upTo ++ ("</main>".toList ++ rest)) upTo.length = front.length := by
          have lengths := congrArg List.length parts
          rw [List.length_append] at lengths
          rw [lineStart_eq, List.take_left, lengths, Nat.add_sub_cancel]
        rw [line]
        generalize lastLine upTo = blanks at starts parts
        subst parts
        refine ⟨front, _, indent ++ indentStep, _, List.append_assoc .., rfl, .main rest starts,
          by rw [isBlankText_append, indentBlank]; rfl, ?_⟩
        rw [List.append_assoc, splice_between]
        simp [elementLine]
      · rw [if_neg starts, if_neg starts]
        refine ⟨upTo, _, '\n' :: (indent ++ indentStep), _, rfl, rfl,
          @ElementRest.main [] rest rfl, ?_, ?_⟩
        · rw [← List.singleton_append, isBlankText_append, isBlankText_append, indentBlank]
          rfl
        · rw [splice_between]
          simp [elementLine]

/-! ### Brackets of the line -/

/-- What a decidable property of all tag characters says of the characters of a tag. -/
theorem forall_tagChar (property : Char → Bool) (isTag : tag.all isTagChar = true)
    (all : "abcdefghijklmnopqrstuvwxyz0123456789-".toList.all property = true) :
    ∀ tested ∈ tag, property tested = true := fun tested member =>
  List.all_eq_true.mp all tested (List.contains_iff_mem.mp (List.all_eq_true.mp isTag tested member))

theorem isSome_bodyAndClosing?_element (isTag : tag.all isTagChar = true) (nonempty : tag ≠ [])
    (areBlank : isBlankText lead = true) (after : Text) :
    (bodyAndClosing? (lead ++ (elementLine tag ++ after))).isSome =
      (bodyAndClosing? after).isSome := by
  have noBracket : '<' ∉ tag ++ " />\n".toList := by
    have noTagBracket := forall_tagChar (· != '<') isTag (by decide)
    rw [List.mem_append, not_or]
    exact ⟨fun member => absurd (noTagBracket '<' member) (by decide), by decide⟩
  have noLead : '<' ∉ lead := fun member =>
    absurd (List.all_eq_true.mp areBlank '<' member) (by decide)
  obtain ⟨first, others, rfl⟩ := List.exists_cons_of_ne_nil nonempty
  have noSlash : matchesCaseless '/' first = false := by
    simpa using forall_tagChar (! matchesCaseless '/' ·) isTag (by decide) first
      List.mem_cons_self
  have noTag (rest : Text) : closingTag? ('<' :: (first :: rest)) = none := by
    have dropped : dropCaseless? "</script".toList ('<' :: (first :: rest)) =
        dropCaseless? "/script".toList (first :: rest) := rfl
    rw [closingTag?, dropped, show "/script".toList = '/' :: "script".toList from rfl,
      dropCaseless?, noSlash]
    rfl
  rw [bodyAndClosing?_append_of_notMem noLead, Option.isSome_map, elementLine, List.cons_append,
    List.cons_append, List.cons_append, bodyAndClosing?, noTag]
  dsimp only
  rw [Option.isSome_map, ← List.cons_append, ← List.cons_append,
    bodyAndClosing?_append_of_notMem noBracket, Option.isSome_map]

/-- Blanks hold none of the characters that tags are made of. -/
theorem notMem_of_isBlankText {solid : Char} (areBlank : isBlankText lead = true)
    (notBlank : isBlank solid = false) : solid ∉ lead := fun member =>
  absurd rfl (ne_of_isBlank (List.all_eq_true.mp areBlank solid member) notBlank)

theorem noQuote_of_isBlankText (areBlank : isBlankText lead = true) :
    ∀ tested ∈ lead, isQuote tested = false := by
  intro tested member
  cases quote : isQuote tested with
  | false => rfl
  | true => exact absurd member (notMem_of_isBlankText areBlank (isBlank_of_isQuote quote))

/-- The line opens no block for a tag that is open in front of it, unless one ends behind it. -/
theorem isSome_instanceBehind_element (isTag : tag.all isTagChar = true)
    (areBlank : isBlankText lead = true) (attributes after : Text) :
    (instanceBehind attributes (lead ++ (elementLine tag ++ after))).isSome =
      (! hasModuleMark dropCaseless? attributes && (bodyAndClosing? after).isSome) := by
  have quietTag := forall_tagChar (fun tested => ! isQuote tested && tested != '>')
    isTag (by decide)
  have quiet : ∀ tested ∈ '<' :: (tag ++ " /".toList), isQuote tested = false ∧ tested ≠ '>' := by
    intro tested member
    rw [List.mem_cons, List.mem_append] at member
    rcases member with rfl | member | member
    · decide
    · simpa using quietTag tested member
    · rcases (by simpa using member : tested = ' ' ∨ tested = '/') with rfl | rfl <;> decide
  have shape : lead ++ (elementLine tag ++ after) =
      (lead ++ '<' :: (tag ++ " /".toList)) ++ '>' :: ('\n' :: after) := by
    simp [elementLine]
  rw [shape, isSome_instanceBehind, bodyAndClosing?_cons_of_ne (by decide), Option.isSome_map]
  · rw [List.mem_append, not_or]
    exact ⟨notMem_of_isBlankText areBlank rfl, fun member => (quiet _ member).2 rfl⟩
  · intro tested member
    rcases List.mem_append.mp member with inLead | inTag
    · exact noQuote_of_isBlankText areBlank tested inLead
    · exact (quiet tested inTag).1

theorem ElementRest.severs (rest : ElementRest before after) : Severs before := by
  cases rest with
  | main rest areBlankBefore => exact .ofBlanks areBlankBefore (.ofOpening _)
  | @ended feeds areFeeds =>
      have severs := Severs.ofBlanks areFeeds .nil
      rwa [List.append_nil] at severs

theorem ElementRest.isSome_bodyAndClosing? (rest : ElementRest before after) :
    (bodyAndClosing? before).isSome = (bodyAndClosing? after).isSome := by
  cases rest with
  | main rest areBlankBefore => rfl
  | ended areFeeds =>
      rw [bodyAndClosing?_of_notMem (notMem_of_isBlankText areFeeds rfl)]
      rfl

theorem ElementRest.isSome_instanceBehind (rest : ElementRest before after) (attributes : Text) :
    (instanceBehind attributes before).isSome =
      (! hasModuleMark dropCaseless? attributes && (bodyAndClosing? after).isSome) := by
  cases rest with
  | @main blanks rest areBlank =>
      have noLead : '<' ∉ blanks := notMem_of_isBlankText areBlank rfl
      have inMain : (bodyAndClosing? ("</main>".toList ++ rest)).isSome =
          (bodyAndClosing? rest).isSome := by
        have noTag : closingTag? ("</main>".toList ++ rest) = none := rfl
        rw [show "</main>".toList ++ rest = '<' :: ("/main>".toList ++ rest) from rfl] at noTag ⊢
        rw [bodyAndClosing?_cons, noTag]
        dsimp only
        rw [Option.isSome_map, bodyAndClosing?_append_of_notMem (by decide), Option.isSome_map]
      have shape : blanks ++ ("</main>".toList ++ rest) =
          (blanks ++ "</main".toList) ++ '>' :: rest := by simp
      rw [bodyAndClosing?_append_of_notMem noLead, Option.isSome_map, inMain, shape,
        Markup.isSome_instanceBehind]
      · rw [List.mem_append, not_or]
        exact ⟨notMem_of_isBlankText areBlank rfl, by decide⟩
      · intro tested member
        rcases List.mem_append.mp member with inLead | inTag
        · exact noQuote_of_isBlankText areBlank tested inLead
        · have quiet : "</main".toList.all (! isQuote ·) = true := by decide
          simpa using List.all_eq_true.mp quiet tested inTag
  | ended areFeeds =>
      rw [instanceBehind_of_notMem (notMem_of_isBlankText areFeeds rfl),
        show bodyAndClosing? [] = none from rfl]
      exact (Bool.and_false _).symm

/-- No script in front of the place of an element can tell whether the element is written. -/
theorem ElementRest.alike (rest : ElementRest before after) (isTag : tag.all isTagChar = true)
    (nonempty : tag ≠ []) (areBlank : isBlankText lead = true) :
    Alike before (lead ++ (elementLine tag ++ after)) where
  seversLeft := rest.severs
  seversRight := .ofBlanks areBlank (.ofOpening _)
  closing := by
    rw [isSome_bodyAndClosing?_element isTag nonempty areBlank, rest.isSome_bodyAndClosing?]
  opening attributes := by
    rw [isSome_instanceBehind_element isTag areBlank, rest.isSome_instanceBehind]

/-- A tag that begins an opening tag of a script begins with its name. -/
theorem isPrefix_of_dropCaseless? {wanted behind rest : Text} (isTag : tag.all isTagChar = true)
    (letters : ∀ expected ∈ wanted, expected ∈ "script".toList)
    (dropped : dropCaseless? wanted (tag ++ ' ' :: rest) = some behind) : wanted <+: tag := by
  induction wanted generalizing tag with
  | nil => exact List.nil_prefix
  | cons expected others inductionHypothesis =>
      have isLetter := letters expected List.mem_cons_self
      cases tag with
      | nil =>
          rw [List.nil_append, dropCaseless?] at dropped
          have noMatch : "script".toList.all (! matchesCaseless · ' ') = true := by decide
          rw [if_neg (by simpa using List.all_eq_true.mp noMatch expected isLetter)] at dropped
          cases dropped
      | cons first more =>
          rw [List.cons_append, dropCaseless?] at dropped
          split at dropped
          · next same =>
              have exact := forall_tagChar (fun tested => "script".toList.all
                fun expected => ! matchesCaseless expected tested || expected == tested) isTag
                (by decide) first List.mem_cons_self
              have equal := List.all_eq_true.mp exact expected isLetter
              rw [same] at equal
              obtain rfl : expected = first := by simpa using equal
              rw [List.all_cons, Bool.and_eq_true] at isTag
              exact List.cons_prefix_cons.mpr ⟨rfl, inductionHypothesis isTag.2
                (fun tested member => letters tested (List.mem_cons_of_mem _ member)) dropped⟩
          · cases dropped

/-- The line begins no script if its tag does not look like one or no script can end behind it. -/
theorem noInstanceWithin_element (isTag : tag.all isTagChar = true) (nonempty : tag ≠ [])
    (areBlank : isBlankText lead = true)
    (noScript : "script".toList <+: tag → bodyAndClosing? after = none) :
    NoInstanceWithin (lead ++ elementLine tag) after := by
  by_cases begins : "script".toList <+: tag
  · apply NoInstanceWithin.of_bodyAndClosing?
    have same := isSome_bodyAndClosing?_element isTag nonempty areBlank after
    rw [noScript begins] at same
    rw [List.append_assoc]
    exact Option.isNone_iff_eq_none.mp (by simpa using same)
  · have noBracket : '<' ∉ tag ++ " />\n".toList := by
      have noTagBracket := forall_tagChar (· != '<') isTag (by decide)
      rw [List.mem_append, not_or]
      exact ⟨fun member => absurd (noTagBracket '<' member) (by decide), by decide⟩
    refine .append_of_notMem (notMem_of_isBlankText areBlank rfl) (.cons ?_ ?_)
    · rw [instanceAtFront?_eq]
      cases dropped : dropCaseless? "<script".toList
          ('<' :: (tag ++ " />\n".toList) ++ after) with
      | none => rfl
      | some behind =>
          have named : dropCaseless? "script".toList (tag ++ ' ' :: ("/>\n".toList ++ after)) =
              some behind := by
            rw [← dropped, List.cons_append, List.append_assoc]
            rfl
          exact absurd (isPrefix_of_dropCaseless? isTag (fun _ member => member) named) begins
    · exact .of_notMem noBracket

theorem opensElement_append (front rest : Text) (opens : opensElement tag rest = true) :
    opensElement tag (front ++ rest) = true := by
  induction front with
  | nil => exact opens
  | cons first others inductionHypothesis =>
      rw [List.cons_append, opensElement, inductionHypothesis, Bool.or_true]

theorem opensElement_elementLine (rest : Text) :
    opensElement tag (elementLine tag ++ rest) = true := by
  have dropped : dropExact? ('<' :: tag) (elementLine tag ++ rest) = some (" />\n".toList ++ rest) :=
    dropExact?_eq_some.mpr (by simp [elementLine])
  rw [elementLine, List.cons_append] at dropped ⊢
  rw [opensElement, dropped]
  rfl

/-- An element that is written outside the instance scripts shows, and the first instance script
is still the one that the import was written into. -/
theorem ensureUsage_outside {place : Nat} {block : ScriptBlock}
    (isTag : tag.all isTagChar = true) (nonempty : tag ≠ [])
    (missing : hasUsage content tag = false)
    (outside : isOutside content (usagePlace content) = true)
    (noScript : "script".toList <+: tag →
      bodyAndClosing? (content.drop (usagePlace content)) = none)
    (found : findInstance? 0 content = some (place, block)) :
    hasUsage (ensureUsage content tag) tag = true ∧
      ∃ again, findInstance? 0 (ensureUsage content tag) = some (again, block) := by
  obtain ⟨front, before, lead, after, rfl, atPlace, rest, areBlank, written⟩ :=
    exists_ensureUsage missing
  rw [atPlace, List.drop_left] at noScript
  rw [atPlace] at outside
  have alike := rest.alike isTag nonempty areBlank
  have same := alike.sameFront outside
  have absent := noInstanceWithin_element isTag nonempty areBlank fun begins => by
    have none := rest.isSome_bodyAndClosing?
    rw [noScript begins] at none
    exact Option.isNone_iff_eq_none.mp (by simpa using none.symm)
  rw [written]
  refine ⟨?_, ?_⟩
  · obtain ⟨kept, -, keptWritten⟩ := same.kept
    rw [hasUsage, keptWritten, ← List.append_assoc lead, withoutInstances_append absent,
      List.append_assoc lead]
    exact opensElement_append _ _ (opensElement_append _ _ (opensElement_elementLine _))
  · rcases same.first 0 with ⟨known, before, after⟩ | ⟨before, after⟩
    · rw [found] at before
      cases before
      exact ⟨place, after⟩
    · rw [after, ← List.append_assoc, findInstance?_append absent, findInstance?_map]
      rw [found] at before
      cases rest with
      | main rest areBlankBefore =>
          rw [← before]
          exact ⟨_, rfl⟩
      | ended areFeeds =>
          have noBracket := notMem_of_isBlankText areFeeds (show isBlank '<' = false from rfl)
          have search : findInstance? (0 + front.length) (_ ++ []) = _ :=
            findInstance?_append (.of_notMem noBracket)
          rw [List.append_nil, ← before] at search
          cases search

end Element

/-! ## Patching again -/

/-- A second patch of a playground changes nothing, and the element shows, if it shows as soon as
the import is there or if its place is outside the instance scripts.  A tag that looks like the one
of a script needs a place that no script can reach from, and an import line must not hold a closing
tag, which would end the script it is written into. -/
theorem patchPlayground_again {content importLine tag imported : Text} {outcome : Outcome}
    (isImport : Header.IsImportLine (strip importLine))
    (noClosingTag : bodyAndClosing? (strip importLine) = none)
    (isTag : tag.all isTagChar = true) (nonempty : tag ≠ [])
    (ensured : ensureScriptImport content importLine = .ok imported)
    (shows : hasUsage imported tag = true ∨
      (isOutside imported (usagePlace imported) = true ∧
        ("script".toList <+: tag →
          bodyAndClosing? (imported.drop (usagePlace imported)) = none)))
    (patched : patchPlayground content importLine tag = .ok outcome) :
    hasUsage outcome.content tag = true ∧
      patchPlayground outcome.content importLine tag = .ok ⟨outcome.content, false⟩ := by
  obtain ⟨place, block, found, imports⟩ := exists_imports isImport noClosingTag ensured
  rw [patchPlayground, ensured] at patched
  obtain rfl := Except.ok.inj patched
  obtain ⟨shown, again, foundAgain⟩ : hasUsage (ensureUsage imported tag) tag = true ∧
      ∃ again, findInstance? 0 (ensureUsage imported tag) = some (again, block) := by
    cases usage : hasUsage imported tag with
    | true =>
        rw [ensureUsage, if_pos usage]
        exact ⟨usage, place, found⟩
    | false =>
        obtain ⟨outside, noScript⟩ := shows.resolve_left (by simp [usage])
        exact ensureUsage_outside isTag nonempty usage outside noScript found
  refine ⟨shown, ?_⟩
  rw [patchPlayground]
  dsimp only [Outcome.ofTexts]
  rw [ensureScriptImport_of_imports foundAgain imports]
  dsimp only [bind, Except.bind, pure, Except.pure]
  rw [ensureUsage, if_pos shown]
  rw [decide_eq_false (not_not.mpr rfl)]

theorem patchPlayground_again_main :
    ∃ outcome,
      patchPlayground "<script>\n</script>\n\n<main>\n</main>\n".toList
        "import Banner from './Banner.svelte';".toList "banner".toList = .ok outcome ∧
      outcome.changed = true ∧ hasUsage outcome.content "banner".toList = true ∧
      patchPlayground outcome.content "import Banner from './Banner.svelte';".toList
        "banner".toList = .ok ⟨outcome.content, false⟩ := by
  let line : Text := "import Banner from './Banner.svelte';".toList
  let imported : Text :=
    ("<script>\n  import Banner from './Banner.svelte';\n</script>\n\n" ++
      "<main>\n</main>\n").toList
  let outcome : Outcome :=
    ⟨("<script>\n  import Banner from './Banner.svelte';\n</script>\n\n" ++
      "<main>\n  <banner />\n</main>\n").toList, true⟩
  have isImport : Header.IsImportLine (strip line) := ⟨by decide, by decide, by decide⟩
  have ensured : ensureScriptImport "<script>\n</script>\n\n<main>\n</main>\n".toList line =
      .ok imported := by
    show ensureScriptImport (_ : String).toList (_ : String).toList =
      .ok (_ ++ _ : String).toList
    rw [String.toList_append]
    repeat rw [String.toList_ofList]
    decide +kernel
  have patched : patchPlayground "<script>\n</script>\n\n<main>\n</main>\n".toList line
      "banner".toList = .ok outcome := by
    show patchPlayground (_ : String).toList (_ : String).toList (_ : String).toList =
      .ok ⟨(_ ++ _ : String).toList, true⟩
    rw [String.toList_append]
    repeat rw [String.toList_ofList]
    decide +kernel
  have again := patchPlayground_again isImport (by decide) (by decide) (by decide) ensured
    (.inr ⟨by decide +kernel, by decide⟩) patched
  exact ⟨outcome, patched, rfl, again⟩

/-- The last closing tag of the main part may stand in a string of a script.  The element is then
written into the string, where it is not seen, and once more by every later patch. -/
theorem patchPlayground_again_in_script :
    ∃ outcome again,
      patchPlayground
        "<main></main>\n<script>\n  const closing = '</main>';\n</script>\n".toList
        "import Banner from './Banner.svelte';".toList "banner".toList = .ok outcome ∧
      hasUsage outcome.content "banner".toList = false ∧
      patchPlayground outcome.content "import Banner from './Banner.svelte';".toList
        "banner".toList = .ok again ∧
      again.changed = true := by
  refine ⟨⟨("<main></main>\n<script>\n  import Banner from './Banner.svelte';\n" ++
      "  const closing = '\n    <banner />\n</main>';\n</script>\n").toList, true⟩,
    ⟨("<main></main>\n<script>\n  import Banner from './Banner.svelte';\n" ++
      "  const closing = '\n    <banner />\n  <banner />\n</main>';\n</script>\n").toList, true⟩,
    ?patched, ?hidden, ?again, rfl⟩
  case patched =>
    rw [String.toList_append]
    repeat rw [String.toList_ofList]
    decide +kernel
  case hidden =>
    dsimp only
    rw [String.toList_append]
    repeat rw [String.toList_ofList]
    decide +kernel
  case again =>
    dsimp only
    rw [String.toList_append, String.toList_append]
    repeat rw [String.toList_ofList]
    decide +kernel

end Markup

end EmbedScaffold
