import EmbedScaffold.Proofs.Registry.Content
import EmbedScaffold.Proofs.Registry.Declaration
import EmbedScaffold.Proofs.Token.Declarations

/-!
# Declarations around an upsert

Entries stand between marks, so the declarations of a document are those before its mapping, within
its entries and behind it.  An upsert of a value that declares nothing keeps all of them but those
of the entries of its key.
-/

namespace EmbedScaffold

open Text Scan Lexeme Header

/-! ## The tokens of an entry -/

def Document.tokensOf (document : Document) (entry : Entry) : List Token :=
  document.tokens.toList.filter fun token => entry.start ≤ token.start && token.stop ≤ entry.stop

theorem Scan.Fits.value_ne_nil {allowed : Bool} {lexemes : List Lexeme} {after : Text}
    (fits : Fits allowed lexemes after) : ∀ lexeme ∈ lexemes, lexeme.value ≠ [] := by
  induction lexemes generalizing allowed with
  | nil => exact fun _ member => absurd member List.not_mem_nil
  | cons first rest inductionHypothesis =>
      obtain ⟨letter, letters, starts, -⟩ := fits.2.1.exists_cons
      refine List.forall_mem_cons.mpr ⟨?_, inductionHypothesis fits.2.2.2⟩
      rw [starts]
      exact List.cons_ne_nil _ _

namespace Lexeme

theorem bounds_of_mem_tokensAt {offset : Nat} {lexemes : List Lexeme} {token : Token}
    (solid : ∀ lexeme ∈ lexemes, lexeme.value ≠ []) (member : token ∈ tokensAt offset lexemes) :
    offset + (firstGap lexemes).length ≤ token.start ∧ token.start < token.stop ∧
      token.stop ≤ offset + (textOf lexemes).length := by
  induction lexemes generalizing offset with
  | nil => cases member
  | cons first rest inductionHypothesis =>
      obtain ⟨solidFirst, solidRest⟩ := List.forall_mem_cons.mp solid
      have positive := List.length_pos_iff.mpr solidFirst
      have gap : (firstGap (first :: rest)).length = first.gap.length := rfl
      rw [textOf_cons, List.length_append, gap]
      rcases List.mem_cons.mp member with rfl | behind
      · simp only [tokenAt, text_length]
        omega
      · obtain ⟨start, proper, stop⟩ := inductionHypothesis solidRest behind
        rw [text_length] at start stop ⊢
        omega

/-- The tokens between two places at which lexemes are cut are those of the lexemes there. -/
theorem filter_tokensAt {left body right : List Lexeme} {start stop : Nat}
    (solid : ∀ lexeme ∈ left ++ (body ++ right), lexeme.value ≠ [])
    (begins : start = (textOf left).length + (firstGap body).length)
    (ends : stop = (textOf left).length + (textOf body).length) :
    ((tokensAt 0 (left ++ (body ++ right))).filter fun token =>
        start ≤ token.start && token.stop ≤ stop) =
      tokensAt (textOf left).length body := by
  obtain ⟨solidLeft, solidBehind⟩ := List.forall_mem_append.mp solid
  obtain ⟨solidBody, solidRight⟩ := List.forall_mem_append.mp solidBehind
  subst begins ends
  rw [tokensAt_append, tokensAt_append, List.filter_append, List.filter_append, Nat.zero_add,
    List.filter_eq_nil_iff.mpr, List.filter_eq_self.mpr, List.filter_eq_nil_iff.mpr,
    List.nil_append, List.append_nil]
  · intro token member
    have bounds := bounds_of_mem_tokensAt solidRight member
    simp only [Bool.and_eq_true, decide_eq_true_eq]
    omega
  · intro token member
    have bounds := bounds_of_mem_tokensAt solidBody member
    simp only [Bool.and_eq_true, decide_eq_true_eq]
    omega
  · intro token member
    have bounds := bounds_of_mem_tokensAt solidLeft member
    simp only [Bool.and_eq_true, decide_eq_true_eq]
    omega

/-- The declarations of two parts, of which the second begins with no word. -/
theorem declared_append {name : Text} {right : List Lexeme}
    (noWord : ∀ first ∈ right.head?, first.kind ≠ .word) (left : List Lexeme) :
    declared name (left ++ right) = declared name left + declared name right := by
  cases right with
  | nil => rw [List.append_nil]; rfl
  | cons first rest => rw [declared_around (noWord first rfl), declared_cons (noWord first rfl)]

end Lexeme

/-! ## The declarations of a layout -/

namespace Cell

variable {name key : Text} {cells : List Cell}

/-- How often the entries of cells declare a name. -/
def declared (name : Text) : List Cell → Nat
  | [] => 0
  | cell :: others => Lexeme.declared name cell.body + declared name others

theorem declared_append (left right : List Cell) :
    declared name (left ++ right) = declared name left + declared name right := by
  induction left with
  | nil => exact (Nat.zero_add _).symm
  | cons cell others inductionHypothesis =>
      rw [List.cons_append, declared, declared, inductionHypothesis, Nat.add_assoc]

theorem declared_cons (cell : Cell) (cells : List Cell) :
    declared name (cell :: cells) = Lexeme.declared name cell.body + declared name cells :=
  rfl

theorem declared_lexemesOf (marks : ∀ cell ∈ cells, cell.mark.kind ≠ .word) {rest : List Lexeme}
    (noWord : ∀ first ∈ rest.head?, first.kind ≠ .word) :
    Lexeme.declared name (lexemesOf cells ++ rest) =
      declared name cells + Lexeme.declared name rest := by
  induction cells with
  | nil => exact (Nat.zero_add _).symm
  | cons cell others inductionHypothesis =>
      obtain ⟨noMark, otherMarks⟩ := List.forall_mem_cons.mp marks
      have behind : ∀ first ∈ (lexemesOf others ++ rest).head?, first.kind ≠ .word := by
        cases others with
        | nil => exact noWord
        | cons next more =>
            rintro _ ⟨⟩
            exact otherMarks next List.mem_cons_self
      have shape : lexemesOf (cell :: others) ++ rest =
          cell.mark :: (cell.body ++ (lexemesOf others ++ rest)) := by
        simp
      rw [shape, Lexeme.declared_cons noMark, Lexeme.declared_append behind,
        inductionHypothesis otherMarks, declared_cons, Nat.add_assoc]

/-- Cells that declare nothing may be left out. -/
theorem declared_without
    (silent : ∀ cell ∈ cells, keyOf cell.body = some key → Lexeme.declared name cell.body = 0) :
    declared name (without key cells) = declared name cells := by
  induction cells with
  | nil => rfl
  | cons cell others inductionHypothesis =>
      obtain ⟨silentCell, silentOthers⟩ := List.forall_mem_cons.mp silent
      have behind := inductionHypothesis silentOthers
      by_cases hasKey : keyOf cell.body = some key
      · rw [without_cons_of_key hasKey, declared_cons, silentCell hasKey, behind, Nat.zero_add]
      · rw [without_cons_of_ne hasKey, declared_cons, declared_cons, behind]

end Cell

namespace Layout

open Cell

variable {name constant key : Text} {layout edited : Layout} {value : List Lexeme}

theorem kind_of_isPunct {lexeme : Lexeme} {mark : Char} (isPunct : lexeme.isPunct mark = true) :
    lexeme.kind ≠ .word := by
  rw [((lexeme.isPunct_iff mark).mp isPunct).1]
  simp

theorem Sound.marks (sound : layout.Sound name) :
    ∀ cell ∈ layout.allCells, cell.mark.kind ≠ .word := by
  have marked := sound.marked
  cases shape : layout.allCells with
  | nil => exact fun _ member => absurd member List.not_mem_nil
  | cons first others =>
      rw [shape] at marked
      exact List.forall_mem_cons.mpr
        ⟨kind_of_isPunct marked.1, fun cell member => kind_of_isPunct (marked.2 cell member)⟩

/-- The declarations of a document: before the mapping, within its entries and behind it. -/
theorem Sound.declared_lexemes (sound : layout.Sound name) :
    Lexeme.declared constant layout.lexemes =
      Lexeme.declared constant layout.lead + Cell.declared constant layout.cells +
        Lexeme.declared constant layout.rest := by
  have closing : layout.closing.kind ≠ .word := kind_of_isPunct sound.closes
  have noWord : ∀ first ∈ (layout.closing :: layout.rest).head?, first.kind ≠ .word := by
    rintro _ ⟨⟩
    exact closing
  have bare : Cell.declared constant (layout.trailing.toList.map Cell.bare) = 0 := by
    cases layout.trailing <;> rfl
  have begins : ∀ first ∈ (lexemesOf layout.allCells ++ layout.closing :: layout.rest).head?,
      first.kind ≠ .word := by
    have marks := sound.marks
    cases shape : layout.allCells with
    | nil => exact noWord
    | cons first others =>
        rw [shape] at marks
        rintro _ ⟨⟩
        exact marks first List.mem_cons_self
  rw [lexemes, Lexeme.declared_append begins, declared_lexemesOf sound.marks noWord,
    Lexeme.declared_cons closing, allCells, Cell.declared_append, bare, Nat.add_zero, Nat.add_assoc]

/-- An upsert keeps the declarations around the entries of its key. -/
theorem IsEdited.declared_cells (isEdited : layout.IsEdited key value edited)
    (silent : ∀ cell ∈ layout.cells, keyOf cell.body = some key →
      Lexeme.declared constant cell.body = 0)
    (silentValue : Lexeme.declared constant value = 0) :
    Cell.declared constant edited.cells = Cell.declared constant layout.cells := by
  have silentEntry (gap : Text) : Lexeme.declared constant (newEntry gap key value) = 0 :=
    (declared_newEntry gap key value).trans silentValue
  have alone (mark : Lexeme) (gap : Text) :
      Cell.declared constant [⟨mark, newEntry gap key value⟩] = 0 := by
    rw [Cell.declared_cons, silentEntry]
    rfl
  cases isEdited with
  | @replaced front back cell shape fresh hasKey =>
      rw [shape] at silent ⊢
      obtain ⟨-, silentBehind⟩ := List.forall_mem_append.mp silent
      obtain ⟨silentCell, silentBack⟩ := List.forall_mem_cons.mp silentBehind
      rw [withBody, Cell.declared_append, Cell.declared_append, Cell.declared_cons,
        Cell.declared_cons, silentEntry, silentCell hasKey, declared_without silentBack]
  | added fresh =>
      rw [withNew]
      split
      · rw [Cell.declared_append, alone, Nat.add_zero]
      · next brace _ shape => rw [shape, alone]; rfl
      · rw [Cell.declared_append, alone, Nat.add_zero]

theorem IsEdited.declared_lexemes (isEdited : layout.IsEdited key value edited)
    (sound : layout.Sound name) (editedSound : edited.Sound name)
    (silent : ∀ cell ∈ layout.cells, keyOf cell.body = some key →
      Lexeme.declared constant cell.body = 0)
    (silentValue : Lexeme.declared constant value = 0) :
    Lexeme.declared constant edited.lexemes = Lexeme.declared constant layout.lexemes := by
  have around := isEdited.sameAround sound.cells_ne_nil
  rw [sound.declared_lexemes, editedSound.declared_lexemes, around.lead, around.rest,
    isEdited.declared_cells silent silentValue]

/-- The tokens of an entry are those of its cell. -/
theorem Sound.tokensOf {document : Document} {front back : List Cell} {cell : Cell}
    (sound : layout.Sound name) (scanned : Scanned document layout.lexemes layout.after)
    (shape : layout.cells = front ++ cell :: back) :
    declarations constant (document.tokensOf
        (cell.entryAt (textOf (layout.lead ++ lexemesOf front)).length)) =
      Lexeme.declared constant cell.body := by
  have parts := lexemes_cell shape
  have solid := sound.fits.value_ne_nil
  rw [parts] at solid
  have text := cell.textOf_lexemes
  have lengths := congrArg List.length text
  have gap := congrArg List.length (textOf_eq cell.body)
  have mark : (textOf (layout.lead ++ lexemesOf front ++ [cell.mark])).length =
      (textOf (layout.lead ++ lexemesOf front)).length + cell.mark.text.length := by
    simp [Nat.add_assoc]
  simp only [upToBody, List.length_append] at lengths gap
  rw [Document.tokensOf, scanned.tokens, parts, filter_tokensAt solid, declarations_tokensAt]
  · rw [mark, entryAt, entryTo]
    dsimp only
    omega
  · rw [mark, entryAt, entryTo]
    dsimp only
    omega

end Layout

/-! ## Upserts and declarations -/

namespace Mapping

/-- Whether the entries of a mapping close up when all but one of a key are left out: none of them
ends in a bare slash, or there is one entry of the key at most. -/
def closesUp (content name key : Text) : Bool :=
  (locate content name).all fun found =>
    found.2.entries.all (fun entry => ! entry.endsInSlash found.1) ||
      found.2.entries.countP (fun entry => entry.key = some key) ≤ 1

/-- Whether an entry of a key declares a name. -/
def declaresWithin (constant content name key : Text) : Bool :=
  (locate content name).any fun found => found.2.entries.any fun entry =>
    entry.key = some key && 0 < declarations constant (found.1.tokensOf entry)

theorem locate_eq {content name : Text} {document : Document} {mapping : Mapping}
    (scannedText : Document.ofText content = .ok document)
    (found : find? document name = .ok (some mapping)) :
    locate content name = some (document, mapping) := by
  simp only [locate, scannedText, found]

end Mapping

namespace Layout

open Cell

variable {name key constant : Text} {layout : Layout}

theorem Sound.apart (sound : layout.Sound name)
    (closesUp : Mapping.closesUp layout.content name key = true) :
    (∀ cell ∈ layout.cells, cell.Loose) ∨
      layout.mapping.entries.countP (·.key = some key) ≤ 1 := by
  obtain ⟨document, scannedText, scanned, found⟩ := sound.find
  rw [Mapping.closesUp, Mapping.locate_eq scannedText found, Option.all_some, Bool.or_eq_true,
    List.all_eq_true, decide_eq_true_eq] at closesUp
  refine closesUp.imp_left fun noSlash => sound.loose scanned fun entry member => ?_
  simpa using noSlash entry member

theorem Sound.silent (sound : layout.Sound name)
    (silent : Mapping.declaresWithin constant layout.content name key = false) :
    ∀ cell ∈ layout.cells, keyOf cell.body = some key → Lexeme.declared constant cell.body = 0 := by
  obtain ⟨document, scannedText, scanned, found⟩ := sound.find
  rw [Mapping.declaresWithin, Mapping.locate_eq scannedText found, Option.any_some,
    List.any_eq_false] at silent
  intro cell member hasKey
  obtain ⟨front, back, shape⟩ := List.append_of_mem member
  have none := silent _ (mem_entries shape (body_ne_nil hasKey))
  rw [sound.tokensOf scanned shape] at none
  have same : (cell.entryAt (textOf (layout.lead ++ lexemesOf front)).length).key = some key := hasKey
  simpa only [same, decide_true, Bool.true_and, decide_eq_true_eq, Nat.not_lt, Nat.le_zero] using none

end Layout

/-- The lexemes of a self-contained text declare nothing at any indentation. -/
theorem SelfContained.declared_reindented {content indent constant : Text} {lexemes : List Lexeme}
    (selfContained : SelfContained content) (areBlank : ∀ blank ∈ indent, isMargin blank = true)
    (fits : Fits true lexemes []) (text : textOf lexemes = reindent content indent) :
    declared constant lexemes = 0 := by
  obtain ⟨own, rfl, snippet⟩ := selfContained
  obtain ⟨others, shape, othersFit, -, -, kindred⟩ :=
    snippet.fits.exists_reindented snippet.nonempty snippet.flush areBlank
  have trailing : Trailing [] := fun _ => skipTrivia_nil _
  have tokens := scan_fits fits trailing
  rw [text, shape, scan_fits othersFit trailing] at tokens
  have same : List.Forall₂ _ lexemes others :=
    kindred_of_tokensAt (congrArg (List.map Token.bare) (Except.ok.inj tokens).symm)
  rw [declared_of_kindred same]
  exact declared_of_wordsApart (snippet.wordsApart.congr kindred)

/-- What an upsert without a header line gives, if it gives a text. -/
theorem exists_of_upsertEntry {content : Text} {wanted : EntryUpsert} {outcome : Outcome}
    (noHeader : wanted.headerLine = none) (returned : upsertEntry content wanted = .ok outcome) :
    ∃ document, Document.ofText content = .ok document ∧
      ((∃ mapping, Mapping.find? document wanted.mapping = .ok (some mapping) ∧
          outcome.content = mapping.upsert content wanted.key wanted.value) ∨
        (Mapping.find? document wanted.mapping = .ok none ∧
          outcome.content = Mapping.appendDeclaration content wanted.declaration wanted.mapping
            wanted.key wanted.value)) := by
  cases scannedText : Document.ofText content with
  | error fault =>
      rw [upsertEntry, Document.forEdit, scannedText] at returned
      cases returned
  | ok document =>
      refine ⟨document, rfl, ?_⟩
      have read := Document.forEdit_ok scannedText
      simp only [upsertEntry, noHeader, read, bind, Except.bind, pure, Except.pure] at returned
      cases found : Mapping.find? document wanted.mapping with
      | error fault =>
          rw [found] at returned
          cases returned
      | ok located =>
          rw [found] at returned
          cases located with
          | some mapping =>
              cases returned
              exact .inl ⟨mapping, rfl, rfl⟩
          | none =>
              dsimp only at returned
              split at returned
              · cases returned
              · split at returned
                · cases returned
                  exact .inr ⟨rfl, rfl⟩
                · cases returned

theorem Lexeme.isWord_ofWord (word name : Text) :
    (ofWord word).token.isWord name = decide (word = name) := by
  simp [Token.isWord, ofWord, Lexeme.token, tokenAt]

/-- The words of the declaration that an upsert writes declare its mapping alone. -/
theorem Layout.declared_lead {front : List Lexeme} {gap name key constant : Text}
    {value : List Lexeme} (otherName : constant ≠ name) (otherWord : constant ≠ "export".toList) :
    Lexeme.declared constant
        (Layout.declared front gap (["export".toList, "const".toList] ++ [name]) key value).lead =
      Lexeme.declared constant front := by
  have mark : (ofMark [' '] '=').kind ≠ .word := by decide
  have noName : (ofWord name).token.isWord constant = false := by
    rw [isWord_ofWord, decide_eq_false otherName.symm]
  have noExport : (ofWord "export".toList).token.isWord constant = false := by
    rw [isWord_ofWord, decide_eq_false otherWord.symm]
  have silent : Lexeme.declared constant
      (withGap gap (["export".toList, "const".toList, name].map ofWord)) = 0 := by
    have keyword : declares constant (ofWord "export".toList).token (ofWord "const".toList).token =
        false := by
      rw [declares, Bool.and_assoc, Bool.and_eq_false_imp]
      exact fun _ => by decide
    have last := @declares_of_word constant _ noName (ofWord "const".toList).token
    rw [declared_withGap, Lexeme.declared]
    simp only [List.map_cons, List.map_nil, declarations, keyword, last]
    rfl
  rw [Layout.declared]
  dsimp only
  rw [declared_around mark, declared_append_of_seam]
  · rw [List.cons_append, List.singleton_append, silent]
    rfl
  · intro _ _ first isFirst _
    obtain rfl : (⟨gap, .word, "export".toList⟩ : Lexeme) = first := Option.some.inj isFirst
    exact noExport

/-- An upsert of a value that declares nothing keeps how often a text declares a name, if the entries
of its key do not declare it. -/
theorem upsertEntry_declarations {content constant : Text} {wanted : EntryUpsert} {outcome : Outcome}
    (noHeader : wanted.headerLine = none) (declaration : wanted.declaration = "export const".toList)
    (isName : isWordText wanted.mapping = true) (otherName : constant ≠ wanted.mapping)
    (otherWord : constant ≠ "export".toList) (sameLine : '\n' ∉ wanted.key)
    (selfContained : SelfContained (strip wanted.value))
    (closesUp : Mapping.closesUp content wanted.mapping wanted.key = true)
    (silent : ∀ layout : Layout, layout.Sound wanted.mapping → layout.content = content →
      ∀ cell ∈ layout.cells, keyOf cell.body = some wanted.key → declared constant cell.body = 0)
    (returned : upsertEntry content wanted = .ok outcome) :
    declarationsIn constant outcome.content = declarationsIn constant content := by
  have admissible := selfContained.isEntryValue
  obtain ⟨document, scannedText, found | absent⟩ := exists_of_upsertEntry noHeader returned
  · obtain ⟨mapping, found, upserted⟩ := found
    obtain ⟨layout, sound, rfl, rfl, scanned⟩ := Layout.exists_sound scannedText found
    obtain ⟨indent, lexemes, edited, areBlank, text, entryValue, editedSound, same, isEdited⟩ :=
      sound.exists_edited sameLine admissible (sound.apart closesUp)
    have silentValue : declared constant lexemes = 0 :=
      selfContained.declared_reindented areBlank entryValue.fits text
    have kept : declared constant edited.lexemes = declared constant layout.lexemes :=
      isEdited.declared_lexemes sound editedSound (silent layout sound rfl) silentValue
    obtain ⟨updated, updatedText, updatedScanned, -⟩ := editedSound.find
    rw [upserted, same, declarationsIn_eq updatedText updatedScanned.tokens,
      declarationsIn_eq scannedText scanned.tokens, kept]
  · obtain ⟨found, appended⟩ := absent
    have areWords : ∀ word ∈ ["export".toList, "const".toList] ++ [wanted.mapping],
        isWordText word = true := by
      refine List.forall_mem_append.mpr ⟨by decide +kernel, fun word member => ?_⟩
      rw [List.mem_singleton.mp member]
      exact isName
    obtain ⟨front, gap, tokens, declares⟩ :=
      Layout.exists_declared scannedText found (List.cons_ne_nil _ _) areWords
    obtain ⟨lexemes, text, entryValue⟩ := exists_reindentedValue admissible isMargin_indentStep
    have silentValue : declared constant lexemes = 0 :=
      selfContained.declared_reindented isMargin_indentStep entryValue.fits text
    obtain ⟨sound, written⟩ := declares sameLine entryValue
    obtain ⟨updated, updatedText, updatedScanned, -⟩ := sound.find
    have joined : join [' '] ["export".toList, "const".toList] = "export const".toList := by decide
    rw [joined, ← declaration] at written
    have cells : Cell.declared constant (Layout.declared front gap
        (["export".toList, "const".toList] ++ [wanted.mapping]) wanted.key lexemes).cells = 0 := by
      rw [Layout.declared]
      dsimp only
      rw [Cell.declared_cons, declared_newEntry, silentValue]
      rfl
    rw [appended, written wanted.value text, declarationsIn_eq updatedText updatedScanned.tokens,
      declarationsIn_eq scannedText tokens, sound.declared_lexemes,
      Layout.declared_lead otherName otherWord, cells]
    rfl

end EmbedScaffold
