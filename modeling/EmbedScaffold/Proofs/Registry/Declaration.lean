import EmbedScaffold.Proofs.Text.Reindent
import EmbedScaffold.Proofs.Registry.View

/-!
# A mapping declared at the end of a document

A mapping that a document neither has nor declares is written behind everything else, as a
declaration with one entry.  The lexemes of the document stay as they are, and the mapping is found
in the declaration.
-/

namespace EmbedScaffold

open Text Scan Lexeme

namespace Mapping

/-- Behind a brace that is not located, two tokens that are no braces begin anew. -/
theorem braceFrom?_append {name : Text} {index : Nat} {previous : Option Token}
    {left : List Token} (absent : braceFrom? name index previous left = none) {first second : Token}
    (notFirst : first.isPunct '\x7b' = false) (notSecond : second.isPunct '\x7b' = false)
    (rest : List Token) :
    braceFrom? name index previous (left ++ first :: second :: rest) =
      braceFrom? name (index + left.length) (left.getLast?.or previous)
        (first :: second :: rest) := by
  induction left generalizing index previous with
  | nil => rfl
  | cons word behind inductionHypothesis =>
      have place : index + (word :: behind).length = index + 1 + behind.length := by
        rw [List.length_cons]
        omega
      have last : (word :: behind).getLast?.or previous = behind.getLast?.or (some word) := by
        rw [List.getLast?_cons]
        cases behind.getLast? <;> rfl
      rw [place, last]
      cases behind with
      | nil =>
          rw [List.cons_append, List.nil_append, braceFrom?_cons, notSecond]
          simp
      | cons operator more =>
          cases more with
          | nil =>
              rw [← inductionHypothesis rfl]
              simp only [List.cons_append, List.nil_append]
              rw [braceFrom?_cons, notFirst]
              simp
          | cons brace others =>
              rw [braceFrom?_cons] at absent
              split at absent
              · cases absent
              · next unmatched =>
                  rw [← inductionHypothesis absent]
                  simp only [List.cons_append]
                  rw [braceFrom?_cons, if_neg unmatched]

/-- Tokens without a brace do not complete what stands before them. -/
theorem braceFrom?_none_append {name : Text} {index : Nat} {previous : Option Token}
    {left right : List Token} (absent : braceFrom? name index previous left = none)
    (noBrace : ∀ token ∈ right, token.isPunct '\x7b' = false) :
    braceFrom? name index previous (left ++ right) = none := by
  cases located : braceFrom? name index previous (left ++ right) with
  | none => rfl
  | some found =>
      obtain ⟨lead, brace, rest, shape, rfl, _, isBrace⟩ := braceFrom?_shape located
      rcases List.append_eq_append_iff.mp shape with
        ⟨others, _, behind⟩ | ⟨others, front, behind⟩
      · have member : brace ∈ right := by simp [behind]
        rw [noBrace brace member] at isBrace
        cases isBrace
      · cases others with
        | nil =>
            have member : brace ∈ right := by
              rw [List.nil_append] at behind
              exact behind ▸ List.mem_cons_self
            rw [noBrace brace member] at isBrace
            cases isBrace
        | cons first more =>
            obtain rfl : brace = first := (List.cons.inj behind).1
            rw [shape] at located
            rw [front, braceFrom?_local located more] at absent
            cases absent

end Mapping

/-! ## The front of a document -/

namespace Scan

/-- Behind the last lexeme of a document the line feeds at its end may be exchanged for others. -/
theorem Fits.reclose {lexemes : List Lexeme} {gap tail : Text}
    (fits : Fits true lexemes (gap ++ tail)) (trailing : Trailing (gap ++ tail)) (rest : Text) :
    Fits true lexemes (gap ++ '\n' :: rest) := by
  refine fits.retail fun last isLast => ?_
  cases gap with
  | nil => exact Apart.ofBlank rfl last rest
  | cons first more =>
      exact Apart.ofHead (fits.separated_last last isLast) (trailing.trivia.head first rfl) _

end Scan

/-! ## The lexemes of a declaration -/

def isWordText (word : Text) : Bool :=
  ! word.isEmpty && word.all isWordChar

theorem isWordText_iff (word : Text) :
    isWordText word = true ↔ word ≠ [] ∧ ∀ letter ∈ word, isWordChar letter = true := by
  simp [isWordText]

namespace Lexeme

/-- A word behind a blank. -/
def ofWord (word : Text) : Lexeme :=
  ⟨[' '], .word, word⟩

/-- A mark behind a gap. -/
def ofMark (gap : Text) (mark : Char) : Lexeme :=
  ⟨gap, .punct, [mark]⟩

theorem textOf_ofWord (gap word : Text) (words : List Text) :
    textOf (withGap gap ((word :: words).map ofWord)) = gap ++ join [' '] (word :: words) := by
  have behind (word : Text) (words : List Text) :
      word ++ textOf (words.map ofWord) = join [' '] (word :: words) := by
    induction words generalizing word with
    | nil => exact List.append_nil word
    | cons next others inductionHypothesis =>
        rw [join_cons_cons, ← inductionHypothesis next]
        simp [ofWord, Lexeme.text]
  rw [List.map_cons, withGap, textOf_cons, Lexeme.text, List.append_assoc]
  exact congrArg (gap ++ ·) (behind word words)

theorem kind_ofWord (gap : Text) (words : List Text) :
    ∀ lexeme ∈ withGap gap (words.map ofWord), lexeme.kind = .word := by
  intro lexeme member
  cases words with
  | nil => cases member
  | cons first others =>
      rcases List.mem_cons.mp member with rfl | inOthers
      · rfl
      · obtain ⟨word, _, rfl⟩ := List.mem_map.mp inOthers
        rfl

theorem exists_of_mem_tokensAt {offset : Nat} {lexemes : List Lexeme} {token : Token}
    (member : token ∈ tokensAt offset lexemes) :
    ∃ lexeme ∈ lexemes, token.kind = lexeme.kind := by
  induction lexemes generalizing offset with
  | nil => cases member
  | cons first rest inductionHypothesis =>
      rcases List.mem_cons.mp member with rfl | inRest
      · exact ⟨first, List.mem_cons_self, rfl⟩
      · obtain ⟨lexeme, inside, same⟩ := inductionHypothesis inRest
        exact ⟨lexeme, List.mem_cons_of_mem _ inside, same⟩

theorem balanced_ofWord (gap : Text) (words : List Text) :
    Balanced (withGap gap (words.map ofWord)) := by
  refine nest_withGap gap (fun _ _ _ => rfl) ?_
  induction words with
  | nil => exact .nil _
  | cons word rest inductionHypothesis =>
      exact (nest_of_kind (show (ofWord word).kind ≠ .punct by simp [ofWord]) ' ').balanced.append
        inductionHypothesis

theorem fits_ofMark {gap : Text} {mark : Char} (trivia : Trivia gap) (marks : isMark mark = true)
    {rest : List Lexeme} {after : Text}
    (fits : Fits (ofMark gap mark).token.allowsRegex rest after) (allowed : Bool) :
    Fits allowed (ofMark gap mark :: rest) after :=
  Fits.mark marks trivia fits

private theorem ne_slash {word : Text} (letters : ∀ letter ∈ word, isWordChar letter = true) :
    word ≠ ['/'] := by
  rintro rfl
  exact absurd (letters '/' List.mem_cons_self) (by decide)

theorem fits_ofWord {word : Text} (isWord : isWordText word = true) {gap : Text}
    (trivia : Trivia gap) {words : List Text} (areWords : ∀ word ∈ words, isWordText word = true)
    {rest : List Lexeme} {after : Text} (soft : Soft (textOf rest ++ after))
    (fits : ∀ allowed, Fits allowed rest after) (allowed : Bool) :
    Fits allowed (withGap gap ((word :: words).map ofWord) ++ rest) after := by
  induction words generalizing word gap allowed with
  | nil =>
      obtain ⟨nonempty, letters⟩ := (isWordText_iff word).mp isWord
      exact ⟨trivia, .word nonempty letters allowed,
        (Apart.ofSoft soft (ne_slash letters)).separated, fits _⟩
  | cons next others inductionHypothesis =>
      obtain ⟨nonempty, letters⟩ := (isWordText_iff word).mp isWord
      have behind := inductionHypothesis (areWords next List.mem_cons_self)
        (Trivia.ofBlank (show isBlankText [' '] = true from rfl))
        (fun word member => areWords word (List.mem_cons_of_mem _ member))
      exact ⟨trivia, .word nonempty letters allowed,
        (Apart.ofBlank (show isBlank ' ' = true from rfl) _ _).separated, behind _⟩

end Lexeme

namespace Layout

open Cell

/-- The layout of a document that ends in the declaration of a mapping with one entry: `front`, a
gap, the words of the declaration, of which the last is the name, and the entry. -/
def declared (front : List Lexeme) (gap : Text) (words : List Text) (key : Text)
    (value : List Lexeme) : Layout where
  lead := front ++ withGap gap (words.map ofWord) ++ [ofMark [' '] '=']
  cells := [⟨ofMark [' '] '\x7b', newEntry ('\n' :: indentStep) key value⟩]
  trailing := none
  closing := ofMark ['\n'] '\x7d'
  rest := [ofMark [] ';']
  after := ['\n']

variable {front : List Lexeme} {gap name key value : Text} {words : List Text}
  {lexemes : List Lexeme}

theorem content_declared (entryValue : EntryValue lexemes)
    (text : textOf lexemes = reindent (strip value) indentStep) (nonempty : words ≠ []) :
    (declared front gap words key lexemes).content =
      textOf front ++ gap ++
        (join [' '] words ++ " = \x7b\n".toList ++ indentStep ++
          Mapping.entryText key value indentStep ++ "\n\x7d;\n".toList) := by
  have entry : textOf (newEntry ('\n' :: indentStep) key lexemes) = _ :=
    textOf_newEntry entryValue text ('\n' :: indentStep)
  cases words with
  | nil => exact absurd rfl nonempty
  | cons word others =>
      rw [content, Layout.lexemes, allCells, declared]
      simp only [textOf_append, textOf_ofWord]
      simp [entry, ofMark, Lexeme.text]

private theorem fits_declared (fits : ∀ behind, Fits true front (gap ++ behind))
    (trivia : Trivia gap) (nonempty : words ≠ [])
    (areWords : ∀ word ∈ words, isWordText word = true) (entryValue : EntryValue lexemes)
    (sameLine : '\n' ∉ key) :
    Fits true (declared front gap words key lexemes).lexemes ['\n'] := by
  have blank : Trivia [' '] := Trivia.ofBlank rfl
  have indented : Trivia ('\n' :: indentStep) := Trivia.newLine Trivia.nil isMargin_indentStep
  have lastFits (allowed : Bool) : Fits allowed [ofMark [] ';'] ['\n'] :=
    fits_ofMark Trivia.nil rfl (show Fits _ [] ['\n'] from trivial) allowed
  have closingFits (allowed : Bool) : Fits allowed [ofMark ['\n'] '\x7d', ofMark [] ';'] ['\n'] :=
    fits_ofMark (Trivia.ofBlank rfl) rfl (lastFits _) allowed
  have entryFits := fits_newEntry entryValue indented sameLine
    (show Soft (textOf [ofMark ['\n'] '\x7d', ofMark [] ';'] ++ ['\n']) by
      rintro next ⟨⟩
      exact ⟨rfl, by decide⟩)
  have flag : (ofMark [' '] '\x7b').token.allowsRegex = true := by decide
  have braceFits : Fits (ofMark [' '] '\x7b').token.allowsRegex
      (newEntry ('\n' :: indentStep) key lexemes ++ [ofMark ['\n'] '\x7d', ofMark [] ';'])
      ['\n'] := by
    rw [flag]
    exact fits_append.mpr ⟨entryFits, closingFits _⟩
  have behindFits (allowed : Bool) : Fits allowed (ofMark [' '] '=' :: ofMark [' '] '\x7b' ::
      (newEntry ('\n' :: indentStep) key lexemes ++ [ofMark ['\n'] '\x7d', ofMark [] ';']))
      ['\n'] :=
    fits_ofMark blank rfl (fits_ofMark blank rfl braceFits _) _
  cases words with
  | nil => exact absurd rfl nonempty
  | cons word others =>
      have wordsFits := fits_ofWord (areWords word List.mem_cons_self) trivia
        (fun word member => areWords word (List.mem_cons_of_mem _ member))
        (show Soft (textOf (ofMark [' '] '=' :: _) ++ ['\n']) by
          rintro next ⟨⟩
          exact ⟨rfl, by decide⟩)
        behindFits
      have cut : (declared front gap (word :: others) key lexemes).lexemes =
          front ++ (withGap gap ((word :: others).map ofWord) ++
            ofMark [' '] '=' :: ofMark [' '] '\x7b' :: (newEntry ('\n' :: indentStep) key lexemes ++
              [ofMark ['\n'] '\x7d', ofMark [] ';'])) := by
        simp [declared, Layout.lexemes, allCells]
      rw [cut]
      refine fits_append.mpr ⟨?_, wordsFits _⟩
      rw [textOf_append, textOf_ofWord, List.append_assoc, List.append_assoc]
      exact fits _

private theorem located_declared (absent : Mapping.braceFrom? name 0 none (tokensAt 0 front) = none)
    (nonempty : words ≠ []) :
    Mapping.braceFrom? name 0 none
        (tokensAt 0 (declared front gap (words ++ [name]) key lexemes).lexemes) =
      some (declared front gap (words ++ [name]) key lexemes).lead.length := by
  let before := withGap gap (words.map ofWord)
  have areWords : ∀ lexeme ∈ before, lexeme.kind = .word := kind_ofWord gap words
  have split : withGap gap ((words ++ [name]).map ofWord) = before ++ [ofWord name] := by
    cases words with
    | nil => exact absurd rfl nonempty
    | cons first others => simp [before, withGap]
  have cut : (declared front gap (words ++ [name]) key lexemes).lexemes =
      (front ++ before) ++ ofWord name :: ofMark [' '] '=' :: ofMark [' '] '\x7b' ::
        (newEntry ('\n' :: indentStep) key lexemes ++ [ofMark ['\n'] '\x7d', ofMark [] ';']) := by
    rw [Layout.lexemes, allCells, declared, split]
    simp
  have passed : Mapping.braceFrom? name 0 none (tokensAt 0 (front ++ before)) = none := by
    rw [tokensAt_append]
    refine Mapping.braceFrom?_none_append absent fun token member => ?_
    obtain ⟨lexeme, inside, same⟩ := exists_of_mem_tokensAt member
    rw [Token.isPunct, same, areWords lexeme inside]
    rfl
  obtain ⟨others, last, shape⟩ : ∃ others last, before = others ++ [last] := by
    rcases List.eq_nil_or_concat before with empty | ⟨others, last, shape⟩
    · exact absurd empty (withGap_ne_nil (by simpa using nonempty))
    · exact ⟨others, last, by rw [shape, List.concat_eq_append]⟩
  have isLast : (tokensAt 0 (front ++ before)).getLast? =
      some (last.tokenAt (0 + (textOf (front ++ others)).length)) := by
    rw [shape, ← List.append_assoc, tokensAt_getLast?]
  have isWord : last.kind = .word := areWords last (by rw [shape]; simp)
  have length : (declared front gap (words ++ [name]) key lexemes).lead.length =
      (tokensAt 0 (front ++ before)).length + 2 := by
    rw [tokensAt_length, declared, split]
    simp [Nat.add_assoc]
  rw [cut, tokensAt_append, tokensAt, tokensAt, tokensAt,
    Mapping.braceFrom?_append passed rfl rfl, isLast, Mapping.braceFrom?_cons, length, if_pos]
  · simp
  · simp [ofWord, ofMark, Lexeme.tokenAt, Token.isWord, Token.isPunct, Mapping.introduces, isWord]

theorem sound_declared (fits : ∀ behind, Fits true front (gap ++ behind)) (trivia : Trivia gap)
    (closed : Lexeme.closes [] front = true)
    (absent : Mapping.braceFrom? name 0 none (tokensAt 0 front) = none)
    (nonempty : words ≠ []) (areWords : ∀ word ∈ words ++ [name], isWordText word = true)
    (entryValue : EntryValue lexemes) (sameLine : '\n' ∉ key) :
    (declared front gap (words ++ [name]) key lexemes).Sound name := by
  have nests : ∀ cell ∈ (declared front gap (words ++ [name]) key lexemes).cells,
      Nest (·.isPunct ',') cell.body := by
    intro cell member
    rw [List.mem_singleton.mp member]
    exact nest_newEntry entryValue
  have marked : Marked (declared front gap (words ++ [name]) key lexemes).cells :=
    ⟨rfl, fun _ member => by cases member⟩
  refine ⟨fits_declared fits trivia (by simp) areWords entryValue sameLine,
    Trailing.ofTrivia (Trivia.ofBlank rfl), ?_, located_declared absent nonempty,
    ?_, nests, rfl, Or.inr ⟨by simp [declared], ?_⟩⟩
  · have cut : (declared front gap (words ++ [name]) key lexemes).lexemes =
        front ++ (withGap gap ((words ++ [name]).map ofWord) ++ ofMark [' '] '=' ::
          (lexemesOf (declared front gap (words ++ [name]) key lexemes).cells ++
            ofMark ['\n'] '\x7d' :: [ofMark [] ';'])) := by
      simp [declared, Layout.lexemes, allCells]
    rw [cut, closes_append closed, (balanced_ofWord gap _).closes_append, closes_plain _ _ rfl rfl,
      closes_cells marked nests rfl, closes_plain _ _ rfl rfl]
    rfl
  · rw [allCells, show (declared front gap (words ++ [name]) key lexemes).trailing = none from rfl]
    simpa using marked
  · intro cell member
    rw [List.mem_singleton.mp member]
    exact List.cons_ne_nil _ _

/-! ## Declaring a mapping -/

/-- A blank document has no lexemes. -/
private theorem lexemes_of_blank {document : Document} {lexemes : List Lexeme} {after : Text}
    (scanned : Scanned document lexemes after) (blank : isBlankText document.content = true) :
    lexemes = [] := by
  have fits := scanned.fits
  rw [scanned.content] at blank
  cases lexemes with
  | nil => rfl
  | cons first rest =>
      obtain ⟨letter, letters, starts, solid⟩ := fits.2.1.exists_cons
      have isBlankLetter := List.all_eq_true.mp blank letter (by simp [Lexeme.text, starts])
      rw [solid] at isBlankLetter
      cases isBlankLetter

/-- A document behind whose lexemes a declaration may be written, and what it is written behind. -/
private theorem exists_front {content : Text} {document : Document}
    (scannedText : Document.ofText content = .ok document)
    (absent : Mapping.find? document name = .ok none) :
    ∃ front gap, (∀ behind, Fits true front (gap ++ behind)) ∧ Trivia gap ∧
      Lexeme.closes [] front = true ∧ document.tokens.toList = tokensAt 0 front ∧
      Mapping.braceFrom? name 0 none (tokensAt 0 front) = none ∧
      ∀ block, (if isBlankText content then block
        else trimEnd isLineFeed content ++ "\n\n".toList ++ block) =
          textOf front ++ gap ++ block := by
  obtain ⟨rfl, lexemes, after, scanned⟩ := Scanned.ofText_ok scannedText
  by_cases blank : isBlankText document.content = true
  · obtain rfl := lexemes_of_blank scanned blank
    refine ⟨[], [], fun _ => trivial, Trivia.nil, rfl, scanned.tokens, rfl, fun block => ?_⟩
    rw [if_pos blank]
    rfl
  · obtain ⟨tail, areFeeds, split⟩ := trimEnd_append_tail isLineFeed after
    have blankTail : isBlankText tail = true := by
      refine List.all_eq_true.mpr fun feed member => ?_
      have isFeed := List.all_eq_true.mp areFeeds feed member
      rw [isLineFeed, beq_iff_eq] at isFeed
      rw [isFeed]
      rfl
    have trailing := scanned.trailing
    have fits := scanned.fits
    rw [split] at trailing fits
    have trimmed : trimEnd isLineFeed document.content =
        textOf lexemes ++ trimEnd isLineFeed after := by
      rw [scanned.content]
      exact trimEnd_append _ _ _ fun last isLast =>
        isLineFeed_of_solid (scanned.fits.solid_last last isLast)
    refine ⟨lexemes, trimEnd isLineFeed after ++ "\n\n".toList, fun behind => ?_, ?_,
      scanned.closes, scanned.tokens, ?_, fun block => ?_⟩
    · rw [List.append_assoc]
      exact fits.reclose trailing _
    · have closed := (trailing.ofAppend blankTail).trivia.append
        (Trivia.ofBlank (show isBlankText ['\n'] = true from rfl))
      rwa [List.append_assoc] at closed
    · rw [Mapping.find?, scanned.tokens] at absent
      split at absent
      · next located => exact located
      · next brace located =>
          obtain ⟨mapping, _, impossible⟩ := exists_of_map absent
          cases impossible
    · simp only [if_neg blank, trimmed, List.append_assoc]

/-- Behind a document without the mapping, a declaration of it makes up a document in which it is
found. -/
theorem exists_declared {content : Text} {document : Document}
    (scannedText : Document.ofText content = .ok document)
    (absent : Mapping.find? document name = .ok none) (nonempty : words ≠ [])
    (areWords : ∀ word ∈ words ++ [name], isWordText word = true) :
    ∃ front gap, document.tokens.toList = tokensAt 0 front ∧
      ∀ {key : Text} {lexemes : List Lexeme}, '\n' ∉ key → EntryValue lexemes →
        (declared front gap (words ++ [name]) key lexemes).Sound name ∧
          ∀ value, textOf lexemes = reindent (strip value) indentStep →
            Mapping.appendDeclaration content (join [' '] words) name key value =
              (declared front gap (words ++ [name]) key lexemes).content := by
  obtain ⟨front, gap, fits, trivia, closed, tokens, none, written⟩ := exists_front scannedText absent
  refine ⟨front, gap, tokens, fun sameLine entryValue => ⟨?_, fun value text => ?_⟩⟩
  · exact sound_declared fits trivia closed none nonempty areWords entryValue sameLine
  · rw [Mapping.appendDeclaration, written, content_declared entryValue text (by simp),
      join_concat [' '] nonempty]

end Layout

/-- The upsert may declare its mapping: the name is a word, and so are those before it, with blanks
between them. -/
structure EntryUpsert.MayDeclare (wanted : EntryUpsert) : Prop where
  creates : wanted.createIfMissing = true
  name : isWordText wanted.mapping = true
  declaration : ∃ words, words ≠ [] ∧ (∀ word ∈ words, isWordText word = true) ∧
    wanted.declaration = join [' '] words

theorem EntryUpsert.MayDeclare.ofDefault {wanted : EntryUpsert}
    (creates : wanted.createIfMissing = true)
    (declaration : wanted.declaration = "export const".toList)
    (name : isWordText wanted.mapping = true) : wanted.MayDeclare :=
  ⟨creates, name, ["export".toList, "const".toList], by simp, by decide +kernel, declaration⟩

open Layout in
/-- The documents that upserts of a key make of one without the mapping. -/
theorem exists_declaration {content : Text} {wanted : EntryUpsert} {document : Document}
    (noHeader : wanted.headerLine = none) (scannedText : Document.ofText content = .ok document)
    (absent : Mapping.find? document wanted.mapping = .ok none)
    (undeclared : Mapping.isDeclared document wanted.mapping = false)
    (mayDeclare : wanted.MayDeclare) (sameLine : '\n' ∉ wanted.key) :
    ∃ front gap words, ∀ {lexemes : List Lexeme}, EntryValue lexemes →
      (declared front gap words wanted.key lexemes).Sound wanted.mapping ∧
        ∀ value, textOf lexemes = reindent (strip value) indentStep →
          upsertEntry content { wanted with value := value } =
            .ok (Outcome.ofTexts content
              (declared front gap words wanted.key lexemes).content) := by
  obtain ⟨creates, isName, words, nonempty, areWords, declaration⟩ := mayDeclare
  have allWords : ∀ word ∈ words ++ [wanted.mapping], isWordText word = true := by
    intro word member
    rcases List.mem_append.mp member with inWords | isLast
    · exact areWords word inWords
    · rw [List.mem_singleton.mp isLast]
      exact isName
  obtain ⟨front, gap, -, declares⟩ := exists_declared scannedText absent nonempty allWords
  refine ⟨front, gap, words ++ [wanted.mapping], fun entryValue => ?_⟩
  obtain ⟨sound, written⟩ := declares sameLine entryValue
  refine ⟨sound, fun value text => ?_⟩
  have upserted := @upsertEntry_absent content { wanted with value := value } document noHeader
    scannedText absent undeclared creates
  rw [upserted, declaration, written value text]

end EmbedScaffold
