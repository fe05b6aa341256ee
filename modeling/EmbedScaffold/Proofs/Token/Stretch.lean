import EmbedScaffold.Proofs.Token.Insertion

/-!
# Stretches of code

A stretch is a standing text with matching brackets and an end behind which a statement or a value
may begin.  Stretches one behind the other are a stretch,
so a document that is put together from parts is scanned part by part.  A calm text has no
character that hides others, and is scanned character by character.
-/

namespace EmbedScaffold

open Text Scan Lexeme

/-- A standing text with matching brackets that a statement may follow. -/
def Stretch (content : Text) : Prop :=
  ∃ lexemes gap, Standing content lexemes gap ∧ closes [] lexemes = true ∧
    allowsBehind true lexemes = true

/-! ## Brackets of a text -/

/-- Whether the brackets of a text match if the brackets `pending` are still to be closed. -/
def closesText : (pending : List Char) → Text → Bool
  | pending, [] => pending.isEmpty
  | pending, first :: rest =>
      match Token.closingMark? first with
      | some mark => closesText (mark :: pending) rest
      | none =>
          if Token.isClosingMark first then
            match pending with
            | [] => false
            | expected :: outer => first == expected && closesText outer rest
          else closesText pending rest

theorem closesText_cons_of_plain {first : Char} (notOpener : Token.closingMark? first = none)
    (notCloser : Token.isClosingMark first = false) (pending : List Char) (rest : Text) :
    closesText pending (first :: rest) = closesText pending rest := by
  rw [closesText.eq_def]
  simp only [notOpener, notCloser, Bool.false_eq_true, if_false]

def isNoBracket (tested : Char) : Bool :=
  (Token.closingMark? tested).isNone && ! Token.isClosingMark tested

theorem closesText_append_of_noBracket {plain : Text} (noBracket : plain.all isNoBracket = true)
    (pending : List Char) (rest : Text) :
    closesText pending (plain ++ rest) = closesText pending rest := by
  induction plain with
  | nil => rfl
  | cons first others inductionHypothesis =>
      simp only [List.all_cons, Bool.and_eq_true, isNoBracket, Option.isNone_iff_eq_none,
        Bool.not_eq_true'] at noBracket
      rw [List.cons_append, closesText_cons_of_plain noBracket.1.1 noBracket.1.2,
        inductionHypothesis noBracket.2]

theorem isNoBracket_of_isBlank {tested : Char} (blank : isBlank tested = true) :
    isNoBracket tested = true := by
  have apart {solid : Char} (notBlank : isBlank solid = false) : tested ≠ solid :=
    ne_of_isBlank blank notBlank
  simp [isNoBracket, Token.closingMark?, Token.isClosingMark, apart (show isBlank '\x7b' = false from rfl),
    apart (show isBlank '[' = false from rfl), apart (show isBlank '(' = false from rfl),
    apart (show isBlank '\x7d' = false from rfl), apart (show isBlank ']' = false from rfl),
    apart (show isBlank ')' = false from rfl)]

theorem isNoBracket_of_isWordChar {tested : Char} (isWord : isWordChar tested = true) :
    isNoBracket tested = true := by
  have apart {mark : Char} (noWord : isWordChar mark = false) : tested ≠ mark := by
    rintro rfl
    rw [isWord] at noWord
    cases noWord
  simp [isNoBracket, Token.closingMark?, Token.isClosingMark,
    apart (show isWordChar '\x7b' = false from rfl), apart (show isWordChar '[' = false from rfl),
    apart (show isWordChar '(' = false from rfl), apart (show isWordChar '\x7d' = false from rfl),
    apart (show isWordChar ']' = false from rfl), apart (show isWordChar ')' = false from rfl)]

/-! ## Calm texts -/

/-- A character that neither hides others from a scan nor depends on its neighbours, but for the
letters of a word. -/
def isCalm (tested : Char) : Bool :=
  isBlank tested || isWordChar tested || isMark tested

section Calm

variable {content : Text}

theorem closes_word {letters : Text} {gap : Text} (pending : List Char) (rest : List Lexeme) :
    closes pending (⟨gap, .word, letters⟩ :: rest) = closes pending rest :=
  closes_plain _ _ rfl rfl

theorem closes_mark {mark : Char} {gap more : Text} {rest : List Lexeme}
    (same : ∀ pending, closes pending rest = closesText pending more) (pending : List Char) :
    closes pending (⟨gap, .punct, [mark]⟩ :: rest) = closesText pending (mark :: more) := by
  have closing : (Lexeme.token ⟨gap, .punct, [mark]⟩).closing? = Token.closingMark? mark := rfl
  have isCloser : (Lexeme.token ⟨gap, .punct, [mark]⟩).isCloser = Token.isClosingMark mark := rfl
  rw [closes.eq_def, closesText.eq_def]
  dsimp only
  rw [closing, isCloser]
  cases Token.closingMark? mark with
  | some opened => exact same _
  | none =>
      cases Token.isClosingMark mark with
      | false => exact same pending
      | true =>
          cases pending with
          | nil => rfl
          | cons expected outer =>
              have isPunct : Lexeme.isPunct ⟨gap, .punct, [mark]⟩ expected = (mark == expected) := by
                rw [Bool.eq_iff_iff, Lexeme.isPunct_iff]
                simp
              simp only [if_true, isPunct, same]

/-- The gap before a token has no effect on the brackets. -/
theorem closes_gap {lexeme : Lexeme} (gap : Text) (pending : List Char) (rest : List Lexeme) :
    closes pending ({ lexeme with gap } :: rest) = closes pending (lexeme :: rest) := by
  rw [closes.eq_def, closes.eq_def]
  rfl

/-- A reading of a calm text as lexemes before whatever does not go on with a word, and of its
brackets as theirs. -/
structure ReadsCalm (allowed : Bool) (content : Text) (lexemes : List Lexeme) (gap : Text) :
    Prop where
  shape : content = textOf lexemes ++ gap
  blankGap : isBlankText gap = true
  fits : ∀ after, (∀ next ∈ after.head?, isWordChar next = false) →
    Fits allowed lexemes (gap ++ after)
  closing : ∀ rest more, (∀ pending, closes pending rest = closesText pending more) →
    ∀ pending, closes pending (lexemes ++ rest) = closesText pending (content ++ more)

namespace ReadsCalm

variable {allowed : Bool} {lexemes : List Lexeme} {gap : Text} {first : Char}

/-- A blank belongs to the gap of the token behind it. -/
theorem blank (reads : ReadsCalm allowed content lexemes gap) (isBlankFirst : isBlank first = true) :
    ∃ lexemes gap, ReadsCalm allowed (first :: content) lexemes gap := by
  have noBracket : [first].all isNoBracket = true := by
    simp [isNoBracket_of_isBlank isBlankFirst]
  have ignored (pending : List Char) (more : Text) :
      closesText pending (first :: content ++ more) = closesText pending (content ++ more) :=
    closesText_append_of_noBracket noBracket pending _
  have blank : isBlankText [first] = true := by simp [isBlankText, isBlankFirst]
  cases lexemes with
  | nil =>
      refine ⟨[], [first] ++ gap, congrArg (first :: ·) reads.shape, ?_, fun _ _ => trivial,
        fun rest more same pending => ?_⟩
      · rw [isBlankText_append, blank, reads.blankGap]
        rfl
      · rw [ignored]
        exact reads.closing rest more same pending
  | cons lexeme others =>
      refine ⟨{ lexeme with gap := [first] ++ lexeme.gap } :: others, gap,
        congrArg (first :: ·) reads.shape, reads.blankGap, fun after apart => ?_,
        fun rest more same pending => ?_⟩
      · exact ⟨(Trivia.ofBlank blank).append (reads.fits after apart).1, (reads.fits after apart).2⟩
      · rw [ignored, List.cons_append, closes_gap]
        exact reads.closing rest more same pending

/-- The letters of a word are one token. -/
theorem word {letters : Text} (isWord : isWordChar first = true)
    (areWords : ∀ letter ∈ letters, isWordChar letter = true)
    (stops : ∀ next ∈ content.head?, isWordChar next = false)
    (reads : ReadsCalm (Lexeme.token ⟨[], .word, first :: letters⟩).allowsRegex content
      lexemes gap) :
    ReadsCalm allowed (first :: (letters ++ content)) (⟨[], .word, first :: letters⟩ :: lexemes)
      gap := by
  have wholeWord : ∀ letter ∈ first :: letters, isWordChar letter = true :=
    List.forall_mem_cons.mpr ⟨isWord, areWords⟩
  have noBracket : (first :: letters).all isNoBracket = true :=
    List.all_eq_true.mpr fun letter member => isNoBracket_of_isWordChar (wholeWord letter member)
  refine ⟨?_, reads.blankGap, fun after apart =>
    ⟨.nil, .word (List.cons_ne_nil _ _) wholeWord allowed,
      .ofLetters wholeWord fun next member => ?_, reads.fits after apart⟩,
    fun rest more same pending => ?_⟩
  · rw [reads.shape]
    simp [Lexeme.text]
  · rw [← List.append_assoc, ← reads.shape, List.head?_append] at member
    cases here : content.head? with
    | some found =>
        rw [here, Option.some_or] at member
        exact stops next (here.trans member)
    | none =>
        rw [here, Option.none_or] at member
        exact apart next member
  · rw [List.cons_append, closes_word, ← List.cons_append, List.append_assoc,
      closesText_append_of_noBracket noBracket]
    exact reads.closing rest more same pending

/-- A mark is a token of its own. -/
theorem mark (marks : isMark first = true)
    (reads : ReadsCalm (Lexeme.token ⟨[], .punct, [first]⟩).allowsRegex content lexemes gap) :
    ReadsCalm allowed (first :: content) (⟨[], .punct, [first]⟩ :: lexemes) gap :=
  ⟨congrArg (first :: ·) reads.shape, reads.blankGap,
    fun after apart => .mark marks .nil (reads.fits after apart),
    fun rest more same pending => closes_mark (reads.closing rest more same) pending⟩

end ReadsCalm

/-- A calm text is scanned character by character. -/
theorem exists_readsCalm (calm : content.all isCalm = true) (allowed : Bool) :
    ∃ lexemes gap, ReadsCalm allowed content lexemes gap := by
  -- A word is one token however many letters it has, so the induction is on the length.
  induction size : content.length using Nat.strongRecOn generalizing content allowed with
  | ind size' inductionHypothesis =>
      subst size
      cases content with
      | nil => exact ⟨[], [], rfl, rfl, fun _ _ => trivial, fun _ _ same => same⟩
      | cons first others =>
          rw [List.all_cons, Bool.and_eq_true] at calm
          obtain ⟨isCalmFirst, othersCalm⟩ := calm
          simp only [isCalm, Bool.or_eq_true] at isCalmFirst
          rcases isCalmFirst with (blank | isWord) | marks
          · obtain ⟨lexemes, gap, reads⟩ :=
              inductionHypothesis _ (Nat.lt_succ_self _) othersCalm allowed rfl
            exact reads.blank blank
          · obtain ⟨letters, behind, rfl, areWords, stops⟩ := exists_letters others
            rw [List.all_append, Bool.and_eq_true] at othersCalm
            have shorter : behind.length < (first :: (letters ++ behind)).length := by
              simp only [List.length_cons, List.length_append]
              omega
            obtain ⟨lexemes, gap, reads⟩ := inductionHypothesis _ shorter othersCalm.2 _ rfl
            exact ⟨_, _, .word isWord areWords stops reads⟩
          · obtain ⟨lexemes, gap, reads⟩ :=
              inductionHypothesis _ (Nat.lt_succ_self _) othersCalm _ rfl
            exact ⟨_, _, .mark marks reads⟩

end Calm

/-! ## Stretches one behind the other -/

namespace Stretch

variable {content left right : Text}

theorem blank {gap : Text} (areBlank : isBlankText gap = true) : Stretch gap :=
  ⟨[], gap, ⟨rfl, .ofBlank areBlank, fun _ => trivial⟩, rfl, rfl⟩

theorem append (leftStretch : Stretch left) (rightStretch : Stretch right) :
    Stretch (left ++ right) := by
  obtain ⟨front, gap, ⟨rfl, trivia, fits⟩, closed, allows⟩ := leftStretch
  obtain ⟨back, last, ⟨rfl, lastTrivia, backFits⟩, backClosed, backAllows⟩ := rightStretch
  cases back with
  | nil =>
      refine ⟨front, gap ++ last, ⟨by simp, trivia.append lastTrivia, fun after => ?_⟩, closed,
        allows⟩
      rw [List.append_assoc]
      exact fits _
  | cons lexeme rest =>
      refine ⟨front ++ { lexeme with gap := gap ++ lexeme.gap } :: rest, last,
        ⟨?_, lastTrivia, fun after => ?_⟩, ?_, ?_⟩
      · simp [Lexeme.text]
      · have behind := backFits after
        rw [fits_append, allows]
        refine ⟨?_, trivia.append behind.1, behind.2⟩
        have whole := fits (lexeme.gap ++ (lexeme.value ++ (textOf rest ++ (last ++ after))))
        simpa [Lexeme.text] using whole
      · rw [closes_append closed, closes_gap, backClosed]
      · rw [allowsBehind_append, allows, allowsBehind_cons]
        rw [allowsBehind_cons] at backAllows
        exact backAllows

/-- Whether a text is a document whose last token a statement may follow. -/
def isPaused (content : Text) : Bool :=
  match Document.ofText content with
  | .ok document => document.tokens.toList.getLast?.all Token.allowsRegex
  | .error _ => false

/-- A document whose last token a statement may follow is a stretch with a line feed. -/
theorem ofPaused (paused : isPaused content = true) : Stretch (content ++ ['\n']) := by
  obtain ⟨document, scanned, allows⟩ : ∃ document, Document.ofText content = .ok document ∧
      document.tokens.toList.getLast?.all Token.allowsRegex = true := by
    rw [isPaused] at paused
    split at paused
    · next document scanned => exact ⟨document, scanned, paused⟩
    · cases paused
  obtain ⟨lexemes, gap, standing, tokens⟩ := Document.exists_standing scanned
  have paired := Document.exists_pairs scanned
  rw [tokens] at paired allows
  refine ⟨lexemes, gap, standing, pairBrackets_isOk.mp paired, ?_⟩
  rcases List.eq_nil_or_concat lexemes with rfl | ⟨front, last, rfl⟩
  · rfl
  · rw [List.concat_eq_append] at allows ⊢
    rw [tokensAt_append, tokensAt, tokensAt, List.getLast?_concat] at allows
    rw [allowsBehind, List.getLast?_concat]
    exact (Kindred.allowsRegex (kindred_tokenAt _ last)).symm.trans allows

/-- A mark behind which a statement or a value may begin. -/
def isPause (mark : Char) : Bool :=
  isMark mark && Token.marksBeforeRegex.contains mark && isNoBracket mark

/-- A calm text with matching brackets that ends with a pause is a stretch. -/
theorem ofCalm {front blanks : Text} {mark : Char} (calm : front.all isCalm = true)
    (closed : closesText [] (front ++ [mark]) = true) (pauses : isPause mark = true)
    (areBlank : isBlankText blanks = true) : Stretch (front ++ mark :: blanks) := by
  simp only [isPause, isNoBracket, Bool.and_eq_true, Option.isNone_iff_eq_none,
    Bool.not_eq_true'] at pauses
  obtain ⟨⟨marks, allows⟩, notOpener, notCloser⟩ := pauses
  obtain ⟨lexemes, gap, reads⟩ := exists_readsCalm calm true
  refine ⟨lexemes ++ [⟨gap, .punct, [mark]⟩], blanks, ⟨by simp [reads.shape, Lexeme.text],
    .ofBlank areBlank, fun after => fits_append.mpr ⟨?_, ?_⟩⟩, ?_, ?_⟩
  · have whole := reads.fits (mark :: (blanks ++ after)) (by
      rintro _ ⟨⟩
      exact isWordChar_of_isMark marks)
    simpa [Lexeme.text] using whole
  · exact .mark marks (.ofBlank reads.blankGap) trivial
  · rw [reads.closing _ [mark] (closes_mark fun _ => rfl), closed]
  · rw [allowsBehind_append]
    exact allows

/-- A string and a semicolon behind it are a stretch. -/
theorem ofString {inside blanks : Text} (alone : ReadsAlone true .string ('"' :: inside))
    (areBlank : isBlankText blanks = true) : Stretch ('"' :: inside ++ ';' :: blanks) :=
  ⟨[⟨[], .string, '"' :: inside⟩, ⟨[], .punct, [';']⟩], blanks, ⟨by simp [Lexeme.text],
    .ofBlank areBlank, fun _ => ⟨.nil, alone, .ofString rfl _ _,
      Fits.mark (by decide) .nil trivial⟩⟩, rfl, rfl⟩

/-- A stretch with a string behind it that is not closed is no document. -/
theorem unclosed {inside : Text} (stretch : Stretch content)
    (isOpen : ∀ offset, stringEnd '"' offset inside = none) :
    EmbedScaffold.checkBalanced (content ++ '"' :: inside) =
      .error (.unterminatedString content.length) := by
  obtain ⟨lexemes, gap, standing, -, -⟩ := stretch
  have begins : Begins ('"' :: inside) :=
    begins_cons rfl fun slash => absurd slash (by decide)
  have read (allowed : Bool) : nextToken allowed content.length '"' inside =
      .error (.unterminatedString content.length) := by
    rw [nextToken, if_neg (by decide), plainToken, if_pos (by decide), isOpen]
  have ended (allowed : Bool) : tokensFrom allowed content.length ('"' :: inside) =
      .error (.unterminatedString content.length) := by
    rw [tokensFrom_eq, begins]
    simp only [Except.bind, tokensAfter, read]
  rw [EmbedScaffold.checkBalanced, Document.ofText, standing.scan_append, ended]
  rfl

/-- A stretch is a document of its own. -/
theorem checkBalanced (stretch : Stretch content) : checkBalanced content = .ok () := by
  obtain ⟨lexemes, gap, ⟨rfl, trivia, fits⟩, closed, -⟩ := stretch
  have whole := fits []
  rw [List.append_nil] at whole
  obtain ⟨document, scanned, -⟩ := exists_scanned whole (.ofTrivia trivia) closed
  rw [EmbedScaffold.checkBalanced, scanned]
  rfl

end Stretch

end EmbedScaffold
