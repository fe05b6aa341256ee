import EmbedScaffold.Proofs.Token.Stretch

/-!
# Divisions in arithmetic expressions

Whether a slash is a division or begins a regular expression, a scan decides by the token in front
of it alone.  Names, numbers and closing brackets end an operand, and a slash behind them is a
division.  An operand may end in `++` or `--` as well, which are the same marks as operators before
an operand: the slash behind it is taken for the beginning of a regular expression.
-/

namespace EmbedScaffold

open Text Scan Lexeme

namespace Arithmetic

/-- A word that is no keyword before an operand. -/
structure Identifier where
  letters : Text
  nonempty : letters ≠ []
  isWord : ∀ letter ∈ letters, isWordChar letter = true
  noKeyword : letters ∉ Token.wordsBeforeRegex

/-- A decimal integer. -/
structure Numeral where
  digits : Text
  nonempty : digits ≠ []
  isDecimal : ∀ digit ∈ digits, digit.isDigit = true

inductive Operator where
  | add
  | subtract
  | multiply
  | divide
  | modulo
  deriving DecidableEq

def Operator.mark : Operator → Char
  | .add => '+'
  | .subtract => '-'
  | .multiply => '*'
  | .divide => '/'
  | .modulo => '%'

/-- The mark that is written twice behind an operand to count it up or down. -/
inductive Step where
  | up
  | down

def Step.mark : Step → Char
  | .up => '+'
  | .down => '-'

inductive Brackets where
  | round
  | square

def Brackets.opening : Brackets → Char
  | .round => '('
  | .square => '['

def Brackets.closing : Brackets → Char
  | .round => ')'
  | .square => ']'

end Arithmetic

/-- Arithmetic expressions.  An operand with round brackets behind it is a call, and one with square
brackets an element. -/
inductive Arithmetic where
  | name (identifier : Arithmetic.Identifier)
  | number (numeral : Arithmetic.Numeral)
  | group (inner : Arithmetic)
  | applied (operand : Arithmetic) (brackets : Arithmetic.Brackets) (inner : Arithmetic)
  | binary (left : Arithmetic) (operator : Arithmetic.Operator) (right : Arithmetic)
  | counted (operand : Arithmetic) (step : Arithmetic.Step)

namespace Arithmetic

/-- The expression as it is written, with a blank on either side of an operator. -/
def text : Arithmetic → Text
  | name identifier => identifier.letters
  | number numeral => numeral.digits
  | group inner => '(' :: (inner.text ++ [')'])
  | applied operand brackets inner =>
      operand.text ++ brackets.opening :: (inner.text ++ [brackets.closing])
  | binary left operator right => left.text ++ ' ' :: operator.mark :: ' ' :: right.text
  | counted operand step => operand.text ++ [step.mark, step.mark]

/-- A statement that assigns the value of an expression. -/
def assigned (expression : Arithmetic) : Text :=
  "x = ".toList ++ (expression.text ++ [';'])

/-- How often an expression divides. -/
def divisions : Arithmetic → Nat
  | name _ | number _ => 0
  | group inner => inner.divisions
  | applied operand _ inner => operand.divisions + inner.divisions
  | binary left operator right =>
      left.divisions + (if operator = .divide then 1 else 0) + right.divisions
  | counted operand _ => operand.divisions

/-- Whether the last thing that is written of an expression is a step. -/
def endsInStep : Arithmetic → Bool
  | name _ | number _ | group _ | applied _ _ _ => false
  | binary _ _ right => right.endsInStep
  | counted _ _ => true

/-- Whether no division has a step in front of its slash. -/
def isClear : Arithmetic → Bool
  | name _ | number _ => true
  | group inner => inner.isClear
  | applied operand _ inner => operand.isClear && inner.isClear
  | binary left operator right =>
      left.isClear && right.isClear && ! (operator = .divide && left.endsInStep)
  | counted operand _ => operand.isClear

/-! ## Lexemes of an expression -/

/-- Lexemes in brackets. -/
def enclosed (gap : Text) (brackets : Brackets) (inner : List Lexeme) : List Lexeme :=
  ⟨gap, .punct, [brackets.opening]⟩ :: (inner ++ [⟨[], .punct, [brackets.closing]⟩])

/-- The lexemes of an expression that is written behind a gap. -/
def lexemes (gap : Text) : Arithmetic → List Lexeme
  | name identifier => [⟨gap, .word, identifier.letters⟩]
  | number numeral => [⟨gap, .word, numeral.digits⟩]
  | group inner => enclosed gap .round (inner.lexemes [])
  | applied operand brackets inner =>
      operand.lexemes gap ++ enclosed [] brackets (inner.lexemes [])
  | binary left operator right =>
      left.lexemes gap ++ ⟨[' '], .punct, [operator.mark]⟩ :: right.lexemes [' ']
  | counted operand step =>
      operand.lexemes gap ++ [⟨[], .punct, [step.mark]⟩, ⟨[], .punct, [step.mark]⟩]

section Lexemes

variable (expression : Arithmetic) (gap : Text)

theorem textOf_lexemes : textOf (expression.lexemes gap) = gap ++ expression.text := by
  induction expression generalizing gap with
  | name identifier => simp [lexemes, text, Lexeme.text]
  | number numeral => simp [lexemes, text, Lexeme.text]
  | group inner inductionHypothesis =>
      simp [lexemes, enclosed, text, Lexeme.text, inductionHypothesis, Brackets.opening,
        Brackets.closing]
  | applied operand brackets inner operandHypothesis innerHypothesis =>
      simp [lexemes, enclosed, text, Lexeme.text, operandHypothesis, innerHypothesis]
  | binary left operator right leftHypothesis rightHypothesis =>
      simp [lexemes, text, Lexeme.text, leftHypothesis, rightHypothesis]
  | counted operand step inductionHypothesis =>
      simp [lexemes, text, Lexeme.text, inductionHypothesis]

/-- The keywords before an operand are no numbers. -/
theorem Numeral.noKeyword (numeral : Numeral) : numeral.digits ∉ Token.wordsBeforeRegex := by
  intro keyword
  have noNumbers : Token.wordsBeforeRegex.all (·.any (! ·.isDigit)) = true := by decide
  obtain ⟨letter, member, noDigit⟩ :=
    List.any_eq_true.mp (List.all_eq_true.mp noNumbers _ keyword)
  rw [numeral.isDecimal letter member] at noDigit
  cases noDigit

theorem Numeral.isWord (numeral : Numeral) :
    ∀ letter ∈ numeral.digits, isWordChar letter = true := by
  intro digit member
  simp [isWordChar, isAlphanumeric, Char.isAlphanum, numeral.isDecimal digit member]

theorem allowsRegex_word {letters : Text} (noKeyword : letters ∉ Token.wordsBeforeRegex) :
    (Lexeme.token ⟨gap, .word, letters⟩).allowsRegex = false := by
  simpa [Token.allowsRegex, Lexeme.token, tokenAt] using noKeyword

/-- An operand that ends in a step is one behind which a value may begin. -/
theorem allowsBehind_lexemes (allowed : Bool) :
    allowsBehind allowed (expression.lexemes gap) = expression.endsInStep := by
  induction expression generalizing gap allowed with
  | name identifier => exact allowsRegex_word gap identifier.noKeyword
  | number numeral => exact allowsRegex_word gap numeral.noKeyword
  | group inner =>
      rw [lexemes, enclosed, allowsBehind_cons, allowsBehind_append]
      rfl
  | applied operand brackets inner =>
      rw [lexemes, enclosed, allowsBehind_append, allowsBehind_cons, allowsBehind_append]
      cases brackets <;> rfl
  | binary left operator right _ rightHypothesis =>
      rw [lexemes, allowsBehind_append, allowsBehind_cons, rightHypothesis]
      rfl
  | counted operand step =>
      rw [lexemes, allowsBehind_append]
      cases step <;> rfl

end Lexemes

/-! ## What is read of an expression -/

section Fits

variable {allowed : Bool} {gap after : Text} {behind : List Lexeme}

theorem fits_word {letters : Text} (trivia : Trivia gap) (nonempty : letters ≠ [])
    (isWord : ∀ letter ∈ letters, isWordChar letter = true)
    (stops : ∀ next ∈ after.head?, isWordChar next = false) :
    Fits allowed [⟨gap, .word, letters⟩] after :=
  ⟨trivia, .word nonempty isWord allowed, .ofLetters isWord stops, trivial⟩

theorem Brackets.isMark_opening (brackets : Brackets) : isMark brackets.opening = true := by
  cases brackets <;> decide

theorem Brackets.isMark_closing (brackets : Brackets) : isMark brackets.closing = true := by
  cases brackets <;> decide

theorem Step.isMark_mark (step : Step) : isMark step.mark = true := by
  cases step <;> decide

theorem fits_enclosed {inner : List Lexeme} (trivia : Trivia gap) (brackets : Brackets)
    (fits : ∀ allowed after, (∀ next ∈ after.head?, isWordChar next = false) →
      Fits allowed inner after) : Fits allowed (enclosed gap brackets inner) after := by
  refine Fits.mark brackets.isMark_opening trivia (fits_append.mpr ⟨fits _ _ ?_, ?_⟩)
  · rintro _ ⟨⟩
    exact isWordChar_of_isMark brackets.isMark_closing
  · exact Fits.mark brackets.isMark_closing .nil trivial

/-- An operator is read as punctuation before a blank, a slash only where no regular expression
begins. -/
theorem fits_operator {operator : Operator}
    (clear : (decide (operator = .divide) && allowed) = false)
    (fits : ∀ allowed, Fits allowed behind after)
    (blank : ∃ rest, textOf behind ++ after = ' ' :: rest) :
    Fits allowed (⟨[' '], .punct, [operator.mark]⟩ :: behind) after := by
  obtain ⟨rest, shape⟩ := blank
  have alone : ReadsAlone allowed .punct [operator.mark] := by
    cases operator with
    | divide =>
        rw [decide_eq_true rfl, Bool.true_and] at clear
        rw [clear]
        obtain ⟨value, same, -, alone, -⟩ := ReadsAlone.ofNextToken (by decide) (by simp)
          (nextToken_slash 0 [])
        rw [List.append_nil] at same
        rwa [← same] at alone
    | add | subtract | multiply | modulo => exact .mark (by decide) allowed
  refine ⟨.ofBlank (show isBlankText [' '] = true by decide), alone, ?_, fits _⟩
  rw [shape]
  exact (Apart.ofBlank (by decide) ⟨[' '], .punct, [operator.mark]⟩ rest).separated

/-- An expression without a step before the slash of a division is read as it is meant. -/
theorem fits_lexemes {expression : Arithmetic} (clear : expression.isClear = true)
    (trivia : Trivia gap) (stops : ∀ next ∈ after.head?, isWordChar next = false) :
    Fits allowed (expression.lexemes gap) after := by
  induction expression generalizing gap allowed after with
  | name identifier => exact fits_word trivia identifier.nonempty identifier.isWord stops
  | number numeral => exact fits_word trivia numeral.nonempty numeral.isWord stops
  | group inner inductionHypothesis =>
      exact fits_enclosed trivia .round fun _ _ => inductionHypothesis clear .nil
  | applied operand brackets inner operandHypothesis innerHypothesis =>
      rw [isClear, Bool.and_eq_true] at clear
      refine fits_append.mpr ⟨operandHypothesis clear.1 trivia ?_,
        fits_enclosed .nil brackets fun _ _ => innerHypothesis clear.2 .nil⟩
      rintro _ ⟨⟩
      exact isWordChar_of_isMark brackets.isMark_opening
  | binary left operator right leftHypothesis rightHypothesis =>
      simp only [isClear, Bool.and_eq_true, Bool.not_eq_true'] at clear
      obtain ⟨⟨leftClear, rightClear⟩, noStep⟩ := clear
      refine fits_append.mpr ⟨leftHypothesis leftClear trivia ?_, fits_operator ?_
        (fun _ => rightHypothesis rightClear (.ofBlank (by decide)) stops) ?_⟩
      · rintro _ ⟨⟩
        decide
      · rw [allowsBehind_lexemes]
        exact noStep
      · rw [textOf_lexemes]
        exact ⟨_, rfl⟩
  | counted operand step inductionHypothesis =>
      refine fits_append.mpr ⟨inductionHypothesis clear trivia ?_,
        Fits.mark step.isMark_mark .nil (Fits.mark step.isMark_mark .nil trivial)⟩
      rintro _ ⟨⟩
      exact isWordChar_of_isMark step.isMark_mark

end Fits

/-- No lexeme of an expression is a regular expression. -/
theorem kind_of_mem_lexemes (expression : Arithmetic) (gap : Text) :
    ∀ lexeme ∈ expression.lexemes gap, lexeme.kind ≠ .regex := by
  induction expression generalizing gap with
  | name identifier => simp [lexemes]
  | number numeral => simp [lexemes]
  | group inner inductionHypothesis =>
      simpa [lexemes, enclosed, or_imp, forall_and] using inductionHypothesis []
  | applied operand brackets inner operandHypothesis innerHypothesis =>
      simpa [lexemes, enclosed, or_imp, forall_and] using
        And.intro (operandHypothesis gap) (innerHypothesis [])
  | binary left operator right leftHypothesis rightHypothesis =>
      simpa [lexemes, or_imp, forall_and] using
        And.intro (leftHypothesis gap) (rightHypothesis [' '])
  | counted operand step inductionHypothesis =>
      simpa [lexemes, or_imp, forall_and] using inductionHypothesis gap

/-- The slashes of an expression are those of its divisions. -/
theorem countP_lexemes (expression : Arithmetic) (gap : Text) :
    (expression.lexemes gap).countP (·.isPunct '/') = expression.divisions := by
  induction expression generalizing gap with
  | name identifier => rfl
  | number numeral => rfl
  | group inner inductionHypothesis =>
      rw [lexemes, enclosed, List.countP_cons, List.countP_append, inductionHypothesis]
      rfl
  | applied operand brackets inner operandHypothesis innerHypothesis =>
      rw [lexemes, enclosed, List.countP_append, List.countP_cons, List.countP_append,
        operandHypothesis, innerHypothesis]
      cases brackets <;> rfl
  | binary left operator right leftHypothesis rightHypothesis =>
      rw [lexemes, List.countP_append, List.countP_cons, leftHypothesis, rightHypothesis]
      cases operator <;> simp [divisions, Operator.mark, Lexeme.isPunct_iff]
      omega
  | counted operand step inductionHypothesis =>
      rw [lexemes, List.countP_append, inductionHypothesis]
      cases step <;> rfl

/-! ## Slashes behind a step -/

/-- Of a text, lexemes are read up to a slash before a blank, behind which a regular expression may
begin. -/
def Misread (allowed : Bool) (content : Text) : Prop :=
  ∃ front rest, content = textOf front ++ ' ' :: '/' :: ' ' :: rest ∧
    (∀ after, Fits allowed front (' ' :: after)) ∧ allowsBehind allowed front = true

namespace Misread

variable {allowed : Bool} {content : Text} {tokens : List Token}

theorem append (misread : Misread allowed content) (more : Text) :
    Misread allowed (content ++ more) := by
  obtain ⟨front, rest, rfl, fits, allows⟩ := misread
  exact ⟨front, rest ++ more, by simp, fits, allows⟩

/-- Lexemes may stand before the text if they go with its first character. -/
theorem behind {front : List Lexeme} (misread : Misread (allowsBehind allowed front) content)
    (fits : ∀ after, after.head? = content.head? → Fits allowed front after) :
    Misread allowed (textOf front ++ content) := by
  obtain ⟨others, rest, rfl, othersFit, allows⟩ := misread
  refine ⟨front ++ others, rest, by simp, fun after => ?_, by rwa [allowsBehind_append]⟩
  refine fits_append.mpr ⟨fits _ ?_, othersFit after⟩
  rw [List.head?_append, List.head?_append]
  rfl

/-- The slash is no punctuation. -/
theorem exists_regex (misread : Misread allowed content) {offset : Nat}
    (scanned : tokensFrom allowed offset content = .ok tokens) :
    ∃ token ∈ tokens, token.kind = .regex := by
  obtain ⟨front, rest, rfl, fits, allows⟩ := misread
  have begins : Begins ('/' :: ' ' :: rest) := by
    refine begins_cons rfl fun _ => ?_
    rintro _ ⟨⟩
    decide
  have blank : Trivia [' '] := .ofBlank (by decide)
  rw [tokensFrom_fits (fits _), allows, ← List.singleton_append, tokensFrom_trivia blank,
    tokensFrom_eq, begins] at scanned
  cases found : tokensAfter true ⟨offset + (textOf front).length + [' '].length,
      '/' :: ' ' :: rest⟩ with
  | error fault =>
      simp only [Except.bind, found] at scanned
      cases scanned
  | ok others =>
      simp only [Except.bind, found] at scanned
      cases scanned
      obtain ⟨kind, ended, read, first⟩ := exists_first found
      rw [kind_of_nextToken_slash read, List.head?_map, Option.map_map] at first
      obtain ⟨token, isFirst, isRegex⟩ := Option.map_eq_some_iff.mp first
      exact ⟨token, List.mem_append_right _ (List.mem_of_mem_head? isFirst), isRegex⟩

end Misread

/-- A misread expression in brackets is misread. -/
theorem misread_enclosed {inner : Arithmetic} (brackets : Brackets)
    (misread : ∀ allowed, Misread allowed inner.text) (allowed : Bool) (gap : Text)
    (trivia : Trivia gap) :
    Misread allowed (gap ++ brackets.opening :: (inner.text ++ [brackets.closing])) := by
  have behind : Misread allowed (textOf [⟨gap, .punct, [brackets.opening]⟩] ++
      (inner.text ++ [brackets.closing])) :=
    ((misread _).append _).behind fun after _ => Fits.mark brackets.isMark_opening trivia trivial
  simpa [Lexeme.text] using behind

/-- An expression with a step before the slash of a division is misread. -/
theorem misread_of_not_isClear {expression : Arithmetic} (unclear : expression.isClear = false)
    {gap : Text} (trivia : Trivia gap) (allowed : Bool) :
    Misread allowed (gap ++ expression.text) := by
  induction expression generalizing gap allowed with
  | name identifier => cases unclear
  | number numeral => cases unclear
  | group inner inductionHypothesis =>
      exact misread_enclosed .round (inductionHypothesis unclear .nil) allowed gap trivia
  | applied operand brackets inner operandHypothesis innerHypothesis =>
      rw [text, ← List.append_assoc]
      cases operandClear : operand.isClear with
      | false => exact (operandHypothesis operandClear trivia allowed).append _
      | true =>
          rw [isClear, operandClear, Bool.true_and] at unclear
          rw [← textOf_lexemes]
          refine (misread_enclosed brackets (innerHypothesis unclear .nil) _ [] .nil).behind ?_
          intro after same
          refine fits_lexemes operandClear trivia ?_
          rw [same]
          rintro _ ⟨⟩
          exact isWordChar_of_isMark brackets.isMark_opening
  | binary left operator right leftHypothesis rightHypothesis =>
      rw [text, ← List.append_assoc]
      cases leftClear : left.isClear with
      | false => exact (leftHypothesis leftClear trivia allowed).append _
      | true =>
          have leftFits (after : Text) : Fits allowed (left.lexemes gap) (' ' :: after) :=
            fits_lexemes leftClear trivia (by rintro _ ⟨⟩; decide)
          rw [← textOf_lexemes]
          rw [isClear, leftClear, Bool.true_and] at unclear
          cases step : decide (operator = .divide) && left.endsInStep with
          | true =>
              -- the slash of this division is the first one that is misread
              simp only [Bool.and_eq_true, decide_eq_true_eq] at step
              obtain ⟨rfl, endsInStep⟩ := step
              exact ⟨_, right.text, rfl, leftFits, by rw [allowsBehind_lexemes, endsInStep]⟩
          | false =>
              have rightUnclear : right.isClear = false := by simpa [step] using unclear
              have frontFits (after : Text) (same : after.head? = some ' ') : Fits allowed
                  (left.lexemes gap ++ [⟨[' '], .punct, [operator.mark]⟩]) after := by
                obtain ⟨rest, rfl⟩ := List.head?_eq_some_iff.mp same
                refine fits_append.mpr ⟨leftFits _, fits_operator ?_ (fun _ => trivial) ⟨rest, rfl⟩⟩
                rw [allowsBehind_lexemes]
                exact step
              have onward (allowed : Bool) : Misread allowed ([' '] ++ right.text) :=
                rightHypothesis rightUnclear (.ofBlank (by decide)) allowed
              simpa [textOf_lexemes, Lexeme.text] using (onward _).behind frontFits
  | counted operand step inductionHypothesis =>
      rw [text, ← List.append_assoc]
      exact (inductionHypothesis unclear trivia allowed).append _

/-! ## Assignments -/

/-- Tokens are counted as the lexemes that they are of. -/
theorem countP_tokensAt {test : Token → Bool}
    (alike : ∀ left right, Kindred left right → test left = test right) (offset : Nat)
    (lexemes : List Lexeme) :
    (tokensAt offset lexemes).countP test = lexemes.countP (test ·.token) := by
  induction lexemes generalizing offset with
  | nil => rfl
  | cons first rest inductionHypothesis =>
      rw [tokensAt, List.countP_cons, List.countP_cons, inductionHypothesis,
        alike _ _ (kindred_tokenAt offset first)]

/-- The lexemes before the expression of an assignment. -/
def target : List Lexeme :=
  [⟨[], .word, ['x']⟩, ⟨[' '], .punct, ['=']⟩]

theorem fits_target (after : Text) : Fits true target (' ' :: after) :=
  fits_append.mpr ⟨fits_word .nil (by decide) (List.forall_mem_singleton.mpr (by decide))
      (by rintro _ ⟨⟩; decide),
    Fits.mark (by decide) (.ofBlank (by decide)) (show Fits _ [] (' ' :: after) from trivial)⟩

theorem assigned_eq (expression : Arithmetic) :
    expression.assigned = textOf target ++ ([' '] ++ expression.text ++ [';']) := by
  simp [assigned, target, Lexeme.text]

/-- Without a step before the slash of a division, the tokens of an assignment are the target, the
lexemes of the expression and the semicolon. -/
theorem scan_assigned {expression : Arithmetic} (clear : expression.isClear = true) :
    scan expression.assigned =
      .ok (tokensAt 0 (target ++ (expression.lexemes [' '] ++ [⟨[], .punct, [';']⟩]))) := by
  have fits : Fits true (target ++ (expression.lexemes [' '] ++ [⟨[], .punct, [';']⟩])) [] := by
    refine fits_append.mpr ⟨?_, fits_append.mpr ⟨fits_lexemes clear (.ofBlank (by decide)) ?_,
      Fits.mark (by decide) .nil trivial⟩⟩
    · rw [textOf_append, textOf_lexemes]
      exact fits_target _
    · rintro _ ⟨⟩
      decide
  have scanned := scan_fits fits (.ofTrivia .nil)
  rw [assigned_eq, ← textOf_lexemes]
  simpa [Lexeme.text] using scanned

/-- An assignment is read with a division for each slash and with no regular expression exactly if
no operand ends in a step before the slash of a division. -/
theorem scan_assigned_iff (expression : Arithmetic) :
    (∃ tokens, scan expression.assigned = .ok tokens ∧ (∀ token ∈ tokens, token.kind ≠ .regex) ∧
      tokens.countP (·.isPunct '/') = expression.divisions) ↔ expression.isClear = true := by
  constructor
  · rintro ⟨tokens, scanned, noRegex, -⟩
    by_contra notClear
    have misread := (misread_of_not_isClear (Bool.eq_false_iff.mpr notClear)
      (.ofBlank (show isBlankText [' '] = true by decide)) (allowsBehind true target)).append [';']
    rw [assigned_eq, scan] at scanned
    have fits (after : Text) (same : after.head? = some ' ') : Fits true target after := by
      obtain ⟨rest, rfl⟩ := List.head?_eq_some_iff.mp same
      exact fits_target rest
    obtain ⟨token, member, isRegex⟩ := (misread.behind fits).exists_regex scanned
    exact noRegex token member isRegex
  · intro clear
    have noRegex : ∀ lexeme ∈ target ++ (expression.lexemes [' '] ++ [⟨[], .punct, [';']⟩]),
        lexeme.kind ≠ .regex := by
      simpa [target, or_imp, forall_and] using kind_of_mem_lexemes expression [' ']
    refine ⟨_, scan_assigned clear, fun token member => ?_, ?_⟩
    · obtain ⟨_, _, cut⟩ := List.append_of_mem member
      obtain ⟨before, lexeme, after, whole, -, rfl⟩ := exists_of_tokensAt cut
      exact noRegex lexeme (by simp [whole])
    · rw [countP_tokensAt fun _ _ kindred => kindred.isPunct '/', List.countP_append,
        List.countP_append, show (expression.lexemes [' ']).countP (·.token.isPunct '/') = _ from
          countP_lexemes expression [' ']]
      exact Nat.zero_add _

/-- The expression `a++ / b`. -/
def stepOver : Arithmetic :=
  .binary
    (.counted (.name ⟨['a'], by decide, List.forall_mem_singleton.mpr (by decide), by decide⟩) .up)
    .divide
    (.name ⟨['b'], by decide, List.forall_mem_singleton.mpr (by decide), by decide⟩)

theorem scan_stepOver :
    stepOver.assigned = "x = a++ / b;".toList ∧
      scan stepOver.assigned = .error (.unterminatedRegex 8) := by
  decide +kernel

end Arithmetic

end EmbedScaffold
