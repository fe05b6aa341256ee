import EmbedScaffold.Proofs.Token.Realigned
import Mathlib.Data.List.Forall2

/-!
# Documents as sequences of lexemes

A lexeme is a token together with the blanks and comments before it, and without its offset.  A
text that is scanned is the text of its lexemes, with a trailing gap behind them.  `Fits` is the
converse: the conditions under which a sequence of lexemes is scanned as it stands, each of them
about a lexeme and the character behind it, so that lexemes can be exchanged inside a document.
-/

namespace EmbedScaffold

open Text

/-- A token and the text skipped before it. -/
structure Lexeme where
  gap : Text
  kind : TokenKind
  value : Text
  deriving DecidableEq, Repr

namespace Lexeme

def text (lexeme : Lexeme) : Text :=
  lexeme.gap ++ lexeme.value

/-- The token, if the lexeme is written at an offset. -/
def tokenAt (offset : Nat) (lexeme : Lexeme) : Token :=
  ⟨lexeme.kind, lexeme.value, offset + lexeme.gap.length, offset + lexeme.text.length⟩

/-- The token without regard to its place. -/
def token (lexeme : Lexeme) : Token :=
  lexeme.tokenAt 0

/-- Whether the lexeme is the punctuation `mark`. -/
def isPunct (lexeme : Lexeme) (mark : Char) : Bool :=
  lexeme.token.isPunct mark

/-- Lexemes one behind the other. -/
def textOf (lexemes : List Lexeme) : Text :=
  lexemes.flatMap text

/-- The tokens of lexemes written from an offset on. -/
def tokensAt (offset : Nat) : List Lexeme → List Token
  | [] => []
  | lexeme :: rest => lexeme.tokenAt offset :: tokensAt (offset + lexeme.text.length) rest

/-- Whether a slash behind the lexemes begins a regular expression. -/
def allowsBehind (allowed : Bool) (lexemes : List Lexeme) : Bool :=
  (lexemes.getLast?.map (·.token.allowsRegex)).getD allowed

/-! ## Sequences -/

section Sequences

variable (offset : Nat) (lexeme : Lexeme) (left right : List Lexeme)

@[simp]
theorem kindred_tokenAt : Kindred (lexeme.tokenAt offset) lexeme.token :=
  ⟨rfl, fun _ => rfl⟩

@[simp]
theorem textOf_nil : textOf [] = [] :=
  rfl

@[simp]
theorem textOf_cons : textOf (lexeme :: right) = lexeme.text ++ textOf right :=
  rfl

@[simp]
theorem textOf_append : textOf (left ++ right) = textOf left ++ textOf right :=
  List.flatMap_append

@[simp]
theorem tokensAt_length : (tokensAt offset left).length = left.length := by
  induction left generalizing offset with
  | nil => rfl
  | cons first rest inductionHypothesis =>
      rw [tokensAt, List.length_cons, inductionHypothesis, List.length_cons]

theorem tokensAt_append :
    tokensAt offset (left ++ right) =
      tokensAt offset left ++ tokensAt (offset + (textOf left).length) right := by
  induction left generalizing offset with
  | nil => rfl
  | cons first rest inductionHypothesis =>
      rw [List.cons_append, tokensAt, inductionHypothesis, tokensAt, textOf_cons,
        List.length_append, Nat.add_assoc]
      rfl

theorem tokensAt_getLast? :
    (tokensAt offset (left ++ [lexeme])).getLast? =
      some (lexeme.tokenAt (offset + (textOf left).length)) := by
  rw [tokensAt_append, tokensAt, tokensAt, List.getLast?_concat]

@[simp]
theorem token_kind : lexeme.token.kind = lexeme.kind :=
  rfl

theorem exists_of_tokensAt {lexemes : List Lexeme} {offset : Nat} {front rest : List Token}
    {token : Token} (tokens : tokensAt offset lexemes = front ++ token :: rest) :
    ∃ before found behind, lexemes = before ++ found :: behind ∧ before.length = front.length ∧
      token = found.tokenAt (offset + (textOf before).length) := by
  induction front generalizing lexemes offset with
  | nil =>
      cases lexemes with
      | nil => cases tokens
      | cons first others =>
          obtain ⟨rfl, _⟩ := List.cons.inj tokens
          exact ⟨[], first, others, rfl, rfl, rfl⟩
  | cons head more inductionHypothesis =>
      cases lexemes with
      | nil => cases tokens
      | cons first others =>
          obtain ⟨_, behindTokens⟩ := List.cons.inj tokens
          obtain ⟨before, found, behind, rfl, length, rfl⟩ := inductionHypothesis behindTokens
          refine ⟨first :: before, found, behind, rfl, congrArg (· + 1) length, ?_⟩
          rw [textOf_cons, List.length_append, Nat.add_assoc]

theorem isPunct_iff (mark : Char) :
    lexeme.isPunct mark = true ↔ lexeme.kind = .punct ∧ lexeme.value = [mark] := by
  rw [isPunct, Token.isPunct, Bool.and_eq_true_iff, decide_eq_true_iff, decide_eq_true_iff]
  rfl

theorem text_length : lexeme.text.length = lexeme.gap.length + lexeme.value.length :=
  List.length_append

theorem allowsBehind_cons (allowed : Bool) :
    allowsBehind allowed (lexeme :: right) = allowsBehind lexeme.token.allowsRegex right := by
  cases right with
  | nil => rfl
  | cons next others => rfl

theorem allowsBehind_append (allowed : Bool) :
    allowsBehind allowed (left ++ right) = allowsBehind (allowsBehind allowed left) right := by
  induction left generalizing allowed with
  | nil => rfl
  | cons first rest inductionHypothesis =>
      rw [List.cons_append, allowsBehind_cons, inductionHypothesis, allowsBehind_cons]

end Sequences

end Lexeme

namespace Scan

open Lexeme

/-! ## Tokens that may stand before a text -/

/-- The text behind a token does not change how the token is read. -/
structure Separated (kind : TokenKind) (value after : Text) : Prop where
  word : kind = .word ∨ kind = .regex → ∀ next ∈ after.head?, isWordChar next = false
  point : value = ['.'] → ['.', '.'].isPrefixOf after = false
  slash : value = ['/'] → ∀ next ∈ after.head?, next ≠ '/' ∧ next ≠ '*'

/-- The token that a text is, before whatever does not touch it. -/
structure ReadsAlone (allowed : Bool) (kind : TokenKind) (value : Text) : Prop where
  solid_first : ∀ first ∈ value.head?, isBlank first = false
  solid_last : ∃ body last, value = body ++ [last] ∧ isBlank last = false
  begins : ∀ after, Separated kind value after → Begins (value ++ after)
  reads : ∀ first rest, value = first :: rest → ∀ offset after, Separated kind value after →
    nextToken allowed offset first (rest ++ after) = .ok (kind, ⟨offset + value.length, after⟩)

private theorem nextToken_shape {allowed : Bool} {offset : Nat} {first : Char} {rest : Text}
    {kind : TokenKind} {found : Cursor} (solid : isBlank first = false)
    (read : nextToken allowed offset first rest = .ok (kind, found)) :
    ∃ letters last, rest = letters ++ found.rest ∧ found.offset = offset + letters.length + 1 ∧
      (first :: letters).getLast? = some last ∧ isBlank last = false := by
  obtain ⟨body, last, lastSolid, shape, place⟩ := nextToken_readTo solid read
  cases body with
  | nil =>
      obtain ⟨rfl, rfl⟩ := List.cons.inj shape
      exact ⟨[], first, rfl, place, rfl, lastSolid⟩
  | cons head more =>
      obtain ⟨rfl, rfl⟩ := List.cons.inj shape
      refine ⟨more ++ [last], last, by simp, by simpa using place, ?_, lastSolid⟩
      rw [← List.cons_append, List.getLast?_concat]

private theorem nextToken_stops {allowed : Bool} {offset : Nat} {first : Char} {rest : Text}
    {kind : TokenKind} {found : Cursor}
    (read : nextToken allowed offset first rest = .ok (kind, found))
    (isWord : kind = .word ∨ kind = .regex) :
    ∀ next ∈ found.rest.head?, isWordChar next = false := by
  unfold nextToken at read
  split at read
  · obtain ⟨ended, _, same⟩ := exists_of_map read
    cases same
    rcases isWord with word | word <;> cases word
  · unfold plainToken at read
    split at read
    · split at read
      · cases read
        rcases isWord with word | word <;> cases word
      · cases read
    · split at read
      · split at read
        · next ended closed =>
            cases read
            exact regexEnd_stops closed
        · cases read
      · split at read
        · cases read
          rcases isWord with word | word <;> cases word
        · split at read
          · cases read
            exact wordEnd_stops (offset + 1) rest
          · cases read
            rcases isWord with word | word <;> cases word

private theorem nextToken_point {allowed : Bool} {offset : Nat} {rest : Text}
    {kind : TokenKind} {found : Cursor}
    (read : nextToken allowed offset '.' rest = .ok (kind, found)) :
    (∃ more, rest = '.' :: '.' :: more ∧ found.rest = more) ∨
      (['.', '.'].isPrefixOf rest = false ∧ found.rest = rest) := by
  rw [nextToken, if_neg (by decide), plainToken, if_neg (by decide), if_neg (by simp)] at read
  by_cases spread : ['.', '.'].isPrefixOf rest = true
  · rw [if_pos (by rw [spread]; rfl)] at read
    cases read
    obtain ⟨more, rfl⟩ := List.isPrefixOf_iff_prefix.mp spread
    exact Or.inl ⟨more, rfl, rfl⟩
  · rw [if_neg (by simp [spread]), if_neg (by decide)] at read
    cases read
    exact Or.inr ⟨Bool.eq_false_iff.mpr spread, rfl⟩

/-- A token that was read somewhere is read alike wherever it is separated. -/
theorem ReadsAlone.ofNextToken {allowed : Bool} {offset : Nat} {first : Char} {rest : Text}
    {kind : TokenKind} {found : Cursor} (solid : isBlank first = false)
    (noComment : first = '/' → ∀ next ∈ rest.head?, next ≠ '/' ∧ next ≠ '*')
    (read : nextToken allowed offset first rest = .ok (kind, found)) :
    ∃ value, first :: rest = value ++ found.rest ∧ found.offset = offset + value.length ∧
      ReadsAlone allowed kind value ∧ Separated kind value found.rest := by
  obtain ⟨letters, last, rfl, place, lastIs, lastSolid⟩ := nextToken_shape solid read
  have separated : Separated kind (first :: letters) found.rest := by
    refine ⟨nextToken_stops read, ?_, ?_⟩
    · intro point
      obtain ⟨rfl, rfl⟩ := List.cons.inj point
      rcases nextToken_point read with ⟨more, shape, ended⟩ | ⟨noPrefix, _⟩
      · have lengths := congrArg List.length shape
        rw [List.nil_append, ended, List.length_cons, List.length_cons] at lengths
        omega
      · exact noPrefix
    · intro slash
      obtain ⟨rfl, rfl⟩ := List.cons.inj slash
      exact noComment rfl
  refine ⟨first :: letters, rfl, by rw [place]; rfl, ⟨?_, ?_, ?_, ?_⟩, separated⟩
  · rintro _ ⟨⟩
    exact solid
  · obtain ⟨body, shape⟩ := List.getLast?_eq_some_iff.mp lastIs
    exact ⟨body, last, shape, lastSolid⟩
  · intro after behind
    refine begins_cons solid fun slash next member => ?_
    cases letters with
    | nil => exact behind.slash (by rw [slash]) next member
    | cons second more => exact noComment slash next member
  · rintro head tail same start after behind
    obtain ⟨rfl, rfl⟩ := List.cons.inj same
    have dots : first = '.' → ['.', '.'].isPrefixOf (letters ++ found.rest) =
        ['.', '.'].isPrefixOf (letters ++ after) := by
      rintro rfl
      rcases nextToken_point read with ⟨more, shape, rfl⟩ | ⟨noPrefix, ended⟩
      · obtain rfl : letters = ['.', '.'] := List.append_cancel_right shape
        rfl
      · obtain rfl : letters = [] := List.append_left_eq_self.mp ended.symm
        rw [List.nil_append, List.nil_append, behind.point rfl]
        exact separated.point rfl
    obtain ⟨ended, readThere, related, _⟩ :=
      nextToken_realigned (Realigned.ofTails letters found.rest after false) read
        (Nat.le_refl _) behind.word dots start
    obtain ⟨_, restIs⟩ := related.eq_of_length rfl
    obtain ⟨more, _, shape, placeThere, _⟩ := nextToken_shape solid readThere
    rw [restIs] at shape
    obtain rfl := List.append_cancel_right shape
    rw [readThere]
    congr 2
    cases ended
    congr 1

/-- A text in quotes is one token if its closing quote is the first one that ends it. -/
theorem ReadsAlone.quoted {quote : Char} (isQuote : quote = '\'' ∨ quote = '"') {inner : Text}
    {stop : Nat} (closed : stringEnd quote 1 (inner ++ [quote]) = some ⟨stop, []⟩)
    (allowed : Bool) : ReadsAlone allowed .string (quote :: (inner ++ [quote])) := by
  have read : nextToken allowed 0 quote (inner ++ [quote]) = .ok (.string, ⟨stop, []⟩) := by
    have notBacktick : quote ≠ '`' := by rcases isQuote with rfl | rfl <;> decide
    have isString : (decide (quote = '\'') || decide (quote = '"')) = true := by
      rcases isQuote with rfl | rfl <;> rfl
    rw [nextToken, if_neg notBacktick, plainToken, if_pos isString, Nat.zero_add, closed]
  have solid : isBlank quote = false := by rcases isQuote with rfl | rfl <;> rfl
  obtain ⟨value, shape, -, alone, -⟩ := ReadsAlone.ofNextToken solid
    (fun slash => by rcases isQuote with rfl | rfl <;> cases slash) read
  rw [List.append_nil] at shape
  exact shape ▸ alone

theorem ReadsAlone.exists_cons {allowed : Bool} {kind : TokenKind} {value : Text}
    (alone : ReadsAlone allowed kind value) :
    ∃ first rest, value = first :: rest ∧ isBlank first = false := by
  obtain ⟨body, last, shape, _⟩ := alone.solid_last
  have solid := alone.solid_first
  cases value with
  | nil => cases body <;> cases shape
  | cons first rest => exact ⟨first, rest, rfl, solid first rfl⟩

/-! ## Sequences of lexemes that are scanned as they stand -/

/-- Before `after`, each lexeme is read as a token of its own; `allowed` tells whether a slash at
the front would begin a regular expression. -/
def Fits : Bool → List Lexeme → Text → Prop
  | _, [], _ => True
  | allowed, lexeme :: rest, after =>
      Trivia lexeme.gap ∧ ReadsAlone allowed lexeme.kind lexeme.value ∧
        Separated lexeme.kind lexeme.value (textOf rest ++ after) ∧
        Fits lexeme.token.allowsRegex rest after

theorem tokensFrom_lexeme {allowed : Bool} {lexeme : Lexeme} {after : Text}
    (trivia : Trivia lexeme.gap) (alone : ReadsAlone allowed lexeme.kind lexeme.value)
    (separated : Separated lexeme.kind lexeme.value after) (offset : Nat) :
    tokensFrom allowed offset (lexeme.text ++ after) =
      (tokensFrom lexeme.token.allowsRegex (offset + lexeme.text.length) after).map
        (lexeme.tokenAt offset :: ·) := by
  obtain ⟨first, rest, shape, _⟩ := alone.exists_cons
  have skipped : skipTrivia offset (lexeme.text ++ after) =
      .ok ⟨offset + lexeme.gap.length, first :: (rest ++ after)⟩ := by
    rw [Lexeme.text, List.append_assoc, trivia, alone.begins after separated, shape]
    rfl
  have place : offset + lexeme.gap.length + lexeme.value.length =
      offset + lexeme.text.length := by
    rw [Lexeme.text_length, Nat.add_assoc]
  have token : Token.cut lexeme.kind (first :: (rest ++ after)) (offset + lexeme.gap.length)
      (offset + lexeme.gap.length + lexeme.value.length) = lexeme.tokenAt offset := by
    rw [Token.cut, Nat.add_sub_cancel_left, ← List.cons_append, ← shape, List.take_left, place]
    rfl
  rw [tokensFrom]
  split
  · next failed => rw [skipped] at failed; cases failed
  · next ended => rw [skipped] at ended; cases ended
  · next found =>
      rw [skipped] at found
      cases found
      have read := alone.reads first rest shape (offset + lexeme.gap.length) after separated
      split
      · next failed => rw [read] at failed; cases failed
      · next found =>
          rw [read] at found
          cases found
          dsimp only
          rw [token, place]
          rfl

theorem tokensFrom_fits {allowed : Bool} {lexemes : List Lexeme} {after : Text}
    (fits : Fits allowed lexemes after) (offset : Nat) :
    tokensFrom allowed offset (textOf lexemes ++ after) =
      (tokensFrom (allowsBehind allowed lexemes) (offset + (textOf lexemes).length) after).map
        (tokensAt offset lexemes ++ ·) := by
  induction lexemes generalizing allowed offset with
  | nil =>
      simp only [textOf_nil, List.nil_append, List.length_nil, Nat.add_zero, tokensAt]
      show tokensFrom allowed offset after = (tokensFrom allowed offset after).map id
      cases tokensFrom allowed offset after <;> rfl
  | cons first rest inductionHypothesis =>
      obtain ⟨trivia, alone, separated, behind⟩ := fits
      rw [textOf_cons, List.append_assoc, tokensFrom_lexeme trivia alone separated,
        inductionHypothesis behind, allowsBehind_cons, List.length_append, Nat.add_assoc]
      cases tokensFrom _ _ after <;> rfl

theorem scan_fits {lexemes : List Lexeme} {after : Text} (fits : Fits true lexemes after)
    (trailing : Trailing after) :
    scan (textOf lexemes ++ after) = .ok (tokensAt 0 lexemes) := by
  have ended (allowed : Bool) (offset : Nat) : tokensFrom allowed offset after = .ok [] := by
    rw [tokensFrom]
    split
    · next failed => rw [trailing] at failed; cases failed
    · rfl
    · next found => rw [trailing] at found; cases found
  rw [scan, tokensFrom_fits fits, ended]
  exact congrArg Except.ok (List.append_nil _)

/-- A text that is scanned consists of lexemes with a trailing gap. -/
theorem exists_fits {allowed : Bool} {offset : Nat} {content : Text} {tokens : List Token}
    (scanned : tokensFrom allowed offset content = .ok tokens) :
    ∃ lexemes after, content = textOf lexemes ++ after ∧ Fits allowed lexemes after ∧
      Trailing after ∧ tokens = tokensAt offset lexemes := by
  fun_induction tokensFrom allowed offset content generalizing tokens with
  | case1 => cases scanned
  | case2 allowed offset content place skipped =>
      cases scanned
      exact ⟨[], content, rfl, trivial, skipTrivia_trailing skipped, rfl⟩
  | case3 => cases scanned
  | case4 allowed offset content start first rest skipped kind ended read token =>
      rename_i inductionHypothesis
      obtain ⟨gap, shape, place, trivia, solid, noComment⟩ := skipTrivia_shape skipped
      obtain ⟨value, parts, stop, alone, separated⟩ :=
        ReadsAlone.ofNextToken solid noComment read
      obtain ⟨others, behind, rfl⟩ := exists_of_map scanned
      obtain ⟨lexemes, after, restShape, fits, trailing, rfl⟩ := inductionHypothesis behind
      have cut : token = ⟨kind, value, start, ended.offset⟩ := by
        show Token.cut kind (first :: rest) start ended.offset = _
        rw [Token.cut, parts, stop, Nat.add_sub_cancel_left, List.take_left]
      refine ⟨⟨gap, kind, value⟩ :: lexemes, after, ?_, ⟨trivia, alone, ?_, ?_⟩, trailing, ?_⟩
      · rw [shape, parts, restShape, textOf_cons, Lexeme.text, List.append_assoc,
          List.append_assoc]
      · rw [← restShape]
        exact separated
      · rw [cut] at fits
        exact fits
      · rw [cut, tokensAt, Lexeme.tokenAt, Lexeme.text_length, stop, place, Nat.add_assoc]

theorem fits_append {allowed : Bool} {left right : List Lexeme} {after : Text} :
    Fits allowed (left ++ right) after ↔
      Fits allowed left (textOf right ++ after) ∧ Fits (allowsBehind allowed left) right after := by
  induction left generalizing allowed with
  | nil => simp [Fits, allowsBehind]
  | cons first rest inductionHypothesis =>
      rw [List.cons_append, Fits, Fits, inductionHypothesis, allowsBehind_cons, textOf_append,
        List.append_assoc]
      simp only [and_assoc]

theorem Fits.exists_cons {allowed : Bool} {lexeme : Lexeme} {rest : List Lexeme} {after : Text}
    (fits : Fits allowed (lexeme :: rest) after) :
    ∃ first more, lexeme.text = first :: more := by
  obtain ⟨first, more, shape, _⟩ := fits.2.1.exists_cons
  rw [Lexeme.text, shape]
  cases lexeme.gap <;> exact ⟨_, _, rfl⟩

theorem Fits.solid_first {allowed : Bool} {lexemes : List Lexeme} {after : Text}
    (fits : Fits allowed lexemes after) :
    ∀ lexeme ∈ lexemes, ∃ first rest, lexeme.value = first :: rest ∧ isBlank first = false := by
  induction lexemes generalizing allowed with
  | nil =>
      intro lexeme member
      cases member
  | cons first rest inductionHypothesis =>
      rintro lexeme (_ | ⟨_, member⟩)
      · exact fits.2.1.exists_cons
      · exact inductionHypothesis fits.2.2.2 lexeme member

theorem Fits.solid_last {allowed : Bool} {lexemes : List Lexeme} {after : Text}
    (fits : Fits allowed lexemes after) :
    ∀ last ∈ (textOf lexemes).getLast?, isBlank last = false := by
  induction lexemes generalizing allowed with
  | nil =>
      intro last member
      cases member
  | cons first rest inductionHypothesis =>
      obtain ⟨_, alone, _, behind⟩ := fits
      intro last member
      rw [textOf_cons, List.getLast?_append] at member
      cases ended : (textOf rest).getLast? with
      | some final =>
          rw [ended] at member
          exact inductionHypothesis behind last (ended.trans member)
      | none =>
          obtain ⟨body, final, shape, solid⟩ := alone.solid_last
          rw [ended, Option.none_or, Lexeme.text, shape, ← List.append_assoc,
            List.getLast?_concat] at member
          cases member
          exact solid

/-! ## Exchanging what stands behind -/

theorem Fits.separated_last {allowed : Bool} {lexemes : List Lexeme} {after : Text}
    (fits : Fits allowed lexemes after) :
    ∀ last ∈ lexemes.getLast?, Separated last.kind last.value after := by
  intro last member
  obtain ⟨others, rfl⟩ := List.getLast?_eq_some_iff.mp member
  exact (fits_append.mp fits).2.2.2.1

/-- Nothing in `after` joins the lexeme, nor the one before it. -/
structure Apart (lexeme : Lexeme) (after : Text) : Prop where
  word : lexeme.kind = .word ∨ lexeme.kind = .regex →
    ∀ next ∈ after.head?, isWordChar next = false
  point : lexeme.value = ['.'] → ∀ next ∈ after.head?, next ≠ '.'
  slash : lexeme.value = ['/'] → ∀ next ∈ after.head?, next ≠ '/' ∧ next ≠ '*'

private theorem dots_false {after : Text} (stops : ∀ next ∈ after.head?, next ≠ '.') :
    ['.', '.'].isPrefixOf after = false := by
  cases after with
  | nil => rfl
  | cons next others => simp [List.isPrefixOf, (stops next rfl).symm]

theorem Apart.separated {lexeme : Lexeme} {after : Text} (apart : Apart lexeme after) :
    Separated lexeme.kind lexeme.value after :=
  ⟨apart.word, fun point => dots_false (apart.point point), apart.slash⟩

/-- Lexemes stay as they are if something else follows that is apart from the last of them. -/
theorem Fits.retail {allowed : Bool} {lexemes : List Lexeme} {after other : Text}
    (fits : Fits allowed lexemes after)
    (apart : ∀ last ∈ lexemes.getLast?, Apart last other) : Fits allowed lexemes other := by
  induction lexemes generalizing allowed with
  | nil => trivial
  | cons first rest inductionHypothesis =>
      obtain ⟨trivia, alone, separated, behind⟩ := fits
      cases rest with
      | nil => exact ⟨trivia, alone, (apart first rfl).separated, trivial⟩
      | cons next others =>
          have behindOther := inductionHypothesis behind fun last member => apart last (by
            rw [List.getLast?_cons_cons]
            exact member)
          refine ⟨trivia, alone, ?_, behindOther⟩
          obtain ⟨head, more, shape⟩ := behind.exists_cons
          rw [textOf_cons, shape] at separated ⊢
          refine ⟨separated.word, fun point => ?_, separated.slash⟩
          have before := separated.point point
          simp only [List.cons_append, List.append_assoc, List.isPrefixOf] at before ⊢
          cases more with
          | cons second following => exact before
          | nil =>
              cases others with
              | cons third following =>
                  obtain ⟨shared, _, thirdShape⟩ := behind.2.2.2.exists_cons
                  rw [textOf_cons, thirdShape] at before ⊢
                  exact before
              | nil =>
                  obtain ⟨letter, tail, valueShape, _⟩ := behind.2.1.exists_cons
                  rw [Lexeme.text, valueShape] at shape
                  have lengths := congrArg List.length shape
                  simp only [List.length_append, List.length_cons, List.length_nil] at lengths
                  obtain rfl : tail = [] := List.eq_nil_of_length_eq_zero (by omega)
                  have empty : next.gap = [] := List.eq_nil_of_length_eq_zero (by omega)
                  rw [empty] at shape
                  obtain rfl : letter = head := (List.cons.inj shape).1
                  by_cases isPoint : letter = '.'
                  · subst letter
                    have noPoint := (apart next rfl).point valueShape
                    cases other with
                    | nil => rfl
                    | cons following _ =>
                        simp [List.isPrefixOf, (noPoint following rfl).symm]
                  · simp [Ne.symm isPoint]

/-! ## Words and marks -/

/-- A word is one token before whatever does not go on with it. -/
theorem ReadsAlone.word {name : Text} (nonempty : name ≠ [])
    (letters : ∀ letter ∈ name, isWordChar letter = true) (allowed : Bool) :
    ReadsAlone allowed .word name := by
  obtain ⟨first, others, rfl⟩ := List.exists_cons_of_ne_nil nonempty
  obtain ⟨isFirst, areOthers⟩ := List.forall_mem_cons.mp letters
  have apart {mark : Char} (noWord : isWordChar mark = false) : first ≠ mark := by
    rintro rfl
    rw [isFirst] at noWord
    cases noWord
  have read : nextToken allowed 0 first (others ++ []) =
      .ok (.word, ⟨0 + 1 + others.length, []⟩) := by
    rw [nextToken, if_neg (apart rfl), plainToken,
      if_neg (by simp [apart (show isWordChar '\'' = false from rfl),
        apart (show isWordChar '"' = false from rfl)]),
      if_neg (by simp [apart (show isWordChar '/' = false from rfl)]),
      if_neg (by simp [apart (show isWordChar '.' = false from rfl)]), if_pos isFirst,
      wordEnd_append _ areOthers (by simp)]
  rw [List.append_nil] at read
  obtain ⟨value, shape, -, alone, -⟩ := ReadsAlone.ofNextToken (isBlank_of_isWordChar isFirst)
    (fun slash => absurd slash (apart rfl)) read
  rw [List.append_nil] at shape
  rw [shape]
  exact alone

theorem Separated.ofLetters {name after : Text}
    (letters : ∀ letter ∈ name, isWordChar letter = true)
    (stops : ∀ next ∈ after.head?, isWordChar next = false) : Separated .word name after where
  word _ := stops
  point := by
    rintro rfl
    exact absurd (letters '.' List.mem_cons_self) (by decide)
  slash := by
    rintro rfl
    exact absurd (letters '/' List.mem_cons_self) (by decide)

theorem Separated.ofString {quote : Char} (isQuote : (quote = '\'' || quote = '"') = true)
    (inside after : Text) : Separated .string (quote :: inside) after where
  word isWord := by rcases isWord with word | regex <;> contradiction
  point same := by
    obtain ⟨rfl, -⟩ := List.cons.inj same
    exact absurd isQuote (by decide)
  slash same := by
    obtain ⟨rfl, -⟩ := List.cons.inj same
    exact absurd isQuote (by decide)

/-- A character that is a token of its own wherever it stands. -/
def isMark (tested : Char) : Bool :=
  ! isBlank tested && ! isWordChar tested && ! ['\'', '"', '`', '/', '.'].contains tested

theorem isWordChar_of_isMark {mark : Char} (marks : isMark mark = true) :
    isWordChar mark = false := by
  simp only [isMark, Bool.and_eq_true, Bool.not_eq_true'] at marks
  exact marks.1.2

theorem ReadsAlone.mark {mark : Char} (marks : isMark mark = true) (allowed : Bool) :
    ReadsAlone allowed .punct [mark] := by
  simp only [isMark, Bool.and_eq_true, Bool.not_eq_true'] at marks
  obtain ⟨⟨solid, noWord⟩, special⟩ := marks
  have others : mark ≠ '\'' ∧ mark ≠ '"' ∧ mark ≠ '`' ∧ mark ≠ '/' ∧ mark ≠ '.' := by
    simpa [List.contains_eq_mem] using special
  obtain ⟨noSingle, noDouble, noBacktick, noSlash, noPoint⟩ := others
  refine ⟨?_, ⟨[], mark, rfl, solid⟩, ?_, ?_⟩
  · rintro _ ⟨⟩
    exact solid
  · exact fun after _ => begins_cons solid fun slash => absurd slash noSlash
  · rintro first rest same offset after _
    obtain ⟨rfl, rfl⟩ := List.cons.inj same
    rw [nextToken, if_neg noBacktick, plainToken, if_neg (by simp [noSingle, noDouble]),
      if_neg (by simp [noSlash]), if_neg (by simp [noPoint]), if_neg (by simp [noWord])]
    rfl

theorem Apart.mark {lexeme : Lexeme} {mark : Char} (marks : isMark mark = true)
    (isPunct : lexeme.isPunct mark = true) (after : Text) : Apart lexeme after := by
  simp only [isMark, Bool.and_eq_true, Bool.not_eq_true'] at marks
  obtain ⟨_, special⟩ := marks
  have others : mark ≠ '/' ∧ mark ≠ '.' := by
    have all : mark ≠ '\'' ∧ mark ≠ '"' ∧ mark ≠ '`' ∧ mark ≠ '/' ∧ mark ≠ '.' := by
      simpa [List.contains_eq_mem] using special
    exact ⟨all.2.2.2.1, all.2.2.2.2⟩
  obtain ⟨kind, value⟩ := (lexeme.isPunct_iff mark).mp isPunct
  refine ⟨?_, ?_, ?_⟩
  · rintro (word | regex)
    · rw [kind] at word; cases word
    · rw [kind] at regex; cases regex
  · intro point
    rw [value] at point
    exact absurd (List.cons.inj point).1 others.2
  · intro slash
    rw [value] at slash
    exact absurd (List.cons.inj slash).1 others.1

theorem Apart.last_mark {lexeme : Lexeme} {mark : Char} (marks : isMark mark = true)
    (isPunct : lexeme.isPunct mark = true) (front : List Lexeme) (after : Text) :
    ∀ last ∈ (front ++ [lexeme]).getLast?, Apart last after := by
  intro last member
  rw [List.getLast?_concat] at member
  obtain rfl := Option.some.inj member
  exact Apart.mark marks isPunct after

/-- A text that neither continues a word nor a point. -/
def Soft (after : Text) : Prop :=
  ∀ next ∈ after.head?, isWordChar next = false ∧ next ≠ '.'

theorem Apart.ofSoft {lexeme : Lexeme} {after : Text} (soft : Soft after)
    (noSlash : lexeme.value ≠ ['/']) : Apart lexeme after :=
  ⟨fun _ next member => (soft next member).1, fun _ next member => (soft next member).2,
    fun slash => absurd slash noSlash⟩

theorem Apart.ofBlank {first : Char} (blank : isBlank first = true) (lexeme : Lexeme)
    (after : Text) : Apart lexeme (first :: after) := by
  refine ⟨fun _ => ?_, fun _ => ?_, fun _ => ?_⟩
  · rintro _ ⟨⟩
    exact isWordChar_of_isBlank blank
  · rintro _ ⟨⟩
    exact ne_of_isBlank blank rfl
  · rintro _ ⟨⟩
    exact ⟨ne_of_isBlank blank rfl, ne_of_isBlank blank rfl⟩

theorem Fits.mark {allowed : Bool} {mark : Char} (marks : isMark mark = true) {gap : Text}
    (trivia : Trivia gap) {behind : List Lexeme} {after : Text}
    (fits : Fits (Lexeme.token ⟨gap, .punct, [mark]⟩).allowsRegex behind after) :
    Fits allowed (⟨gap, .punct, [mark]⟩ :: behind) after :=
  ⟨trivia, .mark marks allowed,
    (Apart.mark marks ((Lexeme.isPunct_iff _ mark).mpr ⟨rfl, rfl⟩) _).separated, fits⟩

/-- What begins with the same character of a gap is apart alike. -/
theorem Apart.ofHead {lexeme : Lexeme} {after : Text} {first : Char}
    (separated : Separated lexeme.kind lexeme.value (first :: after))
    (isGap : isBlank first = true ∨ first = '/') (other : Text) : Apart lexeme (first :: other) := by
  rcases isGap with blank | rfl
  · exact .ofBlank blank lexeme other
  · refine ⟨fun _ => ?_, fun _ => ?_, fun slash => ?_⟩
    · rintro _ ⟨⟩
      rfl
    · rintro _ ⟨⟩
      decide
    · exact absurd rfl (separated.slash slash '/' rfl).1

/-- A lone slash is punctuation, for a regular expression is closed by another one. -/
theorem ReadsAlone.punct_of_slash {allowed : Bool} {kind : TokenKind}
    (alone : ReadsAlone allowed kind ['/']) : kind = .punct := by
  have read := alone.reads '/' [] rfl 0 [] ⟨by simp, by simp, by simp⟩
  rw [nextToken, if_neg (by decide), plainToken, if_neg (by decide)] at read
  cases allowed with
  | true => cases read
  | false =>
      rw [if_neg (by decide), if_neg (by decide), if_neg (by decide)] at read
      cases read
      rfl

/-- Trivia begin with a blank or with the slash of a comment. -/
theorem Trivia.head {gap : Text} (trivia : Trivia gap) :
    ∀ first ∈ gap.head?, isBlank first = true ∨ first = '/' := by
  intro first member
  cases gap with
  | nil => cases member
  | cons head rest =>
      obtain rfl : head = first := Option.some.inj member
      by_cases blank : isBlank head = true
      · exact Or.inl blank
      · refine Or.inr (Classical.byContradiction fun noSlash => ?_)
        have skipped := trivia 0 []
        rw [List.append_nil, begins_cons (Bool.eq_false_iff.mpr blank)
          (fun slash => absurd slash noSlash), skipTrivia_nil] at skipped
        cases skipped

theorem soft_of_mark {lexeme : Lexeme} {mark : Char} (trivia : Trivia lexeme.gap)
    (marks : isMark mark = true) (isPunct : lexeme.isPunct mark = true) (after : Text) :
    Soft (lexeme.text ++ after) := by
  obtain ⟨_, value⟩ := (lexeme.isPunct_iff mark).mp isPunct
  intro next member
  rw [Lexeme.text, value] at member
  cases shape : lexeme.gap with
  | nil =>
      rw [shape] at member
      cases member
      refine ⟨isWordChar_of_isMark marks, ?_⟩
      rintro rfl
      exact absurd marks (by decide)
  | cons first rest =>
      rw [shape] at member trivia
      obtain rfl : first = next := Option.some.inj member
      rcases trivia.head first rfl with blank | rfl
      · exact ⟨isWordChar_of_isBlank blank, ne_of_isBlank blank rfl⟩
      · exact ⟨rfl, by decide⟩

/-- A mark is read alike whether or not a slash would begin a regular expression there. -/
theorem Fits.reflag {allowed : Bool} {lexeme : Lexeme} {rest : List Lexeme} {after : Text}
    {mark : Char} (marks : isMark mark = true) (isPunct : lexeme.isPunct mark = true)
    (fits : Fits allowed (lexeme :: rest) after) (other : Bool) :
    Fits other (lexeme :: rest) after := by
  obtain ⟨trivia, _, separated, behind⟩ := fits
  obtain ⟨kind, value⟩ := (lexeme.isPunct_iff mark).mp isPunct
  exact ⟨trivia, by rw [kind, value]; exact ReadsAlone.mark marks other, separated, behind⟩

/-- Exchange the lexemes behind a place in a document. -/
theorem Fits.exchange {left before behind : List Lexeme} {after : Text}
    (fits : Fits true (left ++ before) after)
    (behindFits : Fits (allowsBehind true left) behind after)
    (apart : ∀ last ∈ left.getLast?, Apart last (textOf behind ++ after)) :
    Fits true (left ++ behind) after :=
  fits_append.mpr ⟨(fits_append.mp fits).1.retail apart, behindFits⟩

/-! ## Lexemes of an indented value -/

/-- Where nothing is skipped of a text, nothing is skipped of it indented either. -/
private theorem realigned_begins {first : Char} {rest target : Text}
    (related : Realigned [] [] false (first :: rest) target) (solid : isBlank first = false)
    (noComment : first = '/' → ∀ next ∈ rest.head?, next ≠ '/' ∧ next ≠ '*') :
    Begins target := by
  obtain ⟨others, rfl, behind⟩ := related.cons_inv (Nat.zero_le _)
  rw [isLineFeed_of_solid solid] at behind
  refine begins_cons solid fun slash next member => ?_
  cases rest with
  | nil =>
      obtain ⟨_, rfl⟩ := behind.eq_of_length rfl
      cases member
  | cons second more =>
      obtain ⟨_, rfl, _⟩ := behind.cons_inv (Nat.zero_le _)
      exact noComment slash next member

/-- Indenting changes no token's kind, no word and no punctuation. -/
theorem Fits.realigned {allowed : Bool} {lexemes : List Lexeme} {target : Text}
    (fits : Fits allowed lexemes [])
    (related : Realigned [] [] false (textOf lexemes) target) :
    ∃ others, target = textOf others ∧ Fits allowed others [] ∧
      List.Forall₂ (fun left right => Kindred left.token right.token ∧
        (left.gap = [] → right.gap = [])) lexemes others := by
  induction lexemes generalizing allowed target with
  | nil =>
      obtain ⟨_, rfl⟩ := related.eq_of_length rfl
      exact ⟨[], rfl, trivial, .nil⟩
  | cons lexeme rest inductionHypothesis =>
      obtain ⟨trivia, alone, separated, behind⟩ := fits
      rw [List.append_nil] at separated
      obtain ⟨first, letters, shape, solid⟩ := alone.exists_cons
      have skipped : skipTrivia 0 (textOf (lexeme :: rest)) =
          .ok ⟨lexeme.gap.length, first :: (letters ++ textOf rest)⟩ := by
        rw [textOf_cons, Lexeme.text, List.append_assoc, trivia, alone.begins _ separated, shape,
          Nat.zero_add]
        rfl
      obtain ⟨place, more, skippedThere, moreRelated⟩ :=
        skipTrivia_realigned related skipped (Nat.zero_le _)
          (fun _ _ next member => by cases member) 0
      -- the token is read alike in the target, and the induction goes on behind it
      have read := alone.reads first letters shape lexeme.gap.length _ separated
      obtain ⟨ended, readThere, endRelated, kindred⟩ :=
        nextToken_realigned moreRelated read (Nat.zero_le _)
          (fun _ next member => by cases member)
          (fun _ => dots_realigned moreRelated (fun next member => by cases member)
            (fun next member => by cases member)) place
      obtain ⟨others, restShape, restFits, restKindred⟩ := inductionHypothesis behind endRelated
      obtain ⟨gap, parts, placeIs, gapTrivia, _, noComment⟩ := skipTrivia_shape skippedThere
      obtain ⟨value, valueParts, stop, valueAlone, valueSeparated⟩ :=
        ReadsAlone.ofNextToken solid noComment readThere
      have alike : Kindred lexeme.token (Lexeme.token ⟨gap, lexeme.kind, value⟩) := by
        refine ⟨rfl, fun plain => ?_⟩
        have same := kindred.value plain
        simp only [Token.cut, stop, Nat.add_sub_cancel_left] at same
        rwa [← List.cons_append, ← shape, List.take_left, valueParts, List.take_left] at same
      have front : lexeme.gap = [] → gap = [] := by
        intro empty
        obtain ⟨sourceGap, sourceParts, _, _, _, sourceNoComment⟩ := skipTrivia_shape skipped
        rw [textOf_cons, Lexeme.text, empty, shape] at related
        have begins := realigned_begins related solid sourceNoComment 0
        rw [begins] at skippedThere
        cases skippedThere
        exact List.eq_nil_of_length_eq_zero (by omega)
      refine ⟨⟨gap, lexeme.kind, value⟩ :: others, ?_, ⟨gapTrivia, valueAlone, ?_, ?_⟩,
        .cons ⟨alike, front⟩ restKindred⟩
      · rw [parts, valueParts, restShape, textOf_cons, Lexeme.text, List.append_assoc]
      · rw [List.append_nil, ← restShape]
        exact valueSeparated
      · rw [← alike.allowsRegex]
        exact restFits

end Scan

end EmbedScaffold
