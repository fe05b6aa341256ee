import EmbedScaffold.Proofs.Token.Coverage

/-!
# Texts one behind the other

A text that is scanned can be followed by another one whose first character joins no token.  The
tokens of both are then those of the first text and those that the second one has behind the last of
them.  Only a line comment at the end of the first text swallows more, up to the next line feed.
-/

namespace EmbedScaffold

open Text

namespace Scan

/-! ## Gaps that more text may follow -/

/-- Whether blanks and comments end in a line comment that is still open. -/
def EndsInComment (gap : Text) : Prop :=
  ∃ before body, gap = before ++ '/' :: '/' :: body ∧
    Skipped ('/' :: '/' :: body) before ∧ '\n' ∉ body

section Gap

variable {gap behind : Text}

theorem commentEnd_append {body : Text} (absent : ¬ ['*', '/'] <:+: body) (offset : Nat)
    (after : Text) :
    commentEnd offset (body ++ '*' :: '/' :: after) = some ⟨offset + body.length + 2, after⟩ := by
  induction body generalizing offset with
  | nil => rfl
  | cons first rest inductionHypothesis =>
      rw [List.infix_cons_iff, not_or] at absent
      obtain ⟨notHere, notLater⟩ := absent
      rw [List.cons_append, commentEnd, inductionHypothesis notLater]
      · simp only [List.length_cons, Nat.add_assoc, Nat.add_comm 1]
      · intro more isStar closing
        subst first
        cases rest with
        | nil => exact absurd (List.cons.inj closing).1 (by decide)
        | cons second others =>
            have slash : second = '/' := (List.cons.inj closing).1
            subst second
            exact notHere ⟨others, rfl⟩

/-- Blanks and comments of which the last one is closed are skipped before whatever follows. -/
theorem trivia_of_skipped (skipped : Skipped [] gap) (closed : ¬ EndsInComment gap) :
    Trivia gap := by
  induction skipped with
  | nil => exact .nil
  | @blank first rest isBlank _ inductionHypothesis =>
      apply Trivia.cons isBlank
      apply inductionHypothesis
      intro found
      obtain ⟨before, body, shape, skipped, sameLine⟩ := found
      exact closed ⟨first :: before, body, congrArg (first :: ·) shape, .blank isBlank skipped,
        sameLine⟩
  | @lineComment body rest sameLine feed _ inductionHypothesis =>
      rw [List.append_nil] at feed
      cases rest with
      | nil => exact absurd ⟨[], body, by simp, .nil, sameLine⟩ closed
      | cons first others =>
          have isFeed : first = '\n' := feed first rfl
          subst first
          apply Trivia.lineComment sameLine
          apply inductionHypothesis
          intro found
          obtain ⟨before, inner, shape, skipped, innerSameLine⟩ := found
          refine closed ⟨'/' :: '/' :: (body ++ before), inner, by rw [shape]; simp,
            .lineComment sameLine ?_ skipped, innerSameLine⟩
          intro next member
          rw [← shape] at member
          exact feed next member
  | @blockComment body rest absent _ inductionHypothesis =>
      apply Trivia.blockComment (commentEnd_append absent)
      apply inductionHypothesis
      intro found
      obtain ⟨before, inner, shape, skipped, sameLine⟩ := found
      exact closed ⟨'/' :: '*' :: (body ++ '*' :: '/' :: before), inner, by rw [shape]; simp,
        .blockComment absent skipped, sameLine⟩

/-- The end of a document is skipped before more text, unless a line comment goes on in it. -/
theorem skipTrivia_append (trailing : Trailing gap)
    (closed : EndsInComment gap → ∀ next ∈ behind.head?, next = '\n') (offset : Nat) :
    skipTrivia offset (gap ++ behind) = skipTrivia (offset + gap.length) behind := by
  by_cases isOpen : EndsInComment gap
  · cases behind with
    | nil => rw [List.append_nil, trailing, skipTrivia_nil]
    | cons first rest =>
        have isFeed : first = '\n' := closed isOpen first rfl
        subst first
        rw [← List.singleton_append, ← List.append_assoc, trailing.trivia, List.length_append,
          List.singleton_append, skipTrivia_blank rfl]
        rfl
  · obtain ⟨skippedGap, shape, _, skipped⟩ := skipTrivia_slice (trailing 0)
    rw [List.append_nil] at shape
    subst shape
    exact trivia_of_skipped skipped isOpen offset behind

theorem tokensFrom_append (trailing : Trailing gap)
    (closed : EndsInComment gap → ∀ next ∈ behind.head?, next = '\n') (allowed : Bool)
    (offset : Nat) :
    tokensFrom allowed offset (gap ++ behind) =
      tokensFrom allowed (offset + gap.length) behind := by
  rw [tokensFrom_eq, tokensFrom_eq, skipTrivia_append trailing closed]

end Gap

/-! ## Text that joins no token -/

/-- A character that joins no token before it: a blank, a separator or a closing bracket. -/
def isParting (tested : Char) : Bool :=
  isBlank tested || [',', ';', ':', ')', ']', '\x7d'].contains tested

/-- Whether a text is empty or begins with a character that joins no token. -/
def Parted (behind : Text) : Prop :=
  ∀ first ∈ behind.head?, isParting first = true

section Parted

variable {lexeme : Lexeme} {first : Char} {behind : Text}

theorem Apart.ofParting (parting : isParting first = true) (rest : Text) :
    Apart lexeme (first :: rest) := by
  by_cases blank : isBlank first = true
  · exact .ofBlank blank lexeme rest
  · have isSign : first = ',' ∨ first = ';' ∨ first = ':' ∨ first = ')' ∨ first = ']' ∨
        first = '\x7d' := by
      simpa [isParting, blank] using parting
    have signs : isWordChar first = false ∧ first ≠ '.' ∧ first ≠ '/' ∧ first ≠ '*' := by
      rcases isSign with rfl | rfl | rfl | rfl | rfl | rfl <;> decide
    obtain ⟨noWord, noPoint, noSlash, noStar⟩ := signs
    refine ⟨fun _ next member => ?_, fun _ next member => ?_, fun _ next member => ?_⟩ <;>
      cases member
    · exact noWord
    · exact noPoint
    · exact ⟨noSlash, noStar⟩

theorem Apart.ofParted (parted : Parted behind) : Apart lexeme behind := by
  cases behind with
  | nil => exact ⟨fun _ => by simp, fun _ => by simp, fun _ => by simp⟩
  | cons first rest => exact .ofParting (parted first rfl) rest

/-- A document is read alike before such a text. -/
theorem Fits.before_parted {allowed : Bool} {lexemes : List Lexeme} {gap : Text}
    (fits : Fits allowed lexemes gap) (trailing : Trailing gap) (parted : Parted behind) :
    Fits allowed lexemes (gap ++ behind) := by
  by_cases empty : gap = []
  · rw [empty]
    exact fits.retail fun last _ => .ofParted parted
  · rw [← List.append_nil gap] at fits
    exact fits.behind_gap trailing.head fun same => absurd same empty

end Parted

/-! ## The tokens of two texts -/

/-- The offset behind the last of some tokens. -/
def lastStop (tokens : List Token) : Nat :=
  (tokens.getLast?.map Token.stop).getD 0

/-- Whether a document ends in a line comment, behind the last of its tokens. -/
def EndsInLineComment (content : Text) (tokens : List Token) : Prop :=
  EndsInComment (content.drop (lastStop tokens))

/-- The tokens of a text that stands behind a token, by their offsets in the text.  The token tells
whether a slash at the front begins a regular expression; without a token it does. -/
def tokensBehind (previous : Option Token) (content : Text) : Except Malformed (List Token) :=
  tokensFrom ((previous.map Token.allowsRegex).getD true) 0 content

theorem lastStop_tokensAt (lexemes : List Lexeme) :
    lastStop (Lexeme.tokensAt 0 lexemes) = (Lexeme.textOf lexemes).length := by
  rcases List.eq_nil_or_concat lexemes with rfl | ⟨others, last, rfl⟩
  · rfl
  · rw [List.concat_eq_append, lastStop, Lexeme.tokensAt_getLast?, Lexeme.textOf_append,
      List.length_append, Lexeme.textOf_cons, Lexeme.textOf_nil, List.append_nil]
    exact congrArg (· + _) (Nat.zero_add _)

theorem allowsRegex_tokensAt (lexemes : List Lexeme) (offset : Nat) :
    (((Lexeme.tokensAt offset lexemes).getLast?.map Token.allowsRegex).getD true) =
      Lexeme.allowsBehind true lexemes := by
  rcases List.eq_nil_or_concat lexemes with rfl | ⟨others, last, rfl⟩
  · rfl
  · rw [List.concat_eq_append, Lexeme.tokensAt_getLast?, Lexeme.allowsBehind,
      List.getLast?_concat]
    exact (Lexeme.kindred_tokenAt _ last).allowsRegex

end Scan

open Scan

/-- Behind a text that is scanned, another one that joins none of its tokens has the tokens that it
has behind the last of them, and the two together have none if it has none. -/
theorem scan_append_iff {front behind : Text} {tokens : List Token}
    (scanned : scan front = .ok tokens) (parted : Parted behind)
    (closed : EndsInLineComment front tokens → ∀ next ∈ behind.head?, next = '\n')
    (whole : List Token) :
    scan (front ++ behind) = .ok whole ↔
      ∃ others, tokensBehind tokens.getLast? behind = .ok others ∧
        whole = tokens ++ others.map (Token.moved front.length) := by
  obtain ⟨lexemes, gap, shape, fits, trailing, own⟩ := exists_fits scanned
  have isOpen : EndsInLineComment front tokens ↔ EndsInComment gap := by
    rw [EndsInLineComment, own, lastStop_tokensAt, shape, List.drop_left]
  rw [isOpen] at closed
  have together : scan (front ++ behind) =
      (tokensFrom (Lexeme.allowsBehind true lexemes) front.length behind).map (tokens ++ ·) := by
    rw [scan, shape, List.append_assoc, tokensFrom_fits (fits.before_parted trailing parted),
      tokensFrom_append trailing closed, Nat.zero_add, ← List.length_append, own]
  rw [together, tokensBehind, own, allowsRegex_tokensAt]
  constructor
  · intro found
    cases continued : tokensFrom (Lexeme.allowsBehind true lexemes) front.length behind with
    | error fault =>
        rw [continued] at found
        cases found
    | ok later =>
        rw [continued] at found
        obtain ⟨others, scannedOthers, moved⟩ := exists_of_tokensFrom continued
        refine ⟨others, scannedOthers, ?_⟩
        rw [← Except.ok.inj found, moved]
  · intro found
    obtain ⟨others, scannedOthers, moved⟩ := found
    rw [tokensFrom_moved scannedOthers, moved]
    rfl

theorem scan_append_iff_comment :
    ∃ tokens others, scan "a = `$\x7bb\x7d` // c".toList = .ok tokens ∧
      EndsInLineComment "a = `$\x7bb\x7d` // c".toList tokens ∧
      tokensBehind tokens.getLast? "\n/ 2;".toList = .ok others ∧ others.length = 3 ∧
      scan ("a = `$\x7bb\x7d` // c".toList ++ "\n/ 2;".toList) =
        .ok (tokens ++ others.map (Token.moved 15)) := by
  let tokens : List Token :=
    [⟨.word, ['a'], 0, 1⟩, ⟨.punct, ['='], 2, 3⟩, ⟨.template, "`$\x7bb\x7d`".toList, 4, 10⟩]
  let others : List Token := [⟨.punct, ['/'], 1, 2⟩, ⟨.word, ['2'], 3, 4⟩, ⟨.punct, [';'], 4, 5⟩]
  have scanned : scan "a = `$\x7bb\x7d` // c".toList = .ok tokens := by decide +kernel
  have scannedOthers : tokensBehind tokens.getLast? "\n/ 2;".toList = .ok others := by
    decide +kernel
  have isOpen : EndsInLineComment "a = `$\x7bb\x7d` // c".toList tokens :=
    ⟨[' '], " c".toList, rfl, .blank rfl .nil, by decide⟩
  refine ⟨tokens, others, scanned, isOpen, scannedOthers, rfl, ?_⟩
  refine (scan_append_iff scanned ?_ (fun _ => ?_) _).mpr ⟨others, scannedOthers, rfl⟩
  · intro first member
    cases member
    rfl
  · intro next member
    cases member
    rfl

end EmbedScaffold
