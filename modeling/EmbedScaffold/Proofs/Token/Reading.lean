import EmbedScaffold.Proofs.Attempt
import EmbedScaffold.Proofs.Text.Case
import EmbedScaffold.Proofs.Text.Line
import EmbedScaffold.Token.Scan

/-!
# How far reading goes

A token is read from the front of a text, behind blanks and comments.  Here it is shown for each
kind of token at which character reading it stops, and for blanks and comments that they are
skipped alike wherever they stand and whatever follows them.
-/

namespace EmbedScaffold

open Text

/-! ## Blanks and word characters -/

namespace Text

/-- The blank characters beyond ASCII, as inclusive ranges. -/
def blankRanges : List (Nat × Nat) :=
  [(0x85, 0x85), (0xA0, 0xA0), (0x1680, 0x1680), (0x2000, 0x200A), (0x2028, 0x2029),
    (0x202F, 0x202F), (0x205F, 0x205F), (0x3000, 0x3000)]

private theorem exists_blankRange {tested : Char} (blank : isBlank tested = true)
    (beyond : 128 ≤ tested.toNat) :
    ∃ range ∈ blankRanges, range.1 ≤ tested.toNat ∧ tested.toNat ≤ range.2 := by
  simp only [isBlank, Bool.or_eq_true, Bool.and_eq_true, decide_eq_true_eq, beq_iff_eq] at blank
  simp only [blankRanges, List.mem_cons, List.not_mem_nil, or_false, exists_eq_or_imp,
    exists_eq_left]
  omega

/-- No range of word characters meets a range of blanks. -/
private theorem wordRanges_apart :
    (wordRanges.all fun word =>
      blankRanges.all fun blank => word.2 < blank.1 || blank.2 < word.1) = true := by
  decide +kernel

theorem isWordChar_of_isBlank {tested : Char} (blank : isBlank tested = true) :
    isWordChar tested = false := by
  have notUnderscore : tested ≠ '_' := ne_of_isBlank blank rfl
  have notDollar : tested ≠ '$' := ne_of_isBlank blank rfl
  have notAscii : tested.isAlphanum = false := by
    rw [Bool.eq_false_iff]
    intro alphanumeric
    rw [isBlank_of_isAlphanum alphanumeric] at blank
    cases blank
  have notLetter :
      (decide (128 ≤ tested.toNat) && inRanges wordRanges tested.toNat) = false := by
    by_cases beyond : 128 ≤ tested.toNat
    · obtain ⟨range, member, low, high⟩ := exists_blankRange blank beyond
      rw [Bool.and_eq_false_iff]
      refine Or.inr ?_
      rw [inRanges, List.any_eq_false]
      intro word wordMember
      have apart := List.all_eq_true.mp
        (List.all_eq_true.mp wordRanges_apart word wordMember) range member
      simp only [Bool.or_eq_true, decide_eq_true_eq] at apart
      simp only [Bool.and_eq_true, decide_eq_true_eq]
      omega
    · simp [beyond]
  rw [isWordChar, isAlphanumeric, notAscii, notLetter, beq_eq_false_iff_ne.mpr notUnderscore,
    beq_eq_false_iff_ne.mpr notDollar]
  rfl

theorem isBlank_of_isWordChar {tested : Char} (isWord : isWordChar tested = true) :
    isBlank tested = false := by
  rw [Bool.eq_false_iff]
  intro blank
  rw [isWordChar_of_isBlank blank] at isWord
  exact Bool.noConfusion isWord

/-- A character that is not blank, with word characters behind it, ends in no blank. -/
theorem exists_solid_last {first : Char} {letters : Text} (solid : isBlank first = false)
    (areWords : ∀ letter ∈ letters, isWordChar letter = true) :
    ∃ body last, isBlank last = false ∧ first :: letters = body ++ [last] := by
  induction letters generalizing first with
  | nil => exact ⟨[], first, solid, rfl⟩
  | cons next others inductionHypothesis =>
      obtain ⟨body, last, lastSolid, shape⟩ := inductionHypothesis
        (isBlank_of_isWordChar (areWords next List.mem_cons_self))
        fun letter member => areWords letter (List.mem_cons_of_mem _ member)
      exact ⟨first :: body, last, lastSolid, by rw [shape]; rfl⟩

end Text

namespace Scan

/-! ## How far reading goes -/

/-- The place `found` lies in `content`, right behind a character of a class. -/
def ReadTo (ends : Char → Prop) (offset : Nat) (content : Text) (found : Cursor) : Prop :=
  ∃ body last, ends last ∧ content = body ++ last :: found.rest ∧
    found.offset = offset + body.length + 1

/-- A character that is no blank. -/
def Solid (tested : Char) : Prop :=
  isBlank tested = false

theorem ReadTo.append {ends : Char → Prop} (front : Text) {offset : Nat} {content : Text}
    {found : Cursor} (reached : ReadTo ends (offset + front.length) content found) :
    ReadTo ends offset (front ++ content) found := by
  obtain ⟨body, last, final, shape, place⟩ := reached
  refine ⟨front ++ body, last, final, by rw [shape, List.append_assoc], ?_⟩
  rw [place, List.length_append]
  omega

theorem ReadTo.last {ends : Char → Prop} {offset : Nat} {rest : Text} {last : Char}
    (final : ends last) : ReadTo ends offset (last :: rest) ⟨offset + 1, rest⟩ :=
  ⟨[], last, final, rfl, rfl⟩

theorem ReadTo.mono {ends others : Char → Prop} {offset : Nat} {content : Text} {found : Cursor}
    (weaker : ∀ tested, ends tested → others tested) (reached : ReadTo ends offset content found) :
    ReadTo others offset content found := by
  obtain ⟨body, last, final, shape, place⟩ := reached
  exact ⟨body, last, weaker last final, shape, place⟩

theorem ReadTo.trans {ends others : Char → Prop} {offset : Nat} {content : Text}
    {found later : Cursor} (reached : ReadTo ends offset content found)
    (further : ReadTo others found.offset found.rest later) :
    ReadTo others offset content later := by
  obtain ⟨body, last, _, shape, place⟩ := reached
  have front : content = (body ++ [last]) ++ found.rest := by rw [shape]; simp
  rw [front]
  apply ReadTo.append
  rwa [List.length_append, List.length_singleton, ← Nat.add_assoc, ← place]

theorem stringEnd_readTo {quote : Char} (solid : isBlank quote = false) {offset : Nat}
    {content : Text} {found : Cursor} (closed : stringEnd quote offset content = some found) :
    ReadTo Solid offset content found := by
  fun_induction stringEnd quote offset content with
  | case1 => exact absurd closed (by simp)
  | case2 => exact absurd closed (by simp)
  | case3 offset escaped rest inductionHypothesis =>
      exact ReadTo.append ['\\', escaped] (inductionHypothesis closed)
  | case4 offset rest =>
      cases closed
      exact ReadTo.last solid
  | case5 => exact absurd closed (by simp)
  | case6 offset first rest _ _ _ _ inductionHypothesis =>
      exact ReadTo.append [first] (inductionHypothesis closed)

theorem wordEnd_shape (offset : Nat) (content : Text) :
    ∃ body, (∀ letter ∈ body, isWordChar letter = true) ∧
      content = body ++ (wordEnd offset content).rest ∧
      (wordEnd offset content).offset = offset + body.length := by
  fun_induction wordEnd offset content with
  | case1 => exact ⟨[], by simp, rfl, rfl⟩
  | case2 offset first rest isWord inductionHypothesis =>
      obtain ⟨body, areWords, shape, place⟩ := inductionHypothesis
      refine ⟨first :: body, ?_, congrArg (first :: ·) shape, ?_⟩
      · intro letter member
        rcases List.mem_cons.mp member with equal | later
        · exact equal ▸ isWord
        · exact areWords letter later
      · simp only [List.length_cons]
        omega
  | case3 => exact ⟨[], by simp, rfl, rfl⟩

theorem wordEnd_stops (offset : Nat) (content : Text) :
    ∀ next ∈ (wordEnd offset content).rest.head?, isWordChar next = false := by
  fun_induction wordEnd offset content with
  | case1 => simp
  | case2 offset first rest _ inductionHypothesis => exact inductionHypothesis
  | case3 offset first rest notWord =>
      intro next member
      cases member
      exact Bool.eq_false_iff.mpr notWord

/-- The letters in front of a text, which is no word behind them. -/
theorem exists_letters (content : Text) :
    ∃ letters behind, content = letters ++ behind ∧
      (∀ letter ∈ letters, isWordChar letter = true) ∧
      ∀ next ∈ behind.head?, isWordChar next = false := by
  obtain ⟨letters, areWords, shape, -⟩ := wordEnd_shape 0 content
  exact ⟨letters, _, shape, areWords, wordEnd_stops 0 content⟩

theorem wordEnd_of_stops (offset : Nat) {after : Text}
    (stops : ∀ next ∈ after.head?, isWordChar next = false) :
    wordEnd offset after = ⟨offset, after⟩ := by
  cases after with
  | nil => rfl
  | cons next others => simp [wordEnd, stops next rfl]

theorem wordEnd_append (offset : Nat) {body after : Text}
    (areWords : ∀ letter ∈ body, isWordChar letter = true)
    (stops : ∀ next ∈ after.head?, isWordChar next = false) :
    wordEnd offset (body ++ after) = ⟨offset + body.length, after⟩ := by
  induction body generalizing offset with
  | nil => exact wordEnd_of_stops offset stops
  | cons first rest inductionHypothesis =>
      rw [List.cons_append, wordEnd, if_pos (areWords first List.mem_cons_self),
        inductionHypothesis _ fun letter member => areWords letter (List.mem_cons_of_mem _ member)]
      simp only [List.length_cons, Nat.add_assoc, Nat.add_comm 1]

theorem wordEnd_readTo {first : Char} (solid : isBlank first = false) (offset : Nat)
    (rest : Text) : ReadTo Solid offset (first :: rest) (wordEnd (offset + 1) rest) := by
  obtain ⟨letters, areWords, shape, place⟩ := wordEnd_shape (offset + 1) rest
  obtain ⟨body, last, lastSolid, run⟩ := exists_solid_last solid areWords
  have lengths := congrArg List.length run
  rw [List.length_append, List.length_cons, List.length_singleton] at lengths
  refine ⟨body, last, lastSolid, ?_, by rw [place]; omega⟩
  conv => lhs; rw [shape, ← List.cons_append, run]
  rw [List.append_assoc, List.singleton_append]

theorem regexEnd_readTo {inClass : Bool} {offset : Nat} {content : Text} {found : Cursor}
    (closed : regexEnd inClass offset content = some found) :
    ReadTo Solid offset content found := by
  fun_induction regexEnd inClass offset content with
  | case1 => exact absurd closed (by simp)
  | case2 => exact absurd closed (by simp)
  | case3 inClass offset escaped rest inductionHypothesis =>
      exact ReadTo.append ['\\', escaped] (inductionHypothesis closed)
  | case4 => exact absurd closed (by simp)
  | case5 inClass offset rest _ _ _ inductionHypothesis =>
      exact ReadTo.append ['['] (inductionHypothesis closed)
  | case6 inClass offset rest _ _ _ _ inductionHypothesis =>
      exact ReadTo.append [']'] (inductionHypothesis closed)
  | case7 inClass offset first rest _ _ _ _ _ closes =>
      cases closed
      have slash : first = '/' := by simpa using (Bool.and_eq_true_iff.mp closes).1
      subst slash
      exact wordEnd_readTo rfl offset rest
  | case8 inClass offset first rest _ _ _ _ _ _ inductionHypothesis =>
      exact ReadTo.append [first] (inductionHypothesis closed)

theorem regexEnd_stops {inClass : Bool} {offset : Nat} {content : Text} {found : Cursor}
    (closed : regexEnd inClass offset content = some found) :
    ∀ next ∈ found.rest.head?, isWordChar next = false := by
  fun_induction regexEnd inClass offset content with
  | case1 => exact absurd closed (by simp)
  | case2 => exact absurd closed (by simp)
  | case3 _ _ _ _ inductionHypothesis => exact inductionHypothesis closed
  | case4 => exact absurd closed (by simp)
  | case5 _ _ _ _ _ _ inductionHypothesis => exact inductionHypothesis closed
  | case6 _ _ _ _ _ _ _ inductionHypothesis => exact inductionHypothesis closed
  | case7 inClass offset first rest =>
      cases closed
      exact wordEnd_stops (offset + 1) rest
  | case8 _ _ _ _ _ _ _ _ _ _ inductionHypothesis => exact inductionHypothesis closed

/-! ## Blanks and comments -/

/-- Text that is skipped before any token, whatever stands behind it. -/
def Trivia (gap : Text) : Prop :=
  ∀ offset after, skipTrivia offset (gap ++ after) = skipTrivia (offset + gap.length) after

/-- A text that nothing is skipped of. -/
def Begins (content : Text) : Prop :=
  ∀ offset, skipTrivia offset content = .ok ⟨offset, content⟩

/-- Text behind the last token of a document: blanks and comments, of which the last one may be
a line comment without its line feed. -/
def Trailing (gap : Text) : Prop :=
  ∀ offset, skipTrivia offset gap = .ok ⟨offset + gap.length, []⟩

theorem skipTrivia_nil (offset : Nat) : skipTrivia offset [] = .ok ⟨offset, []⟩ := by
  rw [skipTrivia.eq_def]

theorem skipTrivia_cons {first : Char} {rest : Text}
    (notLine : ∀ more, first = '/' → rest = '/' :: more → False)
    (notBlock : ∀ more, first = '/' → rest = '*' :: more → False) (offset : Nat) :
    skipTrivia offset (first :: rest) =
      if isBlank first then skipTrivia (offset + 1) rest else .ok ⟨offset, first :: rest⟩ := by
  -- The equations for the single cases take long to derive, so the definition is unfolded whole.
  rw [skipTrivia.eq_def]
  split
  · next empty => cases empty
  · next line => exact (notLine _ (List.cons.inj line).1 (List.cons.inj line).2).elim
  · next block => exact (notBlock _ (List.cons.inj block).1 (List.cons.inj block).2).elim
  · next same =>
      obtain ⟨rfl, rfl⟩ := List.cons.inj same
      rfl

theorem skipTrivia_blank {first : Char} (blank : isBlank first = true) (offset : Nat)
    (rest : Text) : skipTrivia offset (first :: rest) = skipTrivia (offset + 1) rest := by
  have notSlash : first ≠ '/' := ne_of_isBlank blank rfl
  rw [skipTrivia_cons (fun _ slash => absurd slash notSlash) (fun _ slash => absurd slash notSlash),
    if_pos blank]

theorem skipTrivia_lineComment (offset : Nat) (rest : Text) :
    skipTrivia offset ('/' :: '/' :: rest) =
      skipTrivia (lineCommentEnd (offset + 2) rest).offset
        (lineCommentEnd (offset + 2) rest).rest := by
  rw [skipTrivia.eq_def]
  split
  · next empty => cases empty
  · next line =>
      cases line
      rfl
  · next block => simp at block
  · next notLine _ same =>
      cases same
      exact (notLine _ rfl rfl).elim

private theorem skipTrivia_block (offset : Nat) (rest : Text) :
    skipTrivia offset ('/' :: '*' :: rest) =
      match commentEnd (offset + 2) rest with
      | none => .error (.unterminatedComment offset)
      | some ended => skipTrivia ended.offset ended.rest := by
  rw [skipTrivia.eq_def]
  split
  · next empty => cases empty
  · next line => simp at line
  · next block =>
      cases block
      split
      · next missing => rw [missing]
      · next found => rw [found]
  · next _ notBlock same =>
      cases same
      exact (notBlock _ rfl rfl).elim

theorem skipTrivia_blockComment (offset : Nat) {rest : Text} {ended : Cursor}
    (closed : commentEnd (offset + 2) rest = some ended) :
    skipTrivia offset ('/' :: '*' :: rest) = skipTrivia ended.offset ended.rest := by
  rw [skipTrivia_block, closed]

theorem begins_cons {first : Char} {rest : Text} (solid : isBlank first = false)
    (noComment : first = '/' → ∀ next ∈ rest.head?, next ≠ '/' ∧ next ≠ '*') :
    Begins (first :: rest) := by
  intro offset
  have notLine : ∀ more, first = '/' → rest = '/' :: more → False := by
    rintro more rfl rfl
    exact (noComment rfl '/' rfl).1 rfl
  have notBlock : ∀ more, first = '/' → rest = '*' :: more → False := by
    rintro more rfl rfl
    exact (noComment rfl '*' rfl).2 rfl
  rw [skipTrivia_cons notLine notBlock, if_neg (by simp [solid])]

theorem lineCommentEnd_append (offset : Nat) {body : Text} (after : Text)
    (sameLine : '\n' ∉ body) :
    lineCommentEnd offset (body ++ '\n' :: after) =
      ⟨offset + body.length, '\n' :: after⟩ := by
  induction body generalizing offset with
  | nil => rfl
  | cons first rest inductionHypothesis =>
      rw [List.mem_cons, not_or] at sameLine
      obtain ⟨notFeed, restSameLine⟩ := sameLine
      rw [List.cons_append, lineCommentEnd, if_neg (Ne.symm notFeed),
        inductionHypothesis _ restSameLine]
      simp only [List.length_cons, Nat.add_assoc, Nat.add_comm 1]

theorem lineCommentEnd_of_notMem (offset : Nat) {body : Text} (sameLine : '\n' ∉ body) :
    lineCommentEnd offset body = ⟨offset + body.length, []⟩ := by
  induction body generalizing offset with
  | nil => rfl
  | cons first rest inductionHypothesis =>
      rw [List.mem_cons, not_or] at sameLine
      obtain ⟨notFeed, restSameLine⟩ := sameLine
      rw [lineCommentEnd, if_neg (Ne.symm notFeed), inductionHypothesis _ restSameLine]
      simp only [List.length_cons, Nat.add_assoc, Nat.add_comm 1]

/-- A text has a line feed behind a stretch without one, or it has none. -/
theorem exists_first_feed (content : Text) :
    '\n' ∉ content ∨ ∃ body after, '\n' ∉ body ∧ content = body ++ '\n' :: after := by
  by_cases member : '\n' ∈ content
  · obtain ⟨body, after, shape, absent⟩ := List.eq_append_cons_of_mem member
    exact Or.inr ⟨body, after, absent, shape⟩
  · exact Or.inl member

theorem commentEnd_shape {offset : Nat} {content : Text} {found : Cursor}
    (closed : commentEnd offset content = some found) :
    ∃ body, content = body ++ '*' :: '/' :: found.rest ∧
      ∀ start after, commentEnd start (body ++ '*' :: '/' :: after) =
        some ⟨start + body.length + 2, after⟩ := by
  fun_induction commentEnd offset content with
  | case1 => exact absurd closed (by simp)
  | case2 offset rest =>
      cases closed
      exact ⟨[], rfl, fun _ _ => rfl⟩
  | case3 offset first rest notClosing inductionHypothesis =>
      obtain ⟨body, shape, again⟩ := inductionHypothesis closed
      refine ⟨first :: body, by rw [shape]; rfl, ?_⟩
      intro start after
      rw [List.cons_append, commentEnd, again]
      · simp only [List.length_cons, Nat.add_assoc, Nat.add_comm 1]
      · rintro others rfl closing
        cases body with
        | nil => exact absurd (List.cons.inj closing).1 (by decide)
        | cons next more =>
            obtain ⟨rfl, _⟩ := List.cons.inj closing
            exact notClosing _ rfl shape

namespace Trivia

theorem nil : Trivia [] :=
  fun _ _ => rfl

theorem append {left right : Text} (leftTrivia : Trivia left) (rightTrivia : Trivia right) :
    Trivia (left ++ right) := by
  intro offset after
  rw [List.append_assoc, leftTrivia, rightTrivia, List.length_append, Nat.add_assoc]

theorem cons {first : Char} {rest : Text} (blank : isBlank first = true)
    (restTrivia : Trivia rest) : Trivia (first :: rest) := by
  intro offset after
  rw [List.cons_append, skipTrivia_blank blank, restTrivia, List.length_cons, Nat.add_assoc,
    Nat.add_comm 1]

theorem ofBlank {gap : Text} (blank : isBlankText gap = true) : Trivia gap := by
  induction gap with
  | nil => exact nil
  | cons first rest inductionHypothesis =>
      obtain ⟨firstBlank, restBlank⟩ : isBlank first = true ∧ isBlankText rest = true := by
        simpa [isBlankText] using blank
      exact cons firstBlank (inductionHypothesis restBlank)

/-- A line comment is skipped together with trivia that begins with its line feed. -/
theorem lineComment {body gap : Text} (sameLine : '\n' ∉ body) (skipped : Trivia ('\n' :: gap)) :
    Trivia ('/' :: '/' :: body ++ '\n' :: gap) := by
  intro offset after
  have ended := lineCommentEnd_append (offset + 2) (gap ++ after) sameLine
  have more := skipped (offset + 2 + body.length) after
  simp only [List.cons_append, List.append_assoc, List.length_cons, List.length_append] at more ⊢
  rw [skipTrivia_lineComment, ended, more]
  congr 1
  omega

theorem blockComment {body gap : Text}
    (ended : ∀ start after, commentEnd start (body ++ '*' :: '/' :: after) =
      some ⟨start + body.length + 2, after⟩)
    (skipped : Trivia gap) : Trivia ('/' :: '*' :: body ++ '*' :: '/' :: gap) := by
  intro start after
  have whole := skipTrivia_blockComment start (ended (start + 2) (gap ++ after))
  simp only [List.cons_append, List.append_assoc, List.length_cons, List.length_append] at whole ⊢
  rw [whole, skipped]
  congr 1
  omega

end Trivia

/-- A slash begins a comment just if a slash or a star stands behind it. -/
theorem noComment {first : Char} {rest : Text}
    (notLine : ∀ more, first = '/' → rest = '/' :: more → False)
    (notBlock : ∀ more, first = '/' → rest = '*' :: more → False) (slash : first = '/') :
    ∀ next ∈ rest.head?, next ≠ '/' ∧ next ≠ '*' := by
  intro next member
  obtain ⟨more, rfl⟩ := List.head?_eq_some_iff.mp member
  exact ⟨fun equal => notLine more slash (by rw [equal]),
    fun equal => notBlock more slash (by rw [equal])⟩

private theorem skipTrivia_gap {offset start : Nat} {content rest : Text} {first : Char}
    (skipped : skipTrivia offset content = .ok ⟨start, first :: rest⟩) :
    ∃ gap, content = gap ++ first :: rest ∧ Trivia gap ∧ isBlank first = false ∧
      (first = '/' → ∀ next ∈ rest.head?, next ≠ '/' ∧ next ≠ '*') := by
  fun_induction skipTrivia offset content with
  | case1 => cases skipped
  | case2 offset content ended inductionHypothesis =>
      obtain ⟨gap, shape, trivia, solid, noComment⟩ := inductionHypothesis skipped
      rcases exists_first_feed content with absent | ⟨body, after, sameLine, parts⟩
      · have finished := lineCommentEnd_of_notMem (offset + 2) absent
        simp only [ended, finished] at shape
        exact absurd shape (by simp)
      · have finished := lineCommentEnd_append (offset + 2) after sameLine
        simp only [ended, parts, finished] at shape
        cases gap with
        | nil =>
            obtain ⟨rfl, _⟩ := List.cons.inj shape
            exact absurd solid (by decide)
        | cons feed more =>
            obtain ⟨rfl, shape⟩ := List.cons.inj shape
            refine ⟨'/' :: '/' :: body ++ '\n' :: more, ?_, Trivia.lineComment sameLine trivia,
              solid, noComment⟩
            rw [parts, shape]
            simp
  | case3 => cases skipped
  | case4 offset content ended closed inductionHypothesis =>
      obtain ⟨gap, shape, trivia, solid, noComment⟩ := inductionHypothesis skipped
      obtain ⟨body, parts, again⟩ := commentEnd_shape closed
      refine ⟨'/' :: '*' :: body ++ '*' :: '/' :: gap, ?_, Trivia.blockComment again trivia,
        solid, noComment⟩
      rw [parts, shape]
      simp
  | case5 offset next others _ _ blank inductionHypothesis =>
      obtain ⟨gap, shape, trivia, solid, noComment⟩ := inductionHypothesis skipped
      exact ⟨next :: gap, by rw [shape]; rfl, trivia.cons blank, solid, noComment⟩
  | case6 offset next others notLine notBlock solid =>
      cases skipped
      exact ⟨[], rfl, Trivia.nil, Bool.eq_false_iff.mpr solid, noComment notLine notBlock⟩

/-- Skipping stops at a place where nothing is skipped, and what was skipped is trivia. -/
theorem skipTrivia_shape {offset start : Nat} {content rest : Text} {first : Char}
    (skipped : skipTrivia offset content = .ok ⟨start, first :: rest⟩) :
    ∃ gap, content = gap ++ first :: rest ∧ start = offset + gap.length ∧ Trivia gap ∧
      isBlank first = false ∧ (first = '/' → ∀ next ∈ rest.head?, next ≠ '/' ∧ next ≠ '*') := by
  obtain ⟨gap, shape, trivia, solid, noComment⟩ := skipTrivia_gap skipped
  rw [shape, trivia, begins_cons solid noComment] at skipped
  cases skipped
  exact ⟨gap, shape, rfl, trivia, solid, noComment⟩

theorem skipTrivia_trailing {offset stop : Nat} {content : Text}
    (skipped : skipTrivia offset content = .ok ⟨stop, []⟩) : Trailing content := by
  fun_induction skipTrivia offset content with
  | case1 offset => exact skipTrivia_nil
  | case2 offset content ended inductionHypothesis =>
      intro start
      rw [skipTrivia_lineComment]
      rcases exists_first_feed content with absent | ⟨body, after, sameLine, parts⟩
      · rw [lineCommentEnd_of_notMem (start + 2) absent, skipTrivia_nil]
        simp only [List.length_cons, Nat.add_assoc, Nat.add_comm 2]
      · have trailing := inductionHypothesis skipped
        have finished := lineCommentEnd_append (offset + 2) after sameLine
        simp only [ended, parts, finished] at trailing
        rw [parts, lineCommentEnd_append (start + 2) after sameLine, trailing]
        simp only [List.length_cons, List.length_append]
        congr 2
        omega
  | case3 => cases skipped
  | case4 offset content ended closed inductionHypothesis =>
      intro start
      obtain ⟨body, parts, again⟩ := commentEnd_shape closed
      rw [parts, skipTrivia_blockComment _ (again (start + 2) ended.rest),
        inductionHypothesis skipped]
      simp only [List.length_cons, List.length_append]
      congr 2
      omega
  | case5 offset next others _ _ blank inductionHypothesis =>
      intro start
      rw [skipTrivia_blank blank, inductionHypothesis skipped, List.length_cons]
      congr 2
      omega
  | case6 => cases skipped

namespace Trailing

/-- Trivia may be the end of a document. -/
theorem ofTrivia {gap : Text} (trivia : Trivia gap) : Trailing gap := by
  intro offset
  rw [← List.append_nil gap, trivia, skipTrivia_nil, List.append_nil]

/-- A line feed closes the end of a document, so that more may follow. -/
theorem trivia {gap : Text} (trailing : Trailing gap) : Trivia (gap ++ ['\n']) := by
  have skipped := trailing 0
  generalize 0 + gap.length = stop at skipped
  generalize 0 = offset at skipped
  fun_induction skipTrivia offset gap with
  | case1 => exact Trivia.ofBlank rfl
  | case2 offset rest ended inductionHypothesis =>
      rcases exists_first_feed rest with absent | ⟨body, after, sameLine, parts⟩
      · exact Trivia.lineComment absent (Trivia.ofBlank rfl)
      · have finished := lineCommentEnd_append (offset + 2) after sameLine
        have closed := inductionHypothesis (skipTrivia_trailing skipped) skipped
        simp only [ended, parts, finished] at closed
        have whole := Trivia.lineComment sameLine closed
        rw [parts]
        simpa using whole
  | case3 => cases skipped
  | case4 offset rest ended found inductionHypothesis =>
      obtain ⟨body, parts, again⟩ := commentEnd_shape found
      have whole := Trivia.blockComment again
        (inductionHypothesis (skipTrivia_trailing skipped) skipped)
      rw [parts]
      simpa using whole
  | case5 offset next others _ _ nextBlank inductionHypothesis =>
      exact (inductionHypothesis (skipTrivia_trailing skipped) skipped).cons nextBlank
  | case6 => cases skipped

/-- Blanks hide no end of a comment. -/
private theorem commentEnd_of_append_blank {offset : Nat} {content blanks : Text} {found : Cursor}
    (blank : isBlankText blanks = true)
    (closed : commentEnd offset (content ++ blanks) = some found) :
    (commentEnd offset content).isSome = true := by
  obtain ⟨body, shape, again⟩ := commentEnd_shape closed
  have parts : content ++ blanks = (body ++ ['*', '/']) ++ found.rest := by
    rw [shape, List.append_assoc]
    rfl
  rcases List.append_eq_append_iff.mp parts with ⟨hidden, whole, rest⟩ | ⟨more, whole, rest⟩
  · rcases List.eq_nil_or_concat hidden with rfl | ⟨front, last, rfl⟩
    · have here := again offset []
      rw [List.append_nil] at whole
      rw [← whole, here]
      rfl
    · have lastEqual : last = '/' := by
        have ends := congrArg List.getLast? whole
        simpa using ends.symm
      have lastBlank := List.all_eq_true.mp blank last (by rw [rest]; simp)
      rw [lastEqual] at lastBlank
      exact absurd lastBlank (by decide)
  · rw [whole, List.append_assoc]
    have here := again offset more
    simp only [List.cons_append, List.nil_append] at here ⊢
    rw [here]
    rfl

/-- The end of a document stays one without the blanks at its own end. -/
theorem ofAppend {gap blanks : Text} (blank : isBlankText blanks = true)
    (trailing : Trailing (gap ++ blanks)) : Trailing gap := by
  suffices ended : ∀ offset, ∃ stop, skipTrivia offset gap = .ok ⟨stop, []⟩ by
    obtain ⟨stop, skipped⟩ := ended 0
    exact skipTrivia_trailing skipped
  intro offset
  have skipped := trailing offset
  generalize offset + (gap ++ blanks).length = stop at skipped
  clear trailing
  fun_induction skipTrivia offset gap with
  | case1 offset => exact ⟨offset, rfl⟩
  | case2 offset rest ended inductionHypothesis =>
      rcases exists_first_feed rest with absent | ⟨body, after, sameLine, parts⟩
      · rw [show ended = _ from lineCommentEnd_of_notMem (offset + 2) absent]
        exact ⟨_, skipTrivia_nil _⟩
      · have finished : ended = ⟨offset + 2 + body.length, '\n' :: after⟩ := by
          rw [show ended = lineCommentEnd (offset + 2) rest from rfl, parts,
            lineCommentEnd_append (offset + 2) _ sameLine]
        apply inductionHypothesis
        rw [List.cons_append, List.cons_append, skipTrivia_lineComment, parts, List.append_assoc,
          List.cons_append, lineCommentEnd_append (offset + 2) _ sameLine] at skipped
        rw [finished]
        exact skipped
  | case3 offset rest unclosed =>
      rw [List.cons_append, List.cons_append] at skipped
      cases ended : commentEnd (offset + 2) (rest ++ blanks) with
      | none =>
          rw [skipTrivia_block, ended] at skipped
          cases skipped
      | some found =>
          have closed := commentEnd_of_append_blank blank ended
          rw [unclosed] at closed
          cases closed
  | case4 offset rest ended found inductionHypothesis =>
      apply inductionHypothesis
      obtain ⟨body, parts, again⟩ := commentEnd_shape found
      have here := again (offset + 2) ended.rest
      rw [← parts, found] at here
      rw [List.cons_append, List.cons_append, parts, List.append_assoc, List.cons_append,
        List.cons_append, skipTrivia_blockComment _ (again (offset + 2) (ended.rest ++ blanks))]
        at skipped
      rw [Option.some.inj here]
      exact skipped
  | case5 offset next others _ _ nextBlank inductionHypothesis =>
      rw [List.cons_append, skipTrivia_blank nextBlank] at skipped
      exact inductionHypothesis skipped
  | case6 offset next others notLine notBlock solid =>
      have stops : Begins (next :: (others ++ blanks)) := by
        refine begins_cons (Bool.eq_false_iff.mpr solid) ?_
        intro slash behind member
        cases others with
        | nil =>
            have behindBlank := List.all_eq_true.mp blank behind (List.mem_of_head? member)
            exact ⟨ne_of_isBlank behindBlank rfl, ne_of_isBlank behindBlank rfl⟩
        | cons following more => exact noComment notLine notBlock slash behind member
      rw [List.cons_append, stops] at skipped
      cases skipped

end Trailing

/-! ## Whole tokens -/

theorem plainToken_readTo {regexAllowed : Bool} {offset : Nat} {first : Char} {rest : Text}
    {kind : TokenKind} {found : Cursor} (solid : isBlank first = false)
    (read : plainToken regexAllowed offset first rest = .ok (kind, found)) :
    ReadTo Solid offset (first :: rest) found := by
  unfold plainToken at read
  split at read
  · next quote =>
      split at read
      · next ended closed =>
          cases read
          exact ReadTo.append [first] (stringEnd_readTo solid closed)
      · cases read
  · split at read
    · split at read
      · next ended closed =>
          cases read
          exact ReadTo.append [first] (regexEnd_readTo closed)
      · cases read
    · split at read
      · next spread =>
          cases read
          obtain ⟨point, dots⟩ := Bool.and_eq_true_iff.mp spread
          obtain ⟨more, shape⟩ := List.isPrefixOf_iff_prefix.mp dots
          subst shape
          exact ReadTo.append [first, '.'] (ReadTo.last (show Solid '.' from rfl))
      · split at read
        · cases read
          exact wordEnd_readTo solid offset rest
        · cases read
          exact ReadTo.last solid

theorem templateEnd_readTo {opened : Nat} {outer : List EnclosingTemplate} {mode : TemplateMode}
    {offset : Nat} {content : Text} {found : Cursor}
    (closed : templateEnd opened outer mode offset content = .ok found) :
    ReadTo (· = '`') offset content found := by
  fun_induction templateEnd opened outer mode offset content with
  | case1 => cases closed
  | case2 => cases closed
  | case3 _ _ offset escaped rest inductionHypothesis =>
      exact ReadTo.append ['\\', escaped] (inductionHypothesis closed)
  | case4 _ _ offset rest inductionHypothesis =>
      exact ReadTo.append ['$', '\x7b'] (inductionHypothesis closed)
  | case5 =>
      cases closed
      exact ReadTo.last rfl
  | case6 _ _ _ _ _ _ _ _ inductionHypothesis =>
      exact ReadTo.append ['`'] (inductionHypothesis closed)
  | case7 _ _ _ first _ _ _ _ _ inductionHypothesis =>
      exact ReadTo.append [first] (inductionHypothesis closed)
  | case8 => cases closed
  | case9 => cases closed
  | case10 _ _ _ _ _ _ _ _ _ _ skipped inductionHypothesis =>
      obtain ⟨gap, shape, place, _⟩ := skipTrivia_shape skipped
      rw [shape]
      apply ReadTo.append
      rw [← place]
      exact ReadTo.append ['`'] (inductionHypothesis closed)
  | case11 => cases closed
  | case12 => cases closed
  | case13 _ _ _ _ _ _ _ _ _ _ skipped _ _ _ read _ _ inductionHypothesis =>
      obtain ⟨gap, shape, place, _, solid, _⟩ := skipTrivia_shape skipped
      rw [shape]
      apply ReadTo.append
      rw [← place]
      exact (plainToken_readTo solid read).trans (inductionHypothesis closed)
  | case14 _ _ _ _ _ _ _ _ _ _ skipped _ _ _ read _ _ _ inductionHypothesis =>
      obtain ⟨gap, shape, place, _, solid, _⟩ := skipTrivia_shape skipped
      rw [shape]
      apply ReadTo.append
      rw [← place]
      exact (plainToken_readTo solid read).trans (inductionHypothesis closed)

theorem nextToken_readTo {regexAllowed : Bool} {offset : Nat} {first : Char} {rest : Text}
    {kind : TokenKind} {found : Cursor} (solid : isBlank first = false)
    (read : nextToken regexAllowed offset first rest = .ok (kind, found)) :
    ReadTo Solid offset (first :: rest) found := by
  unfold nextToken at read
  split at read
  · next backtick =>
      obtain ⟨ended, closed, same⟩ := exists_of_map read
      cases same
      refine ReadTo.append [first] ((templateEnd_readTo closed).mono ?_)
      rintro tested rfl
      exact rfl
  · exact plainToken_readTo solid read

end Scan

end EmbedScaffold
