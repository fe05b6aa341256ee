import EmbedScaffold.Proofs.Text.Realigned
import EmbedScaffold.Proofs.Token.Kindred
import EmbedScaffold.Proofs.Token.Reading

/-!
# Reading realigned texts

Two texts that agree down to their tails, up to blanks in their margins, are read alike: what is
read of one of them is realigned to what is read of the other.  So a token depends neither on the
text behind it nor on the margins inside it.
-/

namespace EmbedScaffold.Scan

open Text

variable {before after source target : Text} {margin : Bool}

/-- A scan that steps over every character of a margin steps over the margin. -/
theorem scan_margin {Found : Type} (scan : Nat → Text → Found)
    (step : ∀ first, isBlank first = true → first ≠ '\n' → ∀ offset rest,
      scan offset (first :: rest) = scan (offset + 1) rest)
    (offset : Nat) {blanks : Text} (areBlank : ∀ blank ∈ blanks, isMargin blank = true)
    (rest : Text) : scan offset (blanks ++ rest) = scan (offset + blanks.length) rest := by
  induction blanks generalizing offset with
  | nil => rfl
  | cons first others inductionHypothesis =>
      obtain ⟨blank, notFeed⟩ := (isMargin_iff first).mp (areBlank first List.mem_cons_self)
      rw [List.cons_append, step first blank notFeed,
        inductionHypothesis _ fun tested member => areBlank tested (List.mem_cons_of_mem _ member),
        List.length_cons, Nat.add_assoc, Nat.add_comm 1]

/-! ## Strings, words and regular expressions -/

private theorem ne_backslash {first : Char} {rest : Text}
    (notLast : first = '\\' → rest = [] → False)
    (notEscape : ∀ next others, first = '\\' → rest = next :: others → False) :
    first ≠ '\\' := by
  intro backslash
  cases rest with
  | nil => exact notLast backslash rfl
  | cons next others => exact notEscape next others backslash rfl

theorem stringEnd_cons {first : Char} (notEscape : first ≠ '\\') (quote : Char) (offset : Nat)
    (rest : Text) :
    stringEnd quote offset (first :: rest) =
      if first = quote then some ⟨offset + 1, rest⟩
      else if first = '\n' then none
      else stringEnd quote (offset + 1) rest := by
  rw [stringEnd]
  · exact fun escape => absurd escape notEscape
  · exact fun _ _ escape => absurd escape notEscape

theorem stringEnd_margin {quote : Char} (solid : isBlank quote = false) (offset : Nat)
    {blanks : Text} (areBlank : ∀ blank ∈ blanks, isMargin blank = true) (rest : Text) :
    stringEnd quote offset (blanks ++ rest) = stringEnd quote (offset + blanks.length) rest := by
  refine scan_margin (stringEnd quote) ?_ offset areBlank rest
  intro first blank notFeed place others
  rw [stringEnd_cons (ne_of_isBlank blank rfl), if_neg (ne_of_isBlank blank solid),
    if_neg notFeed]

theorem stringEnd_realigned {quote : Char} (solid : isBlank quote = false)
    {offset : Nat} {found : Cursor}
    (related : Realigned before after margin source target)
    (closed : stringEnd quote offset source = some found)
    (kept : before.length ≤ found.rest.length) (start : Nat) :
    ∃ other, stringEnd quote start target = some other ∧
      Realigned before after false found.rest other.rest := by
  fun_induction stringEnd quote offset source generalizing margin target start with
  | case1 => cases closed
  | case2 => cases closed
  | case3 offset escaped rest inductionHypothesis =>
      have shorter := stringEnd_length closed
      obtain ⟨blanks, others, areBlank, shape, behind⟩ := related.pair_cases (by omega) rfl
      rw [shape, stringEnd_margin solid start areBlank, stringEnd]
      exact inductionHypothesis behind closed _
  | case4 offset rest notLast notEscape =>
      cases closed
      obtain ⟨blanks, others, areBlank, shape, behind⟩ := related.solid_cases kept solid
      refine ⟨⟨start + blanks.length + 1, others⟩, ?_, behind⟩
      rw [shape, stringEnd_margin solid start areBlank,
        stringEnd_cons (ne_backslash notLast notEscape), if_pos rfl]
  | case5 => cases closed
  | case6 offset first rest notLast notEscape notQuote notFeed inductionHypothesis =>
      have shorter := stringEnd_length closed
      rcases related.cons_cases (by omega) with
        ⟨blanks, others, areBlank, shape, behind⟩ | ⟨_, behind⟩
      · rw [shape, stringEnd_margin solid start areBlank,
          stringEnd_cons (ne_backslash notLast notEscape), if_neg notQuote, if_neg notFeed]
        exact inductionHypothesis behind closed _
      · exact inductionHypothesis behind closed start

/-- A word goes on alike in both texts unless it reaches the tails. -/
theorem wordEnd_realigned (related : Realigned before after false source target)
    (offset start : Nat) (kept : before.length ≤ (wordEnd offset source).rest.length)
    (stops : ∀ next ∈ after.head?, isWordChar next = false) :
    ∃ body, source = body ++ (wordEnd offset source).rest ∧
      target = body ++ (wordEnd start target).rest ∧
      Realigned before after false (wordEnd offset source).rest (wordEnd start target).rest := by
  induction source generalizing target offset start with
  | nil =>
      obtain ⟨rfl, rfl⟩ := related.eq_of_length (by
        simp only [wordEnd, List.length_nil] at kept ⊢
        omega)
      rw [wordEnd_of_stops start stops]
      exact ⟨[], rfl, rfl, .tail false⟩
  | cons first rest inductionHypothesis =>
      by_cases reached : (first :: rest).length = before.length
      · obtain ⟨same, rfl⟩ := related.eq_of_length reached
        obtain ⟨body, _, shape, _⟩ := wordEnd_shape offset (first :: rest)
        have lengths := congrArg List.length shape
        rw [List.length_append] at lengths
        have empty : body = [] := List.eq_nil_of_length_eq_zero (by omega)
        rw [empty, List.nil_append] at shape
        rw [wordEnd_of_stops start stops, ← shape]
        exact ⟨[], rfl, rfl, same ▸ .tail false⟩
      · have longer : before.length ≤ rest.length := by
          have bound := related.length_le.1
          simp only [List.length_cons] at bound reached
          omega
        obtain ⟨others, rfl, behind⟩ := related.cons_inv longer
        by_cases isWord : isWordChar first = true
        · rw [isLineFeed_of_solid (isBlank_of_isWordChar isWord)] at behind
          rw [wordEnd, if_pos isWord] at kept ⊢
          rw [wordEnd, if_pos isWord]
          obtain ⟨body, shape, otherShape, restRelated⟩ :=
            inductionHypothesis behind (offset + 1) (start + 1) kept
          exact ⟨first :: body, congrArg (first :: ·) shape, congrArg (first :: ·) otherShape,
            restRelated⟩
        · rw [wordEnd, if_neg isWord, wordEnd, if_neg isWord]
          exact ⟨[], rfl, rfl, related⟩

theorem regexEnd_cons {first : Char} (notEscape : first ≠ '\\') (inClass : Bool) (offset : Nat)
    (rest : Text) :
    regexEnd inClass offset (first :: rest) =
      if first = '\n' then none
      else if first = '[' then regexEnd true (offset + 1) rest
      else if first = ']' then regexEnd false (offset + 1) rest
      else if first = '/' && ! inClass then some (wordEnd (offset + 1) rest)
      else regexEnd inClass (offset + 1) rest := by
  rw [regexEnd]
  · exact fun escape => absurd escape notEscape
  · exact fun _ _ escape => absurd escape notEscape

theorem regexEnd_margin (inClass : Bool) (offset : Nat)
    {blanks : Text} (areBlank : ∀ blank ∈ blanks, isMargin blank = true) (rest : Text) :
    regexEnd inClass offset (blanks ++ rest) =
      regexEnd inClass (offset + blanks.length) rest := by
  refine scan_margin (regexEnd inClass) ?_ offset areBlank rest
  intro first blank notFeed place others
  have different : first ≠ '/' := ne_of_isBlank blank rfl
  have notSlash : ¬ (decide (first = '/') && ! inClass) = true := by simp [different]
  rw [regexEnd_cons (ne_of_isBlank blank rfl), if_neg notFeed,
    if_neg (ne_of_isBlank blank rfl), if_neg (ne_of_isBlank blank rfl), if_neg notSlash]

theorem regexEnd_realigned {inClass : Bool} {offset : Nat} {found : Cursor}
    (related : Realigned before after margin source target)
    (closed : regexEnd inClass offset source = some found)
    (kept : before.length ≤ found.rest.length)
    (stops : ∀ next ∈ after.head?, isWordChar next = false) (start : Nat) :
    ∃ other, regexEnd inClass start target = some other ∧
      Realigned before after false found.rest other.rest := by
  fun_induction regexEnd inClass offset source generalizing margin target start with
  | case1 => cases closed
  | case2 => cases closed
  | case3 inClass offset escaped rest inductionHypothesis =>
      have shorter := regexEnd_length closed
      obtain ⟨blanks, others, areBlank, shape, behind⟩ := related.pair_cases (by omega) rfl
      rw [shape, regexEnd_margin inClass start areBlank, regexEnd]
      exact inductionHypothesis behind closed _
  | case4 => cases closed
  | case5 inClass offset rest notLast notEscape notFeed inductionHypothesis =>
      have shorter := regexEnd_length closed
      obtain ⟨blanks, others, areBlank, shape, behind⟩ := related.solid_cases (by omega) rfl
      rw [shape, regexEnd_margin inClass start areBlank,
        regexEnd_cons (ne_backslash notLast notEscape), if_neg notFeed, if_pos rfl]
      exact inductionHypothesis behind closed _
  | case6 inClass offset rest notLast notEscape notFeed notClass inductionHypothesis =>
      have shorter := regexEnd_length closed
      obtain ⟨blanks, others, areBlank, shape, behind⟩ := related.solid_cases (by omega) rfl
      rw [shape, regexEnd_margin inClass start areBlank,
        regexEnd_cons (ne_backslash notLast notEscape), if_neg notFeed, if_neg notClass,
        if_pos rfl]
      exact inductionHypothesis behind closed _
  | case7 inClass offset first rest notLast notEscape notFeed notClass notClosing closes =>
      cases closed
      have slash : first = '/' := by simpa using (Bool.and_eq_true_iff.mp closes).1
      have shorter := wordEnd_length (offset + 1) rest
      obtain ⟨blanks, others, areBlank, shape, behind⟩ :=
        related.solid_cases (by omega) (by rw [slash]; rfl)
      obtain ⟨_, _, _, flagsRelated⟩ :=
        wordEnd_realigned behind (offset + 1) (start + blanks.length + 1) kept stops
      refine ⟨wordEnd (start + blanks.length + 1) others, ?_, flagsRelated⟩
      rw [shape, regexEnd_margin inClass start areBlank,
        regexEnd_cons (ne_backslash notLast notEscape), if_neg notFeed, if_neg notClass,
        if_neg notClosing, if_pos closes]
  | case8 inClass offset first rest notLast notEscape notFeed notClass notClosing notSlash
      inductionHypothesis =>
      have shorter := regexEnd_length closed
      rcases related.cons_cases (by omega) with
        ⟨blanks, others, areBlank, shape, behind⟩ | ⟨_, behind⟩
      · rw [shape, regexEnd_margin inClass start areBlank,
          regexEnd_cons (ne_backslash notLast notEscape), if_neg notFeed, if_neg notClass,
          if_neg notClosing, if_neg notSlash]
        exact inductionHypothesis behind closed _
      · exact inductionHypothesis behind closed start

/-! ## Blanks and comments -/

theorem commentEnd_margin (offset : Nat) {blanks : Text}
    (areBlank : ∀ blank ∈ blanks, isMargin blank = true) (rest : Text) :
    commentEnd offset (blanks ++ rest) = commentEnd (offset + blanks.length) rest := by
  refine scan_margin commentEnd ?_ offset areBlank rest
  intro first blank _ place others
  have notStar : first ≠ '*' := ne_of_isBlank blank rfl
  rw [commentEnd]
  exact fun _ star => absurd star notStar

theorem commentEnd_realigned {offset : Nat} {found : Cursor}
    (related : Realigned before after margin source target)
    (closed : commentEnd offset source = some found)
    (kept : before.length ≤ found.rest.length) (start : Nat) :
    ∃ other, commentEnd start target = some other ∧
      Realigned before after false found.rest other.rest := by
  fun_induction commentEnd offset source generalizing margin target start with
  | case1 => cases closed
  | case2 offset rest =>
      cases closed
      obtain ⟨blanks, others, areBlank, shape, behind⟩ := related.pair_cases kept rfl
      refine ⟨⟨start + blanks.length + 2, others⟩, ?_, behind⟩
      rw [shape, commentEnd_margin start areBlank, commentEnd]
  | case3 offset first rest notClosing inductionHypothesis =>
      have shorter := commentEnd_length closed
      rcases related.cons_cases (by omega) with
        ⟨blanks, others, areBlank, shape, behind⟩ | ⟨_, behind⟩
      · rw [shape, commentEnd_margin start areBlank, commentEnd]
        · exact inductionHypothesis behind closed _
        · -- the character behind a star is shared, for the comment goes on behind it
          rintro more rfl rfl
          cases rest with
          | nil => cases closed
          | cons next following =>
              obtain ⟨_, same, _⟩ := behind.cons_inv (by
                simp only [List.length_cons] at shorter
                omega)
              obtain ⟨rfl, _⟩ := List.cons.inj same
              exact notClosing following rfl rfl
      · exact inductionHypothesis behind closed start

theorem lineCommentEnd_margin (offset : Nat) {blanks : Text}
    (areBlank : ∀ blank ∈ blanks, isMargin blank = true) (rest : Text) :
    lineCommentEnd offset (blanks ++ rest) = lineCommentEnd (offset + blanks.length) rest := by
  refine scan_margin lineCommentEnd ?_ offset areBlank rest
  intro first _ notFeed place others
  rw [lineCommentEnd, if_neg notFeed]

theorem lineCommentEnd_realigned (related : Realigned before after margin source target)
    (offset start : Nat) (kept : before.length < (lineCommentEnd offset source).rest.length) :
    Realigned before after false (lineCommentEnd offset source).rest
      (lineCommentEnd start target).rest := by
  fun_induction lineCommentEnd offset source generalizing margin target start with
  | case1 => exact absurd kept (by simp)
  | case2 offset rest =>
      rcases related.cons_cases (Nat.le_of_lt_succ kept) with
        ⟨blanks, others, areBlank, shape, behind⟩ | ⟨isMarginFeed, _⟩
      · rw [shape, lineCommentEnd_margin start areBlank, lineCommentEnd, if_pos rfl]
        exact .char false '\n' behind
      · exact absurd isMarginFeed (by decide)
  | case3 offset first rest notFeed inductionHypothesis =>
      have shorter := lineCommentEnd_length (offset + 1) rest
      rcases related.cons_cases (by omega) with
        ⟨blanks, others, areBlank, shape, behind⟩ | ⟨_, behind⟩
      · rw [shape, lineCommentEnd_margin start areBlank, lineCommentEnd, if_neg notFeed]
        exact inductionHypothesis behind _ kept
      · exact inductionHypothesis behind _ kept

theorem skipTrivia_margin (offset : Nat) {blanks : Text}
    (areBlank : ∀ blank ∈ blanks, isMargin blank = true) (rest : Text) :
    skipTrivia offset (blanks ++ rest) = skipTrivia (offset + blanks.length) rest := by
  exact Trivia.ofBlank (isBlankText_of_isMargin areBlank) offset rest

/-- A slash that begins no comment in one text begins none in the other: the character behind it
is shared, unless the tails begin there. -/
private theorem noComment_realigned {rest others : Text}
    (related : Realigned before after false rest others) (kept : before.length ≤ rest.length)
    (tails : rest.length = before.length → ∀ next ∈ after.head?, next ≠ '/' ∧ next ≠ '*')
    (here : ∀ next ∈ rest.head?, next ≠ '/' ∧ next ≠ '*') :
    ∀ next ∈ others.head?, next ≠ '/' ∧ next ≠ '*' := by
  by_cases reached : rest.length = before.length
  · obtain ⟨_, rfl⟩ := related.eq_of_length reached
    exact tails reached
  · cases rest with
    | nil =>
        simp only [List.length_nil] at kept reached
        omega
    | cons shared more =>
        simp only [List.length_cons] at kept reached
        obtain ⟨_, rfl, _⟩ := related.cons_inv (by omega)
        exact here

/-- Skipping stops before the same character in both texts. -/
theorem skipTrivia_realigned {offset stop : Nat} {first : Char} {rest : Text}
    (related : Realigned before after margin source target)
    (skipped : skipTrivia offset source = .ok ⟨stop, first :: rest⟩)
    (kept : before.length ≤ rest.length)
    (noComment : first = '/' → rest.length = before.length →
      ∀ next ∈ after.head?, next ≠ '/' ∧ next ≠ '*') (start : Nat) :
    ∃ place others, skipTrivia start target = .ok ⟨place, first :: others⟩ ∧
      Realigned before after false rest others := by
  fun_induction skipTrivia offset source generalizing margin target start with
  | case1 => cases skipped
  | case2 offset content ended =>
      rename_i inductionHypothesis
      have shorter := skipTrivia_length skipped
      have within : ended.rest.length ≤ content.length :=
        lineCommentEnd_length (offset + 2) content
      simp only [List.length_cons] at shorter
      obtain ⟨blanks, others, areBlank, shape, behind⟩ := related.pair_cases (by omega) rfl
      rw [shape, skipTrivia_margin start areBlank, skipTrivia_lineComment]
      have longer : before.length < ended.rest.length := by omega
      exact inductionHypothesis (lineCommentEnd_realigned behind _ _ longer) skipped _
  | case3 => cases skipped
  | case4 offset content ended closed inductionHypothesis =>
      have shorter := skipTrivia_length skipped
      have within := commentEnd_length closed
      simp only [List.length_cons] at shorter
      obtain ⟨blanks, others, areBlank, shape, behind⟩ := related.pair_cases (by omega) rfl
      obtain ⟨other, otherClosed, otherRelated⟩ :=
        commentEnd_realigned behind closed (by omega) (start + blanks.length + 2)
      rw [shape, skipTrivia_margin start areBlank,
        skipTrivia_blockComment _ otherClosed]
      exact inductionHypothesis otherRelated skipped _
  | case5 offset next others notLine notBlock blank inductionHypothesis =>
      have shorter := skipTrivia_length skipped
      simp only [List.length_cons] at shorter
      rcases related.cons_cases (by omega) with
        ⟨blanks, more, areBlank, shape, behind⟩ | ⟨_, behind⟩
      · rw [shape, skipTrivia_margin start areBlank, skipTrivia_blank blank]
        exact inductionHypothesis behind skipped _
      · exact inductionHypothesis behind skipped _
  | case6 offset next others notLine notBlock notBlank =>
      cases skipped
      have solid := Bool.eq_false_iff.mpr notBlank
      obtain ⟨blanks, others, areBlank, shape, behind⟩ := related.solid_cases kept solid
      have begins : Begins (first :: others) := begins_cons solid fun slash =>
        noComment_realigned behind kept (noComment slash) (Scan.noComment notLine notBlock slash)
      exact ⟨start + blanks.length, others,
        by rw [shape, skipTrivia_margin start areBlank, begins], behind⟩

/-! ## Whole tokens -/

/-- Whether three points stand in a row is decided alike, unless the tails begin with points. -/
theorem dots_realigned (related : Realigned before after false source target)
    (beforeStops : ∀ next ∈ before.head?, next ≠ '.')
    (afterStops : ∀ next ∈ after.head?, next ≠ '.') :
    ['.', '.'].isPrefixOf source = ['.', '.'].isPrefixOf target := by
  have stopped : ∀ {content : Text}, (∀ next ∈ content.head?, next ≠ '.') →
      ∀ more, ('.' :: more).isPrefixOf content = false := by
    intro content stops more
    cases content with
    | nil => rfl
    | cons next others => simp [List.isPrefixOf, (stops next rfl).symm]
  cases related with
  | tail => rw [stopped beforeStops, stopped afterStops]
  | char _ shared behind =>
      by_cases point : shared = '.'
      · subst point
        cases behind with
        | tail =>
            simp only [List.isPrefixOf, stopped beforeStops, stopped afterStops]
        | char _ next _ => simp [List.isPrefixOf]
      · have different : ('.' == shared) = false := beq_eq_false_iff_ne.mpr (Ne.symm point)
        rw [List.isPrefixOf, List.isPrefixOf, different, Bool.false_and, Bool.false_and]

theorem take_readTo {ends : Char → Prop} {offset : Nat} {content : Text} {found : Cursor}
    (reached : ReadTo ends offset content found) :
    content = content.take (found.offset - offset) ++ found.rest := by
  obtain ⟨body, last, _, shape, place⟩ := reached
  have length : found.offset - offset = (body ++ [last]).length := by
    rw [place, List.length_append, List.length_singleton]
    omega
  have front : content = (body ++ [last]) ++ found.rest := by rw [shape]; simp
  rw [length]
  conv => rhs; rw [front]
  rw [List.take_left]
  exact front

theorem take_of_readTo {ends : Char → Prop} {offset : Nat} {content value : Text} {found : Cursor}
    (reached : ReadTo ends offset content found) (shape : content = value ++ found.rest) :
    content.take (found.offset - offset) = value :=
  List.append_cancel_right ((take_readTo reached).symm.trans shape)

theorem spread_realigned {rest others : Text} (related : Realigned before after false rest others)
    (kept : before.length ≤ (rest.drop 2).length) (prefixed : ['.', '.'].isPrefixOf rest = true) :
    ∃ more, others = '.' :: '.' :: more ∧ Realigned before after false (rest.drop 2) more := by
  obtain ⟨more, rfl⟩ := List.isPrefixOf_iff_prefix.mp prefixed
  have longer : before.length ≤ more.length := kept
  obtain ⟨second, rfl, secondRelated⟩ :=
    related.cons_inv (show before.length ≤ ('.' :: more).length from Nat.le_succ_of_le longer)
  obtain ⟨third, rfl, behind⟩ := secondRelated.cons_inv longer
  exact ⟨third, rfl, behind⟩

/-- Whether a spread begins with `first` is decided alike in both texts. -/
theorem spread_eq {first : Char} {rest others : Text}
    (dots : first = '.' → ['.', '.'].isPrefixOf rest = ['.', '.'].isPrefixOf others) :
    (decide (first = '.') && ['.', '.'].isPrefixOf rest) =
      (decide (first = '.') && ['.', '.'].isPrefixOf others) := by
  by_cases point : first = '.'
  · rw [dots point]
  · rw [decide_eq_false point, Bool.false_and, Bool.false_and]

/-- A word ends alike in both texts, and is the same. -/
theorem word_realigned {first : Char} {rest others : Text} (isWord : isWordChar first = true)
    (related : Realigned before after false rest others) (offset start : Nat)
    (kept : before.length ≤ (wordEnd (offset + 1) rest).rest.length)
    (stops : ∀ next ∈ after.head?, isWordChar next = false) :
    Realigned before after false (wordEnd (offset + 1) rest).rest
        (wordEnd (start + 1) others).rest ∧
      (first :: rest).take ((wordEnd (offset + 1) rest).offset - offset) =
        (first :: others).take ((wordEnd (start + 1) others).offset - start) := by
  obtain ⟨body, shape, otherShape, behind⟩ :=
    wordEnd_realigned related (offset + 1) (start + 1) kept stops
  have solid := isBlank_of_isWordChar isWord
  have here := take_of_readTo (wordEnd_readTo solid offset rest)
    (show first :: rest = (first :: body) ++ _ from congrArg (first :: ·) shape)
  have there := take_of_readTo (wordEnd_readTo solid start others)
    (show first :: others = (first :: body) ++ _ from congrArg (first :: ·) otherShape)
  exact ⟨behind, here.trans there.symm⟩

theorem plainToken_realigned {regexAllowed : Bool} {offset : Nat} {first : Char}
    {rest others : Text} {kind : TokenKind} {found : Cursor}
    (related : Realigned before after false rest others)
    (read : plainToken regexAllowed offset first rest = .ok (kind, found))
    (kept : before.length ≤ found.rest.length)
    (stops : kind = .word ∨ kind = .regex → ∀ next ∈ after.head?, isWordChar next = false)
    (dots : first = '.' → ['.', '.'].isPrefixOf rest = ['.', '.'].isPrefixOf others)
    (start : Nat) :
    ∃ ended, plainToken regexAllowed start first others = .ok (kind, ended) ∧
      Realigned before after false found.rest ended.rest ∧
      Kindred (Token.cut kind (first :: rest) offset found.offset)
        (Token.cut kind (first :: others) start ended.offset) := by
  -- the first character is shared, so both texts take the same branch
  unfold plainToken at read ⊢
  by_cases quote : (decide (first = '\'') || decide (first = '"')) = true
  · rw [if_pos quote] at read ⊢
    have solid : isBlank first = false := by
      rcases Bool.or_eq_true_iff.mp quote with single | double
      · rw [of_decide_eq_true single]; rfl
      · rw [of_decide_eq_true double]; rfl
    cases closed : stringEnd first (offset + 1) rest with
    | none => rw [closed] at read; cases read
    | some ended =>
        rw [closed] at read
        cases read
        obtain ⟨other, otherClosed, behind⟩ :=
          stringEnd_realigned solid related closed kept (start + 1)
        rw [otherClosed]
        exact ⟨other, rfl, behind, rfl, by rintro (plain | plain) <;> cases plain⟩
  · rw [if_neg quote] at read ⊢
    by_cases regex : (decide (first = '/') && regexAllowed) = true
    · rw [if_pos regex] at read ⊢
      cases closed : regexEnd false (offset + 1) rest with
      | none => rw [closed] at read; cases read
      | some ended =>
          rw [closed] at read
          cases read
          obtain ⟨other, otherClosed, behind⟩ :=
            regexEnd_realigned related closed kept (stops (Or.inr rfl)) (start + 1)
          rw [otherClosed]
          exact ⟨other, rfl, behind, rfl, by rintro (plain | plain) <;> cases plain⟩
    · rw [if_neg regex] at read ⊢
      rw [← spread_eq dots]
      by_cases spread : (decide (first = '.') && ['.', '.'].isPrefixOf rest) = true
      · obtain ⟨_, prefixed⟩ := Bool.and_eq_true_iff.mp spread
        rw [if_pos spread] at read ⊢
        cases read
        obtain ⟨more, rfl, behind⟩ := spread_realigned related kept prefixed
        obtain ⟨following, rfl⟩ := List.isPrefixOf_iff_prefix.mp prefixed
        refine ⟨⟨start + 3, more⟩, rfl, behind, rfl, fun _ => ?_⟩
        simp only [Token.cut, Nat.add_sub_cancel_left]
        rfl
      · rw [if_neg spread] at read ⊢
        by_cases isWord : isWordChar first = true
        · rw [if_pos isWord] at read ⊢
          cases read
          obtain ⟨behind, same⟩ :=
            word_realigned isWord related offset start kept (stops (Or.inl rfl))
          exact ⟨_, rfl, behind, rfl, fun _ => same⟩
        · rw [if_neg isWord] at read ⊢
          cases read
          refine ⟨⟨start + 1, others⟩, rfl, related, rfl, fun _ => ?_⟩
          simp only [Token.cut, Nat.add_sub_cancel_left]
          rfl

/-! ## Templates -/

/-- What a template mode says about reading on, apart from where the substitution began. -/
def TemplateMode.bare : TemplateMode → Option (Nat × Bool)
  | .quoted => none
  | .code _ depth regexAllowed => some (depth, regexAllowed)

theorem TemplateMode.eq_quoted {mode : TemplateMode}
    (same : mode.bare = TemplateMode.quoted.bare) : mode = .quoted := by
  cases mode with
  | quoted => rfl
  | code => cases same

theorem TemplateMode.eq_code {mode : TemplateMode} {substitution depth : Nat}
    {regexAllowed : Bool}
    (same : mode.bare = (TemplateMode.code substitution depth regexAllowed).bare) :
    ∃ other, mode = .code other depth regexAllowed := by
  cases mode with
  | quoted => cases same
  | code other _ _ =>
      cases same
      exact ⟨other, rfl⟩

theorem templateEnd_cons {first : Char} {rest : Text} (notEscape : first ≠ '\\')
    (notOpening : ∀ others, first = '$' → rest = '\x7b' :: others → False) (opened : Nat)
    (outer : List EnclosingTemplate) (offset : Nat) :
    templateEnd opened outer .quoted offset (first :: rest) =
      if first = '`' then
        match outer with
        | [] => .ok ⟨offset + 1, rest⟩
        | enclosing :: others =>
            templateEnd enclosing.opened others
              (.code enclosing.substitution enclosing.depth false) (offset + 1) rest
      else templateEnd opened outer .quoted (offset + 1) rest := by
  rw [templateEnd.eq_def]
  dsimp only
  split
  · next empty => cases empty
  · next last => exact absurd (List.cons.inj last).1 notEscape
  · next escape => exact absurd (List.cons.inj escape).1 notEscape
  · next opening => exact (notOpening _ (List.cons.inj opening).1 (List.cons.inj opening).2).elim
  · next same =>
      obtain ⟨rfl, rfl⟩ := List.cons.inj same
      rfl

theorem templateEnd_margin (opened : Nat) (outer : List EnclosingTemplate) (offset : Nat)
    {blanks : Text} (areBlank : ∀ blank ∈ blanks, isMargin blank = true) (rest : Text) :
    templateEnd opened outer .quoted offset (blanks ++ rest) =
      templateEnd opened outer .quoted (offset + blanks.length) rest := by
  refine scan_margin (templateEnd opened outer .quoted) ?_ offset areBlank rest
  intro first blank _ place others
  have notDollar : first ≠ '$' := ne_of_isBlank blank rfl
  rw [templateEnd_cons (ne_of_isBlank blank rfl) (fun _ dollar => absurd dollar notDollar),
    if_neg (ne_of_isBlank blank rfl)]

theorem templateEnd_nested {opened substitution depth offset start : Nat}
    {outer : List EnclosingTemplate} {regexAllowed : Bool} {content rest : Text}
    (skipped : skipTrivia offset content = .ok ⟨start, '`' :: rest⟩)
    (shallow : outer.length < deepestNesting) :
    templateEnd opened outer (.code substitution depth regexAllowed) offset content =
      templateEnd start (⟨opened, substitution, depth⟩ :: outer) .quoted (start + 1) rest := by
  rw [templateEnd]
  split
  · next failed => rw [skipped] at failed; cases failed
  · next ended => rw [skipped] at ended; cases ended
  · next found =>
      rw [skipped] at found
      cases found
      rw [if_pos rfl, if_pos shallow]

/-- The braces open behind a token of a substitution. -/
def depthBehind (token : Token) (depth : Nat) : Nat :=
  if token.isPunct '\x7b' then depth + 1
  else if token.isPunct '\x7d' then depth - 1
  else depth

theorem depthBehind_eq {left right : Token} (kindred : Kindred left right) (depth : Nat) :
    depthBehind left depth = depthBehind right depth := by
  rw [depthBehind, depthBehind, kindred.isPunct, kindred.isPunct]

theorem templateEnd_token {opened substitution depth offset start : Nat}
    {outer : List EnclosingTemplate} {regexAllowed : Bool} {content rest : Text} {first : Char}
    {kind : TokenKind} {ended : Cursor}
    (skipped : skipTrivia offset content = .ok ⟨start, first :: rest⟩)
    (notBacktick : first ≠ '`')
    (read : plainToken regexAllowed start first rest = .ok (kind, ended)) :
    templateEnd opened outer (.code substitution depth regexAllowed) offset content =
      if (Token.cut kind (first :: rest) start ended.offset).isPunct '\x7d' && depth == 0 then
        templateEnd opened outer .quoted ended.offset ended.rest
      else
        templateEnd opened outer
          (.code substitution
            (depthBehind (Token.cut kind (first :: rest) start ended.offset) depth)
            (Token.cut kind (first :: rest) start ended.offset).allowsRegex)
          ended.offset ended.rest := by
  rw [templateEnd]
  split
  · next failed => rw [skipped] at failed; cases failed
  · next ended => rw [skipped] at ended; cases ended
  · next found =>
      rw [skipped] at found
      cases found
      rw [if_neg notBacktick]
      split
      · next failed => rw [read] at failed; cases failed
      · next found =>
          rw [read] at found
          cases found
          rfl

theorem templateEnd_longer {opened : Nat} {outer : List EnclosingTemplate} {mode : TemplateMode}
    {offset : Nat} {content : Text} {found : Cursor}
    (closed : templateEnd opened outer mode offset content = .ok found) :
    found.rest.length < content.length := by
  obtain ⟨body, last, _, shape, _⟩ := templateEnd_readTo closed
  rw [shape, List.length_append, List.length_cons]
  omega

section Template

variable {rest others : Text}

private theorem backtick_stops : ∀ next ∈ ('`' :: others).head?, isWordChar next = false := by
  rintro next member
  cases member
  rfl

private theorem backtick_noPoint : ∀ next ∈ ('`' :: others).head?, next ≠ '.' := by
  rintro next member
  cases member
  decide

private theorem backtick_noComment :
    ∀ next ∈ ('`' :: others).head?, next ≠ '/' ∧ next ≠ '*' := by
  rintro next member
  cases member
  decide

/-- A brace is no backtick, so it lies before the tails and stands in both texts. -/
private theorem brace_realigned {behindBrace : Text}
    (related : Realigned ('`' :: rest) ('`' :: others) false source ('\x7b' :: behindBrace))
    (kept : rest.length < source.length) : ∃ more, source = '\x7b' :: more := by
  cases source with
  | nil => exact absurd kept (by simp)
  | cons next more =>
      rcases Nat.lt_or_eq_of_le (Nat.le_of_lt_succ kept) with further | reached
      · obtain ⟨_, same, _⟩ := related.cons_inv further
        obtain ⟨rfl, _⟩ := List.cons.inj same
        exact ⟨more, rfl⟩
      · obtain ⟨_, same⟩ := related.eq_of_length (by
          rw [List.length_cons, List.length_cons, reached])
        cases same

/-- One token of a substitution, behind what is skipped before it. -/
private theorem templateToken_realigned {offset start : Nat} {first : Char} {more : Text}
    {kind : TokenKind} {ended : Cursor} {regexAllowed : Bool}
    (related : Realigned ('`' :: rest) ('`' :: others) margin source target)
    (skipped : skipTrivia offset source = .ok ⟨start, first :: more⟩)
    (read : plainToken regexAllowed start first more = .ok (kind, ended))
    (kept : rest.length < ended.rest.length) (place : Nat) :
    ∃ stop following final, skipTrivia place target = .ok ⟨stop, first :: following⟩ ∧
      plainToken regexAllowed stop first following = .ok (kind, final) ∧
      Realigned ('`' :: rest) ('`' :: others) false ended.rest final.rest ∧
      Kindred (Token.cut kind (first :: more) start ended.offset)
        (Token.cut kind (first :: following) stop final.offset) := by
  have shorter := plainToken_length read
  obtain ⟨stop, following, thereSkipped, behind⟩ :=
    skipTrivia_realigned related skipped
      (by rw [List.length_cons]; omega) (fun _ _ => backtick_noComment) place
  obtain ⟨final, thereRead, endRelated, kindred⟩ :=
    plainToken_realigned behind read (by rw [List.length_cons]; omega)
      (fun _ => backtick_stops)
      (fun _ => dots_realigned behind backtick_noPoint backtick_noPoint) stop
  exact ⟨stop, following, final, thereSkipped, thereRead, endRelated, kindred⟩

/-- A template is closed by the same backtick in both texts. -/
theorem templateEnd_realigned {opened offset : Nat} {outer : List EnclosingTemplate}
    {mode : TemplateMode} {found : Cursor}
    (related : Realigned ('`' :: found.rest) ('`' :: others) margin source target)
    (closed : templateEnd opened outer mode offset source = .ok found) (openedThere : Nat)
    (outerThere : List EnclosingTemplate) (modeThere : TemplateMode) (start : Nat)
    (sameOuter : outerThere.map (·.depth) = outer.map (·.depth))
    (sameMode : modeThere.bare = mode.bare) :
    ∃ place, templateEnd openedThere outerThere modeThere start target = .ok ⟨place, others⟩ := by
  -- The modes agree but for where things were opened, so both sides unfold alike in every case.
  fun_induction templateEnd opened outer mode offset source
      generalizing margin target openedThere outerThere modeThere start with
  | case1 => cases closed
  | case2 => cases closed
  | case3 opened outer offset escaped rest inductionHypothesis =>
      obtain rfl : modeThere = .quoted := TemplateMode.eq_quoted sameMode
      obtain ⟨blanks, following, areBlank, rfl, behind⟩ :=
        related.pair_cases (templateEnd_longer closed) rfl
      rw [templateEnd_margin openedThere outerThere start areBlank, templateEnd]
      exact inductionHypothesis behind closed _ _ _ _ sameOuter rfl
  | case4 opened outer offset rest inductionHypothesis =>
      obtain rfl : modeThere = .quoted := TemplateMode.eq_quoted sameMode
      obtain ⟨blanks, following, areBlank, rfl, behind⟩ :=
        related.pair_cases (templateEnd_longer closed) rfl
      rw [templateEnd_margin openedThere outerThere start areBlank, templateEnd]
      exact inductionHypothesis behind closed _ _ _ _ sameOuter rfl
  | case5 opened offset rest =>
      obtain rfl : modeThere = .quoted := TemplateMode.eq_quoted sameMode
      obtain rfl : outerThere = [] := List.map_eq_nil_iff.mp sameOuter
      cases closed
      obtain ⟨blanks, areBlank, rfl⟩ := related.tail_cases rfl
      rw [templateEnd_margin openedThere [] start areBlank,
        templateEnd_cons (by decide) (fun _ dollar => absurd dollar (by decide)), if_pos rfl]
      exact ⟨_, rfl⟩
  | case6 opened offset rest enclosing enclosings _ _ _ inductionHypothesis =>
      obtain rfl : modeThere = .quoted := TemplateMode.eq_quoted sameMode
      obtain ⟨enclosingThere, enclosingsThere, rfl, sameDepth, sameRest⟩ :=
        List.map_eq_cons_iff.mp sameOuter
      have longer := templateEnd_longer closed
      obtain ⟨blanks, following, areBlank, rfl, behind⟩ := related.solid_cases longer rfl
      rw [templateEnd_margin openedThere _ start areBlank,
        templateEnd_cons (by decide) (fun _ dollar => absurd dollar (by decide)), if_pos rfl]
      refine inductionHypothesis behind closed _ _ _ _ sameRest ?_
      rw [TemplateMode.bare, TemplateMode.bare, sameDepth]
  | case7 opened outer offset first rest notLast notEscape notOpening notClosing
      inductionHypothesis =>
      obtain rfl : modeThere = .quoted := TemplateMode.eq_quoted sameMode
      have longer := templateEnd_longer closed
      rcases related.cons_cases longer with
        ⟨blanks, following, areBlank, rfl, behind⟩ | ⟨_, behind⟩
      · have notOpeningThere : ∀ more, first = '$' → following = '\x7b' :: more → False := by
          rintro more rfl rfl
          obtain ⟨same, rfl⟩ := brace_realigned behind longer
          exact notOpening same rfl rfl
        rw [templateEnd_margin openedThere _ start areBlank,
          templateEnd_cons (ne_backslash notLast notEscape) notOpeningThere, if_neg notClosing]
        exact inductionHypothesis behind closed _ _ _ _ sameOuter rfl
      · exact inductionHypothesis behind closed _ _ _ _ sameOuter rfl
  | case8 => cases closed
  | case9 => cases closed
  | case10 opened outer offset content substitution depth regexAllowed place more shallow skipped
      inductionHypothesis =>
      obtain ⟨substitutionThere, rfl⟩ := TemplateMode.eq_code sameMode
      obtain ⟨stop, following, skippedThere, behind⟩ :=
        skipTrivia_realigned related skipped (templateEnd_longer closed)
          (fun _ _ => backtick_noComment) start
      have sameLength := congrArg List.length sameOuter
      rw [List.length_map, List.length_map] at sameLength
      rw [templateEnd_nested skippedThere (by omega)]
      refine inductionHypothesis behind closed _ _ _ _ ?_ rfl
      rw [List.map_cons, List.map_cons, sameOuter]
  | case11 => cases closed
  | case12 => cases closed
  | case13 opened outer offset content substitution depth regexAllowed place first more skipped
      notBacktick kind ended read token closing =>
      rename_i inductionHypothesis
      obtain ⟨substitutionThere, rfl⟩ := TemplateMode.eq_code sameMode
      obtain ⟨stop, following, final, skippedThere, readThere, behind, kindred⟩ :=
        templateToken_realigned related skipped read (templateEnd_longer closed) start
      rw [templateEnd_token skippedThere notBacktick readThere, ← kindred.isPunct,
        if_pos closing]
      exact inductionHypothesis behind closed _ _ _ _ sameOuter rfl
  | case14 opened outer offset content substitution depth regexAllowed place first more skipped
      notBacktick kind ended read token notEnd =>
      rename_i inner inductionHypothesis
      obtain ⟨substitutionThere, rfl⟩ := TemplateMode.eq_code sameMode
      obtain ⟨stop, following, final, skippedThere, readThere, behind, kindred⟩ :=
        templateToken_realigned related skipped read (templateEnd_longer closed) start
      rw [templateEnd_token skippedThere notBacktick readThere, ← kindred.isPunct,
        if_neg notEnd]
      refine inductionHypothesis behind closed _ _ _ _ sameOuter ?_
      rw [TemplateMode.bare, TemplateMode.bare, ← kindred.allowsRegex, ← depthBehind_eq kindred]
      rfl

end Template

/-- A token is read alike in both texts, up to its margins. -/
theorem nextToken_realigned {regexAllowed : Bool} {offset : Nat} {first : Char}
    {rest others : Text} {kind : TokenKind} {found : Cursor}
    (related : Realigned before after false rest others)
    (read : nextToken regexAllowed offset first rest = .ok (kind, found))
    (kept : before.length ≤ found.rest.length)
    (stops : kind = .word ∨ kind = .regex → ∀ next ∈ after.head?, isWordChar next = false)
    (dots : first = '.' → ['.', '.'].isPrefixOf rest = ['.', '.'].isPrefixOf others)
    (start : Nat) :
    ∃ ended, nextToken regexAllowed start first others = .ok (kind, ended) ∧
      Realigned before after false found.rest ended.rest ∧
      Kindred (Token.cut kind (first :: rest) offset found.offset)
        (Token.cut kind (first :: others) start ended.offset) := by
  by_cases backtick : first = '`'
  · rw [nextToken, if_pos backtick] at read ⊢
    obtain ⟨ended, closed, same⟩ := exists_of_map read
    cases same
    obtain ⟨body, last, rfl, shape, _⟩ := templateEnd_readTo closed
    subst shape
    obtain ⟨following, front, behind⟩ := related.split (show isBlank '`' = false from rfl) kept
    obtain ⟨place, closedThere⟩ :=
      templateEnd_realigned front closed start [] .quoted (start + 1) rfl rfl
    rw [closedThere]
    exact ⟨⟨place, following⟩, rfl, behind, rfl, by rintro (plain | plain) <;> cases plain⟩
  · rw [nextToken, if_neg backtick] at read ⊢
    exact plainToken_realigned related read kept stops dots start

end EmbedScaffold.Scan
