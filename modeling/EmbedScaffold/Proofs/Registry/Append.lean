import EmbedScaffold.Proofs.Registry.Edit

/-!
# Adding an entry to a layout

A key that a mapping does not have is written behind the last entry: behind a trailing comma,
between the braces of an empty mapping, or behind a new comma.
-/

namespace EmbedScaffold

open Text Scan Lexeme

namespace Scan

theorem Fits.comma {rest : List Lexeme} {after : Text} (fits : Fits true rest after)
    (allowed : Bool) : Fits allowed (Lexeme.comma :: rest) after :=
  Fits.mark rfl .nil fits

theorem Apart.ofComma (lexeme : Lexeme) (rest : Text) : Apart lexeme (',' :: rest) := by
  refine ⟨fun _ => ?_, fun _ => ?_, fun _ => ?_⟩
  · rintro next ⟨⟩
    rfl
  · rintro next ⟨⟩
    decide
  · rintro next ⟨⟩
    decide

/-- Trivia stay trivia when the blanks at their end are exchanged for a new line. -/
theorem Trivia.newLine {gap indent : Text} (trivia : Trivia gap)
    (areBlank : ∀ blank ∈ indent, isMargin blank = true) :
    Trivia (stripEnd gap ++ '\n' :: indent) := by
  obtain ⟨tail, blankTail, split⟩ := trimEnd_append_tail isBlank gap
  have trailing : Trailing (stripEnd gap ++ tail) := by
    rw [stripEnd, ← split]
    exact Trailing.ofTrivia trivia
  have whole := (trailing.ofAppend blankTail).trivia.append
    (Trivia.ofBlank (isBlankText_of_isMargin areBlank))
  rwa [List.append_assoc, List.singleton_append] at whole

end Scan

namespace Layout

open Cell

/-- The layout with one more entry at its end. -/
def withNew (layout : Layout) (key : Text) (value : List Lexeme) : Layout :=
  let entry := newEntry ('\n' :: layout.indent) key value
  match layout.trailing, layout.cells with
  | some mark, cells => { layout with cells := cells ++ [⟨mark, entry⟩], trailing := some comma }
  | none, [⟨brace, []⟩] =>
      { layout with
        cells :=
          [⟨brace, newEntry (stripEnd layout.closing.gap ++ '\n' :: layout.indent) key value⟩]
        closing := { layout.closing with gap := '\n' :: layout.braceIndent } }
  | none, cells => { layout with cells := cells ++ [⟨comma, entry⟩] }

variable {name : Text} {layout : Layout} {key : Text} {value : List Lexeme}

theorem Sound.fits_tail (sound : layout.Sound name) :
    Fits true layout.tail layout.after ∧ Soft (textOf layout.tail ++ layout.after) := by
  have fits := sound.fits
  rw [lexemes_eq] at fits
  have tailFits := (fits_append.mp (fits_append.mp fits).2).2
  exact ⟨sound.begins_tail.reflag tailFits true, sound.begins_tail.soft tailFits⟩

theorem Sound.begins_closing (sound : layout.Sound name) :
    BeginsWithMark (layout.closing :: layout.rest) :=
  ⟨layout.closing, layout.rest, '\x7d', rfl, rfl, sound.closes⟩

theorem Sound.cells_ne_nil (sound : layout.Sound name) : layout.cells ≠ [] := by
  obtain ⟨first, others, shape, _⟩ := sound.exists_first
  rw [shape]
  exact List.cons_ne_nil _ _

/-- A mapping with a trailing comma has entries, and so has one with more than its brace. -/
theorem Sound.full_of_trailing (sound : layout.Sound name) {mark : Lexeme}
    (trailing : layout.trailing = some mark) : ∀ cell ∈ layout.cells, cell.body ≠ [] := by
  rcases sound.filled with ⟨noComma, _⟩ | ⟨_, full⟩
  · rw [trailing] at noComma
    cases noComma
  · exact full

theorem Sound.full_of_notAlone (sound : layout.Sound name)
    (notAlone : ∀ brace, layout.cells ≠ [bare brace]) : ∀ cell ∈ layout.cells, cell.body ≠ [] := by
  rcases sound.filled with ⟨_, brace, alone⟩ | ⟨_, full⟩
  · exact absurd alone (notAlone brace)
  · exact full

theorem Sound.brace_alone (sound : layout.Sound name) {brace : Lexeme}
    (alone : layout.cells = [bare brace]) : brace.isPunct '\x7b' = true := by
  have marked := sound.marked
  rw [allCells, alone] at marked
  exact marked.1

theorem trivia_indent (layout : Layout) : Trivia ('\n' :: layout.indent) :=
  Trivia.newLine Trivia.nil layout.isMargin_indent

theorem head?_concat {cells : List Cell} (nonempty : cells ≠ []) (cell : Cell) :
    (cells ++ [cell]).head?.map Cell.mark = cells.head?.map Cell.mark := by
  cases cells with
  | nil => exact absurd rfl nonempty
  | cons first others => rfl

private theorem nests_concat (sound : layout.Sound name) (entryValue : EntryValue value)
    (mark : Lexeme) (gap : Text) :
    ∀ cell ∈ layout.cells ++ [⟨mark, newEntry gap key value⟩],
      Nest (·.isPunct ',') cell.body := by
  intro cell member
  rcases List.mem_append.mp member with inCells | isLast
  · exact sound.nests cell inCells
  · rw [List.mem_singleton.mp isLast]
    exact nest_newEntry entryValue

private theorem full_concat {cells : List Cell} (full : ∀ cell ∈ cells, cell.body ≠ [])
    (mark : Lexeme) (gap : Text) :
    cells ++ [⟨mark, newEntry gap key value⟩] ≠ [] ∧
      ∀ cell ∈ cells ++ [⟨mark, newEntry gap key value⟩], cell.body ≠ [] := by
  refine ⟨by simp, fun cell member => ?_⟩
  rcases List.mem_append.mp member with inCells | isLast
  · exact full cell inCells
  · rw [List.mem_singleton.mp isLast]
    exact List.cons_ne_nil _ _

private theorem Sound.withLast (sound : layout.Sound name) (noComma : layout.trailing = none)
    (full : ∀ cell ∈ layout.cells, cell.body ≠ []) (entryValue : EntryValue value)
    (sameLine : '\n' ∉ key) :
    ({ layout with
        cells := layout.cells ++ [⟨comma, newEntry ('\n' :: layout.indent) key value⟩] } :
      Layout).Sound name := by
  obtain ⟨tailFits, soft⟩ := sound.fits_tail
  have entryFits := fits_newEntry entryValue layout.trivia_indent sameLine soft
  have fits := sound.fits
  refine sound.edit rfl rfl rfl (head?_concat sound.cells_ne_nil _) ?_ ?_
    (nests_concat sound entryValue _ _) sound.closes (Or.inr (full_concat full _ _))
  · have cut : layout.lexemes = (layout.lead ++ lexemesOf layout.cells) ++ layout.tail := by
      rw [lexemes_eq, List.append_assoc]
    rw [cut] at fits
    have behind : Fits (allowsBehind true (layout.lead ++ lexemesOf layout.cells))
        (comma :: (newEntry ('\n' :: layout.indent) key value ++ layout.tail)) layout.after :=
      Fits.comma (fits_append.mpr ⟨entryFits, sound.begins_tail.reflag tailFits _⟩) _
    have exchanged := fits.exchange behind fun last _ => Apart.ofComma last _
    rw [lexemes_eq]
    simpa [tail] using exchanged
  · have marked := sound.marked
    rw [allCells, noComma] at marked ⊢
    simp only [Option.toList_none, List.map_nil, List.append_nil] at marked ⊢
    refine (marked_append sound.cells_ne_nil).mpr ⟨marked, fun cell member => ?_⟩
    rw [List.mem_singleton.mp member]
    rfl

private theorem Sound.withTrailing (sound : layout.Sound name) {mark : Lexeme}
    (trailing : layout.trailing = some mark) (entryValue : EntryValue value)
    (sameLine : '\n' ∉ key) :
    ({ layout with
        cells := layout.cells ++ [⟨mark, newEntry ('\n' :: layout.indent) key value⟩]
        trailing := some comma } : Layout).Sound name := by
  have marked := sound.marked
  rw [allCells, trailing, marked_append sound.cells_ne_nil] at marked
  have isComma : mark.isPunct ',' = true := marked.2 (bare mark) (by simp)
  have full := sound.full_of_trailing trailing
  have fits := sound.fits
  have cut : layout.lexemes =
      (layout.lead ++ lexemesOf layout.cells ++ [mark]) ++ (layout.closing :: layout.rest) := by
    rw [lexemes_eq, tail, trailing]
    simp [bare]
  rw [cut] at fits
  have flag : allowsBehind true (layout.lead ++ lexemesOf layout.cells ++ [mark]) = true := by
    rw [allowsBehind_append, allowsBehind_cons]
    exact (allowsRegex_of_isPunct isComma).trans (by decide)
  have closingFits : Fits true (layout.closing :: layout.rest) layout.after :=
    sound.begins_closing.reflag (fits_append.mp fits).2 true
  have commaFits : Fits true (comma :: layout.closing :: layout.rest) layout.after :=
    Fits.comma closingFits true
  have commaBegins : BeginsWithMark (comma :: layout.closing :: layout.rest) :=
    ⟨comma, _, ',', rfl, rfl, rfl⟩
  have entryFits := fits_newEntry entryValue layout.trivia_indent sameLine
    (commaBegins.soft commaFits)
  have exchanged := fits.exchange
    (by rw [flag]; exact fits_append.mpr ⟨entryFits, commaBegins.reflag commaFits _⟩)
    (Apart.last_mark (show isMark ',' = true from rfl) isComma _ _)
  refine sound.edit rfl rfl rfl (head?_concat sound.cells_ne_nil _) ?_ ?_
    (nests_concat sound entryValue _ _) sound.closes (Or.inr (full_concat full _ _))
  · rw [lexemes_eq]
    simpa [tail, bare] using exchanged
  · simp only [allCells, Option.toList_some, List.map_cons, List.map_nil, List.append_assoc]
    refine (marked_append sound.cells_ne_nil).mpr ⟨marked.1, fun cell member => ?_⟩
    rcases List.mem_append.mp member with isNew | isTrailing
    · rw [List.mem_singleton.mp isNew]
      exact isComma
    · rw [List.mem_singleton.mp isTrailing]
      rfl

private theorem Sound.withFirst (sound : layout.Sound name) (noComma : layout.trailing = none)
    {brace : Lexeme} (alone : layout.cells = [bare brace]) (entryValue : EntryValue value)
    (sameLine : '\n' ∉ key) :
    ({ layout with
        cells :=
          [⟨brace, newEntry (stripEnd layout.closing.gap ++ '\n' :: layout.indent) key value⟩]
        closing := { layout.closing with gap := '\n' :: layout.braceIndent } } :
      Layout).Sound name := by
  have fits := sound.fits
  have cut : layout.lexemes = (layout.lead ++ [brace]) ++ (layout.closing :: layout.rest) := by
    rw [lexemes_eq, tail, noComma, alone]
    simp [bare]
  rw [cut] at fits
  have isBrace := sound.brace_alone alone
  have flag : allowsBehind true (layout.lead ++ [brace]) = true := by
    rw [allowsBehind_append, allowsBehind_cons]
    exact (allowsRegex_of_isPunct isBrace).trans (by decide)
  obtain ⟨gapTrivia, closingAlone, separated, restFits⟩ :=
    sound.begins_closing.reflag (fits_append.mp fits).2 true
  let closing : Lexeme := { layout.closing with gap := '\n' :: layout.braceIndent }
  have closingFits : Fits true (closing :: layout.rest) layout.after :=
    ⟨Trivia.newLine Trivia.nil (isMargin_leadingIndent _), closingAlone, separated, restFits⟩
  have closingBegins : BeginsWithMark (closing :: layout.rest) :=
    ⟨closing, _, '\x7d', rfl, rfl, sound.closes⟩
  have entryFits := fits_newEntry entryValue (Trivia.newLine gapTrivia layout.isMargin_indent)
    sameLine (closingBegins.soft closingFits)
  have exchanged := fits.exchange
    (by rw [flag]; exact fits_append.mpr ⟨entryFits, closingBegins.reflag closingFits _⟩)
    (Apart.last_mark (show isMark '\x7b' = true from rfl) isBrace _ _)
  refine sound.edit rfl rfl rfl ?_ ?_ ?_ ?_ sound.closes (Or.inr ⟨by simp, ?_⟩)
  · rw [alone]
    rfl
  · rw [lexemes_eq]
    simpa [tail, noComma, closing] using exchanged
  · rw [allCells]
    simp only [noComma, Option.toList_none, List.map_nil, List.append_nil]
    exact ⟨isBrace, fun _ member => by cases member⟩
  · intro cell member
    rw [List.mem_singleton.mp member]
    exact nest_newEntry entryValue
  · intro cell member
    rw [List.mem_singleton.mp member]
    exact List.cons_ne_nil _ _

/-- A new entry may be added at the end. -/
theorem Sound.withNew (sound : layout.Sound name) (entryValue : EntryValue value)
    (sameLine : '\n' ∉ key) : (layout.withNew key value).Sound name := by
  rw [Layout.withNew]
  split
  · next mark cells trailing => exact sound.withTrailing trailing entryValue sameLine
  · next brace noComma alone => exact sound.withFirst noComma alone entryValue sameLine
  · next cells noComma notAlone =>
      exact sound.withLast noComma (sound.full_of_notAlone notAlone) entryValue sameLine

end Layout

end EmbedScaffold
