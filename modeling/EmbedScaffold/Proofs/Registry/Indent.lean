import EmbedScaffold.Proofs.Registry.Layout
import EmbedScaffold.Registry.Upsert

/-!
# The indentation of entries

Whether an entry starts its line, and how far it is indented there, is decided by the gap between
its first token and the mark before it.  So the indentation that a new entry takes over depends
on these gaps only, and no change of a value can change it.
-/

namespace EmbedScaffold

open Text Scan Lexeme

namespace Text

/-- The indentation of a token that starts its line, read from the gap before it. -/
def marginOf (gap : Text) : Option Text :=
  if '\n' ∈ gap ∧ isBlankText (lastLine gap) = true then some (lastLine gap) else none

variable {mark solid : Char} {gap : Text}

theorem startsLine_iff_margin (markSolid : isBlank mark = false) (before after : Text) :
    startsLine (before ++ mark :: (gap ++ after)) (before.length + (gap.length + 1)) =
      (marginOf gap).isSome := by
  have front : (before ++ mark :: (gap ++ after)).take (before.length + (gap.length + 1)) =
      before ++ mark :: gap := by
    rw [List.take_length_add_append, List.take_succ_cons, List.take_left]
  rw [startsLine_eq, front, marginOf]
  by_cases newLine : '\n' ∈ gap
  · rw [lastLine_append_of_mem before (mark :: gap) (List.mem_cons_of_mem _ newLine),
      ← List.singleton_append, lastLine_append_of_mem [mark] gap newLine]
    by_cases blank : isBlankText (lastLine gap) = true
    · rw [if_pos ⟨newLine, blank⟩, blank]
      rfl
    · rw [if_neg fun both => blank both.2, Bool.eq_false_iff.mpr blank]
      rfl
  · have sameLine : '\n' ∉ mark :: gap := by
      rw [List.mem_cons, not_or]
      exact ⟨(ne_of_isBlank rfl markSolid), newLine⟩
    have notBlank : isBlankText (mark :: gap) = false := by
      rw [isBlankText, List.all_cons, markSolid, Bool.false_and]
    rw [lastLine_append_of_notMem before (mark :: gap) sameLine, isBlankText_append, notBlank,
      Bool.and_false, if_neg fun both => newLine both.1]
    rfl

theorem lineIndent_of_margin (notBlank : isBlank solid = false) {margin : Text}
    (margined : marginOf gap = some margin) (before after : Text) :
    lineIndent (before ++ mark :: (gap ++ solid :: after)) (before.length + (gap.length + 1)) =
      margin := by
  rw [marginOf] at margined
  split at margined
  · next newLine =>
      cases margined
      have shape : before ++ mark :: (gap ++ solid :: after) =
          (before ++ mark :: gap) ++ solid :: after := by
        simp
      have length : before.length + (gap.length + 1) = (before ++ mark :: gap).length := by
        simp
      rw [shape, length, lineIndent_eq, leadingIndent_append_solid _ _ notBlank,
        lastLine_append_of_mem before (mark :: gap) (List.mem_cons_of_mem _ newLine.1),
        ← List.singleton_append, lastLine_append_of_mem [mark] gap newLine.1]
      exact leadingIndent_of_isBlankText _ newLine.2 (lineFeed_notMem_lastLine gap)
  · cases margined

theorem isMargin_of_marginOf {margin : Text} (margined : marginOf gap = some margin) :
    ∀ blank ∈ margin, isMargin blank = true := by
  rw [marginOf] at margined
  split at margined
  · next newLine =>
      cases margined
      exact isMargin_of_isBlankText newLine.2 (lineFeed_notMem_lastLine gap)
  · cases margined

theorem marginOf_newLine {indent : Text} (areBlank : ∀ blank ∈ indent, isMargin blank = true)
    (before : Text) : marginOf (before ++ '\n' :: indent) = some indent := by
  have line : lastLine (before ++ '\n' :: indent) = indent := by
    rw [lastLine_append_of_mem before ('\n' :: indent) List.mem_cons_self,
      ← List.singleton_append, lastLine_append_of_notMem ['\n'] indent
        (lineFeed_notMem_of_isMargin areBlank)]
    rfl
  rw [marginOf, line, if_pos ⟨by simp, isBlankText_of_isMargin areBlank⟩]

theorem isMargin_leadingIndent (content : Text) :
    ∀ blank ∈ leadingIndent content, isMargin blank = true := by
  obtain ⟨blank, sameLine⟩ := leadingIndent_blank content
  exact isMargin_of_isBlankText blank sameLine

theorem isMargin_indentStep : ∀ blank ∈ indentStep, isMargin blank = true :=
  List.all_eq_true.mp (by decide +kernel)

theorem isMargin_append {left right : Text} (leftBlank : ∀ blank ∈ left, isMargin blank = true)
    (rightBlank : ∀ blank ∈ right, isMargin blank = true) :
    ∀ blank ∈ left ++ right, isMargin blank = true := by
  intro blank member
  rcases List.mem_append.mp member with inLeft | inRight
  · exact leftBlank blank inLeft
  · exact rightBlank blank inRight

end Text

/-! ## Margins of entries -/

namespace Mapping

/-- The indentation of an entry that starts its line. -/
def entryMargin (content : Text) (entry : Entry) : Option Text :=
  if startsLine content entry.start then some (lineIndent content entry.start) else none

/-- The indentation for an entry is blank and stays on its line, whatever the offsets are. -/
theorem isMargin_entryIndent (content : Text) (mapping : Mapping) :
    ∀ blank ∈ entryIndent content mapping, isMargin blank = true := by
  rw [entryIndent]
  split
  · exact isMargin_leadingIndent _
  · exact isMargin_append (isMargin_leadingIndent _) isMargin_indentStep

/-- The last entry with a margin decides on the indentation. -/
theorem entryIndent_eq (content : Text) (mapping : Mapping) :
    entryIndent content mapping =
      ((mapping.entries.filterMap (entryMargin content)).getLast?).getD
        (lineIndent content mapping.opened ++ indentStep) := by
  rw [entryIndent, ← List.head?_reverse, ← List.filterMap_reverse]
  induction mapping.entries.reverse with
  | nil => rfl
  | cons entry rest inductionHypothesis =>
      rw [List.find?_cons]
      by_cases starts : startsLine content entry.start = true
      · have margined : entryMargin content entry = some (lineIndent content entry.start) :=
          if_pos starts
        rw [starts, List.filterMap_cons_some margined]
        rfl
      · have unmargined : entryMargin content entry = none := if_neg starts
        rw [Bool.eq_false_iff.mpr starts, List.filterMap_cons_none unmargined]
        exact inductionHypothesis

end Mapping

namespace Cell

/-- The margin of the entry of a cell. -/
def margin (cell : Cell) : Option Text :=
  marginOf (firstGap cell.body)

/-- The mark is a character that is not blank, and the entry begins with such a character. -/
structure Legible (cell : Cell) : Prop where
  mark : ∃ mark, cell.mark.value = [mark] ∧ isBlank mark = false
  body : cell.body ≠ [] → ∃ first rest, written cell.body = first :: rest ∧ isBlank first = false

theorem entryMargin_eq {cell : Cell} (legible : cell.Legible) (nonempty : cell.body ≠ [])
    (before after : Text) :
    Mapping.entryMargin (before ++ (textOf cell.lexemes ++ after))
        (cell.entryAt before.length) = cell.margin := by
  obtain ⟨mark, markShape, markSolid⟩ := legible.mark
  obtain ⟨first, rest, shape, solid⟩ := legible.body nonempty
  have text : before ++ (textOf cell.lexemes ++ after) =
      (before ++ cell.mark.gap) ++ mark :: (firstGap cell.body ++ first :: (rest ++ after)) := by
    rw [Cell.lexemes, textOf_cons, Lexeme.text, markShape, textOf_eq, shape]
    simp
  have start : before.length + (textOf cell.lexemes).length - (written cell.body).length =
      (before ++ cell.mark.gap).length + ((firstGap cell.body).length + 1) := by
    rw [Cell.lexemes, textOf_cons, List.length_append, textOf_length, Lexeme.text_length,
      markShape, List.length_append, List.length_singleton]
    omega
  rw [Mapping.entryMargin, entryAt, entryTo, start, text, startsLine_iff_margin markSolid, margin]
  cases margined : marginOf (firstGap cell.body) with
  | none => rfl
  | some margin =>
      rw [Option.isSome_some, if_pos rfl, lineIndent_of_margin solid margined]

theorem margins_eq {cells : List Cell} (legible : ∀ cell ∈ cells, cell.Legible)
    (before after : Text) :
    (entriesFrom before.length cells).filterMap
        (Mapping.entryMargin (before ++ (textOf (lexemesOf cells) ++ after))) =
      cells.filterMap margin := by
  refine entriesFrom_filterMap (fun cell _ empty => ?_) (fun cell member nonempty => ?_) before
    after
  · rw [margin, empty]
    rfl
  · exact entryMargin_eq (legible cell member) nonempty

end Cell

namespace Layout

/-- The indentation of the line of the opening brace. -/
def braceIndent (layout : Layout) : Text :=
  leadingIndent (lastLine (textOf layout.lead ++ firstGap (Cell.lexemesOf layout.cells)))

/-- The indentation of a new entry: that of the last entry that starts its line, else one step
more than the line of the brace. -/
def indent (layout : Layout) : Text :=
  ((layout.cells.filterMap Cell.margin).getLast?).getD (layout.braceIndent ++ indentStep)

variable {name : Text} {layout : Layout}

theorem isMargin_indent (layout : Layout) : ∀ blank ∈ layout.indent, isMargin blank = true := by
  rw [indent]
  cases found : (layout.cells.filterMap Cell.margin).getLast? with
  | some margin =>
      obtain ⟨cell, _, margined⟩ := List.mem_filterMap.mp (List.mem_of_getLast? found)
      exact isMargin_of_marginOf margined
  | none => exact isMargin_append (isMargin_leadingIndent _) isMargin_indentStep

theorem Sound.legible (sound : layout.Sound name) : ∀ cell ∈ layout.cells, cell.Legible := by
  intro cell member
  have isMark : ∃ mark, cell.mark.value = [mark] ∧ isBlank mark = false := by
    obtain ⟨first, others, shape, isBrace, commas⟩ := sound.exists_first
    rw [shape] at member
    rcases List.mem_cons.mp member with rfl | inOthers
    · exact ⟨'\x7b', ((Lexeme.isPunct_iff _ _).mp isBrace).2, rfl⟩
    · exact ⟨',', ((Lexeme.isPunct_iff _ _).mp (commas cell inOthers)).2, rfl⟩
  refine ⟨isMark, fun nonempty => ?_⟩
  cases shape : cell.body with
  | nil => exact absurd shape nonempty
  | cons head others =>
      have inLexemes : head ∈ layout.lexemes := by
        have inCell : head ∈ cell.lexemes := by simp [Cell.lexemes, shape]
        have inCells : cell ∈ layout.allCells := List.mem_append_left _ member
        exact List.mem_append_right _ (List.mem_append_left _ (Cell.mem_lexemesOf inCells inCell))
      obtain ⟨first, rest, valueShape, solid⟩ := sound.fits.solid_first head inLexemes
      exact ⟨first, rest ++ textOf others, by rw [written, valueShape]; rfl, solid⟩

theorem Sound.lineIndent_opened (sound : layout.Sound name) :
    lineIndent layout.content layout.mapping.opened = layout.braceIndent := by
  obtain ⟨first, others, shape, isBrace, _⟩ := sound.exists_first
  have brace := ((Lexeme.isPunct_iff _ _).mp isBrace).2
  have text : layout.content =
      (textOf layout.lead ++ firstGap (Cell.lexemesOf layout.cells)) ++
        '\x7b' :: (textOf (first.body ++ Cell.lexemesOf others) ++ layout.behind) := by
    rw [layout.content_eq, textOf_eq (Cell.lexemesOf layout.cells), shape, Cell.lexemesOf_cons,
      written, brace]
    simp
  rw [mapping, text, ← List.length_append, lineIndent_eq,
    leadingIndent_append_solid _ _ (show isBlank '\x7b' = false from rfl), braceIndent]

/-- The indentation of a new entry can be read from the gaps before the entries. -/
theorem Sound.entryIndent_eq (sound : layout.Sound name) :
    Mapping.entryIndent layout.content layout.mapping = layout.indent := by
  rw [Mapping.entryIndent_eq, sound.lineIndent_opened, indent,
    ← Cell.margins_eq sound.legible (textOf layout.lead) layout.behind, ← layout.content_eq,
    mapping]

end Layout

end EmbedScaffold
