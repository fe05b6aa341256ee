import EmbedScaffold.Proofs.Registry.Append

/-!
# An upsert as an edit of a layout

An upsert cuts and splices the text of a document at the offsets of a mapping.  For a sound layout
the text it gives is that of the layout with the new entry in the cell of the key, or behind all
cells, so that the mapping is found again in it.
-/

namespace EmbedScaffold

open Text Scan Lexeme

theorem Mapping.entryMargin_getD (content : Text) (entry : Entry) (fallback : Text) :
    (entryMargin content entry).getD fallback =
      if startsLine content entry.start then lineIndent content entry.start else fallback := by
  rw [entryMargin]
  split <;> rfl

namespace Cell

/-! ## The cell of a key -/

/-- Cells without those of a key. -/
def without (key : Text) (cells : List Cell) : List Cell :=
  cells.filter fun cell => keyOf cell.body ≠ some key

variable {key : Text}

theorem body_ne_nil {cell : Cell} (hasKey : keyOf cell.body = some key) : cell.body ≠ [] := by
  intro empty
  rw [empty] at hasKey
  cases hasKey

theorem mem_of_mem_without {cells : List Cell} {cell : Cell} (member : cell ∈ without key cells) :
    cell ∈ cells :=
  (List.mem_filter.mp member).1

theorem keyOf_of_mem_without {cells : List Cell} {cell : Cell}
    (member : cell ∈ without key cells) : keyOf cell.body ≠ some key :=
  of_decide_eq_true (List.mem_filter.mp member).2

theorem without_cons_of_key {cell : Cell} (hasKey : keyOf cell.body = some key)
    (cells : List Cell) : without key (cell :: cells) = without key cells :=
  List.filter_cons_of_neg (by simp [hasKey])

theorem without_cons_of_ne {cell : Cell} (otherKey : keyOf cell.body ≠ some key)
    (cells : List Cell) : without key (cell :: cells) = cell :: without key cells :=
  List.filter_cons_of_pos (decide_eq_true otherKey)

theorem without_eq_self {cells : List Cell} (absent : ∀ cell ∈ cells, keyOf cell.body ≠ some key) :
    without key cells = cells :=
  List.filter_eq_self.mpr fun cell member => decide_eq_true (absent cell member)

theorem exists_key (key : Text) (cells : List Cell) :
    (∀ cell ∈ cells, keyOf cell.body ≠ some key) ∨
      ∃ front cell back, cells = front ++ cell :: back ∧
        (∀ other ∈ front, keyOf other.body ≠ some key) ∧ keyOf cell.body = some key := by
  cases found : cells.find? fun cell => keyOf cell.body = some key with
  | none =>
      refine Or.inl fun cell member hasKey => ?_
      exact absurd (decide_eq_true hasKey) (List.find?_eq_none.mp found cell member)
  | some cell =>
      obtain ⟨hasKey, front, back, shape, fresh⟩ := List.find?_eq_some_iff_append.mp found
      refine Or.inr ⟨front, cell, back, shape, fun other member => ?_, of_decide_eq_true hasKey⟩
      simpa using fresh other member

/-- The entries of cells have their keys. -/
theorem exists_cell_of_entry {offset : Nat} {cells : List Cell} {entry : Entry}
    (member : entry ∈ entriesFrom offset cells) : ∃ cell ∈ cells, entry.key = keyOf cell.body := by
  induction cells generalizing offset with
  | nil => cases member
  | cons first rest inductionHypothesis =>
      rw [entriesFrom] at member
      rcases List.mem_append.mp member with isFirst | inRest
      · split at isFirst
        · cases isFirst
        · rw [List.mem_singleton.mp isFirst]
          exact ⟨first, List.mem_cons_self, rfl⟩
      · obtain ⟨cell, inside, same⟩ := inductionHypothesis inRest
        exact ⟨cell, List.mem_cons_of_mem _ inside, same⟩

theorem entriesFromKey_append {left right : List Entry}
    (absent : ∀ entry ∈ left, entry.key ≠ some key) :
    Mapping.entriesFromKey key (left ++ right) = Mapping.entriesFromKey key right := by
  induction left with
  | nil => rfl
  | cons first rest inductionHypothesis =>
      rw [List.cons_append, Mapping.entriesFromKey, if_neg (absent first List.mem_cons_self)]
      exact inductionHypothesis fun entry member => absent entry (List.mem_cons_of_mem _ member)

theorem entriesFromKey_fresh (offset : Nat) {front : List Cell} (back : List Cell)
    (fresh : ∀ cell ∈ front, keyOf cell.body ≠ some key) :
    Mapping.entriesFromKey key (entriesFrom offset (front ++ back)) =
      Mapping.entriesFromKey key
        (entriesFrom (offset + (textOf (lexemesOf front)).length) back) := by
  rw [entriesFrom_append, entriesFromKey_append]
  intro entry member
  obtain ⟨cell, inside, same⟩ := exists_cell_of_entry member
  exact same ▸ fresh cell inside

theorem entriesFromKey_some (offset : Nat) {back : List Cell} {cell : Cell}
    (hasKey : keyOf cell.body = some key) :
    Mapping.entriesFromKey key (entriesFrom offset (cell :: back)) =
      some (cell.entryAt offset, entriesFrom (offset + (textOf cell.lexemes).length) back) := by
  rw [entriesFrom, if_neg (body_ne_nil hasKey), List.singleton_append, Mapping.entriesFromKey]
  exact if_pos hasKey

theorem entriesFrom_getLast? (offset : Nat) {cells : List Cell} (nonempty : cells ≠ [])
    (full : ∀ cell ∈ cells, cell.body ≠ []) :
    ∃ last, (entriesFrom offset cells).getLast? = some last ∧
      last.stop = offset + (textOf (lexemesOf cells)).length := by
  rcases List.eq_nil_or_concat cells with rfl | ⟨others, last, rfl⟩
  · exact absurd rfl nonempty
  · rw [List.concat_eq_append] at full ⊢
    refine ⟨last.entryAt (offset + (textOf (lexemesOf others)).length), ?_, ?_⟩
    · rw [entriesFrom_append, entriesFrom, if_neg (full last (by simp)), entriesFrom,
        List.append_nil, List.getLast?_concat]
      rfl
    · simp [entryAt, entryTo, Cell.lexemes, Nat.add_assoc]

/-! ## Leaving out later entries -/

/-- Deleting the later entries of a key leaves out their cells. -/
theorem dropRepeated_eq {before after : Text} {previous : Entry} {cells : List Cell}
    (full : ∀ cell ∈ cells, cell.body ≠ []) (stop : previous.stop = before.length) :
    Mapping.dropRepeated key previous (entriesFrom before.length cells)
        (before ++ (textOf (lexemesOf cells) ++ after)) =
      before ++ (textOf (lexemesOf (without key cells)) ++ after) := by
  induction cells generalizing before previous with
  | nil => rfl
  | cons cell rest inductionHypothesis =>
      have behind := @inductionHypothesis (before ++ textOf cell.lexemes)
        (cell.entryAt before.length)
        (fun other member => full other (List.mem_cons_of_mem _ member)) (List.length_append).symm
      have text (cells : List Cell) : before ++ (textOf (lexemesOf (cell :: cells)) ++ after) =
          before ++ textOf cell.lexemes ++ (textOf (lexemesOf cells) ++ after) := by
        simp [Cell.lexemes]
      rw [List.length_append] at behind
      rw [entriesFrom, if_neg (full cell List.mem_cons_self), List.singleton_append, text]
      show (if keyOf cell.body = some key then
          splice (Mapping.dropRepeated key (cell.entryAt before.length) _ _) previous.stop
            (before.length + (textOf cell.lexemes).length) []
        else Mapping.dropRepeated key (cell.entryAt before.length) _ _) = _
      rw [behind, stop]
      by_cases hasKey : keyOf cell.body = some key
      · rw [if_pos hasKey, without_cons_of_key hasKey, List.append_assoc, splice_middle,
          List.nil_append]
      · rw [if_neg hasKey, without_cons_of_ne hasKey, text]

theorem dropRepeated_cell {cell : Cell} {back : List Cell} (full : ∀ other ∈ back, other.body ≠ [])
    (before after : Text) :
    Mapping.dropRepeated key (cell.entryAt before.length)
        (entriesFrom (before.length + (textOf cell.lexemes).length) back)
        (before ++ (textOf cell.lexemes ++ (textOf (lexemesOf back) ++ after))) =
      before ++ (textOf cell.lexemes ++ (textOf (lexemesOf (without key back)) ++ after)) := by
  have dropped := @dropRepeated_eq key (before ++ textOf cell.lexemes) after
    (cell.entryAt before.length) back full (List.length_append).symm
  rw [List.length_append, List.append_assoc, List.append_assoc] at dropped
  exact dropped

/-- The text in front of the entry of a cell. -/
def upToBody (cell : Cell) : Text :=
  cell.mark.text ++ firstGap cell.body

theorem textOf_lexemes (cell : Cell) :
    textOf cell.lexemes = cell.upToBody ++ written cell.body := by
  rw [Cell.lexemes, textOf_cons, textOf_eq, upToBody, List.append_assoc]

/-- Replacing the entry of a cell exchanges what is written behind its gap. -/
theorem replaceEntry_eq {cell : Cell} (legible : cell.Legible) (filled : cell.body ≠ [])
    {back : List Cell} (full : ∀ other ∈ back, other.body ≠ []) (before after : Text)
    (mapping : Mapping) (value : Text) :
    Mapping.replaceEntry
        (before ++ (textOf cell.lexemes ++ (textOf (lexemesOf back) ++ after))) mapping
        (cell.entryAt before.length)
        (entriesFrom (before.length + (textOf cell.lexemes).length) back) key value =
      before ++ (cell.upToBody ++
        (Mapping.entryText key value
            (cell.margin.getD <| Mapping.entryIndent
              (before ++ (textOf cell.lexemes ++ (textOf (lexemesOf (without key back)) ++ after)))
              mapping) ++
          (textOf (lexemesOf (without key back)) ++ after))) := by
  have start : (cell.entryAt before.length).start = (before ++ cell.upToBody).length := by
    rw [entryAt, entryTo, textOf_lexemes, List.length_append, List.length_append]
    dsimp only
    omega
  have stop : (cell.entryAt before.length).stop =
      (before ++ cell.upToBody).length + (written cell.body).length := by
    rw [entryAt, entryTo, textOf_lexemes, List.length_append, List.length_append]
    dsimp only
    omega
  have indent (fallback : Text) (after : Text) :
      (if startsLine (before ++ (textOf cell.lexemes ++ after)) (cell.entryAt before.length).start
        then lineIndent (before ++ (textOf cell.lexemes ++ after)) (cell.entryAt before.length).start
        else fallback) = cell.margin.getD fallback := by
    rw [← entryMargin_eq legible filled before after, Mapping.entryMargin_getD]
  rw [Mapping.replaceEntry, dropRepeated_cell full, indent, start, stop]
  rw [textOf_lexemes, List.append_assoc, ← List.append_assoc before cell.upToBody, splice_middle,
    List.append_assoc]

end Cell

namespace Layout

open Cell

variable {name key value : Text} {layout : Layout} {front back : List Cell} {cell : Cell}
  {lexemes : List Lexeme}

/-! ## Replacing an entry -/

theorem content_cell (shape : layout.cells = front ++ cell :: back) :
    layout.content = textOf (layout.lead ++ lexemesOf front) ++
      (textOf cell.lexemes ++ (textOf (lexemesOf back) ++ layout.behind)) := by
  rw [content_eq, shape]
  simp [Cell.lexemes]

theorem entriesFromKey_eq (shape : layout.cells = front ++ cell :: back)
    (fresh : ∀ other ∈ front, keyOf other.body ≠ some key) (hasKey : keyOf cell.body = some key) :
    Mapping.entriesFromKey key layout.mapping.entries =
      some (cell.entryAt (textOf (layout.lead ++ lexemesOf front)).length,
        entriesFrom ((textOf (layout.lead ++ lexemesOf front)).length +
          (textOf cell.lexemes).length) back) := by
  have offset : (textOf layout.lead).length + (textOf (lexemesOf front)).length =
      (textOf (layout.lead ++ lexemesOf front)).length := by
    simp
  rw [mapping, shape, entriesFromKey_fresh _ _ fresh, entriesFromKey_some _ hasKey, offset]

theorem entriesFromKey_none (fresh : ∀ cell ∈ layout.cells, keyOf cell.body ≠ some key) :
    Mapping.entriesFromKey key layout.mapping.entries = none := by
  have passed := entriesFromKey_fresh (textOf layout.lead).length [] fresh
  rw [List.append_nil] at passed
  exact passed

/-- The indentation of the entry that takes the place of a cell: its own if it starts its line.
Otherwise it is computed on the text without the later entries of the key, with the offsets that
the mapping has before they are left out. -/
def slotIndent (layout : Layout) (key : Text) (front : List Cell) (cell : Cell)
    (back : List Cell) : Text :=
  cell.margin.getD <|
    Mapping.entryIndent (layout.withBody front cell.mark cell.body (without key back)).content
      layout.mapping

theorem isMargin_slotIndent (layout : Layout) (key : Text) (front : List Cell) (cell : Cell)
    (back : List Cell) :
    ∀ blank ∈ layout.slotIndent key front cell back, isMargin blank = true := by
  rw [slotIndent]
  cases margined : cell.margin with
  | none => exact Mapping.isMargin_entryIndent _ _
  | some margin => exact isMargin_of_marginOf margined

theorem Sound.upsert_replaced (sound : layout.Sound name)
    (shape : layout.cells = front ++ cell :: back)
    (fresh : ∀ other ∈ front, keyOf other.body ≠ some key) (hasKey : keyOf cell.body = some key)
    (entryValue : EntryValue lexemes)
    (text : textOf lexemes = reindent (strip value) (layout.slotIndent key front cell back)) :
    layout.mapping.upsert layout.content key value =
      (layout.withBody front cell.mark (newEntry (firstGap cell.body) key lexemes)
        (without key back)).content := by
  have filled := body_ne_nil hasKey
  have full : ∀ other ∈ back, other.body ≠ [] :=
    fun other member => sound.full (by simp [shape]) filled other (by simp [shape, member])
  have legible : cell.Legible := sound.legible cell (by simp [shape])
  have found := entriesFromKey_eq shape fresh hasKey
  have written : Mapping.entryText key value (layout.slotIndent key front cell back) =
      written (newEntry (firstGap cell.body) key lexemes) := by
    rw [written_newEntry entryValue, text, Mapping.entryText]
  have kept (body : List Lexeme) : (layout.withBody front cell.mark body (without key back)).content =
      textOf (layout.lead ++ lexemesOf front) ++ (textOf (Cell.lexemes ⟨cell.mark, body⟩) ++
        (textOf (lexemesOf (without key back)) ++ layout.behind)) :=
    content_cell rfl
  rw [slotIndent, kept] at written
  rw [Mapping.upsert, found, kept, content_cell shape]
  dsimp only
  rw [replaceEntry_eq legible filled full, written, textOf_lexemes]
  simp only [upToBody, List.append_assoc]
  rfl

/-! ## Adding an entry -/

theorem textOf_newEntry (entryValue : EntryValue lexemes) {indent : Text}
    (text : textOf lexemes = reindent (strip value) indent) (gap : Text) :
    textOf (newEntry gap key lexemes) = gap ++ Mapping.entryText key value indent := by
  rw [textOf_eq, written_newEntry entryValue, text]
  rfl

theorem content_upToClosing (layout : Layout) :
    layout.content =
      layout.upToClosing ++ (textOf (layout.closing :: layout.rest) ++ layout.after) := by
  rw [content, lexemes, upToClosing]
  simp

theorem upToClosing_bare {cells : List Cell} (noComma : layout.trailing = none)
    (shape : layout.cells = cells) :
    layout.upToClosing = textOf (layout.lead ++ lexemesOf cells) := by
  rw [upToClosing, allCells, noComma, shape]
  simp

private theorem Sound.append_trailing (sound : layout.Sound name) {mark : Lexeme}
    (trailing : layout.trailing = some mark) (entryValue : EntryValue lexemes)
    (text : textOf lexemes = reindent (strip value) layout.indent) :
    Mapping.appendEntry layout.content layout.mapping key value =
      Layout.content
        { layout with
          cells := layout.cells ++ [⟨mark, newEntry ('\n' :: layout.indent) key lexemes⟩]
          trailing := some comma } := by
  obtain ⟨last, isLast, _⟩ := entriesFrom_getLast? (textOf layout.lead).length
    sound.cells_ne_nil (sound.full_of_trailing trailing)
  have entries : layout.mapping.entries.getLast? = some last := isLast
  have offset : layout.mapping.trailingComma = some layout.upToClosing.length := by
    rw [mapping, trailing]
    rfl
  rw [Mapping.appendEntry, sound.entryIndent_eq, entries, offset]
  dsimp only
  rw [content_upToClosing, splice_between, upToClosing, content, Layout.lexemes, allCells, allCells,
    trailing]
  simp [bare, textOf_newEntry entryValue text, comma, Lexeme.text]

private theorem Sound.append_last (sound : layout.Sound name) (noComma : layout.trailing = none)
    (full : ∀ cell ∈ layout.cells, cell.body ≠ []) (entryValue : EntryValue lexemes)
    (text : textOf lexemes = reindent (strip value) layout.indent) :
    Mapping.appendEntry layout.content layout.mapping key value =
      Layout.content
        { layout with
          cells := layout.cells ++ [⟨comma, newEntry ('\n' :: layout.indent) key lexemes⟩] } := by
  obtain ⟨last, isLast, stop⟩ :=
    entriesFrom_getLast? (textOf layout.lead).length sound.cells_ne_nil full
  have entries : layout.mapping.entries.getLast? = some last := isLast
  have offset : layout.mapping.trailingComma = none := by
    rw [mapping, noComma]
    rfl
  have place : last.stop = (textOf (layout.lead ++ lexemesOf layout.cells)).length := by
    rw [stop, textOf_append, List.length_append]
  have front := upToClosing_bare noComma rfl
  rw [Mapping.appendEntry, sound.entryIndent_eq, entries, offset]
  dsimp only
  rw [place, ← front, content_upToClosing, splice_between, front, content, Layout.lexemes, allCells,
    noComma]
  simp [textOf_newEntry entryValue text, comma, Lexeme.text]

private theorem Sound.append_first (sound : layout.Sound name) (noComma : layout.trailing = none)
    {brace : Lexeme} (alone : layout.cells = [bare brace]) (entryValue : EntryValue lexemes)
    (text : textOf lexemes = reindent (strip value) layout.indent) :
    Mapping.appendEntry layout.content layout.mapping key value =
      Layout.content
        { layout with
          cells :=
            [⟨brace, newEntry (stripEnd layout.closing.gap ++ '\n' :: layout.indent) key lexemes⟩]
          closing := { layout.closing with gap := '\n' :: layout.braceIndent } } := by
  have entries : layout.mapping.entries = [] := by
    rw [mapping, alone]
    rfl
  have isBrace := sound.brace_alone alone
  have front : layout.upToClosing = textOf (layout.lead ++ [brace]) := by
    rw [upToClosing_bare noComma alone]
    rfl
  have opened : layout.mapping.opened + 1 = layout.upToClosing.length := by
    rw [mapping, alone, front, textOf_append, textOf_cons, List.length_append, List.length_append,
      Lexeme.text_length, ((Lexeme.isPunct_iff _ _).mp isBrace).2]
    rfl
  have cut : layout.content = layout.upToClosing ++
      (layout.closing.gap ++ (layout.closing.value ++ (textOf layout.rest ++ layout.after))) := by
    rw [content_upToClosing, textOf_cons, Lexeme.text]
    simp
  rw [Mapping.appendEntry, sound.entryIndent_eq, sound.lineIndent_opened, entries, opened]
  show splice layout.content layout.upToClosing.length
    (layout.upToClosing.length + layout.closing.gap.length) (stripEnd (slice layout.content
      layout.upToClosing.length (layout.upToClosing.length + layout.closing.gap.length)) ++ _ ++ _ ++
        _ ++ _ ++ _) = _
  rw [cut, slice_middle, splice_middle, front, content, Layout.lexemes, allCells]
  simp [noComma, textOf_newEntry entryValue text, Lexeme.text]

theorem Sound.upsert_added (sound : layout.Sound name)
    (fresh : ∀ cell ∈ layout.cells, keyOf cell.body ≠ some key) (entryValue : EntryValue lexemes)
    (text : textOf lexemes = reindent (strip value) layout.indent) :
    layout.mapping.upsert layout.content key value = (layout.withNew key lexemes).content := by
  rw [Mapping.upsert, entriesFromKey_none fresh]
  dsimp only
  rw [Layout.withNew]
  split
  · next mark cells trailing => exact sound.append_trailing trailing entryValue text
  · next brace noComma alone => exact sound.append_first noComma alone entryValue text
  · next cells noComma notAlone =>
      exact sound.append_last noComma (sound.full_of_notAlone notAlone) entryValue text

end Layout

/-! ## Upserting in a document -/

section Document

variable {content : Text} {wanted : EntryUpsert} {document : Document}

theorem Document.forEdit_ok (scannedText : Document.ofText content = .ok document) :
    Document.forEdit content = .ok document := by
  rw [Document.forEdit, scannedText]
  rfl

/-- Without a header line, the mapping that is found in the document is edited. -/
theorem upsertEntry_found {mapping : Mapping} (noHeader : wanted.headerLine = none)
    (scannedText : Document.ofText content = .ok document)
    (found : Mapping.find? document wanted.mapping = .ok (some mapping)) :
    upsertEntry content wanted =
      .ok (Outcome.ofTexts content (mapping.upsert content wanted.key wanted.value)) := by
  have read := Document.forEdit_ok scannedText
  simp only [upsertEntry, noHeader, read, found, bind, Except.bind, pure, Except.pure]

/-- A mapping that the document neither has nor declares is declared at its end. -/
theorem upsertEntry_absent (noHeader : wanted.headerLine = none)
    (scannedText : Document.ofText content = .ok document)
    (absent : Mapping.find? document wanted.mapping = .ok none)
    (undeclared : Mapping.isDeclared document wanted.mapping = false)
    (creates : wanted.createIfMissing = true) :
    upsertEntry content wanted =
      .ok (Outcome.ofTexts content
        (Mapping.appendDeclaration content wanted.declaration wanted.mapping wanted.key
          wanted.value)) := by
  have read := Document.forEdit_ok scannedText
  simp only [upsertEntry, noHeader, read, absent, undeclared, creates, bind, Except.bind, pure,
    Except.pure]
  rfl

end Document

end EmbedScaffold
