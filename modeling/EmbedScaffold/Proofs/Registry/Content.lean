import EmbedScaffold.Proofs.Registry.View

/-!
# The content of a mapping after an upsert

An upsert puts one entry in the place of its key, or at the end, and leaves what the other entries
show, their order and the text outside the braces.
-/

namespace EmbedScaffold

open Text Scan Lexeme

namespace Layout

open Cell

variable {name key value : Text} {layout edited : Layout} {front back : List Cell} {cell : Cell}

/-! ## The text around the entries -/

/-- Two layouts have the same text up to the opening brace, and from the closing one on. -/
structure SameAround (edited layout : Layout) : Prop where
  lead : edited.lead = layout.lead
  brace : edited.cells.head?.map Cell.mark = layout.cells.head?.map Cell.mark
  closing : edited.closing.value = layout.closing.value
  rest : edited.rest = layout.rest
  after : edited.after = layout.after

def upToBrace (layout : Layout) : Text :=
  textOf layout.lead ++ ((layout.cells.head?.map Cell.mark).map Lexeme.text).getD []

def fromClosing (layout : Layout) : Text :=
  layout.closing.value ++ (textOf layout.rest ++ layout.after)

theorem Sound.take_opened (sound : layout.Sound name) :
    layout.content.take (layout.mapping.opened + 1) = layout.upToBrace := by
  obtain ⟨first, others, shape, isBrace, _⟩ := sound.exists_first
  have brace : layout.upToBrace = textOf layout.lead ++ first.mark.text := by
    rw [upToBrace, shape]
    rfl
  have cut : layout.content =
      layout.upToBrace ++ (textOf (first.body ++ lexemesOf others) ++ layout.behind) := by
    rw [content_eq, brace, shape]
    simp
  have length : layout.mapping.opened + 1 = layout.upToBrace.length := by
    rw [mapping, brace, shape, List.length_append, Lexeme.text_length,
      ((Lexeme.isPunct_iff _ _).mp isBrace).2]
    rfl
  rw [length, cut, List.take_left]

theorem drop_closed (layout : Layout) :
    layout.content.drop layout.mapping.closed = layout.fromClosing := by
  have cut : layout.content = (layout.upToClosing ++ layout.closing.gap) ++ layout.fromClosing := by
    rw [content_upToClosing, textOf_cons, Lexeme.text, fromClosing]
    simp
  have length : layout.mapping.closed = (layout.upToClosing ++ layout.closing.gap).length :=
    (List.length_append).symm
  rw [length, cut, List.drop_left]

namespace SameAround

theorem opened (same : SameAround edited layout) :
    edited.mapping.opened = layout.mapping.opened := by
  have gap (layout : Layout) : firstGap (lexemesOf layout.cells) =
      ((layout.cells.head?.map Cell.mark).map Lexeme.gap).getD [] := by
    cases layout.cells <;> rfl
  rw [mapping, mapping, gap, gap, same.lead, same.brace]

theorem upToBrace (same : SameAround edited layout) :
    edited.upToBrace = layout.upToBrace := by
  rw [Layout.upToBrace, Layout.upToBrace, same.lead, same.brace]

theorem fromClosing (same : SameAround edited layout) :
    edited.fromClosing = layout.fromClosing := by
  rw [Layout.fromClosing, Layout.fromClosing, same.closing, same.rest, same.after]

theorem ofBody (shape : layout.cells = front ++ cell :: back) (body : List Lexeme)
    (kept : List Cell) : SameAround (layout.withBody front cell.mark body kept) layout := by
  refine ⟨rfl, ?_, rfl, rfl, rfl⟩
  rw [shape, Layout.withBody]
  cases front <;> rfl

theorem ofNew (nonempty : layout.cells ≠ []) (key : Text) (value : List Lexeme) :
    SameAround (layout.withNew key value) layout := by
  rw [Layout.withNew]
  split
  · exact ⟨rfl, head?_concat nonempty _, rfl, rfl, rfl⟩
  · next shape => exact ⟨rfl, by rw [shape]; rfl, rfl, rfl, rfl⟩
  · exact ⟨rfl, head?_concat nonempty _, rfl, rfl, rfl⟩

end SameAround

/-! ## Entries that leave no choice -/

/-- The entry of a cell is among those of the mapping. -/
theorem mem_entries (shape : layout.cells = front ++ cell :: back) (filled : cell.body ≠ []) :
    cell.entryAt (textOf (layout.lead ++ lexemesOf front)).length ∈ layout.mapping.entries := by
  rw [mapping, shape, entriesFrom_append, entriesFrom, if_neg filled, textOf_append,
    List.length_append]
  exact List.mem_append_right _ (List.mem_append_left _ (List.mem_singleton_self _))

/-- A key that is counted at most once is not found behind its first cell. -/
theorem fresh_behind (once : layout.mapping.entries.countP (·.key = some key) ≤ 1)
    (shape : layout.cells = front ++ cell :: back) (hasKey : keyOf cell.body = some key) :
    ∀ other ∈ back, keyOf other.body ≠ some key := by
  have counted : layout.mapping.entries.countP (·.key = some key) =
      (Cell.views layout.cells).countP (·.key = some key) := by
    rw [← views_eq, Mapping.views, List.countP_map]
    rfl
  have first : (cell.view.key = some key) := hasKey
  rw [counted, shape, views_append, views_cons (body_ne_nil hasKey), List.countP_append,
    List.countP_cons, if_pos (decide_eq_true first)] at once
  have none : (Cell.views back).countP (·.key = some key) = 0 := by omega
  intro other member otherKey
  have shown : other.view ∈ Cell.views back :=
    List.mem_filterMap.mpr ⟨other, member, if_neg (body_ne_nil otherKey)⟩
  have absent := List.countP_eq_zero.mp none other.view shown
  exact absent (decide_eq_true otherKey)

/-- The edited layout has the new entry in the first cell of the key, without the later cells of
the key, or behind all cells of a layout that has none of the key. -/
inductive IsEdited (layout : Layout) (key : Text) (value : List Lexeme) : Layout → Prop
  | replaced {front back : List Cell} {cell : Cell} (shape : layout.cells = front ++ cell :: back)
      (fresh : ∀ other ∈ front, keyOf other.body ≠ some key) (hasKey : keyOf cell.body = some key) :
      IsEdited layout key value (layout.withBody front cell.mark
        (newEntry (firstGap cell.body) key value) (without key back))
  | added (fresh : ∀ cell ∈ layout.cells, keyOf cell.body ≠ some key) :
      IsEdited layout key value (layout.withNew key value)

/-- An upsert gives a document in which the mapping is found with the new entry in its place. -/
theorem Sound.exists_edited (sound : layout.Sound name) (sameLine : '\n' ∉ key)
    (admissible : isEntryValue (strip value) = true)
    (apart : (∀ cell ∈ layout.cells, cell.Loose) ∨
      layout.mapping.entries.countP (·.key = some key) ≤ 1) :
    ∃ indent lexemes edited, (∀ blank ∈ indent, isMargin blank = true) ∧
      textOf lexemes = reindent (strip value) indent ∧ EntryValue lexemes ∧ edited.Sound name ∧
      layout.mapping.upsert layout.content key value = edited.content ∧
      layout.IsEdited key lexemes edited := by
  rcases exists_key key layout.cells with fresh | ⟨front, cell, back, shape, fresh, hasKey⟩
  · obtain ⟨lexemes, text, entryValue⟩ :=
      exists_reindentedValue admissible layout.isMargin_indent
    exact ⟨layout.indent, lexemes, layout.withNew key lexemes, layout.isMargin_indent, text,
      entryValue, sound.withNew entryValue sameLine, sound.upsert_added fresh entryValue text,
      .added fresh⟩
  · have areBlank := isMargin_slotIndent layout key front cell back
    obtain ⟨lexemes, text, entryValue⟩ := exists_reindentedValue admissible areBlank
    have keptFits : Fits true (lexemesOf (without key back) ++ layout.tail) layout.after := by
      rcases apart with loose | once
      · exact sound.fits_kept shape (fun other member => loose other (by simp [shape, member])) _
      · rw [without_eq_self (fresh_behind once shape hasKey)]
        exact sound.fits_behind shape
    exact ⟨_, lexemes, layout.withBody front cell.mark (newEntry (firstGap cell.body) key lexemes)
        (without key back), areBlank, text, entryValue,
      sound.withEntry shape (body_ne_nil hasKey) (fun _ => mem_of_mem_without) keptFits entryValue
        sameLine,
      sound.upsert_replaced shape fresh hasKey entryValue text, .replaced shape fresh hasKey⟩

theorem IsEdited.sameAround {value : List Lexeme} (isEdited : layout.IsEdited key value edited)
    (nonempty : layout.cells ≠ []) : SameAround edited layout := by
  cases isEdited with
  | replaced shape => exact .ofBody shape _ _
  | added => exact .ofNew nonempty key value

theorem IsEdited.views {value : List Lexeme} (isEdited : layout.IsEdited key value edited)
    (entryValue : EntryValue value) :
    Cell.views edited.cells =
      (EntryView.ofTexts key (textOf value)).put (Cell.views layout.cells) := by
  cases isEdited with
  | replaced shape fresh hasKey => exact views_withBody shape fresh hasKey entryValue _
  | added fresh => exact views_withNew fresh entryValue

/-- What the entries of the edited document show, and the text around them. -/
theorem Sound.exists_upserted (sound : layout.Sound name) (sameLine : '\n' ∉ key)
    (admissible : isEntryValue (strip value) = true)
    (apart : (∀ cell ∈ layout.cells, cell.Loose) ∨
      layout.mapping.entries.countP (·.key = some key) ≤ 1) :
    ∃ indent edited, (∀ blank ∈ indent, isMargin blank = true) ∧ edited.Sound name ∧
      layout.mapping.upsert layout.content key value = edited.content ∧
      SameAround edited layout ∧
      Cell.views edited.cells =
        (EntryView.ofTexts key (reindent (strip value) indent)).put (Cell.views layout.cells) := by
  obtain ⟨indent, lexemes, edited, areBlank, text, entryValue, editedSound, upserted, isEdited⟩ :=
    sound.exists_edited sameLine admissible apart
  refine ⟨indent, edited, areBlank, editedSound, upserted,
    isEdited.sameAround sound.cells_ne_nil, ?_⟩
  rw [← text]
  exact isEdited.views entryValue

end Layout

/-! ## The law -/

/-- A text that is scanned, with the mapping that is found in it. -/
def Mapping.locate (content name : Text) : Option (Document × Mapping) :=
  match Document.ofText content with
  | .error _ => none
  | .ok document =>
      match Mapping.find? document name with
      | .ok (some mapping) => some (document, mapping)
      | _ => none

/-- A check of the mapping that is found in a text succeeds only if there is one. -/
theorem Mapping.exists_located {content name : Text} (check : Document → Mapping → Bool)
    (checked : (Mapping.locate content name).any (fun found => check found.1 found.2) = true) :
    ∃ document mapping, Document.ofText content = .ok document ∧
      Mapping.find? document name = .ok (some mapping) ∧ check document mapping = true := by
  rw [Mapping.locate] at checked
  split at checked
  · cases checked
  · next document scannedText =>
      split at checked
      · next mapping found => exact ⟨document, mapping, scannedText, found, checked⟩
      · cases checked

/-- Whether the last token of an entry is a bare slash. -/
def Entry.endsInSlash (document : Document) (entry : Entry) : Bool :=
  document.tokens.toList.any fun token => token.stop = entry.stop && token.isPunct '/'

open Layout Cell in
theorem Layout.Sound.loose {name : Text} {layout : Layout} (sound : layout.Sound name)
    {document : Document} (scanned : Scanned document layout.lexemes layout.after)
    (noSlash : ∀ entry ∈ layout.mapping.entries, entry.endsInSlash document = false) :
    ∀ cell ∈ layout.cells, cell.Loose := by
  intro cell member last isLast slash
  obtain ⟨front, back, shape⟩ := List.append_of_mem member
  obtain ⟨others, body⟩ := List.getLast?_eq_some_iff.mp isLast
  let before := layout.lead ++ (lexemesOf front ++ cell.mark :: others)
  have cut : layout.lexemes = before ++ last :: (lexemesOf back ++ layout.tail) := by
    rw [lexemes_eq, shape, lexemesOf_append, lexemesOf_cons, body]
    simp [before]
  have isToken : last.tokenAt (textOf before).length ∈ document.tokens.toList := by
    rw [scanned.tokens, cut, tokensAt_append, Nat.zero_add, tokensAt]
    exact List.mem_append_right _ List.mem_cons_self
  have nonempty : cell.body ≠ [] := by
    rw [body]
    exact List.concat_ne_nil _ _
  have stop : (textOf before).length + last.text.length =
      (textOf (layout.lead ++ lexemesOf front)).length + (textOf cell.lexemes).length := by
    rw [Cell.lexemes, body]
    simp [before]
    omega
  have punct := sound.fits.punct_of_slash
    (show last ∈ layout.lexemes by rw [cut]; simp) slash
  have isPunct : (last.tokenAt (textOf before).length).isPunct '/' = true := by
    rw [(kindred_tokenAt _ last).isPunct]
    exact (last.isPunct_iff '/').mpr ⟨punct, slash⟩
  have ends := noSlash _ (mem_entries shape nonempty)
  rw [Entry.endsInSlash, List.any_eq_false] at ends
  have rejected := ends _ isToken
  rw [isPunct, Bool.and_true, decide_eq_true_eq] at rejected
  exact rejected stop

/-- Without a header line, an upsert of a mapping that the document has succeeds.  The mapping is
found at the same brace; the new entry stands in the place of the first one of its key, without
the later ones, or at the end; all other entries keep their texts and their order, and so does the
text outside the braces. -/
theorem upsertEntry_put {content : Text} {wanted : EntryUpsert} {document : Document}
    {mapping : Mapping} (noHeader : wanted.headerLine = none)
    (scannedText : Document.ofText content = .ok document)
    (found : Mapping.find? document wanted.mapping = .ok (some mapping))
    (noSlash : ∀ entry ∈ mapping.entries, entry.endsInSlash document = false)
    (sameLine : '\n' ∉ wanted.key) (admissible : isEntryValue (strip wanted.value) = true) :
    ∃ outcome updated located indent,
      upsertEntry content wanted = .ok outcome ∧
      Document.ofText outcome.content = .ok updated ∧
      Mapping.find? updated wanted.mapping = .ok (some located) ∧
      located.opened = mapping.opened ∧
      isBlankText indent = true ∧ '\n' ∉ indent ∧
      located.views outcome.content =
        (EntryView.ofTexts wanted.key (reindent (strip wanted.value) indent)).put
          (mapping.views content) ∧
      outcome.content.take (located.opened + 1) = content.take (mapping.opened + 1) ∧
      outcome.content.drop located.closed = content.drop mapping.closed := by
  obtain ⟨layout, sound, rfl, rfl, scanned⟩ := Layout.exists_sound scannedText found
  obtain ⟨indent, edited, areBlank, editedSound, text, around, views⟩ :=
    sound.exists_upserted sameLine admissible (Or.inl (sound.loose scanned noSlash))
  obtain ⟨updated, editedText, _, located⟩ := editedSound.find
  refine ⟨Outcome.ofTexts layout.content edited.content, updated, edited.mapping, indent, ?_,
    editedText, located, around.opened, ?_, ?_, ?_, ?_, ?_⟩
  · rw [upsertEntry_found noHeader scannedText found, text]
  · exact isBlankText_of_isMargin areBlank
  · exact lineFeed_notMem_of_isMargin areBlank
  · show edited.mapping.views edited.content = _
    rw [edited.views_eq, layout.views_eq, views]
  · exact (editedSound.take_opened.trans around.upToBrace).trans sound.take_opened.symm
  · exact (edited.drop_closed.trans around.fromClosing).trans layout.drop_closed.symm

theorem upsertEntry_put_repeated :
    ∃ outcome updated located,
      upsertEntry "const m = \x7b a: 1, ...rest, /* old */ a: 2 \x7d;".toList
        { mapping := ['m'], key := ['a'], value := " 3".toList } = .ok outcome ∧
      Document.ofText outcome.content = .ok updated ∧
      Mapping.find? updated ['m'] = .ok (some located) ∧
      located.views outcome.content =
        [⟨some ['a'], "a: 3".toList, ['3']⟩, ⟨none, "...rest".toList, "...rest".toList⟩] := by
  let content : Text := "const m = \x7b a: 1, ...rest, /* old */ a: 2 \x7d;".toList
  let check (document : Document) (mapping : Mapping) : Bool :=
    mapping.entries.all (fun entry => ! entry.endsInSlash document) &&
      mapping.views content =
        [⟨some ['a'], "a: 1".toList, ['1']⟩, ⟨none, "...rest".toList, "...rest".toList⟩,
          ⟨some ['a'], "a: 2".toList, ['2']⟩]
  obtain ⟨document, mapping, scannedText, found, checked⟩ :=
    @Mapping.exists_located content ['m'] check (by decide +kernel)
  simp only [check, Bool.and_eq_true, List.all_eq_true, Bool.not_eq_true', decide_eq_true_eq]
    at checked
  obtain ⟨outcome, updated, located, indent, upserted, updatedText, foundAgain, _, _, _, views,
      _⟩ :=
    @upsertEntry_put content { mapping := ['m'], key := ['a'], value := " 3".toList } document
      mapping rfl scannedText found checked.1 (by decide) (by decide +kernel)
  refine ⟨outcome, updated, located, upserted, updatedText, foundAgain, ?_⟩
  rw [views, checked.2]
  rfl

end EmbedScaffold
