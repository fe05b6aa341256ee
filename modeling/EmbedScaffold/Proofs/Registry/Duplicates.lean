import EmbedScaffold.Proofs.Text.Reindent
import EmbedScaffold.Proofs.Registry.LastWrite

/-!
# Entries that repeat a key

An upsert of a key with several entries keeps the place of the first and deletes the others.  It
computes the indentation of the new entry on the text that is left, but with the offsets that the
entries had before.  So the same upsert changes the document once more exactly if the first entry
shares its line, the value has several lines, and these offsets lead to another indentation than
those in the text that is left.
-/

namespace EmbedScaffold

open Text Scan Lexeme

namespace Slot

/-- What a filled slot holds decides on the document. -/
theorem content_filled (slot : Slot) : ∃ before after, ∀ value, EntryValue value →
    (slot.filled value).content = before ++ (textOf value ++ after) := by
  refine ⟨textOf (slot.base.lead ++ Cell.lexemesOf slot.front) ++ slot.mark.text ++ slot.gap ++
      propertyKey slot.key ++ ": ".toList,
    textOf (Cell.lexemesOf slot.kept) ++ slot.base.behind, fun value entryValue => ?_⟩
  have cut : (slot.filled value).content = textOf (slot.base.lead ++ Cell.lexemesOf slot.front) ++
      (textOf (Cell.lexemes ⟨slot.mark, newEntry slot.gap slot.key value⟩) ++
        (textOf (Cell.lexemesOf slot.kept) ++ slot.base.behind)) :=
    Layout.content_cell rfl
  rw [cut, Cell.lexemes, textOf_cons, textOf_eq (newEntry _ _ _), written_newEntry entryValue]
  simp only [List.append_assoc]
  rfl

theorem content_filled_eq_iff {slot : Slot} {first second : List Lexeme}
    (firstValue : EntryValue first) (secondValue : EntryValue second) :
    (slot.filled second).content = (slot.filled first).content ↔ textOf second = textOf first := by
  obtain ⟨before, after, content⟩ := slot.content_filled
  rw [content first firstValue, content second secondValue, List.append_cancel_left_eq,
    List.append_cancel_right_eq]

end Slot

theorem solidLast_of_isEntryValue {value : Text} (admissible : isEntryValue value = true) :
    ∀ last ∈ value.getLast?, isBlank last = false := by
  obtain ⟨lexemes, rfl, entryValue⟩ := exists_entryValue admissible
  exact entryValue.fits.solid_last

namespace Layout

open Cell

variable {name key : Text} {layout : Layout} {front back : List Cell} {cell : Cell}

/-- The layout without the later entries of a key. -/
def pruned (layout : Layout) (key : Text) (front : List Cell) (cell : Cell) (back : List Cell) :
    Layout :=
  layout.withBody front cell.mark cell.body (without key back)

theorem content_pruned (shape : layout.cells = front ++ cell :: back)
    (full : ∀ other ∈ back, other.body ≠ []) :
    Mapping.dropRepeated key (cell.entryAt (textOf (layout.lead ++ lexemesOf front)).length)
        (entriesFrom ((textOf (layout.lead ++ lexemesOf front)).length +
          (textOf cell.lexemes).length) back) layout.content =
      (layout.pruned key front cell back).content := by
  rw [content_cell shape, dropRepeated_cell full, pruned, content_cell rfl]
  rfl

/-- Whether an entry starts its line is seen from the gap before it. -/
theorem Sound.startsLine_entryAt (sound : layout.Sound name)
    (shape : layout.cells = front ++ cell :: back) (nonempty : cell.body ≠ []) :
    startsLine layout.content
        (cell.entryAt (textOf (layout.lead ++ lexemesOf front)).length).start =
      cell.margin.isSome := by
  have legible : cell.Legible := sound.legible cell (by simp [shape])
  rw [content_cell shape, ← entryMargin_eq legible nonempty, Mapping.entryMargin]
  split
  · next starts => exact starts
  · next starts => exact Bool.eq_false_iff.mpr starts

/-- Two values at the two indentations that are computed for a slot have the same text exactly if
these indentations are the same, or need not be computed, or the value is on a single line. -/
theorem Sound.reindent_slotOf_iff (sound : layout.Sound name)
    (shape : layout.cells = front ++ cell :: back) (nonempty : cell.body ≠ [])
    (loose : ∀ other ∈ layout.cells, other.Loose) {value : Text}
    (solidLast : ∀ last ∈ value.getLast?, isBlank last = false) :
    reindent value (layout.slotOf key front cell back).indent =
        reindent value (layout.slotIndent key front cell back) ↔
      cell.margin.isSome = true ∨ '\n' ∉ value ∨
        Mapping.entryIndent (layout.pruned key front cell back).content
            (layout.pruned key front cell back).mapping =
          Mapping.entryIndent (layout.pruned key front cell back).content layout.mapping := by
  have prunedSound : (layout.pruned key front cell back).Sound name :=
    sound.withoutCells shape nonempty
      (fun other member => loose other (by rw [shape]; exact List.mem_append_right _ member)) _
  rw [indent_slotOf, slotIndent, ← pruned, prunedSound.entryIndent_eq]
  cases cell.margin with
  | some margin => simp
  | none =>
      rw [Option.getD_none, Option.getD_none,
        reindent_eq_iff solidLast (lineFeed_notMem_of_isMargin (isMargin_indent _))
          (lineFeed_notMem_of_isMargin (Mapping.isMargin_entryIndent _ _))]
      simp

end Layout

open Layout Cell in
/-- The upsert of a key with several entries, applied again, changes nothing exactly if the first
entry starts its line, the value is on a single line, or the offsets before and after the later
entries are deleted lead to the same indentation. -/
theorem upsertEntry_repeated_fixed_iff {content : Text} {wanted : EntryUpsert}
    {document : Document} {mapping : Mapping} {first : Entry} {later : List Entry}
    (noHeader : wanted.headerLine = none)
    (scannedText : Document.ofText content = .ok document)
    (found : Mapping.find? document wanted.mapping = .ok (some mapping))
    (entries : Mapping.entriesFromKey wanted.key mapping.entries = some (first, later))
    (noSlash : ∀ entry ∈ mapping.entries, entry.endsInSlash document = false)
    (sameLine : '\n' ∉ wanted.key) (admissible : isEntryValue (strip wanted.value) = true) :
    ∃ once twice remaining located,
      upsertEntry content wanted = .ok once ∧ upsertEntry once.content wanted = .ok twice ∧
      Document.ofText (Mapping.dropRepeated wanted.key first later content) = .ok remaining ∧
      Mapping.find? remaining wanted.mapping = .ok (some located) ∧
      ((twice.content = once.content ∧ twice.changed = false) ↔
        startsLine content first.start = true ∨ '\n' ∉ strip wanted.value ∨
          Mapping.entryIndent (Mapping.dropRepeated wanted.key first later content) located =
            Mapping.entryIndent (Mapping.dropRepeated wanted.key first later content) mapping) := by
  have upserted := upsertEntry_found noHeader scannedText found
  obtain ⟨layout, sound, rfl, rfl, scanned⟩ := Layout.exists_sound scannedText found
  have loose := sound.loose scanned noSlash
  rcases exists_key wanted.key layout.cells with fresh | ⟨front, cell, back, shape, fresh, hasKey⟩
  · rw [Layout.entriesFromKey_none fresh] at entries
    cases entries
  · rw [entriesFromKey_eq shape fresh hasKey] at entries
    obtain ⟨rfl, rfl⟩ := Prod.mk.inj (Option.some.inj entries)
    have nonempty := body_ne_nil hasKey
    have full : ∀ other ∈ back, other.body ≠ [] :=
      fun other member => sound.full (by simp [shape]) nonempty other (by simp [shape, member])
    have behind : ∀ other ∈ cell :: back, other.Loose :=
      fun other member => loose other (by rw [shape]; exact List.mem_append_right _ member)
    have prunedSound : (layout.pruned wanted.key front cell back).Sound wanted.mapping :=
      sound.withoutCells shape nonempty behind _
    have slotSound := sound.slotOf shape fresh hasKey
      (sound.fits_kept shape (fun other member => behind other (List.mem_cons_of_mem _ member)) _)
      sameLine
    have areBlank : ∀ blank ∈ layout.slotIndent wanted.key front cell back,
        isMargin blank = true := isMargin_slotIndent _ _ _ _ _
    obtain ⟨first, firstText, firstValue⟩ := exists_reindentedValue admissible areBlank
    obtain ⟨second, secondText, secondValue⟩ := exists_reindentedValue admissible
      (layout.slotOf wanted.key front cell back).isMargin_indent
    rw [sound.upsert_replaced shape fresh hasKey firstValue firstText] at upserted
    obtain ⟨updated, updatedText, _, foundAgain⟩ := (slotSound.sound first firstValue).find
    have again := upsertEntry_found noHeader updatedText foundAgain
    have exchanged := slotSound.upsert firstValue secondValue secondText
    rw [show (layout.slotOf wanted.key front cell back).key = wanted.key from rfl] at exchanged
    rw [exchanged] at again
    obtain ⟨remaining, remainingText, _, located⟩ := prunedSound.find
    rw [content_pruned shape full, sound.startsLine_entryAt shape nonempty]
    refine ⟨_, _, remaining, _, upserted, again, remainingText, located, ?_⟩
    rw [← sound.reindent_slotOf_iff shape nonempty loose (solidLast_of_isEntryValue admissible),
      ← secondText, ← firstText,
      ← @Slot.content_filled_eq_iff (layout.slotOf wanted.key front cell back) first second
        firstValue secondValue]
    exact ⟨And.left, fun same => ⟨same, decide_eq_false (not_not.mpr same)⟩⟩

theorem upsertEntry_repeated_fixed_lines :
    ∃ once twice,
      upsertEntry "const m = \x7b\n  a: 1, a: 2\n\x7d;".toList
        { mapping := ['m'], key := ['a'], value := "[\n3\n]".toList } = .ok once ∧
      upsertEntry once.content
        { mapping := ['m'], key := ['a'], value := "[\n3\n]".toList } = .ok twice ∧
      twice.content = once.content ∧ twice.changed = false := by
  let content : Text := "const m = \x7b\n  a: 1, a: 2\n\x7d;".toList
  let wanted : EntryUpsert := { mapping := ['m'], key := ['a'], value := "[\n3\n]".toList }
  let check (document : Document) (mapping : Mapping) : Bool :=
    mapping.entries.all (fun entry => ! entry.endsInSlash document) &&
      (Mapping.entriesFromKey ['a'] mapping.entries).any
        (fun found => startsLine content found.1.start)
  obtain ⟨document, mapping, scannedText, found, checked⟩ :=
    @Mapping.exists_located content ['m'] check (by decide +kernel)
  simp only [check, Bool.and_eq_true, List.all_eq_true, Bool.not_eq_true', Option.any_eq_true]
    at checked
  obtain ⟨noSlash, ⟨first, later⟩, entries, starts⟩ := checked
  obtain ⟨once, twice, _, _, upserted, again, _, _, fixed⟩ :=
    @upsertEntry_repeated_fixed_iff content wanted document mapping first later rfl scannedText
      found entries noSlash (by decide) (by decide +kernel)
  exact ⟨once, twice, upserted, again, fixed.mpr (Or.inl starts)⟩

/-- Offsets from before the deletion may point into the line of a later entry, so that the first
upsert takes another indentation than the second. -/
theorem upsertEntry_repeated_not_fixed :
    ∃ document mapping once twice,
      Document.ofText "x = \x7b a: 1,a: 2,\n      b: 3 \x7d;".toList = .ok document ∧
      Mapping.find? document ['x'] = .ok (some mapping) ∧
      mapping.entries.countP (·.key = some ['a']) = 2 ∧
      (∀ entry ∈ mapping.entries, entry.endsInSlash document = false) ∧
      isEntryValue (strip "[\n1\n]".toList) = true ∧
      upsertEntry "x = \x7b a: 1,a: 2,\n      b: 3 \x7d;".toList
        { mapping := ['x'], key := ['a'], value := "[\n1\n]".toList } = .ok once ∧
      once.content = "x = \x7b a: [\n  1\n  ],\n      b: 3 \x7d;".toList ∧
      upsertEntry once.content
        { mapping := ['x'], key := ['a'], value := "[\n1\n]".toList } = .ok twice ∧
      twice.content = "x = \x7b a: [\n      1\n      ],\n      b: 3 \x7d;".toList ∧
      twice.changed = true := by
  let content : Text := "x = \x7b a: 1,a: 2,\n      b: 3 \x7d;".toList
  let wanted : EntryUpsert := { mapping := ['x'], key := ['a'], value := "[\n1\n]".toList }
  let once : Outcome := ⟨"x = \x7b a: [\n  1\n  ],\n      b: 3 \x7d;".toList, true⟩
  let twice : Outcome := ⟨"x = \x7b a: [\n      1\n      ],\n      b: 3 \x7d;".toList, true⟩
  obtain ⟨document, mapping, scannedText, found, checked⟩ :=
    @Mapping.exists_located content ['x']
      (fun document mapping => mapping.entries.countP (·.key = some ['a']) = 2 &&
        mapping.entries.all fun entry => ! entry.endsInSlash document) (by decide +kernel)
  simp only [Bool.and_eq_true, decide_eq_true_eq, List.all_eq_true, Bool.not_eq_true'] at checked
  have first : upsertEntry content wanted = .ok once := by decide +kernel
  have second : upsertEntry once.content wanted = .ok twice := by decide +kernel
  exact ⟨document, mapping, once, twice, scannedText, found, checked.1, checked.2,
    by decide +kernel, first, rfl, second, rfl, rfl⟩

end EmbedScaffold
