import EmbedScaffold.Proofs.Registry.Content
import EmbedScaffold.Proofs.Registry.Declaration

/-!
# The last of two upserts

After an upsert, the key has a slot in its mapping: a place between two marks with one entry in it.
What is written into the slot later stands at the indentation that the gap before it and the other
entries decide on, whatever value was there before, so only the last value written counts.
-/

namespace EmbedScaffold

open Text Scan Lexeme

/-! ## Slots -/

/-- The place of the entry of a key in a layout: behind the mark of a cell and a gap, with `front`
before that cell and `kept` behind it. -/
structure Slot where
  base : Layout
  front : List Cell
  mark : Lexeme
  gap : Text
  key : Text
  kept : List Cell

namespace Slot

/-- The layout with an entry of a value in the slot. -/
def filled (slot : Slot) (value : List Lexeme) : Layout :=
  slot.base.withBody slot.front slot.mark (newEntry slot.gap slot.key value) slot.kept

/-- The indentation at which a value is written into the slot. -/
def indent (slot : Slot) : Text :=
  (marginOf slot.gap).getD (slot.filled []).indent

/-- The slot may be filled with every value, and no other cell has its key. -/
structure Sound (name : Text) (slot : Slot) : Prop where
  sound : ∀ value, EntryValue value → (slot.filled value).Sound name
  fresh : ∀ cell ∈ slot.front, keyOf cell.body ≠ some slot.key
  dropped : ∀ cell ∈ slot.kept, keyOf cell.body ≠ some slot.key

end Slot

namespace Layout

variable {name key value : Text} {layout : Layout} {front back kept : List Cell} {cell : Cell}

/-- Only the gap before an entry counts for indentations. -/
theorem indent_withBody {body other : List Lexeme} (same : firstGap body = firstGap other)
    (layout : Layout) (front : List Cell) (mark : Lexeme) (kept : List Cell) :
    (layout.withBody front mark body kept).indent =
      (layout.withBody front mark other kept).indent := by
  have margins : (front ++ (⟨mark, body⟩ :: kept : List Cell)).filterMap Cell.margin =
      (front ++ (⟨mark, other⟩ :: kept : List Cell)).filterMap Cell.margin := by
    have margin : Cell.margin ⟨mark, body⟩ = Cell.margin ⟨mark, other⟩ := by
      rw [Cell.margin, Cell.margin, same]
    rw [List.filterMap_append, List.filterMap_append, List.filterMap_cons, List.filterMap_cons,
      margin]
  have gaps : firstGap (Cell.lexemesOf (front ++ ⟨mark, body⟩ :: kept)) =
      firstGap (Cell.lexemesOf (front ++ ⟨mark, other⟩ :: kept)) := by
    cases front <;> rfl
  rw [indent, indent, braceIndent, braceIndent, Layout.withBody, Layout.withBody, margins, gaps]

end Layout

namespace Slot

variable {name value : Text} {slot : Slot} {first second : List Lexeme}

theorem indent_filled (slot : Slot) (value : List Lexeme) :
    (marginOf slot.gap).getD (slot.filled value).indent = slot.indent := by
  have same : firstGap (newEntry slot.gap slot.key value) =
      firstGap (newEntry slot.gap slot.key []) := rfl
  rw [indent, filled, filled, Layout.indent_withBody same]

theorem isMargin_indent (slot : Slot) : ∀ blank ∈ slot.indent, isMargin blank = true := by
  rw [indent]
  cases margined : marginOf slot.gap with
  | none => exact Layout.isMargin_indent _
  | some margin => exact isMargin_of_marginOf margined

/-- An upsert of the key of a filled slot exchanges the value in it. -/
theorem Sound.upsert (sound : slot.Sound name) (firstValue : EntryValue first)
    (secondValue : EntryValue second)
    (text : textOf second = reindent (strip value) slot.indent) :
    (slot.filled first).mapping.upsert (slot.filled first).content slot.key value =
      (slot.filled second).content := by
  have kept : Cell.without slot.key slot.kept = slot.kept := Cell.without_eq_self sound.dropped
  have filledSound := sound.sound first firstValue
  have indent : (slot.filled first).slotIndent slot.key slot.front
      ⟨slot.mark, newEntry slot.gap slot.key first⟩ slot.kept = slot.indent := by
    have same : (slot.filled first).withBody slot.front slot.mark
        (newEntry slot.gap slot.key first) (Cell.without slot.key slot.kept) =
          slot.filled first := by
      rw [kept]
      rfl
    rw [Layout.slotIndent, same, filledSound.entryIndent_eq]
    exact slot.indent_filled first
  have upserted := filledSound.upsert_replaced rfl sound.fresh
    (keyOf_newEntry slot.gap slot.key first) secondValue (by rw [indent, text])
  rw [upserted, kept]
  rfl

end Slot

/-! ## The slot of a key -/

namespace Layout

open Cell

variable {name key : Text} {layout : Layout} {front back : List Cell} {cell : Cell}

/-- The slot of a cell, with the later cells of its key left out. -/
def slotOf (layout : Layout) (key : Text) (front : List Cell) (cell : Cell) (back : List Cell) :
    Slot :=
  ⟨layout, front, cell.mark, firstGap cell.body, key, without key back⟩

theorem Sound.slotOf (sound : layout.Sound name) (shape : layout.cells = front ++ cell :: back)
    (fresh : ∀ other ∈ front, keyOf other.body ≠ some key) (hasKey : keyOf cell.body = some key)
    (keptFits : Fits true (lexemesOf (without key back) ++ layout.tail) layout.after)
    (sameLine : '\n' ∉ key) :
    (layout.slotOf key front cell back).Sound name where
  sound _ entryValue := sound.withEntry shape (body_ne_nil hasKey)
    (fun _ => mem_of_mem_without) keptFits entryValue sameLine
  fresh := fresh
  dropped _ := keyOf_of_mem_without

private theorem withNew_eq (layout : Layout) (key : Text) :
    ∃ (base : Layout) (front : List Cell) (mark : Lexeme) (gap : Text),
      marginOf gap = some layout.indent ∧ (∀ cell ∈ front, cell ∈ layout.cells) ∧
      ∀ value, layout.withNew key value =
        base.withBody front mark (newEntry gap key value) [] := by
  have margin (before : Text) : marginOf (before ++ '\n' :: layout.indent) = some layout.indent :=
    marginOf_newLine layout.isMargin_indent before
  cases trailing : layout.trailing with
  | some mark =>
      refine ⟨{ layout with trailing := some comma }, layout.cells, mark, _, margin [],
        fun _ member => member, fun value => ?_⟩
      rw [Layout.withNew, trailing]
      rfl
  | none =>
      by_cases alone : ∃ brace, layout.cells = [bare brace]
      · obtain ⟨brace, alone⟩ := alone
        refine ⟨{ layout with
            closing := { layout.closing with gap := '\n' :: layout.braceIndent } },
          [], brace, _, margin (stripEnd layout.closing.gap), by simp,
          fun value => ?_⟩
        rw [Layout.withNew, trailing, alone]
        simp [Layout.withBody, bare]
      · refine ⟨layout, layout.cells, comma, _, margin [], fun _ member => member, fun value => ?_⟩
        rw [Layout.withNew]
        split
        · next impossible => rw [trailing] at impossible; cases impossible
        · next brace _ shape => exact absurd ⟨brace, shape⟩ alone
        · rfl

/-- Behind the other entries there is a slot for a new key. -/
theorem Sound.exists_newSlot (sound : layout.Sound name)
    (fresh : ∀ cell ∈ layout.cells, keyOf cell.body ≠ some key) (sameLine : '\n' ∉ key) :
    ∃ slot : Slot, slot.Sound name ∧ slot.key = key ∧ slot.indent = layout.indent ∧
      ∀ value, layout.withNew key value = slot.filled value := by
  obtain ⟨base, front, mark, gap, margin, inside, shape⟩ := withNew_eq layout key
  refine ⟨⟨base, front, mark, gap, key, []⟩, ⟨fun value entryValue => ?_, ?_, ?_⟩, rfl, ?_, shape⟩
  · rw [Slot.filled, ← shape]
    exact sound.withNew entryValue sameLine
  · exact fun cell member => fresh cell (inside cell member)
  · exact fun cell member => by cases member
  · rw [Slot.indent, margin]
    rfl

/-- With the later cells of its key left out, the old entry decides on the indentation alike. -/
theorem indent_slotOf (layout : Layout) (key : Text) (front : List Cell) (cell : Cell)
    (back : List Cell) :
    (layout.slotOf key front cell back).indent =
      cell.margin.getD (layout.withBody front cell.mark cell.body (without key back)).indent := by
  rw [Slot.indent, Slot.filled, Layout.slotOf]
  dsimp only
  rw [indent_withBody (show firstGap (newEntry (firstGap cell.body) key []) = firstGap cell.body
    from rfl)]
  rfl

/-- The slot of the only entry in a declaration. -/
def declaredSlot (front : List Lexeme) (gap : Text) (words : List Text) (key : Text) : Slot :=
  ⟨declared front gap words key [], [], ofMark [' '] '\x7b', '\n' :: indentStep, key, []⟩

theorem indent_declaredSlot (front : List Lexeme) (gap : Text) (words : List Text) (key : Text) :
    (declaredSlot front gap words key).indent = indentStep := by
  have margin : marginOf ('\n' :: indentStep) = some indentStep :=
    marginOf_newLine isMargin_indentStep []
  rw [Slot.indent, declaredSlot, margin]
  rfl

theorem withBody_self (shape : layout.cells = front ++ cell :: back) :
    layout.withBody front cell.mark cell.body back = layout := by
  cases layout
  cases shape
  rfl

end Layout

/-! ## The law -/

/-- The mapping has at most one entry of the key; or the document neither has nor declares it, and
it may be declared. -/
def EntryUpsert.Unambiguous (wanted : EntryUpsert) (document : Document) : Prop :=
  (∃ mapping, Mapping.find? document wanted.mapping = .ok (some mapping) ∧
    mapping.entries.countP (·.key = some wanted.key) ≤ 1) ∨
  (Mapping.find? document wanted.mapping = .ok none ∧
    Mapping.isDeclared document wanted.mapping = false ∧ wanted.MayDeclare)

section LastWrite

variable {content : Text} {wanted : EntryUpsert} {document : Document}

open Layout Cell in
/-- All upserts of a key in a document fill one slot. -/
theorem exists_slot (noHeader : wanted.headerLine = none)
    (scannedText : Document.ofText content = .ok document)
    (unambiguous : wanted.Unambiguous document) (sameLine : '\n' ∉ wanted.key) :
    ∃ slot : Slot, slot.Sound wanted.mapping ∧ slot.key = wanted.key ∧
      ∀ {value lexemes}, EntryValue lexemes → textOf lexemes = reindent (strip value) slot.indent →
        upsertEntry content { wanted with value := value } =
          .ok (Outcome.ofTexts content (slot.filled lexemes).content) := by
  rcases unambiguous with ⟨mapping, found, once⟩ | ⟨absent, undeclared, mayDeclare⟩
  · have upserted (value : Text) := @upsertEntry_found content { wanted with value := value }
      document mapping noHeader scannedText found
    obtain ⟨layout, sound, rfl, rfl, _⟩ := Layout.exists_sound scannedText found
    rcases exists_key wanted.key layout.cells with fresh | ⟨front, cell, back, shape, fresh, hasKey⟩
    · obtain ⟨slot, slotSound, sameKey, indent, shape⟩ := sound.exists_newSlot fresh sameLine
      refine ⟨slot, slotSound, sameKey, fun {value lexemes} entryValue text => ?_⟩
      rw [indent] at text
      rw [upserted value, sound.upsert_added fresh entryValue text, shape]
    · have kept : without wanted.key back = back :=
        without_eq_self (fresh_behind once shape hasKey)
      have keptFits :
          Fits true (lexemesOf (without wanted.key back) ++ layout.tail) layout.after := by
        rw [kept]
        exact sound.fits_behind shape
      refine ⟨_, sound.slotOf shape fresh hasKey keptFits sameLine, rfl,
        fun {value lexemes} entryValue text => ?_⟩
      have indent : layout.slotIndent wanted.key front cell back =
          (layout.slotOf wanted.key front cell back).indent := by
        rw [slotIndent, indent_slotOf, kept, withBody_self shape, sound.entryIndent_eq]
      rw [upserted value, sound.upsert_replaced shape fresh hasKey entryValue (indent ▸ text)]
      rfl
  · obtain ⟨front, gap, words, declares⟩ :=
      exists_declaration noHeader scannedText absent undeclared mayDeclare sameLine
    have slotSound : (declaredSlot front gap words wanted.key).Sound wanted.mapping :=
      { sound := fun _ entryValue => (declares entryValue).1
        fresh := fun _ member => absurd member List.not_mem_nil
        dropped := fun _ member => absurd member List.not_mem_nil }
    refine ⟨_, slotSound, rfl, fun {value lexemes} entryValue text => ?_⟩
    rw [indent_declaredSlot] at text
    exact (declares entryValue).2 value text

/-- The last of two upserts of a key gives what it gives alone, and changes nothing if the values
are the same. -/
theorem upsertEntry_lastWrite {earlier : Text} (noHeader : wanted.headerLine = none)
    (scannedText : Document.ofText content = .ok document)
    (unambiguous : wanted.Unambiguous document) (sameLine : '\n' ∉ wanted.key)
    (earlierAdmissible : isEntryValue (strip earlier) = true)
    (admissible : isEntryValue (strip wanted.value) = true) :
    ∃ before after again,
      upsertEntry content { wanted with value := earlier } = .ok before ∧
      upsertEntry content wanted = .ok after ∧
      upsertEntry before.content wanted = .ok again ∧ again.content = after.content ∧
      (earlier = wanted.value → again.changed = false) := by
  obtain ⟨slot, sound, sameKey, upserted⟩ := exists_slot noHeader scannedText unambiguous sameLine
  obtain ⟨first, firstText, firstValue⟩ :=
    exists_reindentedValue earlierAdmissible slot.isMargin_indent
  obtain ⟨second, secondText, secondValue⟩ := exists_reindentedValue admissible slot.isMargin_indent
  have before := upserted firstValue firstText
  have after : upsertEntry content wanted = _ := upserted secondValue secondText
  obtain ⟨updated, updatedText, _, found⟩ := (sound.sound first firstValue).find
  have again := upsertEntry_found noHeader updatedText found
  rw [← sameKey, sound.upsert firstValue secondValue secondText] at again
  refine ⟨_, _, _, before, after, again, rfl, ?_⟩
  rintro rfl
  have same := Except.ok.inj (before.symm.trans after)
  have unchanged : (slot.filled first).content = (slot.filled second).content :=
    congrArg Outcome.content same
  rw [Outcome.ofTexts, unchanged]
  exact decide_eq_false (not_not.mpr rfl)

theorem upsertEntry_lastWrite_lines :
    ∃ before again,
      upsertEntry "const m = \x7b b: 1 \x7d;".toList
        { mapping := ['m'], key := ['a'], value := "[\n2\n]".toList } = .ok before ∧
      upsertEntry before.content { mapping := ['m'], key := ['a'], value := ['3'] } = .ok again ∧
      again.content = "const m = \x7b b: 1,\n  a: 3 \x7d;".toList := by
  let content : Text := "const m = \x7b b: 1 \x7d;".toList
  let wanted : EntryUpsert := { mapping := ['m'], key := ['a'], value := ['3'] }
  obtain ⟨document, mapping, scannedText, found, checked⟩ :=
    @Mapping.exists_located content ['m']
      (fun _ mapping => mapping.entries.countP (·.key = some ['a']) ≤ 1) (by decide +kernel)
  obtain ⟨before, after, again, first, second, third, same, _⟩ :=
    @upsertEntry_lastWrite content wanted document "[\n2\n]".toList rfl scannedText
      (Or.inl ⟨mapping, found, of_decide_eq_true checked⟩) (by decide) (by decide +kernel)
      (by decide +kernel)
  refine ⟨before, again, first, third, ?_⟩
  have alone : (upsertEntry content wanted).toOption.map Outcome.content =
      some "const m = \x7b b: 1,\n  a: 3 \x7d;".toList := by decide +kernel
  rw [second] at alone
  rw [same]
  exact Option.some.inj alone

end LastWrite

end EmbedScaffold
