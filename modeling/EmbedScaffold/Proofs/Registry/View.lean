import EmbedScaffold.Proofs.Registry.Upsert

/-!
# What entries show

An entry shows its key, its text and the text of its value.  These do not depend on where the
entry stands, so they are read from the lexemes of its cell, and an upsert changes them as it
changes the cells: one view is put in the place of its key.
-/

namespace EmbedScaffold

open Text Scan Lexeme

/-- What an entry shows: its key, its text and the text of its value. -/
structure EntryView where
  key : Option Text
  text : Text
  value : Text
  deriving DecidableEq, Repr

/-- What an entry shows in a document. -/
def Entry.view (content : Text) (entry : Entry) : EntryView :=
  ⟨entry.key, slice content entry.start entry.stop, slice content entry.valueStart entry.stop⟩

/-- What the entries of a mapping show, in order. -/
def Mapping.views (content : Text) (mapping : Mapping) : List EntryView :=
  mapping.entries.map (Entry.view content)

namespace EntryView

/-- Put a view in the place of the first one with its key, and drop the later ones; a view with a
new key goes last. -/
def put (view : EntryView) : List EntryView → List EntryView
  | [] => [view]
  | first :: rest =>
      if first.key = view.key then view :: rest.filter (·.key ≠ view.key)
      else first :: put view rest

theorem put_append {view : EntryView} {left : List EntryView}
    (absent : ∀ other ∈ left, other.key ≠ view.key) (right : List EntryView) :
    put view (left ++ right) = left ++ put view right := by
  induction left with
  | nil => rfl
  | cons first rest inductionHypothesis =>
      rw [List.cons_append, put, if_neg (absent first List.mem_cons_self),
        inductionHypothesis fun other member => absent other (List.mem_cons_of_mem _ member)]
      rfl

theorem put_of_absent {view : EntryView} {views : List EntryView}
    (absent : ∀ other ∈ views, other.key ≠ view.key) : put view views = views ++ [view] := by
  have whole := put_append absent []
  rwa [List.append_nil] at whole

/-- What an entry with a key and a value in these texts shows. -/
def ofTexts (key value : Text) : EntryView :=
  ⟨some key, propertyKey key ++ ": ".toList ++ value, value⟩

end EntryView

/-! ## Views of cells -/

namespace Lexeme

theorem behindMark_suffix {mark : Char} {depth : Nat} {lexemes rest : List Lexeme}
    (found : behindMark mark depth lexemes = some rest) :
    ∃ front marked, lexemes = front ++ marked :: rest := by
  induction lexemes generalizing depth with
  | nil => cases found
  | cons first others inductionHypothesis =>
      have goesOn {depth : Nat} (there : behindMark mark depth others = some rest) :
          ∃ front marked, first :: others = front ++ marked :: rest := by
        obtain ⟨front, marked, rfl⟩ := inductionHypothesis there
        exact ⟨first :: front, marked, rfl⟩
      rw [behindMark] at found
      split at found
      · exact goesOn found
      · split at found
        · exact goesOn found
        · split at found
          · cases found
            exact ⟨[], first, rfl⟩
          · exact goesOn found

theorem written_valueOf (body : List Lexeme) :
    ∃ front, written body = front ++ written (valueOf body) := by
  rw [valueOf]
  split
  · next key first rest hasKey found =>
      obtain ⟨front, marked, shape⟩ := behindMark_suffix found
      have text := textOf_append (front ++ [marked]) (first :: rest)
      rw [List.append_assoc, List.singleton_append, ← shape, textOf_eq body,
        textOf_eq (first :: rest)] at text
      cases front with
      | nil =>
          refine ⟨marked.value ++ first.gap, ?_⟩
          rw [shape, List.nil_append, written, textOf_eq, List.append_assoc]
          rfl
      | cons head more =>
          refine ⟨head.value ++ (textOf (more ++ [marked]) ++ first.gap), ?_⟩
          have behind : more ++ marked :: first :: rest = (more ++ [marked]) ++ (first :: rest) := by
            simp
          rw [shape, List.cons_append, written, behind, textOf_append, textOf_eq (first :: rest)]
          simp [firstGap]
  · exact ⟨[], rfl⟩

end Lexeme

namespace Cell

/-- What the entry of a cell shows. -/
def view (cell : Cell) : EntryView :=
  ⟨keyOf cell.body, written cell.body, written (valueOf cell.body)⟩

/-- What the entries of cells show. -/
def views (cells : List Cell) : List EntryView :=
  cells.filterMap fun cell => if cell.body = [] then none else some cell.view

theorem view_entryAt (cell : Cell) (before after : Text) :
    Entry.view (before ++ (textOf cell.lexemes ++ after)) (cell.entryAt before.length) =
      cell.view := by
  obtain ⟨front, shape⟩ := written_valueOf cell.body
  have whole : textOf cell.lexemes = cell.upToBody ++ written cell.body := textOf_lexemes cell
  have text : before ++ (textOf cell.lexemes ++ after) =
      (before ++ cell.upToBody) ++ (written cell.body ++ after) := by
    rw [whole]
    simp
  have valueText : before ++ (textOf cell.lexemes ++ after) =
      (before ++ cell.upToBody ++ front) ++ (written (valueOf cell.body) ++ after) := by
    rw [text, shape]
    simp
  have lengths := congrArg List.length shape
  rw [List.length_append] at lengths
  have start : before.length + (textOf cell.lexemes).length - (written cell.body).length =
      (before ++ cell.upToBody).length := by
    rw [whole, List.length_append, List.length_append]
    omega
  have stop : before.length + (textOf cell.lexemes).length =
      (before ++ cell.upToBody).length + (written cell.body).length := by
    rw [whole, List.length_append, List.length_append]
    omega
  have valueStart : before.length + (textOf cell.lexemes).length -
      (written (valueOf cell.body)).length = (before ++ cell.upToBody ++ front).length := by
    rw [stop, @List.length_append _ (before ++ cell.upToBody)]
    omega
  have valueStop : before.length + (textOf cell.lexemes).length =
      (before ++ cell.upToBody ++ front).length + (written (valueOf cell.body)).length := by
    rw [stop, @List.length_append _ (before ++ cell.upToBody)]
    omega
  rw [Entry.view, view, entryAt, entryTo]
  dsimp only
  congr 1
  · rw [start, stop, text, slice_middle]
  · rw [valueStart, valueStop, valueText, slice_middle]

theorem views_append (left right : List Cell) : views (left ++ right) = views left ++ views right :=
  List.filterMap_append

theorem views_cons {cell : Cell} (filled : cell.body ≠ []) (rest : List Cell) :
    views (cell :: rest) = cell.view :: views rest :=
  List.filterMap_cons_some (if_neg filled)

theorem exists_cell_of_view {cells : List Cell} {view : EntryView} (member : view ∈ views cells) :
    ∃ cell ∈ cells, view.key = keyOf cell.body := by
  obtain ⟨cell, inside, shows⟩ := List.mem_filterMap.mp member
  split at shows
  · cases shows
  · cases shows
    exact ⟨cell, inside, rfl⟩

/-- The views of the cells that are left when those of a key are left out. -/
theorem views_without {key : Text} (cells : List Cell) :
    views (without key cells) = (views cells).filter (·.key ≠ some key) := by
  induction cells with
  | nil => rfl
  | cons cell rest inductionHypothesis =>
      by_cases hasKey : keyOf cell.body = some key
      · rw [without_cons_of_key hasKey, inductionHypothesis, views_cons (body_ne_nil hasKey),
          List.filter_cons_of_neg (by simp [view, hasKey])]
      · rw [without_cons_of_ne hasKey]
        by_cases empty : cell.body = []
        · have shows (rest : List Cell) : views (cell :: rest) = views rest :=
            List.filterMap_cons_none (if_pos empty)
          rw [shows, shows, inductionHypothesis]
        · rw [views_cons empty, views_cons empty, inductionHypothesis,
            List.filter_cons_of_pos (by simp [view, hasKey])]

end Cell

theorem Lexeme.view_newEntry {value : List Lexeme} (entryValue : EntryValue value) (mark : Lexeme)
    (gap key : Text) :
    Cell.view ⟨mark, newEntry gap key value⟩ = EntryView.ofTexts key (textOf value) := by
  rw [Cell.view, keyOf_newEntry, valueOf_newEntry entryValue, written_newEntry entryValue,
    written_withGap, EntryView.ofTexts, textOf_eq value, entryValue.flush, List.nil_append]

namespace Layout

open Cell

variable {name key : Text} {layout : Layout} {front back : List Cell} {cell : Cell}
  {value : List Lexeme}

/-- The entries that are located in the document show what the cells do. -/
theorem views_eq (layout : Layout) :
    layout.mapping.views layout.content = Cell.views layout.cells := by
  have shown := @entriesFrom_filterMap EntryView layout.cells
    (fun content entry => some (Entry.view content entry))
    (fun cell => if cell.body = [] then none else some cell.view)
    (fun _ _ empty => if_pos empty)
    (fun cell _ filled before after => by rw [view_entryAt, if_neg filled])
    (textOf layout.lead) layout.behind
  rw [← content_eq] at shown
  rw [Cell.views, ← shown, Mapping.views, mapping, ← List.filterMap_eq_map']

/-- With a new entry in the cell of its key, the new view is put in the place of the old one. -/
theorem views_withBody (shape : layout.cells = front ++ cell :: back)
    (fresh : ∀ other ∈ front, keyOf other.body ≠ some key) (hasKey : keyOf cell.body = some key)
    (entryValue : EntryValue value) (gap : Text) :
    Cell.views (layout.withBody front cell.mark (newEntry gap key value) (without key back)).cells =
      (EntryView.ofTexts key (textOf value)).put (Cell.views layout.cells) := by
  have absent : ∀ other ∈ Cell.views front, other.key ≠ some key := by
    intro other member
    obtain ⟨found, inside, same⟩ := exists_cell_of_view member
    exact same ▸ fresh found inside
  have first : cell.view.key = (EntryView.ofTexts key (textOf value)).key := hasKey
  rw [shape, views_append, views_cons (body_ne_nil hasKey), EntryView.put_append absent,
    EntryView.put, if_pos first, Layout.withBody]
  dsimp only
  rw [views_append, views_cons (List.cons_ne_nil _ _), view_newEntry entryValue, views_without]
  rfl

/-- With a new entry added, its view goes last. -/
theorem views_withNew (fresh : ∀ cell ∈ layout.cells, keyOf cell.body ≠ some key)
    (entryValue : EntryValue value) :
    Cell.views (layout.withNew key value).cells =
      (EntryView.ofTexts key (textOf value)).put (Cell.views layout.cells) := by
  have absent : ∀ other ∈ Cell.views layout.cells, other.key ≠ some key := by
    intro other member
    obtain ⟨found, inside, same⟩ := exists_cell_of_view member
    exact same ▸ fresh found inside
  have alone (mark : Lexeme) (gap : Text) :
      Cell.views [⟨mark, newEntry gap key value⟩] = [EntryView.ofTexts key (textOf value)] := by
    rw [views_cons (List.cons_ne_nil _ _), view_newEntry entryValue]
    rfl
  rw [EntryView.put_of_absent absent, Layout.withNew]
  split
  · rw [views_append, alone]
  · next brace _ shape => rw [shape, alone]; rfl
  · rw [views_append, alone]

end Layout

end EmbedScaffold
