import EmbedScaffold.Proofs.Registry.Indent
import EmbedScaffold.Proofs.Registry.NewEntry

/-!
# Editing a layout

A layout stays sound when the entry of one of its cells is exchanged for a new one, when later
cells are left out, and when a cell is added behind the others.  Each edit exchanges lexemes
between two marks, so the lexemes around it are scanned as before.
-/

namespace EmbedScaffold

open Text Scan Lexeme

namespace Lexeme

/-- Lexemes of which the first is a mark. -/
def BeginsWithMark (lexemes : List Lexeme) : Prop :=
  ∃ first rest mark, lexemes = first :: rest ∧ isMark mark = true ∧ first.isPunct mark = true

theorem BeginsWithMark.soft {lexemes : List Lexeme} (begins : BeginsWithMark lexemes)
    {allowed : Bool} {after : Text} (fits : Fits allowed lexemes after) :
    Soft (textOf lexemes ++ after) := by
  obtain ⟨first, rest, mark, rfl, marks, isPunct⟩ := begins
  rw [textOf_cons, List.append_assoc]
  exact soft_of_mark fits.1 marks isPunct _

theorem BeginsWithMark.reflag {lexemes : List Lexeme} (begins : BeginsWithMark lexemes)
    {allowed : Bool} {after : Text} (fits : Fits allowed lexemes after) (other : Bool) :
    Fits other lexemes after := by
  obtain ⟨first, rest, mark, rfl, marks, isPunct⟩ := begins
  exact fits.reflag marks isPunct other

theorem allowsRegex_of_isPunct {lexeme : Lexeme} {mark : Char}
    (isPunct : lexeme.isPunct mark = true) :
    lexeme.token.allowsRegex = Token.marksBeforeRegex.contains mark := by
  rw [Token.allowsRegex, mark?_of_isPunct isPunct, token_kind,
    ((Lexeme.isPunct_iff _ _).mp isPunct).1]
  rfl

def comma : Lexeme :=
  ⟨[], .punct, [',']⟩

end Lexeme

namespace Cell

theorem beginsWithMark {cells : List Cell} (commas : ∀ cell ∈ cells, cell.mark.isPunct ',' = true)
    {rest : List Lexeme} (begins : BeginsWithMark rest) :
    BeginsWithMark (lexemesOf cells ++ rest) := by
  cases cells with
  | nil => exact begins
  | cons first others =>
      exact ⟨first.mark, _, ',', rfl, rfl, commas first List.mem_cons_self⟩

/-- The entry does not end in a bare slash, so that anything may follow that is no part of it. -/
def Loose (cell : Cell) : Prop :=
  ∀ last ∈ cell.body.getLast?, last.value ≠ ['/']

/-- Cells may be left out behind entries that do not end in a bare slash. -/
theorem fits_filter {cells : List Cell} (commas : ∀ cell ∈ cells, cell.mark.isPunct ',' = true)
    (loose : ∀ cell ∈ cells, cell.Loose) (kept : Cell → Bool) {rest : List Lexeme}
    (begins : BeginsWithMark rest) {allowed : Bool} {after : Text}
    (fits : Fits allowed (lexemesOf cells ++ rest) after) :
    Fits allowed (lexemesOf (cells.filter kept) ++ rest) after := by
  induction cells generalizing allowed with
  | nil => exact fits
  | cons cell others inductionHypothesis =>
      have otherCommas : ∀ cell ∈ others, cell.mark.isPunct ',' = true :=
        fun cell member => commas cell (List.mem_cons_of_mem _ member)
      have keptCommas : ∀ cell ∈ others.filter kept, cell.mark.isPunct ',' = true :=
        fun cell member => otherCommas cell (List.mem_filter.mp member).1
      have goesOn := @inductionHypothesis otherCommas
        (fun cell member => loose cell (List.mem_cons_of_mem _ member))
      have shape (cells : List Cell) : lexemesOf (cell :: cells) ++ rest =
          [cell.mark] ++ (cell.body ++ (lexemesOf cells ++ rest)) := by
        simp
      rw [shape] at fits
      obtain ⟨markFits, behind⟩ := fits_append.mp fits
      obtain ⟨bodyFits, restFits⟩ := fits_append.mp behind
      have keptFits := goesOn restFits
      have keptBegins := beginsWithMark keptCommas begins
      by_cases isKept : kept cell = true
      · rw [List.filter_cons_of_pos isKept, shape]
        refine fits_append.mpr ⟨markFits.retail ?_, fits_append.mpr ⟨bodyFits.retail ?_, keptFits⟩⟩
        · intro last member
          obtain rfl : cell.mark = last := Option.some.inj member
          exact Apart.mark (show isMark ',' = true from rfl) (commas _ List.mem_cons_self) _
        · intro last member
          exact Apart.ofSoft (keptBegins.soft keptFits) (loose cell List.mem_cons_self last member)
      · rw [List.filter_cons_of_neg isKept]
        exact keptBegins.reflag keptFits allowed

end Cell

namespace Layout

open Cell

variable {name : Text} {layout : Layout}

/-- The brackets of a mapping are all closed behind it. -/
theorem closes_cells {cells : List Cell} {closing : Lexeme} (marked : Marked cells)
    (nests : ∀ cell ∈ cells, Nest (·.isPunct ',') cell.body)
    (closes : closing.isPunct '\x7d' = true) (pending : List Char) (rest : List Lexeme) :
    Lexeme.closes pending (lexemesOf cells ++ closing :: rest) = Lexeme.closes pending rest := by
  obtain ⟨brace, inner, shape, isBrace, balanced⟩ := exists_braced marked nests
  have opens := closing_of_brace isBrace
  rw [shape, List.cons_append, closes_opener _ _ opens, balanced.closes_append,
    closes_closer _ _ _ (isOpener_of_closer opens closes) (isCloser_of_closing opens closes),
    closes, Bool.true_and]

/-- A layout with other entries in it stays sound if its lexemes are scanned as they stand. -/
theorem Sound.edit (sound : layout.Sound name) {edited : Layout}
    (lead : edited.lead = layout.lead) (rest : edited.rest = layout.rest)
    (after : edited.after = layout.after)
    (brace : edited.cells.head?.map Cell.mark = layout.cells.head?.map Cell.mark)
    (fits : Fits true edited.lexemes edited.after) (marked : Marked edited.allCells)
    (nests : ∀ cell ∈ edited.cells, Nest (·.isPunct ',') cell.body)
    (closes : edited.closing.isPunct '\x7d' = true)
    (filled : (edited.trailing = none ∧ ∃ brace, edited.cells = [bare brace]) ∨
      (edited.cells ≠ [] ∧ ∀ cell ∈ edited.cells, cell.body ≠ [])) : edited.Sound name := by
  have nestsAll : ∀ cell ∈ edited.allCells, Nest (·.isPunct ',') cell.body := by
    intro cell member
    rcases List.mem_append.mp member with inCells | isComma
    · exact nests cell inCells
    · obtain ⟨mark, _, rfl⟩ := List.mem_map.mp isComma
      exact .nil _
  refine ⟨fits, after ▸ sound.ends, ?_, ?_, marked, nests, closes, filled⟩
  · have same : ∀ pending,
        Lexeme.closes pending (lexemesOf edited.allCells ++ edited.closing :: edited.rest) =
          Lexeme.closes pending (lexemesOf layout.allCells ++ layout.closing :: layout.rest) := by
      intro pending
      rw [closes_cells marked nestsAll closes,
        closes_cells sound.marked sound.nests_all sound.closes, rest]
    have closed := sound.closed
    rw [lexemes] at closed ⊢
    rw [lead, closes_congr same]
    exact closed
  · have located := sound.located
    obtain ⟨first, others, shape, _⟩ := sound.exists_first
    have found : ∃ editedFirst editedOthers, edited.cells = editedFirst :: editedOthers ∧
        editedFirst.mark = first.mark := by
      rw [shape] at brace
      obtain ⟨editedFirst, isFirst, sameMark⟩ := Option.map_eq_some_iff.mp brace
      obtain ⟨editedOthers, editedShape⟩ := List.head?_eq_some_iff.mp isFirst
      exact ⟨editedFirst, editedOthers, editedShape, sameMark⟩
    obtain ⟨editedFirst, editedOthers, editedShape, sameMark⟩ := found
    rw [lexemes, tokensAt_append, allCells, shape, List.cons_append, lexemesOf_cons,
      List.cons_append, tokensAt, ← tokensAt_length 0 layout.lead, ← Nat.zero_add
        (tokensAt 0 layout.lead).length] at located
    rw [lexemes, tokensAt_append, allCells, editedShape, List.cons_append, lexemesOf_cons,
      List.cons_append, tokensAt, sameMark, lead, ← tokensAt_length 0 layout.lead, ← Nat.zero_add
        (tokensAt 0 layout.lead).length]
    exact Mapping.braceFrom?_local located _

/-! ## Exchanging an entry -/

theorem Sound.begins_tail (sound : layout.Sound name) : BeginsWithMark layout.tail := by
  obtain ⟨first, others, shape, _⟩ := sound.exists_first
  have marked := sound.marked
  rw [allCells, shape] at marked
  rw [tail]
  cases found : layout.trailing with
  | none => exact ⟨layout.closing, layout.rest, '\x7d', rfl, rfl, sound.closes⟩
  | some mark =>
      rw [found] at marked
      exact ⟨mark, _, ',', rfl, rfl, marked.2 (bare mark) (by simp)⟩

theorem Sound.mark_allowsRegex (sound : layout.Sound name) {cell : Cell}
    (member : cell ∈ layout.cells) :
    cell.mark.token.allowsRegex = true ∧ ∀ after, Apart cell.mark after := by
  obtain ⟨first, others, shape, isBrace, commas⟩ := sound.exists_first
  rw [shape] at member
  rcases List.mem_cons.mp member with rfl | inOthers
  · exact ⟨(allowsRegex_of_isPunct isBrace).trans (by decide),
      Apart.mark (show isMark '\x7b' = true from rfl) isBrace⟩
  · have isComma := commas cell inOthers
    exact ⟨(allowsRegex_of_isPunct isComma).trans (by decide),
      Apart.mark (show isMark ',' = true from rfl) isComma⟩

theorem Fits.firstGap {allowed : Bool} {lexemes : List Lexeme} {after : Text}
    (fits : Fits allowed lexemes after) : Trivia (firstGap lexemes) := by
  cases lexemes with
  | nil => exact Trivia.nil
  | cons first rest => exact fits.1

/-- The layout with another entry in the cell behind `front`, and `kept` behind that cell. -/
def withBody (layout : Layout) (front : List Cell) (mark : Lexeme) (body : List Lexeme)
    (kept : List Cell) : Layout :=
  { layout with cells := front ++ ⟨mark, body⟩ :: kept }

variable {front back kept : List Cell} {cell : Cell} {body : List Lexeme}

theorem lexemes_cell (shape : layout.cells = front ++ cell :: back) :
    layout.lexemes = (layout.lead ++ lexemesOf front ++ [cell.mark]) ++
      (cell.body ++ (lexemesOf back ++ layout.tail)) := by
  rw [lexemes_eq, shape]
  simp

theorem Sound.flag_cell (sound : layout.Sound name)
    (shape : layout.cells = front ++ cell :: back) :
    allowsBehind true (layout.lead ++ lexemesOf front ++ [cell.mark]) = true := by
  rw [allowsBehind_append, allowsBehind_cons]
  exact (sound.mark_allowsRegex (by simp [shape])).1

theorem Sound.fits_cell (sound : layout.Sound name)
    (shape : layout.cells = front ++ cell :: back) :
    Fits true cell.body (textOf (lexemesOf back ++ layout.tail) ++ layout.after) ∧
      ∃ allowed, Fits allowed (lexemesOf back ++ layout.tail) layout.after := by
  have fits := sound.fits
  rw [lexemes_cell shape] at fits
  have behind := (fits_append.mp fits).2
  rw [sound.flag_cell shape] at behind
  exact ⟨(fits_append.mp behind).1, _, (fits_append.mp behind).2⟩

theorem Sound.full (sound : layout.Sound name) (inside : cell ∈ layout.cells)
    (nonempty : cell.body ≠ []) : ∀ other ∈ layout.cells, other.body ≠ [] := by
  rcases sound.filled with ⟨_, brace, alone⟩ | ⟨_, full⟩
  · rw [alone, List.mem_singleton] at inside
    exact absurd (congrArg Cell.body inside) nonempty
  · exact full

/-- All cells behind the first begin with a comma, and so does a trailing comma. -/
theorem Sound.commas_behind (sound : layout.Sound name)
    (shape : layout.cells = front ++ cell :: back) :
    Marked (front ++ [cell]) ∧
      ∀ other ∈ back ++ layout.trailing.toList.map bare, other.mark.isPunct ',' = true := by
  have parts : layout.allCells =
      (front ++ [cell]) ++ (back ++ layout.trailing.toList.map bare) := by
    simp [allCells, shape]
  have marked := sound.marked
  rw [parts] at marked
  exact (marked_append (by simp)).mp marked

theorem Sound.withBody (sound : layout.Sound name)
    (shape : layout.cells = front ++ cell :: back) (nonempty : cell.body ≠ [])
    (fewer : ∀ other ∈ kept, other ∈ back)
    (keptFits : Fits true (lexemesOf kept ++ layout.tail) layout.after)
    (filled : body ≠ []) (nest : Nest (·.isPunct ',') body)
    (fits : ∀ after, Soft after → Fits true body after) :
    (layout.withBody front cell.mark body kept).Sound name := by
  have inside : cell ∈ layout.cells := by simp [shape]
  have keptInside : ∀ other ∈ kept, other ∈ layout.cells := by
    intro other member
    simp [shape, fewer other member]
  have full := sound.full inside nonempty
  obtain ⟨marked, commas⟩ := sound.commas_behind shape
  have keptCommas : ∀ other ∈ kept, other.mark.isPunct ',' = true :=
    fun other member => commas other (List.mem_append_left _ (fewer other member))
  have begins := beginsWithMark keptCommas sound.begins_tail
  have editedCut : (layout.withBody front cell.mark body kept).lexemes =
      (layout.lead ++ lexemesOf front ++ [cell.mark]) ++
        (body ++ (lexemesOf kept ++ layout.tail)) := by
    rw [lexemes_eq, Layout.withBody]
    simp [tail]
  refine sound.edit rfl rfl rfl ?_ ?_ ?_ ?_ sound.closes (Or.inr ⟨?_, ?_⟩)
  · rw [shape, Layout.withBody]
    cases front <;> rfl
  · have whole := sound.fits
    rw [lexemes_cell shape] at whole
    rw [editedCut]
    refine whole.exchange ?_ ?_
    · rw [sound.flag_cell shape]
      exact fits_append.mpr ⟨fits _ (begins.soft keptFits), begins.reflag keptFits _⟩
    · intro last member
      rw [List.getLast?_concat] at member
      obtain rfl := Option.some.inj member
      exact (sound.mark_allowsRegex inside).2 _
  · have editedParts : (layout.withBody front cell.mark body kept).allCells =
        (front ++ [⟨cell.mark, body⟩]) ++ (kept ++ layout.trailing.toList.map bare) := by
      simp [allCells, Layout.withBody]
    rw [editedParts, marked_append (by simp)]
    refine ⟨marked_concat cell _ rfl marked, fun other member => ?_⟩
    rcases List.mem_append.mp member with inKept | isTrailing
    · exact keptCommas other inKept
    · exact commas other (List.mem_append_right _ isTrailing)
  · intro other member
    rcases List.mem_append.mp member with inFront | behind
    · exact sound.nests other (by simp [shape, inFront])
    · rcases List.mem_cons.mp behind with rfl | inKept
      · exact nest
      · exact sound.nests other (keptInside other inKept)
  · exact List.append_ne_nil_of_right_ne_nil _ (List.cons_ne_nil _ _)
  · intro other member
    rcases List.mem_append.mp member with inFront | behind
    · exact full other (by simp [shape, inFront])
    · rcases List.mem_cons.mp behind with rfl | inKept
      · exact filled
      · exact full other (keptInside other inKept)

/-- What stands behind a cell is scanned as it stands, also without some of the cells there if no
entry ends in a bare slash. -/
theorem Sound.fits_behind (sound : layout.Sound name)
    (shape : layout.cells = front ++ cell :: back) :
    Fits true (lexemesOf back ++ layout.tail) layout.after := by
  obtain ⟨_, allowed, fits⟩ := sound.fits_cell shape
  obtain ⟨_, commas⟩ := sound.commas_behind shape
  exact (beginsWithMark (fun other member => commas other (List.mem_append_left _ member))
    sound.begins_tail).reflag fits true

theorem Sound.fits_kept (sound : layout.Sound name)
    (shape : layout.cells = front ++ cell :: back) (loose : ∀ other ∈ back, other.Loose)
    (isKept : Cell → Bool) :
    Fits true (lexemesOf (back.filter isKept) ++ layout.tail) layout.after := by
  obtain ⟨_, commas⟩ := sound.commas_behind shape
  exact fits_filter (fun other member => commas other (List.mem_append_left _ member)) loose
    isKept sound.begins_tail (sound.fits_behind shape)

variable {key : Text} {value : List Lexeme}

theorem Sound.withEntry (sound : layout.Sound name)
    (shape : layout.cells = front ++ cell :: back) (nonempty : cell.body ≠ [])
    (fewer : ∀ other ∈ kept, other ∈ back)
    (keptFits : Fits true (lexemesOf kept ++ layout.tail) layout.after)
    (entryValue : EntryValue value) (sameLine : '\n' ∉ key) :
    (layout.withBody front cell.mark (newEntry (firstGap cell.body) key value) kept).Sound name :=
  sound.withBody shape nonempty fewer keptFits (List.cons_ne_nil _ _) (nest_newEntry entryValue)
    fun _ soft => fits_newEntry entryValue (Fits.firstGap (sound.fits_cell shape).1) sameLine soft

theorem Sound.withoutCells (sound : layout.Sound name)
    (shape : layout.cells = front ++ cell :: back) (nonempty : cell.body ≠ [])
    (loose : ∀ other ∈ cell :: back, other.Loose) (isKept : Cell → Bool) :
    (layout.withBody front cell.mark cell.body (back.filter isKept)).Sound name :=
  sound.withBody shape nonempty (fun _ member => (List.mem_filter.mp member).1)
    (sound.fits_kept shape (fun other member => loose other (List.mem_cons_of_mem _ member)) isKept)
    nonempty (sound.nests cell (by simp [shape]))
    fun _ soft => (sound.fits_cell shape).1.retail fun last member =>
      Apart.ofSoft soft (loose cell List.mem_cons_self last member)

end Layout

end EmbedScaffold
