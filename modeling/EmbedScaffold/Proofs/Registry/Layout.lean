import EmbedScaffold.Proofs.Registry.Entry

/-!
# The layout of a document with a mapping

A document in which a mapping is found is cut into what stands before the mapping, its entries
with the marks before them, and what stands behind.  `Layout.Sound` says when such pieces make up
a document in which the mapping is found as they have it; `Layout.exists_sound` and
`Layout.Sound.find` show that sound layouts and documents with a mapping are the same.
-/

namespace EmbedScaffold

open Scan Lexeme

/-! ## Locating the brace -/

namespace Mapping

theorem braceFrom?_cons (name : Text) (index : Nat) (previous : Option Token)
    (word operator brace : Token) (rest : List Token) :
    braceFrom? name index previous (word :: operator :: brace :: rest) =
      if word.isWord name && ! ((previous.map (·.isPunct '.')).getD false) &&
          brace.isPunct '\x7b' && introduces previous operator then some (index + 2)
      else braceFrom? name (index + 1) (some word) (operator :: brace :: rest) := by
  rw [braceFrom?]

/-- The brace stands behind two tokens that introduce it. -/
theorem braceFrom?_shape {name : Text} {index found : Nat} {previous : Option Token}
    {tokens : List Token} (located : braceFrom? name index previous tokens = some found) :
    ∃ lead brace rest, tokens = lead ++ brace :: rest ∧ found = index + lead.length ∧
      2 ≤ lead.length ∧ brace.isPunct '\x7b' = true := by
  fun_induction braceFrom? name index previous tokens with
  | case1 index previous word operator brace rest matched =>
      cases located
      simp only [Bool.and_eq_true] at matched
      exact ⟨[word, operator], brace, rest, rfl, rfl, Nat.le_refl 2, matched.1.2⟩
  | case2 index previous word operator brace rest _ inductionHypothesis =>
      obtain ⟨lead, found, more, shape, rfl, longer, isBrace⟩ := inductionHypothesis located
      refine ⟨word :: lead, found, more, by rw [shape]; rfl, ?_, Nat.le_succ_of_le longer, isBrace⟩
      rw [List.length_cons]
      omega
  | case3 => cases located

/-- The brace is located without regard to what stands behind it. -/
theorem braceFrom?_local {name : Text} {index : Nat} {previous : Option Token}
    {lead : List Token} {brace : Token} {rest : List Token}
    (located : braceFrom? name index previous (lead ++ brace :: rest) =
      some (index + lead.length)) (other : List Token) :
    braceFrom? name index previous (lead ++ brace :: other) = some (index + lead.length) := by
  have longEnough {index : Nat} {previous : Option Token} {tokens : List Token} {found : Nat}
      (there : braceFrom? name index previous tokens = some found) : index + 2 ≤ found := by
    obtain ⟨lead, _, _, _, rfl, longer, _⟩ := braceFrom?_shape there
    omega
  induction lead generalizing index previous with
  | nil => exact absurd (longEnough located) (by simp)
  | cons word behind inductionHypothesis =>
      cases behind with
      | nil => exact absurd (longEnough located) (by simp)
      | cons operator more =>
          have shift : index + 1 + (operator :: more).length =
              index + (word :: operator :: more).length := by
            simp only [List.length_cons]
            omega
          cases more with
          | nil =>
              simp only [List.cons_append, List.nil_append, List.length_cons, List.length_nil,
                braceFrom?_cons] at located ⊢
              split at located
              · next matched => rw [if_pos matched]
              · exact absurd (longEnough located) (by omega)
          | cons third others =>
              simp only [List.cons_append, braceFrom?_cons] at located ⊢
              split at located
              · exact absurd (Option.some.inj located) (by simp only [List.length_cons]; omega)
              · next unmatched =>
                  rw [if_neg unmatched]
                  rw [← shift] at located ⊢
                  exact inductionHypothesis located

end Mapping

/-! ## Layouts -/

/-- A mark that separates entries, with the entry behind it. -/
structure Cell where
  mark : Lexeme
  body : List Lexeme

namespace Cell

/-- The mark and the entry behind it. -/
def lexemes (cell : Cell) : List Lexeme :=
  cell.mark :: cell.body

def lexemesOf (cells : List Cell) : List Lexeme :=
  cells.flatMap lexemes

/-- A mark with no entry behind it. -/
def bare (mark : Lexeme) : Cell :=
  ⟨mark, []⟩

/-- The entries of cells that are written from an offset on. -/
def entriesFrom (offset : Nat) : List Cell → List Entry
  | [] => []
  | cell :: rest =>
      let stop := offset + (textOf cell.lexemes).length
      (if cell.body = [] then [] else [entryTo stop cell.body]) ++ entriesFrom stop rest

/-- The entry of a cell that is written at an offset. -/
def entryAt (offset : Nat) (cell : Cell) : Entry :=
  entryTo (offset + (textOf cell.lexemes).length) cell.body

/-- The first cell begins with the opening brace, the others with a comma. -/
def Marked : List Cell → Prop
  | [] => False
  | first :: others =>
      first.mark.isPunct '\x7b' = true ∧ ∀ cell ∈ others, cell.mark.isPunct ',' = true

end Cell

namespace Cell

/-- The index of the token behind each cell, if `index` is that of the first mark. -/
def boundaries (index : Nat) : List Cell → List Nat
  | [] => []
  | cell :: rest =>
      let stop := index + cell.lexemes.length
      stop :: boundaries stop rest

@[simp]
theorem lexemesOf_nil : lexemesOf [] = [] :=
  rfl

@[simp]
theorem lexemesOf_cons (cell : Cell) (rest : List Cell) :
    lexemesOf (cell :: rest) = cell.mark :: (cell.body ++ lexemesOf rest) :=
  rfl

@[simp]
theorem lexemesOf_append (left right : List Cell) :
    lexemesOf (left ++ right) = lexemesOf left ++ lexemesOf right :=
  List.flatMap_append

theorem mem_lexemesOf {cells : List Cell} {cell : Cell} (member : cell ∈ cells) {lexeme : Lexeme}
    (inside : lexeme ∈ cell.lexemes) : lexeme ∈ lexemesOf cells :=
  List.mem_flatMap.mpr ⟨cell, member, inside⟩

theorem boundaries_append (index : Nat) (left right : List Cell) :
    boundaries index (left ++ right) =
      boundaries index left ++ boundaries (index + (lexemesOf left).length) right := by
  induction left generalizing index with
  | nil => rfl
  | cons first rest inductionHypothesis =>
      rw [List.cons_append, boundaries, inductionHypothesis, boundaries, Nat.add_assoc,
        ← List.length_append]
      rfl

theorem boundaries_getLast? {index : Nat} {cells : List Cell} (nonempty : cells ≠ []) :
    (boundaries index cells).getLast? = some (index + (lexemesOf cells).length) := by
  rcases List.eq_nil_or_concat cells with rfl | ⟨others, last, rfl⟩
  · exact absurd rfl nonempty
  · rw [List.concat_eq_append, boundaries_append, boundaries, boundaries, List.getLast?_concat,
      lexemesOf_append, List.length_append, Nat.add_assoc]
    simp [Cell.lexemes]

theorem entriesFrom_append (offset : Nat) (left right : List Cell) :
    entriesFrom offset (left ++ right) =
      entriesFrom offset left ++ entriesFrom (offset + (textOf (lexemesOf left)).length) right := by
  induction left generalizing offset with
  | nil => rfl
  | cons first rest inductionHypothesis =>
      have whole : textOf (lexemesOf (first :: rest)) =
          textOf first.lexemes ++ textOf (lexemesOf rest) :=
        textOf_append first.lexemes (lexemesOf rest)
      rw [List.cons_append, entriesFrom, inductionHypothesis, entriesFrom, whole,
        List.length_append, Nat.add_assoc, List.append_assoc]

/-- What is read of the entries in a text, if each cell shows it of its own entry. -/
theorem entriesFrom_filterMap {Shown : Type} {cells : List Cell}
    {read : Text → Entry → Option Shown} {shown : Cell → Option Shown}
    (empty : ∀ cell ∈ cells, cell.body = [] → shown cell = none)
    (filled : ∀ cell ∈ cells, cell.body ≠ [] → ∀ before after,
      read (before ++ (textOf cell.lexemes ++ after)) (cell.entryAt before.length) = shown cell)
    (before after : Text) :
    (entriesFrom before.length cells).filterMap
        (read (before ++ (textOf (lexemesOf cells) ++ after))) = cells.filterMap shown := by
  induction cells generalizing before with
  | nil => rfl
  | cons cell rest inductionHypothesis =>
      have text : before ++ (textOf (lexemesOf (cell :: rest)) ++ after) =
          before ++ textOf cell.lexemes ++ (textOf (lexemesOf rest) ++ after) := by
        simp [Cell.lexemes]
      have behind := inductionHypothesis
        (fun other member => empty other (List.mem_cons_of_mem _ member))
        (fun other member => filled other (List.mem_cons_of_mem _ member))
        (before ++ textOf cell.lexemes)
      rw [List.length_append] at behind
      rw [entriesFrom, List.filterMap_append, text, behind]
      by_cases isEmpty : cell.body = []
      · rw [if_pos isEmpty, List.filterMap_cons_none (empty cell List.mem_cons_self isEmpty)]
        rfl
      · have own := filled cell List.mem_cons_self isEmpty before
          (textOf (lexemesOf rest) ++ after)
        rw [← List.append_assoc] at own
        rw [if_neg isEmpty, List.filterMap_cons, List.filterMap_nil, ← entryAt, own,
          List.filterMap_cons]
        cases shown cell <;> rfl

theorem marked_append {left right : List Cell} (nonempty : left ≠ []) :
    Marked (left ++ right) ↔ Marked left ∧ ∀ cell ∈ right, cell.mark.isPunct ',' = true := by
  cases left with
  | nil => exact absurd rfl nonempty
  | cons first others => simp [Marked, or_imp, forall_and, and_assoc]

/-- Only the marks of cells count. -/
theorem marked_concat {front : List Cell} (cell other : Cell) (same : other.mark = cell.mark)
    (marked : Marked (front ++ [cell])) : Marked (front ++ [other]) := by
  cases front with
  | nil => exact ⟨same ▸ marked.1, fun _ member => by cases member⟩
  | cons first others =>
      refine ⟨marked.1, fun found member => ?_⟩
      rcases List.mem_append.mp member with inOthers | isLast
      · exact marked.2 found (List.mem_append_left _ inOthers)
      · rw [List.mem_singleton.mp isLast, same]
        exact marked.2 cell (List.mem_append_right _ (List.mem_singleton_self cell))

end Cell

/-! ## Reading the entries of a mapping -/

theorem not_isOpener_of_comma {lexeme : Lexeme} (isComma : lexeme.isPunct ',' = true) :
    lexeme.token.isOpener = false := by
  rw [Token.isOpener, Token.closing?, mark?_of_isPunct isComma]
  rfl

theorem not_isCloser_of_comma {lexeme : Lexeme} (isComma : lexeme.isPunct ',' = true) :
    lexeme.token.isCloser = false := by
  rw [Token.isCloser, mark?_of_isPunct isComma]
  rfl

theorem closing_of_brace {lexeme : Lexeme} (isBrace : lexeme.isPunct '\x7b' = true) :
    lexeme.token.closing? = some '\x7d' := by
  rw [Token.closing?, mark?_of_isPunct isBrace]
  rfl

/-- Entries with commas before them are balanced together. -/
theorem Cell.balanced {cells : List Cell}
    (commas : ∀ cell ∈ cells, cell.mark.isPunct ',' = true)
    (nests : ∀ cell ∈ cells, Nest (·.isPunct ',') cell.body) : Balanced (lexemesOf cells) := by
  induction cells with
  | nil => exact .nil _
  | cons first rest inductionHypothesis =>
      have isComma := commas first List.mem_cons_self
      exact .plain (not_isOpener_of_comma isComma) (not_isCloser_of_comma isComma) rfl <|
        (nests first List.mem_cons_self).balanced.append <|
          inductionHypothesis (fun cell member => commas cell (List.mem_cons_of_mem _ member))
            fun cell member => nests cell (List.mem_cons_of_mem _ member)

/-- The lexemes of a mapping are an opening brace and balanced lexemes behind it. -/
theorem Cell.exists_braced {cells : List Cell} (marked : Marked cells)
    (nests : ∀ cell ∈ cells, Nest (·.isPunct ',') cell.body) :
    ∃ brace inner, lexemesOf cells = brace :: inner ∧ brace.isPunct '\x7b' = true ∧
      Balanced inner := by
  cases cells with
  | nil => exact marked.elim
  | cons first others =>
      obtain ⟨isBrace, commas⟩ := marked
      exact ⟨first.mark, _, lexemesOf_cons .., isBrace,
        (nests first List.mem_cons_self).balanced.append <|
          Cell.balanced commas fun cell member => nests cell (List.mem_cons_of_mem _ member)⟩

namespace Scanned

open Cell

variable {document : Document} {after : Text} {front back : List Lexeme} {cells : List Cell}
  {closing : Lexeme}

section

variable {cell : Cell} {more : List Lexeme}

theorem pass_mark
    (scanned : Scanned document (front ++ (lexemesOf (cell :: cells) ++ more)) after) :
    Scanned document ((front ++ [cell.mark]) ++ (cell.body ++ (lexemesOf cells ++ more))) after := by
  rw [← List.append_assoc cell.body, List.append_assoc]
  exact scanned

theorem pass_cell
    (scanned : Scanned document (front ++ (lexemesOf (cell :: cells) ++ more)) after) :
    Scanned document ((front ++ cell.lexemes) ++ (lexemesOf cells ++ more)) after := by
  rw [List.append_assoc, ← List.append_assoc cell.lexemes]
  exact scanned

theorem length_pass_mark (front : List Lexeme) (cell : Cell) :
    (front ++ [cell.mark]).length + cell.body.length = front.length + cell.lexemes.length := by
  rw [List.length_append, List.length_singleton, Cell.lexemes, List.length_cons, Nat.add_assoc,
    Nat.add_comm 1]

theorem length_lexemesOf_cons (cell : Cell) (cells : List Cell) :
    (lexemesOf (cell :: cells)).length = cell.lexemes.length + (lexemesOf cells).length :=
  List.length_append

end

/-- The commas between the braces stand before all cells but the first. -/
theorem separators_eq
    (scanned : Scanned document (front ++ (lexemesOf cells ++ closing :: back)) after)
    (nonempty : cells ≠ []) (commas : ∀ cell ∈ cells.tail, cell.mark.isPunct ',' = true)
    (nests : ∀ cell ∈ cells, Nest (·.isPunct ',') cell.body) :
    document.topLevel [','] (front.length + 1) (front.length + (lexemesOf cells).length) ++
        [front.length + (lexemesOf cells).length] =
      boundaries front.length cells := by
  induction cells generalizing front with
  | nil => exact absurd rfl nonempty
  | cons cell rest inductionHypothesis =>
      obtain ⟨ownNest, otherNests⟩ := List.forall_mem_cons.mp nests
      have passed : document.topLevel [','] (front ++ [cell.mark]).length
          (front.length + (lexemesOf (cell :: rest)).length) = _ :=
        scanned.pass_mark.topLevel_nest (fun _ goesOn => goesOn) ownNest
          (by rw [length_pass_mark, length_lexemesOf_cons]; omega)
      rw [length_pass_mark, List.length_append, List.length_singleton] at passed
      rw [passed, boundaries]
      cases rest with
      | nil =>
          rw [length_lexemesOf_cons, lexemesOf_nil, List.length_nil, Nat.add_zero, topLevel_self]
          rfl
      | cons next more =>
          obtain ⟨comma, otherCommas⟩ := List.forall_mem_cons.mp commas
          -- the mark of the next cell is the first comma behind the body of this one
          have found : document.topLevel [','] (front ++ cell.lexemes).length
              ((front ++ cell.lexemes).length + (lexemesOf (next :: more)).length) = _ :=
            scanned.pass_cell.topLevel_mark
              (by rw [lexemesOf_cons, List.length_cons]; omega)
              (not_isOpener_of_comma comma) comma
          have behind := inductionHypothesis scanned.pass_cell (List.cons_ne_nil _ _) otherCommas
            otherNests
          rw [length_lexemesOf_cons cell, ← Nat.add_assoc, ← List.length_append, found,
            List.cons_append, behind]

/-- The entries of a mapping are those of its cells, of which the last alone may have none. -/
theorem entriesFrom_iff {name : Text}
    (scanned : Scanned document (front ++ (lexemesOf cells ++ closing :: back)) after)
    (nests : ∀ cell ∈ cells, Nest (·.isPunct ',') cell.body) (entries : List Entry) :
    Mapping.entriesFrom document name (front.length + 1) (boundaries front.length cells) =
        .ok entries ↔
      (∀ cell ∈ cells.dropLast, cell.body ≠ []) ∧
        entries = Cell.entriesFrom (textOf front).length cells := by
  induction cells generalizing front entries with
  | nil => simp [boundaries, Mapping.entriesFrom, Cell.entriesFrom, eq_comm]
  | cons cell rest inductionHypothesis =>
      obtain ⟨ownNest, otherNests⟩ := List.forall_mem_cons.mp nests
      have stop := length_pass_mark front cell
      rw [List.length_append, List.length_singleton] at stop
      have filled : front.length + 1 < front.length + cell.lexemes.length ↔ cell.body ≠ [] := by
        rw [← stop, ← List.length_pos_iff]
        omega
      have entry (nonempty : cell.body ≠ []) : Mapping.entryAt document (front.length + 1)
          (front.length + cell.lexemes.length) =
            entryTo ((textOf front).length + (textOf cell.lexemes).length) cell.body := by
        have read := scanned.pass_mark.entryAt_eq nonempty ownNest.balanced
        rw [length_pass_mark, List.length_append, List.length_singleton] at read
        rw [read]
        simp [Cell.lexemes]
      rw [boundaries, Cell.entriesFrom]
      cases rest with
      | nil =>
          simp only [boundaries, Mapping.entriesFrom, Cell.entriesFrom, List.append_nil,
            List.dropLast_singleton, List.not_mem_nil, false_imp_iff, implies_true, true_and,
            Except.ok.injEq, filled]
          by_cases empty : cell.body = []
          · rw [if_neg (not_not.mpr empty), if_pos empty, eq_comm]
          · rw [if_pos empty, if_neg empty, entry empty, eq_comm]
      | cons next more =>
          have behind (others : List Entry) := inductionHypothesis scanned.pass_cell otherNests others
          rw [List.length_append, textOf_append, List.length_append, boundaries] at behind
          rw [boundaries, Mapping.entriesFrom, List.dropLast_cons_cons, List.forall_mem_cons]
          swap
          · exact List.cons_ne_nil _ _
          by_cases empty : cell.body = []
          · rw [if_neg (mt filled.mp (not_not.mpr empty))]
            simp [empty]
          · rw [if_pos (filled.mpr empty), if_neg empty, entry empty, map_eq_ok_iff behind]
            simp only [ne_eq, empty, not_false_eq_true, true_and, List.cons_append, List.nil_append]

theorem closer_cells
    (scanned : Scanned document (front ++ (lexemesOf cells ++ closing :: back)) after)
    (marked : Marked cells) (nests : ∀ cell ∈ cells, Nest (·.isPunct ',') cell.body)
    (closes : closing.isPunct '\x7d' = true) :
    document.closer front.length = front.length + (lexemesOf cells).length := by
  obtain ⟨brace, inner, shape, isBrace, balanced⟩ := exists_braced marked nests
  rw [shape] at scanned ⊢
  exact scanned.closer_eq (closing_of_brace isBrace) closes balanced

/-- A comma right before the closing brace belongs to a last cell without a body. -/
theorem trailing_eq {others : List Cell} {last : Cell}
    (scanned : Scanned document
      (front ++ (lexemesOf (others ++ [last]) ++ closing :: back)) after) :
    (match (boundaries front.length others).getLast? with
      | some place =>
          if place + 1 = front.length + (lexemesOf (others ++ [last])).length then
            some (document.stopOf place)
          else none
      | none => none) =
        if others ≠ [] ∧ last.body = [] then
          some (textOf (front ++ lexemesOf (others ++ [last]))).length
        else none := by
  by_cases alone : others = []
  · subst alone
    simp [boundaries]
  · have length : (lexemesOf (others ++ [last])).length =
        (lexemesOf others).length + 1 + last.body.length := by
      simp
      omega
    rw [boundaries_getLast? alone]
    dsimp only
    by_cases empty : last.body = []
    · have markShape : front ++ (lexemesOf (others ++ [last]) ++ closing :: back) =
          (front ++ lexemesOf others) ++ last.mark :: (last.body ++ closing :: back) := by
        simp
      have stop := (markShape ▸ scanned).stopOf
      have whole : (textOf (front ++ lexemesOf others)).length + last.mark.text.length =
          (textOf (front ++ lexemesOf (others ++ [last]))).length := by
        simp [empty, Nat.add_assoc]
      rw [List.length_append, whole] at stop
      rw [if_pos (by rw [length, empty, List.length_nil]; omega), if_pos ⟨alone, empty⟩, stop]
    · have positive := List.length_pos_iff.mpr empty
      rw [if_neg (by rw [length]; omega), if_neg fun both => empty both.2]

theorem ofBrace_iff {others : List Cell} {last : Cell}
    (scanned : Scanned document
      (front ++ (lexemesOf (others ++ [last]) ++ closing :: back)) after)
    (marked : Marked (others ++ [last]))
    (nests : ∀ cell ∈ others ++ [last], Nest (·.isPunct ',') cell.body)
    (closes : closing.isPunct '\x7d' = true) (name : Text) (mapping : Mapping) :
    Mapping.ofBrace document name front.length = .ok mapping ↔
      (∀ cell ∈ others, cell.body ≠ []) ∧
        mapping =
          ⟨(textOf front).length + (firstGap (lexemesOf (others ++ [last]))).length,
            (textOf (front ++ lexemesOf (others ++ [last]))).length + closing.gap.length,
            Cell.entriesFrom (textOf front).length (others ++ [last]),
            if others ≠ [] ∧ last.body = [] then
              some (textOf (front ++ lexemesOf (others ++ [last]))).length
            else none⟩ := by
  obtain ⟨first, rest, shape⟩ : ∃ first rest, others ++ [last] = first :: rest :=
    List.exists_cons_of_ne_nil (List.append_ne_nil_of_right_ne_nil _ (by simp))
  have commas : ∀ cell ∈ (others ++ [last]).tail, cell.mark.isPunct ',' = true := by
    rw [shape] at marked ⊢
    exact marked.2
  have separators := scanned.separators_eq (by simp) commas nests
  have entries (read : List Entry) : Mapping.entriesFrom document name (front.length + 1)
      (boundaries front.length (others ++ [last])) = .ok read ↔ _ :=
    scanned.entriesFrom_iff nests read
  rw [List.dropLast_concat] at entries
  have commasFound : document.topLevel [','] (front.length + 1)
      (front.length + (lexemesOf (others ++ [last])).length) = boundaries front.length others := by
    have split := boundaries_append front.length others [last]
    rw [← separators] at split
    exact (List.append_inj' split rfl).1
  have opened : document.startOf front.length =
      (textOf front).length + (firstGap (lexemesOf (others ++ [last]))).length := by
    rw [shape, lexemesOf_cons, List.cons_append] at scanned
    rw [shape]
    exact scanned.startOf
  have behind : front ++ (lexemesOf (others ++ [last]) ++ closing :: back) =
      (front ++ lexemesOf (others ++ [last])) ++ closing :: back := by
    simp
  have closed := (behind ▸ scanned).startOf
  rw [List.length_append] at closed
  rw [Mapping.ofBrace, scanned.closer_cells marked nests closes, separators, commasFound, opened,
    closed]
  simp only [bind_pure_comp, ← scanned.trailing_eq]
  exact map_eq_ok_iff entries _ mapping

end Scanned

/-- The pieces of a document with a mapping.  The mark of the first cell is the opening brace; a
mapping without entries has one cell without a body. -/
structure Layout where
  lead : List Lexeme
  cells : List Cell
  trailing : Option Lexeme
  closing : Lexeme
  rest : List Lexeme
  after : Text

namespace Layout

open Cell

/-- The cells, with one more for a trailing comma. -/
def allCells (layout : Layout) : List Cell :=
  layout.cells ++ layout.trailing.toList.map bare

def lexemes (layout : Layout) : List Lexeme :=
  layout.lead ++ (lexemesOf layout.allCells ++ layout.closing :: layout.rest)

def content (layout : Layout) : Text :=
  textOf layout.lexemes ++ layout.after

/-- The text in front of the closing brace and the gap before it. -/
def upToClosing (layout : Layout) : Text :=
  textOf (layout.lead ++ lexemesOf layout.allCells)

/-- The mapping, as it is located in the document. -/
def mapping (layout : Layout) : Mapping :=
  ⟨(textOf layout.lead).length + (firstGap (lexemesOf layout.cells)).length,
    layout.upToClosing.length + layout.closing.gap.length,
    Cell.entriesFrom (textOf layout.lead).length layout.cells,
    layout.trailing.map fun _ => layout.upToClosing.length⟩

/-- The pieces make up a document in which the mapping `name` is found as they have it. -/
structure Sound (name : Text) (layout : Layout) : Prop where
  fits : Fits true layout.lexemes layout.after
  ends : Trailing layout.after
  closed : closes [] layout.lexemes = true
  located : Mapping.braceFrom? name 0 none (tokensAt 0 layout.lexemes) = some layout.lead.length
  marked : Marked layout.allCells
  nests : ∀ cell ∈ layout.cells, Nest (·.isPunct ',') cell.body
  closes : layout.closing.isPunct '\x7d' = true
  filled : (layout.trailing = none ∧ ∃ brace, layout.cells = [bare brace]) ∨
    (layout.cells ≠ [] ∧ ∀ cell ∈ layout.cells, cell.body ≠ [])

variable {name : Text} {layout : Layout}

/-- The cells with the trailing comma, of which only the last may have no body. -/
theorem Sound.exists_last (sound : layout.Sound name) :
    ∃ others last, layout.allCells = others ++ [last] ∧ (∀ cell ∈ others, cell.body ≠ []) ∧
      (others ≠ [] ∧ last.body = [] ↔ layout.trailing.isSome = true) := by
  rcases sound.filled with ⟨noComma, brace, alone⟩ | ⟨nonempty, full⟩
  · refine ⟨[], bare brace, ?_, by simp, ?_⟩
    · rw [allCells, alone, noComma]
      rfl
    · rw [noComma]
      simp
  · cases comma : layout.trailing with
    | some mark =>
        refine ⟨layout.cells, bare mark, ?_, full, ?_⟩
        · rw [allCells, comma]
          rfl
        · simp [nonempty, bare]
    | none =>
        rcases List.eq_nil_or_concat layout.cells with empty | ⟨others, last, shape⟩
        · exact absurd empty nonempty
        · rw [List.concat_eq_append] at shape
          rw [shape] at full
          refine ⟨others, last, ?_, fun cell member => full cell (by simp [member]), ?_⟩
          · rw [allCells, comma, shape]
            exact List.append_nil _
          · simp [full last (by simp)]

theorem Sound.mapping_eq (sound : layout.Sound name) :
    layout.mapping =
      ⟨(textOf layout.lead).length + (firstGap (lexemesOf layout.allCells)).length,
        layout.upToClosing.length + layout.closing.gap.length,
        Cell.entriesFrom (textOf layout.lead).length layout.allCells,
        if layout.trailing.isSome then some layout.upToClosing.length else none⟩ := by
  have nonempty : layout.cells ≠ [] := by
    rcases sound.filled with ⟨_, brace, alone⟩ | ⟨nonempty, _⟩
    · rw [alone]
      exact List.cons_ne_nil _ _
    · exact nonempty
  rw [mapping, allCells]
  congr 1
  · cases shape : layout.cells with
    | nil => exact absurd shape nonempty
    | cons first others => rfl
  · rw [entriesFrom_append]
    cases layout.trailing <;> simp [bare, Cell.entriesFrom]
  · cases layout.trailing <;> rfl

/-- The mapping, by a last cell that need not have a body. -/
theorem Sound.mapping_of_allCells (sound : layout.Sound name) {others : List Cell} {last : Cell}
    (allCells : layout.allCells = others ++ [last]) :
    layout.mapping =
      ⟨(textOf layout.lead).length + (firstGap (lexemesOf (others ++ [last]))).length,
        (textOf (layout.lead ++ lexemesOf (others ++ [last]))).length + layout.closing.gap.length,
        Cell.entriesFrom (textOf layout.lead).length (others ++ [last]),
        if others ≠ [] ∧ last.body = [] then
          some (textOf (layout.lead ++ lexemesOf (others ++ [last]))).length
        else none⟩ := by
  obtain ⟨before, final, same, _, comma⟩ := sound.exists_last
  rw [allCells] at same
  obtain ⟨rfl, lastSame⟩ := List.append_inj' same rfl
  obtain rfl : last = final := (List.cons.inj lastSame).1
  rw [sound.mapping_eq, upToClosing, allCells]
  simp only [← comma]

theorem Sound.nests_all (sound : layout.Sound name) :
    ∀ cell ∈ layout.allCells, Nest (·.isPunct ',') cell.body := by
  intro cell member
  rcases List.mem_append.mp member with inCells | isComma
  · exact sound.nests cell inCells
  · obtain ⟨mark, _, rfl⟩ := List.mem_map.mp isComma
    exact .nil _

theorem Sound.find (sound : layout.Sound name) :
    ∃ document, Document.ofText layout.content = .ok document ∧
      Scanned document layout.lexemes layout.after ∧
      Mapping.find? document name = .ok (some layout.mapping) := by
  obtain ⟨document, scannedText, scanned⟩ :=
    exists_scanned sound.fits sound.ends sound.closed
  refine ⟨document, scannedText, scanned, ?_⟩
  obtain ⟨others, last, shape, full, _⟩ := sound.exists_last
  have marked := sound.marked
  have nests := sound.nests_all
  have cut := scanned
  rw [lexemes, shape] at cut
  rw [shape] at marked nests
  have read := (cut.ofBrace_iff marked nests sound.closes name _).mpr ⟨full, rfl⟩
  rw [Mapping.find?, scanned.tokens, sound.located]
  dsimp only
  rw [read, sound.mapping_of_allCells shape]
  rfl

/-- Balanced lexemes are an entry and further ones behind commas. -/
theorem exists_cells {stops : Lexeme → Bool} {inner : List Lexeme} (nest : Nest stops inner) :
    ∃ body cells, inner = body ++ lexemesOf cells ∧ Nest (·.isPunct ',') body ∧
      (∀ cell ∈ cells, cell.mark.isPunct ',' = true) ∧
      ∀ cell ∈ cells, Nest (·.isPunct ',') cell.body := by
  rcases nest.split_at ',' with
    whole | ⟨body, comma, rest, shape, bodyNest, isComma, _, _, restNest⟩
  · exact ⟨inner, [], by simp, whole, by simp, by simp⟩
  · have shorter := congrArg List.length shape
    rw [List.length_append, List.length_cons] at shorter
    obtain ⟨next, cells, rfl, nextNest, commas, nests⟩ := exists_cells restNest
    refine ⟨body, ⟨comma, next⟩ :: cells, shape, bodyNest, ?_, ?_⟩
    · rintro cell (_ | ⟨_, member⟩)
      · exact isComma
      · exact commas cell member
    · rintro cell (_ | ⟨_, member⟩)
      · exact nextNest
      · exact nests cell member
termination_by inner.length

/-- A last cell without a body is a trailing comma, unless it is the brace itself. -/
private theorem exists_filled {others : List Cell} {last : Cell}
    (full : ∀ cell ∈ others, cell.body ≠ []) :
    ∃ (cells : List Cell) (trailing : Option Lexeme),
      cells ++ trailing.toList.map bare = others ++ [last] ∧
        ((trailing = none ∧ ∃ brace, cells = [bare brace]) ∨
          (cells ≠ [] ∧ ∀ cell ∈ cells, cell.body ≠ [])) := by
  by_cases empty : last.body = []
  · have isBare : last = bare last.mark := by
      cases last
      exact congrArg _ empty
    by_cases alone : others = []
    · subst alone
      exact ⟨[last], none, rfl, Or.inl ⟨rfl, last.mark, by rw [← isBare]⟩⟩
    · exact ⟨others, some last.mark, by rw [isBare]; rfl, Or.inr ⟨alone, full⟩⟩
  · refine ⟨others ++ [last], none, by simp, Or.inr ⟨by simp, fun cell member => ?_⟩⟩
    rcases List.mem_append.mp member with inOthers | isLast
    · exact full cell inOthers
    · rw [List.mem_singleton.mp isLast]
      exact empty

/-- What stands behind the entries: a trailing comma, the closing brace and what follows it. -/
def tail (layout : Layout) : List Lexeme :=
  lexemesOf (layout.trailing.toList.map bare) ++ layout.closing :: layout.rest

def behind (layout : Layout) : Text :=
  textOf layout.tail ++ layout.after

theorem lexemes_eq (layout : Layout) :
    layout.lexemes = layout.lead ++ (lexemesOf layout.cells ++ layout.tail) := by
  rw [lexemes, allCells, tail]
  simp

theorem content_eq (layout : Layout) :
    layout.content =
      textOf layout.lead ++ (textOf (lexemesOf layout.cells) ++ layout.behind) := by
  rw [content, lexemes_eq, behind]
  simp

theorem Sound.exists_first (sound : layout.Sound name) :
    ∃ first others, layout.cells = first :: others ∧ first.mark.isPunct '\x7b' = true ∧
      ∀ cell ∈ others, cell.mark.isPunct ',' = true := by
  have marked := sound.marked
  cases shape : layout.cells with
  | nil =>
      rcases sound.filled with ⟨_, brace, alone⟩ | ⟨nonempty, _⟩
      · rw [shape] at alone
        cases alone
      · exact absurd shape nonempty
  | cons first others =>
      rw [allCells, shape] at marked
      exact ⟨first, others, rfl, marked.1,
        fun cell member => marked.2 cell (List.mem_append_left _ member)⟩

/-- The brace that is located opens a mapping: what stands between it and the brace that closes it
is cut into cells. -/
private theorem exists_cut {document : Document} {lexemes : List Lexeme} {after : Text}
    (scanned : Scanned document lexemes after) {index : Nat}
    (located : Mapping.braceFrom? name 0 none (tokensAt 0 lexemes) = some index) :
    ∃ lead cells closing rest, lexemes = lead ++ (lexemesOf cells ++ closing :: rest) ∧
      index = lead.length ∧ Marked cells ∧
      (∀ cell ∈ cells, Nest (·.isPunct ',') cell.body) ∧ closing.isPunct '\x7d' = true := by
  obtain ⟨leadTokens, braceToken, restTokens, tokens, place, _, isBrace⟩ :=
    Mapping.braceFrom?_shape located
  obtain ⟨lead, brace, behind, rfl, length, rfl⟩ := exists_of_tokensAt tokens
  rw [Nat.zero_add, ← length] at place
  replace isBrace : brace.isPunct '\x7b' = true :=
    ((kindred_tokenAt _ brace).isPunct _).symm.trans isBrace
  obtain ⟨pending, closed⟩ := exists_pending scanned.closes
  rw [closes_opener _ _ (closing_of_brace isBrace)] at closed
  obtain ⟨inner, closing, rest, rfl, balanced, closes, _⟩ := exists_balanced closed
  obtain ⟨body, cells, rfl, bodyNest, commas, nests⟩ := exists_cells balanced
  refine ⟨lead, ⟨brace, body⟩ :: cells, closing, rest, by simp, place, ⟨isBrace, commas⟩, ?_,
    closes⟩
  exact List.forall_mem_cons.mpr ⟨bodyNest, nests⟩

/-- A document in which a mapping is found has a sound layout. -/
theorem exists_sound {content : Text} {document : Document} {mapping : Mapping}
    (scannedText : Document.ofText content = .ok document)
    (found : Mapping.find? document name = .ok (some mapping)) :
    ∃ layout : Layout, layout.Sound name ∧ layout.content = content ∧ layout.mapping = mapping ∧
      Scanned document layout.lexemes layout.after := by
  obtain ⟨rfl, lexemes, after, scanned⟩ := Scanned.ofText_ok scannedText
  rw [Mapping.find?, scanned.tokens] at found
  split at found
  · cases found
  · next index located =>
      obtain ⟨lead, cells, closing, rest, rfl, rfl, marked, nests, closes⟩ :=
        exists_cut scanned located
      obtain ⟨read, reading, same⟩ := exists_of_map found
      obtain rfl := Option.some.inj same
      rcases List.eq_nil_or_concat cells with rfl | ⟨others, last, rfl⟩
      · exact marked.elim
      · rw [List.concat_eq_append] at marked nests scanned located
        obtain ⟨full, rfl⟩ := (scanned.ofBrace_iff marked nests closes name _).mp reading
        -- an empty last cell is shown as a trailing comma
        obtain ⟨shown, trailing, split, filled⟩ := exists_filled full
        let layout : Layout := ⟨lead, shown, trailing, closing, rest, after⟩
        have allCells : layout.allCells = others ++ [last] := split
        have lexemes : layout.lexemes =
            lead ++ (lexemesOf (others ++ [last]) ++ closing :: rest) := by
          rw [Layout.lexemes, allCells]
        rw [← lexemes] at scanned located
        have sound : layout.Sound name :=
          { fits := scanned.fits
            ends := scanned.trailing
            closed := scanned.closes
            located := located
            marked := allCells ▸ marked
            nests := fun cell member => nests cell (split ▸ List.mem_append_left _ member)
            closes := closes
            filled := filled }
        exact ⟨layout, sound, scanned.content.symm, sound.mapping_of_allCells allCells, scanned⟩

end Layout

end EmbedScaffold
