import EmbedScaffold.Proofs.Switch.NewBranch

/-!
# The slot of a key in a switch

For every key there is one place between the braces of a switch at which its clause is written: in
the place of its branch, before the first default, behind the last branch, or between the braces
of a switch without branches.  Such a slot may be filled with every body, and all clauses written
into it stand at the same indentation.
-/

namespace EmbedScaffold

open Text Scan Lexeme

/-! ## Exchanging what stands around a branch -/

namespace Scan

/-- Behind the same gap, one word is as far apart as another one. -/
theorem Apart.ofGap {lexeme : Lexeme} {gap after : Text} {letter other : Char}
    (separated : Separated lexeme.kind lexeme.value (gap ++ letter :: after)) (trivia : Trivia gap)
    (isWord : isWordChar letter = true) (otherIsWord : isWordChar other = true) (behind : Text) :
    Apart lexeme (gap ++ other :: behind) := by
  cases gap with
  | cons first rest => exact Apart.ofHead separated (trivia.head first rfl) _
  | nil =>
      have different {mark : Char} (noWord : isWordChar mark = false) : other ≠ mark := by
        rintro rfl
        rw [otherIsWord] at noWord
        cases noWord
      refine ⟨fun kind => ?_, fun _ => ?_, fun _ => ?_⟩
      · have stops := separated.word kind letter rfl
        rw [isWord] at stops
        cases stops
      · rintro _ ⟨⟩
        exact different rfl
      · rintro _ ⟨⟩
        exact ⟨different rfl, different rfl⟩

end Scan

namespace Lexeme

/-- Lexemes of which the first is read alike wherever it stands. -/
def Steady (lexemes : List Lexeme) : Prop :=
  ∃ first rest, lexemes = first :: rest ∧ ∀ allowed, ReadsAlone allowed first.kind first.value

theorem Steady.fits {lexemes : List Lexeme} (steady : Steady lexemes) {allowed : Bool}
    {after : Text} (fits : Fits allowed lexemes after) (other : Bool) :
    Fits other lexemes after := by
  obtain ⟨first, rest, rfl, alone⟩ := steady
  exact ⟨fits.1, alone other, fits.2.2⟩

end Lexeme

namespace Branch

/-- The branch behind another gap. -/
def withGap (gap : Text) (branch : Branch) : Branch :=
  { branch with head := { branch.head with gap := gap } }

theorem Sound.withGap {branch : Branch} (sound : branch.Sound) (gap : Text) :
    (branch.withGap gap).Sound :=
  ⟨sound.starts, sound.headless⟩

theorem steady {branches : List Branch} (sound : ∀ branch ∈ branches, branch.Sound)
    {closing : Lexeme} (closes : closing.isPunct '\x7d' = true) (rest : List Lexeme) :
    Steady (lexemesOf branches ++ closing :: rest) := by
  cases branches with
  | nil =>
      obtain ⟨kind, value⟩ := (closing.isPunct_iff _).mp closes
      refine ⟨closing, rest, rfl, fun allowed => ?_⟩
      rw [kind, value]
      exact .mark rfl allowed
  | cons first others =>
      exact ⟨first.head, _, rfl, readsAlone_of_starts (sound first List.mem_cons_self).starts⟩

theorem Sound.exists_letter {branch : Branch} (sound : branch.Sound) :
    ∃ letter rest, branch.head.value = letter :: rest ∧ isWordChar letter = true := by
  have starts := sound.starts
  simp only [startsClause, Token.isWord, Bool.or_eq_true, Bool.and_eq_true, decide_eq_true_eq]
    at starts
  rcases starts with isCase | isDefault
  · exact ⟨'c', "ase".toList, isCase.2, by decide +kernel⟩
  · exact ⟨'d', "efault".toList, isDefault.1.2, by decide +kernel⟩

end Branch

/-! ## Slots -/

/-- The place of the clause of a key: behind a gap, with the branches `front` before it and `back`
behind it, in a layout whose own branches do not count. -/
structure CaseSlot where
  base : SwitchLayout
  front : List Branch
  gap : Text
  key : Text
  back : List Branch

namespace CaseSlot

open Branch

/-- The layout with a branch in the slot. -/
def holding (slot : CaseSlot) (branch : Branch) : SwitchLayout :=
  { slot.base with branches := slot.front ++ branch :: slot.back }

/-- The indentation at which a clause is written into the slot. -/
def indent (slot : CaseSlot) : Text :=
  (slot.holding (newBranch slot.gap slot.key [] [])).indent

/-- The layout with a clause of a body in the slot. -/
def filled (slot : CaseSlot) (body : List Lexeme) : SwitchLayout :=
  slot.holding (newBranch slot.gap slot.key slot.indent body)

/-- The slot may be filled with every body, and no other branch has its key. -/
structure Sound (function discriminant : Text) (slot : CaseSlot) : Prop where
  sound : ∀ body, ClauseBody body → (slot.filled body).Sound function discriminant
  fresh : ∀ branch ∈ slot.front, branch.key ≠ some slot.key
  dropped : ∀ branch ∈ slot.back, branch.key ≠ some slot.key

variable {slot : CaseSlot}

/-- Only the gap before a clause counts for the indentation. -/
theorem indent_holding (slot : CaseSlot) {branch : Branch} (same : branch.head.gap = slot.gap) :
    (slot.holding branch).indent = slot.indent := by
  have margin : branch.margin = (newBranch slot.gap slot.key [] []).margin :=
    congrArg marginOf same
  rw [indent, holding, holding, SwitchLayout.indent, SwitchLayout.indent,
    SwitchLayout.braceIndent, SwitchLayout.braceIndent, List.findSome?_append,
    List.findSome?_append, List.findSome?_cons, List.findSome?_cons, margin]

theorem indent_filled (slot : CaseSlot) (body : List Lexeme) :
    (slot.filled body).indent = slot.indent :=
  slot.indent_holding rfl

theorem isMargin_indent (slot : CaseSlot) : ∀ blank ∈ slot.indent, isMargin blank = true :=
  SwitchLayout.isMargin_indent _

/-- A margin of its own is the indentation unless a clause before the slot has one. -/
theorem indent_of_margin {margin : Text} (margined : marginOf slot.gap = some margin) :
    slot.indent = ((slot.front.findSome? Branch.margin).getD margin) := by
  have own : (newBranch slot.gap slot.key [] []).margin = some margin := margined
  rw [indent, holding, SwitchLayout.indent, List.findSome?_append, List.findSome?_cons, own]
  cases slot.front.findSome? Branch.margin <;> rfl

end CaseSlot

namespace SwitchLayout

open Branch

variable {function discriminant key : Text} {layout : SwitchLayout} {front back : List Branch}
  {branch : Branch}

/-- The lexemes in front of what stands behind some branches. -/
def upTo (layout : SwitchLayout) (front : List Branch) : List Lexeme :=
  layout.lead ++ layout.brace :: (layout.intro ++ lexemesOf front)

theorem lexemes_upTo (shape : layout.branches = front ++ back) :
    layout.lexemes = layout.upTo front ++ (lexemesOf back ++ layout.closing :: layout.rest) := by
  rw [lexemes, inner, shape, upTo]
  simp

/-- The slot behind a gap and the branches `front`, in front of `back` and another closing brace. -/
def slotAt (layout : SwitchLayout) (front : List Branch) (gap key : Text) (back : List Branch)
    (closing : Lexeme) : CaseSlot :=
  ⟨{ layout with closing := closing }, front, gap, key, back⟩

/-- Some branches are scanned alike before anything that stands apart from the last of them. -/
theorem Sound.fits_upTo (sound : layout.Sound function discriminant)
    (shape : layout.branches = front ++ back) {after : Text}
    (apart : ∀ last ∈ (layout.upTo front).getLast?, Apart last after) :
    Fits true (layout.upTo front) after := by
  have fits := sound.fits
  rw [lexemes_upTo shape] at fits
  exact (fits_append.mp fits).1.retail apart

/-- A slot may be filled where what stands behind it is scanned as it stands. -/
theorem Sound.slotAt (sound : layout.Sound function discriminant) {others : List Branch}
    (shape : layout.branches = front ++ others) {gap : Text} (trivia : Trivia gap)
    (apart : ∀ last ∈ (layout.upTo front).getLast?, ∀ behind, Apart last (gap ++ 'c' :: behind))
    (sameLine : '\n' ∉ key) {closing : Lexeme} (closes : closing.isPunct '\x7d' = true)
    (backSound : ∀ branch ∈ back, branch.Sound) {allowed : Bool}
    (backFits : Fits allowed (lexemesOf back ++ closing :: layout.rest) layout.after)
    {body : List Lexeme} (clauseBody : ClauseBody body) :
    ((layout.slotAt front gap key back closing).filled body).Sound function discriminant := by
  have areBlank := (layout.slotAt front gap key back closing).isMargin_indent
  let branch := newBranch gap key (layout.slotAt front gap key back closing).indent body
  have editedShape : ((layout.slotAt front gap key back closing).filled body).lexemes =
      layout.upTo front ++ (branch.lexemes ++ (lexemesOf back ++ closing :: layout.rest)) := by
    rw [CaseSlot.filled, CaseSlot.holding, lexemes, inner, upTo]
    simp [Branch.lexemes, SwitchLayout.slotAt, branch]
  refine sound.edit rfl rfl rfl rfl ?_ closes sound.headless ?_
  · rw [editedShape]
    refine fits_append.mpr ⟨sound.fits_upTo shape fun last member => ?_,
      fits_append.mpr ⟨fits_newBranch clauseBody trivia sameLine areBlank _ _,
        (Branch.steady backSound closes layout.rest).fits backFits _⟩⟩
    have text : textOf (branch.lexemes ++ (lexemesOf back ++ closing :: layout.rest)) ++
        layout.after = gap ++ 'c' :: ("ase".toList ++ (textOf branch.body ++
          (textOf (lexemesOf back ++ closing :: layout.rest) ++ layout.after))) := by
      rw [textOf_append, Branch.lexemes, textOf_cons]
      simp [branch, newBranch, Lexeme.text]
    -- the new lexemes begin with the letter that `apart` is about
    exact text ▸ apart last member _
  · intro other member
    rcases List.mem_append.mp member with inFront | behind
    · exact sound.branches other (by rw [shape]; exact List.mem_append_left _ inFront)
    · rcases List.mem_cons.mp behind with rfl | inBack
      · exact sound_newBranch clauseBody _ _ _
      · exact backSound other inBack

/-! ## The four places -/

theorem Sound.gap (sound : layout.Sound function discriminant)
    (shape : layout.branches = front ++ branch :: back) :
    Trivia branch.head.gap ∧ ∀ last ∈ (layout.upTo front).getLast?, ∀ behind,
      Apart last (branch.head.gap ++ 'c' :: behind) := by
  have fits := sound.fits
  rw [lexemes_upTo shape, lexemesOf_cons, List.cons_append] at fits
  obtain ⟨frontFits, behindFits⟩ := fits_append.mp fits
  obtain ⟨letter, rest, value, isWord⟩ :=
    (sound.branches branch (by rw [shape]; simp)).exists_letter
  refine ⟨behindFits.1, fun last member behind => ?_⟩
  have separated := frontFits.separated_last last member
  rw [textOf_cons, Lexeme.text, value, List.append_assoc, List.append_assoc, List.cons_append]
    at separated
  exact Apart.ofGap separated behindFits.1 isWord (by decide +kernel) behind

theorem Sound.behind (sound : layout.Sound function discriminant)
    (shape : layout.branches = front ++ back) : ∀ branch ∈ back, branch.Sound :=
  fun branch member => sound.branches branch (by rw [shape]; exact List.mem_append_right _ member)

theorem Sound.slot_replacing (sound : layout.Sound function discriminant)
    (shape : layout.branches = front ++ branch :: back) (sameLine : '\n' ∉ key)
    {body : List Lexeme} (clauseBody : ClauseBody body) :
    ((layout.slotAt front branch.head.gap key back layout.closing).filled body).Sound function
      discriminant := by
  have fits := sound.fits
  have cut : lexemesOf (branch :: back) ++ layout.closing :: layout.rest =
      branch.lexemes ++ (lexemesOf back ++ layout.closing :: layout.rest) := by
    simp [Branch.lexemes]
  rw [lexemes_upTo shape, cut] at fits
  have backFits := (fits_append.mp (fits_append.mp fits).2).2
  obtain ⟨trivia, apart⟩ := sound.gap shape
  exact sound.slotAt shape trivia apart sameLine sound.closes
    (fun other member => sound.behind shape other (List.mem_cons_of_mem _ member)) backFits clauseBody

/-- The gap in front of what stands behind a clause that is written before or behind others. -/
def clauseGap (layout : SwitchLayout) : Text :=
  '\n' :: '\n' :: layout.indent

theorem trivia_clauseGap (layout : SwitchLayout) : Trivia layout.clauseGap :=
  Trivia.cons rfl (Trivia.newLine Trivia.nil layout.isMargin_indent)

theorem Sound.slot_before (sound : layout.Sound function discriminant)
    (shape : layout.branches = front ++ branch :: back) (sameLine : '\n' ∉ key)
    {body : List Lexeme} (clauseBody : ClauseBody body) :
    ((layout.slotAt front branch.head.gap key (branch.withGap layout.clauseGap :: back)
      layout.closing).filled body).Sound function discriminant := by
  have fits := sound.fits
  rw [lexemes_upTo shape, lexemesOf_cons, List.cons_append] at fits
  obtain ⟨_, behindFits⟩ := fits_append.mp fits
  obtain ⟨trivia, apart⟩ := sound.gap shape
  have backFits : Fits (allowsBehind true (layout.upTo front))
      (lexemesOf (branch.withGap layout.clauseGap :: back) ++ layout.closing :: layout.rest)
      layout.after := ⟨layout.trivia_clauseGap, behindFits.2⟩
  refine sound.slotAt shape trivia apart sameLine sound.closes ?_ backFits clauseBody
  rintro other (_ | ⟨_, member⟩)
  · exact (sound.behind shape branch List.mem_cons_self).withGap _
  · exact sound.behind shape other (List.mem_cons_of_mem _ member)

theorem Sound.slot_behind (sound : layout.Sound function discriminant) (sameLine : '\n' ∉ key)
    {body : List Lexeme} (clauseBody : ClauseBody body) :
    ((layout.slotAt layout.branches layout.clauseGap key [] layout.closing).filled body).Sound
      function discriminant := by
  have shape : layout.branches = layout.branches ++ [] := (List.append_nil _).symm
  have fits := sound.fits
  rw [lexemes_upTo shape] at fits
  refine sound.slotAt shape layout.trivia_clauseGap (fun last _ behind => ?_) sameLine
    sound.closes (fun _ member => absurd member List.not_mem_nil) (fits_append.mp fits).2 clauseBody
  exact Apart.ofBlank rfl last _

/-- Between braces without branches a word may follow what stands there, on a line of its own. -/
theorem Sound.gap_first (sound : layout.Sound function discriminant)
    (alone : layout.branches = []) :
    Trivia (stripEnd layout.closing.gap ++ '\n' :: layout.indent) ∧
      ∀ last ∈ (layout.upTo []).getLast?, ∀ behind,
        Apart last (stripEnd layout.closing.gap ++ '\n' :: layout.indent ++ 'c' :: behind) := by
  have shape : layout.branches = [] ++ [] := alone
  have fits := sound.fits
  rw [lexemes_upTo shape, lexemesOf_nil, List.nil_append] at fits
  obtain ⟨frontFits, closingFits⟩ := fits_append.mp fits
  refine ⟨Trivia.newLine closingFits.1 layout.isMargin_indent, fun last member behind => ?_⟩
  have separated := frontFits.separated_last last member
  obtain ⟨blanks, _, split⟩ := trimEnd_append_tail isBlank layout.closing.gap
  cases kept : stripEnd layout.closing.gap with
  | nil => exact Apart.ofBlank rfl last _
  | cons first rest =>
      have gapShape : layout.closing.gap = first :: (rest ++ blanks) := by
        rw [split, ← stripEnd, kept]
        rfl
      have isGap := closingFits.1.head first (by rw [gapShape]; rfl)
      rw [textOf_cons, Lexeme.text, gapShape] at separated
      exact Apart.ofHead separated isGap _

theorem Sound.slot_first (sound : layout.Sound function discriminant) (sameLine : '\n' ∉ key)
    (alone : layout.branches = []) {body : List Lexeme} (clauseBody : ClauseBody body) :
    ((layout.slotAt [] (stripEnd layout.closing.gap ++ '\n' :: layout.indent) key []
      { layout.closing with gap := '\n' :: layout.braceIndent }).filled body).Sound
        function discriminant := by
  have shape : layout.branches = [] ++ [] := alone
  have fits := sound.fits
  rw [lexemes_upTo shape, lexemesOf_nil, List.nil_append] at fits
  obtain ⟨_, closingFits⟩ := fits_append.mp fits
  have closingTrivia : Trivia ('\n' :: layout.braceIndent) :=
    Trivia.newLine Trivia.nil (isMargin_leadingIndent _)
  let closing : Lexeme := { layout.closing with gap := '\n' :: layout.braceIndent }
  have backFits : Fits (allowsBehind true (layout.upTo []))
      (lexemesOf [] ++ closing :: layout.rest) layout.after := ⟨closingTrivia, closingFits.2⟩
  have closes : closing.isPunct '\x7d' = true := sound.closes
  obtain ⟨trivia, apart⟩ := sound.gap_first alone
  exact sound.slotAt shape trivia apart sameLine closes
    (fun _ member => absurd member List.not_mem_nil) backFits clauseBody

/-! ## The indentation of the slots -/

theorem indent_replacing (shape : layout.branches = front ++ branch :: back) (key : Text) :
    (layout.slotAt front branch.head.gap key back layout.closing).indent = layout.indent := by
  let slot := layout.slotAt front branch.head.gap key back layout.closing
  have same : (slot.holding branch).indent = slot.indent := slot.indent_holding rfl
  rw [← same, CaseSlot.holding, indent, indent, shape]
  rfl

theorem marginOf_clauseGap (layout : SwitchLayout) :
    marginOf layout.clauseGap = some layout.indent :=
  marginOf_newLine layout.isMargin_indent ['\n']

theorem indent_before (shape : layout.branches = front ++ branch :: back) (key : Text) :
    (layout.slotAt front branch.head.gap key (branch.withGap layout.clauseGap :: back)
      layout.closing).indent = layout.indent := by
  let slot := layout.slotAt front branch.head.gap key (branch.withGap layout.clauseGap :: back)
    layout.closing
  have same : (slot.holding branch).indent = slot.indent := slot.indent_holding rfl
  have next : (branch.withGap layout.clauseGap).margin = some layout.indent :=
    layout.marginOf_clauseGap
  have whole : slot.indent =
      ((front ++ branch :: branch.withGap layout.clauseGap :: back).findSome? margin).getD
        (layout.braceIndent ++ indentStep) := same.symm
  rw [whole, List.findSome?_append, List.findSome?_cons, List.findSome?_cons, next]
  have here : layout.indent = ((front ++ branch :: back).findSome? margin).getD
      (layout.braceIndent ++ indentStep) := by rw [indent, shape]
  rw [List.findSome?_append, List.findSome?_cons] at here
  cases before : front.findSome? margin with
  | some found =>
      rw [before] at here
      exact here.symm
  | none =>
      cases own : branch.margin with
      | some found =>
          rw [before, own] at here
          exact here.symm
      | none => rfl

theorem indent_behind (layout : SwitchLayout) (key : Text) :
    (layout.slotAt layout.branches layout.clauseGap key [] layout.closing).indent =
      layout.indent := by
  let slot := layout.slotAt layout.branches layout.clauseGap key [] layout.closing
  have own : slot.indent = (layout.branches.findSome? margin).getD layout.indent :=
    CaseSlot.indent_of_margin layout.marginOf_clauseGap
  rw [own, indent]
  cases layout.branches.findSome? margin <;> rfl

theorem indent_first (layout : SwitchLayout) (key : Text) (closing : Lexeme) :
    (layout.slotAt [] (stripEnd layout.closing.gap ++ '\n' :: layout.indent) key []
      closing).indent = layout.indent :=
  CaseSlot.indent_of_margin (marginOf_newLine layout.isMargin_indent _)

end SwitchLayout

end EmbedScaffold
