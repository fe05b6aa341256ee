import EmbedScaffold.Proofs.Registry.Indent
import EmbedScaffold.Proofs.Switch.Location

/-!
# The layout of a document with a switch

A document in which a switch is found is cut into what stands before its opening brace, the
branches between its braces with what stands before the first of them, and the rest.
`SwitchLayout.Sound` says when such pieces make up a document in which the switch is found as they
have it; sound layouts and documents with a switch are the same.
-/

namespace EmbedScaffold

open Text Scan Lexeme

theorem Scanned.unique {document other : Document} {lexemes : List Lexeme} {after : Text}
    (scanned : Scanned document lexemes after) (otherScanned : Scanned other lexemes after) :
    document = other := by
  obtain ⟨content, tokens, pairs⟩ := document
  obtain ⟨otherContent, otherTokens, otherPairs⟩ := other
  have sameContent := scanned.content.trans otherScanned.content.symm
  have sameTokens := scanned.tokens.trans otherScanned.tokens.symm
  have samePairs := Except.ok.inj (scanned.pairs.symm.trans otherScanned.pairs)
  dsimp only at sameContent sameTokens samePairs
  rw [sameContent, samePairs, Array.toList_inj.mp sameTokens]

/-- The last character of lexemes is not blank. -/
theorem Scan.Fits.exists_solid_last {allowed : Bool} {lexemes : List Lexeme} {after : Text}
    (fits : Fits allowed lexemes after) (nonempty : lexemes ≠ []) :
    ∃ body last, textOf lexemes = body ++ [last] ∧ isBlank last = false := by
  cases lexemes with
  | nil => exact absurd rfl nonempty
  | cons first rest =>
      obtain ⟨head, more, shape⟩ := fits.exists_cons
      have filled : textOf (first :: rest) ≠ [] := by
        rw [textOf_cons, shape]
        exact List.cons_ne_nil _ _
      have split := List.dropLast_append_getLast filled
      refine ⟨_, _, split.symm, fits.solid_last _ ?_⟩
      rw [List.getLast?_eq_some_getLast filled]
      rfl

/-- The pieces of a document with a switch: `intro` is what stands before the first clause. -/
structure SwitchLayout where
  lead : List Lexeme
  brace : Lexeme
  intro : List Lexeme
  branches : List Branch
  closing : Lexeme
  rest : List Lexeme
  after : Text

namespace SwitchLayout

open Branch

/-- The lexemes between the braces. -/
def inner (layout : SwitchLayout) : List Lexeme :=
  layout.intro ++ lexemesOf layout.branches

def lexemes (layout : SwitchLayout) : List Lexeme :=
  layout.lead ++ layout.brace :: (layout.inner ++ layout.closing :: layout.rest)

def content (layout : SwitchLayout) : Text :=
  textOf layout.lexemes ++ layout.after

/-- The token indices of the braces. -/
def braces (layout : SwitchLayout) : Nat × Nat :=
  (layout.lead.length, layout.lead.length + layout.inner.length + 1)

/-- The text in front of the first clause and the gap before it. -/
def upToBranches (layout : SwitchLayout) : Text :=
  textOf (layout.lead ++ layout.brace :: layout.intro)

/-- The text in front of the closing brace and the gap before it. -/
def upToClosing (layout : SwitchLayout) : Text :=
  layout.upToBranches ++ textOf (lexemesOf layout.branches)

/-- The clauses, as they are read from the document. -/
def clauses (layout : SwitchLayout) : List Clause :=
  Branch.clausesFrom layout.upToBranches.length layout.branches

/-- The offset of the opening brace. -/
def opened (layout : SwitchLayout) : Nat :=
  (textOf layout.lead).length + layout.brace.gap.length

/-- The offset of the closing brace. -/
def closed (layout : SwitchLayout) : Nat :=
  layout.upToClosing.length + layout.closing.gap.length

/-- The pieces make up a document in which the switch on `discriminant` in `function` is found as
they have it. -/
structure Sound (function discriminant : Text) (layout : SwitchLayout) : Prop where
  fits : Fits true layout.lexemes layout.after
  ends : Trailing layout.after
  closed : Lexeme.closes [] layout.lexemes = true
  opens : layout.brace.isPunct '\x7b' = true
  closes : layout.closing.isPunct '\x7d' = true
  headless : Headless layout.intro
  branches : ∀ branch ∈ layout.branches, branch.Sound
  located : ∀ document, Scanned document layout.lexemes layout.after →
    Switch.find? document function discriminant = some layout.braces

variable {function discriminant : Text} {layout edited : SwitchLayout}

theorem Sound.balanced (sound : layout.Sound function discriminant) : Balanced layout.inner :=
  sound.headless.balanced.append (Branch.balanced sound.branches)

theorem Sound.find (sound : layout.Sound function discriminant) :
    ∃ document, Document.ofText layout.content = .ok document ∧
      Scanned document layout.lexemes layout.after ∧
      Switch.find? document function discriminant = some layout.braces := by
  obtain ⟨document, scannedText, scanned⟩ :=
    exists_scanned sound.fits sound.ends sound.closed
  exact ⟨document, scannedText, scanned, sound.located document scanned⟩

theorem exists_braces {document : Document} {opening closing : Nat}
    (found : Switch.find? document function discriminant = some (opening, closing)) :
    document.isPunctAt opening '\x7b' = true ∧ closing = document.closer opening := by
  obtain ⟨body, _, isSwitch⟩ := Option.bind_eq_some_iff.mp found
  rw [Switch.switchBody?_eq, Switch.findSome?_range'_eq_some] at isSwitch
  obtain ⟨index, _, _, isBegun, _⟩ := isSwitch
  obtain ⟨_, ⟨_, _, _, isBrace⟩, both⟩ := Switch.switchAt_eq_some.mp isBegun
  obtain ⟨rfl, rfl⟩ := Prod.mk.inj both
  exact ⟨isBrace, rfl⟩

theorem exists_sound {content : Text} {document : Document} {braces : Nat × Nat}
    (scannedText : Document.ofText content = .ok document)
    (found : Switch.find? document function discriminant = some braces) :
    ∃ layout : SwitchLayout, layout.Sound function discriminant ∧ layout.content = content ∧
      layout.braces = braces ∧ Scanned document layout.lexemes layout.after := by
  obtain ⟨rfl, lexemes, after, scanned⟩ := Scanned.ofText_ok scannedText
  obtain ⟨isBrace, closingIs⟩ := exists_braces found
  obtain ⟨lead, brace, inner, closing, rest, rfl, place, opens, balanced, closes, closerIs⟩ :=
    scanned.exists_closer isBrace rfl
  obtain ⟨intro, branches, rfl, headless, sound⟩ := Branch.exists_branches balanced
  let layout : SwitchLayout := ⟨lead, brace, intro, branches, closing, rest, after⟩
  have bracesIs : layout.braces = braces := by
    refine Prod.ext place ?_
    rw [closingIs, closerIs, ← place]
    rfl
  refine ⟨layout, ?_, scanned.content.symm, bracesIs, scanned⟩
  exact
    { fits := scanned.fits
      ends := scanned.trailing
      closed := scanned.closes
      opens := opens
      closes := closes
      headless := headless
      branches := sound
      located := fun other otherScanned => by
        rw [otherScanned.unique scanned, bracesIs, found] }

/-- A sound layout stays sound when other branches are written between its braces, if its lexemes
are scanned as they stand. -/
theorem Sound.edit (sound : layout.Sound function discriminant) (lead : edited.lead = layout.lead)
    (brace : edited.brace = layout.brace) (rest : edited.rest = layout.rest)
    (after : edited.after = layout.after) (fits : Fits true edited.lexemes edited.after)
    (closes : edited.closing.isPunct '\x7d' = true) (headless : Headless edited.intro)
    (branches : ∀ branch ∈ edited.branches, branch.Sound) :
    edited.Sound function discriminant := by
  have balanced : Balanced edited.inner :=
    headless.balanced.append (Branch.balanced branches)
  have braceCloses := closing_of_brace sound.opens
  have closed : Lexeme.closes [] edited.lexemes = true := by
    have same : ∀ pending,
        Lexeme.closes pending
            (layout.brace :: (edited.inner ++ edited.closing :: layout.rest)) =
          Lexeme.closes pending
            (layout.brace :: (layout.inner ++ layout.closing :: layout.rest)) := by
      intro pending
      rw [closes_braces sound.opens balanced closes,
        closes_braces sound.opens sound.balanced sound.closes]
    rw [lexemes, lead, brace, rest, closes_congr same]
    exact sound.closed
  obtain ⟨document, _, scanned, found⟩ := sound.find
  refine ⟨fits, after ▸ sound.ends, closed, brace ▸ sound.opens, closes, headless, branches,
    fun other otherScanned => ?_⟩
  have shape : edited.lexemes =
      layout.lead ++ layout.brace :: (edited.inner ++ edited.closing :: layout.rest) := by
    rw [lexemes, lead, brace, rest]
  rw [shape] at otherScanned
  have alike := scanned.alike otherScanned sound.opens sound.balanced balanced sound.closes closes
  rw [alike.find? (fun index isPunct => scanned.lt_closer isPunct rfl) found,
    otherScanned.closer_eq braceCloses closes balanced, braces, lead]

/-! ## Reading a switch -/

theorem Sound.clauses_eq (sound : layout.Sound function discriminant) {document : Document}
    (scanned : Scanned document layout.lexemes layout.after) :
    Switch.clauses document layout.braces.1 layout.braces.2 = layout.clauses := by
  have shape : layout.lexemes = layout.lead ++ layout.brace ::
      (layout.intro ++ (lexemesOf layout.branches ++ layout.closing :: layout.rest)) := by
    rw [lexemes, inner, List.append_assoc]
  exact (shape ▸ scanned).clauses_eq sound.headless sound.branches sound.closes

theorem startOf_opening {document : Document}
    (scanned : Scanned document layout.lexemes layout.after) :
    document.startOf layout.braces.1 = layout.opened :=
  scanned.startOf

theorem textOf_inner (layout : SwitchLayout) :
    textOf (layout.lead ++ layout.brace :: layout.inner) = layout.upToClosing := by
  rw [upToClosing, upToBranches, inner]
  simp

theorem startOf_closing {document : Document}
    (scanned : Scanned document layout.lexemes layout.after) :
    document.startOf layout.braces.2 = layout.closed := by
  have shape : layout.lexemes =
      (layout.lead ++ layout.brace :: layout.inner) ++ layout.closing :: layout.rest := by
    rw [lexemes, List.append_assoc, List.cons_append]
  have length : (layout.lead ++ layout.brace :: layout.inner).length = layout.braces.2 := by
    rw [List.length_append, List.length_cons, braces, Nat.add_assoc]
  have start := (shape ▸ scanned).startOf
  rw [length, textOf_inner] at start
  exact start

/-- The text behind the last clause. -/
def behind (layout : SwitchLayout) : Text :=
  textOf (layout.closing :: layout.rest) ++ layout.after

theorem content_eq (layout : SwitchLayout) :
    layout.content =
      layout.upToBranches ++ (textOf (lexemesOf layout.branches) ++ layout.behind) := by
  rw [content, lexemes, inner, upToBranches, behind]
  simp

theorem content_upToClosing (layout : SwitchLayout) :
    layout.content = layout.upToClosing ++ layout.behind := by
  rw [content_eq, upToClosing, List.append_assoc]

/-! ## The text around the clauses -/

def upToBrace (layout : SwitchLayout) : Text :=
  textOf layout.lead ++ layout.brace.text

def fromClosing (layout : SwitchLayout) : Text :=
  layout.closing.value ++ (textOf layout.rest ++ layout.after)

theorem Sound.upToBrace_length (sound : layout.Sound function discriminant) :
    layout.upToBrace.length = layout.opened + 1 := by
  rw [upToBrace, List.length_append, Lexeme.text_length,
    ((layout.brace.isPunct_iff _).mp sound.opens).2]
  rfl

theorem Sound.take_opened (sound : layout.Sound function discriminant) :
    layout.content.take (layout.opened + 1) = layout.upToBrace := by
  have cut : layout.content = layout.upToBrace ++
      (textOf (layout.inner ++ layout.closing :: layout.rest) ++ layout.after) := by
    rw [content, lexemes, upToBrace]
    simp
  rw [← sound.upToBrace_length, cut, List.take_left]

theorem drop_closed (layout : SwitchLayout) :
    layout.content.drop layout.closed = layout.fromClosing := by
  have cut : layout.content =
      (layout.upToClosing ++ layout.closing.gap) ++ layout.fromClosing := by
    rw [content_upToClosing, behind, fromClosing, textOf_cons, Lexeme.text]
    simp
  rw [closed, ← List.length_append, cut, List.drop_left]

/-! ## Indentation -/

end SwitchLayout

namespace Branch

/-- The indentation of a clause that starts its line. -/
def margin (branch : Branch) : Option Text :=
  marginOf branch.head.gap

theorem indent_eq {branches : List Branch} {allowed : Bool} {tail : List Lexeme}
    {before after : Text} (fits : Fits allowed (lexemesOf branches ++ tail) after)
    (solid : ∃ body last, before = body ++ [last] ∧ isBlank last = false) (fallback : Text) :
    (match (clausesFrom before.length branches).find? fun clause =>
        startsLine (before ++ (textOf (lexemesOf branches ++ tail) ++ after)) clause.start with
      | some clause =>
          lineIndent (before ++ (textOf (lexemesOf branches ++ tail) ++ after)) clause.start
      | none => fallback) = (branches.findSome? margin).getD fallback := by
  -- the text before the branches ends solid, so a head starts its line by its own gap alone
  induction branches generalizing allowed before with
  | nil => rfl
  | cons branch rest inductionHypothesis =>
      obtain ⟨body, last, rfl, lastSolid⟩ := solid
      have shape : lexemesOf (branch :: rest) ++ tail =
          branch.lexemes ++ (lexemesOf rest ++ tail) := by
        simp [Branch.lexemes]
      rw [shape] at fits ⊢
      obtain ⟨ownFits, restFits⟩ := fits_append.mp fits
      obtain ⟨front, final, ends, finalSolid⟩ := ownFits.exists_solid_last (List.cons_ne_nil _ _)
      obtain ⟨first, letters, valueShape, firstSolid⟩ := ownFits.2.1.exists_cons
      have text : body ++ [last] ++ (textOf (branch.lexemes ++ (lexemesOf rest ++ tail)) ++ after) =
          body ++ last :: (branch.head.gap ++ first :: (letters ++
            (textOf branch.body ++ (textOf (lexemesOf rest ++ tail) ++ after)))) := by
        rw [Branch.lexemes, List.cons_append, textOf_cons, Lexeme.text, valueShape]
        simp
      have start : (body ++ [last]).length + branch.head.gap.length =
          body.length + (branch.head.gap.length + 1) := by
        simp only [List.length_append, List.length_singleton]
        omega
      have starts : startsLine
          (body ++ [last] ++ (textOf (branch.lexemes ++ (lexemesOf rest ++ tail)) ++ after))
          ((body ++ [last]).length + branch.head.gap.length) = branch.margin.isSome := by
        rw [text, start, startsLine_iff_margin lastSolid, margin]
      rw [clausesFrom, List.findSome?_cons, List.find?_cons]
      cases margined : branch.margin with
      | some margin =>
          rw [margined] at starts
          simp only [clauseAt, starts, Option.isSome_some]
          rw [text, start, lineIndent_of_margin firstSolid margined]
          rfl
      | none =>
          rw [margined] at starts
          simp only [clauseAt, starts, Option.isSome_none]
          have restSolid : ∃ front final,
              body ++ [last] ++ textOf branch.lexemes = front ++ [final] ∧ isBlank final = false :=
            ⟨body ++ [last] ++ front, final, by rw [ends]; simp, finalSolid⟩
          have behind := inductionHypothesis restFits restSolid
          have text : body ++ [last] ++ textOf branch.lexemes ++
              (textOf (lexemesOf rest ++ tail) ++ after) =
                body ++ [last] ++ (textOf (branch.lexemes ++ (lexemesOf rest ++ tail)) ++ after) := by
            simp
          rw [List.length_append, text] at behind
          exact behind

end Branch

namespace SwitchLayout

variable {function discriminant : Text} {layout : SwitchLayout}

/-- The indentation of the line of the opening brace. -/
def braceIndent (layout : SwitchLayout) : Text :=
  leadingIndent (lastLine (textOf layout.lead ++ layout.brace.gap))

/-- The indentation for a clause: that of the first clause that starts its line, else one step
more than the line of the brace. -/
def indent (layout : SwitchLayout) : Text :=
  (layout.branches.findSome? Branch.margin).getD (layout.braceIndent ++ indentStep)

theorem isMargin_indent (layout : SwitchLayout) :
    ∀ blank ∈ layout.indent, isMargin blank = true := by
  rw [indent]
  cases found : layout.branches.findSome? Branch.margin with
  | some margin =>
      obtain ⟨branch, _, margined⟩ := List.exists_of_findSome?_eq_some found
      exact isMargin_of_marginOf margined
  | none => exact isMargin_append (isMargin_leadingIndent _) isMargin_indentStep

theorem Sound.lineIndent_opened (sound : layout.Sound function discriminant) :
    lineIndent layout.content layout.opened = layout.braceIndent := by
  have text : layout.content = (textOf layout.lead ++ layout.brace.gap) ++
      '\x7b' :: (textOf (layout.inner ++ layout.closing :: layout.rest) ++ layout.after) := by
    rw [content, lexemes, textOf_append, textOf_cons, Lexeme.text,
      ((layout.brace.isPunct_iff _).mp sound.opens).2]
    simp
  rw [opened, text, ← List.length_append, lineIndent_eq,
    leadingIndent_append_solid _ _ (show isBlank '\x7b' = false from rfl), braceIndent]

/-- The indentation for a clause can be read from the gaps before the clauses. -/
theorem Sound.clauseIndent_eq (sound : layout.Sound function discriminant) :
    Switch.clauseIndent layout.content layout.clauses layout.opened = layout.indent := by
  have shape : layout.lexemes = (layout.lead ++ layout.brace :: layout.intro) ++
      (Branch.lexemesOf layout.branches ++ layout.closing :: layout.rest) := by
    rw [lexemes, inner]
    simp
  have fits := sound.fits
  rw [shape] at fits
  obtain ⟨frontFits, behindFits⟩ := fits_append.mp fits
  have text : layout.content = layout.upToBranches ++
      (textOf (Branch.lexemesOf layout.branches ++ layout.closing :: layout.rest) ++
        layout.after) := by
    rw [content, shape, upToBranches, textOf_append _ (Branch.lexemesOf _ ++ _), List.append_assoc]
  have solid : ∃ body last, layout.upToBranches = body ++ [last] ∧ isBlank last = false :=
    frontFits.exists_solid_last (by simp)
  have read := Branch.indent_eq behindFits solid (layout.braceIndent ++ indentStep)
  rw [← text] at read
  rw [Switch.clauseIndent, sound.lineIndent_opened]
  exact read

end SwitchLayout

end EmbedScaffold
