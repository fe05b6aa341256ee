import EmbedScaffold.Proofs.Switch.Upsert

/-!
# The clauses of a switch after an upsert

An upsert puts one clause in the place of that of its key, or before the first default clause, or
at the end; the other clauses keep their texts and their order, and so does the text outside the
braces.  What is written for a key later replaces what was written for it before, and nothing else.
-/

namespace EmbedScaffold

open Text Scan Lexeme

/-! ## Views of clauses -/

/-- What a clause shows: the label of a case, whether it is the default, and its text. -/
structure ClauseView where
  key : Option Text
  isDefault : Bool
  text : Text
  deriving DecidableEq, Repr

/-- The view of a clause of a document. -/
def Clause.view (content : Text) (clause : Clause) : ClauseView :=
  ⟨clause.key, clause.isDefault, slice content clause.start clause.stop⟩

/-- What the clauses between two braces show, in order. -/
def Switch.views (document : Document) (opening closing : Nat) : List ClauseView :=
  (Switch.clauses document opening closing).map (Clause.view document.content)

namespace ClauseView

/-- The case of a key with a body, written at an indentation. -/
def ofTexts (key body indent : Text) : ClauseView :=
  ⟨some key, false, Switch.clauseText key body indent⟩

/-- The clauses with one more before the first default, or at the end. -/
def inserted (view : ClauseView) : List ClauseView → List ClauseView
  | [] => [view]
  | first :: rest =>
      if first.isDefault then view :: first :: rest else first :: view.inserted rest

/-- The clauses with one in the place of that of its key, or inserted if there is none. -/
def put (view : ClauseView) (views : List ClauseView) : List ClauseView :=
  if views.any (·.key = view.key) then
    views.map fun other => if other.key = view.key then view else other
  else view.inserted views

variable {view : ClauseView} {front back : List ClauseView}

theorem put_of_absent (absent : ∀ other ∈ front, other.key ≠ view.key) :
    view.put front = view.inserted front := by
  have none : ¬ front.any (·.key = view.key) = true := by
    rw [List.any_eq_true]
    rintro ⟨other, member, same⟩
    exact absent other member (of_decide_eq_true same)
  rw [put, if_neg none]

private theorem map_of_absent (absent : ∀ other ∈ front, other.key ≠ view.key) :
    front.map (fun other => if other.key = view.key then view else other) = front := by
  conv => rhs; rw [← List.map_id front]
  exact List.map_congr_left fun other member => if_neg (absent other member)

theorem put_of_present {replaced : ClauseView} (same : replaced.key = view.key)
    (fresh : ∀ other ∈ front, other.key ≠ view.key)
    (dropped : ∀ other ∈ back, other.key ≠ view.key) :
    view.put (front ++ replaced :: back) = front ++ view :: back := by
  have present : (front ++ replaced :: back).any (·.key = view.key) = true := by
    simp [same]
  rw [put, if_pos present, List.map_append, List.map_cons, map_of_absent fresh,
    map_of_absent dropped, if_pos same]

theorem inserted_before {default : ClauseView} (isDefault : default.isDefault = true)
    (before : ∀ other ∈ front, other.isDefault = false) :
    view.inserted (front ++ default :: back) = front ++ view :: default :: back := by
  induction front with
  | nil => rw [List.nil_append, inserted, if_pos isDefault, List.nil_append]
  | cons first rest inductionHypothesis =>
      rw [List.cons_append, inserted, before first List.mem_cons_self, if_neg Bool.false_ne_true,
        inductionHypothesis fun other member => before other (List.mem_cons_of_mem _ member)]
      rfl

theorem inserted_behind (cases : ∀ other ∈ front, other.isDefault = false) :
    view.inserted front = front ++ [view] := by
  induction front with
  | nil => rfl
  | cons first rest inductionHypothesis =>
      rw [inserted, cases first List.mem_cons_self, if_neg Bool.false_ne_true,
        inductionHypothesis fun other member => cases other (List.mem_cons_of_mem _ member)]
      rfl

end ClauseView

namespace Branch

/-- What the clause of a branch shows. -/
def view (branch : Branch) : ClauseView :=
  ⟨branch.key, ! branch.isCase, written branch.lexemes⟩

theorem views_clauses (branches : List Branch) (before after : Text) :
    (clausesFrom before.length branches).map
        (Clause.view (before ++ (textOf (lexemesOf branches) ++ after))) = branches.map view := by
  induction branches generalizing before with
  | nil => rfl
  | cons branch rest inductionHypothesis =>
      have own : before ++ (textOf (lexemesOf (branch :: rest)) ++ after) =
          (before ++ branch.head.gap) ++
            (written branch.lexemes ++ (textOf (lexemesOf rest) ++ after)) := by
        rw [lexemesOf_cons, Branch.lexemes, written.eq_def]
        simp [Lexeme.text]
      have behind := inductionHypothesis (before ++ textOf branch.lexemes)
      have same : before ++ textOf branch.lexemes ++ (textOf (lexemesOf rest) ++ after) =
          before ++ (textOf (lexemesOf (branch :: rest)) ++ after) := by
        simp [Branch.lexemes]
      rw [List.length_append, same] at behind
      rw [clausesFrom, List.map_cons, List.map_cons, behind, Clause.view,
        SwitchLayout.start_clauseAt, SwitchLayout.stop_clauseAt, own, slice_middle]
      rfl

theorem view_newBranch {body : List Lexeme} (clauseBody : ClauseBody body) {value indent : Text}
    (text : textOf body = Text.reindent (strip value) (indent ++ indentStep)) (gap key : Text) :
    (newBranch gap key indent body).view = ClauseView.ofTexts key value indent := by
  rw [view, key_newBranch, isCase_newBranch, written_newBranch clauseBody text]
  rfl

theorem view_withGap (gap : Text) (branch : Branch) : (branch.withGap gap).view = branch.view :=
  rfl

theorem key_of_view {branches : List Branch} {key : Text}
    (fresh : ∀ branch ∈ branches, branch.key ≠ some key) :
    ∀ shown ∈ branches.map view, shown.key ≠ some key := by
  intro shown member
  obtain ⟨branch, inside, rfl⟩ := List.mem_map.mp member
  exact fresh branch inside

theorem isDefault_of_view {branches : List Branch}
    (cases : ∀ branch ∈ branches, branch.isCase = true) :
    ∀ shown ∈ branches.map view, shown.isDefault = false := by
  intro shown member
  obtain ⟨branch, inside, rfl⟩ := List.mem_map.mp member
  rw [view, cases branch inside]
  rfl

end Branch

namespace SwitchLayout

open Branch

variable {function discriminant : Text} {layout edited : SwitchLayout} {front back : List Branch}
  {branch : Branch}

theorem Sound.views_eq (sound : layout.Sound function discriminant) {document : Document}
    (scanned : Scanned document layout.lexemes layout.after) :
    Switch.views document layout.braces.1 layout.braces.2 = layout.branches.map Branch.view := by
  have content : document.content = layout.content := scanned.content
  rw [Switch.views, sound.clauses_eq scanned, content, content_eq, clauses, views_clauses]

/-! ## The text around the clauses -/

/-- Two layouts have the same text up to the opening brace, and from the closing one on. -/
structure SameAround (edited layout : SwitchLayout) : Prop where
  lead : edited.lead = layout.lead
  brace : edited.brace = layout.brace
  closing : edited.closing.value = layout.closing.value
  rest : edited.rest = layout.rest
  after : edited.after = layout.after

namespace SameAround

theorem opening (same : SameAround edited layout) : edited.braces.1 = layout.braces.1 := by
  rw [braces, braces, same.lead]

theorem opened (same : SameAround edited layout) : edited.opened = layout.opened := by
  rw [SwitchLayout.opened, SwitchLayout.opened, same.lead, same.brace]

theorem upToBrace (same : SameAround edited layout) : edited.upToBrace = layout.upToBrace := by
  rw [SwitchLayout.upToBrace, SwitchLayout.upToBrace, same.lead, same.brace]

theorem fromClosing (same : SameAround edited layout) :
    edited.fromClosing = layout.fromClosing := by
  rw [SwitchLayout.fromClosing, SwitchLayout.fromClosing, same.closing, same.rest, same.after]

end SameAround

end SwitchLayout

/-! ## The slot of a key -/

/-- Upserts of a key with admissible bodies fill the slot. -/
structure CaseSlot.Fills (slot : CaseSlot) (layout : SwitchLayout) (wanted : CaseUpsert) :
    Prop where
  sound : slot.Sound wanted.function wanted.discriminant
  key : slot.key = wanted.key
  around : ∀ body, SwitchLayout.SameAround (slot.filled body) layout
  views : ∀ {value body}, ClauseBody body →
    textOf body = Text.reindent (strip value) (slot.indent ++ indentStep) →
    (slot.filled body).branches.map Branch.view =
      (ClauseView.ofTexts wanted.key value slot.indent).put (layout.branches.map Branch.view)
  upserted : ∀ {value body}, ClauseBody body →
    textOf body = Text.reindent (strip value) (slot.indent ++ indentStep) →
    ∃ outcome, upsertCase layout.content { wanted with body := value } = .ok (some outcome) ∧
      outcome.content = (slot.filled body).content

namespace SwitchLayout

open Branch

variable {wanted : CaseUpsert} {layout : SwitchLayout} {front back : List Branch} {branch : Branch}

theorem Sound.fills_replacing (sound : layout.Sound wanted.function wanted.discriminant)
    (sameLine : '\n' ∉ wanted.key) (shape : layout.branches = front ++ branch :: back)
    (hasKey : branch.key = some wanted.key) (fresh : ∀ other ∈ front, other.key ≠ some wanted.key)
    (dropped : ∀ other ∈ back, other.key ≠ some wanted.key) :
    (layout.slotAt front branch.head.gap wanted.key back layout.closing).Fills layout wanted where
  sound := ⟨fun _ => sound.slot_replacing shape sameLine, fresh, dropped⟩
  key := rfl
  around _ := ⟨rfl, rfl, rfl, rfl, rfl⟩
  views {value body} clauseBody text := by
    have same : branch.view.key = (ClauseView.ofTexts wanted.key value layout.indent).key := hasKey
    rw [indent_replacing shape] at text ⊢
    rw [shape, List.map_append, List.map_cons, ClauseView.put_of_present same (key_of_view fresh)
      (key_of_view dropped), ← view_newBranch clauseBody text branch.head.gap]
    show (front ++ newBranch branch.head.gap wanted.key _ body :: back).map Branch.view = _
    rw [indent_replacing shape, List.map_append, List.map_cons]
  upserted {value body} clauseBody text := by
    refine ⟨_, @Sound.upsert_replacing layout front back branch { wanted with body := value }
      sound shape hasKey fresh dropped, ?_⟩
    rw [CaseSlot.content_filled _ clauseBody text, indent_replacing shape]
    rfl

theorem Sound.fills_before (sound : layout.Sound wanted.function wanted.discriminant)
    (sameLine : '\n' ∉ wanted.key) (fresh : ∀ other ∈ layout.branches, other.key ≠ some wanted.key)
    (shape : layout.branches = front ++ branch :: back) (isDefault : branch.isCase = false)
    (before : ∀ other ∈ front, other.isCase = true) :
    (layout.slotAt front branch.head.gap wanted.key (branch.withGap layout.clauseGap :: back)
      layout.closing).Fills layout wanted where
  sound := by
    refine ⟨fun _ => sound.slot_before shape sameLine, fun other member => ?_, ?_⟩
    · exact fresh other (by rw [shape]; exact List.mem_append_left _ member)
    · rintro other (_ | ⟨_, member⟩)
      · exact fresh branch (by rw [shape]; simp)
      · exact fresh other (by
          rw [shape]
          exact List.mem_append_right _ (List.mem_cons_of_mem _ member))
  key := rfl
  around _ := ⟨rfl, rfl, rfl, rfl, rfl⟩
  views {value body} clauseBody text := by
    have shown : branch.view.isDefault = true := by
      rw [view, isDefault]
      rfl
    rw [indent_before shape] at text ⊢
    rw [ClauseView.put_of_absent (key_of_view fresh), shape, List.map_append, List.map_cons,
      ClauseView.inserted_before shown (isDefault_of_view before),
      ← view_newBranch clauseBody text branch.head.gap, ← view_withGap layout.clauseGap branch]
    show (front ++ newBranch branch.head.gap wanted.key _ body ::
      branch.withGap layout.clauseGap :: back).map Branch.view = _
    rw [indent_before shape, List.map_append, List.map_cons, List.map_cons]
  upserted {value body} clauseBody text := by
    refine ⟨_, @Sound.upsert_inserting layout { wanted with body := value } sound fresh, ?_⟩
    rw [CaseSlot.content_filled _ clauseBody text, indent_before shape]
    exact insert_before wanted.key shape isDefault before _

theorem Sound.fills_behind (sound : layout.Sound wanted.function wanted.discriminant)
    (sameLine : '\n' ∉ wanted.key) (fresh : ∀ other ∈ layout.branches, other.key ≠ some wanted.key)
    (nonempty : layout.branches ≠ []) (cases : ∀ other ∈ layout.branches, other.isCase = true) :
    (layout.slotAt layout.branches layout.clauseGap wanted.key [] layout.closing).Fills layout
      wanted where
  sound := ⟨fun _ => sound.slot_behind sameLine, fresh, fun _ member => absurd member
    List.not_mem_nil⟩
  key := rfl
  around _ := ⟨rfl, rfl, rfl, rfl, rfl⟩
  views {value body} clauseBody text := by
    rw [indent_behind] at text ⊢
    rw [ClauseView.put_of_absent (key_of_view fresh),
      ClauseView.inserted_behind (isDefault_of_view cases),
      ← view_newBranch clauseBody text layout.clauseGap]
    show (layout.branches ++ [newBranch layout.clauseGap wanted.key _ body]).map Branch.view = _
    rw [indent_behind, List.map_append, List.map_cons, List.map_nil]
  upserted {value body} clauseBody text := by
    refine ⟨_, @Sound.upsert_inserting layout { wanted with body := value } sound fresh, ?_⟩
    rw [CaseSlot.content_filled _ clauseBody text, indent_behind]
    exact insert_behind wanted.key nonempty cases _

theorem Sound.fills_first (sound : layout.Sound wanted.function wanted.discriminant)
    (sameLine : '\n' ∉ wanted.key) (alone : layout.branches = []) :
    (layout.slotAt [] (stripEnd layout.closing.gap ++ '\n' :: layout.indent) wanted.key []
      { layout.closing with gap := '\n' :: layout.braceIndent }).Fills layout wanted where
  sound := ⟨fun _ => sound.slot_first sameLine alone, fun _ member => absurd member
    List.not_mem_nil, fun _ member => absurd member List.not_mem_nil⟩
  key := rfl
  around _ := ⟨rfl, rfl, rfl, rfl, rfl⟩
  views {value body} clauseBody text := by
    rw [indent_first] at text ⊢
    rw [alone, ← view_newBranch clauseBody text (stripEnd layout.closing.gap ++ '\n' :: layout.indent)]
    show [newBranch _ wanted.key _ body].map Branch.view = _
    rw [indent_first]
    rfl
  upserted {value body} clauseBody text := by
    refine ⟨_, @Sound.upsert_inserting layout { wanted with body := value } sound
      (by rw [alone]; exact fun _ member => absurd member List.not_mem_nil), ?_⟩
    rw [CaseSlot.content_filled _ clauseBody text, indent_first]
    exact sound.insert_first wanted.key alone _

theorem countP_clauses (layout : SwitchLayout) (key : Text) :
    layout.clauses.countP (·.key = some key) =
      (layout.branches.map Branch.view).countP (·.key = some key) := by
  rw [← views_clauses layout.branches layout.upToBranches [], List.countP_map]
  rfl

theorem dropped_of_once {key : Text} (once : layout.clauses.countP (·.key = some key) ≤ 1)
    (shape : layout.branches = front ++ branch :: back) (hasKey : branch.key = some key) :
    ∀ other ∈ back, other.key ≠ some key := by
  have first : branch.view.key = some key := hasKey
  rw [countP_clauses, shape, List.map_append, List.map_cons, List.countP_append, List.countP_cons,
    if_pos (decide_eq_true first)] at once
  have none : (back.map Branch.view).countP (·.key = some key) = 0 := by omega
  intro other member otherKey
  exact List.countP_eq_zero.mp none other.view (List.mem_map_of_mem member)
    (decide_eq_true otherKey)

/-- The slot of a key: in the place of its branch, before the first default, behind all branches,
or between braces without branches. -/
inductive HasSlot (layout : SwitchLayout) (key : Text) : CaseSlot → Prop
  | replacing {front back : List Branch} {branch : Branch} :
      layout.branches = front ++ branch :: back → branch.key = some key →
      (∀ other ∈ front, other.key ≠ some key) → (∀ other ∈ back, other.key ≠ some key) →
      HasSlot layout key (layout.slotAt front branch.head.gap key back layout.closing)
  | before {front back : List Branch} {branch : Branch} :
      (∀ other ∈ layout.branches, other.key ≠ some key) →
      layout.branches = front ++ branch :: back → branch.isCase = false →
      (∀ other ∈ front, other.isCase = true) →
      HasSlot layout key (layout.slotAt front branch.head.gap key
        (branch.withGap layout.clauseGap :: back) layout.closing)
  | behind : (∀ other ∈ layout.branches, other.key ≠ some key) → layout.branches ≠ [] →
      (∀ other ∈ layout.branches, other.isCase = true) →
      HasSlot layout key (layout.slotAt layout.branches layout.clauseGap key [] layout.closing)
  | first : layout.branches = [] →
      HasSlot layout key (layout.slotAt []
        (stripEnd layout.closing.gap ++ '\n' :: layout.indent) key []
        { layout.closing with gap := '\n' :: layout.braceIndent })

theorem exists_slot {key : Text} (once : layout.clauses.countP (·.key = some key) ≤ 1) :
    ∃ slot, layout.HasSlot key slot := by
  rcases exists_key key layout.branches with fresh | ⟨front, branch, back, shape, fresh, hasKey⟩
  · rcases exists_default layout.branches with
      cases | ⟨front, branch, back, shape, isDefault, before⟩
    · by_cases alone : layout.branches = []
      · exact ⟨_, .first alone⟩
      · exact ⟨_, .behind fresh alone cases⟩
    · exact ⟨_, .before fresh shape isDefault before⟩
  · exact ⟨_, .replacing shape hasKey fresh (dropped_of_once once shape hasKey)⟩

/-- All upserts of a key fill its slot. -/
theorem Sound.fills (sound : layout.Sound wanted.function wanted.discriminant)
    (sameLine : '\n' ∉ wanted.key) {slot : CaseSlot} (hasSlot : layout.HasSlot wanted.key slot) :
    slot.Fills layout wanted := by
  cases hasSlot with
  | replacing shape hasKey fresh dropped =>
      exact sound.fills_replacing sameLine shape hasKey fresh dropped
  | before fresh shape isDefault before =>
      exact sound.fills_before sameLine fresh shape isDefault before
  | behind fresh nonempty cases => exact sound.fills_behind sameLine fresh nonempty cases
  | first alone => exact sound.fills_first sameLine alone

end SwitchLayout

theorem SwitchLayout.exists_hasSlot {content function discriminant key : Text} {document : Document}
    {opening closing : Nat} (scannedText : Document.ofText content = .ok document)
    (found : Switch.find? document function discriminant = some (opening, closing))
    (once : (Switch.clauses document opening closing).countP (·.key = some key) ≤ 1) :
    ∃ layout : SwitchLayout, ∃ slot, layout.Sound function discriminant ∧ layout.content = content ∧
      layout.braces.1 = opening ∧ layout.braces.2 = closing ∧
      Scanned document layout.lexemes layout.after ∧ layout.HasSlot key slot := by
  obtain ⟨layout, sound, isContent, braces, scanned⟩ := exists_sound scannedText found
  obtain rfl : layout.braces.1 = opening := congrArg Prod.fst braces
  obtain rfl : layout.braces.2 = closing := congrArg Prod.snd braces
  rw [sound.clauses_eq scanned] at once
  obtain ⟨slot, hasSlot⟩ := exists_slot once
  exact ⟨layout, slot, sound, isContent, rfl, rfl, scanned, hasSlot⟩

/-- What an upsert writes into a slot is scanned, and the switch is found at the same brace. -/
theorem CaseSlot.Fills.exists_updated {slot : CaseSlot} {layout : SwitchLayout}
    {wanted : CaseUpsert} (fills : slot.Fills layout wanted) {body : List Lexeme}
    (clauseBody : ClauseBody body)
    (text : textOf body = Text.reindent (strip wanted.body) (slot.indent ++ indentStep)) :
    ∃ outcome updated, upsertCase layout.content wanted = .ok (some outcome) ∧
      outcome.content = (slot.filled body).content ∧
      Document.ofText outcome.content = .ok updated ∧
      Scanned updated (slot.filled body).lexemes (slot.filled body).after ∧
      Switch.find? updated wanted.function wanted.discriminant =
        some (layout.braces.1, (slot.filled body).braces.2) := by
  obtain ⟨outcome, upserted, shape⟩ := fills.upserted clauseBody text
  obtain ⟨updated, updatedText, updatedScanned, found⟩ :=
    (fills.sound.sound body clauseBody).find
  refine ⟨outcome, updated, upserted, shape, ?_, updatedScanned, ?_⟩
  · rw [shape]
    exact updatedText
  · rw [← (fills.around body).opening]
    exact found

/-- An upsert of the key of a filled slot exchanges the body in it. -/
theorem CaseSlot.Sound.upsert {slot : CaseSlot} {wanted : CaseUpsert} {first second : List Lexeme}
    (sound : slot.Sound wanted.function wanted.discriminant) (key : slot.key = wanted.key)
    (firstBody : ClauseBody first) (secondBody : ClauseBody second)
    (text : textOf second = Text.reindent (strip wanted.body) (slot.indent ++ indentStep)) :
    upsertCase (slot.filled first).content wanted = .ok (some (Outcome.ofTexts
      (slot.filled first).content (slot.filled second).content)) := by
  have shape : (slot.filled first).branches =
      slot.front ++ newBranch slot.gap slot.key slot.indent first :: slot.back := rfl
  have hasKey := key_newBranch slot.gap slot.key slot.indent first
  rw [key] at hasKey
  have upserted := (sound.sound first firstBody).upsert_replacing shape (key ▸ hasKey)
    (key ▸ sound.fresh) (key ▸ sound.dropped)
  rw [slot.indent_filled, ← key] at upserted
  rw [slot.content_filled secondBody text]
  exact upserted

theorem CaseSlot.Sound.countP {function discriminant : Text} {slot : CaseSlot}
    (sound : slot.Sound function discriminant) (body : List Lexeme) :
    (slot.filled body).clauses.countP (·.key = some slot.key) = 1 := by
  have absent {branches : List Branch} (others : ∀ branch ∈ branches, branch.key ≠ some slot.key) :
      (branches.map Branch.view).countP (·.key = some slot.key) = 0 := by
    rw [List.countP_eq_zero]
    exact fun shown member hasKey =>
      Branch.key_of_view others shown member (of_decide_eq_true hasKey)
  have own : (newBranch slot.gap slot.key slot.indent body).view.key = some slot.key :=
    key_newBranch slot.gap slot.key slot.indent body
  rw [SwitchLayout.countP_clauses]
  show ((slot.front ++ newBranch slot.gap slot.key slot.indent body :: slot.back).map
    Branch.view).countP (·.key = some slot.key) = 1
  rw [List.map_append, List.map_cons, List.countP_append, List.countP_cons, absent sound.fresh,
    absent sound.dropped, if_pos (decide_eq_true own)]

/-! ## The law -/

/-- A text that is scanned, with the braces of the switch that is found in it. -/
def Switch.locate (content function discriminant : Text) : Option (Document × Nat × Nat) :=
  match Document.ofText content with
  | .error _ => none
  | .ok document => (Switch.find? document function discriminant).map fun braces =>
      (document, braces)

/-- A check of the switch that is found in a text succeeds only if there is one. -/
theorem Switch.exists_located {content function discriminant : Text}
    (check : Document → Nat → Nat → Bool)
    (checked : (Switch.locate content function discriminant).any
      (fun found => check found.1 found.2.1 found.2.2) = true) :
    ∃ document opening closing, Document.ofText content = .ok document ∧
      Switch.find? document function discriminant = some (opening, closing) ∧
      check document opening closing = true := by
  rw [Switch.locate] at checked
  split at checked
  · cases checked
  · next document scannedText =>
      cases found : Switch.find? document function discriminant with
      | none =>
          rw [found] at checked
          cases checked
      | some braces =>
          rw [found] at checked
          exact ⟨document, braces.1, braces.2, scannedText, found, checked⟩

/-- In a document in which the switch of a function is found, an upsert of a key that labels at
most one of its clauses succeeds.  The switch is found at the same brace, with exactly one clause of
the key: in the place of the old one, or right before the first default, or at the end.  All other
clauses keep their texts and their order, and so does the text outside the braces.  The same upsert
once more changes nothing, and an upsert of another body gives what it gives at first. -/
theorem upsertCase_put {content : Text} {wanted : CaseUpsert} {document : Document}
    {opening closing : Nat} (scannedText : Document.ofText content = .ok document)
    (found : Switch.find? document wanted.function wanted.discriminant = some (opening, closing))
    (sameLine : '\n' ∉ wanted.key)
    (once : (Switch.clauses document opening closing).countP (·.key = some wanted.key) ≤ 1)
    (admissible : isClauseBody (strip wanted.body) = true) :
    ∃ outcome updated closed indent,
      upsertCase content wanted = .ok (some outcome) ∧
      Document.ofText outcome.content = .ok updated ∧
      Switch.find? updated wanted.function wanted.discriminant = some (opening, closed) ∧
      isBlankText indent = true ∧ '\n' ∉ indent ∧
      Switch.views updated opening closed =
        (ClauseView.ofTexts wanted.key wanted.body indent).put
          (Switch.views document opening closing) ∧
      (Switch.clauses updated opening closed).countP (·.key = some wanted.key) = 1 ∧
      updated.startOf opening = document.startOf opening ∧
      outcome.content.take (document.startOf opening + 1) =
        content.take (document.startOf opening + 1) ∧
      outcome.content.drop (updated.startOf closed) = content.drop (document.startOf closing) ∧
      upsertCase outcome.content wanted = .ok (some ⟨outcome.content, false⟩) ∧
      ∀ later, isClauseBody (strip later) = true → ∃ again direct,
        upsertCase outcome.content { wanted with body := later } = .ok (some again) ∧
        upsertCase content { wanted with body := later } = .ok (some direct) ∧
        again.content = direct.content := by
  obtain ⟨layout, slot, sound, rfl, rfl, rfl, scanned, hasSlot⟩ :=
    SwitchLayout.exists_hasSlot scannedText found once
  have fills := sound.fills sameLine hasSlot
  have areBlank := isMargin_append slot.isMargin_indent isMargin_indentStep
  obtain ⟨body, text, clauseBody⟩ := exists_reindentedBody admissible areBlank
  obtain ⟨outcome, updated, upserted, shape, updatedText, updatedScanned, foundAgain⟩ :=
    fills.exists_updated clauseBody text
  have filledSound := fills.sound.sound body clauseBody
  have around := fills.around body
  have startOpening := SwitchLayout.startOf_opening scanned
  have startUpdated := SwitchLayout.startOf_opening updatedScanned
  have views := filledSound.views_eq updatedScanned
  have updatedClauses := filledSound.clauses_eq updatedScanned
  rw [around.opening] at startUpdated views updatedClauses
  refine ⟨outcome, updated, (slot.filled body).braces.2, slot.indent, upserted, updatedText,
    foundAgain, isBlankText_of_isMargin slot.isMargin_indent,
    lineFeed_notMem_of_isMargin slot.isMargin_indent, ?_, ?_, ?_, ?_, ?_, ?_, ?_⟩
  · rw [views, fills.views clauseBody text, sound.views_eq scanned]
  · rw [updatedClauses, ← fills.key]
    exact fills.sound.countP body
  · rw [startUpdated, startOpening, around.opened]
  · have front := filledSound.take_opened
    rw [around.opened, around.upToBrace, ← sound.take_opened] at front
    rw [shape, startOpening]
    exact front
  · rw [shape, SwitchLayout.startOf_closing updatedScanned, SwitchLayout.startOf_closing scanned,
      SwitchLayout.drop_closed, SwitchLayout.drop_closed, around.fromClosing]
  · have again := fills.sound.upsert fills.key clauseBody clauseBody text
    rw [shape, again, Outcome.ofTexts, decide_eq_false (not_not.mpr rfl)]
  · intro later laterAdmissible
    obtain ⟨laterBody, laterText, laterIs⟩ := exists_reindentedBody laterAdmissible areBlank
    obtain ⟨direct, directly, directShape⟩ := fills.upserted laterIs laterText
    have again := @CaseSlot.Sound.upsert slot { wanted with body := later } body laterBody
      fills.sound fills.key clauseBody laterIs laterText
    refine ⟨Outcome.ofTexts (slot.filled body).content (slot.filled laterBody).content, direct, ?_,
      directly, directShape.symm⟩
    rw [shape]
    exact again

theorem upsertCase_put_default :
    ∃ outcome again,
      upsertCase "function f(x) \x7b switch (x) \x7b default: return 1; \x7d \x7d".toList
        ⟨['f'], ['x'], ['a'], "return 2;".toList⟩ = .ok (some outcome) ∧
      upsertCase outcome.content ⟨['f'], ['x'], ['a'], "return 2;".toList⟩ =
        .ok (some ⟨outcome.content, false⟩) ∧
      upsertCase outcome.content ⟨['f'], ['x'], ['a'], " throw x; ".toList⟩ = .ok (some again) ∧
      again.content = ("function f(x) \x7b switch (x) \x7b case 'a':\n    throw x;\n\n" ++
        "  default: return 1; \x7d \x7d").toList := by
  let content : Text := "function f(x) \x7b switch (x) \x7b default: return 1; \x7d \x7d".toList
  let wanted : CaseUpsert := ⟨['f'], ['x'], ['a'], "return 2;".toList⟩
  obtain ⟨document, opening, closing, scannedText, found, once⟩ :=
    @Switch.exists_located content ['f'] ['x'] (fun document opening closing =>
      (Switch.clauses document opening closing).countP (·.key = some ['a']) ≤ 1)
      (by decide +kernel)
  obtain ⟨outcome, _, _, _, upserted, _, _, _, _, _, _, _, _, _, unchanged, lastWrite⟩ :=
    @upsertCase_put content wanted document opening closing scannedText found (by decide)
      (of_decide_eq_true once) (by decide +kernel)
  obtain ⟨again, direct, second, first, same⟩ := lastWrite " throw x; ".toList (by decide +kernel)
  refine ⟨outcome, again, upserted, unchanged, second, ?_⟩
  have alone : ((upsertCase content { wanted with body := " throw x; ".toList }).toOption.bind
      fun written => written.map Outcome.content) =
        some ("function f(x) \x7b switch (x) \x7b case 'a':\n    throw x;\n\n" ++
          "  default: return 1; \x7d \x7d").toList := by decide +kernel
  rw [first] at alone
  rw [same]
  exact Option.some.inj alone

end EmbedScaffold
