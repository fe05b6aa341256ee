import EmbedScaffold.Proofs.Registry.Upsert
import EmbedScaffold.Proofs.Switch.Slot

/-!
# Upserting a clause is filling its slot

The text that an upsert gives is that of the layout with the new clause in its slot, in each of the
four places a clause may go to.
-/

namespace EmbedScaffold

open Text Scan Lexeme

/-! ## Clauses of branches -/

namespace Branch

variable {branches : List Branch} {offset : Nat} {key : Text}

theorem exists_of_clause {clause : Clause} (member : clause ∈ clausesFrom offset branches) :
    ∃ branch ∈ branches, clause.key = branch.key ∧ clause.isDefault = ! branch.isCase := by
  induction branches generalizing offset with
  | nil => cases member
  | cons first rest inductionHypothesis =>
      rcases List.mem_cons.mp member with rfl | behind
      · exact ⟨first, List.mem_cons_self, rfl, rfl⟩
      · obtain ⟨branch, inRest, same⟩ := inductionHypothesis behind
        exact ⟨branch, List.mem_cons_of_mem _ inRest, same⟩

theorem filter_clauses_nil (fresh : ∀ branch ∈ branches, branch.key ≠ some key) (offset : Nat) :
    (clausesFrom offset branches).filter (·.key = some key) = [] := by
  rw [List.filter_eq_nil_iff]
  intro clause member hasKey
  obtain ⟨branch, inside, same, _⟩ := exists_of_clause member
  exact fresh branch inside (same.symm.trans (of_decide_eq_true hasKey))

theorem find?_default_none (cases : ∀ branch ∈ branches, branch.isCase = true) (offset : Nat) :
    (clausesFrom offset branches).find? (·.isDefault) = none := by
  rw [List.find?_eq_none]
  intro clause member isDefault
  obtain ⟨branch, inside, _, same⟩ := exists_of_clause member
  rw [same, cases branch inside] at isDefault
  cases isDefault

theorem exists_default (branches : List Branch) :
    (∀ branch ∈ branches, branch.isCase = true) ∨
      ∃ front branch back, branches = front ++ branch :: back ∧ branch.isCase = false ∧
        ∀ other ∈ front, other.isCase = true := by
  induction branches with
  | nil => exact Or.inl fun _ member => absurd member List.not_mem_nil
  | cons first rest inductionHypothesis =>
      by_cases isCase : first.isCase = true
      · rcases inductionHypothesis with cases | ⟨front, branch, back, rfl, isDefault, before⟩
        · exact Or.inl fun other member => (List.mem_cons.mp member).elim (· ▸ isCase) (cases other)
        · exact Or.inr ⟨first :: front, branch, back, rfl, isDefault, fun other member =>
            (List.mem_cons.mp member).elim (· ▸ isCase) (before other)⟩
      · exact Or.inr ⟨[], first, rest, rfl, Bool.eq_false_iff.mpr isCase,
          fun _ member => absurd member List.not_mem_nil⟩

theorem exists_key (key : Text) (branches : List Branch) :
    (∀ branch ∈ branches, branch.key ≠ some key) ∨
      ∃ front branch back, branches = front ++ branch :: back ∧
        (∀ other ∈ front, other.key ≠ some key) ∧ branch.key = some key := by
  induction branches with
  | nil => exact Or.inl fun _ member => absurd member List.not_mem_nil
  | cons first rest inductionHypothesis =>
      by_cases hasKey : first.key = some key
      · exact Or.inr ⟨[], first, rest, rfl, fun _ member => absurd member List.not_mem_nil, hasKey⟩
      · rcases inductionHypothesis with fresh | ⟨front, branch, back, rfl, fresh, found⟩
        · exact Or.inl fun other member => (List.mem_cons.mp member).elim (· ▸ hasKey) (fresh other)
        · exact Or.inr ⟨first :: front, branch, back, rfl, fun other member =>
            (List.mem_cons.mp member).elim (· ▸ hasKey) (fresh other), found⟩

end Branch

namespace SwitchLayout

open Branch

variable {function discriminant key : Text} {layout : SwitchLayout} {front back : List Branch}
  {branch : Branch}

theorem textOf_upTo (layout : SwitchLayout) (front : List Branch) :
    textOf (layout.upTo front) = layout.upToBranches ++ textOf (lexemesOf front) := by
  rw [upTo, upToBranches]
  simp

theorem content_upTo (shape : layout.branches = front ++ back) :
    layout.content = textOf (layout.upTo front) ++
      (textOf (lexemesOf back ++ layout.closing :: layout.rest) ++ layout.after) := by
  rw [content, lexemes_upTo shape, textOf_append (layout.upTo front), List.append_assoc]

theorem length_upTo (layout : SwitchLayout) (front : List Branch) :
    (textOf (layout.upTo front)).length =
      layout.upToBranches.length + (textOf (lexemesOf front)).length := by
  rw [textOf_upTo, List.length_append]

theorem content_clause (shape : layout.branches = front ++ branch :: back) :
    layout.content = (textOf (layout.upTo front) ++ branch.head.gap) ++
      (written branch.lexemes ++
        (textOf (lexemesOf back ++ layout.closing :: layout.rest) ++ layout.after)) := by
  rw [content_upTo shape, lexemesOf_cons, Branch.lexemes, written.eq_def]
  simp [Lexeme.text]

theorem start_clauseAt (before : Text) (branch : Branch) :
    (branch.clauseAt before.length).start = (before ++ branch.head.gap).length :=
  (List.length_append).symm

theorem stop_clauseAt (before : Text) (branch : Branch) :
    (branch.clauseAt before.length).stop =
      (before ++ branch.head.gap).length + (written branch.lexemes).length := by
  rw [List.length_append, Nat.add_assoc]
  exact congrArg _ (textOf_length branch.lexemes)

end SwitchLayout

/-- The text with some text in the place of the clause. -/
def CaseSlot.textWith (slot : CaseSlot) (clause : Text) : Text :=
  textOf (slot.base.upTo slot.front) ++ (slot.gap ++ (clause ++
    (textOf (Branch.lexemesOf slot.back ++ slot.base.closing :: slot.base.rest) ++
      slot.base.after)))

open SwitchLayout in
theorem CaseSlot.content_filled (slot : CaseSlot) {body : List Lexeme}
    (clauseBody : ClauseBody body) {value : Text}
    (text : textOf body = Text.reindent (strip value) (slot.indent ++ indentStep)) :
    (slot.filled body).content = slot.textWith (Switch.clauseText slot.key value slot.indent) := by
  let branch := newBranch slot.gap slot.key slot.indent body
  have shape : (slot.filled body).branches = slot.front ++ branch :: slot.back := rfl
  have written : textOf branch.lexemes =
      slot.gap ++ Switch.clauseText slot.key value slot.indent := by
    rw [textOf_eq, written_newBranch clauseBody text]
    rfl
  rw [content_upTo shape, Branch.lexemesOf_cons, ← List.cons_append,
    show branch.head :: branch.body = branch.lexemes from rfl, List.append_assoc, textOf_append,
    written, List.append_assoc, List.append_assoc]
  rfl

namespace SwitchLayout

open Branch

variable {function discriminant key : Text} {layout : SwitchLayout} {front back : List Branch}
  {branch : Branch}

/-! ## What an upsert gives -/

theorem Sound.upsertCase_eq {wanted : CaseUpsert}
    (sound : layout.Sound wanted.function wanted.discriminant) :
    upsertCase layout.content wanted =
      match layout.clauses.filter (·.key = some wanted.key) with
      | [] => .ok (some ⟨Switch.insertClause layout.content layout.clauses layout.opened
          layout.closed layout.indent
          (Switch.clauseText wanted.key wanted.body layout.indent), true⟩)
      | [target] => .ok (some (Outcome.ofTexts layout.content
          (splice layout.content target.start target.stop
            (Switch.clauseText wanted.key wanted.body layout.indent))))
      | _ => .error (.duplicateCase wanted.key wanted.function) := by
  obtain ⟨document, scannedText, scanned, found⟩ := sound.find
  obtain ⟨⟨bodyOpening, bodyClosing⟩, isFunction, isSwitch⟩ := Option.bind_eq_some_iff.mp found
  dsimp only at isSwitch
  have read := Document.forEdit_ok scannedText
  have opened := startOf_opening scanned
  have closed := startOf_closing scanned
  have clauses := sound.clauses_eq scanned
  rw [upsertCase]
  cases existing : layout.clauses.filter (·.key = some wanted.key) with
  | nil =>
      simp only [read, isFunction, isSwitch, bind, Except.bind, pure, Except.pure, clauses, opened,
        closed, sound.clauseIndent_eq, existing]
  | cons target others =>
      cases others with
      | nil =>
          simp only [read, isFunction, isSwitch, bind, Except.bind, pure, Except.pure, clauses,
            opened, sound.clauseIndent_eq, existing]
      | cons second more =>
          simp only [read, isFunction, isSwitch, bind, Except.bind, clauses, existing]

theorem Sound.upsert_replacing {wanted : CaseUpsert}
    (sound : layout.Sound wanted.function wanted.discriminant)
    (shape : layout.branches = front ++ branch :: back) (hasKey : branch.key = some wanted.key)
    (fresh : ∀ other ∈ front, other.key ≠ some wanted.key)
    (dropped : ∀ other ∈ back, other.key ≠ some wanted.key) :
    upsertCase layout.content wanted = .ok (some (Outcome.ofTexts layout.content
      ((layout.slotAt front branch.head.gap wanted.key back layout.closing).textWith
        (Switch.clauseText wanted.key wanted.body layout.indent)))) := by
  have target : layout.clauses.filter (·.key = some wanted.key) =
      [branch.clauseAt (textOf (layout.upTo front)).length] := by
    have isTarget : (branch.clauseAt (textOf (layout.upTo front)).length).key = some wanted.key :=
      hasKey
    rw [clauses, shape, clausesFrom_append, clausesFrom, ← length_upTo, List.filter_append,
      filter_clauses_nil fresh, List.filter_cons, if_pos (decide_eq_true isTarget),
      filter_clauses_nil dropped, List.nil_append]
  have spliced (clause : Text) : splice layout.content
      (branch.clauseAt (textOf (layout.upTo front)).length).start
      (branch.clauseAt (textOf (layout.upTo front)).length).stop clause =
        (layout.slotAt front branch.head.gap wanted.key back layout.closing).textWith clause := by
    rw [CaseSlot.textWith, start_clauseAt, stop_clauseAt, content_clause shape, splice_middle,
      List.append_assoc]
    rfl
  rw [sound.upsertCase_eq, target]
  dsimp only
  rw [spliced]

theorem Sound.upsert_inserting {wanted : CaseUpsert}
    (sound : layout.Sound wanted.function wanted.discriminant)
    (fresh : ∀ other ∈ layout.branches, other.key ≠ some wanted.key) :
    upsertCase layout.content wanted =
      .ok (some ⟨Switch.insertClause layout.content layout.clauses layout.opened layout.closed
        layout.indent (Switch.clauseText wanted.key wanted.body layout.indent), true⟩) := by
  rw [sound.upsertCase_eq, clauses, filter_clauses_nil fresh]

theorem insert_before (key : Text) (shape : layout.branches = front ++ branch :: back)
    (isDefault : branch.isCase = false) (before : ∀ other ∈ front, other.isCase = true)
    (clause : Text) :
    Switch.insertClause layout.content layout.clauses layout.opened layout.closed layout.indent
        clause =
      (layout.slotAt front branch.head.gap key (branch.withGap layout.clauseGap :: back)
        layout.closing).textWith clause := by
  have first : layout.clauses.find? (·.isDefault) =
      some (branch.clauseAt (textOf (layout.upTo front)).length) := by
    have shown : (branch.clauseAt (textOf (layout.upTo front)).length).isDefault = true := by
      rw [clauseAt, isDefault]
      rfl
    rw [clauses, shape, clausesFrom_append, clausesFrom, ← length_upTo, List.find?_append,
      find?_default_none before, Option.none_or, List.find?_cons, shown]
  have gap : "\n\n".toList = ['\n', '\n'] := rfl
  rw [Switch.insertClause, first]
  dsimp only
  rw [start_clauseAt, content_clause shape, splice_between, written.eq_def, gap]
  simp [CaseSlot.textWith, slotAt, upTo, Branch.withGap, Branch.lexemes, Lexeme.text, clauseGap]

theorem insert_behind (key : Text) (nonempty : layout.branches ≠ [])
    (cases : ∀ other ∈ layout.branches, other.isCase = true) (clause : Text) :
    Switch.insertClause layout.content layout.clauses layout.opened layout.closed layout.indent
        clause =
      (layout.slotAt layout.branches layout.clauseGap key [] layout.closing).textWith clause := by
  have first : layout.clauses.find? (·.isDefault) = none := find?_default_none cases _
  obtain ⟨last, isLast, stop⟩ : ∃ last, layout.clauses.getLast? = some last ∧
      last.stop = layout.upToClosing.length := by
    rcases List.eq_nil_or_concat layout.branches with empty | ⟨others, branch, shape⟩
    · exact absurd empty nonempty
    · rw [List.concat_eq_append] at shape
      rw [clauses, upToClosing, shape, clausesFrom_append]
      refine ⟨_, List.getLast?_concat, ?_⟩
      simp [clauseAt, Branch.lexemes, Nat.add_assoc]
  have gap : "\n\n".toList = ['\n', '\n'] := rfl
  have front : textOf (layout.upTo layout.branches) = layout.upToClosing := textOf_upTo layout _
  rw [Switch.insertClause, first, isLast]
  dsimp only
  rw [stop, gap, content_upToClosing, ← front, splice_between, behind]
  simp [CaseSlot.textWith, slotAt, upTo, clauseGap]

theorem Sound.insert_first (sound : layout.Sound function discriminant) (key : Text)
    (alone : layout.branches = []) (clause : Text) :
    Switch.insertClause layout.content layout.clauses layout.opened layout.closed layout.indent
        clause =
      (layout.slotAt [] (stripEnd layout.closing.gap ++ '\n' :: layout.indent) key []
        { layout.closing with gap := '\n' :: layout.braceIndent }).textWith clause := by
  have none : layout.clauses = [] := by
    rw [clauses, alone]
    rfl
  have front : layout.upToClosing = layout.upToBrace ++ textOf layout.intro := by
    rw [upToClosing, upToBranches, upToBrace, alone]
    simp
  have cut : layout.content =
      layout.upToBrace ++ ((textOf layout.intro ++ layout.closing.gap) ++ layout.fromClosing) := by
    rw [content_upToClosing, front, SwitchLayout.behind, fromClosing, textOf_cons, Lexeme.text]
    simp
  have stop : layout.closed =
      layout.upToBrace.length + (textOf layout.intro ++ layout.closing.gap).length := by
    rw [SwitchLayout.closed, front, List.length_append, List.length_append, Nat.add_assoc]
  have inside : stripEnd (textOf layout.intro ++ layout.closing.gap) =
      textOf layout.intro ++ stripEnd layout.closing.gap := by
    have fits := sound.fits
    have shape : layout.lexemes = (layout.lead ++ [layout.brace]) ++
        (layout.intro ++ (lexemesOf layout.branches ++ layout.closing :: layout.rest)) := by
      rw [lexemes, inner]
      simp
    rw [shape] at fits
    exact trimEnd_append isBlank _ _ (fits_append.mp (fits_append.mp fits).2).1.solid_last
  have upTo : textOf (layout.upTo []) = layout.upToBrace ++ textOf layout.intro := by
    rw [textOf_upTo, ← front, upToClosing, alone]
  have whole : (layout.slotAt [] (stripEnd layout.closing.gap ++ '\n' :: layout.indent) key []
      { layout.closing with gap := '\n' :: layout.braceIndent }).textWith clause =
        textOf (layout.upTo []) ++ ((stripEnd layout.closing.gap ++ '\n' :: layout.indent) ++
          (clause ++ ('\n' :: layout.braceIndent ++ layout.closing.value ++ textOf layout.rest ++
            layout.after))) := by
    rw [CaseSlot.textWith, SwitchLayout.slotAt, lexemesOf_nil, List.nil_append, textOf_cons]
    simp [Lexeme.text, SwitchLayout.upTo]
  rw [Switch.insertClause, none]
  show splice layout.content (layout.opened + 1) layout.closed
    (stripEnd (slice layout.content (layout.opened + 1) layout.closed) ++ ['\n'] ++ layout.indent ++
      clause ++ ['\n'] ++ lineIndent layout.content layout.opened) = _
  rw [sound.lineIndent_opened, ← sound.upToBrace_length, stop, cut, slice_middle, splice_middle,
    inside, whole, upTo, fromClosing]
  simp

end SwitchLayout

end EmbedScaffold
