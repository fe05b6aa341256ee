import EmbedScaffold.Proofs.Text.Line

/-!
# Texts that differ in their margins

Indenting the lines of a value changes nothing but the blanks behind its line feeds.  The relation
`Realigned before after` says so of two texts, down to two tails that may differ in any way.  With
equal tails it describes indentation; without a change of blanks it describes a text that goes on
differently from some place on.
-/

namespace EmbedScaffold.Text

/-- A blank that ends no line. -/
def isMargin (tested : Char) : Bool :=
  isBlank tested && ! isLineFeed tested

theorem isMargin_iff (tested : Char) :
    isMargin tested = true ↔ isBlank tested = true ∧ tested ≠ '\n' := by
  simp [isMargin, isLineFeed]

theorem isBlankText_of_isMargin {indent : Text}
    (areBlank : ∀ blank ∈ indent, isMargin blank = true) : isBlankText indent = true :=
  List.all_eq_true.mpr fun blank member => ((isMargin_iff blank).mp (areBlank blank member)).1

theorem isMargin_of_isBlankText {indent : Text} (areBlanks : isBlankText indent = true)
    (sameLine : '\n' ∉ indent) : ∀ blank ∈ indent, isMargin blank = true := by
  intro blank member
  refine (isMargin_iff blank).mpr ⟨List.all_eq_true.mp areBlanks blank member, ?_⟩
  rintro rfl
  exact sameLine member

theorem lineFeed_notMem_of_isMargin {indent : Text}
    (areBlank : ∀ blank ∈ indent, isMargin blank = true) : '\n' ∉ indent :=
  fun member => ((isMargin_iff '\n').mp (areBlank '\n' member)).2 rfl

/-- `Realigned before after margin source target`: the texts agree up to the tails `before` and
`after`, except that behind a line feed either one may have more blanks.  `margin` tells whether
only such blanks separate the present place from the last line feed. -/
inductive Realigned (before after : Text) : Bool → Text → Text → Prop
  | tail (margin : Bool) : Realigned before after margin before after
  | char (margin : Bool) (shared : Char) {source target : Text} :
      Realigned before after (isLineFeed shared) source target →
      Realigned before after margin (shared :: source) (shared :: target)
  | removed (blank : Char) {source target : Text} :
      isMargin blank = true →
      Realigned before after true source target →
      Realigned before after true (blank :: source) target
  | added (blank : Char) {source target : Text} :
      isMargin blank = true →
      Realigned before after true source target →
      Realigned before after true source (blank :: target)

namespace Realigned

variable {before after source target : Text} {margin : Bool}

theorem ofTails (shared before after : Text) :
    ∀ margin, Realigned before after margin (shared ++ before) (shared ++ after) := by
  induction shared with
  | nil =>
      intro margin
      exact tail margin
  | cons first rest inductionHypothesis =>
      intro margin
      exact char margin first (inductionHypothesis _)

theorem length_le (related : Realigned before after margin source target) :
    before.length ≤ source.length ∧ after.length ≤ target.length := by
  induction related with
  | tail => exact ⟨Nat.le_refl _, Nat.le_refl _⟩
  | char margin shared _ inductionHypothesis =>
      exact ⟨Nat.le_succ_of_le inductionHypothesis.1, Nat.le_succ_of_le inductionHypothesis.2⟩
  | removed blank _ _ inductionHypothesis =>
      exact ⟨Nat.le_succ_of_le inductionHypothesis.1, inductionHypothesis.2⟩
  | added blank _ _ inductionHypothesis =>
      exact ⟨inductionHypothesis.1, Nat.le_succ_of_le inductionHypothesis.2⟩

theorem eq_of_length (related : Realigned before after false source target)
    (reached : source.length = before.length) : source = before ∧ target = after := by
  cases related with
  | tail => exact ⟨rfl, rfl⟩
  | char _ shared rest =>
      have bound := rest.length_le.1
      simp only [List.length_cons] at reached
      omega

/-- Away from a margin the texts begin alike. -/
theorem cons_inv {first : Char} {rest : Text}
    (related : Realigned before after false (first :: rest) target)
    (longer : before.length ≤ rest.length) :
    ∃ others, target = first :: others ∧
      Realigned before after (isLineFeed first) rest others := by
  cases related with
  | tail => exact absurd longer (by simp)
  | char _ _ restRelated => exact ⟨_, rfl, restRelated⟩

/-- The first character stands in the other text too, behind further blanks of a margin, or it is
itself such a blank and is left out. -/
theorem cons_cases {first : Char} {rest : Text}
    (related : Realigned before after margin (first :: rest) target)
    (longer : before.length ≤ rest.length) :
    (∃ blanks others, (∀ blank ∈ blanks, isMargin blank = true) ∧
        target = blanks ++ first :: others ∧
        Realigned before after (isLineFeed first) rest others) ∨
      (isMargin first = true ∧ Realigned before after true rest target) := by
  generalize whole : first :: rest = content at related
  induction related with
  | tail =>
      subst whole
      exact absurd longer (by simp)
  | char _ shared restRelated =>
      cases whole
      exact Or.inl ⟨[], _, by simp, rfl, restRelated⟩
  | removed blank isBlankFirst restRelated =>
      cases whole
      exact Or.inr ⟨isBlankFirst, restRelated⟩
  | added blank isBlankAdded _ inductionHypothesis =>
      rcases inductionHypothesis whole with
        ⟨blanks, others, areBlank, shape, restRelated⟩ | ⟨isBlankFirst, restRelated⟩
      · refine Or.inl ⟨blank :: blanks, others, ?_, by rw [shape]; rfl, restRelated⟩
        intro tested member
        rcases List.mem_cons.mp member with equal | later
        · exact equal ▸ isBlankAdded
        · exact areBlank tested later
      · exact Or.inr ⟨isBlankFirst, added blank isBlankAdded restRelated⟩

/-- A character that is no blank stands in both texts. -/
theorem solid_cases {first : Char} {rest : Text}
    (related : Realigned before after margin (first :: rest) target)
    (longer : before.length ≤ rest.length) (solid : isBlank first = false) :
    ∃ blanks others, (∀ blank ∈ blanks, isMargin blank = true) ∧
      target = blanks ++ first :: others ∧
      Realigned before after false rest others := by
  have notFeed := isLineFeed_of_solid solid
  rcases related.cons_cases longer with
    ⟨blanks, others, areBlank, shape, restRelated⟩ | ⟨isBlankFirst, _⟩
  · exact ⟨blanks, others, areBlank, shape, notFeed ▸ restRelated⟩
  · rw [isMargin_iff, solid] at isBlankFirst
    exact absurd isBlankFirst.1 Bool.noConfusion

/-- Two characters, the first of them no blank, stand side by side in both texts. -/
theorem pair_cases {first second : Char} {rest : Text}
    (related : Realigned before after margin (first :: second :: rest) target)
    (longer : before.length ≤ rest.length) (solid : isBlank first = false) :
    ∃ blanks others, (∀ blank ∈ blanks, isMargin blank = true) ∧
      target = blanks ++ first :: second :: others ∧
      Realigned before after (isLineFeed second) rest others := by
  obtain ⟨blanks, others, areBlank, shape, behind⟩ :=
    related.solid_cases (Nat.le_succ_of_le longer) solid
  obtain ⟨more, rfl, restRelated⟩ := behind.cons_inv longer
  exact ⟨blanks, more, areBlank, shape, restRelated⟩

/-- The tails are reached together, up to blanks of a margin. -/
theorem tail_cases (related : Realigned before after margin source target)
    (reached : source.length = before.length) :
    ∃ blanks, (∀ blank ∈ blanks, isMargin blank = true) ∧ target = blanks ++ after := by
  induction related with
  | tail => exact ⟨[], by simp, rfl⟩
  | char _ _ rest =>
      have bound := rest.length_le.1
      simp only [List.length_cons] at reached
      omega
  | removed _ _ rest =>
      have bound := rest.length_le.1
      simp only [List.length_cons] at reached
      omega
  | added blank isBlankAdded _ inductionHypothesis =>
      obtain ⟨blanks, areBlank, shape⟩ := inductionHypothesis reached
      refine ⟨blank :: blanks, ?_, by rw [shape]; rfl⟩
      intro tested member
      rcases List.mem_cons.mp member with equal | later
      · exact equal ▸ isBlankAdded
      · exact areBlank tested later

/-- A character that is no blank may serve as the beginning of new tails. -/
theorem split {body rest : Text} {solid : Char} (notBlank : isBlank solid = false)
    (related : Realigned before after margin (body ++ solid :: rest) target)
    (longer : before.length ≤ rest.length) :
    ∃ others, Realigned (solid :: rest) (solid :: others) margin (body ++ solid :: rest) target ∧
      Realigned before after false rest others := by
  generalize whole : body ++ solid :: rest = content at related
  induction related generalizing body with
  | tail =>
      have lengths := congrArg List.length whole
      rw [List.length_append, List.length_cons] at lengths
      omega
  | char margin shared restRelated inductionHypothesis =>
      cases body with
      | nil =>
          obtain ⟨rfl, rfl⟩ := List.cons.inj whole
          exact ⟨_, .tail margin, isLineFeed_of_solid notBlank ▸ restRelated⟩
      | cons first more =>
          obtain ⟨rfl, shape⟩ := List.cons.inj whole
          obtain ⟨others, front, behind⟩ := inductionHypothesis shape
          exact ⟨others, .char margin first front, behind⟩
  | removed blank isBlankFirst _ inductionHypothesis =>
      cases body with
      | nil =>
          obtain ⟨rfl, _⟩ := List.cons.inj whole
          rw [isMargin_iff, notBlank] at isBlankFirst
          exact absurd isBlankFirst.1 Bool.noConfusion
      | cons first more =>
          obtain ⟨rfl, shape⟩ := List.cons.inj whole
          obtain ⟨others, front, behind⟩ := inductionHypothesis shape
          exact ⟨others, .removed first isBlankFirst front, behind⟩
  | added blank isBlankAdded _ inductionHypothesis =>
      obtain ⟨others, front, behind⟩ := inductionHypothesis whole
      exact ⟨others, .added blank isBlankAdded front, behind⟩

/-- Blanks may be put in at a margin. -/
theorem addedAll {blanks : Text} (areBlank : ∀ blank ∈ blanks, isMargin blank = true)
    (related : Realigned before after true source target) :
    Realigned before after true source (blanks ++ target) := by
  induction blanks with
  | nil => exact related
  | cons blank others inductionHypothesis =>
      exact added blank (areBlank blank (List.mem_cons_self)) <|
        inductionHypothesis fun tested member =>
          areBlank tested (List.mem_cons_of_mem blank member)

end Realigned

/-! ## Indenting the lines of a value -/

theorem splitOn_ne_nil (separator : Char) (content : Text) : splitOn separator content ≠ [] := by
  cases content with
  | nil => simp [splitOn]
  | cons first rest =>
      rw [splitOn]
      split
      · simp
      · split <;> simp

theorem splitOn_cons_self (separator : Char) (rest : Text) :
    splitOn separator (separator :: rest) = [] :: splitOn separator rest := by
  rw [splitOn, if_pos rfl]

theorem splitOn_cons_of_ne {separator first : Char} {rest piece : Text} {pieces : List Text}
    (different : first ≠ separator) (pieced : splitOn separator rest = piece :: pieces) :
    splitOn separator (first :: rest) = (first :: piece) :: pieces := by
  rw [splitOn, if_neg different, pieced]

theorem join_cons_cons (separator piece next : Text) (pieces : List Text) :
    join separator (piece :: next :: pieces) =
      piece ++ separator ++ join separator (next :: pieces) :=
  rfl

theorem join_cons_head (separator piece : Text) (first : Char) (pieces : List Text) :
    join separator ((first :: piece) :: pieces) = first :: join separator (piece :: pieces) := by
  cases pieces <;> rfl

theorem join_append_head (separator front piece : Text) (pieces : List Text) :
    join separator ((front ++ piece) :: pieces) = front ++ join separator (piece :: pieces) := by
  cases pieces with
  | nil => rfl
  | cons next others => simp only [join_cons_cons, List.append_assoc]

/-- Indenting the lines behind a place, from the middle of a line or from its margin on. -/
private theorem realigned_lines {indent : Text}
    (areBlank : ∀ blank ∈ indent, isMargin blank = true) (content : Text) :
    ∀ piece pieces, splitOn '\n' content = piece :: pieces →
      (∀ margin, Realigned [] [] margin content
        (join ['\n'] (piece :: pieces.map (indentLine indent)))) ∧
      Realigned [] [] true content
        (join ['\n'] ((piece :: pieces).map (indentLine indent))) := by
  induction content with
  | nil =>
      rintro piece pieces pieced
      cases pieced
      exact ⟨fun margin => .tail margin, .tail true⟩
  | cons first rest inductionHypothesis =>
      intro piece pieces pieced
      obtain ⟨next, others, restPieced⟩ := List.exists_cons_of_ne_nil (splitOn_ne_nil '\n' rest)
      obtain ⟨fromMiddle, fromMargin⟩ := inductionHypothesis next others restPieced
      by_cases newLine : first = '\n'
      · subst first
        rw [splitOn_cons_self, restPieced] at pieced
        obtain ⟨rfl, rfl⟩ := List.cons.inj pieced
        have behind : ∀ margin, Realigned [] [] margin ('\n' :: rest)
            (join ['\n'] ([] :: (next :: others).map (indentLine indent))) :=
          fun margin => .char margin '\n' fromMargin
        exact ⟨behind, behind true⟩
      · rw [splitOn_cons_of_ne newLine restPieced] at pieced
        obtain ⟨rfl, rfl⟩ := List.cons.inj pieced
        have middle : ∀ margin, Realigned [] [] margin (first :: rest)
            (join ['\n'] ((first :: next) :: others.map (indentLine indent))) := by
          intro margin
          rw [join_cons_head]
          exact .char margin first (fromMiddle _)
        refine ⟨middle, ?_⟩
        by_cases blankLine : isBlankText (first :: next) = true
        · have parts : isBlank first = true ∧ isBlankText next = true := by
            simpa [isBlankText] using blankLine
          have sameRest : indentLine indent (first :: next) = indentLine indent next := by
            rw [indentLine, indentLine, if_pos blankLine, if_pos parts.2]
          rw [List.map_cons, sameRest, ← List.map_cons]
          exact .removed first ((isMargin_iff first).mpr ⟨parts.1, newLine⟩) fromMargin
        · rw [List.map_cons, indentLine, if_neg blankLine, join_append_head]
          exact (middle true).addedAll areBlank

/-- Indenting the lines of a value changes their margins only. -/
theorem realigned_reindent {indent : Text} (areBlank : ∀ blank ∈ indent, isMargin blank = true)
    (value : Text) (margin : Bool) :
    Realigned [] [] margin value (reindent value indent) := by
  obtain ⟨piece, pieces, pieced⟩ := List.exists_cons_of_ne_nil (splitOn_ne_nil '\n' value)
  rw [reindent, pieced]
  exact (realigned_lines areBlank value piece pieces pieced).1 margin

end EmbedScaffold.Text
