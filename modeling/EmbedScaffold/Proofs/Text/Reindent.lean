import EmbedScaffold.Proofs.Text.Line
import EmbedScaffold.Proofs.Text.Realigned

/-!
# Values at different indentations

A value on a single line is written alike at every indentation.  From a value of several lines the
indentation can be read back, as long as its last line is not blank.
-/

namespace EmbedScaffold.Text

/-! ## Splitting and joining -/

theorem splitOn_of_notMem {separator : Char} {content : Text} (absent : separator ∉ content) :
    splitOn separator content = [content] := by
  induction content with
  | nil => rfl
  | cons first rest inductionHypothesis =>
      rw [List.mem_cons, not_or] at absent
      exact splitOn_cons_of_ne (Ne.symm absent.1) (inductionHypothesis absent.2)

theorem notMem_of_mem_splitOn {separator : Char} {content piece : Text}
    (member : piece ∈ splitOn separator content) : separator ∉ piece := by
  induction content generalizing piece with
  | nil =>
      rw [List.mem_singleton.mp member]
      exact List.not_mem_nil
  | cons first rest inductionHypothesis =>
      by_cases same : first = separator
      · rw [same, splitOn_cons_self, List.mem_cons] at member
        rcases member with rfl | among
        · exact List.not_mem_nil
        · exact inductionHypothesis among
      · obtain ⟨head, others, pieced⟩ :=
          List.exists_cons_of_ne_nil (splitOn_ne_nil separator rest)
        rw [splitOn_cons_of_ne same pieced, List.mem_cons] at member
        rw [pieced] at inductionHypothesis
        rcases member with rfl | among
        · rw [List.mem_cons, not_or]
          exact ⟨Ne.symm same, inductionHypothesis List.mem_cons_self⟩
        · exact inductionHypothesis (List.mem_cons_of_mem _ among)

theorem splitOn_append_cons (separator : Char) (before after : Text) :
    splitOn separator (before ++ separator :: after) =
      splitOn separator before ++ splitOn separator after := by
  induction before with
  | nil => exact splitOn_cons_self separator after
  | cons first rest inductionHypothesis =>
      obtain ⟨piece, pieces, pieced⟩ :=
        List.exists_cons_of_ne_nil (splitOn_ne_nil separator rest)
      by_cases same : first = separator
      · rw [same, List.cons_append, splitOn_cons_self, splitOn_cons_self, inductionHypothesis]
        rfl
      · rw [pieced] at inductionHypothesis
        rw [List.cons_append, splitOn_cons_of_ne same inductionHypothesis,
          splitOn_cons_of_ne same pieced]
        rfl

theorem join_concat (separator : Text) {pieces : List Text} (nonempty : pieces ≠ [])
    (last : Text) :
    join separator (pieces ++ [last]) = join separator pieces ++ separator ++ last := by
  induction pieces with
  | nil => exact absurd rfl nonempty
  | cons piece others inductionHypothesis =>
      cases others with
      | nil => rfl
      | cons next more =>
          rw [List.cons_append, List.cons_append, join_cons_cons, join_cons_cons,
            ← List.cons_append, inductionHypothesis (List.cons_ne_nil _ _)]
          simp only [List.append_assoc]

/-! ## Reading an indentation back -/

theorem reindent_of_notMem {value : Text} (sameLine : '\n' ∉ value) (indent : Text) :
    reindent value indent = value := by
  rw [reindent, splitOn_of_notMem sameLine]
  rfl

/-- The last of several lines is indented if it is not blank. -/
theorem reindent_append {last : Text} (sameLine : '\n' ∉ last) (notBlank : isBlankText last = false)
    (before indent : Text) :
    reindent (before ++ '\n' :: last) indent =
      reindent before indent ++ '\n' :: (indent ++ last) := by
  obtain ⟨first, others, pieced⟩ := List.exists_cons_of_ne_nil (splitOn_ne_nil '\n' before)
  have indented : indentLine indent last = indent ++ last := if_neg (by simp [notBlank])
  rw [reindent, reindent, splitOn_append_cons, splitOn_of_notMem sameLine, pieced, List.cons_append]
  dsimp only
  rw [List.map_append, List.map_singleton, indented, ← List.cons_append,
    join_concat _ (List.cons_ne_nil _ _), List.append_assoc, List.singleton_append]

theorem exists_last_line {value : Text} (newLine : '\n' ∈ value) :
    ∃ before last, value = before ++ '\n' :: last ∧ '\n' ∉ last := by
  obtain ⟨front, back, shape, absent⟩ :=
    List.eq_append_cons_of_mem (List.mem_reverse.mpr newLine)
  refine ⟨back.reverse, front.reverse, ?_, fun member => absent (List.mem_reverse.mp member)⟩
  rw [← List.reverse_reverse value, shape]
  simp

/-- Two indentations write a value alike exactly if it is on a single line or they are the same. -/
theorem reindent_eq_iff {value left right : Text}
    (solidLast : ∀ last ∈ value.getLast?, isBlank last = false) (leftLine : '\n' ∉ left)
    (rightLine : '\n' ∉ right) :
    reindent value left = reindent value right ↔ '\n' ∉ value ∨ left = right := by
  constructor
  · intro same
    by_cases newLine : '\n' ∈ value
    · obtain ⟨before, last, rfl, sameLine⟩ := exists_last_line newLine
      have notBlank : isBlankText last = false := by
        cases shape : last.getLast? with
        | none =>
            rw [List.getLast?_eq_none_iff.mp shape] at solidLast
            have impossible := solidLast '\n' List.getLast?_concat
            exact absurd impossible (by decide)
        | some final =>
            obtain ⟨front, rfl⟩ := List.getLast?_eq_some_iff.mp shape
            have solid := solidLast final (by
              rw [← List.cons_append, ← List.append_assoc]
              exact List.getLast?_concat)
            rw [isBlankText_append, Bool.and_eq_false_iff]
            exact Or.inr (by simp [isBlankText, solid])
      have lines {indent : Text} (indentLine : '\n' ∉ indent) :
          lastLine (reindent (before ++ '\n' :: last) indent) = indent ++ last := by
        have absent : '\n' ∉ indent ++ last := by
          rw [List.mem_append, not_or]
          exact ⟨indentLine, sameLine⟩
        rw [reindent_append sameLine notBlank, lastLine_append_of_mem _ _ List.mem_cons_self,
          ← List.singleton_append, lastLine_append_of_notMem ['\n'] _ absent]
        rfl
      have ends := lines leftLine
      rw [same, lines rightLine] at ends
      exact Or.inr (List.append_cancel_right ends).symm
    · exact Or.inl newLine
  · rintro (sameLine | rfl)
    · rw [reindent_of_notMem sameLine, reindent_of_notMem sameLine]
    · rfl

end EmbedScaffold.Text
