import EmbedScaffold.Proofs.Text.Reindent

/-!
# Shifted lines

Shifting puts an indentation behind every line feed, so it goes along with putting texts together.
A text is reindented by shifting it, unless one of its later lines is blank: blank lines become
empty.
-/

namespace EmbedScaffold.Text

variable {content front back line : Text}

/-- A text with an indentation behind every line feed. -/
def shifted (indent content : Text) : Text :=
  replaceChar '\n' ('\n' :: indent) content

@[simp]
theorem shifted_append (indent front back : Text) :
    shifted indent (front ++ back) = shifted indent front ++ shifted indent back :=
  List.flatMap_append

theorem shifted_cons_feed (indent rest : Text) :
    shifted indent ('\n' :: rest) = '\n' :: (indent ++ shifted indent rest) := by
  rw [shifted, replaceChar, List.flatMap_cons, if_pos rfl, List.cons_append]
  rfl

theorem shifted_cons_of_ne (indent rest : Text) {first : Char} (different : first ≠ '\n') :
    shifted indent (first :: rest) = first :: shifted indent rest := by
  rw [shifted, replaceChar, List.flatMap_cons, if_neg different]
  rfl

theorem shifted_of_notMem (indent : Text) (sameLine : '\n' ∉ line) :
    shifted indent line = line := by
  induction line with
  | nil => rfl
  | cons first rest inductionHypothesis =>
      rw [List.mem_cons, not_or] at sameLine
      rw [shifted_cons_of_ne indent rest (Ne.symm sameLine.1), inductionHypothesis sameLine.2]

theorem shifted_empty (content : Text) : shifted [] content = content := by
  induction content with
  | nil => rfl
  | cons first rest inductionHypothesis =>
      by_cases feed : first = '\n'
      · rw [feed, shifted_cons_feed, inductionHypothesis, List.nil_append]
      · rw [shifted_cons_of_ne [] rest feed, inductionHypothesis]

/-- Shifting indents every line but the first. -/
theorem join_map_append (indent : Text) {first : Text} {others : List Text}
    (lines : splitOn '\n' content = first :: others) :
    join ['\n'] (first :: others.map (indent ++ ·)) = shifted indent content := by
  induction content generalizing first others with
  | nil =>
      obtain ⟨rfl, rfl⟩ := List.cons.inj lines
      rfl
  | cons letter rest inductionHypothesis =>
      obtain ⟨next, later, pieced⟩ := List.exists_cons_of_ne_nil (splitOn_ne_nil '\n' rest)
      by_cases feed : letter = '\n'
      · rw [feed, splitOn_cons_self, pieced] at lines
        obtain ⟨rfl, rfl⟩ := List.cons.inj lines
        rw [feed, shifted_cons_feed, ← inductionHypothesis pieced, List.map_cons, join_cons_cons,
          join_append_head]
        rfl
      · rw [splitOn_cons_of_ne feed pieced] at lines
        obtain ⟨rfl, rfl⟩ := List.cons.inj lines
        rw [shifted_cons_of_ne indent rest feed, ← inductionHypothesis pieced, join_cons_head]

/-! ## Texts without blank lines -/

/-- Whether no line of a text is blank. -/
def isDense (content : Text) : Bool :=
  (splitOn '\n' content).all fun line => ! isBlankText line

theorem isDense_of_notMem (sameLine : '\n' ∉ line) (solid : isBlankText line = false) :
    isDense line = true := by
  rw [isDense, splitOn_of_notMem sameLine]
  simp [solid]

theorem isDense_append_feed (front back : Text) :
    isDense (front ++ '\n' :: back) = (isDense front && isDense back) := by
  rw [isDense, splitOn_append_cons, List.all_append]
  rfl

theorem isBlankText_of_isDense (dense : isDense line = true) (sameLine : '\n' ∉ line) :
    isBlankText line = false := by
  rw [isDense, splitOn_of_notMem sameLine] at dense
  simpa using dense

/-- A last line goes on without becoming blank. -/
theorem isDense_append (dense : isDense content = true) (sameLine : '\n' ∉ back) :
    isDense (content ++ back) = true := by
  by_cases newLine : '\n' ∈ content
  · obtain ⟨before, last, rfl, lastLine⟩ := exists_last_line newLine
    rw [isDense_append_feed, Bool.and_eq_true] at dense
    rw [List.append_assoc, List.cons_append, isDense_append_feed, dense.1, Bool.true_and]
    refine isDense_of_notMem (by simp [lastLine, sameLine]) ?_
    rw [isBlankText_append, isBlankText_of_isDense dense.2 lastLine, Bool.false_and]
  · refine isDense_of_notMem (by simp [newLine, sameLine]) ?_
    rw [isBlankText_append, isBlankText_of_isDense dense newLine, Bool.false_and]

/-- A first line that is led up to does not become blank. -/
theorem isDense_append_left (dense : isDense content = true) (sameLine : '\n' ∉ front) :
    isDense (front ++ content) = true := by
  by_cases newLine : '\n' ∈ content
  · obtain ⟨first, later, rfl, firstLine⟩ := List.eq_append_cons_of_mem newLine
    rw [isDense_append_feed, Bool.and_eq_true] at dense
    rw [← List.append_assoc, isDense_append_feed, dense.2, Bool.and_true]
    refine isDense_of_notMem (by simp [firstLine, sameLine]) ?_
    rw [isBlankText_append, isBlankText_of_isDense dense.1 firstLine, Bool.and_false]
  · refine isDense_of_notMem (by simp [newLine, sameLine]) ?_
    rw [isBlankText_append, isBlankText_of_isDense dense newLine, Bool.and_false]

/-- Whether a text is on a single line or has no blank line. -/
def IsFirm (content : Text) : Prop :=
  '\n' ∉ content ∨ isDense content = true

theorem IsFirm.append_left (firm : IsFirm content) (sameLine : '\n' ∉ front) :
    IsFirm (front ++ content) :=
  firm.imp (fun single => by simp [single, sameLine]) fun dense =>
    isDense_append_left dense sameLine

/-- A firm text is dense between texts of a single line, if the second one is not blank. -/
theorem IsFirm.isDense_between (firm : IsFirm content) (frontLine : '\n' ∉ front)
    (backLine : '\n' ∉ back) (solid : isBlankText back = false) :
    isDense (front ++ content ++ back) = true := by
  rcases firm with single | dense
  · refine isDense_of_notMem (by simp [single, frontLine, backLine]) ?_
    rw [isBlankText_append, solid, Bool.and_false]
  · exact isDense_append (isDense_append_left dense frontLine) backLine

/-- A firm text is reindented by shifting it. -/
theorem IsFirm.reindent_eq (firm : IsFirm content) (indent : Text) :
    reindent content indent = shifted indent content := by
  rcases firm with single | dense
  · rw [reindent_of_notMem single, shifted_of_notMem indent single]
  · obtain ⟨first, others, lines⟩ := List.exists_cons_of_ne_nil (splitOn_ne_nil '\n' content)
    have indented : others.map (indentLine indent) = others.map (indent ++ ·) := by
      refine List.map_congr_left fun line member => ?_
      rw [isDense, lines, List.all_cons, Bool.and_eq_true] at dense
      have solid := List.all_eq_true.mp dense.2 line member
      rw [Bool.not_eq_true'] at solid
      rw [indentLine, if_neg (by simp [solid])]
    rw [reindent, lines]
    dsimp only
    rw [indented, join_map_append indent lines]

end EmbedScaffold.Text
