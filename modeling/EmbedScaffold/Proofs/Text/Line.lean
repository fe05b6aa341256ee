import EmbedScaffold.Text.Lines

/-!
# Cutting texts and reading their lines

An edit cuts a text at offsets, and the indentation of an entry is read from the line around an
offset.  This module turns both into statements about the pieces of the text: a slice and a splice
of `before ++ (middle ++ after)`, and the line that is open at the end of `before`.
-/

namespace EmbedScaffold.Text

/-! ## Classes of characters -/

/-- A class that is decided on each character of a text.  Deciding it on all members of the text
would run through all characters there are. -/
theorem forall_of_all {content : Text} {wanted : Char → Prop} [DecidablePred wanted]
    (checked : content.all (fun letter => wanted letter) = true) :
    ∀ letter ∈ content, wanted letter := by
  intro letter member
  exact of_decide_eq_true (List.all_eq_true.mp checked letter member)

/-! ## Slices and splices -/

theorem slice_middle (before middle after : Text) :
    slice (before ++ (middle ++ after)) before.length
        (before.length + middle.length) = middle := by
  rw [slice, List.take_length_add_append, List.take_left, List.drop_left]

theorem splice_middle (before middle after inserted : Text) :
    splice (before ++ (middle ++ after)) before.length
        (before.length + middle.length) inserted =
      before ++ (inserted ++ after) := by
  rw [splice, List.take_left, List.drop_length_add_append, List.drop_left,
    List.append_assoc]

theorem splice_between (before after inserted : Text) :
    splice (before ++ after) before.length before.length inserted =
      before ++ (inserted ++ after) :=
  splice_middle before [] after inserted

/-! ## Blank texts -/

theorem isBlankText_append (left right : Text) :
    isBlankText (left ++ right) = (isBlankText left && isBlankText right) := by
  simp only [isBlankText, List.all_append]

theorem ne_of_isBlank {tested solid : Char}
    (blank : isBlank tested = true) (notBlank : isBlank solid = false) :
    tested ≠ solid := by
  intro equal
  rw [equal, notBlank] at blank
  exact Bool.noConfusion blank

theorem isLineFeed_of_solid {tested : Char} (solid : isBlank tested = false) :
    isLineFeed tested = false := by
  have blank : isBlank '\n' = true := rfl
  simpa [isLineFeed] using (ne_of_isBlank blank solid).symm

/-! ## Trimming -/

theorem trimEnd_append_tail (dropped : Char → Bool) (content : Text) :
    ∃ tail, tail.all dropped = true ∧
      content = trimEnd dropped content ++ tail := by
  refine ⟨(content.reverse.takeWhile dropped).reverse, ?_, ?_⟩
  · rw [List.all_reverse]
    exact List.all_takeWhile
  · rw [trimEnd, ← List.reverse_append, List.takeWhile_append_dropWhile,
      List.reverse_reverse]

/-- Trimming an end leaves everything up to a character that stays. -/
theorem trimEnd_append (dropped : Char → Bool) (front back : Text)
    (stays : ∀ last ∈ front.getLast?, dropped last = false) :
    trimEnd dropped (front ++ back) = front ++ trimEnd dropped back := by
  have kept : front.reverse.dropWhile dropped = front.reverse := by
    cases reversed : front.reverse with
    | nil => rfl
    | cons last others =>
        have lastStays : dropped last = false := by
          apply stays
          rw [← List.head?_reverse, reversed]
          rfl
        rw [List.dropWhile_cons_of_neg (by simp [lastStays])]
  rw [trimEnd, List.reverse_append, List.dropWhile_append]
  split
  · next emptied =>
      have blankBack : trimEnd dropped back = [] := by
        rw [trimEnd, List.isEmpty_iff.mp emptied, List.reverse_nil]
      rw [kept, List.reverse_reverse, blankBack, List.append_nil]
  · rw [List.reverse_append, List.reverse_reverse, trimEnd]

theorem strip_of_solid {content rest : Text} {first : Char} (shape : content = first :: rest)
    (solidFirst : isBlank first = false)
    (solidLast : ∀ last ∈ content.getLast?, isBlank last = false) : strip content = content := by
  have start : trimStart isBlank content = content := by
    rw [trimStart, shape, List.dropWhile_cons_of_neg (by simp [solidFirst])]
  rw [strip, trimBoth, start, trimEnd]
  rcases List.eq_nil_or_concat content with rfl | ⟨front, last, rfl⟩
  · rfl
  · rw [List.concat_eq_append] at solidLast ⊢
    rw [List.reverse_append, List.reverse_singleton, List.singleton_append,
      List.dropWhile_cons_of_neg (by simp [solidLast last (by simp)])]
    simp

theorem strip_append_of_isBlankText {blanks : Text} (areBlank : isBlankText blanks = true)
    (content : Text) : strip (blanks ++ content) = strip content := by
  rw [strip, trimBoth, trimStart, List.dropWhile_append_of_pos (List.all_eq_true.mp areBlank)]
  rfl

/-! ## The line open at the end of a text -/

/-- What stands behind the last line feed of a text. -/
def lastLine (content : Text) : Text :=
  (content.reverse.takeWhile (! isLineFeed ·)).reverse

theorem exists_eq_append_lastLine (content : Text) :
    ∃ before, content = before ++ lastLine content := by
  refine ⟨(content.reverse.dropWhile (! isLineFeed ·)).reverse, ?_⟩
  rw [lastLine, ← List.reverse_append, List.takeWhile_append_dropWhile,
    List.reverse_reverse]

theorem drop_eq_lastLine (content : Text) :
    content.drop (content.length - (lastLine content).length) = lastLine content := by
  obtain ⟨before, parts⟩ := exists_eq_append_lastLine content
  have lengths := congrArg List.length parts
  rw [List.length_append] at lengths
  rw [lengths, Nat.add_sub_cancel]
  conv => lhs; rw [parts]
  exact List.drop_left

theorem lineFeed_notMem_lastLine (content : Text) : '\n' ∉ lastLine content := by
  intro member
  rw [lastLine, List.mem_reverse] at member
  have kept : ∀ tested ∈ content.reverse.takeWhile (! isLineFeed ·), (! isLineFeed tested) = true :=
    List.all_eq_true.mp List.all_takeWhile
  exact absurd (kept '\n' member) (by decide)

/-- Text without a line feed continues the open line. -/
theorem lastLine_append_of_notMem (before after : Text) (sameLine : '\n' ∉ after) :
    lastLine (before ++ after) = lastLine before ++ after := by
  have everyKept : ∀ tested ∈ after.reverse, (! isLineFeed tested) = true := by
    intro tested member
    have different : tested ≠ '\n' := fun equal =>
      sameLine (equal ▸ List.mem_reverse.mp member)
    simp [isLineFeed, different]
  rw [lastLine, List.reverse_append, List.takeWhile_append_of_pos everyKept,
    List.reverse_append, List.reverse_reverse, lastLine]

/-- A line feed makes the line behind it independent of what stands before. -/
theorem lastLine_append_of_mem (before after : Text) (newLine : '\n' ∈ after) :
    lastLine (before ++ after) = lastLine after := by
  rw [lastLine, List.reverse_append, List.takeWhile_append]
  split
  · next wholeKept =>
      exfalso
      have same : after.reverse.takeWhile (! isLineFeed ·) = after.reverse :=
        (List.takeWhile_prefix _).eq_of_length wholeKept
      have kept : ∀ tested ∈ after.reverse.takeWhile (! isLineFeed ·),
          (! isLineFeed tested) = true :=
        List.all_eq_true.mp List.all_takeWhile
      rw [same] at kept
      exact absurd (kept '\n' (List.mem_reverse.mpr newLine)) (by decide)
  · rfl

theorem lineStart_eq (content : Text) (offset : Nat) :
    lineStart content offset =
      (content.take offset).length - (lastLine (content.take offset)).length := by
  rw [lineStart, lastLine, List.length_reverse]

/-- An offset starts its line exactly if the line open before it is blank. -/
theorem startsLine_eq (content : Text) (offset : Nat) :
    startsLine content offset = isBlankText (lastLine (content.take offset)) := by
  rw [startsLine, slice, lineStart_eq, drop_eq_lastLine]

theorem lineIndent_eq (before after : Text) :
    lineIndent (before ++ after) before.length =
      leadingIndent (lastLine before ++ after) := by
  rw [lineIndent, lineStart_eq, List.take_left,
    List.drop_append_of_le_length (Nat.sub_le _ _), drop_eq_lastLine]

/-- An indentation ends before the first character that is not blank. -/
theorem leadingIndent_append_solid (line after : Text) {solid : Char}
    (notBlank : isBlank solid = false) :
    leadingIndent (line ++ solid :: after) = leadingIndent line := by
  rw [leadingIndent, List.takeWhile_append, List.takeWhile_cons_of_neg (by simp [notBlank]),
    List.append_nil, leadingIndent]
  split
  · next whole => exact ((List.takeWhile_prefix _).eq_of_length whole).symm
  · rfl

theorem leadingIndent_of_isBlankText (line : Text)
    (blank : isBlankText line = true) (sameLine : '\n' ∉ line) :
    leadingIndent line = line := by
  rw [leadingIndent, ← List.append_nil line, List.takeWhile_append_of_pos, List.takeWhile_nil]
  intro tested member
  have isBlankTested := List.all_eq_true.mp blank tested member
  have different : tested ≠ '\n' := fun equal => sameLine (equal ▸ member)
  simp [isBlankTested, isLineFeed, different]

theorem leadingIndent_blank (content : Text) :
    isBlankText (leadingIndent content) = true ∧ '\n' ∉ leadingIndent content := by
  have kept : ∀ tested ∈ leadingIndent content, (isBlank tested && ! isLineFeed tested) = true :=
    List.all_eq_true.mp List.all_takeWhile
  constructor
  · exact List.all_eq_true.mpr fun tested member =>
      (Bool.and_eq_true_iff.mp (kept tested member)).1
  · intro member
    exact absurd (kept '\n' member) (by decide)

end EmbedScaffold.Text
