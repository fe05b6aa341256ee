import EmbedScaffold.Proofs.Markup.ClosingTag

/-!
# Deleting options elements

An options element is deleted only at the beginning of a line, so that a text of whole lines that do
not begin with one stays as it is, whatever follows it.
-/

namespace EmbedScaffold

open Text

namespace Markup

section Line

variable {line content attributes rest : Text} {previous : Char}

/-- A text of whole lines from which nothing is deleted, whatever follows it. -/
def Untouched (content : Text) : Prop :=
  ∀ rest, withoutOptionsFrom 0 '\n' (content ++ rest) = content ++ withoutOptionsFrom 0 '\n' rest

theorem Untouched.nil : Untouched [] :=
  fun _ => rfl

theorem Untouched.append {left right : Text} (leftUntouched : Untouched left)
    (rightUntouched : Untouched right) : Untouched (left ++ right) := fun rest => by
  rw [List.append_assoc, leftUntouched, rightUntouched, List.append_assoc]

/-- What stands behind the beginning of a line is kept up to the end of the line. -/
theorem withoutOptionsFrom_line (sameLine : '\n' ∉ line) (inside : previous ≠ '\n') (rest : Text) :
    withoutOptionsFrom 0 previous (line ++ '\n' :: rest) =
      line ++ '\n' :: withoutOptionsFrom 0 '\n' rest := by
  induction line generalizing previous with
  | nil => rw [List.nil_append, withoutOptionsFrom, if_neg inside]; rfl
  | cons first others inductionHypothesis =>
      rw [List.mem_cons, not_or] at sameLine
      rw [List.cons_append, withoutOptionsFrom, if_neg inside]
      exact congrArg (first :: ·) (inductionHypothesis sameLine.2 (Ne.symm sameLine.1))

/-- A line that begins with no options element is kept. -/
theorem Untouched.ofLine (sameLine : '\n' ∉ line)
    (begins : ∀ rest, optionsLength? (line ++ '\n' :: rest) = none) : Untouched (line ++ ['\n']) := by
  intro rest
  have here := begins rest
  rw [List.append_assoc, List.singleton_append, List.append_assoc, List.singleton_append]
  cases line with
  | nil =>
      rw [List.nil_append] at here ⊢
      rw [withoutOptionsFrom, if_pos rfl, here]
      rfl
  | cons first others =>
      rw [List.mem_cons, not_or] at sameLine
      rw [List.cons_append] at here ⊢
      rw [withoutOptionsFrom, if_pos rfl, here]
      exact congrArg (first :: ·)
        (withoutOptionsFrom_line sameLine.2 (Ne.symm sameLine.1) rest)

theorem optionsLength?_of_head?
    (noElement : (content.dropWhile isSpaceOrTab).head? ≠ some '<') :
    optionsLength? content = none := by
  rw [optionsLength?]
  cases shape : content.dropWhile isSpaceOrTab with
  | nil => rfl
  | cons first others =>
      rw [shape] at noElement
      have different : '<' ≠ first := fun same => noElement (by rw [same]; rfl)
      rw [show "<svelte:options".toList = '<' :: "svelte:options".toList from rfl, dropExact?,
        if_neg different]
      rfl

/-- A line whose first character but blanks is no opening bracket is kept. -/
theorem Untouched.ofPlainLine (sameLine : '\n' ∉ line)
    (noElement : (line.dropWhile isSpaceOrTab).head? ≠ some '<') : Untouched (line ++ ['\n']) := by
  refine .ofLine sameLine fun rest => optionsLength?_of_head? ?_
  rw [List.dropWhile_append]
  split
  · rw [List.dropWhile_cons_of_neg (by decide)]
    simp
  · next solid =>
      cases shape : line.dropWhile isSpaceOrTab with
      | nil => rw [shape] at solid; exact absurd rfl solid
      | cons first others => rwa [shape] at noElement

/-! ## The first line -/

theorem withoutOptionsFrom_skip (skipped rest : Text) (previous last : Char) :
    withoutOptionsFrom (skipped ++ [last]).length previous (skipped ++ last :: rest) =
      withoutOptionsFrom 0 last rest := by
  induction skipped generalizing previous with
  | nil => rfl
  | cons first others inductionHypothesis =>
      rw [List.cons_append, List.cons_append, List.length_cons, withoutOptionsFrom,
        inductionHypothesis]

/-- The length of an options element with the end of its line. -/
theorem optionsLength?_element (noEnd : '>' ∉ attributes) (rest : Text) :
    optionsLength? ("<svelte:options".toList ++ (attributes ++ '/' :: '>' :: '\n' :: rest)) =
      some ("<svelte:options".toList ++ (attributes ++ ['/', '>', '\n'])).length := by
  have passes : ∀ tested ∈ attributes ++ ['/'], decide (tested ≠ '>') = true := by
    intro tested member
    rcases List.mem_append.mp member with inside | slash
    · exact decide_eq_true fun same => noEnd (same ▸ inside)
    · rw [List.mem_singleton.mp slash]
      decide
  have parts : attributes ++ '/' :: '>' :: '\n' :: rest =
      (attributes ++ ['/']) ++ '>' :: '\n' :: rest := by simp
  have begins (content : Text) : ("<svelte:options".toList ++ content).dropWhile isSpaceOrTab =
      "<svelte:options".toList ++ content := rfl
  have attributesTaken : (attributes ++ '/' :: '>' :: '\n' :: rest).takeWhile (· ≠ '>') =
      attributes ++ ['/'] := by
    rw [parts, List.takeWhile_append_of_pos passes, List.takeWhile_cons_of_neg (by decide),
      List.append_nil]
  have attributesDropped : (attributes ++ '/' :: '>' :: '\n' :: rest).dropWhile (· ≠ '>') =
      ['>'] ++ '\n' :: rest := by
    rw [parts, List.dropWhile_append_of_pos passes, List.dropWhile_cons_of_neg (by decide)]
    rfl
  have ended : dropLineEnd (('\n' :: rest).dropWhile isSpaceOrTab) = rest := by
    rw [List.dropWhile_cons_of_neg (by decide)]
    rfl
  rw [optionsLength?, begins, dropExact?_eq_some.mpr rfl, Option.bind_eq_bind, Option.bind_some]
  dsimp only
  rw [attributesTaken, attributesDropped, dropExact?_eq_some.mpr rfl, Option.bind_some,
    List.getLast?_concat, if_pos rfl, ended]
  generalize "<svelte:options".toList = opening
  refine congrArg some ?_
  simp only [List.length_append, List.length_cons, List.length_nil]
  omega

/-- An options element that begins a document is deleted with the end of its line. -/
theorem withoutOptions_element (noEnd : '>' ∉ attributes) (rest : Text) :
    withoutOptions ("<svelte:options".toList ++ (attributes ++ '/' :: '>' :: '\n' :: rest)) =
      withoutOptions rest := by
  have length := optionsLength?_element noEnd rest
  obtain ⟨letters, shape⟩ : ∃ letters, "<svelte:options".toList = '<' :: letters := ⟨_, rfl⟩
  have skip := withoutOptionsFrom_skip (letters ++ (attributes ++ ['/', '>'])) rest '<' '\n'
  rw [shape] at length ⊢
  rw [withoutOptions, List.cons_append, withoutOptionsFrom, if_pos rfl, ← List.cons_append, length]
  dsimp only
  rw [withoutOptions, ← skip]
  congr 1 <;> simp

end Line

end Markup

end EmbedScaffold
