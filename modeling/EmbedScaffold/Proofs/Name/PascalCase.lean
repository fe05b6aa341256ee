import EmbedScaffold.Name

/-!
# Names in Pascal case

A name that may be declared is in Pascal case, or it is such a name with a line feed behind it.
-/

namespace EmbedScaffold

/-- What reaches a pattern's end behind the characters of a class consists of these, but for a last
line feed. -/
theorem atEnd_dropWhile_iff {accepted : Char → Bool} {content : Text} :
    atEnd (content.dropWhile accepted) = true ↔
      ∃ letters, letters.all accepted = true ∧ (content = letters ∨ content = letters ++ ['\n']) := by
  constructor
  · intro ended
    have split := List.takeWhile_append_dropWhile (p := accepted) (l := content)
    refine ⟨content.takeWhile accepted, List.all_takeWhile, ?_⟩
    simp only [atEnd, Bool.or_eq_true, decide_eq_true_eq] at ended
    exact ended.imp (fun whole => by rw [whole, List.append_nil] at split; exact split.symm)
      fun feed => by rw [feed] at split; exact split.symm
  · rintro ⟨letters, areAccepted, rfl | rfl⟩
    · rw [← List.append_nil content, List.dropWhile_append_of_pos (List.all_eq_true.mp areAccepted)]
      rfl
    · rw [List.dropWhile_append_of_pos (List.all_eq_true.mp areAccepted), List.dropWhile_cons]
      split <;> rfl

/-- A capital of the ASCII alphabet, followed by letters and digits of it. -/
def IsPascalCase : Text → Prop
  | [] => False
  | first :: rest => first.isUpper = true ∧ rest.all Char.isAlphanum = true

instance : DecidablePred IsPascalCase
  | [] => inferInstanceAs (Decidable False)
  | first :: rest =>
      inferInstanceAs (Decidable (first.isUpper = true ∧ rest.all Char.isAlphanum = true))

section PascalCase

variable {name : Text}

theorem IsPascalCase.isAlphanum (pascal : IsPascalCase name) :
    ∀ letter ∈ name, letter.isAlphanum = true := by
  cases name with
  | nil => exact fun _ member => absurd member List.not_mem_nil
  | cons first rest =>
      refine List.forall_mem_cons.mpr ⟨?_, List.all_eq_true.mp pascal.2⟩
      delta Char.isAlphanum Char.isAlpha
      rw [pascal.1, Bool.true_or, Bool.true_or]

theorem IsPascalCase.notMem (pascal : IsPascalCase name) {other : Char}
    (noLetter : other.isAlphanum = false) : other ∉ name := fun member =>
  Bool.false_ne_true (noLetter.symm.trans (pascal.isAlphanum other member))

theorem isDeclarationName_iff :
    isDeclarationName name = true ↔
      ∃ pascal, IsPascalCase pascal ∧ (name = pascal ∨ name = pascal ++ ['\n']) := by
  constructor
  · intro named
    cases name with
    | nil => cases named
    | cons first rest =>
        rw [isDeclarationName, Bool.and_eq_true, atEnd_dropWhile_iff] at named
        obtain ⟨isUpper, letters, areLetters, shape⟩ := named
        exact ⟨first :: letters, ⟨isUpper, areLetters⟩,
          shape.imp (congrArg (first :: ·)) (congrArg (first :: ·))⟩
  · rintro ⟨pascal, isPascal, shape⟩
    cases pascal with
    | nil => exact isPascal.elim
    | cons first letters =>
        have named {rest : Text} (shape : rest = letters ∨ rest = letters ++ ['\n']) :
            isDeclarationName (first :: rest) = true := by
          rw [isDeclarationName, Bool.and_eq_true, atEnd_dropWhile_iff]
          exact ⟨isPascal.1, letters, isPascal.2, shape⟩
        rcases shape with rfl | rfl
        · exact named (Or.inl rfl)
        · exact named (Or.inr rfl)

end PascalCase

end EmbedScaffold
