import EmbedScaffold.Text.Case

/-!
# Letters of the ASCII alphabet

The letters and digits of the ASCII alphabet lie in three ranges, none of which meets the blanks.
On texts of ASCII characters, lower-casing goes character by character.
-/

namespace EmbedScaffold

namespace Text

section Characters

variable {tested : Char}

theorem asciiRanges_of_isAlphanum (alphanumeric : tested.isAlphanum = true) :
    ((65 ≤ tested.toNat ∧ tested.toNat ≤ 90) ∨ (97 ≤ tested.toNat ∧ tested.toNat ≤ 122)) ∨
      (48 ≤ tested.toNat ∧ tested.toNat ≤ 57) := by
  delta Char.isAlphanum Char.isAlpha Char.isUpper Char.isLower Char.isDigit at alphanumeric
  simp only [Bool.or_eq_true, Bool.and_eq_true, decide_eq_true_eq, ge_iff_le,
    UInt32.le_iff_toNat_le] at alphanumeric
  exact alphanumeric

theorem toNat_lt_of_isAlphanum (alphanumeric : tested.isAlphanum = true) : tested.toNat < 128 := by
  have ranges := asciiRanges_of_isAlphanum alphanumeric
  omega

theorem isBlank_of_isAlphanum (alphanumeric : tested.isAlphanum = true) :
    isBlank tested = false := by
  have ranges := asciiRanges_of_isAlphanum alphanumeric
  rw [Bool.eq_false_iff]
  intro blank
  simp only [isBlank, Bool.or_eq_true, Bool.and_eq_true, decide_eq_true_eq, beq_iff_eq] at blank
  omega

end Characters

section Lower

variable {content : Text}

theorem lowerAfter_eq_map (before : Text) (ascii : ∀ shown ∈ content, shown.toNat < 128) :
    lowerAfter before content = content.map Char.toLower := by
  induction content generalizing before with
  | nil => rfl
  | cons first rest inductionHypothesis =>
      have low : first.toNat < 128 := ascii first List.mem_cons_self
      have notSigma : first ≠ 'Σ' := by
        rintro rfl
        exact absurd low (by decide)
      rw [lowerAfter, if_neg notSigma, lowerChar, if_pos low, List.singleton_append, List.map_cons,
        inductionHypothesis (first :: before) fun shown member =>
          ascii shown (List.mem_cons_of_mem _ member)]

theorem lower_eq_map (ascii : ∀ shown ∈ content, shown.toNat < 128) :
    lower content = content.map Char.toLower :=
  lowerAfter_eq_map [] ascii

end Lower

end Text

end EmbedScaffold
