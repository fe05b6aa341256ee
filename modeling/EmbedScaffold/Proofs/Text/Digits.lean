import EmbedScaffold.Text.Basic
import Mathlib.Data.Nat.Digits.Lemmas

/-!
# Decimal digits

The text of a number consists of digits, with a sign before them if the number is negative, and
begins with no superfluous zero.
-/

namespace EmbedScaffold.Text

variable {number : Nat}

theorem isDigit_of_mem_ofNat {digit : Char} (member : digit ∈ ofNat number) :
    digit.isDigit = true :=
  Nat.isDigit_of_mem_toDigits (by decide) (by decide) member

/-- The digits of a number do not begin with a zero, unless it is the number zero. -/
theorem head?_ofNat_ne (positive : 0 < number) : (ofNat number).head? ≠ some '0' := by
  induction number using Nat.strongRecOn with
  | ind number inductionHypothesis =>
      by_cases small : number < 10
      · rw [ofNat, Nat.toDigits_of_lt_base small]
        have all : ∀ digit < 10, 0 < digit → Nat.digitChar digit ≠ '0' := by decide
        exact fun same => all number small positive (Option.some.inj same)
      · have front := inductionHypothesis (number / 10) (by omega) (by omega)
        rw [ofNat, Nat.toDigits_of_base_le (by decide) (by omega), List.head?_append]
        intro same
        cases shape : (Nat.toDigits 10 (number / 10)).head? with
        | none => exact Nat.toDigits_ne_nil (List.head?_eq_none_iff.mp shape)
        | some first =>
            rw [shape, Option.some_or] at same
            exact front (shape.trans same)

theorem all_ofNat {passes : Char → Bool} (number : Nat)
    (digits : ∀ tested : Char, tested.isDigit = true → passes tested = true) :
    (ofNat number).all passes = true :=
  List.all_eq_true.mpr fun tested member => digits tested (isDigit_of_mem_ofNat member)

theorem all_ofInt {passes : Char → Bool} (number : Int) (sign : passes '-' = true)
    (digits : ∀ tested : Char, tested.isDigit = true → passes tested = true) :
    (ofInt number).all passes = true := by
  have all := all_ofNat number.natAbs digits
  rw [ofInt]
  split
  · rw [List.all_cons, sign, all]
    rfl
  · exact all

theorem ofInt_ne_nil (number : Int) : ofInt number ≠ [] := by
  rw [ofInt]
  split
  · exact List.cons_ne_nil _ _
  · exact Nat.toDigits_ne_nil

theorem notMem_ofInt {other : Char} (number : Int) (noSign : other ≠ '-')
    (noDigit : other.isDigit = false) : other ∉ ofInt number := by
  have all : (ofInt number).all (· != other) = true :=
    all_ofInt number (by simpa using Ne.symm noSign) fun tested isDigit => by
      simp only [bne_iff_ne, ne_eq]
      rintro rfl
      rw [isDigit] at noDigit
      cases noDigit
  intro member
  exact absurd (List.all_eq_true.mp all other member) (by simp)

end EmbedScaffold.Text
