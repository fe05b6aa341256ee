import EmbedScaffold.Token.Basic

/-!
# Tokens that an edit treats alike

Edits look at the kind of a token and, for punctuation and words, at its text.  Tokens that agree
in these are kindred: the same token at another offset, or a literal whose lines were indented.
-/

namespace EmbedScaffold

/-- Tokens of one kind, with one text unless they are literals. -/
structure Kindred (left right : Token) : Prop where
  kind : left.kind = right.kind
  value : left.kind = .punct ∨ left.kind = .word → left.value = right.value

namespace Kindred

variable {left right : Token}

theorem refl (token : Token) : Kindred token token :=
  ⟨rfl, fun _ => rfl⟩

theorem symm (kindred : Kindred left right) : Kindred right left :=
  ⟨kindred.kind.symm, fun isPlain => (kindred.value (kindred.kind ▸ isPlain)).symm⟩

theorem isPunct (kindred : Kindred left right) (mark : Char) :
    left.isPunct mark = right.isPunct mark := by
  rw [Token.isPunct, Token.isPunct, ← kindred.kind]
  by_cases punct : left.kind = .punct
  · rw [kindred.value (Or.inl punct)]
  · simp [punct]

theorem isWord (kindred : Kindred left right) (name : Text) :
    left.isWord name = right.isWord name := by
  rw [Token.isWord, Token.isWord, ← kindred.kind]
  by_cases word : left.kind = .word
  · rw [kindred.value (Or.inr word)]
  · simp [word]

theorem mark? (kindred : Kindred left right) : left.mark? = right.mark? := by
  rw [Token.mark?, Token.mark?, ← kindred.kind]
  by_cases punct : left.kind = .punct
  · rw [kindred.value (Or.inl punct)]
  · rw [if_neg punct, if_neg punct]

theorem closing? (kindred : Kindred left right) : left.closing? = right.closing? := by
  rw [Token.closing?, Token.closing?, kindred.mark?]

theorem isOpener (kindred : Kindred left right) : left.isOpener = right.isOpener := by
  rw [Token.isOpener, Token.isOpener, kindred.closing?]

theorem isCloser (kindred : Kindred left right) : left.isCloser = right.isCloser := by
  rw [Token.isCloser, Token.isCloser, kindred.mark?]

theorem allowsRegex (kindred : Kindred left right) :
    left.allowsRegex = right.allowsRegex := by
  have sameKind := kindred.kind
  rw [Token.allowsRegex, Token.allowsRegex, ← sameKind, kindred.mark?]
  cases kinded : left.kind with
  | word => rw [kindred.value (Or.inr kinded)]
  | punct | string | template | regex => rfl

end Kindred

end EmbedScaffold
