import EmbedScaffold.Proofs.Token.Lexeme
import EmbedScaffold.Token.Pairing

/-!
# Nested brackets

`Nest` says of lexemes that their brackets match and that certain marks occur inside brackets
only.  `closes` decides whether a document's brackets match, with a stack of the closing brackets
still to come; it does not see the lexemes of a `Nest`, so these can be exchanged.
-/

namespace EmbedScaffold

open Scan Lexeme

namespace Lexeme

/-- Lexemes whose brackets match, with none that `stops` holds of outside all brackets. -/
inductive Nest : (Lexeme → Bool) → List Lexeme → Prop
  | nil (stops : Lexeme → Bool) : Nest stops []
  | plain {stops : Lexeme → Bool} {lexeme : Lexeme} {rest : List Lexeme} :
      lexeme.token.isOpener = false → lexeme.token.isCloser = false → stops lexeme = false →
      Nest stops rest → Nest stops (lexeme :: rest)
  | group {stops : Lexeme → Bool} {opener closer : Lexeme} {mark : Char}
      {inner rest : List Lexeme} :
      opener.token.closing? = some mark → closer.isPunct mark = true →
      Nest (fun _ => false) inner → Nest stops rest →
      Nest stops (opener :: (inner ++ closer :: rest))

/-- Matching brackets, with any marks outside them. -/
abbrev Balanced : List Lexeme → Prop :=
  Nest fun _ => false

/-- Whether the brackets of lexemes match if the brackets `pending` are still to be closed. -/
def closes : List Char → List Lexeme → Bool
  | pending, [] => pending.isEmpty
  | pending, lexeme :: rest =>
      match lexeme.token.closing? with
      | some mark => closes (mark :: pending) rest
      | none =>
          if lexeme.token.isCloser then
            match pending with
            | [] => false
            | expected :: outer => lexeme.isPunct expected && closes outer rest
          else closes pending rest

/-! ## Closing brackets -/

theorem isOpener_of_closing {token : Token} {mark : Char} (opens : token.closing? = some mark) :
    token.isOpener = true := by
  rw [Token.isOpener, opens]
  rfl

theorem closing_of_not_isOpener {token : Token} (plain : token.isOpener = false) :
    token.closing? = none := by
  rw [Token.isOpener] at plain
  exact Option.not_isSome_iff_eq_none.mp (Bool.eq_false_iff.mp plain)

theorem mark?_of_isPunct {token : Token} {mark : Char} (isPunct : token.isPunct mark = true) :
    token.mark? = some mark := by
  rw [Token.isPunct, Bool.and_eq_true_iff, decide_eq_true_iff, decide_eq_true_iff] at isPunct
  rw [Token.mark?, if_pos isPunct.1, isPunct.2]

theorem isClosingMark_of_closing {token : Token} {mark : Char}
    (opens : token.closing? = some mark) :
    Token.isClosingMark mark = true ∧ Token.closingMark? mark = none := by
  rw [Token.closing?, Option.bind_eq_some_iff] at opens
  obtain ⟨opening, _, closing⟩ := opens
  unfold Token.closingMark? at closing
  split at closing
  · cases closing
    decide
  · split at closing
    · cases closing
      decide
    · split at closing
      · cases closing
        decide
      · cases closing

section Closer

variable {opener closer : Lexeme} {mark : Char}

theorem isCloser_of_closing (opens : opener.token.closing? = some mark)
    (isPunct : closer.isPunct mark = true) : closer.token.isCloser = true := by
  rw [Token.isCloser, mark?_of_isPunct isPunct]
  exact (isClosingMark_of_closing opens).1

theorem closing_of_closer (opens : opener.token.closing? = some mark)
    (isPunct : closer.isPunct mark = true) : closer.token.closing? = none := by
  rw [Token.closing?, mark?_of_isPunct isPunct]
  exact (isClosingMark_of_closing opens).2

end Closer

/-! ## Nests -/

namespace Nest

variable {stops : Lexeme → Bool} {left right : List Lexeme}

theorem append (leftNest : Nest stops left) (rightNest : Nest stops right) :
    Nest stops (left ++ right) := by
  induction leftNest with
  | nil => exact rightNest
  | plain notOpener notCloser goesOn _ inductionHypothesis =>
      exact plain notOpener notCloser goesOn (inductionHypothesis rightNest)
  | group opens closing inner _ _ inductionHypothesis =>
      rw [List.cons_append, List.append_assoc, List.cons_append]
      exact group opens closing inner (inductionHypothesis rightNest)

theorem mono {others : Lexeme → Bool} (weaker : ∀ lexeme, stops lexeme = false →
    others lexeme = false) (nest : Nest stops left) : Nest others left := by
  induction nest with
  | nil => exact nil others
  | plain notOpener notCloser goesOn _ inductionHypothesis =>
      exact plain notOpener notCloser (weaker _ goesOn) (inductionHypothesis weaker)
  | group opens closing inner _ _ inductionHypothesis =>
      exact group opens closing inner (inductionHypothesis weaker)

theorem balanced (nest : Nest stops left) : Balanced left :=
  nest.mono fun _ _ => rfl

theorem single {lexeme : Lexeme} (notOpener : lexeme.token.isOpener = false)
    (notCloser : lexeme.token.isCloser = false) (goesOn : stops lexeme = false) :
    Nest stops [lexeme] :=
  plain notOpener notCloser goesOn (nil stops)

/-- Brackets see kinds and marks only. -/
theorem congr {others : List Lexeme}
    (respects : ∀ lexeme other : Lexeme, Kindred lexeme.token other.token →
      stops lexeme = stops other)
    (kindred : List.Forall₂ (fun other lexeme => Kindred other.token lexeme.token) others left)
    (nest : Nest stops left) : Nest stops others := by
  induction nest generalizing others with
  | nil =>
      cases kindred
      exact nil _
  | plain notOpener notCloser goesOn _ inductionHypothesis =>
      obtain ⟨other, more, alike, restKindred, rfl⟩ := List.forall₂_cons_right_iff.mp kindred
      exact plain (alike.isOpener.trans notOpener) (alike.isCloser.trans notCloser)
        ((respects _ _ alike).trans goesOn) (inductionHypothesis respects restKindred)
  | group opens closing _ _ innerHypothesis restHypothesis =>
      obtain ⟨other, more, alike, moreKindred, rfl⟩ := List.forall₂_cons_right_iff.mp kindred
      have innerKindred := List.forall₂_take_append _ _ _ moreKindred
      have behindKindred := List.forall₂_drop_append _ _ _ moreKindred
      obtain ⟨last, rest, lastAlike, restKindred, behind⟩ :=
        List.forall₂_cons_right_iff.mp behindKindred
      rw [← List.take_append_drop _ more, behind]
      refine group (alike.closing?.trans opens) ?_ (innerHypothesis (fun _ _ _ => rfl) innerKindred)
        (restHypothesis respects restKindred)
      rw [Lexeme.isPunct, lastAlike.isPunct]
      exact closing

end Nest

/-! ## Matching the brackets of a document -/

section Closes

variable {lexeme : Lexeme} {mark : Char} (pending : List Char) (rest : List Lexeme)

theorem closes_opener (opens : lexeme.token.closing? = some mark) :
    closes pending (lexeme :: rest) = closes (mark :: pending) rest := by
  rw [closes.eq_def]
  simp only [opens]

theorem closes_plain (notOpener : lexeme.token.isOpener = false)
    (notCloser : lexeme.token.isCloser = false) :
    closes pending (lexeme :: rest) = closes pending rest := by
  rw [closes.eq_def]
  simp only [closing_of_not_isOpener notOpener, notCloser, Bool.false_eq_true, if_false]

theorem closes_closer (expected : Char) (notOpener : lexeme.token.isOpener = false)
    (isCloser : lexeme.token.isCloser = true) :
    closes (expected :: pending) (lexeme :: rest) =
      (lexeme.isPunct expected && closes pending rest) := by
  rw [closes.eq_def]
  simp only [closing_of_not_isOpener notOpener, isCloser, if_true]

theorem closes_nil_closer (notOpener : lexeme.token.isOpener = false)
    (isCloser : lexeme.token.isCloser = true) : closes [] (lexeme :: rest) = false := by
  rw [closes.eq_def]
  simp only [closing_of_not_isOpener notOpener, isCloser, if_true]

end Closes

theorem isOpener_of_closer {opener closer : Lexeme} {mark : Char}
    (opens : opener.token.closing? = some mark) (isPunct : closer.isPunct mark = true) :
    closer.token.isOpener = false := by
  rw [Token.isOpener, closing_of_closer opens isPunct]
  rfl

theorem Nest.closes_append {stops : Lexeme → Bool} {nested : List Lexeme}
    (nest : Nest stops nested) (pending : List Char) (rest : List Lexeme) :
    closes pending (nested ++ rest) = closes pending rest := by
  induction nest generalizing pending rest with
  | nil => rfl
  | plain notOpener notCloser _ _ inductionHypothesis =>
      rw [List.cons_append, closes_plain _ _ notOpener notCloser, inductionHypothesis]
  | group opens closing _ _ innerHypothesis restHypothesis =>
      rw [List.cons_append, List.append_assoc, List.cons_append, closes_opener _ _ opens,
        innerHypothesis, closes_closer _ _ _ (isOpener_of_closer opens closing)
          (isCloser_of_closing opens closing), closing, restHypothesis]
      rfl

/-- What stands between matching brackets is a nest. -/
theorem exists_balanced {mark : Char} {pending : List Char} {lexemes : List Lexeme}
    (closed : closes (mark :: pending) lexemes = true) :
    ∃ inner closer rest, lexemes = inner ++ closer :: rest ∧ Balanced inner ∧
      closer.isPunct mark = true ∧ closes pending rest = true := by
  match lexemes with
  | [] => cases closed
  | lexeme :: others =>
      cases opens : lexeme.token.closing? with
      | some other =>
          rw [closes_opener _ _ opens] at closed
          obtain ⟨inner, closer, behind, shape, innerNest, closing, behindClosed⟩ :=
            exists_balanced closed
          have shorter := congrArg List.length shape
          obtain ⟨more, last, rest, behindShape, moreNest, lastCloses, restClosed⟩ :=
            exists_balanced behindClosed
          exact ⟨lexeme :: (inner ++ closer :: more), last, rest,
            by simp [shape, behindShape], .group opens closing innerNest moreNest, lastCloses,
            restClosed⟩
      | none =>
          have notOpener : lexeme.token.isOpener = false := by rw [Token.isOpener, opens]; rfl
          cases isCloser : lexeme.token.isCloser with
          | true =>
              rw [closes_closer _ _ _ notOpener isCloser, Bool.and_eq_true_iff] at closed
              exact ⟨[], lexeme, others, rfl, .nil _, closed.1, closed.2⟩
          | false =>
              rw [closes_plain _ _ notOpener isCloser] at closed
              obtain ⟨inner, closer, rest, rfl, innerNest, closing, restClosed⟩ :=
                exists_balanced closed
              exact ⟨lexeme :: inner, closer, rest, rfl,
                .plain notOpener isCloser rfl innerNest, closing, restClosed⟩
termination_by lexemes.length
decreasing_by
  all_goals
    simp only [List.length_cons, List.length_append] at *
    omega

/-- Lexemes with the same effect on all open brackets can be exchanged. -/
theorem closes_congr {left right : List Lexeme}
    (same : ∀ pending, closes pending left = closes pending right) (front : List Lexeme)
    (pending : List Char) : closes pending (front ++ left) = closes pending (front ++ right) := by
  induction front generalizing pending with
  | nil => exact same pending
  | cons first rest inductionHypothesis =>
      rw [List.cons_append, List.cons_append, closes.eq_def, closes.eq_def]
      dsimp only
      split
      · exact inductionHypothesis _
      · split
        · split
          · rfl
          · rw [inductionHypothesis]
        · exact inductionHypothesis _

/-- Behind any lexemes of a document, the brackets open there are closed. -/
theorem exists_pending {front rest : List Lexeme} {pending : List Char}
    (closed : closes pending (front ++ rest) = true) : ∃ others, closes others rest = true := by
  induction front generalizing pending with
  | nil => exact ⟨pending, closed⟩
  | cons first more inductionHypothesis =>
      rw [List.cons_append, closes.eq_def] at closed
      dsimp only at closed
      split at closed
      · exact inductionHypothesis closed
      · split at closed
        · split at closed
          · cases closed
          · exact inductionHypothesis (Bool.and_eq_true_iff.mp closed).2
        · exact inductionHypothesis closed

theorem closes_append {left : List Lexeme} {pending : List Char}
    (closed : closes pending left = true) (right : List Lexeme) :
    closes pending (left ++ right) = closes [] right := by
  induction left generalizing pending with
  | nil => rw [List.nil_append, List.isEmpty_iff.mp closed]
  | cons first rest inductionHypothesis =>
      rw [List.cons_append, closes.eq_def]
      rw [closes.eq_def] at closed
      dsimp only at closed ⊢
      split at closed
      · exact inductionHypothesis closed
      · split at closed
        · next isCloser =>
            rw [if_pos isCloser]
            split at closed
            · cases closed
            · obtain ⟨isPunct, restClosed⟩ := Bool.and_eq_true_iff.mp closed
              rw [isPunct, Bool.true_and]
              exact inductionHypothesis restClosed
        · next notCloser =>
            rw [if_neg notCloser]
            exact inductionHypothesis closed

/-- A document whose brackets match is a nest. -/
theorem balanced_of_closes {lexemes : List Lexeme} (closed : closes [] lexemes = true) :
    Balanced lexemes := by
  match lexemes with
  | [] => exact .nil _
  | lexeme :: others =>
      cases opens : lexeme.token.closing? with
      | some mark =>
          rw [closes_opener _ _ opens] at closed
          obtain ⟨inner, closer, rest, shape, innerNest, closing, restClosed⟩ :=
            exists_balanced closed
          have shorter := congrArg List.length shape
          rw [shape]
          exact .group opens closing innerNest (balanced_of_closes restClosed)
      | none =>
          have notOpener : lexeme.token.isOpener = false := by rw [Token.isOpener, opens]; rfl
          cases isCloser : lexeme.token.isCloser with
          | true =>
              rw [closes_nil_closer _ notOpener isCloser] at closed
              cases closed
          | false =>
              rw [closes_plain _ _ notOpener isCloser] at closed
              exact .plain notOpener isCloser rfl (balanced_of_closes closed)
termination_by lexemes.length
decreasing_by
  all_goals
    simp only [List.length_cons, List.length_append] at *
    omega

end Lexeme

end EmbedScaffold
