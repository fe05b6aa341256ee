import EmbedScaffold.Proofs.Token.Stretch

/-!
# Well-nested brackets

The words of matching brackets are given by a grammar that knows nothing of offsets and stacks.
Tokens in front of a place leave some of their brackets open; `Opened` lists them.  It tells which
brackets may stand at the place, so that a word can still become well nested behind it.
-/

namespace EmbedScaffold

open Text Lexeme

/-- The three kinds of brackets, each an opening one with the one that closes it. -/
def bracketKinds : List (Char × Char) :=
  [('\x7b', '\x7d'), ('[', ']'), ('(', ')')]

/-- Words of brackets in which each opening one is closed by one of its own kind. -/
inductive WellNested : List Char → Prop
  | nil : WellNested []
  | group {opening closing : Char} {inner rest : List Char} :
      (opening, closing) ∈ bracketKinds → WellNested inner → WellNested rest →
      WellNested (opening :: (inner ++ closing :: rest))

/-- A word that some continuation makes well nested. -/
def Completable (word : List Char) : Prop :=
  ∃ more, WellNested (word ++ more)

namespace Token

theorem closingMark?_eq_some_iff {opening closing : Char} :
    closingMark? opening = some closing ↔ (opening, closing) ∈ bracketKinds := by
  simp only [closingMark?, bracketKinds, List.mem_cons, Prod.mk.injEq, List.not_mem_nil, or_false]
  grind

def bracket? (token : Token) : Option Char :=
  token.mark?.filter fun mark =>
    bracketKinds.any fun kind => mark == kind.1 || mark == kind.2

theorem isPunct_iff_mark? {token : Token} {mark : Char} :
    token.isPunct mark = true ↔ token.mark? = some mark := by
  constructor
  · exact mark?_of_isPunct
  · intro marked
    unfold Token.mark? at marked
    split at marked
    · next isPunct =>
        split at marked
        · next tested value =>
            cases marked
            simp [Token.isPunct, isPunct, value]
        · cases marked
    · cases marked

theorem bracket?_of_isPunct {token : Token} {mark : Char} {kind : Char × Char}
    (isKind : kind ∈ bracketKinds) (among : mark = kind.1 ∨ mark = kind.2)
    (isPunct : token.isPunct mark = true) : token.bracket? = some mark := by
  rw [bracket?, isPunct_iff_mark?.mp isPunct, Option.filter_eq_some_iff, List.any_eq_true]
  exact ⟨rfl, kind, isKind, by simpa using among⟩

theorem bracket?_of_closing {token : Token} {closing : Char}
    (opens : token.closing? = some closing) :
    ∃ opening, token.bracket? = some opening ∧ (opening, closing) ∈ bracketKinds := by
  obtain ⟨opening, mark, isKind⟩ := Option.bind_eq_some_iff.mp opens
  rw [closingMark?_eq_some_iff] at isKind
  exact ⟨opening, bracket?_of_isPunct isKind (.inl rfl) (isPunct_iff_mark?.mpr mark), isKind⟩

theorem closing?_of_bracket? {token : Token} {opening closing : Char}
    (bracket : token.bracket? = some opening) (isKind : (opening, closing) ∈ bracketKinds) :
    token.closing? = some closing := by
  rw [bracket?, Option.filter_eq_some_iff] at bracket
  rw [Token.closing?, bracket.1, Option.bind_some, closingMark?_eq_some_iff]
  exact isKind

theorem bracket?_of_isCloser {token : Token} (isCloser : token.isCloser = true) :
    ∃ closing, token.bracket? = some closing ∧ token.isPunct closing = true ∧
      isClosingMark closing = true := by
  cases mark : token.mark? with
  | none => rw [Token.isCloser, mark] at isCloser; cases isCloser
  | some closing =>
      rw [Token.isCloser, mark, Option.map_some, Option.getD_some] at isCloser
      have isPunct := isPunct_iff_mark?.mpr mark
      obtain ⟨opening, isKind⟩ : ∃ opening, (opening, closing) ∈ bracketKinds := by
        simp only [isClosingMark, Bool.or_eq_true, decide_eq_true_eq] at isCloser
        rcases isCloser with (rfl | rfl) | rfl <;> simp [bracketKinds]
      exact ⟨closing, bracket?_of_isPunct isKind (.inr rfl) isPunct, isPunct, isCloser⟩

theorem bracket?_eq_none {token : Token} (notOpener : token.isOpener = false)
    (notCloser : token.isCloser = false) : token.bracket? = none := by
  cases mark : token.mark? with
  | none => rw [bracket?, mark]; rfl
  | some tested =>
      have plain := closing_of_not_isOpener notOpener
      rw [Token.closing?, mark, Option.bind_some] at plain
      rw [Token.isCloser, mark, Option.map_some, Option.getD_some] at notCloser
      rw [bracket?, mark, Option.filter_eq_none_iff]
      rintro _ ⟨⟩ among
      simp only [bracketKinds, List.any_cons, List.any_nil, Bool.or_false, Bool.or_eq_true,
        beq_iff_eq] at among
      grind [closingMark?, isClosingMark]

theorem isSome_bracket? (token : Token) :
    token.bracket?.isSome = true ↔ token.isOpener = true ∨ token.isCloser = true := by
  constructor
  · intro isBracket
    by_contra neither
    rw [not_or, Bool.not_eq_true, Bool.not_eq_true] at neither
    rw [bracket?_eq_none neither.1 neither.2] at isBracket
    cases isBracket
  · rintro (isOpener | isCloser)
    · obtain ⟨mark, opens⟩ := Option.isSome_iff_exists.mp isOpener
      obtain ⟨_, isBracket, _⟩ := bracket?_of_closing opens
      rw [isBracket]
      rfl
    · obtain ⟨_, isBracket, _⟩ := bracket?_of_isCloser isCloser
      rw [isBracket]
      rfl

end Token

def bracketsOf (tokens : List Token) : List Char :=
  tokens.filterMap Token.bracket?

section BracketsOf

variable (left right : List Token)

@[simp]
theorem bracketsOf_append : bracketsOf (left ++ right) = bracketsOf left ++ bracketsOf right :=
  List.filterMap_append

theorem bracketsOf_cons_some {token : Token} {mark : Char} (isBracket : token.bracket? = some mark) :
    bracketsOf (token :: right) = mark :: bracketsOf right :=
  List.filterMap_cons_some isBracket

theorem bracketsOf_cons_none {token : Token} (noBracket : token.bracket? = none) :
    bracketsOf (token :: right) = bracketsOf right :=
  List.filterMap_cons_none noBracket

end BracketsOf

/-! ## Brackets that are still to be closed -/

section Pending

variable {opening closing : Char}

theorem isClosingMark_of_kind (isKind : (opening, closing) ∈ bracketKinds) :
    Token.isClosingMark closing = true := by
  simp only [bracketKinds, List.mem_cons, Prod.mk.injEq, List.not_mem_nil, or_false] at isKind
  rcases isKind with ⟨-, rfl⟩ | ⟨-, rfl⟩ | ⟨-, rfl⟩ <;> rfl

theorem closesText_opening (isKind : (opening, closing) ∈ bracketKinds) (pending : List Char)
    (rest : Text) :
    closesText pending (opening :: rest) = closesText (closing :: pending) rest := by
  rw [closesText.eq_def]
  simp only [Token.closingMark?_eq_some_iff.mpr isKind]

theorem closesText_closing (isClosing : Token.isClosingMark closing = true) (pending : List Char)
    (rest : Text) :
    closesText pending (closing :: rest) =
      match pending with
      | [] => false
      | expected :: outer => closing == expected && closesText outer rest := by
  have noOpener : Token.closingMark? closing = none := by
    simp only [Token.isClosingMark, Bool.or_eq_true, decide_eq_true_eq] at isClosing
    rcases isClosing with (rfl | rfl) | rfl <;> rfl
  rw [closesText.eq_def]
  cases pending <;> simp only [noOpener, isClosing, if_true]

end Pending

/-! ## Well-nested words -/

namespace WellNested

variable {left right inner : List Char}

theorem append (leftNested : WellNested left) (rightNested : WellNested right) :
    WellNested (left ++ right) := by
  induction leftNested with
  | nil => exact rightNested
  | group isKind innerNested _ _ inductionHypothesis =>
      rw [List.cons_append, List.append_assoc, List.cons_append]
      exact .group isKind innerNested inductionHypothesis

theorem bracket {opening closing : Char} (isKind : (opening, closing) ∈ bracketKinds)
    (innerNested : WellNested inner) : WellNested (opening :: (inner ++ [closing])) :=
  .group isKind innerNested .nil

/-- A well-nested word closes its own brackets only. -/
theorem closesText_append (nested : WellNested left) (pending : List Char) (rest : Text) :
    closesText pending (left ++ rest) = closesText pending rest := by
  induction nested generalizing pending rest with
  | nil => rfl
  | group isKind _ _ innerHypothesis restHypothesis =>
      rw [List.cons_append, List.append_assoc, List.cons_append, closesText_opening isKind,
        innerHypothesis, closesText_closing (isClosingMark_of_kind isKind)]
      dsimp only
      rw [beq_self_eq_true, Bool.true_and, restHypothesis]

theorem closesText_nil (nested : WellNested left) : closesText [] left = true := by
  have whole := nested.closesText_append [] []
  rwa [List.append_nil] at whole

end WellNested

/-! ## Tokens in front of a place -/

/-- The opening brackets that tokens leave open, innermost first. -/
inductive Opened : List Token → List Token → Prop
  | nil {tokens : List Token} : WellNested (bracketsOf tokens) → Opened tokens []
  | cons {front inner pending : List Token} {opener : Token} :
      Opened front pending → opener.isOpener = true → WellNested (bracketsOf inner) →
      Opened (front ++ opener :: inner) (opener :: pending)

namespace Opened

variable {tokens pending : List Token} {token opener : Token}

/-- Well-nested tokens leave nothing open. -/
theorem append {nested : List Token} (opened : Opened tokens pending)
    (innerNested : WellNested (bracketsOf nested)) : Opened (tokens ++ nested) pending := by
  cases opened with
  | nil frontNested =>
      refine .nil ?_
      rw [bracketsOf_append]
      exact frontNested.append innerNested
  | cons frontOpened isOpener behindNested =>
      rw [List.append_assoc, List.cons_append]
      refine .cons frontOpened isOpener ?_
      rw [bracketsOf_append]
      exact behindNested.append innerNested

theorem plain (opened : Opened tokens pending) (notOpener : token.isOpener = false)
    (notCloser : token.isCloser = false) : Opened (tokens ++ [token]) pending := by
  apply opened.append
  rw [bracketsOf_cons_none _ (Token.bracket?_eq_none notOpener notCloser)]
  exact .nil

theorem push (opened : Opened tokens pending) (isOpener : token.isOpener = true) :
    Opened (tokens ++ [token]) (token :: pending) :=
  .cons opened isOpener .nil

theorem pop {closing : Char} (opened : Opened tokens (opener :: pending))
    (opens : opener.closing? = some closing) (isPunct : token.isPunct closing = true) :
    Opened (tokens ++ [token]) pending := by
  cases opened with
  | cons frontOpened _ innerNested =>
      obtain ⟨opening, isOpening, isKind⟩ := Token.bracket?_of_closing opens
      have isClosing := Token.bracket?_of_isPunct isKind (.inr rfl) isPunct
      rw [List.append_assoc, List.cons_append]
      apply frontOpened.append
      rw [bracketsOf_cons_some _ isOpening, bracketsOf_append, bracketsOf_cons_some _ isClosing]
      exact .bracket isKind innerNested

/-- Behind the tokens, the brackets that they leave open are to be closed. -/
theorem closesText_append (opened : Opened tokens pending) (rest : Text) :
    closesText [] (bracketsOf tokens ++ rest) =
      closesText (pending.filterMap Token.closing?) rest := by
  induction opened generalizing rest with
  | nil nested => exact nested.closesText_append [] rest
  | @cons front inner outer opener _ isOpener innerNested inductionHypothesis =>
      obtain ⟨closing, opens⟩ := Option.isSome_iff_exists.mp isOpener
      obtain ⟨opening, isOpening, isKind⟩ := Token.bracket?_of_closing opens
      rw [bracketsOf_append, List.append_assoc, inductionHypothesis,
        bracketsOf_cons_some _ isOpening, List.cons_append, closesText_opening isKind,
        innerNested.closesText_append, List.filterMap_cons_some opens]

/-- The closing brackets of the open ones, innermost first, make the tokens well nested. -/
theorem wellNested_append (opened : Opened tokens pending) {word : List Char}
    (nested : WellNested word) :
    WellNested (bracketsOf tokens ++ (word ++ pending.filterMap Token.closing?)) := by
  induction opened generalizing word with
  | nil frontNested =>
      rw [List.filterMap_nil, List.append_nil]
      exact frontNested.append nested
  | @cons front inner outer opener _ isOpener innerNested inductionHypothesis =>
      obtain ⟨closing, opens⟩ := Option.isSome_iff_exists.mp isOpener
      obtain ⟨opening, isOpening, isKind⟩ := Token.bracket?_of_closing opens
      have whole := inductionHypothesis (.bracket isKind (innerNested.append nested))
      rw [bracketsOf_append, bracketsOf_cons_some _ isOpening, List.filterMap_cons_some opens]
      simpa using whole

theorem completable (opened : Opened tokens pending) : Completable (bracketsOf tokens) :=
  ⟨_, opened.wellNested_append .nil⟩

/-- Only the closing bracket of the innermost open one may stand behind the tokens. -/
theorem closing_of_completable {closing : Char} (opened : Opened tokens pending)
    (isCloser : token.isCloser = true) (isClosing : token.bracket? = some closing)
    (completable : Completable (bracketsOf (tokens ++ [token]))) :
    ∃ opener outer, pending = opener :: outer ∧ opener.closing? = some closing := by
  obtain ⟨more, nested⟩ := completable
  obtain ⟨mark, isMark, -, isClosingMark⟩ := Token.bracket?_of_isCloser isCloser
  obtain rfl : closing = mark := Option.some.inj (isClosing.symm.trans isMark)
  have closed := nested.closesText_nil
  rw [bracketsOf_append, bracketsOf_cons_some _ isClosing, List.append_assoc,
    opened.closesText_append, List.cons_append, closesText_closing isClosingMark] at closed
  cases opened with
  | nil => cases closed
  | @cons _ _ outer opener _ isOpener _ =>
      obtain ⟨expected, opens⟩ := Option.isSome_iff_exists.mp isOpener
      rw [List.filterMap_cons_some opens] at closed
      dsimp only at closed
      rw [Bool.and_eq_true, beq_iff_eq] at closed
      exact ⟨opener, outer, rfl, closed.1 ▸ opens⟩

/-- Tokens that leave a bracket open are not well nested. -/
theorem eq_nil_of_wellNested (opened : Opened tokens pending)
    (nested : WellNested (bracketsOf tokens)) : pending = [] := by
  have closed := nested.closesText_nil
  rw [← List.append_nil (bracketsOf tokens), opened.closesText_append] at closed
  cases opened with
  | nil => rfl
  | cons _ isOpener _ =>
      obtain ⟨closing, opens⟩ := Option.isSome_iff_exists.mp isOpener
      rw [List.filterMap_cons_some opens] at closed
      cases closed

end Opened

end EmbedScaffold
