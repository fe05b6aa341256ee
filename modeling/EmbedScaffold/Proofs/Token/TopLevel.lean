import EmbedScaffold.Proofs.Token.Coverage
import EmbedScaffold.Proofs.Token.Pairing

/-!
# Tokens outside brackets

The tokens of a document lie one behind the other, and its pairs of brackets lie one inside the
other or apart.  The search for marks outside brackets, which jumps from an opening bracket over its
closing one, finds exactly those that no bracket of the searched tokens encloses; and tokens that no
pair leaves have matching brackets of their own.
-/

namespace EmbedScaffold

open Scan Lexeme

namespace PairsBehind

variable {tokens : List Token} {pairs : List (Nat × Nat)} {start stop : Nat}

theorem lookup (paired : Paired tokens pairs) (member : (start, stop) ∈ pairs) :
    pairs.lookup start = some stop := by
  cases found : pairs.lookup start with
  | none =>
      have absent := List.lookup_eq_none_iff.mp found _ member
      simp at absent
  | some other =>
      obtain ⟨before, after, shape, -⟩ := List.lookup_eq_some_iff.mp found
      have otherMember : (start, other) ∈ pairs := by simp [shape]
      rw [(Prod.mk.inj (paired.unique member otherMember (by simp))).2]

/-- The token at the first index of a pair is an opening bracket. -/
theorem exists_opener (paired : Paired tokens pairs) (member : (start, stop) ∈ pairs) :
    ∃ token, tokens[start]? = some token ∧ token.isOpener = true := by
  obtain ⟨opener, _, mark, here, opens, -⟩ := paired.matching _ member
  exact ⟨opener, here, isOpener_of_closing opens⟩

/-- Where a pair lies, seen from another one. -/
theorem placement (paired : Paired tokens pairs) (member : (start, stop) ∈ pairs)
    {pair : Nat × Nat} (among : pair ∈ pairs) :
    pair.1 < pair.2 ∧ (pair = (start, stop) ∨ (pair.1 < start ∧ stop < pair.2) ∨
      (start < pair.1 ∧ pair.2 < stop) ∨ pair.2 < start ∨ stop < pair.1) := by
  have order := paired.lt member
  refine ⟨(paired.placed pair among).1, ?_⟩
  rcases paired.trichotomy among member with same | ⟨closed, opened⟩ | ⟨closed, opened⟩
  · exact .inl same
  · dsimp only at closed opened
    omega
  · dsimp only at closed opened
    omega

end PairsBehind

/-! ## Tokens of an accepted document -/

namespace Document

variable {content : Text} {document : Document} {token : Token} {index other start stop : Nat}

/-- A check of the document of a text succeeds only if there is one. -/
theorem exists_checked (check : Document → Bool)
    (checked : (Document.ofText content).toOption.any check = true) :
    ∃ document, Document.ofText content = .ok document ∧ check document = true := by
  cases scanned : Document.ofText content with
  | error fault =>
      rw [scanned] at checked
      cases checked
  | ok document =>
      rw [scanned] at checked
      exact ⟨document, rfl, checked⟩

theorem paired (scanned : Document.ofText content = .ok document) :
    Paired document.tokens.toList document.pairs := by
  obtain ⟨-, lexemes, after, known⟩ := Scanned.ofText_ok scanned
  exact paired_of_ok (known.tokens ▸ known.pairs)

theorem token?_eq : document.token? index = document.tokens.toList[index]? := by
  rw [token?, Array.getElem?_toList]

theorem exists_token (within : index < document.tokens.size) :
    ∃ token, document.token? index = some token :=
  ⟨document.tokens[index], Array.getElem?_eq_getElem within⟩

theorem lt_size (here : document.token? index = some token) : index < document.tokens.size :=
  (Array.getElem?_eq_some_iff.mp here).1

theorem startOf_eq (here : document.token? index = some token) :
    document.startOf index = token.start := by
  rw [startOf, here]
  rfl

theorem stopOf_eq (here : document.token? index = some token) :
    document.stopOf index = token.stop := by
  rw [stopOf, here]
  rfl

theorem startOf_lt_stopOf (scanned : Document.ofText content = .ok document)
    (within : index < document.tokens.size) : document.startOf index < document.stopOf index := by
  obtain ⟨token, here⟩ := exists_token within
  have covers : Covers ([] ++ content) 0 document.tokens.toList :=
    tokensFrom_covers (scan_eq scanned)
  rw [startOf_eq here, stopOf_eq here]
  exact (covers.bounds token (List.mem_of_getElem? (token?_eq ▸ here))).2.1

theorem stopOf_le_startOf (scanned : Document.ofText content = .ok document)
    (order : index < other) (within : other < document.tokens.size) :
    document.stopOf index ≤ document.startOf other := by
  obtain ⟨token, here⟩ := exists_token (Nat.lt_trans order within)
  obtain ⟨later, there⟩ := exists_token within
  have covers : Covers ([] ++ content) 0 document.tokens.toList :=
    tokensFrom_covers (scan_eq scanned)
  rw [stopOf_eq here, startOf_eq there]
  rw [token?_eq, List.getElem?_eq_some_iff] at here there
  obtain ⟨before, rfl⟩ := here
  obtain ⟨behind, rfl⟩ := there
  exact List.pairwise_iff_getElem.mp covers.pairwise index other before behind order

theorem startOf_le_startOf (scanned : Document.ofText content = .ok document)
    (order : index ≤ other) (within : other < document.tokens.size) :
    document.startOf index ≤ document.startOf other := by
  rcases Nat.lt_or_eq_of_le order with before | rfl
  · exact Nat.le_trans (Nat.le_of_lt (startOf_lt_stopOf scanned (Nat.lt_trans before within)))
      (stopOf_le_startOf scanned before within)
  · exact Nat.le_refl _

/-- No two tokens begin at one offset. -/
theorem eq_of_startOf (scanned : Document.ofText content = .ok document)
    (within : index < document.tokens.size) (otherWithin : other < document.tokens.size)
    (same : document.startOf index = document.startOf other) : index = other := by
  have apart {first second : Nat} (order : first < second)
      (inside : second < document.tokens.size) :
      document.startOf first < document.startOf second :=
    Nat.lt_of_lt_of_le (startOf_lt_stopOf scanned (Nat.lt_trans order inside))
      (stopOf_le_startOf scanned order inside)
  rcases Nat.lt_trichotomy index other with before | equal | behind
  · exact absurd same (Nat.ne_of_lt (apart before otherWithin))
  · exact equal
  · exact absurd same.symm (Nat.ne_of_lt (apart behind within))

/-- The indices of a pair are those of brackets. -/
theorem ne_of_noBracket (paired : Paired document.tokens.toList document.pairs)
    (here : document.token? index = some token) (noBracket : token.bracket? = none)
    {pair : Nat × Nat} (among : pair ∈ document.pairs) : pair.1 ≠ index ∧ pair.2 ≠ index := by
  obtain ⟨opener, closer, mark, opened, opens, closed, isPunct⟩ := paired.matching _ among
  obtain ⟨opening, isOpening, isKind⟩ := Token.bracket?_of_closing opens
  rw [token?_eq] at here
  constructor
  · rintro rfl
    obtain rfl := Option.some.inj (here.symm.trans opened)
    rw [isOpening] at noBracket
    cases noBracket
  · rintro rfl
    obtain rfl := Option.some.inj (here.symm.trans closed)
    rw [Token.bracket?_of_isPunct isKind (.inr rfl) isPunct] at noBracket
    cases noBracket

/-! ## Top level -/

theorem closer_of_mem (paired : Paired document.tokens.toList document.pairs)
    (member : (start, stop) ∈ document.pairs) : document.closer start = stop := by
  rw [closer, paired.lookup member]
  rfl

/-- No bracket that is opened at `start` or behind encloses the index or is closed there. -/
def IsOutside (document : Document) (start index : Nat) : Prop :=
  ∀ pair ∈ document.pairs, start ≤ pair.1 → pair.1 < index → pair.2 < index

/-- Nothing is outside of a group up to its closing bracket. -/
theorem isOutside_group {closing : Nat} (paired : Paired document.tokens.toList document.pairs)
    (member : (start, closing) ∈ document.pairs) (behind : start < index) :
    document.IsOutside start index ↔
      closing < index ∧ document.IsOutside (closing + 1) index := by
  have order := paired.lt member
  constructor
  · intro outside
    refine ⟨outside _ member (Nat.le_refl start) behind, fun pair among opened before => ?_⟩
    exact outside pair among (by omega) before
  · rintro ⟨closed, outside⟩ pair among opened before
    rcases Nat.lt_or_eq_of_le opened with inner | same
    · rcases paired.laminar member among inner with apart | inside
      · exact outside pair among apart before
      · dsimp only at inside
        omega
    · obtain rfl := paired.unique member among (.inl same)
      exact closed

theorem isOutside_plain (paired : Paired document.tokens.toList document.pairs)
    (here : document.token? start = some token) (notOpener : token.isOpener = false) :
    document.IsOutside start index ↔ document.IsOutside (start + 1) index := by
  constructor
  · exact fun outside pair among opened => outside pair among (Nat.le_of_succ_le opened)
  · intro outside pair among opened before
    rcases Nat.lt_or_eq_of_le opened with inner | rfl
    · exact outside pair among inner before
    · obtain ⟨opener, there, isOpener⟩ := paired.exists_opener among
      rw [token?_eq, there] at here
      cases here
      rw [notOpener] at isOpener
      cases isOpener

/-- The search finds the wanted tokens outside the brackets that are opened on its way. -/
theorem mem_topLevelWhere {wanted : Token → Bool}
    (paired : Paired document.tokens.toList document.pairs)
    (within : stop ≤ document.tokens.size) :
    index ∈ document.topLevelWhere wanted start stop ↔
      start ≤ index ∧ index < stop ∧ document.IsOutside start index ∧
        ∃ token, document.token? index = some token ∧ token.isOpener = false ∧
          wanted token = true := by
  fun_induction topLevelWhere document wanted start stop with
  | case1 start before absent =>
      obtain ⟨token, here⟩ := exists_token (Nat.lt_of_lt_of_le before within)
      rw [absent] at here
      cases here
  | case2 start before token here isOpener inductionHypothesis =>
      obtain ⟨closing, member⟩ := paired.exists_closer (token?_eq ▸ here) isOpener
      have order := paired.lt member
      -- the search jumps over the group, in which nothing is outside
      rw [closer_of_mem paired member, Nat.max_eq_right (Nat.le_of_lt order)] at inductionHypothesis
      rw [closer_of_mem paired member, Nat.max_eq_right (Nat.le_of_lt order), inductionHypothesis]
      constructor
      · rintro ⟨behind, inside, outside, found⟩
        refine ⟨by omega, inside, (isOutside_group paired member (by omega)).mpr ?_, found⟩
        exact ⟨behind, outside⟩
      · rintro ⟨behind, inside, outside, found, there, notOpener, isWanted⟩
        have apart : start ≠ index := by
          rintro rfl
          rw [here] at there
          cases there
          rw [isOpener] at notOpener
          cases notOpener
        obtain ⟨closed, outsideBehind⟩ :=
          (isOutside_group paired member (Nat.lt_of_le_of_ne behind apart)).mp outside
        exact ⟨closed, inside, outsideBehind, found, there, notOpener, isWanted⟩
  | case3 start before token here notOpener others isWanted inductionHypothesis =>
      have plain := Bool.eq_false_iff.mpr notOpener
      rw [List.mem_cons, inductionHypothesis, isOutside_plain paired here plain]
      constructor
      · rintro (rfl | ⟨behind, rest⟩)
        · exact ⟨Nat.le_refl _, before, fun _ _ opened before => by omega, token, here, plain,
            isWanted⟩
        · exact ⟨Nat.le_of_succ_le behind, rest⟩
      · rintro ⟨behind, rest⟩
        rcases Nat.lt_or_eq_of_le behind with later | rfl
        · exact .inr ⟨later, rest⟩
        · exact .inl rfl
  | case4 start before token here notOpener others notWanted inductionHypothesis =>
      have plain := Bool.eq_false_iff.mpr notOpener
      rw [inductionHypothesis, isOutside_plain paired here plain]
      constructor
      · rintro ⟨behind, rest⟩
        exact ⟨Nat.le_of_succ_le behind, rest⟩
      · rintro ⟨behind, inside, outside, found, there, rest⟩
        refine ⟨Nat.lt_of_le_of_ne behind ?_, inside, outside, found, there, rest⟩
        rintro rfl
        rw [here] at there
        cases there
        exact notWanted rest.2
  | case5 start ended =>
      constructor
      · rintro ⟨⟩
      · rintro ⟨behind, inside, -⟩
        omega

/-- The search finds them in order. -/
theorem pairwise_topLevelWhere (document : Document) (wanted : Token → Bool) (start stop : Nat) :
    (document.topLevelWhere wanted start stop).Pairwise (· < ·) ∧
      ∀ index ∈ document.topLevelWhere wanted start stop, start ≤ index := by
  fun_induction topLevelWhere document wanted start stop with
  | case1 => exact ⟨.nil, by simp⟩
  | case2 start before token here isOpener inductionHypothesis =>
      exact ⟨inductionHypothesis.1, fun index member => by
        have behind := inductionHypothesis.2 index member
        omega⟩
  | case3 start before token here notOpener others isWanted inductionHypothesis =>
      refine ⟨.cons inductionHypothesis.2 inductionHypothesis.1, ?_⟩
      rintro index (_ | ⟨_, member⟩)
      · exact Nat.le_refl start
      · exact Nat.le_of_succ_le (inductionHypothesis.2 index member)
  | case4 start before token here notOpener others notWanted inductionHypothesis =>
      exact ⟨inductionHypothesis.1, fun index member =>
        Nat.le_of_succ_le (inductionHypothesis.2 index member)⟩
  | case5 => exact ⟨.nil, by simp⟩

/-! ## Tokens with brackets of their own -/

/-- The tokens from `first` up to `stop`. -/
def tokensIn (document : Document) (first stop : Nat) : List Token :=
  (document.tokens.toList.drop first).take (stop - first)

theorem tokensIn_cons (here : document.token? start = some token) (order : start < stop) :
    document.tokensIn start stop = token :: document.tokensIn (start + 1) stop := by
  rw [token?_eq, List.getElem?_eq_some_iff] at here
  obtain ⟨before, rfl⟩ := here
  rw [tokensIn, tokensIn, List.drop_eq_getElem_cons before,
    show stop - start = stop - (start + 1) + 1 by omega, List.take_succ_cons]

theorem tokensIn_append (middle : Nat) (front : start ≤ middle) (back : middle ≤ stop) :
    document.tokensIn start stop =
      document.tokensIn start middle ++ document.tokensIn middle stop := by
  rw [tokensIn, tokensIn, tokensIn, show stop - start = (middle - start) + (stop - middle) by omega,
    List.take_add, List.drop_drop, show start + (middle - start) = middle by omega]

/-- Tokens that no pair leaves are well nested. -/
theorem wellNested_tokensIn (paired : Paired document.tokens.toList document.pairs)
    (within : stop ≤ document.tokens.size)
    (whole : ∀ pair ∈ document.pairs,
      (start ≤ pair.1 ∧ pair.1 < stop ↔ start ≤ pair.2 ∧ pair.2 < stop)) :
    WellNested (bracketsOf (document.tokensIn start stop)) := by
  -- A group is read at once, so the induction is on the number of tokens.
  induction size : stop - start using Nat.strongRecOn generalizing start stop with
  | ind size' inductionHypothesis =>
      subst size
      by_cases order : start < stop
      · obtain ⟨token, here⟩ := exists_token (Nat.lt_of_lt_of_le order within)
        rw [tokensIn_cons here order]
        cases bracket : token.bracket? with
        | none =>
            rw [bracketsOf_cons_none _ bracket]
            refine inductionHypothesis (stop - (start + 1)) (by omega) within ?_ rfl
            intro pair among
            have bounds := whole pair among
            have apart := ne_of_noBracket paired here bracket among
            omega
        | some mark =>
            obtain ⟨⟨opened, closing⟩, member, side⟩ := paired.complete start token
              (Nat.zero_le _) (token?_eq ▸ here) (by rw [bracket]; rfl)
            have bounds := whole _ member
            have positive := paired.lt member
            obtain rfl : opened = start := by
              dsimp only at side bounds
              omega
            obtain ⟨opener, closer, closingMark, opensHere, opens, closesThere, isPunct⟩ :=
              paired.matching _ member
            rw [← token?_eq] at opensHere closesThere
            cases here.symm.trans opensHere
            obtain ⟨opening, isOpening, isKind⟩ := Token.bracket?_of_closing opens
            have isClosing := Token.bracket?_of_isPunct isKind (.inr rfl) isPunct
            dsimp only at bounds closesThere
            rw [tokensIn_append closing (by omega) (by omega),
              tokensIn_cons closesThere (by omega), bracketsOf_cons_some _ isOpening,
              bracketsOf_append, bracketsOf_cons_some _ isClosing]
            refine .group isKind (inductionHypothesis (closing - (opened + 1)) (by omega)
              (by omega) ?_ rfl) (inductionHypothesis (stop - (closing + 1)) (by omega) within ?_ rfl)
            · intro pair among
              obtain ⟨_, rfl | placed⟩ := paired.placement member among
              · dsimp only
                omega
              · omega
            · intro pair among
              have around := whole pair among
              obtain ⟨_, rfl | placed⟩ := paired.placement member among
              · dsimp only
                omega
              · omega
      · rw [tokensIn, show stop - start = 0 by omega, List.take_zero]
        exact .nil

end Document

end EmbedScaffold
