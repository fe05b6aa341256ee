import EmbedScaffold.Proofs.Token.Coverage
import EmbedScaffold.Proofs.Token.Pairing

/-!
# Blanks between tokens

A document says the same with more blanks at the edges of its tokens.  What a scan reads does not
reach over the edge of a token, so the tokens before the blanks stay where they are and those behind
them move along; and pairing sees kinds and values only.
-/

namespace EmbedScaffold

open Text Scan Lexeme

/-- The token when `distance` characters are put into the text at an offset. -/
def Token.spread (offset distance : Nat) (token : Token) : Token :=
  if token.start < offset then token else token.moved distance

theorem Token.kindred_spread (offset distance : Nat) (token : Token) :
    Kindred (token.spread offset distance) token := by
  unfold Token.spread
  split
  · exact .refl token
  · exact ⟨rfl, fun _ => rfl⟩

/-! ## Pairing moved tokens -/

section Moved

variable {move : Token → Token} {index : Nat} {pending : List (Nat × Token)}
  {tokens whole : List Token}

/-- Two faults lie at one token, which was moved between them. -/
def FailAlike (move : Token → Token) (whole : List Token) (fault other : Malformed) : Prop :=
  ∃ (place : Nat) (token : Token), whole[place]? = some token ∧ fault.offset = token.start ∧
    other.offset = (move token).start

/-- Pairing tokens at other places pairs the same indices or fails at the same token. -/
theorem pairBracketsFrom_map (alike : ∀ token, Kindred (move token) token)
    (behind : whole.drop index = tokens)
    (known : ∀ opened ∈ pending, whole[opened.1]? = some opened.2) :
    match pairBracketsFrom index pending tokens with
    | .ok pairs =>
        pairBracketsFrom index (pending.map (Prod.map id move)) (tokens.map move) = .ok pairs
    | .error fault => ∃ other, FailAlike move whole fault other ∧
        pairBracketsFrom index (pending.map (Prod.map id move)) (tokens.map move) =
          .error other := by
  fun_induction pairBracketsFrom index pending tokens with
  | case1 => rfl
  | case2 index openedAt opener outer =>
      exact ⟨_, ⟨openedAt, opener, known _ List.mem_cons_self, rfl, rfl⟩, rfl⟩
  | case3 index pending token rest isOpener inductionHypothesis =>
      obtain ⟨here, onward⟩ := getElem?_of_drop_eq_cons behind
      rw [List.map_cons, pairBracketsFrom_opener ((alike token).isOpener.trans isOpener)]
      exact inductionHypothesis onward (List.forall_mem_cons.mpr ⟨here, known⟩)
  | case4 index token rest notOpener isCloser =>
      obtain ⟨here, -⟩ := getElem?_of_drop_eq_cons behind
      refine ⟨.unexpectedCloser (move token).value (move token).start,
        ⟨index, token, here, rfl, rfl⟩, ?_⟩
      rw [List.map_cons, pairBracketsFrom.eq_def]
      simp only [(alike token).isOpener, (alike token).isCloser, notOpener, isCloser, List.map_nil,
        Bool.false_eq_true, if_false, if_true]
  | case5 index token rest notOpener isCloser openedAt opener outer noClosing =>
      obtain ⟨here, -⟩ := getElem?_of_drop_eq_cons behind
      refine ⟨.unexpectedCloser (move token).value (move token).start,
        ⟨index, token, here, rfl, rfl⟩, ?_⟩
      rw [List.map_cons, List.map_cons, Prod.map_apply, pairBracketsFrom.eq_def]
      simp only [(alike token).isOpener, (alike token).isCloser, (alike opener).closing?, notOpener,
        isCloser, noClosing, Bool.false_eq_true, if_false, if_true]
  | case6 index token rest notOpener isCloser openedAt opener outer expected opens isPunct
      inductionHypothesis =>
      obtain ⟨here, onward⟩ := getElem?_of_drop_eq_cons behind
      have goesOn := inductionHypothesis onward (List.forall_mem_cons.mp known).2
      rw [List.map_cons, List.map_cons, Prod.map_apply, pairBracketsFrom_closer
        ((alike token).isOpener.trans (Bool.eq_false_iff.mpr notOpener))
        ((alike token).isCloser.trans isCloser) ((alike opener).closing?.trans opens)
        (((alike token).isPunct expected).trans isPunct)]
      cases paired : pairBracketsFrom (index + 1) outer rest with
      | ok pairs =>
          rw [paired] at goesOn
          dsimp only at goesOn
          rw [goesOn]
          rfl
      | error fault =>
          rw [paired] at goesOn
          obtain ⟨other, failAlike, fails⟩ := goesOn
          rw [fails]
          exact ⟨other, failAlike, rfl⟩
  | case7 index token rest notOpener isCloser openedAt opener outer expected opens notPunct =>
      obtain ⟨here, -⟩ := getElem?_of_drop_eq_cons behind
      refine ⟨.mismatchedCloser expected (move opener).start (move token).value (move token).start,
        ⟨index, token, here, rfl, rfl⟩, ?_⟩
      rw [List.map_cons, List.map_cons, Prod.map_apply, pairBracketsFrom.eq_def]
      simp only [(alike token).isOpener, (alike token).isCloser, (alike opener).closing?,
        (alike token).isPunct, notOpener, isCloser, opens, notPunct, Bool.false_eq_true, if_false,
        if_true]
  | case8 index pending token rest notOpener notCloser inductionHypothesis =>
      obtain ⟨here, onward⟩ := getElem?_of_drop_eq_cons behind
      rw [List.map_cons, pairBracketsFrom_plain
        ((alike token).isOpener.trans (Bool.eq_false_iff.mpr notOpener))
        ((alike token).isCloser.trans (Bool.eq_false_iff.mpr notCloser))]
      exact inductionHypothesis onward known

end Moved

/-! ## Documents with more blanks -/

section Spaced

variable {front behind blanks : Text} {tokens : List Token}

/-- At the edge of a token a document is cut into what was read and what is left to read. -/
theorem exists_edge (scanned : scan (front ++ behind) = .ok tokens)
    (edge : ∃ token ∈ tokens, token.start = front.length ∨ token.stop = front.length) :
    ∃ left gap right, front = textOf left ++ gap ∧ Trivia gap ∧ Fits true left (gap ++ behind) ∧
      (∀ place, tokensFrom (allowsBehind true left) place behind = .ok (tokensAt place right)) ∧
      tokens = tokensAt 0 left ++ tokensAt front.length right := by
  obtain ⟨lexemes, after, shape, fits, trailing, rfl⟩ := exists_fits scanned
  obtain ⟨token, member, side⟩ := edge
  obtain ⟨earlier, later, cut⟩ := List.append_of_mem member
  obtain ⟨before, lexeme, others, rfl, -, rfl⟩ := exists_of_tokensAt cut
  have onward {right : List Lexeme} {allowed : Bool} (rightFits : Fits allowed right after)
      (place : Nat) : tokensFrom allowed place (textOf right ++ after) =
        .ok (tokensAt place right) := by
    rw [tokensFrom_fits rightFits, tokensFrom_trailing trailing]
    exact congrArg Except.ok (List.append_nil _)
  rcases side with starts | stops
  · -- the gap before the token is the last thing that was read
    have parts : front ++ behind = (textOf before ++ lexeme.gap) ++
        (textOf ({ lexeme with gap := [] } :: others) ++ after) := by
      rw [shape]
      simp [Lexeme.text]
    obtain ⟨rfl, rfl⟩ := List.append_inj parts (by
      rw [← starts, List.length_append, tokenAt, Nat.zero_add])
    obtain ⟨beforeFits, trivia, alone, separated, othersFit⟩ := fits_append.mp fits
    refine ⟨before, lexeme.gap, _, rfl, trivia, ?_, onward ⟨.nil, alone, separated, othersFit⟩, ?_⟩
    · simpa [Lexeme.text] using beforeFits
    · rw [tokensAt_append, List.length_append, tokensAt_gap, Nat.zero_add]
  · have parts : front ++ behind = textOf (before ++ [lexeme]) ++ (textOf others ++ after) := by
      rw [shape]
      simp
    obtain ⟨rfl, rfl⟩ := List.append_inj parts (by
      rw [← stops, textOf_append, List.length_append, tokenAt, Nat.zero_add, textOf_cons,
        textOf_nil, List.append_nil])
    rw [← List.singleton_append, ← List.append_assoc] at fits
    obtain ⟨beforeFits, othersFit⟩ := fits_append.mp fits
    refine ⟨before ++ [lexeme], [], others, (List.append_nil _).symm, .nil, beforeFits,
      onward othersFit, ?_⟩
    rw [← List.singleton_append, ← List.append_assoc, tokensAt_append, Nat.zero_add]

/-- The tokens move along with what is behind the edge. -/
theorem map_spread_tokensAt {left right : List Lexeme} {gap : Text} {allowed : Bool}
    (trivia : Trivia gap) (fits : Fits true left (gap ++ behind))
    (onward : tokensFrom allowed (textOf left ++ gap).length behind =
      .ok (tokensAt (textOf left ++ gap).length right)) (distance : Nat) :
    (tokensAt 0 left ++ tokensAt (textOf left ++ gap).length right).map
        (Token.spread (textOf left ++ gap).length distance) =
      tokensAt 0 left ++ tokensAt (distance + (textOf left ++ gap).length) right := by
  have alone : tokensFrom true ([] : Text).length (textOf left ++ gap) = .ok (tokensAt 0 left) := by
    rw [tokensFrom_fits (fits.upTo_gap trivia.head), tokensFrom_trailing (.ofTrivia trivia)]
    exact congrArg Except.ok (List.append_nil _)
  have before : ∀ token ∈ tokensAt 0 left,
      Token.spread (textOf left ++ gap).length distance token = token := by
    intro token member
    obtain ⟨-, proper, ends⟩ := (tokensFrom_covers alone).bounds token member
    rw [List.nil_append] at ends
    exact if_pos (by omega)
  have after : ∀ token ∈ tokensAt (textOf left ++ gap).length right,
      Token.spread (textOf left ++ gap).length distance token = token.moved distance := by
    intro token member
    obtain ⟨begins, -⟩ := (tokensFrom_covers onward).bounds token member
    exact if_neg (by omega)
  rw [List.map_append, List.map_congr_left before, List.map_congr_left after, map_moved_tokensAt,
    List.map_id']

end Spaced

/-- Blanks at the edge of a token move the tokens behind them and change nothing else: the brackets
at the same indices are paired, or pairing fails at the same token. -/
theorem scan_spaced {content blanks : Text} {offset : Nat} {tokens : List Token}
    (scanned : scan content = .ok tokens)
    (edge : ∃ token ∈ tokens, token.start = offset ∨ token.stop = offset)
    (areBlank : isBlankText blanks = true) :
    let spread := Token.spread offset blanks.length
    scan (content.take offset ++ (blanks ++ content.drop offset)) = .ok (tokens.map spread) ∧
      match pairBrackets tokens with
      | .ok pairs => pairBrackets (tokens.map spread) = .ok pairs
      | .error fault => ∃ other, FailAlike spread tokens fault other ∧
          pairBrackets (tokens.map spread) = .error other := by
  intro spread
  refine ⟨?_, pairBracketsFrom_map (Token.kindred_spread offset blanks.length) rfl (by simp)⟩
  have within : offset ≤ content.length := by
    have covers : Covers ([] ++ content) 0 tokens := tokensFrom_covers scanned
    obtain ⟨token, member, side⟩ := edge
    obtain ⟨-, proper, ends⟩ := covers.bounds token member
    rw [List.nil_append] at ends
    omega
  have place : (content.take offset).length = offset := List.length_take_of_le within
  rw [← List.take_append_drop offset content] at scanned
  rw [← place] at edge
  obtain ⟨left, gap, right, shape, trivia, fits, onward, rfl⟩ := exists_edge scanned edge
  have moved := map_spread_tokensAt trivia fits (onward _) blanks.length
  rw [← shape, place] at moved
  have fitsThere : Fits true left (gap ++ (blanks ++ content.drop offset)) := by
    cases blanks with
    | nil => exact fits
    | cons first rest =>
        refine fits.behind_gap trivia.head ?_
        rintro - _ ⟨⟩
        exact (List.all_eq_true.mp areBlank) first List.mem_cons_self
  rw [place, moved, shape, List.append_assoc, scan, tokensFrom_fits fitsThere,
    tokensFrom_trivia trivia, tokensFrom_trivia (.ofBlank areBlank), onward, ← place, shape]
  simp only [List.length_append, Except.map]
  congr 3
  omega

theorem scan_spaced_unclosed :
    scan "f\n (a".toList =
        .ok [⟨.word, ['f'], 0, 1⟩, ⟨.punct, ['('], 3, 4⟩, ⟨.word, ['a'], 4, 5⟩] ∧
      ∃ fault, pairBrackets [⟨.word, ['f'], 0, 1⟩, ⟨.punct, ['('], 3, 4⟩, ⟨.word, ['a'], 4, 5⟩] =
        .error fault ∧ fault.offset = 3 := by
  let tokens : List Token := [⟨.word, ['f'], 0, 1⟩, ⟨.punct, ['('], 1, 2⟩, ⟨.word, ['a'], 2, 3⟩]
  have scanned : scan "f(a".toList = .ok tokens := by decide +kernel
  have edge : ∃ token ∈ tokens, token.start = 1 ∨ token.stop = 1 := by decide
  obtain ⟨again, fault, ⟨place, token, there, before, behind⟩, fails⟩ :=
    @scan_spaced _ "\n ".toList _ _ scanned edge rfl
  have start : token.start = 1 := before.symm
  refine ⟨again, fault, fails, behind.trans ?_⟩
  rw [Token.spread, if_neg (by omega), Token.moved, start]
  rfl

end EmbedScaffold
