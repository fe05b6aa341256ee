import EmbedScaffold.Proofs.Token.TopLevel

/-!
# The search for marks, round by round

The search keeps the index of the next token and the indices found so far.  A round passes one token
or, from an opening bracket, everything up to the partner of that bracket, which may lie behind the
searched tokens.  Every round goes forward and keeps what is still to be found, so the rounds come to
an end at any stretch of tokens, also at one that brackets reach into or out of.
-/

namespace EmbedScaffold

/-- How far a search has come, with the indices that it has found. -/
structure Search where
  index : Nat
  found : List Nat

namespace Document

variable {document : Document} {start index : Nat}

/-- Some bracket that is opened at `start` or behind and before the index is closed there or later. -/
def IsEnclosed (document : Document) (start index : Nat) : Prop :=
  ∃ opening closing token, document.token? opening = some token ∧ token.isOpener = true ∧
    partner? document.pairs opening = some closing ∧
    start ≤ opening ∧ opening < index ∧ index ≤ closing

theorem isOutside_iff (paired : Paired document.tokens.toList document.pairs) :
    document.IsOutside start index ↔ ¬ document.IsEnclosed start index := by
  constructor
  · intro outside enclosed
    obtain ⟨opening, closing, token, here, isOpener, shown, opened, before, upTo⟩ := enclosed
    have member := paired.mem_of_partner? shown (Nat.lt_of_lt_of_le before upTo)
    exact Nat.not_lt.mpr upTo (outside _ member opened before)
  · intro free pair among opened before
    obtain ⟨token, here, isOpener⟩ := paired.exists_opener among
    have shown := paired.partner?_eq_some_iff.mpr (.inl among)
    by_contra late
    apply free
    exact ⟨pair.1, pair.2, token, token?_eq ▸ here, isOpener, shown, opened, before,
      Nat.not_lt.mp late⟩

end Document

/-- A mark that opens no bracket is that of no opening bracket. -/
theorem Token.isOpener_of_value {token : Token} {mark : Text}
    (notOpening : ∀ opening, mark = [opening] → closingMark? opening = none)
    (isMark : token.value = mark) : token.isOpener = false := by
  rw [isOpener, closing?]
  cases shown : token.mark? with
  | none => rfl
  | some only =>
      have single : token.value = [only] := by
        unfold mark? at shown
        split at shown
        · split at shown
          · next value => rw [value, ← Option.some.inj shown]
          · cases shown
        · cases shown
      rw [Option.bind_some, notOpening only (isMark.symm.trans single)]
      rfl

namespace Search

variable {document : Document} {mark : Text} {search : Search} {start stop : Nat}

/-- One round of the search for the punctuation `mark`.  There is none where a token or the partner
of an opening bracket is missing. -/
def next? (document : Document) (mark : Text) (search : Search) : Option Search :=
  match document.token? search.index with
  | none => none
  | some token =>
      if token.isOpener then
        (partner? document.pairs search.index).map fun closing => ⟨closing + 1, search.found⟩
      else if token.kind = .punct ∧ token.value = mark then
        some ⟨search.index + 1, search.found ++ [search.index]⟩
      else
        some ⟨search.index + 1, search.found⟩

/-- The search ends after so many rounds: it goes on as long as it is before `stop`. -/
inductive Runs (document : Document) (mark : Text) (stop : Nat) : Nat → Search → Search → Prop
  | rest {search : Search} (ended : stop ≤ search.index) : Runs document mark stop 0 search search
  | round {rounds : Nat} {search following last : Search} (before : search.index < stop)
      (shown : search.next? document mark = some following)
      (others : Runs document mark stop rounds following last) :
      Runs document mark stop (rounds + 1) search last

/-- The indices found, and those that the search finds from here on. -/
def outcome (document : Document) (mark : Text) (stop : Nat) (search : Search) : List Nat :=
  search.found ++ document.topLevel mark search.index stop

theorem outcome_of_ended (ended : stop ≤ search.index) :
    search.outcome document mark stop = search.found := by
  rw [outcome, Document.topLevel, Document.topLevelWhere, if_neg (Nat.not_lt.mpr ended),
    List.append_nil]

/-- A round goes forward and changes nothing about the outcome. -/
theorem exists_next (paired : Paired document.tokens.toList document.pairs)
    (within : stop ≤ document.tokens.size) (before : search.index < stop) :
    ∃ following, search.next? document mark = some following ∧
      search.index < following.index ∧
      following.outcome document mark stop = search.outcome document mark stop := by
  obtain ⟨token, here⟩ := Document.exists_token (Nat.lt_of_lt_of_le before within)
  rw [next?, here]
  simp only [outcome, Document.topLevel]
  rw [Document.topLevelWhere, if_pos before, here]
  by_cases isOpener : token.isOpener = true
  · obtain ⟨closing, member⟩ := paired.exists_closer (Document.token?_eq ▸ here) isOpener
    have order := paired.lt member
    have shown := paired.partner?_eq_some_iff.mpr (.inl member)
    refine ⟨⟨closing + 1, search.found⟩, ?_, by dsimp only at order ⊢; omega, ?_⟩
    · simp only [isOpener, if_true, shown, Option.map_some]
    · simp only [isOpener, if_true]
      rw [Document.closer_of_mem paired member, Nat.max_eq_right (Nat.le_of_lt order)]
  · by_cases isMark : token.kind = .punct ∧ token.value = mark
    · refine ⟨⟨search.index + 1, search.found ++ [search.index]⟩, ?_, Nat.lt_succ_self _, ?_⟩
      · simp only [isOpener, if_false, if_pos isMark, Bool.false_eq_true]
      · have wanted : (token.kind = .punct && token.value = mark) = true := by
          simp [isMark.1, isMark.2]
        simp only [isOpener, Bool.false_eq_true, if_false, wanted, if_true, List.append_assoc,
          List.singleton_append]
    · refine ⟨⟨search.index + 1, search.found⟩, ?_, Nat.lt_succ_self _, ?_⟩
      · simp only [isOpener, if_false, if_neg isMark, Bool.false_eq_true]
      · have unwanted : (token.kind = .punct && token.value = mark) = false := by
          simpa [Bool.and_eq_false_iff] using fun isPunct isValue => isMark ⟨isPunct, isValue⟩
        simp only [isOpener, Bool.false_eq_true, if_false, unwanted]

/-- The search ends, with the outcome that it has at the beginning. -/
theorem exists_runs (paired : Paired document.tokens.toList document.pairs)
    (within : stop ≤ document.tokens.size) (search : Search) :
    ∃ rounds last, rounds ≤ stop - search.index ∧ Runs document mark stop rounds search last ∧
      last.found = search.outcome document mark stop := by
  -- a round may pass many tokens, so the induction is on how many are left
  induction left : stop - search.index using Nat.strongRecOn generalizing search with
  | ind left' inductionHypothesis =>
      subst left
      by_cases before : search.index < stop
      · obtain ⟨following, shown, forward, same⟩ :=
          @exists_next document mark search stop paired within before
        obtain ⟨rounds, last, bound, runs, outcome⟩ :=
          inductionHypothesis (stop - following.index) (by omega) following rfl
        exact ⟨rounds + 1, last, by omega, .round before shown runs, outcome.trans same⟩
      · have ended := Nat.not_lt.mp before
        exact ⟨0, search, Nat.zero_le _, .rest ended, (outcome_of_ended ended).symm⟩

/-- At any stretch of tokens the search ends.  It finds in order the tokens with the mark that no
bracket opened in the stretch encloses. -/
theorem runs_unenclosed {content : Text} (scanned : Document.ofText content = .ok document)
    (within : stop ≤ document.tokens.size)
    (notOpening : ∀ opening, mark = [opening] → Token.closingMark? opening = none) :
    (∃ rounds last, rounds ≤ stop - start ∧ Runs document mark stop rounds ⟨start, []⟩ last ∧
      last.found = document.topLevel mark start stop) ∧
    (document.topLevel mark start stop).Pairwise (· < ·) ∧
    ∀ index, index ∈ document.topLevel mark start stop ↔
      start ≤ index ∧ index < stop ∧
        (∃ token, document.token? index = some token ∧ token.kind = .punct ∧ token.value = mark) ∧
        ¬ document.IsEnclosed start index := by
  have paired := Document.paired scanned
  refine ⟨exists_runs paired within ⟨start, []⟩,
    (Document.pairwise_topLevelWhere document _ start stop).1, fun index => ?_⟩
  rw [Document.topLevel, Document.mem_topLevelWhere paired within, Document.isOutside_iff paired]
  simp only [Bool.and_eq_true, decide_eq_true_eq]
  constructor
  · intro found
    obtain ⟨behind, before, free, token, here, _, isPunct, isValue⟩ := found
    exact ⟨behind, before, ⟨token, here, isPunct, isValue⟩, free⟩
  · intro found
    obtain ⟨behind, before, ⟨token, here, isPunct, isValue⟩, free⟩ := found
    have notOpener := Token.isOpener_of_value notOpening isValue
    exact ⟨behind, before, free, token, here, notOpener, isPunct, isValue⟩

theorem runs_unenclosed_midway :
    ∃ document, Document.ofText "f(a, [b, c], d), e".toList = .ok document ∧
      7 ≤ document.tokens.size ∧
      (∃ rounds last, rounds ≤ 5 ∧ Runs document [','] 7 rounds ⟨2, []⟩ last ∧
        last.found = [3]) ∧
      ¬ document.IsEnclosed 2 3 ∧ document.IsEnclosed 2 6 := by
  obtain ⟨document, scanned, checked⟩ :=
    @Document.exists_checked "f(a, [b, c], d), e".toList
      (fun document => 7 ≤ document.tokens.size && document.topLevel [','] 2 7 = [3] &&
        (document.token? 6).any fun token => token.kind = .punct && token.value = [','])
      (by decide +kernel)
  simp only [Bool.and_eq_true, decide_eq_true_eq, Option.any_eq_true] at checked
  obtain ⟨⟨within, outcome⟩, isComma⟩ := checked
  have notOpening : ∀ opening, [','] = [opening] → Token.closingMark? opening = none := by
    intro opening same
    cases same
    rfl
  obtain ⟨ends, _, exactly⟩ := @runs_unenclosed document [','] 2 7 _ scanned within notOpening
  rw [outcome] at ends exactly
  refine ⟨document, scanned, within, ends, ((exactly 3).mp (by simp)).2.2.2, ?_⟩
  by_contra free
  have found := (exactly 6).mpr ⟨by decide, by decide, isComma, free⟩
  cases List.mem_singleton.mp found

end Search

end EmbedScaffold
