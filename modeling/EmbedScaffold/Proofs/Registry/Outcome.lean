import EmbedScaffold.Markup.Playground
import EmbedScaffold.Proofs.Site.Tree
import EmbedScaffold.Proofs.Text.Line
import EmbedScaffold.Registry.Switch

/-!
# What outcomes tell

An outcome is exact if it tells of a change just where its text is another one.  Most edits compare
the two texts.  A clause and a prelude that are inserted are told without a comparison: a clause is
never blank, and a prelude must not be.
-/

namespace EmbedScaffold

open Text

/-! ## Texts that are inserted -/

section Inserted

variable {content inserted : Text} {start stop : Nat}

/-- A splice gives the text before only if it inserts what stood there. -/
theorem Text.eq_slice_of_splice (same : splice content start stop inserted = content) :
    inserted = slice content start stop := by
  rcases Nat.lt_or_ge stop start with crossed | ordered
  · have lengths := congrArg List.length same
    simp only [splice, List.length_append, List.length_take, List.length_drop] at lengths
    have none : inserted = [] := List.length_eq_zero_iff.mp (by omega)
    rw [none, slice, List.drop_eq_nil_of_le]
    rw [List.length_take]
    omega
  · have parts :
        content = content.take start ++ (slice content start stop ++ content.drop stop) := by
      have front : content.take start = (content.take stop).take start := by
        rw [List.take_take, Nat.min_eq_left ordered]
      rw [front, slice, ← List.append_assoc, List.take_append_drop, List.take_append_drop]
    rw [splice, List.append_assoc] at same
    exact List.append_cancel_right (List.append_cancel_left (same.trans parts))

theorem Text.slice_self (content : Text) (offset : Nat) : slice content offset offset = [] :=
  List.drop_eq_nil_of_le (List.length_take_le _ _)

/-- Between two offsets that meet, everything that is inserted is new. -/
theorem Text.splice_self_ne (nonempty : inserted ≠ []) :
    splice content start start inserted ≠ content := fun same =>
  nonempty ((eq_slice_of_splice same).trans (slice_self content start))

theorem Text.isBlankText_trimBoth (content : Text) :
    isBlankText (trimBoth isLineFeed content) = isBlankText content := by
  have feeds {tail : Text} (areFeeds : tail.all isLineFeed = true) : isBlankText tail = true := by
    refine List.all_eq_true.mpr fun tested member => ?_
    obtain rfl : tested = '\n' := by
      simpa [isLineFeed] using List.all_eq_true.mp areFeeds tested member
    rfl
  obtain ⟨tail, areFeeds, split⟩ := trimEnd_append_tail isLineFeed (trimStart isLineFeed content)
  have front : isBlankText (content.takeWhile isLineFeed) = true := feeds List.all_takeWhile
  have whole : content = content.takeWhile isLineFeed ++
      (trimEnd isLineFeed (trimStart isLineFeed content) ++ tail) := by
    rw [← split, trimStart, List.takeWhile_append_dropWhile]
  conv_rhs => rw [whole]
  rw [isBlankText_append, isBlankText_append, front, feeds areFeeds, Bool.true_and, Bool.and_true,
    trimBoth]

end Inserted

/-! ## Edits -/

/-- Whether an outcome tells of a change exactly if its text is another one. -/
def Outcome.IsExact (before : Text) (outcome : Outcome) : Prop :=
  outcome.changed = true ↔ outcome.content ≠ before

theorem Outcome.isExact_ofTexts (before after : Text) : (ofTexts before after).IsExact before :=
  decide_eq_true_iff

variable {content : Text} {outcome : Outcome}

theorem isExact_upsertEntry {wanted : EntryUpsert}
    (upserts : upsertEntry content wanted = .ok outcome) : outcome.IsExact content := by
  have texts : ∃ after, outcome = Outcome.ofTexts content after := by
    obtain ⟨-, -, upserts⟩ := exists_of_bind upserts
    dsimp only at upserts
    -- With and without a header line the rest is the same.
    split at upserts <;>
    · obtain ⟨headed, -, upserts⟩ := exists_of_bind upserts
      obtain ⟨document, -, upserts⟩ := exists_of_bind upserts
      obtain ⟨found, -, upserts⟩ := exists_of_bind upserts
      cases found with
      | some mapping => exact ⟨_, (Except.ok.inj upserts).symm⟩
      | none =>
          dsimp only at upserts
          split_ifs at upserts
          exact ⟨_, (Except.ok.inj upserts).symm⟩
  obtain ⟨after, rfl⟩ := texts
  exact Outcome.isExact_ofTexts content after

theorem Header.length_le_endLine (content : Text) : content.length ≤ (endLine content).length := by
  rw [endLine]
  split_ifs <;> simp

/-- A prelude that is put into a document changes it, unless the prelude is blank. -/
theorem isExact_ensurePrelude {marker prelude : Text} (solid : isBlankText prelude = false)
    (ensures : ensurePrelude content marker prelude = .ok outcome) : outcome.IsExact content := by
  obtain ⟨document, -, ensures⟩ := exists_of_bind ensures
  split at ensures
  · obtain rfl := Except.ok.inj ensures
    exact iff_of_false Bool.false_ne_true (not_not_intro rfl)
  · obtain ⟨point, -, ensures⟩ := exists_of_bind ensures
    cases point with
    | none =>
        obtain rfl := Except.ok.inj ensures
        refine iff_of_true rfl fun same => ?_
        dsimp only at same
        split at same
        · next blank =>
            -- A document of blanks is replaced, so its length does not tell it from the prelude.
            rw [← same, isBlankText_append, isBlankText_append, isBlankText_trimBoth, solid]
              at blank
            cases blank
        · have lengths := congrArg List.length same
          simp only [List.length_append, List.length_cons] at lengths
          omega
    | some point =>
        obtain rfl := Except.ok.inj ensures
        refine iff_of_true rfl fun same => ?_
        have front := Header.length_le_endLine (content.take point.1)
        have lengths := congrArg List.length same
        simp only [List.length_append, List.length_cons, List.length_drop, List.length_take]
          at lengths front
        omega

namespace Switch

theorem isBlankText_clauseText (key body indent : Text) :
    isBlankText (clauseText key body indent) = false := by
  have word : isBlankText "case ".toList = false := by decide
  delta clauseText
  simp only [List.append_assoc]
  rw [isBlankText_append, word, Bool.false_and]

/-- A clause that is inserted changes the document. -/
theorem insertClause_ne (content : Text) (existing : List Clause) (opened closed : Nat)
    (indent : Text) {clause : Text} (solid : isBlankText clause = false) :
    insertClause content existing opened closed indent clause ≠ content := by
  have nonempty : clause ≠ [] := by
    rintro rfl
    cases solid
  rw [insertClause]
  split
  · exact splice_self_ne (by simp)
  · exact splice_self_ne (by simp)
  · intro same
    obtain ⟨blanks, areBlank, parts⟩ :=
      trimEnd_append_tail isBlank (slice content (opened + 1) closed)
    have inside := (eq_slice_of_splice same).trans parts
    simp only [List.append_assoc] at inside
    have behind : isBlankText _ = true :=
      (congrArg isBlankText (List.append_cancel_left inside)).trans areBlank
    rw [isBlankText_append, isBlankText_append, isBlankText_append, solid] at behind
    simp at behind

end Switch

theorem isExact_upsertCase {wanted : CaseUpsert}
    (upserts : upsertCase content wanted = .ok (some outcome)) : outcome.IsExact content := by
  obtain ⟨document, -, upserts⟩ := exists_of_bind upserts
  split at upserts
  · cases upserts
  · split at upserts
    · cases upserts
    · dsimp only at upserts
      split at upserts
      · obtain rfl := Option.some.inj (Except.ok.inj upserts)
        exact iff_of_true rfl <|
          Switch.insertClause_ne _ _ _ _ _ (Switch.isBlankText_clauseText _ _ _)
      · obtain rfl := Option.some.inj (Except.ok.inj upserts)
        exact Outcome.isExact_ofTexts content _
      · cases upserts

theorem isExact_patchPlayground {importLine tag : Text}
    (patches : Markup.patchPlayground content importLine tag = .ok outcome) :
    outcome.IsExact content := by
  obtain ⟨imported, -, patches⟩ := exists_of_bind patches
  obtain rfl := Except.ok.inj patches
  exact Outcome.isExact_ofTexts content _

end EmbedScaffold
