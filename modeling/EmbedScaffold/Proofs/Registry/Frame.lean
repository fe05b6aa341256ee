import EmbedScaffold.Proofs.Registry.Content
import EmbedScaffold.Proofs.Registry.HeaderLine

/-!
# The text around a mapping

Whatever the value is, an upsert into a mapping that a document has keeps the text up to its opening
brace and from its closing brace on, if the header line is there already.
-/

namespace EmbedScaffold

open Text Scan Lexeme

/-- A splice within some bounds keeps what is outside of them. -/
theorem Text.exists_splice_within {lower start stop upper : Nat} (low : lower ≤ start)
    (high : stop ≤ upper) (content inserted : Text) :
    ∃ inner, splice content start stop inserted =
      content.take lower ++ (inner ++ content.drop upper) := by
  have front : content.take start = content.take lower ++ (content.take start).drop lower := by
    have cut := List.take_append_drop lower (content.take start)
    rw [List.take_take, Nat.min_eq_left low] at cut
    exact cut.symm
  have back : content.drop stop = (content.drop stop).take (upper - stop) ++ content.drop upper := by
    have cut := List.take_append_drop (upper - stop) (content.drop stop)
    rw [List.drop_drop, Nat.add_sub_cancel' high] at cut
    exact cut.symm
  refine ⟨(content.take start).drop lower ++ (inserted ++ (content.drop stop).take (upper - stop)),
    ?_⟩
  rw [splice]
  nth_rewrite 1 [front]
  nth_rewrite 1 [back]
  simp only [List.append_assoc]

namespace Layout

open Cell

variable {name : Text} {layout : Layout}

/-- All text in front of the closing brace and its gap begins with the opening brace. -/
theorem Sound.opened_lt (sound : layout.Sound name) :
    layout.mapping.opened + 1 ≤ layout.upToClosing.length := by
  obtain ⟨first, others, shape, isBrace, -⟩ := sound.exists_first
  have brace : first.mark.text.length = first.mark.gap.length + 1 := by
    rw [Lexeme.text_length, ((Lexeme.isPunct_iff _ _).mp isBrace).2]
    rfl
  have opened : layout.mapping.opened = (textOf layout.lead).length + first.mark.gap.length := by
    rw [mapping, shape]
    rfl
  rw [opened, upToClosing, allCells, shape]
  simp only [textOf_append, List.length_append, List.cons_append, lexemesOf_cons, textOf_cons,
    brace]
  omega

theorem Sound.exists_appendEntry (sound : layout.Sound name) (key value : Text) :
    ∃ inner, Mapping.appendEntry layout.content layout.mapping key value =
      layout.content.take (layout.mapping.opened + 1) ++
        (inner ++ layout.content.drop layout.mapping.closed) := by
  have opened := sound.opened_lt
  have closed : layout.upToClosing.length ≤ layout.mapping.closed := Nat.le_add_right _ _
  rw [Mapping.appendEntry]
  dsimp only
  split
  · exact exists_splice_within (Nat.le_refl _) (Nat.le_refl _) _ _
  · next last offset isLast trailing =>
      -- The entry goes behind the trailing comma.
      obtain ⟨mark, -, rfl⟩ := Option.map_eq_some_iff.mp trailing
      exact exists_splice_within opened closed _ _
  · next last isLast trailing =>
      have noComma : layout.trailing = none := Option.map_eq_none_iff.mp trailing
      have full : ∀ cell ∈ layout.cells, cell.body ≠ [] := by
        apply sound.full_of_notAlone
        intro brace alone
        rw [mapping, alone] at isLast
        cases isLast
      obtain ⟨found, isFound, stop⟩ :=
        entriesFrom_getLast? (textOf layout.lead).length sound.cells_ne_nil full
      have last_stop : last.stop = layout.upToClosing.length := by
        rw [upToClosing_bare noComma rfl, textOf_append, List.length_append, ← stop]
        exact congrArg Entry.stop (Option.some.inj (isLast.symm.trans isFound))
      rw [last_stop]
      exact exists_splice_within opened closed _ _

theorem Sound.exists_upsert (sound : layout.Sound name) (key value : Text) :
    ∃ inner, layout.mapping.upsert layout.content key value =
      layout.content.take (layout.mapping.opened + 1) ++
        (inner ++ layout.content.drop layout.mapping.closed) := by
  rcases exists_key key layout.cells with fresh | ⟨front, cell, back, shape, fresh, hasKey⟩
  · rw [Mapping.upsert, entriesFromKey_none fresh]
    exact sound.exists_appendEntry key value
  · have filled := body_ne_nil hasKey
    have full : ∀ other ∈ back, other.body ≠ [] :=
      fun other member => sound.full (by simp [shape]) filled other (by simp [shape, member])
    have found := entriesFromKey_eq shape fresh hasKey
    rw [sound.take_opened, layout.drop_closed, Mapping.upsert, found, content_cell shape]
    dsimp only
    rw [replaceEntry_eq (sound.legible cell (by simp [shape])) filled full]
    -- The opening brace is the mark of the first cell, which the replacement keeps.
    obtain ⟨between, upToEntry⟩ : ∃ between,
        textOf (layout.lead ++ lexemesOf front) ++ cell.upToBody = layout.upToBrace ++ between := by
      rw [upToBrace, shape]
      cases front with
      | nil => exact ⟨firstGap cell.body, by simp [upToBody, lexemesOf]⟩
      | cons first others =>
          exact ⟨textOf (first.body ++ lexemesOf others) ++ cell.upToBody, by simp⟩
    have fromEntry : layout.behind =
        textOf (lexemesOf (layout.trailing.toList.map bare)) ++ layout.closing.gap ++
          layout.fromClosing := by
      rw [behind, tail, fromClosing]
      simp [Lexeme.text]
    rw [← List.append_assoc, upToEntry, fromEntry]
    generalize Mapping.entryText key value _ = entry
    refine ⟨between ++ (entry ++ (textOf (lexemesOf (without key back)) ++
      (textOf (lexemesOf (layout.trailing.toList.map bare)) ++ layout.closing.gap))), ?_⟩
    simp only [List.append_assoc]

end Layout

section Document

variable {content : Text} {wanted : EntryUpsert} {document : Document} {mapping : Mapping}

/-- The braces of a mapping cut the text in which it is found. -/
theorem Mapping.exists_between {name : Text} (scannedText : Document.ofText content = .ok document)
    (found : Mapping.find? document name = .ok (some mapping)) :
    ∃ inner, content =
      content.take (mapping.opened + 1) ++ (inner ++ content.drop mapping.closed) := by
  obtain ⟨layout, sound, rfl, rfl, -⟩ := Layout.exists_sound scannedText found
  have bounds : layout.mapping.opened + 1 ≤ layout.mapping.closed :=
    Nat.le_trans sound.opened_lt (Nat.le_add_right _ _)
  obtain ⟨inner, cut⟩ := exists_splice_within (Nat.le_refl _) bounds layout.content []
  refine ⟨inner, ?_⟩
  rw [← cut, splice, List.append_nil, List.take_append_drop]

/-- With its header line present, an upsert edits the mapping that is found in the document. -/
theorem upsertEntry_headed
    (present : ∀ line ∈ wanted.headerLine, Header.hasLine content line = true)
    (scannedText : Document.ofText content = .ok document)
    (found : Mapping.find? document wanted.mapping = .ok (some mapping)) :
    upsertEntry content wanted =
      .ok (Outcome.ofTexts content (mapping.upsert content wanted.key wanted.value)) := by
  have read := Document.forEdit_ok scannedText
  cases header : wanted.headerLine with
  | none => exact upsertEntry_found header scannedText found
  | some line =>
      have headed := ensureHeaderLine_of_hasLine (present line header)
      simp only [upsertEntry, header, read, headed, found, bind, Except.bind, pure, Except.pure]

/-- With its header line present, an upsert into a mapping that the document has keeps the text
around the braces. -/
theorem exists_upsertEntry
    (present : ∀ line ∈ wanted.headerLine, Header.hasLine content line = true)
    (scannedText : Document.ofText content = .ok document)
    (found : Mapping.find? document wanted.mapping = .ok (some mapping)) :
    ∃ outcome inner, upsertEntry content wanted = .ok outcome ∧
      outcome.content =
        content.take (mapping.opened + 1) ++ (inner ++ content.drop mapping.closed) := by
  have upserts := upsertEntry_headed present scannedText found
  obtain ⟨layout, sound, rfl, rfl, -⟩ := Layout.exists_sound scannedText found
  obtain ⟨inner, keeps⟩ := sound.exists_upsert wanted.key wanted.value
  exact ⟨_, inner, upserts, keeps⟩

end Document

end EmbedScaffold
