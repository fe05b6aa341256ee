import EmbedScaffold.Proofs.Registry.Bounds
import EmbedScaffold.Proofs.Registry.Content

/-!
# The entries of a mapping

The commas outside all brackets cut what stands between the braces of a mapping into its entries.
Each token between the braces is such a comma or a part of one entry, and the entries are whole: no
bracket of theirs is closed elsewhere.  There is no mapping where a comma follows the opening brace
or another comma.
-/

namespace EmbedScaffold

open Lexeme

/-! ## Stretches between separators -/

/-- The stretches into which separators cut what stands from `start` up to `closing`.  None of them
is empty, but that before the closing brace may be missing. -/
inductive Cut : (start : Nat) → (separators : List Nat) → (closing : Nat) →
    (ranges : List (Nat × Nat)) → Prop
  | nothing {closing : Nat} : Cut closing [] closing []
  | last {start closing : Nat} : start < closing → Cut start [] closing [(start, closing)]
  | cons {start separator closing : Nat} {separators : List Nat} {ranges : List (Nat × Nat)} :
      start < separator → Cut (separator + 1) separators closing ranges →
      Cut start (separator :: separators) closing ((start, separator) :: ranges)

namespace Cut

variable {start closing : Nat} {separators : List Nat} {ranges : List (Nat × Nat)}

theorem le (cut : Cut start separators closing ranges) : start ≤ closing := by
  induction cut with
  | nothing => exact Nat.le_refl _
  | last order => exact Nat.le_of_lt order
  | cons order _ inductionHypothesis => omega

theorem separator_bounds (cut : Cut start separators closing ranges) :
    ∀ separator ∈ separators, start < separator ∧ separator < closing := by
  induction cut with
  | nothing => simp
  | last => simp
  | cons order behind inductionHypothesis =>
      have further := behind.le
      rintro separator (_ | ⟨_, member⟩)
      · omega
      · have bounds := inductionHypothesis separator member
        omega

theorem range_bounds (cut : Cut start separators closing ranges) :
    ∀ range ∈ ranges, start ≤ range.1 ∧ range.1 < range.2 ∧ range.2 ≤ closing := by
  induction cut with
  | nothing => simp
  | last order => simpa using order
  | cons order behind inductionHypothesis =>
      have further := behind.le
      rintro range (_ | ⟨_, member⟩)
      · dsimp only
        omega
      · have bounds := inductionHypothesis range member
        omega

/-- A stretch begins at the start or behind a separator, and ends before another one or at the
end. -/
theorem sides (cut : Cut start separators closing ranges) : ∀ range ∈ ranges,
    (range.1 = start ∨ ∃ separator ∈ separators, range.1 = separator + 1) ∧
      (range.2 = closing ∨ range.2 ∈ separators) := by
  induction cut with
  | nothing => simp
  | last => simp
  | @cons start separator closing separators ranges order behind inductionHypothesis =>
      rintro range (_ | ⟨_, member⟩)
      · exact ⟨.inl rfl, .inr List.mem_cons_self⟩
      · obtain ⟨left, right⟩ := inductionHypothesis range member
        refine ⟨.inr ?_, right.imp_right (List.mem_cons_of_mem _)⟩
        rcases left with first | ⟨other, among, here⟩
        · exact ⟨separator, List.mem_cons_self, first⟩
        · exact ⟨other, List.mem_cons_of_mem _ among, here⟩

/-- Neighbouring stretches have one separator between them. -/
theorem isChain (cut : Cut start separators closing ranges) :
    ranges.IsChain fun range next => range.2 ∈ separators ∧ next.1 = range.2 + 1 := by
  induction cut with
  | nothing => exact .nil
  | last => exact .singleton _
  | @cons start separator closing separators ranges order behind inductionHypothesis =>
      have onward : ranges.IsChain fun range next =>
          range.2 ∈ separator :: separators ∧ next.1 = range.2 + 1 :=
        inductionHypothesis.imp fun _ _ linked =>
          ⟨List.mem_cons_of_mem separator linked.1, linked.2⟩
      cases behind with
      | nothing => exact .singleton _
      | last => exact .cons_cons ⟨List.mem_cons_self, rfl⟩ onward
      | cons => exact .cons_cons ⟨List.mem_cons_self, rfl⟩ onward

theorem pairwise (cut : Cut start separators closing ranges) :
    ranges.Pairwise fun range next => range.2 < next.1 := by
  induction cut with
  | nothing => exact .nil
  | last => exact List.pairwise_singleton _ _
  | cons order behind inductionHypothesis =>
      exact .cons (fun range member => (behind.range_bounds range member).1) inductionHypothesis

/-- Every index is that of a separator or belongs to one stretch. -/
theorem countP_eq (cut : Cut start separators closing ranges) {index : Nat} (behind : start ≤ index)
    (before : index < closing) :
    ranges.countP (fun range => range.1 ≤ index && index < range.2) =
      if index ∈ separators then 0 else 1 := by
  induction cut with
  | nothing => omega
  | last order => simp [behind, before]
  | @cons start separator closing separators ranges order onward inductionHypothesis =>
      rw [List.countP_cons]
      by_cases later : separator < index
      · have apart : index ≠ separator := by omega
        rw [inductionHypothesis later before]
        simp [apart, show ¬ index < separator by omega]
      · have none : ranges.countP (fun range => range.1 ≤ index && index < range.2) = 0 := by
          rw [List.countP_eq_zero]
          intro range member
          have bounds := onward.range_bounds range member
          simp only [Bool.and_eq_true, decide_eq_true_eq]
          omega
        have absent : index ∉ separators := by
          intro member
          have bounds := onward.separator_bounds index member
          omega
        rw [none]
        rcases Nat.lt_or_eq_of_le (Nat.le_of_not_lt later) with earlier | rfl
        · have apart : index ≠ separator := by omega
          simp [absent, apart, behind, earlier]
        · simp

/-- No separator follows the start or another separator. -/
theorem apart (cut : Cut start separators closing ranges) : ∀ separator ∈ separators,
    separator ≠ start ∧ ∀ other ∈ separators, separator ≠ other + 1 := by
  induction cut with
  | nothing => simp
  | last => simp
  | @cons start first closing separators ranges order behind inductionHypothesis =>
      have bounds := behind.separator_bounds
      rintro separator (_ | ⟨_, member⟩)
      · refine ⟨Nat.ne_of_gt order, ?_⟩
        rintro other (_ | ⟨_, among⟩)
        · omega
        · have further := bounds other among
          omega
      · obtain ⟨notNext, others⟩ := inductionHypothesis separator member
        have further := bounds separator member
        refine ⟨by omega, ?_⟩
        rintro other (_ | ⟨_, among⟩)
        · exact notNext
        · exact others other among

end Cut

/-! ## Separators -/

/-- A comma between the braces that no bracket opened between them encloses. -/
structure Mapping.IsSeparator (document : Document) (brace closing index : Nat) : Prop where
  behind : brace < index
  before : index < closing
  isComma : document.isPunctAt index ',' = true
  outside : document.IsOutside (brace + 1) index

/-- Whether a separator follows the opening brace or another separator. -/
def Mapping.HasGapAt (document : Document) (brace closing index : Nat) : Prop :=
  Mapping.IsSeparator document brace closing index ∧
    (index = brace + 1 ∨ Mapping.IsSeparator document brace closing (index - 1))

/-- Whether a token lies within an entry. -/
def Entry.holds (entry : Entry) (token : Token) : Bool :=
  entry.start ≤ token.start && token.stop ≤ entry.stop

/-- The entry is that of the tokens from `first` up to `stop`, which have brackets of their own. -/
structure Entry.Spans (document : Document) (first stop : Nat) (entry : Entry) : Prop where
  nonempty : first < stop
  starts : (document.token? first).map Token.start = some entry.start
  stops : (document.token? (stop - 1)).map Token.stop = some entry.stop
  value : entry.start ≤ entry.valueStart ∧ entry.valueStart < entry.stop
  nested : WellNested (bracketsOf (document.tokensIn first stop))

/-- The entries of a mapping are a partition of the tokens between its braces, but for the commas
that separate them.  `ranges` has the tokens of each entry, from an index up to another one. -/
structure Mapping.Partitions (document : Document) (mapping : Mapping) (brace closing : Nat)
    (ranges : List (Nat × Nat)) : Prop where
  braces : Braces document brace closing
  opened : (document.token? brace).map Token.start = some mapping.opened
  closed : (document.token? closing).map Token.start = some mapping.closed
  spans : List.Forall₂ (fun range entry => entry.Spans document range.1 range.2) ranges
    mapping.entries
  between : ∀ range ∈ ranges, brace < range.1 ∧ range.2 ≤ closing
  separated : ranges.IsChain fun range next =>
    IsSeparator document brace closing range.2 ∧ next.1 = range.2 + 1
  ordered : mapping.entries.Pairwise fun entry next => entry.stop < next.start
  inside : ∀ entry ∈ mapping.entries, mapping.opened < entry.start ∧ entry.stop ≤ mapping.closed
  covered : ∀ index token, brace < index → index < closing → document.token? index = some token →
    (IsSeparator document brace closing index ∧ mapping.entries.countP (·.holds token) = 0) ∨
      (¬ IsSeparator document brace closing index ∧ mapping.entries.countP (·.holds token) = 1)
  trailing : ∀ offset, mapping.trailingComma = some offset ↔
    IsSeparator document brace closing (closing - 1) ∧
      (document.token? (closing - 1)).map Token.stop = some offset

namespace Mapping

variable {content name : Text} {document : Document} {brace closing index : Nat}

theorem mem_separators (paired : Paired document.tokens.toList document.pairs)
    (within : closing ≤ document.tokens.size) :
    index ∈ document.topLevel [','] (brace + 1) closing ↔
      IsSeparator document brace closing index := by
  rw [Document.topLevel, Document.mem_topLevelWhere paired within]
  constructor
  · rintro ⟨behind, before, outside, token, here, -, isComma⟩
    refine ⟨behind, before, ?_, outside⟩
    rw [Document.isPunctAt, here]
    exact isComma
  · rintro ⟨behind, before, isComma, outside⟩
    obtain ⟨token, here⟩ := document.exists_token (Nat.lt_of_lt_of_le before within)
    rw [Document.isPunctAt, here, Option.map_some, Option.getD_some] at isComma
    refine ⟨behind, before, outside, token, here, ?_, isComma⟩
    rw [Token.isOpener, Token.closing?, mark?_of_isPunct isComma]
    rfl

/-- The entries are cut out at the separators, unless there is a gap between two of them. -/
theorem entriesFrom_cut {start : Nat} {separators : List Nat}
    (sorted : separators.Pairwise (· < ·))
    (inside : ∀ separator ∈ separators, start ≤ separator ∧ separator < closing)
    (order : start ≤ closing) :
    match entriesFrom document name start (separators ++ [closing]) with
    | .ok entries => ∃ ranges, Cut start separators closing ranges ∧
        entries = ranges.map fun range => entryAt document range.1 range.2
    | .error fault => ∃ separator ∈ separators,
        (separator = start ∨ ∃ other ∈ separators, separator = other + 1) ∧
          fault = .emptyEntry name (document.startOf separator) := by
  induction separators generalizing start with
  | nil =>
      rw [List.nil_append, entriesFrom]
      by_cases nonempty : start < closing
      · rw [if_pos nonempty]
        exact ⟨_, .last nonempty, rfl⟩
      · obtain rfl : start = closing := by omega
        rw [if_neg nonempty]
        exact ⟨_, .nothing, rfl⟩
  | cons first separators inductionHypothesis =>
      obtain ⟨⟨behind, before⟩, othersInside⟩ := List.forall_mem_cons.mp inside
      obtain ⟨later, othersSorted⟩ := List.pairwise_cons.mp sorted
      rw [List.cons_append, entriesFrom]
      by_cases nonempty : start < first
      · rw [if_pos nonempty]
        have onward := inductionHypothesis othersSorted
          (fun separator member => ⟨later separator member, (othersInside separator member).2⟩)
          before
        cases read : entriesFrom document name (first + 1) (separators ++ [closing]) with
        | ok entries =>
            rw [read] at onward
            obtain ⟨ranges, cut, rfl⟩ := onward
            exact ⟨_, .cons nonempty cut, rfl⟩
        | error fault =>
            rw [read] at onward
            obtain ⟨separator, member, gap, rfl⟩ := onward
            refine ⟨separator, List.mem_cons_of_mem _ member, .inr ?_, rfl⟩
            rcases gap with next | ⟨other, among, next⟩
            · exact ⟨first, List.mem_cons_self, next⟩
            · exact ⟨other, List.mem_cons_of_mem _ among, next⟩
      · rw [if_neg nonempty]
        exact ⟨first, List.mem_cons_self, .inl (by omega), rfl⟩
      · simp

/-! ## Entries -/

/-- A separator is neither side of a pair of brackets. -/
theorem IsSeparator.apart (isSeparator : IsSeparator document brace closing index)
    (paired : Paired document.tokens.toList document.pairs) {pair : Nat × Nat}
    (among : pair ∈ document.pairs) : pair.1 ≠ index ∧ pair.2 ≠ index := by
  have isComma := isSeparator.isComma
  rw [Document.isPunctAt] at isComma
  cases here : document.token? index with
  | none => rw [here] at isComma; cases isComma
  | some token =>
      rw [here, Option.map_some, Option.getD_some] at isComma
      have noBracket : token.bracket? = none := by
        rw [Token.bracket?, mark?_of_isPunct isComma]
        rfl
      exact document.ne_of_noBracket paired here noBracket among

/-- No pair leaves the tokens between neighbouring separators. -/
theorem whole_of_sides (paired : Paired document.tokens.toList document.pairs)
    (member : (brace, closing) ∈ document.pairs) {first stop : Nat}
    (left : first = brace + 1 ∨
      ∃ separator, IsSeparator document brace closing separator ∧ first = separator + 1)
    (right : stop = closing ∨ IsSeparator document brace closing stop) {pair : Nat × Nat}
    (among : pair ∈ document.pairs) :
    first ≤ pair.1 ∧ pair.1 < stop ↔ first ≤ pair.2 ∧ pair.2 < stop := by
  have behindLeft : brace < first ∧ (brace < pair.1 → pair.1 < first → pair.2 < first) := by
    rcases left with rfl | ⟨separator, isSeparator, rfl⟩
    · omega
    · have behind := isSeparator.behind
      have apart := isSeparator.apart paired among
      have outside := isSeparator.outside pair among
      omega
  have beforeRight : stop ≤ closing ∧
      (brace < pair.1 → pair.2 < closing → pair.1 < stop → pair.2 < stop) := by
    rcases right with rfl | isSeparator
    · exact ⟨Nat.le_refl _, fun _ inside _ => inside⟩
    · exact ⟨Nat.le_of_lt isSeparator.before,
        fun opened _ before => isSeparator.outside pair among opened before⟩
  obtain ⟨order, rfl | placed⟩ := paired.placement member among
  · dsimp only
    omega
  · omega

variable {first stop : Nat}

/-- The value of an entry begins within the entry. -/
theorem valueStart_bounds (scanned : Document.ofText content = .ok document)
    (nonempty : first < stop) (within : stop ≤ document.tokens.size) :
    document.startOf first ≤ (entryAt document first stop).valueStart ∧
      (entryAt document first stop).valueStart < document.stopOf (stop - 1) := by
  have paired := document.paired scanned
  have bounds {index : Nat} (behind : first ≤ index) (before : index < stop) :
      document.startOf first ≤ document.startOf index ∧
        document.startOf index < document.stopOf (stop - 1) := by
    refine ⟨document.startOf_le_startOf scanned behind (by omega), ?_⟩
    exact Nat.lt_of_le_of_lt
      (document.startOf_le_startOf scanned (show index ≤ stop - 1 by omega) (by omega))
      (document.startOf_lt_stopOf scanned (by omega))
  rw [entryAt]
  dsimp only
  split
  · next key colon others _ found =>
      have member : colon ∈ document.topLevel [':'] first stop := by simp [found]
      have inside := (Document.mem_topLevelWhere paired within).mp member
      split
      · next more => exact bounds (by omega) more
      · exact bounds (Nat.le_refl first) nonempty
  · exact bounds (Nat.le_refl first) nonempty

theorem spans_entryAt (scanned : Document.ofText content = .ok document) (nonempty : first < stop)
    (within : stop ≤ document.tokens.size)
    (whole : ∀ pair ∈ document.pairs,
      (first ≤ pair.1 ∧ pair.1 < stop ↔ first ≤ pair.2 ∧ pair.2 < stop)) :
    (entryAt document first stop).Spans document first stop := by
  obtain ⟨head, isHead⟩ := document.exists_token (Nat.lt_of_lt_of_le nonempty within)
  obtain ⟨last, isLast⟩ := document.exists_token (show stop - 1 < document.tokens.size by omega)
  refine ⟨nonempty, ?_, ?_, valueStart_bounds scanned nonempty within,
    document.wellNested_tokensIn (document.paired scanned) within whole⟩
  · rw [isHead, entryAt, document.startOf_eq isHead]
    rfl
  · rw [isLast, entryAt, document.stopOf_eq isLast]
    rfl

/-- The tokens within an entry are those that it was read from. -/
theorem holds_entryAt (scanned : Document.ofText content = .ok document) (nonempty : first < stop)
    (within : stop ≤ document.tokens.size) {token : Token}
    (here : document.token? index = some token) :
    (entryAt document first stop).holds token = (first ≤ index && index < stop) := by
  have inside := document.lt_size here
  rw [Entry.holds, entryAt, ← document.startOf_eq here, ← document.stopOf_eq here, Bool.eq_iff_iff]
  simp only [Bool.and_eq_true, decide_eq_true_eq]
  have positive {other : Nat} (small : other < document.tokens.size) :=
    document.startOf_lt_stopOf scanned small
  constructor
  · rintro ⟨starts, stops⟩
    constructor
    · by_contra before
      have behind := document.stopOf_le_startOf scanned (Nat.lt_of_not_le before) (by omega)
      have further := positive inside
      omega
    · by_contra beyond
      have behind := document.stopOf_le_startOf scanned (show stop - 1 < index by omega) inside
      have further := positive inside
      omega
  · rintro ⟨starts, stops⟩
    refine ⟨document.startOf_le_startOf scanned starts inside, ?_⟩
    rcases Nat.lt_or_eq_of_le (Nat.le_sub_one_of_lt stops) with before | rfl
    · have behind := document.stopOf_le_startOf scanned before (by omega)
      have further := positive (show stop - 1 < document.tokens.size by omega)
      omega
    · exact Nat.le_refl _

section Entries

variable {start : Nat} {separators : List Nat} {ranges : List (Nat × Nat)}

/-- The entries of stretches lie one behind the other, with a separator between them. -/
theorem pairwise_entries (scanned : Document.ofText content = .ok document)
    (within : closing ≤ document.tokens.size) (cut : Cut start separators closing ranges) :
    (ranges.map fun range => entryAt document range.1 range.2).Pairwise fun entry next =>
      entry.stop < next.start := by
  rw [List.pairwise_map]
  refine cut.pairwise.imp_of_mem fun {range next} among later apart => ?_
  have bounds := cut.range_bounds range among
  have beyond := cut.range_bounds next later
  have front := document.stopOf_le_startOf scanned (show range.2 - 1 < range.2 by omega) (by omega)
  have comma := document.startOf_lt_stopOf scanned (show range.2 < document.tokens.size by omega)
  have back := document.stopOf_le_startOf scanned apart (by omega)
  simp only [entryAt]
  omega

/-- The entries of the stretches between two tokens lie between these. -/
theorem entries_between (scanned : Document.ofText content = .ok document)
    (inside : closing < document.tokens.size) (cut : Cut (brace + 1) separators closing ranges) :
    ∀ entry ∈ ranges.map fun range => entryAt document range.1 range.2,
      document.startOf brace < entry.start ∧ entry.stop ≤ document.startOf closing := by
  intro entry among
  obtain ⟨range, isRange, rfl⟩ := List.mem_map.mp among
  have bounds := cut.range_bounds range isRange
  have order := cut.le
  have opened := document.startOf_lt_stopOf scanned (show brace < document.tokens.size by omega)
  have front := document.stopOf_le_startOf scanned (Nat.lt_of_succ_le bounds.1) (by omega)
  have back := document.stopOf_le_startOf scanned (show range.2 - 1 < closing by omega) inside
  simp only [entryAt]
  omega

/-- Every token that is no separator lies within one entry. -/
theorem countP_holds (scanned : Document.ofText content = .ok document)
    (within : closing ≤ document.tokens.size) (cut : Cut start separators closing ranges)
    {token : Token} (here : document.token? index = some token) (behind : start ≤ index)
    (before : index < closing) :
    (ranges.map fun range => entryAt document range.1 range.2).countP (·.holds token) =
      if index ∈ separators then 0 else 1 := by
  rw [List.countP_map, ← cut.countP_eq behind before]
  refine List.countP_congr fun range among => ?_
  have bounds := cut.range_bounds range among
  rw [Function.comp_apply, holds_entryAt scanned bounds.2.1 (by omega) here]

end Entries

/-! ## Mappings -/

theorem trailingComma?_eq_some_iff {separators : List Nat} (sorted : separators.Pairwise (· < ·))
    (before : ∀ separator ∈ separators, separator < closing) (offset : Nat) :
    trailingComma? document closing separators = some offset ↔
      closing - 1 ∈ separators ∧ document.stopOf (closing - 1) = offset := by
  rcases List.eq_nil_or_concat separators with rfl | ⟨front, last, rfl⟩
  · simp [trailingComma?]
  · rw [List.concat_eq_append] at sorted before ⊢
    have isLast := before last (by simp)
    rw [trailingComma?, List.getLast?_concat]
    dsimp only
    split
    · next adjacent =>
        obtain rfl : last = closing - 1 := by omega
        simp
    · next apart =>
        have absent : closing - 1 ∉ front ++ [last] := by
          intro member
          rcases List.mem_append.mp member with inFront | isSame
          · have order := (List.pairwise_append.mp sorted).2.2 _ inFront last (by simp)
            omega
          · rw [List.mem_singleton] at isSame
            omega
        simp [absent]

theorem partitions_of_cut {ranges : List (Nat × Nat)}
    (scanned : Document.ofText content = .ok document) (braces : Braces document brace closing)
    (cut : Cut (brace + 1) (document.topLevel [','] (brace + 1) closing) closing ranges) :
    Partitions document
      ⟨document.startOf brace, document.startOf closing,
        ranges.map fun range => entryAt document range.1 range.2,
        trailingComma? document closing (document.topLevel [','] (brace + 1) closing)⟩
      brace closing ranges := by
  have paired := document.paired scanned
  obtain ⟨member, ⟨opener, isOpener, -⟩, closer, isCloser, -⟩ := id braces
  have inside := document.lt_size isCloser
  have within := Nat.le_of_lt inside
  have order := paired.lt member
  have sides : ∀ range ∈ ranges,
      (range.1 = brace + 1 ∨ ∃ separator,
        IsSeparator document brace closing separator ∧ range.1 = separator + 1) ∧
      (range.2 = closing ∨ IsSeparator document brace closing range.2) := by
    intro range among
    simpa only [mem_separators paired within] using cut.sides range among
  refine
    { braces := braces
      opened := by rw [isOpener, document.startOf_eq isOpener]; rfl
      closed := by rw [isCloser, document.startOf_eq isCloser]; rfl
      between := fun range among =>
        ⟨(cut.range_bounds range among).1, (cut.range_bounds range among).2.2⟩
      spans := ?spans
      separated := ?separated
      ordered := pairwise_entries scanned within cut
      inside := entries_between scanned inside cut
      covered := ?covered
      trailing := ?trailing }
  case spans =>
    rw [List.forall₂_map_right_iff]
    refine List.forall₂_same.mpr fun range among => ?_
    obtain ⟨left, right⟩ := sides range among
    have bounds := cut.range_bounds range among
    exact spans_entryAt scanned bounds.2.1 (by omega) fun pair other =>
      whole_of_sides paired member left right other
  case separated =>
    exact cut.isChain.imp fun _ _ linked => ⟨(mem_separators paired within).mp linked.1, linked.2⟩
  case covered =>
    intro index token behind before here
    have counted := countP_holds scanned within cut here behind before
    rw [← mem_separators paired within]
    by_cases isSeparator : index ∈ document.topLevel [','] (brace + 1) closing
    · exact .inl ⟨isSeparator, counted.trans (if_pos isSeparator)⟩
    · exact .inr ⟨isSeparator, counted.trans (if_neg isSeparator)⟩
  case trailing =>
    intro offset
    obtain ⟨last, isLast⟩ := document.exists_token (show closing - 1 < document.tokens.size by omega)
    rw [isLast, Option.map_some, Option.some.injEq, ← document.stopOf_eq isLast,
      ← mem_separators paired within]
    exact trailingComma?_eq_some_iff (document.pairwise_topLevelWhere _ _ _).1
      (fun separator among => (cut.separator_bounds separator among).2) offset

/-- A mapping is read from its brace if no separator follows the brace or another separator. -/
theorem ofBrace_partitions (scanned : Document.ofText content = .ok document)
    (braces : Braces document brace closing) (name : Text) :
    match ofBrace document name brace with
    | .ok mapping => (∃ ranges, mapping.Partitions document brace closing ranges) ∧
        ∀ index, ¬ HasGapAt document brace closing index
    | .error fault => ∃ index token, HasGapAt document brace closing index ∧
        document.token? index = some token ∧ fault = .emptyEntry name token.start := by
  have paired := document.paired scanned
  obtain ⟨closer, isCloser, -⟩ := braces.closer
  have within := Nat.le_of_lt (document.lt_size isCloser)
  have sorted : (document.topLevel [','] (brace + 1) closing).Pairwise (· < ·) :=
    (document.pairwise_topLevelWhere _ _ _).1
  have outcome := @entriesFrom_cut name document closing _ _ sorted
    (fun separator among => by
      have isSeparator := (mem_separators paired within).mp among
      exact ⟨isSeparator.behind, isSeparator.before⟩) (paired.lt braces.paired)
  rw [ofBrace_eq paired braces.paired]
  cases entries : entriesFrom document name (brace + 1)
      (document.topLevel [','] (brace + 1) closing ++ [closing]) with
  | ok found =>
      rw [entries] at outcome
      obtain ⟨ranges, cut, rfl⟩ := outcome
      refine ⟨⟨ranges, partitions_of_cut scanned braces cut⟩, ?_⟩
      rintro index ⟨isSeparator, gap⟩
      obtain ⟨notFirst, apart⟩ := cut.apart index ((mem_separators paired within).mpr isSeparator)
      rcases gap with first | previous
      · exact notFirst first
      · have behind := previous.behind
        exact apart _ ((mem_separators paired within).mpr previous) (by omega)
  | error fault =>
      rw [entries] at outcome
      obtain ⟨index, among, gap, rfl⟩ := outcome
      have isSeparator := (mem_separators paired within).mp among
      obtain ⟨token, here⟩ :=
        document.exists_token (Nat.lt_of_lt_of_le isSeparator.before within)
      refine ⟨index, token, ⟨isSeparator, ?_⟩, here, by rw [document.startOf_eq here]⟩
      rcases gap with first | ⟨other, inside, next⟩
      · exact .inl first
      · rw [next, Nat.add_sub_cancel]
        exact .inr ((mem_separators paired within).mp inside)

/-- In an accepted document a mapping is read without an index that is out of range.  Its entries
are a partition of what stands between its braces, unless a separator follows the opening brace or
another separator: there, and only there, reading fails. -/
theorem find?_partitions (scanned : Document.ofText content = .ok document) (name : Text) :
    findWithin? document name = some (find? document name) ∧
      match find? document name with
      | .ok none => braceFrom? name 0 none document.tokens.toList = none
      | .ok (some mapping) => ∃ brace closing ranges,
          braceFrom? name 0 none document.tokens.toList = some brace ∧
            mapping.Partitions document brace closing ranges ∧
            ∀ index, ¬ HasGapAt document brace closing index
      | .error fault => ∃ brace closing index token,
          braceFrom? name 0 none document.tokens.toList = some brace ∧
            Braces document brace closing ∧ HasGapAt document brace closing index ∧
            document.token? index = some token ∧ fault = .emptyEntry name token.start := by
  have paired := document.paired scanned
  refine ⟨findWithin?_eq paired name, ?_⟩
  cases located : braceFrom? name 0 none document.tokens.toList with
  | none => simp only [find?, located]
  | some brace =>
      obtain ⟨closing, braces⟩ := exists_braces paired located
      have outcome := ofBrace_partitions scanned braces name
      simp only [find?, located]
      cases read : ofBrace document name brace with
      | ok mapping =>
          rw [read] at outcome
          obtain ⟨⟨ranges, partitions⟩, noGap⟩ := outcome
          exact ⟨brace, closing, ranges, rfl, partitions, noGap⟩
      | error fault =>
          rw [read] at outcome
          obtain ⟨index, token, gap, here, faultIs⟩ := outcome
          exact ⟨brace, closing, index, token, rfl, braces, gap, here, faultIs⟩

theorem find?_partitions_trailing :
    ∃ document mapping brace closing ranges,
      Document.ofText "const m = \x7b a: [1, 2], ...b, \x7d;".toList = .ok document ∧
        find? document ['m'] = .ok (some mapping) ∧
        mapping.Partitions document brace closing ranges ∧ ranges.length = 2 ∧
        mapping.trailingComma = some 28 := by
  obtain ⟨document, mapping, scanned, found, checked⟩ :=
    @exists_located "const m = \x7b a: [1, 2], ...b, \x7d;".toList ['m']
      (fun _ mapping => mapping.entries.length = 2 && mapping.trailingComma = some 28)
      (by decide +kernel)
  have outcome := (find?_partitions scanned ['m']).2
  rw [found] at outcome
  obtain ⟨brace, closing, ranges, -, partitions, -⟩ := outcome
  rw [Bool.and_eq_true, decide_eq_true_eq, decide_eq_true_eq] at checked
  exact ⟨document, mapping, brace, closing, ranges, scanned, found, partitions,
    partitions.spans.length_eq.trans checked.1, checked.2⟩

end Mapping

end EmbedScaffold
