import EmbedScaffold.Proofs.Literal.Rendered
import EmbedScaffold.Proofs.Text.Shifted

/-!
# Literals at different levels

A literal is indented in two ways: it is rendered for a level, or it is rendered for the outermost
level and reindented where it is spliced in.  Both give the same text, as long as its expressions
and the names of its members are on a single line.
-/

namespace EmbedScaffold

open Text

/-! ## Texts of a single line -/

theorem sameLine_of_isBare {content : Text} (bare : content.all isBare = true) :
    '\n' ∉ content := fun member => by
  have feed : isBare '\n' = true := List.all_eq_true.mp bare '\n' member
  revert feed
  decide

theorem sameLine_propertyKey {key : Text} (sameLine : '\n' ∉ key) : '\n' ∉ propertyKey key := by
  rw [propertyKey]
  split_ifs
  · exact sameLine
  · simp only [singleQuoted, escapeQuoted, List.cons_append, List.mem_cons, List.mem_append,
      List.mem_flatMap, List.not_mem_nil, or_false, not_or, not_exists, not_and]
    refine ⟨by decide, fun letter among => ?_, by decide⟩
    have different : '\n' ≠ letter := fun same => sameLine (same ▸ among)
    split_ifs <;> simp [different]

namespace Literal

theorem sameLine_quotedString (content : Text) : '\n' ∉ quotedString content := by
  simp only [quotedString, List.cons_append, List.mem_cons, List.mem_append, List.mem_flatMap,
    List.not_mem_nil, or_false, not_or, not_exists, not_and]
  refine ⟨by decide, fun letter _ => ?_, by decide⟩
  rw [escapeChar]
  split_ifs with slash quote feed
  all_goals first | decide | simpa using Ne.symm feed

theorem sameLine_join {separator : Text} {items : List Text} (gap : '\n' ∉ separator)
    (each : ∀ item ∈ items, '\n' ∉ item) : '\n' ∉ Text.join separator items := by
  induction items with
  | nil => exact List.not_mem_nil
  | cons first rest inductionHypothesis =>
      obtain ⟨here, behind⟩ := List.forall_mem_cons.mp each
      cases rest with
      | nil => exact here
      | cons next others =>
          rw [join_cons_cons]
          simp [here, gap, inductionHypothesis behind]

/-! ## Indentations -/

theorem sameLine_indentOf (level : Int) : '\n' ∉ indentOf level := by
  simp [indentOf, copies, indentStep]

theorem copies_add (left right : Nat) (content : Text) :
    copies (left + right) content = copies left content ++ copies right content := by
  rw [copies, List.replicate_add, List.flatten_append]
  rfl

/-- Levels add up, the outer one in front. -/
theorem indentOf_add (base level : Nat) :
    copies level indentStep ++ indentOf base = indentOf (base + level : Nat) := by
  rw [indentOf, indentOf, Int.toNat_natCast, Int.toNat_natCast, ← copies_add, Nat.add_comm]

/-! ## Lines of items -/

/-- Items on lines of their own, with the mark behind them on the last line. -/
def column (level : Int) (items : List Text) (mark : Char) : Text :=
  items.flatMap (memberLine level) ++ indentOf level ++ [mark]

section Column

variable {mark : Char} {items : List Text}

theorem column_cons (level : Int) (first : Text) (rest : List Text) (mark : Char) :
    column level (first :: rest) mark =
      indentOf (level + 1) ++ first ++ [','] ++ '\n' :: column level rest mark := by
  simp [column, memberLine]

theorem isDense_column (level : Int) (solid : isBlank mark = false)
    (each : ∀ item ∈ items, IsFirm item) : isDense (column level items mark) = true := by
  induction items with
  | nil =>
      have feed : '\n' ≠ mark := by
        rintro rfl
        exact absurd solid (by decide)
      refine isDense_of_notMem (by simp [column, sameLine_indentOf, feed]) ?_
      simp [column, isBlankText, solid]
  | cons first rest inductionHypothesis =>
      obtain ⟨here, behind⟩ := List.forall_mem_cons.mp each
      have comma : '\n' ∉ [','] := by decide
      have line := here.isDense_between (sameLine_indentOf (level + 1)) comma (by decide)
      rw [column_cons, isDense_append_feed, line, inductionHypothesis behind]
      rfl

/-- The lines of items are shifted as a whole. -/
theorem shifted_column (base level : Nat) (feed : mark ≠ '\n') :
    copies level indentStep ++ shifted (copies level indentStep) (column base items mark) =
      column (base + level : Nat) (items.map (shifted (copies level indentStep))) mark := by
  induction items with
  | nil =>
      have line : '\n' ∉ column base [] mark := by simp [column, sameLine_indentOf, Ne.symm feed]
      rw [shifted_of_notMem _ line, List.map_nil, column, column, ← indentOf_add]
      simp only [List.flatMap_nil, List.nil_append, List.append_assoc]
  | cons first rest inductionHypothesis =>
      have deeper : ((base + level : Nat) : Int) + 1 = ((base + 1) + level : Nat) := by omega
      have inner := indentOf_add (base + 1) level
      rw [List.map_cons, column_cons, column_cons, ← inductionHypothesis, deeper, ← inner,
        shifted_append, shifted_append, shifted_append, shifted_cons_feed,
        shifted_of_notMem _ (sameLine_indentOf _),
        shifted_of_notMem _ (show '\n' ∉ [','] by decide)]
      simp only [List.append_assoc, Nat.cast_add, Nat.cast_one]

end Column

/-! ## Levels -/

mutual

/-- Whether a literal holds no byte string, and its expressions and the names of its members are on
a single line. -/
def isLined : Literal → Bool
  | .expression content => ! content.contains '\n'
  | .bytes _ => false
  | .sequence _ items => areLinedItems items
  | .object members => areLinedMembers members
  | _ => true

def areLinedItems : List Literal → Bool
  | [] => true
  | first :: rest => isLined first && areLinedItems rest

def areLinedMembers : List (Text × Literal) → Bool
  | [] => true
  | (key, value) :: rest => ! key.contains '\n' && isLined value && areLinedMembers rest

end

/-- A literal that is written alike at every level, on a single line. -/
theorem exists_line {literal : Literal} {content : Text} (base : Nat)
    (alike : ∀ level, literal.render level = .ok content) (sameLine : '\n' ∉ content) :
    ∃ content, IsFirm content ∧ (literal.isAtom = true → '\n' ∉ content) ∧ ∀ level : Nat,
      literal.render (base + level : Nat) = .ok (shifted (copies level indentStep) content) :=
  ⟨content, .inl sameLine, fun _ => sameLine, fun level => by
    rw [alike, shifted_of_notMem _ sameLine]⟩

/-- Behind an opening bracket on a line of its own, a column is shifted as a whole. -/
theorem shifted_opened (base level : Nat) {opening mark : Char} {items : List Text}
    (openingFeed : opening ≠ '\n') (feed : mark ≠ '\n') :
    shifted (copies level indentStep) (opening :: '\n' :: column base items mark) =
      opening :: '\n' ::
        column (base + level : Nat) (items.map (shifted (copies level indentStep))) mark := by
  rw [shifted_cons_of_ne _ _ openingFeed, shifted_cons_feed, shifted_column base level feed]

theorem isFirm_opened (base : Nat) {opening mark : Char} {items : List Text}
    (openingSolid : isBlank opening = false) (solid : isBlank mark = false)
    (each : ∀ item ∈ items, IsFirm item) :
    IsFirm (opening :: '\n' :: column base items mark) := by
  have feed : '\n' ≠ opening := by
    rintro rfl
    exact absurd openingSolid (by decide)
  have line : isDense [opening] = true :=
    isDense_of_notMem (by simp [feed]) (by simp [isBlankText, openingSolid])
  have dense := isDense_append_feed [opening] (column base items mark)
  rw [line, isDense_column base solid each] at dense
  exact .inr dense

mutual

/-- A lined literal is firm, an atom on a single line, and shifted from level to level. -/
theorem exists_render_shifted (literal : Literal) (base : Nat) (lined : literal.isLined = true) :
    ∃ content, IsFirm content ∧ (literal.isAtom = true → '\n' ∉ content) ∧ ∀ level : Nat,
      literal.render (base + level : Nat) = .ok (shifted (copies level indentStep) content) := by
  match literal with
  | .null => exact exists_line base (fun _ => rfl) (by decide)
  | .boolean value => cases value <;> exact exists_line base (fun _ => rfl) (by decide)
  | .integer value =>
      exact exists_line base (fun _ => rfl) (sameLine_of_isBare (ofInt_bare value))
  | .decimal value => exact exists_line base (fun _ => rfl) (sameLine_of_isBare value.toText_bare.2)
  | .text content => exact exists_line base (fun _ => rfl) (sameLine_quotedString content)
  | .expression content =>
      have sameLine : '\n' ∉ content := by simpa [isLined] using lined
      exact exists_line base (fun _ => rfl) sameLine
  | .kind value => exact exists_line base (fun _ => rfl) (sameLine_quotedString value.value)
  | .sequence _ [] => exact exists_line base (fun _ => rfl) (by decide)
  | .sequence _ (first :: rest) =>
      by_cases atoms : (first :: rest).all isAtom = true
      · -- Atoms stand on one line, which is the same at every level.
        obtain ⟨items, -, sameLines, rendered⟩ :=
          exists_renderItems_shifted (first :: rest) base lined
        have each := sameLines atoms
        have same (level : Nat) : items.map (shifted (copies level indentStep)) = items :=
          (List.map_congr_left fun item member => shifted_of_notMem _ (each item member)).trans
            (List.map_id items)
        have line : '\n' ∉ "[".toList ++ Text.join ", ".toList items ++ "]".toList := by
          rw [List.mem_append, List.mem_append, not_or, not_or]
          exact ⟨⟨by decide, sameLine_join (by decide) each⟩, by decide⟩
        refine ⟨_, .inl line, nofun, fun level => ?_⟩
        rw [render, if_pos atoms, rendered level, same, shifted_of_notMem _ line]
        rfl
      · obtain ⟨items, firm, -, rendered⟩ :=
          exists_renderItems_shifted (first :: rest) (base + 1) lined
        refine ⟨'[' :: '\n' :: column base items ']', isFirm_opened base rfl rfl firm, nofun,
          fun level => ?_⟩
        have deeper : ((base + level : Nat) : Int) + 1 = ((base + 1) + level : Nat) := by omega
        rw [render, if_neg atoms, deeper, rendered level, shifted_opened base level (by decide)
          (by decide)]
        rfl
  | .object [] => exact exists_line base (fun _ => rfl) (by decide)
  | .object (first :: rest) =>
      obtain ⟨members, firm, rendered⟩ :=
        exists_renderMembers_shifted (first :: rest) (base + 1) lined
      refine ⟨'\x7b' :: '\n' :: column base members '\x7d', isFirm_opened base rfl rfl firm, nofun,
        fun level => ?_⟩
      have deeper : ((base + level : Nat) : Int) + 1 = ((base + 1) + level : Nat) := by omega
      rw [render, deeper, rendered level, shifted_opened base level (by decide) (by decide)]
      rfl

/-- Lined items are shifted from level to level. -/
theorem exists_renderItems_shifted (items : List Literal) (base : Nat)
    (lined : areLinedItems items = true) :
    ∃ shown : List Text, (∀ content ∈ shown, IsFirm content) ∧
      (items.all isAtom = true → ∀ content ∈ shown, '\n' ∉ content) ∧ ∀ level : Nat,
        renderItems (base + level : Nat) items =
          .ok (shown.map (shifted (copies level indentStep))) := by
  match items with
  | [] => exact ⟨[], by simp, by simp, fun _ => rfl⟩
  | first :: rest =>
      rw [areLinedItems, Bool.and_eq_true] at lined
      obtain ⟨item, firm, sameLine, rendered⟩ := exists_render_shifted first base lined.1
      obtain ⟨others, firmRest, sameLines, restRendered⟩ :=
        exists_renderItems_shifted rest base lined.2
      refine ⟨item :: others, List.forall_mem_cons.mpr ⟨firm, firmRest⟩, fun atoms => ?_,
        fun level => ?_⟩
      · rw [List.all_cons, Bool.and_eq_true] at atoms
        exact List.forall_mem_cons.mpr ⟨sameLine atoms.1, sameLines atoms.2⟩
      · rw [renderItems, rendered level, restRendered level]
        rfl

/-- Lined members are shifted from level to level. -/
theorem exists_renderMembers_shifted (members : List (Text × Literal)) (base : Nat)
    (lined : areLinedMembers members = true) :
    ∃ shown : List Text, (∀ content ∈ shown, IsFirm content) ∧ ∀ level : Nat,
      renderMembers (base + level : Nat) members =
        .ok (shown.map (shifted (copies level indentStep))) := by
  match members with
  | [] => exact ⟨[], by simp, fun _ => rfl⟩
  | (key, value) :: rest =>
      rw [areLinedMembers, Bool.and_eq_true, Bool.and_eq_true, Bool.not_eq_true'] at lined
      obtain ⟨⟨keyLine, valueLined⟩, restLined⟩ := lined
      obtain ⟨shown, firm, -, rendered⟩ := exists_render_shifted value base valueLined
      obtain ⟨others, firmRest, restRendered⟩ := exists_renderMembers_shifted rest base restLined
      have named : '\n' ∉ propertyKey key ++ ": ".toList := by
        have sameLine := sameLine_propertyKey (show '\n' ∉ key by simpa using keyLine)
        simp [sameLine]
      refine ⟨(propertyKey key ++ ": ".toList ++ shown) :: others,
        List.forall_mem_cons.mpr ⟨firm.append_left named, firmRest⟩, fun level => ?_⟩
      rw [renderMembers, rendered level, restRendered level, List.map_cons, shifted_append,
        shifted_of_notMem _ named]
      rfl

end

end Literal

end EmbedScaffold
