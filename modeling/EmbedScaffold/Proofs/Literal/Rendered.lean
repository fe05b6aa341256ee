import EmbedScaffold.Proofs.Literal.Snippet
import EmbedScaffold.Proofs.Text.Digits

/-!
# Rendered literals

The text of a literal is self-contained at every level, if the literal holds no byte string, names
its members on one line and takes its expressions from names and paths of names.
-/

namespace EmbedScaffold

open Text

/-! ## Numbers -/

namespace Binary64

theorem isBare_of_isDigit (tested : Char) (isDigit : tested.isDigit = true) :
    isBare tested = true := by
  have isWord : isWordChar tested = true := by
    rw [isWordChar, isAlphanumeric, Char.isAlphanum, isDigit]
    simp
  rw [isBare, isWord, Bool.true_or]

theorem all_isBare_significantDigits (number : Nat) :
    (significantDigits number).all isBare = true := by
  refine List.all_eq_true.mpr fun tested member => ?_
  have among : tested ∈ ofNat number := by
    rw [significantDigits, trimEnd, List.mem_reverse] at member
    exact List.mem_reverse.mp ((List.dropWhile_sublist _).mem member)
  exact isBare_of_isDigit tested (isDigit_of_mem_ofNat among)

theorem all_isBare_zeros (count : Nat) : (List.replicate count '0').all isBare = true := by
  rw [List.all_replicate]
  cases count <;> rfl

section Notation

variable {digits : Text}

theorem all_isBare_positionalText (bare : digits.all isBare = true) (leading : Int) :
    (positionalText digits leading).all isBare = true := by
  have part {piece : Text} (within : ∀ tested ∈ piece, tested ∈ digits) :
      piece.all isBare = true :=
    List.all_eq_true.mpr fun tested member => List.all_eq_true.mp bare tested (within tested member)
  rw [positionalText]
  dsimp only
  split_ifs
  · rw [List.all_append, List.all_append, all_isBare_zeros, bare]
    rfl
  · rw [List.all_append, List.all_append, all_isBare_zeros, bare]
    rfl
  · rw [List.all_append, List.all_append, part fun _ => List.mem_of_mem_take,
      part fun _ => List.mem_of_mem_drop]
    rfl

theorem positionalText_ne_nil (digits : Text) (leading : Int) :
    positionalText digits leading ≠ [] := by
  rw [positionalText]
  dsimp only
  split_ifs <;> simp

theorem all_isBare_scientificText (bare : digits.all isBare = true) (leading : Int) :
    (scientificText digits leading).all isBare = true := by
  have places := all_ofNat leading.natAbs isBare_of_isDigit
  rw [scientificText.eq_def]
  dsimp only
  rw [List.all_append, List.all_append, List.all_append, places]
  simp only [Bool.and_eq_true]
  refine ⟨⟨⟨?_, ?_⟩, ?_⟩, trivial⟩
  · split
    · simpa [isBare] using bare
    · exact bare
  · split_ifs <;> rfl
  · split_ifs <;> rfl

theorem scientificText_ne_nil (digits : Text) (leading : Int) :
    scientificText digits leading ≠ [] := by
  simp [scientificText]

end Notation

theorem decimalText_bare (decimal : Decimal) :
    decimalText decimal ≠ [] ∧ (decimalText decimal).all isBare = true := by
  have digits := all_isBare_significantDigits decimal.digits
  rw [decimalText]
  split_ifs
  · exact ⟨positionalText_ne_nil _ _, all_isBare_positionalText digits _⟩
  · exact ⟨scientificText_ne_nil _ _, all_isBare_scientificText digits _⟩

/-- The text of a number is bare, also that of a number that is not finite. -/
theorem toText_bare (number : Binary64) :
    number.toText ≠ [] ∧ number.toText.all isBare = true := by
  have signed {shown : Text} (bare : shown ≠ [] ∧ shown.all isBare = true) :
      (if number.isNegative then ['-'] else []) ++ shown ≠ [] ∧
        ((if number.isNegative then ['-'] else []) ++ shown).all isBare = true := by
    rw [List.all_append, bare.2]
    refine ⟨by simp [bare.1], ?_⟩
    split_ifs <;> rfl
  rw [toText, textWith]
  cases number.classify with
  | notANumber => exact ⟨List.cons_ne_nil _ _, rfl⟩
  | infinite => exact signed ⟨by decide, by decide⟩
  | finite significand exponent =>
      apply signed
      by_cases zero : significand = 0
      · rw [if_pos zero]
        exact ⟨by decide, by decide⟩
      · rw [if_neg zero]
        exact decimalText_bare _

end Binary64

theorem ofInt_bare (number : Int) : (ofInt number).all isBare = true :=
  all_ofInt number rfl Binary64.isBare_of_isDigit

/-! ## Literals -/

namespace Literal

/-- A name, or a path of names with points between them. -/
def isPath (content : Text) : Bool :=
  ! content.isEmpty && content.all fun letter => isWordChar letter || letter == '.'

mutual

/-- Whether a literal holds no byte string, has the names of its members on one line, and takes its
expressions from names and paths of names. -/
def isPlain : Literal → Bool
  | .expression content => isPath content
  | .bytes _ => false
  | .sequence _ items => arePlainItems items
  | .object members => arePlainMembers members
  | _ => true

def arePlainItems : List Literal → Bool
  | [] => true
  | first :: rest => isPlain first && arePlainItems rest

def arePlainMembers : List (Text × Literal) → Bool
  | [] => true
  | (key, value) :: rest => ! key.contains '\n' && isPlain value && arePlainMembers rest

end

theorem isBare_of_isPath {content : Text} (isPath : isPath content = true) :
    content ≠ [] ∧ content.all isBare = true := by
  rw [Literal.isPath, Bool.and_eq_true, Bool.not_eq_true', List.isEmpty_eq_false_iff] at isPath
  refine ⟨isPath.1, List.all_eq_true.mpr fun letter member => ?_⟩
  have named := List.all_eq_true.mp isPath.2 letter member
  simp only [Bool.or_eq_true, beq_iff_eq] at named
  rcases named with isWord | rfl
  · rw [isBare, isWord, Bool.true_or]
  · rfl

/-- The items of a literal on one line, or each on a line of its own. -/
theorem selfContained_sequence {items : List Text} (level : Int)
    (each : ∀ shown ∈ items, SelfContained shown) :
    SelfContained ("[".toList ++ Text.join ", ".toList items ++ "]".toList) ∧
      SelfContained ("[\n".toList ++ items.flatMap (memberLine level) ++ indentOf level ++
        "]".toList) := by
  have closing : Interior ']' (indentOf level ++ [']']) :=
    .close rfl _ (Interior.isBlankText_indentOf level)
  have oneLine : Interior ']' (Text.join ", ".toList items ++ [']']) := .line rfl each
  have row : SelfContained ('[' :: _) := .enclose rfl oneLine
  have column : SelfContained ('[' :: _) :=
    .enclose rfl ((closing.lines level each).blanks ['\n'] rfl)
  exact ⟨by simpa using row, by simpa using column⟩

/-- Behind the brace of an object stand its members, each on a line of its own. -/
theorem interior_object {members : List Text} (level : Int)
    (each : ∀ shown ∈ members, SelfContained shown) :
    Interior '\x7d' ('\n' :: (members.flatMap (memberLine level) ++ (indentOf level ++ ['\x7d']))) :=
  ((Interior.close rfl _ (Interior.isBlankText_indentOf level)).lines level each).blanks ['\n'] rfl

/-- An object is a brace with an interior behind it. -/
theorem exists_renderObject {members : List (Text × Literal)} {level : Int}
    (each : ∃ shown, renderMembers (level + 1) members = .ok shown ∧
      ∀ content ∈ shown, SelfContained content) :
    ∃ rest, render level (.object members) = .ok ('\x7b' :: rest) ∧ Interior '\x7d' rest := by
  cases members with
  | nil => exact ⟨['\x7d'], rfl, .close rfl [] rfl⟩
  | cons first others =>
      obtain ⟨shown, rendered, each⟩ := each
      refine ⟨_, ?_, interior_object level each⟩
      rw [render, rendered]
      show Except.ok ("\x7b\n".toList ++ shown.flatMap (memberLine level) ++ indentOf level ++
        "\x7d".toList) = _
      simp

mutual

/-- A plain literal has a self-contained text at every level. -/
theorem exists_render (literal : Literal) (level : Int) (plain : isPlain literal = true) :
    ∃ content, render level literal = .ok content ∧ SelfContained content := by
  match literal with
  | .null => exact ⟨_, rfl, .bare (by decide) (by decide)⟩
  | .boolean value =>
      cases value
      · exact ⟨_, rfl, .bare (by decide) (by decide)⟩
      · exact ⟨_, rfl, .bare (by decide) (by decide)⟩
  | .integer value => exact ⟨_, rfl, .bare (ofInt_ne_nil value) (ofInt_bare value)⟩
  | .decimal value => exact ⟨_, rfl, .bare value.toText_bare.1 value.toText_bare.2⟩
  | .text content => exact ⟨_, rfl, .quotedString content⟩
  | .expression content =>
      obtain ⟨nonempty, bare⟩ := isBare_of_isPath plain
      exact ⟨_, rfl, .bare nonempty bare⟩
  | .kind value => exact ⟨_, rfl, .quotedString value.value⟩
  | .sequence _ [] =>
      have none : ∀ shown ∈ ([] : List Text), SelfContained shown := by simp
      exact ⟨_, rfl, (selfContained_sequence level none).1⟩
  | .sequence frozen (first :: rest) =>
      rw [render]
      split_ifs
      · obtain ⟨items, rendered, each⟩ := exists_renderItems (first :: rest) level plain
        rw [rendered]
        exact ⟨_, rfl, (selfContained_sequence level each).1⟩
      · obtain ⟨items, rendered, each⟩ := exists_renderItems (first :: rest) (level + 1) plain
        rw [rendered]
        exact ⟨_, rfl, (selfContained_sequence level each).2⟩
  | .object members =>
      obtain ⟨rest, rendered, interior⟩ :=
        exists_renderObject (exists_renderMembers members (level + 1) plain)
      exact ⟨_, rendered, .enclose rfl interior⟩

/-- Plain literals have self-contained texts. -/
theorem exists_renderItems (items : List Literal) (level : Int)
    (plain : arePlainItems items = true) :
    ∃ shown, renderItems level items = .ok shown ∧ ∀ content ∈ shown, SelfContained content := by
  match items with
  | [] => exact ⟨[], rfl, by simp⟩
  | first :: rest =>
      rw [arePlainItems, Bool.and_eq_true] at plain
      obtain ⟨item, rendered, selfContained⟩ := exists_render first level plain.1
      obtain ⟨others, restRendered, each⟩ := exists_renderItems rest level plain.2
      refine ⟨item :: others, ?_, List.forall_mem_cons.mpr ⟨selfContained, each⟩⟩
      rw [renderItems, rendered, restRendered]
      rfl

/-- Plain members have self-contained texts. -/
theorem exists_renderMembers (members : List (Text × Literal)) (level : Int)
    (plain : arePlainMembers members = true) :
    ∃ shown, renderMembers level members = .ok shown ∧
      ∀ content ∈ shown, SelfContained content := by
  match members with
  | [] => exact ⟨[], rfl, by simp⟩
  | (key, value) :: rest =>
      rw [arePlainMembers, Bool.and_eq_true, Bool.and_eq_true, Bool.not_eq_true'] at plain
      obtain ⟨⟨sameLine, valuePlain⟩, restPlain⟩ := plain
      obtain ⟨shown, rendered, selfContained⟩ := exists_render value level valuePlain
      obtain ⟨others, restRendered, each⟩ := exists_renderMembers rest level restPlain
      have member := selfContained.member (show '\n' ∉ key by simpa using sameLine)
      refine ⟨_, ?_, List.forall_mem_cons.mpr ⟨member, each⟩⟩
      rw [renderMembers, rendered, restRendered]
      rfl

end

end Literal

end EmbedScaffold
