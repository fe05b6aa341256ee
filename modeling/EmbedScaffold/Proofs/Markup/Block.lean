import Mathlib.Data.List.TakeWhile
import EmbedScaffold.Proofs.Markup.ClosingTag

/-!
# Script blocks in texts that are put together

Whether a script block begins at a place depends on what follows only as far as its opening tag or
its body is still open where the text is cut.  `Front` tells the four ways apart, and `Alike` says
of two texts that no block in front of them can tell which of them follows.
-/

namespace EmbedScaffold

open Text

namespace Markup

/-! ## A block by its opening tag -/

/-- The block of an opening tag with some attributes so far, given what follows them. -/
def blockBehind (attributes content : Text) : Option ScriptBlock :=
  (dropExact? ['>'] (content.dropWhile (· ≠ '>'))).bind fun inner =>
    (bodyAndClosing? inner).map fun (body, closing) =>
      ⟨attributes ++ content.takeWhile (· ≠ '>'), body, closing⟩

/-- The block of an opening tag if an edit takes it for an instance script. -/
def instanceBehind (attributes content : Text) : Option ScriptBlock :=
  (blockBehind attributes content).filter fun block =>
    ! hasModuleMark dropCaseless? block.attributes

theorem blockAtFront?_eq (content : Text) :
    blockAtFront? content = (dropCaseless? "<script".toList content).bind (blockBehind []) := by
  rw [blockAtFront?]
  cases dropCaseless? "<script".toList content with
  | none => rfl
  | some behindName =>
      rw [Option.bind_some, blockBehind]
      simp only [bind, Option.bind_some, List.nil_append]
      cases dropExact? ['>'] (behindName.dropWhile (· ≠ '>')) with
      | none => rfl
      | some inner =>
          rw [Option.bind_some, Option.bind_some]
          cases bodyAndClosing? inner <;> rfl

theorem instanceAtFront?_eq (content : Text) :
    instanceAtFront? content =
      (dropCaseless? "<script".toList content).bind (instanceBehind []) := by
  rw [instanceAtFront?, blockAtFront?_eq]
  cases dropCaseless? "<script".toList content <;> rfl

section Behind

variable {attributes more content inner : Text}

/-- Attributes that are still open go on in what follows. -/
theorem blockBehind_append (openEnded : '>' ∉ more) :
    blockBehind attributes (more ++ content) = blockBehind (attributes ++ more) content := by
  have kept : ∀ tested ∈ more, (decide (tested ≠ '>')) = true := fun tested member =>
    decide_eq_true fun same => openEnded (same ▸ member)
  rw [blockBehind, blockBehind, List.dropWhile_append_of_pos kept,
    List.takeWhile_append_of_pos kept, List.append_assoc]

theorem blockBehind_bracket :
    blockBehind attributes ('>' :: inner) =
      (bodyAndClosing? inner).map fun (body, closing) => ⟨attributes, body, closing⟩ := by
  simp [blockBehind, dropExact?]

theorem blockBehind_of_notMem (openEnded : '>' ∉ content) :
    blockBehind attributes content = none := by
  have dropped : content.dropWhile (· ≠ '>') = [] := by
    rw [List.dropWhile_eq_nil_iff]
    exact fun tested member => decide_eq_true fun same => openEnded (same ▸ member)
  rw [blockBehind, dropped]
  rfl

theorem instanceBehind_append (openEnded : '>' ∉ more) :
    instanceBehind attributes (more ++ content) = instanceBehind (attributes ++ more) content := by
  rw [instanceBehind, blockBehind_append openEnded]
  rfl

theorem instanceBehind_bracket :
    instanceBehind attributes ('>' :: inner) =
      if hasModuleMark dropCaseless? attributes then none
      else (bodyAndClosing? inner).map fun (body, closing) => ⟨attributes, body, closing⟩ := by
  rw [instanceBehind, blockBehind_bracket]
  cases bodyAndClosing? inner with
  | none => simp
  | some found => cases marked : hasModuleMark dropCaseless? attributes <;> simp [marked]

theorem instanceBehind_of_notMem (openEnded : '>' ∉ content) :
    instanceBehind attributes content = none := by
  rw [instanceBehind, blockBehind_of_notMem openEnded]
  rfl

end Behind

/-! ## Module marks -/

/-- A quote of either kind, which ends a module mark. -/
def isQuote (tested : Char) : Bool :=
  tested == '"' || tested == '\''

section Mark

variable {content more : Text}

theorem isBlank_of_isQuote {tested : Char} (quote : isQuote tested = true) :
    isBlank tested = false := by
  rcases (by simpa [isQuote] using quote : tested = '"' ∨ tested = '\'') with rfl | rfl <;> rfl

theorem exists_blanks_append {behind : Text} (dropped : content.dropWhile isBlank = behind) :
    ∃ blanks, isBlankText blanks = true ∧ content = blanks ++ behind :=
  ⟨content.takeWhile isBlank, List.all_takeWhile, by
    rw [← dropped, List.takeWhile_append_dropWhile]⟩

theorem dropWhile_isBlank_of_solid {blanks rest : Text} {solid : Char}
    (areBlank : isBlankText blanks = true) (notBlank : isBlank solid = false) :
    (blanks ++ solid :: rest).dropWhile isBlank = solid :: rest := by
  rw [List.dropWhile_append_of_pos (List.all_eq_true.mp areBlank),
    List.dropWhile_cons_of_neg (by simp [notBlank])]

theorem exists_of_dropQuote? {behind : Text} (dropped : dropQuote? content = some behind) :
    ∃ quote, isQuote quote = true ∧ content = quote :: behind ∧
      ∀ other, dropQuote? (quote :: other) = some other := by
  cases content with
  | nil => cases dropped
  | cons first rest =>
      rw [dropQuote?] at dropped
      split at dropped
      · next same =>
          cases dropped
          exact ⟨first, by simpa [isQuote] using same, rfl, fun other => by rw [dropQuote?, if_pos same]⟩
      · cases dropped

/-- A module mark ends with its second quote. -/
theorem exists_of_beginsModuleMark (begins : beginsModuleMark dropCaseless? content = true) :
    ∃ mark quote rest, content = mark ++ (quote :: rest) ∧ isQuote quote = true ∧
      ∀ other, beginsModuleMark dropCaseless? (mark ++ (quote :: other)) = true := by
  obtain ⟨rest, whole⟩ := Option.isSome_iff_exists.mp begins
  obtain ⟨behindName, named, whole⟩ := Option.bind_eq_some_iff.mp whole
  obtain ⟨behindEquals, equals, whole⟩ := Option.bind_eq_some_iff.mp whole
  obtain ⟨value, opened, whole⟩ := Option.bind_eq_some_iff.mp whole
  obtain ⟨behindValue, valued, closed⟩ := Option.bind_eq_some_iff.mp whole
  obtain ⟨name, rfl, -, nameAgain⟩ := exists_of_dropCaseless? named
  obtain ⟨first, isQuoteFirst, openedParts, firstAgain⟩ := exists_of_dropQuote? opened
  obtain ⟨text, rfl, -, textAgain⟩ := exists_of_dropCaseless? valued
  obtain ⟨second, isQuoteSecond, rfl, secondAgain⟩ := exists_of_dropQuote? closed
  have shapeName := exists_blanks_append (dropExact?_eq_some.mp equals)
  obtain ⟨blanksName, areBlankName, shapeName⟩ := shapeName
  obtain ⟨blanks, areBlank, shapeEquals⟩ := exists_blanks_append openedParts
  refine ⟨name ++ (blanksName ++ ['='] ++ (blanks ++ first :: text)), second, rest, ?_,
    isQuoteSecond, fun other => ?_⟩
  · rw [shapeName, shapeEquals]
    simp
  · have solidEquals : isBlank '=' = false := rfl
    rw [beginsModuleMark]
    simp only [List.append_assoc, List.cons_append, List.nil_append, bind, nameAgain,
      Option.bind_some, dropWhile_isBlank_of_solid areBlankName solidEquals,
      dropWhile_isBlank_of_solid areBlank (isBlank_of_isQuote isQuoteFirst),
      show ∀ other, dropExact? ['='] ('=' :: other) = some other from fun _ => rfl,
      firstAgain, textAgain, secondAgain, Option.isSome_some]

/-- A text without quotes completes no module mark that begins in front of it. -/
theorem beginsModuleMark_append (content : Text)
    (noQuote : ∀ tested ∈ more, isQuote tested = false) :
    beginsModuleMark dropCaseless? (content ++ more) = beginsModuleMark dropCaseless? content := by
  rw [Bool.eq_iff_iff]
  constructor
  · intro begins
    obtain ⟨mark, quote, rest, parts, isQuoteLast, again⟩ := exists_of_beginsModuleMark begins
    rcases List.append_eq_append_iff.mp parts with ⟨others, rfl, behind⟩ | ⟨others, rfl, behind⟩
    · have member : quote ∈ more := by simp [behind]
      rw [noQuote quote member] at isQuoteLast
      cases isQuoteLast
    · cases others with
      | nil =>
          have member : quote ∈ more := by
            rw [List.nil_append] at behind
            exact behind ▸ List.mem_cons_self
          rw [noQuote quote member] at isQuoteLast
          cases isQuoteLast
      | cons first others =>
          obtain rfl := (List.cons.inj behind).1
          exact again others
  · intro begins
    obtain ⟨mark, quote, rest, rfl, -, again⟩ := exists_of_beginsModuleMark begins
    rw [List.append_assoc, List.cons_append]
    exact again _

theorem hasModuleMark_append (noQuote : ∀ tested ∈ more, isQuote tested = false) :
    hasModuleMark dropCaseless? (content ++ more) = hasModuleMark dropCaseless? content := by
  induction content with
  | nil =>
      rw [List.nil_append]
      induction more with
      | nil => rfl
      | cons first others inductionHypothesis =>
          have here := beginsModuleMark_append [] noQuote
          rw [List.nil_append] at here
          have behind := inductionHypothesis fun tested member =>
            noQuote tested (List.mem_cons_of_mem _ member)
          rw [hasModuleMark.eq_2, here, behind]
          rfl
  | cons first others inductionHypothesis =>
      have here := beginsModuleMark_append (first :: others) noQuote
      rw [List.cons_append] at here ⊢
      rw [hasModuleMark, hasModuleMark, here, inductionHypothesis]

end Mark

/-- Where a tag goes on without quotes, its bracket opens a block that the attributes so far and
what follows the bracket decide on. -/
theorem isSome_instanceBehind {attributes quiet inner : Text} (openEnded : '>' ∉ quiet)
    (noQuote : ∀ tested ∈ quiet, isQuote tested = false) :
    (instanceBehind attributes (quiet ++ '>' :: inner)).isSome =
      (! hasModuleMark dropCaseless? attributes && (bodyAndClosing? inner).isSome) := by
  rw [instanceBehind_append openEnded, instanceBehind_bracket, hasModuleMark_append noQuote]
  cases hasModuleMark dropCaseless? attributes with
  | true => rfl
  | false => exact Option.isSome_map

/-! ## Fronts of a text -/

/-- What a text tells of a block at its front while it goes on. -/
inductive Front : Text → Prop
  /-- No instance script begins here. -/
  | none {content : Text} :
      (∀ rest, Severs rest → instanceAtFront? (content ++ rest) = .none) → Front content
  /-- An instance script begins and ends here. -/
  | whole {content : Text} (block : ScriptBlock) : block.length ≤ content.length →
      (∀ rest, Severs rest → instanceAtFront? (content ++ rest) = some block) → Front content
  /-- The body of an instance script is open. -/
  | body {content : Text} (attributes inner : Text) :
      content.length = "<script".length + attributes.length + 1 + inner.length →
      (∀ rest, Severs rest → instanceAtFront? (content ++ rest) =
        (bodyAndClosing? rest).map fun (body, closing) => ⟨attributes, inner ++ body, closing⟩) →
      Front content
  /-- The opening tag of a script is open. -/
  | tag {content : Text} (attributes : Text) :
      content.length = "<script".length + attributes.length →
      (∀ rest, instanceAtFront? (content ++ rest) = instanceBehind attributes rest) →
      Front content

/-- The letters of an opening tag are letters of a closing one. -/
theorem Severs.opening {rest : Text} (severs : Severs rest) :
    ∀ first ∈ rest.head?, ∀ expected ∈ "script".toList, matchesCaseless expected first = false := by
  intro first member expected inside
  exact Bool.eq_false_iff.mpr (List.any_eq_false.mp (severs.name first member) expected
    (List.mem_cons_of_mem _ inside))

theorem dropCaseless?_opening {first : Char} {others rest : Text} (severs : Severs rest) :
    dropCaseless? "<script".toList (first :: others ++ rest) =
      (dropCaseless? "<script".toList (first :: others)).map (· ++ rest) := by
  rw [show "<script".toList = '<' :: "script".toList from rfl, List.cons_append, dropCaseless?,
    dropCaseless?]
  split
  · exact dropCaseless?_append severs.opening
  · rfl

theorem Front.of_nonempty {content : Text} (nonempty : content ≠ []) : Front content := by
  obtain ⟨first, others, rfl⟩ := List.exists_cons_of_ne_nil nonempty
  -- a tag may be cut off behind its name, in its attributes or in its body
  cases named : dropCaseless? "<script".toList (first :: others) with
  | none =>
      refine .none fun rest severs => ?_
      rw [instanceAtFront?_eq, dropCaseless?_opening severs, named]
      rfl
  | some behindName =>
      obtain ⟨name, shape, length, again⟩ := exists_of_dropCaseless? named
      have starts (rest : Text) : instanceAtFront? (first :: others ++ rest) =
          instanceBehind [] (behindName ++ rest) := by
        rw [instanceAtFront?_eq, shape, List.append_assoc, again]
        rfl
      have lengths : (first :: others).length = "<script".length + behindName.length := by
        rw [shape, List.length_append, length]
        rfl
      by_cases closed : '>' ∈ behindName
      · obtain ⟨attributes, inner, rfl, openEnded⟩ := List.eq_append_cons_of_mem closed
        have reads (rest : Text) : instanceAtFront? (first :: others ++ rest) =
            instanceBehind attributes ('>' :: (inner ++ rest)) := by
          rw [starts, List.append_assoc, instanceBehind_append openEnded]
          rfl
        have lengths : (first :: others).length =
            "<script".length + attributes.length + 1 + inner.length := by
          rw [lengths, List.length_append, List.length_cons]
          omega
        by_cases marked : hasModuleMark dropCaseless? attributes = true
        · refine .none fun rest _ => ?_
          rw [reads, instanceBehind_bracket, if_pos marked]
        · cases found : bodyAndClosing? inner with
          | some pair =>
              obtain ⟨body, closing⟩ := pair
              obtain ⟨_, behind, _, parts, _, _⟩ := exists_of_bodyAndClosing? found
              refine .whole ⟨attributes, body, closing⟩ ?_ fun rest severs => ?_
              · have inside := congrArg List.length parts
                simp only [List.length_append] at inside
                simp only [ScriptBlock.length, ScriptBlock.openingLength]
                omega
              · rw [reads, instanceBehind_bracket, if_neg marked, bodyAndClosing?_append severs,
                  found]
                rfl
          | none =>
              refine .body attributes inner lengths fun rest severs => ?_
              rw [reads, instanceBehind_bracket, if_neg marked, bodyAndClosing?_append severs,
                found, Option.none_or, Option.map_map]
              rfl
      · refine .tag behindName lengths fun rest => ?_
        rw [starts, instanceBehind_append closed]
        rfl

/-! ## Opening tags -/

/-- The opening tag of an instance script. -/
structure IsOpening (attributes opening : Text) : Prop where
  length : opening.length = "<script".length + attributes.length + 1
  bracket : opening.head? = some '<'
  opens : ∀ inner, instanceAtFront? (opening ++ inner) =
    (bodyAndClosing? inner).map fun (body, closing) => ⟨attributes, body, closing⟩
  goesOn : ∃ upToBracket, ∀ before inner, instanceBehind before (opening ++ inner) =
    instanceBehind (before ++ upToBracket) ('>' :: inner)

/-- An instance script is its opening tag, its body and its closing tag. -/
theorem exists_of_instanceAtFront? {content : Text} {block : ScriptBlock}
    (found : instanceAtFront? content = some block) :
    ∃ opening name rest, IsOpening block.attributes opening ∧ block.closing = '<' :: name ∧
      content = opening ++ (block.body ++ (block.closing ++ rest)) ∧
      bodyAndClosing? block.body = none ∧
      ∀ other, bodyAndClosing? (block.closing ++ other) = some ([], block.closing) := by
  rw [instanceAtFront?_eq] at found
  obtain ⟨behindName, named, starts⟩ := Option.bind_eq_some_iff.mp found
  obtain ⟨letters, rfl, length, again⟩ := exists_of_dropCaseless? named
  by_cases closed : '>' ∈ behindName
  · obtain ⟨attributes, inner, rfl, openEnded⟩ := List.eq_append_cons_of_mem closed
    rw [instanceBehind_append openEnded, instanceBehind_bracket, List.nil_append] at starts
    split at starts
    · cases starts
    · next unmarked =>
        obtain ⟨⟨body, closing⟩, search, rfl⟩ := Option.map_eq_some_iff.mp starts
        obtain ⟨name, rest, isClosing, rfl, noneBefore, ends⟩ := exists_of_bodyAndClosing? search
        refine ⟨letters ++ (attributes ++ ['>']), name, rest, ⟨?_, ?_, fun inner => ?_, ?_⟩,
          isClosing, by simp, noneBefore, ends⟩
        · simp only [List.length_append, length, List.length_singleton]
          rfl
        · cases letters with
          | nil => cases length
          | cons first others =>
              rw [show "<script".toList = '<' :: "script".toList from rfl, List.cons_append,
                dropCaseless?] at named
              split at named
              · next same => exact congrArg some (eq_of_matchesCaseless_bracket same)
              · cases named
        · rw [instanceAtFront?_eq, List.append_assoc, again, Option.bind_some, List.append_assoc,
            instanceBehind_append openEnded, List.singleton_append, instanceBehind_bracket,
            List.nil_append, if_neg unmarked]
        · have openName : '>' ∉ letters :=
            notMem_of_dropCaseless? (again []) length (forall_of_all (by decide +kernel))
          refine ⟨letters ++ attributes, fun before inner => ?_⟩
          rw [← instanceBehind_append (by simp [openName, openEnded]), List.append_assoc,
            List.append_assoc, List.append_assoc, List.singleton_append]
  · rw [instanceBehind_of_notMem closed] at starts
    cases starts

/-! ## Fronts of two texts -/

/-- No block in front of two texts tells which of them follows. -/
structure Alike (left right : Text) : Prop where
  seversLeft : Severs left
  seversRight : Severs right
  closing : (bodyAndClosing? left).isSome = (bodyAndClosing? right).isSome
  opening : ∀ attributes,
    (instanceBehind attributes left).isSome = (instanceBehind attributes right).isSome

/-- An opening tag is found in front of every body alike. -/
theorem IsOpening.alike {attributes opening left right : Text}
    (isOpening : IsOpening attributes opening) {leftFound rightFound : Text × Text}
    (closesLeft : bodyAndClosing? left = some leftFound)
    (closesRight : bodyAndClosing? right = some rightFound) :
    Alike (opening ++ left) (opening ++ right) := by
  have severs (rest : Text) : Severs (opening ++ rest) := by
    obtain ⟨others, rfl⟩ := List.head?_eq_some_iff.mp isOpening.bracket
    exact .ofOpening _
  have closes {rest : Text} {found : Text × Text} (search : bodyAndClosing? rest = some found) :
      (bodyAndClosing? (opening ++ rest)).isSome = true := by
    rw [Option.isSome_iff_ne_none]
    intro absent
    rw [bodyAndClosing?_right absent] at search
    cases search
  refine ⟨severs left, severs right, by rw [closes closesLeft, closes closesRight], ?_⟩
  intro before
  obtain ⟨upToBracket, goesOn⟩ := isOpening.goesOn
  rw [goesOn, goesOn, instanceBehind_bracket, instanceBehind_bracket, closesLeft, closesRight]
  split <;> rfl

section Step

variable {first : Char} {rest : Text}

theorem findInstance?_cons (offset : Nat) :
    findInstance? offset (first :: rest) =
      match instanceAtFront? (first :: rest) with
      | some block => some (offset, block)
      | none => findInstance? (offset + 1) rest := by
  rfl

theorem withoutInstances_cons :
    withoutInstances (first :: rest) =
      match instanceAtFront? (first :: rest) with
      | some block => withoutInstancesFrom (block.length - 1) rest
      | none => first :: withoutInstances rest := by
  rfl

theorem withoutInstancesFrom_succ (more : Nat) :
    withoutInstancesFrom (more + 1) (first :: rest) = withoutInstancesFrom more rest := by
  rfl

theorem instanceScriptFrom_cons :
    instanceScriptFrom 0 (first :: rest) =
      match blockAtFront? (first :: rest) with
      | none => instanceScriptFrom 0 rest
      | some block =>
          if hasModuleMark dropExact? block.attributes then
            instanceScriptFrom (block.length - 1) rest
          else block.body := by
  rfl

end Step

section Search

variable {content rest left right : Text} {offset : Nat} {found : Nat × ScriptBlock}

theorem Alike.isSome_instanceAtFront? (alike : Alike left right) (nonempty : content ≠ []) :
    (instanceAtFront? (content ++ left)).isSome = (instanceAtFront? (content ++ right)).isSome := by
  cases Front.of_nonempty nonempty with
  | none absent => rw [absent _ alike.seversLeft, absent _ alike.seversRight]
  | whole block _ same => rw [same _ alike.seversLeft, same _ alike.seversRight]
  | body attributes inner _ same =>
      rw [same _ alike.seversLeft, same _ alike.seversRight, Option.isSome_map, Option.isSome_map,
        alike.closing]
  | tag attributes _ same => rw [same, same, alike.opening]

/-- No instance script begins within a text that something follows. -/
def NoInstanceWithin (content rest : Text) : Prop :=
  ∀ front back, content = front ++ back → back ≠ [] → instanceAtFront? (back ++ rest) = none

theorem NoInstanceWithin.of_cons {first : Char}
    (absent : NoInstanceWithin (first :: content) rest) : NoInstanceWithin content rest :=
  fun front back parts => absent (first :: front) back (by rw [parts]; rfl)

theorem NoInstanceWithin.cons {first : Char} (here : instanceAtFront? (first :: content ++ rest) = none)
    (absent : NoInstanceWithin content rest) : NoInstanceWithin (first :: content) rest := by
  rintro (_ | ⟨second, before⟩) back parts nonempty
  · rw [List.nil_append] at parts
    rw [← parts]
    exact here
  · exact absent before back (List.cons.inj parts).2 nonempty

theorem instanceAtFront?_cons_of_ne {first : Char} (different : first ≠ '<') (rest : Text) :
    instanceAtFront? (first :: rest) = none := by
  rw [instanceAtFront?_eq, show "<script".toList = '<' :: "script".toList from rfl,
    dropCaseless?_bracket_of_ne different]
  rfl

/-- No instance script begins in a text without opening brackets. -/
theorem NoInstanceWithin.append_of_notMem {front : Text} (noBracket : '<' ∉ front)
    (absent : NoInstanceWithin content rest) : NoInstanceWithin (front ++ content) rest := by
  induction front with
  | nil => exact absent
  | cons first others inductionHypothesis =>
      rw [List.mem_cons, not_or] at noBracket
      exact .cons (instanceAtFront?_cons_of_ne (Ne.symm noBracket.1) _)
        (inductionHypothesis noBracket.2)

/-- No instance script begins where none can end. -/
theorem NoInstanceWithin.of_notMem (noBracket : '<' ∉ content) :
    NoInstanceWithin content rest := by
  have none : NoInstanceWithin [] rest := fun front back parts filled =>
    absurd (List.append_eq_nil_iff.mp parts.symm).2 filled
  have whole := none.append_of_notMem noBracket
  rwa [List.append_nil] at whole

theorem NoInstanceWithin.of_bodyAndClosing? (free : bodyAndClosing? (content ++ rest) = none) :
    NoInstanceWithin content rest := by
  rintro front back rfl -
  cases starts : instanceAtFront? (back ++ rest) with
  | none => rfl
  | some block =>
      obtain ⟨opening, name, behind, -, -, parts, -, ends⟩ := exists_of_instanceAtFront? starts
      rw [List.append_assoc, parts] at free
      have none := bodyAndClosing?_right (bodyAndClosing?_right (bodyAndClosing?_right free))
      rw [ends] at none
      cases none

theorem findInstance?_map (content : Text) (offset more : Nat) :
    findInstance? (offset + more) content =
      (findInstance? offset content).map fun (place, block) => (place + more, block) := by
  induction content generalizing offset with
  | nil => rfl
  | cons first others inductionHypothesis =>
      rw [findInstance?_cons, findInstance?_cons]
      split
      · rfl
      · rw [← inductionHypothesis, Nat.add_right_comm]

theorem Alike.noInstanceWithin (alike : Alike left right)
    (absent : NoInstanceWithin content left) : NoInstanceWithin content right := by
  intro front back parts nonempty
  have same := alike.isSome_instanceAtFront? nonempty
  rw [absent front back parts nonempty] at same
  exact Option.isNone_iff_eq_none.mp (by simpa using same.symm)

theorem findInstance?_append (absent : NoInstanceWithin content rest) :
    findInstance? offset (content ++ rest) = findInstance? (offset + content.length) rest := by
  induction content generalizing offset with
  | nil => rfl
  | cons first others inductionHypothesis =>
      have here := absent [] (first :: others) rfl (List.cons_ne_nil _ _)
      rw [List.cons_append] at here ⊢
      rw [findInstance?_cons, here]
      dsimp only
      rw [inductionHypothesis absent.of_cons, List.length_cons]
      congr 1
      omega

theorem findInstance?_of_instanceAtFront? {block : ScriptBlock}
    (starts : instanceAtFront? content = some block) :
    findInstance? offset content = some (offset, block) := by
  cases content with
  | nil => cases starts
  | cons first others => rw [findInstance?_cons, starts]

/-- Nothing of a text without instance scripts is taken away. -/
theorem withoutInstances_append (absent : NoInstanceWithin content rest) :
    withoutInstances (content ++ rest) = content ++ withoutInstances rest := by
  induction content with
  | nil => rfl
  | cons first others inductionHypothesis =>
      have here := absent [] (first :: others) rfl (List.cons_ne_nil _ _)
      rw [List.cons_append] at here ⊢
      rw [withoutInstances_cons, here]
      exact congrArg (first :: ·) (inductionHypothesis absent.of_cons)

theorem exists_of_findInstance? {place : Nat} {block : ScriptBlock}
    (search : findInstance? offset content = some (place, block)) :
    ∃ front rest, content = front ++ rest ∧ place = offset + front.length ∧
      instanceAtFront? rest = some block ∧ NoInstanceWithin front rest := by
  induction content generalizing offset with
  | nil => cases search
  | cons first others inductionHypothesis =>
      rw [findInstance?_cons] at search
      split at search
      · next here starts =>
          cases search
          exact ⟨[], first :: others, rfl, rfl, starts, fun front back parts nonempty =>
            absurd (List.append_eq_nil_iff.mp parts.symm).2 nonempty⟩
      · next absent =>
          obtain ⟨front, rest, rfl, rfl, starts, absentWithin⟩ := inductionHypothesis search
          refine ⟨first :: front, rest, rfl, by rw [List.length_cons]; omega, starts, ?_⟩
          rintro (_ | ⟨second, before⟩) back parts nonempty
          · rw [List.nil_append] at parts
            rw [← parts]
            exact absent
          · exact absentWithin before back (List.cons.inj parts).2 nonempty

end Search

/-! ## Places outside instance scripts -/

/-- Whether a place of a text is outside the blocks that an edit takes for instance scripts; `skip`
characters still belong to such a block. -/
def isOutsideFrom (skip : Nat) : (place : Nat) → Text → Bool
  | 0, _ => skip == 0
  | _ + 1, [] => skip == 0
  | place + 1, first :: rest =>
      match skip with
      | more + 1 => isOutsideFrom more place rest
      | 0 =>
          match instanceAtFront? (first :: rest) with
          | some block => isOutsideFrom (block.length - 1) place rest
          | none => isOutsideFrom 0 place rest

/-- Whether a place of a text is outside the blocks that an edit takes for instance scripts. -/
def isOutside (content : Text) (place : Nat) : Bool :=
  isOutsideFrom 0 place content

section Outside

variable {content left right : Text}

theorem isOutsideFrom_succ (more place : Nat) (first : Char) (rest : Text) :
    isOutsideFrom (more + 1) (place + 1) (first :: rest) = isOutsideFrom more place rest := by
  rfl

theorem isOutsideFrom_cons (place : Nat) (first : Char) (rest : Text) :
    isOutsideFrom 0 (place + 1) (first :: rest) =
      match instanceAtFront? (first :: rest) with
      | some block => isOutsideFrom (block.length - 1) place rest
      | none => isOutsideFrom 0 place rest := by
  rfl

theorem isOutsideFrom_of_lt {skip place : Nat} (inside : place < skip) :
    isOutsideFrom skip place content = false := by
  induction place generalizing skip content with
  | zero =>
      obtain ⟨more, rfl⟩ := Nat.exists_eq_succ_of_ne_zero (Nat.ne_of_gt inside)
      rfl
  | succ before inductionHypothesis =>
      obtain ⟨more, rfl⟩ : ∃ more, skip = more + 1 := ⟨skip - 1, by omega⟩
      cases content with
      | nil => rfl
      | cons first rest => exact inductionHypothesis (Nat.lt_of_succ_lt_succ inside)

theorem isOutsideFrom_length (front rest : Text) (place : Nat) :
    isOutsideFrom front.length (front.length + place) (front ++ rest) =
      isOutsideFrom 0 place rest := by
  induction front with
  | nil => rw [List.length_nil, Nat.zero_add, List.nil_append]
  | cons first others inductionHypothesis =>
      rw [List.length_cons, Nat.add_right_comm, List.cons_append, isOutsideFrom_succ,
        inductionHypothesis]

theorem withoutInstancesFrom_length (front rest : Text) :
    withoutInstancesFrom front.length (front ++ rest) = withoutInstances rest := by
  induction front with
  | nil => rfl
  | cons first others inductionHypothesis =>
      rw [List.length_cons, List.cons_append, withoutInstancesFrom_succ, inductionHypothesis]

/-- What two alike texts show behind a front that leaves no block open: what is kept of the front
is the same, and the first instance script is in the front or is the first one behind it. -/
structure SameFront (content left right : Text) : Prop where
  kept : ∃ kept, withoutInstances (content ++ left) = kept ++ withoutInstances left ∧
    withoutInstances (content ++ right) = kept ++ withoutInstances right
  first : ∀ offset,
    (∃ found, findInstance? offset (content ++ left) = some found ∧
      findInstance? offset (content ++ right) = some found) ∨
    (findInstance? offset (content ++ left) = findInstance? (offset + content.length) left ∧
      findInstance? offset (content ++ right) = findInstance? (offset + content.length) right)

theorem SameFront.cons {first : Char} (same : SameFront content left right)
    (noneLeft : instanceAtFront? (first :: content ++ left) = none)
    (noneRight : instanceAtFront? (first :: content ++ right) = none) :
    SameFront (first :: content) left right := by
  rw [List.cons_append] at noneLeft noneRight
  refine ⟨?_, fun offset => ?_⟩
  · obtain ⟨kept, keptLeft, keptRight⟩ := same.kept
    refine ⟨first :: kept, ?_, ?_⟩
    · rw [List.cons_append, withoutInstances_cons, noneLeft]
      exact congrArg (first :: ·) keptLeft
    · rw [List.cons_append, withoutInstances_cons, noneRight]
      exact congrArg (first :: ·) keptRight
  · have length : offset + (first :: content).length = offset + 1 + content.length := by
      rw [List.length_cons]
      omega
    rw [length, List.cons_append, List.cons_append, findInstance?_cons, findInstance?_cons, noneLeft,
      noneRight]
    exact same.first (offset + 1)

/-- A block that ends in front of two alike texts begins there whichever follows. -/
theorem Alike.instanceAtFront?_of_le (alike : Alike left right) (nonempty : content ≠ [])
    {block : ScriptBlock} (starts : instanceAtFront? (content ++ left) = some block)
    (ends : block.length ≤ content.length) :
    instanceAtFront? (content ++ right) = some block := by
  cases Front.of_nonempty nonempty with
  | none absent =>
      rw [absent _ alike.seversLeft] at starts
      cases starts
  | whole known _ same =>
      rw [same _ alike.seversLeft] at starts
      rw [same _ alike.seversRight, starts]
  | body attributes inner length same =>
      rw [same _ alike.seversLeft] at starts
      obtain ⟨⟨body, closing⟩, search, rfl⟩ := Option.map_eq_some_iff.mp starts
      obtain ⟨name, _, rfl, _⟩ := exists_of_bodyAndClosing? search
      simp only [ScriptBlock.length, ScriptBlock.openingLength, List.length_append,
        List.length_cons] at ends
      omega
  | tag attributes length same =>
      rw [same] at starts
      obtain ⟨found, -⟩ := Option.filter_eq_some_iff.mp starts
      obtain ⟨inner, -, found⟩ := Option.bind_eq_some_iff.mp found
      obtain ⟨_, -, rfl⟩ := Option.map_eq_some_iff.mp found
      simp only [ScriptBlock.length, ScriptBlock.openingLength, List.length_append] at ends
      omega

/-- A place outside the instance scripts leaves no block open in front of it. -/
theorem Alike.sameFront (alike : Alike left right)
    (outside : isOutsideFrom 0 content.length (content ++ left) = true) :
    SameFront content left right := by
  -- A block at the front is passed over as a whole, so the induction is on the length.
  induction size : content.length using Nat.strongRecOn generalizing content with
  | ind size' inductionHypothesis =>
      subst size
      cases content with
      | nil => exact ⟨⟨[], rfl, rfl⟩, fun offset => .inr ⟨rfl, rfl⟩⟩
      | cons first others =>
          have sameFirst := alike.isSome_instanceAtFront? (List.cons_ne_nil first others)
          cases starts : instanceAtFront? (first :: others ++ left) with
          | none =>
              rw [starts] at sameFirst
              have startsRight : instanceAtFront? (first :: others ++ right) = none :=
                Option.isNone_iff_eq_none.mp (by simpa using sameFirst.symm)
              rw [List.length_cons, List.cons_append, isOutsideFrom_cons, ← List.cons_append,
                starts] at outside
              exact (inductionHypothesis _ (Nat.lt_succ_self _) outside rfl).cons starts startsRight
          | some block =>
              rw [List.length_cons, List.cons_append, isOutsideFrom_cons, ← List.cons_append,
                starts] at outside
              dsimp only at outside
              have positive : 0 < block.length := by
                simp only [ScriptBlock.length, ScriptBlock.openingLength]
                omega
              have ends : block.length - 1 ≤ others.length := by
                by_cases inside : others.length < block.length - 1
                · rw [isOutsideFrom_of_lt inside] at outside
                  cases outside
                · omega
              have startsRight := alike.instanceAtFront?_of_le (List.cons_ne_nil first others)
                starts (by rw [List.length_cons]; omega)
              obtain ⟨inBlock, back, rfl, passed⟩ : ∃ inBlock back, others = inBlock ++ back ∧
                  inBlock.length = block.length - 1 :=
                ⟨_, _, (List.take_append_drop (block.length - 1) others).symm,
                  List.length_take_of_le ends⟩
              rw [← passed, List.length_append, List.append_assoc,
                isOutsideFrom_length] at outside
              have shorter : back.length < (first :: (inBlock ++ back)).length := by
                simp only [List.length_cons, List.length_append]
                omega
              obtain ⟨kept, keptLeft, keptRight⟩ :=
                (inductionHypothesis _ shorter outside rfl).kept
              rw [List.cons_append] at starts startsRight
              refine ⟨⟨kept, ?_, ?_⟩, fun offset => .inl ⟨(offset, block), ?_, ?_⟩⟩
              · rw [List.cons_append, withoutInstances_cons, starts]
                dsimp only
                rw [← passed, List.append_assoc, withoutInstancesFrom_length, keptLeft]
              · rw [List.cons_append, withoutInstances_cons, startsRight]
                dsimp only
                rw [← passed, List.append_assoc, withoutInstancesFrom_length, keptRight]
              · rw [List.cons_append, findInstance?_cons, starts]
              · rw [List.cons_append, findInstance?_cons, startsRight]

end Outside

/-! ## Reading a script -/

theorem blockAtFront?_cons_of_ne {first : Char} (different : first ≠ '<') (rest : Text) :
    blockAtFront? (first :: rest) = none := by
  rw [blockAtFront?_eq, show "<script".toList = '<' :: "script".toList from rfl,
    dropCaseless?_bracket_of_ne different]
  rfl

theorem instanceScriptFrom_append {front : Text} (noBracket : '<' ∉ front) (rest : Text) :
    instanceScriptFrom 0 (front ++ rest) = instanceScriptFrom 0 rest := by
  induction front with
  | nil => rfl
  | cons first others inductionHypothesis =>
      rw [List.mem_cons, not_or] at noBracket
      rw [List.cons_append, instanceScriptFrom_cons, blockAtFront?_cons_of_ne (Ne.symm noBracket.1),
        inductionHypothesis noBracket.2]

/-- The script between two tags is what stands between them up to the first closing tag. -/
theorem instanceScriptFrom_script (script rest : Text) :
    instanceScriptFrom 0 ("<script>".toList ++ (script ++ ("</script>".toList ++ rest))) =
      ((bodyAndClosing? script).map Prod.fst).getD script := by
  have severs : Severs ("</script>".toList ++ rest) := .ofOpening _
  have search : bodyAndClosing? (script ++ ("</script>".toList ++ rest)) =
      (bodyAndClosing? script).or (some (script, "</script>".toList)) := by
    rw [bodyAndClosing?_append severs, bodyAndClosing?_script, Option.map_some, behind,
      List.append_nil]
  have starts : blockAtFront? ("<script>".toList ++ (script ++ ("</script>".toList ++ rest))) =
      ((bodyAndClosing? script).or (some (script, "</script>".toList))).map
        fun (body, closing) => ⟨[], body, closing⟩ := by
    rw [blockAtFront?_eq, show "<script>".toList ++ (script ++ ("</script>".toList ++ rest)) =
        "<script".toList ++ '>' :: (script ++ ("</script>".toList ++ rest)) from rfl,
      show ∀ other, dropCaseless? "<script".toList ("<script".toList ++ other) = some other from
        fun _ => rfl, Option.bind_some, blockBehind_bracket, search]
  rw [show "<script>".toList ++ (script ++ ("</script>".toList ++ rest)) =
    '<' :: ("script>".toList ++ (script ++ ("</script>".toList ++ rest))) from rfl] at starts ⊢
  rw [instanceScriptFrom_cons, starts]
  cases bodyAndClosing? script <;> rfl

end Markup

end EmbedScaffold
