import EmbedScaffold.Proofs.Markup.Block

/-!
# The script that is read and the script that is edited

Reading passes over whole script blocks until it meets one without a module mark.  An edit takes the
first place of the document at which a block without such a mark begins, and knows the mark in every
letter case.  The main statement tells exactly in which documents both take the same body.
-/

namespace EmbedScaffold

open Text

namespace Markup

/-! ## The blocks that reading meets -/

/-- The script blocks of a text that stands at an offset; `skip` characters still belong to a
block. -/
def scriptBlocksFrom (skip offset : Nat) : Text → List (Nat × ScriptBlock)
  | [] => []
  | first :: rest =>
      match skip with
      | more + 1 => scriptBlocksFrom more (offset + 1) rest
      | 0 =>
          match blockAtFront? (first :: rest) with
          | none => scriptBlocksFrom 0 (offset + 1) rest
          | some block => (offset, block) :: scriptBlocksFrom (block.length - 1) (offset + 1) rest

theorem scriptBlocksFrom_cons (offset : Nat) (first : Char) (rest : Text) :
    scriptBlocksFrom 0 offset (first :: rest) =
      match blockAtFront? (first :: rest) with
      | none => scriptBlocksFrom 0 (offset + 1) rest
      | some block => (offset, block) :: scriptBlocksFrom (block.length - 1) (offset + 1) rest := by
  rfl

/-- The script blocks of a document with their offsets, one behind the other. -/
def scriptBlocks (content : Text) : List (Nat × ScriptBlock) :=
  scriptBlocksFrom 0 0 content

/-- Whether reading passes over a block. -/
def isPassed (found : Nat × ScriptBlock) : Bool :=
  hasModuleMark dropExact? found.2.attributes

def passedBlocks (content : Text) : List (Nat × ScriptBlock) :=
  (scriptBlocks content).takeWhile isPassed

/-- The block whose body is read, with its offset. -/
def readBlock? (content : Text) : Option (Nat × ScriptBlock) :=
  (scriptBlocks content).find? fun found => ! isPassed found

theorem instanceScriptFrom_eq (skip offset : Nat) (content : Text) :
    instanceScriptFrom skip content =
      (((scriptBlocksFrom skip offset content).find? fun found => ! isPassed found).map
        fun found => found.2.body).getD [] := by
  induction content generalizing skip offset with
  | nil => rfl
  | cons first rest inductionHypothesis =>
      cases skip with
      | succ more => exact inductionHypothesis more (offset + 1)
      | zero =>
          rw [instanceScriptFrom_cons, scriptBlocksFrom_cons]
          cases blockAtFront? (first :: rest) with
          | none => exact inductionHypothesis 0 (offset + 1)
          | some block =>
              dsimp only
              rw [List.find?_cons, isPassed]
              cases hasModuleMark dropExact? block.attributes with
              | false => rfl
              | true => exact inductionHypothesis (block.length - 1) (offset + 1)

theorem instanceScript_eq (content : Text) :
    instanceScript content = ((readBlock? content).map fun found => found.2.body).getD [] :=
  instanceScriptFrom_eq 0 0 content

section Blocks

variable {content : Text} {skip offset place : Nat} {block : ScriptBlock}
  {found : Nat × ScriptBlock}

theorem length_pos (block : ScriptBlock) : 0 < block.length := by
  simp only [ScriptBlock.length, ScriptBlock.openingLength]
  omega

/-- Every place at which a block begins lies within one of the blocks. -/
theorem exists_mem_scriptBlocksFrom (offset : Nat) (free : skip ≤ place)
    (starts : blockAtFront? (content.drop place) = some block) :
    ∃ found ∈ scriptBlocksFrom skip offset content,
      found.1 ≤ offset + place ∧ offset + place < found.1 + found.2.length := by
  induction content generalizing skip offset place with
  | nil =>
      rw [List.drop_nil] at starts
      cases starts
  | cons first rest inductionHypothesis =>
      cases skip with
      | succ more =>
          obtain ⟨before, rfl⟩ : ∃ before, place = before + 1 := ⟨place - 1, by omega⟩
          obtain ⟨found, member, within⟩ :=
            inductionHypothesis (offset + 1) (Nat.le_of_succ_le_succ free) starts
          exact ⟨found, member, by omega⟩
      | zero =>
          rw [scriptBlocksFrom_cons]
          cases here : blockAtFront? (first :: rest) with
          | none =>
              cases place with
              | zero =>
                  rw [List.drop_zero, here] at starts
                  cases starts
              | succ before =>
                  obtain ⟨found, member, within⟩ :=
                    inductionHypothesis (offset + 1) (Nat.zero_le before) starts
                  exact ⟨found, member, by omega⟩
          | some block =>
              by_cases inside : place < block.length
              · exact ⟨(offset, block), List.mem_cons_self, by dsimp only; omega⟩
              · have positive := length_pos block
                obtain ⟨before, rfl⟩ : ∃ before, place = before + 1 := ⟨place - 1, by omega⟩
                have free : block.length - 1 ≤ before := by omega
                obtain ⟨found, member, within⟩ := inductionHypothesis (offset + 1) free starts
                exact ⟨found, List.mem_cons_of_mem _ member, by omega⟩

theorem exists_place_of_mem (member : found ∈ scriptBlocksFrom skip offset content) :
    ∃ place, found.1 = offset + place ∧ skip ≤ place ∧
      blockAtFront? (content.drop place) = some found.2 := by
  induction content generalizing skip offset with
  | nil => cases member
  | cons first rest inductionHypothesis =>
      cases skip with
      | succ more =>
          obtain ⟨place, isAt, free, starts⟩ := inductionHypothesis member
          exact ⟨place + 1, by omega, by omega, starts⟩
      | zero =>
          rw [scriptBlocksFrom_cons] at member
          cases here : blockAtFront? (first :: rest) with
          | none =>
              rw [here] at member
              obtain ⟨place, isAt, free, starts⟩ := inductionHypothesis member
              exact ⟨place + 1, by omega, by omega, starts⟩
          | some block =>
              rw [here] at member
              rcases List.mem_cons.mp member with rfl | later
              · exact ⟨0, rfl, Nat.le_refl 0, here⟩
              · obtain ⟨place, isAt, free, starts⟩ := inductionHypothesis later
                exact ⟨place + 1, by omega, by omega, starts⟩

theorem blockAtFront?_of_mem (member : found ∈ scriptBlocks content) :
    blockAtFront? (content.drop found.1) = some found.2 := by
  obtain ⟨place, isAt, -, starts⟩ := exists_place_of_mem member
  rwa [isAt, Nat.zero_add]

theorem pairwise_scriptBlocksFrom (skip offset : Nat) (content : Text) :
    (scriptBlocksFrom skip offset content).Pairwise fun earlier later =>
      earlier.1 + earlier.2.length ≤ later.1 := by
  induction content generalizing skip offset with
  | nil => exact List.Pairwise.nil
  | cons first rest inductionHypothesis =>
      cases skip with
      | succ more => exact inductionHypothesis more (offset + 1)
      | zero =>
          rw [scriptBlocksFrom_cons]
          cases blockAtFront? (first :: rest) with
          | none => exact inductionHypothesis 0 (offset + 1)
          | some block =>
              refine List.pairwise_cons.mpr ⟨fun later member => ?_, inductionHypothesis _ _⟩
              obtain ⟨place, isAt, free, -⟩ := exists_place_of_mem member
              dsimp only
              omega

end Blocks

/-! ## Where a body begins -/

section Body

variable {content : Text} {place other : Nat} {block within : ScriptBlock}

theorem getLast?_of_closingTag? {closing : Text} (found : closingTag? content = some closing) :
    closing.getLast? = some '>' := by
  rw [closingTag?_eq] at found
  obtain ⟨rest, ended, rfl⟩ := Option.map_eq_some_iff.mp found
  obtain ⟨behind, named, bracket⟩ := Option.bind_eq_some_iff.mp ended
  obtain ⟨front, rfl, -, -⟩ := exists_of_dropCaseless? named
  obtain ⟨blanks, -, rfl⟩ := exists_blanks_append (dropExact?_eq_some.mp bracket)
  have shape : front ++ (blanks ++ (['>'] ++ rest)) = (front ++ blanks ++ ['>']) ++ rest := by simp
  rw [shape, List.length_append, Nat.add_sub_cancel, List.take_left, List.getLast?_concat]

theorem getLast?_of_bodyAndClosing? {body closing : Text}
    (found : bodyAndClosing? content = some (body, closing)) : closing.getLast? = some '>' := by
  obtain ⟨name, -, rfl, -, -, again⟩ := exists_of_bodyAndClosing? found
  have tag := again []
  rw [List.append_nil, bodyAndClosing?_cons] at tag
  split at tag
  · next same =>
      cases tag
      exact getLast?_of_closingTag? same
  · next absent =>
      obtain ⟨pair, -, same⟩ := Option.map_eq_some_iff.mp tag
      cases same

/-- The body of a block begins behind the first bracket that closes a tag. -/
theorem exists_opening (starts : blockAtFront? content = some block) :
    ∃ opening inner, content = opening ++ '>' :: inner ∧ '>' ∉ opening ∧
      block.openingLength = opening.length + 1 ∧
      bodyAndClosing? inner = some (block.body, block.closing) := by
  rw [blockAtFront?_eq] at starts
  obtain ⟨behindName, named, behind⟩ := Option.bind_eq_some_iff.mp starts
  obtain ⟨letters, rfl, length, again⟩ := exists_of_dropCaseless? named
  by_cases closed : '>' ∈ behindName
  · obtain ⟨attributes, inner, rfl, openEnded⟩ := List.eq_append_cons_of_mem closed
    rw [blockBehind_append openEnded, List.nil_append, blockBehind_bracket] at behind
    obtain ⟨⟨body, closing⟩, search, rfl⟩ := Option.map_eq_some_iff.mp behind
    have openName : '>' ∉ letters :=
      notMem_of_dropCaseless? (again []) length (forall_of_all (by decide +kernel))
    refine ⟨letters ++ attributes, inner, (List.append_assoc _ _ _).symm, ?_, ?_, search⟩
    · simp [openName, openEnded]
    · rw [ScriptBlock.openingLength, List.length_append, length]
      rfl
  · rw [blockBehind_of_notMem closed] at behind
    cases behind

theorem opening_unique {left right leftInner rightInner : Text} (leftOpen : '>' ∉ left)
    (rightOpen : '>' ∉ right) (same : left ++ '>' :: leftInner = right ++ '>' :: rightInner) :
    left = right ∧ leftInner = rightInner := by
  have upToBracket (front inner : Text) (openEnded : '>' ∉ front) :
      (front ++ '>' :: inner).takeWhile (· ≠ '>') = front := by
    have kept : ∀ tested ∈ front, decide (tested ≠ '>') = true := fun tested member =>
      decide_eq_true fun isBracket => openEnded (isBracket ▸ member)
    rw [List.takeWhile_append_of_pos kept]
    simp
  have sameOpening : left = right := by
    rw [← upToBracket left leftInner leftOpen, same, upToBracket right rightInner rightOpen]
  subst sameOpening
  exact ⟨rfl, (List.cons.inj (List.append_cancel_left same)).2⟩

/-- A block that begins within the opening tag of another one has the same body. -/
theorem body_of_opening (starts : blockAtFront? (content.drop place) = some block)
    (startsWithin : blockAtFront? (content.drop other) = some within) (behind : place ≤ other)
    (inside : other < place + block.openingLength) :
    other + within.openingLength = place + block.openingLength ∧ within.body = block.body := by
  obtain ⟨opening, inner, parts, openEnded, length, search⟩ := exists_opening starts
  obtain ⟨openingWithin, innerWithin, partsWithin, openWithin, lengthWithin, searchWithin⟩ :=
    exists_opening startsWithin
  have short : other - place ≤ opening.length := by omega
  have dropped : content.drop other = opening.drop (other - place) ++ '>' :: inner := by
    rw [← List.drop_append_of_le_length short, ← parts, List.drop_drop]
    congr 1
    omega
  have openLater : '>' ∉ opening.drop (other - place) := fun member =>
    openEnded (List.mem_of_mem_drop member)
  obtain ⟨rfl, rfl⟩ := opening_unique openWithin openLater (partsWithin.symm.trans dropped)
  rw [List.length_drop] at lengthWithin
  rw [search] at searchWithin
  exact ⟨by omega, (Prod.ext_iff.mp (Option.some.inj searchWithin)).1.symm⟩

/-- The body of a block that begins within another one begins no later than that one ends. -/
theorem openingLength_le_of_within (starts : blockAtFront? (content.drop place) = some block)
    (startsWithin : blockAtFront? (content.drop other) = some within) (behind : place ≤ other)
    (inside : other < place + block.length) :
    other + within.openingLength ≤ place + block.length := by
  obtain ⟨opening, inner, parts, openEnded, length, search⟩ := exists_opening starts
  obtain ⟨openingWithin, innerWithin, partsWithin, openWithin, lengthWithin, -⟩ :=
    exists_opening startsWithin
  obtain ⟨name, rest, -, rfl, -, -⟩ := exists_of_bodyAndClosing? search
  obtain ⟨tag, closing⟩ := List.getLast?_eq_some_iff.mp (getLast?_of_bodyAndClosing? search)
  -- The block ends with a bracket, and no opening tag goes beyond one.
  let front := opening ++ '>' :: (block.body ++ tag)
  have whole : content.drop place = front ++ '>' :: rest := by
    rw [parts, closing]
    simp [front]
  have lengths : block.length = front.length + 1 := by
    rw [ScriptBlock.length, length, closing]
    simp only [front, List.length_append, List.length_cons, List.length_nil]
    omega
  have short : other - place ≤ front.length := by omega
  have dropped : content.drop other = front.drop (other - place) ++ '>' :: rest := by
    rw [← List.drop_append_of_le_length short, ← whole, List.drop_drop]
    congr 1
    omega
  have bounded : openingWithin.length ≤ (front.drop (other - place)).length := by
    by_contra beyond
    apply openWithin
    have upToEnd : front.drop (other - place) ++ ['>'] <+: content.drop other :=
      ⟨rest, by rw [dropped, List.append_assoc, List.singleton_append]⟩
    have upToBracket : openingWithin <+: content.drop other := ⟨_, partsWithin.symm⟩
    have inTag := List.prefix_of_prefix_length_le upToEnd upToBracket (by
      rw [List.length_append, List.length_singleton]
      omega)
    exact inTag.subset (by simp)
  rw [List.length_drop] at bounded
  omega

end Body

/-! ## The block that an edit takes -/

section Search

variable {content : Text} {place offset : Nat} {block : ScriptBlock}

theorem exists_findInstance? (offset : Nat)
    (starts : instanceAtFront? (content.drop place) = some block) :
    ∃ first block, findInstance? offset content = some (offset + first, block) ∧
      first ≤ place := by
  induction content generalizing offset place with
  | nil =>
      rw [List.drop_nil] at starts
      cases starts
  | cons letter rest inductionHypothesis =>
      rw [findInstance?_cons]
      cases here : instanceAtFront? (letter :: rest) with
      | some block => exact ⟨0, block, rfl, Nat.zero_le place⟩
      | none =>
          cases place with
          | zero =>
              rw [List.drop_zero, here] at starts
              cases starts
          | succ before =>
              obtain ⟨first, block, search, bounded⟩ :=
                inductionHypothesis (offset + 1) starts
              refine ⟨first + 1, block, ?_, by omega⟩
              dsimp only
              rw [search, Nat.add_assoc, Nat.add_comm 1]

theorem instanceAtFront?_of_findInstance? (search : findInstance? 0 content = some (place, block)) :
    instanceAtFront? (content.drop place) = some block := by
  obtain ⟨front, rest, rfl, rfl, starts, -⟩ := exists_of_findInstance? search
  rwa [Nat.zero_add, List.drop_left]

theorem blockAtFront?_of_instanceAtFront? (starts : instanceAtFront? content = some block) :
    blockAtFront? content = some block ∧
      hasModuleMark dropCaseless? block.attributes = false := by
  obtain ⟨found, unmarked⟩ := Option.filter_eq_some_iff.mp starts
  exact ⟨found, by simpa using unmarked⟩

end Search

/-! ## Where both take the same body -/

/-- Whether an edit can take a place of a document for the beginning of the instance script. -/
def ShowsInstance (content : Text) (place : Nat) : Prop :=
  (instanceAtFront? (content.drop place)).isSome

/-- The place and the text of a block's body. -/
def bodyAt (found : Nat × ScriptBlock) : Nat × Text :=
  (found.1 + found.2.openingLength, found.2.body)

/-- No block that reading passes over hides a beginning of the instance script, and the opening tag
of the block that is read shows one. -/
structure ShowsPlainly (content : Text) : Prop where
  passed : ∀ found ∈ passedBlocks content, ∀ place, found.1 < place →
    place < found.1 + found.2.length → ¬ ShowsInstance content place
  read : ∀ found ∈ readBlock? content, ∃ place, found.1 ≤ place ∧
    place < found.1 + found.2.openingLength ∧ ShowsInstance content place

section Marks

variable {wanted content behind : Text}

theorem dropCaseless?_of_dropExact? (small : ∀ letter ∈ wanted, letter.toLower = letter)
    (dropped : dropExact? wanted content = some behind) :
    dropCaseless? wanted content = some behind := by
  rw [dropExact?_eq_some.mp dropped]
  clear dropped
  induction wanted with
  | nil => rfl
  | cons letter rest inductionHypothesis =>
      have here : matchesCaseless letter letter = true := by
        simp [matchesCaseless, small letter List.mem_cons_self]
      rw [List.cons_append, dropCaseless?, if_pos here]
      exact inductionHypothesis fun later member => small later (List.mem_cons_of_mem _ member)

/-- A mark that reading knows is known to an edit. -/
theorem hasModuleMark_of_exact (marked : hasModuleMark dropExact? content = true) :
    hasModuleMark dropCaseless? content = true := by
  have begins {rest : Text} (exactly : beginsModuleMark dropExact? rest = true) :
      beginsModuleMark dropCaseless? rest = true := by
    obtain ⟨whole, shape⟩ := Option.isSome_iff_exists.mp exactly
    obtain ⟨behindName, named, shape⟩ := Option.bind_eq_some_iff.mp shape
    obtain ⟨behindEquals, equals, shape⟩ := Option.bind_eq_some_iff.mp shape
    obtain ⟨value, opened, shape⟩ := Option.bind_eq_some_iff.mp shape
    obtain ⟨behindValue, valued, closed⟩ := Option.bind_eq_some_iff.mp shape
    have namedAlike := dropCaseless?_of_dropExact? (forall_of_all (by decide)) named
    have valuedAlike := dropCaseless?_of_dropExact? (forall_of_all (by decide)) valued
    simp only [beginsModuleMark, namedAlike, equals, opened, valuedAlike, closed, bind,
      Option.bind_some, Option.isSome_some]
  induction content with
  | nil => cases marked
  | cons first rest inductionHypothesis =>
      rw [hasModuleMark, Bool.or_eq_true] at marked ⊢
      exact marked.imp begins inductionHypothesis

end Marks

section Agreement

variable {content : Text} {place : Nat} {block : ScriptBlock} {found read : Nat × ScriptBlock}

/-- The blocks of a document are those that reading passes over, the one that it takes, and others
behind it. -/
theorem scriptBlocks_eq (content : Text) :
    (readBlock? content = none ∧ scriptBlocks content = passedBlocks content) ∨
      ∃ read later, readBlock? content = some read ∧
        scriptBlocks content = passedBlocks content ++ read :: later := by
  have parts : passedBlocks content ++ (scriptBlocks content).dropWhile isPassed =
      scriptBlocks content := List.takeWhile_append_dropWhile
  have taken : readBlock? content = ((scriptBlocks content).dropWhile isPassed).head? := by
    rw [readBlock?, List.find?_not_eq_head?_dropWhile]
  cases behind : (scriptBlocks content).dropWhile isPassed with
  | nil =>
      rw [behind] at parts taken
      rw [List.append_nil] at parts
      exact .inl ⟨taken, parts.symm⟩
  | cons read later =>
      rw [behind] at parts taken
      exact .inr ⟨read, later, taken, parts.symm⟩

theorem passed_before_read (passed : found ∈ passedBlocks content)
    (reads : readBlock? content = some read) : found.1 + found.2.length ≤ read.1 := by
  have ordered := pairwise_scriptBlocksFrom 0 0 content
  rcases scriptBlocks_eq content with ⟨absent, -⟩ | ⟨taken, later, takes, parts⟩
  · rw [absent] at reads
    cases reads
  · rw [takes] at reads
    cases reads
    rw [← scriptBlocks, parts] at ordered
    exact (List.pairwise_append.mp ordered).2.2 found passed read List.mem_cons_self

/-- A place that shows the instance script is within a block that reading passes over, or reading
takes a block that begins no later. -/
theorem passed_or_read (shows : ShowsInstance content place) :
    (∃ found ∈ passedBlocks content, found.1 < place ∧ place < found.1 + found.2.length) ∨
      ∃ read, readBlock? content = some read ∧ read.1 ≤ place := by
  obtain ⟨block, starts⟩ := Option.isSome_iff_exists.mp shows
  obtain ⟨startsBlock, unmarked⟩ := blockAtFront?_of_instanceAtFront? starts
  obtain ⟨found, member, notBefore, within⟩ :=
    exists_mem_scriptBlocksFrom 0 (Nat.zero_le place) startsBlock
  rw [Nat.zero_add] at notBefore within
  have inPassed (passed : found ∈ passedBlocks content) : found.1 < place := by
    apply Nat.lt_of_le_of_ne notBefore
    intro same
    have startsFound := blockAtFront?_of_mem member
    rw [same, startsBlock] at startsFound
    have marked : isPassed found = true := List.mem_takeWhile_imp passed
    rw [isPassed, ← Option.some.inj startsFound] at marked
    rw [hasModuleMark_of_exact marked] at unmarked
    cases unmarked
  have ordered := pairwise_scriptBlocksFrom 0 0 content
  rw [← scriptBlocks] at member ordered
  rcases scriptBlocks_eq content with ⟨-, parts⟩ | ⟨read, later, takes, parts⟩
  · rw [parts] at member
    exact .inl ⟨found, member, inPassed member, within⟩
  · rw [parts] at member ordered
    rcases List.mem_append.mp member with passed | taken
    · exact .inl ⟨found, passed, inPassed passed, within⟩
    · refine .inr ⟨read, takes, ?_⟩
      rcases List.mem_cons.mp taken with rfl | behind
      · exact notBefore
      · have apart := (List.pairwise_cons.mp (List.pairwise_append.mp ordered).2.1).1 found behind
        omega

theorem showsInstance_of_findInstance? (search : findInstance? 0 content = some (place, block)) :
    ShowsInstance content place :=
  Option.isSome_iff_exists.mpr ⟨block, instanceAtFront?_of_findInstance? search⟩

/-- An edit that takes the body that is read takes it from the block that is read. -/
theorem read_le_of_bodyAt (search : findInstance? 0 content = some (place, block))
    (reads : readBlock? content = some read) (same : bodyAt (place, block) = bodyAt read) :
    read.1 ≤ place := by
  have begin : place + block.openingLength = read.1 + read.2.openingLength :=
    (Prod.ext_iff.mp same).1
  rcases passed_or_read (showsInstance_of_findInstance? search) with
    ⟨found, passed, behind, within⟩ | ⟨taken, takes, notBefore⟩
  · -- The body of a block within a passed one begins before the block that is read.
    have starts := (blockAtFront?_of_instanceAtFront? (instanceAtFront?_of_findInstance? search)).1
    have bounded := openingLength_le_of_within
      (blockAtFront?_of_mem ((List.takeWhile_sublist _).subset passed)) starts behind.le within
    have apart := passed_before_read passed reads
    have positive : 0 < read.2.openingLength := Nat.succ_pos _
    omega
  · rw [takes] at reads
    cases reads
    exact notBefore

theorem showsPlainly_of_bodyAt
    (same : (findInstance? 0 content).map bodyAt = (readBlock? content).map bodyAt) :
    ShowsPlainly content := by
  refine ⟨fun found passed place behind within shows => ?_, fun read reads => ?_⟩
  · obtain ⟨_, starts⟩ := Option.isSome_iff_exists.mp shows
    obtain ⟨first, block, search, bounded⟩ := exists_findInstance? 0 starts
    rw [Nat.zero_add] at search
    rw [search] at same
    obtain ⟨read, reads, sameBody⟩ := Option.map_eq_some_iff.mp same.symm
    have notBefore := read_le_of_bodyAt search reads sameBody.symm
    have apart := passed_before_read passed reads
    omega
  · rw [Option.mem_def] at reads
    rw [reads] at same
    obtain ⟨⟨first, block⟩, search, sameBody⟩ := Option.map_eq_some_iff.mp same
    refine ⟨first, read_le_of_bodyAt search reads sameBody, ?_,
      showsInstance_of_findInstance? search⟩
    have begin : first + block.openingLength = read.1 + read.2.openingLength :=
      (Prod.ext_iff.mp sameBody).1
    have positive : 0 < block.openingLength := Nat.succ_pos _
    omega

theorem findInstance?_eq_none_of_readBlock? (plain : ShowsPlainly content)
    (reads : readBlock? content = none) : findInstance? 0 content = none := by
  cases search : findInstance? 0 content with
  | none => rfl
  | some found =>
      have shows := showsInstance_of_findInstance? search
      rcases passed_or_read shows with ⟨around, passed, behind, within⟩ | ⟨read, takes, -⟩
      · exact absurd shows (plain.passed around passed found.1 behind within)
      · rw [reads] at takes
        cases takes

/-- Where the scripts show plainly, an edit begins its block within the opening tag of the block
that is read. -/
theorem bodyAt_of_showsPlainly (plain : ShowsPlainly content)
    (reads : readBlock? content = some read) :
    (findInstance? 0 content).map bodyAt = some (bodyAt read) := by
  obtain ⟨place, notBefore, inOpening, shows⟩ := plain.read read reads
  obtain ⟨_, starts⟩ := Option.isSome_iff_exists.mp shows
  obtain ⟨first, block, search, bounded⟩ := exists_findInstance? 0 starts
  rw [Nat.zero_add] at search
  have showsFirst := showsInstance_of_findInstance? search
  rcases passed_or_read showsFirst with ⟨around, passed, behind, within⟩ | ⟨taken, takes, le⟩
  · exact absurd showsFirst (plain.passed around passed first behind within)
  · rw [reads] at takes
    cases takes
    have startsFirst := instanceAtFront?_of_findInstance? search
    obtain ⟨begins, sameBody⟩ := body_of_opening
      (blockAtFront?_of_mem (List.mem_of_find?_eq_some reads))
      (blockAtFront?_of_instanceAtFront? startsFirst).1 le (by omega)
    rw [search, Option.map_some]
    exact congrArg some (Prod.ext begins sameBody)

end Agreement

/-- An edit takes the very body that is read if and only if the scripts of the document show
plainly.  The text of the body that is read is the instance script. -/
theorem findInstance?_bodyAt_iff (content : Text) :
    ((findInstance? 0 content).map bodyAt = (readBlock? content).map bodyAt ↔
        ShowsPlainly content) ∧
      instanceScript content = ((readBlock? content).map fun found => found.2.body).getD [] := by
  refine ⟨⟨showsPlainly_of_bodyAt, fun plain => ?_⟩, instanceScript_eq content⟩
  cases reads : readBlock? content with
  | none => rw [findInstance?_eq_none_of_readBlock? plain reads]
  | some read => exact bodyAt_of_showsPlainly plain reads

/-- A module script may name the opening tag of a script in a comment, and a mark may be written in
capitals: an edit then takes another script than the one that is read. -/
theorem edited_ne_instanceScript :
    let commented := ("<script context=\"module\">\n  // <script>\n</script>\n" ++
      "<script>\n  let title;\n</script>\n").toList
    let capital := "<script CONTEXT='module'></script><script>\n  let title;\n</script>\n".toList
    ∀ content ∈ [commented, capital],
      ((findInstance? 0 content).map fun found => found.2.body).getD [] ≠
        instanceScript content := by
  decide +kernel

end Markup

end EmbedScaffold
