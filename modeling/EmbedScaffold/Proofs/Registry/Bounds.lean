import EmbedScaffold.Proofs.Token.TopLevel
import EmbedScaffold.Proofs.Registry.Layout

/-!
# Indices of a mapping

A mapping is read through the indices of its tokens.  Here each of them is looked up for what it is:
a token or a pair that is not there ends the reading.  In an accepted document none is missing, so
that what stands for a missing one in `Mapping.find?` is never used.
-/

namespace EmbedScaffold

open Lexeme

/-! ## Searching -/

namespace Document

/-- `topLevelWhere`, unless a token or the end of a bracket is missing. -/
def topLevelWithin? (document : Document) (wanted : Token → Bool) (start stop : Nat) :
    Option (List Nat) :=
  if start < stop then
    match document.token? start with
    | none => none
    | some token =>
        if token.isOpener then
          match document.pairs.lookup start with
          | none => none
          | some closing => topLevelWithin? document wanted (max start closing + 1) stop
        else
          (topLevelWithin? document wanted (start + 1) stop).map fun others =>
            if wanted token then start :: others else others
  else some []
termination_by stop - start

variable {document : Document}

theorem topLevelWithin?_eq (paired : Paired document.tokens.toList document.pairs)
    {wanted : Token → Bool} {start stop : Nat} (within : stop ≤ document.tokens.size) :
    document.topLevelWithin? wanted start stop =
      some (document.topLevelWhere wanted start stop) := by
  fun_induction topLevelWhere document wanted start stop with
  | case1 start before absent =>
      obtain ⟨token, here⟩ := exists_token (Nat.lt_of_lt_of_le before within)
      rw [absent] at here
      cases here
  | case2 start before token here isOpener inductionHypothesis =>
      obtain ⟨closing, member⟩ := paired.exists_closer (token?_eq ▸ here) isOpener
      rw [closer_of_mem paired member] at inductionHypothesis ⊢
      rw [topLevelWithin?, if_pos before, here]
      dsimp only
      rw [if_pos isOpener, paired.lookup member]
      exact inductionHypothesis
  | case3 start before token here notOpener others isWanted inductionHypothesis =>
      rw [topLevelWithin?, if_pos before, here]
      dsimp only
      rw [if_neg notOpener, inductionHypothesis, Option.map_some, if_pos isWanted]
  | case4 start before token here notOpener others notWanted inductionHypothesis =>
      rw [topLevelWithin?, if_pos before, here]
      dsimp only
      rw [if_neg notOpener, inductionHypothesis, Option.map_some, if_neg notWanted]
  | case5 start ended => rw [topLevelWithin?, if_neg ended]

end Document

/-! ## Reading -/

namespace Mapping

/-- `entryKey`, unless a token is missing. -/
def keyWithin? (document : Document) (first stop : Nat) : Option (Option Text) :=
  if first + 1 < stop then
    (document.token? (first + 1)).map fun _ => entryKey document first stop
  else some (entryKey document first stop)

/-- Where the value of an entry begins, unless a token is missing. -/
def valueWithin? (document : Document) (head : Token) (stop : Nat) (key : Option Text)
    (colons : List Nat) : Option Nat :=
  match key, colons with
  | some _, colon :: _ =>
      if colon + 1 < stop then (document.token? (colon + 1)).map Token.start else some head.start
  | _, _ => some head.start

/-- `entryAt`, unless a token is missing. -/
def entryWithin? (document : Document) (first stop : Nat) : Option Entry := do
  let head ← document.token? first
  let last ← document.token? (stop - 1)
  let key ← keyWithin? document first stop
  let colons ← document.topLevelWithin?
    (fun token => token.kind = .punct && token.value = [':']) first stop
  let valueStart ← valueWithin? document head stop key colons
  some ⟨key, head.start, last.stop, valueStart⟩

/-- `entriesFrom`, unless a token is missing. -/
def entriesWithin? (document : Document) (name : Text) (start : Nat) :
    List Nat → Option (Except PatchFault (List Entry))
  | [] => some (.ok [])
  | [closing] =>
      if start < closing then (entryWithin? document start closing).map fun entry => .ok [entry]
      else some (.ok [])
  | boundary :: boundaries =>
      if start < boundary then do
        let entry ← entryWithin? document start boundary
        let others ← entriesWithin? document name (boundary + 1) boundaries
        some (others.map (entry :: ·))
      else (document.token? boundary).map fun token => .error (.emptyEntry name token.start)

/-- The offset behind the last separator, if it stands before the closing brace. -/
def trailingComma? (document : Document) (closing : Nat) (separators : List Nat) : Option Nat :=
  match separators.getLast? with
  | some last => if last + 1 = closing then some (document.stopOf last) else none
  | none => none

/-- `trailingComma?`, unless a token is missing. -/
def trailingWithin? (document : Document) (closing : Nat) (separators : List Nat) :
    Option (Option Nat) :=
  match separators.getLast? with
  | some last =>
      if last + 1 = closing then (document.token? last).map fun token => some token.stop
      else some none
  | none => some none

/-- `ofBrace`, unless a token or the end of the brace is missing. -/
def ofBraceWithin? (document : Document) (name : Text) (brace : Nat) :
    Option (Except PatchFault Mapping) := do
  let opener ← document.token? brace
  let closing ← document.pairs.lookup brace
  let closer ← document.token? closing
  let separators ← document.topLevelWithin?
    (fun token => token.kind = .punct && token.value = [',']) (brace + 1) closing
  let entries ← entriesWithin? document name (brace + 1) (separators ++ [closing])
  let trailingComma ← trailingWithin? document closing separators
  some (entries.map fun entries => ⟨opener.start, closer.start, entries, trailingComma⟩)

/-- `find?`, unless a token or the end of a brace is missing. -/
def findWithin? (document : Document) (name : Text) :
    Option (Except PatchFault (Option Mapping)) :=
  match braceFrom? name 0 none document.tokens.toList with
  | none => some (.ok none)
  | some brace => (ofBraceWithin? document name brace).map (·.map some)

variable {document : Document} {name : Text}

theorem keyWithin?_eq {first stop : Nat} (within : stop ≤ document.tokens.size) :
    keyWithin? document first stop = some (entryKey document first stop) := by
  rw [keyWithin?]
  split
  · next more =>
      obtain ⟨following, isFollowing⟩ :=
        document.exists_token (Nat.lt_of_lt_of_le more within)
      rw [isFollowing]
      rfl
  · rfl

theorem entryWithin?_eq (paired : Paired document.tokens.toList document.pairs) {first stop : Nat}
    (nonempty : first < stop) (within : stop ≤ document.tokens.size) :
    entryWithin? document first stop = some (entryAt document first stop) := by
  obtain ⟨head, isHead⟩ := document.exists_token (Nat.lt_of_lt_of_le nonempty within)
  obtain ⟨last, isLast⟩ := document.exists_token (show stop - 1 < document.tokens.size by omega)
  have value : valueWithin? document head stop (entryKey document first stop)
      (document.topLevel [':'] first stop) = some (entryAt document first stop).valueStart := by
    cases keyed : entryKey document first stop with
    | none => simp only [valueWithin?, entryAt, keyed, document.startOf_eq isHead]
    | some key =>
        cases found : document.topLevel [':'] first stop with
        | nil => simp only [valueWithin?, entryAt, keyed, found, document.startOf_eq isHead]
        | cons colon others =>
            simp only [valueWithin?, entryAt, keyed, found, document.startOf_eq isHead]
            split
            · next more =>
                obtain ⟨behind, isBehind⟩ :=
                  document.exists_token (Nat.lt_of_lt_of_le more within)
                rw [isBehind, document.startOf_eq isBehind]
                rfl
            · rfl
  rw [entryWithin?, isHead, isLast, keyWithin?_eq within,
    Document.topLevelWithin?_eq paired within]
  simp only [Option.bind_eq_bind, Option.bind_some]
  rw [← Document.topLevel, value, Option.bind_some, entryAt, document.startOf_eq isHead,
    document.stopOf_eq isLast]

theorem entriesWithin?_eq (paired : Paired document.tokens.toList document.pairs) {start : Nat}
    {boundaries : List Nat} (within : ∀ boundary ∈ boundaries, boundary < document.tokens.size) :
    entriesWithin? document name start boundaries =
      some (entriesFrom document name start boundaries) := by
  fun_induction entriesFrom document name start boundaries with
  | case1 => rfl
  | case2 start closing =>
      have inside := within closing List.mem_cons_self
      rw [entriesWithin?]
      split
      · next nonempty => rw [entryWithin?_eq paired nonempty (Nat.le_of_lt inside)]; rfl
      · rfl
  | case3 start boundary boundaries more nonempty inductionHypothesis =>
      have inside := within boundary List.mem_cons_self
      rw [entriesWithin?, if_pos nonempty, entryWithin?_eq paired nonempty (Nat.le_of_lt inside),
        inductionHypothesis fun other member => within other (List.mem_cons_of_mem _ member)]
      · rfl
      · exact more
  | case4 start boundary boundaries more empty =>
      obtain ⟨token, here⟩ := document.exists_token (within boundary List.mem_cons_self)
      rw [entriesWithin?, if_neg empty, here, document.startOf_eq here]
      · rfl
      · exact more

theorem trailingWithin?_eq {closing : Nat} (within : closing ≤ document.tokens.size)
    (separators : List Nat) :
    trailingWithin? document closing separators =
      some (trailingComma? document closing separators) := by
  rw [trailingWithin?, trailingComma?]
  cases separators.getLast? with
  | none => rfl
  | some last =>
      dsimp only
      split
      · obtain ⟨token, here⟩ := document.exists_token (show last < document.tokens.size by omega)
        rw [here, document.stopOf_eq here]
        rfl
      · rfl

/-- Two tokens are braces that are paired. -/
structure Braces (document : Document) (brace closing : Nat) : Prop where
  paired : (brace, closing) ∈ document.pairs
  opener : ∃ token, document.token? brace = some token ∧ token.isPunct '\x7b' = true
  closer : ∃ token, document.token? closing = some token ∧ token.isPunct '\x7d' = true

/-- The brace that is located is one of a pair. -/
theorem exists_braces (paired : Paired document.tokens.toList document.pairs) {brace : Nat}
    (located : braceFrom? name 0 none document.tokens.toList = some brace) :
    ∃ closing, Braces document brace closing := by
  obtain ⟨lead, opener, rest, shape, rfl, -, isBrace⟩ := braceFrom?_shape located
  rw [Nat.zero_add]
  have here : document.token? lead.length = some opener := by
    rw [Document.token?_eq, shape, List.getElem?_append_right (Nat.le_refl _), Nat.sub_self,
      List.getElem?_cons_zero]
  have opens : opener.closing? = some '\x7d' := by
    rw [Token.closing?, mark?_of_isPunct isBrace]
    rfl
  obtain ⟨closing, member⟩ :=
    paired.exists_closer (Document.token?_eq ▸ here) (isOpener_of_closing opens)
  obtain ⟨other, closer, mark, there, closes, isCloser, isPunct⟩ := paired.matching _ member
  rw [← Document.token?_eq] at there isCloser
  obtain rfl := Option.some.inj (here.symm.trans there)
  obtain rfl := Option.some.inj (opens.symm.trans closes)
  exact ⟨closing, member, ⟨opener, here, isBrace⟩, closer, isCloser, isPunct⟩

theorem ofBrace_eq (paired : Paired document.tokens.toList document.pairs) {brace closing : Nat}
    (member : (brace, closing) ∈ document.pairs) :
    ofBrace document name brace =
      (entriesFrom document name (brace + 1)
        (document.topLevel [','] (brace + 1) closing ++ [closing])).map fun entries =>
          ⟨document.startOf brace, document.startOf closing, entries,
            trailingComma? document closing (document.topLevel [','] (brace + 1) closing)⟩ := by
  rw [ofBrace, document.closer_of_mem paired member]
  rfl

theorem ofBraceWithin?_eq (paired : Paired document.tokens.toList document.pairs)
    {brace closing : Nat} (braces : Braces document brace closing) :
    ofBraceWithin? document name brace = some (ofBrace document name brace) := by
  obtain ⟨member, ⟨opener, isOpener, -⟩, closer, isCloser, -⟩ := braces
  have within := Nat.le_of_lt (document.lt_size isCloser)
  have separators : ∀ boundary ∈ document.topLevel [','] (brace + 1) closing ++ [closing],
      boundary < document.tokens.size := by
    intro boundary among
    rcases List.mem_append.mp among with isSeparator | isLast
    · have bounds := (Document.mem_topLevelWhere paired within).mp isSeparator
      omega
    · rw [List.mem_singleton.mp isLast]
      exact document.lt_size isCloser
  rw [ofBraceWithin?, isOpener, paired.lookup member, ofBrace_eq paired member]
  simp only [Option.bind_eq_bind, Option.bind_some, isCloser]
  rw [Document.topLevelWithin?_eq paired within, Option.bind_some, ← Document.topLevel,
    entriesWithin?_eq paired separators, Option.bind_some, trailingWithin?_eq within,
    Option.bind_some, document.startOf_eq isOpener, document.startOf_eq isCloser]

/-- No index that a mapping is read through is out of range. -/
theorem findWithin?_eq (paired : Paired document.tokens.toList document.pairs) (name : Text) :
    findWithin? document name = some (find? document name) := by
  cases located : braceFrom? name 0 none document.tokens.toList with
  | none => simp only [findWithin?, find?, located]
  | some brace =>
      obtain ⟨closing, braces⟩ := exists_braces paired located
      simp only [findWithin?, find?, located, ofBraceWithin?_eq paired braces, Option.map_some]

end Mapping

end EmbedScaffold
