import EmbedScaffold.Proofs.Token.Nesting

/-!
# Documents and their lexemes

A scanned document is the text of its lexemes, its tokens are theirs, and its brackets match.  The
queries that edits make of a document, which bracket closes another one and where marks stand
outside all brackets, are answered here for a document whose lexemes are known.
-/

namespace EmbedScaffold

open Scan Lexeme

/-! ## Pairs of brackets -/

section Pairs

variable {index offset : Nat} {pending : List (Nat × Token)} {pairs : List (Nat × Nat)}

theorem pairBracketsFrom_opener {token : Token} (isOpener : token.isOpener = true)
    (rest : List Token) :
    pairBracketsFrom index pending (token :: rest) =
      pairBracketsFrom (index + 1) ((index, token) :: pending) rest := by
  rw [pairBracketsFrom.eq_def]
  simp only [isOpener, if_true]

theorem pairBracketsFrom_plain {token : Token} (notOpener : token.isOpener = false)
    (notCloser : token.isCloser = false) (rest : List Token) :
    pairBracketsFrom index pending (token :: rest) =
      pairBracketsFrom (index + 1) pending rest := by
  rw [pairBracketsFrom.eq_def]
  simp only [notOpener, notCloser, Bool.false_eq_true, if_false]

theorem pairBracketsFrom_closer {token opener : Token} {openedAt : Nat} {expected : Char}
    (notOpener : token.isOpener = false) (isCloser : token.isCloser = true)
    (opens : opener.closing? = some expected) (isPunct : token.isPunct expected = true)
    (rest : List Token) :
    pairBracketsFrom index ((openedAt, opener) :: pending) (token :: rest) =
      (pairBracketsFrom (index + 1) pending rest).map ((openedAt, index) :: ·) := by
  rw [pairBracketsFrom.eq_def]
  simp only [notOpener, isCloser, opens, isPunct, Bool.false_eq_true, if_false, if_true]

theorem pairBracketsFrom_closer_iff {token opener : Token} {openedAt : Nat} {expected : Char}
    (notOpener : token.isOpener = false) (isCloser : token.isCloser = true)
    (opens : opener.closing? = some expected) (rest : List Token) :
    (∃ pairs, pairBracketsFrom index ((openedAt, opener) :: pending) (token :: rest) =
        .ok pairs) ↔
      token.isPunct expected = true ∧
        ∃ pairs, pairBracketsFrom (index + 1) pending rest = .ok pairs := by
  by_cases isPunct : token.isPunct expected = true
  · rw [pairBracketsFrom_closer notOpener isCloser opens isPunct, and_iff_right isPunct]
    constructor
    · rintro ⟨_, paired⟩
      obtain ⟨others, behind, -⟩ := exists_of_map paired
      exact ⟨others, behind⟩
    · rintro ⟨others, behind⟩
      rw [behind]
      exact ⟨_, rfl⟩
  · rw [pairBracketsFrom.eq_def]
    simp [notOpener, isCloser, opens, isPunct]

/-- The brackets of lexemes are paired exactly if they match. -/
theorem pairBracketsFrom_isOk (index offset : Nat) {marks : List Char} {lexemes : List Lexeme}
    (same : pending.map (fun opened => opened.2.closing?) = marks.map some) :
    (∃ pairs, pairBracketsFrom index pending (tokensAt offset lexemes) = .ok pairs) ↔
      closes marks lexemes = true := by
  induction lexemes generalizing index offset pending marks with
  | nil =>
      cases pending with
      | nil =>
          obtain rfl : marks = [] := List.map_eq_nil_iff.mp same.symm
          exact ⟨fun _ => rfl, fun _ => ⟨[], rfl⟩⟩
      | cons opened outer =>
          cases marks with
          | nil => cases same
          | cons mark others =>
              constructor
              · rintro ⟨_, impossible⟩
                cases impossible
              · intro impossible
                cases impossible
  | cons lexeme rest inductionHypothesis =>
      have alike := kindred_tokenAt offset lexeme
      rw [tokensAt]
      cases opens : lexeme.token.closing? with
      | some mark =>
          rw [pairBracketsFrom_opener (alike.isOpener.trans (isOpener_of_closing opens)),
            closes_opener _ _ opens]
          apply inductionHypothesis
          rw [List.map_cons, List.map_cons, same, alike.closing?, opens]
      | none =>
          have notOpener : lexeme.token.isOpener = false := by rw [Token.isOpener, opens]; rfl
          cases isCloser : lexeme.token.isCloser with
          | false =>
              rw [pairBracketsFrom_plain (alike.isOpener.trans notOpener)
                (alike.isCloser.trans isCloser), closes_plain _ _ notOpener isCloser]
              exact inductionHypothesis _ _ same
          | true =>
              have tokenNotOpener := alike.isOpener.trans notOpener
              have tokenIsCloser := alike.isCloser.trans isCloser
              cases pending with
              | nil =>
                  obtain rfl : marks = [] := List.map_eq_nil_iff.mp same.symm
                  rw [pairBracketsFrom.eq_def, closes_nil_closer _ notOpener isCloser]
                  simp [tokenNotOpener, tokenIsCloser]
              | cons opened outer =>
                  cases marks with
                  | nil => cases same
                  | cons mark others =>
                      rw [List.map_cons, List.map_cons, List.cons.injEq] at same
                      rw [pairBracketsFrom_closer_iff tokenNotOpener tokenIsCloser same.1,
                        alike.isPunct, closes_closer _ _ _ notOpener isCloser,
                        Bool.and_eq_true_iff, inductionHypothesis _ _ same.2]
                      rfl

theorem pairBrackets_isOk {lexemes : List Lexeme} :
    (∃ pairs, pairBrackets (tokensAt 0 lexemes) = .ok pairs) ↔ closes [] lexemes = true :=
  pairBracketsFrom_isOk 0 0 List.map_nil

theorem pairBracketsFrom_cases {token : Token} {rest : List Token}
    (paired : pairBracketsFrom index pending (token :: rest) = .ok pairs) :
    (token.isOpener = true ∧
        pairBracketsFrom (index + 1) ((index, token) :: pending) rest = .ok pairs) ∨
      (∃ openedAt opener outer others, pending = (openedAt, opener) :: outer ∧
        pairs = (openedAt, index) :: others ∧
        pairBracketsFrom (index + 1) outer rest = .ok others) ∨
      pairBracketsFrom (index + 1) pending rest = .ok pairs := by
  rw [pairBracketsFrom.eq_def] at paired
  dsimp only at paired
  split at paired
  · next isOpener => exact Or.inl ⟨isOpener, paired⟩
  · split at paired
    · split at paired
      · cases paired
      · next openedAt opener outer =>
          split at paired
          · cases paired
          · split at paired
            · obtain ⟨others, behind, rfl⟩ := exists_of_map paired
              exact Or.inr (Or.inl ⟨openedAt, opener, outer, others, rfl, rfl, behind⟩)
            · cases paired
    · exact Or.inr (Or.inr paired)

/-- Pairing goes on behind the front of a document with the brackets that it leaves open. -/
theorem pairBracketsFrom_front {front rest : List Token}
    (paired : pairBracketsFrom index pending (front ++ rest) = .ok pairs)
    (before : ∀ opened ∈ pending, opened.1 < index) :
    ∃ done others left, pairs = done ++ others ∧
      (∀ pair ∈ done, pair.1 < index + front.length) ∧
      pairBracketsFrom (index + front.length) left rest = .ok others := by
  induction front generalizing index pending pairs with
  | nil => exact ⟨[], pairs, pending, rfl, by simp, paired⟩
  | cons token more inductionHypothesis =>
      have goesOn {open_ : List (Nat × Token)} {others : List (Nat × Nat)}
          (behind : pairBracketsFrom (index + 1) open_ (more ++ rest) = .ok others)
          (earlier : ∀ opened ∈ open_, opened.1 < index + 1) := inductionHypothesis behind earlier
      have shift : index + 1 + more.length = index + (token :: more).length := by
        rw [List.length_cons]
        omega
      rw [shift] at goesOn
      rcases pairBracketsFrom_cases paired with
        ⟨_, behind⟩ | ⟨openedAt, opener, outer, others, rfl, rfl, behind⟩ | behind
      · refine goesOn behind fun opened member => ?_
        rcases List.mem_cons.mp member with rfl | later
        · exact Nat.lt_succ_self index
        · exact Nat.lt_succ_of_lt (before opened later)
      · obtain ⟨done, later, left, rfl, bound, finished⟩ := goesOn behind fun opened member =>
          Nat.lt_succ_of_lt (before opened (List.mem_cons_of_mem _ member))
        refine ⟨(openedAt, index) :: done, later, left, rfl, fun pair member => ?_, finished⟩
        rcases List.mem_cons.mp member with rfl | inDone
        · exact Nat.lt_of_lt_of_le (before _ List.mem_cons_self) (Nat.le_add_right _ _)
        · exact bound pair inDone
      · exact goesOn behind fun opened member => Nat.lt_succ_of_lt (before opened member)

/-- The brackets of a nest are paired among themselves. -/
theorem pairBracketsFrom_nest {stops : Lexeme → Bool} {nested : List Lexeme}
    (nest : Nest stops nested) {rest : List Token}
    (paired : pairBracketsFrom index pending (tokensAt offset nested ++ rest) = .ok pairs) :
    ∃ done others, pairs = done ++ others ∧ (∀ pair ∈ done, index ≤ pair.1) ∧
      pairBracketsFrom (index + nested.length) pending rest = .ok others := by
  induction nest generalizing index offset pending pairs rest with
  | nil => exact ⟨[], pairs, rfl, by simp, paired⟩
  | @plain stops lexeme more notOpener notCloser _ _ inductionHypothesis =>
      have alike := kindred_tokenAt offset lexeme
      rw [tokensAt, List.cons_append, pairBracketsFrom_plain (alike.isOpener.trans notOpener)
        (alike.isCloser.trans notCloser)] at paired
      obtain ⟨done, others, rfl, bound, finished⟩ := inductionHypothesis paired
      refine ⟨done, others, rfl, fun pair member => Nat.le_of_succ_le (bound pair member), ?_⟩
      rwa [List.length_cons, Nat.add_comm more.length, ← Nat.add_assoc]
  | @group stops opener closer mark inner more opens closing _ _ innerHypothesis
      restHypothesis =>
      have openerAlike := kindred_tokenAt offset opener
      rw [tokensAt, List.cons_append, pairBracketsFrom_opener
        (openerAlike.isOpener.trans (isOpener_of_closing opens)), tokensAt_append,
        List.append_assoc] at paired
      obtain ⟨innerDone, behind, rfl, innerBound, innerPaired⟩ := innerHypothesis paired
      have closerAlike := kindred_tokenAt
        (offset + opener.text.length + (textOf inner).length) closer
      rw [tokensAt, List.cons_append, pairBracketsFrom_closer
        (closerAlike.isOpener.trans (isOpener_of_closer opens closing))
        (closerAlike.isCloser.trans (isCloser_of_closing opens closing))
        (openerAlike.closing?.trans opens) ((closerAlike.isPunct mark).trans closing)]
        at innerPaired
      obtain ⟨restPairs, restPaired, rfl⟩ := exists_of_map innerPaired
      obtain ⟨restDone, others, rfl, restBound, finished⟩ := restHypothesis restPaired
      refine ⟨innerDone ++ (index, index + 1 + inner.length) :: restDone, others, by simp, ?_,
        ?_⟩
      · intro pair member
        rcases List.mem_append.mp member with inInner | behind
        · exact Nat.le_of_succ_le (innerBound pair inInner)
        · rcases List.mem_cons.mp behind with rfl | inRest
          · exact Nat.le_refl index
          · have bound := restBound pair inRest
            omega
      · rw [← finished, List.length_cons, List.length_append, List.length_cons]
        congr 1
        omega

end Pairs

/-! ## Scanned documents -/

/-- A document whose lexemes are known, with the gap behind them. -/
structure Scanned (document : Document) (lexemes : List Lexeme) (after : Text) : Prop where
  content : document.content = textOf lexemes ++ after
  tokens : document.tokens.toList = tokensAt 0 lexemes
  pairs : pairBrackets (tokensAt 0 lexemes) = .ok document.pairs
  fits : Fits true lexemes after
  trailing : Trailing after

namespace Scanned

variable {document : Document} {lexemes : List Lexeme} {after : Text}

theorem ofText_ok {content : Text} (scanned : Document.ofText content = .ok document) :
    document.content = content ∧ ∃ lexemes after, Scanned document lexemes after := by
  rw [Document.ofText] at scanned
  obtain ⟨tokens, tokenized, pairs⟩ := exists_of_bind scanned
  obtain ⟨pairs, paired, same⟩ := exists_of_bind pairs
  cases same
  obtain ⟨lexemes, after, shape, fits, trailing, rfl⟩ := exists_fits tokenized
  exact ⟨rfl, lexemes, after, shape, rfl, paired, fits, trailing⟩

theorem size_eq (scanned : Scanned document lexemes after) :
    document.tokens.size = lexemes.length := by
  rw [← Array.length_toList, scanned.tokens, tokensAt_length]

theorem closes (scanned : Scanned document lexemes after) : closes [] lexemes = true :=
  pairBrackets_isOk.mp ⟨_, scanned.pairs⟩

variable {front back : List Lexeme}

theorem token? {lexeme : Lexeme} (scanned : Scanned document (front ++ lexeme :: back) after) :
    document.token? front.length = some (lexeme.tokenAt (textOf front).length) := by
  rw [Document.token?, ← Array.getElem?_toList, scanned.tokens, tokensAt_append]
  rw [List.getElem?_append_right (Nat.le_of_eq (tokensAt_length 0 front)), tokensAt_length,
    Nat.sub_self, Nat.zero_add]
  rfl

theorem startOf {lexeme : Lexeme} (scanned : Scanned document (front ++ lexeme :: back) after) :
    document.startOf front.length = (textOf front).length + lexeme.gap.length := by
  rw [Document.startOf, scanned.token?]
  rfl

theorem stopOf {lexeme : Lexeme} (scanned : Scanned document (front ++ lexeme :: back) after) :
    document.stopOf front.length = (textOf front).length + lexeme.text.length := by
  rw [Document.stopOf, scanned.token?]
  rfl

theorem closer_eq {opener closer : Lexeme} {mark : Char} {inner : List Lexeme}
    (scanned : Scanned document (front ++ opener :: (inner ++ closer :: back)) after)
    (opens : opener.token.closing? = some mark) (closing : closer.isPunct mark = true)
    (balanced : Balanced inner) :
    document.closer front.length = front.length + inner.length + 1 := by
  have paired := scanned.pairs
  rw [tokensAt_append, tokensAt, tokensAt_append, tokensAt] at paired
  obtain ⟨done, others, left, pairs, earlier, behind⟩ :=
    pairBracketsFrom_front paired (fun _ member => by cases member)
  rw [tokensAt_length, Nat.zero_add] at earlier behind
  have openerAlike := kindred_tokenAt (0 + (textOf front).length) opener
  rw [pairBracketsFrom_opener (openerAlike.isOpener.trans (isOpener_of_closing opens))] at behind
  obtain ⟨innerDone, outer, rfl, later, closed⟩ := pairBracketsFrom_nest balanced behind
  have closerAlike := kindred_tokenAt
    (0 + (textOf front).length + opener.text.length + (textOf inner).length) closer
  rw [pairBracketsFrom_closer (closerAlike.isOpener.trans (isOpener_of_closer opens closing))
    (closerAlike.isCloser.trans (isCloser_of_closing opens closing))
    (openerAlike.closing?.trans opens) ((closerAlike.isPunct mark).trans closing)] at closed
  obtain ⟨restPairs, restPaired, rfl⟩ := exists_of_map closed
  have notEarlier : List.lookup front.length done = none := by
    rw [List.lookup_eq_none_iff]
    intro pair member
    have bound := earlier pair member
    exact bne_iff_ne.mpr (by omega)
  have notInner : List.lookup front.length innerDone = none := by
    rw [List.lookup_eq_none_iff]
    intro pair member
    have bound := later pair member
    exact bne_iff_ne.mpr (by omega)
  rw [Document.closer, pairs, List.lookup_append, notEarlier, Option.none_or,
    List.lookup_append, notInner, Option.none_or, List.lookup_cons_self, Option.getD_some]
  omega

/-! ## Passing over a lexeme and over a group -/

theorem pass_plain {lexeme : Lexeme} {rest : List Lexeme}
    (scanned : Scanned document (front ++ (lexeme :: rest ++ back)) after) :
    Scanned document ((front ++ [lexeme]) ++ (rest ++ back)) after := by
  rw [List.append_assoc]
  exact scanned

theorem at_group {opener closer : Lexeme} {inner rest : List Lexeme}
    (scanned : Scanned document (front ++ (opener :: (inner ++ closer :: rest) ++ back)) after) :
    Scanned document (front ++ opener :: (inner ++ closer :: (rest ++ back))) after := by
  rw [List.cons_append, List.append_assoc] at scanned
  exact scanned

theorem pass_group {opener closer : Lexeme} {inner rest : List Lexeme}
    (scanned : Scanned document (front ++ (opener :: (inner ++ closer :: rest) ++ back)) after) :
    Scanned document ((front ++ opener :: (inner ++ [closer])) ++ (rest ++ back)) after := by
  rw [List.append_assoc, List.cons_append, List.append_assoc]
  exact scanned.at_group

theorem length_group (front : List Lexeme) (opener : Lexeme) (inner : List Lexeme)
    (closer : Lexeme) :
    (front ++ opener :: (inner ++ [closer])).length = front.length + (inner.length + 2) := by
  rw [List.length_append, List.length_cons, List.length_append, List.length_singleton]

/-! ## Marks outside all brackets -/

theorem topLevelWhere_cons {lexeme : Lexeme} {wanted : Token → Bool} {stop : Nat}
    (scanned : Scanned document (front ++ lexeme :: back) after) (within : front.length < stop)
    (notOpener : lexeme.token.isOpener = false) :
    document.topLevelWhere wanted front.length stop =
      if wanted (lexeme.tokenAt (textOf front).length) then
        front.length :: document.topLevelWhere wanted (front.length + 1) stop
      else document.topLevelWhere wanted (front.length + 1) stop := by
  have alike := kindred_tokenAt (textOf front).length lexeme
  rw [Document.topLevelWhere, if_pos within, scanned.token?]
  dsimp only
  rw [if_neg (by rw [alike.isOpener, notOpener]; exact Bool.false_ne_true)]

theorem topLevelWhere_group {opener closer : Lexeme} {mark : Char} {inner : List Lexeme}
    {wanted : Token → Bool} {stop : Nat}
    (scanned : Scanned document (front ++ opener :: (inner ++ closer :: back)) after)
    (within : front.length < stop) (opens : opener.token.closing? = some mark)
    (closing : closer.isPunct mark = true) (balanced : Balanced inner) :
    document.topLevelWhere wanted front.length stop =
      document.topLevelWhere wanted (front.length + (inner.length + 2)) stop := by
  have alike := kindred_tokenAt (textOf front).length opener
  have forward : max front.length (front.length + inner.length + 1) + 1 =
      front.length + (inner.length + 2) := by
    omega
  rw [Document.topLevelWhere, if_pos within, scanned.token?]
  dsimp only
  rw [if_pos (alike.isOpener.trans (isOpener_of_closing opens)),
    scanned.closer_eq opens closing balanced, forward]

theorem topLevel_self (mark : Text) (start : Nat) : document.topLevel mark start start = [] := by
  rw [Document.topLevel, Document.topLevelWhere, if_neg (Nat.lt_irrefl start)]

variable {stops : Lexeme → Bool} {nested : List Lexeme}

/-- Looking for tokens passes over a nest without them. -/
theorem topLevelWhere_nest {wanted : Token → Bool} {stop : Nat}
    (avoids : ∀ (lexeme : Lexeme) (offset : Nat), stops lexeme = false →
      wanted (lexeme.tokenAt offset) = false)
    (nest : Nest stops nested) {front : List Lexeme}
    (scanned : Scanned document (front ++ (nested ++ back)) after)
    (within : front.length + nested.length ≤ stop) :
    document.topLevelWhere wanted front.length stop =
      document.topLevelWhere wanted (front.length + nested.length) stop := by
  induction nest generalizing front with
  | nil => rfl
  | @plain _ lexeme rest notOpener notCloser goesOn _ inductionHypothesis =>
      have unwanted := avoids lexeme (textOf front).length goesOn
      rw [List.length_cons] at within ⊢
      have length : (front ++ [lexeme]).length = front.length + 1 := List.length_append
      have behind := inductionHypothesis avoids scanned.pass_plain (by omega)
      rw [length] at behind
      rw [topLevelWhere_cons scanned (by omega) notOpener, unwanted, if_neg Bool.false_ne_true]
      rw [← Nat.add_assoc, Nat.add_right_comm]
      exact behind
  | @group _ opener closer _ inner rest opens closing balanced _ _ inductionHypothesis =>
      rw [List.length_cons, List.length_append, List.length_cons] at within ⊢
      have length := length_group front opener inner closer
      have behind := inductionHypothesis avoids scanned.pass_group (by omega)
      rw [length] at behind
      rw [topLevelWhere_group scanned.at_group (by omega) opens closing balanced]
      refine behind.trans (congrArg (document.topLevelWhere wanted · stop) ?_)
      omega

/-- A document that is a nest without the wanted tokens has none of them outside brackets. -/
theorem topLevelWhere_whole {wanted : Token → Bool}
    (scanned : Scanned document nested after)
    (avoids : ∀ (lexeme : Lexeme) (offset : Nat), stops lexeme = false →
      wanted (lexeme.tokenAt offset) = false)
    (nest : Nest stops nested) :
    document.topLevelWhere wanted 0 document.tokens.size = [] := by
  have whole : Scanned document ([] ++ (nested ++ [])) after := by
    rwa [List.nil_append, List.append_nil]
  have passed := topLevelWhere_nest avoids nest whole (Nat.le_of_eq (Nat.zero_add _))
  have finished : document.topLevelWhere wanted nested.length nested.length = [] := by
    rw [Document.topLevelWhere, if_neg (Nat.lt_irrefl _)]
  rw [List.length_nil, Nat.zero_add, finished] at passed
  rw [scanned.size_eq, passed]

/-- Looking for a mark passes over a nest without it. -/
theorem topLevel_nest {mark : Char} {stop : Nat}
    (avoids : ∀ lexeme : Lexeme, stops lexeme = false → lexeme.isPunct mark = false)
    (nest : Nest stops nested) {front : List Lexeme}
    (scanned : Scanned document (front ++ (nested ++ back)) after)
    (within : front.length + nested.length ≤ stop) :
    document.topLevel [mark] front.length stop =
      document.topLevel [mark] (front.length + nested.length) stop :=
  topLevelWhere_nest (fun lexeme _ goesOn => avoids lexeme goesOn) nest scanned within

theorem topLevel_mark {mark : Char} {lexeme : Lexeme} {stop : Nat}
    (scanned : Scanned document (front ++ lexeme :: back) after) (within : front.length < stop)
    (notOpener : lexeme.token.isOpener = false) (isPunct : lexeme.isPunct mark = true) :
    document.topLevel [mark] front.length stop =
      front.length :: document.topLevel [mark] (front.length + 1) stop := by
  have wanted : ((lexeme.tokenAt (textOf front).length).kind = .punct &&
      (lexeme.tokenAt (textOf front).length).value = [mark]) = true := isPunct
  rw [Document.topLevel, topLevelWhere_cons scanned within notOpener, wanted, if_pos rfl]
  rfl

/-- A nest in which a mark is not found outside all brackets avoids the mark. -/
theorem nest_of_topLevel {mark : Char} {stop : Nat} (nest : Nest stops nested)
    {front : List Lexeme} (scanned : Scanned document (front ++ (nested ++ back)) after)
    (within : front.length + nested.length ≤ stop)
    (absent : document.topLevel [mark] front.length stop = []) :
    Nest (·.isPunct mark) nested := by
  induction nest generalizing front with
  | nil => exact .nil _
  | @plain _ lexeme rest notOpener notCloser goesOn _ inductionHypothesis =>
      rw [List.length_cons] at within
      rw [Document.topLevel, topLevelWhere_cons scanned (by omega) notOpener] at absent
      split at absent
      · cases absent
      · next unwanted =>
          refine .plain notOpener notCloser (Bool.eq_false_iff.mpr unwanted)
            (inductionHypothesis scanned.pass_plain
              (by rw [List.length_append, List.length_singleton]; omega) ?_)
          rw [List.length_append, List.length_singleton]
          exact absent
  | @group _ opener closer _ inner rest opens closing balanced _ _ inductionHypothesis =>
      rw [List.length_cons, List.length_append, List.length_cons] at within
      rw [Document.topLevel,
        topLevelWhere_group scanned.at_group (by omega) opens closing balanced] at absent
      refine .group opens closing balanced (inductionHypothesis scanned.pass_group
        (by rw [length_group]; omega) ?_)
      rw [length_group]
      exact absent

end Scanned

/-- Lexemes that fit and whose brackets match are a document. -/
theorem exists_scanned {lexemes : List Lexeme} {after : Text} (fits : Fits true lexemes after)
    (trailing : Trailing after) (closed : closes [] lexemes = true) :
    ∃ document, Document.ofText (textOf lexemes ++ after) = .ok document ∧
      Scanned document lexemes after := by
  obtain ⟨pairs, paired⟩ := pairBrackets_isOk.mpr closed
  refine ⟨⟨textOf lexemes ++ after, (tokensAt 0 lexemes).toArray, pairs⟩, ?_, rfl, rfl, paired,
    fits, trailing⟩
  rw [Document.ofText, scan_fits fits trailing]
  simp only [bind, Except.bind, paired, pure, Except.pure]

end EmbedScaffold
