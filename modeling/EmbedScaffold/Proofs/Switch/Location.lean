import EmbedScaffold.Proofs.Registry.Layout
import EmbedScaffold.Proofs.Switch.Branch

/-!
# Locating a switch

A function and the switch in it are located by the tokens before the opening brace of the switch
and by the brackets around it.  So they are located at the same place whatever stands between the
braces of the switch, as long as brackets match there.
-/

namespace EmbedScaffold

open Scan Lexeme

/-! ## Brackets around braces -/

namespace Lexeme

/-- The front of lexemes whose brackets are closed leaves some brackets open and closes none that
were open before. -/
theorem exists_opened {opened : List Char} {front rest : List Lexeme}
    (closed : closes opened (front ++ rest) = true) :
    ∃ left, ∀ pending others,
      closes (opened ++ pending) (front ++ others) = closes (left ++ pending) others := by
  induction front generalizing opened with
  | nil => exact ⟨opened, fun _ _ => rfl⟩
  | cons first more inductionHypothesis =>
      rw [List.cons_append] at closed
      cases opens : first.token.closing? with
      | some mark =>
          rw [closes_opener _ _ opens] at closed
          obtain ⟨left, same⟩ := inductionHypothesis closed
          refine ⟨left, fun pending others => ?_⟩
          rw [List.cons_append, closes_opener _ _ opens]
          exact same pending others
      | none =>
          have notOpener : first.token.isOpener = false := by rw [Token.isOpener, opens]; rfl
          cases isCloser : first.token.isCloser with
          | false =>
              rw [closes_plain _ _ notOpener isCloser] at closed
              obtain ⟨left, same⟩ := inductionHypothesis closed
              refine ⟨left, fun pending others => ?_⟩
              rw [List.cons_append, closes_plain _ _ notOpener isCloser]
              exact same pending others
          | true =>
              cases opened with
              | nil =>
                  rw [closes_nil_closer _ notOpener isCloser] at closed
                  cases closed
              | cons expected outer =>
                  rw [closes_closer _ _ _ notOpener isCloser, Bool.and_eq_true_iff] at closed
                  obtain ⟨left, same⟩ := inductionHypothesis closed.2
                  refine ⟨left, fun pending others => ?_⟩
                  rw [List.cons_append, List.cons_append,
                    closes_closer _ _ _ notOpener isCloser, closed.1, Bool.true_and]
                  exact same pending others

theorem Nest.closes_nil {stops : Lexeme → Bool} {nested : List Lexeme} (nest : Nest stops nested) :
    closes [] nested = true := by
  rw [← List.append_nil nested, nest.closes_append]
  rfl

/-- An opening bracket in lexemes whose brackets match is closed in them. -/
theorem not_balanced_of_open {opener : Lexeme} {mark : Char} {front inner rest : List Lexeme}
    (opens : opener.token.closing? = some mark) (innerBalanced : Balanced (inner ++ rest)) :
    ¬ Balanced (front ++ opener :: inner) := by
  intro balanced
  have closed := balanced.closes_nil
  obtain ⟨outer, frontSame⟩ := exists_opened closed
  obtain ⟨open_, innerSame⟩ := exists_opened innerBalanced.closes_nil
  have behind := innerSame (mark :: outer) []
  have same := frontSame [] (opener :: inner)
  rw [List.append_nil, closes_opener _ _ opens] at same
  rw [List.append_nil, List.nil_append] at behind
  rw [List.append_nil] at same
  have stuck := (closed.symm.trans same).trans behind
  cases open_ <;> cases stuck

/-- A pair of braces with matching brackets between them closes what it opens. -/
theorem closes_braces {brace closing : Lexeme} {inner : List Lexeme}
    (opens : brace.isPunct '\x7b' = true) (balanced : Balanced inner)
    (isClosing : closing.isPunct '\x7d' = true) (pending : List Char) (rest : List Lexeme) :
    closes pending (brace :: (inner ++ closing :: rest)) = closes pending rest := by
  have braceCloses := closing_of_brace opens
  rw [closes_opener _ _ braceCloses, balanced.closes_append,
    closes_closer _ _ _ (isOpener_of_closer braceCloses isClosing)
      (isCloser_of_closing braceCloses isClosing), isClosing, Bool.true_and]

/-- A bracket that is opened before a pair of braces is closed before or behind both. -/
theorem closes_around {opener brace closing : Lexeme} {mark : Char} {pending : List Char}
    {more inner rest : List Lexeme} (opened : opener.token.closing? = some mark)
    (opens : brace.token.closing? = some '\x7d') (balanced : Balanced inner)
    (closed : closes (mark :: pending) (more ++ brace :: (inner ++ closing :: rest)) = true) :
    (∃ nest closer behind, more = nest ++ closer :: behind ∧ Balanced nest ∧
        closer.isPunct mark = true) ∨
      ∃ nest closer behind, rest = nest ++ closer :: behind ∧
        Balanced (more ++ brace :: (inner ++ closing :: nest)) ∧ closer.isPunct mark = true := by
  obtain ⟨nest, closer, behind, shape, nestBalanced, isPunct, _⟩ := exists_balanced closed
  have notBrace : brace ≠ closer := by
    rintro rfl
    have notOpener := isOpener_of_closer opened isPunct
    rw [isOpener_of_closing opens] at notOpener
    cases notOpener
  rcases List.append_eq_append_iff.mp shape with ⟨front, rfl, split⟩ | ⟨front, moreShape, split⟩
  · cases front with
    | nil => exact absurd (List.cons.inj split).1 notBrace
    | cons first others =>
        obtain ⟨rfl, innerShape⟩ := List.cons.inj split
        -- the bracket cannot be closed between the braces, where all brackets match
        rcases List.append_eq_append_iff.mp innerShape with
          ⟨middle, rfl, restSplit⟩ | ⟨left, rfl, _⟩
        · cases middle with
          | nil =>
              rw [← List.append_nil inner] at balanced
              rw [List.append_nil] at nestBalanced
              exact absurd nestBalanced (not_balanced_of_open opens balanced)
          | cons second nested =>
              obtain ⟨rfl, rfl⟩ := List.cons.inj restSplit
              exact Or.inr ⟨nested, closer, behind, rfl, nestBalanced, isPunct⟩
        · exact absurd nestBalanced (not_balanced_of_open opens balanced)
  · cases front with
    | nil => exact absurd (List.cons.inj split).1.symm notBrace
    | cons first others =>
        obtain ⟨rfl, _⟩ := List.cons.inj split
        exact Or.inl ⟨nest, closer, others, moreShape, nestBalanced, isPunct⟩

end Lexeme

/-! ## Reading a document by index -/

namespace Scanned

variable {document : Document} {lexemes : List Lexeme} {after : Text}

theorem token?_at (scanned : Scanned document lexemes after) (index : Nat) :
    document.token? index =
      lexemes[index]?.map (·.tokenAt (textOf (lexemes.take index)).length) := by
  by_cases within : index ≤ lexemes.length
  · have cut := List.take_append_drop index lexemes
    have found := (cut.symm ▸ scanned).token?_eq
    rw [List.length_take_of_le within, List.head?_drop] at found
    exact found
  · have outside : lexemes.length ≤ index := Nat.le_of_lt (Nat.lt_of_not_le within)
    rw [List.getElem?_eq_none outside, Document.token?, ← Array.getElem?_toList, scanned.tokens,
      List.getElem?_eq_none (by rwa [tokensAt_length])]
    rfl

theorem isWordAt_eq (scanned : Scanned document lexemes after) (index : Nat) (name : Text) :
    document.isWordAt index name = (lexemes[index]?.map (·.token.isWord name)).getD false := by
  rw [Document.isWordAt, scanned.token?_at, Option.map_map]
  rfl

theorem isPunctAt_eq (scanned : Scanned document lexemes after) (index : Nat) (mark : Char) :
    document.isPunctAt index mark = (lexemes[index]?.map (·.isPunct mark)).getD false := by
  rw [Document.isPunctAt, scanned.token?_at, Option.map_map]
  rfl

theorem exists_isPunct (scanned : Scanned document lexemes after) {index : Nat} {mark : Char}
    (isPunct : document.isPunctAt index mark = true) :
    ∃ front lexeme back, lexemes = front ++ lexeme :: back ∧ front.length = index ∧
      lexeme.isPunct mark = true := by
  rw [scanned.isPunctAt_eq] at isPunct
  cases found : lexemes[index]? with
  | none =>
      rw [found] at isPunct
      cases isPunct
  | some lexeme =>
      rw [found] at isPunct
      obtain ⟨within, same⟩ := List.getElem?_eq_some_iff.mp found
      refine ⟨lexemes.take index, lexeme, lexemes.drop (index + 1), ?_,
        List.length_take_of_le (Nat.le_of_lt within), isPunct⟩
      rw [← same, List.getElem_cons_drop, List.take_append_drop]

theorem closing_of_isPunct {lexeme : Lexeme} {mark closing : Char}
    (isPunct : lexeme.isPunct mark = true) (opens : Token.closingMark? mark = some closing) :
    lexeme.token.closing? = some closing := by
  rw [Token.closing?, mark?_of_isPunct isPunct]
  exact opens

theorem exists_closer (scanned : Scanned document lexemes after) {index : Nat} {mark closing : Char}
    (isPunct : document.isPunctAt index mark = true)
    (opens : Token.closingMark? mark = some closing) :
    ∃ front opener inner closer back, lexemes = front ++ opener :: (inner ++ closer :: back) ∧
      front.length = index ∧ opener.isPunct mark = true ∧ Balanced inner ∧
      closer.isPunct closing = true ∧ document.closer index = index + inner.length + 1 := by
  obtain ⟨front, opener, behind, rfl, rfl, openerIs⟩ := scanned.exists_isPunct isPunct
  have openerCloses := closing_of_isPunct openerIs opens
  obtain ⟨pending, closed⟩ := exists_pending scanned.closes
  rw [closes_opener _ _ openerCloses] at closed
  obtain ⟨inner, closer, back, rfl, balanced, closerIs, _⟩ := exists_balanced closed
  exact ⟨front, opener, inner, closer, back, rfl, rfl, openerIs, balanced, closerIs,
    scanned.closer_eq openerCloses closerIs balanced⟩

theorem lt_closer (scanned : Scanned document lexemes after) {index : Nat} {mark closing : Char}
    (isPunct : document.isPunctAt index mark = true)
    (opens : Token.closingMark? mark = some closing) : index < document.closer index := by
  obtain ⟨front, opener, inner, closer, back, _, _, _, _, _, place⟩ :=
    scanned.exists_closer isPunct opens
  omega

end Scanned

theorem Document.lt_size_of_isPunctAt {document : Document} {index : Nat} {mark : Char}
    (isPunct : document.isPunctAt index mark = true) : index < document.tokens.size := by
  rw [Document.isPunctAt, Document.token?] at isPunct
  by_cases within : index < document.tokens.size
  · exact within
  · rw [Array.getElem?_eq_none (Nat.le_of_not_lt within)] at isPunct
    cases isPunct

/-! ## Documents that agree around braces -/

/-- Two documents agree up to an opening brace and from the closing one on: in the first there are
`width` tokens between them, in the other one `otherWidth`. -/
structure Alike (brace width otherWidth : Nat) (document other : Document) : Prop where
  word : ∀ index ≤ brace, ∀ name, other.isWordAt index name = document.isWordAt index name
  punct : ∀ index ≤ brace, ∀ mark, other.isPunctAt index mark = document.isPunctAt index mark
  behind : ∀ further mark, other.isPunctAt (brace + otherWidth + 2 + further) mark =
    document.isPunctAt (brace + width + 2 + further) mark
  closer : ∀ index < brace, ∀ mark closing, document.isPunctAt index mark = true →
    Token.closingMark? mark = some closing →
    (document.closer index < brace ∧ other.closer index = document.closer index) ∨
      ∃ further, document.closer index = brace + width + 2 + further ∧
        other.closer index = brace + otherWidth + 2 + further

theorem Alike.symm {brace width otherWidth : Nat} {document other : Document}
    (alike : Alike brace width otherWidth document other) :
    Alike brace otherWidth width other document where
  word index within name := (alike.word index within name).symm
  punct index within mark := (alike.punct index within mark).symm
  behind further mark := (alike.behind further mark).symm
  closer index within mark closing isPunct opens := by
    rw [alike.punct index (Nat.le_of_lt within)] at isPunct
    rcases alike.closer index within mark closing isPunct opens with
      ⟨inside, same⟩ | ⟨further, place, otherPlace⟩
    · exact Or.inl ⟨same ▸ inside, same.symm⟩
    · exact Or.inr ⟨further, otherPlace, place⟩

section Around

variable {lead inner otherInner rest : List Lexeme} {brace closing otherClosing : Lexeme}

theorem getElem?_lead {index : Nat} (within : index ≤ lead.length) (back : List Lexeme) :
    (lead ++ brace :: back)[index]? = (lead ++ [brace])[index]? := by
  rw [List.append_cons lead brace back, List.getElem?_append_left]
  rw [List.length_append, List.length_singleton]
  omega

theorem getElem?_behind (lead inner rest : List Lexeme) (brace closing : Lexeme) (further : Nat) :
    (lead ++ brace :: (inner ++ closing :: rest))[lead.length + inner.length + 2 + further]? =
      rest[further]? := by
  have shape : lead ++ brace :: (inner ++ closing :: rest) =
      (lead ++ brace :: (inner ++ [closing])) ++ rest := by
    simp
  rw [shape, Nat.add_assoc lead.length, ← Scanned.length_group lead brace inner closing,
    List.getElem?_append_right (Nat.le_add_right _ _), Nat.add_sub_cancel_left]

/-- Brackets match whatever balanced lexemes stand between braces among them. -/
theorem balanced_exchange {front behind : List Lexeme} (opens : brace.isPunct '\x7b' = true)
    (balanced : Balanced inner) (otherBalanced : Balanced otherInner)
    (closes : closing.isPunct '\x7d' = true) (otherCloses : otherClosing.isPunct '\x7d' = true)
    (around : Balanced (front ++ brace :: (inner ++ closing :: behind))) :
    Balanced (front ++ brace :: (otherInner ++ otherClosing :: behind)) := by
  have same : ∀ pending, Lexeme.closes pending (brace :: (otherInner ++ otherClosing :: behind)) =
      Lexeme.closes pending (brace :: (inner ++ closing :: behind)) := by
    intro pending
    rw [closes_braces opens otherBalanced otherCloses, closes_braces opens balanced closes]
  refine balanced_of_closes ?_
  rw [closes_congr same]
  exact around.closes_nil

variable {document other : Document} {after otherAfter : Text}

/-- A bracket before the braces is closed before them, or as far behind them in both documents. -/
theorem Scanned.closer_alike
    (scanned : Scanned document (lead ++ brace :: (inner ++ closing :: rest)) after)
    (otherScanned :
      Scanned other (lead ++ brace :: (otherInner ++ otherClosing :: rest)) otherAfter)
    (opens : brace.isPunct '\x7b' = true) (balanced : Balanced inner)
    (otherBalanced : Balanced otherInner) (closes : closing.isPunct '\x7d' = true)
    (otherCloses : otherClosing.isPunct '\x7d' = true) {index : Nat} (within : index < lead.length)
    {mark closingMark : Char} (isPunct : document.isPunctAt index mark = true)
    (isOpener : Token.closingMark? mark = some closingMark) :
    (document.closer index < lead.length ∧ other.closer index = document.closer index) ∨
      ∃ further, document.closer index = lead.length + inner.length + 2 + further ∧
        other.closer index = lead.length + otherInner.length + 2 + further := by
  rw [scanned.isPunctAt_eq, getElem?_lead (Nat.le_of_lt within),
    List.getElem?_append_left within] at isPunct
  cases found : lead[index]? with
  | none =>
      rw [found] at isPunct
      cases isPunct
  | some opener =>
      rw [found] at isPunct
      obtain ⟨_, same⟩ := List.getElem?_eq_some_iff.mp found
      have openerCloses : opener.token.closing? = some closingMark :=
        closing_of_isPunct isPunct isOpener
      obtain ⟨before, more, rfl, place⟩ : ∃ before more, lead = before ++ opener :: more ∧
          before.length = index := by
        refine ⟨lead.take index, lead.drop (index + 1), ?_,
          List.length_take_of_le (Nat.le_of_lt within)⟩
        rw [← same, List.getElem_cons_drop, List.take_append_drop]
      subst place
      have cut (back : List Lexeme) : before ++ opener :: more ++ brace :: back =
          before ++ opener :: (more ++ brace :: back) := by simp
      rw [cut] at scanned otherScanned
      obtain ⟨pending, closed⟩ := exists_pending scanned.closes
      rw [closes_opener _ _ openerCloses] at closed
      -- the bracket is closed in front of the braces or around them
      rcases closes_around openerCloses (closing_of_brace opens) balanced closed with
        ⟨nest, closer, others, rfl, nestBalanced, closerIs⟩ |
          ⟨nest, closer, others, rfl, nestBalanced, closerIs⟩
      · have parts (back : List Lexeme) : before ++ opener :: (nest ++ closer :: others ++ back) =
            before ++ opener :: (nest ++ closer :: (others ++ back)) := by simp
        rw [parts] at scanned otherScanned
        rw [scanned.closer_eq openerCloses closerIs nestBalanced,
          otherScanned.closer_eq openerCloses closerIs nestBalanced]
        refine Or.inl ⟨?_, rfl⟩
        simp only [List.length_append, List.length_cons]
        omega
      · have parts (inner : List Lexeme) (closing : Lexeme) :
            before ++ opener :: (more ++ brace :: (inner ++ closing :: (nest ++ closer :: others))) =
              before ++ opener :: ((more ++ brace :: (inner ++ closing :: nest)) ++
                closer :: others) := by simp
        have otherNest :=
          balanced_exchange opens balanced otherBalanced closes otherCloses nestBalanced
        rw [parts] at scanned otherScanned
        rw [scanned.closer_eq openerCloses closerIs nestBalanced,
          otherScanned.closer_eq openerCloses closerIs otherNest]
        refine Or.inr ⟨nest.length, ?_, ?_⟩
        · simp only [List.length_append, List.length_cons]
          omega
        · simp only [List.length_append, List.length_cons]
          omega

/-- Documents agree around braces between which different balanced lexemes stand. -/
theorem Scanned.alike
    (scanned : Scanned document (lead ++ brace :: (inner ++ closing :: rest)) after)
    (otherScanned :
      Scanned other (lead ++ brace :: (otherInner ++ otherClosing :: rest)) otherAfter)
    (opens : brace.isPunct '\x7b' = true) (balanced : Balanced inner)
    (otherBalanced : Balanced otherInner) (closes : closing.isPunct '\x7d' = true)
    (otherCloses : otherClosing.isPunct '\x7d' = true) :
    Alike lead.length inner.length otherInner.length document other := by
  refine ⟨fun index within name => ?_, fun index within mark => ?_, fun further mark => ?_,
    fun index within mark closingMark isPunct isOpener => ?_⟩
  · rw [scanned.isWordAt_eq, otherScanned.isWordAt_eq, getElem?_lead within (otherInner ++ _),
      getElem?_lead within (inner ++ _)]
  · rw [scanned.isPunctAt_eq, otherScanned.isPunctAt_eq, getElem?_lead within (otherInner ++ _),
      getElem?_lead within (inner ++ _)]
  · rw [scanned.isPunctAt_eq, otherScanned.isPunctAt_eq, getElem?_behind, getElem?_behind]
  · exact scanned.closer_alike otherScanned opens balanced otherBalanced closes otherCloses within
      isPunct isOpener

end Around

/-! ## Locating a switch -/

namespace Switch

section Search

variable {Found : Type} {test : Nat → Option Found} {start count : Nat} {found : Found}

/-- A search through indices finds the first one that passes. -/
theorem findSome?_range'_eq_some :
    (List.range' start count).findSome? test = some found ↔
      ∃ index, start ≤ index ∧ index < start + count ∧ test index = some found ∧
        ∀ earlier, start ≤ earlier → earlier < index → test earlier = none := by
  induction count generalizing start with
  | zero =>
      constructor
      · intro impossible
        cases impossible
      · rintro ⟨index, low, high, _⟩
        omega
  | succ count inductionHypothesis =>
      rw [List.range'_succ, List.findSome?_cons]
      cases here : test start with
      | some first =>
          constructor
          · rintro ⟨rfl⟩
            exact ⟨start, Nat.le_refl _, by omega, here, fun _ _ _ => by omega⟩
          · rintro ⟨index, low, _, passes, before⟩
            rcases Nat.eq_or_lt_of_le low with rfl | later
            · rw [here] at passes
              exact passes
            · rw [before start (Nat.le_refl _) later] at here
              cases here
      | none =>
          rw [inductionHypothesis]
          constructor
          · rintro ⟨index, low, high, passes, before⟩
            refine ⟨index, by omega, by omega, passes, fun earlier low high => ?_⟩
            rcases Nat.eq_or_lt_of_le low with rfl | later
            · exact here
            · exact before earlier later high
          · rintro ⟨index, low, high, passes, before⟩
            rcases Nat.eq_or_lt_of_le low with rfl | later
            · rw [here] at passes
              cases passes
            · exact ⟨index, later, by omega, passes,
                fun earlier low high => before earlier (by omega) high⟩

end Search

/-- The body of the function called `name` whose declaration begins at an index. -/
def functionAt (document : Document) (name : Text) (index : Nat) : Option (Nat × Nat) :=
  if document.isWordAt index "function".toList && document.isWordAt (index + 1) name &&
      document.isPunctAt (index + 2) '(' then
    let body := document.closer (index + 2) + 1
    if document.isPunctAt body '\x7b' then some (body, document.closer body) else none
  else none

/-- The braces of the switch on `discriminant` that begins at an index. -/
def switchAt (document : Document) (stop : Nat) (discriminant : Text) (index : Nat) :
    Option (Nat × Nat) :=
  if document.isWordAt index "switch".toList && document.isPunctAt (index + 1) '(' then
    let closing := document.closer (index + 1)
    let body := closing + 1
    if closing = index + 3 && document.isWordAt (index + 2) discriminant && body < stop &&
        document.isPunctAt body '\x7b' then
      some (body, document.closer body)
    else none
  else none

/-- The braces of the first switch on `discriminant` in the first function of a name. -/
def find? (document : Document) (function discriminant : Text) : Option (Nat × Nat) :=
  (functionBody? document function).bind fun body =>
    switchBody? document (body.1 + 1) body.2 discriminant

section At

variable {document : Document} {name : Text} {stop index : Nat} {found : Nat × Nat}

theorem functionAt_eq_some :
    functionAt document name index = some found ↔
      (document.isWordAt index "function".toList = true ∧
        document.isWordAt (index + 1) name = true ∧ document.isPunctAt (index + 2) '(' = true) ∧
      document.isPunctAt (document.closer (index + 2) + 1) '\x7b' = true ∧
      found = (document.closer (index + 2) + 1,
        document.closer (document.closer (index + 2) + 1)) := by
  rw [functionAt]
  dsimp only
  split_ifs with isFunction isBrace
  · rw [Bool.and_eq_true_iff, Bool.and_eq_true_iff, and_assoc] at isFunction
    constructor
    · rintro ⟨rfl⟩
      exact ⟨isFunction, isBrace, rfl⟩
    · rintro ⟨_, _, rfl⟩
      rfl
  · constructor
    · intro impossible
      cases impossible
    · rintro ⟨_, brace, _⟩
      exact absurd brace isBrace
  · constructor
    · intro impossible
      cases impossible
    · rintro ⟨⟨function, named, opening⟩, _⟩
      rw [function, named, opening] at isFunction
      exact absurd rfl isFunction

theorem switchAt_eq_some :
    switchAt document stop name index = some found ↔
      (document.isWordAt index "switch".toList = true ∧
        document.isPunctAt (index + 1) '(' = true) ∧
      (document.closer (index + 1) = index + 3 ∧ document.isWordAt (index + 2) name = true ∧
        index + 4 < stop ∧ document.isPunctAt (index + 4) '\x7b' = true) ∧
      found = (index + 4, document.closer (index + 4)) := by
  rw [switchAt]
  dsimp only
  split_ifs with isSwitch isBody
  · rw [Bool.and_eq_true_iff] at isSwitch
    rw [Bool.and_eq_true_iff, Bool.and_eq_true_iff, Bool.and_eq_true_iff, decide_eq_true_iff,
      decide_eq_true_iff] at isBody
    obtain ⟨⟨⟨closing, isName⟩, within⟩, isBrace⟩ := isBody
    rw [closing] at within isBrace ⊢
    constructor
    · rintro ⟨rfl⟩
      exact ⟨isSwitch, ⟨rfl, isName, within, isBrace⟩, rfl⟩
    · rintro ⟨_, _, rfl⟩
      rfl
  · constructor
    · intro impossible
      cases impossible
    · rintro ⟨_, ⟨closing, named, within, brace⟩, _⟩
      rw [closing, named, brace, decide_eq_true within, decide_eq_true rfl] at isBody
      exact absurd rfl isBody
  · constructor
    · intro impossible
      cases impossible
    · rintro ⟨⟨switch, opening⟩, _⟩
      rw [switch, opening] at isSwitch
      exact absurd rfl isSwitch

end At

theorem functionBody?_eq (document : Document) (name : Text) :
    functionBody? document name =
      (List.range' 0 (document.tokens.size - 2)).findSome? (functionAt document name) := by
  rw [functionBody?, List.range_eq_range']
  rfl

theorem switchBody?_eq (document : Document) (start stop : Nat) (discriminant : Text) :
    switchBody? document start stop discriminant =
      (List.range' start (stop - 3 - start)).findSome? (switchAt document stop discriminant) :=
  rfl

end Switch

namespace Alike

open Switch

variable {brace width otherWidth : Nat} {document other : Document} {name : Text}
  {stop otherStop index : Nat} {found : Nat × Nat}

theorem functionAt (alike : Alike brace width otherWidth document other)
    (within : index + 2 < brace) (there : functionAt document name index = some found) :
    ∃ otherFound, functionAt other name index = some otherFound ∧
      (found.1 ≤ brace → otherFound.1 = found.1) := by
  obtain ⟨⟨isFunction, isName, isOpening⟩, isBrace, rfl⟩ := functionAt_eq_some.mp there
  have otherFunction := (alike.word index (by omega) _).trans isFunction
  have otherName := (alike.word (index + 1) (by omega) _).trans isName
  have otherOpening := (alike.punct (index + 2) (by omega) _).trans isOpening
  rcases alike.closer (index + 2) within _ _ isOpening rfl with
    ⟨inside, same⟩ | ⟨further, place, otherPlace⟩
  · have otherBrace := (alike.punct (document.closer (index + 2) + 1) inside _).trans isBrace
    refine ⟨_, functionAt_eq_some.mpr ⟨⟨otherFunction, otherName, otherOpening⟩, ?_, rfl⟩, ?_⟩
    · rw [same]
      exact otherBrace
    · intro _
      rw [same]
  · have otherBrace := alike.behind (further + 1) '\x7b'
    rw [← Nat.add_assoc, ← Nat.add_assoc, ← place, ← otherPlace, isBrace] at otherBrace
    refine ⟨_, functionAt_eq_some.mpr ⟨⟨otherFunction, otherName, otherOpening⟩, otherBrace, rfl⟩,
      fun early => ?_⟩
    dsimp only at early
    omega

theorem switchAt (alike : Alike brace width otherWidth document other) (within : index + 4 ≤ brace)
    (far : brace < otherStop) (there : switchAt document stop name index = some found) :
    switchAt other otherStop name index = some (index + 4, other.closer (index + 4)) := by
  obtain ⟨⟨isSwitch, isOpening⟩, ⟨closing, isName, _, isBrace⟩, rfl⟩ := switchAt_eq_some.mp there
  have otherSwitch := (alike.word index (by omega) _).trans isSwitch
  have otherOpening := (alike.punct (index + 1) (by omega) _).trans isOpening
  have otherName := (alike.word (index + 2) (by omega) _).trans isName
  have otherBrace := (alike.punct (index + 4) within _).trans isBrace
  have otherClosing : other.closer (index + 1) = index + 3 := by
    rcases alike.closer (index + 1) (by omega) _ _ isOpening rfl with
      ⟨_, same⟩ | ⟨further, place, _⟩
    · rw [same, closing]
    · omega
  exact switchAt_eq_some.mpr ⟨⟨otherSwitch, otherOpening⟩,
    ⟨otherClosing, otherName, Nat.lt_of_le_of_lt within far, otherBrace⟩, rfl⟩

/-- The switch at the braces is found whatever stands between them. -/
theorem find? (alike : Alike brace width otherWidth document other) {function discriminant : Text}
    {closing : Nat}
    (forward : ∀ index, document.isPunctAt index '(' = true → index < document.closer index)
    (there : Switch.find? document function discriminant = some (brace, closing)) :
    Switch.find? other function discriminant = some (brace, other.closer brace) := by
  obtain ⟨⟨opening, ended⟩, isBody, isSwitch⟩ := Option.bind_eq_some_iff.mp there
  dsimp only at isSwitch
  rw [functionBody?_eq, findSome?_range'_eq_some] at isBody
  rw [switchBody?_eq, findSome?_range'_eq_some] at isSwitch
  obtain ⟨declared, _, _, isDeclared, notBefore⟩ := isBody
  obtain ⟨begun, low, high, isBegun, notEarlier⟩ := isSwitch
  obtain ⟨⟨isFunction, isName, isOpening⟩, isBrace, both⟩ := functionAt_eq_some.mp isDeclared
  obtain ⟨_, _, place⟩ := switchAt_eq_some.mp isBegun
  obtain ⟨rfl, rfl⟩ := Prod.mk.inj both
  obtain ⟨rfl, _⟩ := Prod.mk.inj place
  have behindName := forward _ isOpening
  -- the body of the function is closed behind the switch, in both documents
  obtain ⟨further, endPlace, otherEnd⟩ :
      ∃ further, document.closer (document.closer (declared + 2) + 1) =
          begun + 4 + width + 2 + further ∧
        other.closer (document.closer (declared + 2) + 1) =
          begun + 4 + otherWidth + 2 + further := by
    rcases alike.closer (document.closer (declared + 2) + 1) (by omega) _ _ isBrace rfl with
      ⟨inside, _⟩ | far
    · omega
    · exact far
  obtain ⟨otherBody, otherDeclared, sameOpening⟩ := alike.functionAt (by omega) isDeclared
  obtain ⟨⟨_, _, otherOpening⟩, _, otherBoth⟩ := functionAt_eq_some.mp otherDeclared
  have opening : otherBody.1 = document.closer (declared + 2) + 1 :=
    sameOpening (by dsimp only; omega)
  refine Option.bind_eq_some_iff.mpr ⟨otherBody, ?_, ?_⟩
  · have inside := Document.lt_size_of_isPunctAt otherOpening
    rw [functionBody?_eq, findSome?_range'_eq_some]
    refine ⟨declared, Nat.zero_le _, by omega, otherDeclared, fun earlier low before => ?_⟩
    cases found : Switch.functionAt other function earlier with
    | none => rfl
    | some impossible =>
        obtain ⟨_, there, _⟩ := alike.symm.functionAt (by omega) found
        rw [notBefore earlier low before] at there
        cases there
  · have ended : otherBody.2 = begun + 4 + otherWidth + 2 + further := by
      rw [← otherEnd, ← opening, otherBoth]
    rw [switchBody?_eq, findSome?_range'_eq_some, ended, opening]
    refine ⟨begun, low, by omega, alike.switchAt (Nat.le_refl _) (by omega) isBegun,
      fun earlier low before => ?_⟩
    cases found : Switch.switchAt other _ discriminant earlier with
    | none => rfl
    | some impossible =>
        have far : begun + 4 <
            document.closer (document.closer (declared + 2) + 1) := by omega
        have there := alike.symm.switchAt (by omega) far found
        rw [notEarlier earlier low before] at there
        cases there

end Alike

end EmbedScaffold
