import EmbedScaffold.Proofs.Switch.Content
import EmbedScaffold.Proofs.Token.Insertion

/-!
# The code that a switch executes

A switch goes on with the clause of a label and falls through from clause to clause until a body
leaves it.  A new clause is written without regard to that: what runs for another label stays the
same unless it falls through to the place of the new clause, and then the new body is what it runs
there.
-/

namespace EmbedScaffold

open Text Scan Lexeme

/-! ## Passages -/

namespace Token

/-- The tokens behind the first colon outside brackets. -/
def behindColon : Nat → List Token → List Token
  | _, [] => []
  | depth, token :: rest =>
      if token.isOpener then behindColon (depth + 1) rest
      else if token.isCloser then behindColon (depth - 1) rest
      else if depth = 0 ∧ token.isPunct ':' then rest
      else behindColon depth rest

/-- A word that begins a statement which leaves a switch. -/
def isJump (token : Token) : Bool :=
  token.isWord "return".toList || token.isWord "break".toList || token.isWord "throw".toList

/-- Whether a statement outside brackets leaves the switch.  A word behind a point is the name of a
member. -/
def leavesFrom (depth : Nat) (isMember : Bool) : List Token → Bool
  | [] => false
  | token :: rest =>
      if token.isOpener then leavesFrom (depth + 1) false rest
      else if token.isCloser then leavesFrom (depth - 1) false rest
      else (depth = 0 && ! isMember && token.isJump) ||
        leavesFrom depth (token.isPunct '.') rest

end Token

/-- The token of a lexeme without its place. -/
def Lexeme.bare (lexeme : Lexeme) : Token :=
  ⟨lexeme.kind, lexeme.value, 0, 0⟩

/-- A clause as it is executed: its label and the tokens behind it. -/
structure Passage where
  key : Option Text
  isDefault : Bool
  code : List Token

def Clause.tokens (document : Document) (clause : Clause) : List Token :=
  (document.tokens.toList.filter fun token =>
    clause.start ≤ token.start && token.stop ≤ clause.stop).map Token.bare

/-- A clause of a document as it is executed. -/
def Clause.passage (document : Document) (clause : Clause) : Passage :=
  ⟨clause.key, clause.isDefault, Token.behindColon 0 (clause.tokens document)⟩

/-- The clauses between two braces as they are executed. -/
def Switch.passages (document : Document) (opening closing : Nat) : List Passage :=
  (Switch.clauses document opening closing).map (Clause.passage document)

def Document.code (document : Document) : List Token :=
  document.tokens.toList.map Token.bare

namespace Passage

/-- Whether the switch is left in the body. -/
def leaves (passage : Passage) : Bool :=
  Token.leavesFrom 0 false passage.code

/-- The code that runs from the first of some clauses on. -/
def run : List Passage → List Token
  | [] => []
  | passage :: rest => passage.code ++ if passage.leaves then [] else run rest

/-- Whether a clause is the one for a label; `none` stands for the default. -/
def answers (label : Option Text) (passage : Passage) : Bool :=
  match label with
  | some key => passage.key = some key
  | none => passage.isDefault

/-- The clauses from that of a label on. -/
def entered (label : Option Text) (passages : List Passage) : List Passage :=
  passages.dropWhile (! ·.answers label)

/-- The code that runs for a label. -/
def executed (label : Option Text) (passages : List Passage) : List Token :=
  run (entered label passages)

/-- Whether what runs for a label goes on behind the clauses. -/
def fallsThrough (label : Option Text) (passages : List Passage) : Bool :=
  ! (entered label passages).isEmpty && (entered label passages).all (! ·.leaves)

/-- The number of clauses before the place of a key: that of its clause, or of the first default,
or of a clause behind all others. -/
def place (key : Text) (passages : List Passage) : Nat :=
  if passages.any (·.key = some key) then passages.findIdx (·.key = some key)
  else passages.findIdx (·.isDefault)

/-- The clauses before the place of a key. -/
def upTo (key : Text) (passages : List Passage) : List Passage :=
  passages.take (place key passages)

/-- The clauses from the place of a key on. -/
def since (key : Text) (passages : List Passage) : List Passage :=
  passages.drop (place key passages)

variable {front back : List Passage} {passage : Passage} {label : Option Text} {key : Text}

theorem run_append (front back : List Passage) :
    run (front ++ back) = if front.all (! ·.leaves) then run front ++ run back else run front := by
  induction front with
  | nil => rfl
  | cons first rest inductionHypothesis =>
      rw [List.cons_append, run, inductionHypothesis, run, List.all_cons]
      cases first.leaves with
      | true => rfl
      | false =>
          simp only [Bool.not_false, Bool.true_and, Bool.false_eq_true, if_false]
          split
          · rw [List.append_assoc]
          · rfl

theorem executed_append (label : Option Text) (front back : List Passage) :
    executed label (front ++ back) =
      if fallsThrough label front then executed label front ++ run back
      else if (entered label front).isEmpty then executed label back
      else executed label front := by
  rw [executed, entered, List.dropWhile_append, ← entered, fallsThrough]
  cases empty : (entered label front).isEmpty with
  | true => rfl
  | false =>
      simp only [Bool.false_eq_true, if_false, Bool.not_false, Bool.true_and]
      exact run_append _ back

/-- A clause that leaves the switch cuts off what runs behind the clauses before it, and nothing
else. -/
theorem executed_upserted {replaced : List Passage} (leaves : passage.leaves = true)
    (other : passage.answers label = false)
    (others : ∀ passage ∈ replaced, passage.answers label = false) (front back : List Passage) :
    executed label (front ++ passage :: back) =
      if fallsThrough label front then executed label front ++ passage.code
      else executed label (front ++ (replaced ++ back)) := by
  have passed : entered label (replaced ++ back) = entered label back := by
    rw [entered, List.dropWhile_append_of_pos]
    · rfl
    · intro old member
      rw [others old member]
      rfl
  have behind : entered label (passage :: back) = entered label back := by
    rw [entered, List.dropWhile_cons_of_pos]
    · rfl
    · rw [other]
      rfl
  -- a run that reaches the new clause ends in it; the other runs pass it over or never reach it
  rw [executed_append, executed_append, run, leaves, if_pos rfl, List.append_nil]
  split
  · rfl
  · rw [executed, behind, ← passed]
    rfl

/-- What runs for a label is unchanged exactly if it does not fall through to the new clause, or
ran its code there before. -/
theorem executed_eq_iff (leaves : passage.leaves = true) (other : passage.answers label = false)
    {replaced : List Passage} (others : ∀ passage ∈ replaced, passage.answers label = false)
    (front back : List Passage) :
    executed label (front ++ passage :: back) = executed label (front ++ (replaced ++ back)) ↔
      fallsThrough label front = false ∨ run (replaced ++ back) = passage.code := by
  rw [executed_upserted leaves other others, executed_append label front (replaced ++ back)]
  cases fallsThrough label front with
  | false => simp
  | true =>
      rw [if_pos rfl, if_pos rfl, List.append_cancel_left_eq]
      simp [eq_comm]

/-! ## The place of a key -/

theorem findIdx_of_first {wanted : Passage → Bool} (before : ∀ other ∈ front, wanted other = false)
    (found : wanted passage = true) (back : List Passage) :
    (front ++ passage :: back).findIdx wanted = front.length := by
  induction front with
  | nil => rw [List.nil_append, List.findIdx_cons, found]; rfl
  | cons first rest inductionHypothesis =>
      rw [List.cons_append, List.findIdx_cons, before first List.mem_cons_self,
        inductionHypothesis fun other member => before other (List.mem_cons_of_mem _ member)]
      rfl

theorem place_of_present (fresh : ∀ other ∈ front, other.key ≠ some key)
    (hasKey : passage.key = some key) (back : List Passage) :
    place key (front ++ passage :: back) = front.length := by
  have present : (front ++ passage :: back).any (·.key = some key) = true := by
    simp [hasKey]
  rw [place, if_pos present]
  exact findIdx_of_first (fun other member => decide_eq_false (fresh other member))
    (decide_eq_true hasKey) back

theorem place_of_absent {passages : List Passage}
    (absent : ∀ other ∈ passages, other.key ≠ some key) :
    place key passages = passages.findIdx (·.isDefault) := by
  have none : ¬ passages.any (·.key = some key) = true := by
    rw [List.any_eq_true]
    rintro ⟨other, member, same⟩
    exact absent other member (of_decide_eq_true same)
  rw [place, if_neg none]

end Passage

/-! ## Bodies that return -/

/-- Whether a text may be the body of a clause and begins with a return statement. -/
def isReturnBody (body : Text) : Bool :=
  isClauseBody body &&
    match Document.ofText body with
    | .error _ => false
    | .ok document => document.isWordAt 0 "return".toList

theorem Token.leavesFrom_of_jump {token : Token} (isJump : token.isJump = true)
    (rest : List Token) : leavesFrom 0 false (token :: rest) = true := by
  have kind : token.kind = .word := by
    simp only [Token.isJump, Token.isWord, Bool.or_eq_true, Bool.and_eq_true, decide_eq_true_eq]
      at isJump
    rcases isJump with (isReturn | isBreak) | isThrow
    · exact isReturn.1
    · exact isBreak.1
    · exact isThrow.1
  have mark : token.mark? = none := by
    rw [Token.mark?, kind]
    rfl
  have notOpener : token.isOpener = false := by
    rw [Token.isOpener, Token.closing?, mark]
    rfl
  have notCloser : token.isCloser = false := by
    rw [Token.isCloser, mark]
    rfl
  rw [leavesFrom, notOpener, notCloser, isJump]
  rfl

theorem ClauseBody.exists_document {lexemes : List Lexeme} (clauseBody : ClauseBody lexemes) :
    ∃ document, Document.ofText (textOf lexemes) = .ok document ∧ Scanned document lexemes [] := by
  obtain ⟨document, scannedText, scanned⟩ :=
    exists_scanned clauseBody.fits (Trailing.ofTrivia (Trivia.ofBlank rfl))
      clauseBody.headless.balanced.closes_nil
  rw [List.append_nil] at scannedText
  exact ⟨document, scannedText, scanned⟩

/-- A body that returns still does so when its lines are indented. -/
theorem exists_returnBody {body indent : Text} (returning : isReturnBody body = true)
    (areBlank : ∀ blank ∈ indent, isMargin blank = true) :
    ∃ lexemes, textOf lexemes = Text.reindent body indent ∧ ClauseBody lexemes ∧
      Token.leavesFrom 0 false (lexemes.map Lexeme.bare) = true := by
  rw [isReturnBody, Bool.and_eq_true] at returning
  obtain ⟨admissible, isReturn⟩ := returning
  obtain ⟨lexemes, rfl, clauseBody⟩ := exists_clauseBody admissible
  obtain ⟨document, scannedText, scanned⟩ := clauseBody.exists_document
  obtain ⟨others, text, othersBody, kindred⟩ := clauseBody.exists_reindented areBlank
  refine ⟨others, text, othersBody, ?_⟩
  rw [scannedText] at isReturn
  dsimp only at isReturn
  rw [scanned.isWordAt_eq] at isReturn
  cases kindred with
  | nil => cases isReturn
  | @cons first lexeme _ _ alike _ =>
      have same : lexeme.token.isWord "return".toList = true := isReturn
      rw [← alike.isWord] at same
      refine Token.leavesFrom_of_jump ?_ _
      have bare : first.bare.isWord "return".toList = true := same
      rw [Token.isJump, bare]
      rfl

/-! ## Reading the passages of a document -/

theorem map_bare_tokensAt (offset : Nat) (lexemes : List Lexeme) :
    (tokensAt offset lexemes).map Token.bare = lexemes.map Lexeme.bare := by
  induction lexemes generalizing offset with
  | nil => rfl
  | cons first rest inductionHypothesis =>
      rw [tokensAt, List.map_cons, inductionHypothesis]
      rfl

/-- The tokens of lexemes lie between their first gap and their end. -/
theorem Scan.Fits.place_of_mem {allowed : Bool} {lexemes : List Lexeme} {after : Text}
    (fits : Fits allowed lexemes after) {offset : Nat} {token : Token}
    (member : token ∈ tokensAt offset lexemes) :
    offset + (firstGap lexemes).length ≤ token.start ∧ token.start < token.stop ∧
      token.stop ≤ offset + (textOf lexemes).length := by
  induction lexemes generalizing allowed offset with
  | nil => cases member
  | cons first rest inductionHypothesis =>
      obtain ⟨_, alone, _, behind⟩ := fits
      obtain ⟨head, more, value, _⟩ := alone.exists_cons
      have length : first.text.length = first.gap.length + (more.length + 1) := by
        rw [Lexeme.text_length, value, List.length_cons]
      have gap : (firstGap (first :: rest)).length = first.gap.length := rfl
      rw [textOf_cons, List.length_append, gap, length]
      rcases List.mem_cons.mp member with rfl | inRest
      · rw [Lexeme.tokenAt, length]
        dsimp only
        omega
      · have place := inductionHypothesis behind inRest
        rw [length] at place
        omega

namespace Branch

/-- A branch as it is executed. -/
def passage (branch : Branch) : Passage :=
  ⟨branch.key, ! branch.isCase, Token.behindColon 0 (branch.lexemes.map Lexeme.bare)⟩

theorem passage_withGap (gap : Text) (branch : Branch) :
    (branch.withGap gap).passage = branch.passage :=
  rfl

theorem passage_newBranch (gap key indent : Text) (body : List Lexeme) :
    (newBranch gap key indent body).passage = ⟨some key, false, body.map Lexeme.bare⟩ := by
  have same : (Lexeme.withGap ('\n' :: (indent ++ indentStep)) body).map Lexeme.bare =
      body.map Lexeme.bare := by
    cases body <;> rfl
  rw [passage, key_newBranch, isCase_newBranch, ← same]
  rfl

theorem answers_passage {branch : Branch} {key : Text} {label : Option Text}
    (hasKey : branch.key = some key) (other : label ≠ some key) :
    branch.passage.answers label = false := by
  cases label with
  | some wanted =>
      have different : branch.key ≠ some wanted := by
        rw [hasKey]
        exact other.symm
      exact decide_eq_false different
  | none =>
      rw [Branch.key] at hasKey
      split at hasKey
      · next isCase =>
          show (! branch.isCase) = false
          rw [isCase]
          rfl
      · cases hasKey

end Branch

namespace Scanned

open Branch

variable {document : Document} {after : Text} {front back : List Lexeme} {branch : Branch}
  {branches : List Branch}

theorem tokens_clause (scanned : Scanned document (front ++ (branch.lexemes ++ back)) after) :
    (branch.clauseAt (textOf front).length).tokens document = branch.lexemes.map Lexeme.bare := by
  obtain ⟨frontFits, behindFits⟩ := fits_append.mp scanned.fits
  obtain ⟨ownFits, backFits⟩ := fits_append.mp behindFits
  have start : (branch.clauseAt (textOf front).length).start =
      (textOf front).length + (firstGap branch.lexemes).length := rfl
  have stop : (branch.clauseAt (textOf front).length).stop =
      (textOf front).length + (textOf branch.lexemes).length := rfl
  rw [Clause.tokens, start, stop, scanned.tokens, tokensAt_append, tokensAt_append, Nat.zero_add,
    List.filter_append, List.filter_append]
  -- places tell the clause apart: the gap before its head is part of no token, and none is empty
  have noneBefore : (tokensAt 0 front).filter (fun token =>
      (textOf front).length + (firstGap branch.lexemes).length ≤ token.start &&
        token.stop ≤ (textOf front).length + (textOf branch.lexemes).length) = [] := by
    rw [List.filter_eq_nil_iff]
    intro token member
    have place := frontFits.place_of_mem member
    simp only [Bool.and_eq_true, decide_eq_true_eq, not_and]
    omega
  have noneBehind : (tokensAt ((textOf front).length + (textOf branch.lexemes).length) back).filter
      (fun token => (textOf front).length + (firstGap branch.lexemes).length ≤ token.start &&
        token.stop ≤ (textOf front).length + (textOf branch.lexemes).length) = [] := by
    rw [List.filter_eq_nil_iff]
    intro token member
    have place := backFits.place_of_mem member
    simp only [Bool.and_eq_true, decide_eq_true_eq, not_and]
    omega
  have all : (tokensAt (textOf front).length branch.lexemes).filter (fun token =>
      (textOf front).length + (firstGap branch.lexemes).length ≤ token.start &&
        token.stop ≤ (textOf front).length + (textOf branch.lexemes).length) =
          tokensAt (textOf front).length branch.lexemes := by
    rw [List.filter_eq_self]
    intro token member
    have place := ownFits.place_of_mem member
    simp only [Bool.and_eq_true, decide_eq_true_eq]
    omega
  rw [noneBefore, noneBehind, all, List.nil_append, List.append_nil, map_bare_tokensAt]

theorem passages_clauses
    (scanned : Scanned document (front ++ (lexemesOf branches ++ back)) after) :
    (clausesFrom (textOf front).length branches).map (Clause.passage document) =
      branches.map Branch.passage := by
  induction branches generalizing front with
  | nil => rfl
  | cons branch rest inductionHypothesis =>
      have behind := inductionHypothesis scanned.pass_branch
      rw [textOf_append, List.length_append] at behind
      have own := tokens_clause scanned.at_branch
      rw [clausesFrom, List.map_cons, List.map_cons, behind, Clause.passage, own]
      rfl

end Scanned

namespace SwitchLayout

open Branch

variable {function discriminant key : Text} {layout : SwitchLayout}

theorem Sound.passages_eq (sound : layout.Sound function discriminant) {document : Document}
    (scanned : Scanned document layout.lexemes layout.after) :
    Switch.passages document layout.braces.1 layout.braces.2 =
      layout.branches.map Branch.passage := by
  have shape : layout.lexemes = (layout.lead ++ layout.brace :: layout.intro) ++
      (lexemesOf layout.branches ++ layout.closing :: layout.rest) := by
    rw [lexemes, inner]
    simp
  rw [Switch.passages, sound.clauses_eq scanned]
  exact (shape ▸ scanned).passages_clauses

theorem fresh_passages {branches : List Branch}
    (fresh : ∀ branch ∈ branches, branch.key ≠ some key) :
    ∀ shown ∈ branches.map Branch.passage, shown.key ≠ some key := by
  intro shown member
  obtain ⟨branch, inside, rfl⟩ := List.mem_map.mp member
  exact fresh branch inside

/-- The slot of a key is at its place. -/
theorem HasSlot.passages {slot : CaseSlot} (hasSlot : layout.HasSlot key slot) :
    ∃ replaced : List Branch, (∀ branch ∈ replaced, branch.key = some key) ∧
      layout.branches.map Branch.passage = slot.front.map Branch.passage ++
        (replaced.map Branch.passage ++ slot.back.map Branch.passage) ∧
      Passage.place key (layout.branches.map Branch.passage) = slot.front.length := by
  have notDefault {branches : List Branch} (cases : ∀ branch ∈ branches, branch.isCase = true) :
      ∀ shown ∈ branches.map Branch.passage, shown.isDefault = false := by
    intro shown member
    obtain ⟨branch, inside, rfl⟩ := List.mem_map.mp member
    rw [passage, cases branch inside]
    rfl
  cases hasSlot with
  | @replacing front back branch shape hasKey fresh dropped =>
      refine ⟨[branch], by simp [hasKey], ?_, ?_⟩
      · rw [shape, List.map_append, List.map_cons]
        rfl
      · rw [shape, List.map_append, List.map_cons, Passage.place_of_present (fresh_passages fresh)
          (show branch.passage.key = some key from hasKey), List.length_map]
        rfl
  | @before front back branch fresh shape isDefault before =>
      have shown : branch.passage.isDefault = true := by
        rw [passage, isDefault]
        rfl
      refine ⟨[], by simp, ?_, ?_⟩
      · rw [shape, List.map_append, List.map_cons, ← passage_withGap layout.clauseGap branch]
        rfl
      · rw [Passage.place_of_absent (fresh_passages fresh), shape, List.map_append, List.map_cons,
          Passage.findIdx_of_first (notDefault before) shown, List.length_map]
        rfl
  | behind fresh nonempty cases =>
      refine ⟨[], by simp, (List.append_nil _).symm, ?_⟩
      rw [Passage.place_of_absent (fresh_passages fresh),
        List.findIdx_eq_length.mpr (notDefault cases), List.length_map]
      rfl
  | first alone =>
      refine ⟨[], by simp, by rw [alone]; rfl, ?_⟩
      rw [alone]
      rfl

/-- What runs for the other labels when the slot of a key is filled with a body that leaves the
switch. -/
theorem HasSlot.executed {slot : CaseSlot} (hasSlot : layout.HasSlot key slot)
    (sameKey : slot.key = key) {body : List Lexeme}
    (leaves : Token.leavesFrom 0 false (body.map Lexeme.bare) = true) {label : Option Text}
    (other : label ≠ some key) :
    Passage.executed label ((slot.filled body).branches.map Branch.passage) =
        (if Passage.fallsThrough label (Passage.upTo key (layout.branches.map Branch.passage))
        then Passage.executed label (Passage.upTo key (layout.branches.map Branch.passage)) ++
          body.map Lexeme.bare
        else Passage.executed label (layout.branches.map Branch.passage)) ∧
      (Passage.executed label ((slot.filled body).branches.map Branch.passage) =
          Passage.executed label (layout.branches.map Branch.passage) ↔
        Passage.fallsThrough label (Passage.upTo key (layout.branches.map Branch.passage)) = false ∨
          Passage.run (Passage.since key (layout.branches.map Branch.passage)) =
            body.map Lexeme.bare) := by
  obtain ⟨replaced, areReplaced, shape, place⟩ := hasSlot.passages
  have filled : (slot.filled body).branches.map Branch.passage = slot.front.map Branch.passage ++
      (newBranch slot.gap slot.key slot.indent body).passage :: slot.back.map Branch.passage :=
    List.map_append
  have code := passage_newBranch slot.gap slot.key slot.indent body
  have hasKey := key_newBranch slot.gap slot.key slot.indent body
  have newOther := answers_passage (hasKey.trans (congrArg some sameKey)) other
  have newLeaves : (newBranch slot.gap slot.key slot.indent body).passage.leaves = true := by
    rw [code]
    exact leaves
  have others : ∀ shown ∈ replaced.map Branch.passage, shown.answers label = false := by
    intro shown member
    obtain ⟨branch, inside, rfl⟩ := List.mem_map.mp member
    exact answers_passage (areReplaced branch inside) other
  have front : Passage.upTo key (layout.branches.map Branch.passage) =
      slot.front.map Branch.passage := by
    rw [Passage.upTo, place, shape]
    exact List.take_left' (List.length_map _)
  have back : Passage.since key (layout.branches.map Branch.passage) =
      replaced.map Branch.passage ++ slot.back.map Branch.passage := by
    rw [Passage.since, place, shape]
    exact List.drop_left' (List.length_map _)
  rw [front, back, filled, shape]
  have upserted := Passage.executed_upserted newLeaves newOther others
    (slot.front.map Branch.passage) (slot.back.map Branch.passage)
  have unchanged := Passage.executed_eq_iff newLeaves newOther others
    (slot.front.map Branch.passage) (slot.back.map Branch.passage)
  rw [code] at upserted unchanged ⊢
  exact ⟨upserted, unchanged⟩

end SwitchLayout

/-! ## The law -/

/-- The code that runs for a label in the switch that is found in a text. -/
def Switch.executedIn (content function discriminant : Text) (label : Option Text) : List Token :=
  match Switch.locate content function discriminant with
  | none => []
  | some (document, opening, closing) =>
      Passage.executed label (Switch.passages document opening closing)

theorem Switch.executedIn_eq {content function discriminant : Text} {document : Document}
    {opening closing : Nat} (scannedText : Document.ofText content = .ok document)
    (found : Switch.find? document function discriminant = some (opening, closing))
    (label : Option Text) :
    Switch.executedIn content function discriminant label =
      Passage.executed label (Switch.passages document opening closing) := by
  rw [executedIn, locate, scannedText]
  dsimp only
  rw [found]
  rfl

/-- In a document in which the switch of a function is found, an upsert of a body that returns
changes what runs for another label, or for the default, only if that falls through to the place of
the key: it then runs what it ran up to there and the new body.  What runs is the same as before
exactly if it does not fall through to this place, or ran the code of the new body from there. -/
theorem upsertCase_executed {content : Text} {wanted : CaseUpsert} {document : Document}
    {opening closing : Nat} (scannedText : Document.ofText content = .ok document)
    (found : Switch.find? document wanted.function wanted.discriminant = some (opening, closing))
    (sameLine : '\n' ∉ wanted.key)
    (once : (Switch.clauses document opening closing).countP (·.key = some wanted.key) ≤ 1)
    (returning : isReturnBody (strip wanted.body) = true) :
    ∃ outcome updated closed indent body,
      upsertCase content wanted = .ok (some outcome) ∧
      Document.ofText outcome.content = .ok updated ∧
      Switch.find? updated wanted.function wanted.discriminant = some (opening, closed) ∧
      isBlankText indent = true ∧ '\n' ∉ indent ∧
      Document.ofText (Text.reindent (strip wanted.body) indent) = .ok body ∧
      ∀ label, label ≠ some wanted.key →
        Passage.executed label (Switch.passages updated opening closed) =
          (if Passage.fallsThrough label
              (Passage.upTo wanted.key (Switch.passages document opening closing))
          then Passage.executed label
            (Passage.upTo wanted.key (Switch.passages document opening closing)) ++ body.code
          else Passage.executed label (Switch.passages document opening closing)) ∧
        (Passage.executed label (Switch.passages updated opening closed) =
            Passage.executed label (Switch.passages document opening closing) ↔
          Passage.fallsThrough label
              (Passage.upTo wanted.key (Switch.passages document opening closing)) = false ∨
            Passage.run (Passage.since wanted.key (Switch.passages document opening closing)) =
              body.code) := by
  obtain ⟨layout, slot, sound, rfl, rfl, rfl, scanned, hasSlot⟩ :=
    SwitchLayout.exists_hasSlot scannedText found once
  have fills := sound.fills sameLine hasSlot
  have areBlank := isMargin_append slot.isMargin_indent isMargin_indentStep
  obtain ⟨lexemes, text, clauseBody, leaves⟩ := exists_returnBody returning areBlank
  obtain ⟨outcome, updated, upserted, _, updatedText, updatedScanned, foundAgain⟩ :=
    fills.exists_updated clauseBody text
  obtain ⟨body, bodyText, bodyScanned⟩ := clauseBody.exists_document
  have after := (fills.sound.sound lexemes clauseBody).passages_eq updatedScanned
  have code : body.code = lexemes.map Lexeme.bare := by
    rw [Document.code, bodyScanned.tokens, map_bare_tokensAt]
  rw [(fills.around lexemes).opening] at after
  refine ⟨outcome, updated, (slot.filled lexemes).braces.2, slot.indent ++ indentStep, body,
    upserted, updatedText, foundAgain, isBlankText_of_isMargin areBlank,
    lineFeed_notMem_of_isMargin areBlank, text ▸ bodyText, ?_⟩
  intro label other
  rw [after, sound.passages_eq scanned, code]
  exact hasSlot.executed fills.key leaves other

theorem upsertCase_executed_settled :
    ∃ outcome, upsertCase ("function f(x) \x7b switch (x) \x7b case 'a': log(); case 'c': " ++
        "return 3; default: return 0; \x7d \x7d").toList
        ⟨['f'], ['x'], ['b'], "return 1;".toList⟩ = .ok (some outcome) ∧
      Switch.executedIn outcome.content ['f'] ['x'] (some ['a']) =
        Switch.executedIn ("function f(x) \x7b switch (x) \x7b case 'a': log(); case 'c': " ++
          "return 3; default: return 0; \x7d \x7d").toList ['f'] ['x'] (some ['a']) := by
  let content : Text := ("function f(x) \x7b switch (x) \x7b case 'a': log(); case 'c': " ++
    "return 3; default: return 0; \x7d \x7d").toList
  obtain ⟨document, opening, closing, scannedText, found, checked⟩ :=
    @Switch.exists_located content ['f'] ['x'] (fun document opening closing =>
      (Switch.clauses document opening closing).countP (·.key = some ['b']) ≤ 1 &&
        ! Passage.fallsThrough (some ['a'])
          (Passage.upTo ['b'] (Switch.passages document opening closing)))
      (by decide +kernel)
  rw [Bool.and_eq_true, Bool.not_eq_true'] at checked
  obtain ⟨outcome, updated, closed, _, _, upserted, updatedText, foundAgain, _, _, _, executed⟩ :=
    @upsertCase_executed content ⟨['f'], ['x'], ['b'], "return 1;".toList⟩ document opening closing
      scannedText found (by decide) (of_decide_eq_true checked.1) (by decide +kernel)
  refine ⟨outcome, upserted, ?_⟩
  rw [Switch.executedIn_eq updatedText foundAgain, Switch.executedIn_eq scannedText found]
  exact (executed (some ['a']) (by decide)).2.mpr (Or.inl checked.2)

/-- A label that shares the body of the default runs a case that is written before it.  A clause
that begins in a body is read as the default of the switch. -/
theorem upsertCase_executed_shared :
    (∃ outcome, upsertCase
        "function f(x) \x7b switch (x) \x7b case 'a': default: return 0; \x7d \x7d".toList
        ⟨['f'], ['x'], ['b'], "return 1;".toList⟩ = .ok (some outcome) ∧
      Switch.executedIn outcome.content ['f'] ['x'] (some ['a']) ≠ Switch.executedIn
        "function f(x) \x7b switch (x) \x7b case 'a': default: return 0; \x7d \x7d".toList
        ['f'] ['x'] (some ['a'])) ∧
    (∃ outcome, upsertCase
        "function f(x) \x7b switch (x) \x7b default: return 0; \x7d \x7d".toList
        ⟨['f'], ['x'], ['b'], "return q ? x.default : y;".toList⟩ = .ok (some outcome) ∧
      Switch.executedIn outcome.content ['f'] ['x'] none ≠ Switch.executedIn
        "function f(x) \x7b switch (x) \x7b default: return 0; \x7d \x7d".toList
        ['f'] ['x'] none) := by
  constructor
  · refine ⟨⟨("function f(x) \x7b switch (x) \x7b case 'a': case 'b':\n    return 1;\n\n" ++
      "  default: return 0; \x7d \x7d").toList, true⟩, ?_, ?_⟩
    · decide +kernel
    · decide +kernel
  · refine ⟨⟨("function f(x) \x7b switch (x) \x7b case 'b':\n" ++
      "    return q ? x.default : y;\n\n  default: return 0; \x7d \x7d").toList, true⟩, ?_, ?_⟩
    · decide +kernel
    · decide +kernel

end EmbedScaffold
