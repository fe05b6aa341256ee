import EmbedScaffold.Proofs.Registry.Entry
import EmbedScaffold.Registry.Switch

/-!
# Branches of a switch

The lexemes between the braces of a switch are those before the first clause and, for every
clause, its head and what stands behind it up to the next head.  Heads are found outside all
brackets; whether a lexeme is one depends on the lexeme behind it only.
-/

namespace EmbedScaffold

open Scan Lexeme

namespace Lexeme

/-! ## Heads -/

/-- Whether a lexeme begins a clause if `rest` stands behind it. -/
def startsClause (lexeme : Lexeme) (rest : List Lexeme) : Bool :=
  lexeme.token.isWord "case".toList ||
    (lexeme.token.isWord "default".toList && (rest.head?.map (·.isPunct ':')).getD false)

/-- Lexemes that do not begin with a colon. -/
def NotColon (lexemes : List Lexeme) : Prop :=
  ∀ first ∈ lexemes.head?, first.isPunct ':' = false

/-- Matching brackets outside of which no clause begins. -/
inductive Headless : List Lexeme → Prop
  | nil : Headless []
  | plain {lexeme : Lexeme} {rest : List Lexeme} :
      lexeme.token.isOpener = false → lexeme.token.isCloser = false →
      startsClause lexeme rest = false → Headless rest → Headless (lexeme :: rest)
  | group {opener closer : Lexeme} {mark : Char} {inner rest : List Lexeme} :
      opener.token.closing? = some mark → closer.isPunct mark = true → Balanced inner →
      Headless rest → Headless (opener :: (inner ++ closer :: rest))

section Heads

variable {lexeme : Lexeme} {left right : List Lexeme}

theorem startsClause_append (notColon : NotColon right) (lexeme : Lexeme) (left : List Lexeme) :
    startsClause lexeme (left ++ right) = startsClause lexeme left := by
  cases left with
  | cons first rest => rfl
  | nil =>
      rw [startsClause, startsClause, List.nil_append]
      cases right with
      | nil => rfl
      | cons first rest => simp [notColon first rfl]

theorem startsClause_of_starts (starts : startsClause lexeme left = true) (right : List Lexeme) :
    startsClause lexeme (left ++ right) = true := by
  cases left with
  | cons first rest => exact starts
  | nil =>
      have isCase : lexeme.token.isWord "case".toList = true := by
        simpa [startsClause] using starts
      rw [startsClause, isCase, Bool.true_or]

theorem kind_of_starts (starts : startsClause lexeme left = true) : lexeme.kind = .word := by
  simp only [startsClause, Token.isWord, Bool.or_eq_true, Bool.and_eq_true, decide_eq_true_eq]
    at starts
  rcases starts with isCase | isDefault
  · exact isCase.1
  · exact isDefault.1.1

theorem mark?_of_starts (starts : startsClause lexeme left = true) : lexeme.token.mark? = none := by
  rw [Token.mark?, token_kind, kind_of_starts starts]
  rfl

theorem not_isOpener_of_starts (starts : startsClause lexeme left = true) :
    lexeme.token.isOpener = false := by
  rw [Token.isOpener, Token.closing?, mark?_of_starts starts]
  rfl

theorem not_isCloser_of_starts (starts : startsClause lexeme left = true) :
    lexeme.token.isCloser = false := by
  rw [Token.isCloser, mark?_of_starts starts]
  rfl

theorem not_isPunct_of_starts (starts : startsClause lexeme left = true) (mark : Char) :
    lexeme.isPunct mark = false := by
  rw [Bool.eq_false_iff]
  intro isPunct
  have kind := ((lexeme.isPunct_iff mark).mp isPunct).1
  rw [kind_of_starts starts] at kind
  cases kind

theorem startsClause_congr {other : Lexeme} {others rest : List Lexeme}
    (alike : Kindred other.token lexeme.token)
    (kindred : List.Forall₂ (fun other lexeme => Kindred other.token lexeme.token) others rest) :
    startsClause other others = startsClause lexeme rest := by
  rw [startsClause, startsClause, alike.isWord, alike.isWord]
  cases kindred with
  | nil => rfl
  | cons first _ => simp [Lexeme.isPunct, first.isPunct]

end Heads

namespace Headless

variable {nested : List Lexeme}

theorem balanced (headless : Headless nested) : Balanced nested := by
  induction headless with
  | nil => exact .nil _
  | plain notOpener notCloser _ _ inductionHypothesis =>
      exact .plain notOpener notCloser rfl inductionHypothesis
  | group opens closing inner _ inductionHypothesis =>
      exact .group opens closing inner inductionHypothesis

/-- Heads, like brackets, see kinds, words and marks only. -/
theorem congr {others : List Lexeme}
    (kindred : List.Forall₂ (fun other lexeme => Kindred other.token lexeme.token) others nested)
    (headless : Headless nested) : Headless others := by
  induction headless generalizing others with
  | nil =>
      cases kindred
      exact nil
  | plain notOpener notCloser goesOn _ inductionHypothesis =>
      obtain ⟨other, more, alike, restKindred, rfl⟩ := List.forall₂_cons_right_iff.mp kindred
      exact plain (alike.isOpener.trans notOpener) (alike.isCloser.trans notCloser)
        ((startsClause_congr alike restKindred).trans goesOn) (inductionHypothesis restKindred)
  | group opens closing innerNest _ inductionHypothesis =>
      obtain ⟨other, more, alike, moreKindred, rfl⟩ := List.forall₂_cons_right_iff.mp kindred
      have innerKindred := List.forall₂_take_append _ _ _ moreKindred
      have behindKindred := List.forall₂_drop_append _ _ _ moreKindred
      obtain ⟨last, rest, lastAlike, restKindred, behind⟩ :=
        List.forall₂_cons_right_iff.mp behindKindred
      rw [← List.take_append_drop _ more, behind]
      refine group (alike.closing?.trans opens) ?_
        (innerNest.congr (fun _ _ _ => rfl) innerKindred) (inductionHypothesis restKindred)
      rw [Lexeme.isPunct, lastAlike.isPunct]
      exact closing

end Headless

end Lexeme

/-! ## Branches -/

/-- The head of a clause and what stands behind it. -/
structure Branch where
  head : Lexeme
  body : List Lexeme

namespace Branch

/-- The head and what stands behind it. -/
def lexemes (branch : Branch) : List Lexeme :=
  branch.head :: branch.body

def lexemesOf (branches : List Branch) : List Lexeme :=
  branches.flatMap lexemes

/-- Whether the branch is a case, and no default. -/
def isCase (branch : Branch) : Bool :=
  branch.head.token.isWord "case".toList

/-- The label of a case, if it is a text. -/
def key (branch : Branch) : Option Text :=
  if branch.isCase then branch.body.head?.bind fun label => Switch.caseLabel label.token else none

/-- The branch begins with a head, and no other clause begins in it. -/
structure Sound (branch : Branch) : Prop where
  starts : startsClause branch.head branch.body = true
  headless : Headless branch.body

/-- The clause of a branch that is written at an offset. -/
def clauseAt (offset : Nat) (branch : Branch) : Clause :=
  ⟨branch.key, ! branch.isCase, offset + branch.head.gap.length,
    offset + (textOf branch.lexemes).length⟩

/-- The clauses of branches that are written from an offset on. -/
def clausesFrom (offset : Nat) : List Branch → List Clause
  | [] => []
  | branch :: rest =>
      branch.clauseAt offset :: clausesFrom (offset + (textOf branch.lexemes).length) rest

/-- The token indices of the heads, if `index` is that of the first of them. -/
def headsFrom (index : Nat) : List Branch → List Nat
  | [] => []
  | branch :: rest => index :: headsFrom (index + branch.lexemes.length) rest

variable {branch : Branch} {branches : List Branch}

@[simp]
theorem lexemesOf_nil : lexemesOf [] = [] :=
  rfl

@[simp]
theorem lexemesOf_cons (branch : Branch) (rest : List Branch) :
    lexemesOf (branch :: rest) = branch.head :: (branch.body ++ lexemesOf rest) :=
  rfl

@[simp]
theorem lexemesOf_append (left right : List Branch) :
    lexemesOf (left ++ right) = lexemesOf left ++ lexemesOf right :=
  List.flatMap_append

theorem clausesFrom_append (offset : Nat) (left right : List Branch) :
    clausesFrom offset (left ++ right) =
      clausesFrom offset left ++ clausesFrom (offset + (textOf (lexemesOf left)).length) right := by
  induction left generalizing offset with
  | nil => rfl
  | cons first rest inductionHypothesis =>
      have whole : textOf (lexemesOf (first :: rest)) =
          textOf first.lexemes ++ textOf (lexemesOf rest) :=
        textOf_append first.lexemes (lexemesOf rest)
      rw [List.cons_append, clausesFrom, inductionHypothesis, clausesFrom, whole,
        List.length_append, Nat.add_assoc, List.cons_append]

theorem Sound.notColon (sound : branch.Sound) : NotColon branch.lexemes := by
  intro first member
  obtain rfl := Option.some.inj member
  exact not_isPunct_of_starts sound.starts ':'

theorem notColon_append (sound : ∀ branch ∈ branches, branch.Sound) {rest : List Lexeme}
    (notColon : NotColon rest) : NotColon (lexemesOf branches ++ rest) := by
  cases branches with
  | nil => exact notColon
  | cons first others => exact (sound first List.mem_cons_self).notColon

theorem balanced (sound : ∀ branch ∈ branches, branch.Sound) : Balanced (lexemesOf branches) := by
  induction branches with
  | nil => exact .nil _
  | cons first rest inductionHypothesis =>
      have own := sound first List.mem_cons_self
      exact .plain (not_isOpener_of_starts own.starts) (not_isCloser_of_starts own.starts) rfl <|
        own.headless.balanced.append <|
          inductionHypothesis fun branch member => sound branch (List.mem_cons_of_mem _ member)

/-- Balanced lexemes are those before the first head, and branches. -/
theorem exists_branches {stops : Lexeme → Bool} {inner : List Lexeme} (nest : Nest stops inner) :
    ∃ intro branches, inner = intro ++ lexemesOf branches ∧ Headless intro ∧
      ∀ branch ∈ branches, branch.Sound := by
  -- from the back: a head takes what was found to have no head so far as its body
  induction nest with
  | nil => exact ⟨[], [], rfl, .nil, by simp⟩
  | @plain _ lexeme rest notOpener notCloser _ _ inductionHypothesis =>
      obtain ⟨intro, branches, rfl, headless, sound⟩ := inductionHypothesis
      by_cases starts : startsClause lexeme intro = true
      · refine ⟨[], ⟨lexeme, intro⟩ :: branches, rfl, .nil, ?_⟩
        rintro branch (_ | ⟨_, member⟩)
        · exact ⟨starts, headless⟩
        · exact sound branch member
      · exact ⟨lexeme :: intro, branches, rfl,
          .plain notOpener notCloser (Bool.eq_false_iff.mpr starts) headless, sound⟩
  | @group _ opener closer _ inner rest opens closing balanced _ _ inductionHypothesis =>
      obtain ⟨intro, branches, rfl, headless, sound⟩ := inductionHypothesis
      exact ⟨opener :: (inner ++ closer :: intro), branches, by simp,
        .group opens closing balanced headless, sound⟩

end Branch

/-! ## Reading the clauses of a document -/

theorem Lexeme.notColon_closer {closing : Lexeme} (closes : closing.isPunct '\x7d' = true)
    (rest : List Lexeme) : NotColon (closing :: rest) := by
  intro first member
  obtain rfl := Option.some.inj member
  have value := ((closing.isPunct_iff _).mp closes).2
  rw [Bool.eq_false_iff]
  intro colon
  rw [((closing.isPunct_iff _).mp colon).2] at value
  cases value

namespace Scanned

open Branch

variable {document : Document} {after : Text} {front back nested : List Lexeme}

theorem token?_eq (scanned : Scanned document (front ++ back) after) :
    document.token? front.length = back.head?.map (·.tokenAt (textOf front).length) := by
  cases back with
  | cons first rest => exact scanned.token?
  | nil =>
      rw [Document.token?, ← Array.getElem?_toList, scanned.tokens, List.append_nil]
      exact List.getElem?_eq_none (Nat.le_of_eq (tokensAt_length 0 front))

theorem isWordAt (scanned : Scanned document (front ++ back) after) (name : Text) :
    document.isWordAt front.length name = (back.head?.map (·.token.isWord name)).getD false := by
  rw [Document.isWordAt, scanned.token?_eq, Option.map_map]
  rfl

theorem isPunctAt (scanned : Scanned document (front ++ back) after) (mark : Char) :
    document.isPunctAt front.length mark = (back.head?.map (·.isPunct mark)).getD false := by
  rw [Document.isPunctAt, scanned.token?_eq, Option.map_map]
  rfl

theorem isHead {lexeme : Lexeme} (scanned : Scanned document (front ++ lexeme :: back) after) :
    Switch.isHead document front.length = startsClause lexeme back := by
  have shape : front ++ lexeme :: back = (front ++ [lexeme]) ++ back := by simp
  have behind := (shape ▸ scanned).isPunctAt ':'
  rw [List.length_append, List.length_singleton] at behind
  rw [Switch.isHead, scanned.isWordAt, scanned.isWordAt, behind]
  rfl

theorem clauseHeads_cons {lexeme : Lexeme} {stop : Nat}
    (scanned : Scanned document (front ++ lexeme :: back) after) (within : front.length < stop)
    (notOpener : lexeme.token.isOpener = false) :
    Switch.clauseHeads document front.length stop =
      if startsClause lexeme back then
        front.length :: Switch.clauseHeads document (front.length + 1) stop
      else Switch.clauseHeads document (front.length + 1) stop := by
  rw [Switch.clauseHeads, topLevelWhere_cons scanned within notOpener]
  by_cases isWord : lexeme.kind = .word
  · have wanted : decide ((lexeme.tokenAt (textOf front).length).kind = .word) = true :=
      decide_eq_true isWord
    rw [if_pos wanted, List.filter_cons, scanned.isHead]
    rfl
  · have unwanted : ¬ decide ((lexeme.tokenAt (textOf front).length).kind = .word) = true :=
      fun word => isWord (of_decide_eq_true word)
    have plain : ¬ startsClause lexeme back = true := fun starts => isWord (kind_of_starts starts)
    rw [if_neg unwanted, if_neg plain]
    rfl

theorem clauseHeads_group {opener closer : Lexeme} {mark : Char} {inner : List Lexeme} {stop : Nat}
    (scanned : Scanned document (front ++ opener :: (inner ++ closer :: back)) after)
    (within : front.length < stop) (opens : opener.token.closing? = some mark)
    (closing : closer.isPunct mark = true) (balanced : Balanced inner) :
    Switch.clauseHeads document front.length stop =
      Switch.clauseHeads document (front.length + (inner.length + 2)) stop := by
  rw [Switch.clauseHeads, topLevelWhere_group scanned within opens closing balanced,
    Switch.clauseHeads]

theorem clauseHeads_self (document : Document) (start : Nat) :
    Switch.clauseHeads document start start = [] := by
  rw [Switch.clauseHeads, Document.topLevelWhere, if_neg (Nat.lt_irrefl start)]
  rfl

theorem clauseHeads_headless (headless : Headless nested) {front : List Lexeme}
    (scanned : Scanned document (front ++ (nested ++ back)) after) (notColon : NotColon back)
    {stop : Nat} (within : front.length + nested.length ≤ stop) :
    Switch.clauseHeads document front.length stop =
      Switch.clauseHeads document (front.length + nested.length) stop := by
  induction headless generalizing front with
  | nil => rfl
  | @plain lexeme rest notOpener _ goesOn _ inductionHypothesis =>
      rw [List.length_cons] at within ⊢
      have length : (front ++ [lexeme]).length = front.length + 1 := List.length_append
      have behind := inductionHypothesis scanned.pass_plain (by omega)
      rw [length] at behind
      rw [List.cons_append] at scanned
      rw [scanned.clauseHeads_cons (by omega) notOpener, startsClause_append notColon, goesOn,
        if_neg Bool.false_ne_true, behind]
      congr 1
      omega
  | @group opener closer _ inner rest opens closing nest _ inductionHypothesis =>
      rw [List.length_cons, List.length_append, List.length_cons] at within ⊢
      have length := length_group front opener inner closer
      have behind := inductionHypothesis scanned.pass_group (by omega)
      rw [length] at behind
      rw [clauseHeads_group scanned.at_group (by omega) opens closing nest, behind]
      congr 1
      omega

/-- Balanced lexemes in which no head is found have none. -/
theorem headless_of_clauseHeads {stops : Lexeme → Bool} (nest : Nest stops nested)
    {front : List Lexeme} (scanned : Scanned document (front ++ (nested ++ back)) after)
    (notColon : NotColon back) {stop : Nat} (within : front.length + nested.length ≤ stop)
    (absent : Switch.clauseHeads document front.length stop = []) : Headless nested := by
  induction nest generalizing front with
  | nil => exact .nil
  | @plain _ lexeme rest notOpener notCloser _ _ inductionHypothesis =>
      rw [List.length_cons] at within
      rw [List.cons_append] at scanned
      rw [scanned.clauseHeads_cons (by omega) notOpener, startsClause_append notColon] at absent
      split at absent
      · cases absent
      · next goesOn =>
          refine .plain notOpener notCloser (Bool.eq_false_iff.mpr goesOn)
            (inductionHypothesis scanned.pass_plain
              (by rw [List.length_append, List.length_singleton]; omega) ?_)
          rw [List.length_append, List.length_singleton]
          exact absent
  | @group _ opener closer _ inner rest opens closing balanced _ _ inductionHypothesis =>
      rw [List.length_cons, List.length_append, List.length_cons] at within
      rw [clauseHeads_group scanned.at_group (by omega) opens closing balanced] at absent
      refine .group opens closing balanced (inductionHypothesis scanned.pass_group
        (by rw [length_group]; omega) ?_)
      rw [length_group]
      exact absent

variable {branch : Branch} {branches : List Branch} {closing : Lexeme}

theorem at_branch
    (scanned : Scanned document (front ++ (lexemesOf (branch :: branches) ++ back)) after) :
    Scanned document (front ++ (branch.lexemes ++ (lexemesOf branches ++ back))) after := by
  rw [← List.append_assoc branch.lexemes]
  exact scanned

theorem pass_branch
    (scanned : Scanned document (front ++ (lexemesOf (branch :: branches) ++ back)) after) :
    Scanned document ((front ++ branch.lexemes) ++ (lexemesOf branches ++ back)) after := by
  rw [List.append_assoc]
  exact scanned.at_branch

/-- The heads between the braces are those of the branches. -/
theorem clauseHeads_branches
    (scanned : Scanned document (front ++ (lexemesOf branches ++ closing :: back)) after)
    (sound : ∀ branch ∈ branches, branch.Sound) (closes : closing.isPunct '\x7d' = true) :
    Switch.clauseHeads document front.length (front.length + (lexemesOf branches).length) =
      headsFrom front.length branches := by
  induction branches generalizing front with
  | nil => exact clauseHeads_self document front.length
  | cons branch rest inductionHypothesis =>
      have own := sound branch List.mem_cons_self
      have others : ∀ branch ∈ rest, branch.Sound :=
        fun branch member => sound branch (List.mem_cons_of_mem _ member)
      have atHead : Scanned document
          (front ++ branch.head :: (branch.body ++ (lexemesOf rest ++ closing :: back))) after :=
        scanned.at_branch
      have stop : front.length + (lexemesOf (branch :: rest)).length =
          (front ++ branch.lexemes).length + (lexemesOf rest).length := by
        simp only [lexemesOf_cons, Branch.lexemes, List.length_cons, List.length_append]
        omega
      have place : (front ++ [branch.head]).length + branch.body.length =
          (front ++ branch.lexemes).length := by
        simp only [Branch.lexemes, List.length_cons, List.length_append, List.length_nil]
        omega
      have passed := clauseHeads_headless own.headless (pass_plain scanned.at_branch)
        (notColon_append others (notColon_closer closes back))
        (Nat.le_trans (Nat.le_of_eq place) (Nat.le_add_right _ (lexemesOf rest).length))
      rw [place, inductionHypothesis scanned.pass_branch others, List.length_append,
        List.length_append, List.length_singleton] at passed
      rw [stop, clauseHeads_cons atHead
        (by simp only [Branch.lexemes, List.length_append, List.length_cons]; omega)
        (not_isOpener_of_starts own.starts), if_pos (startsClause_of_starts own.starts _), headsFrom,
        List.length_append, passed]

theorem clauseAt_eq
    (scanned : Scanned document (front ++ (branch.lexemes ++ back)) after)
    (noLabel : back.head?.bind (fun lexeme => Switch.caseLabel lexeme.token) = none) :
    Switch.clauseAt document front.length (front.length + branch.lexemes.length) =
      branch.clauseAt (textOf front).length := by
  have atHead : Scanned document (front ++ (branch.head :: branch.body ++ back)) after := scanned
  have isCase : document.isWordAt front.length "case".toList = branch.isCase :=
    atHead.isWordAt _
  have label : (document.token? (front.length + 1)).bind Switch.caseLabel =
      branch.body.head?.bind fun label => Switch.caseLabel label.token := by
    have found := atHead.pass_plain.token?_eq
    rw [List.length_append, List.length_singleton] at found
    rw [found]
    cases shape : branch.body with
    | nil =>
        rw [List.nil_append]
        cases behind : back with
        | nil => rfl
        | cons first rest =>
            rw [behind] at noLabel
            exact noLabel
    | cons first rest => rfl
  have start := @Scanned.startOf document _ _ _ branch.head scanned
  have stop := scanned.stopOf_eq (List.cons_ne_nil branch.head branch.body)
  rw [Switch.clauseAt, Branch.clauseAt, isCase, label, start, stop, textOf_append,
    List.length_append, key]

theorem noLabel_branches (sound : ∀ branch ∈ branches, branch.Sound)
    (closes : closing.isPunct '\x7d' = true) (back : List Lexeme) :
    (lexemesOf branches ++ closing :: back).head?.bind
      (fun lexeme => Switch.caseLabel lexeme.token) = none := by
  cases branches with
  | nil =>
      show Switch.caseLabel closing.token = none
      rw [Switch.caseLabel, token_kind, ((closing.isPunct_iff _).mp closes).1]
  | cons first rest =>
      show Switch.caseLabel first.head.token = none
      rw [Switch.caseLabel, token_kind, kind_of_starts (sound first List.mem_cons_self).starts]

theorem clausesFrom_heads
    (scanned : Scanned document (front ++ (lexemesOf branches ++ closing :: back)) after)
    (sound : ∀ branch ∈ branches, branch.Sound) (closes : closing.isPunct '\x7d' = true) :
    Switch.clausesFrom document (front.length + (lexemesOf branches).length)
        (headsFrom front.length branches) =
      Branch.clausesFrom (textOf front).length branches := by
  induction branches generalizing front with
  | nil => rfl
  | cons branch rest inductionHypothesis =>
      have others : ∀ branch ∈ rest, branch.Sound :=
        fun branch member => sound branch (List.mem_cons_of_mem _ member)
      have stop : front.length + (lexemesOf (branch :: rest)).length =
          front.length + branch.lexemes.length + (lexemesOf rest).length := by
        simp only [lexemesOf_cons, Branch.lexemes, List.length_cons, List.length_append]
        omega
      have own := scanned.at_branch.clauseAt_eq (noLabel_branches others closes back)
      have behind := inductionHypothesis scanned.pass_branch others
      rw [List.length_append, textOf_append, List.length_append] at behind
      rw [stop, Branch.clausesFrom, ← behind, ← own]
      cases rest with
      | nil =>
          rw [lexemesOf_nil, List.length_nil, Nat.add_zero]
          rfl
      | cons next more => rfl

/-- The clauses of a switch are those of its branches. -/
theorem clauses_eq {lead intro : List Lexeme} {brace : Lexeme}
    (scanned : Scanned document
      (lead ++ brace :: (intro ++ (lexemesOf branches ++ closing :: back))) after)
    (headless : Headless intro) (sound : ∀ branch ∈ branches, branch.Sound)
    (closes : closing.isPunct '\x7d' = true) :
    Switch.clauses document lead.length
        (lead.length + (intro ++ lexemesOf branches).length + 1) =
      Branch.clausesFrom (textOf (lead ++ brace :: intro)).length branches := by
  have introShape : lead ++ brace :: (intro ++ (lexemesOf branches ++ closing :: back)) =
      (lead ++ [brace]) ++ (intro ++ (lexemesOf branches ++ closing :: back)) := by
    simp
  have branchShape : lead ++ brace :: (intro ++ (lexemesOf branches ++ closing :: back)) =
      (lead ++ brace :: intro) ++ (lexemesOf branches ++ closing :: back) := by
    simp
  have opened : (lead ++ [brace]).length = lead.length + 1 := List.length_append
  have place : (lead ++ [brace]).length + intro.length = (lead ++ brace :: intro).length := by
    simp only [List.length_append, List.length_cons, List.length_nil]
    omega
  have stop : lead.length + (intro ++ lexemesOf branches).length + 1 =
      (lead ++ brace :: intro).length + (lexemesOf branches).length := by
    simp only [List.length_append, List.length_cons]
    omega
  have passed := clauseHeads_headless headless (introShape ▸ scanned)
    (notColon_append sound (notColon_closer closes back))
    (Nat.le_trans (Nat.le_of_eq place) (Nat.le_add_right _ (lexemesOf branches).length))
  rw [place, clauseHeads_branches (branchShape ▸ scanned) sound closes] at passed
  rw [Switch.clauses, stop, ← opened, passed, clausesFrom_heads (branchShape ▸ scanned) sound closes]

end Scanned

end EmbedScaffold
