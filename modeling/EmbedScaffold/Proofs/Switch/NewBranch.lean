import EmbedScaffold.Proofs.Registry.Append
import EmbedScaffold.Proofs.Switch.Layout

/-!
# The clause that an upsert writes

A body that is scanned on its own, ends its last statement and begins no clause outside brackets
stays such a body when its lines are indented.  Behind a quoted label it makes up one branch, which
is scanned as it stands before anything and behind anything that a word may follow.
-/

namespace EmbedScaffold

open Text Scan Lexeme

/-! ## Bodies -/

/-- Whether a text may be the body of a clause: it begins with a token, ends in a semicolon or a
closing brace, its brackets match, and no clause begins outside them. -/
def isClauseBody (body : Text) : Bool :=
  match Document.ofText body with
  | .error _ => false
  | .ok document =>
      match document.tokens.toList.head?, document.tokens.toList.getLast? with
      | some first, some last =>
          first.start == 0 && last.stop == body.length &&
            (last.isPunct ';' || last.isPunct '\x7d') &&
            (Switch.clauseHeads document 0 document.tokens.size).isEmpty
      | _, _ => false

/-- The lexemes of a text that may be the body of a clause. -/
structure ClauseBody (lexemes : List Lexeme) : Prop where
  fits : Fits true lexemes []
  nonempty : lexemes ≠ []
  flush : firstGap lexemes = []
  headless : Headless lexemes
  ended : ∀ last ∈ lexemes.getLast?, last.isPunct ';' = true ∨ last.isPunct '\x7d' = true

theorem exists_clauseBody {body : Text} (admissible : isClauseBody body = true) :
    ∃ lexemes, body = textOf lexemes ∧ ClauseBody lexemes := by
  rw [isClauseBody] at admissible
  split at admissible
  · cases admissible
  · next document scannedText =>
      split at admissible
      · next first last isFirst isLast =>
          simp only [Bool.and_eq_true, Bool.or_eq_true, beq_iff_eq, List.isEmpty_iff]
            at admissible
          obtain ⟨⟨⟨start, stop⟩, isEnd⟩, noHeads⟩ := admissible
          obtain ⟨others, final, scanned, shape, flush, alike⟩ :=
            Scanned.exists_flush scannedText isFirst isLast start stop
          refine ⟨others ++ [final], shape, scanned.fits, by simp, flush, ?_, ?_⟩
          · have whole : others ++ [final] = [] ++ (others ++ [final] ++ []) := by simp
            rw [scanned.size_eq] at noHeads
            exact Scanned.headless_of_clauseHeads (balanced_of_closes scanned.closes)
              (whole ▸ scanned) (fun _ member => by cases member) (by simp) noHeads
          · intro last member
            rw [List.getLast?_concat] at member
            obtain rfl := Option.some.inj member
            rw [alike.isPunct, alike.isPunct] at isEnd
            exact isEnd
      · cases admissible

/-- The body of a clause stays one when its lines are indented. -/
theorem ClauseBody.exists_reindented {lexemes : List Lexeme} (clauseBody : ClauseBody lexemes)
    {indent : Text} (areBlank : ∀ blank ∈ indent, isMargin blank = true) :
    ∃ others, textOf others = Text.reindent (textOf lexemes) indent ∧ ClauseBody others ∧
      List.Forall₂ (fun other lexeme => Kindred other.token lexeme.token) others lexemes := by
  obtain ⟨others, shape, fits, nonempty, flush, kindred⟩ :=
    clauseBody.fits.exists_reindented clauseBody.nonempty clauseBody.flush areBlank
  refine ⟨others, shape.symm, ⟨fits, nonempty, flush, clauseBody.headless.congr kindred,
    fun last member => ?_⟩, kindred⟩
  obtain ⟨source, isLast, both⟩ := exists_last_alike kindred member
  have ended := clauseBody.ended source isLast
  rw [Lexeme.isPunct, ← both.isPunct, Lexeme.isPunct, ← both.isPunct] at ended
  exact ended

theorem exists_reindentedBody {body indent : Text} (admissible : isClauseBody body = true)
    (areBlank : ∀ blank ∈ indent, isMargin blank = true) :
    ∃ lexemes, textOf lexemes = Text.reindent body indent ∧ ClauseBody lexemes := by
  obtain ⟨lexemes, rfl, clauseBody⟩ := exists_clauseBody admissible
  obtain ⟨others, text, othersBody, _⟩ := clauseBody.exists_reindented areBlank
  exact ⟨others, text, othersBody⟩

theorem ClauseBody.apart {lexemes : List Lexeme} (clauseBody : ClauseBody lexemes) (after : Text) :
    ∀ last ∈ lexemes.getLast?, Apart last after := by
  intro last member
  rcases clauseBody.ended last member with semicolon | brace
  · exact Apart.mark (show isMark ';' = true from rfl) semicolon after
  · exact Apart.mark (show isMark '\x7d' = true from rfl) brace after

/-! ## The branch -/

/-- A case with a quoted label and a body on a line of its own. -/
def newBranch (gap key indent : Text) (body : List Lexeme) : Branch :=
  ⟨⟨gap, .word, "case".toList⟩,
    ⟨[' '], .string, singleQuoted key⟩ :: ⟨[], .punct, [':']⟩ ::
      withGap ('\n' :: (indent ++ indentStep)) body⟩

/-- The case and the quoted label of a key. -/
def caseLabelOf (gap key : Text) : List Lexeme :=
  [⟨gap, .word, "case".toList⟩, ⟨[' '], .string, singleQuoted key⟩]

/-- The label of a key on one line is scanned as it stands, up to its colon. -/
theorem fits_caseLabelOf {gap key : Text} (trivia : Trivia gap) (sameLine : '\n' ∉ key)
    (allowed : Bool) (after : Text) : Fits allowed (caseLabelOf gap key) (':' :: after) := by
  let head : Lexeme := ⟨gap, .word, "case".toList⟩
  let label : Lexeme := ⟨[' '], .string, singleQuoted key⟩
  have letters : "case".toList.all isWordChar = true := by decide +kernel
  refine ⟨trivia, .word (by decide) (List.all_eq_true.mp letters) allowed, ?_, Trivia.ofBlank rfl,
    .singleQuoted sameLine _, ?_, ?_⟩
  · have soft : Soft (textOf [label] ++ ':' :: after) := by
      intro first member
      cases member
      exact ⟨rfl, by decide⟩
    have noSlash : head.value ≠ ['/'] := show "case".toList ≠ ['/'] by decide
    exact (Apart.ofSoft soft noSlash).separated
  · have soft : Soft (':' :: after) := by
      intro first member
      cases member
      exact ⟨rfl, by decide⟩
    have noSlash : label.value ≠ ['/'] := fun slash => absurd (List.cons.inj slash).1 (by decide)
    exact (Apart.ofSoft soft noSlash).separated
  · trivial

section NewBranch

variable {gap key indent : Text} {body : List Lexeme}

theorem key_newBranch (gap key indent : Text) (body : List Lexeme) :
    (newBranch gap key indent body).key = some key := by
  have label : (newBranch gap key indent body).key =
      some (Token.quotedValue (singleQuoted key)) := rfl
  rw [label, quotedValue_singleQuoted]

theorem isCase_newBranch (gap key indent : Text) (body : List Lexeme) :
    (newBranch gap key indent body).isCase = true :=
  rfl

theorem written_newBranch (clauseBody : ClauseBody body) {value : Text}
    (text : textOf body = Text.reindent (strip value) (indent ++ indentStep)) :
    written (newBranch gap key indent body).lexemes = Switch.clauseText key value indent := by
  have behind : textOf (withGap ('\n' :: (indent ++ indentStep)) body) =
      '\n' :: (indent ++ indentStep) ++ textOf body := by
    rw [textOf_eq, written_withGap, textOf_eq body, clauseBody.flush, List.nil_append]
    cases body with
    | nil => exact absurd rfl clauseBody.nonempty
    | cons first rest => rfl
  have shape : written (newBranch gap key indent body).lexemes =
      "case".toList ++ (' ' :: singleQuoted key ++
        (':' :: textOf (withGap ('\n' :: (indent ++ indentStep)) body))) := rfl
  have shown : Switch.clauseText key value indent =
      "case".toList ++ [' '] ++ singleQuoted key ++ [':', '\n'] ++ indent ++ indentStep ++
        Text.reindent (strip value) (indent ++ indentStep) := rfl
  rw [shape, behind, shown, text]
  simp only [List.append_assoc, List.cons_append, List.nil_append]

theorem sound_newBranch (clauseBody : ClauseBody body) (gap key indent : Text) :
    (newBranch gap key indent body).Sound := by
  have bodyHeadless : Headless (withGap ('\n' :: (indent ++ indentStep)) body) := by
    refine clauseBody.headless.congr ?_
    cases body with
    | nil => exact .nil
    | cons first rest =>
        exact .cons ⟨rfl, fun _ => rfl⟩ (List.forall₂_same.mpr fun lexeme _ => Kindred.refl _)
  exact ⟨rfl, .plain rfl rfl rfl (.plain rfl rfl rfl bodyHeadless)⟩

theorem readsAlone_of_starts {head : Lexeme} {rest : List Lexeme}
    (starts : startsClause head rest = true) (allowed : Bool) :
    ReadsAlone allowed head.kind head.value := by
  have letters : ["case".toList, "default".toList].all
      (fun name => ! name.isEmpty && name.all isWordChar) = true := by decide +kernel
  have isName : head.value ∈ ["case".toList, "default".toList] := by
    simp only [startsClause, Token.isWord, Bool.or_eq_true, Bool.and_eq_true, decide_eq_true_eq]
      at starts
    rcases starts with isCase | isDefault
    · exact List.mem_cons.mpr (Or.inl isCase.2)
    · exact List.mem_cons_of_mem _ (List.mem_singleton.mpr isDefault.1.2)
  have named := List.all_eq_true.mp letters head.value isName
  rw [Bool.and_eq_true_iff, Bool.not_eq_true', List.isEmpty_eq_false_iff] at named
  rw [kind_of_starts starts]
  exact .word named.1 (List.all_eq_true.mp named.2) allowed

/-- A new branch is scanned as it stands, whatever stands around it. -/
theorem fits_newBranch (clauseBody : ClauseBody body) (trivia : Trivia gap) (sameLine : '\n' ∉ key)
    (areBlank : ∀ blank ∈ indent, isMargin blank = true) (allowed : Bool) (after : Text) :
    Fits allowed (newBranch gap key indent body).lexemes after := by
  have bodyFits : Fits true (withGap ('\n' :: (indent ++ indentStep)) body) after := by
    have fits := clauseBody.fits.retail (clauseBody.apart after)
    cases body with
    | nil => trivial
    | cons first rest =>
        exact ⟨Trivia.newLine Trivia.nil (isMargin_append areBlank isMargin_indentStep), fits.2⟩
  have colonFits (allowed : Bool) : Fits allowed
      (⟨[], .punct, [':']⟩ :: withGap ('\n' :: (indent ++ indentStep)) body) after :=
    Fits.mark rfl .nil bodyFits
  have shape : (newBranch gap key indent body).lexemes = caseLabelOf gap key ++
      ⟨[], .punct, [':']⟩ :: withGap ('\n' :: (indent ++ indentStep)) body := rfl
  rw [shape]
  exact fits_append.mpr ⟨fits_caseLabelOf trivia sameLine allowed _, colonFits _⟩

end NewBranch

end EmbedScaffold
