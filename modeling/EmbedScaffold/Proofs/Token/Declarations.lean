import EmbedScaffold.Proofs.Literal.Snippet
import EmbedScaffold.Proofs.Token.Insertion
import EmbedScaffold.Registry.Header

/-!
# Counting declarations

A name is declared where it stands right behind a declaration word.  Declarations are counted over
pairs of neighbours, so those of a text are the ones of its parts, unless a declaration word and its
name are parted where the text is cut.
-/

namespace EmbedScaffold

open Text Scan Lexeme

namespace Header

/-- Whether a word is declared by the token before it. -/
def declares (name : Text) (keyword word : Token) : Bool :=
  word.isWord name && keyword.kind = .word && Mapping.declarationWords.contains keyword.value

/-- How often tokens declare a name. -/
def declarations (name : Text) : List Token → Nat
  | keyword :: word :: rest =>
      (declares name keyword word).toNat + declarations name (word :: rest)
  | _ => 0

/-- How often a text declares a name, if it is scanned and its brackets match. -/
def declarationsIn (name content : Text) : Option Nat :=
  (Document.ofText content).toOption.map fun document => declarations name document.tokens.toList

variable {name : Text} {left right : List Token}

theorem declarationsIn_scanned {content : Text} {document : Document}
    (scannedText : Document.ofText content = .ok document) :
    declarationsIn name content = some (declarations name document.tokens.toList) := by
  rw [declarationsIn, scannedText]
  rfl

theorem declares_congr {keyword other word another : Token} (keywords : Kindred keyword other)
    (words : Kindred word another) : declares name keyword word = declares name other another := by
  rw [declares, declares, words.isWord, ← keywords.kind]
  by_cases isWord : keyword.kind = .word
  · rw [keywords.value (.inr isWord)]
  · simp [isWord]

theorem declares_of_keyword {keyword : Token} (noWord : keyword.kind ≠ .word) (word : Token) :
    declares name keyword word = false := by
  simp [declares, noWord]

theorem declares_of_word {word : Token} (other : word.isWord name = false) (keyword : Token) :
    declares name keyword word = false := by
  rw [declares, other]
  rfl

/-- Declarations are seen without the places of tokens, and without the text of literals. -/
theorem declarations_congr (alike : List.Forall₂ Kindred left right) :
    declarations name left = declarations name right := by
  induction alike with
  | nil => rfl
  | cons first behind inductionHypothesis =>
      cases behind with
      | nil => rfl
      | cons second others =>
          rw [declarations, declarations, inductionHypothesis, declares_congr first second]

/-- Tokens that differ in their places alone are kindred. -/
theorem kindred_of_bare (same : left.map Token.bare = right.map Token.bare) :
    List.Forall₂ Kindred left right := by
  have equal : List.Forall₂ (· = ·) (left.map Token.bare) (right.map Token.bare) :=
    same ▸ List.forall₂_refl _
  refine (List.forall₂_map_left_iff.mp (List.forall₂_map_right_iff.mp equal)).imp ?_
  intro first second alike
  exact ⟨show first.bare.kind = second.bare.kind by rw [alike],
    fun _ => show first.bare.value = second.bare.value by rw [alike]⟩

/-- The declarations of two parts, and the one that is cut between them. -/
theorem declarations_append (left right : List Token) :
    declarations name (left ++ right) = declarations name left + declarations name right +
      ((left.getLast?.bind fun last => right.head?.map (declares name last)).getD false).toNat := by
  induction left with
  | nil => simp [declarations]
  | cons first rest inductionHypothesis =>
      cases rest with
      | nil =>
          cases right with
          | nil => rfl
          | cons second others =>
              simp [declarations, Nat.add_comm]
      | cons second others =>
          rw [List.cons_append, List.cons_append, declarations, ← List.cons_append,
            inductionHypothesis, declarations, List.getLast?_cons_cons]
          omega

theorem declarations_append_of_seam
    (seam : ∀ last ∈ left.getLast?, ∀ first ∈ right.head?, declares name last first = false) :
    declarations name (left ++ right) = declarations name left + declarations name right := by
  rw [declarations_append]
  cases isLast : left.getLast? with
  | none => rfl
  | some last =>
      cases isFirst : right.head? with
      | none => rfl
      | some first =>
          have none := seam last isLast first isFirst
          simp [none]

theorem declarations_le_append (left right : List Token) :
    declarations name left + declarations name right ≤ declarations name (left ++ right) := by
  rw [declarations_append]
  exact Nat.le_add_right _ _

theorem declaresMarker_iff {tokens : List Token} :
    declaresMarker name tokens = true ↔ 0 < declarations name tokens := by
  induction tokens with
  | nil => simp [declaresMarker, declarations]
  | cons first rest inductionHypothesis =>
      cases rest with
      | nil => simp [declaresMarker, declarations]
      | cons second others =>
          rw [declaresMarker, declarations, Bool.or_eq_true, inductionHypothesis, ← declares]
          cases declares name first second with
          | false => simp
          | true =>
              rw [Bool.toNat_true]
              simp only [true_or, true_iff]
              omega

end Header

namespace Lexeme

open Header

/-- How often lexemes declare a name. -/
def declared (name : Text) (lexemes : List Lexeme) : Nat :=
  declarations name (lexemes.map token)

variable {name : Text} {left right lexemes : List Lexeme}

theorem declarations_tokensAt (offset : Nat) (lexemes : List Lexeme) :
    declarations name (tokensAt offset lexemes) = declared name lexemes := by
  refine declarations_congr ?_
  induction lexemes generalizing offset with
  | nil => exact .nil
  | cons first rest inductionHypothesis =>
      exact .cons (kindred_tokenAt offset first) (inductionHypothesis _)

theorem declarationsIn_eq {content : Text} {document : Document}
    (scannedText : Document.ofText content = .ok document)
    (tokens : document.tokens.toList = tokensAt 0 lexemes) :
    declarationsIn name content = some (declared name lexemes) := by
  rw [declarationsIn_scanned scannedText, tokens, declarations_tokensAt]

theorem declared_le_append (left right : List Lexeme) :
    declared name left + declared name right ≤ declared name (left ++ right) := by
  rw [declared, declared, declared, List.map_append]
  exact declarations_le_append _ _

theorem declared_le_of_within (within : left <:+: right) : declared name left ≤ declared name right := by
  obtain ⟨front, back, rfl⟩ := within
  have first := @declared_le_append name front left
  have second := @declared_le_append name (front ++ left) back
  omega

/-- No declaration is cut between lexemes of which the last is no word, or not before the name. -/
theorem declared_append_of_seam
    (seam : ∀ last ∈ left.getLast?, ∀ first ∈ right.head?,
      last.kind = .word → first.token.isWord name = false) :
    declared name (left ++ right) = declared name left + declared name right := by
  rw [declared, List.map_append]
  refine declarations_append_of_seam fun last isLast first isFirst => ?_
  rw [List.getLast?_map] at isLast
  rw [List.head?_map] at isFirst
  obtain ⟨final, isFinal, rfl⟩ := Option.map_eq_some_iff.mp isLast
  obtain ⟨next, isNext, rfl⟩ := Option.map_eq_some_iff.mp isFirst
  by_cases isWord : final.kind = .word
  · exact declares_of_word (seam final isFinal next isNext isWord) _
  · exact declares_of_keyword isWord _

/-- A lexeme that is no word cuts no declaration. -/
theorem declared_around {lexeme : Lexeme} (noWord : lexeme.kind ≠ .word) (left right : List Lexeme) :
    declared name (left ++ lexeme :: right) = declared name left + declared name right := by
  have noName : lexeme.token.isWord name = false := by simp [Token.isWord, noWord]
  have behind : declared name (lexeme :: right) = declared name right := by
    have split := @declared_append_of_seam name [lexeme] right fun last isLast _ _ isWord => by
      obtain rfl : lexeme = last := Option.some.inj isLast
      exact absurd isWord noWord
    exact split.trans (Nat.zero_add _)
  rw [← behind]
  refine declared_append_of_seam fun _ _ first isFirst _ => ?_
  obtain rfl : lexeme = first := Option.some.inj isFirst
  exact noName

theorem declared_cons {lexeme : Lexeme} (noWord : lexeme.kind ≠ .word) (right : List Lexeme) :
    declared name (lexeme :: right) = declared name right := by
  have whole := @declared_around name lexeme noWord [] right
  rw [List.nil_append] at whole
  exact whole.trans (Nat.zero_add _)

theorem declared_of_kindred
    (kindred : List.Forall₂ (fun other lexeme => Kindred other.token lexeme.token) left right) :
    declared name left = declared name right :=
  declarations_congr (List.forall₂_map_left_iff.mpr (List.forall₂_map_right_iff.mpr kindred))

theorem isWord_of_kindred
    (kindred : List.Forall₂ (fun other lexeme => Kindred other.token lexeme.token) left right)
    (absent : ∀ lexeme ∈ right, lexeme.token.isWord name = false) :
    ∀ lexeme ∈ left, lexeme.token.isWord name = false := by
  induction kindred with
  | nil => exact fun _ member => absurd member List.not_mem_nil
  | cons alike _ inductionHypothesis =>
      obtain ⟨absentFirst, absentRest⟩ := List.forall_mem_cons.mp absent
      exact List.forall_mem_cons.mpr
        ⟨(alike.isWord name).trans absentFirst, inductionHypothesis absentRest⟩

/-- Lexemes with the same tokens, places aside, are kindred one by one. -/
theorem kindred_of_tokensAt {offset start : Nat}
    (same : (tokensAt offset left).map Token.bare = (tokensAt start right).map Token.bare) :
    List.Forall₂ (fun other lexeme => Kindred other.token lexeme.token) left right := by
  induction left generalizing right offset start with
  | nil =>
      cases right with
      | nil => exact .nil
      | cons first rest => cases same
  | cons first rest inductionHypothesis =>
      cases right with
      | nil => cases same
      | cons second others =>
          obtain ⟨alike, behind⟩ := List.cons.inj same
          have kind : first.kind = second.kind := congrArg Token.kind alike
          have value : first.value = second.value := congrArg Token.value alike
          exact .cons ⟨kind, fun _ => value⟩ (inductionHypothesis behind)

theorem declared_withGap (gap : Text) (lexemes : List Lexeme) :
    declared name (withGap gap lexemes) = declared name lexemes := by
  refine declared_of_kindred ?_
  cases lexemes with
  | nil => exact .nil
  | cons first rest =>
      exact .cons ⟨rfl, fun _ => rfl⟩ (List.forall₂_same.mpr fun lexeme _ => Kindred.refl _)

/-- Words that do not stand side by side declare nothing. -/
theorem declared_of_wordsApart (apart : WordsApart lexemes) : declared name lexemes = 0 := by
  induction lexemes with
  | nil => rfl
  | cons first rest inductionHypothesis =>
      cases rest with
      | nil => rfl
      | cons second others =>
          obtain ⟨seam, behind⟩ := List.isChain_cons_cons.mp apart
          have none : declares name first.token second.token = false := by
            by_cases isWord : first.kind = .word
            · have noWord := seam isWord
              exact declares_of_word (by simp [Token.isWord, noWord]) _
            · exact declares_of_keyword isWord _
          have goesOn := inductionHypothesis behind
          rw [declared, List.map_cons] at goesOn
          rw [declared, List.map_cons, List.map_cons, declarations, none, goesOn]
          rfl

/-- An entry whose value declares nothing declares nothing. -/
theorem declared_newEntry (gap key : Text) (value : List Lexeme) :
    declared name (newEntry gap key value) = declared name value := by
  have colon : (⟨[], .punct, [':']⟩ : Lexeme).kind ≠ .word := by simp
  have whole := @declared_around name _ colon [ofKey gap key] (withGap [' '] value)
  rw [declared_withGap] at whole
  exact whole.trans (Nat.zero_add _)

end Lexeme

end EmbedScaffold
