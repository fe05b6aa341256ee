import EmbedScaffold.Proofs.Name.PascalCase
import EmbedScaffold.Proofs.Text.Case
import Mathlib

/-!
# Lookup keys of declared names

The key of a name in Pascal case is spelled with small letters, digits and hyphens, and each hyphen
stands between two letters; without its hyphens it is the name in lower case, so two names share a
key only if they differ in nothing but the case of their letters.  A line feed behind the name
becomes a hyphen behind the key.
-/

namespace EmbedScaffold

open Text

/-! ## Hyphens between words -/

section Hyphens

variable {content rest : Text}

theorem mem_hyphenateWords {shown : Char} (member : shown ∈ hyphenateWords content) :
    shown ∈ content ∨ shown = '-' := by
  fun_induction hyphenateWords content with
  | case1 first second rest _ inductionHypothesis =>
      simp only [List.mem_cons] at member ⊢
      rcases member with here | hyphen | behind | inRest
      · exact Or.inl (Or.inl here)
      · exact Or.inr hyphen
      · exact Or.inl (Or.inr (Or.inl behind))
      · exact (inductionHypothesis inRest).imp_left fun among => Or.inr (Or.inr among)
  | case2 first second rest _ inductionHypothesis =>
      rcases List.mem_cons.mp member with here | inRest
      · exact Or.inl (here ▸ List.mem_cons_self)
      · exact (inductionHypothesis inRest).imp_left (List.mem_cons_of_mem first)
  | case3 => exact Or.inl member

theorem hyphenateWords_append (apart : rest.head?.any Char.isUpper = false) :
    hyphenateWords (content ++ rest) = hyphenateWords content ++ hyphenateWords rest := by
  fun_induction hyphenateWords content with
  | case1 first second behind meets inductionHypothesis =>
      rw [List.cons_append, List.cons_append, hyphenateWords, if_pos meets, inductionHypothesis]
      rfl
  | case2 first second behind meets inductionHypothesis =>
      rw [List.cons_append, List.cons_append, hyphenateWords, if_neg meets, ← List.cons_append,
        inductionHypothesis]
      rfl
  | case3 content short =>
      match content, rest, short with
      | [], _, _ => rfl
      | [first], [], _ => rfl
      | [first], next :: others, _ =>
          have small : next.isUpper = false := apart
          rw [List.singleton_append, hyphenateWords, small, Bool.and_false,
            if_neg Bool.false_ne_true]
          rfl
      | first :: second :: others, _, short => exact (short first second others rfl).elim

theorem hyphenateWords_eq_self (noCapital : ∀ shown ∈ content, shown.isUpper = false) :
    hyphenateWords content = content := by
  fun_induction hyphenateWords content with
  | case1 first second rest meets =>
      rw [noCapital second (by simp), Bool.and_false] at meets
      exact (Bool.false_ne_true meets).elim
  | case2 first second rest _ inductionHypothesis =>
      rw [inductionHypothesis fun shown member => noCapital shown (List.mem_cons_of_mem _ member)]
  | case3 => rfl

theorem head?_hyphenateWords : (hyphenateWords content).head? = content.head? := by
  fun_cases hyphenateWords content <;> rfl

/-- Without the hyphens the words stand as they were. -/
theorem filter_hyphenateWords (noHyphen : '-' ∉ content) :
    (hyphenateWords content).filter (· != '-') = content := by
  fun_induction hyphenateWords content with
  | case1 first second rest _ inductionHypothesis =>
      simp only [List.mem_cons, not_or] at noHyphen
      obtain ⟨firstSolid, secondSolid, restSolid⟩ := noHyphen
      have firstStays : (first != '-') = true := bne_iff_ne.mpr (Ne.symm firstSolid)
      have secondStays : (second != '-') = true := bne_iff_ne.mpr (Ne.symm secondSolid)
      simp only [List.filter_cons, firstStays, secondStays, bne_self_eq_false, if_true,
        inductionHypothesis restSolid, Bool.false_eq_true, if_false]
  | case2 first second rest _ inductionHypothesis =>
      rw [List.mem_cons, not_or] at noHyphen
      have firstStays : (first != '-') = true := bne_iff_ne.mpr (Ne.symm noHyphen.1)
      rw [List.filter_cons, if_pos firstStays, inductionHypothesis noHyphen.2]
  | case3 content =>
      exact List.filter_eq_self.mpr fun shown member =>
        bne_iff_ne.mpr fun hyphen => noHyphen (hyphen ▸ member)

/-- A hyphen is put only between a small letter and a capital. -/
theorem exists_letters_of_hyphenateWords {before behind : Text} (noHyphen : '-' ∉ content)
    (shape : hyphenateWords content = before ++ '-' :: behind) :
    ∃ front small capital back, before = front ++ [small] ∧ behind = capital :: back ∧
      small.isLower = true ∧ capital.isUpper = true := by
  fun_induction hyphenateWords content generalizing before with
  | case1 first second rest meets inductionHypothesis =>
      rw [Bool.and_eq_true] at meets
      simp only [List.mem_cons, not_or] at noHyphen
      obtain ⟨firstSolid, secondSolid, restSolid⟩ := noHyphen
      -- the hyphen in question is the one put in here, or it stands behind both letters
      match before with
      | [] => exact (firstSolid (List.cons.inj shape).1.symm).elim
      | [_] =>
          simp only [List.cons_append, List.nil_append, List.cons.injEq, true_and] at shape
          obtain ⟨rfl, rfl⟩ := shape
          exact ⟨[], first, second, _, rfl, rfl, meets.1, meets.2⟩
      | [_, _] =>
          simp only [List.cons_append, List.nil_append, List.cons.injEq] at shape
          exact (secondSolid shape.2.2.1.symm).elim
      | one :: two :: three :: later =>
          simp only [List.cons_append, List.cons.injEq] at shape
          obtain ⟨front, small, capital, back, rfl, rest⟩ :=
            inductionHypothesis restSolid shape.2.2.2
          exact ⟨one :: two :: three :: front, small, capital, back, rfl, rest⟩
  | case2 first second rest _ inductionHypothesis =>
      rw [List.mem_cons, not_or] at noHyphen
      match before with
      | [] => exact (noHyphen.1 (List.cons.inj shape).1.symm).elim
      | one :: later =>
          obtain ⟨front, small, capital, back, rfl, rest⟩ :=
            inductionHypothesis noHyphen.2 (List.cons.inj shape).2
          exact ⟨one :: front, small, capital, back, rfl, rest⟩
  | case3 content => exact (noHyphen (shape ▸ by simp)).elim

end Hyphens

/-! ## Hyphens for blanks -/

theorem hyphenateBlanks_append {content : Text} (solid : ∀ shown ∈ content, isBlank shown = false)
    (rest : Text) :
    hyphenateBlanks false (content ++ rest) = content ++ hyphenateBlanks false rest := by
  induction content with
  | nil => rfl
  | cons first others inductionHypothesis =>
      obtain ⟨firstSolid, othersSolid⟩ := List.forall_mem_cons.mp solid
      rw [List.cons_append, hyphenateBlanks, firstSolid, if_neg Bool.false_ne_true,
        inductionHypothesis othersSolid]
      rfl

theorem hyphenateBlanks_eq_self {content : Text}
    (solid : ∀ shown ∈ content, isBlank shown = false) : hyphenateBlanks false content = content := by
  simpa [hyphenateBlanks] using hyphenateBlanks_append solid []

/-! ## Keys -/

/-- A text of letters, digits and hyphens of the ASCII alphabet. -/
def IsHyphenated (content : Text) : Prop :=
  ∀ shown ∈ content, shown.isAlphanum = true ∨ shown = '-'

/-- A character that lookup keys are spelled with. -/
def isKeyChar (tested : Char) : Bool :=
  tested.isLower || tested.isDigit || tested == '-'

/-- A text whose hyphens each stand between two small letters. -/
def JoinsLetters (key : Text) : Prop :=
  ∀ before behind, key = before ++ '-' :: behind →
    before.getLast?.any Char.isLower = true ∧ behind.head?.any Char.isLower = true

section Characters

variable {tested : Char}

theorem isAlphanum_or_of_isKeyChar (isKey : isKeyChar tested = true) :
    tested.isAlphanum = true ∨ tested = '-' := by
  simp only [isKeyChar, Bool.or_eq_true, beq_iff_eq] at isKey
  refine isKey.imp_left fun alphanumeric => ?_
  rw [Char.isAlphanum, Char.isAlpha, Bool.or_eq_true, Bool.or_eq_true]
  exact alphanumeric.imp_left Or.inr

theorem isUpper_of_isKeyChar (isKey : isKeyChar tested = true) : tested.isUpper = false := by
  rw [Bool.eq_false_iff]
  intro isUpper
  simp only [isKeyChar, Bool.or_eq_true, beq_iff_eq] at isKey
  rcases isKey with (isLower | isDigit) | rfl
  · exact Char.not_isLower_of_isUpper isUpper isLower
  · delta Char.isUpper Char.isDigit at isUpper isDigit
    simp only [Bool.and_eq_true, decide_eq_true_eq, ge_iff_le, UInt32.le_iff_toNat_le]
      at isUpper isDigit
    have capital : 'A'.val.toNat = 65 := rfl
    have digit : '9'.val.toNat = 57 := rfl
    omega
  · cases isUpper

theorem toLower_of_isKeyChar (isKey : isKeyChar tested = true) : tested.toLower = tested :=
  Char.toLower_eq_of_not_isUpper (Bool.eq_false_iff.mp (isUpper_of_isKeyChar isKey))

theorem isKeyChar_toLower (shown : tested.isAlphanum = true ∨ tested = '-') :
    isKeyChar tested.toLower = true := by
  rcases shown with alphanumeric | rfl
  · rw [Char.isAlphanum, Bool.or_eq_true] at alphanumeric
    rcases alphanumeric with isAlpha | isDigit
    · rw [isKeyChar, Char.isLower_toLower_eq_isAlpha, isAlpha, Bool.true_or, Bool.true_or]
    · have isKey : isKeyChar tested = true := by
        rw [isKeyChar, isDigit, Bool.or_true, Bool.true_or]
      rw [toLower_of_isKeyChar isKey, isKey]
  · rfl

theorem toLower_eq_hyphen_iff : tested.toLower = '-' ↔ tested = '-' := by
  constructor
  · intro lowered
    by_cases isUpper : tested.isUpper = true
    · have small := Char.isLower_toLower_eq_isAlpha tested
      rw [lowered, Char.isAlpha, isUpper] at small
      cases small
    · rwa [Char.toLower_eq_of_not_isUpper isUpper] at lowered
  · rintro rfl
    rfl

end Characters

section Key

variable {content : Text}

namespace IsHyphenated

theorem toNat_lt (hyphenated : IsHyphenated content) : ∀ shown ∈ content, shown.toNat < 128 := by
  intro shown member
  rcases hyphenated shown member with alphanumeric | rfl
  · exact toNat_lt_of_isAlphanum alphanumeric
  · decide

theorem isBlank_eq (hyphenated : IsHyphenated content) :
    ∀ shown ∈ content, isBlank shown = false := by
  intro shown member
  rcases hyphenated shown member with alphanumeric | rfl
  · exact isBlank_of_isAlphanum alphanumeric
  · rfl

theorem ofWords (hyphenated : IsHyphenated content) : IsHyphenated (hyphenateWords content) :=
  fun shown member => (mem_hyphenateWords member).elim (hyphenated shown) Or.inr

theorem lookupKey_eq (hyphenated : IsHyphenated content) :
    lookupKey content = (hyphenateWords content).map Char.toLower := by
  rw [lookupKey, hyphenateBlanks_eq_self hyphenated.ofWords.isBlank_eq,
    lower_eq_map hyphenated.ofWords.toNat_lt]

theorem isKeyChar_of_mem (hyphenated : IsHyphenated content) :
    ∀ shown ∈ lookupKey content, isKeyChar shown = true := by
  rw [hyphenated.lookupKey_eq, List.forall_mem_map]
  exact fun shown member => isKeyChar_toLower (hyphenated.ofWords shown member)

/-- A line feed becomes a hyphen at the end of the key. -/
theorem lookupKey_lineFeed (hyphenated : IsHyphenated content) :
    lookupKey (content ++ ['\n']) = lookupKey content ++ ['-'] := by
  have feed : hyphenateBlanks false (hyphenateWords ['\n']) = ['-'] := rfl
  have ended : IsHyphenated (hyphenateWords content ++ ['-']) :=
    List.forall_mem_append.mpr ⟨hyphenated.ofWords, List.forall_mem_singleton.mpr (Or.inr rfl)⟩
  calc lookupKey (content ++ ['\n'])
      = lower (hyphenateBlanks false (hyphenateWords content ++ hyphenateWords ['\n'])) := by
        rw [lookupKey, hyphenateWords_append rfl]
    _ = lower (hyphenateWords content ++ ['-']) := by
        rw [hyphenateBlanks_append hyphenated.ofWords.isBlank_eq, feed]
    _ = lookupKey content ++ ['-'] := by
        rw [lower_eq_map ended.toNat_lt, List.map_append, ← hyphenated.lookupKey_eq]
        rfl

end IsHyphenated

/-- A text that is spelled as keys are is its own key. -/
theorem lookupKey_eq_self (spelled : ∀ shown ∈ content, isKeyChar shown = true) :
    lookupKey content = content := by
  have hyphenated : IsHyphenated content := fun shown member =>
    isAlphanum_or_of_isKeyChar (spelled shown member)
  rw [hyphenated.lookupKey_eq,
    hyphenateWords_eq_self fun shown member => isUpper_of_isKeyChar (spelled shown member),
    List.map_congr_left fun shown member => toLower_of_isKeyChar (spelled shown member),
    List.map_id']

end Key

/-! ## Keys of names in Pascal case -/

section PascalCaseKey

variable {name : Text}

namespace IsPascalCase

theorem isHyphenated (pascal : IsPascalCase name) : IsHyphenated name :=
  fun shown member => Or.inl (pascal.isAlphanum shown member)

theorem lower_eq (pascal : IsPascalCase name) : lower name = name.map Char.toLower :=
  lower_eq_map pascal.isHyphenated.toNat_lt

theorem lower_lineFeed (pascal : IsPascalCase name) :
    lower (name ++ ['\n']) = lower name ++ ['\n'] := by
  have ascii : ∀ shown ∈ name ++ ['\n'], shown.toNat < 128 :=
    List.forall_mem_append.mpr ⟨pascal.isHyphenated.toNat_lt,
      List.forall_mem_singleton.mpr (by decide)⟩
  rw [lower_eq_map ascii, List.map_append, ← pascal.lower_eq]
  rfl

theorem head?_lookupKey (pascal : IsPascalCase name) :
    (lookupKey name).head?.any Char.isLower = true := by
  rw [pascal.isHyphenated.lookupKey_eq, List.head?_map, head?_hyphenateWords]
  cases name with
  | nil => exact pascal.elim
  | cons first rest =>
      rw [List.head?_cons, Option.map_some, Option.any_some, Char.isLower_toLower_eq_isAlpha,
        Char.isAlpha, pascal.1, Bool.true_or]

theorem joinsLetters (pascal : IsPascalCase name) : JoinsLetters (lookupKey name) := by
  intro before behind shape
  rw [pascal.isHyphenated.lookupKey_eq] at shape
  obtain ⟨front, later, words, rfl, onward⟩ := List.map_eq_append_iff.mp shape
  obtain ⟨hyphen, back, rfl, lowered, rfl⟩ := List.map_eq_cons_iff.mp onward
  obtain rfl := toLower_eq_hyphen_iff.mp lowered
  obtain ⟨start, small, capital, rest, rfl, rfl, isLower, isUpper⟩ :=
    exists_letters_of_hyphenateWords (pascal.notMem rfl) words
  constructor
  · rw [List.map_append, List.map_singleton, List.getLast?_concat, Option.any_some,
      Char.isLower_toLower_eq_isAlpha, Char.isAlpha, isLower, Bool.or_true]
  · rw [List.map_cons, List.head?_cons, Option.any_some, Char.isLower_toLower_eq_isAlpha,
      Char.isAlpha, isUpper, Bool.true_or]

/-- Without its hyphens the key is the name in lower case. -/
theorem filter_lookupKey (pascal : IsPascalCase name) :
    (lookupKey name).filter (· != '-') = lower name := by
  have kept : (· != '-') ∘ Char.toLower = (· != '-') :=
    funext fun tested => Bool.eq_iff_iff.mpr (by simp [toLower_eq_hyphen_iff])
  rw [pascal.isHyphenated.lookupKey_eq, List.filter_map, kept,
    filter_hyphenateWords (pascal.notMem rfl), pascal.lower_eq]

theorem lower_eq_of_lookupKey {other : Text} (pascal : IsPascalCase name)
    (otherPascal : IsPascalCase other) (same : lookupKey other = lookupKey name) :
    lower other = lower name := by
  rw [← otherPascal.filter_lookupKey, same, pascal.filter_lookupKey]

/-- No hyphen ends the key. -/
theorem lookupKey_ne_concat (pascal : IsPascalCase name) (key : Text) :
    lookupKey name ≠ key ++ ['-'] := fun shape =>
  Bool.false_ne_true (pascal.joinsLetters key [] shape).2

end IsPascalCase

end PascalCaseKey

/-! ## The keys of all names that are accepted -/

section Declared

variable {name other : Text}

theorem lower_eq_of_lookupKey (named : isDeclarationName name = true)
    (otherNamed : isDeclarationName other = true) (same : lookupKey other = lookupKey name) :
    lower other = lower name := by
  obtain ⟨pascal, isPascal, rfl | rfl⟩ := isDeclarationName_iff.mp named <;>
    obtain ⟨otherPascal, otherIsPascal, rfl | rfl⟩ := isDeclarationName_iff.mp otherNamed
  -- only the key of a name that ends with a line feed ends with a hyphen
  · exact isPascal.lower_eq_of_lookupKey otherIsPascal same
  · rw [otherIsPascal.isHyphenated.lookupKey_lineFeed] at same
    exact (isPascal.lookupKey_ne_concat _ same.symm).elim
  · rw [isPascal.isHyphenated.lookupKey_lineFeed] at same
    exact (otherIsPascal.lookupKey_ne_concat _ same).elim
  · rw [isPascal.isHyphenated.lookupKey_lineFeed,
      otherIsPascal.isHyphenated.lookupKey_lineFeed] at same
    rw [isPascal.lower_lineFeed, otherIsPascal.lower_lineFeed,
      isPascal.lower_eq_of_lookupKey otherIsPascal (List.append_cancel_right same)]

theorem head?_lookupKey (named : isDeclarationName name = true) :
    (lookupKey name).head?.any Char.isLower = true := by
  obtain ⟨pascal, isPascal, rfl | rfl⟩ := isDeclarationName_iff.mp named
  · exact isPascal.head?_lookupKey
  · rw [isPascal.isHyphenated.lookupKey_lineFeed, List.head?_append]
    exact Option.any_or_of_any_left isPascal.head?_lookupKey

/-- Keys are spelled with small letters, digits and hyphens. -/
theorem isKeyChar_of_mem_lookupKey (named : isDeclarationName name = true) :
    ∀ shown ∈ lookupKey name, isKeyChar shown = true := by
  obtain ⟨pascal, isPascal, rfl | rfl⟩ := isDeclarationName_iff.mp named
  · exact isPascal.isHyphenated.isKeyChar_of_mem
  · rw [isPascal.isHyphenated.lookupKey_lineFeed]
    exact List.forall_mem_append.mpr
      ⟨isPascal.isHyphenated.isKeyChar_of_mem, List.forall_mem_singleton.mpr rfl⟩

/-- What holds of the names in Pascal case, and of none of them with a line feed behind it, holds of
an accepted name exactly if it has no line feed. -/
theorem iff_lineFeed_notMem (holds : Text → Prop) (named : isDeclarationName name = true)
    (kept : ∀ pascal, IsPascalCase pascal → holds pascal)
    (lost : ∀ pascal, IsPascalCase pascal → ¬ holds (pascal ++ ['\n'])) :
    holds name ↔ '\n' ∉ name := by
  obtain ⟨pascal, isPascal, rfl | rfl⟩ := isDeclarationName_iff.mp named
  · exact iff_of_true (kept name isPascal) (isPascal.notMem rfl)
  · exact iff_of_false (lost pascal isPascal) (by simp)

theorem isPascalCase_iff (named : isDeclarationName name = true) :
    IsPascalCase name ↔ '\n' ∉ name := by
  refine iff_lineFeed_notMem IsPascalCase named (fun _ isPascal => isPascal) fun pascal _ fed => ?_
  have noFeed : '\n' ∉ pascal ++ ['\n'] := fed.notMem rfl
  exact noFeed (by simp)

theorem joinsLetters_lookupKey_iff (named : isDeclarationName name = true) :
    JoinsLetters (lookupKey name) ↔ '\n' ∉ name := by
  refine iff_lineFeed_notMem (fun name => JoinsLetters (lookupKey name)) named
    (fun _ isPascal => isPascal.joinsLetters) fun pascal isPascal joins => ?_
  exact Bool.false_ne_true (joins _ [] isPascal.isHyphenated.lookupKey_lineFeed).2

theorem filter_lookupKey_iff (named : isDeclarationName name = true) :
    (lookupKey name).filter (· != '-') = lower name ↔ '\n' ∉ name := by
  refine iff_lineFeed_notMem (fun name => (lookupKey name).filter (· != '-') = lower name)
    named (fun _ isPascal => isPascal.filter_lookupKey) fun pascal isPascal same => ?_
  rw [isPascal.isHyphenated.lookupKey_lineFeed, List.filter_append, isPascal.filter_lookupKey,
    isPascal.lower_lineFeed] at same
  cases List.append_cancel_left same

/-- The key of an accepted name begins with a small letter, is spelled with small letters, digits
and hyphens and is its own key, and names that share it differ in nothing but the case of their
letters.  The name is in Pascal case, the hyphens of the key stand between letters and the key
without them is the name in lower case exactly if no line feed ends the name. -/
theorem lookupKey_wellFormed (named : isDeclarationName name = true) :
    (IsPascalCase name ↔ '\n' ∉ name) ∧
      ((lookupKey name).head?.any Char.isLower = true ∧
        ∀ shown ∈ lookupKey name, isKeyChar shown = true) ∧
      (JoinsLetters (lookupKey name) ↔ '\n' ∉ name) ∧
      ((lookupKey name).filter (· != '-') = lower name ↔ '\n' ∉ name) ∧
      lookupKey (lookupKey name) = lookupKey name ∧
      ∀ other, isDeclarationName other = true → lookupKey other = lookupKey name →
        lower other = lower name := by
  have spelling := isKeyChar_of_mem_lookupKey named
  exact ⟨isPascalCase_iff named, ⟨head?_lookupKey named, spelling⟩,
    joinsLetters_lookupKey_iff named, filter_lookupKey_iff named, lookupKey_eq_self spelling,
    fun _ otherNamed same => lower_eq_of_lookupKey named otherNamed same⟩

/-- Two names with one key, whose hyphen stands between two words. -/
theorem lookupKey_wellFormed_shared :
    isDeclarationName "LinkedTab".toList = true ∧ isDeclarationName "LinkedTAB".toList = true ∧
      lookupKey "LinkedTab".toList = "linked-tab".toList ∧
      lookupKey "LinkedTAB".toList = lookupKey "LinkedTab".toList ∧
      JoinsLetters (lookupKey "LinkedTab".toList) ∧
      (lookupKey "LinkedTab".toList).filter (· != '-') = lower "LinkedTab".toList ∧
      lower "LinkedTAB".toList = lower "LinkedTab".toList := by
  have named : isDeclarationName "LinkedTab".toList = true := by decide
  have otherNamed : isDeclarationName "LinkedTAB".toList = true := by decide
  have same : lookupKey "LinkedTAB".toList = lookupKey "LinkedTab".toList := by decide
  obtain ⟨_, _, joins, joined, _, shared⟩ := lookupKey_wellFormed named
  have oneLine : '\n' ∉ "LinkedTab".toList := by decide
  exact ⟨named, otherNamed, by decide, same, joins.mpr oneLine, joined.mpr oneLine,
    shared _ otherNamed same⟩

/-- A name is accepted with a line feed behind it, and its key ends with a hyphen. -/
theorem lookupKey_wellFormed_lineFeed :
    isDeclarationName "Banner\n".toList = true ∧ ¬ IsPascalCase "Banner\n".toList ∧
      lookupKey "Banner\n".toList = "banner-".toList ∧
      ¬ JoinsLetters (lookupKey "Banner\n".toList) ∧
      (lookupKey "Banner\n".toList).filter (· != '-') ≠ lower "Banner\n".toList := by
  have key : lookupKey "Banner\n".toList = "banner-".toList := by decide
  have ended : "banner-".toList = "banner".toList ++ '-' :: [] := by decide
  refine ⟨by decide, by decide, key, fun joins => ?_, by decide⟩
  exact Bool.false_ne_true (joins "banner".toList [] (key.trans ended)).2

end Declared

end EmbedScaffold
