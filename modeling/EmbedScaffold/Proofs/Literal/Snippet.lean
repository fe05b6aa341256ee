import EmbedScaffold.Literal.Basic
import EmbedScaffold.Proofs.Literal.Json
import EmbedScaffold.Proofs.Registry.Append
import EmbedScaffold.Proofs.Token.Stretch
import Mathlib.Data.List.Chain

/-!
# Self-contained texts

A self-contained text is scanned as it stands at any place where a value may begin.  Its brackets
match, it begins and ends with a token, no comma stands outside its brackets, and no two words stand
side by side in it.  Such texts are built from the inside: an interior is what stands behind an
opening bracket up to the closing one, and an interior with one more item before it is an interior.
-/

namespace EmbedScaffold

open Text Scan Lexeme

namespace Lexeme

/-- No word stands right behind another one. -/
def WordsApart (lexemes : List Lexeme) : Prop :=
  lexemes.IsChain fun left right => left.kind = .word → right.kind ≠ .word

section WordsApart

variable {left right : List Lexeme}

theorem wordsApart_nil : WordsApart [] :=
  List.isChain_nil

theorem wordsApart_singleton (lexeme : Lexeme) : WordsApart [lexeme] :=
  List.isChain_singleton lexeme

theorem WordsApart.append (leftApart : WordsApart left) (rightApart : WordsApart right)
    (seam : ∀ last ∈ left.getLast?, ∀ first ∈ right.head?, last.kind = .word →
      first.kind ≠ .word) : WordsApart (left ++ right) :=
  List.isChain_append.mpr ⟨leftApart, rightApart, seam⟩

/-- A lexeme that is no word keeps the words around it apart. -/
theorem WordsApart.around {lexeme : Lexeme} (noWord : lexeme.kind ≠ .word)
    (leftApart : WordsApart left) (rightApart : WordsApart right) :
    WordsApart (left ++ lexeme :: right) := by
  refine leftApart.append ?_ ?_
  · refine (wordsApart_singleton lexeme).append rightApart fun last isLast _ _ isWord => ?_
    rw [List.getLast?_singleton] at isLast
    exact absurd (Option.some.inj isLast ▸ isWord) noWord
  · intro _ _ first isFirst _
    exact Option.some.inj isFirst ▸ noWord

theorem WordsApart.cons {lexeme : Lexeme} (noWord : lexeme.kind ≠ .word)
    (rightApart : WordsApart right) : WordsApart (lexeme :: right) :=
  WordsApart.around noWord wordsApart_nil rightApart

theorem WordsApart.withGap (apart : WordsApart left) (gap : Text) :
    WordsApart (withGap gap left) := by
  cases left with
  | nil => exact apart
  | cons first rest =>
      cases rest with
      | nil => exact wordsApart_singleton _
      | cons second others =>
          exact List.isChain_cons_cons.mpr (List.isChain_cons_cons.mp apart)

theorem WordsApart.congr {others : List Lexeme}
    (kindred : List.Forall₂ (fun other lexeme => Kindred other.token lexeme.token) others left)
    (apart : WordsApart left) : WordsApart others := by
  induction kindred with
  | nil => exact wordsApart_nil
  | cons alike behind inductionHypothesis =>
      cases behind with
      | nil => exact wordsApart_singleton _
      | cons nextAlike _ =>
          obtain ⟨seam, rest⟩ := List.isChain_cons_cons.mp apart
          refine List.isChain_cons_cons.mpr ⟨fun isWord => ?_, inductionHypothesis rest⟩
          have same := alike.kind
          have nextSame := nextAlike.kind
          simp only [token_kind] at same nextSame
          rw [nextSame]
          exact seam (same ▸ isWord)

end WordsApart

end Lexeme

/-- The lexemes of a self-contained text. -/
structure Snippet (lexemes : List Lexeme) : Prop extends EntryValue lexemes where
  wordsApart : WordsApart lexemes

/-- A text that may be put wherever a value may stand. -/
def SelfContained (content : Text) : Prop :=
  ∃ lexemes, content = textOf lexemes ∧ Snippet lexemes

/-! ## Self-contained texts as values -/

theorem noSlash_withGap {lexemes : List Lexeme}
    (noSlash : ∀ last ∈ lexemes.getLast?, last.value ≠ ['/']) (gap : Text) :
    ∀ last ∈ (withGap gap lexemes).getLast?, last.value ≠ ['/'] := by
  cases lexemes with
  | nil => exact noSlash
  | cons first rest =>
      cases rest with
      | nil =>
          rintro _ ⟨⟩
          exact noSlash first rfl
      | cons second others => exact noSlash

namespace SelfContained

variable {content : Text}

/-- A self-contained text is admissible as the value of an entry. -/
theorem isEntryValue (selfContained : SelfContained content) : isEntryValue content = true := by
  obtain ⟨lexemes, rfl, snippet⟩ := selfContained
  obtain ⟨document, scannedText, scanned⟩ := exists_scanned snippet.fits (Trailing.ofTrivia .nil)
    (by simpa [closes] using snippet.nest.closes_append [] [])
  rw [List.append_nil] at scannedText
  have tokens := scanned.tokens
  have noComma : document.topLevel [','] 0 document.tokens.size = [] :=
    scanned.topLevelWhere_whole (fun _ _ goesOn => goesOn) snippet.nest
  rcases List.eq_nil_or_concat lexemes with rfl | ⟨others, last, rfl⟩
  · exact absurd rfl snippet.nonempty
  · rw [List.concat_eq_append] at *
    have isLast : document.tokens.toList.getLast? =
        some (last.tokenAt (0 + (textOf others).length)) := by
      rw [tokens, tokensAt_getLast?]
    have isFirst : ∃ first, document.tokens.toList.head? = some first ∧ first.start = 0 := by
      have flush := snippet.flush
      rw [tokens]
      cases others with
      | nil => exact ⟨_, rfl, (Nat.zero_add _).trans (congrArg List.length flush)⟩
      | cons head more => exact ⟨_, rfl, (Nat.zero_add _).trans (congrArg List.length flush)⟩
    obtain ⟨first, isFirst, start⟩ := isFirst
    have notSlash : (last.tokenAt (0 + (textOf others).length)).isPunct '/' = false := by
      rw [Bool.eq_false_iff]
      intro isPunct
      rw [(kindred_tokenAt _ last).isPunct] at isPunct
      exact snippet.noSlash last (by simp) ((last.isPunct_iff '/').mp isPunct).2
    have stop : (last.tokenAt (0 + (textOf others).length)).stop =
        (textOf (others ++ [last])).length := by
      simp [Lexeme.tokenAt]
    rw [EmbedScaffold.isEntryValue, scannedText]
    dsimp only
    rw [isFirst, isLast]
    dsimp only
    rw [start, stop, notSlash, noComma]
    simp

/-- A line feed behind a self-contained text is stripped, and nothing else of it. -/
theorem strip_line (selfContained : SelfContained content) : strip (content ++ ['\n']) = content := by
  obtain ⟨lexemes, rfl, snippet⟩ := selfContained
  have solidLast := snippet.fits.solid_last
  obtain ⟨first, rest, starts, solidFirst⟩ :
      ∃ first rest, textOf lexemes = first :: rest ∧ isBlank first = false := by
    have nonempty := snippet.nonempty
    have flush := snippet.flush
    have fits := snippet.fits
    cases lexemes with
    | nil => exact absurd rfl nonempty
    | cons lexeme others =>
        obtain ⟨first, rest, starts, solid⟩ := fits.2.1.exists_cons
        refine ⟨first, rest ++ textOf others, ?_, solid⟩
        rw [textOf_cons, Lexeme.text, show lexeme.gap = [] from flush, starts]
        rfl
  have start : trimStart isBlank (textOf lexemes ++ ['\n']) = textOf lexemes ++ ['\n'] := by
    rw [trimStart, starts, List.cons_append, List.dropWhile_cons_of_neg (by simp [solidFirst])]
  have whole := strip_of_solid starts solidFirst solidLast
  rw [strip, trimBoth, trimStart, starts, List.dropWhile_cons_of_neg (by simp [solidFirst]),
    ← starts] at whole
  rw [strip, trimBoth, start, trimEnd, List.reverse_append, List.reverse_singleton,
    List.singleton_append, List.dropWhile_cons_of_pos (by decide)]
  exact whole

/-- A token that is no punctuation is self-contained. -/
theorem ofToken {kind : TokenKind} (notPunct : kind ≠ .punct) (alone : ReadsAlone true kind content) :
    SelfContained content := by
  refine ⟨[⟨[], kind, content⟩], by simp [Lexeme.text], ⟨⟨.nil, alone, ?_, trivial⟩, by simp, rfl,
    nest_of_kind notPunct ',', ?_⟩, wordsApart_singleton _⟩
  · refine ⟨fun _ next member => ?_, fun point => ?_, fun _ next member => ?_⟩
    · cases member
    · rfl
    · cases member
  · intro last member slash
    rw [List.getLast?_singleton] at member
    obtain rfl := Option.some.inj member
    rw [show content = ['/'] from slash] at alone
    exact notPunct (ReadsAlone.punct_of_slash alone)

/-- A member of an object literal. -/
theorem member {key shown : Text} (sameLine : '\n' ∉ key) (selfContained : SelfContained shown) :
    SelfContained (propertyKey key ++ ": ".toList ++ shown) := by
  obtain ⟨lexemes, rfl, snippet⟩ := selfContained
  have entryValue := snippet.toEntryValue
  have written : Lexeme.written (newEntry [] key lexemes) = _ := written_newEntry entryValue
  refine ⟨newEntry [] key lexemes, ?_, ⟨?_, by simp [newEntry], rfl, nest_newEntry entryValue, ?_⟩,
    ?_⟩
  · rw [← written, textOf_eq]
    rfl
  · exact fits_newEntry entryValue .nil sameLine (by rintro _ ⟨⟩)
  · have behind := noSlash_withGap snippet.noSlash [' ']
    rw [newEntry, List.getLast?_cons_cons,
      List.getLast?_cons_of_ne_nil (withGap_ne_nil snippet.nonempty)]
    exact behind
  · exact WordsApart.around (by simp) (wordsApart_singleton _) (snippet.wordsApart.withGap [' '])


/-! ## Strings -/

/-- Reading a quoted text stops at its own closing quote. -/
theorem stringEnd_escapeChar (content : Text) (offset : Nat) (after : Text) :
    stringEnd '\'' offset (content.flatMap Literal.escapeChar ++ '\'' :: after) =
      some ⟨offset + (content.flatMap Literal.escapeChar).length + 1, after⟩ := by
  induction content generalizing offset with
  | nil => rfl
  | cons first rest inductionHypothesis =>
      have passed : ∀ more, stringEnd '\'' offset (Literal.escapeChar first ++ more) =
          stringEnd '\'' (offset + (Literal.escapeChar first).length) more := by
        intro more
        rw [Literal.escapeChar]
        split_ifs with slash quote feed return_ tab
        all_goals try rfl
        exact Literal.stringEnd_cons slash quote feed offset more
      rw [List.flatMap_cons, List.append_assoc, passed, inductionHypothesis, List.length_append,
        Nat.add_assoc offset]

/-- A quoted text is one token, whatever it holds. -/
theorem readsAlone_quotedString (allowed : Bool) (content : Text) :
    ReadsAlone allowed .string (Literal.quotedString content) :=
  .quoted (.inl rfl) (stringEnd_escapeChar content 1 []) allowed

theorem quotedString (content : Text) : SelfContained (Literal.quotedString content) :=
  ofToken (by decide) (readsAlone_quotedString true content)

end SelfContained

/-! ## Bare texts -/

/-- A character of names, of numbers and of paths of names. -/
def isBare (tested : Char) : Bool :=
  isWordChar tested || ['.', '+', '-'].contains tested

/-- A reading of a bare text as lexemes. -/
structure ReadsBare (allowed : Bool) (content : Text) (lexemes : List Lexeme) : Prop where
  shape : content = textOf lexemes
  fits : Fits allowed lexemes []
  nest : Nest (·.isPunct ',') lexemes
  wordsApart : WordsApart lexemes
  begins : ∀ first ∈ lexemes.head?, first.gap = [] ∧
    (first.kind = .word → ∀ letter ∈ content.head?, isWordChar letter = true)
  noSlash : ∀ lexeme ∈ lexemes, lexeme.value ≠ ['/']

namespace ReadsBare

variable {allowed : Bool} {content : Text} {lexemes : List Lexeme}

theorem nil (allowed : Bool) : ReadsBare allowed [] [] :=
  ⟨rfl, trivial, .nil _, wordsApart_nil, by simp, by simp⟩

/-- One more token before a bare text. -/
theorem cons {kind : TokenKind} {value : Text} (alone : ReadsAlone allowed kind value)
    (separated : Separated kind value content) (noBracket : Nest (·.isPunct ',') [⟨[], kind, value⟩])
    (noSlash : value ≠ ['/'])
    (isWord : kind = .word → (∀ letter ∈ value.head?, isWordChar letter = true) ∧
      ∀ next ∈ content.head?, isWordChar next = false)
    (reads : ReadsBare (Lexeme.token ⟨[], kind, value⟩).allowsRegex content lexemes) :
    ReadsBare allowed (value ++ content) (⟨[], kind, value⟩ :: lexemes) := by
  refine ⟨congrArg (value ++ ·) reads.shape, ⟨.nil, alone, ?_, reads.fits⟩,
    noBracket.append reads.nest, ?_, ?_, ?_⟩
  · rw [List.append_nil, ← reads.shape]
    exact separated
  · refine (wordsApart_singleton _).append reads.wordsApart fun last isLast first isFirst word => ?_
    rw [List.getLast?_singleton] at isLast
    obtain rfl := Option.some.inj isLast
    intro nextWord
    obtain ⟨letter, rest, starts⟩ : ∃ letter rest, content = letter :: rest := by
      obtain ⟨others, rfl⟩ := List.head?_eq_some_iff.mp isFirst
      obtain ⟨letter, rest, starts, -⟩ := reads.fits.2.1.exists_cons
      refine ⟨letter, rest ++ textOf others, ?_⟩
      rw [reads.shape, textOf_cons, Lexeme.text, (reads.begins first rfl).1, starts]
      rfl
    have goesOn := (reads.begins first isFirst).2 nextWord letter (by rw [starts]; rfl)
    rw [(isWord word).2 letter (by rw [starts]; rfl)] at goesOn
    cases goesOn
  · rintro _ ⟨⟩
    refine ⟨rfl, fun word letter member => (isWord word).1 letter ?_⟩
    obtain ⟨first, rest, starts, -⟩ := alone.exists_cons
    rw [starts] at member ⊢
    exact member
  · intro lexeme member
    rcases List.mem_cons.mp member with rfl | behind
    · exact noSlash
    · exact reads.noSlash lexeme behind

end ReadsBare

/-- Three points and a single one are tokens of their own. -/
theorem readsAlone_points (allowed : Bool) :
    ReadsAlone allowed .punct ['.', '.', '.'] ∧ ReadsAlone allowed .punct ['.'] := by
  constructor
  · have read : nextToken allowed 0 '.' ['.', '.'] = .ok (.punct, ⟨3, []⟩) := by
      cases allowed <;> rfl
    obtain ⟨value, shape, -, alone, -⟩ := ReadsAlone.ofNextToken (by decide) (by decide) read
    rw [List.append_nil] at shape
    exact shape ▸ alone
  · have read : nextToken allowed 0 '.' [] = .ok (.punct, ⟨1, []⟩) := by
      cases allowed <;> rfl
    obtain ⟨value, shape, -, alone, -⟩ := ReadsAlone.ofNextToken (by decide) (by decide) read
    rw [List.append_nil] at shape
    exact shape ▸ alone

namespace ReadsBare

variable {allowed : Bool} {content : Text} {lexemes : List Lexeme}

theorem word {first : Char} {letters : Text} (isWord : isWordChar first = true)
    (areWords : ∀ letter ∈ letters, isWordChar letter = true)
    (stops : ∀ next ∈ content.head?, isWordChar next = false)
    (reads : ReadsBare (Lexeme.token ⟨[], .word, first :: letters⟩).allowsRegex content lexemes) :
    ReadsBare allowed (first :: (letters ++ content))
      (⟨[], .word, first :: letters⟩ :: lexemes) := by
  have wholeWord : ∀ letter ∈ first :: letters, isWordChar letter = true :=
    List.forall_mem_cons.mpr ⟨isWord, areWords⟩
  refine .cons (.word (List.cons_ne_nil _ _) wholeWord allowed) (.ofLetters wholeWord stops)
    (nest_of_kind (by simp) ',') ?_ (fun _ => ⟨?_, stops⟩) reads
  · intro slash
    obtain ⟨rfl, -⟩ := List.cons.inj slash
    exact absurd isWord (by decide)
  · rintro _ ⟨⟩
    exact isWord

theorem spread
    (reads : ReadsBare (Lexeme.token ⟨[], .punct, ['.', '.', '.']⟩).allowsRegex content lexemes) :
    ReadsBare allowed ('.' :: '.' :: '.' :: content)
      (⟨[], .punct, ['.', '.', '.']⟩ :: lexemes) :=
  .cons (readsAlone_points allowed).1 ⟨by simp, by simp, by simp⟩ (.single rfl rfl rfl)
    (by decide) (by simp) reads

theorem point (noSpread : ['.', '.'].isPrefixOf content = false)
    (reads : ReadsBare (Lexeme.token ⟨[], .punct, ['.']⟩).allowsRegex content lexemes) :
    ReadsBare allowed ('.' :: content) (⟨[], .punct, ['.']⟩ :: lexemes) :=
  .cons (readsAlone_points allowed).2 ⟨by simp, fun _ => noSpread, by simp⟩
    (.single rfl rfl rfl) (by decide) (by simp) reads

theorem sign {first : Char} (signs : first = '+' ∨ first = '-')
    (reads : ReadsBare (Lexeme.token ⟨[], .punct, [first]⟩).allowsRegex content lexemes) :
    ReadsBare allowed (first :: content) (⟨[], .punct, [first]⟩ :: lexemes) := by
  have marks : isMark first = true := by rcases signs with rfl | rfl <;> rfl
  have apart : Apart ⟨[], .punct, [first]⟩ content :=
    Apart.mark marks ((Lexeme.isPunct_iff _ _).mpr ⟨rfl, rfl⟩) content
  have single : Nest (·.isPunct ',') [(⟨[], .punct, [first]⟩ : Lexeme)] := by
    rcases signs with rfl | rfl <;> exact .single rfl rfl rfl
  have noSlash : [first] ≠ ['/'] := by rcases signs with rfl | rfl <;> decide
  exact .cons (.mark marks allowed) apart.separated single noSlash (by simp) reads

end ReadsBare

/-- A bare text is read token by token. -/
theorem exists_readsBare {content : Text} (bare : content.all isBare = true) (allowed : Bool) :
    ∃ lexemes, ReadsBare allowed content lexemes := by
  -- A word is one token however many letters it has, so the induction is on the length.
  induction size : content.length using Nat.strongRecOn generalizing content allowed with
  | ind size' inductionHypothesis =>
      subst size
      cases content with
      | nil => exact ⟨[], .nil allowed⟩
      | cons first others =>
          rw [List.all_cons, Bool.and_eq_true] at bare
          obtain ⟨isBareFirst, othersBare⟩ := bare
          by_cases isWord : isWordChar first = true
          · obtain ⟨letters, behind, rfl, areWords, stops⟩ := exists_letters others
            rw [List.all_append, Bool.and_eq_true] at othersBare
            have shorter : behind.length < (first :: (letters ++ behind)).length := by
              simp only [List.length_cons, List.length_append]
              omega
            obtain ⟨lexemes, reads⟩ := inductionHypothesis _ shorter othersBare.2 _ rfl
            exact ⟨_, reads.word isWord areWords stops⟩
          · have shorter : others.length < (first :: others).length := Nat.lt_succ_self _
            rw [isBare, Bool.eq_false_iff.mpr isWord, Bool.false_or] at isBareFirst
            by_cases isPoint : first = '.'
            · subst isPoint
              cases spread : ['.', '.'].isPrefixOf others with
              | true =>
                  obtain ⟨more, rfl⟩ := List.isPrefixOf_iff_prefix.mp spread
                  have moreBare : more.all isBare = true := by simpa [isBare] using othersBare
                  obtain ⟨lexemes, reads⟩ :=
                    inductionHypothesis _ (by simp; omega) moreBare _ rfl
                  exact ⟨_, reads.spread⟩
              | false =>
                  obtain ⟨lexemes, reads⟩ := inductionHypothesis _ shorter othersBare _ rfl
                  exact ⟨_, reads.point spread⟩
            · have signs : first = '+' ∨ first = '-' := by simpa [isPoint] using isBareFirst
              obtain ⟨lexemes, reads⟩ := inductionHypothesis _ shorter othersBare _ rfl
              exact ⟨_, reads.sign signs⟩

namespace SelfContained

variable {content : Text}

/-- A name, a number or a path of names. -/
theorem bare (nonempty : content ≠ []) (bare : content.all isBare = true) :
    SelfContained content := by
  obtain ⟨lexemes, reads⟩ := exists_readsBare bare true
  have some : lexemes ≠ [] := by
    rintro rfl
    exact nonempty reads.shape
  refine ⟨lexemes, reads.shape, ⟨reads.fits, some, ?_, reads.nest, fun last member =>
    reads.noSlash last (List.mem_of_getLast? member)⟩, reads.wordsApart⟩
  cases lexemes with
  | nil => rfl
  | cons first rest => exact (reads.begins first rfl).1

end SelfContained

/-! ## Interiors -/

namespace Snippet

variable {lexemes : List Lexeme} {gap : Text}

theorem textOf_withGap (snippet : Snippet lexemes) (gap : Text) :
    textOf (withGap gap lexemes) = gap ++ textOf lexemes := by
  rw [textOf_eq, written_withGap, textOf_eq lexemes, snippet.flush, List.nil_append]
  cases lexemes with
  | nil => exact absurd rfl snippet.nonempty
  | cons first rest => rfl

theorem fits_withGap (snippet : Snippet lexemes) (blank : isBlankText gap = true) {after : Text}
    (soft : Soft after) : Fits true (withGap gap lexemes) after := by
  have fits := snippet.fits.retail fun last member =>
    Apart.ofSoft soft (snippet.noSlash last member)
  cases lexemes with
  | nil => trivial
  | cons first rest => exact ⟨.ofBlank blank, fits.2⟩

theorem nest_withGap (snippet : Snippet lexemes) (gap : Text) :
    Nest (·.isPunct ',') (withGap gap lexemes) :=
  Lexeme.nest_withGap gap (fun _ _ same => same.isPunct ',') snippet.nest

end Snippet

/-- The lexemes of an interior: what stands behind an opening bracket, and the bracket `mark` that
closes it. -/
structure Enclosed (mark : Char) (lexemes : List Lexeme) : Prop where
  fits : ∀ after, Fits true lexemes after
  closed : ∃ inner gap, lexemes = inner ++ [⟨gap, .punct, [mark]⟩] ∧ Balanced inner
  wordsApart : WordsApart lexemes

/-- A text that stands behind an opening bracket, up to the bracket `mark` that closes it. -/
def Interior (mark : Char) (content : Text) : Prop :=
  ∃ lexemes, content = textOf lexemes ∧ Enclosed mark lexemes

namespace Interior

variable {mark : Char} {shown rest : Text}

theorem close (marks : isMark mark = true) (gap : Text) (blank : isBlankText gap = true) :
    Interior mark (gap ++ [mark]) := by
  refine ⟨[⟨gap, .punct, [mark]⟩], by simp [Lexeme.text], fun after => ?_, ⟨[], gap, rfl, .nil _⟩,
    wordsApart_singleton _⟩
  exact Fits.mark marks (.ofBlank blank) trivial

/-- An item and a comma before an interior. -/
theorem item (gap : Text) (blank : isBlankText gap = true) (selfContained : SelfContained shown)
    (interior : Interior mark rest) : Interior mark (gap ++ shown ++ ',' :: rest) := by
  obtain ⟨lexemes, rfl, snippet⟩ := selfContained
  obtain ⟨others, rfl, fits, ⟨inner, last, rfl, balanced⟩, wordsApart⟩ := interior
  refine ⟨withGap gap lexemes ++ comma :: (inner ++ [⟨last, .punct, [mark]⟩]), ?_, fun after => ?_,
    ⟨withGap gap lexemes ++ comma :: inner, last, by simp, ?_⟩, ?_⟩
  · rw [textOf_append (withGap gap lexemes), snippet.textOf_withGap]
    rfl
  · refine fits_append.mpr ⟨snippet.fits_withGap blank ?_, Fits.comma (fits after) _⟩
    rintro _ ⟨⟩
    exact ⟨rfl, by decide⟩
  · exact (snippet.nest_withGap gap).balanced.append (.plain rfl rfl rfl balanced)
  · exact WordsApart.around (by decide) (snippet.wordsApart.withGap gap) wordsApart

/-- An item right before the closing bracket. -/
theorem last (marks : isMark mark = true) (selfContained : SelfContained shown) :
    Interior mark (shown ++ [mark]) := by
  obtain ⟨lexemes, rfl, snippet⟩ := selfContained
  have isPunct : Lexeme.isPunct ⟨[], .punct, [mark]⟩ mark = true :=
    (Lexeme.isPunct_iff _ _).mpr ⟨rfl, rfl⟩
  refine ⟨lexemes ++ [⟨[], .punct, [mark]⟩], by simp [Lexeme.text], fun after => ?_,
    ⟨lexemes, [], rfl, snippet.nest.balanced⟩, ?_⟩
  · refine fits_append.mpr ⟨snippet.fits.retail fun last member => ?_, .mark marks .nil trivial⟩
    exact Apart.ofSoft (soft_of_mark .nil marks isPunct after) (snippet.noSlash last member)
  · exact WordsApart.around (by simp) snippet.wordsApart wordsApart_nil

/-- Blanks before an interior. -/
theorem blanks (gap : Text) (blank : isBlankText gap = true) (interior : Interior mark rest) :
    Interior mark (gap ++ rest) := by
  obtain ⟨lexemes, rfl, fits, ⟨inner, last, rfl, balanced⟩, wordsApart⟩ := interior
  cases inner with
  | nil =>
      refine ⟨[⟨gap ++ last, .punct, [mark]⟩], by simp [Lexeme.text], fun after => ?_,
        ⟨[], gap ++ last, rfl, .nil _⟩, wordsApart_singleton _⟩
      exact ⟨(Trivia.ofBlank blank).append (fits after).1, (fits after).2⟩
  | cons first others =>
      refine ⟨withGap (gap ++ first.gap) (first :: others) ++ [⟨last, .punct, [mark]⟩],
        by simp [withGap, Lexeme.text], fun after => ?_, ⟨_, last, rfl, ?_⟩, ?_⟩
      · exact ⟨(Trivia.ofBlank blank).append (fits after).1, (fits after).2⟩
      · exact Lexeme.nest_withGap _ (fun _ _ _ => rfl) balanced
      · exact wordsApart.withGap (gap ++ first.gap)

theorem isBlankText_indentOf (level : Int) : isBlankText (Literal.indentOf level) = true := by
  rw [Literal.indentOf]
  induction level.toNat with
  | zero => rfl
  | succ steps inductionHypothesis =>
      rw [Text.copies, List.replicate_succ, List.flatten_cons, isBlankText_append]
      exact inductionHypothesis

/-- Items on lines of their own, before the closing bracket on its line. -/
theorem lines {items : List Text} (level : Int) (interior : Interior mark rest)
    (each : ∀ shown ∈ items, SelfContained shown) :
    Interior mark (items.flatMap (Literal.memberLine level) ++ rest) := by
  induction items with
  | nil => exact interior
  | cons first others inductionHypothesis =>
      have behind := inductionHypothesis fun shown member => each shown (List.mem_cons_of_mem _ member)
      have whole := (behind.blanks ['\n'] rfl).item _ (isBlankText_indentOf (level + 1))
        (each first List.mem_cons_self)
      rw [List.flatMap_cons, Literal.memberLine]
      simpa using whole

/-- Items on one line, up to the closing bracket. -/
theorem line {items : List Text} (marks : isMark mark = true)
    (each : ∀ shown ∈ items, SelfContained shown) :
    Interior mark (Text.join ", ".toList items ++ [mark]) := by
  match items with
  | [] => exact close marks [] rfl
  | [shown] => exact last marks (each shown List.mem_cons_self)
  | first :: second :: others =>
      have behind : Interior mark (Text.join ", ".toList (second :: others) ++ [mark]) :=
        line marks fun shown member => each shown (List.mem_cons_of_mem _ member)
      have whole := (behind.blanks [' '] rfl).item [] rfl (each first List.mem_cons_self)
      have joined : Text.join ", ".toList (first :: second :: others) =
          first ++ ", ".toList ++ Text.join ", ".toList (second :: others) := rfl
      rw [joined]
      simpa using whole

end Interior

namespace SelfContained

variable {content : Text} {opening mark : Char}

/-- A bracket before an interior. -/
theorem enclose (opens : Token.closingMark? opening = some mark) (interior : Interior mark content) :
    SelfContained (opening :: content) := by
  obtain ⟨others, rfl, fits, ⟨inner, gap, rfl, balanced⟩, wordsApart⟩ := interior
  have brackets : isMark opening = true ∧ Token.marksBeforeRegex.contains opening = true ∧
      mark ≠ '/' := by
    unfold Token.closingMark? at opens
    split_ifs at opens with brace bracket paren
    all_goals
      cases opens
      subst opening
      decide
  obtain ⟨marks, allows, notSlash⟩ := brackets
  have flag : (Lexeme.token ⟨[], .punct, [opening]⟩).allowsRegex = true := allows
  refine ⟨⟨[], .punct, [opening]⟩ :: (inner ++ [⟨gap, .punct, [mark]⟩]), rfl, ⟨.mark marks .nil ?_,
    by simp, rfl, ?_, ?_⟩, ?_⟩
  · rw [flag]
    exact fits []
  · exact .group opens ((Lexeme.isPunct_iff _ _).mpr ⟨rfl, rfl⟩) balanced (.nil _)
  · intro last member slash
    rw [← List.cons_append, List.getLast?_concat] at member
    obtain rfl := Option.some.inj member
    exact notSlash (List.cons.inj slash).1
  · exact wordsApart.cons (by simp)

end SelfContained

end EmbedScaffold
