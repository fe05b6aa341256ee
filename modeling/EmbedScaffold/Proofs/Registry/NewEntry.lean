import EmbedScaffold.Proofs.Name.PascalCase
import EmbedScaffold.Proofs.Registry.Entry
import EmbedScaffold.Registry.Upsert

/-!
# The entry that an upsert writes

A key is written bare or quoted, and is read back from either form.  A value that is scanned on
its own and has no comma outside brackets stays such a value when its lines are indented.  Behind
a key and a colon it makes up the lexemes of one entry.
-/

namespace EmbedScaffold

open Text Scan Lexeme

/-! ## Keys -/

theorem isWordChar_of_isIdentifierPart {tested : Char} (isPart : isIdentifierPart tested = true) :
    isWordChar tested = true := by
  simp only [isIdentifierPart, isIdentifierStart, Bool.or_eq_true] at isPart
  simp only [isWordChar, isAlphanumeric, Char.isAlphanum, Bool.or_eq_true]
  rcases isPart with ((isLetter | isUnderscore) | isDollar) | isDigit
  · exact Or.inl (Or.inl (Or.inl (Or.inl isLetter)))
  · exact Or.inl (Or.inr isUnderscore)
  · exact Or.inr isDollar
  · exact Or.inl (Or.inl (Or.inl (Or.inr isDigit)))

/-- An identifier without a line feed consists of word characters. -/
theorem isWordChar_of_isIdentifier {key : Text} (isName : isIdentifier key = true)
    (sameLine : '\n' ∉ key) : key ≠ [] ∧ ∀ letter ∈ key, isWordChar letter = true := by
  cases key with
  | nil => cases isName
  | cons first rest =>
      rw [isIdentifier, Bool.and_eq_true_iff] at isName
      obtain ⟨isStart, ended⟩ := isName
      refine ⟨List.cons_ne_nil _ _, fun letter member => isWordChar_of_isIdentifierPart ?_⟩
      rcases List.mem_cons.mp member with rfl | inRest
      · rw [isIdentifierPart, isStart, Bool.true_or]
      · obtain ⟨letters, areParts, rfl | rfl⟩ := atEnd_dropWhile_iff.mp ended
        · exact List.all_eq_true.mp areParts letter inRest
        · exact absurd (by simp) sameLine

theorem escapeQuoted_cons (first : Char) (rest : Text) :
    escapeQuoted (first :: rest) =
      (if first = '\\' || first = '\'' then ['\\', first] else [first]) ++ escapeQuoted rest :=
  List.flatMap_cons

/-- Reading a quoted text stops at its own closing quote. -/
theorem stringEnd_escapeQuoted {content : Text} (sameLine : '\n' ∉ content) (offset : Nat)
    (after : Text) :
    stringEnd '\'' offset (escapeQuoted content ++ '\'' :: after) =
      some ⟨offset + (escapeQuoted content).length + 1, after⟩ := by
  induction content generalizing offset with
  | nil =>
      rw [show escapeQuoted [] = [] from rfl, List.nil_append, stringEnd_cons (by decide),
        if_pos rfl]
      rfl
  | cons first rest inductionHypothesis =>
      rw [List.mem_cons, not_or] at sameLine
      obtain ⟨notFeed, restSameLine⟩ := sameLine
      rw [escapeQuoted_cons]
      by_cases escaped : (decide (first = '\\') || decide (first = '\'')) = true
      · rw [if_pos escaped]
        simp only [List.cons_append, List.nil_append]
        rw [stringEnd, inductionHypothesis restSameLine]
        simp only [List.length_cons]
        congr 2
        omega
      · rw [if_neg escaped]
        simp only [Bool.or_eq_true, decide_eq_true_eq, not_or] at escaped
        rw [List.singleton_append, List.cons_append, stringEnd_cons escaped.1,
          if_neg escaped.2, if_neg (Ne.symm notFeed), inductionHypothesis restSameLine]
        simp only [List.length_cons]
        congr 2
        omega

theorem unescape_cons {first : Char} (notEscape : first ≠ '\\') (rest : Text) :
    Token.unescape (first :: rest) = first :: Token.unescape rest := by
  rw [Token.unescape]
  exact fun _ _ escape => absurd escape notEscape

theorem unescape_escapeQuoted (content : Text) :
    Token.unescape (escapeQuoted content) = content := by
  induction content with
  | nil => rfl
  | cons first rest inductionHypothesis =>
      rw [escapeQuoted_cons]
      by_cases escaped : (decide (first = '\\') || decide (first = '\'')) = true
      · have notFeed : first ≠ '\n' := by
          rintro rfl
          exact absurd escaped (by decide)
        rw [if_pos escaped]
        simp only [List.cons_append, List.nil_append]
        rw [Token.unescape, if_neg notFeed, inductionHypothesis]
      · rw [if_neg escaped]
        simp only [Bool.or_eq_true, decide_eq_true_eq, not_or] at escaped
        rw [List.singleton_append, unescape_cons escaped.1, inductionHypothesis]

theorem quotedValue_singleQuoted (content : Text) :
    Token.quotedValue (singleQuoted content) = content := by
  have inside : ((singleQuoted content).drop 1).dropLast = escapeQuoted content := by
    rw [singleQuoted, List.cons_append, List.drop_one, List.tail_cons, List.dropLast_concat]
  rw [Token.quotedValue, inside, unescape_escapeQuoted]

theorem Scan.ReadsAlone.singleQuoted {content : Text} (sameLine : '\n' ∉ content) (allowed : Bool) :
    ReadsAlone allowed .string (singleQuoted content) := by
  refine ⟨?_, ⟨'\'' :: escapeQuoted content, '\'', rfl, rfl⟩, ?_, ?_⟩
  · rintro _ ⟨⟩
    rfl
  · exact fun after _ => begins_cons rfl fun slash => absurd slash (by decide)
  · rintro first rest same offset after _
    have shape : rest = escapeQuoted content ++ ['\''] := (List.cons.inj same).2.symm
    obtain rfl : '\'' = first := (List.cons.inj same).1
    rw [same, nextToken, if_neg (by decide), plainToken, if_pos (by decide), shape,
      List.append_assoc, List.singleton_append, stringEnd_escapeQuoted sameLine]
    simp only [List.length_cons, List.length_append, List.length_nil]
    congr 3
    omega

/-! ## Values -/

/-- Whether a text may be the value of an entry: it begins and ends with a token, its brackets
match, no comma stands outside them, and it does not end in a bare slash. -/
def isEntryValue (value : Text) : Bool :=
  match Document.ofText value with
  | .error _ => false
  | .ok document =>
      match document.tokens.toList.head?, document.tokens.toList.getLast? with
      | some first, some last =>
          first.start == 0 && last.stop == value.length && ! last.isPunct '/' &&
            (document.topLevel [','] 0 document.tokens.size).isEmpty
      | _, _ => false

/-- The lexemes of a text that may be the value of an entry. -/
structure EntryValue (lexemes : List Lexeme) : Prop where
  fits : Fits true lexemes []
  nonempty : lexemes ≠ []
  flush : firstGap lexemes = []
  nest : Nest (·.isPunct ',') lexemes
  noSlash : ∀ last ∈ lexemes.getLast?, last.value ≠ ['/']

theorem Scan.Fits.punct_of_slash {allowed : Bool} {lexemes : List Lexeme} {after : Text}
    (fits : Fits allowed lexemes after) {lexeme : Lexeme} (member : lexeme ∈ lexemes)
    (slash : lexeme.value = ['/']) : lexeme.kind = .punct := by
  induction lexemes generalizing allowed with
  | nil => cases member
  | cons first rest inductionHypothesis =>
      obtain ⟨_, alone, _, behind⟩ := fits
      rcases List.mem_cons.mp member with rfl | inRest
      · exact ReadsAlone.punct_of_slash (slash ▸ alone)
      · exact inductionHypothesis behind inRest

/-- A text that begins and ends with a token consists of lexemes with no gap around them. -/
theorem Scanned.exists_flush {value : Text} {document : Document} {first last : Token}
    (scannedText : Document.ofText value = .ok document)
    (isFirst : document.tokens.toList.head? = some first)
    (isLast : document.tokens.toList.getLast? = some last) (start : first.start = 0)
    (stop : last.stop = value.length) :
    ∃ others final, Scanned document (others ++ [final]) [] ∧
      value = textOf (others ++ [final]) ∧ firstGap (others ++ [final]) = [] ∧
      Kindred last final.token := by
  obtain ⟨rfl, lexemes, after, scanned⟩ := Scanned.ofText_ok scannedText
  rw [scanned.tokens] at isFirst isLast
  rcases List.eq_nil_or_concat lexemes with rfl | ⟨others, final, rfl⟩
  · cases isLast
  · rw [List.concat_eq_append] at scanned isFirst isLast
    rw [tokensAt_getLast?] at isLast
    obtain rfl := Option.some.inj isLast
    obtain rfl : after = [] := by
      have lengths := congrArg List.length scanned.content
      simp only [Lexeme.tokenAt] at stop
      simp only [textOf_append, textOf_cons, textOf_nil, List.length_append,
        List.length_nil] at lengths
      exact List.eq_nil_of_length_eq_zero (by omega)
    refine ⟨others, final, scanned, ?_, ?_, kindred_tokenAt _ final⟩
    · rw [scanned.content, List.append_nil]
    · cases others with
      | nil =>
          cases isFirst
          have empty : final.gap = [] := by simpa [Lexeme.tokenAt] using start
          exact empty
      | cons head more =>
          cases isFirst
          have empty : head.gap = [] := by simpa [Lexeme.tokenAt] using start
          exact empty

/-- Lexemes with no gap around them have such lexemes for their text at every indentation. -/
theorem Scan.Fits.exists_reindented {lexemes : List Lexeme} (fits : Fits true lexemes [])
    (nonempty : lexemes ≠ []) (flush : firstGap lexemes = []) {indent : Text}
    (areBlank : ∀ blank ∈ indent, isMargin blank = true) :
    ∃ others, Text.reindent (textOf lexemes) indent = textOf others ∧ Fits true others [] ∧
      others ≠ [] ∧ firstGap others = [] ∧
      List.Forall₂ (fun other lexeme => Kindred other.token lexeme.token) others lexemes := by
  obtain ⟨others, shape, othersFit, alike⟩ :=
    fits.realigned (realigned_reindent areBlank (textOf lexemes) false)
  refine ⟨others, shape, othersFit, ?_, ?_, alike.flip.imp fun _ _ both => both.1.symm⟩
  · rintro rfl
    cases alike
    exact nonempty rfl
  · cases alike with
    | nil => rfl
    | cons both _ => exact both.2 flush

/-- The last of some lexemes has a counterpart in lexemes that are pairwise like them. -/
theorem exists_last_alike {lexemes others : List Lexeme}
    (alike : List.Forall₂ (fun other lexeme => Kindred other.token lexeme.token) others lexemes)
    {final : Lexeme} (isLast : others.getLast? = some final) :
    ∃ source, lexemes.getLast? = some source ∧ Kindred final.token source.token := by
  have reversed := List.forall₂_reverse_iff.mpr alike
  rw [← List.head?_reverse] at isLast
  obtain ⟨more, shown⟩ := List.head?_eq_some_iff.mp isLast
  rw [shown] at reversed
  obtain ⟨source, rest, both, _, shape⟩ := List.forall₂_cons_left_iff.mp reversed
  refine ⟨source, ?_, both⟩
  rw [← List.head?_reverse, shape]
  rfl

theorem exists_entryValue {value : Text} (admissible : isEntryValue value = true) :
    ∃ lexemes, value = textOf lexemes ∧ EntryValue lexemes := by
  rw [isEntryValue] at admissible
  split at admissible
  · cases admissible
  · next document scannedText =>
      split at admissible
      · next first last isFirst isLast =>
          simp only [Bool.and_eq_true, beq_iff_eq, Bool.not_eq_true', List.isEmpty_iff]
            at admissible
          obtain ⟨⟨⟨start, stop⟩, notSlash⟩, noComma⟩ := admissible
          obtain ⟨others, final, scanned, shape, flush, alike⟩ :=
            Scanned.exists_flush scannedText isFirst isLast start stop
          refine ⟨others ++ [final], shape, scanned.fits, by simp, flush, ?_, ?_⟩
          · have whole : others ++ [final] = [] ++ (others ++ [final] ++ []) := by simp
            rw [scanned.size_eq] at noComma
            exact Scanned.nest_of_topLevel (balanced_of_closes scanned.closes)
              (whole ▸ scanned) (by simp) noComma
          · intro last member slash
            rw [List.getLast?_concat] at member
            obtain rfl := Option.some.inj member
            have punct := scanned.fits.punct_of_slash (List.mem_append_right _ (by simp)) slash
            have isPunct : final.isPunct '/' = true := (final.isPunct_iff '/').mpr ⟨punct, slash⟩
            rw [alike.isPunct] at notSlash
            exact Bool.noConfusion (notSlash.symm.trans isPunct)
      · cases admissible

namespace EntryValue

variable {lexemes : List Lexeme}

/-- The value of an entry stays one when its lines are indented. -/
theorem reindent (value : EntryValue lexemes) {indent : Text}
    (areBlank : ∀ blank ∈ indent, isMargin blank = true) :
    ∃ others, Text.reindent (textOf lexemes) indent = textOf others ∧ EntryValue others := by
  obtain ⟨others, shape, fits, nonempty, flush, kindred⟩ :=
    value.fits.exists_reindented value.nonempty value.flush areBlank
  refine ⟨others, shape, fits, nonempty, flush,
    value.nest.congr (fun lexeme other same => same.isPunct ',') kindred, ?_⟩
  intro last member slash
  obtain ⟨source, isLast, both⟩ := exists_last_alike kindred member
  have punct := fits.punct_of_slash (List.mem_of_getLast? member) slash
  have same : last.value = source.value := both.value (Or.inl punct)
  exact value.noSlash source isLast (same.symm.trans slash)

end EntryValue

/-- A text that may be the value of an entry has lexemes at every indentation. -/
theorem exists_reindentedValue {value indent : Text} (admissible : isEntryValue value = true)
    (areBlank : ∀ blank ∈ indent, isMargin blank = true) :
    ∃ lexemes, textOf lexemes = Text.reindent value indent ∧ EntryValue lexemes := by
  obtain ⟨lexemes, rfl, entryValue⟩ := exists_entryValue admissible
  obtain ⟨others, shape, othersValue⟩ := entryValue.reindent areBlank
  exact ⟨others, shape.symm, othersValue⟩

/-! ## The lexemes of a new entry -/

namespace Lexeme

/-- A key as an object literal shows it. -/
def ofKey (gap key : Text) : Lexeme :=
  ⟨gap, if isIdentifier key then .word else .string, propertyKey key⟩

/-- Lexemes with another gap before the first of them. -/
def withGap (gap : Text) : List Lexeme → List Lexeme
  | [] => []
  | first :: rest => { first with gap := gap } :: rest

/-- A key, a colon and a value. -/
def newEntry (gap key : Text) (value : List Lexeme) : List Lexeme :=
  ofKey gap key :: ⟨[], .punct, [':']⟩ :: withGap [' '] value

theorem written_withGap (gap : Text) (lexemes : List Lexeme) :
    written (withGap gap lexemes) = written lexemes := by
  cases lexemes <;> rfl

theorem withGap_ne_nil {gap : Text} {lexemes : List Lexeme} (nonempty : lexemes ≠ []) :
    withGap gap lexemes ≠ [] := by
  cases lexemes with
  | nil => exact nonempty
  | cons first rest => exact List.cons_ne_nil _ _

/-- A key on one line is read as one token, in front of anything. -/
theorem readsAlone_ofKey {key : Text} (sameLine : '\n' ∉ key) (gap : Text) (allowed : Bool) :
    ReadsAlone allowed (ofKey gap key).kind (ofKey gap key).value := by
  rw [ofKey, propertyKey]
  by_cases isName : isIdentifier key = true
  · obtain ⟨nonempty, letters⟩ := isWordChar_of_isIdentifier isName sameLine
    simp only [if_pos isName]
    exact .word nonempty letters allowed
  · simp only [if_neg isName]
    exact .singleQuoted sameLine allowed

theorem separated_ofKey {after : Text} (soft : Soft after) (gap key : Text) :
    Separated (ofKey gap key).kind (ofKey gap key).value after := by
  have noSlash : propertyKey key ≠ ['/'] := by
    intro slash
    rw [propertyKey] at slash
    split at slash
    · next isName =>
        rw [slash] at isName
        cases isName
    · exact absurd (List.cons.inj slash).1 (by decide)
  exact (@Apart.ofSoft (ofKey gap key) _ soft noSlash).separated

theorem ofKey_kind (gap key : Text) : (ofKey gap key).kind ≠ .punct := by
  rw [ofKey]
  split <;> simp

theorem not_isPunct_of_kind {lexeme : Lexeme} (notPunct : lexeme.kind ≠ .punct) (mark : Char) :
    lexeme.isPunct mark = false := by
  rw [Bool.eq_false_iff]
  exact fun isPunct => notPunct ((lexeme.isPunct_iff mark).mp isPunct).1

theorem mark?_of_kind {lexeme : Lexeme} (notPunct : lexeme.kind ≠ .punct) :
    lexeme.token.mark? = none :=
  if_neg notPunct

theorem nest_of_kind {lexeme : Lexeme} (notPunct : lexeme.kind ≠ .punct) (mark : Char) :
    Nest (·.isPunct mark) [lexeme] := by
  refine .single ?_ ?_ (not_isPunct_of_kind notPunct mark)
  · rw [Token.isOpener, Token.closing?, mark?_of_kind notPunct]
    rfl
  · rw [Token.isCloser, mark?_of_kind notPunct]
    rfl

section NewEntry

variable {gap key : Text} {value : List Lexeme}

theorem written_newEntry (entryValue : EntryValue value) :
    written (newEntry gap key value) = propertyKey key ++ ": ".toList ++ textOf value := by
  have behind : textOf (withGap [' '] value) = ' ' :: textOf value := by
    rw [textOf_eq, written_withGap, textOf_eq value, entryValue.flush, List.nil_append]
    cases value with
    | nil => exact absurd rfl entryValue.nonempty
    | cons first rest => rfl
  rw [newEntry, written, textOf_cons, behind]
  simp [ofKey, Lexeme.text]

theorem keyOf_newEntry (gap key : Text) (value : List Lexeme) :
    keyOf (newEntry gap key value) = some key := by
  rw [newEntry, ofKey]
  by_cases isName : isIdentifier key = true
  · rw [if_pos isName, propertyKey, if_pos isName]
    rfl
  · rw [if_neg isName, propertyKey, if_neg isName, keyOf]
    dsimp only
    rw [quotedValue_singleQuoted]

theorem valueOf_newEntry (entryValue : EntryValue value) :
    valueOf (newEntry gap key value) = withGap [' '] value := by
  have found : behindMark ':' 0 (newEntry gap key value) = some (withGap [' '] value) :=
    behindMark_found (nest_of_kind (ofKey_kind gap key) ':') rfl rfl rfl
  rw [valueOf, keyOf_newEntry, found]
  cases value with
  | nil => exact absurd rfl entryValue.nonempty
  | cons first rest => rfl

theorem nest_withGap {stops : Lexeme → Bool} {lexemes : List Lexeme} (gap : Text)
    (respects : ∀ lexeme other : Lexeme, Kindred lexeme.token other.token →
      stops lexeme = stops other) (nest : Nest stops lexemes) :
    Nest stops (withGap gap lexemes) := by
  refine nest.congr respects ?_
  cases lexemes with
  | nil => exact .nil
  | cons first rest =>
      exact .cons ⟨rfl, fun _ => rfl⟩ (List.forall₂_same.mpr fun lexeme _ => Kindred.refl _)

theorem nest_newEntry (entryValue : EntryValue value) :
    Nest (·.isPunct ',') (newEntry gap key value) := by
  have colon : Nest (·.isPunct ',') [(⟨[], .punct, [':']⟩ : Lexeme)] := .single rfl rfl rfl
  exact (nest_of_kind (ofKey_kind gap key) ',').append <| colon.append <|
    nest_withGap [' '] (fun _ _ same => same.isPunct ',') entryValue.nest

/-- A new entry is scanned as it stands, before anything that continues none of its tokens. -/
theorem fits_newEntry (entryValue : EntryValue value) (trivia : Trivia gap)
    (sameLine : '\n' ∉ key) {after : Text} (soft : Soft after) :
    Fits true (newEntry gap key value) after := by
  have valueFits : Fits true (withGap [' '] value) after := by
    have fits := entryValue.fits.retail fun last member =>
      Apart.ofSoft soft (entryValue.noSlash last member)
    cases value with
    | nil => trivial
    | cons first rest => exact ⟨Trivia.ofBlank rfl, fits.2⟩
  have colonFits : Fits (ofKey gap key).token.allowsRegex
      (⟨[], .punct, [':']⟩ :: withGap [' '] value) after :=
    Fits.mark rfl .nil valueFits
  refine ⟨trivia, readsAlone_ofKey sameLine gap true, separated_ofKey ?_ gap key, colonFits⟩
  rw [textOf_cons, List.append_assoc]
  exact soft_of_mark Trivia.nil (show isMark ':' = true from rfl) rfl _

end NewEntry

end Lexeme

end EmbedScaffold
