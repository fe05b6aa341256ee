import EmbedScaffold.Proofs.Token.Document

/-!
# Texts that are put between others

What a scan finds behind a place depends on the text before it only by the offset and by whether a
slash begins a regular expression there.  A text is standing if its tokens are the same whatever
follows it; text that is put behind it is then scanned on its own.
-/

namespace EmbedScaffold

open Text Scan Lexeme

namespace Token

/-- A token without its place. -/
def bare (token : Token) : Token :=
  { token with start := 0, stop := 0 }

/-- A token of a text that is written at an offset. -/
def moved (offset : Nat) (token : Token) : Token :=
  { token with start := offset + token.start, stop := offset + token.stop }

theorem moved_comp (offset distance : Nat) :
    moved offset ∘ moved distance = moved (offset + distance) := by
  funext token
  simp [moved, Nat.add_assoc]

end Token

namespace Lexeme

/-! ## Tokens of lexemes at different offsets -/

theorem map_bare_tokensAt_eq (offset start : Nat) (lexemes : List Lexeme) :
    (tokensAt offset lexemes).map Token.bare = (tokensAt start lexemes).map Token.bare := by
  induction lexemes generalizing offset start with
  | nil => rfl
  | cons first rest inductionHypothesis =>
      rw [tokensAt, tokensAt, List.map_cons, List.map_cons,
        inductionHypothesis _ (start + first.text.length)]
      rfl

theorem map_moved_tokensAt (offset start : Nat) (lexemes : List Lexeme) :
    (tokensAt start lexemes).map (Token.moved offset) = tokensAt (offset + start) lexemes := by
  induction lexemes generalizing start with
  | nil => rfl
  | cons first rest inductionHypothesis =>
      rw [tokensAt, List.map_cons, inductionHypothesis, tokensAt, Nat.add_assoc]
      simp [Token.moved, tokenAt, Nat.add_assoc]

/-- The gap before a token is part of its place. -/
theorem tokensAt_gap (offset : Nat) (lexeme : Lexeme) (rest : List Lexeme) :
    tokensAt (offset + lexeme.gap.length) ({ lexeme with gap := [] } :: rest) =
      tokensAt offset (lexeme :: rest) := by
  simp [tokensAt, tokenAt, text, Nat.add_assoc]

theorem exists_of_tokensAt_append {lexemes : List Lexeme} {offset : Nat}
    {front back : List Token} (tokens : tokensAt offset lexemes = front ++ back) :
    ∃ left right, lexemes = left ++ right ∧ tokensAt offset left = front ∧
      tokensAt (offset + (textOf left).length) right = back := by
  have split := tokens
  rw [← List.take_append_drop front.length lexemes, tokensAt_append] at split
  have lengths := congrArg List.length tokens
  rw [tokensAt_length, List.length_append] at lengths
  obtain ⟨left, right⟩ := List.append_inj split (by
    rw [tokensAt_length, List.length_take]
    omega)
  exact ⟨_, _, (List.take_append_drop _ _).symm, left, right⟩

end Lexeme

namespace Scan

/-! ## Scans from other places -/

section Places

variable {allowed : Bool} {offset : Nat} {content : Text} {tokens : List Token}

/-- The tokens behind a cursor at which nothing is skipped. -/
def tokensAfter (allowed : Bool) (found : Cursor) : Except Malformed (List Token) :=
  match found.rest with
  | [] => .ok []
  | first :: rest =>
      match nextToken allowed found.offset first rest with
      | .error fault => .error fault
      | .ok (kind, ended) =>
          let token := Token.cut kind (first :: rest) found.offset ended.offset
          (tokensFrom token.allowsRegex ended.offset ended.rest).map (token :: ·)

theorem tokensFrom_eq (allowed : Bool) (offset : Nat) (content : Text) :
    tokensFrom allowed offset content =
      (skipTrivia offset content).bind (tokensAfter allowed) := by
  rw [tokensFrom.eq_def]
  split
  · next fault failed => rw [failed]; rfl
  · next ended => rw [ended]; rfl
  · next start first rest found =>
      rw [found]
      simp only [Except.bind, tokensAfter]
      split
      · next fault failed => rw [failed]
      · next kind ended read => rw [read]

theorem tokensFrom_trailing {gap : Text} (trailing : Trailing gap) (allowed : Bool)
    (offset : Nat) : tokensFrom allowed offset gap = .ok [] := by
  rw [tokensFrom_eq, trailing]
  rfl

/-- Trivia before a text are skipped. -/
theorem tokensFrom_trivia {gap : Text} (trivia : Trivia gap) (allowed : Bool) (offset : Nat)
    (content : Text) : tokensFrom allowed offset (gap ++ content) =
      tokensFrom allowed (offset + gap.length) content := by
  rw [tokensFrom_eq, tokensFrom_eq, trivia]

/-- A text is scanned into the same lexemes from every offset. -/
theorem exists_lexemes (scanned : tokensFrom allowed offset content = .ok tokens) :
    ∃ lexemes, tokens = tokensAt offset lexemes ∧
      ∀ place, tokensFrom allowed place content = .ok (tokensAt place lexemes) := by
  obtain ⟨lexemes, after, rfl, fits, trailing, rfl⟩ := exists_fits scanned
  refine ⟨lexemes, rfl, fun place => ?_⟩
  rw [tokensFrom_fits fits, tokensFrom_trailing trailing]
  exact congrArg Except.ok (List.append_nil _)

theorem tokensFrom_moved (scanned : tokensFrom allowed 0 content = .ok tokens) (offset : Nat) :
    tokensFrom allowed offset content = .ok (tokens.map (Token.moved offset)) := by
  obtain ⟨lexemes, rfl, everywhere⟩ := exists_lexemes scanned
  rw [everywhere, map_moved_tokensAt]
  rfl

theorem exists_of_tokensFrom (scanned : tokensFrom allowed offset content = .ok tokens) :
    ∃ own, tokensFrom allowed 0 content = .ok own ∧ tokens = own.map (Token.moved offset) := by
  obtain ⟨lexemes, rfl, everywhere⟩ := exists_lexemes scanned
  exact ⟨_, everywhere 0, (map_moved_tokensAt offset 0 lexemes).symm⟩

theorem exists_scan_of_tokensFrom (scanned : tokensFrom true offset content = .ok tokens) :
    ∃ own, scan content = .ok own ∧ tokens = own.map (Token.moved offset) :=
  exists_of_tokensFrom scanned

theorem nextToken_slash (offset : Nat) (rest : Text) :
    nextToken false offset '/' rest = .ok (.punct, ⟨offset + 1, rest⟩) := by
  rw [nextToken, if_neg (by decide), plainToken, if_neg (by decide), if_neg (by decide),
    if_neg (by simp), if_neg (by decide)]

theorem kind_of_nextToken_slash {rest : Text} {kind : TokenKind} {ended : Cursor}
    (read : nextToken true offset '/' rest = .ok (kind, ended)) : kind = .regex := by
  rw [nextToken, if_neg (by decide), plainToken, if_neg (by decide), if_pos (by decide)] at read
  split at read
  · cases read
    rfl
  · cases read

theorem exists_first {first : Char} {rest : Text}
    (scanned : tokensAfter allowed ⟨offset, first :: rest⟩ = .ok tokens) :
    ∃ kind ended, nextToken allowed offset first rest = .ok (kind, ended) ∧
      (tokens.map Token.bare).head?.map Token.kind = some kind := by
  simp only [tokensAfter] at scanned
  split at scanned
  · cases scanned
  · next kind ended read =>
      refine ⟨kind, ended, read, ?_⟩
      cases behind : tokensFrom _ ended.offset ended.rest with
      | error fault =>
          rw [behind] at scanned
          cases scanned
      | ok others =>
          rw [behind] at scanned
          cases scanned
          rfl

/-- A slash begins a regular expression or is punctuation, and the tokens tell which. -/
theorem tokensFrom_of_bare {others : List Token}
    (scanned : tokensFrom false offset content = .ok tokens)
    (othersScanned : tokensFrom true offset content = .ok others)
    (same : tokens.map Token.bare = others.map Token.bare) : tokens = others := by
  rw [tokensFrom_eq] at scanned othersScanned
  cases skipped : skipTrivia offset content with
  | error fault =>
      rw [skipped] at scanned
      cases scanned
  | ok found =>
      rw [skipped] at scanned othersScanned
      change tokensAfter _ found = _ at scanned othersScanned
      suffices alike : tokensAfter false found = tokensAfter true found by
        exact Except.ok.inj (scanned.symm.trans (alike.trans othersScanned))
      obtain ⟨start, rest⟩ := found
      cases rest with
      | nil => rfl
      | cons first rest =>
          by_cases slash : first = '/'
          · subst slash
            obtain ⟨kind, ended, read, here⟩ := exists_first scanned
            obtain ⟨other, otherEnded, otherRead, there⟩ := exists_first othersScanned
            obtain rfl := kind_of_nextToken_slash otherRead
            rw [nextToken_slash] at read
            cases read
            rw [same, there] at here
            cases here
          · have alike : nextToken false start first rest = nextToken true start first rest := by
              simp only [nextToken, plainToken, slash, decide_false, Bool.false_and]
            simp only [tokensAfter, alike]

end Places

/-! ## What is left of a gap -/

section Gaps

variable {allowed : Bool} {lexemes : List Lexeme} {content gap after other blanks : Text}
  {document : Document}

/-- What follows the gap behind lexemes does not matter to them. -/
theorem Fits.behind_gap (fits : Fits allowed lexemes (gap ++ after))
    (isGap : ∀ first ∈ gap.head?, isBlank first = true ∨ first = '/')
    (blank : gap = [] → ∀ first ∈ other.head?, isBlank first = true) :
    Fits allowed lexemes (gap ++ other) := by
  refine fits.retail fun last member => ?_
  have separated := fits.separated_last last member
  cases gap with
  | cons first rest => exact .ofHead separated (isGap first rfl) (rest ++ other)
  | nil =>
      cases other with
      | nil => exact ⟨fun _ => by simp, fun _ => by simp, fun _ => by simp⟩
      | cons first rest => exact .ofBlank (blank rfl first rfl) last rest

theorem Fits.upTo_gap (fits : Fits allowed lexemes (gap ++ after))
    (isGap : ∀ first ∈ gap.head?, isBlank first = true ∨ first = '/') :
    Fits allowed lexemes gap := by
  have whole := @Fits.behind_gap _ _ _ _ [] fits isGap (fun _ => by simp)
  rwa [List.append_nil] at whole

theorem Trailing.head (trailing : Trailing gap) :
    ∀ first ∈ gap.head?, isBlank first = true ∨ first = '/' := by
  intro first member
  apply trailing.trivia.head
  rw [List.head?_append, member]
  rfl

/-- Blanks at the end of a document belong to the gap behind its last lexeme. -/
theorem Fits.exists_gap (fits : Fits allowed lexemes after) (areBlank : isBlankText blanks = true)
    (shape : content ++ blanks = textOf lexemes ++ after) :
    ∃ gap, content = textOf lexemes ++ gap ∧ after = gap ++ blanks := by
  rcases List.append_eq_append_iff.mp shape with ⟨hidden, whole, rest⟩ | ⟨gap, whole, rest⟩
  · rcases List.eq_nil_or_concat hidden with rfl | ⟨front, last, rfl⟩
    · exact ⟨[], by simpa using whole.symm, by simpa using rest.symm⟩
    · have solid := fits.solid_last last (by simp [whole])
      have blank := List.all_eq_true.mp areBlank last (by simp [rest])
      rw [solid] at blank
      cases blank
  · exact ⟨gap, whole, rest⟩

/-- A scan is cut at the place at which one of its tokens begins. -/
theorem exists_cut {front : Text} {before later : List Token}
    (scanned : scan (front ++ content) = .ok (before ++ later))
    (starts : later.head?.map Token.start = some front.length) :
    (∃ left gap, front = textOf left ++ gap ∧ before = tokensAt 0 left ∧ Fits true left gap ∧
        Trivia gap) ∧
      ∃ allowed, tokensFrom allowed front.length content = .ok later := by
  obtain ⟨lexemes, after, shape, fits, trailing, tokens⟩ := exists_fits scanned
  obtain ⟨left, right, rfl, rfl, tokensBehind⟩ := exists_of_tokensAt_append tokens.symm
  cases right with
  | nil =>
      rw [← tokensBehind] at starts
      cases starts
  | cons lexeme others =>
      obtain ⟨leftFits, trivia, alone, separated, othersFit⟩ := fits_append.mp fits
      have place : front.length = (textOf left ++ lexeme.gap).length := by
        rw [← tokensBehind] at starts
        rw [← Option.some.inj starts, List.length_append, tokenAt, Nat.zero_add]
      rw [textOf_append, textOf_cons, Lexeme.text, List.append_assoc, List.append_assoc,
        List.append_assoc, ← List.append_assoc (textOf left)] at shape
      obtain ⟨rfl, rfl⟩ := List.append_inj shape place
      refine ⟨⟨left, lexeme.gap, rfl, rfl, ?_, trivia⟩, allowsBehind true left, ?_⟩
      · rw [textOf_cons, Lexeme.text, List.append_assoc, List.append_assoc] at leftFits
        exact leftFits.upTo_gap trivia.head
      · have bareFits : Fits (allowsBehind true left) ({ lexeme with gap := [] } :: others) after :=
          ⟨.nil, alone, separated, othersFit⟩
        have whole := tokensFrom_fits bareFits (textOf left ++ lexeme.gap).length
        rw [tokensFrom_trailing trailing, textOf_cons, Lexeme.text, List.nil_append,
          List.append_assoc] at whole
        rw [whole, ← tokensBehind]
        refine congrArg Except.ok ((List.append_nil _).trans ?_)
        rw [List.length_append, tokensAt_gap, Nat.zero_add]

end Gaps

end Scan

/-! ## Texts that stand before others -/

/-- The lexemes of a text are the same whatever follows it. -/
structure Standing (content : Text) (lexemes : List Lexeme) (gap : Text) : Prop where
  shape : content = textOf lexemes ++ gap
  trivia : Trivia gap
  fits : ∀ after, Fits true lexemes (gap ++ after)

namespace Standing

variable {lexemes : List Lexeme} {content gap blanks : Text} {document : Document}

theorem append_blanks (standing : Standing content lexemes gap)
    (areBlank : isBlankText blanks = true) :
    Standing (content ++ blanks) lexemes (gap ++ blanks) := by
  refine ⟨?_, standing.trivia.append (.ofBlank areBlank), fun after => ?_⟩
  · rw [standing.shape, List.append_assoc]
  · rw [List.append_assoc]
    exact standing.fits _

theorem scan_append (standing : Standing content lexemes gap) (after : Text) :
    scan (content ++ after) =
      (tokensFrom (allowsBehind true lexemes) content.length after).map
        (tokensAt 0 lexemes ++ ·) := by
  rw [standing.shape, List.append_assoc, scan, tokensFrom_fits (standing.fits after),
    tokensFrom_trivia standing.trivia, List.length_append, Nat.zero_add]

/-- A text is scanned on its own behind a standing one if the tokens are those of the two. -/
theorem scan_append_of_bare {after : Text} {whole others : List Token}
    (standing : Standing content lexemes gap) (scanned : scan (content ++ after) = .ok whole)
    (othersScanned : scan after = .ok others)
    (same : whole.map Token.bare = (tokensAt 0 lexemes ++ others).map Token.bare) :
    whole = tokensAt 0 lexemes ++ others.map (Token.moved content.length) := by
  rw [standing.scan_append] at scanned
  have alone := tokensFrom_moved othersScanned content.length
  cases behind : tokensFrom (allowsBehind true lexemes) content.length after with
  | error fault =>
      rw [behind] at scanned
      cases scanned
  | ok found =>
      rw [behind] at scanned
      obtain rfl := Except.ok.inj scanned
      refine congrArg _ ?_
      cases allows : allowsBehind true lexemes with
      | true =>
          rw [allows] at behind
          exact Except.ok.inj (behind.symm.trans alone)
      | false =>
          rw [allows] at behind
          refine tokensFrom_of_bare behind alone ?_
          rw [List.map_append, List.map_append] at same
          rw [List.append_cancel_left same, List.map_map]
          rfl

end Standing

namespace Document

variable {content blanks : Text} {document : Document}

theorem exists_pairs (scanned : Document.ofText content = .ok document) :
    ∃ pairs, pairBrackets document.tokens.toList = .ok pairs := by
  obtain ⟨-, lexemes, after, known⟩ := Scanned.ofText_ok scanned
  exact ⟨_, known.tokens ▸ known.pairs⟩

theorem scan_eq (scanned : Document.ofText content = .ok document) :
    scan content = .ok document.tokens.toList := by
  obtain ⟨rfl, lexemes, after, known⟩ := Scanned.ofText_ok scanned
  rw [known.content, known.tokens, scan_fits known.fits known.trailing]

/-- The blanks at the end of a document are none of its tokens. -/
theorem exists_of_append_blanks (scanned : Document.ofText (content ++ blanks) = .ok document)
    (areBlank : isBlankText blanks = true) :
    ∃ shorter, Document.ofText content = .ok shorter ∧
      shorter.tokens.toList = document.tokens.toList := by
  obtain ⟨shape, lexemes, after, known⟩ := Scanned.ofText_ok scanned
  obtain ⟨gap, rfl, rfl⟩ := known.fits.exists_gap areBlank (shape.symm.trans known.content)
  have trailing := known.trailing.ofAppend areBlank
  have fits := known.fits.upTo_gap trailing.head
  obtain ⟨shorter, scannedShorter, knownShorter⟩ := exists_scanned fits trailing known.closes
  exact ⟨shorter, scannedShorter, knownShorter.tokens.trans known.tokens.symm⟩

/-- A document stands before whatever begins on a new line. -/
theorem exists_standing (scanned : Document.ofText content = .ok document) :
    ∃ lexemes gap, Standing (content ++ ['\n']) lexemes gap ∧
      document.tokens.toList = tokensAt 0 lexemes := by
  obtain ⟨rfl, lexemes, after, known⟩ := Scanned.ofText_ok scanned
  refine ⟨lexemes, after ++ ['\n'], ⟨?_, known.trailing.trivia, fun more => ?_⟩, known.tokens⟩
  · rw [known.content, List.append_assoc]
  · rw [List.append_assoc]
    have fits := known.fits
    rw [← List.append_nil after] at fits
    exact fits.behind_gap known.trailing.head fun _ first member => by cases member; rfl

end Document

/-! ## Statements -/

/-- A text is scanned into the same lexemes wherever it stands, and a statement may follow it. -/
structure Statement (line : Text) (own : List Lexeme) : Prop where
  shape : line = textOf own
  fits : ∀ allowed after, Fits allowed own after
  pauses : ∀ allowed, allowsBehind allowed own = true
  begins : ∃ first rest, own = first :: rest ∧ first.gap = []

namespace Statement

variable {line front behind : Text} {own : List Lexeme} {before run rest : List Token}

theorem tokensFrom_append (statement : Statement line own) (allowed : Bool) (offset : Nat)
    (behind : Text) : tokensFrom allowed offset (line ++ behind) =
      (tokensFrom true (offset + line.length) behind).map (tokensAt offset own ++ ·) := by
  rw [statement.shape, tokensFrom_fits (statement.fits allowed behind), statement.pauses]

theorem scan_eq (statement : Statement line own) : scan line = .ok (tokensAt 0 own) := by
  have whole := statement.tokensFrom_append true 0 []
  rw [tokensFrom_trailing (fun _ => skipTrivia_nil _), List.append_nil] at whole
  exact whole.trans (congrArg Except.ok (List.append_nil _))

theorem map_bare (statement : Statement line own) (offset : Nat) :
    (scan line).map (List.map Token.bare) = .ok ((tokensAt offset own).map Token.bare) := by
  rw [statement.scan_eq, map_bare_tokensAt_eq offset 0]
  rfl

theorem head_start (statement : Statement line own) (offset : Nat) :
    (tokensAt offset own).head?.map Token.start = some offset := by
  obtain ⟨first, rest, rfl, noGap⟩ := statement.begins
  rw [tokensAt, List.head?_cons, Option.map_some, tokenAt, noGap]
  rfl

/-- A statement whose tokens begin where it stands is preceded by a document and followed by a text
of its own. -/
theorem exists_parts (statement : Statement line own)
    (scanned : scan (front ++ (line ++ behind)) = .ok (before ++ (run ++ rest)))
    (same : run.map Token.bare = (tokensAt 0 own).map Token.bare)
    (starts : run.head?.map Token.start = some front.length)
    (paired : ∃ pairs, pairBrackets before = .ok pairs) :
    (∃ document, Document.ofText front = .ok document ∧ document.tokens.toList = before) ∧
      ∃ others, scan behind = .ok others ∧ run = tokensAt front.length own ∧
        rest = others.map (Token.moved (front.length + line.length)) := by
  have startsBehind : (run ++ rest).head?.map Token.start = some front.length := by
    rw [List.head?_append]
    cases first : run.head? with
    | none =>
        rw [first] at starts
        cases starts
    | some token =>
        rw [first] at starts
        exact starts
  obtain ⟨⟨left, gap, rfl, rfl, fits, trivia⟩, allowed, scannedBehind⟩ :=
    exists_cut scanned startsBehind
  constructor
  · obtain ⟨document, scannedFront, known⟩ :=
      exists_scanned fits (.ofTrivia trivia) (pairBrackets_isOk.mp paired)
    exact ⟨document, scannedFront, known.tokens⟩
  · rw [statement.tokensFrom_append] at scannedBehind
    cases found : tokensFrom true ((textOf left ++ gap).length + line.length) behind with
    | error fault =>
        rw [found] at scannedBehind
        cases scannedBehind
    | ok tokens =>
        rw [found] at scannedBehind
        have lengths := congrArg List.length same
        rw [List.length_map, List.length_map, tokensAt_length] at lengths
        obtain ⟨rfl, rfl⟩ := List.append_inj (Except.ok.inj scannedBehind)
          (by rw [tokensAt_length, lengths])
        obtain ⟨others, scannedOthers, rfl⟩ := exists_scan_of_tokensFrom found
        exact ⟨others, scannedOthers, rfl, rfl⟩

end Statement

end EmbedScaffold
