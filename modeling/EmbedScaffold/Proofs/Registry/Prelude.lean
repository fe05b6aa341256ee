import EmbedScaffold.Proofs.Registry.Declarations
import EmbedScaffold.Proofs.Registry.Live

/-!
# Shared declarations behind the imports

Shared declarations are written behind the imports of a document, or at its top, unless their marker
is declared there.  They are live code if the document can be divided at that place.  What stands
before them is a document of its own, so a mapping lies on one side of them.
-/

namespace EmbedScaffold

open Text Scan Lexeme Header

/-! ## Statements that are scanned -/

namespace Scan

/-- A word is read alike where a slash would begin a regular expression and where it would not. -/
theorem ReadsAlone.reflag_word {allowed : Bool} {value : Text} (alone : ReadsAlone true .word value) :
    ReadsAlone allowed .word value := by
  refine ⟨alone.solid_first, alone.solid_last, alone.begins, fun first rest shape offset after
    separated => ?_⟩
  have read := alone.reads first rest shape offset after separated
  have noSlash : first ≠ '/' := by
    rintro rfl
    have impossible := kind_of_nextToken_slash read
    cases impossible
  cases allowed with
  | true => exact read
  | false =>
      rw [← read]
      simp only [nextToken, plainToken, noSlash, decide_false, Bool.false_and]

end Scan

/-- A text from a word to a semicolon is scanned alike wherever it stands. -/
theorem Statement.ofScan {line : Text} {tokens : List Token} {first last : Token}
    (scanned : scan line = .ok tokens) (isFirst : tokens.head? = some first)
    (isWord : first.kind = .word) (start : first.start = 0) (isLast : tokens.getLast? = some last)
    (stop : last.stop = line.length) (ends : last.isPunct ';' = true) :
    ∃ own, Statement line own ∧ tokens = tokensAt 0 own := by
  obtain ⟨lexemes, after, shape, fits, -, rfl⟩ := exists_fits scanned
  refine ⟨lexemes, ?_, rfl⟩
  rcases List.eq_nil_or_concat lexemes with rfl | ⟨others, final, rfl⟩
  · cases isLast
  · rw [List.concat_eq_append] at *
    rw [tokensAt_getLast?] at isLast
    obtain rfl := Option.some.inj isLast
    have isPunct : final.isPunct ';' = true := ((kindred_tokenAt _ final).isPunct ';').symm.trans ends
    obtain ⟨head, more, begins⟩ : ∃ head more, others ++ [final] = head :: more :=
      List.exists_cons_of_ne_nil (List.concat_ne_nil _ _)
    rw [begins, tokensAt] at isFirst
    obtain rfl := Option.some.inj isFirst
    have atEnd : after = [] := by
      have lengths := congrArg List.length shape
      simp only [tokenAt, textOf_append, textOf_cons, textOf_nil, List.length_append,
        List.length_nil] at stop lengths
      exact List.eq_nil_of_length_eq_zero (by omega)
    subst atEnd
    refine ⟨by rw [shape, List.append_nil], fun allowed behind => ?_, fun allowed => ?_,
      ⟨head, more, begins, ?_⟩⟩
    · have whole : Fits true (others ++ [final]) behind :=
        fits.retail (Apart.last_mark (show isMark ';' = true from rfl) isPunct others behind)
      rw [begins] at whole ⊢
      obtain ⟨trivia, alone, separated, behindFits⟩ := whole
      have kind : head.kind = .word := isWord
      rw [kind] at alone
      exact ⟨trivia, kind ▸ alone.reflag_word, separated, behindFits⟩
    · rw [allowsBehind_append, allowsBehind_cons]
      exact (allowsRegex_of_isPunct isPunct).trans (by decide)
    · exact List.eq_nil_of_length_eq_zero ((Nat.zero_add _).symm.trans start)

namespace Header

variable {content marker prelude line result : Text} {document : Document} {own : List Lexeme}

/-! ## Writing the declarations -/

theorem ensurePrelude_of_declared (scannedText : Document.ofText content = .ok document)
    (isDeclared : declaresMarker marker document.tokens.toList = true) (prelude : Text) :
    ensurePrelude content marker prelude = .ok ⟨content, false⟩ := by
  have read := Document.forEdit_ok scannedText
  simp only [ensurePrelude, read, isDeclared, bind, Except.bind, pure, Except.pure, if_true]

/-- At the top of a document a statement is live. -/
theorem isLive_top (statement : Statement line own) {others : List Token}
    (scanned : scan result = .ok others)
    (kept : (scan content).map (List.map Token.bare) = .ok (others.map Token.bare)) :
    IsLive content line (line ++ '\n' :: result) := by
  have standing : Standing [] [] [] := ⟨rfl, .nil, fun _ => trivial⟩
  exact (isLiveAt_of_standing statement standing ⟨[], rfl⟩ scanned kept).isLive

/-- Behind the line of its last import, the document can be divided. -/
def DividesBehindImports (content : Text) : Prop :=
  ∀ place indent, insertionPoint content = .ok (some (place, indent)) → DividesAt content place

theorem insertionPoint_closes {place : Nat} {indent : Text}
    (found : insertionPoint content = .ok (some (place, indent))) :
    (content.drop place = [] ∨ (content.take place).getLast? = some '\n') ∧
      place ≤ content.length := by
  rw [insertionPoint] at found
  cases read : Document.forEdit content with
  | error fault =>
      rw [read] at found
      cases found
  | ok document =>
      rw [read] at found
      obtain ⟨last, -, pointed⟩ := Option.map_eq_some_iff.mp (Except.ok.inj found)
      obtain ⟨rfl, -⟩ := Prod.mk.inj pointed
      exact lineEnd_closes content last

/-- Declarations that are written into a document are live if it can be divided where they are. -/
theorem ensurePrelude_live (statement : Statement (trimBoth isLineFeed prelude) own)
    (scannedText : Document.ofText content = .ok document)
    (undeclared : declaresMarker marker document.tokens.toList = false)
    (divides : DividesBehindImports content) :
    ∃ outcome, ensurePrelude content marker prelude = .ok outcome ∧
      IsLive content (trimBoth isLineFeed prelude) outcome.content := by
  have read := Document.forEdit_ok scannedText
  have scanned := Document.scan_eq scannedText
  obtain ⟨point, found⟩ := insertionPoint_isOk scannedText
  cases point with
  | none =>
      have ensured : ensurePrelude content marker prelude =
          .ok ⟨trimBoth isLineFeed prelude ++ '\n' ::
            (if isBlankText content then [] else '\n' :: content), true⟩ := by
        simp only [ensurePrelude, read, undeclared, found, bind, Except.bind, pure, Except.pure,
          Bool.false_eq_true, if_false, List.append_assoc, List.singleton_append]
      refine ⟨_, ensured, ?_⟩
      by_cases blank : isBlankText content = true
      · have empty : scan content = .ok [] :=
          tokensFrom_trailing (.ofTrivia (.ofBlank blank)) true 0
        have nothing : scan [] = .ok [] := tokensFrom_trailing (fun _ => skipTrivia_nil _) true 0
        rw [if_pos blank]
        exact isLive_top statement nothing (congrArg (Except.map _) empty)
      · have lineFeed : Trivia ['\n'] := .ofBlank rfl
        have behind : scan ('\n' :: content) =
            .ok (document.tokens.toList.map (Token.moved 1)) := by
          rw [← List.singleton_append, scan, tokensFrom_trivia lineFeed]
          exact tokensFrom_moved scanned 1
        rw [if_neg blank]
        refine isLive_top statement behind ?_
        rw [scanned, List.map_map]
        rfl
  | some point =>
      obtain ⟨place, indent⟩ := point
      obtain ⟨endsLine, within⟩ := insertionPoint_closes found
      have ensured : ensurePrelude content marker prelude =
          .ok ⟨(endLine (content.take place) ++ ['\n']) ++
            (trimBoth isLineFeed prelude ++ '\n' :: content.drop place), true⟩ := by
        simp only [ensurePrelude, read, undeclared, found, bind, Except.bind, pure, Except.pure,
          Bool.false_eq_true, if_false, List.append_assoc, List.cons_append, List.nil_append]
      have areBlank : isBlankText ['\n'] = true := rfl
      refine ⟨_, ensured, ?_⟩
      exact ((isLiveAt_iff_of_written statement endsLine within areBlank).mpr
        (divides place indent found)).isLive

end Header

/-! ## Around the declarations -/

/-- Lexemes `middle` that stand between those of a document with some tokens. -/
structure Inserted (own : List Lexeme) (tokens : List Token) (left middle right : List Lexeme) :
    Prop where
  closed : closes [] left = true
  kindred : List.Forall₂ (fun other lexeme => Kindred other.token lexeme.token) middle own
  around : ∀ name, declared name left + declared name right ≤ declarations name tokens

/-- A statement that is live in a document stands between the lexemes that were there, if it
declares what they do not. -/
theorem Header.IsLive.exists_inserted {content line result marker : Text} {own : List Lexeme}
    {tokens : List Token} {document : Document} {lexemes : List Lexeme} {after : Text}
    (live : IsLive content line result) (statement : Statement line own)
    (marks : 0 < declared marker own) (scanned : scan content = .ok tokens)
    (undeclared : declarations marker tokens = 0)
    (scannedText : Document.ofText result = .ok document) (known : Scanned document lexemes after) :
    ∃ left middle right, lexemes = left ++ (middle ++ right) ∧
      Inserted own tokens left middle right := by
  obtain ⟨before, run, behind, whole⟩ := live
  have same : run.map Token.bare = (tokensAt 0 own).map Token.bare :=
    (Except.ok.inj ((statement.map_bare 0).symm.trans whole.same)).symm
  have runDeclares : declarations marker run = declared marker own := by
    rw [declarations_congr (kindred_of_bare same), declarations_tokensAt]
  have changed : result ≠ content := by
    rintro rfl
    obtain rfl := Except.ok.inj (scanned.symm.trans whole.scanned)
    have front := @declarations_le_append marker before (run ++ behind)
    have back := @declarations_le_append marker run behind
    omega
  obtain ⟨others, othersScanned, kept⟩ := whole.exists_kept changed
  obtain rfl := Except.ok.inj (scanned.symm.trans othersScanned)
  have allTokens : tokensAt 0 lexemes = before ++ (run ++ behind) := by
    have read := Document.scan_eq scannedText
    rw [known.tokens] at read
    exact Except.ok.inj (read.symm.trans whole.scanned)
  obtain ⟨left, others, rfl, rfl, behindTokens⟩ := exists_of_tokensAt_append allTokens
  obtain ⟨middle, right, rfl, rfl, rfl⟩ := exists_of_tokensAt_append behindTokens
  refine ⟨left, middle, right, rfl, pairBrackets_isOk.mp whole.outside, kindred_of_tokensAt same,
    fun name => ?_⟩
  have parts := @declarations_le_append name (tokensAt 0 left)
    (tokensAt (0 + (textOf left).length + (textOf middle).length) right)
  rw [← declarations_congr (kindred_of_bare kept), declarations_tokensAt,
    declarations_tokensAt] at parts
  exact parts

namespace Inserted

variable {own left middle right : List Lexeme} {tokens : List Token} {name : Text}

/-- Declarations are not cut if the lexemes begin with another word and do not end with one. -/
theorem declared_parts (inserted : Inserted own tokens left middle right)
    (begins : ∃ first rest, own = first :: rest ∧ first.token.isWord name = false)
    (ends : ∀ last ∈ own.getLast?, last.kind ≠ .word) (undeclared : declarations name tokens = 0) :
    declared name (left ++ (middle ++ right)) = declared name own := by
  have around := inserted.around name
  have kindred := inserted.kindred
  have back : declared name (middle ++ right) = declared name middle + declared name right := by
    refine declared_append_of_seam fun last isLast _ _ isWord => ?_
    obtain ⟨source, isSource, alike⟩ := exists_last_alike kindred isLast
    exact absurd (alike.kind.symm.trans isWord) (ends source isSource)
  have front : declared name (left ++ (middle ++ right)) =
      declared name left + declared name (middle ++ right) := by
    obtain ⟨first, rest, rfl, other⟩ := begins
    obtain ⟨head, more, alike, -, rfl⟩ := List.forall₂_cons_right_iff.mp kindred
    refine declared_append_of_seam fun _ _ next isNext _ => ?_
    obtain rfl : head = next := Option.some.inj isNext
    exact (alike.isWord name).trans other
  rw [front, back, declared_of_kindred kindred]
  omega

end Inserted

namespace Mapping

/-- The brace stands behind a word and an operator, of which the word is the name. -/
theorem braceFrom?_word {name : Text} {index found : Nat} {previous : Option Token}
    {tokens : List Token} (located : braceFrom? name index previous tokens = some found) :
    ∃ front word rest, tokens = front ++ word :: rest ∧ found = index + front.length + 2 ∧
      word.isWord name = true := by
  fun_induction braceFrom? name index previous tokens with
  | case1 index previous word operator brace rest matched =>
      cases located
      simp only [Bool.and_eq_true] at matched
      exact ⟨[], word, _, rfl, rfl, matched.1.1.1⟩
  | case2 index previous word operator brace rest _ inductionHypothesis =>
      obtain ⟨front, found, more, shape, rfl, isWord⟩ := inductionHypothesis located
      refine ⟨word :: front, found, more, by rw [shape]; rfl, ?_, isWord⟩
      rw [List.length_cons]
      omega
  | case3 => cases located

end Mapping

/-! ## The mapping beside the declarations -/

/-- A bracket is closed by one bracket only. -/
theorem Scanned.group_unique {document : Document} {after : Text} {opener closer other : Lexeme}
    {mark : Char} {front inner back otherInner otherBack : List Lexeme}
    (scanned : Scanned document (front ++ opener :: (inner ++ closer :: back)) after)
    (opens : opener.token.closing? = some mark) (closing : closer.isPunct mark = true)
    (balanced : Balanced inner) (same : inner ++ closer :: back = otherInner ++ other :: otherBack)
    (otherClosing : other.isPunct mark = true) (otherBalanced : Balanced otherInner) :
    inner = otherInner ∧ closer = other := by
  have here := scanned.closer_eq opens closing balanced
  rw [same] at scanned
  have there := scanned.closer_eq opens otherClosing otherBalanced
  obtain ⟨rfl, behind⟩ := List.append_inj same (by omega)
  exact ⟨rfl, (List.cons.inj behind).1⟩

namespace Layout

open Cell

variable {name : Text} {layout : Layout} {document : Document} {left middle right : List Lexeme}

private theorem exists_last_two (one two : Lexeme) (others : List Lexeme) :
    ∃ front word operator, one :: two :: others = front ++ [word, operator] := by
  induction others generalizing one two with
  | nil => exact ⟨[], one, two, rfl⟩
  | cons three more inductionHypothesis =>
      obtain ⟨front, word, operator, tail⟩ := inductionHypothesis two three
      exact ⟨one :: front, word, operator, by rw [tail]; rfl⟩

/-- The last two lexemes in front of the mapping are its name and an operator. -/
theorem Sound.isWord_of_lead (sound : layout.Sound name) {front : List Lexeme}
    {word operator : Lexeme} (shape : layout.lead = front ++ [word, operator]) :
    word.token.isWord name = true := by
  obtain ⟨before, found, rest, tokens, place, isWord⟩ := Mapping.braceFrom?_word sound.located
  have parts : layout.lexemes = front ++ word :: (operator ::
      (lexemesOf layout.allCells ++ layout.closing :: layout.rest)) := by
    rw [lexemes, shape, List.append_assoc]
    rfl
  rw [parts, tokensAt_append, tokensAt] at tokens
  have length : (tokensAt 0 front).length = before.length := by
    rw [tokensAt_length]
    rw [shape, List.length_append] at place
    simp only [List.length_cons, List.length_nil] at place
    omega
  obtain ⟨-, same⟩ := List.append_inj tokens length
  obtain ⟨rfl, -⟩ := List.cons.inj same
  exact ((kindred_tokenAt _ word).isWord name).symm.trans isWord

/-- A mapping that opens in a balanced front of the document closes there. -/
theorem Sound.exists_closed (sound : layout.Sound name)
    (scanned : Scanned document layout.lexemes layout.after) {brace : Lexeme}
    {more : List Lexeme} (parts : layout.lexemes = layout.lead ++ brace :: (more ++ right))
    (closed : Lexeme.closes [] (layout.lead ++ brace :: more) = true) :
    ∃ rest, brace :: more = lexemesOf layout.allCells ++ layout.closing :: rest := by
  obtain ⟨first, inside, shape, isBrace, balanced⟩ := exists_braced sound.marked sound.nests_all
  have opens := closing_of_brace isBrace
  have whole : layout.lexemes =
      layout.lead ++ first :: (inside ++ layout.closing :: layout.rest) := by
    rw [lexemes, shape]
    rfl
  obtain ⟨rfl, behind⟩ := List.cons.inj (List.append_cancel_left (parts.symm.trans whole))
  obtain ⟨pending, closedBehind⟩ := exists_pending closed
  rw [closes_opener _ _ opens] at closedBehind
  obtain ⟨inner, closer, rest, rfl, innerBalanced, closing, -⟩ := exists_balanced closedBehind
  rw [List.append_assoc, List.cons_append] at parts behind
  obtain ⟨rfl, rfl⟩ := (parts ▸ scanned).group_unique opens closing innerBalanced behind
    sound.closes balanced
  exact ⟨rest, by rw [shape, List.cons_append]⟩

/-- A mapping lies on one side of lexemes that begin with two words, of which none is its name, and
stand behind a balanced front. -/
theorem Sound.exists_side (sound : layout.Sound name)
    (scanned : Scanned document layout.lexemes layout.after)
    (parts : layout.lexemes = left ++ (middle ++ right)) (closed : Lexeme.closes [] left = true)
    {first second : Lexeme} {others : List Lexeme} (shape : middle = first :: second :: others)
    (noFirst : first.isPunct '\x7b' = false) (noSecond : second.isPunct '\x7b' = false)
    (absent : ∀ lexeme ∈ middle, lexeme.token.isWord name = false) :
    (∃ rest, left = layout.lead ++ (lexemesOf layout.allCells ++ layout.closing :: rest)) ∨
      ∃ front, layout.lead = left ++ (middle ++ front) := by
  obtain ⟨brace, inside, opened, isBrace, -⟩ := exists_braced sound.marked sound.nests_all
  have notFirst : first ≠ brace := fun same => by rw [same, isBrace] at noFirst; cases noFirst
  have notSecond : second ≠ brace := fun same => by rw [same, isBrace] at noSecond; cases noSecond
  have whole : layout.lead ++ brace :: (inside ++ layout.closing :: layout.rest) =
      left ++ (middle ++ right) := by
    rw [← parts, lexemes, opened]
    rfl
  rcases List.append_eq_append_iff.mp whole with ⟨inside, rfl, behind⟩ | ⟨beyond, lead, behind⟩
  · -- The brace stands in front of the other lexemes, or it is the first of them.
    cases inside with
    | nil =>
        rw [shape] at behind
        exact absurd (List.cons.inj behind).1.symm notFirst
    | cons head rest =>
        obtain ⟨rfl, -⟩ := List.cons.inj behind
        obtain ⟨rest, closes⟩ := sound.exists_closed scanned
          (by rw [parts, List.append_assoc, List.cons_append]) closed
        exact .inl ⟨rest, by rw [closes]⟩
  · rcases List.append_eq_append_iff.mp behind with ⟨front, rfl, -⟩ | ⟨within, split, final⟩
    · exact .inr ⟨front, lead⟩
    · cases within with
      | nil => exact .inr ⟨[], by rw [lead, split, List.append_nil, List.append_nil]⟩
      | cons head rest =>
          -- The brace stands within the other lexemes, so the name of the mapping does, too.
          obtain ⟨rfl, -⟩ := List.cons.inj final
          rcases beyond with _ | ⟨one, _ | ⟨two, between⟩⟩
          · rw [shape] at split
            exact absurd (List.cons.inj split).1 notFirst
          · rw [shape] at split
            exact absurd (List.cons.inj (List.cons.inj split).2).1 notSecond
          · obtain ⟨front, word, operator, tail⟩ := exists_last_two one two between
            rw [tail] at lead split
            have isWord := sound.isWord_of_lead (lead.trans (List.append_assoc ..).symm)
            rw [absent word (by simp [split])] at isWord
            cases isWord

/-- The entries of a mapping on one side of lexemes declare at most what stands beside them. -/
theorem declared_beside {constant : Text} (parts : layout.lexemes = left ++ (middle ++ right))
    (side : (∃ rest, left = layout.lead ++
        (lexemesOf layout.allCells ++ layout.closing :: rest)) ∨
      ∃ front, layout.lead = left ++ (middle ++ front)) :
    ∀ cell ∈ layout.cells,
      Lexeme.declared constant cell.body ≤
        Lexeme.declared constant left + Lexeme.declared constant right := by
  intro cell member
  obtain ⟨before, behind, shape⟩ := List.append_of_mem member
  have inCells : cell.body <:+: lexemesOf layout.allCells := by
    refine ⟨lexemesOf before ++ [cell.mark],
      lexemesOf (behind ++ layout.trailing.toList.map bare), ?_⟩
    rw [allCells, shape]
    simp
  rcases side with ⟨rest, inLeft⟩ | ⟨front, lead⟩
  · have within : cell.body <:+: left := by
      refine inCells.trans ⟨layout.lead, layout.closing :: rest, ?_⟩
      rw [inLeft, List.append_assoc]
    have bound := @declared_le_of_within constant _ _ within
    omega
  · have inRight : right = front ++ (lexemesOf layout.allCells ++ layout.closing :: layout.rest) := by
      rw [lexemes, lead, List.append_assoc, List.append_assoc] at parts
      exact (List.append_cancel_left (List.append_cancel_left parts)).symm
    have within : cell.body <:+: right := by
      refine inCells.trans ⟨front, layout.closing :: layout.rest, ?_⟩
      rw [inRight, List.append_assoc]
    have bound := @declared_le_of_within constant _ _ within
    omega

end Layout

end EmbedScaffold
