import EmbedScaffold.Proofs.Registry.HeaderLine
import EmbedScaffold.Proofs.Registry.Upsert
import EmbedScaffold.Proofs.Token.Insertion
import EmbedScaffold.Proofs.Token.Stretch

/-!
# Import lines as live code

An import that was ensured should be code of the document: its tokens one behind the other outside
all brackets, with the tokens of the document around them.  Whether the line is there is decided by
its text alone, and the place for a new line is the end of a line, so both may lie within a comment
or a bracket.  They do not if the document can be divided there.
-/

namespace EmbedScaffold

open Text Scan Lexeme

namespace Header

/-! ## Import statements -/

/-- The statement that imports a name from a path. -/
def importLine (name path : Text) : Text :=
  "import ".toList ++ name ++ " from '".toList ++ path ++ "';".toList

/-- The import is written with a word and with a path that its quotes enclose. -/
structure IsWritten (name path : Text) : Prop where
  named : name ≠ []
  letters : name.all isWordChar = true
  enclosed : stringEnd '\'' 1 (path ++ ['\'']) = some ⟨path.length + 2, []⟩

/-- The tokens of an import statement. -/
def importLexemes (name path : Text) : List Lexeme :=
  [⟨[], .word, "import".toList⟩, ⟨[' '], .word, name⟩, ⟨[' '], .word, "from".toList⟩,
    ⟨[' '], .string, '\'' :: path ++ ['\'']⟩, ⟨[], .punct, [';']⟩]

section Words

variable {keyword source before between behind : Text}

private theorem importText_eq (begins : before = keyword ++ [' '])
    (continues : between = [' '] ++ source ++ [' ', '\'']) (ends : behind = ['\'', ';'])
    (name path : Text) :
    before ++ name ++ between ++ path ++ behind =
      textOf [⟨[], .word, keyword⟩, ⟨[' '], .word, name⟩, ⟨[' '], .word, source⟩,
        ⟨[' '], .string, '\'' :: path ++ ['\'']⟩, ⟨[], .punct, [';']⟩] := by
  subst begins continues ends
  simp [Lexeme.text]

private theorem importText_strip {first last : Char} {rest front : Text}
    (begins : before = first :: rest) (ends : behind = front ++ [last])
    (solidFirst : isBlank first = false) (solidLast : isBlank last = false) (name path : Text) :
    strip (before ++ name ++ between ++ path ++ behind) =
      before ++ name ++ between ++ path ++ behind := by
  subst begins ends
  refine strip_of_solid rfl solidFirst fun final isFinal => ?_
  rw [← List.append_assoc, List.getLast?_concat] at isFinal
  obtain rfl := Option.some.inj isFinal
  exact solidLast

end Words

theorem importLine_eq (name path : Text) :
    importLine name path = textOf (importLexemes name path) :=
  importText_eq (by decide) (by decide) (by decide) name path

theorem strip_importLine (name path : Text) :
    strip (importLine name path) = importLine name path := by
  have ends : "';".toList = ['\''] ++ [';'] := by decide
  exact importText_strip rfl ends (by decide) (by decide) name path

theorem strip_importLine_ne_nil (name path : Text) : strip (importLine name path) ≠ [] := by
  rw [strip_importLine]
  exact List.append_ne_nil_of_right_ne_nil _ (by decide)

private theorem statement_fits {keyword name source path : Text}
    (keywordAlone : ∀ allowed, ReadsAlone allowed .word keyword)
    (nameAlone : ∀ allowed, ReadsAlone allowed .word name)
    (sourceAlone : ∀ allowed, ReadsAlone allowed .word source)
    (pathAlone : ∀ allowed, ReadsAlone allowed .string ('\'' :: path ++ ['\'']))
    (allowed : Bool) (after : Text) :
    Fits allowed [⟨[], .word, keyword⟩, ⟨[' '], .word, name⟩, ⟨[' '], .word, source⟩,
      ⟨[' '], .string, '\'' :: path ++ ['\'']⟩, ⟨[], .punct, [';']⟩] after := by
  have blank : Trivia [' '] := .ofBlank (by decide)
  have apart (word : Text) (after : Text) : Separated .word word (' ' :: after) :=
    (Apart.ofBlank (by decide) ⟨[], .word, word⟩ after).separated
  exact ⟨.nil, keywordAlone _, apart _ _, blank, nameAlone _, apart _ _, blank, sourceAlone _,
    apart _ _, blank, pathAlone _, .ofString rfl _ _, Fits.mark (by decide) .nil trivial⟩

namespace IsWritten

variable {name path : Text}

theorem readsAlone_name (written : IsWritten name path) (allowed : Bool) :
    ReadsAlone allowed .word name :=
  .word written.named (List.all_eq_true.mp written.letters) allowed

theorem readsAlone_path (written : IsWritten name path) (allowed : Bool) :
    ReadsAlone allowed .string ('\'' :: path ++ ['\'']) :=
  .quoted (.inl rfl) written.enclosed allowed

/-- An import is scanned alike wherever it stands. -/
theorem statement (written : IsWritten name path) :
    Statement (importLine name path) (importLexemes name path) := by
  have keywordAlone (allowed : Bool) : ReadsAlone allowed .word "import".toList :=
    .word (by decide) (Text.forall_of_all (by decide)) allowed
  have sourceAlone (allowed : Bool) : ReadsAlone allowed .word "from".toList :=
    .word (by decide) (Text.forall_of_all (by decide)) allowed
  refine ⟨importLine_eq name path, ?_, ?_, ?_⟩
  · rw [importLexemes]
    generalize "import".toList = keyword at keywordAlone
    generalize "from".toList = source at sourceAlone
    exact statement_fits keywordAlone written.readsAlone_name sourceAlone written.readsAlone_path
  · rw [importLexemes]
    generalize "import".toList = keyword
    generalize "from".toList = source
    exact fun _ => rfl
  · exact ⟨_, _, importLexemes.eq_def name path, rfl⟩

end IsWritten

/-! ## Live code -/

/-- The tokens of `line` stand outside all brackets in `result`, one behind the other, and the
others are those of `content` unless nothing was changed. -/
structure LiveRun (content line result : Text) (before run behind : List Token) : Prop where
  scanned : scan result = .ok (before ++ (run ++ behind))
  same : (scan line).map (List.map Token.bare) = .ok (run.map Token.bare)
  outside : ∃ pairs, pairBrackets before = .ok pairs
  kept : result = content ∨
    (scan content).map (List.map Token.bare) = .ok ((before ++ behind).map Token.bare)

theorem LiveRun.exists_kept {content line result : Text} {before run behind : List Token}
    (live : LiveRun content line result before run behind) (changed : result ≠ content) :
    ∃ whole, scan content = .ok whole ∧
      whole.map Token.bare = (before ++ behind).map Token.bare := by
  have kept := live.kept.resolve_left changed
  cases scanned : scan content with
  | error fault =>
      rw [scanned] at kept
      cases kept
  | ok whole =>
      rw [scanned] at kept
      exact ⟨whole, rfl, Except.ok.inj kept⟩

/-- The line is live code of the result. -/
def IsLive (content line result : Text) : Prop :=
  ∃ before run behind, LiveRun content line result before run behind

/-- The line is live code of the result at an offset. -/
def IsLiveAt (content line result : Text) (offset : Nat) : Prop :=
  ∃ before run behind, LiveRun content line result before run behind ∧
    run.head?.map Token.start = some offset

theorem IsLiveAt.isLive {content line result : Text} {offset : Nat}
    (live : IsLiveAt content line result offset) : IsLive content line result := by
  obtain ⟨before, run, behind, whole, -⟩ := live
  exact ⟨before, run, behind, whole⟩

/-- Up to the offset stands a document, and the tokens are its tokens with those of the text behind
it. -/
def DividesAt (content : Text) (offset : Nat) : Prop :=
  ∃ front back, Document.ofText (content.take offset) = .ok front ∧
    scan (content.drop offset) = .ok back ∧
    scan content = .ok (front.tokens.toList ++ back.map (Token.moved offset))

instance (content : Text) (offset : Nat) : Decidable (DividesAt content offset) :=
  match front : Document.ofText (content.take offset), back : scan (content.drop offset) with
  | .ok document, .ok tokens =>
      decidable_of_iff (scan content = .ok (document.tokens.toList ++ tokens.map (Token.moved offset)))
        ⟨fun whole => ⟨document, tokens, front, back, whole⟩, by
          rintro ⟨other, others, otherFront, otherBack, whole⟩
          cases Except.ok.inj (front.symm.trans otherFront)
          cases Except.ok.inj (back.symm.trans otherBack)
          exact whole⟩
  | .error _, _ => isFalse fun ⟨_, _, other, _⟩ => by cases front.symm.trans other
  | .ok _, .error _ => isFalse fun ⟨_, _, _, other, _⟩ => by cases back.symm.trans other

theorem map_length_of_bare {content : Text} {tokens : List Token}
    (same : (scan content).map (List.map Token.bare) = .ok (tokens.map Token.bare)) :
    (scan content).map List.length = .ok tokens.length := by
  cases scanned : scan content with
  | error fault =>
      rw [scanned] at same
      cases same
  | ok found =>
      rw [scanned] at same
      have lengths := congrArg List.length (Except.ok.inj same)
      rw [List.length_map, List.length_map] at lengths
      exact congrArg Except.ok lengths

/-- Live code is counted among the tokens, and so are the tokens of the document around it. -/
theorem IsLive.counts {content line result : Text} {own all : Nat}
    (live : IsLive content line result) (scannedLine : (scan line).map List.length = .ok own)
    (scannedResult : (scan result).map List.length = .ok all) :
    own ≤ all ∧ (result = content ∨ (scan content).map List.length = .ok (all - own)) := by
  obtain ⟨before, run, behind, whole⟩ := live
  rw [whole.scanned] at scannedResult
  rw [map_length_of_bare whole.same] at scannedLine
  obtain rfl := Except.ok.inj scannedResult
  obtain rfl := Except.ok.inj scannedLine
  rw [List.length_append, List.length_append]
  refine ⟨by omega, whole.kept.imp_right fun kept => ?_⟩
  rw [map_length_of_bare kept, List.length_append]
  congr 1
  omega

section Live

variable {content line front behind gap : Text} {own lexemes : List Lexeme}

/-- A statement that is written behind a text that stands is live. -/
theorem isLiveAt_of_standing (statement : Statement line own)
    (standing : Standing front lexemes gap)
    (paired : ∃ pairs, pairBrackets (tokensAt 0 lexemes) = .ok pairs) {others : List Token}
    (scannedBehind : scan behind = .ok others)
    (kept : (scan content).map (List.map Token.bare) =
      .ok ((tokensAt 0 lexemes ++ others).map Token.bare)) :
    IsLiveAt content line (front ++ (line ++ '\n' :: behind)) front.length := by
  have lineFeed : Trivia ['\n'] := .ofBlank rfl
  have moved := tokensFrom_moved scannedBehind (front.length + line.length + 1)
  refine ⟨tokensAt 0 lexemes, tokensAt front.length own,
    others.map (Token.moved (front.length + line.length + 1)), ⟨?_, statement.map_bare _, paired, .inr ?_⟩,
    statement.head_start _⟩
  · rw [standing.scan_append, statement.tokensFrom_append, ← List.singleton_append,
      tokensFrom_trivia lineFeed, List.length_singleton, moved]
    rfl
  · rw [kept, List.map_append, List.map_append, List.map_map]
    rfl

/-- Where a statement already stands it is live exactly if the document can be divided there. -/
theorem isLiveAt_iff_of_present (statement : Statement line own)
    (parts : content = front ++ (line ++ behind)) :
    IsLiveAt content line content front.length ↔ DividesAt content front.length := by
  subst parts
  constructor
  · rintro ⟨before, run, rest, live, starts⟩
    have same : run.map Token.bare = (tokensAt 0 own).map Token.bare :=
      (Except.ok.inj ((statement.map_bare 0).symm.trans live.same)).symm
    obtain ⟨⟨document, scannedFront, rfl⟩, others, scannedBehind, rfl, rfl⟩ :=
      statement.exists_parts live.scanned same starts live.outside
    refine ⟨document, tokensAt 0 own ++ others.map (Token.moved line.length), ?_, ?_, ?_⟩
    · rwa [List.take_left]
    · have behindLine := tokensFrom_moved scannedBehind line.length
      rw [List.drop_left, scan, statement.tokensFrom_append, Nat.zero_add, behindLine]
      rfl
    · rw [live.scanned, List.map_append, map_moved_tokensAt, List.map_map]
      simp only [Token.moved_comp]
      rfl
  · rintro ⟨document, back, scannedFront, scannedBack, whole⟩
    rw [List.take_left] at scannedFront
    rw [List.drop_left, scan, statement.tokensFrom_append] at scannedBack
    cases found : tokensFrom true (0 + line.length) behind with
    | error fault =>
        rw [found] at scannedBack
        cases scannedBack
    | ok others =>
        rw [found] at scannedBack
        obtain rfl := Except.ok.inj scannedBack
        rw [List.map_append, map_moved_tokensAt] at whole
        exact ⟨_, _, _, ⟨whole, statement.map_bare _, Document.exists_pairs scannedFront, .inl rfl⟩,
          statement.head_start _⟩

/-- A document stands before whatever follows on a new line. -/
theorem exists_standing_endLine {document : Document}
    (scanned : Document.ofText front = .ok document) :
    ∃ lexemes gap, Standing (endLine front) lexemes gap ∧
      document.tokens.toList = tokensAt 0 lexemes := by
  rw [endLine]
  split
  · next ended =>
      obtain ⟨lines, rfl⟩ := List.getLast?_eq_some_iff.mp ended
      obtain ⟨shorter, scannedLines, same⟩ := Document.exists_of_append_blanks scanned rfl
      rw [← same]
      exact Document.exists_standing scannedLines
  · exact Document.exists_standing scanned

/-- A line break and an indentation behind a document add no token. -/
theorem exists_of_endLine {indent : Text} {document : Document} (areBlank : isBlankText indent = true)
    (scanned : Document.ofText (endLine front ++ indent) = .ok document) :
    ∃ shorter, Document.ofText front = .ok shorter ∧
      shorter.tokens.toList = document.tokens.toList := by
  rcases endLine_eq front with same | same <;> rw [same] at scanned
  · exact Document.exists_of_append_blanks scanned areBlank
  · rw [List.append_assoc] at scanned
    refine Document.exists_of_append_blanks scanned ?_
    rw [isBlankText_append, areBlank]
    rfl

/-- A document in which a line is written is not the old one. -/
theorem ne_of_written (content line : Text) (place : Nat) (indent : Text) :
    (endLine (content.take place) ++ indent) ++ (line ++ '\n' :: content.drop place) ≠ content := by
  intro same
  have lengths := congrArg List.length same
  have parts := congrArg List.length (List.take_append_drop place content)
  rcases endLine_eq (content.take place) with closed | closed <;>
    simp only [closed, List.length_append, List.length_cons] at lengths parts <;> omega

/-- Where a statement was written it is live exactly if the document can be divided there. -/
theorem isLiveAt_iff_of_written (statement : Statement line own) {place : Nat} {indent : Text}
    (endsLine : content.drop place = [] ∨ (content.take place).getLast? = some '\n')
    (within : place ≤ content.length) (areBlank : isBlankText indent = true) :
    IsLiveAt content line
        ((endLine (content.take place) ++ indent) ++ (line ++ '\n' :: content.drop place))
        (endLine (content.take place) ++ indent).length ↔
      DividesAt content place := by
  have parts := List.take_append_drop place content
  have length : (content.take place).length = place := List.length_take_of_le within
  constructor
  · rintro ⟨before, run, rest, live, starts⟩
    have same : run.map Token.bare = (tokensAt 0 own).map Token.bare :=
      (Except.ok.inj ((statement.map_bare 0).symm.trans live.same)).symm
    obtain ⟨⟨document, scannedClosed, rfl⟩, others, scannedBehind, rfl, rfl⟩ :=
      statement.exists_parts live.scanned same starts live.outside
    obtain ⟨shorter, scannedFront, sameTokens⟩ := exists_of_endLine areBlank scannedClosed
    have lineFeed : Trivia ['\n'] := .ofBlank rfl
    rw [← List.singleton_append, scan, tokensFrom_trivia lineFeed] at scannedBehind
    obtain ⟨back, scannedBack, rfl⟩ := exists_scan_of_tokensFrom scannedBehind
    refine ⟨shorter, back, scannedFront, scannedBack, ?_⟩
    rcases endsLine with final | ended
    · rw [final, List.append_nil] at parts
      rw [final] at scannedBack
      obtain rfl : [] = back := Except.ok.inj
        ((tokensFrom_trailing (fun _ => skipTrivia_nil _) true 0).symm.trans scannedBack)
      rw [parts] at scannedFront
      rw [Document.scan_eq scannedFront]
      exact congrArg Except.ok (List.append_nil _).symm
    · obtain ⟨lexemes, gap, standing, tokens⟩ := exists_standing_endLine scannedFront
      rw [endLine, if_pos ended] at standing
      obtain ⟨whole, scanned, bareTokens⟩ := live.exists_kept (ne_of_written content line place indent)
      have apart := standing.scan_append_of_bare (by rw [parts]; exact scanned) scannedBack (by
        rw [bareTokens, ← tokens, sameTokens, List.map_append, List.map_append, List.map_map,
          List.map_map]
        rfl)
      rw [scanned, apart, length, tokens]
  · rintro ⟨document, back, scannedFront, scannedBack, whole⟩
    obtain ⟨lexemes, gap, standing, tokens⟩ := exists_standing_endLine scannedFront
    refine isLiveAt_of_standing statement (standing.append_blanks areBlank) ?_ scannedBack ?_
    · rw [← tokens]
      exact Document.exists_pairs scannedFront
    · rw [whole, ← tokens]
      refine congrArg Except.ok ?_
      rw [List.map_append, List.map_append, List.map_map]
      rfl

end Live

/-! ## The line in the document -/

section Document

variable {content name path : Text} {document : Document}

theorem lineEnd_closes (content : Text) (offset : Nat) :
    (content.drop (lineEnd content offset) = [] ∨
      (content.take (lineEnd content offset)).getLast? = some '\n') ∧
      lineEnd content offset ≤ content.length := by
  rw [lineEnd]
  split
  · next distance found =>
      obtain ⟨within, isFeed, -⟩ := List.findIdx?_eq_some_iff_getElem.mp found
      rw [List.length_drop] at within
      have isEnd : content[offset + distance] = '\n' := by
        simpa [isLineFeed] using isFeed
      refine ⟨.inr ?_, by omega⟩
      rw [List.getLast?_take, if_neg (by omega), Nat.add_sub_cancel,
        List.getElem?_eq_getElem (by omega), isEnd]
      rfl
  · exact ⟨.inl List.drop_length, Nat.le_refl _⟩

theorem insertionPoint_isOk (scanned : Document.ofText content = .ok document) :
    ∃ point, insertionPoint content = .ok point := by
  rw [insertionPoint, Document.forEdit_ok scanned]
  exact ⟨_, rfl⟩

/-- An import that is written at the top of a document is live. -/
theorem isLive_of_top (written : IsWritten name path)
    (scanned : Document.ofText content = .ok document)
    (absent : hasLine content (importLine name path) = false)
    (noImport : insertionPoint content = .ok none) :
    ∃ result, ensureHeaderLine content (importLine name path) = .ok result ∧
      IsLive content (importLine name path) result := by
  have nonempty := strip_importLine_ne_nil name path
  obtain ⟨lead, rest, rfl, areBlank, -, ensured⟩ := ensureHeaderLine_top nonempty absent noImport
  have scannedContent := Document.scan_eq scanned
  rw [scan, tokensFrom_trivia (.ofBlank areBlank)] at scannedContent
  obtain ⟨others, scannedRest, tokens⟩ := exists_scan_of_tokensFrom scannedContent
  have indented : isBlankText (lead ++ firstIndent (lead ++ rest)) = true := by
    rw [isBlankText_append, areBlank, isBlankText_firstIndent]
    rfl
  have standing : Standing (lead ++ firstIndent (lead ++ rest)) [] _ :=
    ⟨rfl, .ofBlank indented, fun _ => trivial⟩
  have live := isLiveAt_of_standing written.statement standing ⟨[], rfl⟩ scannedRest (by
    rw [Document.scan_eq scanned, tokens]
    exact congrArg Except.ok (List.map_map ..))
  rw [strip_importLine, ← List.append_assoc] at ensured
  exact ⟨_, ensured, live.isLive⟩

end Document

end Header

open Header

/-- An import line of a document that the scanner accepts stays as it is where it is present, and
is written into the document otherwise.  At the top it is live; where it is present, and behind
other imports, it is live exactly if the document can be divided there. -/
theorem ensureHeaderLine_live {content name path : Text} (accepted : checkBalanced content = .ok ())
    (written : IsWritten name path) :
    ∃ result, ensureHeaderLine content (importLine name path) = .ok result ∧
      (hasLine content (importLine name path) = true → result = content ∧
        (∃ front behind, content = front ++ (importLine name path ++ behind)) ∧
        ∀ front behind, content = front ++ (importLine name path ++ behind) →
          (IsLiveAt content (importLine name path) result front.length ↔
            DividesAt content front.length)) ∧
      (hasLine content (importLine name path) = false → insertionPoint content = .ok none →
        IsLive content (importLine name path) result) ∧
      ∀ place indent, hasLine content (importLine name path) = false →
        insertionPoint content = .ok (some (place, indent)) →
          (IsLiveAt content (importLine name path) result
              (endLine (content.take place) ++ indent).length ↔
            DividesAt content place) := by
  obtain ⟨document, scanned⟩ : ∃ document, Document.ofText content = .ok document := by
    rw [checkBalanced] at accepted
    cases scanned : Document.ofText content with
    | error fault =>
        rw [scanned] at accepted
        cases accepted
    | ok document => exact ⟨document, rfl⟩
  cases present : hasLine content (importLine name path) with
  | true =>
      have stands := exists_of_hasLine present
      rw [strip_importLine] at stands
      refine ⟨content, ensureHeaderLine_of_hasLine present, fun _ => ⟨rfl, stands,
        fun front behind parts => isLiveAt_iff_of_present written.statement parts⟩, ?_, ?_⟩
      · rintro ⟨⟩
      · rintro place indent ⟨⟩
  | false =>
      have nonempty := strip_importLine_ne_nil name path
      obtain ⟨point, found⟩ := insertionPoint_isOk scanned
      cases point with
      | none =>
          obtain ⟨result, ensured, live⟩ := isLive_of_top written scanned present found
          refine ⟨result, ensured, ?_, fun _ _ => live, ?_⟩
          · rintro ⟨⟩
          · rintro place indent - other
            rw [found] at other
            cases other
      | some point =>
          obtain ⟨ensured, areBlank, last, atEnd⟩ := ensureHeaderLine_behind nonempty present found
          rw [strip_importLine, ← List.append_assoc] at ensured
          refine ⟨_, ensured, ?_, ?_, ?_⟩
          · rintro ⟨⟩
          · rintro - other
            rw [found] at other
            cases other
          · rintro place indent - other
            rw [found] at other
            cases other
            obtain ⟨endsLine, within⟩ := lineEnd_closes content last
            rw [← atEnd] at endsLine within
            exact isLiveAt_iff_of_written written.statement endsLine within areBlank

/-- Behind another import a second one is live. -/
theorem ensureHeaderLine_live_second :
    checkBalanced "import A from './a.js';\nrun();\n".toList = .ok () ∧
      IsWritten "B".toList "./b.js".toList ∧
      ∃ result, ensureHeaderLine "import A from './a.js';\nrun();\n".toList
          (importLine "B".toList "./b.js".toList) = .ok result ∧
        IsLiveAt "import A from './a.js';\nrun();\n".toList
          (importLine "B".toList "./b.js".toList) result 24 := by
  have accepted : checkBalanced "import A from './a.js';\nrun();\n".toList = .ok () := by
    decide +kernel
  have written : IsWritten "B".toList "./b.js".toList :=
    ⟨by decide, by decide +kernel, by decide +kernel⟩
  have absent : hasLine "import A from './a.js';\nrun();\n".toList
      (importLine "B".toList "./b.js".toList) = false := by
    decide +kernel
  have place : insertionPoint "import A from './a.js';\nrun();\n".toList =
      .ok (some (24, [])) := by
    decide +kernel
  have divides : DividesAt "import A from './a.js';\nrun();\n".toList 24 := by
    decide +kernel
  refine ⟨accepted, written, ?_⟩
  obtain ⟨result, ensured, -, -, behind⟩ := ensureHeaderLine_live accepted written
  exact ⟨result, ensured, (behind 24 [] absent place).mpr divides⟩

/-- An import within a comment counts as present, and behind an import whose line ends within a
comment another one is written into the comment. -/
theorem ensureHeaderLine_hidden :
    (checkBalanced "/*\nimport A from './a.js';\n*/\n".toList = .ok () ∧
      ∃ result, ensureHeaderLine "/*\nimport A from './a.js';\n*/\n".toList
          (importLine "A".toList "./a.js".toList) = .ok result ∧
        ¬ IsLive "/*\nimport A from './a.js';\n*/\n".toList
          (importLine "A".toList "./a.js".toList) result) ∧
    checkBalanced "import A from './a.js'; /* first\n*/\n".toList = .ok () ∧
      ∃ result, ensureHeaderLine "import A from './a.js'; /* first\n*/\n".toList
          (importLine "B".toList "./b.js".toList) = .ok result ∧
        ¬ IsLive "import A from './a.js'; /* first\n*/\n".toList
          (importLine "B".toList "./b.js".toList) result := by
  refine ⟨⟨by decide +kernel, "/*\nimport A from './a.js';\n*/\n".toList, by decide +kernel,
    fun live => ?_⟩, by decide +kernel,
    "import A from './a.js'; /* first\nimport B from './b.js';\n*/\n".toList, by decide +kernel,
    fun live => ?_⟩
  · have counted := @IsLive.counts _ _ _ 5 0 live (by decide +kernel) (by decide +kernel)
    omega
  · have counted := @IsLive.counts _ _ _ 5 5 live (by decide +kernel) (by decide +kernel)
    rcases counted.2 with same | none
    · exact absurd same (by decide +kernel)
    · exact absurd none (by decide +kernel)

end EmbedScaffold
