import EmbedScaffold.Registry.Header
import EmbedScaffold.Proofs.Text.Line

/-!
# Header lines on a line of their own

A header line is looked for among the lines of a document, blanks around each aside, and is written
between two of them.  So a document that got a header line has it from then on.
-/

namespace EmbedScaffold

open Text

namespace Text

/-! ## Lines under universal line breaks -/

/-- A text without a line break in it. -/
def isOneLine (content : Text) : Bool :=
  content.all (! isLineBreak ·)

/-- A text is empty or ends with a line break. -/
def ClosesLine (content : Text) : Prop :=
  ∀ last ∈ content.getLast?, isLineBreak last = true

section Lines

variable {first : Char} {content line rest : Text}

theorem splitLines_break (isBreak : isLineBreak first = true)
    (apart : first = '\r' → rest.head? ≠ some '\n') :
    splitLines (first :: rest) = [] :: splitLines rest := by
  rw [splitLines, if_pos isBreak]
  rintro more rfl rfl
  exact apart rfl rfl

theorem splitLines_solid (noBreak : isLineBreak first = false) :
    splitLines (first :: rest) =
      match splitLines rest with
      | [] => [[first]]
      | line :: others => (first :: line) :: others := by
  have noReturn : ∀ more, first = '\r' → rest = '\n' :: more → False := by
    rintro more rfl
    exact absurd noBreak (by decide)
  have goesOn : ¬ isLineBreak first = true := by simp [noBreak]
  exact (splitLines.eq_3 _ _ noReturn).trans (if_neg goesOn)

theorem splitLines_line (oneLine : isOneLine line = true) :
    splitLines (line ++ '\n' :: rest) = line :: splitLines rest := by
  induction line with
  | nil => exact splitLines_break (by decide) fun absurdity => absurd absurdity (by decide)
  | cons first others inductionHypothesis =>
      obtain ⟨noBreak, othersOneLine⟩ :
          isLineBreak first = false ∧ isOneLine others = true := by
        simpa [isOneLine] using oneLine
      rw [List.cons_append, splitLines_solid noBreak, inductionHypothesis othersOneLine]

theorem mem_tail_splitLines_solid (noBreak : isLineBreak first = false)
    (member : line ∈ (splitLines rest).tail) : line ∈ (splitLines (first :: rest)).tail := by
  rw [splitLines_solid noBreak]
  cases lines : splitLines rest with
  | nil =>
      rw [lines] at member
      cases member
  | cons opened others =>
      rw [lines] at member
      exact member

theorem ClosesLine.of_cons (closes : ClosesLine (first :: content)) : ClosesLine content := by
  intro last member
  apply closes
  rw [List.getLast?_cons, member]
  rfl

/-- The lines behind a line break are lines of the whole text. -/
theorem mem_splitLines_append (closes : ClosesLine content)
    (apart : rest.head? ≠ some '\n') (member : line ∈ splitLines rest) :
    line ∈ splitLines (content ++ rest) := by
  -- A line that is open at the front takes up the first line of what follows, so the line has to
  -- be a later one as soon as anything stands before it.
  have later : content ≠ [] → line ∈ (splitLines (content ++ rest)).tail := by
    induction content using splitLines.induct with
    | case1 => intro absurdity; exact absurd rfl absurdity
    | case2 behind inductionHypothesis =>
        intro _
        have same : splitLines ('\r' :: '\n' :: behind ++ rest) = [] :: splitLines (behind ++ rest) :=
          rfl
        rw [same, List.tail_cons]
        by_cases final : behind = []
        · subst final
          exact member
        · exact List.mem_of_mem_tail (inductionHypothesis closes.of_cons.of_cons final)
    | case3 first behind notPair isBreak inductionHypothesis =>
        intro _
        have follows : first = '\r' → (behind ++ rest).head? ≠ some '\n' := by
          intro isReturn
          cases behind with
          | nil => exact apart
          | cons second more =>
              intro same
              obtain rfl : second = '\n' := Option.some.inj same
              exact notPair more isReturn rfl
        rw [List.cons_append, splitLines_break isBreak follows, List.tail_cons]
        by_cases final : behind = []
        · subst final
          exact member
        · exact List.mem_of_mem_tail (inductionHypothesis closes.of_cons final)
    | case4 first behind notPair noBreak _ inductionHypothesis
    | case5 first behind notPair noBreak _ _ _ inductionHypothesis =>
        intro _
        have solid : isLineBreak first = false := by simpa using noBreak
        have final : behind ≠ [] := by
          rintro rfl
          rw [closes first rfl] at solid
          cases solid
        exact mem_tail_splitLines_solid solid (inductionHypothesis closes.of_cons final)
  by_cases empty : content = []
  · subst empty
    exact member
  · exact List.mem_of_mem_tail (later empty)

/-- Lines are stretches of the text, the first one from its front on. -/
theorem infix_of_splitLines : (∀ line ∈ (splitLines content).head?, line <+: content) ∧
    ∀ line ∈ splitLines content, line <:+: content := by
  induction content using splitLines.induct with
  | case1 => exact ⟨by simp [splitLines], by simp [splitLines]⟩
  | case2 behind inductionHypothesis =>
      have same : splitLines ('\r' :: '\n' :: behind) = [] :: splitLines behind := rfl
      rw [same]
      refine ⟨fun line member => ?_, fun line member => ?_⟩
      · cases member
        exact List.nil_prefix
      · rcases List.mem_cons.mp member with rfl | inside
        · exact List.nil_infix
        · exact List.infix_cons (List.infix_cons (inductionHypothesis.2 line inside))
  | case3 first behind notPair isBreak inductionHypothesis =>
      have apart : first = '\r' → behind.head? ≠ some '\n' := by
        intro isReturn isFeed
        obtain ⟨more, rfl⟩ := List.head?_eq_some_iff.mp isFeed
        exact notPair more isReturn rfl
      rw [splitLines_break isBreak apart]
      refine ⟨fun line member => ?_, fun line member => ?_⟩
      · cases member
        exact List.nil_prefix
      · rcases List.mem_cons.mp member with rfl | inside
        · exact List.nil_infix
        · exact List.infix_cons (inductionHypothesis.2 line inside)
  | case4 first behind notPair noBreak last inductionHypothesis =>
      rw [splitLines_solid (Bool.eq_false_iff.mpr noBreak), last]
      have whole : [first] <+: first :: behind := List.prefix_append [first] behind
      exact ⟨fun line member => by cases member; exact whole, fun line member => by
        rw [List.mem_singleton.mp member]
        exact whole.isInfix⟩
  | case5 first behind notPair noBreak opened others lines inductionHypothesis =>
      rw [lines] at inductionHypothesis
      rw [splitLines_solid (Bool.eq_false_iff.mpr noBreak), lines]
      have whole : first :: opened <+: first :: behind :=
        (List.prefix_cons_inj first).mpr (inductionHypothesis.1 opened rfl)
      refine ⟨fun line member => by cases member; exact whole, fun line member => ?_⟩
      rcases List.mem_cons.mp member with rfl | inside
      · exact whole.isInfix
      · exact List.infix_cons (inductionHypothesis.2 line (List.mem_cons_of_mem _ inside))

theorem infix_of_strip (content : Text) : strip content <:+: content := by
  obtain ⟨tail, -, parts⟩ := trimEnd_append_tail isBlank (trimStart isBlank content)
  have upToTail : strip content <+: trimStart isBlank content := ⟨tail, parts.symm⟩
  exact upToTail.isInfix.trans (List.dropWhile_suffix isBlank).isInfix

theorem ClosesLine.append {more : Text} (closes : ClosesLine content)
    (moreCloses : ClosesLine more) : ClosesLine (content ++ more) := by
  intro last member
  rw [List.getLast?_append] at member
  cases ended : more.getLast? with
  | none => exact closes last (by simpa [ended] using member)
  | some final => exact moreCloses last (by simpa [ended] using member)

/-- A text up to its last line break, and what is open behind it. -/
theorem exists_closesLine_append (content : Text) :
    ∃ front back, content = front ++ back ∧ ClosesLine front ∧ isOneLine back = true := by
  induction content with
  | nil => exact ⟨[], [], rfl, by simp [ClosesLine], rfl⟩
  | cons first others inductionHypothesis =>
      obtain ⟨front, back, rfl, closes, oneLine⟩ := inductionHypothesis
      by_cases empty : front = []
      · subst empty
        cases isBreak : isLineBreak first with
        | true => exact ⟨[first], back, rfl, by simpa [ClosesLine] using isBreak, oneLine⟩
        | false => exact ⟨[], first :: back, rfl, by simp [ClosesLine], by
            simpa [isOneLine, isBreak] using oneLine⟩
      · refine ⟨first :: front, back, rfl, ?_, oneLine⟩
        intro last member
        rw [List.getLast?_cons_of_ne_nil empty] at member
        exact closes last member

end Lines

end Text

namespace Header

/-! ## Import lines -/

/-- One line that is an import statement: it begins with the keyword and is not open at its end. -/
structure IsImportLine (line : Text) : Prop where
  oneLine : isOneLine line = true
  keyword : "import".toList <+: line
  ended : line.getLast?.any ";'\"\x7d".toList.contains = true

namespace IsImportLine

variable {line : Text}

theorem exists_last (isImport : IsImportLine line) :
    ∃ statement last, line = statement ++ [last] ∧ ";'\"\x7d".toList.contains last = true := by
  have ended := isImport.ended
  rcases List.eq_nil_or_concat line with rfl | ⟨statement, last, rfl⟩
  · simp at ended
  · exact ⟨statement, last, List.concat_eq_append, by simpa using ended⟩

theorem ne_nil (isImport : IsImportLine line) : line ≠ [] := by
  obtain ⟨rest, begins⟩ := isImport.keyword
  rw [← begins]
  exact List.cons_ne_nil _ _

theorem isBlankText_eq (isImport : IsImportLine line) : isBlankText line = false := by
  obtain ⟨rest, begins⟩ := isImport.keyword
  rw [← begins]
  rfl

theorem strip_eq (isImport : IsImportLine line) : strip line = line := by
  obtain ⟨rest, begins⟩ := isImport.keyword
  obtain ⟨statement, final, ends, isEnd⟩ := isImport.exists_last
  refine strip_of_solid begins.symm rfl fun last isLast => ?_
  rw [ends, List.getLast?_concat] at isLast
  obtain rfl := Option.some.inj isLast
  have solid : ";'\"\x7d".toList.all (! isBlank ·) = true := by decide
  simpa using List.all_eq_true.mp solid final (List.contains_iff_mem.mp isEnd)

end IsImportLine

/-! ## The line among the lines of a document -/

section Insertion

variable {content line result : Text}

/-- A line that is found stands somewhere in the document. -/
theorem exists_of_hasLine (present : hasLine content line = true) :
    ∃ front behind, content = front ++ (strip line ++ behind) := by
  rw [hasLine, List.any_eq_true] at present
  obtain ⟨existing, member, same⟩ := present
  obtain ⟨front, behind, parts⟩ := (infix_of_strip existing).trans (infix_of_splitLines.2 existing member)
  rw [of_decide_eq_true same, List.append_assoc] at parts
  exact ⟨front, behind, parts.symm⟩

/-- A line that stands on a line of its own is found. -/
theorem hasLine_written (isImport : IsImportLine (strip line)) {front indent : Text}
    (closes : ClosesLine front) (areBlank : isBlankText indent = true) (behind : Text) :
    hasLine (front ++ (indent ++ (strip line ++ '\n' :: behind))) line = true := by
  obtain ⟨upToBreak, back, rfl, upToBreakCloses, oneLine⟩ := exists_closesLine_append indent
  rw [isBlankText_append, Bool.and_eq_true] at areBlank
  obtain ⟨rest, keyword⟩ := isImport.keyword
  have written : back ++ strip line ∈ splitLines (back ++ (strip line ++ '\n' :: behind)) := by
    have wholeLine : isOneLine (back ++ strip line) = true := by
      rw [isOneLine, List.all_append, Bool.and_eq_true]
      exact ⟨oneLine, isImport.oneLine⟩
    rw [← List.append_assoc, splitLines_line wholeLine]
    exact List.mem_cons_self
  have apart : (back ++ (strip line ++ '\n' :: behind)).head? ≠ some '\n' := by
    cases back with
    | nil =>
        rw [← keyword]
        intro same
        cases same
    | cons first others =>
        rintro same
        obtain rfl := Option.some.inj same
        exact absurd oneLine (by simp [isOneLine, show isLineBreak '\n' = true from rfl])
  have member := mem_splitLines_append (closes.append upToBreakCloses) apart written
  rw [hasLine, List.any_eq_true]
  refine ⟨_, by simpa using member, decide_eq_true ?_⟩
  rw [strip_append_of_isBlankText areBlank.2, isImport.strip_eq]

/-! ## Where the line is written -/

theorem closesLine_endLine (content : Text) : ClosesLine (endLine content) := by
  intro last member
  rw [endLine] at member
  split at member
  · next ended =>
      rw [ended] at member
      cases member
      rfl
  · rw [List.getLast?_concat] at member
    cases member
    rfl

theorem isBlankText_firstIndent (content : Text) : isBlankText (firstIndent content) = true := by
  rw [firstIndent]
  split
  · exact List.all_takeWhile
  · rfl

/-- Without an import statement the line is written at the top, behind line breaks. -/
theorem ensureHeaderLine_top (nonempty : strip line ≠ []) (absent : hasLine content line = false)
    (noImport : insertionPoint content = .ok none) :
    ∃ lead rest, content = lead ++ rest ∧ isBlankText lead = true ∧ ClosesLine lead ∧
      ensureHeaderLine content line =
        .ok (lead ++ (firstIndent content ++ (strip line ++ '\n' :: rest))) := by
  let lead := content.takeWhile fun tested => tested == '\r' || tested == '\n'
  have leads : content.take lead.length = lead :=
    (List.prefix_iff_eq_take.mp (List.takeWhile_prefix _)).symm
  have areBreaks : ∀ tested ∈ lead, tested = '\r' ∨ tested = '\n' := by
    intro tested member
    simpa using List.all_eq_true.mp (List.all_takeWhile (l := content)) tested member
  refine ⟨lead, content.drop lead.length, ?_, ?_, ?_, ?_⟩
  · conv => lhs; rw [← List.take_append_drop lead.length content, leads]
  · refine List.all_eq_true.mpr fun tested member => ?_
    rcases areBreaks tested member with rfl | rfl <;> rfl
  · intro last member
    rcases areBreaks last (List.mem_of_getLast? member) with rfl | rfl <;> rfl
  · rw [ensureHeaderLine, absent, Bool.or_false, if_neg (by simpa using nonempty), noImport]
    simp only [bind, Except.bind, pure, Except.pure, Except.ok.injEq, List.append_assoc,
      List.singleton_append]
    exact congrArg (· ++ _) leads

/-- With import statements the line is written behind the line of the last one, and is indented
like it. -/
theorem ensureHeaderLine_behind {offset : Nat} {indent : Text} (nonempty : strip line ≠ [])
    (absent : hasLine content line = false)
    (place : insertionPoint content = .ok (some (offset, indent))) :
    ensureHeaderLine content line =
      .ok (endLine (content.take offset) ++ (indent ++ (strip line ++ '\n' :: content.drop offset)))
      ∧ isBlankText indent = true ∧ ∃ last, offset = lineEnd content last := by
  constructor
  · rw [ensureHeaderLine, absent, Bool.or_false, if_neg (by simpa using nonempty), place]
    simp [bind, Except.bind, pure, Except.pure]
  · rw [insertionPoint] at place
    cases read : Document.forEdit content with
    | error fault =>
        rw [read] at place
        cases place
    | ok document =>
        rw [read] at place
        obtain ⟨last, _, same⟩ := Option.map_eq_some_iff.mp (Except.ok.inj place)
        cases same
        exact ⟨(leadingIndent_blank _).1, last, rfl⟩

theorem endLine_eq (content : Text) :
    endLine content = content ∨ endLine content = content ++ ['\n'] := by
  rw [endLine]
  split
  · exact .inl rfl
  · exact .inr rfl

/-- A document that lacks a line gets it on a line of its own. -/
theorem exists_written (ensured : ensureHeaderLine content line = .ok result)
    (nonempty : strip line ≠ []) (absent : hasLine content line = false) :
    ∃ front closed indent behind, content = front ++ behind ∧
      (closed = front ∨ closed = front ++ ['\n']) ∧ ClosesLine closed ∧
      isBlankText indent = true ∧ result = closed ++ (indent ++ (strip line ++ '\n' :: behind)) := by
  cases place : insertionPoint content with
  | error fault =>
      rw [ensureHeaderLine, absent, Bool.or_false, if_neg (by simpa using nonempty), place] at ensured
      cases ensured
  | ok point =>
      cases point with
      | none =>
          obtain ⟨lead, rest, parts, -, closes, written⟩ :=
            ensureHeaderLine_top nonempty absent place
          rw [written] at ensured
          exact ⟨lead, lead, firstIndent content, rest, parts, .inl rfl, closes,
            isBlankText_firstIndent content, (Except.ok.inj ensured).symm⟩
      | some found =>
          obtain ⟨offset, indent⟩ := found
          obtain ⟨written, blank, -⟩ := ensureHeaderLine_behind nonempty absent place
          rw [written] at ensured
          exact ⟨content.take offset, endLine (content.take offset), indent, content.drop offset,
            (List.take_append_drop _ _).symm, endLine_eq _, closesLine_endLine _, blank,
            (Except.ok.inj ensured).symm⟩

end Insertion

end Header

theorem ensureHeaderLine_of_hasLine {content line : Text}
    (present : Header.hasLine content line = true) : ensureHeaderLine content line = .ok content := by
  rw [ensureHeaderLine, present]
  simp only [Bool.or_true, if_true]
  rfl

theorem isBlankText_ensureHeaderLine {content line result : Text}
    (isImport : Header.IsImportLine (strip line)) (filled : isBlankText content = false)
    (ensured : ensureHeaderLine content line = .ok result) : isBlankText result = false := by
  cases absent : Header.hasLine content line with
  | true =>
      rw [ensureHeaderLine_of_hasLine absent] at ensured
      rw [← Except.ok.inj ensured, filled]
  | false =>
      obtain ⟨front, closed, indent, behind, rfl, -, -, -, rfl⟩ :=
        Header.exists_written ensured isImport.ne_nil absent
      simp only [isBlankText_append, isImport.isBlankText_eq, Bool.false_and, Bool.and_false]

/-- A document that got an import line has it. -/
theorem hasLine_of_ensureHeaderLine {content line result : Text}
    (isImport : Header.IsImportLine (strip line))
    (ensured : ensureHeaderLine content line = .ok result) : Header.hasLine result line = true := by
  cases absent : Header.hasLine content line with
  | true =>
      rw [ensureHeaderLine_of_hasLine absent] at ensured
      rw [← Except.ok.inj ensured, absent]
  | false =>
      obtain ⟨front, closed, indent, behind, rfl, -, closes, areBlank, rfl⟩ :=
        Header.exists_written ensured isImport.ne_nil absent
      exact Header.hasLine_written isImport closes areBlank behind

end EmbedScaffold
