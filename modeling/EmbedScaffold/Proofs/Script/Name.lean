import EmbedScaffold.Script.Name

/-!
# The parts of a name

A name is read part by part: a character that names can hold, or an escape of a code point.
`IsNameText` says so of a whole text, whatever follows it.
-/

namespace EmbedScaffold

open Text

namespace Script

/-! ## Escapes -/

/-- An escape of a code point. -/
inductive IsEscape : Text → Prop
  /-- Digits between braces. -/
  | braced {digits : Text} : digits ≠ [] → digits.all isHexDigit = true →
      IsEscape ("\\u\x7b".toList ++ (digits ++ ['\x7d']))
  /-- Four digits. -/
  | coded {digits : Text} : digits.length = 4 → digits.all isHexDigit = true →
      IsEscape ("\\u".toList ++ digits)

section Escape

variable {content digits rest : Text} {length : Nat}

theorem takeWhile_isHexDigit_brace (areDigits : digits.all isHexDigit = true) :
    (digits ++ '\x7d' :: rest).takeWhile isHexDigit = digits := by
  rw [List.takeWhile_append_of_pos (List.all_eq_true.mp areDigits),
    List.takeWhile_cons_of_neg (by decide), List.append_nil]

theorem IsEscape.codePointLength? {escape : Text} (isEscape : IsEscape escape) (rest : Text) :
    codePointLength? (escape ++ rest) = some escape.length := by
  cases isEscape with
  | @braced digits nonempty areDigits =>
      have shape : "\\u\x7b".toList ++ (digits ++ ['\x7d']) ++ rest =
          '\\' :: 'u' :: '\x7b' :: (digits ++ '\x7d' :: rest) := by simp
      have filled : digits.isEmpty = false := List.isEmpty_eq_false_iff.mpr nonempty
      rw [shape, Script.codePointLength?, takeWhile_isHexDigit_brace areDigits, filled, List.drop_left]
      simp only [Bool.not_false, List.head?_cons, decide_true, Bool.and_self, if_true,
        List.length_append, List.length_singleton]
      exact congrArg some (by rw [show "\\u\x7b".toList.length = 3 from rfl]; omega)
  | @coded digits four areDigits =>
      obtain ⟨first, others, rfl⟩ := List.exists_cons_of_ne_nil (l := digits) (by
        rintro rfl
        cases four)
      have notBrace : first ≠ '\x7b' := by
        rintro rfl
        exact absurd (List.all_eq_true.mp areDigits '\x7b' List.mem_cons_self) (by decide)
      have shape : "\\u".toList ++ (first :: others) ++ rest =
          '\\' :: 'u' :: first :: (others ++ rest) := by simp
      have enough : 4 ≤ ((first :: (others ++ rest)).takeWhile isHexDigit).length := by
        rw [← List.cons_append, List.takeWhile_append_of_pos (List.all_eq_true.mp areDigits),
          List.length_append, four]
        omega
      rw [shape, Script.codePointLength?, if_pos enough, List.length_append, four]
      · rfl
      · intro more same
        exact notBrace (List.cons.inj same).1

theorem exists_of_codePointLength? (found : codePointLength? content = some length) :
    ∃ escape rest, IsEscape escape ∧ content = escape ++ rest ∧ escape.length = length := by
  unfold codePointLength? at found
  split at found
  · next rest =>
      dsimp only at found
      split at found
      · next closed =>
          obtain rfl := Option.some.inj found
          simp only [Bool.and_eq_true, Bool.not_eq_true', decide_eq_true_eq] at closed
          obtain ⟨more, behind⟩ := List.head?_eq_some_iff.mp closed.2
          refine ⟨_, more, .braced (List.isEmpty_eq_false_iff.mp closed.1) List.all_takeWhile,
            ?_, ?_⟩
          · conv => lhs; rw [← List.take_append_drop (rest.takeWhile isHexDigit).length rest, behind]
            rw [← List.prefix_iff_eq_take.mp (List.takeWhile_prefix _)]
            simp
          · simp only [List.length_append, List.length_singleton]
            rw [show "\\u\x7b".toList.length = 3 from rfl]
            omega
      · cases found
  · next rest _ =>
      split at found
      · next enough =>
          obtain rfl := Option.some.inj found
          have prefixed : rest.take 4 = (rest.takeWhile isHexDigit).take 4 := by
            conv => lhs; rw [← List.takeWhile_append_dropWhile (p := isHexDigit) (l := rest)]
            rw [List.take_append_of_le_length enough]
          have length : (rest.take 4).length = 4 := by
            rw [prefixed, List.length_take_of_le enough]
          have areDigits : (rest.take 4).all isHexDigit = true := by
            rw [prefixed]
            exact List.all_eq_true.mpr fun tested member =>
              List.all_eq_true.mp List.all_takeWhile tested (List.mem_of_mem_take member)
          refine ⟨_, rest.drop 4, .coded length areDigits, ?_, by rw [List.length_append, length]; rfl⟩
          conv => lhs; rw [← List.take_append_drop 4 rest]
          rfl
      · cases found
  · cases found

end Escape

/-! ## Words that name nothing -/

/-- The words that name nothing, one by one. -/
theorem reservedNames_eq : reservedNames = [
    "break", "case", "catch", "class", "const", "continue", "debugger", "default", "delete", "do",
    "else", "export", "extends", "false", "finally", "for", "function", "if", "import", "in",
    "instanceof", "new", "null", "return", "super", "switch", "this", "throw", "true", "try",
    "typeof", "var", "void", "while", "with"] := by
  delta reservedNames
  rw [String.toList_ofList]
  decide +kernel

/-! ## Names -/

/-- A text of name characters and escapes. -/
inductive IsNameText : Text → Prop
  | nil : IsNameText []
  | part {first : Char} {rest : Text} : isNamePart first = true → IsNameText rest →
      IsNameText (first :: rest)
  | escape {escape rest : Text} : IsEscape escape → IsNameText rest → IsNameText (escape ++ rest)

section Name

variable {name rest : Text}

theorem namePartsLength_inside (inside rest : Text) :
    namePartsLength inside.length (inside ++ rest) = inside.length + namePartsLength 0 rest := by
  induction inside with
  | nil => rw [List.length_nil, List.nil_append, Nat.zero_add]
  | cons first others inductionHypothesis =>
      rw [List.length_cons, List.cons_append, namePartsLength, inductionHypothesis]
      omega

theorem namePartsLength_escape {escape : Text} (isEscape : IsEscape escape) (rest : Text) :
    namePartsLength 0 (escape ++ rest) = escape.length + namePartsLength 0 rest := by
  have found := isEscape.codePointLength? rest
  obtain ⟨others, rfl⟩ : ∃ others, escape = '\\' :: others := by
    cases isEscape <;> exact ⟨_, rfl⟩
  rw [List.length_cons] at found ⊢
  rw [List.cons_append] at found ⊢
  rw [namePartsLength, if_neg (by decide), found]
  dsimp only
  rw [namePartsLength_inside]
  omega

/-- A text whose parts take up all of it is a name. -/
theorem isNameText_of_length (whole : namePartsLength 0 name = name.length) : IsNameText name := by
  -- An escape is passed over as a whole, so the induction is on the length.
  induction size : name.length using Nat.strongRecOn generalizing name with
  | ind size' inductionHypothesis =>
      subst size
      cases name with
      | nil => exact .nil
      | cons first rest =>
          cases part : isNamePart first with
          | true =>
              rw [namePartsLength, if_pos part, List.length_cons] at whole
              exact .part part (inductionHypothesis _ (Nat.lt_succ_self _)
                (Nat.succ.inj whole) rfl)
          | false =>
              cases found : codePointLength? (first :: rest) with
              | none =>
                  rw [namePartsLength, if_neg (by simp [part]), found] at whole
                  cases whole
              | some length =>
                  obtain ⟨escape, behind, isEscape, shape, -⟩ := exists_of_codePointLength? found
                  rw [shape] at whole ⊢
                  rw [namePartsLength_escape isEscape, List.length_append] at whole
                  have positive : 0 < escape.length := by
                    cases isEscape <;> simp
                  refine .escape isEscape (inductionHypothesis behind.length ?_ (by omega) rfl)
                  have lengths := congrArg List.length shape
                  rw [List.length_append] at lengths
                  omega

theorem IsNameText.of_nameLength (whole : nameLength name = name.length) : IsNameText name := by
  rw [nameLength] at whole
  split at whole
  · rw [List.eq_nil_of_length_eq_zero whole.symm]
    exact .nil
  · exact isNameText_of_length whole

theorem IsNameText.namePartsLength_append (isName : IsNameText name)
    (ended : namePartsLength 0 rest = 0) : namePartsLength 0 (name ++ rest) = name.length := by
  induction isName with
  | nil => exact ended
  | part isPart _ inductionHypothesis =>
      rw [List.cons_append, namePartsLength, if_pos isPart, inductionHypothesis, List.length_cons]
  | escape isEscape _ inductionHypothesis =>
      rw [List.append_assoc, namePartsLength_escape isEscape, inductionHypothesis,
        List.length_append]

/-- A name holds nothing but name characters and the characters of escapes. -/
theorem IsNameText.notMem {other : Char} (isName : IsNameText name)
    (noPart : isNamePart other = false) (noDigit : isHexDigit other = false)
    (noSign : "\\u\x7b\x7d".toList.contains other = false) : other ∉ name := by
  obtain ⟨noSlash, noLetter, noOpening, noClosing⟩ :
      other ≠ '\\' ∧ other ≠ 'u' ∧ other ≠ '\x7b' ∧ other ≠ '\x7d' := by
    simpa using noSign
  have notDigit {digits : Text} (areDigits : digits.all isHexDigit = true) : other ∉ digits :=
    fun member => by
      rw [List.all_eq_true.mp areDigits other member] at noDigit
      cases noDigit
  induction isName with
  | nil => exact List.not_mem_nil
  | part isPart _ inductionHypothesis =>
      rw [List.mem_cons, not_or]
      refine ⟨?_, inductionHypothesis⟩
      rintro rfl
      rw [isPart] at noPart
      cases noPart
  | escape isEscape _ inductionHypothesis =>
      rw [List.mem_append, not_or]
      refine ⟨?_, inductionHypothesis⟩
      cases isEscape with
      | braced _ areDigits =>
          simp [noSlash, noLetter, noOpening, noClosing, notDigit areDigits]
      | coded _ areDigits => simp [noSlash, noLetter, notDigit areDigits]

end Name

end Script

end EmbedScaffold
