import EmbedScaffold.Markup.ScriptBlock
import EmbedScaffold.Proofs.Text.Line

/-!
# Closing tags in texts that are put together

A script ends at the first closing tag behind its opening one.  A closing tag holds no opening
bracket but its first character, and no quote or semicolon, so a text is searched piece by piece if
it is cut in front of one of these: `bodyAndClosing?_append` says where the first closing tag of the
whole is.
-/

namespace EmbedScaffold

open Text

namespace Markup

/-! ## Characters of tags -/

/-- A character that the name of a closing tag holds behind its opening bracket. -/
def isTagPart (tested : Char) : Bool :=
  "/script".toList.any (matchesCaseless · tested)

/-- A text that completes no tag whose beginning stands in front of it. -/
structure Severs (rest : Text) : Prop where
  name : ∀ first ∈ rest.head?, isTagPart first = false
  bracket : (rest.dropWhile isBlank).head? ≠ some '>'

theorem toLower_of_isBlank {tested : Char} (blank : isBlank tested = true) :
    tested.toLower = tested := by
  have notUpper : ¬ (tested.val ≥ 'A'.val ∧ tested.val ≤ 'Z'.val) := by
    simp only [isBlank, Bool.or_eq_true, Bool.and_eq_true, decide_eq_true_eq, beq_iff_eq,
      Char.toNat] at blank
    simp only [ge_iff_le, UInt32.le_iff_toNat_le]
    intro ⟨low, high⟩
    have lowest : 'A'.val.toNat = 65 := rfl
    have highest : 'Z'.val.toNat = 90 := rfl
    omega
  delta Char.toLower
  rw [dif_neg notUpper]

theorem matchesCaseless_of_isBlank {wanted tested : Char} (solid : isBlank wanted = false)
    (blank : isBlank tested = true) : matchesCaseless wanted tested = false := by
  have apart {other : Char} (otherSolid : isBlank other = false) : tested ≠ other :=
    ne_of_isBlank blank otherSolid
  simp [matchesCaseless, toLower_of_isBlank blank, apart solid,
    apart (show isBlank 'ſ' = false from rfl), apart (show isBlank 'İ' = false from rfl),
    apart (show isBlank 'ı' = false from rfl)]

theorem isTagPart_of_isBlank {tested : Char} (blank : isBlank tested = true) :
    isTagPart tested = false := by
  rw [isTagPart, List.any_eq_false]
  intro wanted member
  have solid : isBlank wanted = false := by
    have all : "/script".toList.all (! isBlank ·) = true := by decide
    simpa using List.all_eq_true.mp all wanted member
  simp [matchesCaseless_of_isBlank solid blank]

namespace Severs

theorem nil : Severs [] :=
  ⟨by simp, by simp⟩

/-- A text that begins with a character that no tag goes on with. -/
theorem ofSolid {first : Char} {rest : Text} (solid : isBlank first = false)
    (noName : isTagPart first = false) (noBracket : first ≠ '>') : Severs (first :: rest) := by
  refine ⟨?_, ?_⟩
  · rintro _ ⟨⟩
    exact noName
  · rw [List.dropWhile_cons_of_neg (by simp [solid])]
    simpa using noBracket

theorem ofOpening (rest : Text) : Severs ('<' :: rest) :=
  ofSolid rfl (by decide) (by decide)

/-- A blank severs a tag unless the bracket that closes it is the next character but blanks. -/
theorem ofBlank {blank : Char} {rest : Text} (isBlankFirst : isBlank blank = true)
    (noBracket : (rest.dropWhile isBlank).head? ≠ some '>') : Severs (blank :: rest) := by
  refine ⟨?_, ?_⟩
  · rintro _ ⟨⟩
    exact isTagPart_of_isBlank isBlankFirst
  · rwa [List.dropWhile_cons_of_pos isBlankFirst]

theorem ofBlanks {blanks rest : Text} (areBlank : isBlankText blanks = true)
    (severs : Severs rest) : Severs (blanks ++ rest) := by
  induction blanks with
  | nil => exact severs
  | cons first others inductionHypothesis =>
      obtain ⟨firstBlank, othersBlank⟩ : isBlank first = true ∧ isBlankText others = true := by
        simpa [isBlankText] using areBlank
      exact ofBlank firstBlank (inductionHypothesis othersBlank).bracket

end Severs

/-! ## Matching at the front of a text -/

section Front

variable {wanted content rest behind : Text}

theorem dropExact?_eq_some : dropExact? wanted content = some behind ↔
    content = wanted ++ behind := by
  induction wanted generalizing content with
  | nil => simp [dropExact?]
  | cons expected others inductionHypothesis =>
      cases content with
      | nil => simp [dropExact?]
      | cons first more =>
          rw [dropExact?, List.cons_append, List.cons.injEq]
          split
          · next same => simp [same, inductionHypothesis]
          · next different => simp [Ne.symm different]

/-- A text without a character that goes on with the wanted one is of no use for it. -/
theorem dropCaseless?_append
    (apart : ∀ first ∈ rest.head?, ∀ expected ∈ wanted, matchesCaseless expected first = false) :
    dropCaseless? wanted (content ++ rest) = (dropCaseless? wanted content).map (· ++ rest) := by
  induction wanted generalizing content with
  | nil => rfl
  | cons expected others inductionHypothesis =>
      cases content with
      | nil =>
          cases rest with
          | nil => rfl
          | cons first more =>
              rw [List.nil_append, dropCaseless?, dropCaseless?,
                apart first rfl expected List.mem_cons_self]
              rfl
      | cons first more =>
          rw [List.cons_append, dropCaseless?, dropCaseless?]
          split
          · exact inductionHypothesis fun first member expected inside =>
              apart first member expected (List.mem_cons_of_mem _ inside)
          · rfl

/-- What was matched does not depend on what follows. -/
theorem exists_of_dropCaseless? (dropped : dropCaseless? wanted content = some behind) :
    ∃ front, content = front ++ behind ∧ front.length = wanted.length ∧
      ∀ other, dropCaseless? wanted (front ++ other) = some other := by
  induction wanted generalizing content with
  | nil =>
      cases dropped
      exact ⟨[], rfl, rfl, fun _ => rfl⟩
  | cons expected others inductionHypothesis =>
      cases content with
      | nil => cases dropped
      | cons first more =>
          rw [dropCaseless?] at dropped
          split at dropped
          · next same =>
              obtain ⟨front, rfl, length, again⟩ := inductionHypothesis dropped
              refine ⟨first :: front, rfl, congrArg (· + 1) length, fun other => ?_⟩
              rw [List.cons_append, dropCaseless?, if_pos same, again]
          · cases dropped

/-- What was matched holds only characters that match a wanted one. -/
theorem notMem_of_dropCaseless? {front : Text} {other : Char}
    (dropped : dropCaseless? wanted (front ++ rest) = some rest)
    (length : front.length = wanted.length)
    (apart : ∀ expected ∈ wanted, matchesCaseless expected other = false) : other ∉ front := by
  induction wanted generalizing front with
  | nil => simp [List.length_eq_zero_iff.mp length]
  | cons expected others inductionHypothesis =>
      cases front with
      | nil => simp
      | cons first more =>
          rw [List.cons_append, dropCaseless?] at dropped
          split at dropped
          · next same =>
              rw [List.mem_cons, not_or]
              refine ⟨?_, inductionHypothesis dropped (Nat.succ.inj length) fun wantedLater inside =>
                apart wantedLater (List.mem_cons_of_mem _ inside)⟩
              rintro rfl
              rw [apart expected List.mem_cons_self] at same
              cases same
          · cases dropped

theorem dropWhile_isBlank_append (severs : Severs rest) :
    dropExact? ['>'] ((content ++ rest).dropWhile isBlank) =
      (dropExact? ['>'] (content.dropWhile isBlank)).map (· ++ rest) := by
  rw [List.dropWhile_append]
  split
  · next emptied =>
      rw [List.isEmpty_iff.mp emptied]
      cases shape : rest.dropWhile isBlank with
      | nil => rfl
      | cons first more =>
          have noBracket := severs.bracket
          rw [shape] at noBracket
          have different : ¬ '>' = first := fun same => noBracket (by rw [← same]; rfl)
          simp [dropExact?, different]
  · next left =>
      cases shape : content.dropWhile isBlank with
      | nil => simp [shape] at left
      | cons first more =>
          by_cases same : '>' = first
          · subst same
            rfl
          · simp [dropExact?, same]

end Front

/-! ## Closing tags -/

section Closing

variable {content rest closing body : Text}

/-- Nothing but the bracket itself matches an opening bracket. -/
theorem eq_of_matchesCaseless_bracket {first : Char} (same : matchesCaseless '<' first = true) :
    first = '<' := by
  have lower : first.toLower = '<' := by simpa [matchesCaseless] using same
  delta Char.toLower at lower
  split at lower
  · next isUpper =>
      have code := congrArg (fun tested : Char => tested.val.toNat) lower
      simp only [ge_iff_le, UInt32.le_iff_toNat_le] at isUpper
      have lowest : 'A'.val.toNat = 65 := rfl
      have highest : 'Z'.val.toNat = 90 := rfl
      have bracket : '<'.val.toNat = 60 := rfl
      simp only [UInt32.toNat_add, bracket] at code
      have added : ('a'.val - 'A'.val).toNat = 32 := rfl
      omega
  · exact lower

theorem dropCaseless?_bracket_of_ne {first : Char} (different : first ≠ '<') (name rest : Text) :
    dropCaseless? ('<' :: name) (first :: rest) = none := by
  have noMatch : matchesCaseless '<' first = false :=
    Bool.eq_false_iff.mpr fun same => different (eq_of_matchesCaseless_bracket same)
  rw [dropCaseless?, noMatch, if_neg Bool.false_ne_true]

theorem closingTag?_cons_of_ne {first : Char} (different : first ≠ '<') (rest : Text) :
    closingTag? (first :: rest) = none := by
  rw [closingTag?, show "</script".toList = '<' :: "/script".toList from rfl,
    dropCaseless?_bracket_of_ne different]
  rfl

/-- What follows a closing tag in its text, given what follows its name. -/
theorem closingTag?_eq (content : Text) :
    closingTag? content =
      ((dropCaseless? "</script".toList content).bind fun behind =>
        dropExact? ['>'] (behind.dropWhile isBlank)).map fun rest =>
          content.take (content.length - rest.length) := by
  rw [closingTag?]
  cases dropCaseless? "</script".toList content with
  | none => rfl
  | some behind =>
      rw [Option.bind_some]
      cases ended : dropExact? ['>'] (behind.dropWhile isBlank) <;>
        simp [bind, ended]

theorem closingTag?_append (nonempty : content ≠ []) (severs : Severs rest) :
    closingTag? (content ++ rest) = closingTag? content := by
  obtain ⟨first, others, rfl⟩ := List.exists_cons_of_ne_nil nonempty
  by_cases isOpening : first = '<'
  · subst isOpening
    have apart : ∀ next ∈ rest.head?, ∀ expected ∈ "/script".toList,
        matchesCaseless expected next = false := by
      intro next member expected inside
      exact Bool.eq_false_iff.mpr (List.any_eq_false.mp (severs.name next member) expected inside)
    have dropped (content : Text) : dropCaseless? "</script".toList ('<' :: content) =
        dropCaseless? "/script".toList content := rfl
    rw [closingTag?_eq, closingTag?_eq, List.cons_append, dropped, dropped,
      dropCaseless?_append apart]
    cases dropCaseless? "/script".toList others with
    | none => rfl
    | some behind =>
        rw [Option.map_some, Option.bind_some, Option.bind_some, dropWhile_isBlank_append severs]
        cases dropExact? ['>'] (behind.dropWhile isBlank) with
        | none => rfl
        | some last =>
            rw [Option.map_some, Option.map_some, Option.map_some, ← List.cons_append,
              List.length_append, List.length_append, Nat.add_sub_add_right,
              List.take_append_of_le_length (Nat.sub_le _ _)]
  · rw [List.cons_append, closingTag?_cons_of_ne isOpening, closingTag?_cons_of_ne isOpening]

private theorem dropWhile_blanks {blanks : Text} (areBlank : isBlankText blanks = true)
    (rest : Text) : (blanks ++ '>' :: rest).dropWhile isBlank = '>' :: rest := by
  rw [List.dropWhile_append_of_pos (List.all_eq_true.mp areBlank)]
  rfl

/-- A name of a closing tag, blanks and a bracket are a closing tag, whatever follows it. -/
private theorem closingTag?_parts {name blanks : Text}
    (named : ∀ other, dropCaseless? "</script".toList (name ++ other) = some other)
    (areBlank : isBlankText blanks = true) (other : Text) :
    closingTag? (name ++ (blanks ++ ['>']) ++ other) = some (name ++ (blanks ++ ['>'])) := by
  have shape : name ++ (blanks ++ ['>']) ++ other = name ++ (blanks ++ '>' :: other) := by simp
  rw [closingTag?_eq, shape, named, Option.bind_some, dropWhile_blanks areBlank,
    show dropExact? ['>'] ('>' :: other) = some other from rfl, Option.map_some, ← shape,
    List.length_append, Nat.add_sub_cancel, List.take_left]

theorem closingTag?_script (other : Text) :
    closingTag? ("</script>".toList ++ other) = some "</script>".toList :=
  @closingTag?_parts "</script".toList [] (fun _ => rfl) rfl other

/-- A closing tag begins with its opening bracket, and is the same whatever follows it. -/
theorem exists_of_closingTag? (found : closingTag? content = some closing) :
    ∃ name rest, closing = '<' :: name ∧ content = closing ++ rest ∧
      ∀ other, closingTag? (closing ++ other) = some closing := by
  have whole := closingTag?_eq content
  rw [found] at whole
  obtain ⟨rest, ended, -⟩ := Option.map_eq_some_iff.mp whole.symm
  obtain ⟨behind, named, bracket⟩ := Option.bind_eq_some_iff.mp ended
  clear whole ended
  obtain ⟨front, rfl, length, again⟩ := exists_of_dropCaseless? named
  have areBlank : isBlankText (behind.takeWhile isBlank) = true := List.all_takeWhile
  have parts : behind = behind.takeWhile isBlank ++ '>' :: rest := by
    conv => lhs; rw [← List.takeWhile_append_dropWhile (p := isBlank) (l := behind)]
    rw [dropExact?_eq_some.mp bracket]
    rfl
  generalize behind.takeWhile isBlank = blanks at areBlank parts
  subst parts
  have shape : front ++ (blanks ++ '>' :: rest) = front ++ (blanks ++ ['>']) ++ rest := by simp
  rw [shape, closingTag?_parts again areBlank] at found
  obtain rfl := Option.some.inj found
  cases front with
  | nil => cases length
  | cons first others =>
      by_cases opening : first = '<'
      · exact ⟨others ++ (blanks ++ ['>']), rest, by rw [opening]; rfl, shape,
          closingTag?_parts again areBlank⟩
      · have tag := closingTag?_parts again areBlank []
        rw [List.cons_append, List.cons_append, closingTag?_cons_of_ne opening] at tag
        cases tag

/-! ## The first closing tag -/

/-- A closing tag behind a piece that holds none. -/
def behind (content : Text) (found : Text × Text) : Text × Text :=
  (content ++ found.1, found.2)

theorem bodyAndClosing?_cons (first : Char) (rest : Text) :
    bodyAndClosing? (first :: rest) =
      match closingTag? (first :: rest) with
      | some closing => some ([], closing)
      | none => (bodyAndClosing? rest).map fun (body, closing) => (first :: body, closing) := by
  rfl

theorem bodyAndClosing?_cons_of_ne {first : Char} (different : first ≠ '<') (rest : Text) :
    bodyAndClosing? (first :: rest) = (bodyAndClosing? rest).map (behind [first]) := by
  rw [bodyAndClosing?_cons, closingTag?_cons_of_ne different]
  rfl

theorem bodyAndClosing?_append_of_notMem (noBracket : '<' ∉ content) :
    bodyAndClosing? (content ++ rest) = (bodyAndClosing? rest).map (behind content) := by
  induction content with
  | nil =>
      rw [List.nil_append, show behind [] = id from rfl, Option.map_id, id]
  | cons first others inductionHypothesis =>
      rw [List.mem_cons, not_or] at noBracket
      rw [List.cons_append, bodyAndClosing?_cons_of_ne (Ne.symm noBracket.1),
        inductionHypothesis noBracket.2, Option.map_map]
      rfl

theorem bodyAndClosing?_append (severs : Severs rest) :
    bodyAndClosing? (content ++ rest) =
      (bodyAndClosing? content).or ((bodyAndClosing? rest).map (behind content)) := by
  induction content with
  | nil =>
      rw [List.nil_append, show bodyAndClosing? [] = none from rfl, Option.none_or]
      cases bodyAndClosing? rest <;> rfl
  | cons first others inductionHypothesis =>
      have tag : closingTag? (first :: others ++ rest) = closingTag? (first :: others) :=
        closingTag?_append (List.cons_ne_nil _ _) severs
      rw [List.cons_append] at tag
      rw [List.cons_append, bodyAndClosing?_cons, tag, bodyAndClosing?_cons]
      cases closingTag? (first :: others) with
      | some closing => rfl
      | none =>
          dsimp only
          rw [inductionHypothesis]
          cases bodyAndClosing? others with
          | some found => rfl
          | none => cases bodyAndClosing? rest <;> rfl

/-- A text without an opening bracket has no closing tag. -/
theorem bodyAndClosing?_of_notMem (absent : '<' ∉ content) : bodyAndClosing? content = none := by
  induction content with
  | nil => rfl
  | cons first others inductionHypothesis =>
      rw [List.mem_cons, not_or] at absent
      rw [bodyAndClosing?_cons_of_ne (Ne.symm absent.1), inductionHypothesis absent.2]
      rfl

theorem bodyAndClosing?_script (other : Text) :
    bodyAndClosing? ("</script>".toList ++ other) = some ([], "</script>".toList) := by
  have tag := closingTag?_script other
  rw [show "</script>".toList ++ other = '<' :: ("/script>".toList ++ other) from rfl] at tag ⊢
  rw [bodyAndClosing?_cons, tag]

theorem bodyAndClosing?_append_eq_none (severs : Severs rest) :
    bodyAndClosing? (content ++ rest) = none ↔
      bodyAndClosing? content = none ∧ bodyAndClosing? rest = none := by
  rw [bodyAndClosing?_append severs, Option.or_eq_none_iff, Option.map_eq_none_iff]

theorem bodyAndClosing?_eq_none_of_notMem (noBracket : '<' ∉ content) :
    bodyAndClosing? (content ++ rest) = none ↔ bodyAndClosing? rest = none := by
  rw [bodyAndClosing?_append_of_notMem noBracket, Option.map_eq_none_iff]

/-- The first closing tag of a text is the same whatever follows it. -/
theorem exists_of_bodyAndClosing? (found : bodyAndClosing? content = some (body, closing)) :
    ∃ name rest, closing = '<' :: name ∧ content = body ++ (closing ++ rest) ∧
      bodyAndClosing? body = none ∧
      ∀ other, bodyAndClosing? (closing ++ other) = some ([], closing) := by
  induction content generalizing body with
  | nil => cases found
  | cons first others inductionHypothesis =>
      rw [bodyAndClosing?_cons] at found
      cases tag : closingTag? (first :: others) with
      | some here =>
          rw [tag] at found
          cases found
          obtain ⟨name, rest, rfl, shape, again⟩ := exists_of_closingTag? tag
          refine ⟨name, rest, rfl, shape, rfl, fun other => ?_⟩
          have same := again other
          rw [List.cons_append] at same ⊢
          rw [bodyAndClosing?_cons, same]
      | none =>
          rw [tag] at found
          obtain ⟨⟨before, last⟩, later, same⟩ := Option.map_eq_some_iff.mp found
          cases same
          obtain ⟨name, rest, rfl, shape, absent, again⟩ := inductionHypothesis later
          refine ⟨name, rest, rfl, by rw [shape]; rfl, ?_, again⟩
          have within : closingTag? (first :: before) = none := by
            have severs : Severs (('<' :: name) ++ rest) := .ofOpening _
            rw [← closingTag?_append (List.cons_ne_nil first before) severs, List.cons_append,
              ← shape, tag]
          rw [bodyAndClosing?_cons, within, absent]
          rfl

/-- A text up to a place where no tag goes on has no closing tag if the whole has none. -/
theorem bodyAndClosing?_left (absent : bodyAndClosing? (content ++ rest) = none) :
    bodyAndClosing? content = none := by
  cases found : bodyAndClosing? content with
  | none => rfl
  | some pair =>
      obtain ⟨body, closing⟩ := pair
      obtain ⟨name, behindTag, rfl, rfl, noneBefore, again⟩ := exists_of_bodyAndClosing? found
      have severs : Severs ('<' :: name ++ (behindTag ++ rest)) := .ofOpening _
      rw [List.append_assoc, List.append_assoc, bodyAndClosing?_append severs, noneBefore,
        again] at absent
      cases absent

theorem bodyAndClosing?_right (absent : bodyAndClosing? (content ++ rest) = none) :
    bodyAndClosing? rest = none := by
  induction content with
  | nil => exact absent
  | cons first others inductionHypothesis =>
      apply inductionHypothesis
      rw [List.cons_append, bodyAndClosing?] at absent
      split at absent
      · cases absent
      · exact Option.map_eq_none_iff.mp absent

end Closing

end Markup

end EmbedScaffold
