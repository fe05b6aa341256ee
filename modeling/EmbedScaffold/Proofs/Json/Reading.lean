import EmbedScaffold.Json.Reader
import EmbedScaffold.Literal.Basic
import EmbedScaffold.Proofs.Script.Plain
import Mathlib.Data.List.DropRight

/-!
# Reading laid-out JSON

What is written line by line, with strings, numbers, lists and groups, is read back wherever a line
goes on behind it.  A number with too many digits is the one thing that is written and not read.
-/

namespace EmbedScaffold

open Text Literal

namespace JsonValue

/-! ## Strings -/

theorem fourDigits?_hexDigits {code : Nat} (small : code < 0x20) :
    (hexDigits 4 code).length = 4 ∧ fourDigits? (hexDigits 4 code) = some code := by
  have all : ∀ code ∈ List.range 0x20,
      (hexDigits 4 code).length = 4 ∧ fourDigits? (hexDigits 4 code) = some code := by
    decide
  exact all code (List.mem_range.mpr small)

/-- A character is escaped by a letter or by its code, unless it stands for itself. -/
theorem escapeJsonChar_cases (escaped : Char) :
    (∃ letter, escapeJsonChar escaped = ['\\', letter] ∧ letter ≠ 'u' ∧
        escaped? letter = some escaped) ∨
      (escapeJsonChar escaped = '\\' :: 'u' :: hexDigits 4 escaped.toNat ∧
        escaped.toNat < 0x20) ∨
      (escapeJsonChar escaped = [escaped] ∧ escaped ≠ '"' ∧ escaped ≠ '\\' ∧
        0x20 ≤ escaped.toNat) := by
  rw [escapeJsonChar]
  split_ifs with quote slash feed carriage tab back form control
  all_goals
    first
    | exact .inr (.inl ⟨rfl, control⟩)
    | exact .inr (.inr ⟨rfl, quote, slash, Nat.le_of_not_lt control⟩)
    | subst escaped
      exact .inl ⟨_, rfl, by decide, by decide⟩

section Strings

variable (rules : JsonRules) (rest : Text)

theorem stringRest?_short {letter escaped : Char} (short : letter ≠ 'u')
    (read : escaped? letter = some escaped) :
    stringRest? rules 0 ('\\' :: letter :: rest) =
      (stringRest? rules 0 rest).map fun found => (escaped :: found.1, found.2) := by
  rw [stringRest?, if_neg (by decide), if_neg (by decide), if_pos rfl]
  simp only [List.head?_cons, bind, Option.bind, if_neg short, read, stringRest?]
  cases stringRest? rules 0 rest <;> rfl

theorem stringRest?_long {first second third fourth : Char} {code : Nat}
    (digits : fourDigits? [first, second, third, fourth] = some code) (small : code < 0xD800) :
    stringRest? rules 0 ('\\' :: 'u' :: first :: second :: third :: fourth :: rest) =
      (stringRest? rules 0 rest).map fun found => (Char.ofNat code :: found.1, found.2) := by
  have read : longEscape? rules (first :: second :: third :: fourth :: rest) =
      some (Char.ofNat code, 4) := by
    have whole : fourDigits? (first :: second :: third :: fourth :: rest) = some code := digits
    rw [longEscape?, whole]
    simp only [Option.bind_eq_bind, Option.bind_some]
    rw [if_neg (by simp; omega), if_neg (by simp; omega)]
  rw [stringRest?, if_neg (by decide), if_neg (by decide), if_pos rfl]
  simp only [List.head?_cons, bind, Option.bind, if_true, List.drop_succ_cons, List.drop_zero, read,
    stringRest?]
  cases stringRest? rules 0 rest <;> rfl

theorem stringRest?_plain {escaped : Char} (noQuote : escaped ≠ '"') (noEscape : escaped ≠ '\\')
    (noControl : 0x20 ≤ escaped.toNat) :
    stringRest? rules 0 (escaped :: rest) =
      (stringRest? rules 0 rest).map fun found => (escaped :: found.1, found.2) := by
  rw [stringRest?, if_neg noQuote, if_neg (Nat.not_lt.mpr noControl), if_neg noEscape]
  cases stringRest? rules 0 rest <;> rfl

/-- The escape of a character is read as the character. -/
theorem stringRest?_escapeJsonChar (escaped : Char) :
    stringRest? rules 0 (escapeJsonChar escaped ++ rest) =
      (stringRest? rules 0 rest).map fun found => (escaped :: found.1, found.2) := by
  rcases escapeJsonChar_cases escaped with
    ⟨letter, shown, short, read⟩ | ⟨shown, control⟩ | ⟨shown, noQuote, noEscape, noControl⟩
  · rw [shown]
    exact stringRest?_short rules rest short read
  · obtain ⟨length, digits⟩ := fourDigits?_hexDigits control
    rw [shown]
    match hexDigits 4 escaped.toNat, length, digits with
    | [first, second, third, fourth], _, digits =>
        have read := stringRest?_long rules rest digits (Nat.lt_trans control (by decide))
        rwa [Char.ofNat_toNat] at read
  · rw [shown]
    exact stringRest?_plain rules rest noQuote noEscape noControl

theorem stringRest?_flatMap (content : Text) :
    stringRest? rules 0 (content.flatMap escapeJsonChar ++ '"' :: rest) =
      some (content, rest) := by
  induction content with
  | nil => rfl
  | cons first others inductionHypothesis =>
      rw [List.flatMap_cons, List.append_assoc, stringRest?_escapeJsonChar, inductionHypothesis]
      rfl

end Strings

/-! ## Values -/

/-- Where a written value is read, a line goes on behind it: with a comma or a line feed. -/
def GoesOn (rest : Text) : Prop :=
  ∀ next ∈ rest.head?, next = ',' ∨ next = '\n'

/-- A written value is read with a result, wherever a line goes on behind it and so many levels may
still be nested. -/
def ReadsAs (rules : JsonRules) (levels : Nat) (shown : Text)
    (result : Except JsonFault JsonValue) : Prop :=
  ∀ room fuel rest, levels ≤ room → shown.length ≤ fuel → GoesOn rest →
    value rules room fuel (shown ++ rest) = result.map (·, rest)

theorem ReadsAs.mono {rules : JsonRules} {levels more : Nat} {shown : Text}
    {result : Except JsonFault JsonValue} (reads : ReadsAs rules levels shown result)
    (further : levels ≤ more) : ReadsAs rules more shown result :=
  fun room fuel rest within => reads room fuel rest (Nat.le_trans further within)

section Blanks

variable (rules : JsonRules) (room fuel : Nat)

theorem skip_skip (content : Text) : skip (skip content) = skip content :=
  List.dropWhile_idempotent ..

theorem skip_append {gap : Text} (blank : gap.all isSpace = true) (content : Text) :
    skip (gap ++ content) = skip content := by
  rw [skip, List.dropWhile_append_of_pos (List.all_eq_true.mp blank), skip]

/-- A value is read alike behind the same blanks or others. -/
theorem value_skip {content other : Text} (same : skip content = skip other) :
    value rules room fuel content = value rules room fuel other := by
  cases fuel with
  | zero => rfl
  | succ fuel => rw [value, value, same]

theorem items_skip {content other : Text} (same : skip content = skip other) :
    items rules room fuel content = items rules room fuel other := by
  cases fuel with
  | zero => rfl
  | succ fuel => rw [items, items, value_skip rules room fuel same]

theorem members_skip {content other : Text} (same : skip content = skip other) :
    members rules room fuel content = members rules room fuel other := by
  cases fuel with
  | zero => rfl
  | succ fuel => rw [members, members, same]

end Blanks

section Scalars

variable {rules : JsonRules} {rest : Text}

theorem value_text (room fuel : Nat) (rest : Text) :
    value rules room (fuel + 1) ('"' :: rest) =
      (orMalformed (stringRest? rules 0 rest)).map fun found => (.text found.1, found.2) := by
  rw [value]
  rfl

theorem ReadsAs.text (content : Text) :
    ReadsAs rules 0 (jsonString content) (.ok (.text content)) := by
  intro room fuel rest _ long _
  cases fuel with
  | zero => cases long
  | succ fuel =>
      have parts : jsonString content ++ rest =
          '"' :: (content.flatMap escapeJsonChar ++ '"' :: rest) := by
        simp [jsonString]
      rw [parts, value_text, stringRest?_flatMap]
      rfl

theorem ReadsAs.truth (given : Bool) :
    ReadsAs rules 0 (if given then "true".toList else "false".toList) (.ok (.boolean given)) := by
  intro room fuel rest _ long _
  cases fuel with
  | zero => cases given <;> cases long
  | succ fuel => cases given <;> rfl

theorem value_digit {first : Char} (isDigit : first.isDigit = true) (room fuel : Nat) :
    value rules room (fuel + 1) (first :: rest) = number false (first :: rest) := by
  have apart {other : Char} (noDigit : other.isDigit = false) : first ≠ other := by
    rintro rfl
    rw [isDigit] at noDigit
    cases noDigit
  have solid : isSpace first = false := by
    simp [isSpace, apart (show ' '.isDigit = false from rfl), apart (show '\t'.isDigit = false from rfl),
      apart (show '\n'.isDigit = false from rfl), apart (show '\r'.isDigit = false from rfl)]
  have skipped : skip (first :: rest) = first :: rest := by
    rw [skip, List.dropWhile_cons, solid]
    rfl
  have behind {mark : Char} {others : Text} (noDigit : mark.isDigit = false) :
      behind? (mark :: others) (first :: rest) = none := by
    rw [behind?, if_neg (Ne.symm (apart noDigit))]
  have noWord : word? (first :: rest) = none := by
    rw [word?, List.findSome?_eq_none_iff]
    intro entry among
    simp only [List.mem_cons, List.not_mem_nil, or_false] at among
    rcases among with rfl | rfl | rfl | rfl | rfl | rfl <;>
      exact Option.map_eq_none_iff.mpr (behind rfl)
  rw [value, skipped]
  split
  · next same => exact absurd (List.cons.inj same).1 (apart rfl)
  · next same => exact absurd (List.cons.inj same).1 (apart rfl)
  · next same => exact absurd (List.cons.inj same).1 (apart rfl)
  · rw [noWord]
    dsimp only
    split
    · next same => exact absurd (List.cons.inj same).1 (apart rfl)
    · rfl

theorem splitDigits_append {digits : Text} (areDigits : ∀ digit ∈ digits, digit.isDigit = true)
    (goesOn : GoesOn rest) : splitDigits (digits ++ rest) = (digits, rest) := by
  have stops : rest.takeWhile Char.isDigit = [] ∧ rest.dropWhile Char.isDigit = rest := by
    cases rest with
    | nil => exact ⟨rfl, rfl⟩
    | cons next others => rcases goesOn next rfl with rfl | rfl <;> exact ⟨rfl, rfl⟩
  rw [splitDigits, List.takeWhile_append_of_pos areDigits, List.dropWhile_append_of_pos areDigits,
    stops.1, stops.2, List.append_nil]

theorem fractionPart?_of_goesOn (goesOn : GoesOn rest) : fractionPart? rest = some ([], rest) := by
  cases rest with
  | nil => rfl
  | cons next others => rcases goesOn next rfl with rfl | rfl <;> rfl

theorem exponentPart?_of_goesOn (goesOn : GoesOn rest) : exponentPart? rest = some ([], rest) := by
  cases rest with
  | nil => rfl
  | cons next others => rcases goesOn next rfl with rfl | rfl <;> rfl

/-- What is read of a natural number: one with too many digits is refused. -/
def readNatural (given : Nat) : Except JsonFault JsonValue :=
  if longestInteger < (ofNat given).length then .error (.longInteger (ofNat given).length)
  else .ok (.integer given)

theorem number_ofNat {given : Nat} (positive : 0 < given) (goesOn : GoesOn rest) :
    number false (ofNat given ++ rest) = (readNatural given).map (·, rest) := by
  have notEmpty : (ofNat given).isEmpty = false := by
    rw [List.isEmpty_eq_false_iff]
    exact Nat.toDigits_ne_nil
  have leads : (decide ((ofNat given).length ≤ 1) || (ofNat given).head? ≠ some '0') = true := by
    simp [head?_ofNat_ne positive]
  rw [number, splitDigits_append (fun _ => isDigit_of_mem_ofNat) goesOn]
  dsimp only
  rw [notEmpty, leads, if_neg (by decide), fractionPart?_of_goesOn goesOn]
  simp only [orMalformed, bind, Except.bind]
  rw [exponentPart?_of_goesOn goesOn]
  simp only [List.isEmpty_nil, Bool.and_self, if_true, Script.digitsValue_ofNat, readNatural,
    Bool.false_eq_true, if_false]
  split_ifs <;> rfl

theorem ReadsAs.natural {given : Nat} (positive : 0 < given) :
    ReadsAs rules 0 (ofNat given) (readNatural given) := by
  intro room fuel rest _ long goesOn
  obtain ⟨first, others, digits⟩ := List.exists_cons_of_ne_nil
    (show ofNat given ≠ [] from Nat.toDigits_ne_nil)
  have isDigit : first.isDigit = true :=
    isDigit_of_mem_ofNat (digits ▸ List.mem_cons_self)
  cases fuel with
  | zero => rw [digits] at long; cases long
  | succ fuel =>
      rw [← number_ofNat positive goesOn, digits]
      exact value_digit isDigit room fuel

end Scalars

/-! ## Lists -/

theorem isSpace_indentOf (level : Int) : (indentOf level).all isSpace = true := by
  rw [List.all_eq_true]
  intro blank member
  rw [indentOf, copies, List.mem_flatten] at member
  obtain ⟨step, isStep, member⟩ := member
  rw [List.eq_of_mem_replicate isStep, indentStep] at member
  simp only [List.mem_cons, List.not_mem_nil, or_false, or_self] at member
  rw [member]
  rfl

section Lists

variable {rules : JsonRules} {room fuel : Nat} {gap shown closing rest : Text}

theorem isSpace_indented (blank : gap.all isSpace = true) (level : Int) :
    (gap ++ indentOf level).all isSpace = true := by
  rw [List.all_append, blank, isSpace_indentOf]
  rfl

theorem skip_solid (blank : gap.all isSpace = true) {mark : Char} (solid : isSpace mark = false)
    (rest : Text) : skip (gap ++ mark :: rest) = mark :: rest := by
  rw [skip_append blank, skip, List.dropWhile_cons, solid]
  rfl

theorem skip_closing (blank : closing.all isSpace = true) {mark : Char}
    (solid : isSpace mark = false) :
    skip ('\n' :: (closing ++ mark :: rest)) = mark :: rest := by
  have feedBlank : ('\n' :: closing).all isSpace = true := blank
  rw [← List.cons_append, skip_solid feedBlank solid]

/-- Lines begin where the first one does. -/
theorem skip_lines (blank : gap.all isSpace = true) (level : Int) {mark : Char}
    (solid : isSpace mark = false) (line : Text) (lines : List Text) :
    skip (gap ++ (join ",\n".toList ((indentOf level ++ mark :: line) :: lines) ++ rest)) =
      mark :: (join ",\n".toList (line :: lines) ++ rest) := by
  have indented := isSpace_indented blank level
  rw [join_append_head, join_cons_head, List.append_assoc, ← List.append_assoc gap,
    List.cons_append, skip_solid indented solid]

/-- Lines that begin with a quote begin with nothing else. -/
theorem skip_quoted {Item : Type} {written : Item → Text}
    (quoted : ∀ item, written item = '"' :: (written item).tail) (level : Int) {lines : List Item}
    (nonempty : lines ≠ []) (rest : Text) {mark : Char} (noQuote : mark ≠ '"') (behind : Text) :
    skip (['\n'] ++
      (join ",\n".toList (lines.map fun item => indentOf level ++ written item) ++ rest)) ≠
        mark :: behind := by
  intro same
  cases lines with
  | nil => exact nonempty rfl
  | cons first others =>
      have feed : ['\n'].all isSpace = true := rfl
      rw [List.map_cons, quoted first, skip_lines feed level rfl] at same
      exact noQuote (List.cons.inj same).1.symm

/-- Lines between two marks, with a text behind them. -/
theorem enclosed_append (first last : Char) (level : Int) (lines rest : Text) :
    [first, '\n'] ++ lines ++ '\n' :: indentOf level ++ [last] ++ rest =
      first :: (['\n'] ++ (lines ++ '\n' :: (indentOf level ++ last :: rest))) := by
  simp only [List.append_assoc, List.cons_append, List.nil_append]

/-- The last item of a list. -/
theorem items_last {read : JsonValue} {levels : Nat} (reads : ReadsAs rules levels shown (.ok read))
    (within : levels ≤ room) (long : shown.length ≤ fuel) (blank : gap.all isSpace = true)
    (closingBlank : closing.all isSpace = true) :
    items rules room (fuel + 1) (gap ++ (shown ++ '\n' :: (closing ++ ']' :: rest))) =
      .ok ([read], rest) := by
  have goesOn : GoesOn ('\n' :: (closing ++ ']' :: rest)) := by
    rintro _ ⟨⟩
    exact Or.inr rfl
  rw [items, value_skip rules room fuel (skip_append blank _), reads room fuel _ within long goesOn]
  simp only [Except.map, bind, Except.bind]
  rw [skip_closing closingBlank rfl]
  rfl

/-- An item of a list with another one behind it. -/
theorem items_next {read : JsonValue} {levels : Nat} (reads : ReadsAs rules levels shown (.ok read))
    (within : levels ≤ room) (long : shown.length ≤ fuel) (blank : gap.all isSpace = true) :
    items rules room (fuel + 1) (gap ++ (shown ++ ',' :: rest)) =
      (items rules room fuel rest).map fun found => (read :: found.1, found.2) := by
  have goesOn : GoesOn (',' :: rest) := by
    rintro _ ⟨⟩
    exact Or.inl rfl
  have comma : skip (',' :: rest) = ',' :: rest := rfl
  rw [items, value_skip rules room fuel (skip_append blank _), reads room fuel _ within long goesOn]
  simp only [Except.map, bind, Except.bind]
  rw [comma]
  show (items rules room fuel rest).bind (fun found => .ok (read :: found.1, found.2)) = _
  cases items rules room fuel rest <;> rfl

/-- The items of a list of texts, line by line. -/
theorem items_texts (level closing : Int) (rest : Text) {texts : List Text} (nonempty : texts ≠ [])
    {gap : Text} (blank : gap.all isSpace = true)
    (long : (join ",\n".toList (texts.map fun item => indentOf level ++ jsonString item)).length <
      fuel) :
    items rules room fuel
        (gap ++ (join ",\n".toList (texts.map fun item => indentOf level ++ jsonString item) ++
          '\n' :: (indentOf closing ++ ']' :: rest))) =
      .ok (texts.map .text, rest) := by
  induction texts generalizing fuel gap with
  | nil => exact absurd rfl nonempty
  | cons first others inductionHypothesis =>
      have indented := isSpace_indented blank level
      cases fuel with
      | zero => cases long
      | succ fuel =>
          cases others with
          | nil =>
              have whole : items rules room (fuel + 1) ((gap ++ indentOf level) ++
                  (jsonString first ++ '\n' :: (indentOf closing ++ ']' :: rest))) =
                    .ok ([.text first], rest) := by
                refine items_last (ReadsAs.text first) (Nat.zero_le room) ?_ indented
                  (isSpace_indentOf closing)
                simp only [List.map, join, List.length_append] at long
                omega
              simpa only [List.map, join, List.append_assoc] using whole
          | cons second others =>
              have bounds : (jsonString first).length ≤ fuel ∧
                  (join ",\n".toList ((second :: others).map fun item =>
                    indentOf level ++ jsonString item)).length < fuel := by
                have separated : ",\n".toList.length = 2 := rfl
                simp only [List.map_cons, join_cons_cons, List.length_append] at long ⊢
                omega
              have further := inductionHypothesis (List.cons_ne_nil _ _)
                (show ['\n'].all isSpace = true from rfl) bounds.2
              have whole : items rules room (fuel + 1) ((gap ++ indentOf level) ++
                  (jsonString first ++ ',' :: (['\n'] ++ (join ",\n".toList
                    ((second :: others).map fun item => indentOf level ++ jsonString item) ++
                      '\n' :: (indentOf closing ++ ']' :: rest))))) =
                    .ok (.text first :: (second :: others).map .text, rest) := by
                rw [items_next (ReadsAs.text first) (Nat.zero_le room) bounds.1 indented, further]
                rfl
              simpa only [List.map_cons, join_cons_cons, List.append_assoc, List.cons_append,
                List.nil_append, show ",\n".toList = [',', '\n'] from rfl] using whole

theorem value_array (more : ∀ behind, skip rest ≠ ']' :: behind) :
    value rules (room + 1) (fuel + 1) ('[' :: rest) =
      (items rules room fuel rest).map fun found => (.array found.1, found.2) := by
  have skipped : skip ('[' :: rest) = '[' :: rest := rfl
  rw [value, skipped]
  split
  · next same => cases same
  · next same =>
      cases same
      split
      · next same => exact absurd same (more _)
      · next noRoom _ => cases noRoom
      · next inner same _ =>
          cases same
          rw [items_skip rules room fuel (skip_skip rest)]
  · next same => cases same
  · next noArray _ => exact absurd rfl (noArray rest)

/-- A list that is laid out line by line is read as its texts. -/
theorem ReadsAs.list (level closing : Int) {texts : List Text} (nonempty : texts ≠ []) :
    ReadsAs rules 1
      ("[\n".toList ++
        join ",\n".toList (texts.map fun item => indentOf level ++ jsonString item) ++
        '\n' :: indentOf closing ++ [']'])
      (.ok (.array (texts.map .text))) := by
  intro room fuel rest within long _
  cases room with
  | zero => cases within
  | succ room =>
      cases fuel with
      | zero => simp at long
      | succ fuel =>
          have filled := skip_quoted (fun _ => rfl : ∀ item : Text, jsonString item = _) level
            nonempty ('\n' :: (indentOf closing ++ ']' :: rest)) (show ']' ≠ '"' by decide)
          have feed : ['\n'].all isSpace = true := rfl
          rw [show "[\n".toList = ['[', '\n'] from rfl, enclosed_append, value_array filled,
            items_texts level closing rest nonempty feed]
          · rfl
          · simp only [List.length_append, List.length_cons] at long
            omega

theorem ReadsAs.emptyList : ReadsAs rules 0 "[]".toList (.ok (.array [])) := by
  intro room fuel rest _ long _
  cases fuel with
  | zero => cases long
  | succ fuel => rfl

end Lists

/-! ## Groups -/

/-- A named value as it is written, and what is read of it. -/
structure Written where
  name : String
  shown : Text
  result : Except JsonFault JsonValue

/-- What is read of named values: the values, or the first fault. -/
def readMembers (written : List Written) : Except JsonFault (List (Text × JsonValue)) :=
  written.mapM fun member => member.result.map (member.name.toList, ·)

section Groups

variable {rules : JsonRules} {room fuel levels : Nat} {gap closing rest : Text} {member : Written}

/-- The text of a member, without what is before it on its line. -/
def Written.text (member : Written) : Text :=
  jsonString member.name.toList ++ ": ".toList ++ member.shown

/-- The members of an object from behind the value of the first one. -/
def membersBehind (rules : JsonRules) (room fuel : Nat) (first : Text × JsonValue)
    (content : Text) : Except JsonFault (List (Text × JsonValue) × Text) := do
  match skip content with
  | '\x7d' :: rest => pure ([first], rest)
  | ',' :: rest =>
      let found ← members rules room fuel rest
      pure (first :: found.1, found.2)
  | _ => throw .malformed

theorem membersBehind_comma (first : Text × JsonValue) :
    membersBehind rules room fuel first (',' :: rest) =
      (members rules room fuel rest).map fun found => (first :: found.1, found.2) := by
  have comma : skip (',' :: rest) = ',' :: rest := rfl
  rw [membersBehind, comma]
  show (members rules room fuel rest).bind (fun found => .ok (first :: found.1, found.2)) = _
  cases members rules room fuel rest <;> rfl

theorem membersBehind_closing (blank : closing.all isSpace = true) (first : Text × JsonValue) :
    membersBehind rules room fuel first ('\n' :: (closing ++ '\x7d' :: rest)) =
      .ok ([first], rest) := by
  rw [membersBehind, skip_closing blank rfl]
  rfl

/-- A member up to the place where its line goes on. -/
theorem members_front (reads : ReadsAs rules levels member.shown member.result)
    (within : levels ≤ room) (long : member.shown.length ≤ fuel) (blank : gap.all isSpace = true)
    (goesOn : GoesOn rest) :
    members rules room (fuel + 1) (gap ++ (member.text ++ rest)) =
      member.result.bind fun read =>
        membersBehind rules room fuel (member.name.toList, read) rest := by
  have parts : member.text ++ rest = '"' :: (member.name.toList.flatMap escapeJsonChar ++
      '"' :: ':' :: ([' '] ++ (member.shown ++ rest))) := by
    simp [Written.text, jsonString, show ": ".toList = [':', ' '] from rfl]
  have quote (content : Text) : behind? ['"'] (skip ('"' :: content)) = some content := rfl
  have colon (content : Text) : behind? [':'] (skip (':' :: content)) = some content := rfl
  have read : value rules room fuel ([' '] ++ (member.shown ++ rest)) =
      member.result.map (·, rest) := by
    rw [value_skip rules room fuel (skip_append (show [' '].all isSpace = true from rfl) _)]
    exact reads room fuel rest within long goesOn
  rw [members, skip_append blank, parts, quote]
  simp only [orMalformed, bind, Except.bind]
  rw [stringRest?_flatMap]
  dsimp only
  rw [colon]
  dsimp only
  rw [read]
  cases member.result <;> rfl

theorem members_last (reads : ReadsAs rules levels member.shown member.result)
    (within : levels ≤ room) (long : member.shown.length ≤ fuel) (blank : gap.all isSpace = true)
    (closingBlank : closing.all isSpace = true) :
    members rules room (fuel + 1)
        (gap ++ (member.text ++ '\n' :: (closing ++ '\x7d' :: rest))) =
      (readMembers [member]).map (·, rest) := by
  have goesOn : GoesOn ('\n' :: (closing ++ '\x7d' :: rest)) := by
    rintro _ ⟨⟩
    exact Or.inr rfl
  rw [members_front reads within long blank goesOn, readMembers, List.mapM_cons, List.mapM_nil]
  cases member.result with
  | error fault => rfl
  | ok read => exact membersBehind_closing closingBlank _

theorem members_next (reads : ReadsAs rules levels member.shown member.result)
    (within : levels ≤ room) (long : member.shown.length ≤ fuel) (blank : gap.all isSpace = true)
    {others : List Written} {tail : Text}
    (further : members rules room fuel rest = (readMembers others).map (·, tail)) :
    members rules room (fuel + 1) (gap ++ (member.text ++ ',' :: rest)) =
      (readMembers (member :: others)).map (·, tail) := by
  have goesOn : GoesOn (',' :: rest) := by
    rintro _ ⟨⟩
    exact Or.inl rfl
  rw [members_front reads within long blank goesOn, readMembers, List.mapM_cons, ← readMembers]
  cases member.result with
  | error fault => rfl
  | ok read =>
      refine (membersBehind_comma _).trans ?_
      rw [further]
      cases readMembers others <;> rfl

/-- The members of a group, line by line. -/
theorem members_lines (level closing : Int) (rest : Text) {written : List Written}
    (nonempty : written ≠ [])
    (each : ∀ member ∈ written, ReadsAs rules levels member.shown member.result)
    (within : levels ≤ room) (blank : gap.all isSpace = true)
    (long : (join ",\n".toList (written.map fun member => indentOf level ++ member.text)).length <
      fuel) :
    members rules room fuel
        (gap ++ (join ",\n".toList (written.map fun member => indentOf level ++ member.text) ++
          '\n' :: (indentOf closing ++ '\x7d' :: rest))) =
      (readMembers written).map (·, rest) := by
  induction written generalizing fuel gap with
  | nil => exact absurd rfl nonempty
  | cons first others inductionHypothesis =>
      have indented := isSpace_indented blank level
      have reads := each first List.mem_cons_self
      have part : first.shown.length ≤ first.text.length := by
        rw [Written.text, List.length_append]
        omega
      cases fuel with
      | zero => cases long
      | succ fuel =>
          cases others with
          | nil =>
              simp only [List.map_cons, List.map_nil, join, List.length_append] at long
              have short : first.shown.length ≤ fuel := by omega
              have whole : members rules room (fuel + 1) (_ ++ (_ ++ '\n' :: (_ ++ _ :: rest))) = _ :=
                members_last reads within short indented (isSpace_indentOf closing)
              simpa only [List.map_cons, List.map_nil, join, List.append_assoc] using whole
          | cons second others =>
              have separated : ",\n".toList.length = 2 := rfl
              have bounds : first.shown.length ≤ fuel ∧
                  (join ",\n".toList ((second :: others).map fun member =>
                    indentOf level ++ member.text)).length < fuel := by
                simp only [List.map_cons, join_cons_cons, List.length_append] at long ⊢
                omega
              have further := inductionHypothesis (List.cons_ne_nil _ _)
                (fun member among => each member (List.mem_cons_of_mem _ among))
                (show ['\n'].all isSpace = true from rfl) bounds.2
              have whole := members_next reads within bounds.1 indented further
              simpa only [List.map_cons, join_cons_cons, List.append_assoc, List.cons_append,
                List.nil_append, show ",\n".toList = [',', '\n'] from rfl] using whole

theorem value_object (more : ∀ behind, skip rest ≠ '\x7d' :: behind) :
    value rules (room + 1) (fuel + 1) ('\x7b' :: rest) =
      (members rules room fuel rest).map fun found => (.object found.1, found.2) := by
  have skipped : skip ('\x7b' :: rest) = '\x7b' :: rest := rfl
  rw [value, skipped]
  split
  · next same => cases same
  · next same => cases same
  · next same =>
      cases same
      split
      · next same => exact absurd same (more _)
      · next noRoom _ => cases noRoom
      · next inner same _ =>
          cases same
          rw [members_skip rules room fuel (skip_skip rest)]
  · next noObject => exact absurd rfl (noObject rest)

/-- A group that is laid out line by line is read as its members. -/
theorem ReadsAs.group (level closing : Int) {written : List Written} (nonempty : written ≠ [])
    (each : ∀ member ∈ written, ReadsAs rules levels member.shown member.result) :
    ReadsAs rules (levels + 1)
      ("\x7b\n".toList ++
        join ",\n".toList (written.map fun member => indentOf level ++ member.text) ++
        '\n' :: indentOf closing ++ ['\x7d'])
      ((readMembers written).map .object) := by
  intro room fuel rest within long _
  cases room with
  | zero => cases within
  | succ room =>
      cases fuel with
      | zero => simp at long
      | succ fuel =>
          have filled := skip_quoted (fun _ => rfl : ∀ member : Written, member.text = _) level
            nonempty ('\n' :: (indentOf closing ++ '\x7d' :: rest)) (show '\x7d' ≠ '"' by decide)
          have feed : ['\n'].all isSpace = true := rfl
          rw [show "\x7b\n".toList = ['\x7b', '\n'] from rfl, enclosed_append,
            value_object filled, members_lines level closing rest nonempty each
              (Nat.le_of_succ_le_succ within) feed]
          · cases readMembers written <;> rfl
          · simp only [List.length_append, List.length_cons] at long
            omega

end Groups

end JsonValue

end EmbedScaffold
