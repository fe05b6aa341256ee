import EmbedScaffold.Literal.Basic
import EmbedScaffold.Script.Value
import EmbedScaffold.Proofs.Script.Name
import EmbedScaffold.Proofs.Token.Lexeme

/-!
# JSON strings

A JSON string is a string of a script as well.  `JsonEscape` tells the three ways in which one of
its characters is written; from these it follows that a scan finds the end of the string where it
is, and that a script reads the text back that was written.
-/

namespace EmbedScaffold

open Text Scan Script

namespace Literal

/-- How a character of a JSON string is written. -/
inductive JsonEscape (escaped : Char) : Text → Prop
  /-- By a backslash and a sign or a letter. -/
  | short {letter : Char} : "\"\\nrtbf".toList.contains letter = true →
      decodeEscape [letter] = .ok [escaped.toNat] → JsonEscape escaped ['\\', letter]
  /-- By its code. -/
  | code {high low : Char} : isHexDigit high = true → isHexDigit low = true →
      decodeEscape ['u', '0', '0', high, low] = .ok [escaped.toNat] →
      JsonEscape escaped ['\\', 'u', '0', '0', high, low]
  /-- By itself. -/
  | plain : escaped ≠ '"' → escaped ≠ '\\' → 32 ≤ escaped.toNat → JsonEscape escaped [escaped]

/-- Whether the escape of a character is read back as the character. -/
def isEscapeRead (escaped : Char) : Bool :=
  match escapeJsonChar escaped with
  | ['\\', letter] =>
      "\"\\nrtbf".toList.contains letter && decodeEscape [letter] = .ok [escaped.toNat]
  | ['\\', 'u', '0', '0', high, low] =>
      isHexDigit high && isHexDigit low &&
        decodeEscape ['u', '0', '0', high, low] = .ok [escaped.toNat]
  | _ => false

theorem jsonEscape_of_isEscapeRead {escaped : Char} (isRead : isEscapeRead escaped = true) :
    JsonEscape escaped (escapeJsonChar escaped) := by
  unfold isEscapeRead at isRead
  split at isRead
  · next letter shape =>
      rw [shape]
      simp only [Bool.and_eq_true, decide_eq_true_eq] at isRead
      exact .short isRead.1 isRead.2
  · next high low shape =>
      rw [shape]
      simp only [Bool.and_eq_true, decide_eq_true_eq] at isRead
      exact .code isRead.1.1 isRead.1.2 isRead.2
  · cases isRead

theorem jsonEscape (escaped : Char) : JsonEscape escaped (escapeJsonChar escaped) := by
  by_cases control : escaped.toNat < 32
  · have all : (List.range 32).all (fun code => isEscapeRead (Char.ofNat code)) = true := by decide
    have isRead := List.all_eq_true.mp all escaped.toNat (List.mem_range.mpr control)
    rw [Char.ofNat_toNat] at isRead
    exact jsonEscape_of_isEscapeRead isRead
  · by_cases isQuote : escaped = '"'
    · subst isQuote
      exact jsonEscape_of_isEscapeRead (by decide)
    · by_cases isSlash : escaped = '\\'
      · subst isSlash
        exact jsonEscape_of_isEscapeRead (by decide)
      · have apart {other : Char} (isControl : other.toNat < 32) : escaped ≠ other := by
          rintro rfl
          exact control isControl
        have shown : escapeJsonChar escaped = [escaped] := by
          rw [escapeJsonChar, if_neg isQuote, if_neg isSlash, if_neg (apart (by decide)),
            if_neg (apart (by decide)), if_neg (apart (by decide)), if_neg (apart (by decide)),
            if_neg (apart (by decide)), if_neg control]
        rw [shown]
        exact .plain isQuote isSlash (Nat.le_of_not_lt control)

/-- A character that is written by an escape begins with a backslash, and no escape holds signs
but a backslash or a quote. -/
theorem JsonEscape.notMem {escaped other : Char} {shown : Text} (isShown : JsonEscape escaped shown)
    (different : other ≠ escaped) (noDigit : isHexDigit other = false)
    (noSign : "\\u\"nrtbf".toList.contains other = false) : other ∉ shown := by
  have noSigns : other ≠ '\\' ∧ other ≠ 'u' ∧ other ≠ '"' ∧ other ≠ 'n' ∧ other ≠ 'r' ∧
      other ≠ 't' ∧ other ≠ 'b' ∧ other ≠ 'f' := by simpa using noSign
  have notDigit {digit : Char} (isDigit : isHexDigit digit = true) : other ≠ digit := by
    rintro rfl
    rw [isDigit] at noDigit
    cases noDigit
  cases isShown with
  | @short letter isLetter _ =>
      have notLetter : other ≠ letter := by
        rintro rfl
        revert isLetter
        simp [noSigns]
      simp [noSigns, notLetter]
  | code isHigh isLow _ =>
      simp [noSigns, notDigit isHigh, notDigit isLow, notDigit (show isHexDigit '0' = true from rfl)]
  | plain _ _ _ => simpa using different

/-- No control character is written by itself. -/
theorem notMem_jsonString_of_control {other : Char} (isControl : other.toNat < 32)
    (content : Text) : other ∉ jsonString content := by
  have apart {solid : Char} (noControl : 32 ≤ solid.toNat) : other ≠ solid := by
    rintro rfl
    omega
  have notDigit {digit : Char} (isDigit : isHexDigit digit = true) : other ≠ digit := by
    rintro rfl
    have all : (List.range 32).all (fun code => ! isHexDigit (Char.ofNat code)) = true := by decide
    have noDigit := List.all_eq_true.mp all other.toNat (List.mem_range.mpr isControl)
    rw [Char.ofNat_toNat, isDigit] at noDigit
    cases noDigit
  have inside : other ∉ content.flatMap escapeJsonChar := by
    intro member
    obtain ⟨escaped, -, shown⟩ := List.mem_flatMap.mp member
    have isShown := jsonEscape escaped
    generalize escapeJsonChar escaped = letters at shown isShown
    cases isShown with
    | @short letter isLetter _ =>
        have letters : letter = '"' ∨ letter = '\\' ∨ letter = 'n' ∨ letter = 'r' ∨
            letter = 't' ∨ letter = 'b' ∨ letter = 'f' := by simpa using isLetter
        have notLetter : other ≠ letter := by
          rcases letters with rfl | rfl | rfl | rfl | rfl | rfl | rfl <;> exact apart (by decide)
        simp [apart (show 32 ≤ '\\'.toNat by decide), notLetter] at shown
    | code isHigh isLow _ =>
        simp [apart (show 32 ≤ '\\'.toNat by decide), apart (show 32 ≤ 'u'.toNat by decide),
          apart (show 32 ≤ '0'.toNat by decide), notDigit isHigh, notDigit isLow] at shown
    | plain _ _ notControl =>
        obtain rfl := List.mem_singleton.mp shown
        omega
  simp [jsonString, apart (show 32 ≤ '"'.toNat by decide), inside]

section Text

variable {content : Text}

/-! ## Scanning -/

theorem stringEnd_cons {quote first : Char} (noEscape : first ≠ '\\') (noQuote : first ≠ quote)
    (sameLine : first ≠ '\n') (offset : Nat) (rest : Text) :
    stringEnd quote offset (first :: rest) = stringEnd quote (offset + 1) rest := by
  rw [stringEnd, if_neg noQuote, if_neg sameLine]
  · intro same _
    exact noEscape same
  · intro _ _ same _
    exact noEscape same

/-- No character of a JSON string ends it. -/
theorem JsonEscape.stringEnd {escaped : Char} {shown : Text} (isShown : JsonEscape escaped shown)
    (offset : Nat) (rest : Text) :
    Scan.stringEnd '"' offset (shown ++ rest) =
      Scan.stringEnd '"' (offset + shown.length) rest := by
  cases isShown with
  | short _ _ => rfl
  | @code high low isHigh isLow _ =>
      have apart {digit : Char} (isDigit : isHexDigit digit = true) {other : Char}
          (noDigit : isHexDigit other = false) : digit ≠ other := by
        rintro rfl
        rw [isDigit] at noDigit
        cases noDigit
      have plain {digit : Char} (isDigit : isHexDigit digit = true) (offset : Nat) (rest : Text) :
          Scan.stringEnd '"' offset (digit :: rest) = Scan.stringEnd '"' (offset + 1) rest :=
        stringEnd_cons (apart isDigit rfl) (apart isDigit rfl) (apart isDigit rfl) offset rest
      show Scan.stringEnd '"' (offset + 2) ('0' :: '0' :: high :: low :: rest) = _
      rw [plain rfl, plain rfl, plain isHigh, plain isLow]
      rfl
  | plain noQuote noEscape notControl =>
      refine stringEnd_cons noEscape noQuote ?_ offset rest
      rintro rfl
      exact absurd notControl (by decide)

theorem stringEnd_flatMap (content : Text) (offset : Nat) (rest : Text) :
    Scan.stringEnd '"' offset (content.flatMap escapeJsonChar ++ '"' :: rest) =
      some ⟨offset + (content.flatMap escapeJsonChar).length + 1, rest⟩ := by
  induction content generalizing offset with
  | nil => rfl
  | cons first others inductionHypothesis =>
      rw [List.flatMap_cons, List.append_assoc, (jsonEscape first).stringEnd,
        inductionHypothesis, List.length_append, Nat.add_assoc offset]

/-- A JSON string is one token. -/
theorem readsAlone_jsonString (allowed : Bool) (content : Text) :
    ReadsAlone allowed .string (jsonString content) :=
  .quoted (.inr rfl) (stringEnd_flatMap content 1 []) allowed

/-! ## Reading back -/

/-- Either a character is written by one escape, which names its code, or by itself. -/
theorem JsonEscape.escaped_or_plain {escaped : Char} {shown : Text}
    (isShown : JsonEscape escaped shown) :
    (∃ body, shown = '\\' :: body ∧ decodeEscape body = .ok [escaped.toNat] ∧
      ∀ rest, escapeLength? (shown ++ rest) = some shown.length) ∨
    (shown = [escaped] ∧ escaped ≠ '"' ∧ escaped ≠ '\\' ∧ 32 ≤ escaped.toNat) := by
  cases isShown with
  | @short letter isLetter decoded =>
      refine .inl ⟨[letter], rfl, decoded, fun rest => ?_⟩
      have letters : letter = '"' ∨ letter = '\\' ∨ letter = 'n' ∨ letter = 'r' ∨
          letter = 't' ∨ letter = 'b' ∨ letter = 'f' := by simpa using isLetter
      rcases letters with rfl | rfl | rfl | rfl | rfl | rfl | rfl <;> rfl
  | @code high low isHigh isLow decoded =>
      have isEscape : IsEscape ("\\u".toList ++ ['0', '0', high, low]) :=
        .coded rfl (by simp [isHigh, isLow, show isHexDigit '0' = true from rfl])
      exact .inl ⟨_, rfl, decoded, fun rest => isEscape.codePointLength? rest⟩
  | plain noQuote noEscape notControl => exact .inr ⟨rfl, noQuote, noEscape, notControl⟩

theorem escapeLength?_of_ne {first : Char} (noEscape : first ≠ '\\') (rest : Text) :
    escapeLength? (first :: rest) = none := by
  unfold escapeLength?
  split
  all_goals first
    | rfl
    | next same => exact absurd (List.cons.inj same).1 noEscape

/-- The characters of an escape are passed. -/
theorem readString?_inside (quote : Char) (body rest : Text) :
    Script.readString? quote body.length (body ++ rest) = Script.readString? quote 0 rest := by
  induction body with
  | nil => rfl
  | cons first others inductionHypothesis =>
      rw [List.length_cons, List.cons_append, Script.readString?, inductionHypothesis]

/-- Every character of a JSON string is read back by its code. -/
theorem JsonEscape.readString? {escaped : Char} {shown : Text} (isShown : JsonEscape escaped shown)
    (rest : Text) :
    Script.readString? '"' 0 (shown ++ rest) =
      (Script.readString? '"' 0 rest).map fun (codes, behind) =>
        (escaped.toNat :: codes, behind) := by
  rcases isShown.escaped_or_plain with
    ⟨body, rfl, decoded, length⟩ | ⟨rfl, noQuote, noEscape, notControl⟩
  · have here := length rest
    rw [List.cons_append, List.length_cons] at here
    rw [List.cons_append, Script.readString?, if_neg (by decide), if_neg (by decide), here]
    dsimp only
    rw [List.take_left, decoded, readString?_inside]
    cases Script.readString? '"' 0 rest <;> rfl
  · have apart {other : Char} (isControl : other.toNat < 32) : escaped ≠ other := by
      rintro rfl
      omega
    rw [List.singleton_append, Script.readString?, if_neg noQuote,
      if_neg (by simp [apart (show '\n'.toNat < 32 by decide),
        apart (show '\r'.toNat < 32 by decide), apart (show '\x00'.toNat < 32 by decide)]),
      escapeLength?_of_ne noEscape]
    dsimp only
    rw [if_neg noEscape]
    cases Script.readString? '"' 0 rest <;> rfl

theorem readString?_flatMap (content rest : Text) :
    Script.readString? '"' 0 (content.flatMap escapeJsonChar ++ '"' :: rest) =
      some (codes content, rest) := by
  induction content with
  | nil => rfl
  | cons first others inductionHypothesis =>
      rw [List.flatMap_cons, List.append_assoc, (jsonEscape first).readString?,
        inductionHypothesis]
      rfl

theorem ofCodes_codes (content : Text) : Scalar.ofCodes (codes content) = .text content := by
  have whole : (codes content).any (fun code => Scalar.isHighHalf code || Scalar.isLowHalf code) =
      false := by
    rw [List.any_eq_false]
    intro code member
    obtain ⟨shown, -, rfl⟩ := List.mem_map.mp member
    have valid : shown.toNat < 0xD800 ∨ 0xDFFF < shown.toNat ∧ shown.toNat < 0x110000 :=
      shown.valid
    simp only [Scalar.isHighHalf, Scalar.isLowHalf, Bool.or_eq_true, Bool.and_eq_true,
      decide_eq_true_eq]
    omega
  rw [Scalar.ofCodes, if_neg (by rw [whole]; decide), codes, List.map_map]
  refine congrArg Scalar.text ?_
  conv => rhs; rw [← List.map_id content]
  exact List.map_congr_left fun shown _ => Char.ofNat_toNat shown

end Text

end Literal

end EmbedScaffold
