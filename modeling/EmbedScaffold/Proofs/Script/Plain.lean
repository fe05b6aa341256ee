import EmbedScaffold.Script.Plain
import EmbedScaffold.Proofs.Literal.Json
import EmbedScaffold.Proofs.Text.Digits
import EmbedScaffold.Proofs.Text.Reindent

/-!
# Reading plain scripts

What a plain script reads back: the digits of a natural number, a JSON string and the declaration of
a variable, and then the fields of a script line by line.
-/

namespace EmbedScaffold

open Text

namespace Script

/-! ## Digits -/

section Digits

variable {number : Nat}

theorem digitsValue_ofNat (number : Nat) : Binary64.digitsValue (ofNat number) = number := by
  have steps : (fun value (digit : Char) => value * 10 + (digit.toNat - '0'.toNat)) =
      fun value digit => 10 * value + (digit.toNat - '0'.toNat) := by
    funext value digit
    rw [Nat.mul_comm]
  rw [Binary64.digitsValue, steps, ← Nat.ofDigitChars_eq_foldl]
  exact Nat.ofDigitChars_ten_toDigits

theorem decimalValue_ofNat (within : (ofNat number).length ≤ 4300) :
    decimalValue (ofNat number) = some (.integer number) := by
  have digits : (ofNat number).all Char.isDigit = true :=
    List.all_eq_true.mpr fun digit member => isDigit_of_mem_ofNat member
  have noZero : ((ofNat number).head? ≠ some '0' || (ofNat number).all (· = '0')) = true := by
    cases number with
    | zero => rfl
    | succ previous => simp [head?_ofNat_ne (Nat.succ_pos previous)]
  have isInteger : ((ofNat number).all Char.isDigit && (ofNat number).length ≤ 4300 &&
      ((ofNat number).head? ≠ some '0' || (ofNat number).all (· = '0'))) = true := by
    rw [digits, decide_eq_true within, noZero]
    rfl
  rw [decimalValue, if_pos isInteger, digitsValue_ofNat]

/-- An integer is read back from its digits. -/
theorem numberValue_ofNat (within : (ofNat number).length ≤ 4300) :
    numberValue (ofNat number) = some (.integer number) := by
  have apart {digit other : Char} (member : digit ∈ ofNat number) (noDigit : other.isDigit = false) :
      digit ≠ other := by
    rintro rfl
    rw [isDigit_of_mem_ofNat member] at noDigit
    cases noDigit
  have kept : (ofNat number).filter (· ≠ '_') = ofNat number :=
    List.filter_eq_self.mpr fun digit member => by simpa using apart member rfl
  have untrimmed : trimEnd (· = 'n') (ofNat number) = ofNat number := by
    have whole := trimEnd_append (· = 'n') (ofNat number) [] fun last isLast => by
      simpa using apart (List.mem_of_getLast? isLast) rfl
    rwa [List.append_nil, show trimEnd (· = 'n') [] = [] from rfl, List.append_nil] at whole
  rw [numberValue, kept, untrimmed]
  split
  · next mark digits shape =>
      -- Digits that go on behind a zero are those of no number.
      have positive : 0 < number := Nat.pos_of_ne_zero fun zero => by
        subst zero
        cases shape
      exact absurd (by rw [shape]; rfl) (head?_ofNat_ne positive)
  · exact decimalValue_ofNat within

end Digits

namespace Plain

/-! ## Names and values -/

section Value

variable {name rest : Text}

theorem isNameText_of_isVariableName (isName : isVariableName name = true) : IsNameText name := by
  simp only [isVariableName, Bool.and_eq_true, decide_eq_true_eq] at isName
  exact .of_nameLength isName.1.2

/-- A name is read back in front of a text that no name goes on with. -/
theorem name?_append (isName : isVariableName name = true) (ended : namePartsLength 0 rest = 0) :
    name? (name ++ rest) = some (name, rest) := by
  have isText := isNameText_of_isVariableName isName
  have whole := isName
  simp only [isVariableName, Bool.and_eq_true, decide_eq_true_eq, Bool.not_eq_true'] at whole
  obtain ⟨⟨nonempty, length⟩, -⟩ := whole
  obtain ⟨first, others, rfl⟩ :=
    List.exists_cons_of_ne_nil (List.isEmpty_eq_false_iff.mp nonempty)
  have longer : nameLength (first :: others ++ rest) = (first :: others).length := by
    have noDigit : first.isDigit = false := by
      cases digit : first.isDigit with
      | false => rfl
      | true =>
          rw [nameLength, List.head?_cons, Option.map_some, Option.getD_some, if_pos digit] at length
          cases length
    rw [nameLength, List.cons_append, List.head?_cons, Option.map_some, Option.getD_some,
      if_neg (by rw [noDigit]; decide), ← List.cons_append, isText.namePartsLength_append ended]
  rw [name?, longer, List.take_left, if_pos isName, List.drop_left]

/-- A literal and the semicolon behind it, if the literal is no string. -/
theorem value?_plain {first : Char} {others : Text} (noQuote : first ≠ '"') (noTick : first ≠ '\'') :
    value? (first :: others ++ [';']) =
      let literal := first :: others
      if literal = "true".toList then some (some (.boolean true))
      else if literal = "false".toList then some (some (.boolean false))
      else if literal = "null".toList || literal = "[]".toList then some none
      else if ! literal.isEmpty && literal.all Char.isDigit &&
          (literal.head? ≠ some '0' || literal.length = 1) then
        some (numberValue literal)
      else none := by
  rw [List.cons_append, value?, if_neg (by simp [noQuote, noTick]), ← List.cons_append,
    List.dropLast_concat, List.getLast?_concat, if_neg (by simp)]

theorem value?_jsonString (content : Text) :
    value? (Literal.jsonString content ++ [';']) = some (some (.text content)) := by
  have read := Literal.readString?_flatMap content [';']
  rw [Literal.jsonString, List.append_assoc, List.cons_append, List.cons_append, List.nil_append,
    value?, if_pos (by decide), read]
  show (if [';'] = [';'] then some (some (Scalar.ofCodes (codes content))) else none) = _
  rw [if_pos rfl, Literal.ofCodes_codes]

/-- A natural number is read back from its digits. -/
theorem value?_ofNat {number : Nat} (within : (ofNat number).length ≤ 4300) :
    value? (ofNat number ++ [';']) = some (some (.integer number)) := by
  have digits : (ofNat number).all Char.isDigit = true :=
    List.all_eq_true.mpr fun digit member => isDigit_of_mem_ofNat member
  have canonical : (ofNat number).head? ≠ some '0' ∨ (ofNat number).length = 1 := by
    cases number with
    | zero => exact .inr rfl
    | succ previous => exact .inl (head?_ofNat_ne (Nat.succ_pos previous))
  have value := numberValue_ofNat within
  obtain ⟨first, others, shape⟩ : ∃ first others, ofNat number = first :: others :=
    List.exists_cons_of_ne_nil Nat.toDigits_ne_nil
  rw [shape] at digits canonical value ⊢
  have apart {other : Char} (noDigit : other.isDigit = false) : first ≠ other := by
    rintro rfl
    rw [List.all_cons, noDigit] at digits
    cases digits
  have differs {word : Text} (noDigit : word.head?.all (! Char.isDigit ·) = true) :
      first :: others ≠ word := by
    rintro rfl
    exact apart (by simpa using noDigit) rfl
  rw [value?_plain (apart rfl) (apart rfl)]
  dsimp only
  rw [if_neg (differs rfl), if_neg (differs rfl), if_neg (by simp [differs]), if_pos, value]
  simpa [digits] using canonical

end Value

/-! ## Lines -/

section Line

variable {name literal : Text} {default : Option Scalar}

theorem dropText?_append (wanted : String) (rest : Text) :
    dropText? wanted (wanted.toList ++ rest) = some rest := by
  rw [dropText?, if_pos (List.isPrefixOf_iff_prefix.mpr (List.prefix_append _ _)), List.drop_left]

theorem dropText?_of_head? {wanted : String} {first : Char} {rest : Text}
    (different : wanted.toList.head?.any (· != first) = true) :
    dropText? wanted (first :: rest) = none := by
  rw [dropText?]
  cases shape : wanted.toList with
  | nil => rw [shape] at different; cases different
  | cons expected others =>
      rw [shape] at different
      have apart : expected ≠ first := by simpa using different
      rw [if_neg (by simp [List.isPrefixOf, apart])]

theorem declared?_append (isName : isVariableName name = true)
    (value : value? literal = some default) :
    declared? (name ++ (" = ".toList ++ literal)) = some ⟨name, default⟩ := by
  have named : name? (name ++ (" = ".toList ++ literal)) = some (name, " = ".toList ++ literal) :=
    name?_append isName rfl
  have noEnd : " = ".toList ++ literal ≠ [';'] := fun same =>
    absurd (List.cons.inj same).1 (by decide)
  rw [declared?, named, Option.bind_eq_bind, Option.bind_some]
  dsimp only
  rw [if_neg noEnd, dropText?_append, Option.bind_some, value]
  rfl

/-- A declaration without a default. -/
theorem declared?_bare (isName : isVariableName name = true) :
    declared? (name ++ [';']) = some ⟨name, none⟩ := by
  have named : name? (name ++ [';']) = some (name, [';']) := name?_append isName rfl
  rw [declared?, named, Option.bind_eq_bind, Option.bind_some]
  rfl

/-- What a line is that is neither a remark nor a part of a call. -/
def Line.ofStatement? (content : Text) : Option Line :=
  match dropText? "import " content with
  | some rest => if isImport rest then some .importing else none
  | none =>
      ((dropText? "let " ((dropText? "export " content).getD content)).bind declared?).map
        .declaring

theorem ofContent?_statement {first : Char} {letters : Text} (noRemark : first ≠ '/')
    (noMount : first ≠ 'o') (noEnd : first ≠ '\x7d') :
    Line.ofContent? (first :: letters) = Line.ofStatement? (first :: letters) := by
  have remark : ¬ "//".toList.isPrefixOf (first :: letters) = true := by
    simp [List.isPrefixOf, Ne.symm noRemark]
  have mount : first :: letters ≠ "onMount(() => \x7b".toList := fun same =>
    noMount (List.cons.inj same).1
  have ended : first :: letters ≠ "\x7d);".toList := fun same => noEnd (List.cons.inj same).1
  rw [Line.ofContent?, if_neg (by simp), if_neg remark, if_neg mount, if_neg ended]
  rfl

/-- The line of a declaration is read as its field. -/
theorem ofContent?_exporting {content : Text} {field : Field}
    (declares : declared? content = some field) :
    Line.ofContent? ("export let ".toList ++ content) = some (.declaring field) := by
  have parts : "export let ".toList ++ content = "export ".toList ++ ("let ".toList ++ content) := by
    rw [← List.append_assoc, show "export ".toList ++ "let ".toList = "export let ".toList from rfl]
  obtain ⟨letters, shape⟩ : ∃ letters, "export ".toList ++ ("let ".toList ++ content) =
    'e' :: letters := ⟨_, rfl⟩
  have exported := dropText?_append "export " ("let ".toList ++ content)
  rw [parts]
  rw [shape] at exported ⊢
  have noImport : dropText? "import " ('e' :: letters) = none := dropText?_of_head? (by decide)
  rw [ofContent?_statement (by decide) (by decide) (by decide), Line.ofStatement?, noImport,
    exported, Option.getD_some, dropText?_append, Option.bind_some, declares]
  rfl

theorem ofContent?_let {content : Text} {field : Field}
    (declares : declared? content = some field) :
    Line.ofContent? ("let ".toList ++ content) = some (.declaring field) := by
  obtain ⟨letters, shape⟩ : ∃ letters, "let ".toList ++ content = 'l' :: letters := ⟨_, rfl⟩
  have declared := dropText?_append "let " content
  rw [shape] at declared ⊢
  have noImport : dropText? "import " ('l' :: letters) = none := dropText?_of_head? (by decide)
  have noExport : dropText? "export " ('l' :: letters) = none := dropText?_of_head? (by decide)
  rw [ofContent?_statement (by decide) (by decide) (by decide), Line.ofStatement?, noImport,
    noExport, Option.getD_none, declared, Option.bind_some, declares]
  rfl

/-- A declaration of a field is read back. -/
theorem ofContent?_declaring (isName : isVariableName name = true)
    (value : value? literal = some default) :
    Line.ofContent? ("export let ".toList ++ (name ++ (" = ".toList ++ literal))) =
      some (.declaring ⟨name, default⟩) :=
  ofContent?_exporting (declared?_append isName value)

/-- The import of a name is read back; `path` is what follows the quote of the path. -/
theorem ofContent?_importing {path : Text} (isName : isVariableName name = true)
    (closes : (readString? '\'' 0 path).map Prod.snd = some [';']) :
    Line.ofContent? ("import \x7b ".toList ++ (name ++ (" \x7d from '".toList ++ path))) =
      some .importing := by
  have named : name? (name ++ (" \x7d from '".toList ++ path)) =
      some (name, " \x7d from '".toList ++ path) :=
    name?_append isName rfl
  have isImport :
      isImport ("\x7b ".toList ++ (name ++ (" \x7d from '".toList ++ path))) = true := by
    obtain ⟨⟨codes, behind⟩, read, rfl⟩ := Option.map_eq_some_iff.mp closes
    rw [Plain.isImport, decide_eq_true_eq, dropText?_append, Option.bind_some, named,
      Option.bind_eq_bind, Option.bind_some]
    dsimp only
    rw [dropText?_append, Option.bind_eq_bind, Option.bind_some, read]
    rfl
  generalize name ++ (" \x7d from '".toList ++ path) = content at isImport
  have parts :
      "import \x7b ".toList ++ content = "import ".toList ++ ("\x7b ".toList ++ content) := by
    rw [← List.append_assoc,
      show "import ".toList ++ "\x7b ".toList = "import \x7b ".toList from rfl]
  obtain ⟨letters, shape⟩ : ∃ letters, "import ".toList ++ ("\x7b ".toList ++ content) =
    'i' :: letters := ⟨_, rfl⟩
  have imported := dropText?_append "import " ("\x7b ".toList ++ content)
  rw [parts]
  rw [shape] at imported ⊢
  rw [ofContent?_statement (by decide) (by decide) (by decide), Line.ofStatement?, imported]
  dsimp only
  rw [if_pos isImport]

end Line

/-! ## Scripts -/

section Script

variable {lines rest : List Text} {fields : List Field}

/-- Whether a line outside a call declares nothing. -/
def isPassed (line : Text) : Bool :=
  match Line.ofContent? (line.dropWhile isIndent) with
  | some .remark | some .importing => true
  | _ => false

theorem collect?_passed (passed : lines.all isPassed = true) :
    collect? false (lines ++ rest) = collect? false rest := by
  induction lines with
  | nil => rfl
  | cons line others inductionHypothesis =>
      rw [List.all_cons, Bool.and_eq_true] at passed
      have behind := inductionHypothesis passed.2
      have here := passed.1
      rw [List.cons_append, collect?]
      unfold isPassed at here
      split at here
      · next remark => rw [remark]; exact behind
      · next importing => rw [importing]; exact behind
      · cases here

theorem collect?_cons_declaring {line : Text} {field : Field}
    (declares : Line.ofContent? (line.dropWhile isIndent) = some (.declaring field)) :
    collect? false (line :: rest) = (collect? false rest).map (field :: ·) := by
  rw [collect?, declares]
  rfl

/-- Lines that declare fields are read as the fields. -/
theorem collect?_declaring {line : Field → Text} {read : Field → Field}
    (declares : ∀ field ∈ fields,
      Line.ofContent? ((line field).dropWhile isIndent) = some (.declaring (read field))) :
    collect? false (fields.map line ++ rest) =
      (collect? false rest).map (fields.map read ++ ·) := by
  induction fields with
  | nil =>
      show collect? false rest = (collect? false rest).map id
      rw [Option.map_id, id]
  | cons field others inductionHypothesis =>
      have behind := inductionHypothesis fun other member =>
        declares other (List.mem_cons_of_mem _ member)
      rw [List.map_cons, List.cons_append,
        collect?_cons_declaring (declares field List.mem_cons_self), behind, Option.map_map]
      rfl

end Script

end Plain

end Script

end EmbedScaffold
