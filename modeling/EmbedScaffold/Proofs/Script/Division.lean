import EmbedScaffold.Proofs.Script.Plain
import EmbedScaffold.Script.Fields

/-!
# Strings in pieces

The tree of a script divides a string between its quotes into fragments, which stand for themselves,
and escapes.  A JSON string can be divided in many ways, but every division has the escapes that
were chosen when it was written, so the text is read back from any of them.
-/

namespace EmbedScaffold

open Text Literal

namespace Script

/-- A piece of a string: a fragment without escapes, or one escape. -/
inductive Piece where
  | fragment (shown : Text)
  | escape (shown : Text)

namespace Piece

/-- The codes that a piece stands for. -/
def codes : Piece → Except Fault (List Nat)
  | .fragment shown => .ok (Script.codes shown)
  | .escape shown => decodeEscape (shown.drop 1)

/-- The piece that a part of a string's tree is. -/
def ofPart (source : Source) (part : Tree) : Piece :=
  if part.symbol = symbolNamed "escape" then .escape (part.textIn source)
  else .fragment (part.textIn source)

theorem codes_ofPart (source : Source) (part : Tree) :
    (ofPart source part).codes = part.partCodes source := by
  rw [ofPart, Tree.partCodes]
  split <;> rfl

end Piece

/-- The pieces of a string's tree between its quotes. -/
def Tree.pieces (source : Source) (tree : Tree) : List Piece :=
  (tree.parts.filter fun part =>
    part.symbol ≠ symbolNamed "\"" && part.symbol ≠ symbolNamed "'").map (Piece.ofPart source)

/-! ## Divisions -/

/-- A character of a fragment between double quotes. -/
def isFragmentPart (tested : Char) : Bool :=
  tested ≠ '"' && tested ≠ '\\' && tested ≠ '\n' && tested ≠ '\r'

/-- Pieces into which the language divides a text between double quotes. -/
inductive IsDivided : Text → List Piece → Prop
  | nil : IsDivided [] []
  | fragment {shown rest : Text} {pieces : List Piece}
      (plain : ∀ letter ∈ shown, isFragmentPart letter = true) (others : IsDivided rest pieces) :
      IsDivided (shown ++ rest) (.fragment shown :: pieces)
  | escape {shown rest : Text} {pieces : List Piece}
      (length : escapeLength? (shown ++ rest) = some shown.length)
      (others : IsDivided rest pieces) :
      IsDivided (shown ++ rest) (.escape shown :: pieces)

/-- The text that pieces spell: a fragment is left as it is, and an escape is decoded to one
character. -/
inductive Spells : List Piece → Text → Prop
  | nil : Spells [] []
  | fragment {shown rest : Text} {pieces : List Piece} (others : Spells pieces rest) :
      Spells (.fragment shown :: pieces) (shown ++ rest)
  | escape {shown rest : Text} {letter : Char} {pieces : List Piece}
      (decoded : decodeEscape (shown.drop 1) = .ok [letter.toNat])
      (others : Spells pieces rest) : Spells (.escape shown :: pieces) (letter :: rest)

theorem Spells.exists_codes {pieces : List Piece} {content : Text} (spells : Spells pieces content) :
    ∃ decoded, pieces.mapM Piece.codes = .ok decoded ∧ decoded.flatten = Script.codes content := by
  induction spells with
  | nil => exact ⟨[], rfl, rfl⟩
  | @fragment shown rest pieces _ inductionHypothesis =>
      obtain ⟨decoded, gives, spelled⟩ := inductionHypothesis
      refine ⟨Script.codes shown :: decoded, ?_, ?_⟩
      · rw [List.mapM_cons, gives]
        rfl
      · rw [List.flatten_cons, spelled, Script.codes, Script.codes, Script.codes, List.map_append]
  | @escape shown rest letter pieces read _ inductionHypothesis =>
      obtain ⟨decoded, gives, spelled⟩ := inductionHypothesis
      refine ⟨[letter.toNat] :: decoded, ?_, ?_⟩
      · rw [List.mapM_cons, gives, Piece.codes, read]
        rfl
      · rw [List.flatten_cons, spelled]
        rfl

/-- A string's tree has the text that its pieces spell for its value. -/
theorem Tree.value_of_spells {source : Source} {tree : Tree} {content : Text}
    (isString : tree.symbol = symbolNamed "string")
    (spells : Spells (tree.pieces source) content) :
    tree.value source = .ok (some (.text content)) := by
  obtain ⟨decoded, gives, spelled⟩ := spells.exists_codes
  have same : Piece.codes ∘ Piece.ofPart source = Tree.partCodes source := by
    funext part
    exact Piece.codes_ofPart source part
  rw [Tree.pieces, List.mapM_map, same] at gives
  rw [Tree.value, if_pos isString, Tree.stringCodes, gives]
  show Except.ok (some (Scalar.ofCodes decoded.flatten)) = _
  rw [spelled, ofCodes_codes]

/-! ## Divisions of JSON strings -/

section Json

variable {content : Text}

/-- What a JSON string shows of its first character: an escape of its own, or the character. -/
theorem flatMap_cons_cases (first : Char) (others : Text) :
    (∃ shown, (first :: others).flatMap escapeJsonChar =
        shown ++ others.flatMap escapeJsonChar ∧ shown.head? = some '\\' ∧
      decodeEscape (shown.drop 1) = .ok [first.toNat] ∧
      ∀ rest, escapeLength? (shown ++ rest) = some shown.length) ∨
    ((first :: others).flatMap escapeJsonChar = first :: others.flatMap escapeJsonChar ∧
      isFragmentPart first = true) := by
  rw [List.flatMap_cons]
  rcases (jsonEscape first).escaped_or_plain with
    ⟨body, shown, decoded, length⟩ | ⟨shown, noQuote, noEscape, notControl⟩
  · refine .inl ⟨_, rfl, ?_, ?_, length⟩
    · rw [shown]
      rfl
    · rw [shown]
      exact decoded
  · have apart {other : Char} (isControl : other.toNat < 32) : first ≠ other := by
      intro same
      rw [same] at notControl
      omega
    refine .inr ⟨by rw [shown]; rfl, ?_⟩
    simp [isFragmentPart, noQuote, noEscape, apart (show '\n'.toNat < 32 by decide),
      apart (show '\r'.toNat < 32 by decide)]

/-- A JSON string can be divided, at least into its characters. -/
theorem exists_isDivided (content : Text) :
    ∃ pieces, IsDivided (content.flatMap escapeJsonChar) pieces := by
  induction content with
  | nil => exact ⟨[], .nil⟩
  | cons first others inductionHypothesis =>
      obtain ⟨pieces, divided⟩ := inductionHypothesis
      rcases flatMap_cons_cases first others with ⟨shown, shape, _, _, length⟩ | ⟨shape, plain⟩
      · rw [shape]
        exact ⟨_, .escape (length _) divided⟩
      · rw [shape]
        exact ⟨_, @IsDivided.fragment [first] _ _ (by simpa using plain) divided⟩

/-- What a fragment shows of a JSON string are characters that were left as they are. -/
theorem exists_of_fragment {shown rest : Text}
    (plain : ∀ letter ∈ shown, isFragmentPart letter = true)
    (shape : shown ++ rest = content.flatMap escapeJsonChar) :
    ∃ others, content = shown ++ others ∧ rest = others.flatMap escapeJsonChar := by
  induction shown generalizing content with
  | nil => exact ⟨content, rfl, shape⟩
  | cons letter letters inductionHypothesis =>
      rw [List.forall_mem_cons] at plain
      cases content with
      | nil => cases shape
      | cons first others =>
          rcases flatMap_cons_cases first others with ⟨escape, cut, begins, _, _⟩ | ⟨cut, _⟩
          · -- a fragment holds no backslash
            have same : some letter = some '\\' := by
              rw [← begins, ← List.head?_append_of_ne_nil escape (by
                intro empty
                rw [empty] at begins
                cases begins), ← cut, ← shape]
              rfl
            rw [Option.some.inj same] at plain
            cases plain.1
          · rw [cut] at shape
            obtain ⟨rfl, behind⟩ := List.cons.inj shape
            obtain ⟨more, rfl, ended⟩ := inductionHypothesis plain.2 behind
            exact ⟨more, rfl, ended⟩

/-- Every division of a JSON string spells the text that was written. -/
theorem IsDivided.spells {inside : Text} {pieces : List Piece} (divided : IsDivided inside pieces)
    (shape : inside = content.flatMap escapeJsonChar) : Spells pieces content := by
  induction divided generalizing content with
  | nil =>
      cases content with
      | nil => exact .nil
      | cons first others =>
          rcases flatMap_cons_cases first others with ⟨escape, cut, begins, _, _⟩ | ⟨cut, _⟩
          · rw [cut] at shape
            rw [(List.append_eq_nil_iff.mp shape.symm).1] at begins
            cases begins
          · rw [cut] at shape
            cases shape
  | fragment plain _ inductionHypothesis =>
      obtain ⟨others, rfl, ended⟩ := exists_of_fragment plain shape
      exact .fragment (inductionHypothesis ended)
  | @escape shown rest pieces length _ inductionHypothesis =>
      cases content with
      | nil =>
          rw [shape] at length
          cases length
      | cons first others =>
          rcases flatMap_cons_cases first others with
            ⟨escape, cut, _, decoded, ownLength⟩ | ⟨cut, plain⟩
          · -- both are the escape that the text begins with
            rw [cut] at shape
            have same := ownLength (others.flatMap escapeJsonChar)
            rw [← shape, length, Option.some.injEq] at same
            obtain ⟨rfl, ended⟩ := List.append_inj shape same
            exact .escape decoded (inductionHypothesis ended)
          · have noEscape : first ≠ '\\' := by
              intro backslash
              rw [backslash] at plain
              cases plain
            rw [shape, cut, escapeLength?_of_ne noEscape] at length
            cases length

end Json

/-! ## Scripts that declare one text -/

/-- The tree of a script with one declaration, by `let` and of one variable with an initial value. -/
def Tree.DeclaresOne (source : Source) (script : Tree) (name : Text) (value : Tree) : Prop :=
  ∃ declaration declarator, script.parts.filterMap declaration? = [declaration] ∧
    declaration.parts.head?.any (·.symbol = symbolNamed "let") = true ∧
    declaration.parts.filter (·.symbol = Symbol.declarator) = [declarator] ∧
    declarator.declaredName? source = some name ∧ declarator.initialValue? = some value

theorem Tree.DeclaresOne.fields {source : Source} {script value : Tree} {name : Text}
    {default : Option Scalar} (declares : script.DeclaresOne source name value)
    (valued : value.value source = .ok default) :
    script.fields source = .ok [⟨name, default⟩] := by
  obtain ⟨declaration, declarator, statements, isLet, declarators, named, initial⟩ := declares
  have declared : declaration.declaredFields source = .ok [⟨name, default⟩] := by
    have found : declaration.parts.filterMap (fun part =>
        if part.symbol = Symbol.declarator then (part.declaredName? source).map (part, ·) else none) =
          [(declarator, name)] := by
      have chosen := @List.filterMap_filter Tree _
        (fun part => decide (part.symbol = Symbol.declarator))
        (fun part => (part.declaredName? source).map (part, ·)) declaration.parts
      simp only [decide_eq_true_eq] at chosen
      rw [← chosen, declarators, List.filterMap_cons, named]
      rfl
    rw [declaredFields, if_pos isLet, found]
    simp only [List.mapM_cons, List.mapM_nil, initial, Option.elim_some, valued]
    rfl
  rw [Tree.fields, statements]
  simp only [List.mapM_cons, List.mapM_nil, declared]
  rfl

/-- A script of one line declares what the line declares. -/
theorem Plain.fields?_of_line {line : Text} {field : Field} (oneLine : '\n' ∉ line)
    (declares : Line.ofContent? (line.dropWhile isIndent) = some (.declaring field)) :
    Plain.fields? line = some [field] := by
  rw [Plain.fields?, splitOn_of_notMem oneLine, collect?_cons_declaring declares]
  rfl

theorem Plain.fields?_jsonString {name content : Text} (isName : isVariableName name = true)
    (sameLine : '\n' ∉ name) :
    Plain.fields? ("let ".toList ++ (name ++ (" = ".toList ++ (jsonString content ++ [';'])))) =
      some [⟨name, some (.text content)⟩] := by
  have noFeed := notMem_jsonString_of_control (show '\n'.toNat < 32 by decide) content
  refine fields?_of_line (by simp [sameLine, noFeed]) ?_
  exact ofContent?_let (declared?_append isName (value?_jsonString content))

/-- The field of a script that declares it with a JSON string has the text for its default.  However
the language divides the string, its escapes are decoded one by one to the characters for which they
were written and its fragments are left as they are, so the tree of the script gives that field. -/
theorem fields_json (content : Text) :
    ∃ inside script, Literal.json? (.text content) = some ('"' :: inside ++ ['"']) ∧
      script = "let x = ".toList ++ (('"' :: inside ++ ['"']) ++ [';']) ∧
      Script.fields script = .ok [⟨['x'], some (.text content)⟩] ∧
      (∃ pieces, IsDivided inside pieces) ∧
      (∀ pieces, IsDivided inside pieces → Spells pieces content) ∧
      ∀ tree value : Tree, tree.cost = 0 →
        tree.DeclaresOne (Source.ofText script) ['x'] value →
        value.symbol = symbolNamed "string" →
        IsDivided inside (value.pieces (Source.ofText script)) →
        fieldsOfTree script (some tree) = .ok [⟨['x'], some (.text content)⟩] := by
  have isName : isVariableName ['x'] = true := by
    rw [isVariableName, reservedWords, reservedNames_eq]
    decide
  have read := @Plain.fields?_jsonString ['x'] content isName (by decide)
  refine ⟨content.flatMap escapeJsonChar, _, by rw [Literal.json?]; rfl, rfl, ?_,
    exists_isDivided content, fun pieces divided => divided.spells rfl, ?_⟩
  · have shape : "let x = ".toList ++ (('"' :: content.flatMap escapeJsonChar ++ ['"']) ++ [';']) =
        "let ".toList ++ (['x'] ++ (" = ".toList ++ (jsonString content ++ [';']))) := rfl
    rw [shape, Script.fields, read]
  · intro tree value sound declares isString divided
    rw [fieldsOfTree, if_pos sound]
    exact declares.fields (Tree.value_of_spells isString (divided.spells rfl))

end Script

end EmbedScaffold
