import EmbedScaffold.Proofs.Registry.Prelude
import EmbedScaffold.Proofs.Schema.Snippets

/-!
# The constants of the schema registry

The schemas of all components refer to three constants, which are declared together.  One of them
tells whether they are there, so a document that declares some of them but not others is left with
constants that are declared twice or not at all.  Where all of them are declared, outside the entries
of the component, or none of them, each is declared once when the schema is entered.
-/

namespace EmbedScaffold

open Text Scan Lexeme Header

namespace Target

def sharedConstants : List Text :=
  ["FIELD_TYPES".toList, preludeMarker, "BRAND_COLOR_FIELDS".toList]

/-! ## The shared declarations -/

/-- Whether tokens begin with two words and end with a semicolon, declare each shared constant once,
and leave out the name of the mapping. -/
private def declaresShared (size : Nat) (tokens : List Token) : Bool :=
  (tokens.head?.any fun first => first.isWord "const".toList && first.start = 0) &&
    (tokens.tail.head?.any fun second => second.kind = .word) &&
    (tokens.getLast?.any fun last => last.isPunct ';' && last.stop = size) &&
    sharedConstants.all (fun constant => declarations constant tokens = 1) &&
    tokens.all fun token => ! token.isWord schemaMapping

private theorem declaresShared_preludeText :
    (scan (trimBoth isLineFeed preludeText)).toOption.any
      (declaresShared (trimBoth isLineFeed preludeText).length) = true := by
  decide +kernel

/-- The lexemes of the shared declarations. -/
structure IsPrelude (own : List Lexeme) : Prop where
  statement : Statement (trimBoth isLineFeed preludeText) own
  begins : ∃ first second others, own = first :: second :: others ∧
    first.token.isWord "const".toList = true ∧ second.kind = .word
  ends : ∀ last ∈ own.getLast?, last.kind ≠ .word
  once : ∀ constant ∈ sharedConstants, declared constant own = 1
  absent : ∀ lexeme ∈ own, lexeme.token.isWord schemaMapping = false

theorem exists_isPrelude : ∃ own, IsPrelude own := by
  have checked := declaresShared_preludeText
  cases scanned : scan (trimBoth isLineFeed preludeText) with
  | error fault =>
      rw [scanned] at checked
      cases checked
  | ok tokens =>
      rw [scanned] at checked
      change declaresShared _ tokens = true at checked
      simp only [declaresShared, Bool.and_eq_true, Option.any_eq_true, List.all_eq_true,
        decide_eq_true_eq, Bool.not_eq_true'] at checked
      obtain ⟨⟨⟨⟨⟨first, isFirst, isConst, start⟩, second, isSecond, isName⟩, last, isLast, isEnd,
        stop⟩, once⟩, absent⟩ := checked
      have isWord : first.kind = .word := by
        simp only [Token.isWord, Bool.and_eq_true, decide_eq_true_eq] at isConst
        exact isConst.1
      obtain ⟨own, statement, rfl⟩ :=
        Statement.ofScan scanned isFirst isWord start isLast stop isEnd
      refine ⟨own, statement, ?_, ?_, fun constant shared => ?_, fun lexeme member => ?_⟩
      · rcases own with _ | ⟨head, _ | ⟨next, others⟩⟩
        · cases isFirst
        · cases isSecond
        · obtain rfl := Option.some.inj isFirst
          obtain rfl := Option.some.inj isSecond
          exact ⟨head, next, others, rfl, isConst, isName⟩
      · intro final isFinal
        obtain ⟨others, rfl⟩ := List.getLast?_eq_some_iff.mp isFinal
        rw [tokensAt_getLast?] at isLast
        obtain rfl := Option.some.inj isLast
        exact Layout.kind_of_isPunct (((kindred_tokenAt _ final).isPunct ';').symm.trans isEnd)
      · rw [← declarations_tokensAt 0]
        exact once constant shared
      · obtain ⟨front, back, rfl⟩ := List.append_of_mem member
        rw [tokensAt_append, tokensAt] at absent
        have other := absent _ (List.mem_append_right _ List.mem_cons_self)
        exact ((kindred_tokenAt _ lexeme).isWord _).symm.trans other

/-! ## Entering a schema -/

variable {content key : Text} {fields : List Field} {outcome : Outcome}

theorem exists_of_schemaEdit (returned : schemaEdit key fields content = .ok outcome) :
    ∃ prepared entered, ensurePrelude content preludeMarker preludeText = .ok prepared ∧
      upsertEntry prepared.content
        { mapping := schemaMapping, key, value := schemaText fields } = .ok entered ∧
      outcome.content = entered.content := by
  rw [schemaEdit] at returned
  cases prepares : ensurePrelude content preludeMarker preludeText with
  | error fault =>
      rw [prepares] at returned
      cases returned
  | ok prepared =>
      rw [prepares] at returned
      cases enters : upsertEntry prepared.content
          { mapping := schemaMapping, key, value := schemaText fields } with
      | error fault =>
          simp only [bind, Except.bind, enters] at returned
          cases returned
      | ok entered =>
          simp only [bind, Except.bind, enters, pure, Except.pure] at returned
          cases returned
          exact ⟨prepared, entered, rfl, enters, rfl⟩

/-- The upsert of a schema keeps how often the shared constants are declared. -/
theorem declarations_schema {prepared : Text} {entered : Outcome} (sameLine : '\n' ∉ key)
    (named : ∀ field ∈ fields, '\n' ∉ field.name)
    (closesUp : Mapping.closesUp prepared schemaMapping key = true) {constant : Text}
    (shared : constant ∈ sharedConstants)
    (silent : ∀ layout : Layout, layout.Sound schemaMapping → layout.content = prepared →
      ∀ cell ∈ layout.cells, keyOf cell.body = some key → declared constant cell.body = 0)
    (enters : upsertEntry prepared
      { mapping := schemaMapping, key, value := schemaText fields } = .ok entered) :
    declarationsIn constant entered.content = declarationsIn constant prepared := by
  have apart : ∀ constant ∈ sharedConstants,
      constant ≠ schemaMapping ∧ constant ≠ "export".toList := by
    decide
  obtain ⟨otherName, otherWord⟩ := apart constant shared
  have isName : isWordText schemaMapping = true := by decide +kernel
  exact upsertEntry_declarations rfl rfl isName otherName otherWord sameLine
    (Schema.selfContained_ofFields named Schema.sharedNames) closesUp silent enters

/-- Where no shared constant is declared, each is declared once by what is written behind the imports,
and none of them by an entry of the mapping. -/
theorem declarations_prepared {document middle : Document} {prepared : Outcome}
    (scannedText : Document.ofText content = .ok document)
    (undeclared : ∀ constant ∈ sharedConstants,
      declarations constant document.tokens.toList = 0)
    (divides : DividesBehindImports content)
    (prepares : ensurePrelude content preludeMarker preludeText = .ok prepared)
    (middleText : Document.ofText prepared.content = .ok middle) {constant : Text}
    (shared : constant ∈ sharedConstants) :
    declarationsIn constant prepared.content = some 1 ∧
      ∀ layout : Layout, layout.Sound schemaMapping → layout.content = prepared.content →
        ∀ cell ∈ layout.cells, declared constant cell.body = 0 := by
  obtain ⟨own, isPrelude⟩ := exists_isPrelude
  obtain ⟨first, second, others, begins, isConst, isName⟩ := isPrelude.begins
  have isMarker : preludeMarker ∈ sharedConstants := List.mem_cons_of_mem _ List.mem_cons_self
  have noMarker := undeclared preludeMarker isMarker
  have unmarked : declaresMarker preludeMarker document.tokens.toList = false := by
    rw [Bool.eq_false_iff]
    exact fun isDeclared => Nat.ne_of_gt (declaresMarker_iff.mp isDeclared) noMarker
  obtain ⟨outcome, ensured, live⟩ :=
    ensurePrelude_live isPrelude.statement scannedText unmarked divides
  obtain rfl := Except.ok.inj (prepares.symm.trans ensured)
  have marks : 0 < declared preludeMarker own := by rw [isPrelude.once _ isMarker]; exact Nat.one_pos
  have scanned := Document.scan_eq scannedText
  have otherWord : ∀ constant ∈ sharedConstants, constant ≠ "const".toList := by decide
  have keyword : first.token.kind = .word ∧ first.token.value = "const".toList := by
    simp only [Token.isWord, Bool.and_eq_true, decide_eq_true_eq] at isConst
    exact isConst
  constructor
  · obtain ⟨-, lexemes, after, known⟩ := Scanned.ofText_ok middleText
    obtain ⟨left, inner, right, rfl, inserted⟩ :=
      live.exists_inserted isPrelude.statement marks scanned noMarker middleText known
    have notConst : first.token.isWord constant = false := by
      rw [Token.isWord, keyword.2, decide_eq_false (otherWord constant shared).symm, Bool.and_false]
    rw [declarationsIn_eq middleText known.tokens, inserted.declared_parts
      ⟨first, _, begins, notConst⟩ isPrelude.ends (undeclared constant shared),
      isPrelude.once constant shared]
  · intro layout sound same cell member
    obtain ⟨updated, updatedText, known, -⟩ := sound.find
    rw [same] at updatedText
    obtain ⟨left, inner, right, parts, inserted⟩ :=
      live.exists_inserted isPrelude.statement marks scanned noMarker updatedText known
    have around := inserted.around constant
    have kindred := inserted.kindred
    have absent := isWord_of_kindred kindred isPrelude.absent
    rw [begins] at kindred
    obtain ⟨head, _, alike, behind, rfl⟩ := List.forall₂_cons_right_iff.mp kindred
    obtain ⟨next, more, alikeNext, -, rfl⟩ := List.forall₂_cons_right_iff.mp behind
    have noBrace {lexeme : Lexeme} (isWord : lexeme.kind = .word) :
        lexeme.isPunct '\x7b' = false :=
      not_isPunct_of_kind (by rw [isWord]; decide) _
    have side := sound.exists_side known parts inserted.closed rfl
      (noBrace (alike.kind.trans keyword.1)) (noBrace (alikeNext.kind.trans isName)) absent
    have bound := @Layout.declared_beside _ _ _ _ constant parts side cell member
    rw [undeclared constant shared] at around
    omega

/-- The document either declares each shared constant once, and outside the entries of a key, or
none of them, and can then be divided behind its imports. -/
def KeepsShared (content key : Text) : Prop :=
  (∀ constant ∈ sharedConstants, declarationsIn constant content = some 1 ∧
      Mapping.declaresWithin constant content schemaMapping key = false) ∨
    ((∀ constant ∈ sharedConstants, declarationsIn constant content = some 0) ∧
      DividesBehindImports content)

end Target

open Target in
/-- The shared constants are declared once each in every text that entering a schema gives, if they
were declared once outside the entries of the component or not at all. -/
theorem schemaEdit_declares {content key : Text} {fields : List Field} {outcome : Outcome}
    (sameLine : '\n' ∉ key) (named : ∀ field ∈ fields, '\n' ∉ field.name)
    (keeps : KeepsShared content key)
    (closesUp : ∀ prepared, ensurePrelude content preludeMarker preludeText = .ok prepared →
      Mapping.closesUp prepared.content schemaMapping key = true)
    (returned : schemaEdit key fields content = .ok outcome) :
    ∀ constant ∈ sharedConstants, declarationsIn constant outcome.content = some 1 := by
  obtain ⟨prepared, entered, prepares, enters, same⟩ := exists_of_schemaEdit returned
  have keepsCount {constant : Text} := @declarations_schema key fields prepared.content entered
    sameLine named (closesUp prepared prepares) constant
  obtain ⟨document, scannedText⟩ : ∃ document, Document.ofText content = .ok document := by
    cases scannedText : Document.ofText content with
    | error fault =>
        rw [ensurePrelude, Document.forEdit, scannedText] at prepares
        cases prepares
    | ok document => exact ⟨document, rfl⟩
  rw [same]
  intro constant shared
  rcases keeps with once | ⟨none, divides⟩
  · have isDeclared : declaresMarker preludeMarker document.tokens.toList = true := by
      have count := (once preludeMarker (List.mem_cons_of_mem _ List.mem_cons_self)).1
      rw [declarationsIn_scanned scannedText] at count
      rw [declaresMarker_iff, Option.some.inj count]
      exact Nat.one_pos
    have unchanged := ensurePrelude_of_declared scannedText isDeclared preludeText
    obtain rfl := Except.ok.inj (prepares.symm.trans unchanged)
    obtain ⟨declares, silent⟩ := once constant shared
    rw [keepsCount shared (fun layout sound sameText => sound.silent (sameText ▸ silent)) enters,
      declares]
  · obtain ⟨middle, middleText, -⟩ := exists_of_upsertEntry rfl enters
    have undeclared : ∀ constant ∈ sharedConstants,
        declarations constant document.tokens.toList = 0 := by
      intro constant shared
      have count := none constant shared
      rw [declarationsIn_scanned scannedText] at count
      exact Option.some.inj count
    obtain ⟨declares, silent⟩ :=
      declarations_prepared scannedText undeclared divides prepares middleText shared
    rw [keepsCount shared (fun layout sound sameText cell member _ =>
      silent layout sound sameText cell member) enters, declares]

open Target in
/-- Behind an import, with the entry of the component already in the mapping. -/
theorem schemaEdit_declares_behind :
    let content : Text := ("import A from './a.js';\n" ++
      "export const embedConfigRegistry = \x7b old: 1, 'new-card': 2 \x7d;\n").toList
    let fields : List Field := [⟨"title".toList, none⟩]
    '\n' ∉ "new-card".toList ∧ (∀ field ∈ fields, '\n' ∉ field.name) ∧
      KeepsShared content "new-card".toList ∧
      (∀ prepared, ensurePrelude content preludeMarker preludeText = .ok prepared →
        Mapping.closesUp prepared.content schemaMapping "new-card".toList = true) ∧
      ∃ outcome, schemaEdit "new-card".toList fields content = .ok outcome ∧
        ∀ constant ∈ sharedConstants, declarationsIn constant outcome.content = some 1 := by
  intro content fields
  have sameLine : '\n' ∉ "new-card".toList := by decide
  have named : ∀ field ∈ fields, '\n' ∉ field.name := by decide
  have keeps : KeepsShared content "new-card".toList := by
    refine .inr ⟨by decide +kernel, fun place indent found => ?_⟩
    have known : insertionPoint content = .ok (some (24, [])) := by decide +kernel
    obtain ⟨rfl, -⟩ := Prod.mk.inj (Option.some.inj (Except.ok.inj (known.symm.trans found)))
    decide +kernel
  have closesUp : ∀ prepared, ensurePrelude content preludeMarker preludeText = .ok prepared →
      Mapping.closesUp prepared.content schemaMapping "new-card".toList = true := by
    have all : (ensurePrelude content preludeMarker preludeText).toOption.all (fun prepared =>
        Mapping.closesUp prepared.content schemaMapping "new-card".toList) = true := by
      decide +kernel
    intro prepared prepares
    rw [prepares] at all
    exact all
  have returns : (schemaEdit "new-card".toList fields content).toOption.isSome = true := by
    decide +kernel
  refine ⟨sameLine, named, keeps, closesUp, ?_⟩
  cases returned : schemaEdit "new-card".toList fields content with
  | error fault =>
      rw [returned] at returns
      cases returns
  | ok outcome => exact ⟨outcome, rfl, schemaEdit_declares sameLine named keeps closesUp returned⟩

open Target in
/-- How often the three constants are declared afterwards in documents that declare each of them at
most once: where one of them is declared, where they are declared in the entry that is replaced,
where the import's line ends in a comment or in the entry, and where an entry ends in a slash. -/
theorem schemaEdit_redeclares :
    let declared (content : Text) := sharedConstants.map fun constant =>
      declarationsIn constant content
    let entered (content : Text) := ((schemaEdit ['a'] [] content).toOption.map
      fun outcome => declared outcome.content)
    let mapping : Text := "export const embedConfigRegistry = ".toList
    let all : Text :=
      "const FIELD_TYPES = 1; const COMMON_FIELDS = 2; const BRAND_COLOR_FIELDS = 3;".toList
    (declared "const FIELD_TYPES = 1;\n".toList = [some 1, some 0, some 0] ∧
        entered "const FIELD_TYPES = 1;\n".toList = some [some 2, some 1, some 1]) ∧
      (declared "const COMMON_FIELDS = 1;\n".toList = [some 0, some 1, some 0] ∧
        entered "const COMMON_FIELDS = 1;\n".toList = some [some 0, some 1, some 0]) ∧
      (declared (mapping ++ "\x7b a() \x7b".toList ++ all ++ "\x7d \x7d;".toList) =
          [some 1, some 1, some 1] ∧
        entered (mapping ++ "\x7b a() \x7b".toList ++ all ++ "\x7d \x7d;".toList) =
          some [some 0, some 0, some 0]) ∧
      (declared "import A from './a.js'; /*\n*/".toList = [some 0, some 0, some 0] ∧
        entered "import A from './a.js'; /*\n*/".toList = some [some 0, some 0, some 0]) ∧
      (declared ("import A from './a.js'; ".toList ++ mapping ++ "\x7b a:\n0 \x7d;".toList) =
          [some 0, some 0, some 0] ∧
        entered ("import A from './a.js'; ".toList ++ mapping ++ "\x7b a:\n0 \x7d;".toList) =
          some [some 0, some 0, some 0]) ∧
      declared (all ++ mapping ++ "\x7b a: 0, b: 1 /, a: 2/* */ \x7d;".toList) =
          [some 1, some 1, some 1] ∧
        entered (all ++ mapping ++ "\x7b a: 0, b: 1 /, a: 2/* */ \x7d;".toList) =
          some [none, none, none] := by
  decide +kernel

end EmbedScaffold
