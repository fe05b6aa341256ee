import EmbedScaffold.Proofs.Switch.Content
import EmbedScaffold.Proofs.Token.Spacing
import EmbedScaffold.Proofs.Token.TopLevel

/-!
# Keys that are written and read back

A key on one line is written as one token, bare or between quotes, and an entry that begins with it
and a colon has that key.  The label that an upsert writes into a switch is always quoted; it stands
where a word may stand, so it is read back from every document that the upsert gives.
-/

namespace EmbedScaffold

open Text Scan Lexeme

/-! ## Lexemes at a known place -/

/-- Lexemes that are read as they stand are the first tokens of what is read. -/
theorem Scan.Fits.exists_later {allowed : Bool} {lexemes : List Lexeme} {after : Text}
    {offset : Nat} {tokens : List Token} (fits : Fits allowed lexemes after)
    (read : tokensFrom allowed offset (textOf lexemes ++ after) = .ok tokens) :
    ∃ later, tokens = tokensAt offset lexemes ++ later := by
  rw [tokensFrom_fits fits] at read
  cases behind : tokensFrom (allowsBehind allowed lexemes) (offset + (textOf lexemes).length)
      after with
  | error fault =>
      rw [behind] at read
      cases read
  | ok later =>
      rw [behind] at read
      exact ⟨later, (Except.ok.inj read).symm⟩

/-- What stands at the start of a token, and is read alike wherever it stands, is read there. -/
theorem Document.exists_drop {front after : Text} {document : Document} {lexeme : Lexeme}
    {lexemes : List Lexeme} {first : Nat}
    (scanned : Document.ofText (front ++ (textOf (lexeme :: lexemes) ++ after)) = .ok document)
    (flush : lexeme.gap = []) (fits : ∀ allowed, Fits allowed (lexeme :: lexemes) after)
    (within : first < document.tokens.size) (starts : document.startOf first = front.length) :
    ∃ later, document.tokens.toList.drop first =
      tokensAt front.length (lexeme :: lexemes) ++ later := by
  obtain ⟨token, here⟩ := exists_token within
  have edge : ∃ token ∈ document.tokens.toList,
      token.start = front.length ∨ token.stop = front.length :=
    ⟨token, List.mem_of_getElem? (token?_eq ▸ here), .inl (startOf_eq here ▸ starts)⟩
  obtain ⟨left, gap, right, _, _, _, onward, shape⟩ := exists_edge (scan_eq scanned) edge
  obtain ⟨later, read⟩ := (fits _).exists_later (onward front.length)
  rw [read] at shape
  have dropped : document.tokens.toList.drop left.length =
      tokensAt front.length (lexeme :: lexemes) ++ later := by
    rw [shape, ← tokensAt_length 0 left, List.drop_left]
  -- no other token begins where the first of the lexemes does
  have place : document.token? left.length = some (lexeme.tokenAt front.length) := by
    rw [token?_eq]
    exact (getElem?_of_drop_eq_cons dropped).1
  have start : document.startOf left.length = front.length := by
    rw [startOf_eq place, tokenAt, flush]
    rfl
  rw [eq_of_startOf scanned within (lt_size place) (starts.trans start.symm)]
  exact ⟨later, dropped⟩

/-! ## Keys of entries -/

section Key

variable {key : Text}

/-- A key on one line is one token. -/
theorem scan_propertyKey (sameLine : '\n' ∉ key) :
    scan (propertyKey key) =
      .ok [⟨(ofKey [] key).kind, propertyKey key, 0, (propertyKey key).length⟩] := by
  have fits : Fits true [ofKey [] key] [] :=
    ⟨.nil, readsAlone_ofKey sameLine [] true, separated_ofKey (fun _ none => by cases none) [] key,
      trivial⟩
  have scanned := scan_fits fits (.ofTrivia .nil)
  simpa [textOf_cons, tokensAt, tokenAt, Lexeme.text, ofKey] using scanned

theorem propertyKey_injective {other : Text} (sameLine : '\n' ∉ key) (otherSameLine : '\n' ∉ other)
    (same : propertyKey other = propertyKey key) : other = key := by
  have tokens := (scan_propertyKey otherSameLine).symm.trans (same ▸ scan_propertyKey sameLine)
  have kinds : (ofKey [] other).kind = (ofKey [] key).kind :=
    congrArg Token.kind (List.cons.inj (Except.ok.inj tokens)).1
  -- both are read back from the same token
  have lexemes : ofKey [] other = ofKey [] key := by
    simp only [ofKey] at kinds ⊢
    rw [kinds, same]
  have keys := keyOf_newEntry [] other []
  rw [newEntry, lexemes] at keys
  exact Option.some.inj (keys.symm.trans (keyOf_newEntry [] key []))

theorem entryKey_of_drop {document : Document} {first : Nat} {offset : Nat} {gap : Text}
    {later : List Token} (shape : document.tokens.toList.drop first =
      tokensAt offset [ofKey [] key, ⟨gap, .punct, [':']⟩] ++ later) (stop : Nat) :
    Mapping.entryKey document first stop = some key := by
  obtain ⟨here, onward⟩ := getElem?_of_drop_eq_cons shape
  obtain ⟨there, _⟩ := getElem?_of_drop_eq_cons onward
  rw [← Document.token?_eq] at here there
  rw [Mapping.entryKey, here, there, tokenAt, tokenAt, ofKey, propertyKey]
  by_cases isName : isIdentifier key = true
  · simp only [if_pos isName]
    by_cases inside : first + 1 < stop
    · simp [if_pos inside]
    · simp [if_neg inside]
  · simp only [if_neg isName, quotedValue_singleQuoted]

theorem entryAt_propertyKey {document : Document} {front gap behind : Text} {first : Nat}
    (sameLine : '\n' ∉ key) (trivia : Trivia gap)
    (scanned : Document.ofText (front ++ (propertyKey key ++ (gap ++ ':' :: behind))) =
      .ok document)
    (within : first < document.tokens.size) (starts : document.startOf first = front.length)
    (stop : Nat) : (Mapping.entryAt document first stop).key = some key := by
  let colon : Lexeme := ⟨gap, .punct, [':']⟩
  have fits (allowed : Bool) : Fits allowed [ofKey [] key, colon] behind := by
    refine ⟨.nil, readsAlone_ofKey sameLine [] allowed, separated_ofKey ?_ [] key,
      Fits.mark rfl trivia trivial⟩
    rw [textOf_cons, textOf_nil, List.append_nil]
    exact soft_of_mark trivia (show isMark ':' = true from rfl) rfl behind
  have shape : textOf [ofKey [] key, colon] ++ behind =
      propertyKey key ++ (gap ++ ':' :: behind) := by
    simp [textOf_cons, Lexeme.text, ofKey, colon]
  rw [← shape] at scanned
  obtain ⟨later, dropped⟩ := Document.exists_drop scanned rfl fits within starts
  exact entryKey_of_drop dropped stop

end Key

/-! ## Labels of clauses -/

/-- A clause goes where a word may stand. -/
theorem SwitchLayout.HasSlot.ready {function discriminant key : Text} {layout : SwitchLayout}
    {slot : CaseSlot} (hasSlot : layout.HasSlot key slot)
    (sound : layout.Sound function discriminant) :
    Trivia slot.gap ∧
      ∀ behind, Fits true (slot.base.upTo slot.front) (slot.gap ++ 'c' :: behind) := by
  cases hasSlot with
  | replacing shape _ _ _ =>
      obtain ⟨trivia, apart⟩ := sound.gap shape
      exact ⟨trivia, fun behind => sound.fits_upTo shape fun last member => apart last member behind⟩
  | before _ shape _ _ =>
      obtain ⟨trivia, apart⟩ := sound.gap shape
      exact ⟨trivia, fun behind => sound.fits_upTo shape fun last member => apart last member behind⟩
  | behind _ _ _ =>
      refine ⟨layout.trivia_clauseGap, fun behind => ?_⟩
      exact sound.fits_upTo (List.append_nil _).symm fun last _ => Apart.ofBlank rfl last _
  | first alone =>
      obtain ⟨trivia, apart⟩ := sound.gap_first alone
      exact ⟨trivia, fun behind => sound.fits_upTo alone fun last member => apart last member behind⟩

/-- A successful upsert writes its clause into the slot of the key, whatever the body is. -/
theorem SwitchLayout.Sound.exists_written {wanted : CaseUpsert} {layout : SwitchLayout}
    {outcome : Outcome} (sound : layout.Sound wanted.function wanted.discriminant)
    (upserts : upsertCase layout.content wanted = .ok (some outcome)) :
    ∃ slot, layout.HasSlot wanted.key slot ∧ outcome.content =
      slot.textWith (Switch.clauseText wanted.key wanted.body layout.indent) := by
  have once : layout.clauses.countP (·.key = some wanted.key) ≤ 1 := by
    rw [sound.upsertCase_eq] at upserts
    rw [List.countP_eq_length_filter]
    split at upserts
    · next none => simp [none]
    · next only => simp [only]
    · cases upserts
  obtain ⟨slot, hasSlot⟩ := exists_slot once
  refine ⟨slot, hasSlot, ?_⟩
  cases hasSlot with
  | replacing shape hasKey fresh dropped =>
      rw [sound.upsert_replacing shape hasKey fresh dropped] at upserts
      rw [← Option.some.inj (Except.ok.inj upserts)]
      rfl
  | before fresh shape isDefault before =>
      rw [sound.upsert_inserting fresh, insert_before wanted.key shape isDefault before] at upserts
      rw [← Option.some.inj (Except.ok.inj upserts)]
  | behind fresh nonempty cases =>
      rw [sound.upsert_inserting fresh, insert_behind wanted.key nonempty cases] at upserts
      rw [← Option.some.inj (Except.ok.inj upserts)]
  | first alone =>
      have fresh : ∀ other ∈ layout.branches, other.key ≠ some wanted.key := by
        rw [alone]
        exact fun _ member => absurd member List.not_mem_nil
      rw [sound.upsert_inserting fresh, sound.insert_first wanted.key alone] at upserts
      rw [← Option.some.inj (Except.ok.inj upserts)]

/-- The switch of a successful upsert is found. -/
theorem exists_found {content : Text} {wanted : CaseUpsert} {outcome : Outcome}
    (upserts : upsertCase content wanted = .ok (some outcome)) :
    ∃ document braces, Document.ofText content = .ok document ∧
      Switch.find? document wanted.function wanted.discriminant = some braces := by
  rw [upsertCase, Document.forEdit] at upserts
  cases scanned : Document.ofText content with
  | error fault =>
      rw [scanned] at upserts
      cases upserts
  | ok document =>
      rw [scanned] at upserts
      simp only [Except.mapError, bind, Except.bind] at upserts
      split at upserts
      · cases upserts
      · next isBody =>
          split at upserts
          · cases upserts
          · next opening closing isSwitch =>
              refine ⟨document, (opening, closing), rfl, ?_⟩
              rw [Switch.find?, isBody]
              exact isSwitch

theorem text_caseLabelOf (gap key : Text) :
    textOf (caseLabelOf gap key) = gap ++ 'c' :: 'a' :: 's' :: 'e' :: ' ' :: singleQuoted key := by
  have word : "case".toList = ['c', 'a', 's', 'e'] := rfl
  rw [caseLabelOf, textOf_cons, textOf_cons, Lexeme.text, Lexeme.text, word]
  simp

/-- What is written into a slot goes on with the label of the clause. -/
theorem CaseSlot.exists_behind (slot : CaseSlot) (key body indent : Text) :
    ∃ behind, slot.textWith (Switch.clauseText key body indent) =
      textOf (slot.base.upTo slot.front ++ caseLabelOf slot.gap key) ++ ':' :: behind := by
  have clause : Switch.clauseText key body indent =
      ['c', 'a', 's', 'e', ' '] ++ singleQuoted key ++ [':', '\n'] ++ indent ++ indentStep ++
        Text.reindent (strip body) (indent ++ indentStep) := rfl
  refine ⟨'\n' :: (indent ++ (indentStep ++ (Text.reindent (strip body) (indent ++ indentStep) ++
    (textOf (Branch.lexemesOf slot.back ++ slot.base.closing :: slot.base.rest) ++
      slot.base.after)))), ?_⟩
  rw [CaseSlot.textWith, clause, textOf_append (slot.base.upTo slot.front), text_caseLabelOf]
  simp only [List.append_assoc, List.cons_append, List.nil_append]

/-- The clause that an upsert writes is a case of the outcome, with the key for its label. -/
theorem exists_label {content : Text} {wanted : CaseUpsert} {outcome : Outcome}
    {tokens : List Token} (sameLine : '\n' ∉ wanted.key)
    (upserts : upsertCase content wanted = .ok (some outcome))
    (scanned : scan outcome.content = .ok tokens) :
    ∃ head indent first label, tokens[head]? = some first ∧ first.isWord "case".toList = true ∧
      Switch.clauseText wanted.key wanted.body indent <+: outcome.content.drop first.start ∧
      tokens[head + 1]? = some label ∧ label.kind = .string ∧
      label.value = singleQuoted wanted.key := by
  obtain ⟨before, braces, scannedBefore, found⟩ := exists_found upserts
  obtain ⟨layout, sound, rfl, -, -⟩ := SwitchLayout.exists_sound scannedBefore found
  obtain ⟨slot, hasSlot, shape⟩ := sound.exists_written upserts
  obtain ⟨trivia, ready⟩ := hasSlot.ready sound
  obtain ⟨behind, cut⟩ := slot.exists_behind wanted.key wanted.body layout.indent
  rw [shape, cut] at scanned
  have fits : Fits true (slot.base.upTo slot.front ++ caseLabelOf slot.gap wanted.key)
      (':' :: behind) := by
    refine fits_append.mpr ⟨?_, fits_caseLabelOf trivia sameLine _ behind⟩
    rw [text_caseLabelOf, List.append_assoc]
    exact ready _
  obtain ⟨later, read⟩ := fits.exists_later scanned
  rw [tokensAt_append, Nat.zero_add, List.append_assoc] at read
  have dropped : tokens.drop (slot.base.upTo slot.front).length =
      tokensAt (textOf (slot.base.upTo slot.front)).length (caseLabelOf slot.gap wanted.key) ++
        later := by
    rw [read, ← tokensAt_length 0 (slot.base.upTo slot.front), List.drop_left]
  obtain ⟨here, onward⟩ := getElem?_of_drop_eq_cons dropped
  obtain ⟨there, _⟩ := getElem?_of_drop_eq_cons onward
  refine ⟨_, layout.indent, _, _, here, rfl, ?_, there, rfl, rfl⟩
  rw [shape, CaseSlot.textWith, ← List.append_assoc, tokenAt, ← List.length_append, List.drop_left]
  exact List.prefix_append _ _

/-- A key on one line is written as one token, and no other key is written alike.  An entry that
begins with it and a colon has that key.  So has the clause that an upsert writes for it: behind its
case the label is read back as the key. -/
theorem propertyKey_read {key : Text} (sameLine : '\n' ∉ key) :
    (∃ kind, scan (propertyKey key) =
      .ok [⟨kind, propertyKey key, 0, (propertyKey key).length⟩]) ∧
    (∀ other, '\n' ∉ other → (propertyKey other = propertyKey key ↔ other = key)) ∧
    (∀ front gap behind document first stop, Trivia gap →
      Document.ofText (front ++ (propertyKey key ++ (gap ++ ':' :: behind))) = .ok document →
      first < document.tokens.size → document.startOf first = front.length →
      ∀ other, (Mapping.entryAt document first stop).key = some other ↔ other = key) ∧
    ∀ content function discriminant body outcome tokens,
      upsertCase content ⟨function, discriminant, key, body⟩ = .ok (some outcome) →
      scan outcome.content = .ok tokens →
      ∃ head indent first label, tokens[head]? = some first ∧
        first.isWord "case".toList = true ∧
        Switch.clauseText key body indent <+: outcome.content.drop first.start ∧
        tokens[head + 1]? = some label ∧ Token.quotedValue label.value = key ∧
        ∀ document, Document.ofText outcome.content = .ok document →
          ∀ stop other, (Switch.clauseAt document head stop).key = some other ↔ other = key := by
  refine ⟨⟨_, scan_propertyKey sameLine⟩, fun other otherSameLine => ?_, ?_, ?_⟩
  · exact ⟨propertyKey_injective sameLine otherSameLine, fun same => by rw [same]⟩
  · intro front gap behind document first stop trivia scanned within starts other
    rw [entryAt_propertyKey sameLine trivia scanned within starts stop, Option.some.injEq]
    exact eq_comm
  · intro content function discriminant body outcome tokens upserts scanned
    obtain ⟨head, indent, first, label, here, isCase, written, there, isString, value⟩ :=
      @exists_label content ⟨function, discriminant, key, body⟩ outcome tokens sameLine upserts
        scanned
    have read : Token.quotedValue label.value = key := by rw [value, quotedValue_singleQuoted]
    refine ⟨head, indent, first, label, here, isCase, written, there, read, ?_⟩
    intro document scannedText stop other
    obtain rfl := Except.ok.inj ((Document.scan_eq scannedText).symm.trans scanned)
    rw [← Document.token?_eq] at here there
    have begins : document.isWordAt head "case".toList = true := by
      rw [Document.isWordAt, here]
      exact isCase
    have labelled : (Switch.clauseAt document head stop).key = some key := by
      simp only [Switch.clauseAt, begins, if_true, there, Option.bind_some, Switch.caseLabel,
        isString, read]
    rw [labelled, Option.some.injEq]
    exact eq_comm

theorem propertyKey_read_escaped :
    ∃ document outcome updated head label,
      Document.ofText "f(\x7b 'it\\'s\\\\' : 1 \x7d)".toList = .ok document ∧
      (Mapping.entryAt document 3 6).key = some "it's\\".toList ∧
      upsertCase "function f(x) \x7b switch (x) \x7b\x7d \x7d".toList
        ⟨['f'], ['x'], "it's\\".toList, "return 1;".toList⟩ = .ok (some outcome) ∧
      Document.ofText outcome.content = .ok updated ∧
      updated.token? (head + 1) = some label ∧
      Token.quotedValue label.value = "it's\\".toList ∧
      (Switch.clauseAt updated head 0).key ≠ some "its".toList := by
  let key : Text := "it's\\".toList
  let content : Text := "function f(x) \x7b switch (x) \x7b\x7d \x7d".toList
  have sameLine : '\n' ∉ key := by decide +kernel
  obtain ⟨-, -, entries, clauses⟩ := propertyKey_read sameLine
  obtain ⟨document, scanned, checked⟩ :=
    @Document.exists_checked "f(\x7b 'it\\'s\\\\' : 1 \x7d)".toList
      (fun document => 3 < document.tokens.size && document.startOf 3 = 4) (by decide +kernel)
  simp only [Bool.and_eq_true, decide_eq_true_eq] at checked
  have entered := (entries "f(\x7b ".toList [' '] " 1 \x7d)".toList document 3 6
    (Trivia.ofBlank rfl) scanned checked.1 checked.2 key).mpr rfl
  have writes : (upsertCase content ⟨['f'], ['x'], key, "return 1;".toList⟩).toOption.any
      (fun written => written.any fun outcome =>
        (Document.ofText outcome.content).toOption.any fun _ => true) = true := by
    decide +kernel
  cases upserts : upsertCase content ⟨['f'], ['x'], key, "return 1;".toList⟩ with
  | error fault =>
      rw [upserts] at writes
      cases writes
  | ok written =>
      rw [upserts, Except.toOption, Option.any_some] at writes
      obtain ⟨outcome, rfl, isScanned⟩ := (Option.any_eq_true _ _).mp writes
      obtain ⟨updated, updatedText, -⟩ := Document.exists_checked _ isScanned
      obtain ⟨head, _, _, label, _, _, _, there, read, only⟩ :=
        clauses content ['f'] ['x'] "return 1;".toList outcome _ upserts
          (Document.scan_eq updatedText)
      rw [← Document.token?_eq] at there
      refine ⟨document, outcome, updated, head, label, scanned, entered, rfl, updatedText, there,
        read, fun other => ?_⟩
      have different : "its".toList ≠ key := by decide +kernel
      exact different ((only updated updatedText 0 _).mp other)

end EmbedScaffold
