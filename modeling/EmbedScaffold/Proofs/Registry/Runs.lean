import EmbedScaffold.Proofs.Text.Reindent
import EmbedScaffold.Proofs.Registry.Content
import EmbedScaffold.Proofs.Registry.Declaration
import Mathlib.Data.List.Nodup

/-!
# Runs of upserts

A mapping with distinct keys is read as an ordered map.  An upsert of a value on a single line
assigns the value to its key there, so a run of upserts is read as the assignments one after the
other, and which value a key has in the end depends on the last assignment to it only.
-/

namespace EmbedScaffold

open Text Scan Lexeme

/-! ## Ordered maps -/

/-- A mapping that is read: keys with the texts of their values, in order. -/
abbrev Reading : Type :=
  List (Text × Text)

namespace Reading

/-- An existing key keeps its place and takes the value; a new key goes last. -/
def assign (key value : Text) : Reading → Reading
  | [] => [(key, value)]
  | (other, old) :: rest =>
      if other = key then (key, value) :: rest else (other, old) :: assign key value rest

def keys (reading : Reading) : List Text :=
  reading.map Prod.fst

variable {key value : Text}

theorem keys_assign (key value : Text) (reading : Reading) :
    (assign key value reading).keys =
      if key ∈ reading.keys then reading.keys else reading.keys ++ [key] := by
  induction reading with
  | nil => rfl
  | cons first rest inductionHypothesis =>
      obtain ⟨other, old⟩ := first
      have keysCons (first : Text × Text) (rest : Reading) :
          keys (first :: rest) = first.1 :: keys rest := rfl
      rw [assign]
      by_cases same : other = key
      · rw [if_pos same, keysCons, keysCons, same, if_pos List.mem_cons_self]
      · rw [if_neg same, keysCons, keysCons, inductionHypothesis]
        by_cases member : key ∈ keys rest
        · rw [if_pos member, if_pos (List.mem_cons_of_mem _ member)]
        · have absent : key ∉ other :: keys rest := by
            rw [List.mem_cons, not_or]
            exact ⟨Ne.symm same, member⟩
          rw [if_neg member, if_neg absent, List.cons_append]

theorem nodup_assign {reading : Reading} (distinct : reading.keys.Nodup) :
    (assign key value reading).keys.Nodup := by
  rw [keys_assign]
  split
  · exact distinct
  · next absent =>
      exact List.Nodup.append distinct (List.nodup_singleton key)
        (List.disjoint_singleton.mpr absent)

theorem lookup_assign (asked key value : Text) (reading : Reading) :
    (assign key value reading).lookup asked =
      if asked = key then some value else reading.lookup asked := by
  induction reading with
  | nil =>
      by_cases same : asked = key
      · simp [assign, same]
      · simp [assign, List.lookup_cons, beq_false_of_ne same, same]
  | cons first rest inductionHypothesis =>
      obtain ⟨other, old⟩ := first
      rw [assign]
      by_cases same : other = key
      · rw [if_pos same, List.lookup_cons, List.lookup_cons, same]
        by_cases isKey : asked = key
        · simp [isKey]
        · simp [beq_false_of_ne isKey, isKey]
      · rw [if_neg same, List.lookup_cons, List.lookup_cons, inductionHypothesis]
        by_cases isOther : asked = other
        · simp [isOther, same]
        · simp [beq_false_of_ne isOther]

end Reading

/-! ## Reading what entries show -/

namespace EntryView

/-- The views that have a key, with their values. -/
def reading (views : List EntryView) : Reading :=
  views.filterMap fun view => view.key.map (·, view.value)

variable {key value : Text}

theorem reading_cons_none {view : EntryView} (noKey : view.key = none) (rest : List EntryView) :
    reading (view :: rest) = reading rest :=
  List.filterMap_cons_none (by rw [noKey]; rfl)

theorem reading_cons_some {view : EntryView} (hasKey : view.key = some key)
    (rest : List EntryView) : reading (view :: rest) = (key, view.value) :: reading rest :=
  List.filterMap_cons_some (by rw [hasKey]; rfl)

theorem keys_reading (views : List EntryView) :
    (reading views).keys = views.filterMap EntryView.key := by
  induction views with
  | nil => rfl
  | cons view rest inductionHypothesis =>
      cases hasKey : view.key with
      | none => rw [reading_cons_none hasKey, List.filterMap_cons_none hasKey, inductionHypothesis]
      | some key =>
          rw [reading_cons_some hasKey, List.filterMap_cons_some hasKey, ← inductionHypothesis]
          rfl

/-- If no key repeats, putting a view is assigning its value. -/
theorem reading_put {views : List EntryView} (distinct : (reading views).keys.Nodup) :
    reading ((ofTexts key value).put views) = (reading views).assign key value := by
  induction views with
  | nil => rfl
  | cons first rest inductionHypothesis =>
      cases hasKey : first.key with
      | none =>
          rw [reading_cons_none hasKey] at distinct ⊢
          have different : first.key ≠ (ofTexts key value).key := by
            rw [hasKey]
            exact (Option.some_ne_none key).symm
          rw [put, if_neg different, reading_cons_none hasKey, inductionHypothesis distinct]
      | some other =>
          rw [reading_cons_some hasKey] at distinct ⊢
          obtain ⟨absent, restDistinct⟩ := List.nodup_cons.mp distinct
          rw [put, Reading.assign]
          by_cases same : other = key
          · have passed : rest.filter (·.key ≠ some key) = rest := by
              refine List.filter_eq_self.mpr fun view member => decide_eq_true fun isKey => ?_
              have inKeys : other ∈ (reading rest).keys := by
                rw [keys_reading]
                exact List.mem_filterMap.mpr ⟨view, member, by rw [isKey, same]⟩
              exact absent inKeys
            have isFirst : first.key = (ofTexts key value).key :=
              hasKey.trans (congrArg some same)
            rw [if_pos isFirst, if_pos same]
            show reading (_ :: rest.filter (·.key ≠ some key)) = _
            rw [passed]
            rfl
          · have different : first.key ≠ (ofTexts key value).key := by
              rw [hasKey]
              exact fun equal => same (Option.some.inj equal)
            rw [if_neg different, if_neg same, reading_cons_some hasKey,
              inductionHypothesis restDistinct]

end EntryView

/-- Entries with distinct keys are read as what they show. -/
theorem readEntries_eq {content : Text} {seen : List Text} {entries : List Entry}
    (distinct : (EntryView.reading (entries.map (Entry.view content))).keys.Nodup)
    (unseen : ∀ key ∈ (EntryView.reading (entries.map (Entry.view content))).keys, key ∉ seen)
    (name : Text) :
    readEntries content name seen entries =
      .ok (EntryView.reading (entries.map (Entry.view content))) := by
  induction entries generalizing seen with
  | nil => rfl
  | cons entry rest inductionHypothesis =>
      rw [List.map_cons] at distinct unseen ⊢
      rw [readEntries]
      cases hasKey : entry.key with
      | none =>
          have shown : (entry.view content).key = none := hasKey
          rw [EntryView.reading_cons_none shown] at distinct unseen ⊢
          exact inductionHypothesis distinct unseen
      | some key =>
          have shown : (entry.view content).key = some key := hasKey
          rw [EntryView.reading_cons_some shown] at distinct unseen ⊢
          obtain ⟨absent, restDistinct⟩ := List.nodup_cons.mp distinct
          have notSeen : seen.contains key = false := by
            simpa using unseen key List.mem_cons_self
          have behind := @inductionHypothesis (key :: seen) restDistinct fun other member => by
            rw [List.mem_cons, not_or]
            refine ⟨?_, unseen other (List.mem_cons_of_mem _ member)⟩
            rintro rfl
            exact absent member
          dsimp only
          rw [notSeen, if_neg Bool.false_ne_true, behind]
          rfl

/-! ## Documents and their readings -/

/-- The document has the mapping with distinct keys, and it is read as `reading`. -/
def Reads (name content : Text) (reading : Reading) : Prop :=
  ∃ layout : Layout, layout.Sound name ∧ layout.content = content ∧
    EntryView.reading (Cell.views layout.cells) = reading ∧ reading.keys.Nodup

theorem Layout.keys_reading_views (layout : Layout) :
    (EntryView.reading (Cell.views layout.cells)).keys =
      layout.mapping.entries.filterMap Entry.key := by
  rw [EntryView.keys_reading, ← views_eq, Mapping.views, List.filterMap_map]
  rfl

theorem Reads.ofFound {name content : Text} {document : Document} {mapping : Mapping}
    (scannedText : Document.ofText content = .ok document)
    (found : Mapping.find? document name = .ok (some mapping))
    (distinct : (mapping.entries.filterMap Entry.key).Nodup) :
    ∃ reading, Reads name content reading := by
  obtain ⟨layout, sound, rfl, rfl, _⟩ := Layout.exists_sound scannedText found
  rw [← layout.keys_reading_views] at distinct
  exact ⟨_, layout, sound, rfl, rfl, distinct⟩

theorem Reads.exists_mapping {name content : Text} {reading : Reading}
    (reads : Reads name content reading) :
    readMapping content name = .ok reading ∧
      ∃ document mapping, Document.ofText content = .ok document ∧
        Mapping.find? document name = .ok (some mapping) ∧
        (mapping.entries.filterMap Entry.key).Nodup := by
  obtain ⟨layout, sound, rfl, rfl, distinct⟩ := reads
  obtain ⟨document, scannedText, _, found⟩ := sound.find
  have viewed : layout.mapping.entries.map (Entry.view layout.content) = Cell.views layout.cells :=
    layout.views_eq
  have read := readEntries_eq (viewed ▸ distinct) (fun _ _ => List.not_mem_nil) name
  rw [viewed] at read
  refine ⟨?_, document, layout.mapping, scannedText, found, ?_⟩
  · simp only [readMapping, Document.forEdit_ok scannedText, found, bind, Except.bind]
    exact read
  · rw [← layout.keys_reading_views]
    exact distinct

/-! ## A single upsert -/

/-- An upsert of the mapping `name` without a header line, with a key and an admissible value on
single lines.  It may declare the mapping if the document does not have it. -/
structure EntryUpsert.Plain (document : Document) (name : Text) (wanted : EntryUpsert) : Prop where
  mapping : wanted.mapping = name
  noHeader : wanted.headerLine = none
  mayDeclare : Mapping.find? document name = .ok none → wanted.MayDeclare
  keyLine : '\n' ∉ wanted.key
  valueLine : '\n' ∉ strip wanted.value
  admissible : isEntryValue (strip wanted.value) = true

variable {name content : Text} {document : Document} {wanted : EntryUpsert} {reading : Reading}

private theorem countP_key_le_one {entries : List Entry}
    (distinct : (entries.filterMap Entry.key).Nodup) (key : Text) :
    entries.countP (·.key = some key) ≤ 1 := by
  have counted := List.nodup_iff_count_le_one.mp distinct key
  have same : (fun entry : Entry => decide (entry.key = some key)) =
      fun entry => (entry.key.map (· == key)).getD false := by
    funext entry
    cases entry.key <;> simp [beq_eq_decide]
  rw [List.count, List.countP_filterMap] at counted
  rw [same]
  exact counted

/-- An upsert assigns the value to its key. -/
theorem Reads.upsertEntry (reads : Reads name content reading)
    (plain : wanted.Plain document name) :
    ∃ outcome, EmbedScaffold.upsertEntry content wanted = .ok outcome ∧
      Reads name outcome.content (reading.assign wanted.key (strip wanted.value)) := by
  obtain ⟨rfl, noHeader, _, keyLine, valueLine, admissible⟩ := plain
  obtain ⟨layout, sound, rfl, rfl, distinct⟩ := reads
  have once := countP_key_le_one (layout.keys_reading_views ▸ distinct) wanted.key
  obtain ⟨indent, edited, _, editedSound, text, _, views⟩ :=
    sound.exists_upserted keyLine admissible (Or.inr once)
  obtain ⟨document, scannedText, _, found⟩ := sound.find
  refine ⟨_, upsertEntry_found noHeader scannedText found, edited, editedSound, text.symm, ?_,
    Reading.nodup_assign distinct⟩
  rw [views, EntryView.reading_put distinct, reindent_of_notMem valueLine]

/-- An upsert declares an absent mapping with the value for its key. -/
theorem exists_reads_declared
    (scannedText : Document.ofText content = .ok document)
    (absent : Mapping.find? document name = .ok none)
    (undeclared : Mapping.isDeclared document name = false) (plain : wanted.Plain document name) :
    ∃ outcome, EmbedScaffold.upsertEntry content wanted = .ok outcome ∧
      Reads name outcome.content (Reading.assign wanted.key (strip wanted.value) []) := by
  obtain ⟨rfl, noHeader, mayDeclare, keyLine, valueLine, admissible⟩ := plain
  obtain ⟨lexemes, text, entryValue⟩ := exists_reindentedValue admissible isMargin_indentStep
  obtain ⟨front, gap, words, declares⟩ :=
    exists_declaration noHeader scannedText absent undeclared (mayDeclare absent) keyLine
  obtain ⟨sound, upserted⟩ := declares entryValue
  refine ⟨_, upserted wanted.value text, _, sound, rfl, ?_, List.nodup_singleton _⟩
  have views : Cell.views (Layout.declared front gap words wanted.key lexemes).cells =
      [EntryView.ofTexts wanted.key (textOf lexemes)] := by
    rw [Layout.declared, Cell.views_cons (List.cons_ne_nil _ _), view_newEntry entryValue]
    rfl
  rw [views, text, reindent_of_notMem valueLine]
  rfl

/-! ## Runs -/

/-- Apply upserts one after the other. -/
def upsertAll (content : Text) : List EntryUpsert → Except PatchFault Text
  | [] => .ok content
  | wanted :: rest => do
      let outcome ← upsertEntry content wanted
      upsertAll outcome.content rest

/-- Assign the values of upserts one after the other. -/
def Reading.assignAll (reading : Reading) (calls : List EntryUpsert) : Reading :=
  calls.foldl (fun reading wanted => reading.assign wanted.key (strip wanted.value)) reading

/-- The value that upserts assign to a key last. -/
def lastValue (key : Text) : List EntryUpsert → Option Text
  | [] => none
  | wanted :: rest =>
      (lastValue key rest).or (if key = wanted.key then some (strip wanted.value) else none)

variable {calls left right : List EntryUpsert}

theorem upsertAll_cons {outcome : Outcome} (upserted : upsertEntry content wanted = .ok outcome)
    (rest : List EntryUpsert) :
    upsertAll content (wanted :: rest) = upsertAll outcome.content rest := by
  rw [upsertAll, upserted]
  rfl

/-- The last value assigned to a key is found, or else the one that was there before. -/
theorem Reading.lookup_assignAll (asked : Text) (reading : Reading) (calls : List EntryUpsert) :
    (reading.assignAll calls).lookup asked = (lastValue asked calls).or (reading.lookup asked) := by
  induction calls generalizing reading with
  | nil => rfl
  | cons wanted rest inductionHypothesis =>
      rw [assignAll, List.foldl_cons, ← assignAll, inductionHypothesis, lookup_assign, lastValue,
        Option.or_assoc]
      split <;> rfl

/-- A run of upserts is read as the run of their assignments. -/
theorem Reads.upsertAll (reads : Reads name content reading)
    (plain : ∀ wanted ∈ calls, wanted.Plain document name) :
    ∃ text, EmbedScaffold.upsertAll content calls = .ok text ∧
      Reads name text (reading.assignAll calls) := by
  induction calls generalizing content reading with
  | nil => exact ⟨content, rfl, reads⟩
  | cons wanted rest inductionHypothesis =>
      obtain ⟨outcome, upserted, step⟩ := reads.upsertEntry (plain wanted List.mem_cons_self)
      obtain ⟨text, run, final⟩ :=
        inductionHypothesis step fun later member => plain later (List.mem_cons_of_mem _ member)
      exact ⟨text, (upsertAll_cons upserted rest).trans run, final⟩

/-- So is a run that begins with the declaration of the mapping. -/
theorem exists_reads_run (scannedText : Document.ofText content = .ok document)
    (absent : Mapping.find? document name = .ok none)
    (undeclared : Mapping.isDeclared document name = false)
    (plain : ∀ wanted ∈ calls, wanted.Plain document name) (nonempty : calls ≠ []) :
    ∃ text, upsertAll content calls = .ok text ∧
      Reads name text (Reading.assignAll [] calls) := by
  cases calls with
  | nil => exact absurd rfl nonempty
  | cons wanted rest =>
      obtain ⟨outcome, upserted, declared⟩ :=
        exists_reads_declared scannedText absent undeclared (plain wanted List.mem_cons_self)
      obtain ⟨text, run, final⟩ :=
        declared.upsertAll fun later member => plain later (List.mem_cons_of_mem _ member)
      exact ⟨text, (upsertAll_cons upserted rest).trans run, final⟩

theorem readMapping_absent (scannedText : Document.ofText content = .ok document)
    (absent : Mapping.find? document name = .ok none) :
    readMapping content name = .error (.missingMapping name) := by
  simp only [readMapping, Document.forEdit_ok scannedText, absent, bind, Except.bind]

/-- A document in which runs may start stands for an ordered map that runs work on. -/
theorem exists_initial (scannedText : Document.ofText content = .ok document)
    (start : (∃ mapping, Mapping.find? document name = .ok (some mapping) ∧
        (mapping.entries.filterMap Entry.key).Nodup) ∨
      (Mapping.find? document name = .ok none ∧ Mapping.isDeclared document name = false)) :
    ∃ initial : Reading,
      (readMapping content name = .ok initial ∨
        Mapping.find? document name = .ok none ∧ initial = []) ∧
      ∀ calls, (∀ wanted ∈ calls, wanted.Plain document name) → calls ≠ [] →
        ∃ text, upsertAll content calls = .ok text ∧
          Reads name text (initial.assignAll calls) := by
  rcases start with ⟨mapping, found, distinct⟩ | ⟨absent, undeclared⟩
  · obtain ⟨initial, reads⟩ := Reads.ofFound scannedText found distinct
    exact ⟨initial, Or.inl reads.exists_mapping.1, fun calls plain _ => reads.upsertAll plain⟩
  · exact ⟨[], Or.inr ⟨absent, rfl⟩, fun calls plain nonempty =>
      exists_reads_run scannedText absent undeclared plain nonempty⟩

/-- A document that has the mapping with distinct keys, or neither has nor declares it, stands for
an ordered map, which is empty if there is no mapping.  Every run of upserts succeeds, keeps the
keys distinct and gives a document that is read as the map with the values assigned one after the
other; and runs with the same last value for each key are read as the same finite map. -/
theorem upsertAll_refines (scannedText : Document.ofText content = .ok document)
    (start : (∃ mapping, Mapping.find? document name = .ok (some mapping) ∧
        (mapping.entries.filterMap Entry.key).Nodup) ∨
      (Mapping.find? document name = .ok none ∧ Mapping.isDeclared document name = false)) :
    ∃ initial : Reading,
      (readMapping content name = .ok initial ∨
        Mapping.find? document name = .ok none ∧ initial = []) ∧
      (∀ calls, (∀ wanted ∈ calls, wanted.Plain document name) →
        ∃ text, upsertAll content calls = .ok text ∧
          (calls ≠ [] → readMapping text name = .ok (initial.assignAll calls) ∧
            ∃ updated mapping, Document.ofText text = .ok updated ∧
              Mapping.find? updated name = .ok (some mapping) ∧
              (mapping.entries.filterMap Entry.key).Nodup)) ∧
      ∀ left right leftText rightText leftReading rightReading,
        (∀ wanted ∈ left ++ right, wanted.Plain document name) →
        (∀ key, lastValue key left = lastValue key right) →
        upsertAll content left = .ok leftText → readMapping leftText name = .ok leftReading →
        upsertAll content right = .ok rightText → readMapping rightText name = .ok rightReading →
        ∀ key, leftReading.lookup key = rightReading.lookup key := by
  obtain ⟨initial, starts, runs⟩ := exists_initial scannedText start
  have final {calls : List EntryUpsert} {text : Text} {reading : Reading}
      (plain : ∀ wanted ∈ calls, wanted.Plain document name)
      (run : upsertAll content calls = .ok text)
      (read : readMapping text name = .ok reading) : reading = initial.assignAll calls := by
    by_cases empty : calls = []
    · subst empty
      obtain rfl := Except.ok.inj run
      rcases starts with readsInitial | ⟨absent, _⟩
      · exact Except.ok.inj (read.symm.trans readsInitial)
      · rw [readMapping_absent scannedText absent] at read
        cases read
    · obtain ⟨other, otherRun, reads⟩ := runs calls plain empty
      obtain rfl := Except.ok.inj (run.symm.trans otherRun)
      exact Except.ok.inj (read.symm.trans reads.exists_mapping.1)
  refine ⟨initial, starts, fun calls plain => ?_, ?_⟩
  · by_cases empty : calls = []
    · subst empty
      exact ⟨content, rfl, fun nonempty => absurd rfl nonempty⟩
    · obtain ⟨text, run, reads⟩ := runs calls plain empty
      exact ⟨text, run, fun _ => reads.exists_mapping⟩
  · intro left right leftText rightText leftReading rightReading plain same leftRun leftRead
      rightRun rightRead key
    rw [final (fun wanted member => plain wanted (List.mem_append_left _ member)) leftRun leftRead,
      final (fun wanted member => plain wanted (List.mem_append_right _ member)) rightRun rightRead,
      Reading.lookup_assignAll, Reading.lookup_assignAll, same key]

theorem upsertAll_refines_overwriting :
    ∃ text,
      upsertAll "const m = \x7b z: 0 \x7d;".toList
        [{ mapping := ['m'], key := ['b'], value := ['1'] },
          { mapping := ['m'], key := ['a'], value := ['2'] },
          { mapping := ['m'], key := ['b'], value := " 3".toList }] = .ok text ∧
      readMapping text ['m'] =
        .ok [(['z'], ['0']), (['b'], ['3']), (['a'], ['2'])] := by
  let content : Text := "const m = \x7b z: 0 \x7d;".toList
  obtain ⟨document, mapping, scannedText, found, distinct⟩ :=
    @Mapping.exists_located content ['m']
      (fun _ mapping => (mapping.entries.filterMap Entry.key).Nodup) (by decide +kernel)
  obtain ⟨initial, starts, runs, _⟩ :=
    upsertAll_refines scannedText (Or.inl ⟨mapping, found, of_decide_eq_true distinct⟩)
  have read : readMapping content ['m'] = .ok [(['z'], ['0'])] := by decide +kernel
  have isInitial : initial = [(['z'], ['0'])] := by
    rcases starts with readInitial | ⟨absent, _⟩
    · exact Except.ok.inj (readInitial.symm.trans read)
    · cases found.symm.trans absent
  obtain ⟨text, run, final⟩ := runs
    [{ mapping := ['m'], key := ['b'], value := ['1'] },
      { mapping := ['m'], key := ['a'], value := ['2'] },
      { mapping := ['m'], key := ['b'], value := " 3".toList }] (by
        intro wanted member
        simp only [List.mem_cons, List.not_mem_nil, or_false] at member
        rcases member with rfl | rfl | rfl <;>
          exact ⟨rfl, rfl, fun _ => .ofDefault rfl rfl (by decide +kernel), by decide, by decide,
            by decide +kernel⟩)
  refine ⟨text, run, ?_⟩
  rw [(final (List.cons_ne_nil _ _)).1, isInitial]
  decide +kernel

end EmbedScaffold
