import EmbedScaffold.Proofs.Registry.Runs
import EmbedScaffold.Proofs.Run.Course

/-!
# Owners of lookup keys

A registry of components whose keys are distinct tells the owner of every key, and a run does not
take a key over from another component.  In a registry that repeats a key, whichever one, no owner
is found and nothing is refused.
-/

namespace EmbedScaffold

open Text Scan Lexeme

/-! ## Values -/

namespace Lexeme

theorem valueOf_ne_nil {body : List Lexeme} (nonempty : body ≠ []) : valueOf body ≠ [] := by
  rw [valueOf]
  split
  · exact List.cons_ne_nil _ _
  · exact nonempty

/-- The lexemes of a value end those of their entry. -/
theorem exists_valueOf (body : List Lexeme) : ∃ front, body = front ++ valueOf body := by
  rw [valueOf]
  split
  · next key first rest hasKey found =>
      obtain ⟨front, marked, shape⟩ := behindMark_suffix found
      exact ⟨front ++ [marked], by rw [shape, List.append_assoc, List.singleton_append]⟩
  · exact ⟨[], rfl⟩

end Lexeme

namespace Layout

open Cell

variable {name : Text} {layout : Layout} {cell : Cell}

/-- The text of an entry's value has no blanks around it. -/
theorem Sound.strip_value (sound : layout.Sound name) (member : cell ∈ layout.cells)
    (filled : cell.body ≠ []) : strip cell.view.value = cell.view.value := by
  obtain ⟨front, back, shape⟩ := List.append_of_mem member
  obtain ⟨before, body⟩ := exists_valueOf cell.body
  have cut : layout.lexemes = (layout.lead ++ (lexemesOf front ++ cell.mark :: before)) ++
      (valueOf cell.body ++ (lexemesOf back ++ layout.tail)) := by
    have cell : cell.mark :: cell.body = (cell.mark :: before) ++ valueOf cell.body := by
      rw [List.cons_append, ← body]
    rw [lexemes_eq, shape, lexemesOf_append, lexemesOf_cons, ← List.cons_append, cell]
    simp
  have fits := sound.fits
  rw [cut] at fits
  have valueFits := (fits_append.mp (fits_append.mp fits).2).1
  cases value : valueOf cell.body with
  | nil => exact absurd value (valueOf_ne_nil filled)
  | cons first more =>
      rw [value] at valueFits
      obtain ⟨head, tail, firstValue, solid⟩ := valueFits.solid_first first List.mem_cons_self
      have shown : cell.view.value = head :: (tail ++ textOf more) := by
        rw [Cell.view, value, written, firstValue]
        rfl
      refine strip_of_solid shown solid fun last isLast => valueFits.solid_last last ?_
      rw [shown] at isLast
      rw [textOf_cons, Lexeme.text, firstValue, List.append_assoc, List.cons_append,
        List.getLast?_append, isLast, Option.some_or]
      rfl

/-- The text of an entry's value, as it is located in the document, has no blanks around it. -/
theorem Sound.strip_slice (sound : layout.Sound name) {entry : Entry}
    (member : entry ∈ layout.mapping.entries) :
    strip (slice layout.content entry.valueStart entry.stop) =
      slice layout.content entry.valueStart entry.stop := by
  have shown : entry.view layout.content ∈ Cell.views layout.cells := by
    rw [← layout.views_eq]
    exact List.mem_map_of_mem member
  obtain ⟨cell, inside, same⟩ := List.mem_filterMap.mp shown
  split_ifs at same with empty
  have value := sound.strip_value inside empty
  rw [Option.some.inj same] at value
  exact value

end Layout

/-! ## Readings -/

theorem EntryView.lookup_reading {views : List EntryView} {view : EntryView} {key : Text}
    (distinct : (reading views).keys.Nodup) (member : view ∈ views) (hasKey : view.key = some key) :
    (reading views).lookup key = some view.value := by
  induction views with
  | nil => cases member
  | cons first rest inductionHypothesis =>
      cases firstKey : first.key with
      | none =>
          rw [reading_cons_none firstKey] at distinct ⊢
          rcases List.mem_cons.mp member with rfl | later
          · rw [firstKey] at hasKey
            cases hasKey
          · exact inductionHypothesis distinct later
      | some other =>
          rw [reading_cons_some firstKey] at distinct ⊢
          obtain ⟨absent, restDistinct⟩ := List.nodup_cons.mp distinct
          rcases List.mem_cons.mp member with rfl | later
          · rw [List.lookup_cons, Option.some.inj (hasKey.symm.trans firstKey)]
            simp
          · have inRest : key ∈ (reading rest).keys := by
              rw [keys_reading]
              exact List.mem_filterMap.mpr ⟨view, later, hasKey⟩
            have apart : key ≠ other := fun same => absent (same ▸ inRest)
            rw [List.lookup_cons, beq_false_of_ne apart]
            exact inductionHypothesis restDistinct later

/-- Entries that repeat a key are not read. -/
theorem exists_duplicateKey {content name : Text} {seen : List Text} {entries : List Entry}
    (repeats : ¬ ((entries.filterMap Entry.key).Nodup ∧
      ∀ key ∈ entries.filterMap Entry.key, key ∉ seen)) :
    ∃ key, readEntries content name seen entries = .error (.duplicateKey key name) := by
  -- A key that is read joins those seen, so a later entry that repeats it is found there.
  induction entries generalizing seen with
  | nil => exact absurd ⟨List.nodup_nil, nofun⟩ repeats
  | cons entry rest inductionHypothesis =>
      rw [readEntries]
      cases hasKey : entry.key with
      | none =>
          rw [List.filterMap_cons_none hasKey] at repeats
          exact inductionHypothesis repeats
      | some key =>
          rw [List.filterMap_cons_some hasKey] at repeats
          dsimp only
          split_ifs with isSeen
          · exact ⟨key, rfl⟩
          · have behind : ¬ ((rest.filterMap Entry.key).Nodup ∧
                ∀ other ∈ rest.filterMap Entry.key, other ∉ key :: seen) := by
              rintro ⟨distinct, apart⟩
              refine repeats ⟨List.nodup_cons.mpr ⟨fun again => ?_, distinct⟩, ?_⟩
              · exact apart key again List.mem_cons_self
              · intro other member
                rcases List.mem_cons.mp member with rfl | later
                · simpa using isSeen
                · exact fun known => apart other later (List.mem_cons_of_mem _ known)
            obtain ⟨again, fails⟩ := inductionHypothesis behind
            exact ⟨again, by rw [fails]; rfl⟩

namespace Run

variable {settings : Settings} {site : Site} {component : Component} {content : Text}
  {document : Document} {mapping : Mapping} {entry : Entry}

/-! ## Owners -/

/-- A registry with distinct keys tells the owner of a key that one of its entries has. -/
theorem owner?_of_distinct
    (reads : site.read (settings.locate settings.componentRegistry) = .ok (some content))
    (scannedText : Document.ofText content = .ok document)
    (found : Mapping.find? document Target.componentMapping = .ok (some mapping))
    (distinct : (mapping.entries.filterMap Entry.key).Nodup)
    (member : entry ∈ mapping.entries) {key : Text} (hasKey : entry.key = some key) :
    owner? settings site key = .ok (some (slice content entry.valueStart entry.stop)) := by
  obtain ⟨layout, sound, rfl, rfl, -⟩ := Layout.exists_sound scannedText found
  have keys : (EntryView.reading
      (layout.mapping.entries.map (Entry.view layout.content))).keys.Nodup := by
    rw [EntryView.keys_reading, List.filterMap_map]
    exact distinct
  have readAll : readMapping layout.content Target.componentMapping =
      .ok (EntryView.reading (layout.mapping.entries.map (Entry.view layout.content))) := by
    simp only [readMapping, Document.forEdit_ok scannedText, found, bind, Except.bind]
    exact readEntries_eq keys (fun _ _ => List.not_mem_nil) Target.componentMapping
  have looksUp := EntryView.lookup_reading keys (List.mem_map_of_mem member) hasKey
  rw [owner?, reads]
  simp only [readAll, looksUp, Option.map_some]
  exact congrArg (fun value => Except.ok (some value)) (sound.strip_slice member)

/-- A registry that repeats a key tells no owner. -/
theorem owner?_of_repeated
    (reads : site.read (settings.locate settings.componentRegistry) = .ok (some content))
    (scannedText : Document.ofText content = .ok document)
    (found : Mapping.find? document Target.componentMapping = .ok (some mapping))
    (repeats : ¬ (mapping.entries.filterMap Entry.key).Nodup) (key : Text) :
    owner? settings site key = .ok none := by
  obtain ⟨again, fails⟩ := @exists_duplicateKey content Target.componentMapping [] mapping.entries
    fun distinct => repeats distinct.1
  have readAll : readMapping content Target.componentMapping =
      .error (.duplicateKey again Target.componentMapping) := by
    simp only [readMapping, Document.forEdit_ok scannedText, found, bind, Except.bind]
    exact fails
  rw [owner?, reads]
  simp only [readAll]
  rfl

/-- Without force, a key that belongs to another component is refused. -/
theorem checkOwner_of_other (careful : settings.force = false) {owner : Text}
    (owns : owner? settings site component.lookupKey = .ok (some owner))
    (other : owner ≠ component.name) :
    ∃ message, checkOwner settings site component = .error (.refused message) := by
  rw [checkOwner, owns]
  simp only [bind, Except.bind, if_neg other, careful]
  exact ⟨_, rfl⟩

theorem checkOwner_of_none (owns : owner? settings site component.lookupKey = .ok none) :
    checkOwner settings site component = .ok [] := by
  rw [checkOwner, owns]
  rfl

end Run

/-- Without force, if the registry of components has an entry for the component's lookup key whose
value is another text than its name, then the keys decide.  If they are distinct, the run does not
succeed and leaves the site alone; if one of them is repeated, nothing objects to the component. -/
theorem runUnder_of_owned (refusals : Refusals) (settings : Settings) (shell : Shell) (site : Site)
    (exchange : Remote.Exchange) (name : Text) {content : Text} {document : Document}
    {mapping : Mapping} {entry : Entry} (careful : settings.force = false)
    (reads : site.read (settings.locate settings.componentRegistry) = .ok (some content))
    (scannedText : Document.ofText content = .ok document)
    (found : Mapping.find? document Target.componentMapping = .ok (some mapping))
    (member : entry ∈ mapping.entries) (hasKey : entry.key = some (lookupKey name))
    (other : slice content entry.valueStart entry.stop ≠ name) :
    ((mapping.entries.filterMap Entry.key).Nodup →
      (runUnder refusals settings shell site exchange name).succeeded = false ∧
        (runUnder refusals settings shell site exchange name).site = site) ∧
      (¬ (mapping.entries.filterMap Entry.key).Nodup →
        ∀ component, Run.checkOwner settings site component = .ok []) := by
  refine ⟨fun distinct => ?_, fun repeats component =>
    Run.checkOwner_of_none (Run.owner?_of_repeated reads scannedText found repeats _)⟩
  have owner := Run.owner?_of_distinct reads scannedText found distinct member hasKey
  rcases runUnder_course refusals settings shell site exchange name with
    ⟨same, unsuccessful⟩ | ⟨means, -, course⟩
  · exact ⟨unsuccessful, same⟩
  · generalize runUnder refusals settings shell site exchange name = ending at course ⊢
    cases course with
    | stopped same unsuccessful => exact ⟨unsuccessful, same⟩
    | staged _ generates _ owns _ _ =>
        -- Nothing is staged before the owner is checked, and this check refuses.
        obtain ⟨isName, isKey, -⟩ := Component.generate_ok generates
        rw [← isKey] at owner
        rw [← isName] at other
        obtain ⟨message, refused⟩ := Run.checkOwner_of_other careful owner other
        rw [refused] at owns
        cases owns

namespace Run

/-- A registry in which the key of a new component belongs to another one. -/
def ownedRegistry : String :=
  "const embedRegistry = \x7b b, 'tab': Old, ...rest \x7d;\n"

/-- The same with a key that is repeated elsewhere. -/
def repeatingRegistry : String :=
  "const COMMON_FIELDS = input = \x7b\x7d;\nembedRegistry = \x7b b, 'tab': Old, b: B \x7d;\n"

/-- The run that would enter the new component. -/
def takeover (registry : String) : Ending :=
  runUnder [] compactSettings compactShell (compactSite registry []) ⟨[], []⟩ "Tab".toList

end Run

theorem runUnder_of_owned_distinct :
    ∃ document mapping entry,
      Document.ofText Run.ownedRegistry.toList = .ok document ∧
      Mapping.find? document Target.componentMapping = .ok (some mapping) ∧
      entry ∈ mapping.entries ∧ entry.key = some "tab".toList ∧
      slice Run.ownedRegistry.toList entry.valueStart entry.stop = "Old".toList ∧
      (mapping.entries.filterMap Entry.key).Nodup ∧
      (Run.takeover Run.ownedRegistry).succeeded = false ∧
      (Run.takeover Run.ownedRegistry).site = Run.compactSite Run.ownedRegistry [] := by
  let content := Run.ownedRegistry.toList
  let check (_ : Document) (mapping : Mapping) : Bool :=
    (mapping.entries.filterMap Entry.key).Nodup && mapping.entries.any fun entry =>
      entry.key = some "tab".toList &&
        slice content entry.valueStart entry.stop = "Old".toList
  obtain ⟨document, mapping, scannedText, found, checked⟩ :=
    @Mapping.exists_located content Target.componentMapping check (by decide +kernel)
  simp only [check, Bool.and_eq_true, decide_eq_true_eq, List.any_eq_true] at checked
  obtain ⟨distinct, entry, member, hasKey, value⟩ := checked
  have refuses := runUnder_of_owned [] Run.compactSettings Run.compactShell
    (Run.compactSite Run.ownedRegistry []) ⟨[], []⟩ "Tab".toList rfl (by decide +kernel)
    scannedText found member (hasKey.trans (by decide +kernel))
    (by rw [value]; decide)
  exact ⟨document, mapping, entry, scannedText, found, member, hasKey, value, distinct,
    refuses.1 distinct⟩

/-- A repeated key lets a component take over the key of another one. -/
theorem takeover_of_repeated :
    Run.compactSettings.force = false ∧ Run.compactSettings.dryRun = false ∧
      ((Mapping.locate Run.repeatingRegistry.toList Target.componentMapping).any fun found =>
        found.2.entries.any fun entry =>
          entry.key = some (lookupKey "Tab".toList) &&
            slice Run.repeatingRegistry.toList entry.valueStart entry.stop = "Old".toList) = true ∧
      (Run.takeover Run.repeatingRegistry).succeeded = true ∧
      (Run.takeover Run.repeatingRegistry).site.file? [['r']] ≠
        (Run.compactSite Run.repeatingRegistry []).file? [['r']] := by
  decide +kernel

end EmbedScaffold
