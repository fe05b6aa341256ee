import EmbedScaffold.Proofs.Attempt
import EmbedScaffold.Site.Tree
import Mathlib.Data.List.Basic

/-!
# Writing and removing files

Writing a file makes directories and sets one file; a fault only makes directories.  Whether a file
can be written at a path depends on the directories alone, so a file that was written once can be
written again until one of them is lost.
-/

namespace EmbedScaffold

namespace Site

variable {site before after : Site} {path : Path} {place asked : Place} {content : Bytes}

/-! ## Places of paths -/

theorem walk_eq_foldl {steps : List Text} {start : Place}
    (walks : site.walk start steps = .ok place) : steps.foldl Path.step start = place := by
  induction steps generalizing start with
  | nil => exact Except.ok.inj walks
  | cons taken rest inductionHypothesis =>
      rw [walk] at walks
      split_ifs at walks
      exact inductionHypothesis walks

/-- A path that leads somewhere leads to the place that it names. -/
theorem place_of_locate (locates : site.locate path = .ok place) :
    path.place site.workplace = place := by
  rw [locate] at locates
  split_ifs at locates with hasNull long absolute
  · rw [Path.place, if_pos absolute, walk_eq_foldl locates]
  · rw [Path.place, if_neg absolute, walk_eq_foldl locates]

theorem walk_of_directories {steps : List Text} {start : Place}
    (keeps : ∀ place, before.isDirectory place → after.isDirectory place)
    (walks : before.walk start steps = .ok place) : after.walk start steps = .ok place := by
  induction steps generalizing start with
  | nil => exact walks
  | cons taken rest inductionHypothesis =>
      rw [walk] at walks
      split_ifs at walks with isDirectory long
      rw [walk, if_pos (keeps start isDirectory), if_neg long]
      exact inductionHypothesis walks

/-- A path goes on leading where it leads as long as no directory is lost. -/
theorem locate_of_directories (workplace : after.workplace = before.workplace)
    (keeps : ∀ place, before.isDirectory place → after.isDirectory place)
    (locates : before.locate path = .ok place) : after.locate path = .ok place := by
  rw [locate] at locates ⊢
  split_ifs at locates ⊢
  · exact walk_of_directories keeps locates
  · rw [workplace]
    exact walk_of_directories keeps locates

theorem leadsToDirectory_iff :
    site.leadsToDirectory path ↔
      ∃ place, site.locate path = .ok place ∧ site.isDirectory place := by
  rw [leadsToDirectory]
  cases site.locate path with
  | error fault => simp
  | ok place => simp

/-! ## Files -/

theorem lookup_map_replace (files : List (Place × Bytes)) :
    (files.map fun (known, old) => (known, if known = place then content else old)).lookup asked =
      if asked = place then (files.lookup asked).map fun _ => content else files.lookup asked := by
  induction files with
  | nil => simp
  | cons head rest inductionHypothesis =>
      obtain ⟨known, old⟩ := head
      rw [List.map_cons, List.lookup_cons, List.lookup_cons, inductionHypothesis]
      by_cases same : asked = known
      · subst same
        by_cases there : asked = place <;> simp [there]
      · simp [beq_false_of_ne same]

theorem lookup_filter_ne (files : List (Place × Bytes)) :
    (files.filter fun (known, _) => known ≠ place).lookup asked =
      if asked = place then none else files.lookup asked := by
  induction files with
  | nil => simp
  | cons head rest inductionHypothesis =>
      obtain ⟨known, old⟩ := head
      by_cases there : known = place
      · rw [List.filter_cons_of_neg (by simp [there]), inductionHypothesis, List.lookup_cons]
        by_cases same : asked = place
        · rw [if_pos same, if_pos same]
        · rw [if_neg same, if_neg same, there, beq_false_of_ne same]
      · rw [List.filter_cons_of_pos (by simp [there]), List.lookup_cons, List.lookup_cons,
          inductionHypothesis]
        by_cases same : asked = known
        · subst same
          simp [there]
        · simp [beq_false_of_ne same]

theorem file?_setFile :
    (site.setFile place content).file? asked =
      if asked = place then some content else site.file? asked := by
  unfold setFile
  split_ifs with isFile same same
  · subst same
    obtain ⟨old, found⟩ := Option.isSome_iff_exists.mp isFile
    change (site.files.map _).lookup asked = _
    rw [lookup_map_replace, if_pos rfl, show site.files.lookup asked = some old from found]
    rfl
  · change (site.files.map _).lookup asked = _
    rw [lookup_map_replace, if_neg same]
    rfl
  · subst same
    have absent : site.files.lookup asked = none := Option.not_isSome_iff_eq_none.mp isFile
    change (site.files ++ [(asked, content)]).lookup asked = _
    simp [List.lookup_append, absent]
  · change (site.files ++ [(place, content)]).lookup asked = _
    simp [List.lookup_append, List.lookup_cons, beq_false_of_ne same, file?]

@[simp] theorem isDirectory_setFile :
    (site.setFile place content).isDirectory asked = site.isDirectory asked := by
  unfold setFile
  split_ifs <;> rfl

@[simp] theorem workplace_setFile : (site.setFile place content).workplace = site.workplace := by
  unfold setFile
  split_ifs <;> rfl

theorem file?_removeFile (locates : site.locate path = .ok place) :
    (site.removeFile path).file? asked = if asked = place then none else site.file? asked := by
  rw [removeFile, locates]
  exact lookup_filter_ne site.files

@[simp] theorem isDirectory_removeFile :
    (site.removeFile path).isDirectory asked = site.isDirectory asked := by
  unfold removeFile
  split <;> rfl

@[simp] theorem workplace_removeFile : (site.removeFile path).workplace = site.workplace := by
  unfold removeFile
  split <;> rfl

/-! ## Making directories -/

/-- The later site has the files of the earlier one, and perhaps more directories; none of them
lies where a file is. -/
structure Grown (before after : Site) : Prop where
  workplace : after.workplace = before.workplace
  files : after.files = before.files
  keeps : ∀ place, before.isDirectory place → after.isDirectory place
  fresh : ∀ place, after.isDirectory place → before.isDirectory place ∨ before.file? place = none

namespace Grown

theorem refl (site : Site) : Grown site site :=
  ⟨rfl, rfl, fun _ => id, fun _ => .inl⟩

theorem file? (grown : Grown before after) (place : Place) :
    after.file? place = before.file? place := by
  rw [Site.file?, grown.files, Site.file?]

theorem trans {between : Site} (first : Grown before between) (second : Grown between after) :
    Grown before after where
  workplace := second.workplace.trans first.workplace
  files := second.files.trans first.files
  keeps place known := second.keeps place (first.keeps place known)
  fresh place known := by
    rcases second.fresh place known with earlier | absent
    · exact first.fresh place earlier
    · exact .inr (first.file? place ▸ absent)

theorem locate (grown : Grown before after) (locates : before.locate path = .ok place) :
    after.locate path = .ok place :=
  locate_of_directories grown.workplace grown.keeps locates

end Grown

theorem makeDirectory_ok (makes : before.makeDirectory path = .ok after) :
    Grown before after ∧ after.leadsToDirectory path := by
  unfold makeDirectory at makes
  cases locates : before.locate path with
  | error fault => rw [locates] at makes; cases makes
  | ok place =>
      rw [locates] at makes
      dsimp only at makes
      split_ifs at makes with occupied
      obtain rfl := Except.ok.inj makes
      rw [holds, Bool.or_eq_true, not_or, isFile, Option.not_isSome_iff_eq_none] at occupied
      have grown : Grown before { before with directories := before.directories ++ [place] } := by
        refine ⟨rfl, rfl, fun known isDirectory => ?_, fun known isDirectory => ?_⟩
        · simp only [Site.isDirectory, List.contains_eq_mem, List.mem_append, Bool.or_eq_true,
            decide_eq_true_eq] at isDirectory ⊢
          exact isDirectory.imp_right .inl
        · simp only [Site.isDirectory, List.contains_eq_mem, List.mem_append, List.mem_singleton,
            Bool.or_eq_true, decide_eq_true_eq] at isDirectory ⊢
          rcases isDirectory with above | listed | rfl
          · exact .inl (.inl above)
          · exact .inl (.inr listed)
          · exact .inr occupied.2
      refine ⟨grown, leadsToDirectory_iff.mpr ⟨place, grown.locate locates, ?_⟩⟩
      simp [Site.isDirectory]

/-- What is left of an attempt to make directories. -/
def madeBy : Except WriteFault Site → Site
  | .ok made => made
  | .error fault => fault.site

theorem ensureDirectoryAt_of_fault {lead last : Text} {above : List Text} {fault : SystemFault}
    (makes : site.makeDirectory ⟨lead, (last :: above).reverse⟩ = .error fault)
    (other : fault ≠ .missing) :
    site.ensureDirectoryAt lead (last :: above) =
      if site.leadsToDirectory ⟨lead, (last :: above).reverse⟩ then .ok site
      else .error ⟨fault, ⟨lead, (last :: above).reverse⟩, site⟩ := by
  rw [ensureDirectoryAt, makes]
  cases fault with
  | missing => exact absurd rfl other
  | _ => rfl

/-- Making a directory with those above it only adds directories, also where it fails; where it
succeeds the path leads to a directory. -/
theorem ensureDirectoryAt_grown (lead : Text) (steps : List Text) :
    Grown site (madeBy (site.ensureDirectoryAt lead steps)) ∧
      ∀ made, site.ensureDirectoryAt lead steps = .ok made →
        made.leadsToDirectory ⟨lead, steps.reverse⟩ := by
  induction steps with
  | nil =>
      rw [ensureDirectoryAt]
      split_ifs with leads
      · exact ⟨.refl site, fun made same => Except.ok.inj same ▸ leads⟩
      · exact ⟨.refl site, nofun⟩
  | cons last above inductionHypothesis =>
      cases makes : site.makeDirectory ⟨lead, (last :: above).reverse⟩ with
      | ok made =>
          obtain ⟨grown, leads⟩ := makeDirectory_ok makes
          rw [ensureDirectoryAt, makes]
          exact ⟨grown, fun other same => Except.ok.inj same ▸ leads⟩
      | error fault =>
          by_cases missing : fault = .missing
          · subst missing
            rw [ensureDirectoryAt, makes]
            dsimp only
            cases prepares : site.ensureDirectoryAt lead above with
            | error fault =>
                rw [prepares] at inductionHypothesis
                exact ⟨inductionHypothesis.1, nofun⟩
            | ok prepared =>
                rw [prepares] at inductionHypothesis
                simp only [bind, Except.bind]
                cases makesLast : prepared.makeDirectory ⟨lead, (last :: above).reverse⟩ with
                | ok made =>
                    obtain ⟨grown, leads⟩ := makeDirectory_ok makesLast
                    exact ⟨inductionHypothesis.1.trans grown,
                      fun other same => Except.ok.inj same ▸ leads⟩
                | error fault =>
                    dsimp only
                    split_ifs with leads
                    · rw [Bool.and_eq_true] at leads
                      exact ⟨inductionHypothesis.1, fun other same => Except.ok.inj same ▸ leads.2⟩
                    · exact ⟨inductionHypothesis.1, nofun⟩
          · rw [ensureDirectoryAt_of_fault makes missing]
            split_ifs with leads
            · exact ⟨.refl site, fun made same => Except.ok.inj same ▸ leads⟩
            · exact ⟨.refl site, nofun⟩

theorem ensureDirectory_grown (site : Site) (path : Path) :
    Grown site (madeBy (site.ensureDirectory path)) :=
  (ensureDirectoryAt_grown path.lead path.steps.reverse).1

theorem leadsToDirectory_of_ensureDirectory (makes : before.ensureDirectory path = .ok after) :
    after.leadsToDirectory path := by
  have leads := (ensureDirectoryAt_grown path.lead path.steps.reverse).2 after makes
  rwa [List.reverse_reverse] at leads

theorem ensureDirectory_of_leadsToDirectory (leads : site.leadsToDirectory path) :
    site.ensureDirectory path = .ok site := by
  obtain ⟨lead, steps⟩ := path
  obtain ⟨place, locates, isDirectory⟩ := leadsToDirectory_iff.mp leads
  rw [ensureDirectory]
  cases reversed : steps.reverse with
  | nil =>
      rw [List.reverse_eq_nil_iff] at reversed
      subst reversed
      rw [ensureDirectoryAt]
      exact if_pos leads
  | cons last above =>
      have same : (last :: above).reverse = steps := by rw [← reversed, List.reverse_reverse]
      have makes : site.makeDirectory ⟨lead, (last :: above).reverse⟩ = .error .exists := by
        rw [same, makeDirectory, locates]
        exact if_pos (by rw [holds, isDirectory, Bool.true_or])
      rw [ensureDirectoryAt_of_fault makes nofun, same, if_pos leads]

/-! ## Writing -/

/-- A file can be written at a path without making a directory, and this is its place. -/
structure Opens (site : Site) (path : Path) (place : Place) : Prop where
  locates : site.locate path = .ok place
  free : site.isDirectory place = false
  parent : site.leadsToDirectory path.parent

namespace Opens

theorem openFile (opens : Opens site path place) : site.openFile path = .ok place := by
  rw [Site.openFile, opens.locates]
  simp [bind, Except.bind, opens.free, pure, Except.pure]

theorem write (opens : Opens site path place) :
    site.write path content = .ok (site.setFile place content) := by
  rw [Site.write, ensureDirectory_of_leadsToDirectory opens.parent]
  simp only [bind, Except.bind, opens.openFile]
  rfl

/-- A file can still be written at a path if no directory is lost and none lies at its place. -/
theorem transfer (opens : Opens before path place) (workplace : after.workplace = before.workplace)
    (keeps : ∀ place, before.isDirectory place → after.isDirectory place)
    (free : after.isDirectory place = false) : Opens after path place where
  locates := locate_of_directories workplace keeps opens.locates
  free := free
  parent := by
    obtain ⟨above, locates, isDirectory⟩ := leadsToDirectory_iff.mp opens.parent
    exact leadsToDirectory_iff.mpr
      ⟨above, locate_of_directories workplace keeps locates, keeps above isDirectory⟩

theorem setFile (opens : Opens site path place) : Opens (site.setFile asked content) path place :=
  opens.transfer workplace_setFile (fun known isDirectory => by simpa using isDirectory)
    (by simpa using opens.free)

theorem removeFile {other : Path} (opens : Opens site path place) :
    Opens (site.removeFile other) path place :=
  opens.transfer workplace_removeFile (fun known isDirectory => by simpa using isDirectory)
    (by simpa using opens.free)

theorem grown (opens : Opens before path place) (held : before.isFile place)
    (grown : Grown before after) : Opens after path place := by
  refine opens.transfer grown.workplace grown.keeps (Bool.eq_false_iff.mpr fun isDirectory => ?_)
  rcases grown.fresh place isDirectory with earlier | absent
  · exact Bool.eq_false_iff.mp opens.free earlier
  · rw [isFile, absent] at held
    exact Bool.false_ne_true held

end Opens

/-- Writing a file makes directories and sets the file. -/
theorem write_ok (writes : before.write path content = .ok after) :
    ∃ prepared place, Grown before prepared ∧ Opens prepared path place ∧
      after = prepared.setFile place content := by
  have grown := ensureDirectory_grown before path.parent
  obtain ⟨prepared, prepares, writes⟩ := exists_of_bind writes
  rw [prepares] at grown
  cases opens : prepared.openFile path with
  | error fault => rw [opens] at writes; cases writes
  | ok place =>
      rw [opens] at writes
      obtain rfl := Except.ok.inj writes
      refine ⟨prepared, place, grown, ?_, rfl⟩
      obtain ⟨found, locates, opens⟩ := exists_of_bind opens
      split_ifs at opens with isDirectory
      obtain rfl := Except.ok.inj opens
      have free : prepared.isDirectory found = false := Bool.eq_false_iff.mpr isDirectory
      exact ⟨locates, free, leadsToDirectory_of_ensureDirectory prepares⟩

/-- A fault only makes directories. -/
theorem write_error {fault : WriteFault} (fails : before.write path content = .error fault) :
    Grown before fault.site := by
  have grown := ensureDirectory_grown before path.parent
  rw [write] at fails
  cases prepares : before.ensureDirectory path.parent with
  | error cause =>
      rw [prepares] at fails grown
      obtain rfl := Except.error.inj fails
      exact grown
  | ok prepared =>
      rw [prepares] at fails grown
      simp only [bind, Except.bind] at fails
      cases opens : prepared.openFile path with
      | error cause =>
          rw [opens] at fails
          obtain rfl := Except.error.inj fails
          exact grown
      | ok place => rw [opens] at fails; cases fails

/-! ## Reading -/

/-- A path that reads a text leads to a file that decodes to it but for its line ends. -/
theorem read_eq_some_iff {content : Text} :
    site.read path = .ok (some content) ↔
      ∃ place bytes raw, site.locate path = .ok place ∧ site.isDirectory place = false ∧
        site.file? place = some bytes ∧ Text.decode 0 bytes = .ok raw ∧
        content = Text.normalizeNewlines raw := by
  constructor
  · intro reads
    rw [read] at reads
    split at reads
    · cases reads
    · cases reads
    · next place locates =>
        split_ifs at reads with isDirectory
        split at reads
        · cases reads
        · next bytes found =>
            split at reads
            · next raw decodes =>
                refine ⟨place, bytes, raw, locates, Bool.eq_false_iff.mpr isDirectory, found,
                  decodes, ?_⟩
                exact (Option.some.inj (Except.ok.inj reads)).symm
            · cases reads
  · rintro ⟨place, bytes, raw, locates, free, found, decodes, rfl⟩
    rw [read, locates]
    simp only [free, found, decodes, Bool.false_eq_true, if_false]

/-- The text of the file at a place. -/
def textAt? (site : Site) (place : Place) : Option Text :=
  (site.file? place).bind fun bytes =>
    (Text.decode 0 bytes).toOption.map Text.normalizeNewlines

/-- A path that reads a text reads it from the file at its place. -/
theorem textAt?_of_read {content : Text} (reads : site.read path = .ok (some content)) :
    site.textAt? (path.place site.workplace) = some content := by
  obtain ⟨place, bytes, raw, locates, -, found, decodes, rfl⟩ := read_eq_some_iff.mp reads
  rw [place_of_locate locates, textAt?, found, Option.bind_some, decodes]
  rfl

/-- The bytes of a file that a path reads decode to the text but for its line ends. -/
theorem exists_of_read {content : Text} (reads : site.read path = .ok (some content)) :
    ∃ bytes raw, site.file? (path.place site.workplace) = some bytes ∧
      Text.decode 0 bytes = .ok raw ∧ content = Text.normalizeNewlines raw := by
  obtain ⟨place, bytes, raw, locates, -, found, decodes, same⟩ := read_eq_some_iff.mp reads
  rw [place_of_locate locates]
  exact ⟨bytes, raw, found, decodes, same⟩

/-- A path that reads nothing although there is a file at its place: one that goes up again from
where there is no directory. -/
def Hides (site : Site) (path : Path) : Prop :=
  site.read path = .ok none ∧ site.isFile (path.place site.workplace)

instance (site : Site) (path : Path) : Decidable (site.Hides path) :=
  inferInstanceAs (Decidable (_ ∧ _))

end Site

end EmbedScaffold
