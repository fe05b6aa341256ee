import EmbedScaffold.Proofs.Run.Again

/-!
# What a report tells of the files

The documents that a report lists as written are those that the run has written: each of them now
holds its staged text, which is balanced and new to it, and no other file has changed.  A dry run
writes nothing, and neither does a transactional run in which a step failed before the commit.
-/

namespace EmbedScaffold

/-! ## Drafts -/

namespace Drafts

variable {drafts : Drafts} {place : Place} {draft : Draft}

theorem at?_of_mem (distinct : (drafts.map Prod.fst).Nodup) (member : (place, draft) ∈ drafts) :
    drafts.at? place = some draft := by
  obtain ⟨earlier, later, rfl⟩ := List.append_of_mem member
  refine List.lookup_eq_some_iff.mpr ⟨earlier, later, rfl, fun other among => ?_⟩
  rw [List.map_append, List.nodup_append] at distinct
  have apart := distinct.2.2 other.1 (List.mem_map_of_mem among) place List.mem_cons_self
  simpa using Ne.symm apart

/-- What is written is a draft that changed and is balanced. -/
theorem sound_of_mem_writable (member : draft ∈ drafts.writable)
    (encodable : draft.encodable = true) :
    draft.before ≠ some draft.content ∧ checkBalanced draft.script = .ok () := by
  have writes := (List.mem_filter.mp member).2
  obtain ⟨dirty, balanced⟩ := Bool.and_eq_true_iff.mp writes
  constructor
  · simpa [Draft.isDirty, encodable] using dirty
  · rw [Draft.isBalanced] at balanced
    cases checks : draft.check with
    | ok _ => exact checks
    | error cause =>
        rw [checks] at balanced
        cases balanced

end Drafts

namespace Run

variable {means : Means} {settings : Settings} {staging : Staging} {ending : Ending}
  {report : Report}

/-! ## Pushing -/

/-- Whether a step tells of a push. -/
def isPush (step : Step) : Prop :=
  step.name = "push".toList

theorem isPush_of_push {publisher : Remote.Publisher} {workplace : Place}
    {exchange : Remote.Exchange} {drafts : List Draft} {pushed : List Remote.Push}
    {steps : List Step}
    (pushes : (push publisher settings workplace exchange drafts).1 = .ok (pushed, steps)) :
    ∀ step ∈ steps, isPush step := by
  induction drafts generalizing exchange pushed steps with
  | nil =>
      cases pushes
      exact nofun
  | cons draft rest inductionHypothesis =>
      rw [push] at pushes
      split at pushes
      · cases pushes
      · split at pushes
        · cases pushes
        · next others later last behind =>
            cases pushes
            intro step member
            rcases List.mem_cons.mp member with rfl | inLater
            · unfold pushStep
              split_ifs <;> rfl
            · exact inductionHypothesis (congrArg Prod.fst behind) step inLater

theorem isPush_of_pushWritten {workplace : Place} {exchange : Remote.Exchange}
    {drafts : List Draft} {pushed : List Remote.Push} {steps : List Step}
    (pushes : (pushWritten means settings workplace exchange drafts).1 = .ok (pushed, steps)) :
    ∀ step ∈ steps, isPush step := by
  unfold pushWritten at pushes
  split at pushes
  · exact isPush_of_push pushes
  · cases pushes
    exact nofun

/-! ## Finishing -/

/-- Whether a report tells of a commit that was undone. -/
def Undone (report : Report) : Prop :=
  ∃ path cause restored, report.error = some (undoneMessage path cause restored)

/-- What has become of the drafts of a run that has committed them: those that its report lists are
written, and before the commit no step of a transactional run had failed. -/
structure Committed (settings : Settings) (component : Component) (staging : Staging)
    (start left : Site) (report : Report) (kept : List Draft) : Prop where
  writes : settings.dryRun = false
  component : report.component = some component
  steps : staging.steps <+: report.steps
  written : report.written = kept.map Draft.path
  sublist : kept.Sublist staging.drafts.writable
  encodable : ∀ draft ∈ kept, draft.encodable = true
  progress : Commit.Progress start left kept
  careful : settings.transactional = true →
    ∀ step ∈ report.steps, step.failed = true → isPush step

/-- A run that reports has written nothing, or it has committed its drafts.  If it has written
nothing, it leaves the site alone unless the commit was undone. -/
theorem finish_written {component : Component}
    (finishes : (finish means settings staging
      { component := some component, steps := staging.steps } ending).result = .ok report) :
    (report.written = [] ∧
        (¬ Undone report →
          (finish means settings staging
            { component := some component, steps := staging.steps } ending).site =
              ending.site)) ∨
      ∃ kept, Committed settings component staging ending.site
        (finish means settings staging
          { component := some component, steps := staging.steps } ending).site report kept := by
  unfold finish at *
  dsimp only at *
  split_ifs at * with stopped dry
  · obtain rfl := Except.ok.inj finishes
    exact .inl ⟨rfl, fun _ => rfl⟩
  · obtain rfl := Except.ok.inj finishes
    exact .inl ⟨rfl, fun _ => rfl⟩
  · unfold commit at *
    cases commits : Commit.ofDrafts means.refusals settings.transactional ending.site
        staging.drafts.writable with
    | unencodable left => rw [commits] at finishes; cases finishes
    | undone left path cause restored =>
        rw [commits] at finishes
        obtain rfl := Except.ok.inj finishes
        exact .inl ⟨rfl, fun standing => absurd ⟨path, cause, restored, rfl⟩ standing⟩
    | finished left written failures =>
        rw [commits] at finishes
        dsimp only at finishes ⊢
        obtain ⟨kept, later, onlyKept, onlyLater, progress, completed⟩ :=
          (Commit.Progress.begun ending.site).finished commits
        obtain rfl : written = kept := onlyKept
        obtain rfl : failures = later := onlyLater
        cases pushes : (pushWritten means settings left.workplace ending.exchange written).1 with
        | error fault => rw [pushes] at finishes; cases finishes
        | ok told =>
            obtain ⟨pushed, steps⟩ := told
            rw [pushes] at finishes
            obtain rfl := Except.ok.inj finishes
            refine .inr ⟨written, Bool.eq_false_iff.mpr dry, rfl, ?_, rfl, completed.sublist,
              completed.encodable, progress, fun careful step member failed => ?_⟩
            · exact ⟨failures ++ steps, (List.append_assoc _ _ _).symm⟩
            · have sound : staging.failures = [] := by simpa [careful] using stopped
              -- A transactional commit that finishes has no failures of its own.
              rw [completed.careful careful, List.append_nil] at member
              rcases List.mem_append.mp member with earlier | push
              · have fine := List.filter_eq_nil_iff.mp sound step earlier
                exact absurd failed fine
              · exact isPush_of_pushWritten pushes step push

/-! ## The whole run -/

/-- Whether a run comes so far as to have a staging of a component. -/
def Stages (refusals : Refusals) (settings : Settings) (shell : Shell) (site : Site) (name : Text)
    (component : Component) (staging : Staging) : Prop :=
  ∃ means existing generation warnings,
    Means.ofSettings settings shell refusals = .ok means ∧
    Run.existing settings site name = .ok existing ∧
    Component.generate means.formatter means.shell name (settings.componentPath name) existing =
      .ok generation ∧
    generation.component = component ∧
    checkOwner settings site component = .ok warnings ∧
    stage settings site component (Staging.ofComponent site.workplace existing component) =
      .ok staging

variable {refusals : Refusals} {shell : Shell} {site left : Site} {name : Text}
  {component : Component}

theorem Stages.exists_existing
    (staged : Stages refusals settings shell site name component staging) :
    ∃ existing, site.read component.path = .ok existing ∧
      stage settings site component (Staging.ofComponent site.workplace existing component) =
        .ok staging := by
  obtain ⟨means, existing, generation, warnings, -, reads, generates, rfl, -, stages⟩ := staged
  refine ⟨existing, ?_, stages⟩
  rw [(Component.generate_ok generates).2.2]
  exact existing_ok reads

/-- A run that reports has written nothing, or it has committed the drafts that it staged. -/
theorem runUnder_written (refusals : Refusals) (settings : Settings) (shell : Shell) (site : Site)
    (exchange : Remote.Exchange) (name : Text) {report : Report}
    (ends : (runUnder refusals settings shell site exchange name).result = .ok report) :
    (report.written = [] ∧
        (¬ Undone report →
          (runUnder refusals settings shell site exchange name).site = site)) ∨
      ∃ component staging kept,
        Stages refusals settings shell site name component staging ∧
        Committed settings component staging site
          (runUnder refusals settings shell site exchange name).site report kept := by
  unfold runUnder at *
  cases creates : Means.ofSettings settings shell refusals with
  | error fault => rw [creates] at ends; cases ends
  | ok means =>
      rw [creates] at ends
      dsimp only at ends ⊢
      have course : Course means settings name { result := .ok {}, site, exchange }
          (withMeans means settings name { result := .ok {}, site, exchange }) :=
        withMeans_course _
      generalize withMeans means settings name _ = ending at *
      cases course with
      | stopped same unsuccessful unwritten =>
          rw [Ending.written, ends] at unwritten
          exact .inl ⟨unwritten, fun _ => same⟩
      | @staged existing generation warnings staging _ reads generates leads owns stages same =>
          obtain ⟨rfl, -⟩ := Means.ofSettings_ok creates
          have staged :
              Stages refusals settings means.shell site name generation.component staging :=
            ⟨means, existing, generation, warnings, creates, reads, generates, rfl, owns, stages⟩
          rcases finish_written ends with ⟨unwritten, unchanged⟩ | ⟨kept, committed⟩
          · exact .inl ⟨unwritten, fun standing => (unchanged standing).trans same⟩
          · rw [same] at committed
            exact .inr ⟨generation.component, staging, kept, staged, committed⟩

/-- What was committed is kept under places of its own. -/
theorem Committed.distinct {kept : List Draft}
    (committed : Committed settings component staging site left report kept)
    (staged : Stages refusals settings shell site name component staging) :
    (kept.map fun draft => draft.path.place site.workplace).Nodup := by
  obtain ⟨existing, reads, stages⟩ := staged.exists_existing
  have writable := (stage_faithful reads stages).nodup_writable (stage_distinct stages)
  exact writable.sublist (committed.sublist.map _)

/-- A file that a report lists holds the draft that was staged for it. -/
theorem Committed.holds {kept : List Draft}
    (committed : Committed settings component staging site left report kept)
    (staged : Stages refusals settings shell site name component staging) {path : Path}
    (member : path ∈ report.written) :
    ∃ draft, staging.drafts.at? (path.place site.workplace) = some draft ∧
      draft.path = path ∧
      left.file? (path.place site.workplace) = some (Text.encode draft.content) ∧
      site.read path = .ok draft.before ∧
      draft.before ≠ some draft.content ∧
      checkBalanced draft.script = .ok () := by
  have distinct := committed.distinct staged
  obtain ⟨existing, reads, stages⟩ := staged.exists_existing
  rw [committed.written] at member
  obtain ⟨draft, inKept, rfl⟩ := List.mem_map.mp member
  have writable := committed.sublist.subset inKept
  have encodable := committed.encodable draft inKept
  obtain ⟨-, place, among⟩ := Staging.mem_writable writable
  obtain ⟨here, read⟩ := stage_faithful reads stages place draft among
  have holds := committed.progress.stored distinct draft inKept
  rw [Commit.bytesOf, if_pos encodable] at holds
  refine ⟨draft, ?_, rfl, holds, read, Drafts.sound_of_mem_writable writable encodable⟩
  rw [here]
  exact Drafts.at?_of_mem (stage_distinct stages) among

/-- Whether a report tells the truth about the files that a run has left.  It lists files that are
pairwise different; each of them holds the text that was staged for it, which is another than the one
read before and is balanced; all other files are as they were.  Nothing is written by a dry run, or
by a transactional run in which a step failed, unless it was a push. -/
structure Truthful (refusals : Refusals) (settings : Settings) (shell : Shell) (site : Site)
    (name : Text) (left : Site) (report : Report) : Prop where
  distinct : (report.written.map fun path => path.place site.workplace).Nodup
  written : ∀ path ∈ report.written, ∃ component staging draft,
    Stages refusals settings shell site name component staging ∧
    staging.drafts.at? (path.place site.workplace) = some draft ∧
    draft.path = path ∧
    left.file? (path.place site.workplace) = some (Text.encode draft.content) ∧
    site.read path = .ok draft.before ∧
    draft.before ≠ some draft.content ∧
    checkBalanced draft.script = .ok ()
  others : ∀ place, (∀ path ∈ report.written, path.place site.workplace ≠ place) →
    left.file? place = site.file? place
  idle : settings.dryRun = true ∨
      (settings.transactional = true ∧
        ∃ step ∈ report.steps, step.failed = true ∧ ¬ isPush step) →
    report.written = [] ∧ left = site

theorem truthful_of_unwritten (unwritten : report.written = []) (same : left = site) :
    Truthful refusals settings shell site name left report where
  distinct := by
    rw [unwritten]
    exact List.nodup_nil
  written path member := by
    rw [unwritten] at member
    cases member
  others place _ := by rw [same]
  idle _ := ⟨unwritten, same⟩

theorem Committed.truthful {kept : List Draft}
    (committed : Committed settings component staging site left report kept)
    (staged : Stages refusals settings shell site name component staging) :
    Truthful refusals settings shell site name left report where
  distinct := by
    rw [committed.written, List.map_map]
    exact committed.distinct staged
  written path member := by
    obtain ⟨draft, holds⟩ := committed.holds staged member
    exact ⟨component, staging, draft, staged, holds⟩
  others place apart := by
    apply committed.progress.others place
    intro draft inKept
    apply apart
    rw [committed.written]
    exact List.mem_map_of_mem inKept
  idle reason := by
    rcases reason with dry | ⟨careful, step, member, failed, noPush⟩
    · cases committed.writes.symm.trans dry
    · exact absurd (committed.careful careful step member failed) noPush

end Run

namespace Run

/-- Settings under which a run writes what it can. -/
def patientSettings : Settings :=
  { compactSettings with transactional := false }

/-- A small site with a playground that does not read as a script. -/
def crookedSite : Site :=
  { compactSite "" [] with
    files := [([['r']], Text.encode "const COMMON_FIELDS = input = \x7b\x7d;\n".toList),
      ([['p']], Text.encode "<p>(</p>\n".toList)] }

/-- A system that does not let a run write the component's document. -/
def withoutComponent : Refusals :=
  [([['d'], "Tab.svelte".toList], "full".toList)]

/-- A run on that site under that system. -/
def patientRun : Ending :=
  runUnder withoutComponent patientSettings compactShell crookedSite ⟨[], []⟩ "Tab".toList

end Run

end EmbedScaffold
