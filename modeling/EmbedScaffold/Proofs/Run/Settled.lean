import EmbedScaffold.Proofs.Run.Course
import EmbedScaffold.Proofs.Run.Target

/-!
# Settled sites

A site is settled for a component if its lookup key is not another one's and no target finds
anything to do.  Where the component's document stands as it is generated, a run changes nothing
exactly if the site is settled: then it stages nothing but what it has read, and no step tells of a
change.
-/

namespace EmbedScaffold

namespace Target

/-- Whether the edit of a target finds nothing to do in a text: it has no place for the component,
or has it already. -/
def IsQuiet (target : Target) (content : Text) : Prop :=
  target.edit content = .ok none ∨
    (target.edit content = .ok (some ⟨content, false⟩) ∧ target.encodable = true)

/-- Whether a target has nothing to do: its document has what the edit would enter, or is missing
and may not be created. -/
def IsSettled (site : Site) (target : Target) : Prop :=
  target.path.hasNull = false ∧
    ((∃ content, site.read target.path = .ok (some content) ∧ target.IsQuiet content) ∨
      (site.read target.path = .ok none ∧ target.initial = none))

/-- Whether the path of a target can be read and hides no file. -/
def IsDirect (site : Site) (target : Target) : Prop :=
  (∃ found, site.read target.path = .ok found) ∧ ¬ site.Hides target.path

instance (target : Target) (content : Text) : Decidable (target.IsQuiet content) :=
  inferInstanceAs (Decidable (_ ∨ _))

/-- Whether a target is direct and has nothing to do, decided from what its path reads. -/
def isSettled (site : Site) (target : Target) : Bool :=
  ! target.path.hasNull && ! decide (site.Hides target.path) &&
    match site.read target.path with
    | .ok (some content) => decide (target.IsQuiet content)
    | .ok none => target.initial.isNone
    | .error _ => false

theorem isSettled_iff {site : Site} {target : Target} :
    target.isSettled site = true ↔ target.IsDirect site ∧ target.IsSettled site := by
  rw [isSettled, IsDirect, IsSettled]
  cases site.read target.path with
  | error fault => simp
  | ok found => cases found <;> simp [and_assoc, and_left_comm]

end Target

/-- Whether a step tells that its document stays as it is. -/
def Step.IsIdle (step : Step) : Prop :=
  step.status = .unchanged ∨ step.status = .skipped

/-- A step that tells of an edit is idle exactly if the document was read and stays as it is. -/
theorem Step.isIdle_ofEdit_iff {name detail : Text} {path : Path} {isNew changed : Bool} :
    Step.IsIdle ⟨name, path, Status.ofEdit isNew changed, detail⟩ ↔
      isNew = false ∧ changed = false := by
  cases isNew <;> cases changed <;> simp [IsIdle, Status.ofEdit]

theorem Step.IsIdle.not_failed {step : Step} (idle : step.IsIdle) : step.failed = false := by
  rcases idle with unchanged | skipped
  · simp [failed, unchanged]
  · simp [failed, skipped]

namespace Draft

variable {draft : Draft}

/-- Whether a draft is what was read. -/
def IsKept (draft : Draft) : Prop :=
  draft.before = some draft.content ∧ draft.encodable = true

theorem isKept_iff : draft.IsKept ↔ draft.isDirty = false := by
  rw [IsKept, isDirty, Bool.or_eq_false_iff, Bool.not_eq_false', decide_eq_false_iff_not,
    not_not, and_comm]

theorem IsKept.not_isDirty (kept : draft.IsKept) : draft.isDirty = false :=
  isKept_iff.mp kept

end Draft

/-- Nothing is written of drafts that are what was read. -/
theorem Drafts.writable_of_kept {drafts : Drafts}
    (kept : ∀ place draft, (place, draft) ∈ drafts → draft.IsKept) : drafts.writable = [] := by
  refine List.filter_eq_nil_iff.mpr fun draft member writes => ?_
  obtain ⟨⟨place, _⟩, among, rfl⟩ := List.mem_map.mp member
  rw [(kept place _ among).not_isDirty] at writes
  cases writes

/-- A direct path of a file is not read as missing. -/
theorem Target.IsDirect.not_missing {site : Site} {target : Target} {content : Text}
    (direct : target.IsDirect site)
    (held : site.textAt? (target.path.place site.workplace) = some content) :
    site.read target.path ≠ .ok none := by
  intro missing
  obtain ⟨bytes, file, -⟩ := Option.bind_eq_some_iff.mp held
  have isFile : site.isFile (target.path.place site.workplace) = true := by
    rw [Site.isFile, file]
    rfl
  exact direct.2 ⟨missing, isFile⟩

namespace Staging

variable {site : Site} {drafts : Drafts} {staging : Staging} {target : Target}
  {targets : List Target}

/-- Whether nothing is staged but what the site holds, and all steps tell so. -/
structure IsIdle (site : Site) (staging : Staging) : Prop where
  kept : ∀ place draft, (place, draft) ∈ staging.drafts →
    draft.IsKept ∧ site.textAt? place = some draft.content
  steps : ∀ step ∈ staging.steps, step.IsIdle

/-! ## One target -/

/-- A settled target is missing, or is drafted as what the site holds and finds nothing to do. -/
theorem IsIdle.draftFor (idle : IsIdle site staging) (direct : target.IsDirect site)
    (settled : target.IsSettled site) :
    draftFor site staging.drafts target = .ok none ∨
      ∃ draft, draftFor site staging.drafts target = .ok (some draft) ∧ draft.IsKept ∧
        site.textAt? (target.path.place site.workplace) = some draft.content ∧
        target.IsQuiet draft.content := by
  obtain ⟨-, reading⟩ := settled
  rw [Staging.draftFor]
  cases found : staging.drafts.at? (target.path.place site.workplace) with
  | some draft =>
      obtain ⟨kept, held⟩ := idle.kept _ draft (Drafts.mem_of_at? found)
      refine .inr ⟨draft, rfl, kept, held, ?_⟩
      obtain ⟨content, reads, quiet⟩ := reading.resolve_right
        fun missing => direct.not_missing held missing.1
      obtain rfl := Option.some.inj (held.symm.trans (Site.textAt?_of_read reads))
      exact quiet
  | none =>
      rcases reading with ⟨content, reads, quiet⟩ | ⟨reads, uncreated⟩
      · rw [reads]
        exact .inr ⟨_, rfl, ⟨rfl, rfl⟩, Site.textAt?_of_read reads, quiet⟩
      · rw [reads]
        exact .inl (congrArg Except.ok (by rw [uncreated]; rfl))

theorem IsIdle.put (idle : IsIdle site staging) {place : Place} {draft : Draft}
    (kept : draft.IsKept) (held : site.textAt? place = some draft.content) :
    IsIdle site { staging with drafts := staging.drafts.put place draft } where
  kept there other member := by
    rcases Drafts.mem_of_mem_put member with new | old
    · cases new
      exact ⟨kept, held⟩
    · exact idle.kept there other old
  steps := idle.steps

theorem IsIdle.record (idle : IsIdle site staging) {step : Step} (idleStep : step.IsIdle) :
    IsIdle site (staging.record step) where
  kept := idle.kept
  steps other member := by
    rcases List.mem_append.mp member with earlier | last
    · exact idle.steps other earlier
    · obtain rfl := List.mem_singleton.mp last
      exact idleStep

theorem IsIdle.apply (idle : IsIdle site staging) (direct : target.IsDirect site)
    (settled : target.IsSettled site) :
    ∃ next, apply site staging target = .ok next ∧ IsIdle site next := by
  rw [Staging.apply, if_neg (by rw [settled.1]; exact Bool.false_ne_true)]
  rcases idle.draftFor direct settled with
    missing | ⟨draft, begins, kept, held, edits | ⟨edits, encodable⟩⟩
  · rw [missing]
    exact ⟨_, rfl, idle.record (.inr rfl)⟩
  · rw [begins]
    dsimp only
    rw [edits]
    refine ⟨_, rfl, ?_⟩
    rw [kept.1, if_neg (by simp)]
    exact (idle.put kept held).record (.inr rfl)
  · rw [begins]
    dsimp only
    rw [edits]
    have keptAgain : Draft.IsKept { draft with encodable := draft.encodable && target.encodable } :=
      ⟨kept.1, by rw [kept.2, encodable, Bool.and_self]⟩
    refine ⟨_, rfl, (idle.put keptAgain held).record (.inl ?_)⟩
    rw [kept.1, encodable]
    rfl

theorem leads_of_apply {next : Staging} (applies : apply site staging target = .ok next) :
    target.path.hasNull = false := by
  unfold Staging.apply at applies
  dsimp only at applies
  split_ifs at applies with hasNull
  exact Bool.eq_false_iff.mpr hasNull

/-- What a target is drafted as, where nothing is staged but what the site holds: the text that its
path reads, or a new document. -/
theorem IsIdle.drafted {draft : Draft} (idle : IsIdle site staging)
    (direct : target.IsDirect site)
    (begins : Staging.draftFor site staging.drafts target = .ok (some draft)) :
    (site.read target.path = .ok (some draft.content) ∧ draft.IsKept ∧
        site.textAt? (target.path.place site.workplace) = some draft.content) ∨
      (draft.before = none ∧ target.initial.isSome) := by
  cases drafted_of_draftFor begins with
  | staged found =>
      obtain ⟨kept, held⟩ := idle.kept _ draft (Drafts.mem_of_at? found)
      obtain ⟨found, reads⟩ := direct.1
      cases found with
      | none => exact absurd reads (direct.not_missing held)
      | some content =>
          obtain rfl := Option.some.inj (held.symm.trans (Site.textAt?_of_read reads))
          exact .inl ⟨reads, kept, held⟩
  | read absent reads => exact .inl ⟨reads, ⟨rfl, rfl⟩, Site.textAt?_of_read reads⟩
  | new absent reads initial => exact .inr ⟨rfl, by rw [initial]; rfl⟩

theorem missing_of_draftFor (begins : Staging.draftFor site drafts target = .ok none) :
    site.read target.path = .ok none ∧ target.initial = none := by
  rw [Staging.draftFor] at begins
  split at begins
  · cases begins
  · obtain ⟨found, reads, begins⟩ := exists_of_bind begins
    cases found with
    | some content => cases begins
    | none => exact ⟨reads, Option.map_eq_none_iff.mp (Except.ok.inj begins)⟩

/-- A target whose step tells of no change is settled, and leaves what the site holds. -/
theorem IsIdle.settled_of_applied {step : Step} {later : Drafts} (idle : IsIdle site staging)
    (orderly : target.IsOrderly) (direct : target.IsDirect site)
    (leads : target.path.hasNull = false)
    (applied : Applied site staging.drafts target step later) (idleStep : step.IsIdle) :
    target.IsSettled site ∧ ∀ place draft, (place, draft) ∈ later →
      draft.IsKept ∧ site.textAt? place = some draft.content := by
  cases applied with
  | unread begins => exact absurd idleStep (by simp [Step.IsIdle])
  | unedited begins edits => exact absurd idleStep (by simp [Step.IsIdle])
  | missing begins => exact ⟨⟨leads, .inr (missing_of_draftFor begins)⟩, idle.kept⟩
  | withoutPlace begins edits =>
      rcases idle.drafted direct begins with ⟨reads, kept, held⟩ | ⟨new, creates⟩
      · refine ⟨⟨leads, .inl ⟨_, reads, .inl edits⟩⟩, ?_⟩
        rw [kept.1, if_neg (by simp)]
        exact (idle.put kept held).kept
      · exact absurd edits (orderly.enters creates _)
  | @entered draft outcome begins edits =>
      rcases idle.drafted direct begins with ⟨reads, kept, held⟩ | ⟨new, creates⟩
      · -- A document that was read is told as unchanged only if its text and its encoding are.
        have told : outcome.changed = false ∧ target.encodable = true := by
          simpa using (Step.isIdle_ofEdit_iff.mp idleStep).2
        have same : outcome.content = draft.content := orderly.honest _ _ edits told.1
        obtain ⟨content, changed⟩ := outcome
        obtain rfl : content = draft.content := same
        obtain rfl : changed = false := told.1
        have keptAgain : Draft.IsKept
            { draft with encodable := draft.encodable && target.encodable } :=
          ⟨kept.1, by rw [kept.2, told.2, Bool.and_self]⟩
        exact ⟨⟨leads, .inl ⟨_, reads, .inr ⟨edits, told.2⟩⟩⟩, (idle.put keptAgain held).kept⟩
      · rw [new] at idleStep
        cases (Step.isIdle_ofEdit_iff.mp idleStep).1

theorem IsIdle.settled_of_apply {next : Staging} (idle : IsIdle site staging)
    (orderly : target.IsOrderly) (direct : target.IsDirect site)
    (applies : Staging.apply site staging target = .ok next)
    (idleSteps : ∀ step ∈ next.steps, step.IsIdle) :
    target.IsSettled site ∧ IsIdle site next := by
  obtain ⟨step, applied, steps⟩ := apply_ok applies
  have idleStep : step.IsIdle := by
    refine idleSteps step ?_
    rw [steps]
    exact List.mem_append_right _ List.mem_cons_self
  obtain ⟨settled, kept⟩ :=
    idle.settled_of_applied orderly direct (leads_of_apply applies) applied idleStep
  exact ⟨settled, kept, idleSteps⟩

/-! ## All targets -/

theorem IsIdle.edit (idle : IsIdle site staging)
    (direct : ∀ target ∈ targets, target.IsDirect site)
    (settled : ∀ target ∈ targets, target.IsSettled site) :
    ∃ next, edit site staging targets = .ok next ∧ IsIdle site next := by
  induction targets generalizing staging with
  | nil => exact ⟨staging, rfl, idle⟩
  | cons target rest inductionHypothesis =>
      obtain ⟨next, applies, nextIdle⟩ :=
        idle.apply (direct target List.mem_cons_self) (settled target List.mem_cons_self)
      obtain ⟨last, edits, lastIdle⟩ := inductionHypothesis nextIdle
        (fun other member => direct other (List.mem_cons_of_mem target member))
        (fun other member => settled other (List.mem_cons_of_mem target member))
      refine ⟨last, ?_, lastIdle⟩
      rw [Staging.edit, List.foldlM_cons, applies]
      exact edits

/-- Targets whose steps tell of no change are settled. -/
theorem IsIdle.settled_of_edit {last : Staging} (idle : IsIdle site staging)
    (orderly : ∀ target ∈ targets, target.IsOrderly)
    (direct : ∀ target ∈ targets, target.IsDirect site)
    (edits : Staging.edit site staging targets = .ok last)
    (idleSteps : ∀ step ∈ last.steps, step.IsIdle) :
    ∀ target ∈ targets, target.IsSettled site := by
  -- A step tells of its own target only because the steps before it staged nothing new.
  induction targets generalizing staging with
  | nil => nofun
  | cons target rest inductionHypothesis =>
      rw [Staging.edit, List.foldlM_cons] at edits
      obtain ⟨next, applies, edits⟩ := exists_of_bind edits
      have idleNext : ∀ step ∈ next.steps, step.IsIdle := by
        obtain ⟨trace, -, -, steps⟩ := edit_ok edits
        intro step member
        refine idleSteps step ?_
        rw [steps]
        exact List.mem_append_left _ member
      obtain ⟨settled, nextIdle⟩ := idle.settled_of_apply
        (orderly target List.mem_cons_self) (direct target List.mem_cons_self) applies idleNext
      have later := inductionHypothesis nextIdle
        (fun other member => orderly other (List.mem_cons_of_mem target member))
        (fun other member => direct other (List.mem_cons_of_mem target member)) edits
      intro other member
      rcases List.mem_cons.mp member with rfl | inRest
      · exact settled
      · exact later other inRest

theorem mapM_imbalance? (clean : ∀ entry ∈ drafts, entry.2.isDirty = false) :
    (drafts.mapM fun entry => imbalance? entry.2) = .ok (drafts.map fun _ => none) := by
  induction drafts with
  | nil => rfl
  | cons entry rest inductionHypothesis =>
      have balanced : imbalance? entry.2 = .ok none := by
        rw [imbalance?, clean entry List.mem_cons_self]
        rfl
      rw [List.mapM_cons, balanced,
        inductionHypothesis fun other member => clean other (List.mem_cons_of_mem entry member)]
      rfl

theorem IsIdle.validate (idle : IsIdle site staging) : staging.validate = .ok staging := by
  have clean : ∀ entry ∈ staging.drafts, entry.2.isDirty = false :=
    fun entry member => (idle.kept entry.1 entry.2 member).1.not_isDirty
  have none : (staging.drafts.map fun _ => (none : Option Step)).filterMap id = [] := by simp
  rw [Staging.validate, mapM_imbalance? clean]
  change Except.ok { staging with steps := staging.steps ++ List.filterMap id _ } = _
  rw [none, List.append_nil]

theorem IsIdle.failures (idle : IsIdle site staging) : staging.failures = [] :=
  List.filter_eq_nil_iff.mpr fun step member failed => by
    rw [(idle.steps step member).not_failed] at failed
    cases failed

theorem IsIdle.writable (idle : IsIdle site staging) : staging.drafts.writable = [] :=
  Drafts.writable_of_kept fun place draft member => (idle.kept place draft member).1

end Staging

/-- A report of success that tells of nothing done. -/
structure Report.IsIdle (report : Report) : Prop where
  success : report.success = true
  steps : ∀ step ∈ report.steps, step.IsIdle
  written : report.written = []

namespace Run

/-- A run that succeeded, has done nothing, and has left the site alone. -/
def Ending.IsIdle (site : Site) (ending : Ending) : Prop :=
  (∃ report, ending.result = .ok report ∧ report.IsIdle) ∧ ending.site = site

/-- Whether a component's document stands as it is generated. -/
structure Placed (site : Site) (component : Component) : Prop where
  leads : component.path.hasNull = false
  reads : site.read component.path = .ok (some component.text)
  encodable : component.encodable = true

variable {means : Means} {settings : Settings} {component : Component} {site : Site}
  {staging : Staging} {others : List Target}

/-- Whether a component that stands as it is generated has nothing more to enter. -/
def Settled (settings : Settings) (site : Site) (component : Component) (others : List Target) :
    Prop :=
  (∃ warnings, checkOwner settings site component = .ok warnings) ∧
    ∀ target ∈ Target.registries settings site.workplace component ++ others,
      target.IsSettled site

/-- A commit of nothing succeeds, and leaves everything as it is. -/
theorem commit_of_writable_nil {report : Report} {ending : Ending}
    (none : staging.drafts.writable = []) :
    commit means settings staging report ending =
      close settings
        { report with written := [], pushed := [], committed := true, success := true } ending := by
  have pushed : pushWritten means settings ending.site.workplace ending.exchange [] =
      (.ok ([], []), ending.exchange) := by
    rw [pushWritten]
    cases means.publisher <;> rfl
  rw [commit, none]
  simp only [Commit.ofDrafts, Commit.continueWith, pushed, List.append_nil, List.map_nil]

theorem finish_idle (idle : Staging.IsIdle site staging) (ending : Ending) :
    (finish means settings staging { component := some component, steps := staging.steps }
      ending).IsIdle ending.site := by
  rw [finish, idle.failures]
  simp only [List.isEmpty_nil, Bool.not_true, Bool.and_false, Bool.false_eq_true, if_false]
  split_ifs
  · exact ⟨⟨_, rfl, rfl, idle.steps, rfl⟩, rfl⟩
  · rw [commit_of_writable_nil idle.writable]
    exact ⟨⟨_, rfl, rfl, idle.steps, rfl⟩, rfl⟩

/-- A report tells of all steps of the staging. -/
theorem mem_steps_of_finish {report : Report} {ending : Ending}
    (finishes : (finish means settings staging
      { component := some component, steps := staging.steps } ending).result = .ok report)
    {step : Step} (member : step ∈ staging.steps) : step ∈ report.steps := by
  unfold finish at finishes
  dsimp only at finishes
  split_ifs at finishes
  · obtain rfl := Except.ok.inj finishes
    exact member
  · obtain rfl := Except.ok.inj finishes
    exact member
  · unfold commit at finishes
    split at finishes
    · cases finishes
    · obtain rfl := Except.ok.inj finishes
      exact member
    · dsimp only at finishes
      split at finishes
      · cases finishes
      · obtain rfl := Except.ok.inj finishes
        exact List.mem_append_left _ (List.mem_append_left _ member)

theorem Placed.begun (placed : Placed site component) :
    Staging.IsIdle site (Staging.ofComponent site.workplace (some component.text) component) := by
  have kept : Draft.IsKept
      ⟨component.path, some component.text, component.text, component.encodable⟩ :=
    ⟨rfl, placed.encodable⟩
  refine ⟨fun place draft member => ?_, fun step member => ?_⟩
  · cases List.mem_singleton.mp member
    exact ⟨kept, Site.textAt?_of_read placed.reads⟩
  · cases List.mem_singleton.mp member
    refine .inl ?_
    dsimp only
    rw [kept.not_isDirty]
    rfl

theorem Placed.stage (placed : Placed site component)
    (published : Target.loadersAndPlayground settings site component = .ok others)
    (direct : ∀ target ∈ Target.registries settings site.workplace component ++ others,
      target.IsDirect site)
    (settled : ∀ target ∈ Target.registries settings site.workplace component ++ others,
      target.IsSettled site) :
    ∃ staging,
      stage settings site component
        (Staging.ofComponent site.workplace (some component.text) component) = .ok staging ∧
      Staging.IsIdle site staging := by
  obtain ⟨staging, edits, idle⟩ := placed.begun.edit direct settled
  exact ⟨staging, by rw [stage_eq_validate published edits, idle.validate], idle⟩

theorem Placed.settled_of_stage (placed : Placed site component)
    (published : Target.loadersAndPlayground settings site component = .ok others)
    (direct : ∀ target ∈ Target.registries settings site.workplace component ++ others,
      target.IsDirect site)
    (stages : Run.stage settings site component
      (Staging.ofComponent site.workplace (some component.text) component) = .ok staging)
    (idleSteps : ∀ step ∈ staging.steps, step.IsIdle) :
    ∀ target ∈ Target.registries settings site.workplace component ++ others,
      target.IsSettled site := by
  obtain ⟨found, edited, finds, edits, validates⟩ := stage_ok stages
  obtain rfl := Except.ok.inj (finds.symm.trans published)
  obtain ⟨-, imbalances, -, steps⟩ := Staging.validate_ok validates
  have orderly : ∀ target ∈ Target.registries settings site.workplace component ++ found,
      target.IsOrderly := by
    intro target member
    exact Target.isOrderly_of_mem published member
  refine placed.begun.settled_of_edit orderly direct edits fun step member => ?_
  refine idleSteps step ?_
  rw [steps]
  exact List.mem_append_left _ member

/-- A run of a component whose document stands as it is generated does nothing exactly if the site
is settled for it. -/
theorem withMeans_idle_iff {generation : Component.Generation} {name : Text} {ending : Ending}
    (reads : existing settings ending.site name = .ok (some generation.component.text))
    (generates : Component.generate means.formatter means.shell name (settings.componentPath name)
      (some generation.component.text) = .ok generation)
    (placed : Placed ending.site generation.component)
    (published : Target.loadersAndPlayground settings ending.site generation.component =
      .ok others)
    (direct : ∀ target ∈
      Target.registries settings ending.site.workplace generation.component ++ others,
      target.IsDirect ending.site) :
    (withMeans means settings name ending).IsIdle ending.site ↔
      Settled settings ending.site generation.component others := by
  constructor
  · rintro ⟨⟨report, ends, idle⟩, -⟩
    have course : Course means settings name ending (withMeans means settings name ending) :=
      withMeans_course ending
    generalize withMeans means settings name ending = last at ends course
    cases course with
    | stopped same unsuccessful =>
        rw [Ending.succeeded, ends] at unsuccessful
        cases idle.success.symm.trans unsuccessful
    | staged readsHere generatesHere leads owns stages same =>
        obtain rfl := Except.ok.inj (readsHere.symm.trans reads)
        obtain rfl := Except.ok.inj (generatesHere.symm.trans generates)
        refine ⟨⟨_, owns⟩, placed.settled_of_stage published direct stages fun step member => ?_⟩
        exact idle.steps step (mem_steps_of_finish ends member)
  · rintro ⟨⟨warnings, owns⟩, settled⟩
    obtain ⟨staging, stages, idle⟩ := placed.stage published direct settled
    rw [withMeans, reads]
    dsimp only
    rw [generates]
    dsimp only
    rw [enter, if_neg (by rw [placed.leads]; exact Bool.false_ne_true)]
    dsimp only
    rw [owns]
    dsimp only
    rw [stages]
    exact finish_idle idle _

end Run

end EmbedScaffold
