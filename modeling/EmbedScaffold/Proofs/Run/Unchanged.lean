import EmbedScaffold.Proofs.Run.Push
import EmbedScaffold.Proofs.Run.Settled

/-!
# Runs that tell of no change

Every edit tells of a change exactly if it made one.  So a step that tells of no change leaves no
draft but what was read, also where several targets share a document, and a run whose steps all tell
so writes and pushes nothing, however it ends.
-/

namespace EmbedScaffold

/-- The edits of a document: an entry, a prelude that is more than blanks, a clause, the playground,
and the schema of a component together with what all schemas share. -/
inductive IsEdit (content : Text) (outcome : Outcome) : Prop
  | entry {wanted : EntryUpsert} (upserts : upsertEntry content wanted = .ok outcome)
  | lead {marker prelude : Text} (solid : Text.isBlankText prelude = false)
      (ensures : ensurePrelude content marker prelude = .ok outcome)
  | clause {wanted : CaseUpsert} (upserts : upsertCase content wanted = .ok (some outcome))
  | page {importLine tag : Text}
      (patches : Markup.patchPlayground content importLine tag = .ok outcome)
  | schema {key : Text} {fields : List Field}
      (edits : Target.schemaEdit key fields content = .ok outcome)

theorem IsEdit.isExact {content : Text} {outcome : Outcome} (isEdit : IsEdit content outcome) :
    outcome.IsExact content := by
  cases isEdit with
  | entry upserts => exact isExact_upsertEntry upserts
  | lead solid ensures => exact isExact_ensurePrelude solid ensures
  | clause upserts => exact isExact_upsertCase upserts
  | page patches => exact isExact_patchPlayground patches
  | schema edits => exact Target.isExact_schemaEdit edits

/-! ## Drafts that stay as they were read -/

/-- Whether all drafts are what was read. -/
def Drafts.AreKept (drafts : Drafts) : Prop :=
  ∀ place draft, (place, draft) ∈ drafts → draft.IsKept

theorem Drafts.AreKept.put {drafts : Drafts} {place : Place} {draft : Draft}
    (areKept : drafts.AreKept) (kept : draft.IsKept) : (drafts.put place draft).AreKept := by
  intro there other member
  rcases Drafts.mem_of_mem_put member with new | old
  · cases new
    exact kept
  · exact areKept there other old

namespace Staging

variable {site : Site} {begun staging : Staging} {drafts later : Drafts} {target : Target}
  {targets : List Target} {step : Step} {draft : Draft}

theorem Drafted.isKept (drafted : Drafted site drafts target draft) (areKept : drafts.AreKept)
    (known : draft.before.isNone = false) : draft.IsKept := by
  cases drafted with
  | staged found => exact areKept _ _ (Drafts.mem_of_at? found)
  | read => exact ⟨rfl, rfl⟩
  | new => cases known

/-- A step that tells of no change leaves all drafts as they were read. -/
theorem Applied.areKept (applied : Applied site drafts target step later)
    (orderly : target.IsOrderly) (idle : step.IsIdle) (areKept : drafts.AreKept) :
    later.AreKept := by
  cases applied with
  | unread => exact areKept
  | missing => exact areKept
  | unedited => exact areKept
  | @withoutPlace draft begins edits =>
      split_ifs with isNew
      · exact areKept
      · exact areKept.put <|
          (drafted_of_draftFor begins).isKept areKept (Bool.eq_false_iff.mpr isNew)
  | @entered draft outcome begins edits =>
      -- An idle step tells that the document was read, and that text and encoding are the same.
      obtain ⟨known, told⟩ := Step.isIdle_ofEdit_iff.mp idle
      obtain ⟨unchanged, encodable⟩ : outcome.changed = false ∧ target.encodable = true := by
        simpa using told
      have kept := (drafted_of_draftFor begins).isKept areKept known
      have same : outcome.content = draft.content := orderly.honest _ _ edits unchanged
      refine areKept.put ⟨?_, ?_⟩
      · rw [same]
        exact kept.1
      · rw [kept.2, encodable]
        rfl

theorem Traced.areKept {begun : Drafts} {trace : List (Target × Step)}
    (traced : Traced site begun trace drafts) (orderly : ∀ pair ∈ trace, pair.1.IsOrderly)
    (idle : ∀ pair ∈ trace, pair.2.IsIdle) (areKept : begun.AreKept) : drafts.AreKept := by
  induction traced with
  | begun => exact areKept
  | @next trace drafts later target step traced applied inductionHypothesis =>
      have last : (target, step) ∈ trace ++ [(target, step)] :=
        List.mem_append_right _ List.mem_cons_self
      have before := inductionHypothesis
        (fun pair member => orderly pair (List.mem_append_left _ member))
        (fun pair member => idle pair (List.mem_append_left _ member))
      exact applied.areKept (orderly _ last) (idle _ last) before

/-- Targets whose steps tell of no change leave all drafts as they were read. -/
theorem areKept_of_edit (edits : edit site begun targets = .ok staging)
    (orderly : ∀ target ∈ targets, target.IsOrderly) (idle : ∀ step ∈ staging.steps, step.IsIdle)
    (areKept : begun.drafts.AreKept) : staging.drafts.AreKept := by
  obtain ⟨trace, rfl, traced, steps⟩ := edit_ok edits
  refine traced.areKept (fun pair member => orderly _ (List.mem_map_of_mem member))
    (fun pair member => idle _ ?_) areKept
  rw [steps]
  exact List.mem_append_right _ (List.mem_map_of_mem member)

theorem steps_subset_of_edit (edits : edit site begun targets = .ok staging) :
    begun.steps ⊆ staging.steps := by
  obtain ⟨trace, -, -, steps⟩ := edit_ok edits
  rw [steps]
  exact List.subset_append_left _ _

theorem areKept_ofComponent {workplace : Place} {existing : Option Text} {component : Component}
    (idle : ∀ step ∈ (ofComponent workplace existing component).steps, step.IsIdle) :
    (ofComponent workplace existing component).drafts.AreKept := by
  let draft : Draft := ⟨component.path, existing, component.text, component.encodable⟩
  have clean : draft.isDirty = false :=
    (Step.isIdle_ofEdit_iff.mp (idle _ List.mem_cons_self)).2
  intro place other member
  cases List.mem_singleton.mp member
  exact Draft.isKept_iff.mpr clean

end Staging

namespace Run

variable {refusals : Refusals} {means : Means} {settings : Settings} {shell : Shell} {site : Site}
  {exchange : Remote.Exchange} {name : Text} {existing : Option Text} {component : Component}
  {staging final : Staging} {targets : List Target} {start ending : Ending} {report : Report}

/-! ## How far a run comes -/

/-- Whether a run begins to enter a component, over the document that it has found. -/
structure Begins (refusals : Refusals) (settings : Settings) (shell : Shell) (site : Site)
    (name : Text) (means : Means) (existing : Option Text) (component : Component) : Prop where
  creates : Means.ofSettings settings shell refusals = .ok means
  reads : Run.existing settings site name = .ok existing
  generates : ∃ generation, Component.generate means.formatter means.shell name
    (settings.componentPath name) existing = .ok generation ∧ generation.component = component
  leads : component.path.hasNull = false

/-- Whether targets are the first ones that a run edits: some of the registries, or all of them and
some of the others. -/
def Visits (settings : Settings) (site : Site) (component : Component) (targets : List Target) :
    Prop :=
  targets <+: Target.registries settings site.workplace component ∨
    ∃ others, Target.loadersAndPlayground settings site component = .ok others ∧
      targets <+: Target.registries settings site.workplace component ++ others

/-- The stagings that a run comes to when it enters a component: the one that it begins with, the
one behind every target that it has edited, and the one that is checked. -/
inductive Underway (settings : Settings) (site : Site) (component : Component)
    (existing : Option Text) : Staging → Prop
  | begun : Underway settings site component existing
      (Staging.ofComponent site.workplace existing component)
  | edited {warnings : List ConsoleItem} {targets : List Target} {staging : Staging}
      (owns : checkOwner settings site component = .ok warnings)
      (visits : Visits settings site component targets)
      (edits : (Staging.ofComponent site.workplace existing component).edit site targets =
        .ok staging) :
      Underway settings site component existing staging
  | checked {warnings : List ConsoleItem} {staging : Staging}
      (owns : checkOwner settings site component = .ok warnings)
      (stages : stage settings site component
        (Staging.ofComponent site.workplace existing component) = .ok staging) :
      Underway settings site component existing staging

/-- Whether a run comes to a staging. -/
def Reaches (refusals : Refusals) (settings : Settings) (shell : Shell) (site : Site) (name : Text)
    (staging : Staging) : Prop :=
  ∃ means existing component, Begins refusals settings shell site name means existing component ∧
    Underway settings site component existing staging

theorem Visits.isOrderly (visits : Visits settings site component targets) :
    ∀ target ∈ targets, target.IsOrderly := by
  intro target member
  rcases visits with front | ⟨others, published, front⟩
  · exact Target.isOrderly_of_registry (front.subset member)
  · exact Target.isOrderly_of_mem published (front.subset member)

/-- The targets that a run has edited are the first ones of those that it stages. -/
theorem Visits.isPrefix {others : List Target} (visits : Visits settings site component targets)
    (published : Target.loadersAndPlayground settings site component = .ok others) :
    targets <+: Target.registries settings site.workplace component ++ others := by
  rcases visits with front | ⟨found, finds, front⟩
  · exact front.trans (List.prefix_append _ _)
  · obtain rfl := Except.ok.inj (finds.symm.trans published)
    exact front

/-- A staging that tells of no change holds nothing but what was read. -/
theorem Underway.areKept (underway : Underway settings site component existing staging)
    (idle : ∀ step ∈ staging.steps, step.IsIdle) : staging.drafts.AreKept := by
  have edited {targets : List Target} {staging : Staging}
      (edits : (Staging.ofComponent site.workplace existing component).edit site targets =
        .ok staging) (orderly : ∀ target ∈ targets, target.IsOrderly)
      (idle : ∀ step ∈ staging.steps, step.IsIdle) : staging.drafts.AreKept :=
    Staging.areKept_of_edit edits orderly idle <| Staging.areKept_ofComponent fun step member =>
      idle step (Staging.steps_subset_of_edit edits member)
  cases underway with
  | begun => exact Staging.areKept_ofComponent idle
  | edited owns visits edits => exact edited edits visits.isOrderly idle
  | checked owns stages =>
      obtain ⟨others, between, published, edits, validates⟩ := stage_ok stages
      obtain ⟨drafts, found, -, steps⟩ := Staging.validate_ok validates
      have orderly : ∀ target ∈ Target.registries settings site.workplace component ++ others,
          target.IsOrderly := fun target => Target.isOrderly_of_mem published
      rw [drafts]
      refine edited edits orderly fun step member => idle step ?_
      rw [steps]
      exact List.mem_append_left _ member

/-- The last staging tells of all steps that were taken on the way. -/
theorem Underway.steps_subset (underway : Underway settings site component existing staging)
    (stages : stage settings site component
      (Staging.ofComponent site.workplace existing component) = .ok final) :
    staging.steps ⊆ final.steps := by
  obtain ⟨others, between, published, edits, validates⟩ := stage_ok stages
  obtain ⟨-, found, -, steps⟩ := Staging.validate_ok validates
  have behind : between.steps ⊆ final.steps := by
    rw [steps]
    exact List.subset_append_left _ _
  cases underway with
  | begun => exact List.Subset.trans (Staging.steps_subset_of_edit edits) behind
  | edited owns visits edited =>
      obtain ⟨rest, whole⟩ := visits.isPrefix published
      rw [← whole, Staging.edit, List.foldlM_append, ← Staging.edit, edited] at edits
      exact List.Subset.trans (Staging.steps_subset_of_edit edits) behind
  | checked owns finishes =>
      obtain rfl := Except.ok.inj (finishes.symm.trans stages)
      exact List.Subset.refl _

/-! ## What a run has recorded -/

/-- The steps that a run has recorded when it ends: those of its report, or those that were taken
before it broke off. -/
def Records (refusals : Refusals) (settings : Settings) (shell : Shell) (site : Site)
    (exchange : Remote.Exchange) (name : Text) (step : Step) : Prop :=
  match (runUnder refusals settings shell site exchange name).result with
  | .ok report => step ∈ report.steps
  | .error _ => ∃ staging, Reaches refusals settings shell site name staging ∧
      step ∈ staging.steps

theorem Begins.runUnder_eq
    (begins : Begins refusals settings shell site name means existing component)
    (exchange : Remote.Exchange) :
    ∃ started : Ending, started.site = site ∧
      runUnder refusals settings shell site exchange name =
        enter means settings existing component started := by
  obtain ⟨creates, reads, ⟨generation, generates, rfl⟩, -⟩ := begins
  refine ⟨{ result := .ok {}
            site
            exchange
            console := generation.console
            commands := generation.commands }, rfl, ?_⟩
  rw [runUnder, creates]
  dsimp only
  rw [withMeans, reads]
  dsimp only
  rw [generates]

/-- A report tells of all steps that were taken on the way. -/
theorem Underway.mem_report (underway : Underway settings site component existing staging)
    (same : start.site = site)
    (ends : (enter means settings existing component start).result = .ok report) :
    staging.steps ⊆ report.steps := by
  subst same
  unfold enter at ends
  dsimp only at ends
  split_ifs at ends
  · cases ends
  · cases owns : checkOwner settings start.site component with
    | error objection =>
        rw [owns] at ends
        cases objection with
        | broken cause => cases ends
        | refused message =>
            obtain rfl := Except.ok.inj ends
            cases underway with
            | begun => exact List.Subset.refl _
            | edited owned => cases owns.symm.trans owned
            | checked owned => cases owns.symm.trans owned
    | ok warnings =>
        rw [owns] at ends
        dsimp only at ends
        cases stages : stage settings start.site component
            (Staging.ofComponent start.site.workplace existing component) with
        | error cause => rw [stages] at ends; cases ends
        | ok final =>
            rw [stages] at ends
            exact List.Subset.trans (underway.steps_subset stages) fun step =>
              mem_steps_of_finish ends

/-- All steps of a staging that a run comes to are recorded. -/
theorem Reaches.records (reaches : Reaches refusals settings shell site name staging)
    {step : Step} (member : step ∈ staging.steps) :
    Records refusals settings shell site exchange name step := by
  rw [Records]
  cases ends : (runUnder refusals settings shell site exchange name).result with
  | error cause => exact ⟨staging, reaches, member⟩
  | ok report =>
      obtain ⟨means, existing, component, begins, underway⟩ := reaches
      obtain ⟨started, same, whole⟩ := begins.runUnder_eq exchange
      rw [whole] at ends
      exact underway.mem_report same ends member

/-- Where no recorded step tells of a change, every staging holds nothing but what was read. -/
theorem Reaches.areKept (reaches : Reaches refusals settings shell site name staging)
    (idle : ∀ step, Records refusals settings shell site exchange name step → step.IsIdle) :
    staging.drafts.AreKept := by
  have idleSteps : ∀ step ∈ staging.steps, step.IsIdle := fun step member =>
    idle step (reaches.records member)
  obtain ⟨means, existing, component, -, underway⟩ := reaches
  exact underway.areKept idleSteps

/-! ## What a run leaves -/

/-- An ending of a run that has left the site and the remote repository as they were, and tells of
nothing that is written or pushed. -/
structure Ending.Untouched (start ending : Ending) : Prop where
  site : ending.site = start.site
  exchange : ending.exchange = start.exchange
  told : ∀ report, ending.result = .ok report → report.written = [] ∧ report.pushed = []

theorem Ending.untouched_close (written : report.written = []) (pushed : report.pushed = []) :
    start.Untouched (close settings report start) where
  site := rfl
  exchange := rfl
  told other same := by
    obtain rfl := Except.ok.inj same
    exact ⟨written, pushed⟩

theorem finish_untouched (areKept : staging.drafts.AreKept) (written : report.written = [])
    (pushed : report.pushed = []) :
    start.Untouched (finish means settings staging report start) := by
  rw [finish]
  dsimp only
  split_ifs
  · exact Ending.untouched_close written pushed
  · exact Ending.untouched_close written pushed
  · rw [commit_of_writable_nil (Drafts.writable_of_kept areKept)]
    exact Ending.untouched_close rfl rfl

theorem untouched_or_prepares (start : Ending) :
    start.Untouched (withMeans means settings name start) ∨
      ∃ component staging, Prepares means settings start.site name component staging := by
  have stops : start.Quiet (withMeans means settings name start) ∨
      ∃ component staging, Prepares means settings start.site name component staging :=
    quiet_or_prepares start
  rcases stops with quiet | prepares
  · have course : Course means settings name start (withMeans means settings name start) :=
      withMeans_course start
    generalize withMeans means settings name start = ending at quiet course ⊢
    cases course with
    | stopped same =>
        exact .inl ⟨same, quiet.exchange, fun report ends =>
          ⟨(quiet.told report ends).1, (quiet.told report ends).2.1⟩⟩
    | staged reads generates leads owns stages =>
        exact .inr ⟨_, _, _, _, _, reads, generates, rfl, leads, owns, stages⟩
  · exact .inr prepares

/-- A run whose steps all tell of no change leaves everything as it was. -/
theorem untouched_of_records
    (idle : ∀ step, Records refusals settings shell site exchange name step → step.IsIdle) :
    Ending.Untouched { result := .ok {}, site, exchange }
      (runUnder refusals settings shell site exchange name) := by
  cases creates : Means.ofSettings settings shell refusals with
  | error fault =>
      rw [runUnder, creates]
      exact ⟨rfl, rfl, fun report ends => by cases ends⟩
  | ok means =>
      have whole : runUnder refusals settings shell site exchange name =
          withMeans means settings name { result := .ok {}, site, exchange } := by
        rw [runUnder, creates]
      rcases untouched_or_prepares { result := .ok {}, site, exchange } with
        untouched | ⟨component, staging, prepares⟩
      · rw [whole]
        exact untouched
      · obtain ⟨existing, generation, warnings, reads, generates, same, leads, owns, stages⟩ :=
          id prepares
        have reaches : Reaches refusals settings shell site name staging :=
          ⟨means, existing, component, ⟨creates, reads, ⟨generation, generates, same⟩, leads⟩,
            .checked owns stages⟩
        obtain ⟨started, site, exchange, finishes⟩ := withMeans_of_prepares _ prepares
        have untouched : started.Untouched (finish means settings staging
            { component := some component, steps := staging.steps } started) :=
          finish_untouched (reaches.areKept idle) rfl rfl
        rw [whole, finishes]
        exact ⟨untouched.site.trans site, untouched.exchange.trans exchange, untouched.told⟩

end Run

/-- Every edit tells of a change exactly if it has made one.  A run whose recorded steps all tell of
no change stages nothing that is to be written, and writes and pushes nothing. -/
theorem changed_iff_and_untouched :
    (∀ content outcome, IsEdit content outcome →
      (outcome.changed = true ↔ outcome.content ≠ content)) ∧
    ∀ refusals settings shell site exchange name,
      (∀ step, Run.Records refusals settings shell site exchange name step → step.IsIdle) →
        (∀ staging, Run.Reaches refusals settings shell site name staging →
          ∀ place draft, (place, draft) ∈ staging.drafts → draft.isDirty = false) ∧
        Run.Ending.Untouched { result := .ok {}, site, exchange }
          (runUnder refusals settings shell site exchange name) := by
  refine ⟨fun content outcome isEdit => isEdit.isExact,
    fun refusals settings shell site exchange name idle => ⟨?_, Run.untouched_of_records idle⟩⟩
  intro staging reaches place draft member
  exact (reaches.areKept idle place draft member).not_isDirty

namespace Run

/-- A site with an empty mapping of the bundler. -/
def bundledSite : Site :=
  compactSite "const COMMON_FIELDS = input = \x7b\x7d;\n" []

/-- The run that enters a component there. -/
def bundledRun : Ending :=
  runUnder [] compactSettings compactShell bundledSite ⟨[], []⟩ ['T']

def idleRun : Ending :=
  runUnder [] compactSettings compactShell bundledRun.site ⟨[], []⟩ ['T']

/-- A function whose switch has no clauses. -/
def switchText : Text :=
  "function f(k) \x7b switch (k) \x7b\x7d \x7d".toList

def firstClause : CaseUpsert :=
  ⟨['f'], ['k'], ['t'], "return 1;".toList⟩

end Run

theorem changed_iff_and_untouched_again :
    (∃ outcome, upsertCase Run.switchText Run.firstClause = .ok (some outcome) ∧
      outcome.changed = true ∧ outcome.content ≠ Run.switchText) ∧
    ∃ report, Run.idleRun.result = .ok report ∧ (∀ step ∈ report.steps, step.IsIdle) ∧
      report.steps.length = 8 ∧ report.committed = true ∧
      Run.Ending.Untouched { result := .ok {}, site := Run.bundledRun.site, exchange := ⟨[], []⟩ }
        Run.idleRun := by
  refine ⟨?_, ?_⟩
  · have told : ((upsertCase Run.switchText Run.firstClause).toOption.any fun given =>
        given.any Outcome.changed) = true := by
      decide +kernel
    cases gives : upsertCase Run.switchText Run.firstClause with
    | error fault => rw [gives] at told; cases told
    | ok given =>
        rw [gives] at told
        cases given with
        | none => cases told
        | some outcome =>
            have changed : outcome.changed = true := told
            have told := changed_iff_and_untouched.1 Run.switchText outcome (.clause gives)
            exact ⟨outcome, rfl, changed, told.mp changed⟩
  · have told : (Run.idleRun.result.toOption.any fun report =>
        report.steps.all (fun step => step.status = .unchanged || step.status = .skipped) &&
          report.steps.length = 8 && report.committed) = true := by
      decide +kernel
    cases ends : Run.idleRun.result with
    | error cause => rw [ends] at told; cases told
    | ok report =>
        rw [ends] at told
        simp only [Except.toOption, Option.any_some, Bool.and_eq_true, List.all_eq_true,
          Bool.or_eq_true, decide_eq_true_eq] at told
        obtain ⟨⟨idle, count⟩, committed⟩ := told
        refine ⟨report, rfl, idle, count, committed, ?_⟩
        refine (changed_iff_and_untouched.2 [] Run.compactSettings Run.compactShell
          Run.bundledRun.site ⟨[], []⟩ ['T'] fun step recorded => ?_).2
        have same : (runUnder [] Run.compactSettings Run.compactShell Run.bundledRun.site ⟨[], []⟩
          ['T']).result = .ok report := ends
        rw [Run.Records, same] at recorded
        exact idle step recorded

end EmbedScaffold
