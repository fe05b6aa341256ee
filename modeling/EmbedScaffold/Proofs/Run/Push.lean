import Mathlib.Data.List.Forall2
import EmbedScaffold.Proofs.Remote.Push
import EmbedScaffold.Proofs.Run.Report

/-!
# What a run pushes

A run that has committed its drafts pushes those that it wrote, one after the other.  Each of them
has its own result and its own step, and what is sent for it is what its file holds.
-/

namespace EmbedScaffold

/-! ## Paths below the root -/

namespace Path

variable {workplace : Place} {root path : Path} {steps : List Text}

theorem behind?_append (start rest : Place) : behind? start (start ++ rest) = some rest := by
  induction start with
  | nil => rfl
  | cons first start inductionHypothesis =>
      rw [List.cons_append, behind?, if_pos rfl, inductionHypothesis]

/-- Whether steps are names that a directory can hold. -/
def AreNames (steps : List Text) : Prop :=
  ∀ name ∈ steps, name ≠ [] ∧ '/' ∉ name

/-- The file of a path below the root is known on a branch by the steps that lead there. -/
theorem filePath_relativeText (rooted : root.hasNull = false) (leads : path.hasNull = false)
    (inside : path.place workplace = root.place workplace ++ steps) (names : AreNames steps) :
    Remote.filePath (relativeText workplace root path) = text ⟨[], steps⟩ := by
  rw [relativeText, rooted, leads, inside, behind?_append]
  change Remote.filePath (text ⟨[], steps⟩) = _
  cases steps with
  | nil => rfl
  | cons name rest =>
      obtain ⟨nonempty, noSlash⟩ := names name List.mem_cons_self
      cases name with
      | nil => exact absurd rfl nonempty
      | cons first others =>
          have head : first ≠ '/' := fun same => noSlash (same ▸ List.mem_cons_self)
          have shape : ∃ more, text ⟨[], (first :: others) :: rest⟩ = first :: more := by
            cases rest with
            | nil => exact ⟨others, rfl⟩
            | cons next rest => exact ⟨_, rfl⟩
          obtain ⟨more, shape⟩ := shape
          rw [shape, Remote.filePath, Text.trimStart,
            List.dropWhile_cons_of_neg (by simpa using head)]

end Path

theorem Site.hasNull_of_locate {site : Site} {path : Path} {place : Place}
    (locates : site.locate path = .ok place) : path.hasNull = false := by
  apply Bool.eq_false_iff.mpr
  intro hasNull
  rw [locate, if_pos hasNull] at locates
  cases locates

/-! ## Steps that tell of no push -/

namespace Target

variable {settings : Settings} {workplace : Place} {site : Site} {component : Component}
  {others : List Target} {target : Target}

theorem name_ne_push (published : loadersAndPlayground settings site component = .ok others)
    (member : target ∈ registries settings workplace component ++ others) :
    target.name ≠ "push".toList := by
  rcases List.mem_append.mp member with registry | other
  · have names : (registries settings workplace component).map Target.name =
        ["bundler input".toList, "component registry".toList, "schema registry".toList,
          "props registry".toList, "mock data".toList, "runtime loader".toList] := rfl
    intro same
    have among := List.mem_map_of_mem (f := Target.name) registry
    rw [names, same] at among
    exact absurd among (by decide +kernel)
  · obtain ⟨paths, -, published⟩ := exists_of_bind published
    obtain rfl := Except.ok.inj published
    rcases List.mem_append.mp other with loader | page
    · obtain ⟨path, -, rfl⟩ := List.mem_map.mp loader
      -- The third letters differ.
      intro same
      have third : some 'b' = some 's' := congrArg (·[2]?) same
      exact absurd third (by decide)
    · unfold playground at page
      dsimp only at page
      split_ifs at page
      · cases page
      · obtain rfl := List.mem_singleton.mp page
        change "playground".toList ≠ "push".toList
        decide +kernel

end Target

namespace Staging

theorem name_of_imbalance? {draft : Draft} {step : Step}
    (finds : imbalance? draft = .ok (some step)) : step.name = "validate".toList := by
  unfold imbalance? at finds
  split_ifs at finds
  · split at finds
    · cases finds
    · split_ifs at finds
      cases finds
      rfl
  · cases finds

end Staging

theorem Commit.name_of_finished {refusals : Refusals} {transactional : Bool} {site left : Site}
    {written kept rest : List Draft} {failures all : List Step}
    (finishes : continueWith refusals transactional site written failures rest =
      .finished left kept all)
    (named : ∀ step ∈ failures, step.name = "commit".toList) :
    ∀ step ∈ all, step.name = "commit".toList := by
  induction rest generalizing site written failures with
  | nil =>
      rw [continueWith] at finishes
      cases finishes
      exact named
  | cons draft rest inductionHypothesis =>
      rw [continueWith] at finishes
      split at finishes
      · split_ifs at finishes
        exact inductionHypothesis finishes named
      · split_ifs at finishes
        apply inductionHypothesis finishes
        intro step member
        rcases List.mem_append.mp member with earlier | last
        · exact named step earlier
        · obtain rfl := List.mem_singleton.mp last
          rfl

namespace Run

open Remote (PushRequests filePath)

variable {means : Means} {settings : Settings} {publisher : Remote.Publisher} {site left : Site}
  {workplace : Place} {exchange last : Remote.Exchange} {component : Component} {name : Text}
  {existing : Option Text} {staging : Staging} {draft : Draft} {drafts rest written : List Draft}
  {pushed : List Remote.Push} {steps failures : List Step} {start ending : Ending}

theorem not_isPush_of_stage
    (stages : stage settings site component
      (Staging.ofComponent site.workplace existing component) = .ok staging) :
    ∀ step ∈ staging.steps, ¬ isPush step := by
  obtain ⟨others, edited, published, edits, validates⟩ := stage_ok stages
  obtain ⟨trace, targets, traced, edited⟩ := Staging.edit_ok edits
  obtain ⟨-, found, finds, steps⟩ := Staging.validate_ok validates
  intro step member push
  rw [steps, edited] at member
  rcases List.mem_append.mp member with told | imbalance
  · rcases List.mem_append.mp told with begun | entered
    · obtain rfl := List.mem_singleton.mp begun
      change "component".toList = "push".toList at push
      exact absurd push (by decide +kernel)
    · obtain ⟨⟨target, own⟩, among, rfl⟩ := List.mem_map.mp entered
      have listed : target ∈ Target.registries settings site.workplace component ++ others := by
        rw [← targets]
        exact List.mem_map_of_mem among
      rw [isPush, (traced.name_and_path _ among).1] at push
      exact Target.name_ne_push published listed push
  · obtain ⟨own, among, rfl⟩ := List.mem_filterMap.mp imbalance
    obtain ⟨entry, -, finds⟩ := exists_item_of_mapM finds among
    rw [isPush, Staging.name_of_imbalance? finds] at push
    exact absurd push (by decide +kernel)

/-! ## Pushing one draft after the other -/

theorem push_cons_ok
    (pushes : push publisher settings workplace exchange (draft :: rest) =
      (.ok (pushed, steps), last)) :
    ∃ first others told next,
      publisher.pushFile exchange (Path.relativeText workplace settings.root draft.path)
        draft.content = (.ok first, next) ∧
      push publisher settings workplace next rest = (.ok (others, told), last) ∧
      pushed = first :: others ∧ steps = pushStep publisher draft first :: told := by
  rw [push] at pushes
  split at pushes
  · cases pushes
  · next first next here =>
      split at pushes
      · cases pushes
      · next others told final behind =>
          cases pushes
          exact ⟨first, others, told, next, here, behind, rfl, rfl⟩

/-- Drafts are pushed in order: each has a result and a step of its own, and its requests are about
its own file and content. -/
theorem push_ok
    (pushes : push publisher settings workplace exchange drafts = (.ok (pushed, steps), last)) :
    pushed.map Remote.Push.path =
        drafts.map (fun draft => Path.relativeText workplace settings.root draft.path) ∧
      steps = List.zipWith (pushStep publisher) drafts pushed ∧
      ∃ asked, last.requests = exchange.requests ++ asked.flatten ∧
        List.Forall₂ (fun draft => PushRequests publisher.repository publisher.branch
          (filePath (Path.relativeText workplace settings.root draft.path))
          (Text.encode draft.content)) drafts asked := by
  induction drafts generalizing exchange pushed steps with
  | nil =>
      cases pushes
      exact ⟨rfl, rfl, [], (List.append_nil _).symm, .nil⟩
  | cons draft rest inductionHypothesis =>
      obtain ⟨first, others, told, next, here, behind, rfl, rfl⟩ := push_cons_ok pushes
      obtain ⟨paths, rfl, asked, requests, about⟩ := inductionHypothesis behind
      obtain ⟨own, sent, ownRequests⟩ := publisher.pushFile_requests exchange
        (Path.relativeText workplace settings.root draft.path) draft.content
      rw [here] at sent
      refine ⟨?_, rfl, own :: asked, ?_, .cons ownRequests about⟩
      · rw [List.map_cons, List.map_cons, paths,
          (Remote.Publisher.pushFile_ok (congrArg Prod.fst here)).1]
      · rw [requests, sent, List.flatten_cons, List.append_assoc]

/-! ## From the start to the pushes -/

/-- Whether a run comes so far as to have staged and checked the drafts of a component. -/
def Prepares (means : Means) (settings : Settings) (site : Site) (name : Text)
    (component : Component) (staging : Staging) : Prop :=
  ∃ existing generation warnings,
    Run.existing settings site name = .ok existing ∧
    Component.generate means.formatter means.shell name (settings.componentPath name) existing =
      .ok generation ∧
    generation.component = component ∧ component.path.hasNull = false ∧
    checkOwner settings site component = .ok warnings ∧
    stage settings site component (Staging.ofComponent site.workplace existing component) =
      .ok staging

/-- Whether a run commits the drafts of a staging; it leaves a site, with the drafts that it has
written and steps for the others. -/
structure Commits (means : Means) (settings : Settings) (site : Site) (staging : Staging)
    (left : Site) (written : List Draft) (failures : List Step) : Prop where
  sound : settings.transactional = true → staging.failures = []
  writes : settings.dryRun = false
  finishes : Commit.ofDrafts means.refusals settings.transactional site staging.drafts.writable =
    .finished left written failures

/-- An ending of a run that has written and pushed nothing. -/
structure Ending.Quiet (start ending : Ending) : Prop where
  exchange : ending.exchange = start.exchange
  told : ∀ report, ending.result = .ok report →
    report.written = [] ∧ report.pushed = [] ∧ ∀ step ∈ report.steps, ¬ isPush step

theorem Ending.quiet_close {report : Report} (exchange : ending.exchange = start.exchange)
    (written : report.written = []) (pushed : report.pushed = [])
    (steps : ∀ step ∈ report.steps, ¬ isPush step) :
    start.Quiet (close settings report ending) where
  exchange := exchange
  told other same := by
    obtain rfl := Except.ok.inj same
    exact ⟨written, pushed, steps⟩

theorem Ending.quiet_breakOff {cause : Break} (exchange : ending.exchange = start.exchange) :
    start.Quiet (breakOff cause ending) where
  exchange := exchange
  told _ same := by cases same

theorem withMeans_of_prepares (start : Ending)
    (prepares : Prepares means settings start.site name component staging) :
    ∃ started : Ending, started.site = start.site ∧ started.exchange = start.exchange ∧
      withMeans means settings name start =
        finish means settings staging { component := some component, steps := staging.steps }
          started := by
  obtain ⟨existing, generation, warnings, reads, generates, rfl, leads, owns, stages⟩ := prepares
  refine ⟨{ start with
    console := generation.console ++ warnings
    commands := generation.commands }, rfl, rfl, ?_⟩
  rw [withMeans, reads]
  dsimp only
  rw [generates]
  dsimp only
  rw [enter, if_neg (by rw [leads]; exact Bool.false_ne_true), owns]
  dsimp only
  rw [stages]

theorem quiet_or_prepares (start : Ending) :
    start.Quiet (withMeans means settings name start) ∨
      ∃ component staging, Prepares means settings start.site name component staging := by
  unfold withMeans
  cases reads : Run.existing settings start.site name with
  | error refusal => exact .inl (Ending.quiet_close rfl rfl rfl nofun)
  | ok existing =>
      dsimp only
      cases generates : Component.generate means.formatter means.shell name
          (settings.componentPath name) existing with
      | error fault =>
          cases fault with
          | longInteger => exact .inl (Ending.quiet_breakOff rfl)
          | script fault =>
              cases fault with
              | malformed line => exact .inl (Ending.quiet_close rfl rfl rfl nofun)
              | escapeTooLarge => exact .inl (Ending.quiet_breakOff rfl)
      | ok generation =>
          unfold enter
          dsimp only
          split_ifs with hasNull
          · exact .inl (Ending.quiet_breakOff rfl)
          · cases owns : checkOwner settings start.site generation.component with
            | error objection =>
                cases objection with
                | broken cause => exact .inl (Ending.quiet_breakOff rfl)
                | refused message =>
                    refine .inl (Ending.quiet_close rfl rfl rfl fun step member => ?_)
                    obtain rfl := List.mem_singleton.mp member
                    change "component".toList ≠ "push".toList
                    decide +kernel
            | ok warnings =>
                dsimp only
                cases stages : stage settings start.site generation.component
                    (Staging.ofComponent start.site.workplace existing generation.component) with
                | error cause => exact .inl (Ending.quiet_breakOff rfl)
                | ok staging =>
                    exact .inr ⟨generation.component, staging, existing, generation, warnings,
                      reads, generates, rfl, Bool.eq_false_iff.mpr hasNull, owns, stages⟩

/-- A run that has committed its drafts ends as its pushes do: with a report, or broken off by an
answer. -/
theorem finish_of_commits {report : Report}
    (commits : Commits means settings ending.site staging left written failures) :
    let finished := finish means settings staging report ending
    let told := pushWritten means settings left.workplace ending.exchange written
    finished.site = left ∧ finished.exchange = told.2 ∧
      finished.result = (told.1.mapError Break.answer).map fun (pushed, steps) =>
        { report with
          steps := report.steps ++ failures ++ steps
          written := written.map Draft.path
          pushed
          committed := true
          success := true } := by
  obtain ⟨sound, writes, finishes⟩ := commits
  have goesOn : (settings.transactional && ! staging.failures.isEmpty) = false := by
    cases careful : settings.transactional with
    | false => rfl
    | true => rw [sound careful]; rfl
  dsimp only
  rw [finish, goesOn, writes, if_neg Bool.false_ne_true, if_neg Bool.false_ne_true, commit,
    finishes]
  dsimp only
  generalize pushWritten means settings left.workplace ending.exchange written = told
  obtain ⟨fault | ⟨pushed, steps⟩, exchange⟩ := told <;> exact ⟨rfl, rfl, rfl⟩

theorem quiet_or_commits (report : Report) (written : report.written = [])
    (pushed : report.pushed = []) (steps : ∀ step ∈ report.steps, ¬ isPush step) :
    ending.Quiet (finish means settings staging report ending) ∨
      ∃ left written failures,
        Commits means settings ending.site staging left written failures := by
  unfold finish
  dsimp only
  split_ifs with stopped dry
  · exact .inl (Ending.quiet_close rfl written pushed steps)
  · exact .inl (Ending.quiet_close rfl written pushed steps)
  · unfold commit
    cases finishes : Commit.ofDrafts means.refusals settings.transactional ending.site
        staging.drafts.writable with
    | unencodable left => exact .inl (Ending.quiet_breakOff rfl)
    | undone left path cause restored => exact .inl (Ending.quiet_close rfl written pushed steps)
    | finished left kept failures =>
        refine .inr ⟨left, kept, failures, fun careful => ?_, Bool.eq_false_iff.mpr dry, finishes⟩
        simpa [careful] using stopped

theorem Prepares.stages (prepares : Prepares means settings site name component staging) :
    ∃ existing, site.read component.path = .ok existing ∧
      stage settings site component (Staging.ofComponent site.workplace existing component) =
        .ok staging := by
  obtain ⟨existing, generation, warnings, reads, generates, rfl, -, -, stages⟩ := prepares
  refine ⟨existing, ?_, stages⟩
  rw [(Component.generate_ok generates).2.2]
  exact existing_ok reads

theorem withMeans_of_commits (start : Ending)
    (prepares : Prepares means settings start.site name component staging)
    (commits : Commits means settings start.site staging left written failures) :
    let ending := withMeans means settings name start
    let told := pushWritten means settings left.workplace start.exchange written
    ending.site = left ∧ ending.exchange = told.2 ∧
      ending.result = (told.1.mapError Break.answer).map fun (pushed, steps) =>
        { component := some component
          steps := staging.steps ++ failures ++ steps
          written := written.map Draft.path
          pushed
          committed := true
          success := true } := by
  obtain ⟨started, site, exchange, whole⟩ := withMeans_of_prepares start prepares
  rw [← site] at commits
  rw [whole, ← exchange]
  exact finish_of_commits commits

/-- A run writes and pushes nothing, or it commits the drafts that it has prepared. -/
theorem withMeans_quiet_or_commits (start : Ending) :
    start.Quiet (withMeans means settings name start) ∨
      ∃ component staging left written failures,
        Prepares means settings start.site name component staging ∧
        Commits means settings start.site staging left written failures := by
  rcases quiet_or_prepares start with quiet | ⟨component, staging, prepares⟩
  · exact .inl quiet
  · obtain ⟨started, site, exchange, whole⟩ := withMeans_of_prepares start prepares
    obtain ⟨existing, -, stages⟩ := prepares.stages
    rcases quiet_or_commits { component := some component, steps := staging.steps } rfl rfl
      (not_isPush_of_stage stages) with quiet | ⟨left, written, failures, commits⟩
    · rw [whole]
      exact .inl ⟨quiet.exchange.trans exchange, quiet.told⟩
    · rw [site] at commits
      exact .inr ⟨component, staging, left, written, failures, prepares, commits⟩

/-! ## What is pushed -/

instance : DecidablePred isPush :=
  fun step => inferInstanceAs (Decidable (step.name = "push".toList))

/-- What is asked for a written file.  The requests are about the path of the file from the root,
and what is sent with them is what the file holds. -/
structure Carries (settings : Settings) (site : Site) (path : Path)
    (asked : List Remote.Request) : Prop where
  content : ∃ content, site.file? (path.place site.workplace) = some content ∧
    PushRequests settings.remote.repository settings.remote.branch
      (filePath (Path.relativeText site.workplace settings.root path)) content asked
  inside : settings.root.hasNull = false → ∀ steps, Path.AreNames steps →
    path.place site.workplace = settings.root.place site.workplace ++ steps →
    filePath (Path.relativeText site.workplace settings.root path) = Path.text ⟨[], steps⟩

/-- Whether a run has pushed what it has written, in that order: every file has one result and one
step, and the requests are those for its path and its content. -/
structure PushesWritten (settings : Settings) (exchange : Remote.Exchange) (ending : Ending)
    (report : Report) : Prop where
  files : report.pushed.map Remote.Push.path =
    report.written.map (Path.relativeText ending.site.workplace settings.root)
  steps : (report.steps.filter fun step => isPush step).map
      (fun step => (step.path, step.failed)) =
    (report.written.zip report.pushed).map fun (path, push) => (path, ! push.success)
  requests : ∃ asked, ending.exchange.requests = exchange.requests ++ asked.flatten ∧
    List.Forall₂ (Carries settings ending.site) report.written asked

theorem Ending.Quiet.pushesWritten {report : Report} (quiet : start.Quiet ending)
    (ends : ending.result = .ok report) :
    PushesWritten settings start.exchange ending report := by
  obtain ⟨written, pushed, steps⟩ := quiet.told report ends
  refine ⟨by rw [written, pushed]; rfl, ?_, [], ?_, by rw [written]; exact .nil⟩
  · rw [written, List.filter_eq_nil_iff.mpr fun step member => by simpa using steps step member]
    rfl
  · rw [quiet.exchange, List.flatten_nil, List.append_nil]

theorem pushStep_told (draft : Draft) (push : Remote.Push) :
    ((pushStep publisher draft push).path, (pushStep publisher draft push).failed) =
      (draft.path, ! push.success) := by
  unfold pushStep
  cases push.success with
  | false => rfl
  | true => cases push.created <;> rfl

theorem Means.publisher_of_enabled {shell : Shell} {refusals : Refusals}
    (creates : ofSettings settings shell refusals = .ok means)
    (enabled : settings.remote.enabled = true) :
    ∃ publisher, means.publisher = some publisher ∧
      publisher.repository = settings.remote.repository ∧
      publisher.branch = settings.remote.branch := by
  unfold ofSettings at creates
  dsimp only at creates
  rw [enabled] at creates
  obtain ⟨publisher, publishes, creates⟩ := exists_of_bind creates
  obtain rfl := Except.ok.inj creates
  unfold Remote.Publisher.create at publishes
  split_ifs at publishes
  obtain rfl := Except.ok.inj publishes
  exact ⟨_, rfl, rfl, rfl⟩

/-- Every draft that was written is held by its file. -/
theorem Commits.holds (commits : Commits means settings site staging left written failures)
    (prepares : Prepares means settings site name component staging) :
    left.workplace = site.workplace ∧ ∀ draft ∈ written, draft.path.hasNull = false ∧
      left.file? (draft.path.place left.workplace) = some (Text.encode draft.content) := by
  obtain ⟨existing, reads, stages⟩ := prepares.stages
  obtain ⟨kept, later, all, others, progress, completed⟩ :=
    (Commit.Progress.begun site).finished commits.finishes
  obtain rfl : written = kept := all
  have distinct := (stage_faithful reads stages).nodup_writable (stage_distinct stages)
  have stored := progress.stored (distinct.sublist (completed.sublist.map _))
  refine ⟨progress.workplace, fun draft member => ⟨?_, ?_⟩⟩
  · obtain ⟨place, opens, -⟩ := progress.opens draft member
    exact Site.hasNull_of_locate opens.locates
  · rw [progress.workplace, stored draft member, Commit.bytesOf,
      if_pos (completed.encodable draft member)]

theorem Commits.not_isPush (commits : Commits means settings site staging left written failures) :
    ∀ step ∈ failures, ¬ isPush step := by
  intro step member push
  rw [isPush, Commit.name_of_finished commits.finishes nofun step member] at push
  exact absurd push (by decide +kernel)

theorem Commits.pushesWritten
    (commits : Commits means settings site staging left written failures)
    (prepares : Prepares means settings site name component staging)
    (repository : publisher.repository = settings.remote.repository)
    (branch : publisher.branch = settings.remote.branch)
    (pushes : push publisher settings left.workplace exchange written =
      (.ok (pushed, steps), last)) {report : Report} (here : ending.site = left)
    (asks : ending.exchange = last) (told : report.steps = staging.steps ++ failures ++ steps)
    (paths : report.written = written.map Draft.path) (results : report.pushed = pushed) :
    PushesWritten settings exchange ending report := by
  obtain ⟨existing, -, stages⟩ := prepares.stages
  obtain ⟨workplace, held⟩ := commits.holds prepares
  obtain ⟨files, rows, asked, requests, about⟩ := push_ok pushes
  rw [repository, branch] at about
  refine ⟨?_, ?_, asked, ?_, ?_⟩
  · rw [here, paths, results, List.map_map]
    exact files
  · -- No other step of the run is called a push.
    have others : (staging.steps ++ failures).filter (fun step => isPush step) = [] := by
      apply List.filter_eq_nil_iff.mpr
      intro step member
      rcases List.mem_append.mp member with earlier | failed
      · simpa using not_isPush_of_stage stages step earlier
      · simpa using commits.not_isPush step failed
    have own : steps.filter (fun step => isPush step) = steps := by
      apply List.filter_eq_self.mpr
      intro step member
      simpa using isPush_of_push (congrArg Prod.fst pushes) step member
    rw [told, List.filter_append, others, own, List.nil_append, rows, paths, results]
    simp only [List.map_zipWith, pushStep_told, List.zip, List.zipWith_map_left]
  · rw [asks, requests]
  · rw [paths, List.forall₂_map_left_iff, here]
    refine ((List.forall₂_and_left _ _).mpr ⟨held, about⟩).imp ?_
    rintro draft own ⟨⟨leads, holds⟩, requests⟩
    exact ⟨⟨_, holds, requests⟩, fun rooted steps names inside =>
      Path.filePath_relativeText rooted leads inside names⟩

/-- A run that pushes and reports has pushed what it has written. -/
theorem pushesWritten_of_result (published : means.publisher = some publisher)
    (repository : publisher.repository = settings.remote.repository)
    (branch : publisher.branch = settings.remote.branch) {report : Report}
    (ends : (withMeans means settings name start).result = .ok report) :
    PushesWritten settings start.exchange (withMeans means settings name start) report := by
  rcases withMeans_quiet_or_commits start with
    quiet | ⟨component, staging, left, written, failures, prepares, commits⟩
  · exact quiet.pushesWritten ends
  · obtain ⟨here, asks, result⟩ := withMeans_of_commits start prepares commits
    rw [ends, pushWritten, published] at result
    rw [pushWritten, published] at asks
    dsimp only at asks result
    cases pushes : push publisher settings left.workplace start.exchange written with
    | mk told last =>
        rw [pushes] at asks result
        cases told with
        | error fault => cases result
        | ok told =>
            obtain rfl := Except.ok.inj result
            exact commits.pushesWritten prepares repository branch pushes here asks rfl rfl rfl

end Run

/-- Every run that pushes and reports has pushed exactly the files that it has written. -/
theorem pushesWritten_of_report (refusals : Refusals) (settings : Settings) (shell : Shell)
    (site : Site) (exchange : Remote.Exchange) (name : Text) {report : Report}
    (enabled : settings.remote.enabled = true)
    (ends : (runUnder refusals settings shell site exchange name).result = .ok report) :
    Run.PushesWritten settings exchange (runUnder refusals settings shell site exchange name)
      report := by
  unfold runUnder at ends ⊢
  cases creates : Run.Means.ofSettings settings shell refusals with
  | error fault =>
      rw [creates] at ends
      cases ends
  | ok means =>
      rw [creates] at ends
      obtain ⟨publisher, published, repository, branch⟩ :=
        Run.Means.publisher_of_enabled creates enabled
      exact Run.pushesWritten_of_result published repository branch ends

namespace Run

/-- Settings under which a run pushes what it can write. -/
def publicSettings : Settings :=
  { patientSettings with remote := { repository := "acme/embeds".toList } }

/-- A run under these settings whose write is refused. -/
def publicRun : Ending :=
  runUnder withoutComponent publicSettings compactShell crookedSite
    ⟨[.response 404 [], .response 409 []], []⟩ "Tab".toList

end Run

theorem pushesWritten_of_report_patient :
    ∃ report, Run.publicRun.result = .ok report ∧ Run.publicSettings.remote.enabled = true ∧
      report.written = [⟨[], [['r']]⟩] ∧
      report.pushed.map (fun push => (push.path, push.conflict)) = [(['r'], true)] ∧
      Run.PushesWritten Run.publicSettings
        ⟨[.response 404 [], .response 409 []], []⟩ Run.publicRun report := by
  have told : (Run.publicRun.result.toOption.any fun report =>
      report.written = [⟨[], [['r']]⟩] &&
        report.pushed.map (fun push => (push.path, push.conflict)) = [(['r'], true)]) = true := by
    decide +kernel
  cases ends : Run.publicRun.result with
  | error cause => rw [ends] at told; cases told
  | ok report =>
      rw [ends] at told
      simp only [Except.toOption, Option.any_some, Bool.and_eq_true, decide_eq_true_eq] at told
      exact ⟨report, rfl, rfl, told.1, told.2,
        pushesWritten_of_report Run.withoutComponent Run.publicSettings Run.compactShell
          Run.crookedSite ⟨[.response 404 [], .response 409 []], []⟩ "Tab".toList rfl ends⟩

end EmbedScaffold
