import EmbedScaffold.Proofs.Run.Staging
import EmbedScaffold.Proofs.Run.Target

/-!
# The course of a run

A run stops before anything is staged, and leaves the site alone, or it stages its targets and
finishes.  Until it finishes it only reads.
-/

namespace EmbedScaffold

/-! ## Generating -/

namespace Component

variable {formatter : Option Formatter} {shell : Shell} {name : Text} {path : Path}
  {existing : Option Text} {generation : Generation}

/-- The component of a generation is the one that was asked for. -/
theorem generate_ok (generates : generate formatter shell name path existing = .ok generation) :
    generation.component.name = name ∧
      generation.component.lookupKey = EmbedScaffold.lookupKey name ∧
      generation.component.path = path := by
  obtain ⟨declared, -, generates⟩ := exists_of_bind generates
  dsimp only at generates
  split_ifs at generates with writable
  obtain rfl := Except.ok.inj generates
  unfold format
  cases formatter with
  | none => exact ⟨rfl, rfl, rfl⟩
  | some formatter =>
      dsimp only
      split <;> exact ⟨rfl, rfl, rfl⟩

end Component

/-! ## Staging and checking -/

namespace Staging

variable {staging checked : Staging}

/-- Checking the drafts only adds the steps that tell of unbalanced ones. -/
theorem validate_ok (validates : staging.validate = .ok checked) :
    checked.drafts = staging.drafts ∧
      ∃ found, (staging.drafts.mapM fun entry => imbalance? entry.2) = .ok found ∧
        checked.steps = staging.steps ++ found.filterMap id := by
  obtain ⟨found, finds, validates⟩ := exists_of_bind validates
  obtain rfl := Except.ok.inj validates
  exact ⟨rfl, found, finds, rfl⟩

end Staging

namespace Run

variable {settings : Settings} {site : Site} {component : Component} {begun staging : Staging}

theorem stage_ok (stages : stage settings site component begun = .ok staging) :
    ∃ others edited,
      Target.loadersAndPlayground settings site component = .ok others ∧
      begun.edit site (Target.registries settings site.workplace component ++ others) =
        .ok edited ∧
      edited.validate = .ok staging := by
  obtain ⟨between, first, stages⟩ := exists_of_bind stages
  obtain ⟨others, found, stages⟩ := exists_of_bind stages
  obtain ⟨edited, second, validates⟩ := exists_of_bind stages
  refine ⟨others, edited, ok_of_mapError found, ?_, validates⟩
  rw [Staging.edit] at first second ⊢
  rw [List.foldlM_append, first]
  exact second

/-- The drafts that are written are kept under their places, with the texts that their paths
read. -/
theorem stage_faithful {existing : Option Text} (reads : site.read component.path = .ok existing)
    (stages : stage settings site component
      (Staging.ofComponent site.workplace existing component) = .ok staging) :
    Staging.Faithful site staging.drafts := by
  obtain ⟨others, edited, -, edits, validates⟩ := stage_ok stages
  obtain ⟨trace, -, traced, -⟩ := Staging.edit_ok edits
  rw [(Staging.validate_ok validates).1]
  refine traced.faithful fun place draft member => ?_
  cases List.mem_singleton.mp member
  exact ⟨rfl, reads⟩

/-- The drafts of a staging are kept under places of their own. -/
theorem stage_distinct {existing : Option Text}
    (stages : stage settings site component
      (Staging.ofComponent site.workplace existing component) = .ok staging) :
    (staging.drafts.map Prod.fst).Nodup := by
  obtain ⟨others, edited, -, edits, validates⟩ := stage_ok stages
  obtain ⟨trace, -, traced, -⟩ := Staging.edit_ok edits
  rw [(Staging.validate_ok validates).1]
  exact traced.distinct (List.nodup_singleton _)

/-! ## The whole run -/

/-- Whether a run ended with a report of success. -/
def Ending.succeeded (ending : Ending) : Bool :=
  match ending.result with
  | .ok report => report.success
  | .error _ => false

/-- The documents that a run reports as written. -/
def Ending.written (ending : Ending) : List Path :=
  match ending.result with
  | .ok report => report.written
  | .error _ => []

/-- How far a run comes with some means, from its start to its end. -/
inductive Course (means : Means) (settings : Settings) (name : Text) (start : Ending) :
    Ending → Prop
  | stopped {ending : Ending} (site : ending.site = start.site)
      (unsuccessful : ending.succeeded = false) (unwritten : ending.written = []) :
      Course means settings name start ending
  | staged {existing : Option Text} {generation : Component.Generation}
      {warnings : List ConsoleItem} {staging : Staging} {started : Ending}
      (reads : Run.existing settings start.site name = .ok existing)
      (generates : Component.generate means.formatter means.shell name
        (settings.componentPath name) existing = .ok generation)
      (leads : generation.component.path.hasNull = false)
      (owns : checkOwner settings start.site generation.component = .ok warnings)
      (stages : stage settings start.site generation.component
        (Staging.ofComponent start.site.workplace existing generation.component) = .ok staging)
      (site : started.site = start.site) :
      Course means settings name start
        (finish means settings staging
          { component := some generation.component, steps := staging.steps } started)

variable {means : Means} {name : Text} {existing : Option Text}

theorem existing_ok (reads : Run.existing settings site name = .ok existing) :
    site.read (settings.componentPath name) = .ok existing := by
  unfold Run.existing at reads
  split_ifs at reads
  exact ok_of_mapError reads

theorem withMeans_course (start : Ending) :
    Course means settings name start (withMeans means settings name start) := by
  -- Every way to stop returns the site that the run began with.
  unfold withMeans
  cases reads : Run.existing settings start.site name with
  | error refusal => exact .stopped rfl rfl rfl
  | ok existing =>
      dsimp only
      cases generates : Component.generate means.formatter means.shell name
          (settings.componentPath name) existing with
      | error fault =>
          cases fault with
          | longInteger => exact .stopped rfl rfl rfl
          | script fault => cases fault <;> exact .stopped rfl rfl rfl
      | ok generation =>
          unfold enter
          dsimp only
          split_ifs with hasNull
          · exact .stopped rfl rfl rfl
          · cases owns : checkOwner settings start.site generation.component with
            | error objection => cases objection <;> exact .stopped rfl rfl rfl
            | ok warnings =>
                dsimp only
                cases stages : stage settings start.site generation.component
                    (Staging.ofComponent start.site.workplace existing generation.component) with
                | error cause => exact .stopped rfl rfl rfl
                | ok staging =>
                    exact .staged reads generates (Bool.eq_false_iff.mpr hasNull) owns stages rfl

namespace Means

variable {shell : Shell} {refusals : Refusals}

/-- The means that settings ask for: there is no publisher without a remote repository, and no
formatter unless it is asked for. -/
theorem ofSettings_ok (creates : ofSettings settings shell refusals = .ok means) :
    means.shell = shell ∧ means.refusals = refusals ∧
      (settings.remote.enabled = false → means.publisher = none) ∧
      (settings.format.enabled = false → means.formatter = none) := by
  unfold ofSettings at creates
  dsimp only at creates
  cases enabled : settings.remote.enabled with
  | false =>
      rw [enabled] at creates
      obtain rfl := Except.ok.inj creates
      exact ⟨rfl, rfl, fun _ => rfl, fun format => by simp [format]⟩
  | true =>
      rw [enabled] at creates
      cases publishes : Remote.Publisher.create settings.remote.repository settings.remote.token
          settings.remote.branch settings.remote.address settings.remote.timeout with
      | error fault => rw [publishes] at creates; cases creates
      | ok publisher =>
          rw [publishes] at creates
          obtain rfl := Except.ok.inj creates
          exact ⟨rfl, rfl, nofun, fun format => by simp [format]⟩

end Means

/-! ## A small site -/

/-- Settings under which one document holds all registries. -/
def compactSettings : Settings where
  components := ['d']
  bundler := ['r']
  componentRegistry := ['r']
  schemaRegistry := ['r']
  propsRegistry := ['r']
  mockData := ['m']
  loader := ['r']
  publicPattern := ['l']
  playground := ['p']

/-- A shell whose formatter gives a short document. -/
def compactShell : Shell :=
  fun _ _ => .finished 0 "<p></p>\n".toList []

/-- A site with a directory for components and the document for all registries. -/
def compactSite (registry : String) (components : List (Text × Bytes)) : Site where
  workplace := []
  directories := [[['d']]]
  files := ([['r']], Text.encode registry.toList) ::
    components.map fun (name, content) => ([['d'], name], content)

end Run

/-- A run takes its course with the means that its settings ask for; without them it stops. -/
theorem runUnder_course (refusals : Refusals) (settings : Settings) (shell : Shell) (site : Site)
    (exchange : Remote.Exchange) (name : Text) :
    ((runUnder refusals settings shell site exchange name).site = site ∧
        (runUnder refusals settings shell site exchange name).succeeded = false) ∨
      ∃ means, Run.Means.ofSettings settings shell refusals = .ok means ∧
        Run.Course means settings name { result := .ok {}, site, exchange }
          (runUnder refusals settings shell site exchange name) := by
  unfold runUnder
  cases creates : Run.Means.ofSettings settings shell refusals with
  | error fault => exact .inl ⟨rfl, rfl⟩
  | ok means => exact .inr ⟨means, rfl, Run.withMeans_course _⟩

end EmbedScaffold
