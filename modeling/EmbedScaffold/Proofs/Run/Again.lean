import EmbedScaffold.Proofs.Component.Declared
import EmbedScaffold.Proofs.Run.Commit
import EmbedScaffold.Proofs.Run.Settled
import EmbedScaffold.Proofs.Text.Utf8

/-!
# Running again

What a run has written without a failure is what the next run reads.  If the fields are read back as
the component's document declares them, the next run has the same targets, except that the mock data
of a field without a literal default is another one; it changes nothing exactly if none of them
finds anything to do.
-/

namespace EmbedScaffold

/-! ## What is left to be read -/

namespace Staging

variable {site : Site} {staging checked : Staging} {place : Place} {draft : Draft}

/-- If no step failed, the drafts that changed are balanced. -/
theorem isBalanced_of_validate (validates : staging.validate = .ok checked)
    (clean : ∀ step ∈ checked.steps, step.failed = false) (member : (place, draft) ∈ staging.drafts)
    (dirty : draft.isDirty = true) : draft.isBalanced = true := by
  obtain ⟨-, found, finds, steps⟩ := validate_ok validates
  obtain ⟨result, among, tells⟩ := exists_result_of_mapM finds member
  dsimp only at tells
  rw [imbalance?, if_pos dirty] at tells
  rw [Draft.isBalanced]
  cases checks : draft.check with
  | ok _ => rfl
  | error cause =>
      rw [checks] at tells
      dsimp only at tells
      split_ifs at tells
      obtain rfl := Except.ok.inj tells
      have recorded : (⟨"validate".toList, draft.path, .error, cause.message.toList⟩ : Step) ∈
          checked.steps := by
        rw [steps]
        exact List.mem_append_right _ (List.mem_filterMap.mpr ⟨_, among, rfl⟩)
      cases clean _ recorded

theorem mem_writable {drafts : Drafts} (member : draft ∈ drafts.writable) :
    draft.isDirty = true ∧ ∃ place, (place, draft) ∈ drafts := by
  obtain ⟨among, writes⟩ := List.mem_filter.mp member
  obtain ⟨⟨place, other⟩, inDrafts, rfl⟩ := List.mem_map.mp among
  exact ⟨(Bool.and_eq_true_iff.mp writes).1, place, inDrafts⟩

theorem Faithful.nodup_writable {drafts : Drafts} (faithful : Faithful site drafts)
    (distinct : (drafts.map Prod.fst).Nodup) :
    (drafts.writable.map fun draft => draft.path.place site.workplace).Nodup := by
  have places : (drafts.map Prod.snd).map (fun draft => draft.path.place site.workplace) =
      drafts.map Prod.fst := by
    rw [List.map_map]
    exact List.map_congr_left fun entry member => (faithful entry.1 entry.2 member).1
  have part := (List.filter_sublist (l := drafts.map Prod.snd)
    (p := fun draft => draft.isDirty && draft.isBalanced)).map
    fun draft => draft.path.place site.workplace
  rw [places] at part
  exact distinct.sublist part

/-- Once all drafts that changed are written, the path of every draft reads its text, if this has no
carriage return. -/
theorem read_of_progress {start left : Site} {drafts : Drafts}
    (progress : Commit.Progress start left drafts.writable)
    (encodable : ∀ draft ∈ drafts.writable, draft.encodable = true)
    (faithful : Faithful start drafts) (distinct : (drafts.map Prod.fst).Nodup)
    (balanced : ∀ place draft, (place, draft) ∈ drafts → draft.isDirty = true →
      draft.isBalanced = true)
    (member : (place, draft) ∈ drafts) (plain : '\r' ∉ draft.content) :
    left.read draft.path = .ok (some draft.content) := by
  obtain ⟨here, reads⟩ := faithful place draft member
  rw [Site.read_eq_some_iff]
  by_cases dirty : draft.isDirty = true
  · have among : draft ∈ drafts.writable := by
      refine List.mem_filter.mpr ⟨List.mem_map_of_mem member, ?_⟩
      rw [dirty, balanced place draft member dirty]
      rfl
    obtain ⟨there, opens, -⟩ := progress.opens draft among
    have stored := progress.stored (faithful.nodup_writable distinct) draft among
    rw [← progress.workplace, Site.place_of_locate opens.locates, Commit.bytesOf,
      if_pos (encodable draft among)] at stored
    exact ⟨there, _, _, opens.locates, opens.free, stored, Text.decode_encode 0 _,
      (Text.normalizeNewlines_of_notMem plain).symm⟩
  · -- What did not change is not written, and nothing else was written to its file.
    have unchanged : draft.before = some draft.content := by
      by_contra changed
      exact dirty (by simp [Draft.isDirty, changed])
    rw [unchanged] at reads
    obtain ⟨there, bytes, raw, locates, free, found, decodes, same⟩ :=
      Site.read_eq_some_iff.mp reads
    refine ⟨there, bytes, raw,
      Site.locate_of_directories progress.workplace progress.keeps locates, ?_, ?_, decodes, same⟩
    · refine Bool.eq_false_iff.mpr fun isDirectory => ?_
      rcases progress.fresh there isDirectory with earlier | absent
      · rw [free] at earlier
        cases earlier
      · rw [found] at absent
        cases absent
    · rw [progress.others there fun other among same => ?_, found]
      obtain ⟨otherDirty, otherPlace, otherMember⟩ := mem_writable among
      have samePlace : otherPlace = place := by
        rw [← (faithful _ _ otherMember).1, same, ← here]
        exact (Site.place_of_locate locates).symm
      obtain ⟨-, rfl⟩ := Prod.mk.inj
        (List.inj_on_of_nodup_map distinct otherMember member samePlace)
      exact dirty otherDirty

end Staging

namespace Run

variable {means : Means} {settings : Settings} {site left : Site} {component : Component}
  {staging : Staging} {others : List Target} {ending : Ending} {report : Report}

/-- A run that pushes nothing and succeeds without a failed step has written all drafts. -/
theorem finish_clean (offline : means.publisher = none) (writes : settings.dryRun = false)
    (finishes : (finish means settings staging
      { component := some component, steps := staging.steps } ending).result = .ok report)
    (success : report.success = true) (clean : report.failures = []) :
    report.component = some component ∧ (∀ step ∈ staging.steps, step.failed = false) ∧
      Commit.Progress ending.site
        (finish means settings staging
          { component := some component, steps := staging.steps } ending).site
        staging.drafts.writable ∧
      ∀ draft ∈ staging.drafts.writable, draft.encodable = true := by
  unfold finish at *
  dsimp only at *
  split_ifs at * with failed dry
  · obtain rfl := Except.ok.inj finishes
    cases success
  · cases writes.symm.trans dry
  · unfold commit at *
    cases commits : Commit.ofDrafts means.refusals settings.transactional ending.site
        staging.drafts.writable with
    | unencodable left => rw [commits] at finishes; cases finishes
    | undone left path cause restored =>
        rw [commits] at finishes
        obtain rfl := Except.ok.inj finishes
        cases success
    | finished left written failures =>
        rw [commits] at finishes
        simp only [pushWritten, offline] at finishes
        obtain rfl := Except.ok.inj finishes
        have sound : ∀ step ∈ staging.steps ++ failures ++ [], step.failed = false :=
          fun step member => Bool.eq_false_iff.mpr (List.filter_eq_nil_iff.mp clean step member)
        rw [List.append_nil] at sound
        obtain ⟨kept, later, onlyKept, onlyLater, progress, completed⟩ :=
          (Commit.Progress.begun ending.site).finished commits
        obtain rfl : written = kept := onlyKept
        obtain rfl : failures = later := onlyLater
        -- The failures of the commit would be failed steps of the report.
        have none : failures = [] := List.eq_nil_iff_forall_not_mem.mpr fun step member => by
          have fine := sound step (List.mem_append_right staging.steps member)
          rw [completed.failed step member] at fine
          cases fine
        obtain rfl := completed.complete none
        dsimp only
        simp only [pushWritten, offline]
        exact ⟨trivial, fun step member => sound step (List.mem_append_left _ member), progress,
          completed.encodable⟩

theorem existing_of_read {name : Text} {earlier content : Option Text}
    (begun : existing settings site name = .ok earlier)
    (reads : left.read (settings.componentPath name) = .ok content) :
    existing settings left name = .ok content := by
  unfold existing at begun ⊢
  split_ifs at begun ⊢
  rw [reads]
  rfl

/-- What a run that left a site needs to have its component entered again: the fields are read
back as its document declares them, no target shares this document, and the targets are read
plainly. -/
structure Repeatable (settings : Settings) (site left : Site) (component : Component)
    (others : List Target) : Prop where
  rereads : (Component.declaredFields (some component.text)).map Field.merge =
    .ok (component.fields.map Field.declared)
  noReturn : '\r' ∉ component.text
  apart : ∀ found, Target.loadersAndPlayground settings site component = .ok found →
    ∀ target ∈ Target.registries settings site.workplace component ++ found,
      target.path.place site.workplace ≠ component.path.place site.workplace
  published : Target.loadersAndPlayground settings left component = .ok others
  direct : ∀ target ∈ Target.registries settings left.workplace component ++ others,
    target.IsDirect left

/-- The component's document is staged as it was generated, if no target shares it. -/
theorem Repeatable.mem_drafts {existing : Option Text}
    (repeatable : Repeatable settings site left component others)
    (stages : stage settings site component
      (Staging.ofComponent site.workplace existing component) = .ok staging) :
    (component.path.place site.workplace,
      ⟨component.path, existing, component.text, component.encodable⟩) ∈ staging.drafts := by
  obtain ⟨found, edited, published, edits, validates⟩ := stage_ok stages
  obtain ⟨trace, targets, traced, -⟩ := Staging.edit_ok edits
  rw [(Staging.validate_ok validates).1]
  refine Drafts.mem_of_at? ?_
  rw [traced.at?_elsewhere fun pair member => ?_]
  · exact List.lookup_cons_self
  · refine repeatable.apart found published pair.1 ?_
    rw [← targets]
    exact List.mem_map_of_mem member

/-- A commit of all drafts leaves the component's document as it was generated. -/
theorem Repeatable.placed {existing : Option Text}
    (repeatable : Repeatable settings site left component others)
    (leads : component.path.hasNull = false)
    (reads : site.read component.path = .ok existing)
    (stages : stage settings site component
      (Staging.ofComponent site.workplace existing component) = .ok staging)
    (clean : ∀ step ∈ staging.steps, step.failed = false)
    (progress : Commit.Progress site left staging.drafts.writable)
    (encodable : ∀ draft ∈ staging.drafts.writable, draft.encodable = true) :
    Placed left component.redeclared := by
  have member := repeatable.mem_drafts stages
  have faithful := stage_faithful reads stages
  obtain ⟨found, edited, published, edits, validates⟩ := stage_ok stages
  have balanced : ∀ place draft, (place, draft) ∈ staging.drafts → draft.isDirty = true →
      draft.isBalanced = true := by
    intro place draft among dirty
    rw [(Staging.validate_ok validates).1] at among
    exact Staging.isBalanced_of_validate validates clean among dirty
  have distinct := stage_distinct stages
  refine ⟨leads, ?_, ?_⟩
  · exact Staging.read_of_progress progress encodable faithful distinct balanced member
      repeatable.noReturn
  · -- A text that cannot be encoded is staged as changed, and writing it breaks the run off.
    by_contra broken
    have unencodable : component.encodable = false := Bool.eq_false_iff.mpr broken
    have dirty : Draft.isDirty
        ⟨component.path, existing, component.text, component.encodable⟩ = true := by
      simp [Draft.isDirty, unencodable]
    refine broken (encodable _ (List.mem_filter.mpr ⟨List.mem_map_of_mem member, ?_⟩))
    rw [dirty, balanced _ _ member dirty]
    rfl

theorem Repeatable.direct_redeclared
    (repeatable : Repeatable settings site left component others) :
    ∀ target ∈ Target.registries settings left.workplace component.redeclared ++ others,
      target.IsDirect left := by
  intro target member
  rcases List.mem_append.mp member with registry | other
  · have paths : ∀ target ∈ Target.registries settings left.workplace component,
        (∃ found, left.read target.path = .ok found) ∧ ¬ left.Hides target.path := by
      intro target among
      exact repeatable.direct target (List.mem_append_left others among)
    exact Target.forall_path_redeclared
      (p := fun path => (∃ found, left.read path = .ok found) ∧ ¬ left.Hides path) paths
      target registry
  · exact repeatable.direct target (List.mem_append_right _ other)

theorem settled_redeclared_iff :
    Settled settings left component.redeclared others ↔
      (∃ warnings, checkOwner settings left component = .ok warnings) ∧
        (∀ target ∈ Target.lasting settings left.workplace component ++ others,
          target.IsSettled left) ∧
        (Target.mockData settings component.redeclared).IsSettled left := by
  refine and_congr Iff.rfl ?_
  simp only [List.mem_append, Target.mem_registries_redeclared]
  constructor
  · intro settled
    refine ⟨fun target member => settled target ?_, settled _ (.inl (.inl rfl))⟩
    exact member.imp_left .inr
  · rintro ⟨lasting, mock⟩ target ((rfl | member) | member)
    · exact mock
    · exact lasting target (.inl member)
    · exact lasting target (.inr member)

end Run

namespace Run

/-- Settings under which every registry has a document of its own. -/
def apartSettings : Settings :=
  { compactSettings with
    bundler := ['b']
    schemaRegistry := ['s']
    propsRegistry := ['q']
    loader := ['o'] }

/-- A site with a directory for components and some documents. -/
def apartSite (documents : List (Place × String)) : Site where
  workplace := []
  directories := [[['d']]]
  files := documents.map fun (place, content) => (place, Text.encode content.toList)

def emptySite : Site :=
  apartSite [
    ([['b']], "input = \x7b\x7d"),
    ([['r']], "embedRegistry = \x7b\x7d"),
    ([['s']], "const COMMON_FIELDS = embedConfigRegistry = \x7b\x7d"),
    ([['q']], "componentProps = \x7b\x7d"),
    ([['o']], "embedComponents = \x7b\x7d")]

/-- The component without fields of its own. -/
def bareTab : Component where
  name := ['T']
  lookupKey := ['t']
  fields := Field.shared
  path := ⟨[], [['d'], "T.svelte".toList]⟩
  text := "<p></p>\n".toList
  formatted := true
  encodable := true

def firstRun : Ending :=
  runUnder [] apartSettings compactShell emptySite ⟨[], []⟩ ['T']

def bareTargets : List Target :=
  Target.registries apartSettings [] bareTab ++ Target.playground apartSettings [] bareTab

theorem firstRun_settles :
    (firstRun.result.toOption.any fun report =>
        report.success && report.failures = [] && report.component = some bareTab) = true ∧
      firstRun.site.workplace = [] ∧ apartSettings.publicLoaders firstRun.site = .ok [] ∧
      (bareTargets.all fun target =>
        target.path.place [] ≠ bareTab.path.place [] && target.isSettled firstRun.site) = true ∧
      (checkOwner apartSettings firstRun.site bareTab).toOption.isSome = true := by
  decide +kernel

theorem isSettled_of_bareTargets {target : Target} (member : target ∈ bareTargets) :
    target.path.place [] ≠ bareTab.path.place [] ∧
      target.IsDirect firstRun.site ∧ target.IsSettled firstRun.site := by
  obtain ⟨-, -, -, settled, -⟩ := firstRun_settles
  obtain ⟨apart, reads⟩ := Bool.and_eq_true_iff.mp (List.all_eq_true.mp settled target member)
  exact ⟨of_decide_eq_true apart, Target.isSettled_iff.mp reads⟩

theorem repeatable_firstRun :
    Repeatable apartSettings emptySite firstRun.site bareTab
      (Target.playground apartSettings [] bareTab) := by
  obtain ⟨-, workplace, stillPublished, -, -⟩ := firstRun_settles
  have published : Target.loadersAndPlayground apartSettings emptySite bareTab =
      .ok (Target.playground apartSettings [] bareTab) := by
    have none : apartSettings.publicLoaders emptySite = .ok [] := by decide +kernel
    rw [Target.loadersAndPlayground, none]
    rfl
  constructor
  · decide +kernel
  · decide +kernel
  · intro found finds target member
    obtain rfl := Except.ok.inj (published.symm.trans finds)
    exact (isSettled_of_bareTargets member).1
  · rw [Target.loadersAndPlayground, stillPublished, workplace]
    rfl
  · intro target member
    rw [workplace] at member
    exact (isSettled_of_bareTargets member).2.1

end Run

end EmbedScaffold
