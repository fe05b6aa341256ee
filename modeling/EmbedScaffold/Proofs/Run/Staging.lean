import EmbedScaffold.Proofs.Site.Tree
import EmbedScaffold.Run
import Mathlib.Data.List.Induction
import Mathlib.Data.List.Nodup

/-!
# What is staged

A staging is traced target by target.  At every place the staged text is that of the document,
edited by exactly those targets there whose steps entered the component: a step that failed or was
skipped leaves nothing behind.  Paths that hide a file are apart: their documents are taken for
missing, and the file is staged afresh.
-/

namespace EmbedScaffold

/-! ## Drafts by their places -/

namespace Drafts

variable {drafts : Drafts} {place asked : Place} {draft : Draft}

theorem at?_put : (drafts.put place draft).at? asked =
    if asked = place then some draft else drafts.at? asked := by
  induction drafts with
  | nil =>
      by_cases same : asked = place
      · simp [put, at?, same]
      · simp [put, at?, same, List.lookup_cons, beq_false_of_ne same]
  | cons head rest inductionHypothesis =>
      obtain ⟨known, old⟩ := head
      rw [at?] at inductionHypothesis ⊢
      rw [put]
      by_cases there : known = place
      · subst there
        rw [if_pos rfl, List.lookup_cons]
        by_cases same : asked = known
        · simp [same]
        · rw [beq_false_of_ne same, if_neg same, at?, List.lookup_cons, beq_false_of_ne same]
      · rw [if_neg there, List.lookup_cons, inductionHypothesis, at?, at?, List.lookup_cons]
        by_cases same : asked = known
        · subst same
          simp [there]
        · rw [beq_false_of_ne same]

theorem mem_of_mem_put {found : Place × Draft} (member : found ∈ drafts.put place draft) :
    found = (place, draft) ∨ found ∈ drafts := by
  induction drafts with
  | nil => exact .inl (List.mem_singleton.mp member)
  | cons head rest inductionHypothesis =>
      obtain ⟨known, old⟩ := head
      rw [put] at member
      split_ifs at member with same
      · rcases List.mem_cons.mp member with new | old
        · exact .inl new
        · exact .inr (List.mem_cons_of_mem _ old)
      · rcases List.mem_cons.mp member with rfl | later
        · exact .inr List.mem_cons_self
        · exact (inductionHypothesis later).imp_right (List.mem_cons_of_mem _)

theorem keys_put : (drafts.put place draft).map Prod.fst =
    if place ∈ drafts.map Prod.fst then drafts.map Prod.fst
    else drafts.map Prod.fst ++ [place] := by
  induction drafts with
  | nil => rfl
  | cons head rest inductionHypothesis =>
      obtain ⟨known, old⟩ := head
      rw [put, List.map_cons]
      by_cases same : known = place
      · rw [if_pos same, same, if_pos List.mem_cons_self, List.map_cons]
      · rw [if_neg same, List.map_cons, inductionHypothesis]
        by_cases later : place ∈ rest.map Prod.fst
        · rw [if_pos later, if_pos (List.mem_cons_of_mem _ later)]
        · have absent : place ∉ known :: rest.map Prod.fst := by
            rw [List.mem_cons, not_or]
            exact ⟨Ne.symm same, later⟩
          rw [if_neg later, if_neg absent, List.cons_append]

theorem nodup_put (distinct : (drafts.map Prod.fst).Nodup) :
    ((drafts.put place draft).map Prod.fst).Nodup := by
  rw [keys_put]
  split_ifs with known
  · exact distinct
  · exact List.Nodup.append distinct (List.nodup_singleton place)
      (List.disjoint_singleton.mpr known)

theorem mem_of_at? (found : drafts.at? place = some draft) : (place, draft) ∈ drafts := by
  obtain ⟨earlier, later, rfl, -⟩ := List.lookup_eq_some_iff.mp found
  exact List.mem_append_right earlier List.mem_cons_self

end Drafts

namespace Staging

variable {site : Site} {begun staging next : Staging} {drafts later : Drafts} {target : Target}
  {targets : List Target} {step : Step} {place : Place} {component : Component}

/-! ## One target -/

/-- The draft of a target: one that is staged already, or one that is begun from what its path
reads. -/
inductive Drafted (site : Site) (drafts : Drafts) (target : Target) : Draft → Prop
  | staged {draft : Draft} (found : drafts.at? (target.path.place site.workplace) = some draft) :
      Drafted site drafts target draft
  | read {content : Text} (absent : drafts.at? (target.path.place site.workplace) = none)
      (reads : site.read target.path = .ok (some content)) :
      Drafted site drafts target { path := target.path, before := some content, content }
  | new {content : Text} (absent : drafts.at? (target.path.place site.workplace) = none)
      (reads : site.read target.path = .ok none) (initial : target.initial = some content) :
      Drafted site drafts target { path := target.path, before := none, content }

theorem drafted_of_draftFor {draft : Draft}
    (begins : draftFor site drafts target = .ok (some draft)) :
    Drafted site drafts target draft := by
  rw [draftFor] at begins
  split at begins
  · next found =>
      obtain rfl := Option.some.inj (Except.ok.inj begins)
      exact .staged found
  · next absent =>
      cases reads : site.read target.path with
      | error fault => rw [reads] at begins; cases begins
      | ok found =>
          rw [reads] at begins
          cases found with
          | some content =>
              obtain rfl := Option.some.inj (Except.ok.inj begins)
              exact .read absent reads
          | none =>
              obtain ⟨content, initial, rfl⟩ :=
                Option.map_eq_some_iff.mp (Except.ok.inj begins)
              exact .new absent reads initial

/-- What editing one target does: the step that it records and the drafts that it leaves. -/
inductive Applied (site : Site) (drafts : Drafts) (target : Target) : Step → Drafts → Prop
  | unread {fault : ReadFault} (begins : draftFor site drafts target = .error fault) :
      Applied site drafts target ⟨target.name, target.path, .error, fault.message⟩ drafts
  | missing (begins : draftFor site drafts target = .ok none) :
      Applied site drafts target ⟨target.name, target.path, .skipped, missingDetail⟩ drafts
  | unedited {draft : Draft} {fault : PatchFault}
      (begins : draftFor site drafts target = .ok (some draft))
      (edits : target.edit draft.content = .error fault) :
      Applied site drafts target ⟨target.name, target.path, .error, fault.message.toList⟩ drafts
  | withoutPlace {draft : Draft} (begins : draftFor site drafts target = .ok (some draft))
      (edits : target.edit draft.content = .ok none) :
      Applied site drafts target ⟨target.name, target.path, .skipped, target.withoutPlace⟩
        (if draft.before.isNone then drafts
        else drafts.put (target.path.place site.workplace) draft)
  | entered {draft : Draft} {outcome : Outcome}
      (begins : draftFor site drafts target = .ok (some draft))
      (edits : target.edit draft.content = .ok (some outcome)) :
      Applied site drafts target
        ⟨target.name, target.path,
          Status.ofEdit draft.before.isNone (outcome.changed || ! target.encodable), []⟩
        (drafts.put (target.path.place site.workplace)
          { draft with
            content := outcome.content
            encodable := draft.encodable && target.encodable })

theorem apply_ok (applies : apply site staging target = .ok next) :
    ∃ step, Applied site staging.drafts target step next.drafts ∧
      next.steps = staging.steps ++ [step] := by
  unfold apply at applies
  dsimp only at applies
  split_ifs at applies with hasNull
  split at applies
  · next fault begins =>
      obtain rfl := Except.ok.inj applies
      exact ⟨_, .unread begins, rfl⟩
  · next begins =>
      obtain rfl := Except.ok.inj applies
      exact ⟨_, .missing begins, rfl⟩
  · next draft begins =>
      split at applies
      · next fault edits =>
          split_ifs at applies
          obtain rfl := Except.ok.inj applies
          exact ⟨_, .unedited begins edits, rfl⟩
      · next edits =>
          obtain rfl := Except.ok.inj applies
          exact ⟨_, .withoutPlace begins edits, rfl⟩
      · next outcome edits =>
          obtain rfl := Except.ok.inj applies
          exact ⟨_, .entered begins edits, rfl⟩

theorem Applied.name_and_path (applied : Applied site drafts target step later) :
    step.name = target.name ∧ step.path = target.path := by
  cases applied <;> exact ⟨rfl, rfl⟩

/-! ## All targets -/

/-- How drafts come about from those at the beginning, with the targets in order and the steps that
they recorded. -/
inductive Traced (site : Site) (begun : Drafts) : List (Target × Step) → Drafts → Prop
  | begun : Traced site begun [] begun
  | next {trace : List (Target × Step)} {drafts later : Drafts} {target : Target} {step : Step}
      (traced : Traced site begun trace drafts) (applied : Applied site drafts target step later) :
      Traced site begun (trace ++ [(target, step)]) later

theorem edit_concat : edit site begun (targets ++ [target]) =
    (edit site begun targets).bind fun staging => apply site staging target := by
  rw [edit, List.foldlM_append, ← edit]
  cases edit site begun targets with
  | error cause => rfl
  | ok staging =>
      change (List.foldlM (apply site) staging [target]) = apply site staging target
      rw [List.foldlM_cons]
      cases apply site staging target <;> rfl

theorem edit_ok (edits : edit site begun targets = .ok staging) :
    ∃ trace, trace.map Prod.fst = targets ∧ Traced site begun.drafts trace staging.drafts ∧
      staging.steps = begun.steps ++ trace.map Prod.snd := by
  -- From the last target, as a trace grows.
  induction targets using List.reverseRecOn generalizing staging with
  | nil =>
      obtain rfl := Except.ok.inj edits
      exact ⟨[], rfl, .begun, (List.append_nil _).symm⟩
  | append_singleton earlier target inductionHypothesis =>
      rw [edit_concat] at edits
      cases between : edit site begun earlier with
      | error cause => rw [between] at edits; cases edits
      | ok middle =>
          rw [between] at edits
          obtain ⟨trace, rfl, traced, steps⟩ := inductionHypothesis between
          obtain ⟨step, applied, recorded⟩ := apply_ok edits
          refine ⟨trace ++ [(target, step)], List.map_append, traced.next applied, ?_⟩
          rw [recorded, steps, List.map_append, List.append_assoc]
          rfl

theorem Traced.name_and_path {begun : Drafts} {trace : List (Target × Step)}
    (traced : Traced site begun trace drafts) :
    ∀ pair ∈ trace, pair.2.name = pair.1.name ∧ pair.2.path = pair.1.path := by
  induction traced with
  | begun => nofun
  | next traced applied inductionHypothesis =>
      intro pair member
      rcases List.mem_append.mp member with earlier | last
      · exact inductionHypothesis pair earlier
      · obtain rfl := List.mem_singleton.mp last
        exact applied.name_and_path

/-! ## Where drafts come from -/

/-- Every draft is kept under the place that its path names, with the text that its path reads. -/
def Faithful (site : Site) (drafts : Drafts) : Prop :=
  ∀ place draft, (place, draft) ∈ drafts →
    draft.path.place site.workplace = place ∧ site.read draft.path = .ok draft.before

theorem Drafted.faithful {draft : Draft} (drafted : Drafted site drafts target draft)
    (faithful : Faithful site drafts) :
    draft.path.place site.workplace = target.path.place site.workplace ∧
      site.read draft.path = .ok draft.before := by
  cases drafted with
  | staged found => exact faithful _ _ (Drafts.mem_of_at? found)
  | read absent reads => exact ⟨rfl, reads⟩
  | new absent reads initial => exact ⟨rfl, reads⟩

theorem Applied.faithful (applied : Applied site drafts target step later)
    (faithful : Faithful site drafts) : Faithful site later := by
  cases applied with
  | unread => exact faithful
  | missing => exact faithful
  | unedited => exact faithful
  | withoutPlace begins edits =>
      split_ifs with isNew
      · exact faithful
      · intro place draft member
        rcases Drafts.mem_of_mem_put member with new | old
        · cases new
          exact (drafted_of_draftFor begins).faithful faithful
        · exact faithful place draft old
  | entered begins edits =>
      intro place draft member
      rcases Drafts.mem_of_mem_put member with new | old
      · cases new
        exact (drafted_of_draftFor begins).faithful faithful
      · exact faithful place draft old

theorem Applied.distinct (applied : Applied site drafts target step later)
    (distinct : (drafts.map Prod.fst).Nodup) : (later.map Prod.fst).Nodup := by
  cases applied with
  | unread => exact distinct
  | missing => exact distinct
  | unedited => exact distinct
  | withoutPlace =>
      split_ifs
      · exact distinct
      · exact Drafts.nodup_put distinct
  | entered => exact Drafts.nodup_put distinct

/-- Every draft is kept under a place of its own. -/
theorem Traced.distinct {begun : Drafts} {trace : List (Target × Step)}
    (traced : Traced site begun trace drafts) (distinct : (begun.map Prod.fst).Nodup) :
    (drafts.map Prod.fst).Nodup := by
  induction traced with
  | begun => exact distinct
  | next traced applied inductionHypothesis => exact applied.distinct inductionHypothesis

theorem Applied.at?_elsewhere (applied : Applied site drafts target step later)
    (elsewhere : target.path.place site.workplace ≠ place) :
    later.at? place = drafts.at? place := by
  cases applied with
  | unread => rfl
  | missing => rfl
  | unedited => rfl
  | withoutPlace =>
      split_ifs
      · rfl
      · rw [Drafts.at?_put, if_neg (Ne.symm elsewhere)]
  | entered => rw [Drafts.at?_put, if_neg (Ne.symm elsewhere)]

/-- A draft that no target reaches stays as it was begun. -/
theorem Traced.at?_elsewhere {begun : Drafts} {trace : List (Target × Step)}
    (traced : Traced site begun trace drafts)
    (elsewhere : ∀ pair ∈ trace, pair.1.path.place site.workplace ≠ place) :
    drafts.at? place = begun.at? place := by
  induction traced with
  | begun => rfl
  | next traced applied inductionHypothesis =>
      rw [applied.at?_elsewhere (elsewhere _ (List.mem_append_right _ List.mem_cons_self))]
      exact inductionHypothesis fun pair member => elsewhere pair (List.mem_append_left _ member)

theorem Traced.faithful {begun : Drafts} {trace : List (Target × Step)}
    (traced : Traced site begun trace drafts) (faithful : Faithful site begun) :
    Faithful site drafts := by
  induction traced with
  | begun => exact faithful
  | next traced applied inductionHypothesis => exact applied.faithful inductionHypothesis

/-! ## Staged texts -/

/-- Whether a step entered the component into its document. -/
def isEntered : Status → Bool
  | .new | .changed | .unchanged => true
  | .skipped | .error => false

/-- The targets at a place whose steps entered the component, in order. -/
def enteredAt (workplace place : Place) (trace : List (Target × Step)) : List Target :=
  (trace.filter fun (target, step) =>
    target.path.place workplace = place && isEntered step.status).map Prod.fst

/-- Edit a text for one target after another; none if one of them has no place for the
component. -/
def editAll (targets : List Target) (content : Text) : Option Text :=
  targets.foldlM (fun content target =>
    match target.edit content with
    | .ok (some outcome) => some outcome.content
    | _ => none) content

/-- The text that the document at a place starts with: that of the component, or of the file, or
the initial text of the first target that is entered into a missing one. -/
def startAt (site : Site) (component : Component) (place : Place) (entered : List Target) :
    Option Text :=
  if place = component.path.place site.workplace then some component.text
  else (site.textAt? place).or (entered.head?.bind Target.initial)

theorem enteredAt_concat {workplace : Place} {trace : List (Target × Step)} :
    enteredAt workplace place (trace ++ [(target, step)]) =
      enteredAt workplace place trace ++
        if target.path.place workplace = place && isEntered step.status then [target] else [] := by
  rw [enteredAt, List.filter_append, List.map_append, ← enteredAt, List.filter_cons]
  split_ifs <;> rfl

theorem editAll_concat {content before : Text} {outcome : Outcome}
    (edited : editAll targets content = some before)
    (edits : target.edit before = .ok (some outcome)) :
    editAll (targets ++ [target]) content = some outcome.content := by
  rw [editAll] at edited ⊢
  rw [List.foldlM_append, edited]
  simp [edits]

theorem startAt_append {content : Text} {others : List Target}
    (starts : startAt site component place targets = some content) :
    startAt site component place (targets ++ others) = some content := by
  cases targets with
  | nil =>
      rw [startAt] at starts ⊢
      split_ifs at starts ⊢
      · exact starts
      · rw [List.head?_nil, Option.bind_none, Option.or_none] at starts
        rw [starts, Option.some_or]
  | cons first rest => exact starts

/-- What a place holds in step with the targets that were entered there. -/
def Consistent (site : Site) (component : Component) (place : Place) (entered : List Target) :
    Option Draft → Prop
  | none => entered = [] ∧ place ≠ component.path.place site.workplace
  | some draft =>
      (startAt site component place entered).bind (editAll entered) = some draft.content

theorem isEntered_ofEdit (isNew changed : Bool) : isEntered (.ofEdit isNew changed) := by
  cases isNew <;> cases changed <;> rfl

/-- A draft holds what was entered so far, or the initial text of the first target that is entered
into a missing document. -/
theorem Drafted.starts {draft : Draft} {entered : List Target}
    (drafted : Drafted site drafts target draft) (direct : ¬ site.Hides target.path)
    (consistent : Consistent site component (target.path.place site.workplace) entered
      (drafts.at? (target.path.place site.workplace))) :
    (∃ start, startAt site component (target.path.place site.workplace) entered = some start ∧
        editAll entered start = some draft.content) ∨
      (draft.before = none ∧ entered = [] ∧
        startAt site component (target.path.place site.workplace) [target] =
          some draft.content) := by
  cases drafted with
  | staged found =>
      rw [found] at consistent
      exact .inl (Option.bind_eq_some_iff.mp consistent)
  | read absent reads =>
      rw [absent] at consistent
      obtain ⟨rfl, elsewhere⟩ := consistent
      refine .inl ⟨_, ?_, rfl⟩
      rw [startAt, if_neg elsewhere, Site.textAt?_of_read reads, Option.some_or]
  | new absent reads initial =>
      rw [absent] at consistent
      obtain ⟨rfl, elsewhere⟩ := consistent
      have noFile : site.file? (target.path.place site.workplace) = none :=
        Option.not_isSome_iff_eq_none.mp fun held => direct ⟨reads, held⟩
      refine .inr ⟨rfl, rfl, ?_⟩
      rw [startAt, if_neg elsewhere, Site.textAt?, noFile, Option.bind_none, Option.none_or]
      exact initial

/-- One target keeps a place in step with the targets that were entered there. -/
theorem Applied.consistent {trace : List (Target × Step)}
    (applied : Applied site drafts target step later)
    (direct : target.path.place site.workplace = place → ¬ site.Hides target.path)
    (consistent : Consistent site component place (enteredAt site.workplace place trace)
      (drafts.at? place)) :
    Consistent site component place
      (enteredAt site.workplace place (trace ++ [(target, step)])) (later.at? place) := by
  rw [enteredAt_concat]
  by_cases here : target.path.place site.workplace = place
  · subst here
    rw [decide_eq_true rfl, Bool.true_and]
    cases applied with
    | unread => simpa [isEntered] using consistent
    | missing => simpa [isEntered] using consistent
    | unedited => simpa [isEntered] using consistent
    | withoutPlace begins edits =>
        rw [if_neg (by simp [isEntered]), List.append_nil]
        -- Only a draft that was read is kept without an entry.
        split_ifs with isNew
        · exact consistent
        · rw [Drafts.at?_put, if_pos rfl]
          rcases (drafted_of_draftFor begins).starts (direct rfl) consistent with
            ⟨start, starts, edited⟩ | ⟨absent, -, -⟩
          · exact Option.bind_eq_some_iff.mpr ⟨start, starts, edited⟩
          · rw [absent] at isNew
            exact absurd rfl isNew
    | entered begins edits =>
        rw [if_pos (isEntered_ofEdit _ _), Drafts.at?_put, if_pos rfl]
        -- The first target that is entered into a missing document gives the place its start.
        rcases (drafted_of_draftFor begins).starts (direct rfl) consistent with
          ⟨start, starts, edited⟩ | ⟨-, none, starts⟩
        · exact Option.bind_eq_some_iff.mpr
            ⟨start, startAt_append starts, editAll_concat edited edits⟩
        · rw [none]
          exact Option.bind_eq_some_iff.mpr ⟨_, starts, editAll_concat rfl edits⟩
  · -- A target elsewhere neither counts as entered here nor touches the draft.
    rwa [decide_eq_false here, Bool.false_and, if_neg Bool.false_ne_true, List.append_nil,
      applied.at?_elsewhere here]

theorem Traced.consistent {begun : Drafts} {trace : List (Target × Step)}
    (traced : Traced site begun trace drafts)
    (direct : ∀ pair ∈ trace, pair.1.path.place site.workplace = place →
      ¬ site.Hides pair.1.path)
    (consistent : Consistent site component place [] (begun.at? place)) :
    Consistent site component place (enteredAt site.workplace place trace) (drafts.at? place) := by
  induction traced with
  | begun => exact consistent
  | next traced applied inductionHypothesis =>
      refine applied.consistent (direct _ (List.mem_append_right _ List.mem_cons_self)) ?_
      exact inductionHypothesis fun pair member =>
        direct pair (List.mem_append_left _ member)

theorem consistent_ofComponent {existing : Option Text} :
    Consistent site component place []
      ((ofComponent site.workplace existing component).drafts.at? place) := by
  change Consistent site component place []
    (Drafts.at? [(component.path.place site.workplace, _)] place)
  rw [Drafts.at?, List.lookup_cons]
  by_cases here : place = component.path.place site.workplace
  · rw [← here, beq_self_eq_true]
    refine Option.bind_eq_some_iff.mpr ⟨component.text, ?_, rfl⟩
    rw [startAt, if_pos here]
  · rw [beq_false_of_ne here]
    exact ⟨rfl, here⟩

end Staging

namespace Run

variable {settings : Settings} {site : Site} {component : Component} {existing : Option Text}
  {begun staging : Staging} {others : List Target}

/-- Staging edits all targets in one pass and then checks the drafts. -/
theorem stage_eq_validate
    (found : Target.loadersAndPlayground settings site component = .ok others)
    (edits : begun.edit site (Target.registries settings site.workplace component ++ others) =
      .ok staging) :
    stage settings site component begun = staging.validate := by
  rw [Staging.edit, List.foldlM_append] at edits
  rw [stage, found, Staging.edit]
  cases between : (Target.registries settings site.workplace component).foldlM
      (Staging.apply site) begun with
  | error cause => rw [between] at edits; cases edits
  | ok edited =>
      rw [between] at edits
      change others.foldlM (Staging.apply site) edited = .ok staging at edits
      change (edited.edit site others).bind Staging.validate = _
      rw [Staging.edit, edits]
      rfl

open Staging in
/-- What reaches the check of the drafts.  The steps follow the targets, and at every place that no
target hides the staged text is the starting text of the document, edited by exactly the targets
there whose steps entered the component; a missing document that none of them entered is not
staged. -/
theorem stagedText_eq_editAll
    (found : Target.loadersAndPlayground settings site component = .ok others)
    (edits : (ofComponent site.workplace existing component).edit site
      (Target.registries settings site.workplace component ++ others) = .ok staging) :
    stage settings site component (ofComponent site.workplace existing component) =
        staging.validate ∧
      ∃ trace : List (Target × Step),
        trace.map Prod.fst = Target.registries settings site.workplace component ++ others ∧
        staging.steps = (ofComponent site.workplace existing component).steps ++
          trace.map Prod.snd ∧
        (∀ pair ∈ trace, pair.2.name = pair.1.name ∧ pair.2.path = pair.1.path) ∧
        ∀ place,
          (∀ pair ∈ trace, pair.1.path.place site.workplace = place →
            ¬ site.Hides pair.1.path) →
          (enteredAt site.workplace place trace ≠ [] ∨
              place = component.path.place site.workplace →
            (staging.drafts.at? place).isSome) ∧
          ∀ draft, staging.drafts.at? place = some draft →
            (startAt site component place (enteredAt site.workplace place trace)).bind
              (editAll (enteredAt site.workplace place trace)) = some draft.content := by
  obtain ⟨trace, targets, traced, steps⟩ := edit_ok edits
  refine ⟨stage_eq_validate found edits, trace, targets, steps, traced.name_and_path,
    fun place direct => ?_⟩
  have consistent := traced.consistent direct consistent_ofComponent
  cases drafted : staging.drafts.at? place with
  | none =>
      rw [drafted] at consistent
      refine ⟨fun entered => ?_, nofun⟩
      rcases entered with nonempty | here
      · exact absurd consistent.1 nonempty
      · exact absurd here consistent.2
  | some draft =>
      rw [drafted] at consistent
      exact ⟨fun _ => rfl, fun other same => Option.some.inj same ▸ consistent⟩

/-- A registry that two targets share, beside a directory and missing documents. -/
def sharedSite : Site where
  workplace := []
  directories := [[['d']]]
  files := [([['r']],
    Text.encode "embedRegistry = \x7b\n  a: A\n\x7d;\ncomponentProps = \x7b\x7d;\n".toList)]

/-- Settings under which two targets share a document.  Where `spelling` goes through the directory,
it names the registry. -/
def sharingSettings (spelling : String) : Settings where
  components := ['d']
  bundler := ['d']
  componentRegistry := spelling.toList
  schemaRegistry := ['d']
  propsRegistry := ['r']
  mockData := ['m']
  loader := ['d']
  publicPattern := ['l']
  playground := ['p']

/-- A component without fields. -/
def plainTab : Component where
  name := ['T']
  lookupKey := ['t']
  fields := []
  path := ⟨[], [['d'], ['T']]⟩
  text := []
  formatted := false
  encodable := true

theorem loadersAndPlayground_shared (spelling : String) :
    Target.loadersAndPlayground (sharingSettings spelling) sharedSite plainTab =
      .ok (Target.playground (sharingSettings spelling) [] plainTab) := by
  have none : (sharingSettings "").publicLoaders sharedSite = .ok [] := by decide +kernel
  change (sharingSettings spelling).publicLoaders sharedSite = .ok [] at none
  rw [Target.loadersAndPlayground, none]
  rfl

/-- The staging of the component in the shared registry. -/
def sharedStaging (spelling : String) : Except Break Staging :=
  (Staging.ofComponent [] none plainTab).edit sharedSite
    (Target.registries (sharingSettings spelling) [] plainTab ++
      Target.playground (sharingSettings spelling) [] plainTab)

theorem stagedText_eq_editAll_shared :
    ∃ staging trace draft,
      sharedStaging "d/../r" = .ok staging ∧
      trace.map Prod.fst = Target.registries (sharingSettings "d/../r") [] plainTab ++
        Target.playground (sharingSettings "d/../r") [] plainTab ∧
      trace.map (fun pair => pair.2.status) =
        [.error, .changed, .error, .changed, .skipped, .error, .skipped] ∧
      staging.drafts.at? [['r']] = some draft ∧
      (Staging.startAt sharedSite plainTab [['r']] (Staging.enteredAt [] [['r']] trace)).bind
        (Staging.editAll (Staging.enteredAt [] [['r']] trace)) = some draft.content ∧
      draft.content = ("import T from './d/T';\nembedRegistry = \x7b\n  a: A,\n  t: T\n\x7d;\n" ++
        "componentProps = \x7b\n  t: []\n\x7d;\n").toList := by
  let check (staging : Staging) : Bool :=
    staging.steps.map Step.status =
      [.new, .error, .changed, .error, .changed, .skipped, .error, .skipped] &&
    (staging.drafts.at? [['r']]).any fun draft =>
      draft.content = ("import T from './d/T';\nembedRegistry = \x7b\n  a: A,\n  t: T\n\x7d;\n" ++
        "componentProps = \x7b\n  t: []\n\x7d;\n").toList
  have checked : (sharedStaging "d/../r").toOption.any check := by decide +kernel
  cases edits : sharedStaging "d/../r" with
  | error cause => rw [edits] at checked; cases checked
  | ok staging =>
      rw [edits] at checked
      obtain ⟨statuses, drafted⟩ := Bool.and_eq_true_iff.mp checked
      obtain ⟨draft, found, content⟩ := (Option.any_eq_true _ _).mp drafted
      obtain ⟨-, trace, targets, steps, -, texts⟩ :=
        @stagedText_eq_editAll _ sharedSite _ none _ _ (loadersAndPlayground_shared "d/../r") edits
      have direct : ∀ pair ∈ trace, ¬ sharedSite.Hides pair.1.path := by
        intro pair member
        have among : pair.1 ∈ trace.map Prod.fst := List.mem_map_of_mem member
        rw [targets] at among
        have all : ((Target.registries (sharingSettings "d/../r") [] plainTab ++
            Target.playground (sharingSettings "d/../r") [] plainTab).all
              fun target => ! sharedSite.Hides target.path) = true := by decide +kernel
        simpa using List.all_eq_true.mp all pair.1 among
      refine ⟨staging, trace, draft, rfl, targets, ?_, found, ?_, of_decide_eq_true content⟩
      · rw [steps, List.map_append, List.map_map] at statuses
        exact congrArg List.tail (of_decide_eq_true statuses)
      · exact (texts [['r']] fun pair member _ => direct pair member).2 draft found

/-- A path that hides the registry has it staged afresh: the entries that it held are lost. -/
theorem stagedText_hidden_afresh :
    ∃ staging draft,
      sharedStaging "m/../r" = .ok staging ∧
      staging.steps.map Step.status =
        [.new, .error, .new, .error, .new, .skipped, .error, .skipped] ∧
      staging.drafts.at? [['r']] = some draft ∧
      (sharedSite.textAt? [['r']]).bind (Staging.editAll [
        Target.componentRegistry (sharingSettings "m/../r") [] plainTab,
        Target.propsRegistry (sharingSettings "m/../r") plainTab]) ≠ some draft.content := by
  let check (staging : Staging) : Bool :=
    staging.steps.map Step.status =
      [.new, .error, .new, .error, .new, .skipped, .error, .skipped] &&
    (staging.drafts.at? [['r']]).any fun draft =>
      (sharedSite.textAt? [['r']]).bind (Staging.editAll [
        Target.componentRegistry (sharingSettings "m/../r") [] plainTab,
        Target.propsRegistry (sharingSettings "m/../r") plainTab]) ≠ some draft.content
  have checked : (sharedStaging "m/../r").toOption.any check := by decide +kernel
  cases edits : sharedStaging "m/../r" with
  | error cause => rw [edits] at checked; cases checked
  | ok staging =>
      rw [edits] at checked
      obtain ⟨statuses, drafted⟩ := Bool.and_eq_true_iff.mp checked
      obtain ⟨draft, found, other⟩ := (Option.any_eq_true _ _).mp drafted
      exact ⟨staging, draft, rfl, of_decide_eq_true statuses, found, of_decide_eq_true other⟩

end Run

end EmbedScaffold
