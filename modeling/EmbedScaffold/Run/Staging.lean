import EmbedScaffold.Run.Break
import EmbedScaffold.Run.Draft
import EmbedScaffold.Run.Step
import EmbedScaffold.Run.Target

/-!
# Staging

The targets of a component are edited one after another as drafts; nothing is written.  A target
that fails leaves the drafts as they were.
-/

namespace EmbedScaffold

/-- The drafts of a run and the steps that made them. -/
structure Staging where
  drafts : Drafts
  steps : List Step
  deriving DecidableEq, Repr

namespace Staging

def record (staging : Staging) (step : Step) : Staging :=
  { staging with steps := staging.steps ++ [step] }

/-- The staging that a generated component begins. -/
def ofComponent (workplace : Place) (existing : Option Text) (component : Component) : Staging :=
  let draft : Draft := ⟨component.path, existing, component.text, component.encodable⟩
  let status := Status.ofEdit existing.isNone draft.isDirty
  ⟨[(component.path.place workplace, draft)], [⟨"component".toList, component.path, status, []⟩]⟩

/-- What is told of a document that is missing and may not be created. -/
def missingDetail : Text :=
  "file not found".toList

/-- The draft for a target: the one that is staged, or one with the text of the document, or a new
one; none if the document is missing and may not be created. -/
def draftFor (site : Site) (drafts : Drafts) (target : Target) : Except ReadFault (Option Draft) :=
  match drafts.at? (target.path.place site.workplace) with
  | some draft => .ok (some draft)
  | none => do
      match ← site.read target.path with
      | some content => pure (some { path := target.path, before := some content, content })
      | none =>
          pure <| target.initial.map fun content =>
            { path := target.path, before := none, content }

/-- Edit one target; breaks off where the path leads nowhere or the document cannot be followed. -/
def apply (site : Site) (staging : Staging) (target : Target) : Except Run.Break Staging :=
  let record (status : Status) (detail : Text) : Staging :=
    staging.record ⟨target.name, target.path, status, detail⟩
  if target.path.hasNull then .error .nullPath
  else
    match draftFor site staging.drafts target with
    | .error fault => .ok (record .error fault.message)
    | .ok none => .ok (record .skipped missingDetail)
    | .ok (some draft) =>
        let place := target.path.place site.workplace
        match target.edit draft.content with
        | .error fault =>
            if fault.isLimit then .error .nestedTooDeeply
            else .ok (record .error fault.message.toList)
        | .ok none =>
            let drafts :=
              if draft.before.isNone then staging.drafts else staging.drafts.put place draft
            .ok { record .skipped target.withoutPlace with drafts }
        | .ok (some outcome) =>
            let edited : Draft :=
              { draft with
                content := outcome.content
                encodable := draft.encodable && target.encodable }
            let status :=
              Status.ofEdit draft.before.isNone (outcome.changed || ! target.encodable)
            .ok { record status [] with drafts := staging.drafts.put place edited }

def edit (site : Site) (staging : Staging) (targets : List Target) : Except Run.Break Staging :=
  targets.foldlM (apply site) staging

/-- The step that tells of an unbalanced draft. -/
def imbalance? (draft : Draft) : Except Run.Break (Option Step) :=
  if draft.isDirty then
    match draft.check with
    | .ok _ => .ok none
    | .error cause =>
        if cause.isLimit then .error .nestedTooDeeply
        else .ok (some ⟨"validate".toList, draft.path, .error, cause.message.toList⟩)
  else .ok none

/-- Check that all drafts are balanced. -/
def validate (staging : Staging) : Except Run.Break Staging := do
  let found ← staging.drafts.mapM fun (_, draft) => imbalance? draft
  pure { staging with steps := staging.steps ++ found.filterMap id }

def failures (staging : Staging) : List Step :=
  staging.steps.filter Step.failed

end Staging

end EmbedScaffold
