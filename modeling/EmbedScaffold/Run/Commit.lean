import EmbedScaffold.Run.Draft
import EmbedScaffold.Run.Step

/-!
# Committing drafts

Drafts are written one after another.  A transactional commit undoes all of them when one cannot be
written; otherwise the failure is recorded and the others are still written.
-/

namespace EmbedScaffold

/-- The places at which the system does not let a run write, whatever the site holds there, with
the wording of the fault. -/
abbrev Refusals := List (Place × Text)

/-- What came of writing drafts, and the site it left. -/
inductive Commit where
  /-- The drafts that were written, and steps for those that could not be. -/
  | finished (site : Site) (written : List Draft) (failures : List Step)
  /-- A draft could not be written, and those before it were undone. -/
  | undone (site : Site) (path : Path) (cause : Text) (restored : Nat)
  /-- A text could not be encoded; its file is left empty. -/
  | unencodable (site : Site)

namespace Commit

/-- The bytes that are written for a draft. -/
def bytesOf (draft : Draft) : Bytes :=
  if draft.encodable then Text.encode draft.content else []

/-- Write a draft, or tell why it cannot be written and the site that this left. -/
def store (refusals : Refusals) (site : Site) (draft : Draft) : Except (Text × Site) Site :=
  match refusals.lookup (draft.path.place site.workplace) with
  | some cause => .error (cause, site)
  | none =>
      (site.write draft.path (bytesOf draft)).mapError fun fault =>
        (fault.cause.message fault.path, fault.site)

/-- Give a document the text it had before, or remove it if it is new. -/
def restore (draft : Draft) (site : Site) : Site :=
  match draft.before with
  | none => site.removeFile draft.path
  | some content =>
      match site.write draft.path (Text.encode content) with
      | .ok restored => restored
      | .error fault => fault.site

/-- Undo what was written, the last document first. -/
def rollBack (site : Site) (written : List Draft) : Site :=
  written.foldr restore site

/-- Write drafts after those that are written already. -/
def continueWith (refusals : Refusals) (transactional : Bool) (site : Site) (written : List Draft)
    (failures : List Step) : List Draft → Commit
  | [] => .finished site written failures
  | draft :: rest =>
      match store refusals site draft with
      | .ok next =>
          if draft.encodable then
            continueWith refusals transactional next (written ++ [draft]) failures rest
          else .unencodable next
      | .error (cause, left) =>
          if transactional then
            .undone (rollBack left written) draft.path cause written.length
          else
            let step : Step := ⟨"commit".toList, draft.path, .error, cause⟩
            continueWith refusals transactional left written (failures ++ [step]) rest

def ofDrafts (refusals : Refusals) (transactional : Bool) (site : Site) (drafts : List Draft) :
    Commit :=
  continueWith refusals transactional site [] [] drafts

end Commit

end EmbedScaffold
