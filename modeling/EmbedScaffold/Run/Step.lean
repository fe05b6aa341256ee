import EmbedScaffold.Site.Path

/-!
# Steps

A run records what it did to each document as a step.
-/

namespace EmbedScaffold

inductive Status where
  | new
  | changed
  | unchanged
  | skipped
  | error
  deriving DecidableEq, Repr

namespace Status

/-- The status of a document that was edited. -/
def ofEdit (isNew changed : Bool) : Status :=
  if isNew then .new else if changed then .changed else .unchanged

def word : Status → Text
  | .new => "new".toList
  | .changed => "changed".toList
  | .unchanged => "unchanged".toList
  | .skipped => "skipped".toList
  | .error => "error".toList

/-- The style in which a status is shown. -/
def style : Status → String
  | .new => "bold green"
  | .changed => "green"
  | .unchanged => "dim"
  | .skipped => "yellow"
  | .error => "bold red"

end Status

/-- One thing that a run did, or failed to do, to a document. -/
structure Step where
  name : Text
  path : Path
  status : Status
  detail : Text := []
  deriving DecidableEq, Repr

namespace Step

def failed (step : Step) : Bool :=
  step.status = .error

/-- The names of steps, separated by commas. -/
def joinNames (steps : List Step) : Text :=
  Text.join ", ".toList (steps.map Step.name)

end Step

end EmbedScaffold
