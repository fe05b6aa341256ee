import EmbedScaffold.Component.Generation
import EmbedScaffold.Remote.Publisher
import EmbedScaffold.Run.Step
import EmbedScaffold.Settings.Basic

/-!
# Reports

A run ends with a report of everything it did, which is shown on the console.
-/

namespace EmbedScaffold

structure Report where
  component : Option Component := none
  steps : List Step := []
  written : List Path := []
  pushed : List Remote.Push := []
  committed : Bool := false
  success : Bool := false
  error : Option Text := none
  deriving DecidableEq, Repr

namespace Report

def failures (report : Report) : List Step :=
  report.steps.filter Step.failed

/-! ## The console -/

def stepRow (settings : Settings) (workplace : Place) (step : Step) : List Text := [
  step.name,
  Path.relativeText workplace settings.root step.path,
  Console.styled step.status.style step.status.word,
  step.detail]

def stepTable (report : Report) (settings : Settings) (workplace : Place) : List ConsoleItem :=
  if report.steps.isEmpty then []
  else
    Console.table "embedify".toList
      ["Step".toList, "Path".toList, "Status".toList, "Detail".toList]
      (report.steps.map (stepRow settings workplace))

/-- The table that sums up a run. -/
def summaryTable (report : Report) (settings : Settings) (component : Component) :
    List ConsoleItem :=
  Console.table "Summary".toList ["Item".toList, "Value".toList] [
    ["Component".toList, component.name ++ " (".toList ++ component.lookupKey ++ [')']],
    ["Fields".toList, Text.join ", ".toList (component.fields.map Field.name)],
    ["Formatted".toList, if component.formatted then "yes".toList else "no".toList],
    ["Mode".toList,
      if settings.transactional then "transactional".toList else "best-effort".toList],
    ["Written".toList,
      if settings.dryRun then "dry run".toList else Text.ofNat report.written.length]]

/-- The line that says how a run ended. -/
def verdict (report : Report) : ConsoleItem :=
  match report.error with
  | some message => Console.fault ("Error: ".toList ++ message)
  | none =>
      if report.failures.isEmpty then Console.success "All relevant files updated.".toList
      else
        Console.warning <|
          "Completed with ".toList ++ Text.ofNat report.failures.length ++ " failed step(s).".toList

def shown (report : Report) (settings : Settings) (workplace : Place) : List ConsoleItem :=
  let summary :=
    match report.component with
    | some component => report.summaryTable settings component
    | none => []
  report.stepTable settings workplace ++ summary ++ [report.verdict]

end Report

end EmbedScaffold
