import EmbedScaffold.Run.Commit
import EmbedScaffold.Run.Report
import EmbedScaffold.Run.Staging

/-!
# Runs

A run generates a component and enters it into every document that has to know it: it generates
the component's document, refuses a lookup key that belongs to another component, stages an edit of
every target, checks the drafts, writes them, and pushes what was written.  Until the drafts are
written a run only reads.
-/

namespace EmbedScaffold

namespace Run

structure Means where
  formatter : Option Formatter
  publisher : Option Remote.Publisher
  shell : Shell
  refusals : Refusals

namespace Means

def ofSettings (settings : Settings) (shell : Shell) (refusals : Refusals) :
    Except Remote.BadRepository Means := do
  let format := settings.format
  let remote := settings.remote
  let formatter :=
    if format.enabled then
      some (Formatter.ofCommand format.command (some settings.root.text) format.timeout)
    else none
  if remote.enabled then
    let publisher ← Remote.Publisher.create remote.repository remote.token remote.branch
      remote.address remote.timeout
    pure ⟨formatter, some publisher, shell, refusals⟩
  else pure ⟨formatter, none, shell, refusals⟩

end Means

/-- How a run ends: with a report or broken off, and what it left and told. -/
structure Ending where
  result : Except Break Report
  site : Site
  console : List ConsoleItem := []
  commands : List Command := []
  exchange : Remote.Exchange

/-! ## Generating -/

/-- Why there is no component to enter. -/
inductive Refusal where
  | name (given : Text)
  | document (fault : ReadFault)
  | script (line : Option Nat)

def Refusal.message : Refusal → Text
  | .name given =>
      "Component name should be PascalCase, e.g. MyComponent (got '".toList ++ given ++ "')".toList
  | .document fault => fault.message
  | .script line => (Script.Fault.malformed line).message.toList

/-- Read the document that a component has so far. -/
def existing (settings : Settings) (site : Site) (name : Text) : Except Refusal (Option Text) :=
  if isDeclarationName name then (site.read (settings.componentPath name)).mapError .document
  else .error (.name name)

/-! ## Collisions -/

/-- Why a generated component is not entered: for a reason that is reported, or because the run
breaks off. -/
inductive Objection where
  | refused (message : Text)
  | broken (cause : Break)

/-- The component that a lookup key belongs to, as far as the registry of components can be
read. -/
def owner? (settings : Settings) (site : Site) (key : Text) : Except Objection (Option Text) :=
  match site.read (settings.locate settings.componentRegistry) with
  | .error (.system fault path) => .error (.refused (ReadFault.system fault path).message)
  | .error (.encoding _ _) => .ok none
  | .ok none => .ok none
  | .ok (some content) =>
      match readMapping content Target.componentMapping with
      | .ok entries => .ok ((entries.lookup key).map Text.strip)
      | .error fault => if fault.isLimit then .error (.broken .nestedTooDeeply) else .ok none

/-- Refuse a lookup key that belongs to another component, or warn if it is taken over by
force. -/
def checkOwner (settings : Settings) (site : Site) (component : Component) :
    Except Objection (List ConsoleItem) := do
  match ← owner? settings site component.lookupKey with
  | none => pure []
  | some owner =>
      if owner = component.name then pure []
      else if settings.force then
        pure [Console.warning <|
          "Overwriting lookup key '".toList ++ component.lookupKey ++ "' (was ".toList ++ owner ++
            [')']]
      else
        throw <| .refused <|
          "Lookup key '".toList ++ component.lookupKey ++ "' is already registered to ".toList ++
            owner ++ "; refusing to register ".toList ++ component.name ++
            " (use --force to overwrite)".toList

/-! ## Pushing -/

/-- The step that tells of a pushed file. -/
def pushStep (publisher : Remote.Publisher) (draft : Draft) (push : Remote.Push) : Step :=
  if push.success then
    ⟨"push".toList, draft.path, if push.created then .new else .changed, publisher.repository⟩
  else ⟨"push".toList, draft.path, .error, push.fault.getD []⟩

def push (publisher : Remote.Publisher) (settings : Settings) (workplace : Place)
    (exchange : Remote.Exchange) :
    List Draft → Except Remote.Fault (List Remote.Push × List Step) × Remote.Exchange
  | [] => (.ok ([], []), exchange)
  | draft :: rest =>
      let path := Path.relativeText workplace settings.root draft.path
      match publisher.pushFile exchange path draft.content with
      | (.error fault, next) => (.error fault, next)
      | (.ok pushed, next) =>
          match push publisher settings workplace next rest with
          | (.error fault, last) => (.error fault, last)
          | (.ok (others, steps), last) =>
              (.ok (pushed :: others, pushStep publisher draft pushed :: steps), last)

/-- Push what was written if there is a remote repository. -/
def pushWritten (means : Means) (settings : Settings) (workplace : Place)
    (exchange : Remote.Exchange) (written : List Draft) :
    Except Remote.Fault (List Remote.Push × List Step) × Remote.Exchange :=
  match means.publisher with
  | some publisher => push publisher settings workplace exchange written
  | none => (.ok ([], []), exchange)

/-! ## The whole run -/

def close (settings : Settings) (report : Report) (ending : Ending) : Ending :=
  { ending with
    result := .ok report
    console := ending.console ++ report.shown settings ending.site.workplace }

def breakOff (cause : Break) (ending : Ending) : Ending :=
  { ending with result := .error cause }

/-- The error of a commit that was undone. -/
def undoneMessage (path : Path) (cause : Text) (restored : Nat) : Text :=
  "Writing ".toList ++ path.text ++ " failed (".toList ++ cause ++ "); restored ".toList ++
    Text.ofNat restored ++ " file(s)".toList

/-- Write the drafts of a run and push them. -/
def commit (means : Means) (settings : Settings) (staging : Staging) (report : Report)
    (ending : Ending) : Ending :=
  match
    Commit.ofDrafts means.refusals settings.transactional ending.site staging.drafts.writable with
  | .unencodable site => breakOff .unencodable { ending with site }
  | .undone site path cause restored =>
      close settings { report with error := some (undoneMessage path cause restored) }
        { ending with site }
  | .finished site written failures =>
      let (pushed, exchange) :=
        pushWritten means settings site.workplace ending.exchange written
      match pushed with
      | .error fault => breakOff (.answer fault) { ending with site, exchange }
      | .ok (pushed, steps) =>
          close settings
            { report with
              steps := report.steps ++ failures ++ steps
              written := written.map Draft.path
              pushed
              committed := true
              success := true }
            { ending with site, exchange }

/-- End a run whose drafts are staged. -/
def finish (means : Means) (settings : Settings) (staging : Staging) (report : Report)
    (ending : Ending) : Ending :=
  let failures := staging.failures
  if settings.transactional && ! failures.isEmpty then
    let message := "Nothing written: ".toList ++ Step.joinNames failures ++ " failed".toList
    close settings { report with error := some message } ending
  else if settings.dryRun then close settings { report with success := true } ending
  else commit means settings staging report ending

/-- Stage the edits of all targets and check them. -/
def stage (settings : Settings) (site : Site) (component : Component) (begun : Staging) :
    Except Break Staging := do
  let edited ← begun.edit site (Target.registries settings site.workplace component)
  let others ← (Target.loadersAndPlayground settings site component).mapError .search
  let finished ← edited.edit site others
  finished.validate

def enter (means : Means) (settings : Settings) (existing : Option Text) (component : Component)
    (ending : Ending) : Ending :=
  let begun := Staging.ofComponent ending.site.workplace existing component
  if component.path.hasNull then breakOff .nullPath ending
  else
    match checkOwner settings ending.site component with
    | .error (.broken cause) => breakOff cause ending
    | .error (.refused message) =>
        close settings
          { component := some component, steps := begun.steps, error := some message } ending
    | .ok warnings =>
        let ending := { ending with console := ending.console ++ warnings }
        match stage settings ending.site component begun with
        | .error cause => breakOff cause ending
        | .ok staging =>
            finish means settings staging { component := some component, steps := staging.steps }
              ending

/-- Generate a component and enter it. -/
def withMeans (means : Means) (settings : Settings) (name : Text) (ending : Ending) : Ending :=
  let refuse (refusal : Refusal) : Ending :=
    close settings { error := some refusal.message } ending
  match existing settings ending.site name with
  | .error refusal => refuse refusal
  | .ok existing =>
      match Component.generate means.formatter means.shell name (settings.componentPath name)
        existing with
      | .error (.script (.malformed line)) => refuse (.script line)
      | .error (.script .escapeTooLarge) => breakOff .escapeTooLarge ending
      | .error .longInteger => breakOff .longInteger ending
      | .ok generation =>
          enter means settings existing generation.component
            { ending with console := generation.console, commands := generation.commands }

end Run

/-- Generate a component and enter it into the documents of a site, under a system that refuses
some writes. -/
def runUnder (refusals : Refusals) (settings : Settings) (shell : Shell) (site : Site)
    (exchange : Remote.Exchange) (name : Text) : Run.Ending :=
  let start : Run.Ending := { result := .ok {}, site, exchange }
  match Run.Means.ofSettings settings shell refusals with
  | .error fault => Run.breakOff (.repository fault) start
  | .ok means => Run.withMeans means settings name start

/-- Generate a component and enter it into the documents of a site. -/
def run (settings : Settings) (shell : Shell) (site : Site) (exchange : Remote.Exchange)
    (name : Text) : Run.Ending :=
  runUnder [] settings shell site exchange name

end EmbedScaffold
