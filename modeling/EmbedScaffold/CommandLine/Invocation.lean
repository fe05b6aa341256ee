import EmbedScaffold.CommandLine.Arguments
import EmbedScaffold.Run
import EmbedScaffold.Settings.File

/-!
# Invocations

A command line names a component and may change settings, which come from a file or from the
environment.  Its exit code tells whether the run succeeded, failed, or was asked for in a way that
is not understood.
-/

namespace EmbedScaffold

namespace CommandLine

/-- How an invocation ends: with an exit code or broken off, and what it left and told. -/
structure Ending where
  exit : Except Run.Break Nat
  site : Site
  console : List ConsoleItem := []
  commands : List Command := []
  exchange : Remote.Exchange

/-- The exit code after a failure. -/
def failed : Nat := 1

/-- The exit code after a misuse. -/
def misused : Nat := 2

/-- A line that reports why a run did not begin. -/
def refusal (message : Text) : ConsoleItem :=
  .line (Console.styled "bold red" "Error:".toList ++ ' ' :: message)

def baseSettings (options : Options) (environment : Settings.Environment) (site : Site) :
    Except Settings.LoadFault Settings :=
  if options.config.isEmpty then .ok (Settings.ofEnvironment environment)
  else Settings.load site (Path.ofText options.config)

/-- A text, or another one if it is empty. -/
def orElse (given otherwise : Text) : Text :=
  if given.isEmpty then otherwise else given

/-- The settings for pushing, with the token of the environment if a repository was named and no
token is set. -/
def adjustRemote (options : Options) (environment : Settings.Environment)
    (remote : RemoteSettings) : RemoteSettings :=
  let token := (environment.lookup "GITHUB_TOKEN".toList).getD []
  { remote with
    repository := orElse options.repository remote.repository
    branch := orElse options.branch remote.branch
    token := if options.repository.isEmpty then remote.token else orElse remote.token token }

/-- The settings that the options of a command line change. -/
def adjust (options : Options) (environment : Settings.Environment) (settings : Settings) :
    Settings :=
  { settings with
    root := if options.root.isEmpty then settings.root else Path.ofText options.root
    transactional := settings.transactional && ! options.bestEffort
    force := settings.force || options.force
    dryRun := settings.dryRun || options.dryRun
    format := { settings.format with enabled := settings.format.enabled && ! options.noFormat }
    remote := adjustRemote options environment settings.remote }

/-- The paths at which an invocation may look for documents. -/
def lookedAt (options : Options) (environment : Settings.Environment) (site : Site) : List Path :=
  match baseSettings options environment site with
  | .ok base =>
      let settings := adjust options environment base
      settings.root :: settings.documents
  | .error _ => []

def exitOf : Except Run.Break Report → Except Run.Break Nat
  | .ok report => .ok (if report.success then 0 else failed)
  | .error cause => .error cause

def start (settings : Settings) (shell : Shell) (site : Site) (exchange : Remote.Exchange)
    (component : Text) : Ending :=
  let name := Text.strip component
  let greeting : ConsoleItem :=
    .line ("Generating embed component for: ".toList ++ Console.styled "bold" name)
  let ending := run settings shell site exchange name
  match ending.result with
  | .error (.repository fault) =>
      { exit := .ok failed
        site
        console := [greeting, refusal fault.message]
        exchange }
  | result =>
      { exit := exitOf result
        site := ending.site
        console := greeting :: ending.console
        commands := ending.commands
        exchange := ending.exchange }

/-- Do what a command line asks for. -/
def invoke (words : List Text) (environment : Settings.Environment) (shell : Shell) (site : Site)
    (exchange : Remote.Exchange) : Ending :=
  match read words with
  | .help => { exit := .ok 0, site, exchange }
  | .misuse => { exit := .ok misused, site, exchange }
  | .options options =>
      match baseSettings options environment site with
      | .error fault =>
          let message := "Invalid configuration: ".toList ++ fault.message
          { exit := .ok failed, site, console := [refusal message], exchange }
      | .ok settings =>
          start (adjust options environment settings) shell site exchange options.component

end CommandLine

end EmbedScaffold
