import EmbedScaffold.CommandLine.Invocation

/-!
# The program

The program runs a command line in the directory where it is started: it loads the site, does what
the command line asks for, and stores the files that changed.  It starts no command and makes no
request, so nothing is formatted, and a remote repository stays out of reach.
-/

namespace EmbedScaffold

namespace Program

/-! ## Loading -/

/-- The entry of a directory that stands at a place. -/
def entryAt (place : Place) : IO.FS.DirEntry :=
  ⟨".", String.ofList (Path.text ⟨['/'], place⟩)⟩

/-- The names of directories that hold no documents of a site: those that begin with a point, and
the one of installed packages. -/
def isForeign (name : String) : Bool :=
  name.startsWith "." || name = "node_modules"

/-- The site with what stands at a place, and with everything below it if that is asked for. -/
partial def load (deep : Bool) (site : Site) (place : Place) : IO Site := do
  let entry := entryAt place
  if site.isFile place then
    return site
  else if ← entry.path.isDir then
    let mut grown := site
    if ! site.isDirectory place then
      grown := { site with directories := place :: site.directories }
    if deep then
      for found in ← entry.path.readDir do
        let linked := (← found.path.symlinkMetadata).type == .symlink
        if ! (isForeign found.fileName || (linked && (← found.path.isDir))) then
          grown ← load true grown (place ++ [found.fileName.toList])
    return grown
  else if ← entry.path.pathExists then
    let content ← IO.FS.readBinFile entry.path
    return { site with files := (place, content.toList) :: site.files }
  else
    return site

/-- The site with what a path leads to, and with the directories on the way there. -/
def loadPath (site : Site) (path : Path) : IO Site := do
  let place := path.place site.workplace
  let mut grown := site
  for count in [1 : place.length] do
    grown ← load false grown (place.take count)
  load true grown place

/-- The variables of the environment that settings are taken from. -/
def loadEnvironment : IO Settings.Environment := do
  let found ← Settings.variableNames.mapM fun name => do
    return (← IO.getEnv name).map fun value => (name.toList, value.toList)
  return found.filterMap id

/-- The site that an invocation works on. -/
def loadSite (options : CommandLine.Options) (environment : Settings.Environment) : IO Site := do
  let start := (Path.ofText (← IO.currentDir).toString.toList).steps
  let bare : Site := ⟨start, [], []⟩
  let configured ←
    if options.config.isEmpty then pure bare else loadPath bare (Path.ofText options.config)
  let mut site := configured
  for path in CommandLine.lookedAt options environment configured do
    site ← loadPath site path
  return site

/-! ## Storing -/

def store (before after : Site) : IO Unit := do
  for (place, content) in Site.changes before after do
    let entry := entryAt place
    match content with
    | some bytes =>
        IO.FS.createDirAll (entryAt place.dropLast).path
        IO.FS.writeBinFile entry.path ⟨bytes.toArray⟩
    | none => IO.FS.removeFile entry.path

/-! ## Running -/

/-- Run a command line on the site that it names. -/
def runOn (words : List Text) (options : CommandLine.Options) : IO UInt32 := do
  let environment ← loadEnvironment
  let site ← loadSite options environment
  let noCommand : Shell := fun _ _ => .missing "no command can be started".toList
  let noAnswer : Remote.Answer := .unreachable "no request can be made".toList
  let exchange : Remote.Exchange := ⟨List.replicate (2 * (site.files.length + 16)) noAnswer, []⟩
  let ending := CommandLine.invoke words environment noCommand site exchange
  for item in ending.console do
    for line in Console.plainLines item do
      IO.println (String.ofList line)
  store site ending.site
  match ending.exit with
  | .ok code => return UInt32.ofNat code
  | .error _ =>
      IO.eprintln "The run was broken off."
      return UInt32.ofNat CommandLine.failed

end Program

end EmbedScaffold

open EmbedScaffold in
/-- Run the command line that the program was started with. -/
def main (arguments : List String) : IO UInt32 := do
  let words := arguments.map String.toList
  match CommandLine.read words with
  | .help =>
      IO.println (String.ofList CommandLine.usage)
      return 0
  | .misuse =>
      IO.eprintln (String.ofList CommandLine.usage)
      return UInt32.ofNat CommandLine.misused
  | .options options => Program.runOn words options
