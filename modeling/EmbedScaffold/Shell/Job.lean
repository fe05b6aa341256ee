import EmbedScaffold.Shell.Run

/-!
# Jobs

A job runs one command to its end or until its time is up.  A command is a tool or a shell, which is
found in the directories of a list that the surroundings name.
-/

namespace EmbedScaffold.Shell

/-- A command with its surroundings: the variables that are set, the directory it runs in, the text
on its input, and its time limit in milliseconds. -/
structure Job where
  words : List Text
  environment : List (Text × Text) := []
  directory : Option Path := none
  input : Text := []
  limit : Nat
  limitText : Text

/-- Why a job cannot begin. -/
inductive LaunchFault where
  | noCommand
  | missing
  | notDirectory
  | forbidden
  | nullByte
  | variableName
  deriving DecidableEq, Repr

def LaunchFault.message : LaunchFault → Text
  | .noCommand => "no command".toList
  | .missing => SystemFault.missing.reason
  | .notDirectory => SystemFault.notDirectory.reason
  | .forbidden => "Permission denied".toList
  | .nullByte => "embedded null byte".toList
  | .variableName => "illegal environment variable name".toList

/-- How a job ended.  The code is negative for a job that was killed. -/
structure Ended where
  code : Int
  output : Text
  errors : Text
  deriving DecidableEq, Repr

/-! ## Surroundings -/

def systemDirectories : List Place :=
  (["bin", "boot", "dev", "etc", "home", "lib", "media", "mnt", "opt", "proc", "root", "run",
    "sbin", "srv", "sys", "tmp", "usr", "var"].map fun name => [name.toList]) ++
    (["bin", "lib", "local", "sbin", "share"].map fun name => ["usr".toList, name.toList]) ++
    [["var".toList, "tmp".toList]]

def toolFiles : List (Place × Bytes) :=
  let names := "sh".toList :: Tool.known.map (·.1.toList)
  Action.toolPlaces.flatMap fun directory => names.map fun name => (directory ++ [name], [0x7F])

/-- The site with the directories and the tools of the system. -/
def systemSite (site : Site) : Site :=
  { site with
    directories := site.directories ++
      systemDirectories.filter fun place => ! site.isDirectory place
    files := site.files ++ toolFiles }

/-- The directories that are searched for commands unless others are given. -/
def standardSearch : Text :=
  "/usr/local/sbin:/usr/local/bin:/usr/sbin:/usr/bin:/sbin:/bin".toList

def startVariables (job : Job) (directory : Place) : List Variable :=
  let given := (job.environment.filter (·.1 ≠ "IFS".toList)).map fun (name, value) =>
    (ofText name, ofText value)
  let standard :=
    [("PATH".toList, standardSearch), ("HOME".toList, "/root".toList),
      ("PWD".toList, Builtin.placeText directory)]
  let others := standard.filter fun (name, _) => ! given.any (·.1 = name)
  (others ++ given).foldl
    (fun known (name, value) =>
      Action.storeVariable known { name, value := some value, isExported := true })
    []

def jobPlace (job : Job) (site : Site) : Except LaunchFault Place :=
  match job.directory with
  | none => .ok site.workplace
  | some path =>
      match site.locate path with
      | .error .notDirectory => .error .notDirectory
      | .error _ => .error .missing
      | .ok place =>
          if site.isDirectory place then .ok place
          else if site.isFile place then .error .notDirectory
          else .error .missing

/-- Check the texts of a job: none may hold the byte that ends texts for the system. -/
def checkTexts (job : Job) : Except LaunchFault Unit := do
  let hasNull (content : Text) : Bool := content.contains '\x00'
  if job.environment.any fun (name, _) => name.contains '=' then throw .variableName
  if job.environment.any fun (name, value) => hasNull name || hasNull value then throw .nullByte
  if job.words.any hasNull then throw .nullByte
  if job.directory.any (·.hasNull) then throw .nullByte

/-! ## Running -/

/-- How many steps a job may take. -/
def fuelOfJob : Nat := 100000

/-- The number by which a shell knows its own process. -/
def ownNumber : Nat := 100

/-- Run the command of a job: its tool, and then what is left in the background. -/
def carryOut (found : Text) (arguments : List Text) : Action Ending := do
  let ending ←
    if found = "sh".toList then ended fuelOfJob (shell fuelOfJob arguments)
    else do
      match Tool.known.lookup (String.ofList found) with
      | some command => command arguments
      | none => Action.setStatus 127
      pure (.code (← Action.frame).status)
  runBackgrounds fuelOfJob 0
  let known ← Action.world
  Action.pass (known.heldUntil - known.clock)
  pure ending

/-- The result of a job whose command has ended. -/
def endedJob (state : State) (ending : Ending) : Ended :=
  let code : Int :=
    match ending with
    | .code status => status
    | .killed signal => -(signal : Int)
  let printed (number : Nat) : Text :=
    toText (state.world.buffers.getD number default).content.toList
  ⟨code, printed 1, Text.strip (printed 2)⟩

/-- The result of a job whose time is up. -/
def timedOut (job : Job) : Ended :=
  ⟨-1, [], "Command timed out after ".toList ++ job.limitText ++ "s: ".toList ++ spaced job.words⟩

def runJob (job : Job) (plain : Site) : Except LaunchFault Ended :=
  match job.words with
  | [] => .error .noCommand
  | word :: words => do
      checkTexts job
      let site := systemSite plain
      let directory ← jobPlace job site
      let name := ofText word
      let frame : Frame :=
        { name
          number := ownNumber
          directory
          bindings := startVariables job directory ++ standardVariables
          channels := [(0, .buffer 0), (1, .buffer 1), (2, .buffer 2)] }
      let input : Buffer := { content := (ofText job.input).toArray }
      let world : World :=
        { site
          buffers := #[input, {}, {}]
          limit := job.limit
          nextNumber := ownNumber + 1 }
      match tool? frame name with
      | none =>
          let isDirectory :=
            if word.contains '/' then site.leadsToDirectory (Path.ofText word)
            else [[], ['.'], Path.upward].contains word
          throw (if isDirectory then .forbidden else .missing)
      | some found =>
          let (result, state) := (carryOut found (words.map ofText)).run.run ⟨frame, world⟩
          match result with
          | .ok ending =>
              if job.limit = 0 then pure (timedOut job) else pure (endedJob state ending)
          | .error _ => pure (timedOut job)

end EmbedScaffold.Shell
