import EmbedScaffold.Settings.Checked
import EmbedScaffold.Text.Case

/-!
# Settings files and the environment

Settings are kept in a JSON file of the site, without the secret token, or taken from the
environment.
-/

namespace EmbedScaffold

namespace Settings

/-! ## Writing -/

def truthText (value : Bool) : Text :=
  if value then "true".toList else "false".toList

/-- The lines of a list of texts, at a nesting level. -/
def listText (level : Nat) (items : List Text) : Text :=
  if items.isEmpty then "[]".toList
  else
    let line (item : Text) : Text := Literal.indentOf (level + 1) ++ Literal.jsonString item
    "[\n".toList ++ Text.join ",\n".toList (items.map line) ++
      '\n' :: Literal.indentOf level ++ [']']

/-- The lines of a group of named values, at a nesting level. -/
def groupText (level : Nat) (members : List (String × Text)) : Text :=
  let line : String × Text → Text := fun (name, value) =>
    Literal.indentOf (level + 1) ++ Literal.jsonString name.toList ++ ": ".toList ++ value
  "\x7b\n".toList ++ Text.join ",\n".toList (members.map line) ++
    '\n' :: Literal.indentOf level ++ ['\x7d']

/-- The text of a settings file; it leaves the token out. -/
def fileText (settings : Settings) : Text :=
  let text := Literal.jsonString
  groupText 0 [
    ("root_dir", text settings.root.text),
    ("components_dir", text settings.components),
    ("rollup_config", text settings.bundler),
    ("embed_registry", text settings.componentRegistry),
    ("config_registry", text settings.schemaRegistry),
    ("component_props", text settings.propsRegistry),
    ("mock_data", text settings.mockData),
    ("embed_loader", text settings.loader),
    ("public_embed_glob", text settings.publicPattern),
    ("playground", text settings.playground),
    ("transactional", truthText settings.transactional),
    ("force", truthText settings.force),
    ("dry_run", truthText settings.dryRun),
    ("format", groupText 1 [
      ("enabled", truthText settings.format.enabled),
      ("command", listText 2 settings.format.command),
      ("timeout", Text.ofInt settings.format.timeout)]),
    ("github", groupText 1 [
      ("repo", text settings.remote.repository),
      ("branch", text settings.remote.branch),
      ("api_url", text settings.remote.address),
      ("timeout", Text.ofInt settings.remote.timeout)])]

/-- The file that settings are kept in unless another one is named. -/
def defaultFile (settings : Settings) : Path :=
  settings.root.join (Path.ofText "embedify.json".toList)

/-- Why settings cannot be saved. -/
inductive SaveFault where
  | system (fault : SystemFault) (path : Path)
  | nullPath

def save (settings : Settings) (site : Site) (target : Path) : Except SaveFault Site :=
  if target.hasNull then .error .nullPath
  else
    (site.write target (Text.encode settings.fileText)).mapError fun fault =>
      .system fault.cause fault.path

/-! ## Reading -/

inductive LoadFault where
  | system (fault : SystemFault) (path : Path)
  | nullPath
  | encoding (failure : Text.Utf8Failure)
  | settings (faults : List SettingFault)

/-- The wording of the fault; the faults of values have none. -/
def LoadFault.message : LoadFault → Text
  | .system fault path => fault.message path
  | .nullPath => nullMessage
  | .encoding failure => failure.message
  | .settings _ => "<validation>".toList

def load (site : Site) (path : Path) : Except LoadFault Settings :=
  match site.locate path with
  | .error fault => .error (if path.hasNull then .nullPath else .system fault path)
  | .ok place =>
      if site.isDirectory place then .error (.system .isDirectory path)
      else
        match site.file? place with
        | none => .error (.system .missing path)
        | some bytes =>
            match Text.decode 0 bytes with
            | .error failure => .error (.encoding failure)
            | .ok content =>
                match ofText (Text.normalizeNewlines content) with
                | .ok settings => .ok settings
                | .error faults => .error (.settings faults)

/-! ## The environment -/

/-- The variables of the environment with their values. -/
abbrev Environment := List (Text × Text)

/-- The names of the variables that settings are taken from. -/
def variableNames : List String := [
  "EMBEDIFY_ROOT", "EMBEDIFY_BEST_EFFORT", "EMBEDIFY_FORMAT", "EMBEDIFY_PRETTIER",
  "EMBEDIFY_GITHUB_REPO", "EMBEDIFY_GITHUB_BRANCH", "GITHUB_TOKEN"]

/-- The value of a variable that is set and not empty. -/
def filled? (environment : Environment) (name : String) : Option Text :=
  (environment.lookup name.toList).filter (! ·.isEmpty)

/-- Whether the value of a variable means yes. -/
def isFlag (value : Text) : Bool :=
  ["1".toList, "true".toList, "yes".toList, "on".toList].contains (Text.lower (Text.strip value))

def ofEnvironment (environment : Environment) : Settings :=
  let format : FormatSettings := {}
  let remote : RemoteSettings := {}
  { root := Path.ofText ((environment.lookup "EMBEDIFY_ROOT".toList).getD ['.'])
    transactional := ! isFlag ((environment.lookup "EMBEDIFY_BEST_EFFORT".toList).getD [])
    format := { format with
      enabled := ((filled? environment "EMBEDIFY_FORMAT").map isFlag).getD format.enabled
      command := ((filled? environment "EMBEDIFY_PRETTIER").map Text.words).getD format.command }
    remote := { remote with
      token := (filled? environment "GITHUB_TOKEN").getD remote.token
      repository := (filled? environment "EMBEDIFY_GITHUB_REPO").getD remote.repository
      branch := (filled? environment "EMBEDIFY_GITHUB_BRANCH").getD remote.branch } }

end Settings

end EmbedScaffold
