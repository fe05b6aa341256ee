import EmbedScaffold.Site.Glob

/-!
# Settings

The settings of a run: where the documents of a site are, how a run treats failures, and how it
formats and pushes.  Places of documents are kept as they were given; `Settings.locate` takes them
from the root of the site.
-/

namespace EmbedScaffold

/-- How component documents are formatted. -/
structure FormatSettings where
  enabled : Bool := true
  command : List Text := ["npx".toList, "--no-install".toList, "prettier".toList]
  timeout : Int := 30
  deriving DecidableEq, Repr

/-- The remote repository that written documents are pushed to; without a name nothing is
pushed. -/
structure RemoteSettings where
  repository : Text := []
  branch : Text := "main".toList
  token : Text := []
  address : Text := "https://api.github.com".toList
  timeout : Int := 30
  deriving DecidableEq, Repr

/-- Whether written documents are pushed. -/
def RemoteSettings.enabled (settings : RemoteSettings) : Bool :=
  ! settings.repository.isEmpty

structure Settings where
  root : Path := Path.here
  components : Text := "src/embed-components".toList
  bundler : Text := "rollup.config.js".toList
  componentRegistry : Text := "src/lib/embed-registry.js".toList
  schemaRegistry : Text := "src/lib/embed-config-registry.js".toList
  propsRegistry : Text := "src/lib/component-props.js".toList
  mockData : Text := "src/lib/embed-config-registry.js".toList
  loader : Text := "public/embed-loader.js".toList
  publicPattern : Text := "public/embed-*.js".toList
  playground : Text := "src/embed-components/SveltePlayground.svelte".toList
  transactional : Bool := true
  force : Bool := false
  dryRun : Bool := false
  format : FormatSettings := {}
  remote : RemoteSettings := {}
  deriving DecidableEq, Repr

namespace Settings

/-- A path below the root of the site. -/
def locate (settings : Settings) (place : Text) : Path :=
  settings.root.join (Path.ofText place)

/-- The path of a component's document. -/
def componentPath (settings : Settings) (name : Text) : Path :=
  (settings.locate settings.components).join (Path.ofText (name ++ ".svelte".toList))

/-- The paths that the settings name: the directory of the components, then the documents that they
are entered in. -/
def documents (settings : Settings) : List Path :=
  [settings.components, settings.bundler, settings.componentRegistry, settings.schemaRegistry,
    settings.propsRegistry, settings.mockData, settings.loader, settings.playground].map
    settings.locate

/-- Why the published loaders cannot be listed. -/
inductive SearchFault where
  /-- The path of the runtime loader leads nowhere. -/
  | nullLoader
  | pattern (fault : Glob.Fault)
  deriving DecidableEq, Repr

/-- The wording for a path that leads nowhere. -/
def nullMessage : Text :=
  "embedded null byte".toList

/-- The loaders that are published, without the runtime loader itself. -/
def publicLoaders (settings : Settings) (site : Site) : Except SearchFault (List Path) := do
  let loader := settings.locate settings.loader
  if loader.hasNull then throw .nullLoader
  else
    let found ← (Glob.select site settings.publicPattern settings.root).mapError .pattern
    pure (found.filter fun path => path.place site.workplace ≠ loader.place site.workplace)

end Settings

end EmbedScaffold
