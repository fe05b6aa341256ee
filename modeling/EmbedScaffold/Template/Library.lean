import EmbedScaffold.Site.Path
import EmbedScaffold.Template.Basic

/-!
# The templates of a site

The documents and snippets that are filled in for a component, and the documents that a site
starts with where a registry is missing.
-/

namespace EmbedScaffold

namespace Template

def component : List Block := [
  .plain [.verbatim (
        "<svelte:options customElement=\x7btrue\x7d />\n" ++
        "\n" ++
        "<script>\n" ++
        "  import \x7b onMount \x7d from 'svelte';\n" ++
        "  import \x7b parseArrayProp \x7d from './utils/propUtils.js';\n" ++
        "\n" ++
        "  // Retain kebab-case tag name for runtime reference\n" ++
        "  export let tagName = ").toList,
     .hole (.variable "lookup_key".toList) .json,
     .verbatim (
        ";\n" ++
        "\n").toList],
  .loop (.items "field".toList "fields".toList)
    [.verbatim "  export let ".toList,
     .hole (.member "field".toList "name".toList) .display,
     .verbatim " = ".toList,
     .hole (.member "field".toList "value".toList) .json,
     .verbatim ";\n".toList],
  .plain [.verbatim (
        "\n" ++
        "  onMount(() => \x7b\n" ++
        "    // lazy load external dependencies here\n" ++
        "  \x7d);\n" ++
        "</script>\n" ++
        "\n" ++
        "<slot></slot>\n" ++
        "\n" ++
        "<style>\n" ++
        "  :host \x7b\n" ++
        "    width: var(--component-width, ").toList,
     .hole (.variable "width".toList) .display,
     .verbatim (
        ");\n" ++
        "  \x7d\n" ++
        "</style>\n").toList]]

def schemaEntry : List Block := [
  .plain [.verbatim (
        "\x7b\n" ++
        "  fields: \x7b\n" ++
        "    ...COMMON_FIELDS,\n" ++
        "    ...BRAND_COLOR_FIELDS,\n").toList],
  .loop (.members "name".toList "entry".toList "schema".toList)
    [.verbatim "    ".toList,
     .hole (.variable "name".toList) .propertyKey,
     .verbatim ": ".toList,
     .hole (.variable "entry".toList) (.literal 2),
     .verbatim ",\n".toList],
  .plain [.verbatim (
        "  \x7d,\n" ++
        "\x7d\n").toList]]

/-- The shared declarations of the schema registry. -/
def schemaPrelude : List Block := [
  .plain [.verbatim "const FIELD_TYPES = ".toList,
     .hole (.variable "field_types".toList) (.literal 0),
     .verbatim (
        ";\n" ++
        "\n" ++
        "const COMMON_FIELDS = ").toList,
     .hole (.variable "common_fields".toList) (.literal 0),
     .verbatim (
        ";\n" ++
        "\n" ++
        "const BRAND_COLOR_FIELDS = ").toList,
     .hole (.variable "brand_color_fields".toList) (.literal 0),
     .verbatim ";\n".toList]]

def loader : List Block := [
  .plain [.verbatim (
        "export const EmbedModule = \x7b\n" ++
        "  async render(\x7b componentType, props, container \x7d) \x7b\n" ++
        "    const module = await import(`/embed-components/$\x7bcomponentType\x7d.js`);\n" ++
        "    const tagName = props.tagName || componentType;\n" ++
        "\n" ++
        "    const element = document.createElement(tagName);\n" ++
        "\n" ++
        "    for (const [key, value] of Object.entries(props)) \x7b\n" ++
        "      if (key === 'tagName') continue;\n" ++
        "      element.setAttribute(key, value);\n" ++
        "    \x7d\n" ++
        "\n" ++
        "    container.appendChild(element);\n" ++
        "  \x7d\n" ++
        "\x7d;\n" ++
        "\n" ++
        "const ").toList,
     .hole (.variable "mapping_name".toList) .display,
     .verbatim " = \x7b\x7d;\n".toList]]

/-- The body of a mock-data clause. -/
def mockCase : List Block := [
  .plain [.verbatim "return ".toList,
     .hole (.variable "values".toList) (.literal 0),
     .verbatim ";\n".toList]]

/-- A fresh registry with an empty mapping. -/
def registry : List Block := [
  .plain [.verbatim "export const ".toList,
     .hole (.variable "mapping_name".toList) .display,
     .verbatim " = \x7b\x7d;\n".toList]]

def bundler : List Block := [
  .plain [.verbatim (
        "import svelte from 'rollup-plugin-svelte';\n" ++
        "\n" ++
        "export default \x7b\n" ++
        "  input: \x7b\x7d,\n" ++
        "  output: \x7b\n" ++
        "    dir: 'public',\n" ++
        "    format: 'esm'\n" ++
        "  \x7d,\n" ++
        "  plugins: [svelte()]\n" ++
        "\x7d;\n").toList]]

/-- The templates under their file names. -/
def library : List (Text × List Block) := [
  ("component.svelte.j2".toList, component),
  ("config_entry.js.j2".toList, schemaEntry),
  ("config_prelude.js.j2".toList, schemaPrelude),
  ("embed-loader.js.j2".toList, loader),
  ("mock_case.js.j2".toList, mockCase),
  ("registry.js.j2".toList, registry),
  ("rollup.config.js.j2".toList, bundler)]

/-- The variable that no context may define, since it is the template's own. -/
def ownName : Text :=
  "self".toList

/-- The template that a path leads to.  Empty steps and `.` lead nowhere, and no step leads
upward. -/
def named? (path : Text) : Option (List Block) :=
  library.lookup <| Text.join ['/'] (Path.ofText path).steps

/-- Render the template that a path leads to. -/
def renderNamed (path : Text) (context : Context) : Except Fault Text :=
  match named? path with
  | some template =>
      if (context.lookup ownName).isSome then .error .ownNameTaken else render context template
  | none => .error (.missingTemplate path)

end Template

end EmbedScaffold
