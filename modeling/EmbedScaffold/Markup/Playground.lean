import EmbedScaffold.Markup.ScriptBlock
import EmbedScaffold.Registry.Header

/-!
# The playground page

The playground imports every component and renders one instance of each.  `patchPlayground` adds
the import to the instance script and the instance to the markup, each only if it is missing.
-/

namespace EmbedScaffold

namespace Markup

/-- Add an import line to the instance script, which is created if there is none. -/
def ensureScriptImport (content importLine : Text) : Except PatchFault Text :=
  match findInstance? 0 content with
  | none =>
      .ok ("<script>\n  ".toList ++ Text.strip importLine ++ "\n</script>\n\n".toList ++ content)
  | some (offset, block) => do
      let body ←
        if Text.isBlankText block.body then
          pure ("\n  ".toList ++ Text.strip importLine ++ ['\n'])
        else ensureHeaderLine block.body importLine
      let start := offset + block.openingLength
      pure (Text.splice content start (start + block.body.length) body)

/-- Whether a tag name ends where a text begins. -/
def endsTagName : Text → Bool
  | [] => false
  | first :: _ => Text.isBlank first || first == '/' || first == '>'

/-- Whether a text contains the opening tag of an element. -/
def opensElement (tag : Text) : Text → Bool
  | [] => false
  | first :: rest =>
      ((dropExact? ('<' :: tag) (first :: rest)).map endsTagName).getD false ||
        opensElement tag rest

/-- Whether an element appears in a document outside the instance script. -/
def hasUsage (content tag : Text) : Bool :=
  opensElement tag (withoutInstances content)

/-- Add an element before the last closing tag of the main part, or at the end. -/
def ensureUsage (content tag : Text) : Text :=
  if hasUsage content tag then content
  else
    let usage := '<' :: tag ++ " />".toList
    match Text.lastIndexOf? "</main>".toList content with
    | none => Text.trimEnd Text.isLineFeed content ++ "\n\n".toList ++ usage ++ ['\n']
    | some close =>
        let indented := Text.lineIndent content close ++ Text.indentStep ++ usage ++ ['\n']
        if Text.startsLine content close then
          let line := Text.lineStart content close
          Text.splice content line line indented
        else Text.splice content close close ('\n' :: indented)

/-- Import a component into the playground and render one instance of it. -/
def patchPlayground (content importLine tag : Text) : Except PatchFault Outcome := do
  let imported ← ensureScriptImport content importLine
  pure (Outcome.ofTexts content (ensureUsage imported tag))

end Markup

end EmbedScaffold
