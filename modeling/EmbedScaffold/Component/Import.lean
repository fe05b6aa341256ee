import EmbedScaffold.Literal.Basic
import EmbedScaffold.Site.Path

/-!
# Imports of components

A registry imports a component's document by its path from the directory of the registry.
-/

namespace EmbedScaffold

namespace Component

/-- The path under which the document at `target` imports a component: relative, and with a
leading point. -/
def importPath (workplace : Place) (target component : Path) : Text :=
  let shown := Path.textFrom workplace target.parent component
  if shown.head? = some '.' then shown else "./".toList ++ shown

/-- The statement by which the document at `target` imports a component. -/
def importLine (workplace : Place) (name : Text) (target component : Path) : Text :=
  "import ".toList ++ name ++ " from ".toList ++
    Literal.quotedString (importPath workplace target component) ++ [';']

end Component

end EmbedScaffold
