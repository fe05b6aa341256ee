import EmbedScaffold.Remote.Publisher
import EmbedScaffold.Settings.Basic

/-!
# Broken runs

A run that meets a fault which is none of its documents breaks off without a report.
-/

namespace EmbedScaffold

namespace Run

/-- Why a run breaks off without a report. -/
inductive Break where
  /-- The name of the remote repository is malformed. -/
  | repository (fault : Remote.BadRepository)
  /-- An escape in the component's script names a code beyond all bounds. -/
  | escapeTooLarge
  /-- A default of the component is an integer with too many digits to be written. -/
  | longInteger
  /-- The path of a document holds a character that no path can hold. -/
  | nullPath
  /-- The templates in a document nest too deeply. -/
  | nestedTooDeeply
  /-- The published loaders cannot be listed. -/
  | search (fault : Settings.SearchFault)
  /-- A text holds half of a surrogate pair. -/
  | unencodable
  /-- The remote repository gave a malformed answer. -/
  | answer (fault : Remote.Fault)
  deriving DecidableEq, Repr

end Run

end EmbedScaffold
