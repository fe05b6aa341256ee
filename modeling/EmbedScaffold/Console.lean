import EmbedScaffold.Text.Basic

/-!
# The console

What a run tells its user: styled lines and tables.  The style of a line is written into it as
tags.
-/

namespace EmbedScaffold

inductive ConsoleItem where
  | line (content : Text)
  | table (title : Text) (columns : List Text) (rows : List (List Text))
  deriving DecidableEq, Repr

namespace Console

/-- A text between the tags of a style. -/
def styled (style : String) (content : Text) : Text :=
  ("[" ++ style ++ "]").toList ++ content ++ ("[/" ++ style ++ "]").toList

def success (message : Text) : ConsoleItem :=
  .line (styled "bold green" message)

def fault (message : Text) : ConsoleItem :=
  .line (styled "bold red" message)

def warning (message : Text) : ConsoleItem :=
  .line (styled "bold yellow" message)

/-- A table, with an empty line behind it. -/
def table (title : Text) (columns : List Text) (rows : List (List Text)) : List ConsoleItem :=
  [.table title columns rows, .line []]

/-! ## Plain text -/

def styles : List String :=
  ["bold", "bold green", "bold red", "bold yellow", "green", "yellow", "dim"]

/-- The tags that begin and end the styles in use. -/
def tags : List Text :=
  styles.flatMap fun style => [("[" ++ style ++ "]").toList, ("[/" ++ style ++ "]").toList]

/-- A text without the tags of styles, behind its first `skipped` characters. -/
def unstyledBehind (skipped : Nat) : Text → Text
  | [] => []
  | first :: rest =>
      match skipped with
      | fewer + 1 => unstyledBehind fewer rest
      | 0 =>
          match tags.find? (·.isPrefixOf (first :: rest)) with
          | some tag => unstyledBehind (tag.length - 1) rest
          | none => first :: unstyledBehind 0 rest

/-- The lines that show an item without its styles. -/
def plainLines : ConsoleItem → List Text
  | .line content => [unstyledBehind 0 content]
  | .table title columns rows =>
      title :: (columns :: rows).map fun row =>
        Text.join " | ".toList (row.map (unstyledBehind 0))

end Console

end EmbedScaffold
