import EmbedScaffold.Text.Basic

/-!
# Paths

A path names a place in a file tree, from the root or from the working directory.  It keeps its
`..` steps: only `Path.place` resolves them.
-/

namespace EmbedScaffold

/-- A place in a file tree: the names from the root down to it. -/
abbrev Place := List Text

/-- A path: the slashes that it begins with, and its steps. -/
structure Path where
  lead : Text
  steps : List Text
  deriving DecidableEq, Repr

namespace Path

/-- The step to the directory above. -/
def upward : Text :=
  "..".toList

/-- The path to where it is taken from. -/
def here : Path :=
  ⟨[], []⟩

/-- The slashes that the text of a path begins with: exactly two are kept. -/
def leadOf : Text → Text
  | '/' :: '/' :: '/' :: _ => ['/']
  | '/' :: '/' :: _ => ['/', '/']
  | '/' :: _ => ['/']
  | _ => []

/-- Read a path; empty steps and `.` lead nowhere. -/
def ofText (content : Text) : Path :=
  ⟨leadOf content,
    (Text.splitOn '/' content).filter fun step => ! step.isEmpty && step ≠ ['.']⟩

def text (path : Path) : Text :=
  if path.lead.isEmpty && path.steps.isEmpty then ['.']
  else path.lead ++ Text.join ['/'] path.steps

/-- Whether the path begins at the root. -/
def isAbsolute (path : Path) : Bool :=
  ! path.lead.isEmpty

/-- Whether a step holds the character that ends a text for the system; no such path leads
anywhere. -/
def hasNull (path : Path) : Bool :=
  path.steps.any (·.contains '\x00')

def join (base taken : Path) : Path :=
  if taken.isAbsolute then taken else ⟨base.lead, base.steps ++ taken.steps⟩

def child (path : Path) (name : Text) : Path :=
  ⟨path.lead, path.steps ++ [name]⟩

/-- The path without its last step. -/
def parent (path : Path) : Path :=
  ⟨path.lead, path.steps.dropLast⟩

def name (path : Path) : Text :=
  path.steps.getLast?.getD []

/-- The ending of the last step, from its last point on; a point that begins or ends the step does
not count. -/
def suffix (path : Path) : Text :=
  let name := path.name
  match Text.lastIndexOf? ['.'] name with
  | some offset => if 0 < offset && offset + 1 < name.length then name.drop offset else []
  | none => []

def step (place : Place) (taken : Text) : Place :=
  if taken = upward then place.dropLast else place ++ [taken]

/-- The place that a path names, with `..` undone step by step. -/
def place (workplace : Place) (path : Path) : Place :=
  path.steps.foldl step (if path.isAbsolute then [] else workplace)

/-- The steps of `place` behind `start`, if it lies at or below it. -/
def behind? : (start place : Place) → Option (List Text)
  | [], rest => some rest
  | _ :: _, [] => none
  | first :: start, next :: place => if first = next then behind? start place else none

/-- The text of a path from `root`, where it lies below; else its own text. -/
def relativeText (workplace : Place) (root path : Path) : Text :=
  if root.hasNull || path.hasNull then path.text
  else
    match behind? (root.place workplace) (path.place workplace) with
    | some steps => text ⟨[], steps⟩
    | none => path.text

/-- The steps from one place to another one: up to where they part, and down again. -/
def stepsBetween : (start goal : Place) → List Text
  | first :: start, next :: goal =>
      if first = next then stepsBetween start goal
      else List.replicate (start.length + 1) upward ++ next :: goal
  | start, goal => List.replicate start.length upward ++ goal

/-- The text that leads from a directory to a path. -/
def textFrom (workplace : Place) (directory path : Path) : Text :=
  text ⟨[], stepsBetween (directory.place workplace) (path.place workplace)⟩

end Path

end EmbedScaffold
