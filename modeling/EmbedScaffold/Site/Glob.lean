import EmbedScaffold.Site.Tree

/-!
# File patterns

A pattern names files by the steps that lead to them.  In a step, `*` stands for any characters,
`?` for one, and brackets for one of a set; the step `**` stands for any directories.
-/

namespace EmbedScaffold

namespace Glob

/-- A part of a step of a pattern. -/
inductive Piece where
  | literal (wanted : Char)
  | one
  | run
  /-- One character inside the ranges, or outside of them. -/
  | range (inside : Bool) (ranges : List (Char × Char))
  deriving DecidableEq, Repr

inductive Step where
  | exact (name : Text)
  | wild (pieces : List Piece)
  | everywhere
  | upward
  /-- The end of a pattern that names directories only. -/
  | directory
  deriving DecidableEq, Repr

/-- Why a pattern selects nothing: it is malformed, or the system refuses to look somewhere. -/
inductive Fault where
  | empty
  | absolute
  | misplacedStars
  | noSteps
  | refused (cause : SystemFault)
  deriving DecidableEq, Repr

def Fault.message : Fault → String
  | .empty => "Unacceptable pattern: ''"
  | .absolute => "Non-relative patterns are unsupported"
  | .misplacedStars => "Invalid pattern: '**' can only be an entire path component"
  | .noSteps => "Pattern without steps"
  | .refused cause => String.ofList cause.reason

/-! ## Reading patterns -/

/-- The ranges of a set of characters; one that runs backwards holds nothing. -/
def rangesOf : Text → List (Char × Char)
  | first :: '-' :: last :: rest => (first, last) :: rangesOf rest
  | first :: rest => (first, first) :: rangesOf rest
  | [] => []

/-- The set that begins behind an opening bracket, and the number of characters up to its end.  A
closing bracket that comes first belongs to the set. -/
def setOf? (content : Text) : Option (Piece × Nat) :=
  let negated := content.head? = some '!'
  let skipped := if negated then 1 else 0
  let members := content.drop skipped
  match Text.indexOf? [']'] (members.drop 1) with
  | some offset =>
      if members.isEmpty then none
      else
        some (.range (! negated) (rangesOf (members.take (offset + 1))), skipped + offset + 2)
  | none => none

/-- The pieces of a step; `inside` characters still belong to a set. -/
def piecesOf (inside : Nat) : Text → List Piece
  | [] => []
  | first :: rest =>
      match inside with
      | remaining + 1 => piecesOf remaining rest
      | 0 =>
          if first = '*' then .run :: piecesOf 0 rest
          else if first = '?' then .one :: piecesOf 0 rest
          else if first = '[' then
            match setOf? rest with
            | some (piece, length) => piece :: piecesOf length rest
            | none => .literal '[' :: piecesOf 0 rest
          else .literal first :: piecesOf 0 rest

def stepOf (content : Text) : Except Fault Step :=
  if content = "**".toList then .ok .everywhere
  else if content = Path.upward then .ok .upward
  else if Text.includes content "**".toList then .error .misplacedStars
  else if content.any "*?[".toList.contains then .ok (.wild (piecesOf 0 content))
  else .ok (.exact content)

def ofText (content : Text) : Except Fault (List Step) := do
  let path := Path.ofText content
  if content.isEmpty then throw .empty
  else if path.isAbsolute then throw .absolute
  else if path.steps.isEmpty then throw .noSteps
  else
    let steps ← path.steps.mapM stepOf
    pure (if content.getLast? = some '/' then steps ++ [.directory] else steps)

/-! ## Matching -/

/-- Whether a piece other than a run takes a character. -/
def Piece.takes (piece : Piece) (tested : Char) : Bool :=
  match piece with
  | .literal wanted => tested = wanted
  | .one => true
  | .run => true
  | .range inside ranges =>
      (ranges.any fun (first, last) => first ≤ tested && tested ≤ last) = inside

/-- Whether pieces make up a name. -/
def matchesName : List Piece → Text → Bool
  | [], name => name.isEmpty
  | .run :: pieces, [] => matchesName pieces []
  | .run :: pieces, first :: rest =>
      matchesName pieces (first :: rest) || matchesName (.run :: pieces) rest
  | _ :: _, [] => false
  | piece :: pieces, first :: rest => piece.takes first && matchesName pieces rest
termination_by pieces name => pieces.length + name.length

/-! ## Selecting -/

/-- All directories of a site, those above its working directory included. -/
def allDirectories (site : Site) : List Place :=
  (List.range (site.workplace.length + 1)).map site.workplace.take ++ site.directories

/-- The place that a path leads to; none if there is no way there. -/
def look (site : Site) (path : Path) : Except Fault (Option Place) :=
  match site.locate path with
  | .ok place => .ok (some place)
  | .error .nameTooLong => .error (.refused .nameTooLong)
  | .error _ => .ok none

/-- The names in the directory that a path leads to. -/
def entries (site : Site) (path : Path) : Except Fault (List Text) := do
  match ← look site path with
  | none => pure []
  | some directory =>
      let places := allDirectories site ++ site.files.map Prod.fst
      pure <| (places.filter fun place => ! place.isEmpty && place.dropLast = directory).filterMap
        List.getLast?

/-- The directory that a path leads to, and those below it. -/
def directoriesBelow (site : Site) (path : Path) : Except Fault (List Path) := do
  match ← look site path with
  | none => pure []
  | some directory =>
      pure <| (allDirectories site).filterMap fun place =>
        (Path.behind? directory place).map fun steps => ⟨path.lead, path.steps ++ steps⟩

/-- Whether the search can go on at a path: at anything behind the last step, else at a
directory. -/
def isOpen (site : Site) (rest : List Step) (path : Path) : Except Fault Bool := do
  match ← look site path with
  | none => pure false
  | some place => pure (if rest.isEmpty then site.holds place else site.isDirectory place)

/-- What the steps of a pattern select from a path on. -/
def selectFrom (site : Site) : List Step → Path → Except Fault (List Path)
  | [], path => .ok [path]
  | .exact name :: rest, path => do
      if ← isOpen site rest (path.child name) then selectFrom site rest (path.child name)
      else pure []
  | .wild pieces :: rest, path => do
      let names ← entries site path
      let opened ← ((names.filter (matchesName pieces)).map path.child).filterM (isOpen site rest)
      let selected ← opened.mapM (selectFrom site rest)
      pure selected.flatten
  | .everywhere :: rest, path => do
      let directories ← directoriesBelow site path
      let selected ← directories.mapM (selectFrom site rest)
      pure selected.flatten.eraseDups
  | .upward :: rest, path => selectFrom site rest (path.child Path.upward)
  | .directory :: _, path => .ok [path]

/-- Whether one text comes no later than another one in the order of their characters. -/
def textIsAtMost : Text → Text → Bool
  | [], _ => true
  | _ :: _, [] => false
  | first :: rest, other :: others =>
      if first = other then textIsAtMost rest others else first < other

/-- Whether one list of steps comes no later than another one. -/
def stepsAreAtMost : List Text → List Text → Bool
  | [], _ => true
  | _ :: _, [] => false
  | first :: rest, other :: others =>
      if first = other then stepsAreAtMost rest others else textIsAtMost first other

/-- The files that a pattern selects below a directory, in the order of their paths. -/
def select (site : Site) (pattern : Text) (directory : Path) : Except Fault (List Path) := do
  let steps ← ofText pattern
  let found ← match ← look site directory with
    | some place => if site.isDirectory place then selectFrom site steps directory else pure []
    | none => pure []
  let files ← found.filterM fun path => do
    pure ((← look site path).any site.isFile)
  pure (files.mergeSort fun first second => stepsAreAtMost first.steps second.steps)

end Glob

end EmbedScaffold
