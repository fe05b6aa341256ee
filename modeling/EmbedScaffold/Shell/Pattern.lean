import EmbedScaffold.Site.Glob

/-!
# Patterns of a shell

Words are expanded to glyphs: characters that remember where they come from.  In a pattern only the
glyphs that are not quoted have a special meaning.
-/

namespace EmbedScaffold.Shell

/-- A character of an expanded word.  One that is quoted stands for itself; one that comes from an
expansion may separate words. -/
structure Glyph where
  shown : Char
  isQuoted : Bool
  isExpanded : Bool
  deriving DecidableEq, Repr

namespace Glyph

/-- Whether a glyph is a sign with its special meaning. -/
def isSign (glyph : Glyph) (sign : Char) : Bool :=
  glyph.shown == sign && ! glyph.isQuoted

def text (glyphs : List Glyph) : Text :=
  glyphs.map (·.shown)

/-- Whether glyphs hold a sign that makes them a pattern. -/
def isPattern (glyphs : List Glyph) : Bool :=
  glyphs.any fun glyph => glyph.isSign '*' || glyph.isSign '?' || glyph.isSign '['

end Glyph

namespace Pattern

def characterClasses : List (Text × List (Char × Char)) :=
  [ ("alpha", [('a', 'z'), ('A', 'Z')]),
    ("digit", [('0', '9')]),
    ("alnum", [('a', 'z'), ('A', 'Z'), ('0', '9')]),
    ("upper", [('A', 'Z')]),
    ("lower", [('a', 'z')]),
    ("space", [(' ', ' '), ('\t', '\r')]),
    ("blank", [(' ', ' '), ('\t', '\t')]),
    ("punct", [('!', '/'), (':', '@'), ('[', '\x60'), ('\x7b', '~')]),
    ("xdigit", [('0', '9'), ('a', 'f'), ('A', 'F')]),
    ("print", [(' ', '~')]),
    ("graph", [('!', '~')]),
    ("cntrl", [('\x00', '\x1f'), ('\x7f', '\x7f')])].map fun (name, ranges) => (name.toList, ranges)

/-- The ranges of the class that a text begins with, and its length. -/
def class? (content : Text) : Option (List (Char × Char) × Nat) :=
  characterClasses.findSome? fun (name, ranges) =>
    let written := "[:".toList ++ name ++ ":]".toList
    if written.isPrefixOf content then some (ranges, written.length) else none

/-- The ranges of a set of characters, and the number of glyphs up to its end.  A bracket that comes
first belongs to the set. -/
def ranges? (isFirst : Bool) : (fuel : Nat) → List Glyph → Option (List (Char × Char) × Nat)
  | 0, _ => none
  | _, [] => none
  | fuel + 1, glyph :: rest =>
      if glyph.isSign ']' && ! isFirst then some ([], 1)
      else
        match class? (Glyph.text (glyph :: rest)) with
        | some (found, length) =>
            (ranges? false fuel ((glyph :: rest).drop length)).map fun (others, count) =>
              (found ++ others, length + count)
        | none =>
            match rest with
            | dash :: last :: behind =>
                if dash.isSign '-' && ! last.isSign ']' then
                  (ranges? false fuel behind).map fun (others, count) =>
                    ((glyph.shown, last.shown) :: others, count + 3)
                else
                  (ranges? false fuel rest).map fun (others, count) =>
                    ((glyph.shown, glyph.shown) :: others, count + 1)
            | _ =>
                (ranges? false fuel rest).map fun (others, count) =>
                  ((glyph.shown, glyph.shown) :: others, count + 1)

/-- The set that stands behind an opening bracket. -/
def set? (glyphs : List Glyph) : Option (Glob.Piece × Nat) :=
  let isNegated := glyphs.head?.any fun glyph => glyph.isSign '!' || glyph.isSign '^'
  let skipped := if isNegated then 1 else 0
  (ranges? true (glyphs.length + 1) (glyphs.drop skipped)).map fun (ranges, count) =>
    (.range (! isNegated) ranges, skipped + count)

/-- The pieces of a pattern; `inside` glyphs still belong to a set. -/
def pieces (inside : Nat) : List Glyph → List Glob.Piece
  | [] => []
  | glyph :: rest =>
      match inside with
      | remaining + 1 => pieces remaining rest
      | 0 =>
          if glyph.isSign '*' then .run :: pieces 0 rest
          else if glyph.isSign '?' then .one :: pieces 0 rest
          else
            match if glyph.isSign '[' then set? rest else none with
            | some (piece, length) => piece :: pieces length rest
            | none => .literal glyph.shown :: pieces 0 rest

def isMatch (pattern : List Glyph) (content : Text) : Bool :=
  Glob.matchesName (pieces 0 pattern) content

/-- The text without the shortest or the longest start that a pattern matches. -/
def cutStart (isLongest : Bool) (pattern : List Glyph) (content : Text) : Text :=
  let lengths := List.range (content.length + 1)
  let ordered := if isLongest then lengths.reverse else lengths
  match ordered.find? fun length => isMatch pattern (content.take length) with
  | some length => content.drop length
  | none => content

/-- The text without the shortest or the longest end that a pattern matches. -/
def cutEnd (isLongest : Bool) (pattern : List Glyph) (content : Text) : Text :=
  let lengths := List.range (content.length + 1)
  let ordered := if isLongest then lengths else lengths.reverse
  match ordered.find? fun length => isMatch pattern (content.drop length) with
  | some length => content.take length
  | none => content

/-! ## Files -/

/-- The parts of glyphs between slashes. -/
def steps : List Glyph → List (List Glyph)
  | [] => [[]]
  | glyph :: rest =>
      if glyph.shown = '/' then [] :: steps rest
      else
        match steps rest with
        | [] => [[glyph]]
        | first :: others => (glyph :: first) :: others

/-- The names of a directory that a step of a pattern selects.  A name that begins with a point has
to be asked for. -/
def names (site : Site) (directory : Place) (step : List Glyph) : List Text :=
  let places := Glob.allDirectories site ++ site.files.map Prod.fst
  let known := (places.filter fun place => ! place.isEmpty && place.dropLast = directory).filterMap
    List.getLast?
  let isHidden (name : Text) : Bool := name.head? = some '.'
  let asksHidden := step.head?.any fun glyph => glyph.shown == '.'
  let wanted := pieces 0 step
  let selected := known.eraseDups.filter fun name =>
    (asksHidden || ! isHidden name) && Glob.matchesName wanted name
  selected.mergeSort Glob.textIsAtMost

/-- What the steps of a pattern select: the paths as they are written, behind `written`. -/
def select (site : Site) : List (List Glyph) → (written : Text) → Place → List Text
  | [], _, _ => []
  | [step], written, directory =>
      if Glyph.isPattern step then (names site directory step).map (written ++ ·)
      else
        let name := Glyph.text step
        let place := if name.isEmpty then directory else Path.step directory name
        if site.holds place || name = ['.'] then [written ++ name] else []
  | step :: rest, written, directory =>
      let chosen := if Glyph.isPattern step then names site directory step else [Glyph.text step]
      chosen.flatMap fun name =>
        let place :=
          if name.isEmpty then (if written.isEmpty then [] else directory)
          else if name = ['.'] then directory
          else Path.step directory name
        if site.isDirectory place then select site rest (written ++ name ++ ['/']) place else []

/-- The files that a word names, if it is a pattern that matches some; else the word itself. -/
def filesOf (site : Site) (directory : Place) (glyphs : List Glyph) : List Text :=
  if Glyph.isPattern glyphs then
    match select site (steps glyphs) [] directory with
    | [] => [Glyph.text glyphs]
    | found => found
  else [Glyph.text glyphs]

end Pattern

end EmbedScaffold.Shell
