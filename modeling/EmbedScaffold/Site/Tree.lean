import EmbedScaffold.Literal.Basic
import EmbedScaffold.Site.Path
import EmbedScaffold.Text.Lines

/-!
# Sites

A site is a tree of directories and files with a working directory.  Reading decodes a file and
makes all line ends line feeds; writing makes the directories that are missing.
-/

namespace EmbedScaffold

abbrev Bytes := List UInt8

/-- A tree of directories and files.  The root and the directories above the working directory
always exist. -/
structure Site where
  workplace : Place
  directories : List Place
  files : List (Place × Bytes)
  deriving DecidableEq, Repr

/-- Why the system refuses an operation. -/
inductive SystemFault where
  | missing
  | exists
  | notDirectory
  | isDirectory
  | nameTooLong
  deriving DecidableEq, Repr

namespace SystemFault

/-- The number under which the system knows the fault. -/
def number : SystemFault → Nat
  | .missing => 2
  | .exists => 17
  | .notDirectory => 20
  | .isDirectory => 21
  | .nameTooLong => 36

def reason : SystemFault → Text
  | .missing => "No such file or directory".toList
  | .exists => "File exists".toList
  | .notDirectory => "Not a directory".toList
  | .isDirectory => "Is a directory".toList
  | .nameTooLong => "File name too long".toList

/-- The wording of the fault at a path. -/
def message (fault : SystemFault) (path : Path) : Text :=
  "[Errno ".toList ++ Text.ofNat fault.number ++ "] ".toList ++ fault.reason ++ ": ".toList ++
    Literal.displayString path.text

end SystemFault

/-- Why a file cannot be read. -/
inductive ReadFault where
  | system (fault : SystemFault) (path : Path)
  | encoding (path : Path) (failure : Text.Utf8Failure)
  deriving DecidableEq, Repr

def ReadFault.message : ReadFault → Text
  | .system fault path => fault.message path
  | .encoding path failure =>
      path.text ++ " is not valid UTF-8: ".toList ++ failure.cause.message.toList ++
        " at byte ".toList ++ Text.ofNat failure.offset

namespace Site

/-! ## Looking -/

def isDirectory (site : Site) (place : Place) : Bool :=
  (Path.behind? place site.workplace).isSome || site.directories.contains place

/-- The content of the file at a place. -/
def file? (site : Site) (place : Place) : Option Bytes :=
  site.files.lookup place

def isFile (site : Site) (place : Place) : Bool :=
  (site.file? place).isSome

/-- Whether there is something at a place. -/
def holds (site : Site) (place : Place) : Bool :=
  site.isDirectory place || site.isFile place

/-- The longest name that a directory can hold, in bytes. -/
def longestName : Nat := 255

/-- The longest path that the system takes, in bytes. -/
def longestPath : Nat := 4095

/-- Walk along the steps of a path; every place on the way has to be a directory. -/
def walk (site : Site) : Place → List Text → Except SystemFault Place
  | place, [] => .ok place
  | place, taken :: steps =>
      if site.isDirectory place then
        if longestName < (Text.encode taken).length then .error .nameTooLong
        else walk site (Path.step place taken) steps
      else if site.isFile place then .error .notDirectory
      else .error .missing

/-- The place that a path leads to. -/
def locate (site : Site) (path : Path) : Except SystemFault Place :=
  if path.hasNull then .error .missing
  else if longestPath < (Text.encode path.text).length then .error .nameTooLong
  else site.walk (if path.isAbsolute then [] else site.workplace) path.steps

def leadsToDirectory (site : Site) (path : Path) : Bool :=
  match site.locate path with
  | .ok place => site.isDirectory place
  | .error _ => false

def leadsToFile (site : Site) (path : Path) : Bool :=
  match site.locate path with
  | .ok place => site.isFile place
  | .error _ => false

/-! ## Reading -/

/-- The text of a file; none if there is nothing at the path. -/
def read (site : Site) (path : Path) : Except ReadFault (Option Text) :=
  match site.locate path with
  | .error .nameTooLong => .error (.system .nameTooLong path)
  | .error _ => .ok none
  | .ok place =>
      if site.isDirectory place then .error (.system .isDirectory path)
      else
        match site.file? place with
        | none => .ok none
        | some bytes =>
            match Text.decode 0 bytes with
            | .ok content => .ok (some (Text.normalizeNewlines content))
            | .error failure => .error (.encoding path failure)

/-! ## Writing -/

def makeDirectory (site : Site) (path : Path) : Except SystemFault Site :=
  match site.locate path with
  | .error fault => .error fault
  | .ok place =>
      if site.holds place then .error .exists
      else .ok { site with directories := site.directories ++ [place] }

/-- Why something cannot be written at a path, and the site with the directories that were made on
the way. -/
structure WriteFault where
  cause : SystemFault
  path : Path
  site : Site

/-- Make a directory with those above it, where they are missing.  The steps of the path come last
first. -/
def ensureDirectoryAt (site : Site) (lead : Text) : List Text → Except WriteFault Site
  | [] =>
      let path : Path := ⟨lead, []⟩
      if site.leadsToDirectory path then .ok site else .error ⟨.missing, path, site⟩
  | last :: above =>
      let path : Path := ⟨lead, (last :: above).reverse⟩
      match site.makeDirectory path with
      | .ok made => .ok made
      | .error .missing => do
          let prepared ← ensureDirectoryAt site lead above
          match prepared.makeDirectory path with
          | .ok made => .ok made
          | .error fault =>
              if fault ≠ .missing && prepared.leadsToDirectory path then .ok prepared
              else .error ⟨fault, path, prepared⟩
      | .error fault =>
          if site.leadsToDirectory path then .ok site else .error ⟨fault, path, site⟩

/-- Make a directory with those above it, where they are missing. -/
def ensureDirectory (site : Site) (path : Path) : Except WriteFault Site :=
  site.ensureDirectoryAt path.lead path.steps.reverse

/-- The site with a file at a place. -/
def setFile (site : Site) (place : Place) (content : Bytes) : Site :=
  if site.isFile place then
    { site with
      files := site.files.map fun (known, old) => (known, if known = place then content else old) }
  else { site with files := site.files ++ [(place, content)] }

/-- Open a file for writing: its place, if the system allows it. -/
def openFile (site : Site) (path : Path) : Except SystemFault Place := do
  let place ← site.locate path
  if site.isDirectory place then throw .isDirectory else pure place

/-- Write a file and make the directories above it.  A fault leaves the files alone. -/
def write (site : Site) (path : Path) (content : Bytes) : Except WriteFault Site := do
  let prepared ← site.ensureDirectory path.parent
  match prepared.openFile path with
  | .ok place => pure (prepared.setFile place content)
  | .error fault => throw ⟨fault, path, prepared⟩

/-- The site without the file at a path. -/
def removeFile (site : Site) (path : Path) : Site :=
  match site.locate path with
  | .ok place => { site with files := site.files.filter fun (known, _) => known ≠ place }
  | .error _ => site

/-! ## Comparing -/

/-- The files that differ between two sites, with their later content. -/
def changes (before after : Site) : List (Place × Option Bytes) :=
  let written := (after.files.filter fun (place, content) => before.file? place ≠ some content).map
    fun (place, content) => (place, some content)
  let removed := (before.files.filter fun (place, _) => ! after.isFile place).map
    fun (place, _) => (place, none)
  written ++ removed

end Site

end EmbedScaffold
