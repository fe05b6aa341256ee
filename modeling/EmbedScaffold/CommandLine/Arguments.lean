import EmbedScaffold.Text.Digit

/-!
# Arguments

The words of a command line are read in two passes.  First each word is classified on its own: an
option, a value, or the separator behind which every word is a value.  Then the words are taken in
order.  The name of a long option may be cut short as long as it stays clear which one is meant,
and its value may be attached by an equals sign.
-/

namespace EmbedScaffold

namespace CommandLine

structure Options where
  component : Text
  root : Text := []
  config : Text := []
  repository : Text := []
  branch : Text := []
  bestEffort : Bool := false
  force : Bool := false
  noFormat : Bool := false
  dryRun : Bool := false
  deriving DecidableEq, Repr

/-! ## Options -/

/-- An option without a value. -/
inductive Flag where
  | help
  | bestEffort
  | force
  | noFormat
  | dryRun
  deriving DecidableEq, Repr

inductive Setting where
  | root
  | config
  | repository
  | branch
  deriving DecidableEq, Repr

inductive Known where
  | flag (flag : Flag)
  | setting (setting : Setting)
  deriving DecidableEq, Repr

def longNames : List (Text × Known) := [
  ("--help".toList, .flag .help),
  ("--root".toList, .setting .root),
  ("--config".toList, .setting .config),
  ("--best-effort".toList, .flag .bestEffort),
  ("--force".toList, .flag .force),
  ("--no-format".toList, .flag .noFormat),
  ("--dry-run".toList, .flag .dryRun),
  ("--push".toList, .setting .repository),
  ("--branch".toList, .setting .branch)]

/-- How a command line is put together. -/
def usage : Text :=
  ("usage: embedify [-h] [--root ROOT] [--config CONFIG] [--best-effort] [--force] " ++
    "[--no-format] [--dry-run] [--push OWNER/REPO] [--branch BRANCH] component").toList

/-- The word behind which every word is a value. -/
def separator : Text :=
  "--".toList

/-! ## Classifying -/

inductive Argument where
  | value (content : Text)
  | separator
  /-- A long option, perhaps with a value attached; there are several if its name is cut too
  short. -/
  | long (candidates : List Known) (attached : Option Text)
  /-- The short option for help with what stands behind it, where an equals sign counts for
  nothing. -/
  | short (attached : Text)
  | unknown
  deriving DecidableEq, Repr

/-- A word up to its first equals sign, and what follows that. -/
def splitAttached (word : Text) : Text × Option Text :=
  match word.dropWhile (· ≠ '=') with
  | [] => (word, none)
  | _ :: attached => (word.takeWhile (· ≠ '='), some attached)

/-- The long options that a name can mean: the one of that very name, else all that begin with
it. -/
def candidatesFor (name : Text) : List Known :=
  match longNames.lookup name with
  | some known => [known]
  | none => (longNames.filter fun (long, _) => name.isPrefixOf long).map Prod.snd

/-- Whether a text is decimal digits, perhaps with a point before the last of them; a line feed
may follow. -/
def isNumber (content : Text) : Bool :=
  let shown := if content.getLast? = some '\n' then content.dropLast else content
  match shown.dropWhile Text.isDecimalDigit with
  | [] => ! shown.isEmpty
  | '.' :: digits => ! digits.isEmpty && digits.all Text.isDecimalDigit
  | _ => false

/-- A word that begins with a hyphen but is no option: it can still be a value. -/
def classifyOther (word : Text) : Argument :=
  if isNumber (word.drop 1) || word.contains ' ' then .value word else .unknown

def classify (word : Text) : Argument :=
  match word with
  | '-' :: '-' :: _ =>
      let (name, attached) := splitAttached word
      match candidatesFor word, candidatesFor name with
      | [], [] => classifyOther word
      | [], candidates => .long candidates attached
      | candidates, _ => .long candidates none
  | ['-', 'h'] => .long [.flag .help] none
  | '-' :: 'h' :: '=' :: attached => .short attached
  | '-' :: 'h' :: attached => .short attached
  | '-' :: _ :: _ => classifyOther word
  | _ => .value word

def classifyAll : List Text → List Argument
  | [] => []
  | word :: rest =>
      if word = separator then .separator :: rest.map .value else classify word :: classifyAll rest

/-! ## Reading -/

inductive Reading where
  | options (options : Options)
  | help
  | misuse
  deriving DecidableEq, Repr

/-- The options read so far.  The component is the first value; `openEnded` tells that nothing came
between it and the next word, and `spoiled` that a word was left over. -/
structure Progress where
  options : Options
  named : Bool := false
  openEnded : Bool := true
  spoiled : Bool := false

def Options.setFlag (options : Options) : Flag → Options
  | .help => options
  | .bestEffort => { options with bestEffort := true }
  | .force => { options with force := true }
  | .noFormat => { options with noFormat := true }
  | .dryRun => { options with dryRun := true }

def Options.set (options : Options) (value : Text) : Setting → Options
  | .root => { options with root := value }
  | .config => { options with config := value }
  | .repository => { options with repository := value }
  | .branch => { options with branch := value }

namespace Progress

/-- Take a value that belongs to no option. -/
def take (progress : Progress) (value : Text) : Progress :=
  if progress.named then { progress with spoiled := true }
  else
    { progress with
      options := { progress.options with component := value }
      named := true
      openEnded := true }

/-- The options with a change made by an option. -/
def change (progress : Progress) (options : Options) : Progress :=
  { progress with options, openEnded := ! progress.named }

/-- What the words were read as, when all are taken. -/
def reading (progress : Progress) : Reading :=
  if progress.named && ! progress.spoiled then .options progress.options else .misuse

end Progress

/-- Take classified words in order. -/
def readFrom (progress : Progress) : List Argument → Reading
  | [] => progress.reading
  | .value value :: rest => readFrom (progress.take value) rest
  | .separator :: rest =>
      readFrom { progress with spoiled := progress.spoiled || ! progress.openEnded } rest
  | .unknown :: rest => readFrom { progress with spoiled := true } rest
  | .short attached :: _ =>
      if ! attached.isEmpty && attached.all (· = 'h') then .help else .misuse
  | .long [.flag .help] none :: _ => .help
  | .long [.flag flag] none :: rest =>
      readFrom (progress.change (progress.options.setFlag flag)) rest
  | .long [.setting setting] (some value) :: rest =>
      readFrom (progress.change (progress.options.set value setting)) rest
  | .long [.setting setting] none :: .value value :: rest =>
      readFrom (progress.change (progress.options.set value setting)) rest
  | .long _ _ :: _ => .misuse

/-- Whether a long option is cut too short. -/
def Argument.isAmbiguous : Argument → Bool
  | .long (_ :: _ :: _) _ => true
  | _ => false

/-- Read a command line; no word of it may be ambiguous. -/
def read (words : List Text) : Reading :=
  let arguments := classifyAll words
  if arguments.any Argument.isAmbiguous then .misuse
  else readFrom { options := { component := [] } } arguments

end CommandLine

end EmbedScaffold
