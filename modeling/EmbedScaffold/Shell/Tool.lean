import EmbedScaffold.Shell.Format
import EmbedScaffold.Shell.State

/-!
# Tools

The small programs that scripts are made of.  A tool works on its arguments, the streams and the
files, and sets the status it ends with.
-/

namespace EmbedScaffold.Shell

namespace Tool

open EmbedScaffold.Shell.Action

def print (content : Text) : Action Unit :=
  write 1 content

/-- Tell of a fault on the stream for errors, and set the status to one. -/
def tell (content : Text) : Action Unit := do
  write 2 (content ++ ['\n'])
  setStatus 1

/-- Tell how a tool can be asked for help. -/
def tellHelp (name reason : Text) : Action Unit := do
  tell (name ++ ": ".toList ++ reason)
  tell ("Try '".toList ++ name ++ " --help' for more information.".toList)

def quoted (content : Text) : Text :=
  ofText ['‘'] ++ content ++ ofText ['’']

def take (name : Text) (printed : Printed) : Action Unit := do
  print printed.output
  printed.complaints.forM fun complaint => tell (name ++ ": ".toList ++ complaint)
  setStatus printed.status

/-- The letters of the options in front of the other arguments, and those; a double hyphen ends the
options. -/
def splitOptions : List Text → Text × List Text
  | ['-', '-'] :: rest => ([], rest)
  | ('-' :: letter :: letters) :: rest =>
      let (others, operands) := splitOptions rest
      (letter :: letters ++ others, operands)
  | operand :: rest =>
      let (others, operands) := splitOptions rest
      (others, operand :: operands)
  | [] => ([], [])

/-! ## Putting files together -/

/-- How the lines of files are shown. -/
structure LineStyle where
  isNumbered : Bool
  /-- Only lines that hold something are numbered. -/
  skipsBlank : Bool
  isSqueezed : Bool
  marksEnds : Bool
  marksTabs : Bool
  marksControls : Bool

namespace LineStyle

/-- The letters of the options that are known. -/
def letters : Text :=
  "nbsETvAetu".toList

/-- The style that options ask for. -/
def ofLetters (given : Text) : LineStyle :=
  let has (wanted : String) : Bool := given.any wanted.toList.contains
  { isNumbered := has "nb"
    skipsBlank := has "b"
    isSqueezed := has "s"
    marksEnds := has "EAe"
    marksTabs := has "TAt"
    marksControls := has "vAet" }

def byte (style : LineStyle) (shown : Char) : Text :=
  let code := shown.toNat
  let control (low : Nat) : Text :=
    if low < 32 then ['^', Char.ofNat (low + 64)] else if low = 127 then "^?".toList
    else [Char.ofNat low]
  if shown = '\t' then if style.marksTabs then "^I".toList else [shown]
  else if ! style.marksControls then [shown]
  else if code < 128 then control code
  else "M-".toList ++ control (code - 128)

/-- The number in front of a line. -/
def numberText (number : Nat) : Text :=
  let digits := Text.ofNat number
  List.replicate (6 - digits.length) ' ' ++ digits ++ ['\t']

/-- Show lines; `isBehindBlank` tells whether the line before was blank. -/
def lines (style : LineStyle) (number : Nat) (isBehindBlank : Bool) : List Text → Text
  | [] => []
  | line :: rest =>
      let isBlank := line = ['\n']
      if style.isSqueezed && isBlank && isBehindBlank then lines style number true rest
      else
        let isCounted := style.isNumbered && ! (style.skipsBlank && isBlank)
        let lead := if isCounted then numberText number else []
        let isEnded := line.getLast? = some '\n'
        let inner := if isEnded then line.dropLast else line
        let ending := if isEnded then (if style.marksEnds then "$\n".toList else ['\n']) else []
        lead ++ inner.flatMap style.byte ++ ending ++
          lines style (if isCounted then number + 1 else number) isBlank rest

end LineStyle

/-- The lines of a text with their ends. -/
def linesOf : Text → List Text
  | [] => []
  | first :: rest =>
      if first = '\n' then ['\n'] :: linesOf rest
      else
        match linesOf rest with
        | [] => [[first]]
        | line :: lines => (first :: line) :: lines

/-- A name as it is shown in messages: in quotes if a shell would not take it as it is. -/
def shellQuoted (name : Text) : Text :=
  let isSafe (tested : Char) : Bool := tested.isAlphanum || "%+,-./:@_]{}".toList.contains tested ||
    128 ≤ tested.toNat
  if ! name.isEmpty && name.all isSafe then name
  else if name.contains '\'' && ! name.any "\"$\x60\\!".toList.contains then
    ['"'] ++ name ++ ['"']
  else ['\''] ++ Text.replaceChar '\'' "'\\''".toList name ++ ['\'']

/-- The options of long names, by their letters. -/
def longOptions : List (Text × Text) :=
  [("--show-all", "A"), ("--number-nonblank", "b"), ("--show-ends", "E"), ("--number", "n"),
    ("--squeeze-blank", "s"), ("--show-tabs", "T"), ("--show-nonprinting", "v")].map
    fun (name, letter) => (String.toList name, '-' :: String.toList letter)

/-- The content of an operand; a hyphen stands for the input.  Tells of a fault. -/
def operandText (tool operand : Text) : Action Text := do
  if operand = ['-'] then takeInput 0
  else
    match ← fileText operand with
    | .ok content => pure content
    | .error cause => do
        tell (tool ++ ": ".toList ++ shellQuoted operand ++ ": ".toList ++ cause.reason)
        pure []

/-- Print files one after the other. -/
def cat (arguments : List Text) : Action Unit := do
  let (letters, operands) := splitOptions <|
    arguments.map fun argument => (longOptions.lookup argument).getD argument
  let named := if operands.isEmpty then [['-']] else operands
  let unknown? := (arguments.takeWhile (· ≠ ['-', '-'])).find? fun argument =>
    "--".toList.isPrefixOf argument && (longOptions.lookup argument).isNone
  setStatus 0
  match unknown? with
  | some unknown =>
      tellHelp "cat".toList ("unrecognized option '".toList ++ unknown ++ ['\''])
  | none =>
  match letters.find? fun letter => ! LineStyle.letters.contains letter with
  | some letter =>
      tellHelp "cat".toList ("invalid option -- '".toList ++ [letter] ++ ['\''])
  | none =>
      if letters.all (· == 'u') then
        named.forM fun operand => do
          let content ← operandText "cat".toList operand
          print content
      else do
        let contents ← named.mapM (operandText "cat".toList)
        print ((LineStyle.ofLetters letters).lines 1 false (linesOf contents.flatten))

/-! ## Waiting -/

/-- The milliseconds that a text asks to wait. -/
def milliseconds? (content : Text) : Option Nat :=
  let whole := content.takeWhile Char.isDigit
  let behind := content.drop whole.length
  let fraction :=
    match behind with
    | '.' :: digits => digits.takeWhile Char.isDigit
    | _ => []
  let ending :=
    match behind with
    | '.' :: digits => digits.drop fraction.length
    | _ => behind
  let factor? :=
    match ending with
    | [] => some 1
    | ['s'] => some 1
    | ['m'] => some 60
    | ['h'] => some 3600
    | ['d'] => some 86400
    | _ => none
  if whole.isEmpty && fraction.isEmpty then none
  else
    factor?.map fun factor =>
      let thousandths := Text.numberOf 10 ((fraction ++ "000".toList).take 3)
      (Text.numberOf 10 whole * 1000 + thousandths) * factor

def sleep (arguments : List Text) : Action Unit := do
  setStatus 0
  let times := arguments.map fun argument => (argument, milliseconds? argument)
  if arguments.isEmpty then tellHelp "sleep".toList "missing operand".toList
  else if times.all (·.2.isSome) then pass ((times.filterMap (·.2)).foldl (· + ·) 0)
  else do
    (times.filter (·.2.isNone)).forM fun (argument, _) =>
      tell ("sleep: invalid time interval ".toList ++ quoted argument)
    tell "Try 'sleep --help' for more information.".toList

/-! ## Parts of texts -/

/-- How many lines or bytes are wanted, and the operands. -/
def headOptions : List Text → (isBytes : Bool) → (count : Nat) → Bool × Nat × List Text
  | ['-', 'n'] :: number :: rest, _, _ => headOptions rest false (Text.numberOf 10 number)
  | ['-', 'c'] :: number :: rest, _, _ => headOptions rest true (Text.numberOf 10 number)
  | ('-' :: 'n' :: number) :: rest, _, _ => headOptions rest false (Text.numberOf 10 number)
  | ('-' :: 'c' :: number) :: rest, _, _ => headOptions rest true (Text.numberOf 10 number)
  | ('-' :: digit :: digits) :: rest, isBytes, count =>
      if digit.isDigit then headOptions rest false (Text.numberOf 10 (digit :: digits))
      else headOptions rest isBytes count
  | operand :: rest, isBytes, count =>
      let (bytes, wanted, operands) := headOptions rest isBytes count
      (bytes, wanted, operand :: operands)
  | [], isBytes, count => (isBytes, count, [])

/-- Print the first lines or bytes. -/
def head (arguments : List Text) : Action Unit := do
  let (isBytes, count, operands) := headOptions arguments false 10
  setStatus 0
  let named := if operands.isEmpty then [['-']] else operands
  named.forM fun operand => do
    if isBytes && operand = ['-'] then do
      let content ← input 0
      consume 0 (min count content.length)
      print (content.take count)
    else do
      let content ← operandText "head".toList operand
      print (if isBytes then content.take count else ((linesOf content).take count).flatten)

/-- Print the last lines or bytes. -/
def tail (arguments : List Text) : Action Unit := do
  let (isBytes, count, operands) := headOptions arguments false 10
  setStatus 0
  let named := if operands.isEmpty then [['-']] else operands
  let last (size : Nat) : Nat := size - count
  named.forM fun operand => do
    let content ← operandText "tail".toList operand
    let lines := linesOf content
    print <|
      if isBytes then content.drop (last content.length)
      else (lines.drop (last lines.length)).flatten

def wordCount (arguments : List Text) : Action Unit := do
  let (letters, operands) := splitOptions arguments
  setStatus 0
  let counted := if letters.isEmpty then "lwc".toList else "lwmc".toList.filter letters.contains
  let countsOf (content : Text) : List Nat :=
    counted.map fun letter =>
      if letter = 'l' then content.countP (· == '\n')
      else if letter = 'w' then (Text.words content).length
      else if letter = 'm' then (toText content).length
      else content.length
  let shown (width : Nat) (counts : List Nat) (name : Text) : Text :=
    let columns := counts.map fun count =>
      let digits := Text.ofNat count
      List.replicate (width - digits.length) ' ' ++ digits
    spaced columns ++ (if name.isEmpty then [] else ' ' :: name) ++ ['\n']
  if operands.isEmpty then do
    let content ← takeInput 0
    print (shown (if counted.length = 1 then 0 else 7) (countsOf content) [])
  else do
    let contents ← operands.mapM (operandText "wc".toList)
    let width := if counted.length = 1 then 0 else (Text.ofNat contents.flatten.length).length
    (operands.zip contents).forM fun (operand, content) =>
      print (shown width (countsOf content) operand)

/-! ## Replacing bytes -/

/-- The bytes of a set: single ones, ranges, classes and escapes. -/
def setBytes : (fuel : Nat) → Text → Text
  | 0, _ => []
  | fuel + 1, content =>
      match Pattern.class? content with
      | some (ranges, length) =>
          ranges.flatMap (fun (first, last) =>
            (List.range (last.toNat + 1 - first.toNat)).map fun offset =>
              Char.ofNat (first.toNat + offset)) ++ setBytes fuel (content.drop length)
      | none =>
          match content with
          | [] => []
          | '\\' :: letter :: rest =>
              let (shown, _) := unescape .ofFormat 0 ['\\', letter]
              (if shown.length = 1 then shown else [letter]) ++ setBytes fuel rest
          | first :: '-' :: last :: rest =>
              (List.range (last.toNat + 1 - first.toNat)).map (fun offset =>
                Char.ofNat (first.toNat + offset)) ++ setBytes fuel rest
          | first :: rest => first :: setBytes fuel rest

/-- Make one byte of each run of equal bytes that belong to a set. -/
def squeeze (isMember : Char → Bool) : Text → Text
  | first :: second :: rest =>
      if first = second && isMember first then squeeze isMember (second :: rest)
      else first :: squeeze isMember (second :: rest)
  | content => content

/-- Replace, drop or squeeze bytes. -/
def exchange (arguments : List Text) : Action Unit := do
  let (letters, operands) := splitOptions arguments
  setStatus 0
  let content ← takeInput 0
  let sets := operands.map fun operand => setBytes (operand.length + 1) operand
  let isNegated := letters.contains 'c' || letters.contains 'C'
  let first := sets.headD []
  let second := (sets.drop 1).headD []
  let isFirst (tested : Char) : Bool := first.contains tested != isNegated
  let replaced (tested : Char) : Char :=
    if isNegated then second.getLast?.getD tested
    else second.getD (first.idxOf tested) (second.getLast?.getD tested)
  let exchanged :=
    if letters.contains 'd' then content.filter fun tested => ! isFirst tested
    else if second.isEmpty then content
    else content.map fun tested => if isFirst tested then replaced tested else tested
  let isSqueezed (tested : Char) : Bool :=
    if second.isEmpty then isFirst tested else second.contains tested
  print (if letters.contains 's' then squeeze isSqueezed exchanged else exchanged)

/-! ## Numbers and names -/

/-- Count from one number to another one. -/
def sequence (arguments : List Text) : Action Unit := do
  let numbers := arguments.map fun argument => ((signedInteger? argument).map (·.1)).getD 0
  let (first, step, last) :=
    match numbers with
    | [last] => (1, 1, last)
    | [first, last] => (first, 1, last)
    | first :: step :: last :: _ => (first, step, last)
    | [] => (1, 1, 0)
  setStatus 0
  let count :=
    if step = 0 then 0
    else if 0 < step then (Int.fdiv (last - first) step + 1).toNat
    else (Int.fdiv (first - last) (-step) + 1).toNat
  print <| (List.range (min count 1000000)).flatMap fun (offset : Nat) =>
    Text.ofInt (first + offset * step) ++ ['\n']

/-- Print the values of variables that programs are told of. -/
def printEnvironment (arguments : List Text) : Action Unit := do
  let known := exported (← frame)
  setStatus 0
  if arguments.isEmpty then
    known.forM fun found => print (found.name ++ ['='] ++ found.value.getD [] ++ ['\n'])
  else
    arguments.forM fun name => do
      match findVariable? known name with
      | some found => print (found.value.getD [] ++ ['\n'])
      | none => setStatus 1

/-- Print the last step of a path, without an ending. -/
def baseName (arguments : List Text) : Action Unit := do
  let path := Path.ofText (arguments.headD [])
  let name := if path.steps.isEmpty then path.text else path.name
  let ending := (arguments.drop 1).headD []
  let isCut := ! ending.isEmpty && name ≠ ending && ending.reverse.isPrefixOf name.reverse
  setStatus 0
  print ((if isCut then name.take (name.length - ending.length) else name) ++ ['\n'])

/-- Print a path without its last step. -/
def directoryName (arguments : List Text) : Action Unit := do
  setStatus 0
  print ((Path.ofText (arguments.headD [])).parent.text ++ ['\n'])

/-! ## Files -/

def makeDirectories (arguments : List Text) : Action Unit := do
  let (letters, operands) := splitOptions arguments
  setStatus 0
  operands.forM fun operand => do
    let site := (← world).site
    let located ← locate operand
    let refuse (cause : SystemFault) : Action Unit :=
      tell ("mkdir: cannot create directory ".toList ++ quoted operand ++ ": ".toList ++
        cause.reason)
    match located with
    | .error cause => refuse cause
    | .ok place =>
        if site.holds place then
          if letters.contains 'p' && site.isDirectory place then pure () else refuse .exists
        else
          modifyWorld fun world =>
            { world with site := { site with directories := site.directories ++ [place] } }

/-- Remove files, and directories too if an option asks for it. -/
def remove (arguments : List Text) : Action Unit := do
  let (letters, operands) := splitOptions arguments
  setStatus 0
  operands.forM fun operand => do
    let site := (← world).site
    let located ← locate operand
    let refuse (cause : SystemFault) : Action Unit :=
      if letters.contains 'f' && cause = .missing then pure ()
      else tell ("rm: cannot remove ".toList ++ quoted operand ++ ": ".toList ++ cause.reason)
    match located with
    | .error cause => refuse cause
    | .ok place =>
        let isBelow (other : Place) : Bool := (Path.behind? place other).isSome
        if site.isDirectory place then
          if letters.contains 'r' || letters.contains 'R' then
            modifyWorld ({ · with
              site := { site with
                directories := site.directories.filter fun other => ! isBelow other
                files := site.files.filter fun (other, _) => ! isBelow other } })
          else refuse .isDirectory
        else if site.isFile place then
          modifyWorld ({ · with
            site := { site with files := site.files.filter fun (other, _) => other ≠ place } })
        else refuse .missing

/-- Make files that are missing. -/
def touch (arguments : List Text) : Action Unit := do
  let (_, operands) := splitOptions arguments
  setStatus 0
  operands.forM fun operand => do
    let site := (← world).site
    match ← locate operand with
    | .error cause =>
        tell ("touch: cannot touch ".toList ++ quoted operand ++ ": ".toList ++ cause.reason)
    | .ok place =>
        if site.holds place then pure ()
        else modifyWorld ({ · with site := site.setFile place [] })

/-! ## All tools -/

/-- The tools by name, as functions of their arguments. -/
def known : List (String × (List Text → Action Unit)) :=
  [ ("cat", cat),
    ("echo", fun arguments => take "echo".toList (echoTool arguments)),
    ("false", fun _ => setStatus 1),
    ("true", fun _ => setStatus 0),
    ("sleep", sleep),
    ("printf", fun arguments =>
      take "printf".toList (printf .ofToolFormat .ofToolArgument arguments)),
    ("printenv", printEnvironment),
    ("head", head),
    ("tail", tail),
    ("wc", wordCount),
    ("tr", exchange),
    ("seq", sequence),
    ("basename", baseName),
    ("dirname", directoryName),
    ("mkdir", makeDirectories),
    ("rm", remove),
    ("touch", touch)]

/-- The name of the tool at a path. -/
def nameAt? (origin : Place) (path : Text) : Option Text :=
  let place := (Path.ofText path).place origin
  if toolPlaces.contains place.dropLast then place.getLast? else none

/-- Whether a list of directories, as a variable names it, leads to the tools. -/
def isListed (origin : Place) (listed : Text) : Bool :=
  (Text.splitOn ':' listed).any fun directory =>
    toolPlaces.contains ((Path.ofText directory).place origin)

end Tool

end EmbedScaffold.Shell
