import EmbedScaffold.Shell.Comparison
import EmbedScaffold.Shell.Expansion
import EmbedScaffold.Shell.Format

/-!
# The commands of the shell

The commands that a shell carries out itself, apart from those that run scripts.
-/

namespace EmbedScaffold.Shell

namespace Builtin

open EmbedScaffold.Shell.Action

/-- Complain and set the status. -/
def refuse (status : Nat) (reason : Text) : Action Unit := do
  complain reason
  setStatus status

/-- The number that decimal digits stand for. -/
def number? (content : Text) : Option Nat :=
  parameterNumber? content

/-- End the script because of a text that is no number. -/
def faultNumber {α : Type} (content : Text) : Action α :=
  fault ("Illegal number: ".toList ++ content)

/-- Take what a command has printed. -/
def take (name : String) (printed : Printed) : Action Unit := do
  let isClosed := ((← frame).channels.lookup 1).isNone
  write 1 printed.output
  printed.complaints.forM complain
  if isClosed && ! printed.output.isEmpty then refuse 1 (name.toList ++ ": I/O error".toList)
  else setStatus printed.status

def quoted (content : Text) : Text :=
  ['\''] ++ Text.replaceChar '\'' "'\"'\"'".toList content ++ ['\'']

/-! ## Signals -/

/-- The names of the signals from the first one on. -/
def signalNames : List Text :=
  ["HUP", "INT", "QUIT", "ILL", "TRAP", "ABRT", "BUS", "FPE", "KILL", "USR1", "SEGV", "USR2",
    "PIPE", "ALRM", "TERM", "STKFLT", "CHLD", "CONT", "STOP", "TSTP", "TTIN", "TTOU", "URG",
    "XCPU", "XFSZ", "VTALRM", "PROF", "WINCH", "IO", "PWR", "SYS"].map String.toList

/-- What is told of a command that a signal has ended. -/
def signalReports : List (Nat × Text) :=
  [(1, "Hangup"), (3, "Quit"), (4, "Illegal instruction"), (5, "Trace/breakpoint trap"),
    (6, "Aborted"), (7, "Bus error"), (8, "Floating point exception"), (9, "Killed"),
    (10, "User defined signal 1"), (11, "Segmentation fault"), (12, "User defined signal 2"),
    (14, "Alarm clock"), (15, "Terminated"), (16, "Stack fault"), (24, "CPU time limit exceeded"),
    (25, "File size limit exceeded"), (26, "Virtual timer expired"),
    (27, "Profiling timer expired"), (29, "I/O possible"), (30, "Power failure"),
    (31, "Bad system call")].map fun (number, report) => (number, String.toList report)

/-- The signals that end no process unless it asks for it. -/
def harmlessSignals : List Nat :=
  [17, 18, 23, 28]

def stopSignals : List Nat :=
  [19, 20, 21, 22]

/-- The number of the signal that a text names. -/
def signal? (content : Text) : Option Nat :=
  match number? content with
  | some number => if number ≤ 64 then some number else none
  | none =>
      let name := content.map Char.toUpper
      if name = "EXIT".toList then some 0 else (signalNames.idxOf? name).map (· + 1)

/-- The name under which what happens at a signal is kept. -/
def trapName (number : Nat) : Text :=
  if number = 0 then "EXIT".toList else (signalNames[number - 1]?).getD (Text.ofNat number)

/-- Say what happens at signals; nothing is to happen any more without an action. -/
def trapAll (action : Option Text) : List Text → Action Unit
  | [] => pure ()
  | name :: names => do
      match signal? name with
      | none => do
          write 2 ("trap: ".toList ++ name ++ ": bad trap\n".toList)
          setStatus 1
      | some number => do
          modifyFrame fun frame =>
            let others := frame.traps.filter fun (known, _) => known ≠ trapName number
            let added := action.toList.map (trapName number, ·)
            { frame with traps := others ++ added }
          trapAll action names

/-- Say what happens at signals, or show it. -/
def trap (arguments : List Text) : Action Unit := do
  setStatus 0
  let operands := match arguments with
    | ['-', '-'] :: rest => rest
    | rest => rest
  match operands with
  | [] => do
      let known := (← frame).traps
      (List.range 65).forM fun number =>
        match known.lookup (trapName number) with
        | some action =>
            write 1 ("trap -- ".toList ++ quoted action ++ [' '] ++ trapName number ++ ['\n'])
        | none => pure ()
  | action :: names =>
      if names.isEmpty || (number? action).isSome then trapAll none operands
      else trapAll (if action = ['-'] then none else some action) names

def send (signal number : Nat) : Action Unit := do
  let known ← world
  if number = (← frame).number then
    modifyWorld fun world => { world with signals := world.signals ++ [(number, signal)] }
  else if known.backgrounds.any (·.number = number) then
    if signal = 0 then pure ()
    else
      modifyWorld fun world =>
        { world with
          backgrounds := world.backgrounds.filter (·.number ≠ number)
          finished := world.finished ++ [⟨number, 128 + signal, world.clock⟩] }
  else
    match known.finished.find? fun finished =>
        finished.number = number && known.clock < finished.clock with
    | some running =>
        if signal = 0 then pure ()
        else
          modifyWorld fun world =>
            { world with
              finished := ⟨running.number, 128 + signal, world.clock⟩ ::
                world.finished.filter (·.number ≠ number) }
    | none => refuse 1 "No such process\n".toList

/-- How processes are sent signals. -/
def killUsage : Text :=
  "Usage: kill [-s sigspec | -signum | -sigspec] [pid | job]... or\nkill -l [exitstatus]".toList

/-- Send signals to processes. -/
def kill (arguments : List Text) : Action Unit := do
  setStatus 0
  match arguments with
  | [['-', 'l']] => write 1 (signalNames.flatMap (· ++ ['\n']))
  | ['-', 'l'] :: status :: _ =>
      match number? status with
      | some number => write 1 (trapName (if 128 < number then number - 128 else number) ++ ['\n'])
      | none => refuse 2 ("Illegal number: ".toList ++ status)
  | ['-', 's'] :: name :: numbers =>
      match signal? name with
      | some signal => sendAll signal numbers
      | none => refuse 2 ("invalid signal number or name: ".toList ++ name)
  | ['-', '-'] :: numbers => sendAll 15 numbers
  | ('-' :: name) :: numbers =>
      match signal? name with
      | some signal => sendAll signal numbers
      | none => refuse 2 ("Illegal option -".toList ++ name.take 1)
  | numbers => sendAll 15 numbers
where
  /-- Send a signal to several processes. -/
  sendAll (signal : Nat) (numbers : List Text) : Action Unit :=
    if numbers.isEmpty then refuse 2 killUsage
    else
      numbers.forM fun content => do
        match number? content with
        | some number => send signal number
        | none =>
            if content.head? = some '%' then refuse 2 ("No such job: ".toList ++ content)
            else refuse 2 ("Illegal number: ".toList ++ content)

/-! ## Leaving -/

/-- The status that a command is to leave behind: its argument, or that of the last command. -/
def statusOf (arguments : List Text) : Action Nat := do
  match arguments with
  | [] => pure (← frame).status
  | content :: _ =>
      match number? content with
      | some status => pure status
      | none => faultNumber content

def exit (arguments : List Text) : Action Unit := do
  let status ← statusOf arguments
  throw (.exit status)

def leave (arguments : List Text) : Action Unit := do
  let status ← statusOf arguments
  setStatus status
  throw .leaveFunction

/-- How many loops an argument means. -/
def loopCount (arguments : List Text) : Action Nat := do
  match arguments with
  | [] => pure 1
  | content :: _ =>
      match number? content with
      | some 0 => faultNumber content
      | some count => pure count
      | none => faultNumber content

def leaveLoop (arguments : List Text) : Action Unit := do
  let count ← loopCount arguments
  setStatus 0
  let around := (← frame).loops
  if 0 < around then throw (.leaveLoop (min count around))

/-- Go on with the next round of a loop. -/
def nextRound (arguments : List Text) : Action Unit := do
  let count ← loopCount arguments
  setStatus 0
  let around := (← frame).loops
  if 0 < around then throw (.nextRound (min count around))

/-! ## Directories -/

def placeText (place : Place) : Text :=
  ofText (Path.text ⟨['/'], place⟩)

def changeDirectory (arguments : List Text) : Action Unit := do
  let known ← frame
  let operands := arguments.filter fun argument =>
    ! [['-', 'L'], ['-', 'P'], ['-', '-']].contains argument
  let target := match operands with
    | [] => (lookUp known "HOME".toList).getD []
    | ['-'] :: _ => (lookUp known "OLDPWD".toList).getD []
    | operand :: _ => operand
  let located ← locate target
  let site := (← world).site
  match located with
  | .ok place =>
      if site.isDirectory place then do
        assign "OLDPWD".toList (placeText known.directory)
        assign "PWD".toList (placeText place)
        modifyFrame ({ · with directory := place })
        setStatus 0
        if operands.head? = some ['-'] then write 1 (placeText place ++ ['\n'])
      else refuse 2 ("can't cd to ".toList ++ target)
  | .error _ => refuse 2 ("can't cd to ".toList ++ target)

def printDirectory (_ : List Text) : Action Unit := do
  write 1 (placeText (← frame).directory ++ ['\n'])
  setStatus 0

/-! ## Variables -/

def checkName (name : Text) : Action Unit :=
  if isName name then pure () else fault (name ++ ": bad variable name".toList)

/-- The name and the value of an argument. -/
def splitArgument (argument : Text) : Text × Option Text :=
  let name := argument.takeWhile (· ≠ '=')
  (name, (argument.drop name.length).tail?)

/-- Set variables and mark them. -/
def markAll (command : String) (mark : Variable → Variable) (arguments : List Text) :
    Action Unit := do
  setStatus 0
  let operands := arguments.filter fun argument => ! [['-', 'p'], ['-', '-']].contains argument
  if operands.isEmpty then
    (← frame).bindings.forM fun known => do
      if (mark { name := [], value := none }).isExported && known.isExported ||
          (mark { name := [], value := none }).isReadOnly && known.isReadOnly then
        let value := (known.value.map fun value => '=' :: quoted value).getD []
        write 1 (command.toList ++ [' '] ++ known.name ++ value ++ ['\n'])
  else
    operands.forM fun argument => do
      let (name, value) := splitArgument argument
      checkName name
      match value with
      | some value => assign name value
      | none => pure ()
      modifyFrame fun frame =>
        let known := (findVariable? frame.bindings name).getD { name, value := none }
        { frame with bindings := storeVariable frame.bindings (mark known) }

/-- Tell programs of variables. -/
def exportAll (arguments : List Text) : Action Unit :=
  markAll "export" ({ · with isExported := true }) arguments

/-- Keep variables from being set. -/
def protectAll (arguments : List Text) : Action Unit :=
  markAll "readonly" ({ · with isReadOnly := true }) arguments

/-- Forget variables or functions. -/
def unsetAll (arguments : List Text) : Action Unit := do
  setStatus 0
  let isFunction := arguments.head? = some ['-', 'f']
  let operands := arguments.filter fun argument => ! [['-', 'f'], ['-', 'v']].contains argument
  operands.forM fun name => do
    if isFunction then
      modifyFrame fun frame =>
        { frame with functions := frame.functions.filter fun (known, _) => known ≠ name }
    else do
      checkName name
      match findVariable? (← frame).bindings name with
      | some known =>
          if known.isReadOnly then fault (name ++ ": is read only".toList)
          else
            modifyFrame fun frame =>
              { frame with bindings := frame.bindings.filter (·.name ≠ name) }
      | none => pure ()

/-- Hide variables while a function runs. -/
def localAll (arguments : List Text) : Action Unit := do
  setStatus 0
  match (← frame).hidden with
  | [] => fault "not in a function".toList
  | _ :: _ =>
      arguments.forM fun argument => do
        let (name, value) := splitArgument argument
        checkName name
        modifyFrame fun frame =>
          match frame.hidden with
          | inner :: outer =>
              if inner.any (·.1 = name) then frame
              else
                let old := findVariable? frame.bindings name
                { frame with hidden := ((name, old) :: inner) :: outer }
          | [] => frame
        match value with
        | some value => assign name value
        | none => pure ()

def shift (arguments : List Text) : Action Unit := do
  let count ← match arguments with
    | [] => pure 1
    | content :: _ =>
        match number? content with
        | some count => pure count
        | none => faultNumber content
  if (← frame).parameters.length < count then fault "can't shift that many".toList
  else do
    modifyFrame fun frame => { frame with parameters := frame.parameters.drop count }
    setStatus 0

def optionNames : List (Text × Char) :=
  [("errexit", 'e'), ("noglob", 'f'), ("ignoreeof", 'I'), ("interactive", 'i'), ("monitor", 'm'),
    ("noexec", 'n'), ("stdin", 's'), ("xtrace", 'x'), ("verbose", 'v'), ("vi", 'V'),
    ("emacs", 'E'), ("noclobber", 'C'), ("allexport", 'a'), ("notify", 'b'), ("nounset", 'u')].map
    fun (name, letter) => (String.toList name, letter)

/-- Set or clear an option of the shell. -/
def setOption (isSet : Bool) (letter : Char) : Action Unit :=
  modifyFrame fun frame =>
    let others := frame.flags.filter (· ≠ letter)
    { frame with flags := if isSet then others ++ [letter] else others }

/-- Show which options are set, or how they would be set. -/
def showOptions (isTable : Bool) : Action Unit := do
  let flags := (← frame).flags
  if isTable then write 1 "Current option settings\n".toList
  (optionNames ++ [("privileged".toList, 'p'), ("nolog".toList, '-'), ("debug".toList, '-')]).forM
    fun (name, letter) =>
      let isSet := flags.contains letter
      if isTable then
        let filler := List.replicate (16 - name.length) ' '
        write 1 (name ++ filler ++ (if isSet then "on\n" else "off\n").toList)
      else write 1 ((if isSet then "set -o " else "set +o ").toList ++ name ++ ['\n'])

/-- Set the options that an argument of letters names; the letter `o` takes the next argument. -/
def setOptions (isSet : Bool) : (letters : Text) → List Text → Action (List Text)
  | [], rest => pure rest
  | ['o'], [] => do
      showOptions isSet
      pure []
  | 'o' :: letters, name :: rest =>
      match optionNames.lookup name with
      | some letter => do
          setOption isSet letter
          setOptions isSet letters rest
      | none => fault ("Illegal option -o ".toList ++ name)
  | letter :: letters, rest =>
      if optionNames.any (·.2 = letter) then do
        setOption isSet letter
        setOptions isSet letters rest
      else fault ("Illegal option -".toList ++ [letter])

/-- Set the options among words, which are nothing else. -/
def setFlags : (fuel : Nat) → List Text → Action Unit
  | 0, _ => pure ()
  | fuel + 1, words => do
      match words with
      | (sign :: letters) :: rest => do
          let behind ← setOptions (sign = '-') letters rest
          setFlags fuel behind
      | _ => pure ()

def setAll : (fuel : Nat) → List Text → Action Unit
  | 0, _ => pure ()
  | fuel + 1, arguments => do
      setStatus 0
      match arguments with
      | [] => pure ()
      | ['-', '-'] :: rest => modifyFrame ({ · with parameters := rest })
      | ['-'] :: rest =>
          if rest.isEmpty then pure () else modifyFrame ({ · with parameters := rest })
      | ('-' :: letters) :: rest => do
          let behind ← setOptions true letters rest
          setAll fuel behind
      | ('+' :: letters) :: rest => do
          let behind ← setOptions false letters rest
          setAll fuel behind
      | rest => modifyFrame ({ · with parameters := rest })

/-- Show the variables, or set options and parameters. -/
def set (arguments : List Text) : Action Unit := do
  if arguments.isEmpty then do
    setStatus 0
    let known := (← frame).bindings.mergeSort fun first second =>
      Glob.textIsAtMost first.name second.name
    known.forM fun found =>
      match found.value with
      | some value => write 1 (found.name ++ ['='] ++ quoted value ++ ['\n'])
      | none => pure ()
  else setAll (arguments.length + 1) arguments

/-! ## Reading lines -/

/-- The glyphs of the line at the front of a text, the number of bytes it takes, and whether it is
ended.  A backslash takes the meaning from the next byte, and joins lines. -/
def lineGlyphs (isRaw : Bool) : Text → List Glyph × Nat × Bool
  | [] => ([], 0, false)
  | '\n' :: _ => ([], 1, true)
  | '\\' :: next :: rest =>
      if isRaw then
        let (glyphs, count, isEnded) := lineGlyphs isRaw (next :: rest)
        (⟨'\\', false, true⟩ :: glyphs, count + 1, isEnded)
      else
        let (glyphs, count, isEnded) := lineGlyphs isRaw rest
        (if next = '\n' then glyphs else ⟨next, true, true⟩ :: glyphs, count + 2, isEnded)
  | next :: rest =>
      let (glyphs, count, isEnded) := lineGlyphs isRaw rest
      (⟨next, false, true⟩ :: glyphs, count + 1, isEnded)
termination_by content => content.length

/-- Whether a glyph separates words of a line. -/
def separates (known : Text) (glyph : Glyph) : Bool :=
  ! glyph.isQuoted && known.contains glyph.shown

/-- Whether a glyph is a blank that separates words. -/
def isBlankBetween (known : Text) (glyph : Glyph) : Bool :=
  separates known glyph && standardSeparators.contains glyph.shown

/-- Share out the words of a line: the last of the names gets all that is left. -/
def shareOut (known : Text) (glyphs : List Glyph) : (names : List Text) → List (Text × Text)
  | [] => []
  | [name] =>
      let content := glyphs.dropWhile (isBlankBetween known)
      [(name, Glyph.text (content.reverse.dropWhile (isBlankBetween known)).reverse)]
  | name :: names =>
      let content := glyphs.dropWhile (isBlankBetween known)
      let word := content.takeWhile fun glyph => ! separates known glyph
      let behind := (content.drop word.length).dropWhile (isBlankBetween known)
      let isBehindBlank := (content.drop word.length).head?.any (isBlankBetween known)
      let rest :=
        match behind with
        | glyph :: others => if separates known glyph then others else behind
        | [] => []
      let rest := if isBehindBlank || ! behind.isEmpty then rest else []
      (name, Glyph.text word) :: shareOut known rest names

/-- Take a line off the input and put its words into variables. -/
def readLine (arguments : List Text) : Action Unit := do
  let isRaw := arguments.any fun argument => argument.head? = some '-' && argument.contains 'r'
  let names := operandsOf arguments
  match names with
  | [] => refuse 2 "arg count".toList
  | _ => do
      let content ← input 0
      let (glyphs, count, isEnded) := lineGlyphs isRaw content
      consume 0 count
      let known ← frame
      (shareOut (separators known) glyphs names).forM fun (name, value) =>
        if isName name then assign name value
        else fault (name ++ ": bad variable name".toList)
      setStatus (if isEnded then 0 else 1)
where
  /-- The arguments behind the options. -/
  operandsOf : List Text → List Text
    | ['-', 'p'] :: _ :: rest => operandsOf rest
    | ['-', '-'] :: rest => rest
    | ('-' :: _ :: _) :: rest => operandsOf rest
    | rest => rest

/-! ## Options of scripts -/

/-- What comes of looking for the next option: its letter, its argument, a complaint, and where the
next option is to be looked for. -/
structure OptionStep where
  letter : Text
  argument : Option Text
  complaint : Option Text
  index : Nat
  offset : Nat

/-- Look for the next option among words: the word with the number `index`, behind `offset` of its
letters. -/
def nextOption? (known : Text) (words : List Text) (index offset : Nat) : Option OptionStep :=
  match words[index - 1]? with
  | some ('-' :: letters) =>
      if letters.isEmpty || letters = ['-'] then none
      else
        match letters.drop offset with
        | [] => none
        | letter :: rest =>
            let isSilent := known.head? = some ':'
            let behind := (known.dropWhile (· ≠ letter)).drop 1
            let (nextIndex, nextOffset) :=
              if rest.isEmpty then (index + 1, 0) else (index, offset + 1)
            if letter = ':' || ! known.contains letter then
              some {
                letter := ['?']
                argument := if isSilent then some [letter] else none
                complaint := if isSilent then none else some ("Illegal option -".toList ++ [letter])
                index := nextIndex
                offset := nextOffset }
            else if behind.head? = some ':' then
              if ! rest.isEmpty then some ⟨[letter], some rest, none, index + 1, 0⟩
              else
                match words[index]? with
                | some argument => some ⟨[letter], some argument, none, index + 2, 0⟩
                | none =>
                    some {
                      letter := if isSilent then [':'] else ['?']
                      argument := if isSilent then some [letter] else none
                      complaint :=
                        if isSilent then none
                        else some ("No arg for -".toList ++ [letter] ++ " option".toList)
                      index := index + 1
                      offset := 0 }
            else some ⟨[letter], none, none, nextIndex, nextOffset⟩
  | _ => none

/-- Put the next option of the parameters into a variable. -/
def getOption (arguments : List Text) : Action Unit := do
  match arguments with
  | options :: name :: given => do
      let known ← frame
      let words := if given.isEmpty then known.parameters else given
      let index := (((lookUp known "OPTIND".toList).bind number?).getD 1)
      let offset := if known.optionPlace.1 = index then known.optionPlace.2 else 0
      match nextOption? options words index offset with
      | some found => do
          match found.complaint with
          | some complaint => write 2 (complaint ++ ['\n'])
          | none => pure ()
          match found.argument with
          | some argument => assign "OPTARG".toList argument
          | none =>
              modifyFrame fun frame =>
                { frame with bindings := frame.bindings.filter (·.name ≠ "OPTARG".toList) }
          assign "OPTIND".toList (Text.ofNat found.index)
          modifyFrame ({ · with optionPlace := (found.index, found.offset) })
          assign name found.letter
          setStatus 0
      | none => do
          let isEnd := words[index - 1]? = some "--".toList
          assign "OPTIND".toList (Text.ofNat (if isEnd then index + 1 else index))
          assign name ['?']
          setStatus 1
  | _ => refuse 2 "Usage: getopts optstring var [arg]".toList

/-! ## Conditions -/

def test (arguments : List Text) : Action Unit := do
  let state ← get
  let question (letter : Char) (operand : Text) : Bool :=
    let (located, _) := (locate operand).run.run state
    match located with
    | .ok (.ok place) =>
        let site := state.world.site
        if letter = 'd' then site.isDirectory place
        else if letter = 'f' then site.isFile place
        else if letter = 's' then
          site.isDirectory place || ((site.file? place).any fun bytes => ! bytes.isEmpty)
        else if "erwOG".toList.contains letter then site.holds place || operand = emptyFile
        else if letter = 'x' then
          site.isDirectory place || (site.isFile place && Action.toolPlaces.contains place.dropLast)
        else if letter = 'c' then operand = emptyFile
        else false
    | _ => "erwc".toList.contains letter && operand = emptyFile
  match Comparison.answer question arguments with
  | .ok holds => setStatus (if holds then 0 else 1)
  | .error cause => refuse 2 cause.reason

def bracket (arguments : List Text) : Action Unit :=
  if arguments.getLast? = some [']'] then test arguments.dropLast
  else refuse 2 "missing ]".toList

/-! ## All commands -/

/-- The commands by name, as functions of their arguments. -/
def known : List (String × (List Text → Action Unit)) :=
  [ (":", fun _ => setStatus 0),
    ("true", fun _ => setStatus 0),
    ("false", fun _ => setStatus 1),
    ("echo", fun arguments => take "echo" (echo arguments)),
    ("printf", fun arguments => take "printf" (printf .ofFormat .ofArgument arguments)),
    ("trap", trap),
    ("kill", kill),
    ("exit", exit),
    ("return", leave),
    ("break", leaveLoop),
    ("continue", nextRound),
    ("cd", changeDirectory),
    ("chdir", changeDirectory),
    ("pwd", printDirectory),
    ("export", exportAll),
    ("readonly", protectAll),
    ("unset", unsetAll),
    ("local", localAll),
    ("shift", shift),
    ("set", set),
    ("read", readLine),
    ("getopts", getOption),
    ("test", test),
    ("[", bracket),
    ("umask", fun _ => do
      write 1 "0022\n".toList
      setStatus 0),
    ("times", fun _ => do
      write 1 "0m0.000000s 0m0.000000s\n0m0.000000s 0m0.000000s\n".toList
      setStatus 0),
    ("hash", fun _ => setStatus 0),
    ("jobs", fun _ => setStatus 0),
    ("alias", fun _ => setStatus 0),
    ("unalias", fun _ => setStatus 0),
    ("fg", fun _ => refuse 2 "No current job".toList),
    ("bg", fun _ => refuse 2 "No current job".toList),
    ("ulimit", fun _ => do
      write 1 "unlimited\n".toList
      setStatus 0)]

/-- The names of the commands that run scripts. -/
def scriptCommands : List Text :=
  ["eval", ".", "command", "exec", "wait", "type"].map String.toList

/-- Whether a name is a command of the shell. -/
def isKnown (name : Text) : Bool :=
  known.any (·.1 = String.ofList name) || scriptCommands.contains name

end Builtin

end EmbedScaffold.Shell
