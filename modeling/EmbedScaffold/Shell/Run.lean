import EmbedScaffold.Shell.Builtin
import EmbedScaffold.Shell.Tool

/-!
# Running scripts

`Shell.run` carries out a script.  What runs apart gets a copy of the frame and ends with a status
or by a signal.  Everything is bounded by an amount of fuel; a script that uses it up does not come
to an end.
-/

namespace EmbedScaffold.Shell

open EmbedScaffold.Shell.Action

/-! ## Endings -/

inductive Ending where
  | code (status : Nat)
  | killed (signal : Nat)
  deriving DecidableEq

/-- Do something, and something else behind it however it ends. -/
def ensuring {α : Type} (restore : Action Unit) (inner : Action α) : Action α := do
  let result ← tryCatch inner fun stop => do
    restore
    throw stop
  restore
  pure result

/-- How a round of a loop ended. -/
inductive Round where
  | finished
  | cut
  | left
  deriving DecidableEq

def round (inner : Action Unit) : Action Round :=
  tryCatch (do
      inner
      pure .finished)
    fun
    | .leaveLoop count => if count ≤ 1 then pure .left else throw (.leaveLoop (count - 1))
    | .nextRound count => if count ≤ 1 then pure .cut else throw (.nextRound (count - 1))
    | stop => throw stop

/-- Do something inside a loop. -/
def inLoop (inner : Action Unit) : Action Unit := do
  let loops := (← frame).loops
  modifyFrame ({ · with loops := loops + 1 })
  ensuring (modifyFrame ({ · with loops })) inner

/-- Tell that a signal has ended a command. -/
def report (signal : Nat) : Action Unit := do
  match Builtin.signalReports.lookup signal with
  | some told => write 2 (told ++ ['\n'])
  | none => pure ()

/-- Take how a shell ended.  One that ended by a signal takes the script with it if nothing else is
to be done; else its end is told. -/
def settle (isFinal : Bool) (ending : Ending) : Action Unit := do
  match ending with
  | .code status => setStatus status
  | .killed signal =>
      if isFinal && (← frame).traps.isEmpty then throw (.signal signal)
      else do
        report signal
        setStatus (128 + signal)

/-! ## Frames -/

/-- The frame of a part of a script that runs apart: only signals that are ignored stay so. -/
def Frame.apart (outer : Frame) : Frame :=
  { outer with
    depth := outer.depth + 1
    traps := outer.traps.filter fun (_, action) => action.isEmpty }

/-- The variables that every shell sets when it starts. -/
def standardVariables : List Variable :=
  [("IFS", standardSeparators), ("OPTIND", ['1']), ("PS1", "# ".toList), ("PS2", "> ".toList),
    ("PS4", "+ ".toList)].map fun (name, value) =>
    { name := String.toList name, value := some value }

/-- The frame of a new shell: it knows what programs are told of. -/
def Frame.fresh (outer : Frame) (name : Text) (number : Nat) : Frame :=
  { name
    number
    directory := outer.directory
    bindings := ((exported outer).filter (·.name ≠ "IFS".toList)) ++ standardVariables
    traps := outer.traps.filter fun (_, action) => action.isEmpty
    channels := outer.channels }

/-! ## Redirections -/

/-- Open a file for a stream, or tell why that is not possible. -/
def openFile (stream : Nat) (opening : Opening) (name : Text) : Action (Option Text) := do
  let refuse (action reason : Text) : Option Text :=
    some (action ++ name ++ ": ".toList ++ reason)
  match namedStream? name with
  | some source => do
      direct stream ((← frame).channels.lookup source)
      pure none
  | none =>
      if name = emptyFile then do
        direct stream (some .nowhere)
        pure none
      else
        match opening with
        | .reading => do
            match ← fileText name with
            | .ok content => do
                let number ← newBuffer content
                direct stream (some (.buffer number))
                pure none
            | .error .isDirectory => do
                direct stream (some .nowhere)
                pure none
            | .error cause =>
                let reason :=
                  if cause = .missing || cause = .notDirectory then "No such file".toList
                  else cause.reason
                pure (refuse "cannot open ".toList reason)
        | _ => do
            match ← locate name with
            | .ok place =>
                let site := (← world).site
                if site.isDirectory place then
                  pure (refuse "cannot create ".toList SystemFault.isDirectory.reason)
                else if opening = .writing && site.isFile place && (← frame).flags.contains 'C' then
                  pure (refuse "cannot create ".toList SystemFault.exists.reason)
                else do
                  if opening = .writing || opening = .replacing || ! site.isFile place then
                    modifyWorld ({ · with site := site.setFile place [] })
                  direct stream (some (.file place))
                  pure none
            | .error cause =>
                let reason :=
                  if cause = .missing || cause = .notDirectory then "Directory nonexistent".toList
                  else cause.reason
                pure (refuse "cannot create ".toList reason)

/-- Let a stream lead to where another one leads, or tell why that is not possible. -/
def duplicate (stream : Nat) (source : Text) : Action (Option Text) := do
  match source with
  | ['-'] => do
      direct stream none
      pure none
  | [digit] =>
      if digit.isDigit then
        match (← frame).channels.lookup (digitOf digit) with
        | some channel => do
            direct stream (some channel)
            pure none
        | none => pure (some (digit :: ": Bad file descriptor".toList))
      else fault "Syntax error: Bad fd number".toList
  | _ => fault "Syntax error: Bad fd number".toList

/-! ## Names of commands -/

inductive Kind where
  | special
  | function (body : Script)
  | builtin
  | tool (name : Text)
  | directory
  | missing

/-- The tool that a name stands for: at a path, or in one of the directories that are searched. -/
def tool? (known : Frame) (name : Text) : Option Text :=
  let found :=
    if name.contains '/' then Tool.nameAt? known.directory name
    else if Tool.isListed known.directory ((lookUp known "PATH".toList).getD []) then some name
    else none
  found.filter fun found =>
    found = "sh".toList || Tool.known.any (·.1 = String.ofList found)

/-- Whether a script goes on behind something wrong with a command. -/
def isForgiven (skipsFunctions : Bool) : Kind → Bool
  | .special => skipsFunctions
  | _ => true

/-- Find out what a name stands for. -/
def kindOf (skipsFunctions : Bool) (name : Text) : Action Kind := do
  let known ← frame
  if specialCommands.contains name then pure .special
  else
    match if skipsFunctions then none else known.functions.lookup name with
    | some body => pure (.function body)
    | none =>
        if Builtin.isKnown name then pure .builtin
        else
          match tool? known name with
          | some found => pure (.tool found)
          | none =>
              match ← locate name with
              | .ok place =>
                  let site := (← world).site
                  pure <|
                    if name.contains '/' && site.holds place then .directory else .missing
              | .error _ => pure .missing

/-- Tell what names stand for. -/
def describe (names : List Text) : Action Unit := do
  setStatus 0
  names.forM fun name => do
    let kind ← kindOf false name
    if reservedWords.contains name then write 1 (name ++ " is a shell keyword\n".toList)
    else
      match kind with
      | .special => write 1 (name ++ " is a special shell builtin\n".toList)
      | .function _ => write 1 (name ++ " is a shell function\n".toList)
      | .builtin => write 1 (name ++ " is a shell builtin\n".toList)
      | .tool found =>
          write 1 (name ++ " is ".toList ++
            (if name.contains '/' then name else "/usr/bin/".toList ++ found) ++ ['\n'])
      | _ => do
          write 1 (name ++ ": not found\n".toList)
          setStatus 127

/-- Show how names would be run. -/
def locateCommands (names : List Text) : Action Unit := do
  setStatus 0
  names.forM fun name => do
    let kind ← kindOf false name
    if reservedWords.contains name then write 1 (name ++ ['\n'])
    else
      match kind with
      | .tool found =>
          write 1 ((if name.contains '/' then name else "/usr/bin/".toList ++ found) ++ ['\n'])
      | .directory => setStatus 127
      | .missing => setStatus 127
      | _ => write 1 (name ++ ['\n'])

/-! ## Running -/

/-- What the words tell that a shell is started with: its options, whether a script is among the
words or comes from the input, and the other words. -/
structure Invocation where
  options : List Text := []
  hasScript : Bool := false
  readsInput : Bool := false
  operands : List Text := []

/-- Read the words that a shell is started with; the first one may be the name of an option. -/
def Invocation.ofWords (isName : Bool) : List Text → Invocation
  | [] => {}
  | word :: rest =>
      if isName then
        let behind := Invocation.ofWords false rest
        { behind with options := word :: behind.options }
      else if word = ['-'] || word = ['-', '-'] then { operands := rest }
      else
        match word with
        | sign :: letters =>
            if (sign = '-' || sign = '+') && ! letters.isEmpty then
              let behind := Invocation.ofWords (letters.contains 'o') rest
              let shown := sign :: letters.filter fun letter => letter ≠ 'c' && letter ≠ 's'
              { behind with
                options := shown :: behind.options
                hasScript := behind.hasScript || letters.contains 'c'
                readsInput := behind.readsInput || letters.contains 's' }
            else { operands := word :: rest }
        | [] => { operands := word :: rest }

/-- Show the words of a command if the shell is to do so. -/
def trace (words : List Text) : Action Unit := do
  let known ← frame
  if known.flags.contains 'x' && ! words.isEmpty then
    write 2 ((lookUp known "PS4".toList).getD [] ++ spaced words ++ ['\n'])

/-- The name and value of the first words that assign, where a command takes assignments. -/
def takesAssignments (word : Word) : Bool :=
  match word with
  | [.plain content false] =>
      ["export", "readonly", "local"].contains (String.ofList content)
  | _ => false

mutual

def outputOf (fuel : Nat) (script : Script) : Action Text :=
  match fuel with
  | 0 => throw .exhausted
  | fuel + 1 => do
      let number ← newBuffer []
      let status := (← frame).status
      let least := (← world).nextNumber
      let ending ← apart fuel (do
        direct 1 (some (.buffer number))
        run fuel false true script)
      runBackgrounds fuel least
      settle false ending
      endBySignals
      modifyFrame fun known => { known with innerStatus := known.status, status }
      pure ((← world).buffers.getD number default).content.toList
termination_by structural fuel

/-- Run something with a copy of the frame, and then what the copy has set for its end. -/
def apart (fuel : Nat) (inner : Action Unit) : Action Ending :=
  match fuel with
  | 0 => throw .exhausted
  | fuel + 1 => do
      let outer ← frame
      modifyFrame Frame.apart
      ensuring (modifyFrame fun _ => outer) (ended fuel inner)
termination_by structural fuel

def ended (fuel : Nat) (inner : Action Unit) : Action Ending :=
  match fuel with
  | 0 => throw .exhausted
  | fuel + 1 => do
      let bounded (action : Action Unit) : Action Ending :=
        tryCatch (do
            action
            pure (.code ((← frame).status % 256)))
          fun
          | .fault => pure (.code 2)
          | .exit status => pure (.code (status % 256))
          | .signal number => pure (.killed number)
          | .timeUp => throw .timeUp
          | .exhausted => throw .exhausted
          | _ => do pure (.code ((← frame).status % 256))
      let ending ← bounded inner
      match ending with
      | .killed number => pure (.killed number)
      | .code status => do
          let known ← frame
          match known.traps.lookup "EXIT".toList with
          | none => pure (.code status)
          | some action => do
              modifyFrame fun known =>
                { known with
                  status
                  traps := known.traps.filter fun (name, _) => name ≠ "EXIT".toList }
              bounded do
                tryCatch (text fuel false action) fun
                  | .leaveFunction => pure ()
                  | stop => throw stop
                throw (.exit status)
termination_by structural fuel

/-- Run the text of a script line by line. -/
def text (fuel : Nat) (isFinal : Bool) (content : Text) : Action Unit :=
  match fuel with
  | 0 => throw .exhausted
  | fuel + 1 => lines fuel isFinal { rest := content }
termination_by structural fuel

/-- Run the lines that a reader has in front of it. -/
def lines (fuel : Nat) (isFinal : Bool) (reader : Reader) : Action Unit :=
  match fuel with
  | 0 => throw .exhausted
  | fuel + 1 => do
      match Reading.line?.run { reader with documents := (← world).documents } with
      | .error cause => do
          modifyFrame ({ · with line := cause.line })
          fault ("Syntax error: ".toList ++ cause.reason)
      | .ok (none, _) => pure ()
      | .ok (some script, behind) => do
          modifyWorld ({ · with documents := behind.documents })
          let isLast := match behind.returned with
            | some .finish => true
            | _ => false
          run fuel false (isFinal && isLast) script
          lines fuel isFinal behind
termination_by structural fuel

/-- Handle the signals that were sent to the shell. -/
def handleSignals (fuel : Nat) : Action Unit :=
  match fuel with
  | 0 => throw .exhausted
  | fuel + 1 => do
      let known ← frame
      if known.depth = 0 then
        let own := (← world).signals.filter (·.1 = known.number)
        if ! own.isEmpty then do
          modifyWorld fun world =>
            { world with signals := world.signals.filter (·.1 ≠ known.number) }
          handleEach fuel (own.map (·.2))
termination_by structural fuel

/-- End the shell at once if a signal was sent to it that it does not handle. -/
def endBySignals : Action Unit := do
  let known ← frame
  if known.depth = 0 then
    let isDeadly (signal : Nat) : Bool :=
      signal ≠ 0 && ! Builtin.harmlessSignals.contains signal &&
        (signal = 9 || (known.traps.lookup (Builtin.trapName signal)).isNone)
    match (← world).signals.find? fun (number, signal) =>
        number = known.number && isDeadly signal with
    | some (_, signal) =>
        throw (if Builtin.stopSignals.contains signal then .exhausted else .signal signal)
    | none => pure ()

/-- Handle signals one after the other. -/
def handleEach (fuel : Nat) (signals : List Nat) : Action Unit :=
  match fuel with
  | 0 => throw .exhausted
  | fuel + 1 => do
      match signals with
      | [] => pure ()
      | signal :: rest => do
          let known ← frame
          match if signal = 9 then none else known.traps.lookup (Builtin.trapName signal) with
          | some action => do
              let status := known.status
              text fuel false action
              setStatus status
          | none =>
              if signal = 0 || Builtin.harmlessSignals.contains signal then pure ()
              else if Builtin.stopSignals.contains signal then throw .exhausted
              else throw (.signal signal)
          handleEach fuel rest
termination_by structural fuel

/-- End the script if a command has failed and the shell is to end then. -/
def checkStatus (fuel : Nat) (isTested : Bool) : Action Unit :=
  match fuel with
  | 0 => throw .exhausted
  | fuel + 1 => do
      handleSignals fuel
      let known ← frame
      if known.status ≠ 0 && known.flags.contains 'e' && ! isTested then throw (.exit known.status)
termination_by structural fuel

/-- Run a script.  A tested one may fail without consequences; behind a final one nothing else is to
be done. -/
def run (fuel : Nat) (isTested isFinal : Bool) (script : Script) : Action Unit :=
  match fuel with
  | 0 => throw .exhausted
  | fuel + 1 => do
      if (← frame).flags.contains 'n' then return
      match script with
      | .nothing => pure ()
      | .simple line assignments words redirections => do
          modifyFrame ({ · with line, innerStatus := 0 })
          simple fuel isTested isFinal assignments words redirections
          checkStatus fuel isTested
      | .redirected line inner redirections => do
          modifyFrame ({ · with line })
          redirected fuel false redirections (run fuel isTested false inner)
      | .subshell inner => do
          let ending ← apart fuel (run fuel isTested true inner)
          settle isFinal ending
          checkStatus fuel isTested
      | .background inner => do
          let number := (← world).nextNumber
          let known ← frame
          let channels := (0, Channel.nowhere) :: known.channels.filter (·.1 ≠ 0)
          modifyWorld fun world =>
            { world with
              nextNumber := number + 1
              backgrounds := world.backgrounds ++
                [⟨number, { known.apart with channels }, inner, world.clock⟩] }
          modifyFrame ({ · with lastBackground := some number, status := 0 })
      | .pipeline commands => do
          let begun := (← world).clock
          pipeline fuel begun begun commands
          checkStatus fuel isTested
      | .negated inner => do
          run fuel true false inner
          let status := (← frame).status
          setStatus (if status = 0 then 1 else 0)
      | .both first second => do
          run fuel true false first
          if (← frame).status = 0 then run fuel isTested isFinal second
      | .either first second => do
          run fuel true false first
          if (← frame).status ≠ 0 then run fuel isTested isFinal second
      | .sequence first second => do
          run fuel isTested false first
          run fuel isTested isFinal second
      | .condition test consequence alternative => do
          run fuel true false test
          if (← frame).status = 0 then run fuel isTested isFinal consequence
          else do
            setStatus 0
            run fuel isTested isFinal alternative
      | .loop untilSuccess test body =>
          inLoop (loop fuel isTested untilSuccess test body 0)
      | .each line name words body => do
          modifyFrame ({ · with line })
          let values ← match words with
            | some words => Expansion.allFields (outputOf fuel) fuel words
            | none => do pure (← frame).parameters
          setStatus 0
          inLoop (each fuel isTested name body values)
      | .choice line subject branches => do
          modifyFrame ({ · with line })
          let content ← Expansion.text (outputOf fuel) fuel subject
          setStatus 0
          choose fuel isTested isFinal content branches
      | .definition name body => do
          modifyFrame fun known =>
            { known with
              functions := (name, body) :: known.functions.filter (·.1 ≠ name)
              status := 0 }
termination_by structural fuel

/-- Run the body of a loop again and again; `status` is that of the last round. -/
def loop (fuel : Nat) (isTested untilSuccess : Bool) (test body : Script) (status : Nat) :
    Action Unit :=
  match fuel with
  | 0 => throw .exhausted
  | fuel + 1 => do
      match ← round (run fuel true false test) with
      | .left => pure ()
      | .cut => loop fuel isTested untilSuccess test body status
      | .finished => do
          let hasSucceeded := (← frame).status == 0
          if hasSucceeded == untilSuccess then setStatus status
          else
            match ← round (run fuel isTested false body) with
            | .left => pure ()
            | _ => do
                let last := (← frame).status
                loop fuel isTested untilSuccess test body last
termination_by structural fuel

/-- Run the body of a loop for values. -/
def each (fuel : Nat) (isTested : Bool) (name : Text) (body : Script) (values : List Text) :
    Action Unit :=
  match fuel with
  | 0 => throw .exhausted
  | fuel + 1 => do
      match values with
      | [] => pure ()
      | value :: rest => do
          assign name value
          match ← round (run fuel isTested false body) with
          | .left => pure ()
          | _ => each fuel isTested name body rest
termination_by structural fuel

/-- Run the first branch with a pattern that matches. -/
def choose (fuel : Nat) (isTested isFinal : Bool) (content : Text)
    (branches : List (List Word × Script)) : Action Unit :=
  match fuel with
  | 0 => throw .exhausted
  | fuel + 1 => do
      match branches with
      | [] => pure ()
      | (patterns, body) :: rest =>
          if ← matchesAny fuel content patterns then run fuel isTested isFinal body
          else choose fuel isTested isFinal content rest
termination_by structural fuel

def matchesAny (fuel : Nat) (content : Text) (patterns : List Word) : Action Bool :=
  match fuel with
  | 0 => throw .exhausted
  | fuel + 1 => do
      match patterns with
      | [] => pure false
      | word :: rest => do
          let wanted ← Expansion.pattern (outputOf fuel) fuel word
          if Pattern.isMatch wanted content then pure true else matchesAny fuel content rest
termination_by structural fuel

/-- Run the commands of a pipeline, each with the output of the one before as its input. All of them
begin at the same time. -/
def pipeline (fuel : Nat) (begun latest : Nat) (commands : List Script) : Action Unit :=
  match fuel with
  | 0 => throw .exhausted
  | fuel + 1 => do
      match commands with
      | [] => pure ()
      | [last] => do
          let ending ← apart fuel (run fuel false true last)
          settle false ending
          modifyWorld fun world => { world with clock := max latest world.clock }
      | first :: rest => do
          let number ← newBuffer []
          let least := (← world).nextNumber
          let ending ← tryCatch
            (apart fuel do
              direct 1 (some (.buffer number))
              run fuel false true first)
            fun
            | .exhausted => pure (.code 0)
            | stop => throw stop
          runBackgrounds fuel least
          match ending with
          | .killed signal => report signal
          | .code _ => pure ()
          let clock := (← world).clock
          modifyWorld ({ · with clock := begun })
          let outer ← frame
          ensuring (modifyFrame fun known => { known with channels := outer.channels }) do
            direct 0 (some (.buffer number))
            pipeline fuel begun (max latest clock) rest
termination_by structural fuel

/-- Open streams one after the other, or tell why one cannot be opened. -/
def openAll (fuel : Nat) (redirections : List Redirection) : Action (Option Text) :=
  match fuel with
  | 0 => throw .exhausted
  | fuel + 1 => do
      match redirections with
      | [] => pure none
      | first :: rest => do
          let refusal ← match first with
            | .file stream opening word => do
                let name ← Expansion.text (outputOf fuel) fuel word
                openFile stream opening name
            | .duplicate stream word => do
                let source ← Expansion.text (outputOf fuel) fuel word
                duplicate stream source
            | .document stream number => do
                let word := (← world).documents.getD number []
                let content ← Expansion.text (outputOf fuel) fuel word
                let buffer ← newBuffer content
                direct stream (some (.buffer buffer))
                pure none
          match refusal with
          | some reason => pure (some reason)
          | none => openAll fuel rest
termination_by structural fuel

/-- Do something with streams that lead elsewhere. -/
def redirected (fuel : Nat) (isSpecial : Bool) (redirections : List Redirection)
    (inner : Action Unit) : Action Unit :=
  match fuel with
  | 0 => throw .exhausted
  | fuel + 1 => do
      let channels := (← frame).channels
      ensuring (modifyFrame ({ · with channels })) do
        match ← openAll fuel redirections with
        | none => inner
        | some reason =>
            if isSpecial then fault reason
            else do
              complain reason
              setStatus 2
termination_by structural fuel

/-- Set variables to the values of words.  Tells what was set. -/
def assignAll (fuel : Nat) (isExported : Bool) (assignments : List (Text × Word)) :
    Action (List Text) :=
  match fuel with
  | 0 => throw .exhausted
  | fuel + 1 => do
      match assignments with
      | [] => pure []
      | (name, word) :: rest => do
          let value ← Expansion.text (outputOf fuel) fuel word
          assign name value
          if isExported then
            modifyFrame fun known =>
              { known with
                bindings := known.bindings.map fun other =>
                  if other.name = name then { other with isExported := true } else other }
          let others ← assignAll fuel isExported rest
          pure ((name ++ ['='] ++ value) :: others)
termination_by structural fuel

/-- The words of a command.  Some commands take assignments, which do not fall apart. -/
def commandWords (fuel : Nat) (words : List Word) : Action (List Text) :=
  match fuel with
  | 0 => throw .exhausted
  | fuel + 1 => do
      match words with
      | [] => pure []
      | first :: rest => do
          let found ← Expansion.fields (outputOf fuel) fuel first
          if takesAssignments first then do
            let others ← declaredWords fuel rest
            pure (found ++ others)
          else do
            let others ← Expansion.allFields (outputOf fuel) fuel rest
            pure (found ++ others)
termination_by structural fuel

/-- The words of a command that takes assignments. -/
def declaredWords (fuel : Nat) (words : List Word) : Action (List Text) :=
  match fuel with
  | 0 => throw .exhausted
  | fuel + 1 => do
      match words with
      | [] => pure []
      | first :: rest => do
          let found ← match assignment? first with
            | some (name, word) => do
                let value ← Expansion.text (outputOf fuel) fuel word
                pure [name ++ ['='] ++ value]
            | none => Expansion.fields (outputOf fuel) fuel first
          let others ← declaredWords fuel rest
          pure (found ++ others)
termination_by structural fuel

/-- Run a simple command. Assignments in front of a command last as long as it runs, except in front
of a special one. -/
def simple (fuel : Nat) (isTested isFinal : Bool) (assignments : List (Text × Word))
    (words : List Word) (redirections : List Redirection) : Action Unit :=
  match fuel with
  | 0 => throw .exhausted
  | fuel + 1 => do
      let found ← commandWords fuel words
      match found with
      | [] => do
          redirected fuel false redirections do
            let assigned ← assignAll fuel false assignments
            trace assigned
            modifyFrame fun known => { known with status := known.innerStatus }
      | name :: arguments => do
          let isSpecial := specialCommands.contains name
          let isLasting := name = "exec".toList && arguments.isEmpty
          let bindings := (← frame).bindings
          let names := assignments.map (·.1)
          let restore : Action Unit :=
            if isSpecial || names.isEmpty then pure ()
            else
              modifyFrame fun known =>
                { known with
                  bindings := known.bindings.filterMap fun other =>
                    if names.contains other.name then findVariable? bindings other.name
                    else some other }
          let carryOut : Action Unit := do
            let assigned ← assignAll fuel (! isSpecial) assignments
            trace (assigned ++ found)
            ensuring restore (invoke fuel false isTested isFinal name arguments)
          if isLasting then do
            match ← openAll fuel redirections with
            | none => setStatus 0
            | some reason => fault reason
          else redirected fuel isSpecial redirections carryOut
termination_by structural fuel

def invoke (fuel : Nat) (skipsFunctions isTested isFinal : Bool) (name : Text)
    (arguments : List Text) : Action Unit :=
  match fuel with
  | 0 => throw .exhausted
  | fuel + 1 => do
      match ← kindOf skipsFunctions name with
      | .function body => callFunction fuel isTested body arguments
      | .tool found => runTool fuel isFinal name found arguments
      | .directory => do
          complain (name ++ ": Permission denied".toList)
          setStatus 126
      | .missing => do
          let reason := if name.isEmpty then ": Permission denied" else ": not found"
          complain (name ++ reason.toList)
          setStatus 127
      | kind => do
          let outer := (← frame).command
          let carried : Action Unit :=
            match Builtin.known.lookup (String.ofList name) with
            | some command => command arguments
            | none => runScriptCommand fuel isTested isFinal name arguments
          if name ≠ "command".toList then modifyFrame ({ · with command := some name })
          ensuring (modifyFrame ({ · with command := outer })) <|
            tryCatch carried fun
              | .fault => if isForgiven skipsFunctions kind then setStatus 2 else throw .fault
              | stop => throw stop
termination_by structural fuel

def runScriptCommand (fuel : Nat) (isTested isFinal : Bool) (name : Text)
    (arguments : List Text) : Action Unit :=
  match fuel with
  | 0 => throw .exhausted
  | fuel + 1 => do
      match String.ofList name with
      | "eval" => do
          let line := (← frame).line
          setStatus 0
          text fuel isFinal (spaced arguments)
          modifyFrame ({ · with line })
      | "." => do
          match arguments with
          | [] => pure ()
          | file :: _ => do
              match ← fileText file with
              | .ok content => do
                  setStatus 0
                  modifyFrame ({ · with command := some file })
                  tryCatch (text fuel false content) fun
                    | .leaveFunction => pure ()
                    | stop => throw stop
              | .error _ =>
                  if file.contains '/' then
                    fault ("cannot open ".toList ++ file ++ ": No such file".toList)
                  else fault (file ++ ": not found".toList)
      | "command" => do
          match arguments with
          | ['-', 'v'] :: names => locateCommands (names.take 1)
          | ['-', 'V'] :: names => describe (names.take 1)
          | ['-', 'p'] :: inner :: rest => invoke fuel true isTested isFinal inner rest
          | ['-', '-'] :: inner :: rest => invoke fuel true isTested isFinal inner rest
          | inner :: rest => invoke fuel true isTested isFinal inner rest
          | [] => setStatus 0
      | "type" => describe arguments
      | "exec" => do
          match arguments with
          | [] => setStatus 0
          | inner :: rest => do
              match tool? (← frame) inner with
              | some found => do
                  modifyFrame ({ · with traps := [] })
                  runTool fuel true inner found rest
                  throw (.exit (← frame).status)
              | none => do
                  complain (inner ++ ": not found".toList)
                  throw (.exit 127)
      | "wait" => waitFor fuel arguments
      | _ => pure ()
termination_by structural fuel

/-- Call a function.  The variables that it hides come back behind it. -/
def callFunction (fuel : Nat) (isTested : Bool) (body : Script) (arguments : List Text) :
    Action Unit :=
  match fuel with
  | 0 => throw .exhausted
  | fuel + 1 => do
      let outer ← frame
      modifyFrame fun known =>
        { known with parameters := arguments, loops := 0, hidden := [] :: known.hidden }
      let restore : Action Unit :=
        modifyFrame fun known =>
          let hidden := known.hidden.headD []
          let restored := hidden.foldl
            (fun bindings (name, old) =>
              match old with
              | some old => storeVariable bindings old
              | none => bindings.filter (·.name ≠ name))
            known.bindings
          { known with
            parameters := outer.parameters
            loops := outer.loops
            hidden := outer.hidden
            bindings := restored }
      ensuring restore <|
        tryCatch (run fuel isTested false body) fun
          | .leaveFunction => pure ()
          | stop => throw stop
termination_by structural fuel

/-- Run a tool; commands in the background get their turn before somebody sleeps. -/
def runTool (fuel : Nat) (isFinal : Bool) (name found : Text) (arguments : List Text) :
    Action Unit :=
  match fuel with
  | 0 => throw .exhausted
  | fuel + 1 => do
      if found = "sh".toList then do
        let ending ← startShell fuel name arguments
        settle isFinal ending
      else do
        if found = "sleep".toList then runBackgrounds fuel 0
        match Tool.known.lookup (String.ofList found) with
        | some command => command arguments
        | none => setStatus 127
termination_by structural fuel

def startShell (fuel : Nat) (name : Text) (arguments : List Text) : Action Ending :=
  match fuel with
  | 0 => throw .exhausted
  | fuel + 1 => do
      let outer ← frame
      let number := (← world).nextNumber
      modifyWorld ({ · with nextNumber := number + 1 })
      modifyFrame fun known => known.fresh name number
      ensuring (modifyFrame fun _ => outer) (ended fuel (shell fuel arguments))
termination_by structural fuel

/-- Do what the words tell that a shell is started with. -/
def shell (fuel : Nat) (arguments : List Text) : Action Unit :=
  match fuel with
  | 0 => throw .exhausted
  | fuel + 1 => do
      let invocation := Invocation.ofWords false arguments
      modifyFrame ({ · with line := 0 })
      Builtin.setFlags (invocation.options.length + 1) invocation.options
      let begin (named : Option Text) (parameters : List Text) : Action Unit :=
        modifyFrame fun known =>
          { known with name := named.getD known.name, parameters, line := 1 }
      match invocation.hasScript, invocation.operands with
      | true, [] => fault "-c requires an argument".toList
      | true, content :: rest => do
          begin rest.head? (rest.drop 1)
          text fuel false content
      | false, file :: rest => do
          if invocation.readsInput then do
            begin none (file :: rest)
            let content ← takeInput 0
            text fuel false content
          else match ← fileText file with
          | .ok content => do
              begin (some file) rest
              text fuel false content
          | .error .isDirectory => pure ()
          | .error _ => fault ("cannot open ".toList ++ file ++ ": No such file".toList)
      | false, [] => do
          begin none []
          let content ← takeInput 0
          text fuel false content
termination_by structural fuel

/-- Run the commands in the background that wait for their turn, from a number on. -/
def runBackgrounds (fuel least : Nat) : Action Unit :=
  match fuel with
  | 0 => throw .exhausted
  | fuel + 1 => do
      match (← world).backgrounds.find? (least ≤ ·.number) with
      | none => pure ()
      | some background => do
          let outer ← frame
          let clock := (← world).clock
          modifyWorld fun world =>
            { world with
              backgrounds := world.backgrounds.filter (·.number ≠ background.number)
              clock := background.begun }
          modifyFrame fun _ => background.frame
          let ending ← ensuring (modifyFrame fun _ => outer) <|
            tryCatch (ended fuel (run fuel false true background.script)) fun
              | .timeUp => pure (.code 0)
              | stop => throw stop
          let status := match ending with
            | .code status => status
            | .killed signal => 128 + signal
          modifyWorld fun world =>
            { world with
              clock := clock
              finished := world.finished ++
                [⟨background.number, status, world.clock⟩] }
          runBackgrounds fuel least
termination_by structural fuel

def waitFor (fuel : Nat) (arguments : List Text) : Action Unit :=
  match fuel with
  | 0 => throw .exhausted
  | fuel + 1 => do
      runBackgrounds fuel 0
      let finished := (← world).finished
      let await (clock : Nat) : Action Unit := do
        pass (clock - (← world).clock)
      setStatus 0
      if arguments.isEmpty then
        finished.forM fun known => await known.clock
      else
        arguments.forM fun content => do
          match finished.find? fun known => Text.ofNat known.number = content with
          | none =>
              if (parameterNumber? content).isSome then setStatus 127
              else fault ("Illegal number: ".toList ++ content)
          | some known => do
              await known.clock
              report (known.status - 128)
              setStatus known.status
termination_by structural fuel

end

end EmbedScaffold.Shell
