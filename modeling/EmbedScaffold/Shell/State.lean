import EmbedScaffold.Shell.Pattern
import EmbedScaffold.Shell.Reader
import EmbedScaffold.Text.Digit
import EmbedScaffold.Text.Utf8

/-!
# The state of a running shell

A shell has a frame of its own: variables, functions, parameters and open streams.  A part of a
script that runs apart gets a copy of the frame.  The world is shared: the files, what the streams
hold, and the clock.
-/

namespace EmbedScaffold.Shell

/-! ## Bytes -/

/-- The text whose characters are the given bytes. -/
def ofBytes (bytes : Bytes) : Text :=
  bytes.map fun byte => Char.ofNat byte.toNat

/-- The bytes that the characters of a text are. -/
def toBytes (content : Text) : Bytes :=
  content.map fun byte => byte.toNat.toUInt8

def ofText (content : Text) : Text :=
  ofBytes (Text.encode content)

def toText (content : Text) : Text :=
  Text.decodeLenient (toBytes content)

/-! ## Parts of the state -/

/-- A variable.  It may be known without having a value. -/
structure Variable where
  name : Text
  value : Option Text
  isExported : Bool := false
  isReadOnly : Bool := false

/-- Where a stream leads. -/
inductive Channel where
  | buffer (number : Nat)
  | file (place : Place)
  | nowhere
  deriving DecidableEq

/-- What a stream holds, and how much of it has been read. -/
structure Buffer where
  content : Array Char := #[]
  offset : Nat := 0
  deriving Inhabited

structure Frame where
  /-- How the shell calls itself. -/
  name : Text
  /-- The number of its process. -/
  number : Nat
  directory : Place
  parameters : List Text := []
  bindings : List Variable := []
  functions : List (Text × Script) := []
  channels : List (Nat × Channel) := []
  traps : List (Text × Text) := []
  flags : Text := []
  status : Nat := 0
  line : Nat := 1
  /-- The command of the shell that is carried out. -/
  command : Option Text := none
  /-- The status of the last script whose output a command took in. -/
  innerStatus : Nat := 0
  lastBackground : Option Nat := none
  /-- How many subshells are around. -/
  depth : Nat := 0
  /-- How many loops are around. -/
  loops : Nat := 0
  /-- The word and the letter at which the next option is looked for. -/
  optionPlace : Nat × Nat := (1, 0)
  /-- For each function around, the variables that it hides. -/
  hidden : List (List (Text × Option Variable)) := []

/-- A command in the background: it waits for its turn until somebody waits for it. -/
structure Background where
  number : Nat
  frame : Frame
  script : Script
  begun : Nat

/-- A command in the background that has ended: its status, and when it ended. -/
structure Finished where
  number : Nat
  status : Nat
  clock : Nat

/-- What all shells of a job share. -/
structure World where
  site : Site
  buffers : Array Buffer
  documents : Array Word := #[]
  clock : Nat := 0
  /-- Until when somebody has kept the output of the job open. -/
  heldUntil : Nat := 0
  /-- When the time is up, in milliseconds. -/
  limit : Nat
  backgrounds : List Background := []
  finished : List Finished := []
  /-- The signals that were sent to processes and are still to be handled. -/
  signals : List (Nat × Nat) := []
  nextNumber : Nat

/-- Whether a frame keeps the output of the job open. -/
def Frame.holdsOutput (frame : Frame) : Bool :=
  frame.channels.any fun (stream, channel) =>
    (stream = 1 || stream = 2) && (channel = .buffer 1 || channel = .buffer 2)

structure State where
  frame : Frame
  world : World

/-- Why a script does not go on with its next command. -/
inductive Stop where
  /-- Something was wrong with a command. -/
  | fault
  | exit (code : Nat)
  | signal (number : Nat)
  | leaveLoop (count : Nat)
  | nextRound (count : Nat)
  | leaveFunction
  | timeUp
  /-- The script does not come to an end. -/
  | exhausted
  deriving DecidableEq

abbrev Action := ExceptT Stop (StateM State)

namespace Action

/-! ## The frame and the world -/

def frame : Action Frame := do
  pure (← get).frame

def world : Action World := do
  pure (← get).world

def modifyFrame (change : Frame → Frame) : Action Unit :=
  modify fun state => { state with frame := change state.frame }

def modifyWorld (change : World → World) : Action Unit :=
  modify fun state => { state with world := change state.world }

/-- Set the status of the last command. -/
def setStatus (status : Nat) : Action Unit :=
  modifyFrame ({ · with status })

def pass (milliseconds : Nat) : Action Unit := do
  let clock := (← world).clock + milliseconds
  let isHeld := (← frame).holdsOutput
  modifyWorld fun world =>
    { world with clock, heldUntil := if isHeld then max world.heldUntil clock else world.heldUntil }
  if (← world).limit ≤ clock then throw .timeUp

/-! ## Streams -/

/-- Add to the file at a place. -/
def appendToFile (site : Site) (place : Place) (content : Text) : Site :=
  site.setFile place ((site.file? place).getD [] ++ toBytes content)

def write (stream : Nat) (content : Text) : Action Unit := do
  match (← frame).channels.lookup stream with
  | some (.buffer number) =>
      modifyWorld fun world =>
        { world with
          buffers := world.buffers.modify number fun buffer =>
            { buffer with content := content.foldl Array.push buffer.content } }
  | some (.file place) =>
      modifyWorld fun world => { world with site := appendToFile world.site place content }
  | _ => pure ()

/-- What is left to be read from a stream. -/
def input (stream : Nat) : Action Text := do
  match (← frame).channels.lookup stream with
  | some (.buffer number) =>
      let buffer := (← world).buffers.getD number default
      pure (buffer.content.toList.drop buffer.offset)
  | some (.file place) => pure (ofBytes (((← world).site.file? place).getD []))
  | _ => pure []

/-- Pass a number of bytes of a stream. -/
def consume (stream count : Nat) : Action Unit := do
  match (← frame).channels.lookup stream with
  | some (.buffer number) =>
      modifyWorld fun world =>
        { world with
          buffers := world.buffers.modify number fun buffer =>
            { buffer with offset := buffer.offset + count } }
  | _ => pure ()

def takeInput (stream : Nat) : Action Text := do
  let content ← input stream
  consume stream content.length
  pure content

def newBuffer (content : Text) : Action Nat := do
  let number := (← world).buffers.size
  modifyWorld fun world =>
    { world with buffers := world.buffers.push { content := content.toArray } }
  pure number

/-- Let a stream lead somewhere. -/
def direct (stream : Nat) (channel : Option Channel) : Action Unit :=
  modifyFrame fun frame =>
    let others := frame.channels.filter fun (known, _) => known ≠ stream
    { frame with channels := (channel.map (stream, ·)).toList ++ others }

def complain (message : Text) : Action Unit := do
  let known ← frame
  let command := (known.command.map (· ++ ": ".toList)).getD []
  write 2 (known.name ++ ": ".toList ++ Text.ofNat known.line ++ ": ".toList ++ command ++
    message ++ ['\n'])

/-- Complain and end the script. -/
def fault {α : Type} (message : Text) : Action α := do
  complain message
  throw .fault

/-! ## Variables -/

def findVariable? (known : List Variable) (name : Text) : Option Variable :=
  known.find? (·.name = name)

/-- Put a variable in the place of the one with its name. -/
def storeVariable (known : List Variable) (stored : Variable) : List Variable :=
  if known.any (·.name = stored.name) then
    known.map fun other => if other.name = stored.name then stored else other
  else known ++ [stored]

def assign (name value : Text) : Action Unit := do
  match findVariable? (← frame).bindings name with
  | some known =>
      if known.isReadOnly then fault (name ++ ": is read only".toList)
      else
        modifyFrame fun frame =>
          { frame with
            bindings := storeVariable frame.bindings { known with value := some value } }
  | none =>
      let isExported := (← frame).flags.contains 'a'
      modifyFrame fun frame =>
        { frame with bindings := frame.bindings ++ [{ name, value := some value, isExported }] }

def parameterNumber? (name : Text) : Option Nat :=
  if ! name.isEmpty && name.all Char.isDigit then some (Text.numberOf 10 name) else none

/-- The value of a parameter or variable. -/
def lookUp (frame : Frame) (name : Text) : Option Text :=
  match name with
  | ['?'] => some (Text.ofNat frame.status)
  | ['$'] => some (Text.ofNat frame.number)
  | ['#'] => some (Text.ofNat frame.parameters.length)
  | ['-'] => some frame.flags
  | ['!'] => frame.lastBackground.map Text.ofNat
  | ['@'] => if frame.parameters.isEmpty then none else some (Text.join [' '] frame.parameters)
  | ['*'] => if frame.parameters.isEmpty then none else some (Text.join [' '] frame.parameters)
  | _ =>
      match parameterNumber? name with
      | some 0 => some frame.name
      | some (number + 1) => frame.parameters[number]?
      | none => (findVariable? frame.bindings name).bind (·.value)

/-- The variables that programs are told of. -/
def exported (frame : Frame) : List Variable :=
  frame.bindings.filter fun known => known.isExported && known.value.isSome

/-! ## Files -/

/-- The place that a name leads to from the directory of the shell. -/
def locate (name : Text) : Action (Except SystemFault Place) := do
  let site := (← world).site
  let path := Path.ofText (toText name)
  let directory := (← frame).directory
  let origin := if path.isAbsolute then [] else directory
  if name.isEmpty then pure (.error .missing)
  else
    let result := site.walk origin path.steps
    match result with
    | .ok place =>
        if name.getLast? = some '/' && site.isFile place then pure (.error .notDirectory)
        else pure result
    | .error fault => pure (.error fault)

def toolPlaces : List Place :=
  [["bin".toList], ["usr".toList, "bin".toList]]

/-- The name of the file that holds nothing and takes everything. -/
def emptyFile : Text :=
  "/dev/null".toList

/-- The stream that a file name stands for. -/
def namedStream? (name : Text) : Option Nat :=
  [("/dev/stdin", 0), ("/dev/stdout", 1), ("/dev/stderr", 2), ("/dev/fd/0", 0), ("/dev/fd/1", 1),
    ("/dev/fd/2", 2)].findSome? fun (known, stream) =>
      if name = String.toList known then some stream else none

/-- The bytes of the file with a name. -/
def fileText (name : Text) : Action (Except SystemFault Text) := do
  if name = emptyFile then pure (.ok [])
  else
    match namedStream? name with
    | some stream => do
        let content ← takeInput stream
        pure (.ok content)
    | none =>
    match ← locate name with
    | .error fault => pure (.error fault)
    | .ok place =>
        let site := (← world).site
        if site.isDirectory place then pure (.error .isDirectory)
        else
          match site.file? place with
          | some bytes => pure (.ok (ofBytes bytes))
          | none => pure (.error .missing)

end Action

end EmbedScaffold.Shell
