import EmbedScaffold.Json.Reader
import EmbedScaffold.Text.Utf8

/-!
# The remote repository

A remote repository keeps files on branches.  It is asked by requests for the contents of a path;
the answers are scripted here as a list that is used up in order.
-/

namespace EmbedScaffold

namespace Remote

inductive Payload where
  /-- Ask for the state of a branch. -/
  | reference (branch : Text)
  /-- Named values to write. -/
  | values (members : List (Text × JsonValue))

structure Request where
  address : Text
  headers : List (Text × Text)
  timeout : Int
  url : Text
  payload : Payload

/-- What comes back for a request. -/
inductive Answer where
  | response (status : Nat) (body : Text)
  | timedOut
  | unreachable (reason : Text)

/-- The answers to come, and the requests made so far. -/
structure Exchange where
  answers : List Answer
  requests : List Request

/-- The answer when no other one is left. -/
def lastAnswer : Answer :=
  .response 404 "\x7b\x7d".toList

def Exchange.ask (exchange : Exchange) (request : Request) : Answer × Exchange :=
  (exchange.answers.head?.getD lastAnswer,
    ⟨exchange.answers.drop 1, exchange.requests ++ [request]⟩)

/-- Why a file could not be read or written. -/
inductive Fault where
  /-- The file changed since it was read. -/
  | conflict (path repository branch : Text) (status : Nat)
  | unreadable (path : Text) (status : Nat)
  | unwritable (path : Text) (status : Nat) (body : Text)
  | timedOut (seconds : Int)
  | unreachable (address reason : Text)
  | directory (path repository : Text)
  /-- The answer is no JSON. -/
  | noJson
  /-- The bytes of the answer are no text. -/
  | noText
  /-- An integer of the answer has too many digits. -/
  | longInteger (digits : Nat)
  /-- The values of the answer nest too deeply. -/
  | tooDeep
  /-- The answer has no members where it should. -/
  | noMembers
  /-- The answer names a file state by something other than a text. -/
  | noStateName
  deriving DecidableEq, Repr

namespace Fault

def message : Fault → Text
  | .conflict path repository branch _ =>
      path ++ " changed on ".toList ++ repository ++ ['@'] ++ branch ++
        " since it was read".toList
  | .unreadable path status =>
      "GitHub returned HTTP ".toList ++ Text.ofNat status ++ " reading ".toList ++ path
  | .unwritable path status body =>
      "GitHub returned HTTP ".toList ++ Text.ofNat status ++ " writing ".toList ++ path ++
        ": ".toList ++ body.take 200
  | .timedOut seconds =>
      "Request to GitHub timed out after ".toList ++ Text.ofInt seconds ++ ['s']
  | .unreachable address reason =>
      "Cannot reach GitHub at ".toList ++ address ++ ": ".toList ++ reason
  | .directory path repository => path ++ " is a directory on ".toList ++ repository
  | .noJson => "The answer is no JSON".toList
  | .noText => "The answer is no text".toList
  | .longInteger digits =>
      "Exceeds the limit (4300 digits) for integer string conversion: value has ".toList ++
        Text.ofNat digits ++
        " digits; use sys.set_int_max_str_digits() to increase the limit".toList
  | .tooDeep => "The answer nests too deeply".toList
  | .noMembers => "The answer has no members".toList
  | .noStateName => "The answer names no file state".toList

/-- The status that the fault came with. -/
def status? : Fault → Option Nat
  | .conflict _ _ _ status => some status
  | .unreadable _ status => some status
  | .unwritable _ status _ => some status
  | _ => none

def isConflict : Fault → Bool
  | .conflict _ _ _ _ => true
  | _ => false

/-- Whether the fault is one of the remote repository, and not a malformed answer. -/
def isReported : Fault → Bool
  | .noJson => false
  | .noText => false
  | .longInteger _ => false
  | .tooDeep => false
  | .noMembers => false
  | .noStateName => false
  | _ => true

end Fault

/-! ## Paths in a URL -/

/-- Whether a byte stands for itself in the path of a URL. -/
def isPlainByte (byte : UInt8) : Bool :=
  let tested := Char.ofNat byte.toNat
  byte < 0x80 && (tested.isAlphanum || "_.-~/".toList.contains tested)

def hexDigit (value : Nat) : Char :=
  (Nat.digitChar value).toUpper

/-- A text in the path of a URL: bytes that do not stand for themselves are shown by their
codes. -/
def quotePath (content : Text) : Text :=
  (Text.encode content).flatMap fun byte =>
    if isPlainByte byte then [Char.ofNat byte.toNat]
    else ['%', hexDigit (byte.toNat / 16), hexDigit (byte.toNat % 16)]

end Remote

end EmbedScaffold
