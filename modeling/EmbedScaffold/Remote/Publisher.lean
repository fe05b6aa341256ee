import EmbedScaffold.Json.Encoding
import EmbedScaffold.Remote.Basic
import EmbedScaffold.Text.Base64

/-!
# Publishing files

A file is published by reading the name of its present state on the branch and writing the new
content over that state.  If the file changed in between, the write is refused as a conflict; it
is reported and not tried again.
-/

namespace EmbedScaffold

namespace Remote

/-- Who publishes files, and where. -/
structure Publisher where
  repository : Text
  token : Text
  branch : Text
  address : Text
  timeout : Int
  deriving DecidableEq, Repr

/-- What came of publishing one file. -/
structure Push where
  path : Text
  success : Bool
  created : Bool
  state : Option Text
  fault : Option Text
  conflict : Bool
  deriving DecidableEq, Repr

/-- Why a name is no name of a repository. -/
structure BadRepository where
  name : Text
  deriving DecidableEq, Repr

def BadRepository.message (fault : BadRepository) : Text :=
  "Repository must look like 'owner/name', got '".toList ++ fault.name ++ ['\'']

namespace Publisher

/-- A publisher for a repository, whose name has exactly one slash. -/
def create (repository token branch address : Text) (timeout : Int) :
    Except BadRepository Publisher :=
  if repository.count '/' = 1 then
    .ok ⟨repository, token, branch, Text.trimEnd (· = '/') address, timeout⟩
  else .error ⟨repository⟩

def headers (publisher : Publisher) : List (Text × Text) :=
  let authorization :=
    if publisher.token.isEmpty then []
    else [("Authorization".toList, "Bearer ".toList ++ publisher.token)]
  ("Accept".toList, "application/vnd.github+json".toList) ::
    authorization ++ [("X-GitHub-Api-Version".toList, "2022-11-28".toList)]

def url (publisher : Publisher) (path : Text) : Text :=
  "/repos/".toList ++ publisher.repository ++ "/contents/".toList ++
    quotePath (Text.trimStart (· = '/') path)

def request (publisher : Publisher) (path : Text) (payload : Payload) : Request :=
  ⟨publisher.address, publisher.headers, publisher.timeout, publisher.url path, payload⟩

def isSuccess (status : Nat) : Bool :=
  200 ≤ status && status < 300

def isGiven : JsonValue → Bool
  | .null => false
  | .boolean value => value
  | .integer value => value ≠ 0
  | .decimal value => value.integer? ≠ some 0
  | .text content => ! content.isEmpty
  | .array items => ! items.isEmpty
  | .object members => ! members.isEmpty

def memberOf (value : JsonValue) (name : String) : Except Fault JsonValue :=
  match value with
  | .object members => .ok ((JsonValue.memberOf? members name.toList).getD .null)
  | _ => .error .noMembers

def bodyRules : JsonRules where
  depth := 970
  halfPairs := true

/-- The value of an answer's body. -/
def readBody (body : Text) : Except Fault JsonValue :=
  match JsonEncoding.decode? (Text.encode body) with
  | none => .error .noText
  | some content =>
      match JsonValue.ofText bodyRules content with
      | .ok value => .ok value
      | .error .malformed => .error .noJson
      | .error (.longInteger digits) => .error (.longInteger digits)
      | .error .tooDeep => .error .tooDeep

/-- The name of a file's state that an answer gives. -/
def stateOfAnswer (publisher : Publisher) (path : Text) : Answer → Except Fault JsonValue
  | .timedOut => .error (.timedOut publisher.timeout)
  | .unreachable reason => .error (.unreachable publisher.address reason)
  | .response status body =>
      if status = 404 then .ok .null
      else if ! isSuccess status then .error (.unreadable path status)
      else do
        match ← readBody body with
        | .array _ => throw (.directory path publisher.repository)
        | value => memberOf value "sha"

/-- Read the name of a file's present state; null if there is no such file. -/
def getState (publisher : Publisher) (exchange : Exchange) (path : Text) :
    Except Fault JsonValue × Exchange :=
  let (answer, next) := exchange.ask (publisher.request path (.reference publisher.branch))
  (publisher.stateOfAnswer path answer, next)

/-- The name of the new state that an answer gives. -/
def stateOfWrite (publisher : Publisher) (path : Text) : Answer → Except Fault JsonValue
  | .timedOut => .error (.timedOut publisher.timeout)
  | .unreachable reason => .error (.unreachable publisher.address reason)
  | .response status body =>
      if isSuccess status then do
        let content ← memberOf (← readBody body) "content"
        if isGiven content then memberOf content "sha" else pure .null
      else if status = 409 || (status = 422 && Text.includes body "sha".toList) then
        .error (.conflict path publisher.repository publisher.branch status)
      else .error (.unwritable path status body)

/-- What is sent to write a file over a state. -/
def writeMembers (publisher : Publisher) (path content : Text) (state : JsonValue)
    (message : Option Text) : List (Text × JsonValue) :=
  let standard := "Update ".toList ++ path ++ " via embedify".toList
  let told := (message.filter (! ·.isEmpty)).getD standard
  [("message".toList, .text told),
    ("content".toList, .text (Text.base64 (Text.encode content))),
    ("branch".toList, .text publisher.branch)] ++
    if isGiven state then [("sha".toList, state)] else []

/-- Write a file over a state, and get the name of the new one. -/
def putFile (publisher : Publisher) (exchange : Exchange) (path content : Text)
    (state : JsonValue) (message : Option Text) : Except Fault JsonValue × Exchange :=
  let payload := .values (publisher.writeMembers path content state message)
  let (answer, next) := exchange.ask (publisher.request path payload)
  (publisher.stateOfWrite path answer, next)

/-- The report of a fault, unless it is a malformed answer. -/
def reportFault (path : Text) (fault : Fault) : Except Fault Push :=
  if fault.isReported then .ok ⟨path, false, false, none, some fault.message, fault.isConflict⟩
  else .error fault

def reportWrite (path : Text) (old : JsonValue) (new : JsonValue) : Except Fault Push :=
  let created := match old with
    | .null => true
    | _ => false
  match new with
  | .null => .ok ⟨path, true, created, none, none, false⟩
  | .text name => .ok ⟨path, true, created, some name, none, false⟩
  | _ => .error .noStateName

/-- Publish a file: read its state and write over it. -/
def pushFile (publisher : Publisher) (exchange : Exchange) (path content : Text) :
    Except Fault Push × Exchange :=
  match publisher.getState exchange path with
  | (.error fault, next) => (reportFault path fault, next)
  | (.ok old, next) =>
      match publisher.putFile next path content old none with
      | (.error fault, last) => (reportFault path fault, last)
      | (.ok new, last) => (reportWrite path old new, last)

end Publisher

end Remote

end EmbedScaffold
