import Mathlib.Logic.Function.Basic
import Mathlib.Logic.Relation
import EmbedScaffold.Proofs.Remote.Push

/-!
# Pushing to a branch that others change

A branch maps paths to contents, and others may change it at any time.  A push is a dialogue of
requests and answers with the remote repository, which serves every request in one step.  Whatever
the others do in between, a push replaces the content that it has seen, or it changes nothing and
reports a conflict.
-/

namespace EmbedScaffold

namespace Remote

open Publisher

/-! ## The remote repository -/

/-- The files of a branch by their paths. -/
abbrev Branch := Text → Option Bytes

/-- How a repository names contents: no name is empty, and different contents have different
names. -/
structure Naming where
  name : Bytes → Text
  solid : ∀ content, name content ≠ []
  injective : Function.Injective name

/-- The name that a request has to carry to write over what is present. -/
def Naming.state? (naming : Naming) (present : Option Bytes) : Option JsonValue :=
  present.map fun content => .text (naming.name content)

/-- How a repository serves a request: its answer, and the files that it has then. -/
inductive Serves (naming : Naming) (repository branch : Text) (files : Branch) (request : Request) :
    Answer → Branch → Prop
  | missing {path : Text} (body : Text) : request.Reads repository branch path →
      files path = none → Serves naming repository branch files request (.response 404 body) files
  | found {path body : Text} {status : Nat} {members : List (Text × JsonValue)} {content : Bytes} :
      request.Reads repository branch path → files path = some content →
      isSuccess status = true → readBody body = .ok (.object members) →
      JsonValue.memberOf? members "sha".toList = some (.text (naming.name content)) →
      Serves naming repository branch files request (.response status body) files
  | accepted {path body : Text} {status : Nat} {members : List (Text × JsonValue)}
      {content : Bytes} :
      request.Writes repository branch path (naming.state? (files path)) content →
      isSuccess status = true → readBody body = .ok (.object members) →
      Serves naming repository branch files request (.response status body)
        (Function.update files path (some content))
  | refused {path body : Text} {status : Nat} {state : Option JsonValue} {content : Bytes} :
      request.Writes repository branch path state content → state ≠ naming.state? (files path) →
      status = 409 ∨ status = 422 ∧ Text.includes body "sha".toList = true →
      Serves naming repository branch files request (.response status body) files

theorem Naming.state?_injective (naming : Naming) : Function.Injective naming.state? :=
  Option.map_injective fun _ _ same => naming.injective (JsonValue.text.inj same)

section Serving

variable {naming : Naming} {publisher : Publisher} {path content : Text} {old : JsonValue}
  {files after : Branch} {answer : Answer}

/-- Reading leaves the files alone and tells the state of the file. -/
theorem Serves.read (serves : Serves naming publisher.repository publisher.branch files
      (publisher.readRequest path) answer after) :
    after = files ∧ ∃ old, publisher.stateOfAnswer path answer = .ok old ∧
      isMissing old = (files (filePath path)).isNone ∧
      carried old = naming.state? (files (filePath path)) := by
  cases serves with
  | missing body reads absent =>
      obtain rfl := Option.some.inj ((path?_request _).symm.trans reads.1)
      refine ⟨rfl, .null, rfl, ?_, ?_⟩
      · rw [absent]
        rfl
      · rw [absent]
        rfl
  | @found file body status members bytes reads present success told named =>
      obtain rfl := Option.some.inj ((path?_request _).symm.trans reads.1)
      refine ⟨rfl, .text (naming.name bytes), ?_, ?_, ?_⟩
      · have notMissing : status ≠ 404 := by
          rintro rfl
          cases success
        rw [stateOfAnswer, if_neg notMissing, if_neg (by simp [success]), told]
        simp only [bind, Except.bind, memberOf]
        rw [named]
        rfl
      · rw [present]
        rfl
      · have given : isGiven (.text (naming.name bytes)) = true := by
          simp [isGiven, naming.solid bytes]
        rw [present, carried, given]
        rfl
  | accepted writes =>
      obtain ⟨_, _, _, payload, _⟩ := writes
      cases payload
  | refused writes =>
      obtain ⟨_, _, _, payload, _⟩ := writes
      cases payload

/-- A write is accepted if it carries the state that is present, and refused as a conflict
otherwise. -/
theorem Serves.write (serves : Serves naming publisher.repository publisher.branch files
      (publisher.writeRequest path content old) answer after) :
    (carried old = naming.state? (files (filePath path)) ∧
        after = Function.update files (filePath path) (some (Text.encode content)) ∧
        ∃ status body members, answer = .response status body ∧ isSuccess status = true ∧
          readBody body = .ok (.object members)) ∨
      (carried old ≠ naming.state? (files (filePath path)) ∧ after = files ∧
        ∃ fault, publisher.stateOfWrite path answer = .error fault ∧ fault.isReported = true ∧
          fault.isConflict = true) := by
  cases serves with
  | missing body reads =>
      cases reads.2
  | found reads =>
      cases reads.2
  | @accepted file body status members bytes writes success told =>
      obtain ⟨rfl, current, rfl⟩ := eq_of_writes writes
      exact .inl ⟨current.symm, rfl, status, body, members, rfl, success, told⟩
  | @refused file body status state bytes writes stale refusal =>
      obtain ⟨rfl, rfl, rfl⟩ := eq_of_writes writes
      exact .inr ⟨stale, rfl, _, stateOfWrite_conflict refusal, rfl, rfl⟩

end Serving

/-! ## The dialogue of a push -/

/-- The request that a push makes next, once it has heard some answers; none if it is done. -/
def nextRequest? (publisher : Publisher) (path content : Text) (heard : List Answer) :
    Option Request :=
  (publisher.pushFile ⟨heard, []⟩ path content).2.requests[heard.length]?

/-- A request that was served: what the branch held before, the answer, and what it held then. -/
structure Served where
  request : Request
  before : Branch
  answer : Answer
  after : Branch

/-- What is on its way between a push and the repository. -/
inductive Message where
  | nothing
  | request (request : Request)
  | answer (answer : Answer)

/-- A branch while a push is made: its files, the answers that the push has heard, the message on
its way, and the requests that were served. -/
structure World where
  files : Branch
  heard : List Answer
  message : Message
  served : List Served

namespace World

def begin (files : Branch) : World :=
  ⟨files, [], .nothing, []⟩

/-- Whether all requests of a push are answered. -/
def IsFinished (world : World) (publisher : Publisher) (path content : Text) : Prop :=
  world.message = .nothing ∧ nextRequest? publisher path content world.heard = none

end World

/-- One step while a push is made: others change the files as they like, or the push and the
repository exchange a message. -/
inductive Advances (naming : Naming) (publisher : Publisher) (path content : Text) :
    World → World → Prop
  | others {world : World} (files : Branch) :
      Advances naming publisher path content world { world with files }
  | asks {world : World} {request : Request} : world.message = .nothing →
      nextRequest? publisher path content world.heard = some request →
      Advances naming publisher path content world { world with message := .request request }
  | serves {world : World} {request : Request} {answer : Answer} {files : Branch} :
      world.message = .request request →
      Serves naming publisher.repository publisher.branch world.files request answer files →
      Advances naming publisher path content world
        { world with
          files
          message := .answer answer
          served := world.served ++ [⟨request, world.files, answer, files⟩] }
  | hears {world : World} {answer : Answer} : world.message = .answer answer →
      Advances naming publisher path content world
        { world with heard := world.heard ++ [answer], message := .nothing }

/-- Requests that a push makes one after the other, each served after the one before. -/
inductive Dialogue (naming : Naming) (publisher : Publisher) (path content : Text) :
    List Served → Prop
  | nil : Dialogue naming publisher path content []
  | concat {served : List Served} {next : Served} :
      Dialogue naming publisher path content served →
      nextRequest? publisher path content (served.map Served.answer) = some next.request →
      Serves naming publisher.repository publisher.branch next.before next.request next.answer
        next.after →
      Dialogue naming publisher path content (served ++ [next])

section Dialogues

variable {naming : Naming} {publisher : Publisher} {path content : Text} {old : JsonValue}
  {heard : List Answer} {served : List Served} {world later : World}

theorem nextRequest?_first :
    nextRequest? publisher path content [] = some (publisher.readRequest path) := by
  rw [nextRequest?]
  cases tells : publisher.stateOfAnswer path (upcoming [] 0) with
  | error fault => rw [pushFile_of_trouble tells]; rfl
  | ok old => rw [pushFile_of_told tells]; rfl

theorem nextRequest?_second {answer : Answer}
    (tells : publisher.stateOfAnswer path answer = .ok old) :
    nextRequest? publisher path content [answer] =
      some (publisher.writeRequest path content old) := by
  have told : publisher.stateOfAnswer path (upcoming [answer] 0) = .ok old := tells
  rw [nextRequest?, pushFile_of_told told]
  rfl

/-- There is no third request. -/
theorem nextRequest?_of_two (long : 2 ≤ heard.length) :
    nextRequest? publisher path content heard = none := by
  rw [nextRequest?]
  apply List.getElem?_eq_none
  cases tells : publisher.stateOfAnswer path (upcoming heard 0) with
  | error fault =>
      rw [pushFile_of_trouble tells]
      exact Nat.le_of_succ_le long
  | ok old =>
      rw [pushFile_of_told tells]
      exact long

/-- What holds of a branch while a push is made: the requests served so far are a dialogue, and the
push has heard the answers to them, but for one on its way. -/
structure Sound (naming : Naming) (publisher : Publisher) (path content : Text) (world : World) :
    Prop where
  dialogue : Dialogue naming publisher path content world.served
  delivered :
    match world.message with
    | .nothing => world.served.map Served.answer = world.heard
    | .request request => world.served.map Served.answer = world.heard ∧
        nextRequest? publisher path content world.heard = some request
    | .answer answer => world.served.map Served.answer = world.heard ++ [answer]

theorem Sound.advances (sound : Sound naming publisher path content world)
    (step : Advances naming publisher path content world later) :
    Sound naming publisher path content later := by
  obtain ⟨dialogue, delivered⟩ := sound
  cases step with
  | others files => exact ⟨dialogue, delivered⟩
  | asks nothing next =>
      rw [nothing] at delivered
      exact ⟨dialogue, delivered, next⟩
  | serves requested serves =>
      rw [requested] at delivered
      obtain ⟨answers, next⟩ := delivered
      refine ⟨dialogue.concat (by rw [answers, next]) serves, ?_⟩
      dsimp only
      rw [List.map_append, answers]
      rfl
  | hears answered =>
      rw [answered] at delivered
      exact ⟨dialogue, delivered⟩

theorem Sound.run {start : Branch}
    (run : Relation.ReflTransGen (Advances naming publisher path content) (.begin start) world) :
    Sound naming publisher path content world := by
  induction run with
  | refl => exact ⟨.nil, rfl⟩
  | tail _ step inductionHypothesis => exact inductionHypothesis.advances step

/-- A dialogue that is finished is one reading request and one write. -/
theorem Dialogue.finished (dialogue : Dialogue naming publisher path content served)
    (done : nextRequest? publisher path content (served.map Served.answer) = none) :
    ∃ reading writing old, served = [reading, writing] ∧
      reading.request = publisher.readRequest path ∧
      writing.request = publisher.writeRequest path content old ∧
      publisher.stateOfAnswer path reading.answer = .ok old ∧
      reading.after = reading.before ∧
      isMissing old = (reading.before (filePath path)).isNone ∧
      carried old = naming.state? (reading.before (filePath path)) ∧
      Serves naming publisher.repository publisher.branch writing.before writing.request
        writing.answer writing.after := by
  cases dialogue with
  | nil =>
      rw [List.map_nil, nextRequest?_first] at done
      cases done
  | @concat earlier last before next serves =>
      cases before with
      | nil =>
          -- The repository has told the state, so the write is still to be made.
          rw [List.map_nil, nextRequest?_first] at next
          obtain ⟨request, files, answer, after⟩ := last
          obtain rfl := Option.some.inj next
          obtain ⟨-, old, tells, -⟩ := serves.read
          rw [List.nil_append, List.map_singleton, nextRequest?_second tells] at done
          cases done
      | @concat first reading start asks told =>
          cases start with
          | nil =>
              rw [List.map_nil, nextRequest?_first] at asks
              obtain ⟨request, files, answer, after⟩ := reading
              obtain rfl := Option.some.inj asks
              obtain ⟨unchanged, old, tells, missing, state⟩ := told.read
              rw [List.nil_append, List.map_singleton, nextRequest?_second tells] at next
              exact ⟨_, last, old, rfl, rfl, (Option.some.inj next).symm, tells, unchanged, missing,
                state, serves⟩
          | concat =>
              rw [nextRequest?_of_two (by simp)] at next
              cases next

/-- A push that is served twice, with the files changed in between, runs to its end. -/
theorem World.reaches {start files after : Branch} {told answer : Answer}
    (reading : Serves naming publisher.repository publisher.branch start
      (publisher.readRequest path) told start)
    (tells : publisher.stateOfAnswer path told = .ok old)
    (writing : Serves naming publisher.repository publisher.branch files
      (publisher.writeRequest path content old) answer after) :
    let last : World := ⟨after, [told, answer], .nothing,
      [⟨publisher.readRequest path, start, told, start⟩,
        ⟨publisher.writeRequest path content old, files, answer, after⟩]⟩
    Relation.ReflTransGen (Advances naming publisher path content) (.begin start) last ∧
      last.IsFinished publisher path content := by
  refine ⟨?_, rfl, nextRequest?_of_two (Nat.le_refl 2)⟩
  apply Relation.ReflTransGen.head (.asks rfl nextRequest?_first)
  apply Relation.ReflTransGen.head (.serves rfl reading)
  apply Relation.ReflTransGen.head (.hears rfl)
  apply Relation.ReflTransGen.head (.others files)
  apply Relation.ReflTransGen.head (.asks rfl (nextRequest?_second tells))
  apply Relation.ReflTransGen.head (.serves rfl writing)
  exact Relation.ReflTransGen.single (.hears rfl)

end Dialogues

/-- However the updates of others are interleaved with the requests of a push, once these are
answered there has been one reading request and one write.  Either the write has replaced the
content that the reading request saw, and the push tells so if the answer can be read; or it has
changed nothing, and the push reports a conflict. -/
theorem pushFile_interleaved (naming : Naming) (publisher : Publisher) (path content : Text)
    (start : Branch) (world : World)
    (run : Relation.ReflTransGen (Advances naming publisher path content) (.begin start) world)
    (finished : world.IsFinished publisher path content) :
    ∃ reading writing, world.served = [reading, writing] ∧
      reading.request.payload = .reference publisher.branch ∧
      (∃ members, writing.request.payload = .values members) ∧
      reading.after = reading.before ∧
      let file := filePath path
      let result := (publisher.pushFile ⟨world.heard, []⟩ path content).1
      (writing.before file = reading.before file ∧
          writing.after = Function.update writing.before file (some (Text.encode content)) ∧
          (ConfirmsWrite writing.answer → ∃ name, result =
            .ok ⟨path, true, (reading.before file).isNone, name, none, false⟩) ∧
          (¬ ConfirmsWrite writing.answer → ∃ fault, result = .error fault)) ∨
        (writing.before file ≠ reading.before file ∧ writing.after = writing.before ∧
          ∃ told, result = .ok ⟨path, false, false, none, some told, true⟩) := by
  obtain ⟨dialogue, delivered⟩ := Sound.run run
  obtain ⟨nothing, done⟩ := finished
  rw [nothing] at delivered
  dsimp only at delivered
  rw [← delivered] at done
  obtain ⟨reading, writing, old, whole, readRequest, writeRequest, tells, unchanged, missing, state,
    serves⟩ := dialogue.finished done
  rw [writeRequest] at serves
  refine ⟨reading, writing, whole, by rw [readRequest]; rfl, by rw [writeRequest]; exact ⟨_, rfl⟩,
    unchanged, ?_⟩
  have result : (publisher.pushFile ⟨world.heard, []⟩ path content).1 =
      publisher.finishWrite path old writing.answer := by
    have told : publisher.stateOfAnswer path (upcoming [reading.answer, writing.answer] 0) =
        .ok old := tells
    rw [← delivered, whole, List.map_cons, List.map_singleton, pushFile_of_told told]
    rfl
  dsimp only
  rw [result]
  rcases serves.write with ⟨current, written, status, body, members, answer, success, told⟩ |
    ⟨stale, kept, fault, refused, reported, conflict⟩
  · refine .inl ⟨?_, written, fun confirms => ?_, fun unconfirmed => ?_⟩
    · exact naming.state?_injective (current.symm.trans state)
    · rw [answer] at confirms ⊢
      obtain ⟨-, named, reads, names⟩ := confirmsWrite_response.mp confirms
      obtain ⟨name, finishes⟩ := (finishWrite_object success reads).1 names
      exact ⟨name, by rw [finishes, missing]⟩
    · rw [answer] at unconfirmed ⊢
      apply (finishWrite_object success told).2
      exact fun names => unconfirmed (confirmsWrite_response.mpr ⟨success, members, told, names⟩)
  · refine .inr ⟨fun same => stale ?_, kept, fault.message, ?_⟩
    · rw [state, same]
    · rw [finishWrite_of_error refused, if_pos reported, conflict]

/-- Contents named by what they read in base 64. -/
def Naming.base64 : Naming where
  name content := 'h' :: Text.base64 content
  solid _ := nofun
  injective first second same := by
    have read := congrArg Text.ofBase64? (List.cons.inj same).2
    rwa [Text.ofBase64?_base64, Text.ofBase64?_base64, Option.some.injEq] at read

/-- Whether a value is an object with one member, which is a text. -/
def isTextMember (name content : Text) : JsonValue → Bool
  | .object [(given, .text held)] => given = name && held = content
  | _ => false

theorem readBody_of_isTextMember {body name content : Text}
    (told : (readBody body).toOption.any (isTextMember name content) = true) :
    readBody body = .ok (.object [(name, .text content)]) := by
  cases reads : readBody body with
  | error fault =>
      rw [reads] at told
      cases told
  | ok value =>
      rw [reads] at told
      have isMember : isTextMember name content value = true := told
      unfold isTextMember at isMember
      split at isMember
      · obtain ⟨rfl, rfl⟩ : _ ∧ _ := by simpa using isMember
        rfl
      · cases isMember

/-- A file that others change between the two requests is left to them. -/
theorem pushFile_interleaved_overtaken :
    let read : Branch := fun _ => some [1]
    let found : Branch := fun _ => some [2]
    ∃ world : World,
      Relation.ReflTransGen (Advances .base64 plainPublisher ['a'] ['x']) (.begin read) world ∧
      world.IsFinished plainPublisher ['a'] ['x'] ∧ world.files = found ∧
      ∃ told, (plainPublisher.pushFile ⟨world.heard, []⟩ ['a'] ['x']).1 =
        .ok ⟨['a'], false, false, none, some told, true⟩ := by
  intro read found
  have tells : readBody "\x7b\"sha\":\"hAQ==\"\x7d".toList =
      .ok (.object [("sha".toList, .text "hAQ==".toList)]) :=
    readBody_of_isTextMember (by decide +kernel)
  have reading : Serves .base64 plainPublisher.repository plainPublisher.branch read
      (plainPublisher.readRequest ['a']) (.response 200 "\x7b\"sha\":\"hAQ==\"\x7d".toList) read :=
    .found reads_readRequest rfl rfl tells rfl
  obtain ⟨-, old, state, -, current⟩ := reading.read
  have writing : Serves .base64 plainPublisher.repository plainPublisher.branch found
      (plainPublisher.writeRequest ['a'] ['x'] old) (.response 409 []) found := by
    refine .refused writes_writeRequest ?_ (.inl rfl)
    rw [current]
    exact fun same => absurd (Naming.state?_injective _ same) (by decide)
  obtain ⟨run, finished⟩ := World.reaches reading state writing
  refine ⟨_, run, finished, rfl, ?_⟩
  obtain ⟨first, second, served, -, -, -, ⟨kept, -⟩ | ⟨-, -, conflict⟩⟩ :=
    pushFile_interleaved _ _ _ _ _ _ run finished
  · cases served
    exact absurd (Option.some.inj kept) (by decide)
  · exact conflict

/-- A write can be accepted and leave the push without a report. -/
theorem pushFile_accepted_unreported :
    ∃ (start : Branch) (world : World),
      Relation.ReflTransGen (Advances .base64 plainPublisher ['a'] ['x']) (.begin start) world ∧
      world.IsFinished plainPublisher ['a'] ['x'] ∧
      start ['a'] = none ∧ world.files ['a'] = some (Text.encode ['x']) ∧
      (plainPublisher.pushFile ⟨world.heard, []⟩ ['a'] ['x']).1 = .error .noMembers := by
  have told : readBody "\x7b\"content\":\"x\"\x7d".toList =
      .ok (.object [("content".toList, .text ['x'])]) :=
    readBody_of_isTextMember (by decide +kernel)
  have reading : Serves .base64 plainPublisher.repository plainPublisher.branch (fun _ => none)
      (plainPublisher.readRequest ['a']) (.response 404 []) fun _ => none :=
    .missing [] reads_readRequest rfl
  have writing : Serves .base64 plainPublisher.repository plainPublisher.branch (fun _ => none)
      (plainPublisher.writeRequest ['a'] ['x'] .null)
      (.response 201 "\x7b\"content\":\"x\"\x7d".toList)
      (Function.update (fun _ => none) ['a'] (some (Text.encode ['x']))) :=
    .accepted writes_writeRequest rfl told
  obtain ⟨run, finished⟩ := World.reaches reading rfl writing
  refine ⟨_, _, run, finished, rfl, by simp, ?_⟩
  have state : plainPublisher.stateOfAnswer ['a'] (upcoming [.response 404 [],
      .response 201 "\x7b\"content\":\"x\"\x7d".toList] 0) = .ok .null := rfl
  rw [pushFile_of_told state]
  change plainPublisher.finishWrite ['a'] .null (.response 201 _) = _
  have success : isSuccess 201 = true := rfl
  rw [finishWrite, stateOfWrite, if_pos success, told]
  rfl

end Remote

end EmbedScaffold
