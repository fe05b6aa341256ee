import EmbedScaffold.Proofs.Remote.Request

/-!
# What comes of a push

A push asks once for the file's state and, if that is told, once to write over it.  An answer to
either request is usable, tells of trouble, or is garbled: trouble is reported, and only a garbled
answer raises a fault.
-/

namespace EmbedScaffold

namespace Remote

open Publisher

/-! ## Kinds of answers -/

/-- Whether an answer tells the state of a file: it is missing, or the answer holds an object. -/
def TellsState (answer : Answer) : Prop :=
  (∃ body, answer = .response 404 body) ∨
    ∃ status body members, answer = .response status body ∧ isSuccess status = true ∧
      readBody body = .ok (.object members)

/-- Whether an answer of success to a reading request cannot be read: it is no JSON, or a value that
is neither an object nor the listing of a directory. -/
def IsGarbledRead (answer : Answer) : Prop :=
  ∃ status body, answer = .response status body ∧ isSuccess status = true ∧
    ∀ value, readBody body = .ok value →
      (∀ members, value ≠ .object members) ∧ ∀ items, value ≠ .array items

/-- Whether the answer to a write names the new state by a text, or does not name it. -/
def NamesState (members : List (Text × JsonValue)) : Prop :=
  let content := (JsonValue.memberOf? members "content".toList).getD .null
  isGiven content = false ∨ ∃ inner, content = .object inner ∧
    ((JsonValue.memberOf? inner "sha".toList).getD .null = .null ∨
      ∃ name, (JsonValue.memberOf? inner "sha".toList).getD .null = .text name)

def ConfirmsWrite (answer : Answer) : Prop :=
  ∃ status body members, answer = .response status body ∧ isSuccess status = true ∧
    readBody body = .ok (.object members) ∧ NamesState members

/-- Whether an answer of success to a write cannot be read. -/
def IsGarbledWrite (answer : Answer) : Prop :=
  ∃ status body, answer = .response status body ∧ isSuccess status = true ∧
    ∀ members, readBody body = .ok (.object members) → ¬ NamesState members

theorem message_ne_nil {fault : Fault} (reported : fault.isReported = true) :
    fault.message ≠ [] := by
  intro none
  cases fault with
  | conflict =>
      unfold Fault.message at none
      simp only [List.append_eq_nil_iff] at none
      exact absurd none.2 (by decide +kernel)
  | unreadable =>
      unfold Fault.message at none
      simp only [List.append_eq_nil_iff] at none
      exact absurd none.1.2 (by decide +kernel)
  | unwritable =>
      unfold Fault.message at none
      simp only [List.append_eq_nil_iff] at none
      exact absurd none.1.2 (by decide +kernel)
  | timedOut =>
      unfold Fault.message at none
      simp only [List.append_eq_nil_iff] at none
      exact absurd none.2 (by decide +kernel)
  | unreachable =>
      unfold Fault.message at none
      simp only [List.append_eq_nil_iff] at none
      exact absurd none.1.2 (by decide +kernel)
  | directory =>
      unfold Fault.message at none
      simp only [List.append_eq_nil_iff] at none
      exact absurd none.1.2 (by decide +kernel)
  | noJson | noText | longInteger | tooDeep | noMembers | noStateName => cases reported

namespace Publisher

variable {publisher : Publisher} {path content : Text} {answer : Answer} {fault : Fault}
  {old : JsonValue}

theorem readBody_error {body : Text} (fails : readBody body = .error fault) :
    fault.isReported = false := by
  unfold readBody at fails
  split at fails
  · cases fails
    rfl
  · split at fails <;> cases fails <;> rfl

/-- What the answer to a reading request is taken for. -/
inductive ReadOutcome (publisher : Publisher) (path : Text) (answer : Answer) : Prop
  | told (old : JsonValue) : TellsState answer → ¬ IsGarbledRead answer →
      publisher.stateOfAnswer path answer = .ok old → ReadOutcome publisher path answer
  | trouble (fault : Fault) : ¬ TellsState answer → ¬ IsGarbledRead answer →
      fault.isReported = true → publisher.stateOfAnswer path answer = .error fault →
      ReadOutcome publisher path answer
  | garbled (fault : Fault) : ¬ TellsState answer → IsGarbledRead answer →
      fault.isReported = false → publisher.stateOfAnswer path answer = .error fault →
      ReadOutcome publisher path answer

section Response

variable {status : Nat} {body : Text}

theorem tellsState_response (present : status ≠ 404) :
    TellsState (.response status body) ↔
      isSuccess status = true ∧ ∃ members, readBody body = .ok (.object members) := by
  constructor
  · rintro (⟨_, same⟩ | ⟨_, _, members, same, success, reads⟩)
    · exact absurd (Answer.response.inj same).1 present
    · cases same
      exact ⟨success, members, reads⟩
  · rintro ⟨success, members, reads⟩
    exact .inr ⟨status, body, members, rfl, success, reads⟩

theorem isGarbledRead_response :
    IsGarbledRead (.response status body) ↔
      isSuccess status = true ∧ ∀ value, readBody body = .ok value →
        (∀ members, value ≠ .object members) ∧ ∀ items, value ≠ .array items := by
  constructor
  · rintro ⟨_, _, same, garbled⟩
    cases same
    exact garbled
  · exact fun garbled => ⟨status, body, rfl, garbled⟩

/-- What the value that a successful answer holds tells of a file. -/
def stateOfValue (publisher : Publisher) (path : Text) : JsonValue → Except Fault JsonValue
  | .array _ => .error (.directory path publisher.repository)
  | value => memberOf value "sha"

theorem readOutcome_success (success : isSuccess status = true) :
    ReadOutcome publisher path (.response status body) := by
  have present : status ≠ 404 := by
    rintro rfl
    cases success
  have state : publisher.stateOfAnswer path (.response status body) =
      (readBody body).bind (publisher.stateOfValue path) := by
    rw [stateOfAnswer, if_neg present, if_neg (by simp [success])]
    refine congrArg (readBody body).bind (funext fun value => ?_)
    cases value <;> rfl
  -- Only an object has members; the listing of a directory is reported, anything else is garbled.
  have garbled (fault : Fault) (unreported : fault.isReported = false)
      (gives : publisher.stateOfAnswer path (.response status body) = .error fault)
      (noValue : ∀ value, readBody body = .ok value →
        (∀ members, value ≠ .object members) ∧ ∀ items, value ≠ .array items) :
      ReadOutcome publisher path (.response status body) := by
    refine .garbled fault ?_ (isGarbledRead_response.mpr ⟨success, noValue⟩) unreported gives
    rw [tellsState_response present]
    rintro ⟨-, members, reads⟩
    exact (noValue _ reads).1 members rfl
  cases reads : readBody body with
  | error fault =>
      rw [reads] at state
      refine garbled fault (readBody_error reads) state fun value gives => ?_
      rw [reads] at gives
      cases gives
  | ok value =>
      rw [reads] at state
      cases value with
      | object members =>
          refine .told _ ((tellsState_response present).mpr ⟨success, members, reads⟩) ?_ state
          rw [isGarbledRead_response]
          exact fun garbled => (garbled.2 _ reads).1 members rfl
      | array items =>
          refine .trouble _ ?_ ?_ rfl state
          · rw [tellsState_response present, reads]
            rintro ⟨-, members, ⟨⟩⟩
          · rw [isGarbledRead_response]
            exact fun garbled => (garbled.2 _ reads).2 items rfl
      | null | boolean | integer | decimal | text =>
          refine garbled _ rfl state fun value gives => ?_
          rw [reads] at gives
          cases gives
          constructor <;> rintro _ ⟨⟩

end Response

theorem readOutcome (publisher : Publisher) (path : Text) (answer : Answer) :
    ReadOutcome publisher path answer := by
  cases answer with
  | timedOut => exact .trouble _ (by simp [TellsState]) (by simp [IsGarbledRead]) rfl rfl
  | unreachable reason =>
      exact .trouble _ (by simp [TellsState]) (by simp [IsGarbledRead]) rfl rfl
  | response status body =>
      by_cases missing : status = 404
      · subst missing
        refine .told .null (.inl ⟨body, rfl⟩) ?_ rfl
        rw [isGarbledRead_response]
        exact fun garbled => absurd garbled.1 (by decide)
      · by_cases success : isSuccess status = true
        · exact readOutcome_success success
        · refine .trouble (.unreadable path status) ?_ ?_ rfl ?_
          · rw [tellsState_response missing]
            exact fun tells => success tells.1
          · rw [isGarbledRead_response]
            exact fun garbled => success garbled.1
          · rw [stateOfAnswer, if_neg missing, if_pos (by simp [success])]

/-! ## Writing -/

/-- What a push reports once the file's old state is told and the write is answered. -/
def finishWrite (publisher : Publisher) (path : Text) (old : JsonValue) (answer : Answer) :
    Except Fault Push :=
  match publisher.stateOfWrite path answer with
  | .error fault => reportFault path fault
  | .ok new => reportWrite path old new

/-- Whether a state says that there was no file. -/
def isMissing : JsonValue → Bool
  | .null => true
  | _ => false

/-- What the answer to a write is taken for. -/
inductive WriteOutcome (publisher : Publisher) (path : Text) (old : JsonValue) (answer : Answer) :
    Prop
  | written (name : Option Text) : ConfirmsWrite answer → ¬ IsGarbledWrite answer →
      publisher.finishWrite path old answer = .ok ⟨path, true, isMissing old, name, none, false⟩ →
      WriteOutcome publisher path old answer
  | trouble (fault : Fault) : ¬ ConfirmsWrite answer → ¬ IsGarbledWrite answer →
      fault.isReported = true →
      publisher.finishWrite path old answer =
        .ok ⟨path, false, false, none, some fault.message, fault.isConflict⟩ →
      WriteOutcome publisher path old answer
  | garbled (fault : Fault) : ¬ ConfirmsWrite answer → IsGarbledWrite answer →
      publisher.finishWrite path old answer = .error fault → WriteOutcome publisher path old answer

theorem finishWrite_of_error (fails : publisher.stateOfWrite path answer = .error fault) :
    publisher.finishWrite path old answer =
      if fault.isReported then
        .ok ⟨path, false, false, none, some fault.message, fault.isConflict⟩
      else .error fault := by
  rw [finishWrite, fails]
  rfl

theorem reportWrite_text (name : Text) :
    reportWrite path old (.text name) =
      .ok ⟨path, true, isMissing old, some name, none, false⟩ := by
  cases old <;> rfl

theorem reportWrite_null :
    reportWrite path old .null = .ok ⟨path, true, isMissing old, none, none, false⟩ := by
  cases old <;> rfl

section Response

variable {status : Nat} {body : Text}

theorem confirmsWrite_response :
    ConfirmsWrite (.response status body) ↔
      isSuccess status = true ∧ ∃ members, readBody body = .ok (.object members) ∧
        NamesState members := by
  constructor
  · rintro ⟨_, _, members, same, success, reads, names⟩
    cases same
    exact ⟨success, members, reads, names⟩
  · rintro ⟨success, members, reads, names⟩
    exact ⟨status, body, members, rfl, success, reads, names⟩

theorem isGarbledWrite_response :
    IsGarbledWrite (.response status body) ↔
      isSuccess status = true ∧ ∀ members, readBody body = .ok (.object members) →
        ¬ NamesState members := by
  constructor
  · rintro ⟨_, _, same, garbled⟩
    cases same
    exact garbled
  · exact fun garbled => ⟨status, body, rfl, garbled⟩

/-- An object that names the new state confirms the write; any other object raises a fault. -/
theorem finishWrite_object (success : isSuccess status = true) {members : List (Text × JsonValue)}
    (reads : readBody body = .ok (.object members)) :
    (NamesState members → ∃ name, publisher.finishWrite path old (.response status body) =
      .ok ⟨path, true, isMissing old, name, none, false⟩) ∧
    (¬ NamesState members → ∃ fault,
      publisher.finishWrite path old (.response status body) = .error fault) := by
  have state : publisher.stateOfWrite path (.response status body) =
      let content := (JsonValue.memberOf? members "content".toList).getD .null
      if isGiven content then memberOf content "sha" else .ok .null := by
    rw [stateOfWrite, if_pos success, reads]
    rfl
  unfold finishWrite NamesState
  generalize (JsonValue.memberOf? members "content".toList).getD .null = content at state ⊢
  dsimp only at state ⊢
  rw [state]
  cases given : isGiven content with
  | false => exact ⟨fun _ => ⟨none, reportWrite_null⟩, fun unnamed => absurd (.inl rfl) unnamed⟩
  | true =>
      rw [if_pos rfl]
      cases content with
      | object inner =>
          rw [memberOf]
          cases sha : (JsonValue.memberOf? inner "sha".toList).getD .null with
          | null =>
              exact ⟨fun _ => ⟨none, reportWrite_null⟩,
                fun unnamed => absurd (.inr ⟨inner, rfl, .inl sha⟩) unnamed⟩
          | text name =>
              exact ⟨fun _ => ⟨some name, reportWrite_text name⟩,
                fun unnamed => absurd (.inr ⟨inner, rfl, .inr ⟨name, sha⟩⟩) unnamed⟩
          | boolean | integer | decimal | array | object =>
              refine ⟨fun names => ?_, fun _ => ⟨.noStateName, rfl⟩⟩
              rcases names with ⟨⟨⟩⟩ | ⟨_, same, isNull | ⟨_, isText⟩⟩
              · cases same
                rw [sha] at isNull
                cases isNull
              · cases same
                rw [sha] at isText
                cases isText
      | null | boolean | integer | decimal | text | array =>
          refine ⟨fun names => ?_, fun _ => ⟨.noMembers, rfl⟩⟩
          rcases names with ⟨⟨⟩⟩ | ⟨_, ⟨⟩, _⟩

/-- An answer of success that holds no object raises a fault. -/
theorem finishWrite_no_object (success : isSuccess status = true)
    (noObject : ∀ members, readBody body ≠ .ok (.object members)) :
    ∃ fault, publisher.finishWrite path old (.response status body) = .error fault := by
  have fails {fault : Fault} (unreported : fault.isReported = false)
      (gives : publisher.stateOfWrite path (.response status body) = .error fault) :
      ∃ fault, publisher.finishWrite path old (.response status body) = .error fault := by
    rw [finishWrite_of_error gives, unreported]
    exact ⟨fault, rfl⟩
  have state : publisher.stateOfWrite path (.response status body) =
      (readBody body).bind fun value => (memberOf value "content").bind fun content =>
        if isGiven content then memberOf content "sha" else .ok .null := by
    rw [stateOfWrite, if_pos success]
    rfl
  cases reads : readBody body with
  | error fault =>
      rw [reads] at state
      exact fails (readBody_error reads) state
  | ok value =>
      rw [reads] at state
      cases value with
      | object members => exact absurd reads (noObject members)
      | null | boolean | integer | decimal | text | array => exact fails rfl state

theorem writeOutcome_success (success : isSuccess status = true) :
    WriteOutcome publisher path old (.response status body) := by
  by_cases named : ∃ members, readBody body = .ok (.object members) ∧ NamesState members
  · obtain ⟨members, reads, names⟩ := named
    obtain ⟨name, finishes⟩ := (finishWrite_object success reads).1 names
    refine .written name (confirmsWrite_response.mpr ⟨success, members, reads, names⟩) ?_ finishes
    rw [isGarbledWrite_response]
    exact fun garbled => garbled.2 members reads names
  · obtain ⟨fault, fails⟩ :
        ∃ fault, publisher.finishWrite path old (.response status body) = .error fault := by
      by_cases object : ∃ members, readBody body = .ok (.object members)
      · obtain ⟨members, reads⟩ := object
        exact (finishWrite_object success reads).2 fun names => named ⟨members, reads, names⟩
      · exact finishWrite_no_object success fun members reads => object ⟨members, reads⟩
    refine .garbled fault ?_ ?_ fails
    · rw [confirmsWrite_response]
      exact fun confirms => named confirms.2
    · rw [isGarbledWrite_response]
      exact ⟨success, fun members reads names => named ⟨members, reads, names⟩⟩

end Response

theorem stateOfWrite_conflict {status : Nat} {body : Text}
    (refused : status = 409 ∨ status = 422 ∧ Text.includes body "sha".toList = true) :
    publisher.stateOfWrite path (.response status body) =
      .error (.conflict path publisher.repository publisher.branch status) := by
  have failure : isSuccess status = false := by
    rcases refused with rfl | ⟨rfl, -⟩ <;> rfl
  have conflict : (status = 409 || (status = 422 && Text.includes body "sha".toList)) = true := by
    simpa using refused
  rw [stateOfWrite, if_neg (by simp [failure]), if_pos conflict]

theorem writeOutcome (publisher : Publisher) (path : Text) (old : JsonValue) (answer : Answer) :
    WriteOutcome publisher path old answer := by
  have trouble (fault : Fault) (unconfirmed : ¬ ConfirmsWrite answer)
      (clear : ¬ IsGarbledWrite answer) (reported : fault.isReported = true)
      (gives : publisher.stateOfWrite path answer = .error fault) :
      WriteOutcome publisher path old answer := by
    refine .trouble fault unconfirmed clear reported ?_
    rw [finishWrite_of_error gives, if_pos reported]
  cases answer with
  | timedOut => exact trouble _ (by simp [ConfirmsWrite]) (by simp [IsGarbledWrite]) rfl rfl
  | unreachable reason =>
      exact trouble _ (by simp [ConfirmsWrite]) (by simp [IsGarbledWrite]) rfl rfl
  | response status body =>
      by_cases success : isSuccess status = true
      · exact writeOutcome_success success
      · have unconfirmed : ¬ ConfirmsWrite (.response status body) := by
          rw [confirmsWrite_response]
          exact fun confirms => success confirms.1
        have clear : ¬ IsGarbledWrite (.response status body) := by
          rw [isGarbledWrite_response]
          exact fun garbled => success garbled.1
        by_cases conflict : status = 409 ∨ status = 422 ∧ Text.includes body "sha".toList = true
        · exact trouble _ unconfirmed clear rfl (stateOfWrite_conflict conflict)
        · refine trouble (.unwritable path status body) unconfirmed clear rfl ?_
          rw [stateOfWrite, if_neg success, if_neg (by simpa using conflict)]

end Publisher

/-! ## The whole push -/

/-- The requests of a push: one for the file's state and, if that is told, one to write over it. -/
inductive PushRequests (repository branch file : Text) (content : Bytes) : List Request → Prop
  | read {reading : Request} : reading.Reads repository branch file →
      PushRequests repository branch file content [reading]
  | write {reading writing : Request} {state : Option JsonValue} :
      reading.Reads repository branch file →
      writing.Writes repository branch file state content →
      PushRequests repository branch file content [reading, writing]

/-- The answer to a request that is made after a number of others. -/
def upcoming (answers : List Answer) (number : Nat) : Answer :=
  (answers.drop number).head?.getD lastAnswer

namespace Publisher

variable {publisher : Publisher} {path content : Text} {exchange : Exchange} {fault : Fault}
  {old : JsonValue} {push : Push}

/-- Without a state there is no second request. -/
theorem pushFile_of_trouble
    (refuses : publisher.stateOfAnswer path (upcoming exchange.answers 0) = .error fault) :
    publisher.pushFile exchange path content =
      (reportFault path fault,
        ⟨exchange.answers.drop 1, exchange.requests ++ [publisher.readRequest path]⟩) := by
  have reads : publisher.getState exchange path = (.error fault,
      ⟨exchange.answers.drop 1, exchange.requests ++ [publisher.readRequest path]⟩) :=
    Prod.ext refuses rfl
  rw [pushFile, reads]

theorem pushFile_of_told
    (tells : publisher.stateOfAnswer path (upcoming exchange.answers 0) = .ok old) :
    publisher.pushFile exchange path content =
      (publisher.finishWrite path old (upcoming exchange.answers 1),
        ⟨exchange.answers.drop 2, exchange.requests ++
          [publisher.readRequest path, publisher.writeRequest path content old]⟩) := by
  have reads : publisher.getState exchange path =
      (.ok old, ⟨exchange.answers.drop 1, exchange.requests ++ [publisher.readRequest path]⟩) :=
    Prod.ext tells rfl
  have writes (next : Exchange) : publisher.putFile next path content old none =
      (publisher.stateOfWrite path (upcoming next.answers 0),
        ⟨next.answers.drop 1, next.requests ++ [publisher.writeRequest path content old]⟩) := rfl
  have last : exchange.requests ++
      [publisher.readRequest path, publisher.writeRequest path content old] =
        exchange.requests ++ [publisher.readRequest path] ++
          [publisher.writeRequest path content old] := by simp
  rw [pushFile, reads, last]
  dsimp only
  rw [writes, finishWrite, upcoming, upcoming, List.drop_zero, List.drop_drop]
  cases publisher.stateOfWrite path ((exchange.answers.drop 1).head?.getD lastAnswer) <;> rfl

theorem pushFile_requests (publisher : Publisher) (exchange : Exchange) (path content : Text) :
    ∃ asked, (publisher.pushFile exchange path content).2.requests = exchange.requests ++ asked ∧
      PushRequests publisher.repository publisher.branch (filePath path) (Text.encode content)
        asked := by
  cases tells : publisher.stateOfAnswer path (upcoming exchange.answers 0) with
  | error fault =>
      rw [pushFile_of_trouble tells]
      exact ⟨_, rfl, .read reads_readRequest⟩
  | ok old =>
      rw [pushFile_of_told tells]
      exact ⟨_, rfl, .write reads_readRequest writes_writeRequest⟩

/-- A push raises a fault exactly if an answer of success that it comes to read is garbled. -/
theorem pushFile_error_iff :
    (∃ fault, (publisher.pushFile exchange path content).1 = .error fault) ↔
      IsGarbledRead (upcoming exchange.answers 0) ∨
        TellsState (upcoming exchange.answers 0) ∧
          IsGarbledWrite (upcoming exchange.answers 1) := by
  cases readOutcome publisher path (upcoming exchange.answers 0) with
  | garbled fault silent garbled unreported state =>
      rw [pushFile_of_trouble state, reportFault, unreported]
      exact ⟨fun _ => .inl garbled, fun _ => ⟨fault, rfl⟩⟩
  | trouble fault silent clear reported state =>
      rw [pushFile_of_trouble state, reportFault, if_pos reported]
      constructor
      · rintro ⟨_, ⟨⟩⟩
      · rintro (garbled | ⟨tells, -⟩)
        · exact absurd garbled clear
        · exact absurd tells silent
  | told old tells clear state =>
      rw [pushFile_of_told state]
      have onWrite : (IsGarbledRead (upcoming exchange.answers 0) ∨
          TellsState (upcoming exchange.answers 0) ∧ IsGarbledWrite (upcoming exchange.answers 1)) ↔
            IsGarbledWrite (upcoming exchange.answers 1) := by simp [clear, tells]
      rw [onWrite]
      cases writeOutcome publisher path old (upcoming exchange.answers 1) with
      | written name confirms clear finishes =>
          rw [finishes]
          exact ⟨by rintro ⟨_, ⟨⟩⟩, fun garbled => absurd garbled clear⟩
      | trouble fault unconfirmed clear reported finishes =>
          rw [finishes]
          exact ⟨by rintro ⟨_, ⟨⟩⟩, fun garbled => absurd garbled clear⟩
      | garbled fault unconfirmed garbled finishes =>
          rw [finishes]
          exact ⟨fun _ => garbled, fun _ => ⟨fault, rfl⟩⟩

/-- A push that reports succeeds exactly if both answers are usable, and tells its trouble
otherwise. -/
theorem pushFile_ok (pushes : (publisher.pushFile exchange path content).1 = .ok push) :
    push.path = path ∧
      (push.success = true ↔
        TellsState (upcoming exchange.answers 0) ∧ ConfirmsWrite (upcoming exchange.answers 1)) ∧
      (push.success = false → ∃ told, push.fault = some told ∧ told ≠ []) := by
  cases readOutcome publisher path (upcoming exchange.answers 0) with
  | garbled fault silent garbled unreported state =>
      rw [pushFile_of_trouble state, reportFault, unreported] at pushes
      cases pushes
  | trouble fault silent clear reported state =>
      rw [pushFile_of_trouble state, reportFault, if_pos reported] at pushes
      cases pushes
      exact ⟨rfl, by simp [silent], fun _ => ⟨_, rfl, message_ne_nil reported⟩⟩
  | told old tells clear state =>
      rw [pushFile_of_told state] at pushes
      cases writeOutcome publisher path old (upcoming exchange.answers 1) with
      | written name confirms clear finishes =>
          rw [finishes] at pushes
          cases pushes
          exact ⟨rfl, by simp [tells, confirms], nofun⟩
      | trouble fault unconfirmed clear reported finishes =>
          rw [finishes] at pushes
          cases pushes
          exact ⟨rfl, by simp [unconfirmed], fun _ => ⟨_, rfl, message_ne_nil reported⟩⟩
      | garbled fault unconfirmed garbled finishes =>
          rw [finishes] at pushes
          cases pushes

end Publisher

/-- A publisher without a token. -/
def plainPublisher : Publisher :=
  ⟨"acme/embeds".toList, [], "main".toList, "https://api.github.com".toList, 30⟩

end Remote

end EmbedScaffold
