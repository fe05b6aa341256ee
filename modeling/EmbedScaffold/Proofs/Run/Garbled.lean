import EmbedScaffold.Proofs.Run.Push

/-!
# Answers that break a run off

Trouble with the remote repository is told for each file.  Only an answer of success that cannot be
read is not: it breaks the run off without a report, although its files are written.
-/

namespace EmbedScaffold

namespace Remote

/-! ## One file -/

/-- What comes of a push for every answer: it breaks off exactly if it reads a garbled answer, and
else reports success exactly if both answers are usable, and its trouble otherwise. -/
structure TellsTrouble (publisher : Publisher) (exchange : Exchange) (path content : Text) :
    Prop where
  breaks : (∃ fault, (publisher.pushFile exchange path content).1 = .error fault) ↔
    IsGarbledRead (upcoming exchange.answers 0) ∨
      TellsState (upcoming exchange.answers 0) ∧ IsGarbledWrite (upcoming exchange.answers 1)
  reports : ∀ push, (publisher.pushFile exchange path content).1 = .ok push →
    (push.success = true ↔
      TellsState (upcoming exchange.answers 0) ∧ ConfirmsWrite (upcoming exchange.answers 1)) ∧
    (push.success = false → ∃ told, push.fault = some told ∧ told ≠ [])

theorem tellsTrouble (publisher : Publisher) (exchange : Exchange) (path content : Text) :
    TellsTrouble publisher exchange path content :=
  ⟨Publisher.pushFile_error_iff, fun _ pushes => (Publisher.pushFile_ok pushes).2⟩

theorem answers_of_pushFile (publisher : Publisher) (exchange : Exchange) (path content : Text) :
    (TellsState (upcoming exchange.answers 0) →
        (publisher.pushFile exchange path content).2.answers = exchange.answers.drop 2) ∧
      (¬ TellsState (upcoming exchange.answers 0) →
        (publisher.pushFile exchange path content).2.answers = exchange.answers.drop 1) := by
  cases publisher.readOutcome path (upcoming exchange.answers 0) with
  | told old tells clear state =>
      rw [Publisher.pushFile_of_told state]
      exact ⟨fun _ => rfl, fun silent => absurd tells silent⟩
  | trouble fault silent clear reported state =>
      rw [Publisher.pushFile_of_trouble state]
      exact ⟨fun tells => absurd tells silent, fun _ => rfl⟩
  | garbled fault silent garbled unreported state =>
      rw [Publisher.pushFile_of_trouble state]
      exact ⟨fun tells => absurd tells silent, fun _ => rfl⟩

/-! ## Several files -/

/-- Whether a garbled answer is read while a number of files is pushed.  A file whose state is told
takes two answers, any other one. -/
def MeetsGarbled : Nat → List Answer → Prop
  | 0, _ => False
  | files + 1, answers =>
      IsGarbledRead (upcoming answers 0) ∨
        TellsState (upcoming answers 0) ∧
          (IsGarbledWrite (upcoming answers 1) ∨ MeetsGarbled files (answers.drop 2)) ∨
        ¬ TellsState (upcoming answers 0) ∧ MeetsGarbled files (answers.drop 1)

end Remote

namespace Run

open Remote (MeetsGarbled TellsTrouble)

variable {means : Means} {settings : Settings} {publisher : Remote.Publisher} {workplace : Place}
  {exchange : Remote.Exchange} {draft : Draft} {drafts rest written : List Draft}

theorem push_cons_error_iff :
    (∃ fault, (push publisher settings workplace exchange (draft :: rest)).1 = .error fault) ↔
      let path := Path.relativeText workplace settings.root draft.path
      (∃ fault, (publisher.pushFile exchange path draft.content).1 = .error fault) ∨
        ∃ fault, (push publisher settings workplace
          (publisher.pushFile exchange path draft.content).2 rest).1 = .error fault := by
  dsimp only
  rw [push]
  obtain ⟨fault | first, next⟩ := publisher.pushFile exchange
    (Path.relativeText workplace settings.root draft.path) draft.content
  · exact ⟨fun _ => .inl ⟨fault, rfl⟩, fun _ => ⟨fault, rfl⟩⟩
  · have reports : ¬ ∃ fault : Remote.Fault, Except.ok first = Except.error fault := by
      rintro ⟨_, ⟨⟩⟩
    rw [or_iff_right reports]
    dsimp only
    obtain ⟨fault | told, last⟩ := push publisher settings workplace next rest
    · exact ⟨fun _ => ⟨fault, rfl⟩, fun _ => ⟨fault, rfl⟩⟩
    · constructor
      · rintro ⟨_, ⟨⟩⟩
      · rintro ⟨_, ⟨⟩⟩

/-- Pushing breaks off exactly if it comes to read a garbled answer. -/
theorem push_error_iff :
    (∃ fault, (push publisher settings workplace exchange drafts).1 = .error fault) ↔
      MeetsGarbled drafts.length exchange.answers := by
  induction drafts generalizing exchange with
  | nil =>
      constructor
      · rintro ⟨_, ⟨⟩⟩
      · exact False.elim
  | cons draft rest inductionHypothesis =>
      obtain ⟨told, silent⟩ := Remote.answers_of_pushFile publisher exchange
        (Path.relativeText workplace settings.root draft.path) draft.content
      rw [push_cons_error_iff]
      dsimp only
      rw [inductionHypothesis, Remote.Publisher.pushFile_error_iff, List.length_cons, MeetsGarbled]
      by_cases tells : Remote.TellsState (Remote.upcoming exchange.answers 0)
      · rw [told tells]
        simp only [tells, true_and, not_true_eq_false, false_and, or_false, or_assoc]
      · rw [silent tells]
        simp only [tells, false_and, or_false, not_false_eq_true, true_and, false_or]

/-! ## The whole run -/

/-- Whether a run comes so far as to have committed files; it leaves a site, with the drafts that it
has written. -/
def CommitsFiles (refusals : Refusals) (settings : Settings) (shell : Shell) (site : Site)
    (name : Text) (left : Site) (written : List Draft) : Prop :=
  ∃ means component staging failures,
    Means.ofSettings settings shell refusals = .ok means ∧
    Prepares means settings site name component staging ∧
    Commits means settings site staging left written failures

variable {refusals : Refusals} {shell : Shell} {site left : Site} {name : Text}

theorem pushWritten_error_iff (creates : Means.ofSettings settings shell refusals = .ok means)
    (workplace : Place) (exchange : Remote.Exchange) (written : List Draft) :
    (∃ fault, (pushWritten means settings workplace exchange written).1 = .error fault) ↔
      settings.remote.enabled = true ∧ MeetsGarbled written.length exchange.answers := by
  unfold pushWritten
  cases enabled : settings.remote.enabled with
  | true =>
      obtain ⟨publisher, published, -⟩ := Means.publisher_of_enabled creates enabled
      rw [published]
      dsimp only
      rw [push_error_iff]
      exact ⟨fun meets => ⟨rfl, meets⟩, And.right⟩
  | false =>
      rw [(Means.ofSettings_ok creates).2.2.1 enabled]
      constructor
      · rintro ⟨_, ⟨⟩⟩
      · rintro ⟨⟨⟩, -⟩

/-- How a run ends that has committed files: they stay, and it reports them unless it has to read a
garbled answer. -/
structure EndsCommitted (settings : Settings) (exchange : Remote.Exchange) (left : Site)
    (written : List Draft) (ending : Ending) : Prop where
  site : ending.site = left
  breaks : (∃ fault, ending.result = .error (.answer fault)) ↔
    settings.remote.enabled = true ∧ MeetsGarbled written.length exchange.answers
  reports : (∃ report, ending.result = .ok report ∧ report.success = true ∧
      report.committed = true ∧ report.written = written.map Draft.path) ↔
    ¬ (settings.remote.enabled = true ∧ MeetsGarbled written.length exchange.answers)

theorem CommitsFiles.ends
    (commits : CommitsFiles refusals settings shell site name left written)
    (exchange : Remote.Exchange) :
    EndsCommitted settings exchange left written
      (runUnder refusals settings shell site exchange name) := by
  obtain ⟨means, component, staging, failures, creates, prepares, commits⟩ := commits
  obtain ⟨here, -, result⟩ :=
    withMeans_of_commits { result := .ok {}, site, exchange } prepares commits
  have pushes := pushWritten_error_iff creates left.workplace exchange written
  rw [runUnder, creates]
  refine ⟨here, ?_, ?_⟩
  · dsimp only at result ⊢
    rw [result, ← pushes]
    cases (pushWritten means settings left.workplace exchange written).1 with
    | error fault => exact ⟨fun _ => ⟨fault, rfl⟩, fun _ => ⟨fault, rfl⟩⟩
    | ok told =>
        constructor
        · rintro ⟨_, ⟨⟩⟩
        · rintro ⟨_, ⟨⟩⟩
  · dsimp only at result ⊢
    rw [result, ← pushes]
    cases (pushWritten means settings left.workplace exchange written).1 with
    | error fault =>
        constructor
        · rintro ⟨_, ⟨⟩, -⟩
        · exact fun reports => absurd ⟨fault, rfl⟩ reports
    | ok told =>
        constructor
        · rintro - ⟨_, ⟨⟩⟩
        · exact fun _ => ⟨_, rfl, rfl, rfl, rfl⟩

/-- A run that reports a file as written has committed files, whatever else it is answered. -/
theorem commitsFiles_of_written {report : Report}
    (ends : (runUnder refusals settings shell site exchange name).result = .ok report)
    (nonempty : report.written ≠ []) :
    ∃ left written, CommitsFiles refusals settings shell site name left written ∧
      written.map Draft.path = report.written := by
  unfold runUnder at ends
  cases creates : Means.ofSettings settings shell refusals with
  | error fault =>
      rw [creates] at ends
      cases ends
  | ok means =>
      rw [creates] at ends
      dsimp only at ends
      rcases withMeans_quiet_or_commits { result := .ok {}, site, exchange } with
        quiet | ⟨component, staging, left, written, failures, prepares, commits⟩
      · exact absurd (quiet.told report ends).1 nonempty
      · obtain ⟨-, -, result⟩ :=
          withMeans_of_commits { result := .ok {}, site, exchange } prepares commits
        refine ⟨left, written,
          ⟨means, component, staging, failures, creates, prepares, commits⟩, ?_⟩
        dsimp only at result
        rw [ends] at result
        cases told : (pushWritten means settings left.workplace exchange written).1 with
        | error fault => rw [told] at result; cases result
        | ok told =>
            rw [told] at result
            obtain rfl := Except.ok.inj result
            rfl

end Run

namespace Run

/-- What a repository answers that is no longer there. -/
def page : Remote.Answer :=
  .response 200 "<html></html>".toList

theorem readBody_page : Remote.Publisher.readBody "<html></html>".toList = .error .noJson := by
  have told : (Remote.Publisher.readBody "<html></html>".toList).map (fun _ => ()) =
      .error .noJson := by
    decide +kernel
  cases reads : Remote.Publisher.readBody "<html></html>".toList with
  | error fault =>
      rw [reads] at told
      cases told
      rfl
  | ok value =>
      rw [reads] at told
      cases told

theorem isGarbledRead_page : Remote.IsGarbledRead page := by
  refine ⟨200, _, rfl, rfl, fun value reads => ?_⟩
  rw [readBody_page] at reads
  cases reads

end Run

end EmbedScaffold
