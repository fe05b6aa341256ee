import EmbedScaffold.Proofs.Site.Tree
import EmbedScaffold.Run.Commit

/-!
# What a commit leaves

Every document that a commit wrote can be written again at once, so undoing it reaches all of them:
where a draft was written, its earlier text is put back or the file is removed, and everywhere else
the site keeps its files.
-/

namespace EmbedScaffold

namespace Commit

variable {refusals : Refusals} {start site next left : Site} {draft : Draft} {written : List Draft}
  {place asked : Place} {path : Path}

/-! ## Undoing -/

/-- Restoring a document that can be written. -/
theorem restore_of_opens (opens : site.Opens draft.path place) :
    restore draft site =
      match draft.before with
      | none => site.removeFile draft.path
      | some content => site.setFile place (Text.encode content) := by
  unfold restore
  cases draft.before with
  | none => rfl
  | some content => simp only [opens.write]

theorem opens_restore (opens : site.Opens draft.path place) {other : Path}
    (opensOther : site.Opens other asked) : (restore draft site).Opens other asked := by
  rw [restore_of_opens opens]
  cases draft.before with
  | none => exact opensOther.removeFile
  | some content => exact opensOther.setFile

theorem workplace_restore (opens : site.Opens draft.path place) :
    (restore draft site).workplace = site.workplace := by
  rw [restore_of_opens opens]
  cases draft.before with
  | none => exact Site.workplace_removeFile
  | some content => exact Site.workplace_setFile

theorem file?_restore (opens : site.Opens draft.path place) :
    (restore draft site).file? asked =
      if asked = place then draft.before.map Text.encode else site.file? asked := by
  rw [restore_of_opens opens]
  cases draft.before with
  | none => exact Site.file?_removeFile opens.locates
  | some content => exact Site.file?_setFile

/-- Undoing documents that can be written leaves them so, and gives every place what the first
document written there had before. -/
theorem rollBack_spec (opens : ∀ draft ∈ written, ∃ place, site.Opens draft.path place) :
    (∀ path place, site.Opens path place → (rollBack site written).Opens path place) ∧
      (rollBack site written).workplace = site.workplace ∧
      ∀ asked, (rollBack site written).file? asked =
        match written.find? fun draft => draft.path.place site.workplace = asked with
        | some draft => draft.before.map Text.encode
        | none => site.file? asked := by
  -- The documents behind the first are undone before it, so the first has the last word.
  induction written with
  | nil => exact ⟨fun _ _ => id, rfl, fun _ => rfl⟩
  | cons draft rest inductionHypothesis =>
      obtain ⟨opensRest, workplace, files⟩ :=
        inductionHypothesis fun other member => opens other (List.mem_cons_of_mem draft member)
      obtain ⟨place, opensHere⟩ := opens draft List.mem_cons_self
      have opensLater := opensRest draft.path place opensHere
      change (∀ path place, site.Opens path place →
        (restore draft (rollBack site rest)).Opens path place) ∧
        (restore draft (rollBack site rest)).workplace = _ ∧
        ∀ asked, (restore draft (rollBack site rest)).file? asked = _
      refine ⟨fun path there opensThere =>
        opens_restore opensLater (opensRest path there opensThere),
        (workplace_restore opensLater).trans workplace, fun asked => ?_⟩
      rw [file?_restore opensLater, List.find?_cons, Site.place_of_locate opensHere.locates, files]
      by_cases same : asked = place
      · rw [if_pos same, same]
        simp
      · rw [if_neg same]
        simp [Ne.symm same]

/-! ## Writing -/

/-- How far a commit has come: what was written stands in its files and can be written again, all
other files are as they were, and no new directory lies where a file was. -/
structure Progress (start site : Site) (written : List Draft) : Prop where
  workplace : site.workplace = start.workplace
  keeps : ∀ place, start.isDirectory place → site.isDirectory place
  fresh : ∀ place, site.isDirectory place → start.isDirectory place ∨ start.file? place = none
  opens : ∀ draft ∈ written, ∃ place, site.Opens draft.path place ∧ site.isFile place
  others : ∀ place, (∀ draft ∈ written, draft.path.place start.workplace ≠ place) →
    site.file? place = start.file? place
  stored : (written.map fun draft => draft.path.place start.workplace).Nodup →
    ∀ draft ∈ written, site.file? (draft.path.place start.workplace) = some (bytesOf draft)

namespace Progress

theorem begun (start : Site) : Progress start start [] :=
  ⟨rfl, fun _ => id, fun _ => .inl, nofun, fun _ _ => rfl, nofun⟩

/-- Making directories is no step of a commit. -/
theorem grown (progress : Progress start site written) (grown : Site.Grown site next) :
    Progress start next written where
  workplace := grown.workplace.trans progress.workplace
  keeps place known := grown.keeps place (progress.keeps place known)
  fresh place known := by
    rcases grown.fresh place known with earlier | absent
    · exact progress.fresh place earlier
    · -- Where a draft was written there is a file, so no directory was made there.
      by_cases here : ∃ draft ∈ written, draft.path.place start.workplace = place
      · obtain ⟨draft, member, rfl⟩ := here
        obtain ⟨there, opens, held⟩ := progress.opens draft member
        rw [← progress.workplace, Site.place_of_locate opens.locates] at absent
        rw [Site.isFile, absent] at held
        cases held
      · rw [progress.others place fun draft member same => here ⟨draft, member, same⟩] at absent
        exact .inr absent
  opens draft member := by
    obtain ⟨place, opens, held⟩ := progress.opens draft member
    refine ⟨place, opens.grown held grown, ?_⟩
    rw [Site.isFile, grown.file?]
    exact held
  others place apart := (grown.file? place).trans (progress.others place apart)
  stored distinct draft member := (grown.file? _).trans (progress.stored distinct draft member)

/-- Setting the file of a draft is one step of a commit. -/
theorem setFile (progress : Progress start site written) (opens : site.Opens draft.path place) :
    Progress start (site.setFile place (bytesOf draft)) (written ++ [draft]) := by
  have here : draft.path.place start.workplace = place := by
    rw [← progress.workplace]
    exact Site.place_of_locate opens.locates
  refine ⟨Site.workplace_setFile.trans progress.workplace, fun place known => ?_,
    fun place known => ?_, fun other member => ?_, fun asked apart => ?_,
    fun distinct other member => ?_⟩
  · rw [Site.isDirectory_setFile]
    exact progress.keeps place known
  · rw [Site.isDirectory_setFile] at known
    exact progress.fresh place known
  · rcases List.mem_append.mp member with earlier | new
    · obtain ⟨there, opensThere, held⟩ := progress.opens other earlier
      refine ⟨there, opensThere.setFile, ?_⟩
      rw [Site.isFile, Site.file?_setFile]
      split_ifs
      · rfl
      · exact held
    · obtain rfl := List.mem_singleton.mp new
      refine ⟨place, opens.setFile, ?_⟩
      rw [Site.isFile, Site.file?_setFile, if_pos rfl]
      rfl
  · have elsewhere : asked ≠ place := fun same =>
      apart draft (List.mem_append_right written List.mem_cons_self) (here.trans same.symm)
    rw [Site.file?_setFile, if_neg elsewhere]
    exact progress.others asked fun other member => apart other (List.mem_append_left _ member)
  · rw [List.map_append, List.nodup_append] at distinct
    obtain ⟨earlierDistinct, -, apart⟩ := distinct
    rw [Site.file?_setFile]
    rcases List.mem_append.mp member with earlier | new
    · have elsewhere : other.path.place start.workplace ≠ place :=
        here ▸ apart _ (List.mem_map_of_mem earlier) _ List.mem_cons_self
      rw [if_neg elsewhere]
      exact progress.stored earlierDistinct other earlier
    · obtain rfl := List.mem_singleton.mp new
      rw [if_pos here]

/-- Undoing gives every place the earlier text of a draft that was written there, and leaves all
others alone. -/
theorem rollBack (progress : Progress start site written) (asked : Place) :
    (rollBack site written).file? asked = start.file? asked ∨
      ∃ draft ∈ written, draft.path.place start.workplace = asked ∧
        (Commit.rollBack site written).file? asked = draft.before.map Text.encode := by
  obtain ⟨-, -, files⟩ := rollBack_spec fun draft member =>
    (progress.opens draft member).imp fun place opens => opens.1
  have file := files asked
  cases found : written.find? fun draft => draft.path.place site.workplace = asked with
  | none =>
      rw [found] at file
      refine .inl (file.trans (progress.others asked fun draft member => ?_))
      rw [← progress.workplace]
      simpa using List.find?_eq_none.mp found draft member
  | some draft =>
      rw [found] at file
      have here := List.find?_some found
      rw [progress.workplace, decide_eq_true_eq] at here
      exact .inr ⟨draft, List.mem_of_find?_eq_some found, here, file⟩

end Progress

theorem store_ok (progress : Progress start site written)
    (stores : store refusals site draft = .ok next) :
    Progress start next (written ++ [draft]) := by
  unfold store at stores
  split at stores
  · cases stores
  · cases writes : site.write draft.path (bytesOf draft) with
    | error fault => rw [writes] at stores; cases stores
    | ok after =>
        rw [writes] at stores
        obtain rfl := Except.ok.inj stores
        obtain ⟨prepared, place, grown, opens, rfl⟩ := Site.write_ok writes
        exact (progress.grown grown).setFile opens

theorem store_error {cause : Text} (progress : Progress start site written)
    (fails : store refusals site draft = .error (cause, left)) : Progress start left written := by
  unfold store at fails
  split at fails
  · cases fails
    exact progress
  · cases writes : site.write draft.path (bytesOf draft) with
    | ok after => rw [writes] at fails; cases fails
    | error fault =>
        rw [writes] at fails
        cases fails
        exact progress.grown (Site.write_error writes)

/-- A commit that is undone has given every place the earlier text of a draft that was written
there, and left all others alone. -/
theorem Progress.undone {transactional : Bool} {failures : List Step} {rest : List Draft}
    {cause : Text} {restored : Nat} (progress : Progress start site written)
    (undone : continueWith refusals transactional site written failures rest =
      .undone left path cause restored) (asked : Place) :
    left.file? asked = start.file? asked ∨
      ∃ draft ∈ written ++ rest, draft.path.place start.workplace = asked ∧
        left.file? asked = draft.before.map Text.encode := by
  induction rest generalizing site written failures with
  | nil => rw [continueWith] at undone; cases undone
  | cons draft rest inductionHypothesis =>
      rw [continueWith] at undone
      cases stores : store refusals site draft with
      | ok next =>
          rw [stores] at undone
          dsimp only at undone
          split_ifs at undone with encodable
          have later := inductionHypothesis (store_ok progress stores) undone
          rwa [List.append_assoc, List.singleton_append] at later
      | error fault =>
          obtain ⟨cause, between⟩ := fault
          have unwritten := store_error progress stores
          rw [stores] at undone
          dsimp only at undone
          split_ifs at undone with isTransactional
          · cases undone
            refine (unwritten.rollBack asked).imp_right ?_
            rintro ⟨draft, member, here, file⟩
            exact ⟨draft, List.mem_append_left _ member, here, file⟩
          · refine (inductionHypothesis unwritten undone).imp_right ?_
            rintro ⟨draft, member, here, file⟩
            refine ⟨draft, ?_, here, file⟩
            rcases List.mem_append.mp member with earlier | later
            · exact List.mem_append_left _ earlier
            · exact List.mem_append_right _ (List.mem_cons_of_mem _ later)

/-- What a commit that finishes has made of the drafts it was given: it has written some of them in
order, which could be encoded, and recorded a failure for each of the others. -/
structure Completed (transactional : Bool) (given kept : List Draft) (failures : List Step) :
    Prop where
  sublist : kept.Sublist given
  encodable : ∀ draft ∈ kept, draft.encodable = true
  failed : ∀ step ∈ failures, step.failed = true
  complete : failures = [] → kept = given
  careful : transactional = true → failures = []

namespace Completed

variable {transactional : Bool} {given kept : List Draft} {failures : List Step}

theorem nil : Completed transactional [] [] [] :=
  ⟨List.Sublist.slnil, nofun, nofun, fun _ => rfl, fun _ => rfl⟩

theorem keep (completed : Completed transactional given kept failures)
    (encodable : draft.encodable = true) :
    Completed transactional (draft :: given) (draft :: kept) failures where
  sublist := completed.sublist.cons_cons draft
  encodable other member := by
    rcases List.mem_cons.mp member with rfl | later
    · exact encodable
    · exact completed.encodable other later
  failed := completed.failed
  complete none := by rw [completed.complete none]
  careful := completed.careful

theorem drop (completed : Completed false given kept failures) {step : Step}
    (failed : step.failed = true) :
    Completed false (draft :: given) kept (step :: failures) where
  sublist := completed.sublist.cons draft
  encodable := completed.encodable
  failed other member := by
    rcases List.mem_cons.mp member with rfl | later
    · exact failed
    · exact completed.failed other later
  complete := nofun
  careful := nofun

end Completed

/-- A commit that finishes has made progress with the drafts that it wrote. -/
theorem Progress.finished {transactional : Bool} {failures failed : List Step}
    {rest all : List Draft} (progress : Progress start site written)
    (finished : continueWith refusals transactional site written failures rest =
      .finished left all failed) :
    ∃ kept later, all = written ++ kept ∧ failed = failures ++ later ∧ Progress start left all ∧
      Completed transactional rest kept later := by
  induction rest generalizing site written failures with
  | nil =>
      rw [continueWith] at finished
      cases finished
      exact ⟨[], [], (List.append_nil _).symm, (List.append_nil _).symm, progress, .nil⟩
  | cons draft rest inductionHypothesis =>
      rw [continueWith] at finished
      cases stores : store refusals site draft with
      | ok next =>
          rw [stores] at finished
          dsimp only at finished
          split_ifs at finished with encodable
          obtain ⟨kept, later, all, failed, progress, completed⟩ :=
            inductionHypothesis (store_ok progress stores) finished
          rw [List.append_assoc, List.singleton_append] at all
          exact ⟨draft :: kept, later, all, failed, progress, completed.keep encodable⟩
      | error fault =>
          obtain ⟨cause, between⟩ := fault
          rw [stores] at finished
          dsimp only at finished
          split_ifs at finished with careful
          obtain rfl := Bool.eq_false_iff.mpr careful
          obtain ⟨kept, later, all, failed, progress, completed⟩ :=
            inductionHypothesis (store_error progress stores) finished
          rw [List.append_assoc, List.singleton_append] at failed
          exact ⟨kept, _, all, failed, progress, completed.drop rfl⟩

end Commit

end EmbedScaffold
