import EmbedScaffold.Proofs.Run.Commit
import EmbedScaffold.Proofs.Run.Course
import EmbedScaffold.Proofs.Text.Utf8

/-!
# All or nothing

A run that does not succeed leaves every file alone, but for two things that undoing cannot know: a
file that was written has lost its carriage returns, and a file that its path hides is removed.
-/

namespace EmbedScaffold

namespace Staging

variable {site : Site} {staging : Staging} {draft : Draft} {place : Place}

theorem Faithful.writable (faithful : Faithful site staging.drafts)
    (member : draft ∈ staging.drafts.writable) : site.read draft.path = .ok draft.before := by
  obtain ⟨⟨place, other⟩, among, rfl⟩ := List.mem_map.mp (List.mem_of_mem_filter member)
  exact (faithful place other among).2

end Staging

namespace Run

variable {settings : Settings} {means : Means} {staging : Staging} {report : Report}
  {ending : Ending}

/-- A run that has nothing to push and does not succeed has written nothing, or its commit was
undone, unless a text could not be encoded. -/
theorem finish_unsuccessful (offline : means.publisher = none)
    (unsuccessful : (finish means settings staging report ending).succeeded = false)
    (encodable : (finish means settings staging report ending).result ≠ .error .unencodable) :
    (finish means settings staging report ending).site = ending.site ∨
      ∃ left path cause restored,
        Commit.ofDrafts means.refusals settings.transactional ending.site
          staging.drafts.writable = .undone left path cause restored ∧
        (finish means settings staging report ending).site = left := by
  unfold finish at *
  dsimp only at *
  split_ifs at * with failed dry
  · exact .inl rfl
  · exact .inl rfl
  · unfold commit at *
    cases commits : Commit.ofDrafts means.refusals settings.transactional ending.site
        staging.drafts.writable with
    | unencodable left =>
        rw [commits] at encodable
        exact absurd rfl encodable
    | undone left path cause restored =>
        exact .inr ⟨left, path, cause, restored, rfl, rfl⟩
    | finished left written failures =>
        rw [commits] at unsuccessful
        simp only [pushWritten, offline] at unsuccessful
        cases unsuccessful

end Run

/-- A document that is given its earlier text has the bytes it had, but for its carriage returns;
one that was taken for missing is removed. -/
theorem Site.file?_restored {site : Site} {path : Path} {before : Option Text}
    (reads : site.read path = .ok before) :
    before.map Text.encode = site.file? (path.place site.workplace) ∨
      (∃ bytes content, site.file? (path.place site.workplace) = some bytes ∧ 0x0D ∈ bytes ∧
        Text.decode 0 bytes = .ok content ∧
        before.map Text.encode = some (Text.encode (Text.normalizeNewlines content))) ∨
      (site.Hides path ∧ before.map Text.encode = none) := by
  cases before with
  | none =>
      cases found : site.file? (path.place site.workplace) with
      | none => exact .inl rfl
      | some bytes =>
          refine .inr (.inr ⟨⟨reads, ?_⟩, rfl⟩)
          rw [Site.isFile, found]
          rfl
  | some text =>
      obtain ⟨bytes, content, found, decodes, rfl⟩ := Site.exists_of_read reads
      by_cases returns : 0x0D ∈ bytes
      · exact .inr (.inl ⟨bytes, content, found, returns, decodes, rfl⟩)
      · rw [found, Option.map_some, Text.encode_normalizeNewlines decodes returns]
        exact .inl rfl

/-- A run that pushes nothing and does not succeed leaves every file as it was, unless it broke off
over a text that cannot be encoded.  Only a file with carriage returns may have lost them, and only
a file that a path hides may be gone; no file is new. -/
theorem file?_of_unsuccessful (refusals : Refusals) (settings : Settings) (shell : Shell)
    (site : Site) (exchange : Remote.Exchange) (name : Text)
    (offline : settings.remote.enabled = false)
    (unsuccessful : (runUnder refusals settings shell site exchange name).succeeded = false)
    (encodable : (runUnder refusals settings shell site exchange name).result ≠
      .error .unencodable)
    (place : Place) :
    (runUnder refusals settings shell site exchange name).site.file? place = site.file? place ∨
      (∃ bytes content, site.file? place = some bytes ∧ 0x0D ∈ bytes ∧
        Text.decode 0 bytes = .ok content ∧
        (runUnder refusals settings shell site exchange name).site.file? place =
          some (Text.encode (Text.normalizeNewlines content))) ∨
      (∃ path, path.place site.workplace = place ∧ site.Hides path ∧
        (runUnder refusals settings shell site exchange name).site.file? place = none) := by
  rcases runUnder_course refusals settings shell site exchange name with
    ⟨same, -⟩ | ⟨means, creates, course⟩
  · rw [same]
    exact .inl rfl
  · obtain ⟨-, -, unpublished, -⟩ := Run.Means.ofSettings_ok creates
    generalize runUnder refusals settings shell site exchange name = ending at *
    cases course with
    | stopped same => exact .inl (by rw [same])
    | staged reads generates leads owns stages same =>
        rcases Run.finish_unsuccessful (unpublished offline) unsuccessful encodable with
          unwritten | ⟨left, path, cause, restored, undone, leaves⟩
        · rw [unwritten, same]
          exact .inl rfl
        · rw [same] at undone
          rw [leaves]
          rcases (Commit.Progress.begun site).undone undone place with
            unchanged | ⟨draft, member, here, file⟩
          · exact .inl unchanged
          · have path := (Component.generate_ok generates).2.2
            have faithful := Run.stage_faithful (path ▸ Run.existing_ok reads) stages
            -- The place has the text that its path read before the run.
            rw [← here] at file ⊢
            rw [file]
            rcases Site.file?_restored (faithful.writable member) with kept | returned | hidden
            · exact .inl kept
            · exact .inr (.inl returned)
            · exact .inr (.inr ⟨draft.path, rfl, hidden⟩)

namespace Run

/-- A small site whose component document has a carriage return. -/
def returningSite : Site :=
  compactSite "const COMMON_FIELDS = input = \x7b\x7d;\n"
    [("Tab.svelte".toList, Text.encode "<p>\r\n".toList)]

/-- A run on that site under a system that does not let it write the registry. -/
def refusedRun : Ending :=
  runUnder [([['r']], "full".toList)] compactSettings compactShell returningSite ⟨[], []⟩
    "Tab".toList

theorem refusedRun_restores :
    (refusedRun.succeeded = false ∧ refusedRun.result ≠ .error .unencodable) ∧
      refusedRun.site.file? [['d'], "Tab.svelte".toList] =
        some (Text.encode "<p>\n".toList) := by
  decide +kernel

end Run

theorem file?_of_unsuccessful_refused :
    (Run.refusedRun.succeeded = false ∧ Run.refusedRun.result ≠ .error .unencodable) ∧
      ∃ bytes content,
        Run.returningSite.file? [['d'], "Tab.svelte".toList] = some bytes ∧ 0x0D ∈ bytes ∧
        Text.decode 0 bytes = .ok content ∧
        Run.refusedRun.site.file? [['d'], "Tab.svelte".toList] =
          some (Text.encode (Text.normalizeNewlines content)) := by
  obtain ⟨⟨unsuccessful, encodable⟩, restored⟩ := Run.refusedRun_restores
  refine ⟨⟨unsuccessful, encodable⟩, ?_⟩
  rcases file?_of_unsuccessful [([['r']], "full".toList)] Run.compactSettings Run.compactShell
      Run.returningSite ⟨[], []⟩ "Tab".toList rfl unsuccessful encodable
      [['d'], "Tab.svelte".toList] with unchanged | returned | ⟨path, -, -, gone⟩
  · rw [show (runUnder _ _ _ _ _ _).site.file? _ = _ from restored] at unchanged
    exact absurd unchanged (by decide +kernel)
  · exact returned
  · rw [show (runUnder _ _ _ _ _ _).site.file? _ = _ from restored] at gone
    cases gone

/-- A transactional run that pushes nothing may fail and leave a file with other bytes. -/
theorem unsuccessful_file_changed :
    Run.compactSettings.transactional = true ∧ Run.compactSettings.remote.enabled = false ∧
      Run.refusedRun.succeeded = false ∧
      Run.refusedRun.site.file? [['d'], "Tab.svelte".toList] ≠
        Run.returningSite.file? [['d'], "Tab.svelte".toList] := by
  obtain ⟨⟨unsuccessful, -⟩, restored⟩ := Run.refusedRun_restores
  refine ⟨rfl, rfl, unsuccessful, ?_⟩
  rw [restored]
  decide +kernel

end EmbedScaffold
