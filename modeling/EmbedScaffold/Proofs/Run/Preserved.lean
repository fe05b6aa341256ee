import EmbedScaffold.Proofs.Registry.Frame
import EmbedScaffold.Proofs.Run.Report

/-!
# What stays of a registry

A registry that one upsert has rewritten keeps its bytes up to the opening brace of the mapping and
from the closing one on, but for its carriage returns: these are read as line ends and written as
line feeds.
-/

namespace EmbedScaffold

/-! ## Targets that rewrite a document -/

namespace Staging

variable {site : Site} {begun drafts later : Drafts} {target : Target} {step : Step} {place : Place}
  {trace : List (Target × Step)} {draft : Draft}

/-- Whether a step made its document or changed it. -/
def isRewriting : Status → Bool
  | .new | .changed => true
  | .unchanged | .skipped | .error => false

/-- The targets at a place whose steps rewrote the document, in order, with what the steps tell. -/
def rewritersAt (workplace place : Place) (trace : List (Target × Step)) :
    List (Target × Status) :=
  (trace.filter fun (target, step) =>
    target.path.place workplace = place && isRewriting step.status).map fun (target, step) =>
      (target, step.status)

theorem rewritersAt_concat {workplace : Place} :
    rewritersAt workplace place (trace ++ [(target, step)]) =
      rewritersAt workplace place trace ++
        if target.path.place workplace = place && isRewriting step.status then
          [(target, step.status)] else [] := by
  rw [rewritersAt, List.filter_append, List.map_append, ← rewritersAt, List.filter_cons]
  split_ifs <;> rfl

theorem rewritersAt_zip {workplace : Place} (targets : List Target) (steps : List Step) :
    rewritersAt workplace place (targets.zip steps) =
      (targets.zip (steps.map Step.status)).filter fun (target, status) =>
        target.path.place workplace = place && isRewriting status := by
  rw [List.zip_map_right, List.filter_map]
  rfl

/-- Whether a place has the text of its document, edited by those targets that changed it. -/
def Rewritten (site : Site) (place : Place) (rewriters : List (Target × Status)) :
    Option Draft → Prop
  | none => rewriters = []
  | some draft => ∃ content, site.textAt? place = some content ∧ draft.before = some content ∧
      editAll (rewriters.map Prod.fst) content = some draft.content

theorem Drafted.rewritten {rewriters : List (Target × Status)}
    (drafted : Drafted site drafts target draft) (read : draft.before ≠ none)
    (rewritten : Rewritten site (target.path.place site.workplace) rewriters
      (drafts.at? (target.path.place site.workplace))) :
    Rewritten site (target.path.place site.workplace) rewriters (some draft) := by
  cases drafted with
  | staged found => rwa [found] at rewritten
  | read absent reads =>
      rw [absent] at rewritten
      obtain rfl : rewriters = [] := rewritten
      exact ⟨_, Site.textAt?_of_read reads, rfl, rfl⟩
  | new => exact absurd rfl read

/-- One target keeps a place in step with those that changed it, if it did not make the document. -/
theorem Applied.rewritten (applied : Applied site drafts target step later)
    (orderly : target.IsOrderly)
    (read : target.path.place site.workplace = place → step.status ≠ .new)
    (rewritten : Rewritten site place (rewritersAt site.workplace place trace)
      (drafts.at? place)) :
    Rewritten site place (rewritersAt site.workplace place (trace ++ [(target, step)]))
      (later.at? place) := by
  rw [rewritersAt_concat]
  by_cases here : target.path.place site.workplace = place
  · subst here
    rw [decide_eq_true rfl, Bool.true_and]
    cases applied with
    | unread => simpa [isRewriting] using rewritten
    | missing => simpa [isRewriting] using rewritten
    | unedited => simpa [isRewriting] using rewritten
    | withoutPlace begins edits =>
        rw [if_neg (by simp [isRewriting]), List.append_nil]
        split_ifs with isNew
        · exact rewritten
        · rw [Drafts.at?_put, if_pos rfl]
          apply (drafted_of_draftFor begins).rewritten _ rewritten
          intro absent
          rw [absent] at isNew
          exact isNew rfl
    | @entered draft outcome begins edits =>
        have known : draft.before ≠ none := by
          intro absent
          apply read rfl
          rw [absent]
          rfl
        have isRead : draft.before.isNone = false := by
          rw [Option.isNone_eq_false_iff, Option.isSome_iff_ne_none]
          exact known
        obtain ⟨content, text, before, edited⟩ :=
          (drafted_of_draftFor begins).rewritten known rewritten
        rw [Drafts.at?_put, if_pos rfl, isRead]
        by_cases changes : (outcome.changed || ! target.encodable) = true
        · rw [changes]
          refine ⟨content, text, before, ?_⟩
          rw [Status.ofEdit, if_neg Bool.false_ne_true, if_pos rfl, isRewriting, if_pos rfl,
            List.map_append]
          exact editAll_concat edited edits
        · -- An edit that tells of no change gives back the text.
          rw [Bool.not_eq_true] at changes
          obtain ⟨unchanged, -⟩ := Bool.or_eq_false_iff.mp changes
          have same := orderly.honest _ _ edits unchanged
          rw [changes]
          refine ⟨content, text, before, ?_⟩
          dsimp only
          rw [Status.ofEdit, if_neg Bool.false_ne_true, if_neg Bool.false_ne_true,
            if_neg (by simp [isRewriting]), List.append_nil, same]
          exact edited
  · rwa [decide_eq_false here, Bool.false_and, if_neg Bool.false_ne_true, List.append_nil,
      applied.at?_elsewhere here]

theorem Traced.rewritten (traced : Traced site begun trace drafts)
    (orderly : ∀ pair ∈ trace, pair.1.IsOrderly)
    (read : ∀ pair ∈ trace, pair.1.path.place site.workplace = place → pair.2.status ≠ .new)
    (unstaged : begun.at? place = none) :
    Rewritten site place (rewritersAt site.workplace place trace) (drafts.at? place) := by
  induction traced with
  | begun =>
      rw [unstaged]
      exact rfl
  | next traced applied inductionHypothesis =>
      apply applied.rewritten
      · exact orderly _ (List.mem_append_right _ List.mem_cons_self)
      · exact read _ (List.mem_append_right _ List.mem_cons_self)
      apply inductionHypothesis
      · exact fun pair member => orderly pair (List.mem_append_left _ member)
      · exact fun pair member => read pair (List.mem_append_left _ member)

end Staging

namespace Run

variable {settings : Settings} {site left : Site} {component : Component} {staging : Staging}
  {others : List Target} {report : Report} {place : Place}

/-- The targets of a component, each with the step that a report tells of it; the first step of a
report is that of the component itself. -/
def toldSteps (settings : Settings) (workplace : Place) (component : Component)
    (others : List Target) (report : Report) : List (Target × Step) :=
  (Target.registries settings workplace component ++ others).zip (report.steps.drop 1)

theorem zip_of_trace (trace : List (Target × Step)) (more : List Step) :
    (trace.map Prod.fst).zip (trace.map Prod.snd ++ more) = trace := by
  induction trace with
  | nil => rfl
  | cons pair rest inductionHypothesis =>
      rw [List.map_cons, List.map_cons, List.cons_append, List.zip_cons_cons, inductionHypothesis]

/-- What a report tells of the targets is how their drafts came about. -/
theorem exists_told {existing : Option Text}
    (published : Target.loadersAndPlayground settings site component = .ok others)
    (stages : stage settings site component
      (Staging.ofComponent site.workplace existing component) = .ok staging)
    (tells : staging.steps <+: report.steps) :
    ∃ trace, toldSteps settings site.workplace component others report = trace ∧
      trace.map Prod.fst = Target.registries settings site.workplace component ++ others ∧
      Staging.Traced site (Staging.ofComponent site.workplace existing component).drafts trace
        staging.drafts := by
  obtain ⟨found, edited, finds, edits, validates⟩ := stage_ok stages
  obtain rfl := Except.ok.inj (finds.symm.trans published)
  obtain ⟨trace, targets, traced, steps⟩ := Staging.edit_ok edits
  obtain ⟨drafts, imbalances, -, checked⟩ := Staging.validate_ok validates
  obtain ⟨more, told⟩ := tells
  refine ⟨trace, ?_, targets, drafts ▸ traced⟩
  have behind : report.steps.drop 1 =
      trace.map Prod.snd ++ (imbalances.filterMap id ++ more) := by
    rw [← told, checked, steps]
    simp [Staging.ofComponent]
  rw [toldSteps, behind, ← targets]
  exact zip_of_trace trace _

/-- Whether a run has rewritten a registry by one upsert, into a mapping that the document had with
the header line. -/
structure UpsertedOnce (settings : Settings) (site : Site) (report : Report) (place : Place)
    (content : Text) (mapping : Mapping) : Prop where
  written : ∃ path ∈ report.written, path.place site.workplace = place
  reads : site.textAt? place = some content
  rewritten : ∃ component others target wanted document,
    report.component = some component ∧
    Target.loadersAndPlayground settings site component = .ok others ∧
    place ≠ component.path.place site.workplace ∧
    Staging.rewritersAt site.workplace place
      (toldSteps settings site.workplace component others report) = [(target, .changed)] ∧
    target.edit content = Target.upsertOf wanted content ∧
    (∀ line ∈ wanted.headerLine, Header.hasLine content line = true) ∧
    Document.ofText content = .ok document ∧
    Mapping.find? document wanted.mapping = .ok (some mapping)

/-- The text that was staged for such a registry. -/
theorem UpsertedOnce.exists_content {existing : Option Text} {content : Text} {mapping : Mapping}
    {draft : Draft} (upserted : UpsertedOnce settings site report place content mapping)
    (generated : report.component = some component)
    (stages : stage settings site component
      (Staging.ofComponent site.workplace existing component) = .ok staging)
    (tells : staging.steps <+: report.steps) (staged : staging.drafts.at? place = some draft) :
    ∃ inner, draft.content =
      content.take (mapping.opened + 1) ++ (inner ++ content.drop mapping.closed) := by
  obtain ⟨found, others, target, wanted, document, same, published, apart, rewriters, edits, headed,
    scannedText, located⟩ := upserted.rewritten
  obtain rfl := Option.some.inj (same.symm.trans generated)
  obtain ⟨trace, told, targets, traced⟩ := exists_told published stages tells
  rw [told] at rewriters
  have orderly : ∀ pair ∈ trace, pair.1.IsOrderly := by
    intro pair member
    have among : pair.1 ∈ trace.map Prod.fst := List.mem_map_of_mem member
    rw [targets] at among
    exact Target.isOrderly_of_mem published among
  have read : ∀ pair ∈ trace, pair.1.path.place site.workplace = place →
      pair.2.status ≠ .new := by
    intro pair member here isNew
    have among : (pair.1, pair.2.status) ∈ Staging.rewritersAt site.workplace place trace := by
      refine List.mem_map.mpr ⟨pair, List.mem_filter.mpr ⟨member, ?_⟩, rfl⟩
      simp [here, isNew, Staging.isRewriting]
    rw [rewriters, List.mem_singleton] at among
    cases isNew.symm.trans (congrArg Prod.snd among)
  have unstaged : (Staging.ofComponent site.workplace existing found).drafts.at? place = none := by
    change Drafts.at? [(found.path.place site.workplace, _)] place = none
    rw [Drafts.at?, List.lookup_cons, beq_false_of_ne apart]
    rfl
  have rewritten := traced.rewritten orderly read unstaged
  rw [rewriters, staged] at rewritten
  obtain ⟨text, isText, -, edited⟩ := rewritten
  obtain rfl := Option.some.inj (isText.symm.trans upserted.reads)
  obtain ⟨outcome, inner, upserts, keeps⟩ := exists_upsertEntry headed scannedText located
  have gives : target.edit text = .ok (some outcome) := by
    rw [edits, Target.upsertOf, upserts]
    rfl
  refine ⟨inner, ?_⟩
  rw [← keeps]
  simpa [Staging.editAll, gives] using edited.symm

end Run

/-- The bytes of a text that is read, cut where the text is cut. -/
theorem Site.exists_bytes_of_textAt? {site : Site} {place : Place} {head inner tail : Text}
    (reads : site.textAt? place = some (head ++ (inner ++ tail))) :
    ∃ before within after,
      site.file? place =
        some (Text.encode before ++ (Text.encode within ++ Text.encode after)) ∧
      Text.normalizeNewlines before = head ∧ Text.normalizeNewlines after = tail := by
  obtain ⟨bytes, found, decoded⟩ := Option.bind_eq_some_iff.mp reads
  obtain ⟨raw, decodes, normal⟩ := Option.map_eq_some_iff.mp decoded
  obtain ⟨before, behind, rfl, isHead, normal⟩ := Text.exists_of_normalizeNewlines_eq_append normal
  obtain ⟨within, after, rfl, -, isTail⟩ := Text.exists_of_normalizeNewlines_eq_append normal
  refine ⟨before, within, after, ?_, isHead, isTail⟩
  have isRaw : Text.decode 0 bytes = .ok (before ++ (within ++ after)) := by
    cases result : Text.decode 0 bytes with
    | error failure => rw [result] at decodes; cases decodes
    | ok raw =>
        rw [result] at decodes
        rw [Option.some.inj decodes]
  rw [found, ← Text.encode_of_decode isRaw]
  simp only [Text.encode, List.flatMap_append]

/-- A registry that a run has rewritten by one upsert holds its bytes up to the opening brace of the
mapping, and those from the closing one on, with line feeds for the line ends that were read.  So
either of the two stretches is as it was exactly if it has no carriage return. -/
theorem file?_of_upserted (refusals : Refusals) (settings : Settings) (shell : Shell) (site : Site)
    (exchange : Remote.Exchange) (name : Text) {report : Report} {place : Place} {content : Text}
    {mapping : Mapping}
    (ends : (runUnder refusals settings shell site exchange name).result = .ok report)
    (upserted : Run.UpsertedOnce settings site report place content mapping) :
    ∃ before within after inner,
      site.file? place =
        some (Text.encode before ++ (Text.encode within ++ Text.encode after)) ∧
      Text.normalizeNewlines before = content.take (mapping.opened + 1) ∧
      Text.normalizeNewlines after = content.drop mapping.closed ∧
      (runUnder refusals settings shell site exchange name).site.file? place =
        some (Text.encode (Text.normalizeNewlines before) ++
          (Text.encode inner ++ Text.encode (Text.normalizeNewlines after))) ∧
      (Text.encode (Text.normalizeNewlines before) = Text.encode before ↔ '\r' ∉ before) ∧
      (Text.encode (Text.normalizeNewlines after) = Text.encode after ↔ '\r' ∉ after) := by
  obtain ⟨path, member, rfl⟩ := upserted.written
  rcases Run.runUnder_written refusals settings shell site exchange name ends with
    ⟨unwritten, -⟩ | ⟨component, staging, kept, staged, committed⟩
  · rw [unwritten] at member
    cases member
  · obtain ⟨draft, found, -, holds, -⟩ := committed.holds staged member
    obtain ⟨existing, -, stages⟩ := staged.exists_existing
    obtain ⟨inner, keeps⟩ :=
      upserted.exists_content committed.component stages committed.steps found
    obtain ⟨-, -, -, wanted, document, -, -, -, -, -, -, scannedText, located⟩ :=
      upserted.rewritten
    obtain ⟨old, cut⟩ := Mapping.exists_between scannedText located
    have reads := upserted.reads
    rw [cut] at reads
    obtain ⟨before, within, after, bytes, isHead, isTail⟩ := Site.exists_bytes_of_textAt? reads
    refine ⟨before, within, after, inner, bytes, isHead, isTail, ?_,
      Text.encode_normalizeNewlines_eq_iff before, Text.encode_normalizeNewlines_eq_iff after⟩
    rw [holds, keeps, isHead, isTail]
    simp only [Text.encode, List.flatMap_append]

namespace Run

/-- A site with empty registries, of which one has a carriage return before its mapping. -/
def feedSite : Site :=
  apartSite [
    ([['b']], "input = \x7b\x7d"),
    ([['r']], "embedRegistry = \x7b\x7d"),
    ([['s']], "const COMMON_FIELDS = embedConfigRegistry = \x7b\x7d"),
    ([['q']], "// q\r\ncomponentProps = \x7b\x7d"),
    ([['o']], "embedComponents = \x7b\x7d")]

/-- The run that enters a component there. -/
def feedRun : Ending :=
  runUnder [] apartSettings compactShell feedSite ⟨[], []⟩ ['T']

/-- The text that is read from the registry. -/
def feedContent : Text :=
  "// q\ncomponentProps = \x7b\x7d".toList

theorem feedRun_upserts :
    ∃ report mapping, feedRun.result = .ok report ∧ report.success = true ∧
      mapping.opened = 22 ∧
      UpsertedOnce apartSettings feedSite report [['q']] feedContent mapping := by
  have told : (feedRun.result.toOption.any fun report =>
      report.success && report.component = some bareTab &&
        report.written.any (fun path => path.place [] = [['q']]) &&
        report.steps.map Step.status =
          [.new, .changed, .changed, .changed, .changed, .skipped, .changed, .skipped]) = true := by
    decide +kernel
  have published : Target.loadersAndPlayground apartSettings feedSite bareTab =
      .ok (Target.playground apartSettings [] bareTab) := by
    have none : apartSettings.publicLoaders feedSite = .ok [] := by decide +kernel
    rw [Target.loadersAndPlayground, none]
    rfl
  obtain ⟨document, mapping, scannedText, located, opened⟩ :=
    @Mapping.exists_located feedContent Target.propsMapping
      (fun _ mapping => mapping.opened = 22) (by decide +kernel)
  cases ends : feedRun.result with
  | error cause => rw [ends] at told; cases told
  | ok report =>
      rw [ends] at told
      simp only [Except.toOption, Option.any_some, Bool.and_eq_true, decide_eq_true_eq,
        List.any_eq_true] at told
      obtain ⟨⟨⟨success, generated⟩, path, member, here⟩, statuses⟩ := told
      refine ⟨report, mapping, rfl, success, of_decide_eq_true opened, ⟨path, member, here⟩,
        by decide +kernel,
        bareTab, _, Target.propsRegistry apartSettings bareTab, _, document, generated, published,
        by decide, ?_, rfl, ?_, scannedText, located⟩
      · rw [toldSteps, Staging.rewritersAt_zip, List.map_drop, statuses]
        rfl
      · intro line member
        cases member

/-- The bytes up to the first brace. -/
def upToBrace (bytes : Bytes) : Bytes :=
  bytes.takeWhile (· ≠ 0x7B)

end Run

theorem file?_of_upserted_feed :
    ∃ report mapping before within after inner,
      Run.feedRun.result = .ok report ∧
      Run.UpsertedOnce Run.apartSettings Run.feedSite report [['q']] Run.feedContent mapping ∧
      Run.feedSite.file? [['q']] =
        some (Text.encode before ++ (Text.encode within ++ Text.encode after)) ∧
      Run.feedRun.site.file? [['q']] =
        some (Text.encode (Text.normalizeNewlines before) ++
          (Text.encode inner ++ Text.encode (Text.normalizeNewlines after))) ∧
      (Text.encode (Text.normalizeNewlines before) = Text.encode before ↔ '\r' ∉ before) := by
  obtain ⟨report, mapping, ends, -, -, upserted⟩ := Run.feedRun_upserts
  obtain ⟨before, within, after, inner, bytes, -, -, left, same, -⟩ :=
    file?_of_upserted [] Run.apartSettings Run.compactShell Run.feedSite ⟨[], []⟩ ['T'] ends upserted
  exact ⟨report, mapping, before, within, after, inner, ends, upserted, bytes, left, same⟩

/-- A run that succeeds may leave other bytes up to the opening brace of a mapping. -/
theorem upserted_bytes_changed :
    ∃ report mapping,
      Run.feedRun.result = .ok report ∧ report.success = true ∧
      Run.UpsertedOnce Run.apartSettings Run.feedSite report [['q']] Run.feedContent mapping ∧
      Run.feedContent.idxOf '\x7b' = mapping.opened ∧
      (Run.feedRun.site.file? [['q']]).map Run.upToBrace ≠
        (Run.feedSite.file? [['q']]).map Run.upToBrace := by
  obtain ⟨report, mapping, ends, success, opened, upserted⟩ := Run.feedRun_upserts
  have differ : (Run.feedRun.site.file? [['q']]).map Run.upToBrace ≠
      (Run.feedSite.file? [['q']]).map Run.upToBrace := by
    decide +kernel
  exact ⟨report, mapping, ends, success, upserted, by rw [opened]; decide +kernel, differ⟩

end EmbedScaffold
