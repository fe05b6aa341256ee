import EmbedScaffold.Proofs.Registry.Outcome
import EmbedScaffold.Run.Target

/-!
# What targets tell

An edit that tells of no change gives back the text, and a document that may be created always has
a place for the component.
-/

namespace EmbedScaffold

/-! ## Edits -/

/-- An outcome that tells of no change has the text before. -/
def Outcome.IsHonest (before : Text) (outcome : Outcome) : Prop :=
  outcome.changed = false → outcome.content = before

theorem Outcome.IsExact.isHonest {before : Text} {outcome : Outcome}
    (isExact : outcome.IsExact before) : outcome.IsHonest before := by
  intro unchanged
  by_contra different
  cases unchanged.symm.trans (isExact.mpr different)

/-! ## Targets -/

namespace Target

variable {settings : Settings} {workplace : Place} {site : Site} {component : Component}
  {others : List Target} {target : Target} {content : Text} {outcome : Outcome}

theorem isExact_schemaEdit {key : Text} {fields : List Field}
    (edits : schemaEdit key fields content = .ok outcome) : outcome.IsExact content := by
  obtain ⟨prepared, -, edits⟩ := exists_of_bind edits
  obtain ⟨entered, -, edits⟩ := exists_of_bind edits
  obtain rfl := Except.ok.inj edits
  exact Outcome.isExact_ofTexts content _

/-- How every target edits: it tells of its changes, and enters the component wherever it may
create the document. -/
structure IsOrderly (target : Target) : Prop where
  honest : ∀ content outcome, target.edit content = .ok (some outcome) → outcome.IsHonest content
  enters : target.initial.isSome → ∀ content, target.edit content ≠ .ok none

/-- An edit that gives nothing but outcomes of another one. -/
theorem isOrderly_of_map {edit : Text → Except PatchFault Outcome}
    (edits : target.edit = fun content => (edit content).map some)
    (honest : ∀ content outcome, edit content = .ok outcome → outcome.IsHonest content) :
    target.IsOrderly where
  honest content outcome gives := by
    rw [edits] at gives
    obtain ⟨given, inner, same⟩ := exists_of_map gives
    obtain rfl := Option.some.inj same
    exact honest content given inner
  enters _ content withoutPlace := by
    rw [edits] at withoutPlace
    obtain ⟨given, -, none⟩ := exists_of_map withoutPlace
    cases none

theorem isOrderly_mockData : (mockData settings component).IsOrderly where
  honest content outcome edits := (isExact_upsertCase edits).isHonest
  enters created := by cases created

theorem isOrderly_upsertOf {wanted : EntryUpsert} (edits : target.edit = upsertOf wanted) :
    target.IsOrderly :=
  isOrderly_of_map edits fun _ _ gives => (isExact_upsertEntry gives).isHonest

theorem isOrderly_of_registry (member : target ∈ registries settings workplace component) :
    target.IsOrderly := by
  simp only [registries, List.mem_cons, List.not_mem_nil, or_false] at member
  rcases member with rfl | rfl | rfl | rfl | rfl | rfl
  · exact isOrderly_upsertOf rfl
  · exact isOrderly_upsertOf rfl
  · exact isOrderly_of_map rfl fun content outcome gives => (isExact_schemaEdit gives).isHonest
  · exact isOrderly_upsertOf rfl
  · exact isOrderly_mockData
  · exact isOrderly_upsertOf rfl

theorem isOrderly_of_mem
    (published : loadersAndPlayground settings site component = .ok others)
    (member : target ∈ registries settings workplace component ++ others) :
    target.IsOrderly := by
  rcases List.mem_append.mp member with registry | other
  · exact isOrderly_of_registry registry
  · obtain ⟨paths, -, published⟩ := exists_of_bind published
    obtain rfl := Except.ok.inj published
    rcases List.mem_append.mp other with loader | page
    · obtain ⟨path, -, rfl⟩ := List.mem_map.mp loader
      exact isOrderly_upsertOf rfl
    · unfold playground at page
      dsimp only at page
      split_ifs at page
      · cases page
      · obtain rfl := List.mem_singleton.mp page
        exact isOrderly_of_map rfl fun content outcome gives =>
          (isExact_patchPlayground gives).isHonest

end Target

end EmbedScaffold
