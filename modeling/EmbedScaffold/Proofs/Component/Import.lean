import EmbedScaffold.Component.Import
import EmbedScaffold.Proofs.Site.Between

/-!
# Paths of imports

The path under which a document imports a component leads from the directory of the document to the
component.  It is written with a leading `./` or `../`, except where the component is one of the two
directories above the document, or lies below a name that begins with a point: that point is taken
for the leading one.
-/

namespace EmbedScaffold

open Text

namespace Path

/-- Two texts without slashes that end at the same slash are the same. -/
theorem eq_of_slash {left right rest : Text} (leftName : '/' ∉ left) (rightName : '/' ∉ right)
    (leads : left ++ ['/'] <+: right ++ '/' :: rest) : left = right := by
  induction left generalizing right with
  | nil =>
      cases right with
      | nil => rfl
      | cons first others =>
          obtain ⟨more, same⟩ := leads
          have slash : '/' = first := (List.cons.inj same).1
          exact absurd (slash ▸ List.mem_cons_self) rightName
  | cons letter letters inductionHypothesis =>
      cases right with
      | nil =>
          obtain ⟨more, same⟩ := leads
          have slash : letter = '/' := (List.cons.inj same).1
          exact absurd (slash ▸ List.mem_cons_self) leftName
      | cons first others =>
          obtain ⟨same, leads⟩ := List.cons_prefix_cons.mp leads
          rw [List.mem_cons, not_or] at leftName rightName
          rw [same, inductionHypothesis leftName.2 rightName.2 leads]

/-- A path that begins with a name and a slash has that name for its first step, and a second
one. -/
theorem exists_steps_of_slash {steps : List Text} {name : Text} (named : '/' ∉ name)
    (areSteps : ∀ step ∈ steps, IsStep step) (leads : name ++ ['/'] <+: text ⟨[], steps⟩) :
    ∃ next rest, steps = name :: next :: rest := by
  have slash : '/' ∈ text ⟨[], steps⟩ := leads.subset (List.mem_append_right name (by simp))
  cases steps with
  | nil => exact absurd slash (by decide)
  | cons first others =>
      have firstName := (areSteps first List.mem_cons_self).2.2
      cases others with
      | nil => exact absurd slash firstName
      | cons next rest =>
          have shown : text ⟨[], first :: next :: rest⟩ =
              first ++ '/' :: Text.join ['/'] (next :: rest) := by
            rw [text, if_neg (by simp), List.nil_append, join_cons_cons, List.append_assoc]
            rfl
          rw [shown] at leads
          exact ⟨next, rest, by rw [eq_of_slash named firstName leads]⟩

theorem head?_text {first : Text} {rest : List Text} (isStep : IsStep first) :
    (text ⟨[], first :: rest⟩).head? = first.head? := by
  obtain ⟨letter, letters, rfl⟩ := List.exists_cons_of_ne_nil isStep.1
  rw [text, if_neg (by simp), List.nil_append, join_cons_head]
  rfl

end Path

namespace Component

open EmbedScaffold.Path

/-- Whether the path of an import begins with a step to where it is taken from, or above. -/
def IsRelative (written : Text) : Prop :=
  "./".toList <+: written ∨ "../".toList <+: written

instance (written : Text) : Decidable (IsRelative written) :=
  inferInstanceAs (Decidable (_ ∨ _))

variable {target component : Path} {steps : List Text}

/-- The text of a way is relative as it stands exactly if it climbs and goes on. -/
theorem isRelative_text_iff (areSteps : ∀ step ∈ steps, IsStep step) :
    IsRelative (text ⟨[], steps⟩) ↔ ∃ next rest, steps = upward :: next :: rest := by
  constructor
  · rintro (here | above)
    · obtain ⟨next, rest, rfl⟩ :=
        exists_steps_of_slash (show '/' ∉ ['.'] by decide) areSteps here
      exact absurd rfl (areSteps ['.'] List.mem_cons_self).2.1
    · exact exists_steps_of_slash (show '/' ∉ upward by decide) areSteps above
  · rintro ⟨next, rest, rfl⟩
    refine .inr ⟨Text.join ['/'] (next :: rest), ?_⟩
    rw [text, if_neg (by simp), List.nil_append, join_cons_cons]
    rfl

/-- With a leading point for a text that has none, the text of a way is relative unless it is that
of a single step up, or its first step goes down to a name that begins with a point. -/
theorem isRelative_dotted_iff (areSteps : ∀ step ∈ steps, IsStep step) :
    (IsRelative (if (text ⟨[], steps⟩).head? = some '.' then text ⟨[], steps⟩
      else "./".toList ++ text ⟨[], steps⟩)) ↔
      ∃ first rest, steps = first :: rest ∧
        (first.head? = some '.' → first = upward ∧ rest ≠ []) := by
  cases steps with
  | nil => exact ⟨fun relative => absurd relative (by decide), nofun⟩
  | cons first rest =>
      rw [head?_text (areSteps first List.mem_cons_self)]
      split_ifs with pointed
      · rw [isRelative_text_iff areSteps]
        constructor
        · rintro ⟨next, others, same⟩
          obtain ⟨rfl, rfl⟩ := List.cons.inj same
          exact ⟨upward, next :: others, rfl, fun _ => ⟨rfl, List.cons_ne_nil _ _⟩⟩
        · rintro ⟨_, _, ⟨⟩, climbs⟩
          obtain ⟨rfl, goesOn⟩ := climbs pointed
          obtain ⟨next, others, rfl⟩ := List.exists_cons_of_ne_nil goesOn
          exact ⟨next, others, rfl⟩
      · exact iff_of_true (.inl ⟨_, rfl⟩)
          ⟨first, rest, rfl, fun begins => absurd begins pointed⟩

theorem importPath_eq (workplace : Place) (targetNormal : target.IsNormal)
    (componentNormal : component.IsNormal) :
    importPath workplace target component =
      if (text ⟨[], stepsBetween target.parent.steps component.steps⟩).head? = some '.' then
        text ⟨[], stepsBetween target.parent.steps component.steps⟩
      else "./".toList ++ text ⟨[], stepsBetween target.parent.steps component.steps⟩ := by
  rw [importPath, textFrom, targetNormal.parent.place_eq, componentNormal.place_eq]

/-- The path of an import is read as the way from the directory of the document, with or without a
leading point. -/
theorem ofText_importPath (workplace : Place) (targetNormal : target.IsNormal)
    (componentNormal : component.IsNormal) :
    ofText (importPath workplace target component) =
      ⟨[], stepsBetween target.parent.steps component.steps⟩ := by
  have areSteps : ∀ step ∈ stepsBetween target.parent.steps component.steps, IsStep step :=
    fun step => isStep_of_mem_stepsBetween fun name member => (componentNormal.steps name member).1
  have read := ofText_text_of_isStep (.inl rfl) areSteps
  rw [importPath_eq workplace targetNormal componentNormal]
  split_ifs
  · exact read
  · -- The step before the first slash leads nowhere.
    have steps := congrArg Path.steps read
    have behind : splitOn '/' ("./".toList ++ text ⟨[], stepsBetween target.parent.steps
        component.steps⟩) = ['.'] :: splitOn '/' (text ⟨[], stepsBetween target.parent.steps
        component.steps⟩) := splitOn_append_cons '/' ['.'] _
    rw [ofText, behind, List.filter_cons, if_neg (by decide)]
    exact congrArg (Path.mk []) steps

/-- Where two places part, the one above does not lead to the other one. -/
theorem ne_append_of_parting {shared up down tail : Place} (climbs : up ≠ [])
    (part : ∀ first next, up.head? = some first → down.head? = some next → first ≠ next) :
    shared ++ down ≠ shared ++ up ++ tail := by
  intro same
  rw [List.append_assoc, List.append_cancel_left_eq] at same
  obtain ⟨first, rest, rfl⟩ := List.exists_cons_of_ne_nil climbs
  rw [same] at part
  exact part first first rfl rfl rfl

/-- An import is relative unless the component is one of the two directories above the document, or
lies below a name that begins with a point. -/
theorem isRelative_importPath_iff (workplace : Place) (targetNormal : target.IsNormal)
    (componentNormal : component.IsNormal) :
    IsRelative (importPath workplace target component) ↔
      component.steps ≠ target.parent.steps ∧
      component.steps ≠ target.parent.parent.steps ∧
      ∀ next rest, component.steps = target.parent.steps ++ next :: rest →
        next.head? ≠ some '.' := by
  have areSteps : ∀ step ∈ stepsBetween target.parent.steps component.steps, IsStep step :=
    fun step => isStep_of_mem_stepsBetween fun name member => (componentNormal.steps name member).1
  have names : ∀ name ∈ component.steps, name ≠ upward :=
    fun name member => (componentNormal.steps name member).2
  have above : target.parent.parent.steps = target.parent.steps.dropLast := rfl
  rw [importPath_eq workplace targetNormal componentNormal, isRelative_dotted_iff areSteps, above]
  obtain ⟨shared, up, down, start, goal, between, part⟩ :=
    exists_parting target.parent.steps component.steps
  rw [goal] at names
  rw [between, start, goal]
  -- the import goes up once for every name that the component does not share
  cases up with
  | nil =>
      cases down with
      | nil => simp
      | cons next rest =>
          have goesDown : next ≠ upward := names next (by simp)
          constructor
          · rintro ⟨first, others, same, pointed⟩
            obtain ⟨rfl, rfl⟩ := List.cons.inj same
            refine ⟨by simp, fun same => ?_, fun other later same begins => ?_⟩
            · have lengths := congrArg List.length same
              simp at lengths
              omega
            · obtain ⟨rfl, -⟩ : next = other ∧ rest = later := by simpa using same
              exact goesDown (pointed begins).1
          · rintro ⟨-, -, plain⟩
            exact ⟨next, rest, rfl, fun begins => absurd begins (plain next rest (by simp))⟩
  | cons last ups =>
      have climbs (tail : Place) : shared ++ down ≠ shared ++ [last] ++ tail :=
        ne_append_of_parting (List.cons_ne_nil _ _) part
      constructor
      · rintro ⟨first, others, same, pointed⟩
        obtain ⟨rfl, rfl⟩ := List.cons.inj same
        have goesOn := (pointed rfl).2
        refine ⟨by simpa using climbs ups, fun above => ?_, fun next rest same => ?_⟩
        · cases ups with
          | nil => exact goesOn (by simpa using above)
          | cons second others =>
              rw [List.dropLast_append_cons] at above
              exact climbs (second :: others).dropLast (by simpa using above)
        · exact absurd (by simpa using same) (climbs (ups ++ next :: rest))
      · rintro ⟨-, notAbove, -⟩
        refine ⟨upward, _, rfl, fun _ => ⟨rfl, fun ended => notAbove ?_⟩⟩
        obtain ⟨ups', rfl⟩ := List.append_eq_nil_iff.mp ended
        obtain rfl : ups = [] := by simpa using ups'
        simp

/-- The path of an import leads from the directory of the document to the component.  It begins with
`./` or `../` unless the component is one of the two directories above the document, or lies below a
name that begins with a point. -/
theorem importPath_resolves (workplace : Place) (targetNormal : target.IsNormal)
    (componentNormal : component.IsNormal) :
    let written := importPath workplace target component
    (target.parent.join (ofText written)).normalized = ⟨target.lead, component.steps⟩ ∧
      (IsRelative written ↔
        component.steps ≠ target.parent.steps ∧
        component.steps ≠ target.parent.parent.steps ∧
        ∀ next rest, component.steps = target.parent.steps ++ next :: rest →
          next.head? ≠ some '.') := by
  have names : ∀ name ∈ component.steps, name ≠ upward :=
    fun name member => (componentNormal.steps name member).2
  refine ⟨?_, isRelative_importPath_iff workplace targetNormal componentNormal⟩
  rw [ofText_importPath workplace targetNormal componentNormal]
  have joined : target.parent.join ⟨[], stepsBetween target.parent.steps component.steps⟩ =
      ⟨target.lead, target.parent.steps ++ stepsBetween target.parent.steps component.steps⟩ := rfl
  have absolute : (⟨target.lead, target.parent.steps ++
      stepsBetween target.parent.steps component.steps⟩ : Path).isAbsolute = true :=
    targetNormal.isAbsolute
  rw [joined, normalized, place, if_pos absolute, List.foldl_append,
    foldl_step_names [] fun name member => (targetNormal.parent.steps name member).2,
    List.nil_append, foldl_stepsBetween names]

/-- A document, and a component in a directory beside its own. -/
theorem importPath_resolves_beside :
    let target : Path := ⟨['/'], ["lib".toList, "registry.js".toList]⟩
    let component : Path := ⟨['/'], ["embeds".toList, "Tab.svelte".toList]⟩
    target.IsNormal ∧ component.IsNormal ∧
      importPath [] target component = "../embeds/Tab.svelte".toList ∧
      (target.parent.join (ofText (importPath [] target component))).normalized = component ∧
      IsRelative (importPath [] target component) := by
  intro target component
  have targetNormal : target.IsNormal := ⟨.inl rfl, by unfold IsStep; decide⟩
  have componentNormal : component.IsNormal := ⟨.inl rfl, by unfold IsStep; decide⟩
  obtain ⟨resolves, relative⟩ := importPath_resolves [] targetNormal componentNormal
  exact ⟨targetNormal, componentNormal, by decide, resolves,
    relative.mpr ⟨by decide, by decide, fun next rest below => by cases below⟩⟩

/-- A component below a name that begins with a point is imported as if by the name of a package. -/
theorem importPath_hidden :
    let target : Path := ⟨['/'], ["lib".toList, "registry.js".toList]⟩
    let component : Path := ⟨['/'], ["lib".toList, ".embeds".toList, "Tab.svelte".toList]⟩
    target.IsNormal ∧ component.IsNormal ∧
      importPath [] target component = ".embeds/Tab.svelte".toList ∧
      ¬ IsRelative (importPath [] target component) := by
  refine ⟨⟨.inl rfl, ?_⟩, ⟨.inl rfl, ?_⟩, ?_, ?_⟩
  · unfold IsStep
    decide
  · unfold IsStep
    decide
  · decide
  · decide

end Component

end EmbedScaffold
