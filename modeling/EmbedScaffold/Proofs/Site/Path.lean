import EmbedScaffold.Proofs.Text.Reindent
import EmbedScaffold.Site.Path

/-!
# Paths as texts

A path that was read from a text is read again from the text it is written as.
-/

namespace EmbedScaffold

open Text

theorem Text.splitOn_join {separator : Char} {pieces : List Text} (nonempty : pieces ≠ [])
    (absent : ∀ piece ∈ pieces, separator ∉ piece) :
    splitOn separator (join [separator] pieces) = pieces := by
  induction pieces with
  | nil => exact absurd rfl nonempty
  | cons first others inductionHypothesis =>
      have single := splitOn_of_notMem (absent first List.mem_cons_self)
      cases others with
      | nil => exact single
      | cons second others =>
          rw [join_cons_cons, List.append_assoc, List.singleton_append, splitOn_append_cons, single,
            inductionHypothesis (List.cons_ne_nil _ _) fun piece among =>
              absent piece (List.mem_cons_of_mem _ among)]
          rfl

namespace Path

/-- A step that leads somewhere, as it is read from the text of a path. -/
def IsStep (step : Text) : Prop :=
  step ≠ [] ∧ step ≠ ['.'] ∧ '/' ∉ step

theorem isStep_of_mem {content step : Text} (among : step ∈ (ofText content).steps) :
    IsStep step := by
  obtain ⟨piece, kept⟩ := List.mem_filter.mp among
  rw [Bool.and_eq_true, decide_eq_true_eq, Bool.not_eq_true', List.isEmpty_eq_false_iff] at kept
  exact ⟨kept.1, kept.2, notMem_of_mem_splitOn piece⟩

theorem lead_cases (content : Text) :
    leadOf content = [] ∨ leadOf content = ['/'] ∨ leadOf content = ['/', '/'] := by
  unfold leadOf
  split
  · exact Or.inr (Or.inl rfl)
  · exact Or.inr (Or.inr rfl)
  · exact Or.inr (Or.inl rfl)
  · exact Or.inl rfl

/-- The steps behind the slashes are not mistaken for them. -/
theorem leadOf_append {lead body : Text} (given : lead = [] ∨ lead = ['/'] ∨ lead = ['/', '/'])
    (noSlash : body.head? ≠ some '/') : leadOf (lead ++ body) = lead := by
  cases body with
  | nil => rcases given with rfl | rfl | rfl <;> rfl
  | cons next others =>
      have different : next ≠ '/' := fun same => noSlash (by rw [same]; rfl)
      rcases given with rfl | rfl | rfl <;> simp [leadOf, different]

theorem head?_join_ne {steps : List Text} (areSteps : ∀ step ∈ steps, IsStep step) :
    (Text.join ['/'] steps).head? ≠ some '/' := by
  cases steps with
  | nil => simp [Text.join]
  | cons first others =>
      obtain ⟨notEmpty, _, noSlash⟩ := areSteps first List.mem_cons_self
      obtain ⟨letter, letters, rfl⟩ := List.exists_cons_of_ne_nil notEmpty
      rw [join_cons_head, List.head?_cons]
      intro same
      rw [Option.some.inj same] at noSlash
      exact noSlash List.mem_cons_self

/-- The steps of a path are read from its text. -/
theorem splitOn_lead {lead body : Text} (given : lead = [] ∨ lead = ['/'] ∨ lead = ['/', '/']) :
    (splitOn '/' (lead ++ body)).filter (fun step => ! step.isEmpty && step ≠ ['.']) =
      (splitOn '/' body).filter fun step => ! step.isEmpty && step ≠ ['.'] := by
  rcases given with rfl | rfl | rfl
  · rfl
  · rw [List.singleton_append, splitOn_cons_self]
    rfl
  · rw [List.cons_append, List.singleton_append, splitOn_cons_self, splitOn_cons_self]
    rfl

theorem filter_steps {steps : List Text} (areSteps : ∀ step ∈ steps, IsStep step) :
    steps.filter (fun step => ! step.isEmpty && step ≠ ['.']) = steps := by
  rw [List.filter_eq_self]
  intro step among
  obtain ⟨notEmpty, notHere, _⟩ := areSteps step among
  simp [notEmpty, notHere]

/-- A path whose steps lead somewhere is read back from its text. -/
theorem ofText_text_of_isStep {lead : Text} {steps : List Text}
    (given : lead = [] ∨ lead = ['/'] ∨ lead = ['/', '/']) (areSteps : ∀ step ∈ steps, IsStep step) :
    ofText (text ⟨lead, steps⟩) = ⟨lead, steps⟩ := by
  rw [text]
  split
  · next empty =>
      simp only [Bool.and_eq_true, List.isEmpty_iff] at empty
      obtain ⟨rfl, rfl⟩ := empty
      decide
  · next filled =>
      dsimp only
      rw [ofText, leadOf_append given (head?_join_ne areSteps), splitOn_lead given]
      cases steps with
      | nil => rfl
      | cons first others =>
          rw [splitOn_join (List.cons_ne_nil _ _) fun step among => (areSteps step among).2.2,
            filter_steps areSteps]

/-- A path is read back from its text. -/
theorem ofText_text (given : Text) : ofText (ofText given).text = ofText given :=
  ofText_text_of_isStep (lead_cases given) fun _ among => isStep_of_mem among

end Path

end EmbedScaffold
