import EmbedScaffold.Proofs.Site.Path
import Mathlib.Data.List.Induction

/-!
# Ways between places

The way from one place to another climbs to where they part and goes down again, so it leads there
from wherever it is taken.  A path without detours names its own steps.
-/

namespace EmbedScaffold

namespace Path

/-! ## Climbing and going down -/

variable {start goal : Place} {steps : List Text}

/-- The places part behind what they share. -/
theorem exists_parting (start goal : Place) :
    ∃ shared up down, start = shared ++ up ∧ goal = shared ++ down ∧
      stepsBetween start goal = List.replicate up.length upward ++ down ∧
      ∀ first next, up.head? = some first → down.head? = some next → first ≠ next := by
  fun_induction stepsBetween start goal with
  | case1 start first goal inductionHypothesis =>
      obtain ⟨shared, up, down, rfl, rfl, between, part⟩ := inductionHypothesis
      exact ⟨first :: shared, up, down, rfl, rfl, between, part⟩
  | case2 first start next goal different =>
      refine ⟨[], first :: start, next :: goal, rfl, rfl, rfl, ?_⟩
      rintro _ _ ⟨⟩ ⟨⟩
      exact different
  | case3 start goal ended =>
      refine ⟨[], start, goal, rfl, rfl, rfl, ?_⟩
      intro first next startsWith goesOn
      cases start with
      | nil => cases startsWith
      | cons head rest =>
          cases goal with
          | nil => cases goesOn
          | cons other later => exact absurd rfl (ended head rest other later rfl)

theorem foldl_step_upward (shared up : Place) :
    (List.replicate up.length upward).foldl step (shared ++ up) = shared := by
  induction up using List.reverseRecOn with
  | nil => exact List.append_nil shared
  | append_singleton front last inductionHypothesis =>
      have climbed : step (shared ++ (front ++ [last])) upward = shared ++ front := by
        rw [step, if_pos rfl, ← List.append_assoc, List.dropLast_concat]
      rw [List.length_append, List.length_singleton, List.replicate_succ, List.foldl_cons, climbed,
        inductionHypothesis]

theorem foldl_step_names (place : Place) (names : ∀ step ∈ steps, step ≠ upward) :
    steps.foldl step place = place ++ steps := by
  induction steps generalizing place with
  | nil => exact (List.append_nil place).symm
  | cons first rest inductionHypothesis =>
      obtain ⟨here, behind⟩ := List.forall_mem_cons.mp names
      rw [List.foldl_cons, step, if_neg here, inductionHypothesis _ behind, List.append_assoc]
      rfl

/-- The way between two places leads from the one to the other. -/
theorem foldl_stepsBetween (names : ∀ name ∈ goal, name ≠ upward) :
    (stepsBetween start goal).foldl step start = goal := by
  obtain ⟨shared, up, down, rfl, rfl, between, -⟩ := exists_parting start goal
  rw [between, List.foldl_append, foldl_step_upward, foldl_step_names]
  exact fun name member => names name (List.mem_append_right shared member)

/-! ## Paths without detours -/

/-- Whether a path is absolute and every step of it goes down to a name. -/
structure IsNormal (path : Path) : Prop where
  lead : path.lead = ['/'] ∨ path.lead = ['/', '/']
  steps : ∀ step ∈ path.steps, IsStep step ∧ step ≠ upward

/-- An absolute path with every `..` undone. -/
def normalized (path : Path) : Path :=
  ⟨path.lead, path.place []⟩

variable {path : Path}

theorem IsNormal.isAbsolute (normal : path.IsNormal) : path.isAbsolute = true := by
  rcases normal.lead with single | double
  · simp [Path.isAbsolute, single]
  · simp [Path.isAbsolute, double]

theorem IsNormal.place_eq (normal : path.IsNormal) (workplace : Place) :
    path.place workplace = path.steps := by
  rw [place, if_pos normal.isAbsolute, foldl_step_names [] fun step member =>
    (normal.steps step member).2, List.nil_append]

theorem IsNormal.parent (normal : path.IsNormal) : path.parent.IsNormal where
  lead := normal.lead
  steps step member := normal.steps step (List.dropLast_subset _ member)

/-- The steps of a way lead somewhere, up or down. -/
theorem isStep_of_mem_stepsBetween (names : ∀ name ∈ goal, IsStep name) {taken : Text}
    (member : taken ∈ stepsBetween start goal) : IsStep taken := by
  obtain ⟨shared, up, down, -, rfl, between, -⟩ := exists_parting start goal
  rw [between, List.mem_append] at member
  rcases member with climbs | goesDown
  · rw [List.eq_of_mem_replicate climbs]
    unfold IsStep
    decide
  · exact names taken (List.mem_append_right shared goesDown)

end Path

end EmbedScaffold
