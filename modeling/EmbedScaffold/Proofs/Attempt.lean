import Mathlib.Data.List.Forall2

/-!
# Attempts

A step that may fail is made of other ones.  What it gives was given by the first of them and made
into a result by the next.
-/

namespace EmbedScaffold

variable {Fault Given Result : Type} {given : Except Fault Given} {result : Result}

theorem exists_of_bind {next : Given → Except Fault Result}
    (gives : given >>= next = .ok result) :
    ∃ value, given = .ok value ∧ next value = .ok result := by
  cases given with
  | error fault => cases gives
  | ok value => exact ⟨value, rfl, gives⟩

theorem exists_of_map {next : Given → Result} (gives : given.map next = .ok result) :
    ∃ value, given = .ok value ∧ next value = result := by
  cases given with
  | error fault => cases gives
  | ok value => exact ⟨value, rfl, Except.ok.inj gives⟩

theorem ok_of_mapError {Other : Type} {word : Fault → Other} {value : Given}
    (gives : given.mapError word = .ok value) : given = .ok value := by
  cases given with
  | error fault => cases gives
  | ok other => exact congrArg Except.ok (Except.ok.inj gives)

/-- If an attempt gives one value on a condition and fails otherwise, so does every attempt that is
made of it. -/
theorem map_eq_ok_iff {full : Prop} {value : Given}
    (gives : ∀ other, given = .ok other ↔ full ∧ other = value) (next : Given → Result)
    (made : Result) : given.map next = .ok made ↔ full ∧ made = next value := by
  constructor
  · intro makes
    obtain ⟨other, found, rfl⟩ := exists_of_map makes
    obtain ⟨isFull, rfl⟩ := (gives other).mp found
    exact ⟨isFull, rfl⟩
  · rintro ⟨isFull, rfl⟩
    rw [(gives value).mpr ⟨isFull, rfl⟩]
    rfl

/-! ## Attempts for all items of a list -/

variable {Item : Type} {items : List Item} {give : Item → Except Fault Result}
  {results : List Result}

theorem forall₂_of_mapM (gives : items.mapM give = .ok results) :
    List.Forall₂ (fun item result => give item = .ok result) items results := by
  induction items generalizing results with
  | nil =>
      cases gives
      exact .nil
  | cons first rest inductionHypothesis =>
      rw [List.mapM_cons] at gives
      obtain ⟨result, here, gives⟩ := exists_of_bind gives
      obtain ⟨others, behind, same⟩ := exists_of_bind gives
      cases same
      exact .cons here (inductionHypothesis behind)

theorem exists_result_of_mapM (gives : items.mapM give = .ok results) {item : Item}
    (member : item ∈ items) : ∃ result ∈ results, give item = .ok result := by
  have given := forall₂_of_mapM gives
  clear gives
  induction given with
  | nil => cases member
  | cons here _ inductionHypothesis =>
      rcases List.mem_cons.mp member with rfl | later
      · exact ⟨_, List.mem_cons_self, here⟩
      · obtain ⟨result, among, found⟩ := inductionHypothesis later
        exact ⟨result, List.mem_cons_of_mem _ among, found⟩

theorem exists_item_of_mapM (gives : items.mapM give = .ok results) {result : Result}
    (member : result ∈ results) : ∃ item ∈ items, give item = .ok result := by
  have given := forall₂_of_mapM gives
  clear gives
  induction given with
  | nil => cases member
  | cons here _ inductionHypothesis =>
      rcases List.mem_cons.mp member with rfl | later
      · exact ⟨_, List.mem_cons_self, here⟩
      · obtain ⟨item, among, found⟩ := inductionHypothesis later
        exact ⟨item, List.mem_cons_of_mem _ among, found⟩

end EmbedScaffold
