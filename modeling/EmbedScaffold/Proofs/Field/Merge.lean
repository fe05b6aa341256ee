import EmbedScaffold.Field.Basic

/-!
# Merging fields

Merging keeps the first field of every name and adds the shared fields that are missing, so a list
with distinct names that has the shared ones is merged into itself.  What is kept of a list are the
fields that no earlier one is named like.
-/

namespace EmbedScaffold

namespace Field

variable {field : Field} {fields left right declared : List Field} {seen : List Text}

theorem keepFirst_cons (seen : List Text) (first : Field) (rest : List Field) :
    keepFirst seen (first :: rest) =
      if seen.contains first.name then keepFirst seen rest
      else first :: keepFirst (first.name :: seen) rest := by
  rfl

theorem mem_of_mem_keepFirst (member : field ∈ keepFirst seen fields) : field ∈ fields := by
  induction fields generalizing seen with
  | nil => cases member
  | cons first rest inductionHypothesis =>
      rw [keepFirst_cons] at member
      split at member
      · exact List.mem_cons_of_mem _ (inductionHypothesis member)
      · rcases List.mem_cons.mp member with rfl | inside
        · exact List.mem_cons_self
        · exact List.mem_cons_of_mem _ (inductionHypothesis inside)

theorem notMem_seen_of_mem_keepFirst (member : field ∈ keepFirst seen fields) :
    field.name ∉ seen := by
  induction fields generalizing seen with
  | nil => cases member
  | cons first rest inductionHypothesis =>
      rw [keepFirst_cons] at member
      split at member
      · exact inductionHypothesis member
      · next isNew =>
          rcases List.mem_cons.mp member with rfl | inside
          · simpa using isNew
          · exact fun among => inductionHypothesis inside (List.mem_cons_of_mem _ among)

/-- The fields that are kept have distinct names. -/
theorem nodup_keepFirst (seen : List Text) (fields : List Field) :
    ((keepFirst seen fields).map Field.name).Nodup := by
  induction fields generalizing seen with
  | nil => exact List.nodup_nil
  | cons first rest inductionHypothesis =>
      rw [keepFirst_cons]
      split
      · exact inductionHypothesis seen
      · rw [List.map_cons, List.nodup_cons]
        refine ⟨fun member => ?_, inductionHypothesis _⟩
        obtain ⟨other, kept, same⟩ := List.mem_map.mp member
        exact notMem_seen_of_mem_keepFirst kept (same ▸ List.mem_cons_self)

/-- Every name is one that was seen or that is kept. -/
theorem mem_seen_or_kept (member : field ∈ fields) :
    field.name ∈ seen ∨ field.name ∈ (keepFirst seen fields).map Field.name := by
  induction fields generalizing seen with
  | nil => cases member
  | cons first rest inductionHypothesis =>
      rw [keepFirst_cons]
      split
      · next known =>
          rcases List.mem_cons.mp member with rfl | inside
          · exact .inl (by simpa using known)
          · exact inductionHypothesis inside
      · rw [List.map_cons, List.mem_cons]
        rcases List.mem_cons.mp member with rfl | inside
        · exact .inr (.inl rfl)
        · rcases @inductionHypothesis (first.name :: seen) inside with known | kept
          · rcases List.mem_cons.mp known with same | known
            · exact .inr (.inl same)
            · exact .inl known
          · exact .inr (.inr kept)

theorem keepFirst_of_seen (known : ∀ field ∈ fields, field.name ∈ seen) :
    keepFirst seen fields = [] := by
  induction fields with
  | nil => rfl
  | cons first rest inductionHypothesis =>
      obtain ⟨here, behind⟩ := List.forall_mem_cons.mp known
      rw [keepFirst_cons, if_pos (List.contains_iff_mem.mpr here)]
      exact inductionHypothesis behind

/-! ## First fields -/

/-- Whether none of the fields before a place is named like the field there. -/
def isFirst (fields : List Field) (placed : Field × Nat) : Bool :=
  ! (fields.take placed.2).any fun earlier => earlier.name = placed.1.name

/-- The fields that no earlier one is named like. -/
def firsts (fields : List Field) : List Field :=
  (fields.zipIdx.filter (isFirst fields)).map Prod.fst

/-- What is kept behind other fields are those that no earlier one is named like, before them or
among them. -/
theorem keepFirst_eq_filter (earlier : List Field)
    (known : ∀ name, name ∈ seen ↔ name ∈ earlier.map Field.name) :
    keepFirst seen fields =
      ((fields.zipIdx earlier.length).filter (isFirst (earlier ++ fields))).map Prod.fst := by
  induction fields generalizing seen earlier with
  | nil => rfl
  | cons first rest inductionHypothesis =>
      have here : isFirst (earlier ++ first :: rest) (first, earlier.length) =
          ! seen.contains first.name := by
        rw [isFirst, List.take_left, Bool.not_inj_iff, Bool.eq_iff_iff, List.contains_iff_mem,
          known, List.any_eq_true, List.mem_map]
        simp
      have behind {seen : List Text}
          (known : ∀ name, name ∈ seen ↔ name ∈ (earlier ++ [first]).map Field.name) :
          keepFirst seen rest = ((rest.zipIdx (earlier.length + 1)).filter
            (isFirst (earlier ++ first :: rest))).map Prod.fst := by
        have kept := inductionHypothesis (earlier ++ [first]) known
        rwa [List.length_append, List.length_singleton, ← List.append_cons] at kept
      rw [keepFirst_cons, List.zipIdx_cons, List.filter_cons, here]
      cases contained : seen.contains first.name with
      | true =>
          rw [if_pos rfl, if_neg (by decide)]
          refine behind fun name => ?_
          rw [List.map_append, List.mem_append, ← known name, List.map_singleton,
            List.mem_singleton, iff_self_or]
          rintro rfl
          exact List.contains_iff_mem.mp contained
      | false =>
          rw [if_neg Bool.false_ne_true, if_pos Bool.not_false, List.map_cons]
          refine congrArg (first :: ·) (behind fun name => ?_)
          rw [List.map_append, List.mem_append, ← known name, List.map_singleton,
            List.mem_singleton, List.mem_cons, or_comm]

theorem keepFirst_eq_firsts (fields : List Field) : keepFirst [] fields = firsts fields :=
  keepFirst_eq_filter [] fun _ => Iff.rfl

/-- Only which names were seen counts. -/
theorem keepFirst_congr {others : List Text} (same : ∀ name, name ∈ seen ↔ name ∈ others) :
    keepFirst seen fields = keepFirst others fields := by
  induction fields generalizing seen others with
  | nil => rfl
  | cons first rest inductionHypothesis =>
      have contains : seen.contains first.name = others.contains first.name := by
        rw [Bool.eq_iff_iff, List.contains_iff_mem, List.contains_iff_mem, same]
      have behind : keepFirst (first.name :: seen) rest = keepFirst (first.name :: others) rest :=
        inductionHypothesis fun name => by simp only [List.mem_cons, same]
      rw [keepFirst_cons, keepFirst_cons, contains, inductionHypothesis same, behind]

/-- What is kept of the later fields depends on all names before them. -/
theorem keepFirst_append (seen : List Text) (left right : List Field) :
    keepFirst seen (left ++ right) =
      keepFirst seen left ++ keepFirst (seen ++ left.map Field.name) right := by
  induction left generalizing seen with
  | nil => rw [List.map_nil, List.append_nil]; rfl
  | cons first rest inductionHypothesis =>
      rw [List.cons_append, keepFirst_cons, keepFirst_cons]
      split
      · next known =>
          rw [inductionHypothesis]
          refine congrArg _ (keepFirst_congr fun name => ?_)
          have among : first.name ∈ seen := List.contains_iff_mem.mp known
          simp only [List.map_cons, List.mem_append, List.mem_cons]
          constructor
          · exact Or.imp_right .inr
          · rintro (before | rfl | behind)
            · exact .inl before
            · exact .inl among
            · exact .inr behind
      · rw [inductionHypothesis, List.cons_append]
        refine congrArg _ (congrArg _ (keepFirst_congr fun name => ?_))
        simp only [List.map_cons, List.mem_append, List.mem_cons]
        exact or_left_comm

/-- Of fields with distinct names, those with a new one are kept. -/
theorem keepFirst_of_nodup (nodup : (fields.map Field.name).Nodup) :
    keepFirst seen fields = fields.filter fun field => ! seen.contains field.name := by
  induction fields generalizing seen with
  | nil => rfl
  | cons first rest inductionHypothesis =>
      rw [List.map_cons, List.nodup_cons] at nodup
      rw [keepFirst_cons, List.filter_cons]
      cases contained : seen.contains first.name with
      | true =>
          rw [if_pos rfl, inductionHypothesis nodup.2]
          rfl
      | false =>
          have apart : ∀ field ∈ rest, field.name ≠ first.name := fun field member same =>
            nodup.1 (same ▸ List.mem_map_of_mem member)
          have behind : keepFirst (first.name :: seen) rest =
              rest.filter fun field => ! seen.contains field.name := by
            rw [inductionHypothesis nodup.2]
            refine List.filter_congr fun field member => ?_
            rw [List.contains_cons, beq_false_of_ne (apart field member), Bool.false_or]
          rw [if_neg Bool.false_ne_true, behind]
          rfl

/-- Fields with distinct names are all kept. -/
theorem keepFirst_nil_of_nodup (nodup : (fields.map Field.name).Nodup) :
    keepFirst [] fields = fields := by
  rw [keepFirst_of_nodup nodup]
  exact List.filter_eq_self.mpr fun _ _ => rfl

theorem nodup_shared : (shared.map Field.name).Nodup := by
  decide

/-- Merged fields are the first ones of the declared names, and behind them the shared ones that are
missing. -/
theorem merge_eq (declared : List Field) :
    merge declared = firsts declared ++
      shared.filter fun field => ! (declared.map Field.name).contains field.name := by
  rw [merge, keepFirst_append, List.nil_append, keepFirst_eq_firsts,
    keepFirst_of_nodup nodup_shared]

theorem nodup_merge (declared : List Field) : ((merge declared).map Field.name).Nodup :=
  nodup_keepFirst [] _

theorem mem_merge_of_mem_shared (member : field ∈ shared) :
    field.name ∈ (merge declared).map Field.name :=
  (mem_seen_or_kept (List.mem_append_right declared member)).resolve_left List.not_mem_nil

/-- Fields that are named like merged ones are merged into themselves. -/
theorem merge_eq_self (names : fields.map Field.name = (merge declared).map Field.name) :
    merge fields = fields := by
  have nodup : (fields.map Field.name).Nodup := names ▸ nodup_merge declared
  have known : ∀ field ∈ shared, field.name ∈ fields.map Field.name := by
    rw [names]
    exact fun field => mem_merge_of_mem_shared
  rw [merge, keepFirst_append, List.nil_append, keepFirst_nil_of_nodup nodup,
    keepFirst_of_seen known, List.append_nil]

theorem mem_of_mem_merge (member : field ∈ merge declared) : field ∈ declared ∨ field ∈ shared :=
  List.mem_append.mp (mem_of_mem_keepFirst member)

end Field

end EmbedScaffold
