import EmbedScaffold.Proofs.Component.Script
import EmbedScaffold.Proofs.Schema.Snippets
import Mathlib.Data.List.Perm.Basic

/-!
# Descriptions of a component's fields

The fields of a component are described in four places: its document declares them, the registry of
names lists them, the mock data give a sample of each, and the schema has an entry for each that is
not shared.  The four follow the same merged list, in its order, so a name stands once in each of
them, and a name that has no entry in the schema is a shared one.
-/

namespace EmbedScaffold

open Text Literal

/-! ## Lists and objects -/

namespace Literal

theorem renderItems_text (level : Int) (contents : List Text) :
    renderItems level (contents.map .text) = .ok (contents.map quotedString) := by
  induction contents with
  | nil => rfl
  | cons first rest inductionHypothesis =>
      rw [List.map_cons, renderItems, inductionHypothesis]
      rfl

/-- Texts are listed on one line. -/
theorem render_texts (level : Int) (contents : List Text) :
    (list (contents.map .text)).render level =
      .ok ("[".toList ++ join ", ".toList (contents.map quotedString) ++ "]".toList) := by
  cases contents with
  | nil => rfl
  | cons first rest =>
      have atoms : ((first :: rest).map Literal.text).all isAtom = true :=
        List.all_eq_true.mpr fun item member => by
          obtain ⟨content, -, rfl⟩ := List.mem_map.mp member
          rfl
      have items := renderItems_text level (first :: rest)
      rw [List.map_cons] at atoms items
      rw [list, List.map_cons, render, if_pos atoms, items]
      rfl

theorem renderMembers_eq {level : Int} {members : List (Text × Literal)}
    (shown : Text × Literal → Text)
    (each : ∀ member ∈ members, member.2.render level = .ok (shown member)) :
    renderMembers level members =
      .ok (members.map fun member => propertyKey member.1 ++ ": ".toList ++ shown member) := by
  induction members with
  | nil => rfl
  | cons first rest inductionHypothesis =>
      obtain ⟨here, behind⟩ := List.forall_mem_cons.mp each
      rw [renderMembers, here, inductionHypothesis behind]
      rfl

/-- Members with distinct names are all kept. -/
theorem ofMembers_of_nodup {members : List (Text × Literal)}
    (nodup : (members.map Prod.fst).Nodup) : ofMembers members = .object members := by
  refine congrArg Literal.object ?_
  induction members using List.reverseRecOn with
  | nil => rfl
  | append_singleton earlier last inductionHypothesis =>
      rw [List.map_append, List.nodup_append] at nodup
      have isNew : ¬ (earlier.any fun known => known.1 = last.1) = true := fun known => by
        obtain ⟨other, member, same⟩ := List.any_eq_true.mp known
        exact nodup.2.2 _ (List.mem_map_of_mem member) _ (List.mem_singleton_self _)
          (of_decide_eq_true same)
      rw [List.foldl_append, inductionHypothesis nodup.1, List.foldl_cons, List.foldl_nil]
      exact if_neg isNew

end Literal

/-! ## The texts of a component -/

def Field.sampleText (field : Field) : Text :=
  (field.sample.render ((0 : Nat) + 1)).toOption.getD []

/-- A field with its sample, as the mock data give it. -/
def Field.sampleMember (field : Field) : Text :=
  propertyKey field.name ++ ": ".toList ++ field.sampleText

theorem Field.render_sample (field : Field) :
    field.sample.render ((0 : Nat) + 1) = .ok field.sampleText := by
  obtain ⟨content, rendered, -⟩ := exists_render field.sample ((0 : Nat) + 1) field.isPlain_sample
  rw [sampleText, rendered]
  rfl

namespace Target

variable {fields : List Field}

theorem namesText_eq (fields : List Field) :
    namesText fields =
      "[".toList ++ join ", ".toList ((fields.map Field.name).map quotedString) ++ "]".toList := by
  have texts : (fields.map fun field => Literal.text field.name) =
      (fields.map Field.name).map .text := by
    rw [List.map_map]
    rfl
  rw [namesText, texts, render_texts]

theorem schemaText_eq (fields : List Field) :
    schemaText fields = (Schema.ofFields fields).shown ++ ['\n'] := by
  have plain : ∀ member ∈ Schema.ofFields fields, isPlain member.2.default = true := by
    intro member among
    obtain ⟨field, -, -, default⟩ := Schema.mem_ofFields among
    exact default ▸ field.isPlain_effectiveDefault
  rw [schemaText, Template.fill, Schema.render_schemaEntry plain]

/-- The samples of fields stand on lines of their own, if no name is repeated. -/
theorem mockText_eq (nodup : (fields.map Field.name).Nodup) (nonempty : fields ≠ []) :
    mockText fields = "return \x7b\n".toList ++
      ((fields.map Field.sampleMember).flatMap (memberLine (0 : Nat)) ++ "\x7d;\n".toList) := by
  obtain ⟨first, rest, rfl⟩ := List.exists_cons_of_ne_nil nonempty
  let members := (first :: rest).map fun field => (field.name, field.sample)
  have object : ofMembers members = .object members := by
    refine ofMembers_of_nodup ?_
    rwa [List.map_map]
  have rendered : (Literal.object members).render (0 : Nat) = .ok ("\x7b\n".toList ++
      ((first :: rest).map Field.sampleMember).flatMap (memberLine (0 : Nat)) ++
        indentOf (0 : Nat) ++ "\x7d".toList) := by
    have each : ∀ member ∈ members, member.2.render ((0 : Nat) + 1) =
        .ok ((member.2.render ((0 : Nat) + 1)).toOption.getD []) := fun member among => by
      obtain ⟨field, -, rfl⟩ := List.mem_map.mp among
      exact field.render_sample
    have shown := renderMembers_eq _ each
    rw [List.map_map] at shown
    have unfolded : members = (first.name, first.sample) ::
      rest.map fun field => (field.name, field.sample) := rfl
    rw [unfolded, render, ← unfolded, shown]
    rfl
  rw [← object] at rendered
  have opening : "return \x7b\n".toList = "return ".toList ++ "\x7b\n".toList := by decide
  have closing : "\x7d;\n".toList = indentOf (0 : Nat) ++ ("\x7d".toList ++ ";\n".toList) := by
    decide
  rw [mockText_of_render rendered, opening, closing]
  simp only [List.append_assoc]

end Target

/-- The four descriptions of fields show one line or one item for each field. -/
structure IsDescribed (name : Text) (fields : List Field) : Prop where
  document : Component.document name fields = Component.documentHead ++
    ((Component.scriptFront name ++ (fields.flatMap Component.fieldLine ++
      (Component.scriptMount ++ ['\n']))) ++ Component.documentTail fields)
  names : Target.namesText fields =
    "[".toList ++ join ", ".toList ((fields.map Field.name).map quotedString) ++ "]".toList
  samples : Target.mockText fields = "return \x7b\n".toList ++
    ((fields.map Field.sampleMember).flatMap (memberLine (0 : Nat)) ++ "\x7d;\n".toList)
  schema : Target.schemaText fields = (Schema.ofFields fields).shown ++ ['\n']

theorem IsDescribed.of_nodup (name : Text) {fields : List Field}
    (nodup : (fields.map Field.name).Nodup) (nonempty : fields ≠ []) : IsDescribed name fields where
  document := by rw [Component.document_eq, Component.scriptText_eq]
  names := Target.namesText_eq fields
  samples := Target.mockText_eq nodup nonempty
  schema := Target.schemaText_eq fields

/-! ## The names of merged fields -/

namespace Field

variable {declared : List Field}

theorem merge_ne_nil (declared : List Field) : merge declared ≠ [] := fun none => by
  have isShared : (⟨"component_width".toList, some (.text "auto".toList)⟩ : Field) ∈ shared := by
    decide
  have among : "component_width".toList ∈ (merge declared).map Field.name :=
    mem_merge_of_mem_shared isShared
  rw [none] at among
  cases among

/-- The entries of a schema are named like the fields that are not shared. -/
theorem keys_ofFields {fields : List Field} (nodup : (fields.map Field.name).Nodup) :
    (Schema.ofFields fields).map Prod.fst =
      (fields.map Field.name).filter fun name => ! Schema.sharedNames.contains name := by
  rw [Schema.ofFields, keepFirst_nil_of_nodup nodup, List.map_map, List.filter_map]
  rfl

/-- The shared names and the names of the entries are all names of merged fields. -/
theorem perm_sharedNames_keys (declared : List Field) :
    (Schema.sharedNames ++ ((merge declared).map Field.name).filter fun name =>
      ! Schema.sharedNames.contains name).Perm ((merge declared).map Field.name) := by
  have nodup := nodup_merge declared
  have shown : (((merge declared).map Field.name).filter fun name =>
      Schema.sharedNames.contains name).Perm Schema.sharedNames := by
    refine (List.perm_ext_iff_of_nodup (nodup.filter _) (by decide)).mpr fun name => ?_
    rw [List.mem_filter, List.contains_iff_mem, and_iff_right_iff_imp]
    intro isShared
    have same : ∀ name ∈ Schema.sharedNames, name ∈ shared.map Field.name := by decide
    obtain ⟨field, member, rfl⟩ := List.mem_map.mp (same name isShared)
    exact mem_merge_of_mem_shared member
  exact (shown.symm.append_right _).trans (List.filter_append_perm _ _)

/-- Merging keeps the first field of every declared name, and behind them the shared fields that are
missing; no name is repeated, and merging again changes nothing.  All descriptions follow the merged
fields, and the entries of the schema are those of the fields that are not shared. -/
theorem merge_described (name : Text) {declared : List Field}
    (proper : ∀ field ∈ declared, field.name ≠ Component.identityName) :
    let merged := merge declared
    let names := merged.map Field.name
    let keys := (Schema.ofFields merged).map Prod.fst
    (merged = firsts declared ++
      shared.filter fun field => ! (declared.map Field.name).contains field.name) ∧
      (Component.identityName :: names).Nodup ∧ merge merged = merged ∧
      (keys = names.filter fun name => ! Schema.sharedNames.contains name) ∧
      (Schema.sharedNames ++ keys).Perm names ∧ IsDescribed name merged := by
  intro merged names keys
  have nodup : names.Nodup := nodup_merge declared
  have unnamed : Component.identityName ∉ names := fun among => by
    obtain ⟨field, member, same⟩ := List.mem_map.mp among
    rcases mem_of_mem_merge member with isDeclared | isShared
    · exact proper field isDeclared same
    · have apart : ∀ field ∈ shared, field.name ≠ Component.identityName := by decide
      exact apart field isShared same
  have keysEq : keys = names.filter fun name => ! Schema.sharedNames.contains name :=
    keys_ofFields nodup
  refine ⟨merge_eq declared, List.nodup_cons.mpr ⟨unnamed, nodup⟩, merge_eq_self rfl, keysEq, ?_,
    .of_nodup name nodup (merge_ne_nil declared)⟩
  rw [keysEq]
  exact perm_sharedNames_keys declared

/-- A repeated name, and a shared one with another default. -/
theorem merge_described_repeated :
    let declared : List Field := [⟨"title".toList, none⟩,
      ⟨"component_width".toList, some (.text "50%".toList)⟩,
      ⟨"title".toList, some (.text "again".toList)⟩]
    (∀ field ∈ declared, field.name ≠ Component.identityName) ∧
      merge declared = [⟨"title".toList, none⟩,
        ⟨"component_width".toList, some (.text "50%".toList)⟩,
        ⟨"brand_colors_primary".toList, some (.text "#4f46e5".toList)⟩,
        ⟨"brand_colors_text_on_primary".toList, some (.text "white".toList)⟩] ∧
      (Schema.ofFields (merge declared)).map Prod.fst = ["title".toList] ∧
      IsDescribed "Banner".toList (merge declared) := by
  intro declared
  have proper : ∀ field ∈ declared, field.name ≠ Component.identityName := by decide
  obtain ⟨merged, -, -, keys, -, described⟩ := merge_described "Banner".toList proper
  refine ⟨proper, merged.trans (by decide), keys.trans ?_, described⟩
  rw [merged]
  decide

end Field

end EmbedScaffold
