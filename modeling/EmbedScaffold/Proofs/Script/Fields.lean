import EmbedScaffold.Script.Fields
import EmbedScaffold.Proofs.Attempt

/-!
# Fields that a script can declare

Whichever way a script is read, its fields have names that variables can have, and an integer default
is no negative number, for the sign of a number is no part of it.
-/

namespace EmbedScaffold

open Text

/-- What holds of every field that is read from a script. -/
structure Field.IsRead (field : Field) : Prop where
  named : Script.isVariableName field.name = true
  natural : ∀ number, field.default = some (.integer number) → 0 ≤ number

namespace Script

/-- A default that is no negative number. -/
def IsNatural (default : Option Scalar) : Prop :=
  ∀ number, default = some (.integer number) → 0 ≤ number

section Value

variable {content : Text}

theorem isNatural_none : IsNatural none := by
  rintro number ⟨⟩

theorem isNatural_ofCodes (codes : List Nat) : IsNatural (some (.ofCodes codes)) := by
  intro number same
  rw [Scalar.ofCodes] at same
  split at same <;> cases same

theorem isNatural_natCast (number : Nat) : IsNatural (some (.integer number)) := by
  rintro _ ⟨⟩
  exact Int.natCast_nonneg number

theorem isNatural_decimalValue (content : Text) : IsNatural (decimalValue content) := by
  rw [decimalValue]
  split
  · exact isNatural_natCast _
  · intro number same
    obtain ⟨value, -, shape⟩ := Option.map_eq_some_iff.mp same
    cases shape

theorem isNatural_numberValue (content : Text) : IsNatural (numberValue content) := by
  rw [numberValue]
  split
  · split
    · exact isNatural_natCast _
    · split
      · exact isNatural_natCast _
      · split
        · exact isNatural_natCast _
        · exact isNatural_decimalValue _
  · exact isNatural_decimalValue _

end Value

/-! ## Plain scripts -/

namespace Plain

theorem isNatural_value? {content : Text} {default : Option Scalar}
    (value : value? content = some default) : IsNatural default := by
  unfold value? at value
  split at value
  · cases value
  · split at value
    · obtain ⟨⟨codes, behind⟩, -, value⟩ := Option.bind_eq_some_iff.mp value
      dsimp only at value
      split at value
      · obtain rfl := Option.some.inj value
        exact isNatural_ofCodes codes
      · cases value
    · dsimp only at value
      split_ifs at value
      · obtain rfl := Option.some.inj value
        rintro number ⟨⟩
      · obtain rfl := Option.some.inj value
        rintro number ⟨⟩
      · obtain rfl := Option.some.inj value
        exact isNatural_none
      · obtain rfl := Option.some.inj value
        exact isNatural_numberValue _

theorem isRead_of_declared? {content : Text} {field : Field}
    (declares : declared? content = some field) : field.IsRead := by
  rw [declared?] at declares
  obtain ⟨⟨name, rest⟩, named, declares⟩ := Option.bind_eq_some_iff.mp declares
  have isName : isVariableName name = true := by
    rw [name?] at named
    split at named
    · next isName =>
        obtain ⟨rfl, -⟩ := Prod.mk.inj (Option.some.inj named)
        exact isName
    · cases named
  dsimp only at declares
  split at declares
  · obtain rfl := Option.some.inj declares
    exact ⟨isName, isNatural_none⟩
  · obtain ⟨value, found, declares⟩ := Option.bind_eq_some_iff.mp declares
    obtain rfl := Option.some.inj declares
    obtain ⟨literal, -, read⟩ := Option.bind_eq_some_iff.mp found
    exact ⟨isName, isNatural_value? read⟩

theorem isRead_of_ofContent? {content : Text} {field : Field}
    (reads : Line.ofContent? content = some (.declaring field)) : field.IsRead := by
  unfold Line.ofContent? at reads
  split_ifs at reads
  · cases reads
  · cases reads
  · cases reads
  · cases reads
  split at reads
  · split at reads <;> cases reads
  · obtain ⟨_, found, shape⟩ := Option.map_eq_some_iff.mp reads
    obtain ⟨rest, -, declares⟩ := Option.bind_eq_some_iff.mp found
    cases shape
    exact isRead_of_declared? declares

theorem isRead_of_collect? {isOpen : Bool} {lines : List Text} {fields : List Field}
    (collects : collect? isOpen lines = some fields) : ∀ field ∈ fields, field.IsRead := by
  induction lines generalizing isOpen fields with
  | nil =>
      cases isOpen with
      | true => cases collects
      | false =>
          obtain rfl := Option.some.inj collects
          rintro field ⟨⟩
  | cons first rest inductionHypothesis =>
      rw [collect?] at collects
      split at collects
      · exact inductionHypothesis collects
      · split at collects
        · cases collects
        · exact inductionHypothesis collects
      · next declared reads =>
          split at collects
          · cases collects
          · obtain ⟨others, behind, rfl⟩ := Option.map_eq_some_iff.mp collects
            rw [List.forall_mem_cons]
            exact ⟨isRead_of_ofContent? reads, inductionHypothesis behind⟩
      · split at collects
        · cases collects
        · exact inductionHypothesis collects
      · split at collects
        · exact inductionHypothesis collects
        · cases collects
      · cases collects

end Plain

/-! ## Analysed scripts -/

namespace Tree

variable {source : Source} {tree : Tree} {default : Option Scalar} {fields : List Field}

theorem isNatural_value (value : tree.value source = .ok default) : IsNatural default := by
  rw [Tree.value] at value
  split_ifs at value
  · obtain ⟨codes, -, value⟩ := exists_of_bind value
    obtain rfl := Except.ok.inj value
    exact isNatural_ofCodes codes
  · obtain rfl := Except.ok.inj value
    exact isNatural_numberValue _
  · obtain rfl := Except.ok.inj value
    rintro number ⟨⟩
  · obtain rfl := Except.ok.inj value
    rintro number ⟨⟩
  · obtain rfl := Except.ok.inj value
    exact isNatural_none

theorem isVariableName_of_declaredName? {name : Text}
    (declares : tree.declaredName? source = some name) : isVariableName name = true := by
  rw [declaredName?] at declares
  obtain ⟨first, -, declares⟩ := Option.bind_eq_some_iff.mp declares
  dsimp only at declares
  split at declares
  · next isName =>
      obtain rfl := Option.some.inj declares
      rw [Bool.and_eq_true] at isName
      exact isName.2
  · cases declares

theorem isRead_of_declaredFields (declares : tree.declaredFields source = .ok fields) :
    ∀ field ∈ fields, field.IsRead := by
  intro field member
  rw [declaredFields] at declares
  split at declares
  · obtain ⟨⟨part, name⟩, among, given⟩ := exists_item_of_mapM declares member
    obtain ⟨declarator, -, found⟩ := List.mem_filterMap.mp among
    split at found
    · obtain ⟨_, declared, shape⟩ := Option.map_eq_some_iff.mp found
      obtain ⟨rfl, rfl⟩ := Prod.mk.inj shape
      obtain ⟨default, valued, given⟩ := exists_of_bind given
      obtain rfl := Except.ok.inj given
      refine ⟨isVariableName_of_declaredName? declared, ?_⟩
      cases initial : declarator.initialValue? with
      | none =>
          rw [initial] at valued
          obtain rfl := Except.ok.inj valued
          exact isNatural_none
      | some value =>
          rw [initial] at valued
          exact isNatural_value valued
    · cases found
  · obtain rfl := Except.ok.inj declares
    cases member

theorem isRead_of_fields (declares : tree.fields source = .ok fields) :
    ∀ field ∈ fields, field.IsRead := by
  intro field member
  rw [Tree.fields] at declares
  obtain ⟨declared, gives, shape⟩ := exists_of_bind declares
  obtain rfl := Except.ok.inj shape
  obtain ⟨inner, among, inside⟩ := List.mem_flatten.mp member
  obtain ⟨declaration, -, given⟩ := exists_item_of_mapM gives among
  exact isRead_of_declaredFields given field inside

end Tree

/-! ## All scripts -/

section Content

variable {content : Text} {fields : List Field}

theorem isRead_of_fieldsOfTree {found : Option Tree} (reads : fieldsOfTree content found = .ok fields) :
    ∀ field ∈ fields, field.IsRead := by
  cases found with
  | none => cases reads
  | some script =>
      rw [fieldsOfTree] at reads
      split at reads
      · exact Tree.isRead_of_fields reads
      · cases reads

theorem isRead_of_fields (reads : Script.fields content = .ok fields) :
    ∀ field ∈ fields, field.IsRead := by
  rw [Script.fields] at reads
  generalize plain : Plain.fields? content = found at reads
  cases found with
  | some declared =>
      obtain rfl := Except.ok.inj reads
      exact Plain.isRead_of_collect? plain
  | none => exact isRead_of_fieldsOfTree reads

end Content

end Script

end EmbedScaffold
