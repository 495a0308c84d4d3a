import Mathlib.Data.List.Nodup
import OrcConversion.Proofs.Arrow.LeafColumns
import OrcConversion.Proofs.Text.Lowercase

/-! When the columns that flattening makes have different names, case aside. -/

namespace OrcConversion.Arrow

open Text

/-- Name of the column of a leaf without regard to case. -/
def Leaf.key (leaf : Leaf) : String := lowercase leaf.columnName

/-- Where the name of a field goes on with an underscore behind the name of a struct beside it, no
leaf of the one has the column name of a leaf of the other. -/
def KeptApart (siblings : List Field) : Prop :=
  ∀ outer ∈ siblings, ∀ inner, outer.type = .struct inner →
    ∀ other ∈ siblings, (lowercase outer.name ++ "_").toList <+: (lowercase other.name).toList →
      ∀ leaf ∈ outer.leaves, ∀ another ∈ other.leaves, leaf.key ≠ another.key

section

variable {fields siblings : List Field} {field outer other : Field} {leaf another : Leaf}

/-! ## Names of leaves -/

theorem leaf_key_own (name : String) (type : DataType) :
    (Leaf.mk [name] type).key = lowercase name := by
  rw [Leaf.key, Leaf.columnName, String.intercalate_singleton]

theorem Leaf.key_under (h : leaf.path ≠ []) (name : String) :
    (leaf.under name).key = lowercase name ++ "__" ++ leaf.key := by
  rw [key, columnName, under, String.intercalate_cons_of_ne_nil h, flatSeparator,
    lowercase_underscores]
  rfl

theorem keys_leaves_struct {inner : List Field} (h : field.type = .struct inner) :
    field.leaves.map Leaf.key =
      ((leavesOf inner).map Leaf.key).map (lowercase field.name ++ "__" ++ ·) := by
  rw [Field.leaves_struct h, List.map_map, List.map_map]
  apply List.map_congr_left
  intro leaf hleaf
  exact leaf.key_under (mem_leavesOf.mp hleaf).path_ne_nil field.name

theorem key_eq_or (h : leaf ∈ field.leaves) :
    leaf.key = lowercase field.name ∨
      ∃ inner below, field.type = .struct inner ∧
        leaf.key = lowercase field.name ++ "__" ++ below := by
  cases htype : field.type.fields? with
  | none =>
      rw [Field.leaves_plain htype] at h
      cases List.mem_singleton.mp h
      exact .inl (leaf_key_own _ _)
  | some inner =>
      have hstruct := DataType.fields?_eq_some.mp htype
      rw [Field.leaves_struct hstruct] at h
      obtain ⟨below, hbelow, rfl⟩ := List.mem_map.mp h
      have hpath := (mem_leavesOf.mp hbelow).path_ne_nil
      exact .inr ⟨inner, below.key, hstruct, below.key_under hpath field.name⟩

theorem head?_path (h : leaf ∈ field.leaves) : leaf.path.head? = some field.name := by
  cases htype : field.type.fields? with
  | none =>
      rw [Field.leaves_plain htype] at h
      cases List.mem_singleton.mp h
      rfl
  | some inner =>
      rw [Field.leaves_struct (DataType.fields?_eq_some.mp htype)] at h
      obtain ⟨below, -, rfl⟩ := List.mem_map.mp h
      rfl

theorem begins_key (h : leaf ∈ field.leaves) :
    (lowercase field.name).toList <+: leaf.key.toList := by
  rcases key_eq_or h with hkey | ⟨-, below, -, hkey⟩
  · exact hkey ▸ List.prefix_rfl
  · rw [hkey, String.toList_append, String.toList_append, List.append_assoc]
    exact List.prefix_append _ _

/-- A leaf of one field has the key of a leaf of another only if that one goes on with an
underscore. -/
theorem goesOn_of_key_eq (hleaf : leaf ∈ outer.leaves) (hanother : another ∈ other.leaves)
    (hkey : leaf.key = another.key)
    (hbegins : (lowercase outer.name).toList <+: (lowercase other.name).toList)
    (hne : lowercase outer.name ≠ lowercase other.name) :
    ∃ inner, outer.type = .struct inner ∧
      (lowercase outer.name ++ "_").toList <+: (lowercase other.name).toList := by
  have hother : (lowercase other.name).toList <+: leaf.key.toList := hkey ▸ begins_key hanother
  have hlt : (lowercase outer.name).toList.length < (lowercase other.name).toList.length := by
    refine Nat.lt_of_le_of_ne hbegins.length_le fun hlength => ?_
    exact hne (String.toList_injective (hbegins.eq_of_length hlength))
  rcases key_eq_or hleaf with hown | ⟨inner, below, hstruct, hbelow⟩
  · rw [hown] at hother
    have hle := hother.length_le
    omega
  · refine ⟨inner, hstruct, List.prefix_of_prefix_length_le ?_ hother ?_⟩
    · refine ⟨("_" ++ below).toList, ?_⟩
      rw [hbelow]
      simp
    · rw [String.toList_append, List.length_append]
      exact hlt

theorem KeptApart.key_ne (h : KeptApart siblings) (houter : outer ∈ siblings)
    (hother : other ∈ siblings) (hne : lowercase outer.name ≠ lowercase other.name)
    (hleaf : leaf ∈ outer.leaves) (hanother : another ∈ other.leaves) :
    leaf.key ≠ another.key := by
  intro hkey
  have hfirst : (lowercase outer.name).toList <+: leaf.key.toList := begins_key hleaf
  have hsecond : (lowercase other.name).toList <+: leaf.key.toList := hkey ▸ begins_key hanother
  rcases List.prefix_or_prefix_of_prefix hfirst hsecond with hbegins | hbegins
  · obtain ⟨inner, hstruct, hgoes⟩ := goesOn_of_key_eq hleaf hanother hkey hbegins hne
    exact h outer houter inner hstruct other hother hgoes leaf hleaf another hanother hkey
  · obtain ⟨inner, hstruct, hgoes⟩ :=
      goesOn_of_key_eq hanother hleaf hkey.symm hbegins (Ne.symm hne)
    exact h other hother inner hstruct outer houter hgoes another hanother leaf hleaf hkey.symm

theorem keptApart_of_not_goesOn
    (h : ∀ outer ∈ siblings, ∀ other ∈ siblings,
      ¬ (lowercase outer.name ++ "_").toList <+: (lowercase other.name).toList) :
    KeptApart siblings :=
  fun outer houter _ _ other hother hgoes => absurd hgoes (h outer houter other hother)

/-! ## Names of all leaves -/

theorem leavesOf_eq_flatMap (fields : List Field) :
    leavesOf fields = fields.flatMap Field.leaves := by
  induction fields with
  | nil => rfl
  | cons field fields ih => rw [leavesOf, ih, List.flatMap_cons]

/-- What holds of all levels, and of every level without its first field, holds of the levels of the
other fields. -/
theorem forall_level_tail {good : List Field → Prop}
    (htail : ∀ field fields, good (field :: fields) → good fields)
    (h : ∀ siblings, Level (field :: fields) siblings → good siblings) :
    ∀ siblings, Level fields siblings → good siblings := by
  intro siblings hlevel
  rcases level_iff.mp hlevel with rfl | ⟨between, hbetween, inner, hstruct, hinner⟩
  · exact htail field _ (h _ .top)
  · exact h siblings (hinner.of_inner (List.mem_cons_of_mem field hbetween) hstruct)

/-- Names side by side that differ, and keep the leaves below them apart. -/
structure NamedApart (siblings : List Field) : Prop where
  distinct : (siblings.map fun field => lowercase field.name).Nodup
  apart : KeptApart siblings

theorem NamedApart.tail (h : NamedApart (field :: fields)) : NamedApart fields := by
  constructor
  · exact (List.nodup_cons.mp h.distinct).2
  · intro outer houter inner hstruct other hother
    exact h.apart outer (List.mem_cons_of_mem _ houter) inner hstruct other
      (List.mem_cons_of_mem _ hother)

theorem nodup_keys_append (hnamed : NamedApart (field :: fields))
    (hfirst : (field.leaves.map Leaf.key).Nodup)
    (hrest : ((leavesOf fields).map Leaf.key).Nodup) :
    ((leavesOf (field :: fields)).map Leaf.key).Nodup := by
  rw [leavesOf, List.map_append]
  apply hfirst.append hrest
  intro key hkey hother
  obtain ⟨leaf, hleaf, rfl⟩ := List.mem_map.mp hkey
  obtain ⟨another, hmem, hsame⟩ := List.mem_map.mp hother
  obtain ⟨other, hfield, hanother⟩ := List.mem_flatMap.mp (leavesOf_eq_flatMap fields ▸ hmem)
  have hne : lowercase field.name ≠ lowercase other.name := by
    intro heq
    exact (List.nodup_cons.mp hnamed.distinct).1 (List.mem_map.mpr ⟨other, hfield, heq.symm⟩)
  exact hnamed.apart.key_ne List.mem_cons_self (List.mem_cons_of_mem field hfield) hne hleaf
    hanother hsame.symm

theorem nodup_keys (h : ∀ siblings, Level fields siblings → NamedApart siblings) :
    ((leavesOf fields).map Leaf.key).Nodup := by
  induction fields using fieldsInduction with
  | nil => exact List.nodup_nil
  | plain field fields hplain ih =>
      apply nodup_keys_append (h _ .top)
      · rw [Field.leaves_plain hplain]
        exact List.nodup_singleton _
      · exact ih (forall_level_tail (fun _ _ => NamedApart.tail) h)
  | struct field inner fields hstruct ihInner ih =>
      apply nodup_keys_append (h _ .top)
      · rw [keys_leaves_struct hstruct]
        apply (ihInner _).map
        · exact fun _ _ => (String.append_right_inj _).mp
        · exact fun siblings hlevel => h siblings (hlevel.of_inner List.mem_cons_self hstruct)
      · exact ih (forall_level_tail (fun _ _ => NamedApart.tail) h)

theorem nodup_keys_of_level (hlevel : Level fields siblings)
    (h : ((leavesOf fields).map Leaf.key).Nodup) : ((leavesOf siblings).map Leaf.key).Nodup := by
  induction hlevel with
  | top => exact h
  | inside _ hmem hstruct ih =>
      rename_i siblings inner field _
      have hleaves : field.leaves.Sublist (leavesOf siblings) := by
        rw [leavesOf_eq_flatMap]
        exact List.sublist_flatten_of_mem (List.mem_map_of_mem hmem)
      have hkeys := ih.sublist (hleaves.map Leaf.key)
      rw [keys_leaves_struct hstruct] at hkeys
      exact hkeys.of_map _

theorem keptApart_of_nodup_keys (h : ((leavesOf siblings).map Leaf.key).Nodup) :
    KeptApart siblings := by
  intro outer houter inner _ other hother hgoes leaf hleaf another hanother hkey
  have hsame : leaf = another := List.inj_on_of_nodup_map h (mem_leavesOf_of_mem houter hleaf)
    (mem_leavesOf_of_mem hother hanother) hkey
  have hnames : some outer.name = some other.name := by
    rw [← head?_path hleaf, hsame, head?_path hanother]
  rw [Option.some.inj hnames, String.toList_append] at hgoes
  have hle := hgoes.length_le
  rw [List.length_append] at hle
  exact absurd hle (Nat.not_succ_le_self _)

/-- Where names side by side differ, the columns have different names just when the fields of every
level are kept apart. -/
theorem nodup_keys_iff (hdistinct : ∀ siblings, Level fields siblings →
      (siblings.map fun field => lowercase field.name).Nodup) :
    ((leavesOf fields).map Leaf.key).Nodup ↔
      ∀ siblings, Level fields siblings → KeptApart siblings := by
  constructor
  · exact fun h siblings hlevel => keptApart_of_nodup_keys (nodup_keys_of_level hlevel h)
  · exact fun h => nodup_keys fun siblings hlevel => ⟨hdistinct siblings hlevel, h siblings hlevel⟩

/-! ## Names of columns -/

theorem keys_flatten {schema columns : Schema} (h : schema.flatten = .ok columns) :
    (columns.map fun field => lowercase field.name) = (leavesOf schema).map Leaf.key := by
  have hnames := congrArg (List.map lowercase) (map_name_flatten h)
  rwa [List.map_map, List.map_map] at hnames

end

end OrcConversion.Arrow
