import OrcConversion.Arrow.Flatten
import OrcConversion.Proofs.Arrow.Paths

/-! The leaves of a schema. -/

namespace OrcConversion.Arrow

/-! ## Leaves -/

/-- A field that is no struct, with the names that lead to it through structs. -/
structure Leaf where
  path : List String
  type : DataType

namespace Leaf

def under (name : String) (leaf : Leaf) : Leaf := ⟨name :: leaf.path, leaf.type⟩

def columnName (leaf : Leaf) : String := flatSeparator.intercalate leaf.path

def dotted (leaf : Leaf) : String := ".".intercalate leaf.path

theorem dotted_eq_columnName {leaf : Leaf} (hpath : leaf.path ≠ [])
    (hfree : ∀ name ∈ leaf.path, '.' ∉ name.toList) :
    leaf.dotted = leaf.columnName ↔ leaf.path.length = 1 := by
  obtain ⟨path, type⟩ := leaf
  cases path with
  | nil => exact absurd rfl hpath
  | cons name path =>
      cases path with
      | nil => simp [dotted, columnName]
      | cons next path =>
          refine iff_of_false (fun heq => ?_) (by simp)
          have htexts : ".".intercalate (name :: next :: path) =
              flatSeparator.intercalate (name :: next :: path) := heq
          have hname : '.' ∉ (flatSeparator.intercalate (name :: next :: path)).toList :=
            Text.not_mem_intercalate (by decide) hfree
          rw [← htexts, Text.toList_intercalate_cons "." name (List.cons_ne_nil _ _)] at hname
          simp at hname

end Leaf

mutual

/-- Leaves of a field, depth first. -/
def Field.leaves : Field → List Leaf
  | .mk name type _ _ =>
      match type with
      | .struct fields => (leavesOf fields).map (Leaf.under name)
      | _ => [⟨[name], type⟩]

def leavesOf : List Field → List Leaf
  | [] => []
  | field :: fields => field.leaves ++ leavesOf fields

end

@[elab_as_elim]
theorem fieldsInduction {motive : List Field → Prop} (nil : motive [])
    (plain : ∀ field fields, field.type.fields? = none → motive fields → motive (field :: fields))
    (struct : ∀ field inner fields, field.type = .struct inner → motive inner → motive fields →
      motive (field :: fields)) (fields : List Field) : motive fields := by
  match fields with
  | [] => exact nil
  | .mk name type nullable metadata :: fields =>
      have hfields := fieldsInduction nil plain struct fields
      match htype : type.fields? with
      | none => exact plain _ fields htype hfields
      | some inner =>
          have hstruct := DataType.fields?_eq_some.mp htype
          exact struct _ inner fields hstruct (fieldsInduction nil plain struct inner) hfields
termination_by sizeOf fields
decreasing_by
  · rw [List.cons.sizeOf_spec]
    omega
  · rw [List.cons.sizeOf_spec, Field.mk.sizeOf_spec, hstruct, DataType.struct.sizeOf_spec]
    omega

namespace Field

variable {field : Field} {inner : List Field}

theorem leaves_plain (h : field.type.fields? = none) :
    field.leaves = [⟨[field.name], field.type⟩] := by
  obtain ⟨name, type, nullable, metadata⟩ := field
  cases type <;> first | rfl | cases h

theorem leaves_struct (h : field.type = .struct inner) :
    field.leaves = (leavesOf inner).map (Leaf.under field.name) := by
  obtain ⟨name, type, nullable, metadata⟩ := field
  cases h
  rfl

end Field

theorem mem_leavesOf_cons {field : Field} {fields : List Field} {leaf : Leaf} :
    leaf ∈ leavesOf (field :: fields) ↔ leaf ∈ field.leaves ∨ leaf ∈ leavesOf fields :=
  List.mem_append

/-! ## Leaves and levels -/

/-- Leaves of some fields, reached through structs. -/
inductive IsLeaf : List Field → Leaf → Prop where
  | own {fields : List Field} {field : Field} : field ∈ fields → field.type.fields? = none →
      IsLeaf fields ⟨[field.name], field.type⟩
  | under {fields inner : List Field} {field : Field} {leaf : Leaf} : field ∈ fields →
      field.type = .struct inner → IsLeaf inner leaf → IsLeaf fields (leaf.under field.name)

/-- Fields that stand side by side in a schema, reached through structs. -/
inductive Level (schema : Schema) : List Field → Prop where
  | top : Level schema schema
  | inside {siblings inner : List Field} {field : Field} : Level schema siblings →
      field ∈ siblings → field.type = .struct inner → Level schema inner

section

variable {fields inner siblings : List Field} {field : Field} {leaf : Leaf}

theorem IsLeaf.cons (h : IsLeaf fields leaf) (first : Field) : IsLeaf (first :: fields) leaf := by
  cases h with
  | own hmem hplain => exact .own (List.mem_cons_of_mem first hmem) hplain
  | under hmem hstruct hinner => exact .under (List.mem_cons_of_mem first hmem) hstruct hinner

theorem isLeaf_of_mem (h : leaf ∈ leavesOf fields) : IsLeaf fields leaf := by
  induction fields using fieldsInduction generalizing leaf with
  | nil => cases h
  | plain field fields hplain ih =>
      rcases mem_leavesOf_cons.mp h with h | h
      · rw [Field.leaves_plain hplain] at h
        cases List.mem_singleton.mp h
        exact .own List.mem_cons_self hplain
      · exact (ih h).cons field
  | struct field inner fields hstruct ihInner ih =>
      rcases mem_leavesOf_cons.mp h with h | h
      · rw [Field.leaves_struct hstruct] at h
        obtain ⟨other, hother, rfl⟩ := List.mem_map.mp h
        exact .under List.mem_cons_self hstruct (ihInner hother)
      · exact (ih h).cons field

theorem mem_leavesOf_of_mem (hmem : field ∈ fields) (h : leaf ∈ field.leaves) :
    leaf ∈ leavesOf fields := by
  induction fields with
  | nil => cases hmem
  | cons first fields ih =>
      rw [mem_leavesOf_cons]
      rcases List.mem_cons.mp hmem with rfl | hmem
      · exact .inl h
      · exact .inr (ih hmem)

theorem mem_of_isLeaf (h : IsLeaf fields leaf) : leaf ∈ leavesOf fields := by
  induction h with
  | own hmem hplain =>
      apply mem_leavesOf_of_mem hmem
      rw [Field.leaves_plain hplain]
      exact List.mem_singleton_self _
  | under hmem hstruct _ ih =>
      apply mem_leavesOf_of_mem hmem
      rw [Field.leaves_struct hstruct]
      exact List.mem_map_of_mem ih

theorem mem_leavesOf : leaf ∈ leavesOf fields ↔ IsLeaf fields leaf :=
  ⟨isLeaf_of_mem, mem_of_isLeaf⟩

theorem Level.of_inner (hmem : field ∈ fields) (hstruct : field.type = .struct inner)
    (h : Level inner siblings) : Level fields siblings := by
  induction h with
  | top => exact .inside .top hmem hstruct
  | inside _ hsibling htype ih => exact .inside ih hsibling htype

theorem level_iff : Level fields siblings ↔ siblings = fields ∨
    ∃ field ∈ fields, ∃ inner, field.type = .struct inner ∧ Level inner siblings := by
  constructor
  · intro h
    induction h with
    | top => exact .inl rfl
    | @inside siblings inner field _ hmem hstruct ih =>
        rcases ih with rfl | ⟨outer, houter, between, hbetween, hlevel⟩
        · exact .inr ⟨field, hmem, inner, hstruct, .top⟩
        · exact .inr ⟨outer, houter, between, hbetween, .inside hlevel hmem hstruct⟩
  · rintro (rfl | ⟨field, hmem, inner, hstruct, hlevel⟩)
    · exact .top
    · exact hlevel.of_inner hmem hstruct

theorem Level.eq_of_plain (h : Level fields siblings)
    (hplain : ∀ field ∈ fields, field.type.fields? = none) : siblings = fields := by
  rcases level_iff.mp h with rfl | ⟨field, hmem, inner, hstruct, -⟩
  · rfl
  · cases (hplain field hmem).symm.trans (DataType.fields?_eq_some.mpr hstruct)

theorem IsLeaf.path_ne_nil (h : IsLeaf fields leaf) : leaf.path ≠ [] := by
  cases h with
  | own => exact List.cons_ne_nil _ _
  | under => exact List.cons_ne_nil _ _

theorem IsLeaf.names {named : String → Prop} (h : IsLeaf fields leaf)
    (hnames : ∀ siblings, Level fields siblings → ∀ field ∈ siblings, named field.name) :
    ∀ name ∈ leaf.path, named name := by
  induction h with
  | own hmem _ =>
      intro name hname
      cases List.mem_singleton.mp hname
      exact hnames _ .top _ hmem
  | under hmem hstruct _ ih =>
      intro name hname
      rcases List.mem_cons.mp hname with rfl | hname
      · exact hnames _ .top _ hmem
      · exact ih (fun siblings hlevel => hnames siblings (hlevel.of_inner hmem hstruct)) name hname

theorem onlyOne_of_nodup (hnodup : (fields.map Field.name).Nodup) (hmem : field ∈ fields) :
    OnlyOne fields field.name field := by
  obtain ⟨before, after, rfl⟩ := List.append_of_mem hmem
  refine ⟨rfl, before, after, rfl, ?_⟩
  have hfirst := (List.perm_middle.map Field.name).nodup_iff.mp hnodup
  intro other hother hname
  exact (List.nodup_cons.mp hfirst).1 (hname ▸ List.mem_map_of_mem hother)

theorem IsLeaf.resolves (h : IsLeaf fields leaf)
    (hdistinct : ∀ siblings, Level fields siblings → (siblings.map Field.name).Nodup) :
    Resolves fields leaf.path := by
  induction h with
  | own hmem _ => exact .last (onlyOne_of_nodup (hdistinct _ .top) hmem)
  | under hmem hstruct _ ih =>
      apply Resolves.through (onlyOne_of_nodup (hdistinct _ .top) hmem) hstruct
      exact ih fun siblings hlevel => hdistinct siblings (hlevel.of_inner hmem hstruct)

end

end OrcConversion.Arrow
