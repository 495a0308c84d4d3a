import OrcConversion.Proofs.Conversion.FlattenedColumns

/-! Tables that are created without columns. -/

namespace OrcConversion

open Arrow Hive Workflow

namespace Arrow

/-- Structs and nothing else, however far down. -/
def Hollow (schema : Schema) : Prop :=
  ∀ siblings, Level schema siblings → ∀ field ∈ siblings, ∃ inner, field.type = .struct inner

variable {schema : Schema} {siblings : List Field} {leaf : Leaf}

theorem Level.exists_isLeaf (hlevel : Level schema siblings) (h : IsLeaf siblings leaf) :
    ∃ other, IsLeaf schema other := by
  induction hlevel generalizing leaf with
  | top => exact ⟨leaf, h⟩
  | inside _ hmem hstruct ih => exact ih (.under hmem hstruct h)

theorem IsLeaf.exists_plain (h : IsLeaf schema leaf) :
    ∃ siblings, Level schema siblings ∧ ∃ field ∈ siblings, field.type.fields? = none := by
  induction h with
  | own hmem hplain => exact ⟨_, .top, _, hmem, hplain⟩
  | under hmem hstruct _ ih =>
      obtain ⟨siblings, hlevel, hplain⟩ := ih
      exact ⟨siblings, hlevel.of_inner hmem hstruct, hplain⟩

theorem hollow_iff : Hollow schema ↔ ∀ leaf, ¬ IsLeaf schema leaf := by
  constructor
  · intro hhollow leaf hleaf
    obtain ⟨siblings, hlevel, field, hmem, hplain⟩ := hleaf.exists_plain
    obtain ⟨inner, hstruct⟩ := hhollow siblings hlevel field hmem
    cases hplain.symm.trans (DataType.fields?_eq_some.mpr hstruct)
  · intro hnone siblings hlevel field hmem
    cases hfields : field.type.fields? with
    | none =>
        obtain ⟨leaf, hleaf⟩ := hlevel.exists_isLeaf (.own hmem hfields)
        exact absurd hleaf (hnone leaf)
    | some inner => exact ⟨inner, DataType.fields?_eq_some.mp hfields⟩

theorem leavesOf_eq_nil_iff : leavesOf schema = [] ↔ Hollow schema := by
  simp only [List.eq_nil_iff_forall_not_mem, mem_leavesOf, hollow_iff]

end Arrow

section

variable {schema shaped : Schema} {format : OutputFormat} {columns : List Column}

theorem eq_nil_of_flattened (hflat : schema.flatten = .ok shaped)
    (hcolumns : columnsOrFailure shaped = .ok columns) : columns = [] ↔ Hollow schema := by
  have hlengths := congrArg List.length (map_name_of_flatten hflat hcolumns)
  rw [List.length_map, List.length_map] at hlengths
  rw [← leavesOf_eq_nil_iff, ← List.length_eq_zero_iff, hlengths, List.length_eq_zero_iff]

theorem eq_nil_of_shape (hschema : schema ≠ []) (hshape : format.shape schema = .ok shaped)
    (hcolumns : columnsOrFailure shaped = .ok columns) :
    columns = [] ↔ format = .flattened ∧ Hollow schema := by
  cases format with
  | flattened =>
      rw [eq_nil_of_flattened hshape hcolumns]
      exact (and_iff_right rfl).symm
  | nested =>
      cases hshape
      have hnames := map_name_of_columns hcolumns
      refine iff_of_false ?_ (fun h => by cases h.1)
      rintro rfl
      exact hschema (List.map_eq_nil_iff.mp hnames.symm)

end

section

variable {σ : Type} {services : Services σ} {state : σ} {targets : Targets} {target : Target}
  {format : OutputFormat} {entity : Entity} {schema : Schema} {mark : RunMark}
  {destination : Destination} {plan : ConversionPlan}

theorem schema_ne_nil_of_plan (htarget : targets format = some target)
    (hplan : ((planConversion targets format entity (some schema) (.ok mark)).run services
      state).result = .ok plan) : schema ≠ [] := by
  rintro rfl
  rw [planConversion, htarget] at hplan
  cases hplan

/-- A plan creates its staging table and a new final table with the same columns, and fills the
former with one expression for each of them. There are none just when a hollow schema was
flattened. -/
theorem created_columns_eq_nil_iff (htarget : targets format = some target)
    (hload : ((loadDestination target.db target.table).run services state).result =
      .ok destination)
    (habsent : destination.table = none)
    (hplan : ((planConversion targets format entity (some schema) (.ok mark)).run services
      state).result = .ok plan) :
    ∃ columns insertion,
      CreatesTables target (stagingTableName target.stagingName mark.time mark.digit) plan columns
        insertion ∧
      insertion.selection.length = columns.length ∧
      (columns = [] ↔ format = .flattened ∧ Hollow schema) := by
  obtain ⟨shaped, columns, insertion, hshape, hcreates, hcolumns, hselection⟩ :=
    exists_createsTables htarget hload habsent hplan
  refine ⟨columns, insertion, hcreates, ?_, ?_⟩
  · exact (Option.mapM_eq_some.mp hselection).length_eq.symm
  · exact eq_nil_of_shape (schema_ne_nil_of_plan htarget hplan) hshape hcolumns

end

open Sample in
theorem created_columns_eq_nil_iff_cityVisits :
    let planner := planConversion (fun _ => some warehouse) .flattened cityVisits (some placed)
      (.ok ⟨0, 0⟩)
    ∃ plan columns insertion, (planner.run Rehearsal.services {}).result = .ok plan ∧
      CreatesTables warehouse "visits_00" plan columns insertion ∧
      columns ≠ [] ∧ insertion.selection ≠ [] := by
  intro planner
  have hload : ((loadDestination "dw" "visits").run Rehearsal.services {}).result =
      .ok .absent := rfl
  have hplanned : (planner.run Rehearsal.services {}).result.isOk = true := by decide +kernel
  obtain ⟨plan, hplan⟩ := Except.exists_of_isOk hplanned
  obtain ⟨columns, insertion, hcreates, hlength, hempty⟩ :=
    @created_columns_eq_nil_iff _ Rehearsal.services {} (fun _ => some warehouse) warehouse
      .flattened cityVisits placed ⟨0, 0⟩ .absent plan rfl hload rfl hplan
  have hcolumns : columns ≠ [] := by
    intro hnil
    obtain ⟨inner, hstruct⟩ := (hempty.mp hnil).2 placed .top _ List.mem_cons_self
    cases hstruct
  refine ⟨plan, columns, insertion, hplan, hcreates, hcolumns, ?_⟩
  rw [← List.length_pos_iff, hlength]
  exact List.length_pos_iff.mpr hcolumns

namespace Sample

/-- A place of which nothing is kept. -/
def vacant : Schema := [structField "place" []]

def vacantVisits : Entity :=
  { visits with
    table := { visits.table with recordSchema := vacant }
    partition := none }

end Sample

open Sample in
/-- The schema has a field, but the tables have no columns and are filled from nothing. -/
theorem created_tables_without_columns :
    vacant ≠ [] ∧ ∃ plan insertion,
      ((planConversion (fun _ => some warehouse) .flattened vacantVisits (some vacant)
        (.ok ⟨0, 0⟩)).run Rehearsal.services {}).result = .ok plan ∧
      CreatesTables warehouse "visits_00" plan [] insertion ∧ insertion.selection = [] := by
  have hload : ((loadDestination "dw" "visits").run Rehearsal.services {}).result =
      .ok .absent := rfl
  have hplanned : ((planConversion (fun _ => some warehouse) .flattened vacantVisits (some vacant)
      (.ok ⟨0, 0⟩)).run Rehearsal.services {}).result.isOk = true := by decide +kernel
  obtain ⟨plan, hplan⟩ := Except.exists_of_isOk hplanned
  obtain ⟨shaped, columns, insertion, hshape, hcreates, hcolumns, hselection⟩ :=
    @exists_createsTables _ Rehearsal.services {} (fun _ => some warehouse) warehouse
      vacantVisits vacant ⟨0, 0⟩ .absent plan .flattened rfl hload rfl hplan
  cases hshape
  cases hcolumns
  exact ⟨List.cons_ne_nil _ _, plan, insertion, hplan, hcreates,
    (Option.some.inj hselection).symm⟩

end OrcConversion
