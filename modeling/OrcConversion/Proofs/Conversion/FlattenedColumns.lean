import OrcConversion.Proofs.Conversion.FlattenedSelection

/-! The columns that a flattened conversion creates. -/

namespace OrcConversion

open Arrow Hive Text Workflow

/-- Every level of a schema keeps its leaves apart. -/
def Arrow.LeavesApart (schema : Schema) : Prop :=
  ∀ siblings, Level schema siblings → KeptApart siblings

/-- Columns of a flattened schema that can be told from each other, so that each of them is filled
from its own field, and from its own leaf where the path to that can be written down. -/
structure OwnColumns (source schema shaped : Schema) (columns : List Column)
    (selection : List String) : Prop where
  distinct : (columns.map fun column => lowercase column.name).Nodup
  paths : List.Forall₂ (fun field column => columnPath shaped column = field.sourcePath)
    shaped columns
  leaves : (∀ siblings, Level schema siblings → ∀ field ∈ siblings, '.' ∉ field.name.toList) →
    (∀ field ∈ schema, field.metadata.lookup? sourcePathKey = none) →
    List.Forall₂ (SelectsLeaf source) (leavesOf schema) selection

section

variable {source schema shaped : Schema} {columns : List Column}

theorem columnPath_of_nodup (hcolumns : columnsOrFailure shaped = .ok columns)
    (hnames : (shaped.map fun field => lowercase field.name).Nodup) :
    List.Forall₂ (fun field column => columnPath shaped column = field.sourcePath)
      shaped columns := by
  apply forall₂_of_common (List.forall₂_same.mpr fun field _ => rfl) (columnsOf_eq_ok hcolumns)
  rintro field hfield _ hmem column rfl htyped
  rw [columnPath, targetField?_eq_self hnames hfield htyped.1]

theorem map_name_of_columns {fields : List Field} (h : columnsOrFailure fields = .ok columns) :
    columns.map Column.name = fields.map Field.name := by
  have hrelated := columnsOf_eq_ok h
  clear h
  induction hrelated with
  | nil => rfl
  | cons hfirst _ ih => rw [List.map_cons, List.map_cons, ih, hfirst.1]

theorem map_name_of_flatten (hflat : schema.flatten = .ok shaped)
    (hcolumns : columnsOrFailure shaped = .ok columns) :
    columns.map Column.name = (leavesOf schema).map Leaf.columnName :=
  (map_name_of_columns hcolumns).trans (map_name_flatten hflat)

theorem ownColumns_iff {expressions : List String}
    (hdistinct : ∀ siblings, Level schema siblings →
      (siblings.map fun field => lowercase field.name).Nodup)
    (hflat : schema.flatten = .ok shaped) (hcolumns : columnsOrFailure shaped = .ok columns)
    (hselection : selection source shaped true columns = some expressions) :
    OwnColumns source schema shaped columns expressions ↔ LeavesApart schema := by
  have hkeys : (columns.map fun column => lowercase column.name) =
      (leavesOf schema).map Leaf.key := by
    have hnames := congrArg (List.map lowercase) (map_name_of_flatten hflat hcolumns)
    rwa [List.map_map, List.map_map] at hnames
  rw [LeavesApart, ← nodup_keys_iff hdistinct]
  constructor
  · intro hown
    rw [← hkeys]
    exact hown.distinct
  · intro hnodup
    have hnames : (shaped.map fun field => lowercase field.name).Nodup := by
      rwa [keys_flatten hflat]
    refine ⟨hkeys ▸ hnodup, columnPath_of_nodup hcolumns hnames, ?_⟩
    exact fun hdots htop => selectsLeaves_flatten hflat hcolumns hselection hdots htop hnodup

end

/-- A plan creates its staging table and its final table with some columns, and fills the former by
an insertion. -/
structure CreatesTables (target : Target) (stagingTable : String) (plan : ConversionPlan)
    (columns : List Column) (insertion : Insertion) : Prop where
  staged : ∃ spec table, StagingPlan.definition target ⟨target.db, stagingTable⟩ columns
      (target.stagingLocation stagingTable) spec = .ok table ∧
    (Statement.createTable table).text ∈ plan.entity.statements
  filled : plan.entity.statements.getLast? = some (Statement.insert insertion).text
  created : ∃ spec table publish, StagingPlan.definition target target.tableName columns
      target.finalLocation spec = .ok table ∧
    plan.publish = some publish ∧
    publish.publishStatements.head? = some (Statement.createTable table).text

theorem PlanBasis.createsTables {entity : Entity} {schema : Schema} {target : Target}
    (basis : PlanBasis entity schema target) (habsent : basis.destination.table = none) :
    CreatesTables target basis.stagingTable basis.plan basis.targetColumns basis.insertion := by
  constructor
  · have hcreation : basis.staging.creation.text ∈ basis.staging.statements :=
      List.mem_map_of_mem (by simp)
    have htable := basis.table_eq
    rw [Destination.align, habsent] at htable
    exact ⟨basis.spec, basis.table, htable, List.mem_append_right entity.statements hcreation⟩
  · exact basis.getLast?_statements
  · refine ⟨basis.spec, basis.finalTable, basis.publication.plan, basis.definition_finalTable,
      rfl, ?_⟩
    rw [Publication.publishStatements_eq]
    change ((basis.creation.toList.map Statement.text ++ _) ++ _).head? = _
    rw [creation_of_absent habsent]
    rfl

section

variable {σ : Type} {services : Services σ} {state : σ} {targets : Targets} {target : Target}
  {entity : Entity} {schema : Schema} {mark : RunMark} {destination : Destination}
  {plan : ConversionPlan}

theorem exists_createsTables {format : OutputFormat} (htarget : targets format = some target)
    (hload : ((loadDestination target.db target.table).run services state).result =
      .ok destination)
    (habsent : destination.table = none)
    (hplan : ((planConversion targets format entity (some schema) (.ok mark)).run services
      state).result = .ok plan) :
    ∃ shaped columns insertion,
      format.shape schema = .ok shaped ∧
      CreatesTables target (stagingTableName target.stagingName mark.time mark.digit) plan columns
        insertion ∧
      columnsOrFailure shaped = .ok columns ∧
      selection entity.table.recordSchema shaped true columns = some insertion.selection := by
  have hends := ends services (planConversion targets format entity (some schema) (.ok mark)) state
  rw [hplan] at hends
  obtain ⟨_, shaped, hfields, hshape, basis, hfound, htable, rfl⟩ :=
    exists_basis_of_target hends htarget
  cases hfields
  cases hload.symm.trans hfound
  exact ⟨shaped, basis.targetColumns, basis.insertion, hshape,
    htable ▸ basis.createsTables habsent, basis.columns_eq, basis.selection_of_absent habsent⟩

/-- A flattened conversion creates its staging table and a new final table with one column for each
leaf of its target. Where names side by side differ, these columns have different names and are
filled from their own leaves just when the leaves are kept apart. -/
theorem flattened_columns_distinct (htarget : targets .flattened = some target)
    (hload : ((loadDestination target.db target.table).run services state).result =
      .ok destination)
    (habsent : destination.table = none)
    (hdistinct : ∀ siblings, Level schema siblings →
      (siblings.map fun field => lowercase field.name).Nodup)
    (hplan : ((planConversion targets .flattened entity (some schema) (.ok mark)).run services
      state).result = .ok plan) :
    ∃ shaped columns insertion,
      schema.flatten = .ok shaped ∧
      CreatesTables target (stagingTableName target.stagingName mark.time mark.digit) plan columns
        insertion ∧
      columns.map (·.name) = (leavesOf schema).map Leaf.columnName ∧
      (OwnColumns entity.table.recordSchema schema shaped columns insertion.selection ↔
        LeavesApart schema) := by
  obtain ⟨shaped, columns, insertion, hflat, hcreates, hcolumns, hselection⟩ :=
    exists_createsTables htarget hload habsent hplan
  exact ⟨shaped, columns, insertion, hflat, hcreates, map_name_of_flatten hflat hcolumns,
    ownColumns_iff hdistinct hflat hcolumns hselection⟩

end

open Sample in
theorem flattened_columns_distinct_cityVisits :
    let planner := planConversion (fun _ => some warehouse) .flattened cityVisits (some placed)
      (.ok ⟨0, 0⟩)
    ∃ plan shaped columns insertion, (planner.run Rehearsal.services {}).result = .ok plan ∧
      placed.flatten = .ok shaped ∧
      CreatesTables warehouse "visits_00" plan columns insertion ∧
      columns.map (·.name) = ["id", "place__city", "place__zip__code"] ∧
      OwnColumns cityVisits.table.recordSchema placed shaped columns insertion.selection := by
  intro planner
  have hload : ((loadDestination "dw" "visits").run Rehearsal.services {}).result =
      .ok .absent := rfl
  have hplanned : (planner.run Rehearsal.services {}).result.isOk = true := by decide +kernel
  obtain ⟨plan, hplan⟩ := Except.exists_of_isOk hplanned
  have hdistinct : ∀ siblings, Level placed siblings →
      (siblings.map fun field => lowercase field.name).Nodup := by
    intro siblings hlevel
    rcases level_placed hlevel with rfl | rfl | rfl <;> decide +kernel
  have hapart : LeavesApart placed := by
    intro siblings hlevel
    apply keptApart_of_not_goesOn
    rcases level_placed hlevel with rfl | rfl | rfl <;> decide +kernel
  obtain ⟨shaped, columns, insertion, hflat, hcreates, hnames, hown⟩ :=
    @flattened_columns_distinct _ Rehearsal.services {} (fun _ => some warehouse) warehouse
      cityVisits placed ⟨0, 0⟩ .absent plan rfl hload rfl hdistinct hplan
  exact ⟨plan, shaped, columns, insertion, hplan, hflat, hcreates, hnames, hown.mpr hapart⟩

namespace Sample

/-- Two leaves with the same column name, though all names side by side differ. -/
def clashing : Schema :=
  [structField "a" [textField "b__c"], structField "a__b" [textField "c"]]

def clashingVisits : Entity :=
  { visits with table := { visits.table with recordSchema := clashing } }

theorem level_clashing {siblings : List Field} (h : Level clashing siblings) :
    siblings = clashing ∨ siblings = [textField "b__c"] ∨ siblings = [textField "c"] := by
  rcases level_iff.mp h with rfl | ⟨field, hfield, inner, hstruct, h⟩
  · exact .inl rfl
  · rcases List.mem_cons.mp hfield with rfl | hfield
    · cases hstruct
      exact .inr (.inl (h.eq_of_plain (by decide)))
    · cases List.mem_singleton.mp hfield
      cases hstruct
      exact .inr (.inr (h.eq_of_plain (by decide)))

end Sample

open Sample in
/-- Both columns have one name, and are filled from one leaf, the other one being lost. -/
theorem flattened_columns_clash :
    let result := ((planConversion (fun _ => some warehouse) .flattened clashingVisits
      (some clashing) (.ok ⟨0, 0⟩)).run Rehearsal.services {}).result
    (∀ siblings, Level clashing siblings →
      (siblings.map fun field => lowercase field.name).Nodup) ∧
    ∃ plan columns insertion, result = .ok plan ∧
      CreatesTables warehouse "visits_00" plan columns insertion ∧
      columns.map (·.name) = ["a__b__c", "a__b__c"] ∧
      insertion.selection = ["`a__b`.`c` AS `a__b__c`", "`a__b`.`c` AS `a__b__c`"] := by
  intro result
  have hload : ((loadDestination "dw" "visits").run Rehearsal.services {}).result =
      .ok .absent := rfl
  have hplanned : result.isOk = true := by decide +kernel
  obtain ⟨plan, hplan⟩ := Except.exists_of_isOk hplanned
  obtain ⟨shaped, columns, insertion, hflat, hcreates, hcolumns, hselection⟩ :=
    @exists_createsTables _ Rehearsal.services {} (fun _ => some warehouse) warehouse
      clashingVisits clashing ⟨0, 0⟩ .absent plan .flattened rfl hload rfl hplan
  cases hflat
  cases hcolumns
  refine ⟨?_, plan, _, insertion, hplan, hcreates, rfl, ?_⟩
  · intro siblings hlevel
    rcases level_clashing hlevel with rfl | rfl | rfl <;> decide +kernel
  · apply Option.some.inj
    rw [← hselection]
    decide +kernel

end OrcConversion
