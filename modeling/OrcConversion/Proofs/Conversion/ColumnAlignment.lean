import OrcConversion.Proofs.Conversion.PartitionOrder
import OrcConversion.Proofs.Conversion.PlanningRuns

/-! The staging table of a plan lines up with the table that it is published into. -/

namespace OrcConversion

open Hive Workflow

/-! ## Columns that are missing -/

section

variable {wanted existing : List Column} {column : Column}

theorem mem_missingColumns : column ∈ missingColumns wanted existing ↔
    column ∈ wanted ∧ ∀ other ∈ existing, sameName other column = false := by
  rw [missingColumns, List.mem_filter, Bool.not_eq_true', List.any_eq_false]
  simp only [Bool.not_eq_true]

theorem exists_sameName_of_mem (h : column ∈ wanted) :
    ∃ other ∈ existing ++ missingColumns wanted existing, sameName other column = true := by
  by_cases hmissing : ∀ other ∈ existing, sameName other column = false
  · refine ⟨column, List.mem_append_right _ (mem_missingColumns.mpr ⟨h, hmissing⟩), ?_⟩
    exact beq_self_eq_true _
  · push Not at hmissing
    obtain ⟨other, hother, hsame⟩ := hmissing
    exact ⟨other, List.mem_append_left _ hother, (Bool.not_eq_false _).mp hsame⟩

end

/-! ## What fills a column -/

/-- Expressions that fill a column from the fields of a source. -/
inductive Fills (source : Arrow.Schema) (fillMissing : Bool) (column : Column) : String → Prop where
  | own : source.hasPath column.name = true →
      Fills source fillMissing column (sourceExpression column.name)
  | renamed {path : String} : source.hasPath path = true →
      Fills source fillMissing column
        (sourceExpression path ++ " AS " ++ quoteIdentifier column.name)
  | null : fillMissing = true →
      Fills source fillMissing column
        ("CAST(NULL AS " ++ column.type ++ ") AS " ++ quoteIdentifier column.name)
  | byName : fillMissing = false →
      Fills source fillMissing column (quoteIdentifier column.name)

theorem fills_selectPath (source : Arrow.Schema) (fillMissing : Bool) (column : Column)
    (path : String) :
    Fills source fillMissing column (selectPath source fillMissing column path) := by
  simp only [selectPath]
  split
  · rename_i hpath
    split
    · rename_i hname
      rw [hname] at hpath ⊢
      exact .own hpath
    · exact .renamed hpath
  · split
    · rename_i hfill
      exact .null hfill
    · rename_i hfill
      exact .byName (Bool.eq_false_iff.mpr hfill)

theorem fills_selection {source schema : Arrow.Schema} {fillMissing : Bool}
    {columns : List Column} {expressions : List String}
    (h : selection source schema fillMissing columns = some expressions) :
    List.Forall₂ (Fills source fillMissing) columns expressions := by
  apply (Option.mapM_eq_some.mp h).imp
  intro column expression hcolumn
  obtain ⟨path, -, rfl⟩ := Option.map_eq_some_iff.mp hcolumn
  exact fills_selectPath source fillMissing column path

/-! ## Plans -/

theorem PartitionStatement.text_ne_addColumns {target : Target} {spec : PartitionSpec}
    {replaced : List (OrderedMap String)} {statement : Statement}
    (h : PartitionStatement target spec replaced statement) (name : TableName)
    (columns : List Column) : statement.text ≠ (Statement.addColumns name columns).text := by
  intro htext
  obtain ⟨others, rfl⟩ := Statement.exists_addColumns_of_text htext
  cases h

theorem StagingStatement.text_ne_addColumns {statement : Statement}
    (h : StagingStatement statement) (name : TableName) (columns : List Column) :
    statement.text ≠ (Statement.addColumns name columns).text := by
  intro htext
  obtain ⟨others, rfl⟩ := Statement.exists_addColumns_of_text htext
  cases h

/-- A staging table lines up with the table that it is published into and with what fills it. All
statements of a publication that neither create nor evolve its table are about partitions. -/
structure ColumnAlignment (entity : Entity) (target : Target) (stagingTable : String)
    (destination : Destination) (spec : PartitionSpec) (replaced : List (OrderedMap String))
    (wanted : List Column) (staging : StagingPlan) (evolution published : List String) :
    Prop where
  staged : ∃ table, StagingPlan.definition target ⟨target.db, stagingTable⟩ staging.columns
      (target.stagingLocation stagingTable) spec = .ok table ∧
    staging.creation = .createTable table
  created : destination.table = none →
    evolution = [] ∧
    ∃ table, StagingPlan.definition target target.tableName staging.columns target.finalLocation
        spec = .ok table ∧
    ∃ partitions : List Statement,
      (∀ statement ∈ partitions, PartitionStatement target spec replaced statement) ∧
      published = (Statement.createTable table).text :: partitions.map Statement.text
  kept : ∀ table, destination.table = some table → target.evolves = false →
    staging.columns = table.columns ∧ evolution = [] ∧
    ∀ name columns, (Statement.addColumns name columns).text ∉ staging.statements ++ published
  evolved : ∀ table, destination.table = some table → target.evolves = true →
    ∃ added,
      staging.columns = table.columns ++ added ∧
      (∀ column ∈ wanted, ∃ other ∈ staging.columns, sameName other column = true) ∧
      (∀ column ∈ added, ∀ other ∈ table.columns, sameName other column = false) ∧
      (added = [] → evolution = []) ∧
      (added ≠ [] → evolution = [(Statement.addColumns target.tableName added).text]) ∧
      ∃ partitions : List Statement,
        (∀ statement ∈ partitions, PartitionStatement target spec replaced statement) ∧
        published = evolution ++ partitions.map Statement.text
  filled : ∃ insertion, staging.insertion = .insert insertion ∧
    insertion.target = ⟨target.db, stagingTable⟩ ∧
    List.Forall₂ (Fills entity.table.recordSchema (!destination.isPresent || target.evolves))
      staging.columns insertion.selection

namespace PlanBasis

variable {entity : Entity} {schema : Arrow.Schema} {target : Target}
  (basis : PlanBasis entity schema target)

theorem partitionStatement_of_mem :
    ∀ statement ∈ basis.publication.partitionStatements,
      PartitionStatement target basis.spec basis.replaced statement :=
  fun _ hmem => Publication.partitionStatement_of_mem rfl rfl hmem

theorem publishStatements_eq : basis.publication.plan.publishStatements =
    basis.creation.toList.map Statement.text ++ basis.plan.evolutionStatements ++
      basis.publication.partitionStatements.map Statement.text :=
  basis.publication.publishStatements_eq

theorem evolutionStatements_eq : basis.plan.evolutionStatements =
    (additions target.tableName basis.newColumns).map Statement.text := rfl

theorem addColumns_not_mem_staging (name : TableName) (columns : List Column) :
    (Statement.addColumns name columns).text ∉ basis.staging.statements := by
  intro hmem
  obtain ⟨statements, hstaging, htexts⟩ := StagingPlan.exists_statements basis.build_staging
  rw [htexts] at hmem
  obtain ⟨statement, hstatement, htext⟩ := List.mem_map.mp hmem
  exact (hstaging statement hstatement).text_ne_addColumns name columns htext

theorem addColumns_not_mem_partitionStatements (name : TableName) (columns : List Column) :
    (Statement.addColumns name columns).text ∉
      basis.publication.partitionStatements.map Statement.text := by
  intro hmem
  obtain ⟨statement, hstatement, htext⟩ := List.mem_map.mp hmem
  exact (basis.partitionStatement_of_mem statement hstatement).text_ne_addColumns name columns htext

theorem columnAlignment : ColumnAlignment entity target basis.stagingTable basis.destination
    basis.spec basis.replaced basis.targetColumns basis.staging basis.plan.evolutionStatements
    basis.publication.plan.publishStatements := by
  have hpublished := basis.publishStatements_eq
  have hevolution := basis.evolutionStatements_eq
  have hpartitions := basis.partitionStatement_of_mem
  constructor
  · exact ⟨basis.table, basis.table_eq, rfl⟩
  · intro habsent
    have hdefinition := basis.definition_finalTable
    rw [← columns_of_absent habsent] at hdefinition
    rw [newColumns_of_absent habsent] at hevolution
    rw [creation_of_absent habsent, hevolution] at hpublished
    exact ⟨hevolution, basis.finalTable, hdefinition, _, hpartitions, hpublished⟩
  · intro table htable hkept
    have hnew : basis.newColumns = [] := by
      rw [newColumns_of_present htable, hkept]
      rfl
    rw [hnew] at hevolution
    rw [creation_of_present htable, hevolution] at hpublished
    refine ⟨?_, hevolution, fun name columns hmem => ?_⟩
    · rw [columns_of_present htable, hnew, List.append_nil]
    · rw [hpublished] at hmem
      rcases List.mem_append.mp hmem with hmem | hmem
      · exact basis.addColumns_not_mem_staging name columns hmem
      · exact basis.addColumns_not_mem_partitionStatements name columns hmem
  · intro table htable hevolves
    have hnew : basis.newColumns = missingColumns basis.targetColumns table.columns := by
      rw [newColumns_of_present htable, hevolves]
      rfl
    have hcolumns := columns_of_present htable
    rw [creation_of_present htable] at hpublished
    refine ⟨basis.newColumns, hcolumns, ?_, ?_, ?_, ?_, _, hpartitions, hpublished⟩
    · intro column hwanted
      rw [hcolumns, hnew]
      exact exists_sameName_of_mem hwanted
    · intro column hadded
      rw [hnew] at hadded
      exact (mem_missingColumns.mp hadded).2
    · intro hnone
      rw [hevolution, hnone]
      rfl
    · intro hsome
      rw [hevolution, additions_of_ne_nil hsome]
      rfl
  · obtain ⟨-, htarget, -, hselection⟩ := StagingPlan.insertionOf_eq_ok basis.insertion_eq
    exact ⟨basis.insertion, rfl, htarget, fills_selection hselection⟩

end PlanBasis

variable {σ : Type} {services : Services σ} {state : σ}

/-- Whether the table that a plan publishes into is to be created, kept or evolved, the staging
table has its columns, and the selection that fills it has one expression a column. -/
theorem staging_columns_align {targets : Targets} {format : OutputFormat} {entity : Entity}
    {schema : Option Arrow.Schema} {mark : RunMark} {plan : ConversionPlan} {publish : PublishPlan}
    (hplan : ((planConversion targets format entity schema (.ok mark)).run services state).result =
      .ok plan)
    (hpublish : plan.publish = some publish) :
    ∃ target fields shaped destination spec replaced wanted staging,
      targets format = some target ∧ schema = some fields ∧ format.shape fields = .ok shaped ∧
      ((loadDestination target.db target.table).run services state).result = .ok destination ∧
      SourcePartition.spec entity.partition = .ok spec ∧
      Partition.replacedBy entity.partition = .ok replaced ∧
      columnsOrFailure shaped = .ok wanted ∧
      let stagingTable := stagingTableName target.stagingName mark.time mark.digit
      StagingPlan.build entity shaped target stagingTable destination = .ok staging ∧
      plan.entity.statements = entity.statements ++ staging.statements ∧
      ColumnAlignment entity target stagingTable destination spec replaced wanted staging
        plan.evolutionStatements publish.publishStatements := by
  have hends := ends services (planConversion targets format entity schema (.ok mark)) state
  rw [hplan] at hends
  obtain ⟨target, htarget⟩ := exists_target_of_published hends hpublish
  obtain ⟨fields, shaped, hfields, hshape, basis, hload, htable, rfl⟩ :=
    exists_basis_of_target hends htarget
  cases hpublish
  refine ⟨target, fields, shaped, basis.destination, basis.spec, basis.replaced,
    basis.targetColumns, basis.staging, htarget, hfields, hshape, hload, basis.spec_eq,
    basis.replaced_eq, basis.columns_eq, ?_⟩
  rw [← htable]
  exact ⟨basis.build_staging, rfl, basis.columnAlignment⟩

namespace Sample

def namedVisits : Arrow.Schema :=
  [.mk "id" (.scalar .int64) true .empty, .mk "name" (.scalar .string) true .empty]

/-- The table of visits, without their names. -/
def unnamed : TableRecord where
  db := "dw"
  name := "visits"
  columns := [⟨"ID", "bigint"⟩]

def catalogued : Rehearsal where
  catalog := CatalogStore.empty.add unnamed []

end Sample

open Sample in
theorem staging_columns_align_evolved :
    let evolving := { warehouse with evolves := true }
    let result := ((planConversion (fun _ => some evolving) .nested visits (some namedVisits)
      (.ok ⟨0, 0⟩)).run Rehearsal.services catalogued).result
    ∃ (plan : ConversionPlan) (publish : PublishPlan) (staging : StagingPlan)
      (added : List Column),
      result = .ok plan ∧ plan.publish = some publish ∧
      publish.publishStatements.head? =
        some "ALTER TABLE `dw`.`visits` ADD COLUMNS (\n  `name` string)" ∧
      plan.entity.statements = visits.statements ++ staging.statements ∧
      staging.columns = ⟨"ID", "bigint"⟩ :: added ∧
      plan.evolutionStatements = [(Statement.addColumns evolving.tableName added).text] := by
  intro evolving result
  have hfirst : (result.toOption.bind (·.publish)).map (·.publishStatements.head?) =
      some (some "ALTER TABLE `dw`.`visits` ADD COLUMNS (\n  `name` string)") := by
    decide +kernel
  obtain ⟨plan, publish, hresult, hpublish, hfirst⟩ := exists_published hfirst
  obtain ⟨target, fields, shaped, destination, _, _, wanted, staging, htarget, hfields, hshape,
    hload, _, _, hwanted, _, hstatements, halignment⟩ := staging_columns_align hresult hpublish
  cases htarget
  cases hfields
  cases hshape
  have hfound : ((loadDestination "dw" "visits").run Rehearsal.services catalogued).result =
      .ok { table := some unnamed } := rfl
  cases hfound.symm.trans hload
  have hcolumns : columnsOrFailure namedVisits =
      .ok [⟨"id", "bigint"⟩, ⟨"name", "string"⟩] := rfl
  cases hcolumns.symm.trans hwanted
  obtain ⟨added, hstart, hoccurs, _, _, hevolution, _⟩ := halignment.evolved unnamed rfl rfl
  refine ⟨plan, publish, staging, added, hresult, hpublish, hfirst, hstatements, hstart, ?_⟩
  apply hevolution
  rintro rfl
  obtain ⟨other, hother, hsame⟩ := hoccurs ⟨"name", "string"⟩ (by simp)
  rw [hstart] at hother
  cases List.mem_singleton.mp hother
  exact absurd hsame (by decide)

end OrcConversion
