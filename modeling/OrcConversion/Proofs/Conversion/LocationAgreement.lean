import OrcConversion.Proofs.Conversion.DroppedPartitions

/-! What is staged and what is published agree on every location and on every partition. -/

namespace OrcConversion

open Hive Workflow

/-! ## Texts that add partitions -/

def AddsPartition (text : String) : Prop :=
  ∃ name values location, text = (Statement.addPartition name values location).text

theorem not_addsPartition {statement : Statement} (h : statement.initial ≠ 'A') :
    ¬ AddsPartition statement.text := by
  rintro ⟨name, values, location, htext⟩
  have hinitial := statement.head?_text
  rw [htext, Statement.head?_text] at hinitial
  exact h (Option.some.inj hinitial).symm

/-! ## Lines of insertions -/

/-- An insertion into a table with some clause after its name and some filter after its source. -/
def Hive.Insertion.HasClauses (insertion : Insertion) (name : TableName)
    (clause filter : List String) : Prop :=
  ∃ limit : List String,
    insertion.lines =
      ["INSERT OVERWRITE TABLE " ++ name.text] ++ clause ++
      ["SELECT", ",\n".intercalate (insertion.selection.map ("  " ++ ·)),
        "FROM " ++ insertion.source.text] ++ filter ++ limit ∧
    ∀ line ∈ limit, ∃ count : Int, line = "LIMIT " ++ toString count

theorem Hive.Insertion.hasClauses (insertion : Insertion) :
    insertion.HasClauses insertion.target
      (clauseIf (!insertion.partition.isEmpty) (partitionClause insertion.partition))
      (clauseIf (!insertion.partition.isEmpty)
        ("WHERE " ++ assignments " AND " insertion.partition)) := by
  refine ⟨_, rfl, ?_⟩
  intro line hline
  split at hline
  · rename_i limit hlimit
    exact ⟨limit.value, List.mem_singleton.mp hline⟩
  · cases hline

/-! ## Agreement -/

/-- A partition is staged below the staging location, moved from there to the same directory below
the final location, and added there at once, after it was dropped. -/
structure PartitionAgreement (target : Target) (stagingTable directory : String)
    (values : OrderedMap String) (insertion : Insertion) (staged : List String)
    (publish : PublishPlan) : Prop where
  added : ∃ front back,
    staged = front ++ (Statement.addPartition ⟨target.db, stagingTable⟩ values
      (target.stagingLocation stagingTable ++ "/" ++ directory)).text :: back ∧
    ∀ text ∈ front ++ back, ¬ AddsPartition text
  moved : publish.publishDirectories.entries =
    [(target.stagingLocation stagingTable ++ "/" ++ directory,
      target.finalLocation ++ "/" ++ directory)]
  replaced : ∃ opening retired,
    publish.publishStatements = opening ++
      (Statement.dropPartition target.tableName values).text ::
      (Statement.addPartition target.tableName values
        (target.finalLocation ++ "/" ++ directory)).text :: retired ∧
    publish.moveAfter = opening.length + 1
  filled : insertion.HasClauses ⟨target.db, stagingTable⟩ [partitionClause values]
    ["WHERE " ++ assignments " AND " values]

/-- A whole table is staged at the staging location and moved from there to the final location,
after all that is to be executed. -/
structure TableAgreement (target : Target) (stagingTable : String) (insertion : Insertion)
    (staged : List String) (publish : PublishPlan) : Prop where
  added : ∀ text ∈ staged, ¬ AddsPartition text
  moved : publish.publishDirectories.entries =
    [(target.stagingLocation stagingTable, target.finalLocation)]
  replaced : publish.moveAfter = publish.publishStatements.length
  filled : insertion.HasClauses ⟨target.db, stagingTable⟩ [] []

/-- What is staged and what is published agree on the staging table, on its location and on the
partition, if there is one. -/
structure LocationAgreement (target : Target) (stagingTable directory : String)
    (values : OrderedMap String) (staging : StagingPlan) (publish : PublishPlan) : Prop where
  set : ∀ statement ∈ staging.settings, ∃ key value, statement = .set key value
  created : ∃ definition, staging.creation = .createTable definition ∧
    definition.name = ⟨target.db, stagingTable⟩ ∧
    definition.location = target.stagingLocation stagingTable
  cleaned : publish.cleanupDirectories = [target.stagingLocation stagingTable] ∧
    publish.cleanupStatements = [(Statement.dropTable ⟨target.db, stagingTable⟩).text]
  filled : ∃ insertion, staging.insertion = .insert insertion ∧
    insertion.target = ⟨target.db, stagingTable⟩ ∧
    (values.isEmpty = false → PartitionAgreement target stagingTable directory values insertion
      staging.statements publish) ∧
    (values.isEmpty = true → TableAgreement target stagingTable insertion staging.statements
      publish)

namespace PlanBasis

variable {entity : Entity} {schema : Arrow.Schema} {target : Target}
  (basis : PlanBasis entity schema target)

theorem not_addsPartition_settings :
    ∀ text ∈ basis.staging.settings.map Statement.text, ¬ AddsPartition text := by
  rw [List.forall_mem_map]
  intro statement hmem
  obtain ⟨key, value, rfl⟩ := exists_set_of_mem_runtimeSettings basis.settings_eq hmem
  exact not_addsPartition (by simp [Statement.initial])

theorem not_addsPartition_creation : ¬ AddsPartition basis.staging.creation.text :=
  not_addsPartition (by simp [staging, Statement.initial])

theorem not_addsPartition_insertion : ¬ AddsPartition (Statement.insert basis.insertion).text :=
  not_addsPartition (by simp [Statement.initial])

theorem statements_staging : basis.staging.statements =
    basis.staging.settings.map Statement.text ++ [basis.staging.creation.text] ++
      basis.staging.partition.toList.map Statement.text ++
        [(Statement.insert basis.insertion).text] := by
  rw [StagingPlan.statements, List.map_append, List.map_append, List.map_append]
  rfl

theorem partitionAgreement (hvalues : basis.spec.values.isEmpty = false) :
    PartitionAgreement target basis.stagingTable
      (Partition.directoryName target.pathHints entity.partition) basis.spec.values
      basis.insertion basis.staging.statements basis.publication.plan := by
  obtain ⟨_, _, _, _, hreplaces⟩ :=
    basis.publication.replacesPartition (basis.ofEntity_eq _) basis.spec_eq hvalues
  have hpartition : basis.staging.partition = some (.addPartition
      ⟨target.db, basis.stagingTable⟩ basis.spec.values
      (partitionDirectory target entity (target.stagingLocation basis.stagingTable))) := by
    simp only [staging, StagingPlan.addition?, hvalues, partitionDirectory]
    rfl
  constructor
  · refine ⟨basis.staging.settings.map Statement.text ++ [basis.staging.creation.text],
      [(Statement.insert basis.insertion).text], ?_, ?_⟩
    · rw [statements_staging, hpartition, List.append_assoc]
      rfl
    · simp only [List.forall_mem_append, List.forall_mem_singleton]
      exact ⟨⟨basis.not_addsPartition_settings, basis.not_addsPartition_creation⟩,
        basis.not_addsPartition_insertion⟩
  · exact hreplaces.directories_eq
  · exact ⟨_, _, hreplaces.publishStatements_eq, hreplaces.moveAfter_eq⟩
  · obtain ⟨-, htarget, hpartition, -⟩ := StagingPlan.insertionOf_eq_ok basis.insertion_eq
    have hclauses := basis.insertion.hasClauses
    rwa [htarget, hpartition, hvalues] at hclauses

theorem tableAgreement (hvalues : basis.spec.values.isEmpty = true) :
    TableAgreement target basis.stagingTable basis.insertion basis.staging.statements
      basis.publication.plan := by
  have hpartition : basis.staging.partition = none := by
    simp only [staging, StagingPlan.addition?, hvalues]
    rfl
  have hreplacement : basis.publication.replacement =
      .table (target.stagingLocation basis.stagingTable) target.finalLocation := by
    change Replacement.ofSpec _ _ _ _ = _
    rw [Replacement.ofSpec, hvalues]
    rfl
  have hretired : basis.publication.retired = [] := by
    change dropPartitions _ _ = _
    rcases Partition.replacedBy_eq_nil_or basis.spec_eq basis.replaced_eq with hnil | ⟨hsome, -⟩
    · rw [hnil]
      rfl
    · cases hsome.symm.trans hvalues
  constructor
  · rw [statements_staging, hpartition]
    simp only [List.forall_mem_append, List.forall_mem_singleton]
    exact ⟨⟨⟨basis.not_addsPartition_settings, basis.not_addsPartition_creation⟩, by simp⟩,
      basis.not_addsPartition_insertion⟩
  · rw [Publication.directories_plan, hreplacement]
    rfl
  · have hafter : basis.publication.after = [] := by
      rw [Publication.after, hreplacement, hretired]
      rfl
    simp [Publication.plan, hafter]
  · obtain ⟨-, htarget, hpartition, -⟩ := StagingPlan.insertionOf_eq_ok basis.insertion_eq
    have hclauses := basis.insertion.hasClauses
    rwa [htarget, hpartition, hvalues] at hclauses

theorem locationAgreement : LocationAgreement target basis.stagingTable
    (Partition.directoryName target.pathHints entity.partition) basis.spec.values basis.staging
    basis.publication.plan := by
  obtain ⟨_, -, htable⟩ := StagingPlan.definition_eq_ok.mp basis.table_eq
  obtain ⟨-, htarget, -, -⟩ := StagingPlan.insertionOf_eq_ok basis.insertion_eq
  constructor
  · exact fun _ hmem => exists_set_of_mem_runtimeSettings basis.settings_eq hmem
  · exact ⟨basis.table, rfl, by rw [htable], by rw [htable]⟩
  · exact ⟨rfl, rfl⟩
  · exact ⟨basis.insertion, rfl, htarget, basis.partitionAgreement, basis.tableAgreement⟩

end PlanBasis

section

variable {σ : Type} {services : Services σ} {state : σ} {targets : Targets} {target : Target}
  {format : OutputFormat} {entity : Entity} {schema : Option Arrow.Schema}
  {mark : Except Failure RunMark} {plan : ConversionPlan}

theorem exists_mark_of_planWith {schema : Arrow.Schema}
    (h : ((planWith target format entity schema mark).run services state).result = .ok plan) :
    ∃ found, mark = .ok found := by
  cases mark with
  | ok found => exact ⟨found, rfl⟩
  | error failure =>
      unfold planWith at h
      cases hshape : format.shape schema with
      | error fault =>
          rw [hshape] at h
          cases h
      | ok shaped =>
          rw [hshape] at h
          change ((ofExcept (checkEntity entity shaped) >>= _).run _ _).result = _ at h
          cases hcheck : checkEntity entity shaped with
          | error refusal =>
              rw [hcheck] at h
              cases h
          | ok columns =>
              rw [hcheck] at h
              cases h

theorem exists_mark_of_target
    (h : ((planConversion targets format entity schema mark).run services state).result = .ok plan)
    (htarget : targets format = some target) : ∃ found, mark = .ok found := by
  unfold planConversion at h
  rw [htarget] at h
  cases schema with
  | none => cases h
  | some fields =>
      cases fields with
      | nil => cases h
      | cons field rest => exact exists_mark_of_planWith h

/-- Whenever a conversion is planned, what is staged and what is published agree on the staging
table, on its location and on the partition: on whether there is one, on its values and on its
directory. -/
theorem staging_and_publishing_agree
    (hplan : ((planConversion targets format entity schema mark).run services state).result =
      .ok plan)
    (htarget : targets format = some target) :
    ∃ fields shaped stagingTable destination spec staging publish,
      schema = some fields ∧ format.shape fields = .ok shaped ∧
      plan.stagingTable = some stagingTable ∧
      plan.publish = some publish ∧
      ((loadDestination target.db target.table).run services state).result = .ok destination ∧
      SourcePartition.spec entity.partition = .ok spec ∧
      StagingPlan.build entity shaped target stagingTable destination = .ok staging ∧
      plan.entity.statements = entity.statements ++ staging.statements ∧
      LocationAgreement target stagingTable
        (Partition.directoryName target.pathHints entity.partition) spec.values staging
        publish := by
  obtain ⟨found, rfl⟩ := exists_mark_of_target hplan htarget
  have hends := ends services (planConversion targets format entity schema (.ok found)) state
  rw [hplan] at hends
  obtain ⟨fields, shaped, hfields, hshape, basis, hload, -, rfl⟩ :=
    exists_basis_of_target hends htarget
  exact ⟨fields, shaped, basis.stagingTable, basis.destination, basis.spec, basis.staging, _,
    hfields, hshape, rfl, rfl, hload, basis.spec_eq, basis.build_staging, rfl,
    basis.locationAgreement⟩

end

open Sample in
theorem staging_and_publishing_agree_hour :
    let result := ((planConversion (fun _ => some warehouse) .nested hourlyVisits (some numbers)
      (.ok ⟨0, 0⟩)).run Rehearsal.services {}).result
    ∃ (plan : ConversionPlan) (publish : PublishPlan) (staging : StagingPlan)
      (values : OrderedMap String),
      result = .ok plan ∧ plan.publish = some publish ∧
      values.entries = [("ds", "1"), ("hour", "2")] ∧
      (Statement.addPartition ⟨"dw", "visits_00"⟩ values "/d/visits_00/ds=1/hour=2").text ∈
        staging.statements ∧
      publish.publishDirectories.entries =
        [("/d/visits_00/ds=1/hour=2", "/d/final/ds=1/hour=2")] ∧
      publish.publishStatements[publish.moveAfter]? = some
        (Statement.addPartition ⟨"dw", "visits"⟩ values "/d/final/ds=1/hour=2").text := by
  intro result
  have hfirst : (result.toOption.bind (·.publish)).map (·.cleanupDirectories) =
      some ["/d/visits_00"] := by
    decide +kernel
  obtain ⟨plan, publish, hresult, hpublish, hfirst⟩ := exists_published hfirst
  obtain ⟨_, _, stagingTable, _, spec, staging, other, _, _, _, hother, _, hspec, _, _,
    hagreement⟩ := staging_and_publishing_agree hresult rfl
  cases hpublish.symm.trans hother
  have hread : SourcePartition.spec hourlyVisits.partition =
      .ok ((PartitionSpec.empty.add "ds" "string" "1").add "hour" "string" "2") := rfl
  cases hread.symm.trans hspec
  have hlocations : [warehouse.stagingLocation stagingTable] =
      [warehouse.stagingLocation "visits_00"] := hagreement.cleaned.1.symm.trans hfirst
  obtain rfl : stagingTable = "visits_00" := by
    simpa [Target.stagingLocation] using hlocations
  obtain ⟨insertion, _, _, hpartition, _⟩ := hagreement.filled
  obtain ⟨⟨front, back, hstaged, _⟩, hmoved, ⟨opening, retired, hpublished, hmove⟩, _⟩ :=
    hpartition rfl
  have hdirectory : Partition.directoryName warehouse.pathHints hourlyVisits.partition =
      "ds=1/hour=2" := by decide +kernel
  rw [hdirectory] at hstaged hmoved hpublished
  have hentries : ((PartitionSpec.empty.add "ds" "string" "1").add "hour" "string"
      "2").values.entries = [("ds", "1"), ("hour", "2")] := rfl
  refine ⟨plan, publish, staging, _, hresult, hpublish, hentries, ?_, hmoved, ?_⟩
  · rw [hstaged]
    exact List.mem_append_right front List.mem_cons_self
  · rw [hpublished, hmove, List.getElem?_append_right (Nat.le_add_right _ 1),
      Nat.add_sub_cancel_left]
    rfl

end OrcConversion
