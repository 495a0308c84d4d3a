import OrcConversion.Conversion.Publishing
import OrcConversion.Proofs.Conversion.StagingPlans

/-! What planning a publication comes to, apart from what it reports. -/

namespace OrcConversion

open Hive Workflow

/-- The publication of an entity. -/
def Publication.ofEntity (entity : Entity) (schema : Arrow.Schema) (target : Target)
    (stagingTable : String) (destination : Destination) (evolution : List String) :
    Except Failure Publication := do
  let spec ← SourcePartition.spec entity.partition
  let creation ← creation? schema target destination spec
  let retired ← retirements entity target
  return {
    creation, evolution
    replacement := .ofSpec entity target stagingTable spec
    retired
    dropStaging := .dropTable ⟨target.db, stagingTable⟩
    stagingLocation := target.stagingLocation stagingTable }

theorem Replacement.settles_report (replacement : Replacement) :
    Settles replacement.report (.ok ()) := by
  cases replacement with
  | table staged final => exact .note _ _ _
  | partition staged final drop add =>
      apply (Settles.note _ _ _).bind
      apply (Settles.note _ _ _).bind
      exact .note _ _ _

variable {entity : Entity} {schema : Arrow.Schema} {target : Target} {stagingTable : String}
  {destination : Destination} {evolution : List String}

private theorem settles_report_retired (retired : List Statement) (plan : PublishPlan) :
    Settles
      (do
        if !retired.isEmpty then
          debug .publishing ("Drop replaced partitions: " ++ Text.quotedList (retired.map (·.text)))
        return plan)
      (.ok plan) := by
  cases retired with
  | nil => exact .ofExcept (.ok plan)
  | cons statement rest => exact (Settles.note _ _ _).bind (.ofExcept (.ok plan))

theorem PublishPlan.settles_build :
    Settles (PublishPlan.build entity schema target stagingTable destination evolution)
      ((Publication.ofEntity entity schema target stagingTable destination evolution).map
        Publication.plan) := by
  change Settles _ (Publication.plan <$> _)
  simp only [Publication.ofEntity, map_bind]
  apply Settles.ofExcept_bind
  intro spec
  apply Settles.ofExcept_bind
  intro creation
  apply settles_report_statement
  apply (Replacement.settles_report _).bind
  apply (Settles.note _ _ _).bind
  apply (Settles.note _ _ _).bind
  apply Settles.ofExcept_bind
  intro retired
  exact settles_report_retired _ _

/-- The plan of an entity is the plan of its publication. -/
theorem PublishPlan.build_eq_ok {σ : Type} {services : Services σ} {state : σ}
    {plan : PublishPlan} :
    ((PublishPlan.build entity schema target stagingTable destination evolution).run
        services state).result = .ok plan ↔
      ∃ publication,
        Publication.ofEntity entity schema target stagingTable destination evolution =
          .ok publication ∧ publication.plan = plan := by
  rw [(settles_build.ends services state).result_eq, Except.map_eq_ok]

theorem Publication.ofEntity_eq_ok {publication : Publication}
    (h : Publication.ofEntity entity schema target stagingTable destination evolution =
      .ok publication) :
    ∃ spec creation retired,
      SourcePartition.spec entity.partition = .ok spec ∧
      Publication.creation? schema target destination spec = .ok creation ∧
      Publication.retirements entity target = .ok retired ∧
      publication = {
        creation, evolution
        replacement := .ofSpec entity target stagingTable spec
        retired
        dropStaging := .dropTable ⟨target.db, stagingTable⟩
        stagingLocation := target.stagingLocation stagingTable } := by
  obtain ⟨spec, hspec, h⟩ := Except.bind_eq_ok.mp h
  obtain ⟨creation, hcreation, h⟩ := Except.bind_eq_ok.mp h
  obtain ⟨retired, hretired, h⟩ := Except.bind_eq_ok.mp h
  exact ⟨spec, creation, retired, hspec, hcreation, hretired, (Except.ok.inj h).symm⟩

theorem Publication.retirements_eq_ok {retired : List Statement}
    (h : Publication.retirements entity target = .ok retired) :
    ∃ replaced, Partition.replacedBy entity.partition = .ok replaced ∧
      retired = dropPartitions target.tableName replaced := by
  obtain ⟨replaced, hreplaced, h⟩ := Except.bind_eq_ok.mp h
  exact ⟨replaced, hreplaced, (Except.ok.inj h).symm⟩

/-! ## Statements of a plan -/

/-- Statements about partitions in the plan of a target: those about the partition that is published
and drops of those that it replaces. -/
inductive PartitionStatement (target : Target) (spec : PartitionSpec)
    (replaced : List (OrderedMap String)) : Statement → Prop where
  | drop : spec.values.isEmpty = false →
      PartitionStatement target spec replaced (.dropPartition target.tableName spec.values)
  | add (location : String) : spec.values.isEmpty = false →
      PartitionStatement target spec replaced (.addPartition target.tableName spec.values location)
  | retire {values : OrderedMap String} : values ∈ replaced →
      PartitionStatement target spec replaced (.dropPartition target.tableName values)

section

variable {spec : PartitionSpec} {replaced : List (OrderedMap String)} {statement : Statement}

theorem Replacement.partitionStatement_of_mem
    (h : statement ∈ (ofSpec entity target stagingTable spec).before ++
      (ofSpec entity target stagingTable spec).after) :
    PartitionStatement target spec replaced statement := by
  unfold ofSpec at h
  split at h
  · cases h
  · rename_i hsome
    have hfilled := Bool.eq_false_iff.mpr hsome
    rcases List.mem_pair.mp h with rfl | rfl
    · exact .drop hfilled
    · exact .add _ hfilled

theorem partitionStatement_of_mem_dropPartitions
    (h : statement ∈ dropPartitions target.tableName replaced) :
    PartitionStatement target spec replaced statement := by
  obtain ⟨values, hvalues, rfl⟩ := List.mem_map.mp h
  exact .retire (List.mem_filter.mp hvalues).1

end

namespace Publication

theorem directories_plan (publication : Publication) :
    publication.plan.publishDirectories.entries = [publication.replacement.move] :=
  OrderedMap.entries_ofList (by simp)

def partitionStatements (publication : Publication) : List Statement :=
  publication.replacement.before ++ (publication.replacement.after ++ publication.retired)

theorem publishStatements_eq (publication : Publication) :
    publication.plan.publishStatements =
      publication.creation.toList.map (·.text) ++ publication.evolution ++
        publication.partitionStatements.map (·.text) := by
  simp [plan, before, after, partitionStatements]

theorem partitionStatement_of_mem {publication : Publication} {spec : PartitionSpec}
    {replaced : List (OrderedMap String)} {statement : Statement}
    (hreplacement : publication.replacement = .ofSpec entity target stagingTable spec)
    (hretired : publication.retired = dropPartitions target.tableName replaced)
    (h : statement ∈ publication.partitionStatements) :
    PartitionStatement target spec replaced statement := by
  rw [partitionStatements, hreplacement, hretired, ← List.append_assoc] at h
  rcases List.mem_append.mp h with h | h
  · exact Replacement.partitionStatement_of_mem h
  · exact partitionStatement_of_mem_dropPartitions h

end Publication

end OrcConversion
