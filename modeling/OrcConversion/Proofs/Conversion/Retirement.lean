import OrcConversion.Proofs.Conversion.PartitionOrder
import OrcConversion.Proofs.Partition.Reading

/-! A partition that is published does not retire itself. -/

namespace OrcConversion

open Hive Workflow

variable {entity : Entity} {schema : Arrow.Schema} {target : Target} {stagingTable : String}
  {destination : Destination} {evolution : List String} {partition : SourcePartition}
  {tokens : List (String × String)}

/-- Values read off the name of a partition are the values of its specification. -/
theorem SourcePartition.values_of_spec {spec : PartitionSpec}
    (htokens : (Partition.nameTokens partition.name).mapM Partition.parseToken = .ok tokens)
    (hspec : SourcePartition.spec (some partition) = .ok spec) : spec.values = .ofList tokens := by
  have hread : Partition.readSpec partition.name partition.columnTypes = .ok spec := hspec
  obtain ⟨others, hothers, hvalues⟩ := Partition.readSpec_eq_ok hread
  cases htokens.symm.trans hothers
  exact hvalues

theorem dropPartition_not_mem_retired {name : TableName} {replaced : List (OrderedMap String)}
    (htokens : (Partition.nameTokens partition.name).mapM Partition.parseToken = .ok tokens)
    (hkeys : (tokens.map Prod.fst).Nodup) (hvalues : partition.values = tokens.map Prod.snd)
    (hreplaced : Partition.replacedBy (some partition) = .ok replaced) :
    (Statement.dropPartition name (.ofList tokens)).text ∉
      (dropPartitions name replaced).map Statement.text := by
  intro hmem
  obtain ⟨statement, hstatement, htext⟩ := List.mem_map.mp hmem
  obtain ⟨values, hother, rfl⟩ := List.mem_map.mp hstatement
  cases Statement.eq_dropPartition_of_text htext
  have hothers :=
    Partition.otherValues_of_replacedBy htokens hreplaced (List.mem_filter.mp hother).1
  rw [hvalues] at hothers
  exact Partition.not_otherValues_self hkeys hothers

/-- Nothing that follows the addition of a partition drops it again. -/
theorem partition_not_retired {σ : Type} {services : Services σ} {state : σ} {plan : PublishPlan}
    {spec : PartitionSpec} (hpartition : entity.partition = some partition)
    (htokens : (Partition.nameTokens partition.name).mapM Partition.parseToken = .ok tokens)
    (hkeys : (tokens.map Prod.fst).Nodup) (hvalues : partition.values = tokens.map Prod.snd)
    (hplan : ((PublishPlan.build entity schema target stagingTable destination evolution).run
      services state).result = .ok plan)
    (hspec : SourcePartition.spec entity.partition = .ok spec)
    (hsome : spec.values.isEmpty = false) :
    ∃ later,
      plan.after = (Statement.addPartition target.tableName spec.values
        (partitionDirectory target entity target.finalLocation)).text :: later ∧
      (Statement.dropPartition target.tableName spec.values).text ∉ later := by
  obtain ⟨publication, hpublication, rfl⟩ := PublishPlan.build_eq_ok.mp hplan
  obtain ⟨creation, replaced, _, hreplaced, hreplaces⟩ :=
    publication.replacesPartition hpublication hspec hsome
  refine ⟨_, hreplaces.after_eq, ?_⟩
  rw [hpartition] at hspec hreplaced
  rw [SourcePartition.values_of_spec htokens hspec]
  exact dropPartition_not_mem_retired htokens hkeys hvalues hreplaced

/-- A day that replaces others, with itself among those recorded. -/
def Sample.coarseDay : SourcePartition where
  name := "ds=1"
  values := ["1"]
  dataLocation := "/in/1"
  parameters := .ofList [(Partition.replacedKey, "ds=0|ds=1,ds=2")]
  columnTypes := "string"

def Sample.coarseVisits : Entity :=
  { visits with partition := some coarseDay }

open Sample in
theorem partition_not_retired_coarseDay :
    let spec := PartitionSpec.empty.add "ds" "string" "1"
    (Partition.nameTokens coarseDay.name).mapM Partition.parseToken = .ok [("ds", "1")] ∧
      SourcePartition.spec (some coarseDay) = .ok spec ∧
      ∃ plan later,
        ((PublishPlan.build coarseVisits [] warehouse "visits_00" published []).run
          Rehearsal.services {}).result = .ok plan ∧
        plan.after = (Statement.addPartition warehouse.tableName spec.values
          "/d/final/ds=1").text :: later ∧
        (Statement.dropPartition warehouse.tableName spec.values).text ∉ later := by
  have htokens : (Partition.nameTokens coarseDay.name).mapM Partition.parseToken =
      .ok [("ds", "1")] := rfl
  have hspec : SourcePartition.spec (some coarseDay) =
      .ok (PartitionSpec.empty.add "ds" "string" "1") := rfl
  have hok : ((PublishPlan.build coarseVisits [] warehouse "visits_00" published []).run
      Rehearsal.services {}).result.isOk = true := by decide +kernel
  obtain ⟨plan, hplan⟩ := Except.exists_of_isOk hok
  obtain ⟨later, hafter, hdrop⟩ :=
    partition_not_retired rfl htokens (by simp) rfl hplan hspec rfl
  exact ⟨htokens, hspec, plan, later, hplan, hafter, hdrop⟩

end OrcConversion
