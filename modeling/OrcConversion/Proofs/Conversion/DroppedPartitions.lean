import OrcConversion.Proofs.Conversion.PartitionOrder
import OrcConversion.Proofs.Conversion.PlanningRuns
import OrcConversion.Proofs.Partition.Reading

/-! A plan drops nothing but full partitions of its own table. -/

namespace OrcConversion

open Hive Workflow

/-! ## Keys of replaced partitions -/

section

variable {partition : Option SourcePartition} {spec : PartitionSpec}
  {replaced : List (OrderedMap String)} {values : OrderedMap String}

theorem Partition.replacedBy_eq_nil_or (hspec : SourcePartition.spec partition = .ok spec)
    (hreplaced : Partition.replacedBy partition = .ok replaced) :
    replaced = [] ∨ spec.values.isEmpty = false ∧ ∀ values ∈ replaced,
      values.keys = spec.values.keys ∧ ∀ entry ∈ values.entries, PlainValue entry.2 := by
  cases partition with
  | none =>
      cases hreplaced
      exact .inl rfl
  | some partition =>
      have hread : readSpec partition.name partition.columnTypes = .ok spec := hspec
      obtain ⟨tokens, htokens, hvalues⟩ := readSpec_eq_ok hread
      rcases replacedBy_eq_ok htokens hreplaced with hnil | ⟨hsome, hothers⟩
      · exact .inl hnil
      · refine .inr ⟨?_, fun values hmem => ?_⟩
        · rw [hvalues, Bool.eq_false_iff]
          exact fun hempty => hsome (OrderedMap.eq_nil_of_isEmpty_ofList hempty)
        · rw [hvalues]
          exact ⟨(hothers values hmem).keys_eq, fun entry => (hothers values hmem).plain⟩

end

/-! ## Drops among statements -/

/-- Every partition that one of the statements drops belongs to a table with these keys. -/
def DropFully (name : TableName) (keys : List String) (statements : List String) : Prop :=
  ∀ other values, (Statement.dropPartition other values).text ∈ statements →
    other = name ∧ values.keys = keys ∧ keys ≠ []

def Hive.Statement.DropsFully (name : TableName) (keys : List String) : Statement → Prop
  | .dropPartition other values => other = name ∧ values.keys = keys ∧ keys ≠ []
  | _ => True

section

variable {name : TableName} {keys : List String}

theorem dropFully_texts {statements : List Statement}
    (h : ∀ statement ∈ statements, statement.DropsFully name keys) :
    DropFully name keys (statements.map Statement.text) := by
  intro other values hmem
  obtain ⟨statement, hstatement, htext⟩ := List.mem_map.mp hmem
  cases Statement.eq_dropPartition_of_text htext
  exact h _ hstatement

theorem DropFully.append {first second : List String} (hfirst : DropFully name keys first)
    (hsecond : DropFully name keys second) : DropFully name keys (first ++ second) := by
  intro other values hmem
  rcases List.mem_append.mp hmem with hmem | hmem
  · exact hfirst other values hmem
  · exact hsecond other values hmem

end

section

variable {entity : Entity} {schema : Arrow.Schema} {target : Target} {stagingTable : String}
  {destination : Destination} {evolution : List String} {spec : PartitionSpec}

theorem Publication.dropsFully_creation {creation : Option Statement} {name : TableName}
    {keys : List String} (h : Publication.creation? schema target destination spec = .ok creation) :
    ∀ statement ∈ creation.toList, statement.DropsFully name keys := by
  unfold creation? at h
  split at h
  · cases h
    intro statement hmem
    cases hmem
  · obtain ⟨columns, -, h⟩ := Except.bind_eq_ok.mp h
    obtain ⟨table, -, hcreation⟩ := Except.bind_eq_ok.mp h
    cases hcreation
    intro statement hmem
    cases List.mem_singleton.mp hmem
    trivial

theorem PartitionStatement.dropsFully {replaced : List (OrderedMap String)} {statement : Statement}
    (h : PartitionStatement target spec replaced statement)
    (hspec : SourcePartition.spec entity.partition = .ok spec)
    (hreplaced : Partition.replacedBy entity.partition = .ok replaced) :
    statement.DropsFully target.tableName spec.values.keys := by
  have hkeys : spec.values.isEmpty = false → spec.values.keys ≠ [] := by
    intro hsome hnil
    have hempty : spec.values.isEmpty = true :=
      List.isEmpty_iff.mpr (List.map_eq_nil_iff.mp hnil)
    cases hsome.symm.trans hempty
  cases h with
  | drop hsome => exact ⟨rfl, rfl, hkeys hsome⟩
  | add location hsome => trivial
  | retire hmem =>
      rcases Partition.replacedBy_eq_nil_or hspec hreplaced with rfl | ⟨hsome, hfull⟩
      · cases hmem
      · exact ⟨rfl, (hfull _ hmem).1, hkeys hsome⟩

theorem Publication.dropFully {publication : Publication}
    (h : Publication.ofEntity entity schema target stagingTable destination evolution =
      .ok publication)
    (hspec : SourcePartition.spec entity.partition = .ok spec)
    (hevolution : DropFully target.tableName spec.values.keys evolution) :
    DropFully target.tableName spec.values.keys
      (publication.plan.publishStatements ++ publication.plan.cleanupStatements) := by
  obtain ⟨other, creation, retired, hother, hcreation, hretired, rfl⟩ :=
    Publication.ofEntity_eq_ok h
  cases hspec.symm.trans hother
  obtain ⟨replaced, hreplaced, rfl⟩ := Publication.retirements_eq_ok hretired
  rw [publishStatements_eq]
  apply DropFully.append
  · apply DropFully.append
    · exact (dropFully_texts (dropsFully_creation hcreation)).append hevolution
    · apply dropFully_texts
      intro statement hmem
      exact (partitionStatement_of_mem rfl rfl hmem).dropsFully hspec hreplaced
  · apply @dropFully_texts _ _ [.dropTable ⟨target.db, stagingTable⟩]
    intro statement hmem
    cases List.mem_singleton.mp hmem
    trivial

end

/-! ## Plans of conversions -/

theorem StagingStatement.dropsFully {statement : Statement} (h : StagingStatement statement)
    (name : TableName) (keys : List String) : statement.DropsFully name keys := by
  cases h with
  | setting key value => trivial
  | creation definition => trivial
  | partition name values location => trivial
  | insertion insertion => trivial

namespace PlanBasis

variable {entity : Entity} {schema : Arrow.Schema} {target : Target} {name : TableName}
  {keys : List String} (basis : PlanBasis entity schema target)

theorem dropFully_staging : DropFully name keys basis.staging.statements := by
  obtain ⟨statements, hstaging, htexts⟩ := StagingPlan.exists_statements basis.build_staging
  rw [htexts]
  exact dropFully_texts fun statement hmem => (hstaging statement hmem).dropsFully name keys

theorem dropFully_evolution :
    DropFully name keys (basis.evolution.map Statement.text) := by
  apply dropFully_texts
  intro statement hmem
  unfold evolution additions at hmem
  split at hmem
  · cases hmem
  · cases List.mem_singleton.mp hmem
    trivial

theorem dropFully_publication :
    DropFully target.tableName basis.spec.values.keys
      (basis.publication.plan.publishStatements ++ basis.publication.plan.cleanupStatements) :=
  Publication.dropFully (basis.ofEntity_eq _) basis.spec_eq basis.dropFully_evolution

end PlanBasis

/-- Replaced partitions have the keys of the partition that replaces them, and no plan drops
anything else. A whole table replaces nothing and drops nothing. -/
theorem dropped_partitions_are_full :
    (∀ partition spec replaced, SourcePartition.spec partition = .ok spec →
      Partition.replacedBy partition = .ok replaced →
      (∀ values ∈ replaced, values.keys = spec.values.keys ∧
        ∀ entry ∈ values.entries, Partition.PlainValue entry.2) ∧
      (spec.values.isEmpty = true → replaced = [])) ∧
    ∀ {σ : Type} (services : Services σ) (state : σ) (entity : Entity),
      (∀ schema target stagingTable destination evolution publish,
        ((PublishPlan.build entity schema target stagingTable destination evolution).run
          services state).result = .ok publish →
        ∃ spec, SourcePartition.spec entity.partition = .ok spec ∧
          (DropFully target.tableName spec.values.keys evolution →
            DropFully target.tableName spec.values.keys
              (publish.publishStatements ++ publish.cleanupStatements))) ∧
      ∀ targets format schema mark plan publish,
        ((planConversion targets format entity schema (.ok mark)).run services state).result =
          .ok plan →
        plan.publish = some publish →
        ∃ target spec staged, targets format = some target ∧
          SourcePartition.spec entity.partition = .ok spec ∧
          plan.entity.statements = entity.statements ++ staged ∧
          DropFully target.tableName spec.values.keys
            (staged ++ (publish.publishStatements ++ publish.cleanupStatements)) := by
  refine ⟨?_, fun services state entity => ⟨?_, ?_⟩⟩
  · intro partition spec replaced hspec hreplaced
    rcases Partition.replacedBy_eq_nil_or hspec hreplaced with rfl | ⟨hsome, hfull⟩
    · exact ⟨fun values hmem => absurd hmem List.not_mem_nil, fun _ => rfl⟩
    · refine ⟨hfull, fun hempty => ?_⟩
      cases hsome.symm.trans hempty
  · intro schema target stagingTable destination evolution publish hplan
    obtain ⟨publication, hpublication, rfl⟩ := PublishPlan.build_eq_ok.mp hplan
    obtain ⟨spec, _, _, hspec, _, _, _⟩ := Publication.ofEntity_eq_ok hpublication
    exact ⟨spec, hspec, Publication.dropFully hpublication hspec⟩
  · intro targets format schema mark plan publish hplan hpublish
    have hends := ends services (planConversion targets format entity schema (.ok mark)) state
    rw [hplan] at hends
    obtain ⟨target, htarget⟩ := exists_target_of_published hends hpublish
    obtain ⟨_, _, -, -, basis, -, -, rfl⟩ := exists_basis_of_target hends htarget
    cases hpublish
    exact ⟨target, basis.spec, basis.staging.statements, htarget, basis.spec_eq, rfl,
      basis.dropFully_staging.append basis.dropFully_publication⟩

/-- An hour of a day that replaces two others. -/
def Sample.hour : SourcePartition where
  name := "ds=1/hour=2"
  values := ["1", "2"]
  dataLocation := "/in/1/2"
  parameters := .ofList [(Partition.replacedKey, "ds=0,hour=1|ds=1,hour=3,ds=1,hour=2")]
  columnTypes := "string,string"

def Sample.hourlyVisits : Entity :=
  { visits with partition := some hour }

open Sample in
theorem dropped_partitions_are_full_hour :
    let result := ((planConversion (fun _ => some warehouse) .nested hourlyVisits (some numbers)
      (.ok ⟨0, 0⟩)).run Rehearsal.services {}).result
    ∃ plan publish, result = .ok plan ∧ plan.publish = some publish ∧
      publish.publishStatements.drop 3 = [
        "ALTER TABLE `dw`.`visits` DROP IF EXISTS PARTITION (`ds`='0', `hour`='1')",
        "ALTER TABLE `dw`.`visits` DROP IF EXISTS PARTITION (`ds`='1', `hour`='3')"] ∧
      ∀ name day, (Statement.dropPartition name (.ofList [("ds", day)])).text ∉
        publish.publishStatements := by
  intro result
  have htexts : (result.toOption.bind (·.publish)).map (·.publishStatements.drop 3) = some [
      "ALTER TABLE `dw`.`visits` DROP IF EXISTS PARTITION (`ds`='0', `hour`='1')",
      "ALTER TABLE `dw`.`visits` DROP IF EXISTS PARTITION (`ds`='1', `hour`='3')"] := by
    decide +kernel
  obtain ⟨plan, publish, hresult, hpublish, htexts⟩ := exists_published htexts
  refine ⟨plan, publish, hresult, hpublish, htexts, ?_⟩
  intro name day hmem
  obtain ⟨_, spec, _, _, hspec, _, hfull⟩ := (dropped_partitions_are_full.2 Rehearsal.services {}
    hourlyVisits).2 _ _ _ _ plan publish hresult hpublish
  have hkeys := (hfull name _ (List.mem_append_right _ (List.mem_append_left _ hmem))).2.1
  have hread : SourcePartition.spec hourlyVisits.partition =
      .ok ((PartitionSpec.empty.add "ds" "string" "1").add "hour" "string" "2") := rfl
  cases hread.symm.trans hspec
  cases hkeys

end OrcConversion
