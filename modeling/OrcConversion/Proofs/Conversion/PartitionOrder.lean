import OrcConversion.Proofs.Conversion.Halting
import OrcConversion.Proofs.Conversion.PublishingOrder
import OrcConversion.Proofs.Hive.Statements

/-! The order in which a partition is published: it leaves its table before its directory is touched
and returns after, and what it replaces leaves the table last. -/

namespace OrcConversion

open Hive Workflow

def Call.IsExecution (call : Call) : Prop :=
  ∃ statement, call = .execute statement

/-! ## Plans of partitions -/

variable {entity : Entity} {schema : Arrow.Schema} {target : Target} {stagingTable : String}
  {destination : Destination} {evolution : List String} {spec : PartitionSpec}
  {plan : PublishPlan}

/-- A plan that replaces one partition, between a drop of it and its addition. -/
structure PublishPlan.ReplacesPartition (plan : PublishPlan) (opening : List String)
    (drop staged final add : String) (retired : List String) : Prop where
  before_eq : plan.before = opening ++ [drop]
  directories_eq : plan.publishDirectories.entries = [(staged, final)]
  after_eq : plan.after = add :: retired

section

variable {opening retired : List String} {drop staged final add : String}
  (h : plan.ReplacesPartition opening drop staged final add retired)

include h

theorem PublishPlan.ReplacesPartition.publishStatements_eq :
    plan.publishStatements = opening ++ drop :: add :: retired := by
  rw [← plan.before_append_after, h.before_eq, h.after_eq, List.append_assoc]
  rfl

theorem PublishPlan.ReplacesPartition.moveAfter_eq : plan.moveAfter = opening.length + 1 := by
  rw [← plan.length_before, h.before_eq, List.length_append]
  rfl

end

/-- Directory of the partition of an entity below another directory. -/
def partitionDirectory (target : Target) (entity : Entity) (location : String) : String :=
  location ++ "/" ++ Partition.directoryName target.pathHints entity.partition

theorem Publication.replacesPartition {publication : Publication}
    (h : Publication.ofEntity entity schema target stagingTable destination evolution =
      .ok publication)
    (hspec : SourcePartition.spec entity.partition = .ok spec)
    (hvalues : spec.values.isEmpty = false) :
    ∃ creation replaced,
      Publication.creation? schema target destination spec = .ok creation ∧
      Partition.replacedBy entity.partition = .ok replaced ∧
      publication.plan.ReplacesPartition
        (creation.toList.map Statement.text ++ evolution)
        (Statement.dropPartition target.tableName spec.values).text
        (partitionDirectory target entity (target.stagingLocation stagingTable))
        (partitionDirectory target entity target.finalLocation)
        (Statement.addPartition target.tableName spec.values
          (partitionDirectory target entity target.finalLocation)).text
        ((dropPartitions target.tableName replaced).map Statement.text) := by
  obtain ⟨other, creation, retired, hother, hcreation, hretired, rfl⟩ :=
    Publication.ofEntity_eq_ok h
  cases hspec.symm.trans hother
  obtain ⟨replaced, hreplaced, rfl⟩ := Publication.retirements_eq_ok hretired
  refine ⟨creation, replaced, hcreation, hreplaced, ?_⟩
  constructor
  · rw [before_plan]
    simp [before, Replacement.ofSpec, hvalues, Replacement.before]
  · rw [directories_plan]
    simp [Replacement.ofSpec, hvalues, Replacement.move, partitionDirectory]
  · rw [after_plan]
    simp [after, Replacement.ofSpec, hvalues, Replacement.after, partitionDirectory]

theorem PublishPlan.ReplacesPartition.finalizeCalls_eq {opening retired : List String}
    {drop staged final add : String}
    (h : plan.ReplacesPartition opening drop staged final add retired) (present : List Bool) :
    plan.finalizeCalls present =
      opening.map .execute ++ .execute drop ::
        (.checkPath final :: (if present.head? = some true then [.delete final] else []) ++
          .move staged final ::
            .execute add :: (retired.map .execute ++ plan.cleanUpCalls)) := by
  simp [finalizeCalls, publishCalls, h.before_eq, h.directories_eq, h.after_eq, replacementCalls]

/-! ## Runs -/

/-- Exchanges of a run that replaces a partition: its directory is touched only after its drop, it
is added only after the move, and the retired partitions are dropped only after it is added. -/
structure KeepsPartitionOrder (trace : List Exchange) (opening : List String)
    (drop staged final add : String) (retired : List String) : Prop where
  opening_executes : ∀ exchange ∈ trace.take opening.length, exchange.call.IsExecution
  directory_after_drop :
    OnlyAfter (trace.drop opening.length) (.execute drop) fun call => ¬ call.IsExecution
  addition_after_move :
    OnlyAfter (trace.drop (opening.length + 1)) (.move staged final) Call.IsExecution
  retirement_after_addition :
    OnlyAfter (trace.drop (opening.length + 1)) (.execute add) (· ∈ retired.map .execute)

theorem PublishPlan.ReplacesPartition.keepsOrder {opening retired : List String}
    {drop staged final add : String}
    (h : plan.ReplacesPartition opening drop staged final add retired) (hadd : add ∉ retired)
    {trace : List Exchange} {present : List Bool}
    (hfollows : Follows trace (plan.finalizeCalls present)) :
    KeepsPartitionOrder trace opening drop staged final add retired := by
  rw [h.finalizeCalls_eq] at hfollows
  have hfrom := hfollows.drop opening.length
  rw [List.drop_left' (by simp)] at hfrom
  have hbehind := hfrom.drop 1
  rw [List.drop_drop, List.drop_one, List.tail_cons] at hbehind
  constructor
  · intro exchange hmem
    rw [← List.length_map Call.execute] at hmem
    have hcall := hfollows.take.subset (List.mem_map_of_mem hmem)
    obtain ⟨statement, _, hstatement⟩ := List.mem_map.mp hcall
    exact ⟨statement, hstatement.symm⟩
  · exact @Follows.onlyAfter _ [] _ _ _ hfrom (by simp) (by simp [Call.IsExecution])
  · apply Follows.onlyAfter hbehind
    · split <;> simp [Call.IsExecution]
    · simp [Call.IsExecution]
  · rw [List.append_cons] at hbehind
    apply Follows.onlyAfter hbehind
    · split <;> simp
    · simpa using hadd

theorem addPartition_text_not_mem (name : TableName) (values : OrderedMap String)
    (location : String) (replaced : List (OrderedMap String)) :
    (Statement.addPartition name values location).text ∉
      (dropPartitions name replaced).map Statement.text := by
  intro hmem
  obtain ⟨statement, hstatement, htext⟩ := List.mem_map.mp hmem
  obtain ⟨others, _, rfl⟩ := List.mem_map.mp hstatement
  cases Statement.eq_dropPartition_of_text htext.symm

/-- A publish plan is run in its order up to the first failure; so a partition is never in its table
while its directory is replaced, and nothing is retired or cleaned up before it is back. -/
theorem finalize_in_order {σ : Type} (services : Services σ) (plan : PublishPlan) (state : σ) :
    let trace := (finalize plan).exchanges services state
    let result := ((finalize plan).run services state).result
    let publishing := plan.publishCalls (presences trace)
    StopsAtFailure trace (plan.finalizeCalls (presences trace)) ∧
    (result = .ok () ↔ ∀ exchange ∈ trace, exchange.succeeded) ∧
    (∀ failure, result = .error failure → failure.IsKind .publishing) ∧
    (publishing.length < trace.length →
      (trace.take publishing.length).map Exchange.call = publishing ∧
      ∀ exchange ∈ trace.take publishing.length, exchange.succeeded) ∧
    ∀ {τ : Type} (planner : Services τ) (start : τ) (entity : Entity) (schema : Arrow.Schema)
      (target : Target) (stagingTable : String) (destination : Destination)
      (evolution : List String) (spec : PartitionSpec),
      ((PublishPlan.build entity schema target stagingTable destination evolution).run
        planner start).result = .ok plan →
      SourcePartition.spec entity.partition = .ok spec → spec.values.isEmpty = false →
      ∃ creation replaced,
        let opening := creation.toList.map Statement.text ++ evolution
        let drop := (Statement.dropPartition target.tableName spec.values).text
        let staged := partitionDirectory target entity (target.stagingLocation stagingTable)
        let final := partitionDirectory target entity target.finalLocation
        let add := (Statement.addPartition target.tableName spec.values final).text
        let retired := (dropPartitions target.tableName replaced).map Statement.text
        Publication.creation? schema target destination spec = .ok creation ∧
        Partition.replacedBy entity.partition = .ok replaced ∧
        plan.ReplacesPartition opening drop staged final add retired ∧
        KeepsPartitionOrder trace opening drop staged final add retired := by
  intro trace result publishing
  obtain ⟨hstops, hok⟩ := performs_finalize services state plan
  refine ⟨hstops, ?_, ?_, hstops.toFollows.reached, ?_⟩
  · rw [← hok]
    cases hresult : ((finalize plan).run services state).result with
    | ok value => simp [result, hresult, Except.isOk, Except.toBool]
    | error failure => simp [result, hresult, Except.isOk, Except.toBool]
  · intro failure hfailure
    rcases (halts_finalize plan).cases (ends services (finalize plan) state) with
      ⟨hnone, _⟩ | ⟨done, last, other, _, hother, hkind⟩
    · exact (hnone failure hfailure).elim
    · cases hfailure.symm.trans hother
      exact hkind
  · intro τ planner start entity schema target stagingTable destination evolution spec hplan hspec
      hvalues
    obtain ⟨publication, hpublication, rfl⟩ := PublishPlan.build_eq_ok.mp hplan
    obtain ⟨creation, replaced, hcreation, hreplaced, hreplaces⟩ :=
      publication.replacesPartition hpublication hspec hvalues
    refine ⟨creation, replaced, hcreation, hreplaced, hreplaces, ?_⟩
    exact hreplaces.keepsOrder (addPartition_text_not_mem _ _ _ _) hstops.toFollows

namespace Sample

/-- One day of a table of visits. -/
def day : SourcePartition where
  name := "ds=1"
  values := ["1"]
  dataLocation := "/in/1"
  columnTypes := "string"

def visits : Entity where
  table := ⟨"raw", "visits", "/in", []⟩
  partition := some day
  createdAt := 0

def warehouse : Target where
  db := "dw"
  table := "visits"
  stagingName := "visits"
  dataPath := "/d"

/-- Visits have nothing but a number. -/
def numbers : Arrow.Schema := [.mk "id" (.scalar .int64) true .empty]

/-- The table of the warehouse, published before. -/
def published : Destination where
  table := some { db := "dw", name := "visits" }

end Sample

open Sample in
theorem finalize_in_order_moveRefused :
    let refusing : Rehearsal :=
      { mishaps := [{ kind := .move, part := "", failure := .foreign .wrongValue }] }
    let spec := PartitionSpec.empty.add "ds" "string" "1"
    SourcePartition.spec visits.partition = .ok spec ∧ spec.values.isEmpty = false ∧
      ∃ plan,
        ((PublishPlan.build visits [] warehouse "visits_00" published []).run
          Rehearsal.services {}).result = .ok plan ∧
        KeepsPartitionOrder ((finalize plan).exchanges Rehearsal.services refusing) []
          "ALTER TABLE `dw`.`visits` DROP IF EXISTS PARTITION (`ds`='1')"
          "/d/visits_00/ds=1" "/d/final/ds=1"
          "ALTER TABLE `dw`.`visits` ADD IF NOT EXISTS PARTITION (`ds`='1') LOCATION '/d/final/ds=1'"
          [] := by
  refine ⟨rfl, rfl, ?_⟩
  obtain ⟨plan, hplan⟩ : ∃ plan,
      ((PublishPlan.build visits [] warehouse "visits_00" published []).run
        Rehearsal.services {}).result = .ok plan := ⟨_, rfl⟩
  obtain ⟨creation, replaced, hcreation, hreplaced, _, horder⟩ :=
    (finalize_in_order Rehearsal.services plan _).2.2.2.2 Rehearsal.services {} visits [] warehouse
      "visits_00" published [] _ hplan rfl rfl
  cases hcreation
  cases hreplaced
  exact ⟨plan, hplan, horder⟩

end OrcConversion
