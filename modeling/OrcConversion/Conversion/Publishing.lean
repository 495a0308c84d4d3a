import OrcConversion.Conversion.PublishPlan
import OrcConversion.Conversion.Staging
import OrcConversion.Partition.Replaced

/-! Publishing: how staged data takes the place of what is published. -/

namespace OrcConversion

open Arrow Hive Text

/-- How the data of one run gets into place. -/
inductive Replacement where
  | table (staged final : String)
  /-- The directory of one partition is replaced, between a drop and an addition. -/
  | partition (staged final : String) (drop add : Statement)

namespace Replacement

def move : Replacement → String × String
  | table staged final => (staged, final)
  | partition staged final _ _ => (staged, final)

def before : Replacement → List Statement
  | table _ _ => []
  | partition _ _ drop _ => [drop]

def after : Replacement → List Statement
  | table _ _ => []
  | partition _ _ _ add => [add]

def ofSpec (entity : Entity) (target : Target) (stagingTable : String) (spec : PartitionSpec) :
    Replacement :=
  let staged := target.stagingLocation stagingTable
  let final := target.finalLocation
  if spec.values.isEmpty then table staged final
  else
    let directory := Partition.directoryName target.pathHints entity.partition
    let finalDirectory := final ++ "/" ++ directory
    partition (staged ++ "/" ++ directory) finalDirectory
      (.dropPartition target.tableName spec.values)
      (.addPartition target.tableName spec.values finalDirectory)

def report : Replacement → Workflow Unit
  | table staged final =>
      Workflow.info .publishing ("Snapshot directory to move: " ++ staged ++ " to: " ++ final)
  | partition staged final drop add => do
      Workflow.debug .publishing ("Drop partition if exists in final table: " ++ drop.text)
      Workflow.info .publishing ("Partition directory to move: " ++ staged ++ " to: " ++ final)
      Workflow.debug .publishing ("Create final partition DDL: " ++ add.text)

end Replacement

/-- Everything that a publish plan is put together from. -/
structure Publication where
  creation : Option Statement
  evolution : List String
  replacement : Replacement
  retired : List Statement
  dropStaging : Statement
  stagingLocation : String

namespace Publication

def before (publication : Publication) : List String :=
  publication.creation.toList.map (·.text) ++ publication.evolution ++
    publication.replacement.before.map (·.text)

def after (publication : Publication) : List String :=
  (publication.replacement.after ++ publication.retired).map (·.text)

def plan (publication : Publication) : PublishPlan where
  publishStatements := publication.before ++ publication.after
  publishDirectories := .ofList [publication.replacement.move]
  cleanupStatements := [publication.dropStaging.text]
  cleanupDirectories := [publication.stagingLocation]
  moveAfter := publication.before.length
  moveAfter_le := by simp

theorem before_plan (publication : Publication) : publication.plan.before = publication.before := by
  simp [plan, PublishPlan.before]

theorem after_plan (publication : Publication) : publication.plan.after = publication.after := by
  simp [plan, PublishPlan.after]

def creation? (schema : Schema) (target : Target) (destination : Destination)
    (spec : PartitionSpec) : Except Failure (Option Statement) :=
  if destination.isPresent then .ok none
  else do
    let columns ← columnsOrFailure schema
    let definition ←
      StagingPlan.definition target target.tableName columns target.finalLocation spec
    return some (.createTable definition)

def retirements (entity : Entity) (target : Target) : Except Failure (List Statement) := do
  return dropPartitions target.tableName (← Partition.replacedBy entity.partition)

end Publication

def PublishPlan.build (entity : Entity) (schema : Schema) (target : Target)
    (stagingTable : String) (destination : Destination) (evolution : List String) :
    Workflow PublishPlan := do
  let spec ← Workflow.ofExcept (SourcePartition.spec entity.partition)
  let creation ← Workflow.ofExcept (Publication.creation? schema target destination spec)
  if let some statement := creation then
    Workflow.debug .publishing ("Create final table DDL: " ++ statement.text)
  let replacement := Replacement.ofSpec entity target stagingTable spec
  replacement.report
  let dropStaging := Statement.dropTable ⟨target.db, stagingTable⟩
  let stagingLocation := target.stagingLocation stagingTable
  Workflow.debug .publishing ("Drop staging table DDL: " ++ dropStaging.text)
  Workflow.info .publishing ("Staging table directory to delete: " ++ stagingLocation)
  let retired ← Workflow.ofExcept (Publication.retirements entity target)
  if !retired.isEmpty then
    Workflow.debug .publishing
      ("Drop replaced partitions: " ++ quotedList (retired.map (·.text)))
  return Publication.plan
    { creation, evolution, replacement, retired, dropStaging, stagingLocation }

end OrcConversion
