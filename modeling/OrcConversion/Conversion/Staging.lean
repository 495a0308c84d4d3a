import OrcConversion.Conversion.Destination
import OrcConversion.Conversion.Target
import OrcConversion.Hive.Selection
import OrcConversion.Hive.Statement
import OrcConversion.Partition.Directory
import OrcConversion.Partition.Spec
import OrcConversion.Workflow.Basic

/-! Staging: the statements that build a table for one run and fill it from the source. -/

namespace OrcConversion

open Arrow Hive Text

/-- Name of the staging table of a run: the time and a digit follow the prefix. -/
def stagingTableName (stem : String) (time : Int) (digit : Nat) : String :=
  stem ++ "_" ++ toString time ++ toString digit

def columnsOrFailure (schema : Schema) : Except Failure (List Column) :=
  (columnsOf schema).mapError fun type => .misconfigured (.unsupportedType type)

def selectionOrFailure (source schema : Schema) (fillMissing : Bool) (columns : List Column) :
    Except Failure (List String) :=
  match selection source schema fillMissing columns with
  | some selection => .ok selection
  | none => .error (.foreign .undecodable)

/-- An integer as it is written, which needs it to be short enough. -/
def written (number : Int) : Except Failure Numeral :=
  match Numeral.ofInt? number with
  | some numeral => .ok numeral
  | none => .error (.foreign .wrongValue)

/-- Settings of a run: those of the target, then what is converted and since when. -/
def runtimeSettings (entity : Entity) (target : Target) : Except Failure (List Statement) := do
  let created ← written entity.createdAt
  return target.runtimeProperties.entries.map (fun (key, value) => Statement.set key value) ++
    [.set "orcbridge.datasetUrn" entity.table.completeName] ++
    (if entity.isPartitioned then [.set "orcbridge.partitionName" entity.completeName] else []) ++
    [.set "orcbridge.workunitCreateTime" created.text]

structure StagingPlan where
  columns : List Column
  settings : List Statement
  creation : Statement
  partition : Option Statement
  insertion : Statement

namespace StagingPlan

def statements (plan : StagingPlan) : List String :=
  (plan.settings ++ [plan.creation] ++ plan.partition.toList ++ [plan.insertion]).map (·.text)

/-- Buckets are only counted where there are columns to cluster by. -/
def bucketCount (target : Target) : Except Failure (Option Numeral) :=
  if target.clusterBy.isEmpty then .ok none else target.bucketCount.mapM written

def definition (target : Target) (name : TableName) (columns : List Column) (location : String)
    (spec : PartitionSpec) : Except Failure TableDefinition := do
  let bucketCount ← bucketCount target
  return {
    name
    columns
    location
    partitionColumns := spec.types
    clusterBy := target.clusterBy
    bucketCount
    properties := target.tableProperties }

def addition? (entity : Entity) (target : Target) (stagingTable : String) (spec : PartitionSpec) :
    Option Statement :=
  if spec.values.isEmpty then none
  else
    let directory := Partition.directoryName target.pathHints entity.partition
    let location := target.stagingLocation stagingTable ++ "/" ++ directory
    some (.addPartition ⟨target.db, stagingTable⟩ spec.values location)

def insertionOf (entity : Entity) (schema : Schema) (target : Target) (stagingTable : String)
    (fillMissing : Bool) (spec : PartitionSpec) (columns : List Column) :
    Except Failure Insertion := do
  let selection ← selectionOrFailure entity.table.recordSchema schema fillMissing columns
  let rowLimit ← target.rowLimit.mapM written
  return {
    source := ⟨entity.table.db, entity.table.name⟩
    target := ⟨target.db, stagingTable⟩
    selection
    partition := spec.values
    rowLimit }

def plan (entity : Entity) (schema : Schema) (target : Target) (stagingTable : String)
    (destination : Destination) : Workflow StagingPlan := do
  let spec ← Workflow.ofExcept (SourcePartition.spec entity.partition)
  let settings ← Workflow.ofExcept (runtimeSettings entity target)
  let targetColumns ← Workflow.ofExcept (columnsOrFailure schema)
  let columns := destination.align target.evolves targetColumns
  let definition ← Workflow.ofExcept (definition target ⟨target.db, stagingTable⟩ columns
    (target.stagingLocation stagingTable) spec)
  let creation := Statement.createTable definition
  Workflow.debug .staging ("Create staging table DDL: " ++ creation.text)
  let partition := addition? entity target stagingTable spec
  if let some statement := partition then
    Workflow.debug .staging ("Create staging partition DDL: " ++ statement.text)
  let insertion ← Workflow.ofExcept (insertionOf entity schema target stagingTable
    (!destination.isPresent || target.evolves) spec columns)
  let insertion := Statement.insert insertion
  Workflow.debug .staging ("Conversion staging DML: " ++ insertion.text)
  return { columns, settings, creation, partition, insertion }

end StagingPlan

end OrcConversion
