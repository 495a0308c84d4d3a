import OrcConversion.Conversion.Publishing
import OrcConversion.Arrow.Flatten

/-! Planning of a conversion. -/

namespace OrcConversion

open Arrow Hive Text Workflow

/-- Failures of a kind as they are, all others seen as the cause of another failure. -/
def Failure.unlessKind (kind : FailureKind) (wrap : Failure → Failure) (failure : Failure) :
    Failure :=
  if failure.kind? = some kind then failure else wrap failure

/-! ## Looking up the destination -/

def lookupDestination (db table : String) : Workflow Destination := do
  let record ← call (.lookupTable db table)
  if record.isPartitioned then
    let partitions ← call (.listPartitions record)
    return { table := some record, partitions := some partitions }
  else
    return { table := some record }

/-- The destination as a catalog knows it; a table that is not found is absent. -/
def loadDestination (db table : String) : Workflow Destination :=
  (lookupDestination db table).andThen fun
    | .ok destination => return destination
    | .error failure =>
        if failure.kind? = some .tableNotFound then do
          debug .catalog ("Destination table " ++ db ++ "." ++ table ++ " does not exist")
          return .absent
        else fail (failure.unlessKind .catalog (.lookupFailed db table))

/-! ## Creating the directory of the target -/

def copyDirectory (path source : String) : Workflow Int := do
  let permission ← call (.permission source)
  let made ← call (.makeDirectory path permission)
  if made then
    call (.setPermission path permission)
    return permission
  else
    fail (.directoryRefused path permission)

def createDestinationDirectory (path source : String) : Workflow Int := do
  let permission ←
    (copyDirectory path source).mapFailure (·.unlessKind .filesystem (.directoryFailed path))
  info .filesystem ("Created " ++ path ++ " with permissions " ++ octal permission)
  return permission

/-! ## Evolution -/

def evolve (target : List Column) (destination : Destination) (evolves : Bool)
    (name : TableName) : Workflow (List String) := do
  match destination.newColumns evolves target with
  | [] => return []
  | columns =>
      info .evolution ("Evolving " ++ name.db ++ "." ++ name.table ++ ": adding " ++
        quotedList (columns.map (·.name)))
      return [(Statement.addColumns name columns).text]

/-! ## Plans -/

structure ConversionPlan where
  entity : Entity
  publish : Option PublishPlan := none
  stagingTable : Option String := none
  evolutionStatements : List String := []

/-- The moment and the digit that tell the staging table of one run from those of others. -/
structure RunMark where
  time : Int
  digit : Nat
deriving DecidableEq, Repr

def OutputFormat.shape (format : OutputFormat) (schema : Schema) : Except BuildFault Schema :=
  match format with
  | .flattened => schema.flatten
  | .nested => .ok schema

def checkEntity (entity : Entity) (schema : Schema) : Except Failure (List Column) := do
  let _ ← SourcePartition.spec entity.partition
  let _ ← Partition.replacedBy entity.partition
  columnsOrFailure schema

/-- Plans the conversion of an entity with the settings of its format. Whether there is a mark is
only asked when everything is found to be in order. -/
def planWith (target : Target) (format : OutputFormat) (entity : Entity) (schema : Schema)
    (mark : Except Failure RunMark) : Workflow ConversionPlan := do
  let schema ← ofExcept ((format.shape schema).mapError .ofBuildFault)
  let columns ← ofExcept (checkEntity entity schema)
  let mark ← ofExcept mark
  let _ ← ofExcept (written mark.time)
  let stagingTable := stagingTableName target.stagingName mark.time mark.digit
  let destination ← loadDestination target.db target.table
  let _ ← createDestinationDirectory target.dataPath entity.table.dataLocation
  let staging ← StagingPlan.plan entity schema target stagingTable destination
  let evolution ← evolve columns destination target.evolves target.tableName
  debug .planning ("Evolve final table DDLs: " ++ quotedList evolution)
  let publish ← PublishPlan.build entity schema target stagingTable destination evolution
  debug .planning ("Publish plan: " ++ publish.text)
  info .planning ("Planned " ++ format.key ++ " conversion of " ++ entity.completeName ++
    " into " ++ target.db ++ "." ++ target.table ++ " via " ++ stagingTable)
  return {
    entity := { entity with statements := entity.statements ++ staging.statements }
    publish := some publish
    stagingTable := some stagingTable
    evolutionStatements := evolution }

abbrev Targets := OutputFormat → Option Target

/-- Plans the conversion of an entity. Without settings for the format there is nothing to do; a
schema without fields cannot be converted. -/
def planConversion (targets : Targets) (format : OutputFormat) (entity : Entity)
    (schema : Option Schema) (mark : Except Failure RunMark) : Workflow ConversionPlan :=
  match targets format with
  | none => do
      debug .planning ("No " ++ format.key ++ " conversion configured for " ++ entity.completeName)
      return { entity }
  | some target =>
      match schema with
      | none | some [] => fail (.emptySchema entity.completeName)
      | some schema => planWith target format entity schema mark

end OrcConversion
