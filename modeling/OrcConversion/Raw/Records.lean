import OrcConversion.Conversion.Destination
import OrcConversion.Conversion.PublishPlan
import OrcConversion.Conversion.Target
import OrcConversion.Conversion.Entity
import OrcConversion.Raw.Checked

/-! Raw forms of the records of the library: which members they have and how each is read. -/

namespace OrcConversion.Raw

open Hive Text

def texts : Reader (List CodeText) := listOf string

def properties : Reader (OrderedMap CodeText CodeText) := mapOf string

def column : Reader (Column CodeText) :=
  record fun entries =>
    Column.mk <$> required "name" string entries <*> required "type" string entries

def columns : Reader (List (Column CodeText)) := listOf column

def tableRecord : Reader (TableRecord CodeText) :=
  record fun entries =>
    TableRecord.mk
      <$> required "db" string entries
      <*> required "name" string entries
      <*> withDefault "columns" columns [] entries
      <*> withDefault "partition_keys" columns [] entries
      <*> withDefault "location" (optional string) none entries
      <*> withDefault "parameters" properties .empty entries

def partitionRecord : Reader (PartitionRecord CodeText) :=
  record fun entries =>
    PartitionRecord.mk
      <$> required "values" texts entries
      <*> withDefault "location" (optional string) none entries
      <*> withDefault "parameters" properties .empty entries

def destination : Reader (Destination CodeText) :=
  record fun entries =>
    Destination.mk
      <$> withDefault "table" (optional tableRecord) none entries
      <*> withDefault "partitions" (optional (listOf partitionRecord)) none entries

def sourcePartition : Reader (SourcePartition CodeText) :=
  record fun entries =>
    SourcePartition.mk
      <$> required "name" string entries
      <*> required "values" texts entries
      <*> required "data_location" string entries
      <*> withDefault "parameters" properties .empty entries
      <*> withDefault "column_types" string (.ofString "") entries

def sourceTable (schema : Option Arrow.Schema) : Reader (SourceTable CodeText) :=
  record fun entries =>
    SourceTable.mk
      <$> required "db" string entries
      <*> required "name" string entries
      <*> required "data_location" string entries
      <*> match schema with
        | some schema => .valid schema
        | none => .broken [⟨[.member "record_schema"], .schema⟩]

/-- An entity whose table and partition have been read; `now` is its time of creation if the raw
record has none. -/
def entity (table : SourceTable CodeText) (partition : Option (SourcePartition CodeText))
    (now : Int) : Reader (Entity CodeText) :=
  record fun entries =>
    Entity.mk table partition
      <$> withDefault "statements" texts [] entries
      <*> withDefault "created_at" integer now entries

def target : Reader (Target CodeText) :=
  record fun entries =>
    Target.mk
      <$> required "destination_db" string entries
      <*> required "destination_table" string entries
      <*> required "staging_table_prefix" string entries
      <*> required "destination_data_path" string entries
      <*> withDefault "cluster_by" texts [] entries
      <*> withDefault "num_buckets" (optional integer) none entries
      <*> withDefault "row_limit" (optional integer) none entries
      <*> withDefault "table_properties" properties .empty entries
      <*> withDefault "runtime_properties" properties .empty entries
      <*> withDefault "evolution_enabled" flag false entries
      <*> withDefault "source_data_path_identifiers" texts [] entries

def publishPlan : Reader (PublishPlan CodeText × Int) :=
  record fun entries =>
    (fun publishStatements publishDirectories cleanupStatements cleanupDirectories moveAfter =>
      ({ publishStatements, publishDirectories, cleanupStatements, cleanupDirectories },
        moveAfter))
      <$> withDefault "publish_statements" texts [] entries
      <*> withDefault "publish_directories" properties .empty entries
      <*> withDefault "cleanup_statements" texts [] entries
      <*> withDefault "cleanup_directories" texts [] entries
      <*> withDefault "move_after" integer 0 entries

def Reader.read (reader : Reader α) (value : Json) : Except Failure α :=
  (reader value).toExcept.mapError .invalidRecord

/-- An entity from its raw record: its table, then its partition, then what is left. The clock is
read only where the record has no time of creation. -/
def readEntity (schema : Option Arrow.Schema) (clock : Except Failure Int) (value : Json) :
    Except Failure (Entity CodeText) := do
  let entries ← (record .valid).read value
  let member (name : CodeText) := (member? name entries).getD .null
  let table ← (sourceTable schema).read (member "table")
  let partition ← (optional sourcePartition).read (member "partition")
  let now ← if (member? "created_at" entries).isSome then .ok 0 else clock
  (entity table partition now).read value

def readTarget (value : Json) : Except Failure (Target CodeText) := do
  (← target.read value).checked

def readPublishPlan (value : Json) : Except Failure (PublishPlan CodeText) := do
  let (plan, moveAfter) ← publishPlan.read value
  plan.moveAt moveAfter

/-- What a raw value holds, one thing after another: the code points of a text, the items of an
array, the names of an object. -/
def elements : Json → Except Failure (List Json)
  | .string text => .ok (text.points.map fun point => .string ⟨[point]⟩)
  | .array values => .ok values
  | .object entries => .ok (entries.map fun entry => .string entry.1)
  | _ => .error (.foreign .wrongType)

end OrcConversion.Raw
