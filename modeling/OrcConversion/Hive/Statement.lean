import OrcConversion.Hive.Column
import OrcConversion.Hive.Quoting
import OrcConversion.OrderedMap
import OrcConversion.Text.Numeral

/-! HiveQL statements and their text. -/

namespace OrcConversion.Hive

open Text

structure TableDefinition where
  name : TableName
  columns : List Column
  location : String
  partitionColumns : OrderedMap String := .empty
  clusterBy : List String := []
  bucketCount : Option Numeral := none
  properties : OrderedMap String := .empty

structure Insertion where
  source : TableName
  target : TableName
  selection : List String
  partition : OrderedMap String := .empty
  rowLimit : Option Numeral := none

inductive Statement where
  | set (key value : String)
  | createTable (definition : TableDefinition)
  | dropTable (name : TableName)
  | addColumns (name : TableName) (columns : List Column)
  | addPartition (name : TableName) (values : OrderedMap String) (location : String)
  | dropPartition (name : TableName) (values : OrderedMap String)
  | insert (insertion : Insertion)

/-! ## Text -/

def columnLines (columns : List Column) : String :=
  ",\n".intercalate (columns.map fun column =>
    "  " ++ quoteIdentifier column.name ++ " " ++ column.type)

def assignments (separator : String) (values : OrderedMap String) : String :=
  separator.intercalate (values.entries.map fun (key, value) =>
    quoteIdentifier key ++ "=" ++ quoteLiteral value)

def partitionClause (values : OrderedMap String) : String :=
  "PARTITION (" ++ assignments ", " values ++ ")"

/-- A clause that is left out when it has nothing to say. -/
def clauseIf (present : Bool) (clause : String) : List String :=
  if present then [clause] else []

def partitionedBy (columns : OrderedMap String) : List String :=
  clauseIf (!columns.isEmpty)
    ("PARTITIONED BY (" ++ ", ".intercalate (columns.entries.map fun (name, type) =>
      quoteIdentifier name ++ " " ++ type) ++ ")")

def clusteredBy (columns : List String) : Option Numeral → List String
  | some count =>
      clauseIf (!columns.isEmpty)
        ("CLUSTERED BY (" ++ ", ".intercalate (columns.map quoteIdentifier) ++ ") INTO " ++
          count.text ++ " BUCKETS")
  | none => []

def tableProperties (properties : OrderedMap String) : List String :=
  clauseIf (!properties.isEmpty)
    ("TBLPROPERTIES (" ++ ", ".intercalate (properties.entries.map fun (key, value) =>
      quoteLiteral key ++ "=" ++ quoteLiteral value) ++ ")")

def TableDefinition.lines (definition : TableDefinition) : List String :=
  ["CREATE EXTERNAL TABLE IF NOT EXISTS " ++ definition.name.text ++ " (",
    columnLines definition.columns ++ ")"] ++
  partitionedBy definition.partitionColumns ++
  clusteredBy definition.clusterBy definition.bucketCount ++
  ["STORED AS ORC", "LOCATION " ++ quoteLiteral definition.location] ++
  tableProperties definition.properties

def Insertion.lines (insertion : Insertion) : List String :=
  ["INSERT OVERWRITE TABLE " ++ insertion.target.text] ++
  clauseIf (!insertion.partition.isEmpty) (partitionClause insertion.partition) ++
  ["SELECT", ",\n".intercalate (insertion.selection.map ("  " ++ ·)),
    "FROM " ++ insertion.source.text] ++
  clauseIf (!insertion.partition.isEmpty) ("WHERE " ++ assignments " AND " insertion.partition) ++
  match insertion.rowLimit with
  | some limit => ["LIMIT " ++ limit.text]
  | none => []

def Statement.text : Statement → String
  | set key value => "SET " ++ key ++ "=" ++ value
  | createTable definition => "\n".intercalate definition.lines
  | dropTable name => "DROP TABLE IF EXISTS " ++ name.text
  | addColumns name columns =>
      "ALTER TABLE " ++ name.text ++ " ADD COLUMNS (\n" ++ columnLines columns ++ ")"
  | addPartition name values location =>
      "ALTER TABLE " ++ name.text ++ " ADD IF NOT EXISTS " ++ partitionClause values ++
        " LOCATION " ++ quoteLiteral location
  | dropPartition name values =>
      "ALTER TABLE " ++ name.text ++ " DROP IF EXISTS " ++ partitionClause values
  | insert insertion => "\n".intercalate insertion.lines

/-- Drops of several partitions; one without values is left out. -/
def dropPartitions (name : TableName) (partitions : List (OrderedMap String)) : List Statement :=
  (partitions.filter (!·.isEmpty)).map (Statement.dropPartition name)

end OrcConversion.Hive
