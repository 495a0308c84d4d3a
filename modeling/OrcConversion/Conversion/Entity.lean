import OrcConversion.Arrow.DataType

/-! What is converted: a source table, or one partition of it, into one of two output formats. -/

namespace OrcConversion

/-- The two output formats: nested records as they are, or their leaves as columns. -/
inductive OutputFormat where
  | flattened
  | nested
deriving DecidableEq, Repr

namespace OutputFormat

def all : List OutputFormat := [flattened, nested]

def key : OutputFormat → String
  | flattened => "flattenedOrc"
  | nested => "nestedOrc"

end OutputFormat

structure SourceTable (τ : Type := String) where
  db : τ
  name : τ
  dataLocation : τ
  recordSchema : Arrow.Schema

def SourceTable.map (f : τ → υ) (table : SourceTable τ) : SourceTable υ where
  db := f table.db
  name := f table.name
  dataLocation := f table.dataLocation
  recordSchema := table.recordSchema

def SourceTable.completeName (table : SourceTable) : String :=
  table.db ++ "@" ++ table.name

/-- A partition of a source table. `name` is its specification as text, `values` lists the values
of its keys, `columnTypes` their types separated by commas. -/
structure SourcePartition (τ : Type := String) where
  name : τ
  values : List τ
  dataLocation : τ
  parameters : OrderedMap τ τ := .empty
  columnTypes : τ
deriving DecidableEq

def SourcePartition.map [DecidableEq υ] (f : τ → υ) (partition : SourcePartition τ) :
    SourcePartition υ where
  name := f partition.name
  values := partition.values.map f
  dataLocation := f partition.dataLocation
  parameters := partition.parameters.mapTexts f
  columnTypes := f partition.columnTypes

structure Entity (τ : Type := String) where
  table : SourceTable τ
  partition : Option (SourcePartition τ) := none
  statements : List τ := []
  /-- Time of creation in milliseconds of the epoch. -/
  createdAt : Int

namespace Entity

def map [DecidableEq υ] (f : τ → υ) (entity : Entity τ) : Entity υ where
  table := entity.table.map f
  partition := entity.partition.map (·.map f)
  statements := entity.statements.map f
  createdAt := entity.createdAt

def isPartitioned (entity : Entity) : Bool := entity.partition.isSome

def completeName (entity : Entity) : String :=
  match entity.partition with
  | none => entity.table.completeName
  | some partition => entity.table.completeName ++ "@" ++ partition.name

end Entity

end OrcConversion
