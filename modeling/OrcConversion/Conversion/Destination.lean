import OrcConversion.Hive.Column
import OrcConversion.OrderedMap
import OrcConversion.Text.Lowercase

/-! The table that a conversion publishes into, as the catalog knows it, and how columns line up
with it. -/

namespace OrcConversion

open Hive Text

structure TableRecord (τ : Type := String) where
  db : τ
  name : τ
  columns : List (Column τ) := []
  partitionKeys : List (Column τ) := []
  location : Option τ := none
  parameters : OrderedMap τ τ := .empty
deriving DecidableEq

def TableRecord.map [DecidableEq υ] (f : τ → υ) (table : TableRecord τ) : TableRecord υ where
  db := f table.db
  name := f table.name
  columns := table.columns.map (·.map f)
  partitionKeys := table.partitionKeys.map (·.map f)
  location := table.location.map f
  parameters := table.parameters.mapTexts f

def TableRecord.isPartitioned (table : TableRecord τ) : Bool :=
  !table.partitionKeys.isEmpty

structure PartitionRecord (τ : Type := String) where
  values : List τ
  location : Option τ := none
  parameters : OrderedMap τ τ := .empty
deriving DecidableEq

def PartitionRecord.map [DecidableEq υ] (f : τ → υ) (partition : PartitionRecord τ) :
    PartitionRecord υ where
  values := partition.values.map f
  location := partition.location.map f
  parameters := partition.parameters.mapTexts f

structure Destination (τ : Type := String) where
  table : Option (TableRecord τ) := none
  partitions : Option (List (PartitionRecord τ)) := none
deriving DecidableEq

def Destination.map [DecidableEq υ] (f : τ → υ) (destination : Destination τ) : Destination υ where
  table := destination.table.map (·.map f)
  partitions := destination.partitions.map (·.map (·.map f))

def Destination.absent : Destination := {}

def Destination.isPresent (destination : Destination) : Bool :=
  destination.table.isSome

def sameName (left right : Column) : Bool :=
  lowercase left.name == lowercase right.name

def missingColumns (target existing : List Column) : List Column :=
  target.filter fun column => !existing.any fun other => sameName other column

/-- Columns of a table that has to line up with the destination. -/
def Destination.align (destination : Destination) (evolves : Bool) (target : List Column) :
    List Column :=
  match destination.table with
  | none => target
  | some table =>
      if evolves then table.columns ++ missingColumns target table.columns
      else table.columns

def Destination.newColumns (destination : Destination) (evolves : Bool) (target : List Column) :
    List Column :=
  match destination.table with
  | none => []
  | some table => if evolves then missingColumns target table.columns else []

end OrcConversion
