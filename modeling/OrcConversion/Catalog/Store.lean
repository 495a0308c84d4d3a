import OrcConversion.Conversion.Destination
import OrcConversion.Failure

/-! A catalog of tables and their partitions. -/

namespace OrcConversion

open Text

/-- Tables and lists of partitions, those added last in front. -/
structure CatalogStore (τ : Type := String) where
  tables : List (TableRecord τ) := []
  partitions : List ((τ × τ) × List (PartitionRecord τ)) := []

namespace CatalogStore

def empty : CatalogStore τ := {}

def add (store : CatalogStore τ) (table : TableRecord τ) (partitions : List (PartitionRecord τ)) :
    CatalogStore τ where
  tables := table :: store.tables
  partitions := ((table.db, table.name), partitions) :: store.partitions

def ofLists (tables : List (TableRecord τ))
    (partitions : List ((τ × τ) × List (PartitionRecord τ))) : CatalogStore τ where
  tables := tables.reverse
  partitions := partitions.reverse

def map [DecidableEq υ] (f : τ → υ) (store : CatalogStore τ) : CatalogStore υ where
  tables := store.tables.map (·.map f)
  partitions := store.partitions.map fun ((db, name), partitions) =>
    ((f db, f name), partitions.map (·.map f))

variable [DecidableEq τ]

def table? (store : CatalogStore τ) (db name : τ) : Option (TableRecord τ) :=
  store.tables.find? fun table => table.db == db && table.name == name

def lookup [Textual τ] (store : CatalogStore τ) (db name : τ) : Except Failure (TableRecord τ) :=
  match store.table? db name with
  | some table => .ok table
  | none => .error (.tableNotFound (coded db) (coded name))

def partitionsOf (store : CatalogStore τ) (table : TableRecord τ) : List (PartitionRecord τ) :=
  match store.partitions.find? (·.1 == (table.db, table.name)) with
  | some (_, partitions) => partitions
  | none => []

theorem table?_add_self (store : CatalogStore τ) (table : TableRecord τ)
    (partitions : List (PartitionRecord τ)) :
    (store.add table partitions).table? table.db table.name = some table := by
  simp [add, table?]

theorem table?_add_of_ne (store : CatalogStore τ) (table : TableRecord τ)
    (partitions : List (PartitionRecord τ)) {db name : τ}
    (h : (table.db, table.name) ≠ (db, name)) :
    (store.add table partitions).table? db name = store.table? db name := by
  simp only [ne_eq, Prod.mk.injEq, not_and] at h
  by_cases hdb : table.db = db
  · simp [add, table?, hdb, h hdb]
  · simp [add, table?, hdb]

theorem partitionsOf_add_self (store : CatalogStore τ) (table : TableRecord τ)
    (partitions : List (PartitionRecord τ)) :
    (store.add table partitions).partitionsOf table = partitions := by
  simp [add, partitionsOf]

theorem partitionsOf_add_of_ne (store : CatalogStore τ) (table other : TableRecord τ)
    (partitions : List (PartitionRecord τ)) (h : (table.db, table.name) ≠ (other.db, other.name)) :
    (store.add table partitions).partitionsOf other = store.partitionsOf other := by
  have hfirst : ((table.db, table.name) == (other.db, other.name)) = false := by simpa using h
  simp [add, partitionsOf, hfirst]

end CatalogStore

end OrcConversion
