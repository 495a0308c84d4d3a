import OrcConversion.Failure
import OrcConversion.Hive.Quoting

/-! Where and how a format is written. -/

namespace OrcConversion

open Hive

structure Target (τ : Type := String) where
  db : τ
  table : τ
  stagingName : τ
  /-- Directory of all data of the table, staged and published. -/
  dataPath : τ
  clusterBy : List τ := []
  bucketCount : Option Int := none
  rowLimit : Option Int := none
  tableProperties : OrderedMap τ τ := .empty
  runtimeProperties : OrderedMap τ τ := .empty
  evolves : Bool := false
  /-- Words that mark the directory of a partition if its source path holds them. -/
  pathHints : List τ := []
deriving DecidableEq

namespace Target

def map [DecidableEq υ] (f : τ → υ) (target : Target τ) : Target υ where
  db := f target.db
  table := f target.table
  stagingName := f target.stagingName
  dataPath := f target.dataPath
  clusterBy := target.clusterBy.map f
  bucketCount := target.bucketCount
  rowLimit := target.rowLimit
  tableProperties := target.tableProperties.mapTexts f
  runtimeProperties := target.runtimeProperties.mapTexts f
  evolves := target.evolves
  pathHints := target.pathHints.map f

/-- The first rule that settings break: buckets need a count, counts and limits are positive. -/
def fault? (target : Target τ) : Option Misconfiguration :=
  if !target.clusterBy.isEmpty && target.bucketCount.isNone then some .bucketCountMissing
  else
    match target.bucketCount.filter (· ≤ 0), target.rowLimit.filter (· ≤ 0) with
    | some count, _ => some (.bucketCountNotPositive count)
    | none, some limit => some (.rowLimitNotPositive limit)
    | none, none => none

def checked (target : Target τ) : Except Failure (Target τ) :=
  match target.fault? with
  | none => .ok target
  | some fault => .error (.misconfigured fault)

theorem checked_eq_ok {target result : Target τ} :
    target.checked = .ok result ↔ target.fault? = none ∧ result = target := by
  unfold checked
  split
  · rename_i h
    simp [h, eq_comm]
  · rename_i h
    simp [h]

def tableName (target : Target) : TableName := ⟨target.db, target.table⟩

def finalLocation (target : Target) : String :=
  target.dataPath ++ "/" ++ "final"

def stagingLocation (target : Target) (stagingTable : String) : String :=
  target.dataPath ++ "/" ++ stagingTable

end Target

end OrcConversion
