import OrcConversion.Conversion.Entity
import OrcConversion.Failure
import OrcConversion.Text.Pieces

/-! Partition specifications: the keys of a partition with their types and values. -/

namespace OrcConversion

open Text

/-- Keys of a partition with their types and with their values. -/
structure PartitionSpec where
  types : OrderedMap String
  values : OrderedMap String
deriving DecidableEq

namespace PartitionSpec

def empty : PartitionSpec := ⟨.empty, .empty⟩

def add (spec : PartitionSpec) (key type value : String) : PartitionSpec :=
  ⟨spec.types.insert key type, spec.values.insert key value⟩

end PartitionSpec

namespace Partition

def nameTokens (name : String) : List String :=
  words (fun c => c == '/' || c == ',') name

def commaItems (text : String) : List String :=
  words (· == ',') text

def parseToken (token : String) : Except Failure (String × String) :=
  match words (· == '=') token with
  | [key, value] => .ok (key, value)
  | _ => .error (.misconfigured (.malformedToken token))

def readTokens (spec : PartitionSpec) : List (String × String) → Except Failure PartitionSpec
  | [] => .ok spec
  | (token, type) :: rest => do
      let (key, value) ← parseToken token
      readTokens (spec.add key type value) rest

def readSpec (name columnTypes : String) : Except Failure PartitionSpec :=
  let spec := trim name
  let types := trim columnTypes
  if spec.isEmpty && types.isEmpty then .ok .empty
  else if spec.isEmpty || types.isEmpty then .error (.misconfigured .specOrTypesMissing)
  else
    let tokens := nameTokens spec
    let typeItems := commaItems types
    if tokens.length ≠ typeItems.length then
      .error (.misconfigured (.specAndTypesDiffer spec types))
    else readTokens .empty (tokens.zip typeItems)

end Partition

/-- Specification of the partition that is converted; empty for a whole table. -/
def SourcePartition.spec : Option SourcePartition → Except Failure PartitionSpec
  | none => .ok .empty
  | some partition => Partition.readSpec partition.name partition.columnTypes

end OrcConversion
