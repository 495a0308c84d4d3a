import OrcConversion.Conversion.Entity
import OrcConversion.Text.Lowercase
import OrcConversion.Text.Pieces

/-! Names of partition directories. -/

namespace OrcConversion.Partition

open Text

/-- Hints that occur in a location, each followed by an underscore. -/
def hintMarks (hints : List String) (location : String) : String :=
  let place := (lowercase location).toList
  String.join ((hints.map lowercase).filter (fun hint => occursIn hint.toList place)
    |>.map (· ++ "_"))

/-- Directory of a partition; empty for a whole table. -/
def directoryName (hints : List String) : Option SourcePartition → String
  | none => ""
  | some partition => hintMarks hints partition.dataLocation ++ partition.name

end OrcConversion.Partition
