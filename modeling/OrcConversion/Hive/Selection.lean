import OrcConversion.Arrow.Flatten
import OrcConversion.Arrow.Schema
import OrcConversion.Hive.Column
import OrcConversion.Hive.Quoting
import OrcConversion.Text.Lowercase

/-! Selections that map the fields of a source onto the columns of a table. -/

namespace OrcConversion.Hive

open Arrow Text

/-- Target field of a column, names compared without regard to case; of several, the last one. -/
def targetField? (target : Schema) (column : Column) : Option Field :=
  target.reverse.find? fun field => lowercase field.name == lowercase column.name

def columnPath (target : Schema) (column : Column) : Option String :=
  match targetField? target column with
  | some field => field.sourcePath
  | none => some column.name

/-- Selection of what is at a path of the source as a column. A path that the source lacks is filled
with a typed null, or selected by the name of the column all the same, so that it is refused when it
is executed. -/
def selectPath (source : Schema) (fillMissing : Bool) (column : Column) (path : String) : String :=
  let name := quoteIdentifier column.name
  if source.hasPath path then
    if path = column.name then sourceExpression path
    else sourceExpression path ++ " AS " ++ name
  else if fillMissing then "CAST(NULL AS " ++ column.type ++ ") AS " ++ name
  else name

def selectColumn (source target : Schema) (fillMissing : Bool) (column : Column) :
    Option String :=
  (columnPath target column).map (selectPath source fillMissing column)

def selection (source target : Schema) (fillMissing : Bool) (columns : List Column) :
    Option (List String) :=
  columns.mapM (selectColumn source target fillMissing)

end OrcConversion.Hive
