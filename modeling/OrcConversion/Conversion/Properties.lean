import OrcConversion.Conversion.Entity
import OrcConversion.Conversion.Target
import OrcConversion.Text.Lowercase
import OrcConversion.Text.Numeral
import OrcConversion.Text.Pieces

/-! Settings read from the flat properties of a job. -/

namespace OrcConversion.Properties

open Text

def settingKey (format : OutputFormat) (setting : String) : String :=
  format.key ++ "." ++ setting

def readList (value : Option String) : List String :=
  words (· == ',') (value.getD "")

def readEntry (key entry : String) : Except Failure (String × String) :=
  match cutAt? '=' entry.toList with
  | some (name, value) =>
      let name := trim (String.ofList name)
      if name.isEmpty then .error (.misconfigured (.malformedEntry key entry))
      else .ok (name, trim (String.ofList value))
  | none => .error (.misconfigured (.malformedEntry key entry))

/-- List of properties; of a repeated one the last value counts. -/
def readEntries (key : String) (value : Option String) : Except Failure (OrderedMap String) := do
  return .ofList (← (readList value).mapM (readEntry key))

def readInteger (key : String) (value : Option String) : Except Failure (Option Int) :=
  match value.filter (!isBlankText ·) with
  | none => .ok none
  | some text =>
      match integer? text with
      | some number => .ok (some number)
      | none => .error (.misconfigured (.notAnInteger key text))

def readFlag (key : String) (value : Option String) : Except Failure Bool :=
  let text := value.getD ""
  let word := lowercase (trim text)
  if ["true", "yes", "1"].contains word then .ok true
  else if ["false", "no", "0", ""].contains word then .ok false
  else .error (.misconfigured (.notAFlag key text))

def nonempty (value : Option String) : Option String :=
  value.filter (!·.isEmpty)

def withoutEndSlashes (path : String) : String :=
  String.ofList (path.toList.reverse.dropWhile (· == '/')).reverse

/-- Settings of a format whose table and data path are known. -/
def readTarget (properties : OrderedMap String) (format : OutputFormat) (table dataPath : String) :
    Except Failure Target := do
  let key := settingKey format
  let get := fun setting => properties.lookup? (key setting)
  let bucketCount ← readInteger (key "numBuckets") (get "numBuckets")
  let rowLimit ← readInteger (key "rowLimit") (get "rowLimit")
  let tableProperties ←
    readEntries (key "destination.tableProperties") (get "destination.tableProperties")
  let runtimeProperties ← readEntries (key "hiveRuntime") (get "hiveRuntime")
  let evolves ← readFlag (key "evolution.enabled") (get "evolution.enabled")
  Target.checked {
    db := (nonempty (get "destination.dbName")).getD "default"
    table
    stagingName := (nonempty (get "destination.stagingTableName")).getD (table ++ "_staging")
    dataPath := withoutEndSlashes dataPath
    clusterBy := readList (get "clusterByList")
    bucketCount
    rowLimit
    tableProperties
    runtimeProperties
    evolves
    pathHints := readList (get "source.dataPathIdentifier") }

def read (properties : OrderedMap String) (format : OutputFormat) :
    Except Failure (Option Target) :=
  let get := fun setting => nonempty (properties.lookup? (settingKey format setting))
  match get "destination.tableName" with
  | none => .ok none
  | some table =>
      match get "destination.dataPath" with
      | none => .error (.misconfigured (.dataPathMissing format.key))
      | some dataPath => (readTarget properties format table dataPath).map some

def readAll (properties : OrderedMap String) : Except Failure (List (OutputFormat × Target)) := do
  let found ← OutputFormat.all.mapM fun format => do
    return (← read properties format).map (format, ·)
  return found.filterMap id

end OrcConversion.Properties
