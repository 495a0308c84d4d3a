import OrcConversion.Catalog.Document
import OrcConversion.Number.Binary64
import OrcConversion.Workflow.Basic

/-! The catalog that settings ask for. -/

namespace OrcConversion.CatalogSettings

open Number Text

def pathKey : String := "catalog.path"

/-- Whether a setting holds anything: null, false, zero and what is empty count as nothing. -/
def holdsValue : Json → Bool
  | .null => false
  | .bool value => value
  | .integer value => value != 0
  | .decimal value => Binary64.ofDecimal value != .finite 0 0
  | .notANumber => true
  | .infinity _ => true
  | .string value => !value.isEmpty
  | .array items => !items.isEmpty
  | .object members => !members.isEmpty

def slash : CodePoint := .char '/'

def dot : CodePoint := .char '.'

/-- Slashes at the front of a path: exactly two are kept, more count as one. -/
def leadingSlashes (path : List CodePoint) : List CodePoint :=
  let slashes := path.takeWhile (· == slash)
  if slashes.length = 2 then slashes else slashes.take 1

def plainPath (path : CodeText) : CodeText :=
  let names := (path.points.splitOn slash).filter fun name => name != [] && name != [dot]
  let plain := leadingSlashes path.points ++ [slash].intercalate names
  ⟨if plain.isEmpty then [dot] else plain⟩

/-- Bytes that are no text stand in a path as second halves of pairs, from U+DC80 to U+DCFF. -/
def isEncodable : CodePoint → Bool
  | .char _ => true
  | .half offset => 0x480 ≤ offset.val && offset.val < 0x500

/-- Catalog of the document at a path, given the contents of files. A path has to have bytes, and
none of them is the null character. -/
def readCatalog (nesting : Json.Nesting) (contents : CodeText → Except DiskFault ByteArray)
    (path : CodeText) : Except Failure (CatalogStore CodeText) :=
  if !path.points.all isEncodable then .error (.foreign .unencodable)
  else if path.points.contains (.char '\x00') then .error (.foreign .wrongValue)
  else CatalogDocument.ofFile nesting path (contents path)

def connect (nesting : Json.Nesting) (settings : OrderedMap Json)
    (contents : CodeText → Except DiskFault ByteArray) : Workflow (CatalogStore CodeText) :=
  match (settings.lookup? pathKey).filter holdsValue with
  | none => return .empty
  | some (.string value) => do
      let path := plainPath value
      let catalog ← Workflow.ofExcept (readCatalog nesting contents path)
      Workflow.debug .catalog ("Loaded catalog from " ++ path.shown)
      return catalog
  | some _ => Workflow.fail (.foreign .wrongType)

end OrcConversion.CatalogSettings
