import OrcConversion.Catalog.Store
import OrcConversion.Raw.Records
import OrcConversion.Text.Lines

/-! Catalogs read from JSON documents. -/

namespace OrcConversion.CatalogDocument

open Raw Text

/-- A raw value as a key; only texts are of account, and what can be changed is no key. -/
def entryKey : Json → Except Failure (Option CodeText)
  | .string name => .ok (some name)
  | .array _ => .error (.foreign .wrongType)
  | .object _ => .error (.foreign .wrongType)
  | _ => .ok none

/-- A raw value as a key with its value: two things, whatever holds them. -/
def entryPair (value : Json) : Except Failure (Json × Json) := do
  match ← elements value with
  | [key, value] => return (key, value)
  | _ => throw (.foreign .wrongValue)

def addPairs (members : List (CodeText × Json)) :
    List Json → Except Failure (List (CodeText × Json))
  | [] => .ok members
  | pair :: rest => do
      let (key, value) ← entryPair pair
      match ← entryKey key with
      | some name => addPairs (Entries.insert name value members) rest
      | none => addPairs members rest

def entryMembers : Json → Except Failure (List (CodeText × Json))
  | .object members => .ok members
  | value => do addPairs [] (← elements value)

def partitionsName : CodeText := "partitions"

def addEntry (store : CatalogStore CodeText) (entry : Json) :
    Except Failure (CatalogStore CodeText) := do
  let members ← entryMembers entry
  let raw := (member? partitionsName members).getD (.array [])
  let partitions ← (← elements raw).mapM partitionRecord.read
  let table ← tableRecord.read (.object (members.filter (·.1 != partitionsName)))
  return store.add table partitions

def toCatalog : Json → Except Failure (CatalogStore CodeText)
  | .object members => do
      let entries ← elements ((member? "tables" members).getD (.array []))
      entries.foldlM addEntry .empty
  | _ => .error (.foreign .noMembers)

def wrapFailure (path : CodeText) : Failure → Failure
  | .foreign .wrongValue => .foreign .wrongValue
  | failure => .catalogInvalid path failure

/-- Catalog of a text found at a path. What is too long or nested too deep is passed on as it is. -/
def ofText (nesting : Json.Nesting) (path : CodeText) (text : String) :
    Except Failure (CatalogStore CodeText) :=
  match Json.read nesting (String.ofList (unifyLineEnds text.toList)) with
  | .error .integerTooLong => .error (.foreign .wrongValue)
  | .error .nestedTooDeep => .error (.foreign .tooDeep)
  | .error fault => .error (.catalogUnreadable path (.ofReadFault fault))
  | .ok document => (toCatalog document).mapError (wrapFailure path)

def ofFile (nesting : Json.Nesting) (path : CodeText) :
    Except DiskFault ByteArray → Except Failure (CatalogStore CodeText)
  | .error fault => .error (.catalogUnreadable path (.foreign (.disk fault)))
  | .ok bytes =>
      match String.fromUTF8? bytes with
      | some text => ofText nesting path text
      | none => .error (.foreign .undecodable)

end OrcConversion.CatalogDocument
