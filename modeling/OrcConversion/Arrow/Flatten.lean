import OrcConversion.Arrow.Building

/-! Flattening of nested structs into top-level columns. -/

namespace OrcConversion.Arrow

def sourcePathKey : ByteArray := "orcbridge:source_path".toUTF8

def flatSeparator : String := "__"

def flatColumn (path : List String) (type : DataType) (nullable : Bool) :
    Except BuildFault Field :=
  (Field.mk (flatSeparator.intercalate path) type nullable
    (.ofList [(sourcePathKey, (".".intercalate path).toUTF8)])).build

mutual

/-- Columns of a field that stands below the path `above`. `nullable` tells whether an enclosing
struct is nullable. -/
def Field.flatten (above : List String) (nullable : Bool) :
    Field → Except BuildFault (List Field)
  | .mk name type own metadata =>
      match type with
      | .struct fields => flattenFields (above ++ [name]) (nullable || own) fields
      | _ =>
          if above.isEmpty then .ok [.mk name type own metadata]
          else (flatColumn (above ++ [name]) type (nullable || own)).map ([·])

def flattenFields (above : List String) (nullable : Bool) :
    List Field → Except BuildFault (List Field)
  | [] => .ok []
  | field :: fields => do
      let columns ← field.flatten above nullable
      return columns ++ (← flattenFields above nullable fields)

end

def Schema.flatten (schema : Schema) : Except BuildFault Schema :=
  flattenFields [] false schema

/-- Dotted path of the source of a column: the recorded one, or else its name. What is recorded need
not be the bytes of a text. -/
def Field.sourcePath (field : Field) : Option String :=
  match field.metadata.lookup? sourcePathKey with
  | some bytes => String.fromUTF8? bytes
  | none => some field.name

end OrcConversion.Arrow
