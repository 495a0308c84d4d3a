import OrcConversion.Arrow.DataType

/-! Hive columns and the Hive types of Arrow types. -/

namespace OrcConversion.Hive

open Arrow

/-- Records are of texts of characters, or of code points where they have just been read. -/
structure Column (τ : Type := String) where
  name : τ
  type : τ
deriving DecidableEq, Repr

def Column.map (f : τ → υ) (column : Column τ) : Column υ := ⟨f column.name, f column.type⟩

def scalarType? : Scalar → Option String
  | .null => some "void"
  | .boolean => some "boolean"
  | .int8 => some "tinyint"
  | .int16 => some "smallint"
  | .int32 => some "int"
  | .int64 => some "bigint"
  | .uint8 => some "smallint"
  | .uint16 => some "int"
  | .uint32 => some "bigint"
  | .uint64 => some "bigint"
  | .float16 => some "float"
  | .float32 => some "float"
  | .float64 => some "double"
  | .string => some "string"
  | .largeString => some "string"
  | .binary => some "binary"
  | .largeBinary => some "binary"
  | .date32 => some "date"
  | .date64 => some "date"
  | .stringView => none
  | .binaryView => none
  | .monthInterval => none
  | .dayTimeInterval => none
  | .interval => none

def hasArray : ListLayout → Bool
  | .plain => true
  | .large => true
  | .fixed _ => true
  | .view => false
  | .largeView => false

mutual

/-- Hive type of an Arrow type, or the first type in it that has none. -/
def typeOf : DataType → Except DataType String
  | .scalar type =>
      match scalarType? type with
      | some hive => .ok hive
      | none => .error (.scalar type)
  | .timestamp _ _ => .ok "timestamp"
  | .time32 unit => .error (.time32 unit)
  | .time64 unit => .error (.time64 unit)
  | .duration unit => .error (.duration unit)
  | .decimal _ precision scale =>
      .ok ("decimal(" ++ toString precision ++ "," ++ toString scale ++ ")")
  | .fixedBinary _ => .ok "binary"
  | .list layout (.mk name item nullable metadata) =>
      if hasArray layout then do
        return "array<" ++ (← typeOf item) ++ ">"
      else .error (.list layout (.mk name item nullable metadata))
  | .map (.mk _ key _ _) (.mk _ item _ _) _ _ => do
      let keyType ← typeOf key
      let itemType ← typeOf item
      return "map<" ++ keyType ++ "," ++ itemType ++ ">"
  | .dictionary _ value _ => typeOf value
  | .runEndEncoded runEnd value => .error (.runEndEncoded runEnd value)
  | .struct fields => do
      return "struct<" ++ ",".intercalate (← memberTypes fields) ++ ">"
  | .union mode codes fields => .error (.union mode codes fields)
  | .extension text storage => .error (.extension text storage)

def memberTypes : List Field → Except DataType (List String)
  | [] => .ok []
  | .mk name type _ _ :: fields => do
      let member := name ++ ":" ++ (← typeOf type)
      return member :: (← memberTypes fields)

end

def columnsOf (schema : Schema) : Except DataType (List Column) :=
  schema.mapM fun field => do return ⟨field.name, ← typeOf field.type⟩

end OrcConversion.Hive
