import OrcConversion.Arrow.Building
import OrcConversion.Raw.Records

/-! Raw forms of Arrow types and schemas. -/

namespace OrcConversion.Raw

open Arrow Text

def byText (text : α → String) (values : List α) : List (String × α) :=
  values.map fun value => (text value, value)

def timeUnits : List (String × TimeUnit) :=
  byText TimeUnit.text [.second, .millisecond, .microsecond, .nanosecond]

/-- Types without parameters; some of them have a shorter name than their text. -/
def scalars : List (String × Scalar) :=
  byText Scalar.text [.boolean, .null, .string, .largeString, .binary, .largeBinary, .stringView,
    .binaryView, .int8, .int16, .int32, .int64, .uint8, .uint16, .uint32, .uint64] ++
  [("date32", .date32), ("date64", .date64), ("interval", .interval), ("float16", .float16),
    ("float32", .float32), ("float64", .float64)]

def decimalWidths : List (String × DecimalWidth) :=
  byText DecimalWidth.text [.bits32, .bits64, .bits128, .bits256]

def listLayouts : List (String × ListLayout) :=
  [("list", .plain), ("large_list", .large), ("list_view", .view), ("large_list_view", .largeView)]

def choice (choices : List (String × α)) (name : CodeText) : Except Failure α :=
  match name.toString?.bind (Entries.lookup? · choices) with
  | some value => .ok value
  | none => .error (.foreign .wrongValue)

/-- Schemas keep texts as bytes, which halves of pairs have none of. -/
def encodable (text : CodeText) : Except Failure String :=
  match text.toString? with
  | some text => .ok text
  | none => .error (.foreign .unencodable)

def timeUnit (value : Json) : Except Failure TimeUnit := do
  choice timeUnits (← string.read value)

def uuid : DataType := .extension "extension<arrow.uuid>" (.fixedBinary 16)

/-- A union whose fields are told apart by their positions. -/
def unionOf (mode : UnionMode) (fields : List Arrow.Field) : DataType :=
  .union mode (List.range fields.length) fields

/-- Map written as a list of pairs of texts; null is the empty one. -/
def pairs : Json → Except Failure (OrderedMap CodeText CodeText)
  | .null => .ok .empty
  | .array items => OrderedMap.ofList <$> items.mapM fun
      | .array [.string key, value] => return (key, ← string.read value)
      | _ => .error (.foreign .wrongType)
  | _ => .error (.foreign .wrongType)

def built (result : Except BuildFault α) : Except Failure α :=
  result.mapError .ofBuildFault

mutual

def readType : Json → Except Failure DataType
  | .object [(name, value)] => do
      let type ← match name.toString?.getD "", value with
        | "timestamp", .array [unit, zone] =>
            let zone := (← (optional string).read zone).getD ""
            pure (.timestamp (← timeUnit unit) (← encodable zone))
        | "timestamp", unit => pure (.timestamp (← timeUnit unit) "")
        | "time32", unit => DataType.time32 <$> timeUnit unit
        | "time64", unit => .time64 <$> timeUnit unit
        | "duration", unit => .duration <$> timeUnit unit
        | "fixed_size_list", .array [item, .integer size] =>
            .listOf (.fixed size) <$> readType item
        | "fixed_size_binary", .integer size => .ok (.fixedBinary size)
        | "map", .array [key, item] => do pure (.mapOf (← readType key) (← readType item))
        | "dictionary", item => do pure (.dictionary .int32 (← readType item) false)
        | "run_end_encoded", item => .runEndEncoded .int32 <$> readType item
        | "struct", .array items => .struct <$> readFields items
        | "dense_union", .array items => unionOf .dense <$> readFields items
        | "sparse_union", .array items => unionOf .sparse <$> readFields items
        | _, .array [.integer precision, .integer scale] =>
            pure (.decimal (← choice decimalWidths name) precision scale)
        | _, item => do pure (.listOf (← choice listLayouts name) (← readType item))
      built type.build
  | .string name =>
      if name = .ofString "uuid" then .ok uuid else .scalar <$> choice scalars name
  | _ => .error (.foreign .wrongType)

def readFields : List Json → Except Failure (List Field)
  | [] => .ok []
  | item :: items => return (← readField item) :: (← readFields items)

def readField : Json → Except Failure Field
  | .array [.string name, type] => do
      built (Arrow.Field.mk (← encodable name) (← readType type) true .empty).build
  | .object entries => do
      let member (name : CodeText) := member? name entries
      let nullable ← flag.read ((member "nullable").getD (.bool true))
      let name ← encodable (← string.read ((member "name").getD .null))
      let type ← typeMember entries
      let metadata ← pairs ((member "metadata").getD .null)
      let metadata ← metadata.entries.mapM fun (key, value) => do
        return ((← encodable key).toUTF8, (← encodable value).toUTF8)
      built (Arrow.Field.mk name type nullable (.ofList metadata)).build
  | _ => .error (.foreign .wrongType)

def typeMember : List (CodeText × Json) → Except Failure DataType
  | [] => .error (.foreign .wrongType)
  | (name, value) :: entries =>
      if name = .ofString "type" then readType value else typeMember entries

end

def readSchema : Json → Except Failure Schema
  | .array items => readFields items
  | _ => .error (.foreign .wrongType)

end OrcConversion.Raw
