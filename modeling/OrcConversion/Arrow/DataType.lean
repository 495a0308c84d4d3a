import OrcConversion.OrderedMap

/-! Arrow types and fields, and their text. -/

namespace OrcConversion.Arrow

-- Whatever else is imported, bytes are compared in one way.
instance (priority := 2000) byteArrayDecidableEq : DecidableEq ByteArray :=
  ByteArray.instDecidableEq

inductive TimeUnit where
  | second
  | millisecond
  | microsecond
  | nanosecond
deriving DecidableEq, Repr

inductive Scalar where
  | null
  | boolean
  | int8
  | int16
  | int32
  | int64
  | uint8
  | uint16
  | uint32
  | uint64
  | float16
  | float32
  | float64
  | string
  | largeString
  | stringView
  | binary
  | largeBinary
  | binaryView
  | date32
  | date64
  | monthInterval
  | dayTimeInterval
  | interval
deriving DecidableEq, Repr

/-- Types of the indices of a dictionary. -/
inductive IndexType where
  | int8
  | int16
  | int32
  | int64
  | uint8
  | uint16
  | uint32
  | uint64
deriving DecidableEq, Repr

def IndexType.scalar : IndexType → Scalar
  | int8 => .int8
  | int16 => .int16
  | int32 => .int32
  | int64 => .int64
  | uint8 => .uint8
  | uint16 => .uint16
  | uint32 => .uint32
  | uint64 => .uint64

/-- Types of the places where runs end. -/
inductive RunEndType where
  | int16
  | int32
  | int64
deriving DecidableEq, Repr

def RunEndType.scalar : RunEndType → Scalar
  | int16 => .int16
  | int32 => .int32
  | int64 => .int64

inductive DecimalWidth where
  | bits32
  | bits64
  | bits128
  | bits256
deriving DecidableEq, Repr

inductive ListLayout where
  | plain
  | large
  | view
  | largeView
  | fixed (size : Int)
deriving DecidableEq, Repr

inductive UnionMode where
  | dense
  | sparse
deriving DecidableEq, Repr

mutual

inductive DataType where
  | scalar (type : Scalar)
  /-- An empty zone is that of local time. -/
  | timestamp (unit : TimeUnit) (zone : String)
  | time32 (unit : TimeUnit)
  | time64 (unit : TimeUnit)
  | duration (unit : TimeUnit)
  | decimal (width : DecimalWidth) (precision scale : Int)
  | fixedBinary (size : Int)
  | list (layout : ListLayout) (item : Field)
  /-- The pairs of a key and an item have a name too. -/
  | map (key item : Field) (entries : String) (sorted : Bool)
  | dictionary (index : IndexType) (value : DataType) (ordered : Bool)
  | runEndEncoded (runEnd : RunEndType) (value : DataType)
  | struct (fields : List Field)
  | union (mode : UnionMode) (codes : List Nat) (fields : List Field)
  /-- A type that is told from others by its text alone. -/
  | extension (text : String) (storage : DataType)

inductive Field where
  | mk (name : String) (type : DataType) (nullable : Bool)
      (metadata : OrderedMap ByteArray ByteArray)

end

abbrev Schema := List Field

namespace Field

def name : Field → String
  | mk name _ _ _ => name

def type : Field → DataType
  | mk _ type _ _ => type

def nullable : Field → Bool
  | mk _ _ nullable _ => nullable

def metadata : Field → OrderedMap ByteArray ByteArray
  | mk _ _ _ metadata => metadata

@[simp] theorem name_mk (name : String) (type : DataType) (nullable : Bool)
    (metadata : OrderedMap ByteArray ByteArray) :
    (mk name type nullable metadata).name = name := rfl

@[simp] theorem type_mk (name : String) (type : DataType) (nullable : Bool)
    (metadata : OrderedMap ByteArray ByteArray) :
    (mk name type nullable metadata).type = type := rfl

@[simp] theorem nullable_mk (name : String) (type : DataType) (nullable : Bool)
    (metadata : OrderedMap ByteArray ByteArray) :
    (mk name type nullable metadata).nullable = nullable := rfl

@[simp] theorem metadata_mk (name : String) (type : DataType) (nullable : Bool)
    (metadata : OrderedMap ByteArray ByteArray) :
    (mk name type nullable metadata).metadata = metadata := rfl

end Field

/-- A list whose items are named as usual. -/
def DataType.listOf (layout : ListLayout) (item : DataType) : DataType :=
  .list layout (.mk "item" item true .empty)

/-- A map whose keys, items and entries are named as usual. -/
def DataType.mapOf (key item : DataType) : DataType :=
  .map (.mk "key" key false .empty) (.mk "value" item true .empty) "entries" false

/-! ## Text -/

def TimeUnit.text : TimeUnit → String
  | second => "s"
  | millisecond => "ms"
  | microsecond => "us"
  | nanosecond => "ns"

def Scalar.text : Scalar → String
  | null => "null"
  | boolean => "bool"
  | int8 => "int8"
  | int16 => "int16"
  | int32 => "int32"
  | int64 => "int64"
  | uint8 => "uint8"
  | uint16 => "uint16"
  | uint32 => "uint32"
  | uint64 => "uint64"
  | float16 => "halffloat"
  | float32 => "float"
  | float64 => "double"
  | string => "string"
  | largeString => "large_string"
  | stringView => "string_view"
  | binary => "binary"
  | largeBinary => "large_binary"
  | binaryView => "binary_view"
  | date32 => "date32[day]"
  | date64 => "date64[ms]"
  | monthInterval => "month_interval"
  | dayTimeInterval => "day_time_interval"
  | interval => "month_day_nano_interval"

def DecimalWidth.text : DecimalWidth → String
  | bits32 => "decimal32"
  | bits64 => "decimal64"
  | bits128 => "decimal128"
  | bits256 => "decimal256"

def ListLayout.wrap (item : String) : ListLayout → String
  | plain => "list<" ++ item ++ ">"
  | large => "large_list<" ++ item ++ ">"
  | view => "list_view<" ++ item ++ ">"
  | largeView => "large_list_view<" ++ item ++ ">"
  | fixed size => "fixed_size_list<" ++ item ++ ">[" ++ toString size ++ "]"

def UnionMode.text : UnionMode → String
  | dense => "dense_union"
  | sparse => "sparse_union"

def fieldText (name type : String) (nullable : Bool) : String :=
  name ++ ": " ++ type ++ (if nullable then "" else " not null")

/-- A name, unless it is the usual one. -/
def unusual (usual name : String) : String :=
  if name = usual then "" else " ('" ++ name ++ "')"

mutual

def DataType.text : DataType → String
  | .scalar type => type.text
  | .timestamp unit zone =>
      "timestamp[" ++ unit.text ++ (if zone.isEmpty then "" else ", tz=" ++ zone) ++ "]"
  | .time32 unit => "time32[" ++ unit.text ++ "]"
  | .time64 unit => "time64[" ++ unit.text ++ "]"
  | .duration unit => "duration[" ++ unit.text ++ "]"
  | .decimal width precision scale =>
      width.text ++ "(" ++ toString precision ++ ", " ++ toString scale ++ ")"
  | .fixedBinary size => "fixed_size_binary[" ++ toString size ++ "]"
  | .list layout (.mk name item nullable _) => layout.wrap (fieldText name item.text nullable)
  | .map (.mk keyName key _ _) (.mk itemName item _ _) entries sorted =>
      "map<" ++ key.text ++ unusual "key" keyName ++ ", " ++ item.text ++
        unusual "value" itemName ++ (if sorted then ", keys_sorted" else "") ++
        unusual "entries" entries ++ ">"
  | .dictionary index value ordered =>
      "dictionary<values=" ++ value.text ++ ", indices=" ++ index.scalar.text ++ ", ordered=" ++
        (if ordered then "1" else "0") ++ ">"
  | .runEndEncoded runEnd value =>
      "run_end_encoded<run_ends: " ++ runEnd.scalar.text ++ ", values: " ++ value.text ++ ">"
  | .struct fields => "struct<" ++ ", ".intercalate (fieldTexts fields) ++ ">"
  | .union mode codes fields =>
      mode.text ++ "<" ++ ", ".intercalate
        (List.zipWith (fun field code => field ++ "=" ++ toString code) (fieldTexts fields)
          codes) ++ ">"
  | .extension text _ => text

def fieldTexts : List Field → List String
  | [] => []
  | .mk name type nullable _ :: fields =>
      fieldText name type.text nullable :: fieldTexts fields

end

end OrcConversion.Arrow
