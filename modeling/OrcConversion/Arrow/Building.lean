import OrcConversion.Arrow.DataType
import OrcConversion.Number.Word

/-! Building types and fields from parts that are built already. -/

namespace OrcConversion.Arrow

open Number

inductive BuildFault where
  | unacceptable
  | tooLarge
deriving DecidableEq, Repr

def TimeUnit.isCoarse : TimeUnit → Bool
  | second | millisecond => true
  | microsecond | nanosecond => false

def DecimalWidth.maxPrecision : DecimalWidth → Int
  | bits32 => 9
  | bits64 => 18
  | bits128 => 38
  | bits256 => 76

def DataType.isNull : DataType → Bool
  | .scalar .null => true
  | _ => false

theorem DataType.isNull_iff {type : DataType} : type.isNull = true ↔ type = .scalar .null := by
  unfold isNull
  split <;> simp_all

/-- A value that can be had on some condition. -/
def acceptable (condition : Bool) (value : α) : Except BuildFault α :=
  if condition then .ok value else .error .unacceptable

@[simp] theorem acceptable_eq_ok {condition : Bool} {value result : α} :
    acceptable condition value = .ok result ↔ condition = true ∧ value = result := by
  cases condition <;> simp [acceptable]

@[simp] theorem acceptable_eq_error {condition : Bool} {value : α} {fault : BuildFault} :
    acceptable condition value = .error fault ↔ condition = false ∧ fault = .unacceptable := by
  cases condition <;> simp [acceptable, eq_comm]

/-- A value with parameters that are signed words of some size. -/
def fitting (bits : Nat) (parameters : List Int) (value : Except BuildFault α) :
    Except BuildFault α :=
  if parameters.all (fitsSigned bits) then value else .error .tooLarge

def DataType.build : DataType → Except BuildFault DataType
  | .time32 unit => acceptable unit.isCoarse (.time32 unit)
  | .time64 unit => acceptable (!unit.isCoarse) (.time64 unit)
  | .decimal width precision scale =>
      fitting 32 [precision, scale] <|
        acceptable (1 ≤ precision && precision ≤ width.maxPrecision)
          (.decimal width precision scale)
  | .fixedBinary size =>
      fitting 32 [size] (.ok (if size = -1 then .scalar .binary else .fixedBinary size))
  | .list (.fixed size) item =>
      fitting 32 [size] <|
        acceptable (-1 ≤ size) (.list (if size = -1 then .plain else .fixed size) item)
  | .map key item entries sorted =>
      acceptable (!key.type.isNull) (.map key item entries sorted)
  | .union mode codes fields =>
      fitting 8 (codes.map Int.ofNat) <|
        acceptable (codes.length == fields.length) (.union mode codes fields)
  | type => .ok type

/-- A field with its type checked against its being nullable. -/
def Field.build (field : Field) : Except BuildFault Field :=
  acceptable (field.nullable || !field.type.isNull) field

end OrcConversion.Arrow
