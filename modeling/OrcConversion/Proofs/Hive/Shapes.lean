import OrcConversion.Hive.Column
import OrcConversion.Proofs.Arrow.Parts
import OrcConversion.Proofs.Result

/-! Shapes of Hive types. -/

namespace OrcConversion.Hive

open Arrow

inductive Primitive where
  | void
  | boolean
  | tinyint
  | smallint
  | int
  | bigint
  | float
  | double
  | string
  | binary
  | date
  | timestamp
deriving DecidableEq

def Primitive.text : Primitive → String
  | void => "void"
  | boolean => "boolean"
  | tinyint => "tinyint"
  | smallint => "smallint"
  | int => "int"
  | bigint => "bigint"
  | float => "float"
  | double => "double"
  | string => "string"
  | binary => "binary"
  | date => "date"
  | timestamp => "timestamp"

mutual

inductive Shape where
  | primitive (word : Primitive)
  | decimal (precision scale : Int)
  | array (item : Shape)
  | map (key item : Shape)
  | struct (members : Members)

/-- Members of a struct from left to right. -/
inductive Members where
  | nil
  | cons (name : String) (shape : Shape) (rest : Members)

end

mutual

def Shape.text : Shape → String
  | .primitive word => word.text
  | .decimal precision scale =>
      "decimal(" ++ toString precision ++ "," ++ toString scale ++ ")"
  | .array item => "array<" ++ item.text ++ ">"
  | .map key item => "map<" ++ key.text ++ "," ++ item.text ++ ">"
  | .struct members => "struct<" ++ ",".intercalate members.texts ++ ">"

def Members.texts : Members → List String
  | .nil => []
  | .cons name shape rest => (name ++ ":" ++ shape.text) :: rest.texts

end

/-! ## Shapes of Arrow types -/

def primitive? : Scalar → Option Primitive
  | .null => some .void
  | .boolean => some .boolean
  | .int8 => some .tinyint
  | .int16 | .uint8 => some .smallint
  | .int32 | .uint16 => some .int
  | .int64 | .uint32 | .uint64 => some .bigint
  | .float16 | .float32 => some .float
  | .float64 => some .double
  | .string | .largeString => some .string
  | .binary | .largeBinary => some .binary
  | .date32 | .date64 => some .date
  | .stringView | .binaryView | .monthInterval | .dayTimeInterval | .interval => none

mutual

/-- Shape of an Arrow type, if all of it has Hive counterparts. -/
def shape? : DataType → Option Shape
  | .scalar type => (primitive? type).map .primitive
  | .timestamp _ _ => some (.primitive .timestamp)
  | .decimal _ precision scale => some (.decimal precision scale)
  | .fixedBinary _ => some (.primitive .binary)
  | .list layout (.mk _ item _ _) =>
      if hasArray layout then (shape? item).map .array else none
  | .map (.mk _ key _ _) (.mk _ item _ _) _ _ => do return .map (← shape? key) (← shape? item)
  | .dictionary _ value _ => shape? value
  | .struct fields => (memberShapes? fields).map .struct
  | .time32 _ | .time64 _ | .duration _ | .runEndEncoded _ _ | .union _ _ _ | .extension _ _ => none

def memberShapes? : List Field → Option Members
  | [] => some .nil
  | .mk name type _ _ :: fields => do
      return .cons name (← shape? type) (← memberShapes? fields)

end

mutual

theorem toOption_typeOf : ∀ type : DataType,
    (typeOf type).toOption = (shape? type).map Shape.text
  | .scalar type => by cases type <;> rfl
  | .timestamp _ _ | .decimal _ _ _ | .fixedBinary _ => rfl
  | .time32 _ | .time64 _ | .duration _ | .runEndEncoded _ _ | .union _ _ _ | .extension _ _ => rfl
  | .list layout (.mk _ item _ _) => by
      by_cases h : hasArray layout = true
      · rw [typeOf, if_pos h, shape?, if_pos h, Except.toOption_bind, toOption_typeOf item]
        cases shape? item <;> rfl
      · rw [typeOf, if_neg h, shape?, if_neg h]
        rfl
  | .map (.mk _ key _ _) (.mk _ item _ _) _ _ => by
      rw [typeOf, shape?]
      simp only [Except.toOption_bind, toOption_typeOf key, toOption_typeOf item]
      cases shape? key <;> cases shape? item <;> rfl
  | .dictionary _ value _ => by
      rw [typeOf, shape?, toOption_typeOf value]
  | .struct fields => by
      rw [typeOf, shape?, Except.toOption_bind, toOption_memberTypes fields]
      cases memberShapes? fields <;> rfl

theorem toOption_memberTypes : ∀ fields : List Field,
    (memberTypes fields).toOption = (memberShapes? fields).map Members.texts
  | [] => rfl
  | field :: fields => by
      obtain ⟨name, type, nullable, metadata⟩ := field
      rw [memberTypes, memberShapes?]
      simp only [Except.toOption_bind, toOption_typeOf type, toOption_memberTypes fields]
      cases shape? type <;> cases memberShapes? fields <;> rfl

end

theorem exists_shape_of_typeOf {type : DataType} {text : String} (h : typeOf type = .ok text) :
    ∃ shape, shape? type = some shape ∧ shape.text = text := by
  rw [← Except.toOption_eq_some, toOption_typeOf] at h
  exact Option.map_eq_some_iff.mp h

/-! ## Names of members -/

/-- A name without the marks that stand around and between types. -/
def PlainName (name : String) : Prop :=
  ∀ mark ∈ ['<', '>', ',', ':'], mark ∉ name.toList

/-- Names of the fields right inside a struct. -/
def memberNames : DataType → List String
  | .struct fields => fields.map Field.name
  | _ => []

/-- No struct in a type has a field with a mark in its name. -/
def PlainlyNamed : DataType → Prop :=
  Everywhere fun part => ∀ name ∈ memberNames part, PlainName name

section

variable {key item : Field} {value : DataType} {fields : List Field}

theorem plainlyNamed_iff {type : DataType} : PlainlyNamed type ↔
    (∀ name ∈ memberNames type, PlainName name) ∧ ∀ part ∈ type.parts, PlainlyNamed part :=
  everywhere_iff

@[simp] theorem plainlyNamed_scalar (type : Scalar) : PlainlyNamed (.scalar type) := by
  rw [plainlyNamed_iff]
  exact ⟨List.forall_mem_nil _, List.forall_mem_nil _⟩

@[simp] theorem plainlyNamed_map {entries : String} {sorted : Bool} :
    PlainlyNamed (.map key item entries sorted) ↔
      PlainlyNamed key.type ∧ PlainlyNamed item.type := by
  rw [plainlyNamed_iff]
  simp [memberNames, DataType.parts]

@[simp] theorem plainlyNamed_dictionary {index : IndexType} {ordered : Bool} :
    PlainlyNamed (.dictionary index value ordered) ↔ PlainlyNamed value := by
  rw [plainlyNamed_iff]
  simp [memberNames, DataType.parts]

@[simp] theorem plainlyNamed_struct : PlainlyNamed (.struct fields) ↔
    (∀ field ∈ fields, PlainName field.name) ∧ ∀ field ∈ fields, PlainlyNamed field.type := by
  rw [plainlyNamed_iff]
  simp [memberNames, DataType.parts]

theorem plainlyNamed_list {layout : ListLayout} (h : hasArray layout = true) :
    PlainlyNamed (.list layout item) ↔ PlainlyNamed item.type := by
  rw [plainlyNamed_iff]
  cases layout with
  | view | largeView => cases h
  | plain | large | fixed => simp [memberNames, DataType.parts]

end

mutual

def Shape.Plain : Shape → Prop
  | .primitive _ | .decimal _ _ => True
  | .array item => item.Plain
  | .map key item => key.Plain ∧ item.Plain
  | .struct members => members.Plain

def Members.Plain : Members → Prop
  | .nil => True
  | .cons name shape rest => PlainName name ∧ shape.Plain ∧ rest.Plain

end

mutual

theorem plain_of_shape? : ∀ {type : DataType} {shape : Shape}, PlainlyNamed type →
    shape? type = some shape → shape.Plain
  | .scalar type, shape, _, h => by
      obtain ⟨word, -, rfl⟩ := Option.map_eq_some_iff.mp h
      trivial
  | .timestamp _ _, _, _, h | .decimal _ _ _, _, _, h | .fixedBinary _, _, _, h => by
      cases h
      trivial
  | .list layout (.mk _ item _ _), shape, hnamed, h => by
      rw [shape?] at h
      split at h
      case isTrue harray =>
        obtain ⟨inner, hinner, rfl⟩ := Option.map_eq_some_iff.mp h
        have hplain : inner.Plain :=
          plain_of_shape? ((plainlyNamed_list harray).mp hnamed) hinner
        exact hplain
      case isFalse => cases h
  | .map (.mk _ key _ _) (.mk _ item _ _) _ _, shape, hnamed, h => by
      obtain ⟨hkeyNames, hitemNames⟩ := plainlyNamed_map.mp hnamed
      obtain ⟨keyShape, hkey, h⟩ := Option.bind_eq_some_iff.mp h
      obtain ⟨itemShape, hitem, h⟩ := Option.bind_eq_some_iff.mp h
      cases h
      exact ⟨plain_of_shape? hkeyNames hkey, plain_of_shape? hitemNames hitem⟩
  | .dictionary _ value _, shape, hnamed, h =>
      plain_of_shape? (plainlyNamed_dictionary.mp hnamed) h
  | .struct fields, shape, hnamed, h => by
      obtain ⟨hnames, htypes⟩ := plainlyNamed_struct.mp hnamed
      obtain ⟨members, hmembers, rfl⟩ := Option.map_eq_some_iff.mp h
      exact plain_of_memberShapes? hnames htypes hmembers

theorem plain_of_memberShapes? : ∀ {fields : List Field} {members : Members},
    (∀ field ∈ fields, PlainName field.name) → (∀ field ∈ fields, PlainlyNamed field.type) →
    memberShapes? fields = some members → members.Plain
  | [], members, _, _, h => by
      cases h
      trivial
  | .mk name type _ _ :: fields, members, hnames, htypes, h => by
      obtain ⟨hname, hnames⟩ := List.forall_mem_cons.mp hnames
      obtain ⟨htype, htypes⟩ := List.forall_mem_cons.mp htypes
      obtain ⟨shape, hshape, h⟩ := Option.bind_eq_some_iff.mp h
      obtain ⟨rest, hrest, h⟩ := Option.bind_eq_some_iff.mp h
      cases h
      exact ⟨hname, plain_of_shape? htype hshape, plain_of_memberShapes? hnames htypes hrest⟩

end

end OrcConversion.Hive
