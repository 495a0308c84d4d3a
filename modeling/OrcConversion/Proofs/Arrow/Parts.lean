import OrcConversion.Arrow.DataType

/-! Parts of a type, and where they are. -/

namespace OrcConversion.Arrow

/-- The types right inside a type, from left to right. Views of lists, run-end encoded values,
unions and what extension types are stored as are not looked into. -/
def DataType.parts : DataType → List DataType
  | .dictionary _ value _ => [value]
  | .list .plain item => [item.type]
  | .list .large item => [item.type]
  | .list (.fixed _) item => [item.type]
  | .map key item _ _ => [key.type, item.type]
  | .struct fields => fields.map Field.type
  | _ => []

/-- What is found at a place of a type. -/
inductive PartAt : DataType → List Nat → DataType → Prop where
  | whole (type : DataType) : PartAt type [] type
  | inside {type inner part : DataType} {step : Nat} {place : List Nat} :
      type.parts[step]? = some inner → PartAt inner place part → PartAt type (step :: place) part

/-- Reading order of places: what stands around precedes what is in it, and what is to the left
precedes what is to the right. -/
def Precedes : List Nat → List Nat → Prop :=
  List.Lex (· < ·)

theorem Precedes.asymm {left right : List Nat} (h : Precedes left right) : ¬ Precedes right left :=
  List.lex_asymm Nat.lt_asymm h

/-- All parts of a type have a property, the type itself among them. -/
def Everywhere (property : DataType → Prop) (type : DataType) : Prop :=
  ∀ place part, PartAt type place part → property part

section

variable {type inner part other : DataType} {place : List Nat}

theorem PartAt.unique (h : PartAt type place part) (hother : PartAt type place other) :
    part = other := by
  induction h with
  | whole type =>
      cases hother
      rfl
  | inside hstep _ ih =>
      cases hother with
      | inside hsame hother =>
          cases hstep.symm.trans hsame
          exact ih hother

theorem PartAt.of_mem (hinner : inner ∈ type.parts) (h : PartAt inner place part) :
    ∃ step, PartAt type (step :: place) part := by
  obtain ⟨step, hstep⟩ := List.mem_iff_getElem?.mp hinner
  exact ⟨step, .inside hstep h⟩

theorem everywhere_iff {property : DataType → Prop} : Everywhere property type ↔
    property type ∧ ∀ part ∈ type.parts, Everywhere property part := by
  constructor
  · intro h
    refine ⟨h [] type (.whole type), ?_⟩
    intro inner hinner place part hpart
    obtain ⟨step, hstep⟩ := hpart.of_mem hinner
    exact h _ part hstep
  · rintro ⟨htype, hparts⟩ place part hpart
    cases hpart with
    | whole => exact htype
    | inside hstep hpart => exact hparts _ (List.mem_of_getElem? hstep) _ part hpart

theorem Field.sizeOf_type_lt (field : Field) : sizeOf field.type < sizeOf field := by
  obtain ⟨name, type, nullable, metadata⟩ := field
  rw [Field.mk.sizeOf_spec, Field.type_mk]
  omega

theorem sizeOf_lt_of_mem_fields {field : Field} {fields : List Field} (h : field ∈ fields) :
    sizeOf field.type < sizeOf (DataType.struct fields) := by
  have hfield := List.sizeOf_lt_of_mem h
  have htype := field.sizeOf_type_lt
  rw [DataType.struct.sizeOf_spec]
  omega

theorem sizeOf_lt_of_mem_parts (h : part ∈ type.parts) : sizeOf part < sizeOf type := by
  cases type with
  | dictionary index value ordered =>
      cases List.mem_singleton.mp h
      rw [DataType.dictionary.sizeOf_spec]
      omega
  | list layout item =>
      have hitem : part = item.type := by
        cases layout with
        | plain => exact List.mem_singleton.mp h
        | large => exact List.mem_singleton.mp h
        | fixed size => exact List.mem_singleton.mp h
        | view => cases h
        | largeView => cases h
      have hsize := item.sizeOf_type_lt
      rw [hitem, DataType.list.sizeOf_spec]
      omega
  | map key item entries sorted =>
      have hkey := key.sizeOf_type_lt
      have hitem := item.sizeOf_type_lt
      rw [DataType.map.sizeOf_spec]
      rcases List.mem_cons.mp h with rfl | h
      · omega
      · cases List.mem_singleton.mp h
        omega
  | struct fields =>
      obtain ⟨field, hfield, rfl⟩ := List.mem_map.mp h
      exact sizeOf_lt_of_mem_fields hfield
  | scalar | timestamp | time32 | time64 | duration | decimal | fixedBinary | runEndEncoded
  | union | extension => cases h

end

/-- What holds of a type if it holds of all that is right inside it holds of all types. -/
@[elab_as_elim]
theorem partsInduction {motive : DataType → Prop}
    (step : ∀ type : DataType, (∀ part ∈ type.parts, motive part) → motive type)
    (type : DataType) : motive type :=
  step type fun part _ => partsInduction step part
termination_by sizeOf type
decreasing_by exact sizeOf_lt_of_mem_parts ‹_›

end OrcConversion.Arrow
