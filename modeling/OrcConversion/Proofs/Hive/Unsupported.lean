import OrcConversion.Conversion.Staging
import OrcConversion.Proofs.Arrow.Parts
import OrcConversion.Proofs.Result

/-! Types that are refused, and the part that is blamed. -/

namespace OrcConversion

open Arrow

/-- A failure of the settings that names a type. -/
structure Failure.Names (failure : Failure) (culprit : DataType) : Prop where
  kind_eq : failure.kind? = some .configuration
  message_eq : ∀ wording,
    failure.message wording = "Unsupported type for ORC conversion: " ++ culprit.text

namespace Hive

/-- Kinds of types without a Hive counterpart, whatever is in them. -/
def lacksCounterpart : DataType → Bool
  | .time32 _ | .time64 _ | .duration _ => true
  | .scalar .monthInterval | .scalar .dayTimeInterval | .scalar .interval => true
  | .scalar .stringView | .scalar .binaryView => true
  | .list .view _ | .list .largeView _ => true
  | .runEndEncoded _ _ | .union _ _ _ | .extension _ _ => true
  | _ => false

/-- No part of a type is without a counterpart. -/
def Convertible : DataType → Prop :=
  Everywhere (lacksCounterpart · = false)

/-- The first part of a type, in reading order, that has no counterpart. -/
structure FirstLacking (type culprit : DataType) : Prop where
  lacks : lacksCounterpart culprit = true
  first : ∃ place, PartAt type place culprit ∧
    ∀ other part, PartAt type other part → lacksCounterpart part = true →
      other = place ∨ Precedes place other

section

variable {type inner culprit other : DataType} {before after : List DataType}

theorem convertible_iff : Convertible type ↔
    lacksCounterpart type = false ∧ ∀ part ∈ type.parts, Convertible part :=
  everywhere_iff

theorem not_convertible_iff : ¬ Convertible type ↔
    ∃ place part, PartAt type place part ∧ lacksCounterpart part = true := by
  simp [Convertible, Everywhere]

theorem FirstLacking.not_convertible (h : FirstLacking type culprit) : ¬ Convertible type := by
  obtain ⟨hlacks, place, hplace, -⟩ := h
  exact not_convertible_iff.mpr ⟨place, culprit, hplace, hlacks⟩

theorem FirstLacking.unique (h : FirstLacking type culprit) (hother : FirstLacking type other) :
    culprit = other := by
  obtain ⟨hlacks, place, hplace, hfirst⟩ := h
  obtain ⟨hotherLacks, otherPlace, hotherPlace, hotherFirst⟩ := hother
  rcases hfirst otherPlace other hotherPlace hotherLacks with rfl | hbefore
  · exact hplace.unique hotherPlace
  · rcases hotherFirst place culprit hplace hlacks with rfl | hafter
    · exact hplace.unique hotherPlace
    · exact absurd hafter hbefore.asymm

theorem firstLacking_self (h : lacksCounterpart type = true) : FirstLacking type type := by
  refine ⟨h, [], .whole type, ?_⟩
  intro other part _ _
  cases other with
  | nil => exact .inl rfl
  | cons step rest => exact .inr .nil

theorem FirstLacking.inside (hlacks : lacksCounterpart type = false)
    (hparts : type.parts = before ++ inner :: after)
    (hbefore : ∀ other ∈ before, Convertible other) (h : FirstLacking inner culprit) :
    FirstLacking type culprit := by
  obtain ⟨hculprit, place, hplace, hfirst⟩ := h
  have hstep : type.parts[before.length]? = some inner := by simp [hparts]
  refine ⟨hculprit, before.length :: place, .inside hstep hplace, ?_⟩
  intro other part hpart hpartLacks
  cases hpart with
  | whole =>
      rw [hlacks] at hpartLacks
      cases hpartLacks
  | @inside _ next _ step rest hnext hpart =>
      rcases Nat.lt_trichotomy before.length step with hright | rfl | hleft
      · exact .inr (.rel hright)
      · cases hstep.symm.trans hnext
        rcases hfirst rest part hpart hpartLacks with rfl | hbehind
        · exact .inl rfl
        · exact .inr (.cons hbehind)
      · rw [hparts, List.getElem?_append_left hleft] at hnext
        have hconvertible := hbefore next (List.mem_of_getElem? hnext) rest part hpart
        rw [hconvertible] at hpartLacks
        cases hpartLacks

end

/-! ## Hive types -/

section

variable {type culprit : DataType}

theorem typeOf_of_lacks (h : lacksCounterpart type = true) : typeOf type = .error type := by
  cases type with
  | scalar type => cases type <;> first | rfl | cases h
  | list layout item =>
      obtain ⟨name, type, nullable, metadata⟩ := item
      cases layout <;> first | rfl | cases h
  | time32 | time64 | duration | runEndEncoded | union | extension => rfl
  | timestamp | decimal | fixedBinary | map | dictionary | struct => cases h

theorem typeOf_list {layout : ListLayout} (item : Field) (h : hasArray layout = true) :
    typeOf (.list layout item) = (typeOf item.type).map ("array<" ++ · ++ ">") := by
  obtain ⟨name, type, nullable, metadata⟩ := item
  rw [typeOf, if_pos h, Field.type_mk]
  cases typeOf type <;> rfl

theorem memberTypes_eq (fields : List Field) : memberTypes fields =
    ((fields.map Field.type).mapM typeOf).map fun texts =>
      List.zipWith (fun field text => field.name ++ ":" ++ text) fields texts := by
  induction fields with
  | nil => rfl
  | cons field fields ih =>
      obtain ⟨name, type, nullable, metadata⟩ := field
      rw [memberTypes, ih, List.map_cons, List.mapM_cons, Field.type_mk]
      cases typeOf type with
      | error culprit => rfl
      | ok text => cases (fields.map Field.type).mapM typeOf <;> rfl

/-- The text of a type with a counterpart is put together from those of its parts. -/
theorem exists_typeOf_eq (h : lacksCounterpart type = false) :
    ∃ assemble : List String → String, typeOf type = (type.parts.mapM typeOf).map assemble := by
  cases type with
  | scalar type =>
      cases type with
      | stringView | binaryView | monthInterval | dayTimeInterval | interval => cases h
      | _ => exact ⟨fun _ => _, rfl⟩
  | timestamp | decimal | fixedBinary => exact ⟨fun _ => _, rfl⟩
  | list layout item =>
      cases layout with
      | view | largeView => cases h
      | plain | large | fixed =>
          refine ⟨fun texts => "array<" ++ texts.headD "" ++ ">", ?_⟩
          rw [typeOf_list item rfl, DataType.parts, List.mapM_cons, List.mapM_nil]
          cases typeOf item.type <;> rfl
  | map key item entries sorted =>
      obtain ⟨keyName, key, keyNullable, keyMetadata⟩ := key
      obtain ⟨itemName, item, itemNullable, itemMetadata⟩ := item
      refine ⟨fun texts => "map<" ++ texts.headD "" ++ "," ++ texts.tail.headD "" ++ ">", ?_⟩
      rw [typeOf, DataType.parts, List.mapM_cons, List.mapM_cons, List.mapM_nil, Field.type_mk,
        Field.type_mk]
      cases typeOf key with
      | error culprit => rfl
      | ok keyType => cases typeOf item <;> rfl
  | dictionary index value ordered =>
      refine ⟨fun texts => texts.headD "", ?_⟩
      rw [typeOf, DataType.parts, List.mapM_cons, List.mapM_nil]
      cases typeOf value <;> rfl
  | struct fields =>
      refine ⟨fun texts => "struct<" ++ ",".intercalate
        (List.zipWith (fun field text => field.name ++ ":" ++ text) fields texts) ++ ">", ?_⟩
      rw [typeOf, DataType.parts, memberTypes_eq]
      cases (fields.map Field.type).mapM typeOf <;> rfl
  | time32 | time64 | duration | runEndEncoded | union | extension => cases h

/-- What a result says of a type, be it a Hive type or a culprit. -/
def Judges (type : DataType) : Except DataType String → Prop
  | .ok _ => Convertible type
  | .error culprit => FirstLacking type culprit

theorem judges_typeOf (type : DataType) : Judges type (typeOf type) := by
  induction type using partsInduction with
  | step type ih =>
      have haccepted : ∀ part ∈ type.parts, (∃ text, typeOf part = .ok text) →
          Convertible part := by
        rintro part hpart ⟨text, htext⟩
        have hjudges := ih part hpart
        rwa [htext] at hjudges
      cases hlacks : lacksCounterpart type with
      | true =>
          rw [typeOf_of_lacks hlacks]
          exact firstLacking_self hlacks
      | false =>
          obtain ⟨assemble, htype⟩ := exists_typeOf_eq hlacks
          rw [htype]
          cases hparts : type.parts.mapM typeOf with
          | ok texts =>
              have hall := exists_forall₂_iff.mp ⟨texts, Except.mapM_eq_ok.mp hparts⟩
              apply convertible_iff.mpr ⟨hlacks, ?_⟩
              exact fun part hpart => haccepted part hpart (hall part hpart)
          | error culprit =>
              obtain ⟨before, inner, after, hsplit, hbefore, hinner⟩ :=
                Except.mapM_eq_error.mp hparts
              have hjudges := ih inner (by simp [hsplit])
              rw [hinner] at hjudges
              apply FirstLacking.inside hlacks hsplit _ hjudges
              exact fun other hother => haccepted other (by simp [hsplit, hother])
                (hbefore other hother)

theorem typeOf_eq_error_iff : typeOf type = .error culprit ↔ FirstLacking type culprit := by
  have hjudges := judges_typeOf type
  constructor
  · intro h
    rwa [h] at hjudges
  · intro h
    cases hresult : typeOf type with
    | ok text =>
        rw [hresult] at hjudges
        exact absurd hjudges h.not_convertible
    | error other =>
        rw [hresult] at hjudges
        rw [h.unique hjudges]

theorem exists_typeOf_eq_ok_iff : (∃ text, typeOf type = .ok text) ↔ Convertible type := by
  have hjudges := judges_typeOf type
  constructor
  · rintro ⟨text, htext⟩
    rwa [htext] at hjudges
  · intro h
    cases hresult : typeOf type with
    | ok text => exact ⟨text, rfl⟩
    | error culprit =>
        rw [hresult] at hjudges
        exact absurd h hjudges.not_convertible

theorem exists_typeOf_eq_error_iff : (∃ culprit, typeOf type = .error culprit) ↔
    ∃ place part, PartAt type place part ∧ lacksCounterpart part = true := by
  rw [← not_convertible_iff, ← exists_typeOf_eq_ok_iff]
  cases typeOf type with
  | ok text => simp
  | error culprit => simp

end

end Hive

/-! ## Columns -/

section

open Hive

variable {schema : Schema} {failure : Failure}

theorem columnsOf_eq (schema : Schema) : columnsOf schema =
    schema.mapM fun field => (typeOf field.type).map (Column.mk field.name) := by
  rw [columnsOf]
  congr 1

theorem exists_column_iff {field : Field} :
    (∃ column, (typeOf field.type).map (Column.mk field.name) = .ok column) ↔
      Convertible field.type := by
  simp only [Except.map_eq_ok, ← exists_typeOf_eq_ok_iff]
  constructor
  · rintro ⟨_, text, htext, rfl⟩
    exact ⟨text, htext⟩
  · rintro ⟨text, htext⟩
    exact ⟨_, text, htext, rfl⟩

/-- A schema is refused for its first field with a part without a counterpart. -/
theorem columnsOrFailure_eq_error_iff : columnsOrFailure schema = .error failure ↔
    ∃ before field after culprit, schema = before ++ field :: after ∧
      (∀ other ∈ before, Convertible other.type) ∧ FirstLacking field.type culprit ∧
      failure = .misconfigured (.unsupportedType culprit) := by
  rw [columnsOrFailure, columnsOf_eq, Except.mapError_eq_error]
  simp only [Except.mapM_eq_error, Except.map_eq_error, exists_column_iff, typeOf_eq_error_iff]
  constructor
  · rintro ⟨culprit, ⟨before, field, after, hsplit, hbefore, hfield⟩, rfl⟩
    exact ⟨before, field, after, culprit, hsplit, hbefore, hfield, rfl⟩
  · rintro ⟨before, field, after, culprit, hsplit, hbefore, hfield, rfl⟩
    exact ⟨culprit, ⟨before, field, after, hsplit, hbefore, hfield⟩, rfl⟩

theorem exists_columns_iff (schema : Schema) :
    (∃ columns, columnsOrFailure schema = .ok columns) ↔
      ∀ field ∈ schema, Convertible field.type := by
  simp only [columnsOrFailure, Except.mapError_eq_ok, columnsOf_eq, Except.mapM_eq_ok]
  rw [exists_forall₂_iff]
  simp only [exists_column_iff]

theorem exists_columnsOrFailure_eq_error_iff :
    (∃ failure, columnsOrFailure schema = .error failure) ↔
      ∃ field ∈ schema, ∃ place part,
        PartAt field.type place part ∧ lacksCounterpart part = true := by
  have hcolumns := not_congr (exists_columns_iff schema)
  simp only [not_forall, not_convertible_iff, exists_prop] at hcolumns
  rw [← hcolumns]
  cases columnsOrFailure schema with
  | ok columns => simp
  | error failure => simp

/-- A type is refused exactly if a part of it is of a kind without a Hive counterpart, and named is
the first such part in reading order. A schema is refused exactly if one of its fields is, and named
is what the first such field is refused for. -/
theorem unsupported_types_refused (type : DataType) (schema : Schema) :
    ((∃ culprit, typeOf type = .error culprit) ↔
      ∃ place part, PartAt type place part ∧ lacksCounterpart part = true) ∧
    (∀ culprit, typeOf type = .error culprit ↔ FirstLacking type culprit) ∧
    ((∃ failure, columnsOrFailure schema = .error failure) ↔
      ∃ field ∈ schema, ∃ place part,
        PartAt field.type place part ∧ lacksCounterpart part = true) ∧
    (∀ failure, columnsOrFailure schema = .error failure ↔
      ∃ before field after culprit, schema = before ++ field :: after ∧
        (∀ other ∈ before, Convertible other.type) ∧ FirstLacking field.type culprit ∧
        failure = .misconfigured (.unsupportedType culprit)) ∧
    ∀ culprit, (Failure.misconfigured (.unsupportedType culprit)).Names culprit := by
  refine ⟨exists_typeOf_eq_error_iff, fun culprit => typeOf_eq_error_iff,
    exists_columnsOrFailure_eq_error_iff, fun failure => columnsOrFailure_eq_error_iff, ?_⟩
  exact fun culprit => ⟨rfl, fun wording => rfl⟩

/-- The key of a map is read before its items, and the first field before the second. -/
example : typeOf (.struct
    [.mk "visits" (.mapOf (.listOf .plain (.time32 .second)) (.duration .second)) true .empty,
      .mk "stay" (.union .dense [] []) true .empty]) = .error (.time32 .second) :=
  rfl

end

end OrcConversion
