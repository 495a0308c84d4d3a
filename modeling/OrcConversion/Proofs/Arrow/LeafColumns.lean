import OrcConversion.Arrow.Flatten
import OrcConversion.Proofs.Arrow.Leaves
import OrcConversion.Proofs.Arrow.Parts
import OrcConversion.Proofs.Result
import OrcConversion.Text.CodeText

/-! Flattening keeps each leaf of a schema once, in its place. -/

namespace OrcConversion.Arrow

/-! ## Descents -/

/-- A way down through structs to a field: the position taken at each level, the structs passed from
the outermost to the innermost, and the field at the end. -/
structure Descent where
  places : List Nat
  structs : List Field
  leaf : Field

namespace Descent

/-- All fields on the way, the one at the end among them. -/
def way (descent : Descent) : List Field := descent.structs ++ [descent.leaf]

def below (struct : Field) (descent : Descent) : Descent :=
  ⟨0 :: descent.places, struct :: descent.structs, descent.leaf⟩

/-- The same way among fields with one more in front of them. -/
def next (descent : Descent) : Descent :=
  ⟨descent.places.modifyHead (· + 1), descent.structs, descent.leaf⟩

/-- The same way inside some structs. -/
def inside (structs : List Field) (descent : Descent) : Descent :=
  ⟨descent.places, structs ++ descent.structs, descent.leaf⟩

def toLeaf (descent : Descent) : Leaf := ⟨descent.way.map Field.name, descent.leaf.type⟩

end Descent

/-- Ways down from some fields that end at a field that is no struct. -/
inductive Descends : List Field → Descent → Prop where
  | own {fields : List Field} {field : Field} {place : Nat} : fields[place]? = some field →
      field.type.fields? = none → Descends fields ⟨[place], [], field⟩
  | through {fields inner : List Field} {field leaf : Field} {place : Nat} {places : List Nat}
      {structs : List Field} : fields[place]? = some field → field.type = .struct inner →
      Descends inner ⟨places, structs, leaf⟩ →
      Descends fields ⟨place :: places, field :: structs, leaf⟩

mutual

def Field.descents : Field → List Descent
  | .mk name type nullable metadata =>
      match type with
      | .struct fields => (descentsOf fields).map (Descent.below (.mk name type nullable metadata))
      | _ => [⟨[0], [], .mk name type nullable metadata⟩]

/-- All descents, depth first. -/
def descentsOf : List Field → List Descent
  | [] => []
  | field :: fields => field.descents ++ (descentsOf fields).map Descent.next

end

section

variable {field : Field} {fields inner : List Field} {descent : Descent}

theorem Field.descents_plain (h : field.type.fields? = none) :
    field.descents = [⟨[0], [], field⟩] := by
  obtain ⟨name, type, nullable, metadata⟩ := field
  cases type <;> first | rfl | cases h

theorem Field.descents_struct (h : field.type = .struct inner) :
    field.descents = (descentsOf inner).map (Descent.below field) := by
  obtain ⟨name, type, nullable, metadata⟩ := field
  cases h
  rfl

theorem Descends.next (h : Descends fields descent) (first : Field) :
    Descends (first :: fields) descent.next := by
  cases h with
  | own hplace hplain => exact .own hplace hplain
  | through hplace hstruct hinner => exact .through hplace hstruct hinner

theorem Descends.places_ne_nil (h : Descends fields descent) : descent.places ≠ [] := by
  cases h with
  | own => exact List.cons_ne_nil _ _
  | through => exact List.cons_ne_nil _ _

theorem descends_cons_plain (hplain : field.type.fields? = none) :
    Descends (field :: fields) descent ↔
      descent = ⟨[0], [], field⟩ ∨ ∃ other, Descends fields other ∧ other.next = descent := by
  constructor
  · intro h
    cases h with
    | @own _ other place hplace hother =>
        cases place with
        | zero =>
            cases hplace
            exact .inl rfl
        | succ place => exact .inr ⟨_, .own hplace hother, rfl⟩
    | @through _ inner other leaf place places structs hplace hstruct hinner =>
        cases place with
        | zero =>
            cases hplace
            cases hplain.symm.trans (DataType.fields?_eq_some.mpr hstruct)
        | succ place => exact .inr ⟨_, .through hplace hstruct hinner, rfl⟩
  · rintro (rfl | ⟨other, hother, rfl⟩)
    · exact .own rfl hplain
    · exact hother.next field

theorem descends_cons_struct (hstruct : field.type = .struct inner) :
    Descends (field :: fields) descent ↔
      (∃ other, Descends inner other ∧ other.below field = descent) ∨
        ∃ other, Descends fields other ∧ other.next = descent := by
  constructor
  · intro h
    cases h with
    | @own _ other place hplace hother =>
        cases place with
        | zero =>
            cases hplace
            cases hother.symm.trans (DataType.fields?_eq_some.mpr hstruct)
        | succ place => exact .inr ⟨_, .own hplace hother, rfl⟩
    | @through _ between other leaf place places structs hplace hbetween hinner =>
        cases place with
        | zero =>
            cases hplace
            cases hstruct.symm.trans hbetween
            exact .inl ⟨_, hinner, rfl⟩
        | succ place => exact .inr ⟨_, .through hplace hbetween hinner, rfl⟩
  · rintro (⟨other, hother, rfl⟩ | ⟨other, hother, rfl⟩)
    · exact .through rfl hstruct hother
    · exact hother.next field

theorem mem_descentsOf : descent ∈ descentsOf fields ↔ Descends fields descent := by
  induction fields using fieldsInduction generalizing descent with
  | nil =>
      constructor
      · intro h
        cases h
      · intro h
        cases h with
        | own hplace => cases hplace
        | through hplace => cases hplace
  | plain field fields hplain ih =>
      rw [descends_cons_plain hplain, descentsOf, Field.descents_plain hplain, List.mem_append,
        List.mem_singleton, List.mem_map]
      simp only [ih]
  | struct field inner fields hstruct ihInner ih =>
      rw [descends_cons_struct hstruct, descentsOf, Field.descents_struct hstruct, List.mem_append,
        List.mem_map, List.mem_map]
      simp only [ihInner, ih]

end

/-! ## Order -/

/-- Depth first, and from left to right. -/
def Descent.Before (left right : Descent) : Prop :=
  Precedes left.places right.places

section

variable {left right : Descent} {field : Field} {fields inner : List Field}

theorem Descent.Before.next (h : left.Before right) : left.next.Before right.next := by
  obtain ⟨leftPlaces, leftStructs, leftLeaf⟩ := left
  obtain ⟨rightPlaces, rightStructs, rightLeaf⟩ := right
  cases h with
  | nil => exact .nil
  | rel hplace => exact .rel (Nat.succ_lt_succ hplace)
  | cons hrest => exact .cons hrest

theorem Descent.Before.below (h : left.Before right) (struct : Field) :
    (left.below struct).Before (right.below struct) :=
  .cons h

theorem exists_places_of_mem (h : left ∈ field.descents) : ∃ rest, left.places = 0 :: rest := by
  cases htype : field.type.fields? with
  | none =>
      rw [Field.descents_plain htype] at h
      cases List.mem_singleton.mp h
      exact ⟨[], rfl⟩
  | some inner =>
      rw [Field.descents_struct (DataType.fields?_eq_some.mp htype)] at h
      obtain ⟨other, -, rfl⟩ := List.mem_map.mp h
      exact ⟨other.places, rfl⟩

theorem before_of_mem (hleft : left ∈ field.descents) (hright : right ∈ descentsOf fields) :
    left.Before right.next := by
  obtain ⟨leftRest, hleftPlaces⟩ := exists_places_of_mem hleft
  obtain ⟨place, rightRest, hrightPlaces⟩ :=
    List.exists_cons_of_ne_nil (mem_descentsOf.mp hright).places_ne_nil
  rw [Descent.Before, Descent.next, hleftPlaces, hrightPlaces]
  exact .rel (Nat.succ_pos place)

theorem sorted_cons (hfield : field.descents.Pairwise Descent.Before)
    (hfields : (descentsOf fields).Pairwise Descent.Before) :
    (descentsOf (field :: fields)).Pairwise Descent.Before := by
  rw [descentsOf, List.pairwise_append, List.pairwise_map]
  refine ⟨hfield, hfields.imp Descent.Before.next, ?_⟩
  intro left hleft right hright
  obtain ⟨other, hother, rfl⟩ := List.mem_map.mp hright
  exact before_of_mem hleft hother

end

theorem sorted_descentsOf (fields : List Field) :
    (descentsOf fields).Pairwise Descent.Before := by
  induction fields using fieldsInduction with
  | nil => exact .nil
  | plain field fields hplain ih =>
      apply sorted_cons _ ih
      rw [Field.descents_plain hplain]
      exact List.pairwise_singleton _ _
  | struct field inner fields hstruct ihInner ih =>
      apply sorted_cons _ ih
      rw [Field.descents_struct hstruct, List.pairwise_map]
      exact ihInner.imp fun h => h.below field

/-! ## Leaves -/

theorem leavesOf_eq_map (fields : List Field) :
    leavesOf fields = (descentsOf fields).map Descent.toLeaf := by
  induction fields using fieldsInduction with
  | nil => rfl
  | plain field fields hplain ih =>
      rw [leavesOf, descentsOf, List.map_append, List.map_map, Field.leaves_plain hplain,
        Field.descents_plain hplain, ih]
      rfl
  | struct field inner fields hstruct ihInner ih =>
      rw [leavesOf, descentsOf, List.map_append, List.map_map, Field.leaves_struct hstruct,
        Field.descents_struct hstruct, ihInner, List.map_map, List.map_map, ih]
      rfl

theorem Descends.leaf_plain {fields : List Field} {descent : Descent}
    (h : Descends fields descent) : descent.leaf.type.fields? = none := by
  induction h with
  | own _ hplain => exact hplain
  | through _ _ _ ih => exact ih

theorem Descends.leaf_mem {fields : List Field} {descent : Descent}
    (h : Descends fields descent) (htop : descent.structs = []) : descent.leaf ∈ fields := by
  cases h with
  | own hplace _ => exact List.mem_of_getElem? hplace
  | through => cases htop

/-! ## Columns -/

namespace Descent

/-- The column of a field that is reached through structs. At the top a field stays what it is. -/
def column (descent : Descent) : Except BuildFault Field :=
  if descent.structs.isEmpty then .ok descent.leaf
  else flatColumn (descent.way.map Field.name) descent.leaf.type
    (descent.way.any Field.nullable)

variable {left right descent : Descent} {fault : BuildFault}

theorem column_congr (hstructs : left.structs = right.structs) (hleaf : left.leaf = right.leaf) :
    left.column = right.column := by
  rw [column, column, way, way, hstructs, hleaf]

/-- A field of nulls inside structs, with nothing on the way that may be missing. -/
structure Refused (descent : Descent) : Prop where
  inside : descent.structs ≠ []
  nulls : descent.leaf.type = .scalar .null
  required : ∀ field ∈ descent.way, field.nullable = false

theorem column_eq_error :
    descent.column = .error fault ↔ descent.Refused ∧ fault = .unacceptable := by
  have hany : descent.way.any Field.nullable = false ↔
      ∀ field ∈ descent.way, field.nullable = false := by
    simp
  rw [column]
  split
  · rename_i htop
    refine iff_of_false (fun h => ?_) fun h => h.1.inside (List.isEmpty_iff.mp htop)
    cases h
  · rename_i hstructs
    have hinside := mt List.isEmpty_iff.mpr hstructs
    rw [flatColumn, Field.build, acceptable_eq_error, Field.nullable_mk, Field.type_mk,
      Bool.or_eq_false_iff, Bool.not_eq_false', DataType.isNull_iff, hany]
    exact ⟨fun ⟨⟨hrequired, hnulls⟩, hfault⟩ => ⟨⟨hinside, hnulls, hrequired⟩, hfault⟩,
      fun ⟨hrefused, hfault⟩ => ⟨⟨hrefused.required, hrefused.nulls⟩, hfault⟩⟩

theorem exists_column_iff : (∃ column, descent.column = .ok column) ↔ ¬ descent.Refused := by
  cases h : descent.column with
  | ok column =>
      refine iff_of_true ⟨column, rfl⟩ fun hrefused => ?_
      cases h.symm.trans (column_eq_error.mpr ⟨hrefused, rfl⟩)
  | error fault => simp [(column_eq_error.mp h).1]

end Descent

/-- What a column keeps of a field and of the structs around it. A field at the top stays what it
is. -/
structure Keeps (structs : List Field) (leaf column : Field) : Prop where
  top : structs = [] → column = leaf
  type_eq : column.type = leaf.type
  name_eq : column.name = "__".intercalate ((structs ++ [leaf]).map Field.name)
  metadata_eq : structs ≠ [] → column.metadata.entries =
    [(sourcePathKey, (".".intercalate ((structs ++ [leaf]).map Field.name)).toUTF8)]
  sourcePath_eq : structs ≠ [] →
    column.sourcePath = some (".".intercalate ((structs ++ [leaf]).map Field.name))
  nullable_iff : column.nullable = true ↔
    leaf.nullable = true ∨ ∃ struct ∈ structs, struct.nullable = true

theorem keeps_self (field : Field) : Keeps [] field field where
  top _ := rfl
  type_eq := rfl
  name_eq := by simp
  metadata_eq h := absurd rfl h
  sourcePath_eq h := absurd rfl h
  nullable_iff := by simp

theorem sourcePath_recorded (name path : String) (type : DataType) (nullable : Bool) :
    (Field.mk name type nullable (.ofList [(sourcePathKey, path.toUTF8)])).sourcePath =
      some path := by
  have hlookup : (OrderedMap.ofList [(sourcePathKey, path.toUTF8)]).lookup? sourcePathKey =
      some path.toUTF8 := OrderedMap.lookup?_insert_self .empty sourcePathKey path.toUTF8
  rw [Field.sourcePath, Field.metadata_mk, hlookup]
  exact Text.fromUTF8?_toUTF8 path

theorem keeps_of_column {descent : Descent} {column : Field} (h : descent.column = .ok column) :
    Keeps descent.structs descent.leaf column := by
  rw [Descent.column] at h
  split at h
  · rename_i htop
    cases h
    rw [List.isEmpty_iff.mp htop]
    exact keeps_self descent.leaf
  · rename_i hstructs
    have hinside := mt List.isEmpty_iff.mpr hstructs
    obtain ⟨-, rfl⟩ := acceptable_eq_ok.mp h
    constructor
    · exact fun htop => absurd htop hinside
    · rfl
    · rfl
    · exact fun _ => rfl
    · exact fun _ => sourcePath_recorded _ _ _ _
    · simp [Descent.way, or_comm]

section

variable {field : Field} {fields inner : List Field} {schema columns : Schema}

theorem Field.flatten_plain (h : field.type.fields? = none) (structs : List Field) :
    field.flatten (structs.map Field.name) (structs.any Field.nullable) =
      (Descent.mk [0] structs field).column.map ([·]) := by
  have hflatten : field.flatten (structs.map Field.name) (structs.any Field.nullable) =
      if (structs.map Field.name).isEmpty then .ok [field]
      else (flatColumn (structs.map Field.name ++ [field.name]) field.type
        (structs.any Field.nullable || field.nullable)).map ([·]) := by
    obtain ⟨name, type, nullable, metadata⟩ := field
    cases type <;> first | rfl | cases h
  rw [hflatten, List.isEmpty_map, Descent.column, Descent.way, List.map_append, List.any_append]
  split
  · rfl
  · rw [List.any_cons, List.any_nil, Bool.or_false]
    rfl

theorem Field.flatten_struct (h : field.type = .struct inner) (structs : List Field) :
    field.flatten (structs.map Field.name) (structs.any Field.nullable) =
      flattenFields ((structs ++ [field]).map Field.name) ((structs ++ [field]).any Field.nullable)
        inner := by
  obtain ⟨name, type, nullable, metadata⟩ := field
  cases h
  rw [List.map_append, List.any_append, List.any_cons, List.any_nil, Bool.or_false]
  rfl

theorem flattenFields_eq_mapM (fields structs : List Field) :
    flattenFields (structs.map Field.name) (structs.any Field.nullable) fields =
      (descentsOf fields).mapM fun descent => (descent.inside structs).column := by
  induction fields using fieldsInduction generalizing structs with
  | nil => rfl
  | plain field fields hplain ih =>
      have hfirst : field.descents.mapM (fun descent => (descent.inside structs).column) =
          (Descent.mk [0] structs field).column.map ([·]) := by
        have hinside : ((Descent.mk [0] [] field).inside structs).column =
            (Descent.mk [0] structs field).column :=
          Descent.column_congr (List.append_nil structs) rfl
        rw [Field.descents_plain hplain, List.mapM_cons, List.mapM_nil, hinside]
        cases (Descent.mk [0] structs field).column <;> rfl
      rw [flattenFields, descentsOf, List.mapM_append, List.mapM_map, hfirst,
        Field.flatten_plain hplain, ih]
      rfl
  | struct field inner fields hstruct ihInner ih =>
      have hfirst : field.descents.mapM (fun descent => (descent.inside structs).column) =
          (descentsOf inner).mapM fun descent => (descent.inside (structs ++ [field])).column := by
        rw [Field.descents_struct hstruct, List.mapM_map]
        congr 1
        funext descent
        exact Descent.column_congr (List.append_assoc structs [field] _).symm rfl
      rw [flattenFields, descentsOf, List.mapM_append, List.mapM_map, hfirst,
        Field.flatten_struct hstruct, ihInner, ih]
      rfl

/-! ## Schemas -/

/-- Flattening makes one column of each way down to a field that is no struct. -/
theorem flatten_eq_mapM (schema : Schema) :
    schema.flatten = (descentsOf schema).mapM Descent.column :=
  flattenFields_eq_mapM schema []

theorem forall₂_keeps_flatten (h : schema.flatten = .ok columns) :
    List.Forall₂ (fun descent => Keeps descent.structs descent.leaf) (descentsOf schema)
      columns := by
  rw [flatten_eq_mapM, Except.mapM_eq_ok] at h
  exact h.imp fun descent column => keeps_of_column

theorem plain_of_mem_flatten (h : schema.flatten = .ok columns) {column : Field}
    (hmem : column ∈ columns) : column.type.fields? = none := by
  rw [flatten_eq_mapM] at h
  obtain ⟨descent, hdescent, hcolumn⟩ := Except.exists_of_mem_mapM h hmem
  rw [(keeps_of_column hcolumn).type_eq]
  exact (mem_descentsOf.mp hdescent).leaf_plain

theorem flatten_of_plain (h : ∀ field ∈ fields, field.type.fields? = none) :
    Schema.flatten fields = .ok fields := by
  induction fields with
  | nil => rfl
  | cons field fields ih =>
      obtain ⟨hfield, hfields⟩ := List.forall_mem_cons.mp h
      have hrest : flattenFields [] false fields = .ok fields := ih hfields
      have hfirst : field.flatten [] false = .ok [field] := Field.flatten_plain hfield []
      rw [Schema.flatten, flattenFields, hfirst, hrest]
      rfl

theorem flatten_of_refused {descent : Descent} (hdescent : Descends schema descent)
    (hrefused : descent.Refused) : schema.flatten = .error .unacceptable := by
  rw [flatten_eq_mapM]
  cases h : (descentsOf schema).mapM Descent.column with
  | ok columns =>
      have hall := exists_forall₂_iff.mp ⟨columns, Except.mapM_eq_ok.mp h⟩
      have hcolumn := hall descent (mem_descentsOf.mpr hdescent)
      exact absurd hrefused (Descent.exists_column_iff.mp hcolumn)
  | error fault =>
      obtain ⟨before, other, after, -, -, hother⟩ := Except.mapM_eq_error.mp h
      rw [(Descent.column_eq_error.mp hother).2]

theorem exists_flatten_eq_ok (h : ∀ descent, Descends schema descent → ¬ descent.Refused) :
    ∃ columns, schema.flatten = .ok columns := by
  rw [flatten_eq_mapM]
  simp only [Except.mapM_eq_ok]
  rw [exists_forall₂_iff]
  exact fun descent hmem => Descent.exists_column_iff.mpr (h descent (mem_descentsOf.mp hmem))

end

/-- The ways down to fields that are no structs are listed depth first and from left to right. If
one of them has nothing but nulls at its end and nothing on it may be missing, the schema is
refused. Any other schema is flattened to one column for each way, which keeps what the field at its
end and the structs on it have. No column is a struct, and flattening the columns again changes
nothing. -/
theorem flatten_keeps_leaves (schema : Schema) :
    (∀ descent, descent ∈ descentsOf schema ↔ Descends schema descent) ∧
    (descentsOf schema).Pairwise Descent.Before ∧
    ((∃ descent, Descends schema descent ∧ descent.Refused) →
      schema.flatten = .error .unacceptable) ∧
    ((∀ descent, Descends schema descent → ¬ descent.Refused) →
      ∃ columns, schema.flatten = .ok columns ∧
        List.Forall₂ (fun descent => Keeps descent.structs descent.leaf) (descentsOf schema)
          columns ∧
        (∀ column ∈ columns, column.type.fields? = none) ∧
        Schema.flatten columns = .ok columns) := by
  refine ⟨fun descent => mem_descentsOf, sorted_descentsOf schema, ?_, ?_⟩
  · rintro ⟨descent, hdescent, hrefused⟩
    exact flatten_of_refused hdescent hrefused
  · intro h
    obtain ⟨columns, hcolumns⟩ := exists_flatten_eq_ok h
    refine ⟨columns, hcolumns, forall₂_keeps_flatten hcolumns,
      fun column => plain_of_mem_flatten hcolumns, ?_⟩
    exact flatten_of_plain fun column => plain_of_mem_flatten hcolumns

/-- A struct that is never missing, with a field of nulls that is never missing either. -/
def Sample.requiredNulls : Schema :=
  [.mk "s" (.struct [.mk "x" (.scalar .null) false .empty]) false .empty]

/-- The one leaf of this schema gets no column, since nothing is. -/
theorem flatten_requiredNulls :
    leavesOf Sample.requiredNulls = [⟨["s", "x"], .scalar .null⟩] ∧
      ¬ ∃ columns, Sample.requiredNulls.flatten = .ok columns := by
  refine ⟨rfl, ?_⟩
  rintro ⟨columns, hcolumns⟩
  cases hcolumns

/-- The city of an address may be missing if the address may be, and lists are not looked into. -/
example : (Schema.flatten [
    .mk "id" (.scalar .int64) false .empty,
    .mk "address" (.struct [
      .mk "city" (.scalar .string) false .empty,
      .mk "lines" (.listOf .plain (.struct [])) false .empty]) true .empty]).map
      (List.map fun column => (column.name, column.sourcePath, column.nullable)) =
    .ok [("id", some "id", false), ("address__city", some "address.city", true),
      ("address__lines", some "address.lines", true)] := by
  rfl

/-! ## Columns of leaves -/

/-- The column of a leaf. -/
structure ColumnOfLeaf (column : Field) (leaf : Leaf) : Prop where
  name_eq : column.name = leaf.columnName
  type_eq : column.type = leaf.type
  sourcePath_eq : column.sourcePath = some leaf.dotted

section

variable {schema columns : Schema}

theorem Keeps.columnOfLeaf {descent : Descent} {column : Field}
    (h : Keeps descent.structs descent.leaf column)
    (htop : descent.structs = [] → descent.leaf.metadata.lookup? sourcePathKey = none) :
    ColumnOfLeaf column descent.toLeaf := by
  refine ⟨h.name_eq, h.type_eq, ?_⟩
  by_cases hstructs : descent.structs = []
  · rw [h.top hstructs, Field.sourcePath, htop hstructs, Leaf.dotted, Descent.toLeaf, Descent.way,
      hstructs]
    simp
  · exact h.sourcePath_eq hstructs

/-- Flattening makes one column of each leaf, in their order. -/
theorem columnsOfLeaves_flatten (h : schema.flatten = .ok columns)
    (htop : ∀ field ∈ schema, field.metadata.lookup? sourcePathKey = none) :
    List.Forall₂ ColumnOfLeaf columns (leavesOf schema) := by
  rw [leavesOf_eq_map, List.forall₂_map_right_iff]
  have hunrecorded : ∀ descent ∈ descentsOf schema, descent.structs = [] →
      descent.leaf.metadata.lookup? sourcePathKey = none := fun descent hmem hstructs =>
    htop descent.leaf ((mem_descentsOf.mp hmem).leaf_mem hstructs)
  have hkeeps := (List.forall₂_and_left _ _).mpr ⟨hunrecorded, forall₂_keeps_flatten h⟩
  exact hkeeps.flip.imp fun column descent hdescent => hdescent.2.columnOfLeaf hdescent.1

theorem map_name_flatten (h : schema.flatten = .ok columns) :
    columns.map Field.name = (leavesOf schema).map Leaf.columnName := by
  rw [leavesOf_eq_map, List.map_map, ← List.forall₂_eq_eq_eq, List.forall₂_map_left_iff,
    List.forall₂_map_right_iff]
  exact (forall₂_keeps_flatten h).flip.imp fun column descent hkeeps => hkeeps.name_eq

end

end OrcConversion.Arrow
