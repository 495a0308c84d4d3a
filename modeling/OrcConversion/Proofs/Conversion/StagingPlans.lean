import OrcConversion.Conversion.Staging
import OrcConversion.Proofs.Result
import OrcConversion.Proofs.Workflow.Exchanges

/-! What planning a staging comes to, apart from what it reports. -/

namespace OrcConversion

open Arrow Hive Text Workflow

/-- The failure is a fault from outside, which is of no kind. -/
def Failure.IsForeign (failure : Failure) : Prop :=
  ∃ fault, failure = .foreign fault

/-- Failures are faults from outside. -/
abbrev BlamesOutside {α : Type} (result : Except Failure α) : Prop :=
  Except.Blames Failure.IsForeign result

theorem blames_written (number : Int) : BlamesOutside (written number) := by
  unfold written
  split
  · exact .ok _
  · exact .error ⟨_, rfl⟩

/-- A message about a statement, if there is one. -/
theorem settles_report_statement {component : Journal.Component} {label : String}
    (statement : Option Statement) {rest : Workflow α} {result : Except Failure α}
    (h : Settles rest result) :
    Settles
      (do
        if let some statement := statement then debug component (label ++ statement.text)
        rest)
      result := by
  cases statement with
  | none => exact h
  | some statement => exact (Settles.note _ _ _).bind h

theorem blames_mapM_written (number : Option Int) : BlamesOutside (number.mapM written) := by
  cases number with
  | none => exact .ok none
  | some number =>
      apply (blames_written number).bind
      intro numeral
      exact .ok (some numeral)

theorem exists_mapM_written {number : Option Int}
    (h : ∀ value ∈ number, ∃ numeral, written value = .ok numeral) :
    ∃ numeral, number.mapM written = .ok numeral := by
  cases number with
  | none => exact ⟨none, rfl⟩
  | some value =>
      obtain ⟨numeral, hnumeral⟩ := h value rfl
      exact ⟨some numeral, Except.bind_eq_ok.mpr ⟨numeral, hnumeral, rfl⟩⟩

/-- The integers that a plan of some time writes down are short enough for that. -/
structure ShortNumbers (entity : Entity) (target : Target) (time : Int) : Prop where
  planned : ∃ numeral, written time = .ok numeral
  created : ∃ numeral, written entity.createdAt = .ok numeral
  buckets : target.clusterBy ≠ [] → ∀ count ∈ target.bucketCount,
    ∃ numeral, written count = .ok numeral
  limit : ∀ limit ∈ target.rowLimit, ∃ numeral, written limit = .ok numeral

/-- All fields say in text where they come from. -/
def Arrow.HasPaths (schema : Schema) : Prop :=
  ∀ field ∈ schema, ∃ path, field.sourcePath = some path

/-! ## Settings -/

section

variable {entity : Entity} {target : Target} {time : Int} {settings : List Statement}
  {statement : Statement}

theorem exists_set_of_mem_runtimeSettings (h : runtimeSettings entity target = .ok settings)
    (hmem : statement ∈ settings) : ∃ key value, statement = .set key value := by
  obtain ⟨created, -, h⟩ := Except.bind_eq_ok.mp h
  cases h
  rcases List.mem_append.mp hmem with hmem | hmem
  · rcases List.mem_append.mp hmem with hmem | hmem
    · rcases List.mem_append.mp hmem with hmem | hmem
      · obtain ⟨entry, -, rfl⟩ := List.mem_map.mp hmem
        exact ⟨_, _, rfl⟩
      · exact ⟨_, _, List.mem_singleton.mp hmem⟩
    · split at hmem
      · exact ⟨_, _, List.mem_singleton.mp hmem⟩
      · cases hmem
  · exact ⟨_, _, List.mem_singleton.mp hmem⟩

theorem blames_runtimeSettings (entity : Entity) (target : Target) :
    BlamesOutside (runtimeSettings entity target) := by
  apply (blames_written _).bind
  intro created
  exact .ok _

theorem ShortNumbers.exists_settings (h : ShortNumbers entity target time) :
    ∃ settings, runtimeSettings entity target = .ok settings := by
  obtain ⟨created, hcreated⟩ := h.created
  exact ⟨_, Except.bind_eq_ok.mpr ⟨created, hcreated, rfl⟩⟩

end

namespace StagingPlan

variable {entity : Entity} {schema : Schema} {target : Target} {time : Int}
  {stagingTable location : String} {destination : Destination} {spec : PartitionSpec}
  {columns : List Column} {name : TableName}

/-! ## Definitions of tables -/

theorem definition_eq_ok {table : TableDefinition} :
    definition target name columns location spec = .ok table ↔
      ∃ count, bucketCount target = .ok count ∧ table = {
        name, columns, location
        partitionColumns := spec.types
        clusterBy := target.clusterBy
        bucketCount := count
        properties := target.tableProperties } := by
  simp only [definition, Except.bind_eq_ok]
  constructor
  · rintro ⟨count, hcount, htable⟩
    exact ⟨count, hcount, (Except.ok.inj htable).symm⟩
  · rintro ⟨count, hcount, rfl⟩
    exact ⟨count, hcount, rfl⟩

theorem blames_definition : BlamesOutside (definition target name columns location spec) := by
  apply Except.Blames.bind
  · unfold bucketCount
    split
    · exact .ok none
    · exact blames_mapM_written _
  · intro count
    exact .ok _

theorem exists_definition (h : ShortNumbers entity target time) :
    ∃ table, definition target name columns location spec = .ok table := by
  have hcount : ∃ count, bucketCount target = .ok count := by
    unfold bucketCount
    split
    · exact ⟨none, rfl⟩
    · rename_i hsome
      exact exists_mapM_written (h.buckets fun hnil => hsome (List.isEmpty_iff.mpr hnil))
  obtain ⟨count, hcount⟩ := hcount
  exact ⟨_, definition_eq_ok.mpr ⟨count, hcount, rfl⟩⟩

/-! ## Insertions -/

variable {fillMissing : Bool}

theorem insertionOf_eq_ok {insertion : Insertion}
    (h : insertionOf entity schema target stagingTable fillMissing spec columns = .ok insertion) :
    insertion.source = ⟨entity.table.db, entity.table.name⟩ ∧
      insertion.target = ⟨target.db, stagingTable⟩ ∧ insertion.partition = spec.values ∧
      selection entity.table.recordSchema schema fillMissing columns =
        some insertion.selection := by
  obtain ⟨expressions, hselection, h⟩ := Except.bind_eq_ok.mp h
  obtain ⟨rowLimit, -, h⟩ := Except.bind_eq_ok.mp h
  cases h
  refine ⟨rfl, rfl, rfl, ?_⟩
  unfold selectionOrFailure at hselection
  split at hselection
  · rename_i found hfound
    cases hselection
    exact hfound
  · cases hselection

theorem blames_insertionOf :
    BlamesOutside (insertionOf entity schema target stagingTable fillMissing spec columns) := by
  apply Except.Blames.bind
  · unfold selectionOrFailure
    split
    · exact .ok _
    · exact .error ⟨_, rfl⟩
  · intro expressions
    apply (blames_mapM_written _).bind
    intro rowLimit
    exact .ok _

theorem exists_columnPath (h : HasPaths schema) (column : Column) :
    ∃ path, columnPath schema column = some path := by
  unfold columnPath
  split
  · rename_i field hfield
    exact h field (List.mem_reverse.mp (List.mem_of_find?_eq_some hfield))
  · exact ⟨column.name, rfl⟩

theorem exists_selection {source : Schema} (h : HasPaths schema) (columns : List Column) :
    ∃ expressions, selection source schema fillMissing columns = some expressions := by
  simp only [selection, Option.mapM_eq_some]
  apply exists_forall₂_iff.mpr
  intro column _
  obtain ⟨path, hpath⟩ := exists_columnPath h column
  exact ⟨_, congrArg (Option.map _) hpath⟩

theorem exists_insertionOf (h : ShortNumbers entity target time) (hpaths : HasPaths schema) :
    ∃ insertion,
      insertionOf entity schema target stagingTable fillMissing spec columns = .ok insertion := by
  obtain ⟨expressions, hselection⟩ := exists_selection hpaths columns
  obtain ⟨rowLimit, hlimit⟩ := exists_mapM_written h.limit
  refine ⟨_, Except.bind_eq_ok.mpr ⟨expressions, ?_, Except.bind_eq_ok.mpr ⟨_, hlimit, rfl⟩⟩⟩
  rw [selectionOrFailure, hselection]

/-! ## Plans -/

/-- The plan of a staging. -/
def build (entity : Entity) (schema : Schema) (target : Target) (stagingTable : String)
    (destination : Destination) : Except Failure StagingPlan := do
  let spec ← SourcePartition.spec entity.partition
  let settings ← runtimeSettings entity target
  let targetColumns ← columnsOrFailure schema
  let columns := destination.align target.evolves targetColumns
  let definition ← definition target ⟨target.db, stagingTable⟩ columns
    (target.stagingLocation stagingTable) spec
  let insertion ← insertionOf entity schema target stagingTable
    (!destination.isPresent || target.evolves) spec columns
  return {
    columns, settings
    creation := .createTable definition
    partition := addition? entity target stagingTable spec
    insertion := .insert insertion }

theorem build_eq_ok {plan : StagingPlan}
    (h : build entity schema target stagingTable destination = .ok plan) :
    ∃ spec settings targetColumns table insertion,
      SourcePartition.spec entity.partition = .ok spec ∧
      runtimeSettings entity target = .ok settings ∧
      columnsOrFailure schema = .ok targetColumns ∧
      definition target ⟨target.db, stagingTable⟩
        (destination.align target.evolves targetColumns) (target.stagingLocation stagingTable)
        spec = .ok table ∧
      insertionOf entity schema target stagingTable
        (!destination.isPresent || target.evolves) spec
        (destination.align target.evolves targetColumns) = .ok insertion ∧
      plan = {
        columns := destination.align target.evolves targetColumns
        settings
        creation := .createTable table
        partition := addition? entity target stagingTable spec
        insertion := .insert insertion } := by
  obtain ⟨spec, hspec, h⟩ := Except.bind_eq_ok.mp h
  obtain ⟨settings, hsettings, h⟩ := Except.bind_eq_ok.mp h
  obtain ⟨targetColumns, hcolumns, h⟩ := Except.bind_eq_ok.mp h
  obtain ⟨table, htable, h⟩ := Except.bind_eq_ok.mp h
  obtain ⟨insertion, hinsertion, h⟩ := Except.bind_eq_ok.mp h
  exact ⟨spec, settings, targetColumns, table, insertion, hspec, hsettings, hcolumns, htable,
    hinsertion, (Except.ok.inj h).symm⟩

/-- A staging that can be specified is planned, or fails for a fault from outside. -/
theorem blames_build {targetColumns : List Column}
    (hspec : SourcePartition.spec entity.partition = .ok spec)
    (hcolumns : columnsOrFailure schema = .ok targetColumns) :
    BlamesOutside (build entity schema target stagingTable destination) := by
  unfold build
  rw [hspec, hcolumns]
  apply (blames_runtimeSettings _ _).bind
  intro settings
  apply blames_definition.bind
  intro table
  apply blames_insertionOf.bind
  intro insertion
  exact .ok _

theorem exists_build {targetColumns : List Column} (hnumbers : ShortNumbers entity target time)
    (hpaths : HasPaths schema) (hspec : SourcePartition.spec entity.partition = .ok spec)
    (hcolumns : columnsOrFailure schema = .ok targetColumns) :
    ∃ plan, build entity schema target stagingTable destination = .ok plan := by
  obtain ⟨settings, hsettings⟩ := hnumbers.exists_settings
  obtain ⟨table, htable⟩ :=
    @exists_definition entity target time (target.stagingLocation stagingTable)
    spec (destination.align target.evolves targetColumns) ⟨target.db, stagingTable⟩ hnumbers
  obtain ⟨insertion, hinsertion⟩ := @exists_insertionOf entity schema target time stagingTable spec
    (destination.align target.evolves targetColumns) (!destination.isPresent || target.evolves)
    hnumbers hpaths
  exact ⟨_, Except.bind_eq_ok.mpr ⟨spec, hspec, Except.bind_eq_ok.mpr ⟨settings, hsettings,
    Except.bind_eq_ok.mpr ⟨targetColumns, hcolumns, Except.bind_eq_ok.mpr ⟨table, htable,
      Except.bind_eq_ok.mpr ⟨insertion, hinsertion, rfl⟩⟩⟩⟩⟩⟩

theorem settles_plan : Settles (plan entity schema target stagingTable destination)
    (build entity schema target stagingTable destination) := by
  apply Settles.ofExcept_bind
  intro spec
  apply Settles.ofExcept_bind
  intro settings
  apply Settles.ofExcept_bind
  intro targetColumns
  apply Settles.ofExcept_bind
  intro table
  apply (Settles.note _ _ _).bind
  apply settles_report_statement
  apply Settles.ofExcept_bind
  intro insertion
  exact (Settles.note _ _ _).bind (.ofExcept _)

end StagingPlan

/-- Statements that stage a table. None of them alters what is published. -/
inductive StagingStatement : Statement → Prop where
  | setting (key value : String) : StagingStatement (.set key value)
  | creation (definition : TableDefinition) : StagingStatement (.createTable definition)
  | partition (name : TableName) (values : OrderedMap String) (location : String) :
      StagingStatement (.addPartition name values location)
  | insertion (insertion : Insertion) : StagingStatement (.insert insertion)

theorem StagingPlan.exists_statements {entity : Entity} {schema : Schema} {target : Target}
    {stagingTable : String} {destination : Destination} {plan : StagingPlan}
    (h : build entity schema target stagingTable destination = .ok plan) :
    ∃ statements : List Statement,
      (∀ statement ∈ statements, StagingStatement statement) ∧
        plan.statements = statements.map Statement.text := by
  obtain ⟨spec, settings, _, table, insertion, -, hsettings, -, -, -, rfl⟩ := build_eq_ok h
  refine ⟨_, ?_, rfl⟩
  intro statement hmem
  rcases List.mem_append.mp hmem with hmem | hmem
  · rcases List.mem_append.mp hmem with hmem | hmem
    · rcases List.mem_append.mp hmem with hmem | hmem
      · obtain ⟨key, value, rfl⟩ := exists_set_of_mem_runtimeSettings hsettings hmem
        exact .setting key value
      · cases List.mem_singleton.mp hmem
        exact .creation _
    · dsimp only [addition?] at hmem
      split at hmem
      · cases hmem
      · cases List.mem_singleton.mp hmem
        exact .partition _ _ _
  · cases List.mem_singleton.mp hmem
    exact .insertion _

end OrcConversion
