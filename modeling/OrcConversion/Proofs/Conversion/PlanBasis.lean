import OrcConversion.Conversion.Planning
import OrcConversion.Proofs.Conversion.Checking
import OrcConversion.Proofs.Conversion.Publication
import OrcConversion.Proofs.Conversion.StagingPlans

/-! What the plan of an entity comes to once its destination is known, apart from what is reported.
-/

namespace OrcConversion

open Arrow Hive Workflow

/-- What is planned when the directory of the target is there. -/
def planStatements (target : Target) (format : OutputFormat) (entity : Entity)
    (schema : Arrow.Schema) (columns : List Column) (stagingTable : String)
    (destination : Destination) : Workflow ConversionPlan := do
  let staging ← StagingPlan.plan entity schema target stagingTable destination
  let evolution ← evolve columns destination target.evolves target.tableName
  debug .planning ("Evolve final table DDLs: " ++ Text.quotedList evolution)
  let publish ← PublishPlan.build entity schema target stagingTable destination evolution
  debug .planning ("Publish plan: " ++ publish.text)
  info .planning ("Planned " ++ format.key ++ " conversion of " ++ entity.completeName ++
    " into " ++ target.db ++ "." ++ target.table ++ " via " ++ stagingTable)
  return {
    entity := { entity with statements := entity.statements ++ staging.statements }
    publish := some publish
    stagingTable := some stagingTable
    evolutionStatements := evolution }

/-- What is found out before anything is asked for: the fields that are written, and the columns
that they make. -/
def prepare (format : OutputFormat) (entity : Entity) (schema : Arrow.Schema) (mark : RunMark) :
    Except Failure (Arrow.Schema × List Column) := do
  let shaped ← (format.shape schema).mapError .ofBuildFault
  let columns ← checkEntity entity shaped
  let _ ← written mark.time
  return (shaped, columns)

theorem planWith_eq (target : Target) (format : OutputFormat) (entity : Entity)
    (schema : Arrow.Schema) (mark : RunMark) :
    planWith target format entity schema (.ok mark) = (do
      let prepared ← ofExcept (prepare format entity schema mark)
      let destination ← loadDestination target.db target.table
      let _ ← createDestinationDirectory target.dataPath entity.table.dataLocation
      planStatements target format entity prepared.1 prepared.2
        (stagingTableName target.stagingName mark.time mark.digit) destination) := by
  unfold planWith prepare
  cases format.shape schema with
  | error fault => rfl
  | ok shaped =>
      change (ofExcept (checkEntity entity shaped) >>= _) =
        (ofExcept (checkEntity entity shaped >>= _) >>= _)
      cases checkEntity entity shaped with
      | error failure => rfl
      | ok columns =>
          change (ofExcept (written mark.time) >>= _) = (ofExcept (written mark.time >>= _) >>= _)
          cases written mark.time <;> rfl

theorem prepare_eq_ok {format : OutputFormat} {entity : Entity} {schema shaped : Arrow.Schema}
    {mark : RunMark} {columns : List Column} :
    prepare format entity schema mark = .ok (shaped, columns) ↔
      format.shape schema = .ok shaped ∧ checkEntity entity shaped = .ok columns ∧
        ∃ numeral, written mark.time = .ok numeral := by
  simp only [prepare, Except.bind_eq_ok, Except.mapError_eq_ok]
  constructor
  · rintro ⟨_, hshape, _, hcheck, numeral, htime, hpair⟩
    cases hpair
    exact ⟨hshape, hcheck, numeral, htime⟩
  · rintro ⟨hshape, hcheck, numeral, htime⟩
    exact ⟨shaped, hshape, columns, hcheck, numeral, htime, rfl⟩

/-- The failure refuses what a conversion is given: a fault of the configuration, or one from
outside. -/
def Failure.Refuses (failure : Failure) : Prop :=
  failure.kind? = some .configuration ∨ failure.IsForeign

theorem blames_prepare (format : OutputFormat) (entity : Entity) (schema : Arrow.Schema)
    (mark : RunMark) : Except.Blames Failure.Refuses (prepare format entity schema mark) := by
  apply Except.Blames.bind
  · apply Except.Blames.mapError
    intro fault
    cases fault with
    | unacceptable => exact .inr ⟨.wrongValue, rfl⟩
    | tooLarge => exact .inr ⟨.tooLarge, rfl⟩
  · intro shaped
    have hchecked : Except.Blames Failure.Refuses (checkEntity entity shaped) :=
      (blames_checkEntity entity shaped).imp fun _ => Or.inl
    have htime : Except.Blames Failure.Refuses (written mark.time) :=
      (blames_written mark.time).imp fun _ => Or.inr
    apply hchecked.bind
    intro columns
    apply htime.bind
    intro _
    exact .ok _

theorem checkEntity_eq_ok {entity : Entity} {schema : Arrow.Schema} {columns : List Column}
    (h : checkEntity entity schema = .ok columns) :
    ∃ spec replaced, SourcePartition.spec entity.partition = .ok spec ∧
      Partition.replacedBy entity.partition = .ok replaced ∧
      columnsOrFailure schema = .ok columns := by
  obtain ⟨spec, hspec, h⟩ := Except.bind_eq_ok.mp h
  obtain ⟨replaced, hreplaced, hcolumns⟩ := Except.bind_eq_ok.mp h
  exact ⟨spec, replaced, hspec, hreplaced, hcolumns⟩

/-- Evolution of a table by new columns; nothing if there are none. -/
def additions (name : TableName) : List Column → List Statement
  | [] => []
  | column :: more => [.addColumns name (column :: more)]

theorem additions_of_ne_nil {name : TableName} {columns : List Column} (h : columns ≠ []) :
    additions name columns = [.addColumns name columns] := by
  cases columns with
  | nil => exact absurd rfl h
  | cons column more => rfl

theorem settles_evolve (columns : List Column) (destination : Destination) (evolves : Bool)
    (name : TableName) :
    Settles (evolve columns destination evolves name)
      (.ok ((additions name (destination.newColumns evolves columns)).map (·.text))) := by
  unfold evolve
  cases destination.newColumns evolves columns with
  | nil => exact .ofExcept (.ok [])
  | cons column more => exact (Settles.note _ _ _).bind (.ofExcept (.ok _))

/-- What the plan of an entity is put together from. -/
structure PlanBasis (entity : Entity) (schema : Arrow.Schema) (target : Target) where
  stagingTable : String
  destination : Destination
  spec : PartitionSpec
  replaced : List (OrderedMap String)
  targetColumns : List Column
  settings : List Statement
  table : TableDefinition
  insertion : Insertion
  spec_eq : SourcePartition.spec entity.partition = .ok spec
  replaced_eq : Partition.replacedBy entity.partition = .ok replaced
  columns_eq : columnsOrFailure schema = .ok targetColumns
  settings_eq : runtimeSettings entity target = .ok settings
  table_eq : StagingPlan.definition target ⟨target.db, stagingTable⟩
    (destination.align target.evolves targetColumns) (target.stagingLocation stagingTable) spec =
      .ok table
  insertion_eq : StagingPlan.insertionOf entity schema target stagingTable
    (!destination.isPresent || target.evolves) spec
    (destination.align target.evolves targetColumns) = .ok insertion

namespace PlanBasis

variable {entity : Entity} {schema : Arrow.Schema} {columns : List Column}

theorem exists_of_build {stagingTable : String} {target : Target} {destination : Destination}
    {staging : StagingPlan} (hcheck : checkEntity entity schema = .ok columns)
    (hbuild : StagingPlan.build entity schema target stagingTable destination = .ok staging) :
    ∃ basis : PlanBasis entity schema target, basis.stagingTable = stagingTable ∧
      basis.destination = destination ∧ basis.targetColumns = columns := by
  obtain ⟨spec, replaced, hspec, hreplaced, hcolumns⟩ := checkEntity_eq_ok hcheck
  obtain ⟨_, settings, _, table, insertion, hother, hsettings, hothers, htable, hinsertion, -⟩ :=
    StagingPlan.build_eq_ok hbuild
  cases hspec.symm.trans hother
  cases hcolumns.symm.trans hothers
  exact ⟨⟨stagingTable, destination, spec, replaced, columns, settings, table, insertion, hspec,
    hreplaced, hcolumns, hsettings, htable, hinsertion⟩, rfl, rfl, rfl⟩

variable {target : Target} (basis : PlanBasis entity schema target)

def staging : StagingPlan where
  columns := basis.destination.align target.evolves basis.targetColumns
  settings := basis.settings
  creation := .createTable basis.table
  partition := StagingPlan.addition? entity target basis.stagingTable basis.spec
  insertion := .insert basis.insertion

def newColumns : List Column :=
  basis.destination.newColumns target.evolves basis.targetColumns

def evolution : List Statement :=
  additions target.tableName basis.newColumns

/-- The table that is published into, where that is still to be created. -/
def finalTable : TableDefinition :=
  { basis.table with
    name := target.tableName
    columns := basis.targetColumns
    location := target.finalLocation }

def creation : Option Statement :=
  if basis.destination.isPresent then none else some (.createTable basis.finalTable)

def replacement : Replacement :=
  .ofSpec entity target basis.stagingTable basis.spec

def retired : List Statement :=
  dropPartitions target.tableName basis.replaced

def dropStaging : Statement :=
  .dropTable ⟨target.db, basis.stagingTable⟩

/-- The publication of the entity, after some statements that evolve its destination. -/
def publicationAfter (evolution : List String) : Publication where
  creation := basis.creation
  evolution
  replacement := basis.replacement
  retired := basis.retired
  dropStaging := basis.dropStaging
  stagingLocation := target.stagingLocation basis.stagingTable

def publication : Publication :=
  basis.publicationAfter (basis.evolution.map (·.text))

def plan : ConversionPlan where
  entity := { entity with statements := entity.statements ++ basis.staging.statements }
  publish := some basis.publication.plan
  stagingTable := some basis.stagingTable
  evolutionStatements := basis.evolution.map (·.text)

theorem build_staging :
    StagingPlan.build entity schema target basis.stagingTable basis.destination =
      .ok basis.staging :=
  Except.bind_eq_ok.mpr ⟨_, basis.spec_eq, Except.bind_eq_ok.mpr ⟨_, basis.settings_eq,
    Except.bind_eq_ok.mpr ⟨_, basis.columns_eq, Except.bind_eq_ok.mpr ⟨_, basis.table_eq,
      Except.bind_eq_ok.mpr ⟨_, basis.insertion_eq, rfl⟩⟩⟩⟩⟩

theorem definition_finalTable : StagingPlan.definition target target.tableName
    basis.targetColumns target.finalLocation basis.spec = .ok basis.finalTable := by
  obtain ⟨count, hcount, htable⟩ := StagingPlan.definition_eq_ok.mp basis.table_eq
  exact StagingPlan.definition_eq_ok.mpr ⟨count, hcount, by rw [finalTable, htable]⟩

theorem creation?_eq :
    Publication.creation? schema target basis.destination basis.spec = .ok basis.creation := by
  rw [Publication.creation?, creation]
  split
  · rfl
  · rw [basis.columns_eq, Except.ok_bind, basis.definition_finalTable]
    rfl

section

variable {basis} {table : TableRecord}

theorem columns_of_absent (h : basis.destination.table = none) :
    basis.staging.columns = basis.targetColumns := by
  change basis.destination.align _ _ = _
  rw [Destination.align, h]

theorem newColumns_of_absent (h : basis.destination.table = none) : basis.newColumns = [] := by
  rw [newColumns, Destination.newColumns, h]

theorem creation_of_absent (h : basis.destination.table = none) :
    basis.creation = some (.createTable basis.finalTable) := by
  rw [creation, Destination.isPresent, h]
  rfl

theorem columns_of_present (h : basis.destination.table = some table) :
    basis.staging.columns = table.columns ++ basis.newColumns := by
  change basis.destination.align _ _ = _
  rw [Destination.align, newColumns, Destination.newColumns, h]
  cases target.evolves with
  | true => rfl
  | false => exact (List.append_nil _).symm

theorem newColumns_of_present (h : basis.destination.table = some table) :
    basis.newColumns =
      if target.evolves then missingColumns basis.targetColumns table.columns else [] := by
  rw [newColumns, Destination.newColumns, h]

theorem creation_of_present (h : basis.destination.table = some table) :
    basis.creation = none := by
  rw [creation, Destination.isPresent, h]
  rfl

end

theorem getLast?_statements :
    basis.plan.entity.statements.getLast? = some (Statement.insert basis.insertion).text := by
  have hstatements : basis.plan.entity.statements = entity.statements ++
      ((basis.staging.settings ++ [basis.staging.creation] ++
        basis.staging.partition.toList).map Statement.text ++
          [(Statement.insert basis.insertion).text]) :=
    congrArg (entity.statements ++ ·) List.map_append
  rw [hstatements, ← List.append_assoc, List.getLast?_concat]

/-! ## What planning ends with -/

theorem ofEntity_eq (evolution : List String) :
    Publication.ofEntity entity schema target basis.stagingTable basis.destination evolution =
      .ok (basis.publicationAfter evolution) := by
  have hretired : Publication.retirements entity target = .ok basis.retired := by
    rw [Publication.retirements, basis.replaced_eq]
    rfl
  rw [Publication.ofEntity, basis.spec_eq, Except.ok_bind, basis.creation?_eq, Except.ok_bind,
    hretired]
  rfl

theorem settles_stagingPlan :
    Settles (StagingPlan.plan entity schema target basis.stagingTable basis.destination)
      (.ok basis.staging) := by
  rw [← basis.build_staging]
  exact StagingPlan.settles_plan

theorem settles_publishPlan (evolution : List String) :
    Settles (PublishPlan.build entity schema target basis.stagingTable basis.destination evolution)
      (.ok (basis.publicationAfter evolution).plan) := by
  have hsettles := @PublishPlan.settles_build entity schema target basis.stagingTable
    basis.destination evolution
  rwa [basis.ofEntity_eq] at hsettles

theorem settles_planStatements (format : OutputFormat) :
    Settles (planStatements target format entity schema basis.targetColumns basis.stagingTable
      basis.destination) (.ok basis.plan) := by
  apply basis.settles_stagingPlan.bind
  apply (settles_evolve _ _ _ _).bind
  apply (Settles.note _ _ _).bind
  apply (basis.settles_publishPlan _).bind
  apply (Settles.note _ _ _).bind
  apply (Settles.note _ _ _).bind
  exact .ofExcept (.ok _)

end PlanBasis

section

variable {entity : Entity} {schema : Arrow.Schema} {columns : List Column}

/-- An entity that was checked is planned, or its plan cannot be written down. -/
theorem planStatements_cases (h : checkEntity entity schema = .ok columns) (target : Target)
    (format : OutputFormat) (stagingTable : String) (destination : Destination) :
    (∃ basis : PlanBasis entity schema target, basis.stagingTable = stagingTable ∧
      basis.destination = destination ∧ basis.targetColumns = columns ∧
      Settles (planStatements target format entity schema columns stagingTable destination)
        (.ok basis.plan)) ∨
    ∃ failure,
      StagingPlan.build entity schema target stagingTable destination = .error failure ∧
      failure.IsForeign ∧
      Settles (planStatements target format entity schema columns stagingTable destination)
        (.error failure) := by
  cases hbuild : StagingPlan.build entity schema target stagingTable destination with
  | ok staging =>
      obtain ⟨basis, rfl, rfl, rfl⟩ := PlanBasis.exists_of_build h hbuild
      exact .inl ⟨basis, rfl, rfl, rfl, basis.settles_planStatements format⟩
  | error failure =>
      obtain ⟨_, _, hspec, -, hcolumns⟩ := checkEntity_eq_ok h
      have hforeign := StagingPlan.blames_build hspec hcolumns failure hbuild
      have hsettles := @StagingPlan.settles_plan entity schema target stagingTable destination
      rw [hbuild] at hsettles
      exact .inr ⟨failure, rfl, hforeign, hsettles.bind_error _⟩

end

end OrcConversion
