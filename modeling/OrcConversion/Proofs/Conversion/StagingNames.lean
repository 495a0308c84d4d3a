import OrcConversion.Proofs.Conversion.LocationAgreement
import OrcConversion.Proofs.Hive.StatementScanning
import OrcConversion.Proofs.Text.Joining

/-! Names of staging tables tell runs apart. -/

namespace OrcConversion

open Hive Text Workflow

/-! ## Names -/

section

variable {stem other : String} {time moment : Int} {digit last : Nat}

theorem toList_stagingTableName (stem : String) (time : Int) (digit : Nat) :
    (stagingTableName stem time digit).toList =
      stem.toList ++ '_' :: ((toString time).toList ++ (toString digit).toList) := by
  simp [stagingTableName]

theorem underscore_not_mem_qualifier (time : Int) (digit : Nat) :
    '_' ∉ (toString time).toList ++ (toString digit).toList := by
  rw [List.mem_append, not_or]
  exact ⟨not_mem_toString_int rfl (by decide) time, not_mem_toString_nat rfl digit⟩

theorem stagingTableName_eq_iff (hdigit : digit < 10) (hlast : last < 10) :
    stagingTableName stem time digit = stagingTableName other moment last ↔
      stem = other ∧ time = moment ∧ digit = last := by
  constructor
  · intro h
    have hchars := congrArg String.toList h
    rw [toList_stagingTableName, toList_stagingTableName] at hchars
    obtain ⟨hstem, hqualifier⟩ := append_last_separator_inj
      (underscore_not_mem_qualifier time digit) (underscore_not_mem_qualifier moment last) hchars
    have hlengths : (toString digit).toList.length = (toString last).toList.length :=
      (length_toString_digit hdigit).trans (length_toString_digit hlast).symm
    obtain ⟨htime, hdigits⟩ := List.append_inj' hqualifier hlengths
    exact ⟨String.toList_injective hstem, toString_int_inj htime, toString_nat_inj hdigits⟩
  · rintro ⟨rfl, rfl, rfl⟩
    rfl

/-- Of a longer number the first digits could as well belong to the time. -/
example : stagingTableName "visits" 1 23 = stagingTableName "visits" 12 3 := by
  decide +kernel

end

/-! ## Conversions -/

/-- A plan that a conversion comes to with some settings and some mark, whatever is converted and
whatever the services are. -/
def PlannedAt (target : Target) (mark : RunMark) (plan : ConversionPlan) : Prop :=
  ∃ (σ : Type) (services : Services σ) (state : σ) (targets : Targets) (format : OutputFormat)
    (entity : Entity) (schema : Option Arrow.Schema), targets format = some target ∧
    ((planConversion targets format entity schema (.ok mark)).run services state).result =
      .ok plan

/-- A table that a plan stages data in: the statements of the plan create and fill it, and cleaning
up drops it. -/
structure StagesIn (plan : ConversionPlan) (table : TableName) : Prop where
  named : plan.stagingTable = some table.table
  created : ∃ definition, definition.name = table ∧
    (Statement.createTable definition).text ∈ plan.entity.statements
  filled : ∃ insertion : Insertion, insertion.target = table ∧
    plan.entity.statements.getLast? = some (Statement.insert insertion).text
  dropped : ∃ publish, plan.publish = some publish ∧
    publish.cleanupStatements = [(Statement.dropTable table).text]

section

variable {target other : Target} {mark stamp : RunMark} {plan next : ConversionPlan}
  {table : TableName}

theorem PlanBasis.stagesIn {entity : Entity} {schema : Arrow.Schema}
    (basis : PlanBasis entity schema target) :
    StagesIn basis.plan ⟨target.db, basis.stagingTable⟩ where
  named := rfl
  created := by
    obtain ⟨definition, hcreation, hname, -⟩ := basis.locationAgreement.created
    refine ⟨definition, hname, List.mem_append_right entity.statements ?_⟩
    simp [statements_staging, hcreation]
  filled := by
    obtain ⟨-, htarget, -, -⟩ := StagingPlan.insertionOf_eq_ok basis.insertion_eq
    exact ⟨basis.insertion, htarget, basis.getLast?_statements⟩
  dropped := ⟨_, rfl, rfl⟩

/-- A plan drops no more than one table. -/
theorem StagesIn.unique {left right : TableName} (hleft : StagesIn plan left)
    (hright : StagesIn plan right) : left = right := by
  obtain ⟨publish, hpublish, hdropped⟩ := hleft.dropped
  obtain ⟨again, hagain, hdroppedAgain⟩ := hright.dropped
  cases hpublish.symm.trans hagain
  have htexts := hdropped.symm.trans hdroppedAgain
  exact Statement.dropTable_text_inj (List.singleton_inj.mp htexts)

theorem PlannedAt.stagesIn_iff (h : PlannedAt target mark plan) :
    StagesIn plan table ↔
      table = ⟨target.db, stagingTableName target.stagingName mark.time mark.digit⟩ := by
  obtain ⟨σ, services, state, targets, format, entity, schema, htarget, hplan⟩ := h
  have hends := ends services (planConversion targets format entity schema (.ok mark)) state
  rw [hplan] at hends
  obtain ⟨_, _, -, -, basis, -, hname, rfl⟩ := exists_basis_of_target hends htarget
  rw [← hname]
  constructor
  · exact fun hstages => hstages.unique basis.stagesIn
  · rintro rfl
    exact basis.stagesIn

/-- The name of a staging table tells the prefix, the time and the digit that it is put together
from. So conversions stage data in one table just when these three and the database are the same.
-/
theorem staging_tables_identify_runs :
    (∀ (stem other : String) (time moment : Int) (digit last : Nat), digit < 10 → last < 10 →
      (stagingTableName stem time digit = stagingTableName other moment last ↔
        stem = other ∧ time = moment ∧ digit = last)) ∧
    ∀ (target other : Target) (mark stamp : RunMark) (plan next : ConversionPlan),
      mark.digit < 10 → stamp.digit < 10 → PlannedAt target mark plan →
      PlannedAt other stamp next →
      ((∃ table, StagesIn plan table ∧ StagesIn next table) ↔
        target.db = other.db ∧ target.stagingName = other.stagingName ∧
          mark.time = stamp.time ∧ mark.digit = stamp.digit) := by
  constructor
  · intro stem other time moment digit last hdigit hlast
    exact stagingTableName_eq_iff hdigit hlast
  · intro target other mark stamp plan next hmark hstamp hplan hnext
    simp only [hplan.stagesIn_iff, hnext.stagesIn_iff, exists_eq_left, TableName.mk.injEq,
      stagingTableName_eq_iff hmark hstamp]

end

/-- Visits that a rehearsal plans are planned at the mark that it is given. -/
theorem Sample.exists_plannedAt {entity : Entity} {mark : RunMark} {name : String}
    (h : (((planConversion (fun _ => some warehouse) .nested entity (some numbers)
      (.ok mark)).run Rehearsal.services {}).result.toOption.map fun plan =>
        plan.entity.completeName) = some name) :
    ∃ plan, PlannedAt warehouse mark plan ∧ plan.entity.completeName = name := by
  obtain ⟨plan, hplan, hname⟩ := Option.map_eq_some_iff.mp h
  exact ⟨plan, ⟨_, Rehearsal.services, {}, _, .nested, entity, some numbers, rfl,
    Except.toOption_eq_some.mp hplan⟩, hname⟩

open Sample in
theorem staging_tables_identify_runs_visits :
    stagingTableName "visits_1" 2 3 ≠ stagingTableName "visits" 12 3 ∧
    ∃ hourly daily later, PlannedAt warehouse ⟨12, 3⟩ hourly ∧ PlannedAt warehouse ⟨12, 3⟩ daily ∧
      PlannedAt warehouse ⟨1, 2⟩ later ∧
      hourly.entity.completeName = "raw@visits@ds=1/hour=2" ∧
      daily.entity.completeName = "raw@visits@ds=1" ∧
      later.entity.completeName = "raw@visits@ds=1" ∧
      (∃ table, StagesIn hourly table ∧ StagesIn daily table) ∧
      ¬ ∃ table, StagesIn daily table ∧ StagesIn later table := by
  obtain ⟨hourly, hhourly, hhourlyName⟩ := @exists_plannedAt hourlyVisits ⟨12, 3⟩
    "raw@visits@ds=1/hour=2" (by decide +kernel)
  obtain ⟨daily, hdaily, hdailyName⟩ := @exists_plannedAt visits ⟨12, 3⟩ "raw@visits@ds=1"
    (by decide +kernel)
  obtain ⟨later, hlater, hlaterName⟩ := @exists_plannedAt visits ⟨1, 2⟩ "raw@visits@ds=1"
    (by decide +kernel)
  obtain ⟨hnames, hruns⟩ := staging_tables_identify_runs
  have hsame := hruns warehouse warehouse ⟨12, 3⟩ ⟨12, 3⟩ hourly daily (by decide) (by decide)
    hhourly hdaily
  have hother := hruns warehouse warehouse ⟨12, 3⟩ ⟨1, 2⟩ daily later (by decide) (by decide)
    hdaily hlater
  refine ⟨?_, hourly, daily, later, hhourly, hdaily, hlater, hhourlyName, hdailyName, hlaterName,
    hsame.mpr ⟨rfl, rfl, rfl, rfl⟩, ?_⟩
  · intro heq
    obtain ⟨-, htime, -⟩ := (hnames _ _ _ _ _ _ (by decide) (by decide)).mp heq
    exact absurd htime (by decide)
  · intro hshared
    obtain ⟨-, -, htime, -⟩ := hother.mp hshared
    exact absurd htime (by decide)

end OrcConversion
