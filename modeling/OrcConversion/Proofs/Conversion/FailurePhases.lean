import OrcConversion.Proofs.Conversion.PartitionOrder
import OrcConversion.Proofs.Conversion.PlanningRuns

/-! The kind of a failure tells the phase that failed, and a conversion that failed has done the
beginning of one that succeeds. -/

namespace OrcConversion

open Workflow

variable {σ : Type} {services : Services σ} {state after : σ} {trace : List Exchange}

/-- Kind of the failure that a result is. -/
def failureKind? {α : Type} : Except Failure α → Option FailureKind
  | .ok _ => none
  | .error failure => failure.kind?

def FailsWith {α : Type} (result : Except Failure α) (kind : FailureKind) : Prop :=
  failureKind? result = some kind

instance {α : Type} (result : Except Failure α) (kind : FailureKind) :
    Decidable (FailsWith result kind) :=
  inferInstanceAs (Decidable (failureKind? result = some kind))

@[simp] theorem not_failsWith_ok {α : Type} (value : α) (kind : FailureKind) :
    ¬ FailsWith (.ok value : Except Failure α) kind := by
  intro h
  cases h

theorem failsWith_error {α : Type} {failure : Failure} {kind : FailureKind}
    (h : failure.IsKind kind) (other : FailureKind) :
    FailsWith (.error failure : Except Failure α) other ↔ kind = other := by
  change failure.kind? = some other ↔ kind = other
  rw [h, Option.some_inj]

theorem FailsWith.exists_error {α : Type} {result : Except Failure α} {kind : FailureKind}
    (h : FailsWith result kind) : ∃ failure, result = .error failure ∧ failure.IsKind kind := by
  cases result with
  | ok value => exact (not_failsWith_ok value kind h).elim
  | error failure => exact ⟨failure, rfl, h⟩

/-! ## Staging -/

/-- The exchange of a statement that was executed. -/
def executed (statement : String) : Exchange :=
  ⟨.execute statement, .ok ()⟩

/-- Exchanges of the staging of some statements up to the first that failed. -/
def StagesUntil (statements : List String) (trace : List Exchange) : Prop :=
  ∃ done statement rest cause, statements = done ++ statement :: rest ∧
    trace = done.map executed ++ [⟨.execute statement, .error cause⟩]

theorem executeStatement_cases {statement : String} {result : Except Failure Unit}
    (h : Ends services (executeStatement statement) state trace result after) :
    (result = .ok () ∧ trace = [executed statement]) ∨
    ∃ failure cause, result = .error failure ∧ trace = [⟨.execute statement, .error cause⟩] := by
  obtain ⟨rfl, rfl, -⟩ := h
  have hends := (Ends.call services (.execute statement) state).mapFailure
    (·.unlessKind .execution (.stagingFailed statement))
  rw [executeStatement, hends.result_eq, hends.exchanges_eq]
  cases (services.answer (.execute statement) state).1 with
  | ok value => exact .inl ⟨rfl, rfl⟩
  | error cause => exact .inr ⟨_, cause, rfl, rfl⟩

theorem executeStatements_cases {statements : List String} {result : Except Failure Unit}
    (h : Ends services (executeStatements statements) state trace result after) :
    (result = .ok () ∧ trace = statements.map executed) ∨
    ((∃ failure, result = .error failure) ∧ StagesUntil statements trace) := by
  induction statements generalizing state trace with
  | nil =>
      obtain ⟨rfl, rfl, -⟩ := h
      exact .inl ⟨rfl, rfl⟩
  | cons statement rest ih =>
      have hcalls : Ends services (executeStatement statement >>= fun _ => executeStatements rest)
          state trace result after := ⟨h.exchanges_eq, h.result_eq, h.state_eq⟩
      rcases hcalls.bind_cases with ⟨_, middle, first, later, hfirst, hrest, rfl⟩ |
        ⟨failure, hfirst, hresult⟩
      · rcases executeStatement_cases hfirst with ⟨-, rfl⟩ | ⟨_, _, herror, -⟩
        · rcases ih hrest with ⟨hok, rfl⟩ | ⟨hfailed, done, last, remaining, cause, rfl, rfl⟩
          · exact .inl ⟨hok, rfl⟩
          · exact .inr ⟨hfailed, statement :: done, last, remaining, cause, rfl, rfl⟩
        · cases herror
      · rcases executeStatement_cases hfirst with ⟨hok, -⟩ | ⟨_, cause, -, rfl⟩
        · cases hok
        · exact .inr ⟨⟨failure, hresult⟩, [], statement, rest, cause, rfl, rfl⟩

theorem execute_cases {entity : Entity} {result : Except Failure Unit}
    (h : Ends services (execute entity) state trace result after) :
    (result = .ok () ∧ trace = entity.statements.map executed) ∨
    ((∃ failure, result = .error failure) ∧ StagesUntil entity.statements trace) := by
  rcases h.bind_cases with ⟨_, middle, first, later, hfirst, hnote, rfl⟩ |
    ⟨failure, hfirst, hresult⟩
  · obtain ⟨rfl, rfl, -⟩ := hnote
    rcases executeStatements_cases hfirst with ⟨-, rfl⟩ | ⟨⟨_, herror⟩, -⟩
    · exact .inl ⟨rfl, List.append_nil _⟩
    · cases herror
  · rcases executeStatements_cases hfirst with ⟨hok, -⟩ | ⟨-, hstages⟩
    · cases hok
    · exact .inr ⟨⟨failure, hresult⟩, hstages⟩

/-! ## Planning -/

variable {targets : Targets} {format : OutputFormat} {entity : Entity}
  {schema : Option Arrow.Schema} {mark : RunMark}

/-- Planning fails by a call or by a fault from outside, unless it is refused before any call. -/
theorem halts_or_refused (targets : Targets) (format : OutputFormat) (entity : Entity)
    (schema : Option Arrow.Schema) (mark : RunMark) :
    (planConversion targets format entity schema (.ok mark)).Halts Failure.IsForeign
      planningFailure ∨
    ∃ failure, Settles (planConversion targets format entity schema (.ok mark)) (.error failure) ∧
      (failure.IsKind .planning ∨ failure.IsKind .configuration) := by
  unfold planConversion
  cases targets format with
  | none => exact .inl ((Halts.note _ _ _).bind fun _ => .finish _)
  | some target =>
      rcases schema with _ | _ | ⟨field, fields⟩
      · exact .inr ⟨_, .ofExcept (.error _), .inl rfl⟩
      · exact .inr ⟨_, .ofExcept (.error _), .inl rfl⟩
      · cases hprepare : prepare format entity (field :: fields) mark with
        | ok pair => exact .inl (halts_planWith hprepare)
        | error failure =>
            have hsettles : Settles (planWith target format entity (field :: fields) (.ok mark))
                (.error failure) := by
              rw [planWith_eq, hprepare]
              exact (Settles.ofExcept _).bind_error _
            rcases blames_prepare format entity (field :: fields) mark failure hprepare with
              hkind | hforeign
            · exact .inr ⟨failure, hsettles, .inr hkind⟩
            · exact .inl (.of_settles hsettles (.error hforeign))

theorem planned_well {plan : ConversionPlan}
    (h : Ends services (planConversion targets format entity schema (.ok mark)) state trace
      (.ok plan) after) : ∀ exchange ∈ trace, ¬ exchange.Fails := by
  rcases halts_or_refused targets format entity schema mark with hhalts | ⟨_, hsettles, -⟩
  · exact hhalts.well_of_ok h
  · cases (hsettles.ends services state).result_eq.symm.trans h.result_eq

/-! ## Phases -/

/-- The kind of a failure tells the phase that a call failed, and no phase follows that one. -/
structure TellsPhase (phases : Phases) (result : Except Failure ConversionPlan) : Prop where
  filesystem_iff : FailsWith result .filesystem ↔
    ∃ exchange ∈ phases.planning, exchange.call.PreparesDirectory ∧ exchange.Fails
  catalog_iff : FailsWith result .catalog ↔
    ∃ exchange ∈ phases.planning, exchange.call.AsksCatalog ∧ exchange.Fails
  execution_iff : FailsWith result .execution ↔ ∃ exchange ∈ phases.staging, exchange.Fails
  publishing_iff : FailsWith result .publishing ↔ ∃ exchange ∈ phases.finalizing, exchange.Fails
  planning_stops : (∃ exchange ∈ phases.planning, exchange.Fails) →
    phases.staging = [] ∧ phases.finalizing = []
  staging_stops : (∃ exchange ∈ phases.staging, exchange.Fails) → phases.finalizing = []

section

variable {planning staging finalizing done : List Exchange} {last : Exchange}
  {plan : ConversionPlan} {failure : Failure} {phases : Phases}
  {result : Except Failure ConversionPlan}

theorem TellsPhase.of_planning (h : StopsAt planning done last)
    (hkind : failure.IsKind last.call.planningKind)
    (hcall : last.call.AsksCatalog ∨ last.call.PreparesDirectory) :
    TellsPhase { planning } (.error failure) := by
  constructor
  · rw [failsWith_error hkind, h.exists_fails_iff, last.call.planningKind_eq_filesystem hcall]
  · rw [failsWith_error hkind, h.exists_fails_iff, last.call.planningKind_eq_catalog]
  · rw [failsWith_error hkind]
    rcases last.call.planningKind_cases with hcatalog | hfilesystem
    · simp [hcatalog]
    · simp [hfilesystem]
  · rw [failsWith_error hkind]
    rcases last.call.planningKind_cases with hcatalog | hfilesystem
    · simp [hcatalog]
    · simp [hfilesystem]
  · simp
  · simp

/-- No exchange fails, so none of some sort does. -/
theorem not_exists_fails {trace : List Exchange}
    (hwell : ∀ exchange ∈ trace, ¬ exchange.Fails) (p : Exchange → Prop) :
    ¬ ∃ exchange ∈ trace, p exchange ∧ exchange.Fails := by
  rintro ⟨exchange, hmem, -, hfails⟩
  exact hwell exchange hmem hfails

theorem TellsPhase.of_refused (hwell : ∀ exchange ∈ planning, ¬ exchange.Fails)
    (h : failure.IsKind .planning ∨ failure.IsKind .configuration ∨ failure.IsForeign) :
    TellsPhase { planning } (.error failure) := by
  have hother : ∀ kind, kind ≠ .planning → kind ≠ .configuration →
      ¬ FailsWith (.error failure : Except Failure ConversionPlan) kind := by
    rintro kind hplanning hconfiguration hfails
    rcases h with h | h | ⟨fault, rfl⟩
    · exact hplanning ((failsWith_error h kind).mp hfails).symm
    · exact hconfiguration ((failsWith_error h kind).mp hfails).symm
    · cases hfails
  constructor
  · simp [hother, not_exists_fails hwell]
  · simp [hother, not_exists_fails hwell]
  · simp [hother]
  · simp [hother]
  · rintro ⟨exchange, hmem, hfails⟩
    exact absurd hfails (hwell exchange hmem)
  · simp

theorem TellsPhase.of_staging (hplanning : ∀ exchange ∈ planning, ¬ exchange.Fails)
    (h : StopsAt staging done last) (hkind : failure.IsKind .execution) :
    TellsPhase { planning, staging } (.error failure) := by
  constructor
  · simp [failsWith_error hkind, not_exists_fails hplanning]
  · simp [failsWith_error hkind, not_exists_fails hplanning]
  · simpa [failsWith_error hkind] using (h.exists_fails_iff fun _ => True).mpr trivial
  · simp [failsWith_error hkind]
  · rintro ⟨exchange, hmem, hfails⟩
    exact absurd hfails (hplanning exchange hmem)
  · exact fun _ => rfl

theorem TellsPhase.of_finalizing (hplanning : ∀ exchange ∈ planning, ¬ exchange.Fails)
    (hstaging : ∀ exchange ∈ staging, ¬ exchange.Fails) (h : StopsAt finalizing done last)
    (hkind : failure.IsKind .publishing) :
    TellsPhase { planning, staging, finalizing } (.error failure) := by
  constructor
  · simp [failsWith_error hkind, not_exists_fails hplanning]
  · simp [failsWith_error hkind, not_exists_fails hplanning]
  · simpa [failsWith_error hkind] using hstaging
  · simpa [failsWith_error hkind] using (h.exists_fails_iff fun _ => True).mpr trivial
  · rintro ⟨exchange, hmem, hfails⟩
    exact absurd hfails (hplanning exchange hmem)
  · rintro ⟨exchange, hmem, hfails⟩
    exact absurd hfails (hstaging exchange hmem)

theorem TellsPhase.of_ok (hwell : ∀ exchange ∈ phases.trace, ¬ exchange.Fails) :
    TellsPhase phases (.ok plan) := by
  simp only [Phases.trace, List.mem_append, or_imp, forall_and] at hwell
  obtain ⟨hplanning, hstaging, hfinalizing⟩ := hwell
  constructor
  · simp [not_exists_fails hplanning]
  · simp [not_exists_fails hplanning]
  · simpa using hstaging
  · simpa using hfinalizing
  · rintro ⟨exchange, hmem, hfails⟩
    exact absurd hfails (hplanning exchange hmem)
  · rintro ⟨exchange, hmem, hfails⟩
    exact absurd hfails (hstaging exchange hmem)

theorem Reaches.tellsPhase
    (h : Reaches services (planConversion targets format entity schema (.ok mark)) state phases
      result) : TellsPhase phases result := by
  cases h with
  | planning hplanned =>
      rcases halts_or_refused targets format entity schema mark with
        hhalts | ⟨failure, hsettles, hkind⟩
      · rcases hhalts.cases hplanned with ⟨hown, hwell⟩ | ⟨_, last, _, hstops, hfailure, hkind⟩
        · exact .of_refused hwell (.inr (.inr (hown _ rfl)))
        · cases hfailure
          have hcall := asksOnly_planConversion.of_ends hplanned last hstops.last_mem
          exact .of_planning hstops hkind hcall
      · have hsettled := hsettles.ends services state
        cases hsettled.result_eq.symm.trans hplanned.result_eq
        cases hsettled.exchanges_eq.symm.trans hplanned.exchanges_eq
        exact .of_refused (by simp) (hkind.imp_right .inl)
  | nothing hplanned hpublish =>
      apply TellsPhase.of_ok
      simpa [Phases.trace] using planned_well hplanned
  | staging hplanned hpublish hstaged =>
      rcases (halts_execute _).cases hstaged with ⟨hnone, -⟩ |
        ⟨_, _, _, hstops, hfailure, hkind⟩
      · exact (hnone _ rfl).elim
      · cases hfailure
        exact .of_staging (planned_well hplanned) hstops hkind
  | finalizing hplanned hpublish hstaged hfinalized =>
      have hstaging := (halts_execute _).well_of_ok hstaged
      rcases (halts_finalize _).cases hfinalized with ⟨hnone, hwell⟩ |
        ⟨_, _, _, hstops, rfl, hkind⟩
      · obtain ⟨_, rfl⟩ := hnone.exists_ok
        apply TellsPhase.of_ok
        simp only [Phases.trace, List.mem_append]
        rintro exchange (hmem | hmem | hmem)
        · exact planned_well hplanned exchange hmem
        · exact hstaging exchange hmem
        · exact hwell exchange hmem
      · exact .of_finalizing (planned_well hplanned) hstaging hstops hkind

end

/-! ## Whole conversions -/

/-- Failures of any kind, whichever call they follow. -/
abbrev ofSomeKind : Call → Failure → Prop :=
  fun _ failure => ∃ kind, failure.IsKind kind

theorem halts_carryOut (plan : ConversionPlan) :
    (carryOut plan).Halts noFailure ofSomeKind := by
  unfold carryOut
  split
  · exact .finish _
  · rename_i publish hpublish
    apply ((halts_execute _).mono (fun _ => id) fun _ _ hkind => ⟨_, hkind⟩).bind
    intro _
    apply ((halts_finalize publish).mono (fun _ => id) fun _ _ hkind => ⟨_, hkind⟩).bind
    intro _
    exact .finish _

theorem convert_eq (targets : Targets) (format : OutputFormat) (schema : Option Arrow.Schema)
    (mark : Except Failure RunMark) (entity : Entity) :
    convert targets format schema mark entity =
      planConversion targets format entity schema mark >>= carryOut := rfl

theorem halts_convert
    (h : (planConversion targets format entity schema (.ok mark)).Halts Failure.IsForeign
      planningFailure) :
    (convert targets format schema (.ok mark) entity).Halts Failure.IsForeign ofSomeKind := by
  rw [convert_eq]
  apply (h.mono (fun _ => id) fun _ _ hkind => ⟨_, hkind⟩).bind
  intro plan
  exact (halts_carryOut plan).of_noFailure

/-- With services that reply well, a conversion gets through if it is planned. -/
theorem Workflow.Halts.forgiving_gets_through
    (h : (planConversion targets format entity schema (.ok mark)).Halts Failure.IsForeign
      planningFailure) (services : Services σ) (state : σ) :
    (∃ plan, ((convert targets format schema (.ok mark) entity).run services.forgiving
      state).result = .ok plan) ∨
    ∃ fault, ((planConversion targets format entity schema (.ok mark)).run services.forgiving
      state).result = .error (.foreign fault) := by
  have hplanned := ends services.forgiving (planConversion targets format entity schema (.ok mark))
    state
  cases hresult : ((planConversion targets format entity schema (.ok mark)).run
      services.forgiving state).result with
  | ok plan =>
      rw [hresult] at hplanned
      have hboth := hplanned.bind (ends services.forgiving (carryOut plan) _)
      obtain ⟨value, hvalue⟩ := ((halts_carryOut plan).blames_forgiving services _).exists_ok
      exact .inl ⟨value, hboth.result_eq.trans hvalue⟩
  | error failure =>
      obtain ⟨fault, rfl⟩ := h.blames_forgiving services state failure hresult
      exact .inr ⟨fault, rfl⟩

/-- What fails a conversion that is planned is of a kind. -/
theorem planning_fails_of_foreign {failure : Failure} (hforeign : failure.IsForeign)
    (h : ((convert targets format schema (.ok mark) entity).run services state).result =
      .error failure) :
    ((planConversion targets format entity schema (.ok mark)).run services state).result =
      .error failure := by
  have hends := ends services (convert targets format schema (.ok mark) entity) state
  rw [h] at hends
  rcases hends.bind_cases with ⟨plan, _, _, _, -, hcarried, -⟩ | ⟨_, hplanned, hresult⟩
  · obtain ⟨fault, rfl⟩ := hforeign
    rcases (halts_carryOut plan).cases hcarried with ⟨hnone, -⟩ | ⟨_, _, _, -, hother, kind, hkind⟩
    · exact (hnone _ rfl).elim
    · cases hother
      cases hkind
  · cases hresult
    exact hplanned.result_eq

theorem Call.not_isExecution {call : Call} (h : call.AsksCatalog ∨ call.PreparesDirectory) :
    ¬ call.IsExecution := by
  rintro ⟨statement, rfl⟩
  exact h.elim id id

section

variable {planner : Workflow ConversionPlan} {phases : Phases}
  {result : Except Failure ConversionPlan}

theorem Reaches.of_staging_fails (h : Reaches services planner state phases result)
    (hfails : ∃ exchange ∈ phases.staging, exchange.Fails) :
    ∃ plan publish middle, Ends services planner state phases.planning (.ok plan) middle ∧
      plan.publish = some publish ∧ StagesUntil plan.entity.statements phases.staging ∧
      phases.finalizing = [] := by
  obtain ⟨exchange, hmem, hexchange⟩ := hfails
  cases h with
  | planning => cases hmem
  | nothing => cases hmem
  | staging hplanned hpublish hstaged =>
      rcases execute_cases hstaged with ⟨hok, -⟩ | ⟨-, hstages⟩
      · cases hok
      · exact ⟨_, _, _, hplanned, hpublish, hstages, rfl⟩
  | finalizing hplanned hpublish hstaged hfinalized =>
      exact absurd hexchange ((halts_execute _).well_of_ok hstaged exchange hmem)

theorem Reaches.of_finalizing_fails (h : Reaches services planner state phases result)
    (hfails : ∃ exchange ∈ phases.finalizing, exchange.Fails) :
    ∃ plan publish later, (planner.run services state).result = .ok plan ∧
      plan.publish = some publish ∧ phases.staging = plan.entity.statements.map executed ∧
      phases.finalizing = (finalize publish).exchanges services later := by
  obtain ⟨exchange, hmem, -⟩ := hfails
  cases h with
  | planning => cases hmem
  | nothing => cases hmem
  | staging => cases hmem
  | finalizing hplanned hpublish hstaged hfinalized =>
      rcases execute_cases hstaged with ⟨-, hall⟩ | ⟨⟨_, herror⟩, -⟩
      · exact ⟨_, _, _, hplanned.result_eq, hpublish, hall, hfinalized.exchanges_eq.symm⟩
      · cases herror

end

/-- The kind of a failure tells its phase, and what was done before is what a conversion begins with
that gets through. -/
theorem convert_failure_tells_phase (services : Services σ) (targets : Targets)
    (format : OutputFormat) (schema : Option Arrow.Schema) (mark : RunMark) (entity : Entity)
    (state : σ) :
    let planner := planConversion targets format entity schema (.ok mark)
    let conversion := convert targets format schema (.ok mark) entity
    let phases := phasesOf services planner state
    let trace := conversion.exchanges services state
    let result := (conversion.run services state).result
    trace = phases.trace ∧ TellsPhase phases result ∧
    (FailsWith result .filesystem → ∀ exchange ∈ trace, ¬ exchange.call.IsExecution) ∧
    (FailsWith result .execution → ∃ plan target lookups permission,
      (planner.run services state).result = .ok plan ∧ targets format = some target ∧
      phases.planning.map Exchange.call =
        lookups ++ directoryCalls target.dataPath entity.table.dataLocation permission ∧
      (∀ call ∈ lookups, call.AsksCatalog) ∧
      StagesUntil plan.entity.statements phases.staging ∧ phases.finalizing = []) ∧
    (FailsWith result .publishing → ∃ plan publish later,
      (planner.run services state).result = .ok plan ∧ plan.publish = some publish ∧
      phases.staging = plan.entity.statements.map executed ∧
      phases.finalizing = (finalize publish).exchanges services later) ∧
    (∀ failure, result = .error failure →
      (trace = [] ∧ (failure.IsKind .planning ∨ failure.IsKind .configuration)) ∨
      (failure.IsForeign ∧ (planner.run services state).result = .error failure ∧
        ∀ exchange ∈ trace, ¬ exchange.Fails) ∨
      ∃ done last, IsCut services conversion state done last ∧
        ((∃ plan, (conversion.run services.forgiving state).result = .ok plan) ∨
          ∃ fault, (planner.run services.forgiving state).result = .error (.foreign fault))) := by
  intro planner conversion phases trace result
  obtain ⟨hreaches, hphases⟩ := reaches services planner state
  have htrace : trace = phases.trace := hphases
  have hplanning : phases.planning = planner.exchanges services state :=
    planning_phasesOf services planner state
  have htells : TellsPhase phases result := hreaches.tellsPhase
  refine ⟨htrace, htells, ?_, ?_, ?_, ?_⟩
  · intro hfailure exchange hmem
    obtain ⟨failing, hfailing, -, hfails⟩ := htells.filesystem_iff.mp hfailure
    obtain ⟨hstaging, hfinalizing⟩ := htells.planning_stops ⟨failing, hfailing, hfails⟩
    rw [htrace, Phases.trace, hstaging, hfinalizing, List.append_nil, List.append_nil,
      hplanning] at hmem
    exact Call.not_isExecution (asksOnly_planConversion.allows services state exchange hmem)
  · intro hfailure
    obtain ⟨plan, publish, middle, hplanned, hpublish, hstages, hfinalizing⟩ :=
      hreaches.of_staging_fails (htells.execution_iff.mp hfailure)
    obtain ⟨target, lookups, permission, htarget, hcalls, hlookups⟩ :=
      planConversion_calls hplanned hpublish
    exact ⟨plan, target, lookups, permission, hplanned.result_eq, htarget, hcalls, hlookups,
      hstages, hfinalizing⟩
  · intro hfailure
    exact hreaches.of_finalizing_fails (htells.publishing_iff.mp hfailure)
  · intro failure hfailure
    rcases halts_or_refused targets format entity schema mark with hhalts | ⟨_, hsettles, hkind⟩
    · rcases (halts_convert hhalts).isCut hfailure with ⟨hforeign, hwell⟩ | ⟨done, last, hcut⟩
      · exact .inr (.inl ⟨hforeign, planning_fails_of_foreign hforeign hfailure, hwell⟩)
      · exact .inr (.inr ⟨done, last, hcut, hhalts.forgiving_gets_through services state⟩)
    · left
      have hends := (hsettles.bind_error carryOut).ends services state
      cases hends.result_eq.symm.trans hfailure
      exact ⟨hends.exchanges_eq, hkind⟩

namespace Sample

/-- The second setting of a staging run is refused, with a failure that looks like another phase. -/
def refusing : Rehearsal where
  mishaps := [{
    kind := .execute
    part := "partitionName"
    failure := .raised .publishing "refused" }]

end Sample

open Sample in
theorem convert_failure_tells_phase_settingRefused :
    let targets : Targets := fun _ => some warehouse
    let planner := planConversion targets .nested visits (some numbers) (.ok ⟨0, 0⟩)
    let conversion := convert targets .nested (some numbers) (.ok ⟨0, 0⟩) visits
    let phases := phasesOf Rehearsal.services planner refusing
    FailsWith (conversion.run Rehearsal.services refusing).result .execution ∧
      ∃ plan, (planner.run Rehearsal.services refusing).result = .ok plan ∧
        StagesUntil plan.entity.statements phases.staging ∧ phases.finalizing = [] ∧
        ∃ done last, IsCut Rehearsal.services conversion refusing done last := by
  intro targets planner conversion phases
  obtain ⟨_, _, _, hexecution, _, hcut⟩ := convert_failure_tells_phase Rehearsal.services
    targets .nested (some numbers) ⟨0, 0⟩ visits refusing
  have hfails : FailsWith (conversion.run Rehearsal.services refusing).result .execution := by
    decide +kernel
  obtain ⟨plan, _, _, _, hplan, _, _, _, hstages, hfinalizing⟩ := hexecution hfails
  obtain ⟨failure, hfailure, hkind⟩ := hfails.exists_error
  refine ⟨hfails, plan, hplan, hstages, hfinalizing, ?_⟩
  rcases hcut failure hfailure with ⟨_, hrefused | hrefused⟩ | ⟨⟨_, rfl⟩, _, _⟩ |
    ⟨done, last, hcut, _⟩
  · cases hkind.symm.trans hrefused
  · cases hkind.symm.trans hrefused
  · cases hkind
  · exact ⟨done, last, hcut⟩

end OrcConversion
