import OrcConversion.Proofs.Conversion.PhaseCalls

/-! How planning ends: refused for what it is given, without its destination, without the directory
of its target, with something that cannot be written down, or with a plan. -/

namespace OrcConversion

open Workflow

variable {σ : Type} {services : Services σ} {state after : σ} {trace : List Exchange}

/-- How planning with the settings of a target ends. -/
inductive PlanningRun (services : Services σ) (target : Target) (format : OutputFormat)
    (entity : Entity) (schema : Arrow.Schema) (mark : RunMark) (state : σ) :
    List Exchange → Except Failure ConversionPlan → Prop where
  | refused {failure : Failure} : prepare format entity schema mark = .error failure →
      failure.Refuses →
      PlanningRun services target format entity schema mark state [] (.error failure)
  | unlocated {lookups : List Exchange} {failure : Failure} {after : σ} :
      Ends services (loadDestination target.db target.table) state lookups (.error failure) after →
      PlanningRun services target format entity schema mark state lookups (.error failure)
  | unprepared {lookups prepared : List Exchange} {destination : Destination} {failure : Failure}
      {middle after : σ} :
      Ends services (loadDestination target.db target.table) state lookups (.ok destination)
        middle →
      Ends services (createDestinationDirectory target.dataPath entity.table.dataLocation) middle
        prepared (.error failure) after →
      PlanningRun services target format entity schema mark state (lookups ++ prepared)
        (.error failure)
  | unwritten {lookups prepared : List Exchange} {shaped : Arrow.Schema}
      {columns : List Hive.Column} {destination : Destination} {permission : Int}
      {failure : Failure} {middle after : σ} :
      prepare format entity schema mark = .ok (shaped, columns) →
      StagingPlan.build entity shaped target
        (stagingTableName target.stagingName mark.time mark.digit) destination = .error failure →
      failure.IsForeign →
      Ends services (loadDestination target.db target.table) state lookups (.ok destination)
        middle →
      Ends services (createDestinationDirectory target.dataPath entity.table.dataLocation) middle
        prepared (.ok permission) after →
      PlanningRun services target format entity schema mark state (lookups ++ prepared)
        (.error failure)
  | planned {lookups prepared : List Exchange} {shaped : Arrow.Schema} {permission : Int}
      {middle after : σ} (basis : PlanBasis entity shaped target) :
      format.shape schema = .ok shaped →
      basis.stagingTable = stagingTableName target.stagingName mark.time mark.digit →
      Ends services (loadDestination target.db target.table) state lookups
        (.ok basis.destination) middle →
      Ends services (createDestinationDirectory target.dataPath entity.table.dataLocation) middle
        prepared (.ok permission) after →
      PlanningRun services target format entity schema mark state (lookups ++ prepared)
        (.ok basis.plan)

section

variable {targets : Targets} {target : Target} {format : OutputFormat} {entity : Entity}
  {mark : RunMark} {result : Except Failure ConversionPlan}

theorem planningRun_planWith {schema : Arrow.Schema}
    (h : Ends services (planWith target format entity schema (.ok mark)) state trace result
      after) : PlanningRun services target format entity schema mark state trace result := by
  rw [planWith_eq] at h
  cases hprepare : prepare format entity schema mark with
  | error failure =>
      rw [hprepare] at h
      obtain ⟨rfl, rfl, -⟩ := h
      exact .refused hprepare (blames_prepare format entity schema mark failure hprepare)
  | ok pair =>
      obtain ⟨shaped, columns⟩ := pair
      obtain ⟨hshape, hcheck, -⟩ := prepare_eq_ok.mp hprepare
      rw [hprepare, Workflow.ofExcept, finish_ok_bind] at h
      rcases h.bind_cases with ⟨destination, _, lookups, _, hload, hrest, rfl⟩ |
        ⟨failure, hload, rfl⟩
      · rcases hrest.bind_cases with ⟨permission, middle, prepared, _, hmade, hplan, rfl⟩ |
          ⟨failure, hmade, rfl⟩
        · rcases planStatements_cases hcheck target format
              (stagingTableName target.stagingName mark.time mark.digit) destination with
            ⟨basis, htable, rfl, -, hsettles⟩ | ⟨failure, hbuild, hforeign, hsettles⟩
          · obtain ⟨rfl, rfl⟩ := hsettles.eq_of_ends hplan
            rw [List.append_nil]
            exact .planned basis hshape htable hload hmade
          · obtain ⟨rfl, rfl⟩ := hsettles.eq_of_ends hplan
            rw [List.append_nil]
            exact .unwritten hprepare hbuild hforeign hload hmade
        · exact .unprepared hload hmade
      · exact .unlocated hload

/-- Without settings there is nothing to plan, and without fields there is nothing to plan for. -/
theorem planConversion_cases {schema : Option Arrow.Schema}
    (h : Ends services (planConversion targets format entity schema (.ok mark)) state trace result
      after) :
    (targets format = none ∧ trace = [] ∧ result = .ok { entity }) ∨
    ∃ target, targets format = some target ∧
      ((trace = [] ∧ result = .error (.emptySchema entity.completeName)) ∨
      ∃ fields, schema = some fields ∧ fields ≠ [] ∧
        PlanningRun services target format entity fields mark state trace result) := by
  unfold planConversion at h
  split at h
  · rename_i hnone
    obtain ⟨rfl, rfl, -⟩ := h
    exact .inl ⟨hnone, rfl, rfl⟩
  · rename_i target htarget
    refine .inr ⟨target, htarget, ?_⟩
    split at h
    · obtain ⟨rfl, rfl, -⟩ := h
      exact .inl ⟨rfl, rfl⟩
    · obtain ⟨rfl, rfl, -⟩ := h
      exact .inl ⟨rfl, rfl⟩
    · rename_i fields hfields
      exact .inr ⟨fields, rfl, fun hnil => hfields (hnil ▸ rfl), planningRun_planWith h⟩

theorem planConversion_calls {schema : Option Arrow.Schema} {plan : ConversionPlan}
    {publish : PublishPlan}
    (h : Ends services (planConversion targets format entity schema (.ok mark)) state trace
      (.ok plan) after) (hpublish : plan.publish = some publish) :
    ∃ target lookups permission, targets format = some target ∧
      trace.map Exchange.call =
        lookups ++ directoryCalls target.dataPath entity.table.dataLocation permission ∧
      ∀ call ∈ lookups, call.AsksCatalog := by
  rcases planConversion_cases h with ⟨-, -, hnothing⟩ |
    ⟨target, htarget, ⟨-, hempty⟩ | ⟨fields, -, -, hrun⟩⟩
  · cases hnothing
    cases hpublish
  · cases hempty
  · cases hrun with
    | @planned lookups prepared _ permission _ _ basis _ _ hload hmade =>
        refine ⟨target, lookups.map Exchange.call, permission, htarget, ?_, ?_⟩
        · rw [List.map_append, createDestinationDirectory_calls hmade]
        · intro call hmem
          obtain ⟨exchange, hexchange, rfl⟩ := List.mem_map.mp hmem
          exact (asksOnly_loadDestination _ _).of_ends hload exchange hexchange

theorem exists_basis_of_target {schema : Option Arrow.Schema} {plan : ConversionPlan}
    (h : Ends services (planConversion targets format entity schema (.ok mark)) state trace
      (.ok plan) after) (htarget : targets format = some target) :
    ∃ fields shaped, schema = some fields ∧ format.shape fields = .ok shaped ∧
      ∃ basis : PlanBasis entity shaped target,
        ((loadDestination target.db target.table).run services state).result =
          .ok basis.destination ∧
        basis.stagingTable = stagingTableName target.stagingName mark.time mark.digit ∧
        basis.plan = plan := by
  rcases planConversion_cases h with ⟨hnone, -, -⟩ |
    ⟨other, hother, ⟨-, hempty⟩ | ⟨fields, hfields, -, hrun⟩⟩
  · cases hnone.symm.trans htarget
  · cases hempty
  · cases htarget.symm.trans hother
    cases hrun with
    | planned basis hshape htable hload _ =>
        exact ⟨fields, _, hfields, hshape, basis, hload.result_eq, htable, rfl⟩

theorem exists_target_of_published {schema : Option Arrow.Schema} {plan : ConversionPlan}
    {publish : PublishPlan}
    (h : Ends services (planConversion targets format entity schema (.ok mark)) state trace
      (.ok plan) after) (hpublish : plan.publish = some publish) :
    ∃ target, targets format = some target := by
  rcases planConversion_cases h with ⟨-, -, hnothing⟩ | ⟨target, htarget, -⟩
  · cases hnothing
    cases hpublish
  · exact ⟨target, htarget⟩

theorem exists_planConversion_ok {fields shaped : Arrow.Schema} {columns : List Hive.Column}
    {destination : Destination} {permission : Int} (htarget : targets format = some target)
    (hfields : fields ≠ []) (hshape : format.shape fields = .ok shaped)
    (hcheck : checkEntity entity shaped = .ok columns)
    (hnumbers : ShortNumbers entity target mark.time) (hpaths : Arrow.HasPaths shaped)
    (hload : ((loadDestination target.db target.table).run services state).result =
      .ok destination)
    (hmade : ((createDestinationDirectory target.dataPath entity.table.dataLocation).run services
      ((loadDestination target.db target.table).run services state).state).result =
        .ok permission) :
    ∃ plan publish,
      ((planConversion targets format entity (some fields) (.ok mark)).run services state).result =
        .ok plan ∧ plan.publish = some publish := by
  obtain ⟨field, rest, rfl⟩ := List.exists_cons_of_ne_nil hfields
  have hplanner : planConversion targets format entity (some (field :: rest)) (.ok mark) =
      planWith target format entity (field :: rest) (.ok mark) := by
    rw [planConversion, htarget]
  obtain ⟨trace, result, after, hends⟩ : ∃ trace result after,
      Ends services (planWith target format entity (field :: rest) (.ok mark)) state trace result
        after := ⟨_, _, _, ends _ _ _⟩
  rw [hplanner, hends.result_eq]
  have hprepare := prepare_eq_ok.mpr ⟨hshape, hcheck, hnumbers.planned⟩
  cases planningRun_planWith hends with
  | refused hfault _ => cases hprepare.symm.trans hfault
  | unlocated hfailed => cases hload.symm.trans hfailed.result_eq
  | unprepared hfound hfailed =>
      rw [hfound.state_eq] at hmade
      cases hmade.symm.trans hfailed.result_eq
  | unwritten hother hbuild _ =>
      cases hprepare.symm.trans hother
      obtain ⟨_, _, hspec, -, hcolumns⟩ := checkEntity_eq_ok hcheck
      obtain ⟨staging, hstaging⟩ := StagingPlan.exists_build hnumbers hpaths hspec hcolumns
      cases hstaging.symm.trans hbuild
  | planned basis => exact ⟨basis.plan, basis.publication.plan, rfl, rfl⟩

theorem exists_published {α : Type} {result : Except Failure ConversionPlan}
    {observe : PublishPlan → α} {shown : α}
    (h : (result.toOption.bind (·.publish)).map observe = some shown) :
    ∃ plan publish, result = .ok plan ∧ plan.publish = some publish ∧ observe publish = shown := by
  obtain ⟨publish, hpublish, hshown⟩ := Option.map_eq_some_iff.mp h
  cases result with
  | error failure => cases hpublish
  | ok plan => exact ⟨plan, publish, rfl, hpublish, hshown⟩

end

end OrcConversion
