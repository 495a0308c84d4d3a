import OrcConversion.Proofs.Conversion.Checking
import OrcConversion.Proofs.Conversion.Halting

/-! The phases of a conversion: planning, staging and finalizing, and what each of them asks for. -/

namespace OrcConversion

open Workflow

/-- Exchanges of a conversion, phase by phase. -/
structure Phases where
  planning : List Exchange
  staging : List Exchange := []
  finalizing : List Exchange := []

def Phases.trace (phases : Phases) : List Exchange :=
  phases.planning ++ (phases.staging ++ phases.finalizing)

variable {σ : Type} {services : Services σ} {state middle later after : σ}

/-- The phases of a conversion that is planned by a workflow: it is staged if there is a plan to
publish, and published once it is staged. -/
def phasesOf (services : Services σ) (planner : Workflow ConversionPlan) (state : σ) : Phases :=
  let planned := planner.run services state
  let planning := planner.exchanges services state
  match planned.result with
  | .error _ => { planning }
  | .ok plan =>
      match plan.publish with
      | none => { planning }
      | some publish =>
          let staged := (execute plan.entity).run services planned.state
          let staging := (execute plan.entity).exchanges services planned.state
          match staged.result with
          | .error _ => { planning, staging }
          | .ok _ =>
              let finalizing := (finalize publish).exchanges services staged.state
              { planning, staging, finalizing }

theorem planning_phasesOf (services : Services σ) (planner : Workflow ConversionPlan) (state : σ) :
    (phasesOf services planner state).planning = planner.exchanges services state := by
  unfold phasesOf
  dsimp only
  split
  · rfl
  · split
    · rfl
    · split <;> rfl

/-- How far a conversion gets. -/
inductive Reaches (services : Services σ) (planner : Workflow ConversionPlan) (state : σ) :
    Phases → Except Failure ConversionPlan → Prop where
  | planning {trace : List Exchange} {failure : Failure} {after : σ} :
      Ends services planner state trace (.error failure) after →
      Reaches services planner state { planning := trace } (.error failure)
  | nothing {trace : List Exchange} {plan : ConversionPlan} {after : σ} :
      Ends services planner state trace (.ok plan) after → plan.publish = none →
      Reaches services planner state { planning := trace } (.ok plan)
  | staging {planning staging : List Exchange} {plan : ConversionPlan} {publish : PublishPlan}
      {failure : Failure} {middle after : σ} :
      Ends services planner state planning (.ok plan) middle → plan.publish = some publish →
      Ends services (execute plan.entity) middle staging (.error failure) after →
      Reaches services planner state { planning, staging } (.error failure)
  | finalizing {planning staging finalizing : List Exchange} {plan : ConversionPlan}
      {publish : PublishPlan} {result : Except Failure Unit} {middle later after : σ} :
      Ends services planner state planning (.ok plan) middle → plan.publish = some publish →
      Ends services (execute plan.entity) middle staging (.ok ()) later →
      Ends services (finalize publish) later finalizing result after →
      Reaches services planner state { planning, staging, finalizing }
        (result.map fun _ => plan)

/-- Stages and publishes what is planned. -/
def carryOut (plan : ConversionPlan) : Workflow ConversionPlan :=
  match plan.publish with
  | none => return plan
  | some publish => do
      execute plan.entity
      finalize publish
      return plan

theorem reaches (services : Services σ) (planner : Workflow ConversionPlan) (state : σ) :
    Reaches services planner state (phasesOf services planner state)
        ((planner >>= carryOut).run services state).result ∧
      (planner >>= carryOut).exchanges services state =
        (phasesOf services planner state).trace := by
  have hplanned := ends services planner state
  unfold phasesOf
  simp only
  cases hplan : (planner.run services state).result with
  | error failure =>
      rw [hplan] at hplanned
      have hends := hplanned.bind_error carryOut
      rw [hends.result_eq, hends.exchanges_eq]
      exact ⟨.planning hplanned, by simp [Phases.trace]⟩
  | ok plan =>
      rw [hplan] at hplanned
      dsimp only
      cases hpublish : plan.publish with
      | none =>
          have hnext : carryOut plan = finish (.ok plan) := by
            rw [carryOut, hpublish]
            rfl
          have hends := hplanned.bind (hnext ▸ Ends.finish services (.ok plan) _)
          rw [hends.result_eq, hends.exchanges_eq]
          exact ⟨.nothing hplanned hpublish, by simp [Phases.trace]⟩
      | some publish =>
          have hnext : carryOut plan = execute plan.entity >>= fun _ =>
              finalize publish >>= fun _ => return plan := by
            rw [carryOut, hpublish]
          have hstaged := ends services (execute plan.entity) (planner.run services state).state
          cases hstage : ((execute plan.entity).run services
              (planner.run services state).state).result with
          | error failure =>
              rw [hstage] at hstaged
              have hends := hplanned.bind (hnext ▸ hstaged.bind_error _)
              rw [hends.result_eq, hends.exchanges_eq]
              exact ⟨.staging hplanned hpublish hstaged, by simp [Phases.trace]⟩
          | ok value =>
              rw [hstage] at hstaged
              have hfinalized := ends services (finalize publish)
                ((execute plan.entity).run services (planner.run services state).state).state
              have hends := hplanned.bind
                (hnext ▸ hstaged.bind (hfinalized.map fun _ => plan))
              rw [hends.result_eq, hends.exchanges_eq]
              exact ⟨.finalizing hplanned hpublish hstaged hfinalized, rfl⟩

end OrcConversion
