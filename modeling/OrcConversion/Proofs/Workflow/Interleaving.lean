import OrcConversion.Conversion.Batch
import OrcConversion.Proofs.Workflow.Exchanges

/-! Workflows that are carried out side by side. -/

namespace OrcConversion

namespace Workflow

variable {σ α : Type}

/-- A run of workflows side by side with the same services, the exchanges of all of them in the
order in which they took place. Each workflow comes to an outcome of its own, at its own position.
-/
inductive Interleaves (services : Services σ) :
    List (Workflow α) → σ → List Exchange → List (Except Failure α) → σ → Prop where
  | finished (outcomes : List (Except Failure α)) (state : σ) :
      Interleaves services (outcomes.map finish) state [] outcomes state
  | report {workflows : List (Workflow α)} {turn : Nat} {record : Journal.Record}
      {next : Workflow α} {state after : σ} {trace : List Exchange}
      {outcomes : List (Except Failure α)} :
      workflows[turn]? = some (report record next) →
      Interleaves services (workflows.set turn next) state trace outcomes after →
      Interleaves services workflows state trace outcomes after
  | ask {workflows : List (Workflow α)} {turn : Nat} {call : Call}
      {resume : Except Failure call.Reply → Workflow α} {state after : σ} {trace : List Exchange}
      {outcomes : List (Except Failure α)} :
      workflows[turn]? = some (ask call resume) →
      Interleaves services (workflows.set turn (resume (services.answer call state).1))
        (services.answer call state).2 trace outcomes after →
      Interleaves services workflows state (⟨call, (services.answer call state).1⟩ :: trace)
        outcomes after

variable {services : Services σ} {workflows : List (Workflow α)} {state after : σ}
  {trace : List Exchange} {outcomes : List (Except Failure α)}

theorem Interleaves.length_eq (h : Interleaves services workflows state trace outcomes after) :
    outcomes.length = workflows.length := by
  induction h with
  | finished outcomes state => exact (List.length_map _).symm
  | report _ _ ih => rwa [List.length_set] at ih
  | ask _ _ ih => rwa [List.length_set] at ih

/-- A workflow that is finished does not take part. -/
theorem Interleaves.cons (h : Interleaves services workflows state trace outcomes after)
    (result : Except Failure α) :
    Interleaves services (finish result :: workflows) state trace (result :: outcomes) after := by
  induction h with
  | finished outcomes state => exact .finished (result :: outcomes) state
  | @report workflows turn record next _ _ _ _ hturn _ ih =>
      have hbehind : (finish result :: workflows)[turn + 1]? =
          some (Workflow.report record next) := by
        rwa [List.getElem?_cons_succ]
      refine .report hbehind ?_
      rwa [List.set_cons_succ]
  | @ask workflows turn call resume _ _ _ _ hturn _ ih =>
      have hbehind : (finish result :: workflows)[turn + 1]? = some (Workflow.ask call resume) := by
        rwa [List.getElem?_cons_succ]
      refine .ask hbehind ?_
      rwa [List.set_cons_succ]

/-! ## One after another -/

theorem interleaves_attemptAll (services : Services σ) (workflows : List (Workflow α))
    (state : σ) :
    ∃ trace outcomes after,
      Ends services (attemptAll workflows) state trace (.ok outcomes) after ∧
        Interleaves services workflows state trace outcomes after := by
  induction workflows generalizing state with
  | nil => exact ⟨[], [], state, .finish services (.ok []) state, .finished [] state⟩
  | cons workflow rest ih =>
      induction workflow generalizing state with
      | finish result =>
          obtain ⟨trace, outcomes, after, hends, hinterleaves⟩ := ih state
          exact ⟨trace, result :: outcomes, after, hends.map (result :: ·),
            hinterleaves.cons result⟩
      | report record next inner =>
          obtain ⟨trace, outcomes, after, hends, hinterleaves⟩ := inner state
          have hfirst : (report record next :: rest)[0]? = some (report record next) := rfl
          exact ⟨trace, outcomes, after, hends.report record, .report hfirst hinterleaves⟩
      | ask call resume inner =>
          obtain ⟨trace, outcomes, after, hends, hinterleaves⟩ :=
            inner (services.answer call state).1 (services.answer call state).2
          have hfirst : (ask call resume :: rest)[0]? = some (ask call resume) := rfl
          exact ⟨_, outcomes, after, hends.ask, .ask hfirst hinterleaves⟩

theorem attemptAll_finished (outcomes : List (Except Failure α)) :
    attemptAll (outcomes.map finish) = finish (.ok outcomes) := by
  induction outcomes with
  | nil => rfl
  | cons result rest ih =>
      rw [List.map_cons, attemptAll, ih]
      rfl

/-! ## Side by side -/

/-- Carrying workflows out by a schedule is a run of them side by side, and none stops another. -/
theorem interleaves_attemptTogether (services : Services σ) (schedule : List Nat)
    (workflows : List (Workflow α)) (state : σ) :
    ∃ trace outcomes after,
      Ends services (attemptTogether schedule workflows) state trace (.ok outcomes) after ∧
        Interleaves services workflows state trace outcomes after := by
  induction schedule generalizing workflows state with
  | nil => exact interleaves_attemptAll services workflows state
  | cons turn schedule ih =>
      rw [attemptTogether]
      split
      · rename_i record next hturn
        obtain ⟨trace, outcomes, after, hends, hinterleaves⟩ := ih (workflows.set turn next) state
        exact ⟨trace, outcomes, after, hends.report record, .report hturn hinterleaves⟩
      · rename_i call resume hturn
        obtain ⟨trace, outcomes, after, hends, hinterleaves⟩ :=
          ih (workflows.set turn (resume (services.answer call state).1))
            (services.answer call state).2
        exact ⟨_, outcomes, after, hends.ask, .ask hturn hinterleaves⟩
      · exact ih workflows state

/-- Whatever the order of steps is, some schedule leads to it. -/
theorem Interleaves.exists_schedule
    (h : Interleaves services workflows state trace outcomes after) :
    ∃ schedule,
      Ends services (attemptTogether schedule workflows) state trace (.ok outcomes) after := by
  induction h with
  | finished outcomes state =>
      refine ⟨[], ?_⟩
      rw [attemptTogether, attemptAll_finished]
      exact .finish services (.ok outcomes) state
  | @report _ turn record _ _ _ _ _ hturn _ ih =>
      obtain ⟨schedule, hends⟩ := ih
      refine ⟨turn :: schedule, ?_⟩
      rw [attemptTogether, hturn]
      exact hends.report record
  | @ask _ turn _ _ _ _ _ _ hturn _ ih =>
      obtain ⟨schedule, hends⟩ := ih
      refine ⟨turn :: schedule, ?_⟩
      rw [attemptTogether, hturn]
      exact Ends.ask hends

end Workflow

end OrcConversion
