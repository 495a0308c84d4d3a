import OrcConversion.Conversion.Finalization
import OrcConversion.Proofs.Workflow.Stopping
import OrcConversion.Workflow.Rehearsal

/-! The order in which a publish plan is run, and how far it gets before a failure. -/

namespace OrcConversion

open Hive Workflow

/-! ## The calls of a plan -/

/-- Calls that replace directories in order, given whether something is there each time. -/
def replacementCalls : List (String × String) → List Bool → List Call
  | [], _ => []
  | (source, dest) :: rest, present =>
      .checkPath dest :: (if present.head? = some true then [.delete dest] else []) ++
        .move source dest :: replacementCalls rest present.tail

theorem replacementCalls_cons (source dest : String) (rest : List (String × String))
    (present : List Bool) :
    replacementCalls ((source, dest) :: rest) present =
      replacementCalls [(source, dest)] present ++ replacementCalls rest present.tail := by
  simp [replacementCalls]

namespace PublishPlan

def publishCalls (plan : PublishPlan) (present : List Bool) : List Call :=
  plan.before.map .execute ++
    (replacementCalls plan.publishDirectories.entries present ++ plan.after.map .execute)

def cleanUpCalls (plan : PublishPlan) : List Call :=
  plan.cleanupStatements.map .execute ++ plan.cleanupDirectories.map .delete

def finalizeCalls (plan : PublishPlan) (present : List Bool) : List Call :=
  plan.publishCalls present ++ plan.cleanUpCalls

end PublishPlan

/-! ## Runs -/

section

variable {σ α β : Type} (services : Services σ) (state : σ)

theorem performs_runStatements (statements : List String) :
    Performs services (runStatements statements) state (statements.map .execute) := by
  induction statements generalizing state with
  | nil => exact .finish services () state
  | cons statement rest ih =>
      apply (Performs.note services _ _ _ state).bind
      intro _ _
      apply ((Performs.call services (.execute statement) _).mapFailure _).bind
      intro _ _
      exact ih _

theorem performs_deleteDirectories (paths : List String) :
    Performs services (deleteDirectories paths) state (paths.map .delete) := by
  induction paths generalizing state with
  | nil => exact .finish services () state
  | cons path rest ih =>
      apply ((Performs.call services (.delete path) state).mapFailure _).bind
      intro _ _
      apply (Performs.note services _ _ _ _).bind
      intro _ _
      exact ih _

theorem performs_cleanUp (plan : PublishPlan) :
    Performs services (cleanUp plan) state plan.cleanUpCalls := by
  apply (performs_runStatements services state plan.cleanupStatements).bind
  intro _ _
  exact performs_deleteDirectories services _ plan.cleanupDirectories

theorem presences_of_follows {trace : List Exchange} {calls : List Call}
    (h : Follows trace calls) (hcalls : ∀ path, Call.checkPath path ∉ calls) :
    presences trace = [] := by
  apply List.filterMap_eq_nil_iff.mpr
  rintro ⟨call, reply⟩ hmem
  have hcall : call ∈ calls := h.begins.subset (List.mem_map_of_mem hmem)
  cases call with
  | checkPath path => exact absurd hcall (hcalls path)
  | _ => rfl

theorem presences_bind (workflow : Workflow α) (next : α → Workflow β)
    (hnext : ∀ value after, presences ((next value).exchanges services after) = []) :
    presences ((workflow >>= next).exchanges services state) =
      presences (workflow.exchanges services state) := by
  have hends := ends services workflow state
  cases hresult : (workflow.run services state).result with
  | ok value =>
      rw [hresult] at hends
      have hboth := hends.bind (ends services (next value) _)
      rw [hboth.exchanges_eq, presences_append, hnext, List.append_nil]
  | error failure =>
      rw [hresult] at hends
      rw [(hends.bind_error next).exchanges_eq]

/-- A directory is replaced by one call or two, after a look at what is there. -/
theorem performs_moveInto_present (source dest : String) (present : Bool) :
    Performs services
      (do
        if present then
          Workflow.call (.delete dest)
          debug .finalization ("Deleted existing " ++ dest)
        Workflow.call (.move source dest))
      state ((if present = true then [.delete dest] else []) ++ [.move source dest]) := by
  cases present with
  | false => exact .call services (.move source dest) state
  | true =>
      apply (Performs.call services (.delete dest) state).bind
      intro _ _
      apply (Performs.note services _ _ _ _).bind
      intro _ _
      exact .call services (.move source dest) _

theorem performs_moveInto (source dest : String) :
    let answers := presences ((moveInto source dest).exchanges services state)
    Performs services (moveInto source dest) state (replacementCalls [(source, dest)] answers) ∧
      (((moveInto source dest).run services state).result.isOk → answers.length = 1) := by
  have hcall := Ends.call services (.checkPath dest) state
  have hperforms := Performs.call services (.checkPath dest) state
  cases hreply : (services.answer (.checkPath dest) state).1 with
  | error failure =>
      rw [hreply] at hcall
      have hends : Ends services (moveInto source dest) state _ _ _ := hcall.bind_error _
      constructor
      · exact hperforms.bind_error hcall.result_eq _ _
      · rw [hends.result_eq]
        exact fun h => absurd h Bool.false_ne_true
  | ok present =>
      rw [hreply] at hcall
      have hlater := performs_moveInto_present services (services.answer (.checkPath dest) state).2
        source dest present
      have hends : Ends services (moveInto source dest) state _ _ _ :=
        hcall.bind (ends services _ _)
      have hnone := presences_of_follows hlater.stops.toFollows (by cases present <;> simp)
      have hanswers :
          presences ((moveInto source dest).exchanges services state) = [present] := by
        rw [hends.exchanges_eq, presences_append, hnone]
        rfl
      rw [hanswers]
      refine ⟨?_, fun _ => rfl⟩
      have hcalls : replacementCalls [(source, dest)] [present] =
          [.checkPath dest] ++
            ((if present = true then [.delete dest] else []) ++ [.move source dest]) := by
        simp [replacementCalls]
      rw [hcalls]
      apply hperforms.bind
      intro value hvalue
      rw [hcall.result_eq] at hvalue
      cases hvalue
      rw [hcall.state_eq]
      exact hlater

theorem performs_replaceDirectory (source dest : String) :
    let answers := presences ((replaceDirectory source dest).exchanges services state)
    Performs services (replaceDirectory source dest) state
        (replacementCalls [(source, dest)] answers) ∧
      (((replaceDirectory source dest).run services state).result.isOk → answers.length = 1) := by
  obtain ⟨hperforms, hlength⟩ := performs_moveInto services state source dest
  have hmoved := (ends services (moveInto source dest) state).mapFailure (.moveFailed source dest)
  have hanswers : presences ((replaceDirectory source dest).exchanges services state) =
      presences ((moveInto source dest).exchanges services state) := by
    rw [← hmoved.exchanges_eq]
    exact presences_bind services state _ _ fun _ _ => rfl
  have hreplaced : Performs services (replaceDirectory source dest) state
      (replacementCalls [(source, dest)]
        (presences ((moveInto source dest).exchanges services state)) ++ []) :=
    (hperforms.mapFailure (.moveFailed source dest)).bind fun _ _ => .note services _ _ _ _
  rw [List.append_nil] at hreplaced
  rw [hanswers]
  refine ⟨hreplaced, fun hok => hlength ?_⟩
  cases hresult : ((moveInto source dest).run services state).result with
  | ok value => rfl
  | error failure =>
      rw [hresult] at hmoved
      have hends : Ends services (replaceDirectory source dest) state _ _ _ :=
        hmoved.bind_error _
      rw [hends.result_eq] at hok
      exact hok

theorem performs_replaceDirectories (directories : List (String × String)) :
    Performs services (replaceDirectories directories) state
      (replacementCalls directories
        (presences ((replaceDirectories directories).exchanges services state))) := by
  induction directories generalizing state with
  | nil => exact .finish services () state
  | cons entry rest ih =>
      obtain ⟨source, dest⟩ := entry
      obtain ⟨hfirst, hlength⟩ := performs_replaceDirectory services state source dest
      have hends := ends services (replaceDirectory source dest) state
      rw [replacementCalls_cons]
      cases hresult : ((replaceDirectory source dest).run services state).result with
      | error failure =>
          rw [hresult] at hends
          have hboth : Ends services (replaceDirectories ((source, dest) :: rest)) state _ _ _ :=
            hends.bind_error _
          rw [hboth.exchanges_eq]
          exact hfirst.bind_error hresult _ _
      | ok value =>
          rw [hresult] at hends
          have hboth : Ends services (replaceDirectories ((source, dest) :: rest)) state _ _ _ :=
            hends.bind (ends services (replaceDirectories rest) _)
          obtain ⟨present, hpresent⟩ := List.length_eq_one_iff.mp (hlength (by rw [hresult]; rfl))
          rw [hpresent] at hfirst
          rw [hboth.exchanges_eq, presences_append, hpresent]
          apply hfirst.bind
          intro _ _
          exact ih _

theorem performs_publish (plan : PublishPlan) :
    Performs services (publish plan) state
      (plan.publishCalls (presences ((publish plan).exchanges services state))) := by
  have hbefore := performs_runStatements services state plan.before
  have hnone := presences_of_follows hbefore.stops.toFollows (by simp)
  have hends := ends services (runStatements plan.before) state
  cases hresult : ((runStatements plan.before).run services state).result with
  | error failure => exact hbefore.bind_error hresult _ _
  | ok value =>
      rw [hresult] at hends
      have hboth : Ends services (publish plan) state _ _ _ := hends.bind (ends services _ _)
      rw [hboth.exchanges_eq, presences_append, hnone, List.nil_append, presences_bind]
      · apply hbefore.bind
        intro _ _
        apply (performs_replaceDirectories services _ _).bind
        intro _ _
        rw [← List.append_nil (plan.after.map _)]
        apply (performs_runStatements services _ plan.after).bind
        intro _ _
        exact .note services _ _ _ _
      · intro _ after
        rw [presences_bind services after _ _ fun _ _ => rfl]
        have hafter := performs_runStatements services after plan.after
        exact presences_of_follows hafter.stops.toFollows (by simp)

theorem performs_finalize (plan : PublishPlan) :
    Performs services (finalize plan) state
      (plan.finalizeCalls (presences ((finalize plan).exchanges services state))) := by
  have hanswers : presences ((finalize plan).exchanges services state) =
      presences ((publish plan).exchanges services state) := by
    apply presences_bind
    intro _ after
    have hcleanUp := performs_cleanUp services after plan
    exact presences_of_follows hcleanUp.stops.toFollows (by simp [PublishPlan.cleanUpCalls])
  rw [hanswers]
  apply (performs_publish services state plan).bind
  intro _ _
  exact performs_cleanUp services _ plan

end

end OrcConversion
