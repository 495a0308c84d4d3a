import OrcConversion.Conversion.Batch
import OrcConversion.Proofs.Conversion.PlanBasis
import OrcConversion.Proofs.Workflow.Halting

/-! The phases of a conversion end with a failure exactly when a call fails them, and the kind of
the failure is that of the phase. -/

namespace OrcConversion

open Hive Workflow

/-! ## Staging -/

/-- Failures of one kind, whichever call they follow. -/
abbrev always (kind : FailureKind) : Call → Failure → Prop :=
  fun _ failure => failure.IsKind kind

theorem Failure.isKind_unlessKind {kind : FailureKind} {wrap : Failure → Failure}
    (hwrap : ∀ failure, (wrap failure).IsKind kind) (failure : Failure) :
    (failure.unlessKind kind wrap).IsKind kind := by
  unfold unlessKind
  split
  · rename_i h
    exact h
  · exact hwrap failure

theorem halts_executeStatements (statements : List String) :
    (executeStatements statements).Halts noFailure (always .execution) := by
  induction statements with
  | nil => exact .finish ()
  | cons statement rest ih =>
      apply (Halts.note _ _ _).bind
      intro _
      apply Halts.bind
      · apply Halts.wrappedCall (fun _ => Iff.rfl)
        exact Failure.isKind_unlessKind fun _ => rfl
      · intro _
        exact ih

theorem halts_execute (entity : Entity) : (execute entity).Halts noFailure (always .execution) := by
  apply (halts_executeStatements _).bind
  intro _
  exact .note _ _ _

/-! ## Publishing -/

theorem halts_runStatements (statements : List String) :
    (runStatements statements).Halts noFailure (always .publishing) := by
  induction statements with
  | nil => exact .finish ()
  | cons statement rest ih =>
      apply (Halts.note _ _ _).bind
      intro _
      apply Halts.bind
      · exact .wrappedCall (fun _ => Iff.rfl) fun _ => rfl
      · intro _
        exact ih

theorem halts_moveInto (source dest : String) :
    (moveInto source dest).Halts noFailure fun _ _ => True := by
  apply (Halts.call (fun _ => Iff.rfl) fun _ => trivial).bind
  intro present
  cases present with
  | false => exact .call (fun _ => Iff.rfl) fun _ => trivial
  | true =>
      apply (Halts.call (fun _ => Iff.rfl) fun _ => trivial).bind
      intro _
      apply (Halts.note _ _ _).bind
      intro _
      exact .call (fun _ => Iff.rfl) fun _ => trivial

theorem halts_replaceDirectories (directories : List (String × String)) :
    (replaceDirectories directories).Halts noFailure (always .publishing) := by
  induction directories with
  | nil => exact .finish ()
  | cons entry rest ih =>
      apply Halts.bind
      · apply Halts.bind
        · exact (halts_moveInto entry.1 entry.2).mapFailure fun _ _ _ => rfl
        · intro _
          exact .note _ _ _
      · intro _
        exact ih

theorem halts_deleteDirectories (paths : List String) :
    (deleteDirectories paths).Halts noFailure (always .publishing) := by
  induction paths with
  | nil => exact .finish ()
  | cons path rest ih =>
      apply Halts.bind
      · exact .wrappedCall (fun _ => Iff.rfl) fun _ => rfl
      · intro _
        apply (Halts.note _ _ _).bind
        intro _
        exact ih

theorem halts_finalize (plan : PublishPlan) :
    (finalize plan).Halts noFailure (always .publishing) := by
  apply Halts.bind
  · apply (halts_runStatements plan.before).bind
    intro _
    apply (halts_replaceDirectories plan.publishDirectories.entries).bind
    intro _
    apply (halts_runStatements plan.after).bind
    intro _
    exact .note _ _ _
  · intro _
    apply (halts_runStatements plan.cleanupStatements).bind
    intro _
    exact halts_deleteDirectories plan.cleanupDirectories

/-! ## Planning -/

/-- Kind of the failures of planning that follow a call. -/
def Call.planningKind : Call → FailureKind
  | .lookupTable _ _ => .catalog
  | .listPartitions _ => .catalog
  | _ => .filesystem

abbrev planningFailure : Call → Failure → Prop :=
  fun call failure => failure.IsKind call.planningKind

/-- What is made of the outcome of looking up a destination. -/
private def loaded (db table : String) : Except Failure Destination → Workflow Destination
  | .ok destination => return destination
  | .error failure =>
      if failure.kind? = some .tableNotFound then do
        debug .catalog ("Destination table " ++ db ++ "." ++ table ++ " does not exist")
        return .absent
      else fail (failure.unlessKind .catalog (.lookupFailed db table))

private theorem loaded_error (db table : String) (failure : Failure) :
    (failure.kind? ≠ some .tableNotFound →
      ∃ wrapped, Settles (loaded db table (.error failure)) (.error wrapped) ∧
        wrapped.IsKind .catalog) ∧
    (¬ failure.kind? ≠ some .tableNotFound →
      (loaded db table (.error failure)).Halts noFailure planningFailure) := by
  constructor
  · intro hother
    refine ⟨failure.unlessKind .catalog (.lookupFailed db table), ?_, ?_⟩
    · rw [loaded, if_neg hother]
      exact .ofExcept (.error _)
    · apply Failure.isKind_unlessKind
      exact fun _ => rfl
  · intro habsent
    rw [loaded, if_pos (not_not.mp habsent)]
    exact (Halts.note _ _ _).bind fun _ => .finish _

theorem halts_loadDestination (db table : String) :
    (loadDestination db table).Halts noFailure planningFailure := by
  intro reply
  cases reply with
  | error failure => exact loaded_error db table failure
  | ok record =>
      refine ⟨fun hfails => absurd hfails.symm Bool.false_ne_true, fun _ => ?_⟩
      change (((if record.isPartitioned then _ else _ : Workflow Destination)).andThen
        (loaded db table)).Halts _ _
      split
      · intro reply
        cases reply with
        | error failure => exact loaded_error db table failure
        | ok partitions =>
            exact ⟨fun hfails => absurd hfails.symm Bool.false_ne_true, fun _ => trivial⟩
      · exact .finish _

theorem halts_copyDirectory (path source : String) :
    (copyDirectory path source).Halts noFailure fun call _ => call.planningKind = .filesystem := by
  apply (Halts.call (fun _ => Iff.rfl) fun _ => rfl).bind
  intro permission reply
  cases reply with
  | error failure =>
      refine ⟨fun _ => ⟨failure, .ofExcept (.error failure), rfl⟩, fun hwell => ?_⟩
      exact absurd rfl hwell
  | ok made =>
      cases made with
      | true =>
          refine ⟨fun hfails => absurd hfails (by simp [Exchange.Fails]), fun _ => ?_⟩
          exact (Halts.call (fun _ => Iff.rfl) fun _ => rfl).bind fun _ => .finish _
      | false =>
          exact ⟨fun _ => ⟨_, .ofExcept (.error (.directoryRefused path permission)), rfl⟩,
            fun hwell => absurd rfl hwell⟩

theorem halts_createDestinationDirectory (path source : String) :
    (createDestinationDirectory path source).Halts noFailure planningFailure := by
  apply Halts.bind
  · apply (halts_copyDirectory path source).mapFailure
    intro call failure hkind
    change _ = some call.planningKind
    rw [hkind]
    apply Failure.isKind_unlessKind
    exact fun _ => rfl
  · intro _
    apply (Halts.note _ _ _).bind
    intro _
    exact .finish _

theorem halts_planStatements {entity : Entity} {schema : Arrow.Schema} {target : Target}
    {stagingTable : String} {destination : Destination} {columns : List Column}
    {allowed : Call → Failure → Prop} {format : OutputFormat}
    (h : checkEntity entity schema = .ok columns) :
    (planStatements target format entity schema columns stagingTable destination).Halts
      Failure.IsForeign allowed := by
  rcases planStatements_cases h target format stagingTable destination with
    ⟨basis, -, -, -, hsettles⟩ | ⟨failure, -, hforeign, hsettles⟩
  · exact .of_settles hsettles (.ok _)
  · exact .of_settles hsettles (.error hforeign)

/-- Planning that gets to its calls fails by one of them, or because its plan cannot be written
down. -/
theorem halts_planWith {entity : Entity} {schema shaped : Arrow.Schema} {target : Target}
    {format : OutputFormat} {mark : RunMark} {columns : List Column}
    (h : prepare format entity schema mark = .ok (shaped, columns)) :
    (planWith target format entity schema (.ok mark)).Halts Failure.IsForeign
      planningFailure := by
  obtain ⟨-, hcheck, -⟩ := prepare_eq_ok.mp h
  rw [planWith_eq, h, Workflow.ofExcept, finish_ok_bind]
  apply (halts_loadDestination _ _).of_noFailure.bind
  intro destination
  apply (halts_createDestinationDirectory _ _).of_noFailure.bind
  intro _
  exact halts_planStatements hcheck

end OrcConversion
