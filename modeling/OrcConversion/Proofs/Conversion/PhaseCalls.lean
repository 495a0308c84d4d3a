import OrcConversion.Proofs.Conversion.Phases
import OrcConversion.Proofs.Workflow.Allowed

/-! What the phases of a conversion ask for: planning asks the catalog and then prepares one
directory, staging executes the statements of the plan. -/

namespace OrcConversion

open Hive Workflow

variable {σ : Type} {services : Services σ} {state after : σ} {trace : List Exchange}

/-! ## Planning -/

def Call.AsksCatalog : Call → Prop
  | .lookupTable _ _ => True
  | .listPartitions _ => True
  | _ => False

def Call.PreparesDirectory : Call → Prop
  | .permission _ => True
  | .makeDirectory _ _ => True
  | .setPermission _ _ => True
  | _ => False

theorem Call.planningKind_eq_filesystem {call : Call}
    (h : call.AsksCatalog ∨ call.PreparesDirectory) :
    call.planningKind = .filesystem ↔ call.PreparesDirectory := by
  cases call <;> simp_all [planningKind, AsksCatalog, PreparesDirectory]

theorem Call.planningKind_cases (call : Call) :
    call.planningKind = .catalog ∨ call.planningKind = .filesystem := by
  cases call <;> simp [planningKind]

theorem Call.planningKind_eq_catalog (call : Call) :
    call.planningKind = .catalog ↔ call.AsksCatalog := by
  cases call <;> simp [planningKind, AsksCatalog]

/-- Calls that make a directory with the permission of another one. -/
def directoryCalls (path source : String) (permission : Int) : List Call :=
  [.permission source, .makeDirectory path permission, .setPermission path permission]

theorem asksOnly_loadDestination (db table : String) :
    (loadDestination db table).AsksOnly Call.AsksCatalog := by
  apply AsksOnly.andThen
  · apply AsksOnly.bind
    · exact .call trivial
    · intro record
      split
      · have hlist : (Workflow.call (.listPartitions record)).AsksOnly Call.AsksCatalog :=
          .call trivial
        exact hlist.bind fun _ => trivial
      · trivial
  · intro result
    cases result with
    | ok destination => trivial
    | error failure =>
        dsimp only
        split
        · exact (AsksOnly.note _ _ _).bind fun _ => trivial
        · trivial

theorem asksOnly_copyDirectory (path source : String) :
    (copyDirectory path source).AsksOnly Call.PreparesDirectory := by
  apply AsksOnly.bind
  · exact .call trivial
  · intro permission
    apply AsksOnly.bind
    · exact .call trivial
    · intro made
      split
      · apply AsksOnly.bind
        · exact .call trivial
        · exact fun _ => trivial
      · trivial

theorem asksOnly_createDestinationDirectory (path source : String) :
    (createDestinationDirectory path source).AsksOnly Call.PreparesDirectory := by
  apply ((asksOnly_copyDirectory path source).mapFailure _).bind
  intro permission
  exact (AsksOnly.note _ _ _).bind fun _ => trivial

/-- Exchanges that make a directory with the permission of another one. -/
def directoryMade (path source : String) (permission : Int) : List Exchange :=
  [⟨.permission source, .ok permission⟩, ⟨.makeDirectory path permission, .ok true⟩,
    ⟨.setPermission path permission, .ok ()⟩]

/-- How a directory gets the permission of another one, up to the first call that fails it. -/
inductive DirectoryRun (path source : String) : List Exchange → Except Failure Int → Prop where
  | unread (cause failure : Failure) :
      DirectoryRun path source [⟨.permission source, .error cause⟩] (.error failure)
  | unmade (permission : Int) (reply : Except Failure Bool) (failure : Failure) :
      reply ≠ .ok true →
      DirectoryRun path source
        [⟨.permission source, .ok permission⟩, ⟨.makeDirectory path permission, reply⟩]
        (.error failure)
  | unset (permission : Int) (cause failure : Failure) :
      DirectoryRun path source
        [⟨.permission source, .ok permission⟩, ⟨.makeDirectory path permission, .ok true⟩,
          ⟨.setPermission path permission, .error cause⟩]
        (.error failure)
  | made (permission : Int) :
      DirectoryRun path source (directoryMade path source permission) (.ok permission)

section

variable {path source : String} {result : Except Failure Int}

theorem DirectoryRun.mapError (h : DirectoryRun path source trace result)
    (change : Failure → Failure) : DirectoryRun path source trace (result.mapError change) := by
  cases h with
  | unread cause failure => exact .unread cause _
  | unmade permission reply failure hreply => exact .unmade permission reply _ hreply
  | unset permission cause failure => exact .unset permission cause _
  | made permission => exact .made permission

theorem directoryRun_copyDirectory
    (h : Ends services (copyDirectory path source) state trace result after) :
    DirectoryRun path source trace result := by
  rcases h.bind_cases with ⟨permission, _, _, _, hread, hrest, rfl⟩ | ⟨cause, hread, rfl⟩
  · rw [hread.eq_of_call]
    rcases hrest.bind_cases with ⟨made, _, _, _, hmake, hlast, rfl⟩ | ⟨cause, hmake, rfl⟩
    · rw [hmake.eq_of_call]
      cases made with
      | false =>
          obtain ⟨rfl, rfl, -⟩ := hlast
          exact .unmade permission (.ok false) _ (by simp)
      | true =>
          rcases hlast.bind_cases with ⟨_, _, _, _, hset, hend, rfl⟩ | ⟨cause, hset, rfl⟩
          · obtain ⟨rfl, rfl, -⟩ := hend
            rw [hset.eq_of_call]
            exact .made permission
          · rw [hset.eq_of_call]
            exact .unset permission cause _
    · rw [hmake.eq_of_call]
      exact .unmade permission (.error cause) _ (by simp)
  · rw [hread.eq_of_call]
    exact .unread cause _

theorem directoryRun_createDestinationDirectory
    (h : Ends services (createDestinationDirectory path source) state trace result after) :
    DirectoryRun path source trace result := by
  rcases h.bind_cases with ⟨permission, _, _, _, hmade, hreport, rfl⟩ | ⟨failure, hmade, rfl⟩
  · have hsettles : ∀ message, Settles (do info .filesystem message; return permission)
        (.ok permission) := fun message => (Settles.note _ _ message).bind (.ofExcept _)
    obtain ⟨rfl, rfl⟩ := (hsettles _).eq_of_ends hreport
    obtain ⟨inner, hinner, hresult⟩ := hmade.of_mapFailure
    rw [List.append_nil, hresult]
    exact (directoryRun_copyDirectory hinner).mapError _
  · obtain ⟨inner, hinner, hresult⟩ := hmade.of_mapFailure
    rw [hresult]
    exact (directoryRun_copyDirectory hinner).mapError _

end

theorem createDestinationDirectory_calls {path source : String} {permission : Int}
    (h : Ends services (createDestinationDirectory path source) state trace (.ok permission)
      after) : trace.map Exchange.call = directoryCalls path source permission := by
  cases directoryRun_createDestinationDirectory h
  rfl

variable {targets : Targets} {format : OutputFormat} {entity : Entity}
  {schema : Option Arrow.Schema} {mark : Except Failure RunMark}

theorem asksOnly_evolve {allowed : Call → Prop} (columns : List Column) (destination : Destination)
    (evolves : Bool) (name : TableName) :
    (evolve columns destination evolves name).AsksOnly allowed :=
  .of_settles (settles_evolve columns destination evolves name)

theorem asksOnly_planStatements {allowed : Call → Prop} (target : Target) (schema : Arrow.Schema)
    (columns : List Column) (stagingTable : String) (destination : Destination) :
    (planStatements target format entity schema columns stagingTable destination).AsksOnly
      allowed := by
  apply (AsksOnly.of_settles StagingPlan.settles_plan).bind
  intro staging
  apply (asksOnly_evolve _ _ _ _).bind
  intro evolution
  apply (AsksOnly.note _ _ _).bind
  intro _
  apply (AsksOnly.of_settles PublishPlan.settles_build).bind
  intro publish
  apply (AsksOnly.note _ _ _).bind
  intro _
  apply (AsksOnly.note _ _ _).bind
  intro _
  trivial

theorem asksOnly_planConversion :
    (planConversion targets format entity schema mark).AsksOnly fun call =>
      call.AsksCatalog ∨ call.PreparesDirectory := by
  unfold planConversion
  split
  · exact (AsksOnly.note _ _ _).bind fun _ => trivial
  · split
    · trivial
    · trivial
    · apply (AsksOnly.of_settles (.ofExcept _)).bind
      intro shaped
      apply (AsksOnly.of_settles (.ofExcept _)).bind
      intro columns
      apply (AsksOnly.of_settles (.ofExcept _)).bind
      intro mark
      apply (AsksOnly.of_settles (.ofExcept _)).bind
      intro _
      apply ((asksOnly_loadDestination _ _).mono fun _ => .inl).bind
      intro destination
      apply ((asksOnly_createDestinationDirectory _ _).mono fun _ => .inr).bind
      intro _
      exact asksOnly_planStatements _ _ _ _ _

end OrcConversion
