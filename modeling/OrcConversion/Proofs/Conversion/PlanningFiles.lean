import OrcConversion.Proofs.Conversion.FailurePhases

/-! What planning does to the file system: it prepares one directory, and only when nothing else can
go wrong any more but that something cannot be written down. -/

namespace OrcConversion

open Workflow

variable {σ : Type} {services : Services σ} {state after : σ} {trace : List Exchange}

def Call.usesFiles : Call → Bool
  | execute _ | lookupTable _ _ | listPartitions _ => false
  | permission _ | makeDirectory _ _ | setPermission _ _ | checkPath _ | move _ _ | delete _ => true

def fileExchanges (trace : List Exchange) : List Exchange :=
  trace.filter (·.call.usesFiles)

theorem fileExchanges_append (first second : List Exchange) :
    fileExchanges (first ++ second) = fileExchanges first ++ fileExchanges second :=
  List.filter_append ..

theorem Call.AsksCatalog.usesFiles {call : Call} (h : call.AsksCatalog) :
    call.usesFiles = false := by
  cases call <;> first | rfl | exact h.elim

theorem Call.PreparesDirectory.usesFiles {call : Call} (h : call.PreparesDirectory) :
    call.usesFiles = true := by
  cases call <;> first | rfl | exact h.elim

theorem fileExchanges_loadDestination {db table : String} {result : Except Failure Destination}
    (h : Ends services (loadDestination db table) state trace result after) :
    fileExchanges trace = [] := by
  apply List.filter_eq_nil_iff.mpr
  intro exchange hmem
  rw [((asksOnly_loadDestination db table).of_ends h exchange hmem).usesFiles]
  exact Bool.false_ne_true

theorem fileExchanges_createDestinationDirectory {path source : String}
    {result : Except Failure Int}
    (h : Ends services (createDestinationDirectory path source) state trace result after) :
    fileExchanges trace = trace := by
  apply List.filter_eq_self.mpr
  intro exchange hmem
  exact ((asksOnly_createDestinationDirectory path source).of_ends h exchange hmem).usesFiles

theorem isKind_of_loadDestination {db table : String} {failure : Failure}
    (h : Ends services (loadDestination db table) state trace (.error failure) after) :
    failure.IsKind .catalog := by
  rcases (halts_loadDestination db table).cases h with ⟨hnone, -⟩ |
    ⟨_, last, _, hstops, hfailure, hkind⟩
  · exact (hnone failure rfl).elim
  · cases hfailure
    have hcall := (asksOnly_loadDestination db table).of_ends h last hstops.last_mem
    rwa [planningFailure, last.call.planningKind_eq_catalog.mpr hcall] at hkind

theorem isKind_of_createDestinationDirectory {path source : String} {failure : Failure}
    (h : Ends services (createDestinationDirectory path source) state trace (.error failure)
      after) : failure.IsKind .filesystem := by
  rcases (halts_createDestinationDirectory path source).cases h with ⟨hnone, -⟩ |
    ⟨_, last, _, hstops, hfailure, hkind⟩
  · exact (hnone failure rfl).elim
  · cases hfailure
    have hcall := (asksOnly_createDestinationDirectory path source).of_ends h last hstops.last_mem
    rwa [planningFailure, (Call.planningKind_eq_filesystem (.inr hcall)).mpr hcall] at hkind

/-- A beginning of the exchanges that make a directory with the permission of another one, the
permission being the one that was read. -/
structure BeginsDirectory (path source : String) (permission : Int) (trace : List Exchange) :
    Prop where
  begins : trace.map Exchange.call <+: directoryCalls path source permission
  permission_read : 1 < trace.length → trace.head? = some ⟨.permission source, .ok permission⟩

theorem BeginsDirectory.nil (path source : String) (permission : Int) :
    BeginsDirectory path source permission [] :=
  ⟨List.nil_prefix, by simp⟩

theorem DirectoryRun.exists_begins {path source : String} {result : Except Failure Int}
    (h : DirectoryRun path source trace result) :
    ∃ permission, BeginsDirectory path source permission trace := by
  cases h with
  | unread cause failure => exact ⟨0, ⟨⟨_, rfl⟩, by simp⟩⟩
  | unmade permission reply failure _ => exact ⟨permission, ⟨⟨_, rfl⟩, fun _ => rfl⟩⟩
  | unset permission cause failure => exact ⟨permission, ⟨⟨_, rfl⟩, fun _ => rfl⟩⟩
  | made permission => exact ⟨permission, ⟨⟨[], rfl⟩, fun _ => rfl⟩⟩

theorem DirectoryRun.ne_directoryMade {path source : String} {failure : Failure}
    (h : DirectoryRun path source trace (.error failure)) (permission : Int) :
    trace ≠ directoryMade path source permission := by
  cases h with
  | unread cause => simp [directoryMade]
  | unmade => simp [directoryMade]
  | unset => simp [directoryMade]

/-- A plan comes with the directory of its target, and of the failures only those of the file system
come after a touch on it. -/
structure PreparesLast (path source : String) (touched : List Exchange)
    (result : Except Failure ConversionPlan) : Prop where
  begins : ∃ permission, BeginsDirectory path source permission touched
  made_iff : (∃ permission, touched = directoryMade path source permission) ↔
    ∃ plan publish, result = .ok plan ∧ plan.publish = some publish
  untouched : ∀ failure, result = .error failure → ¬ failure.IsKind .filesystem → touched = []
  kind_planning : ∀ failure, result = .error failure →
    ∃ kind, failure.IsKind kind ∧ kind.isPlanning = true

theorem PreparesLast.of_untouched {failure : Failure} {kind : FailureKind}
    (h : failure.IsKind kind) (hkind : kind.isPlanning = true) (path source : String) :
    PreparesLast path source [] (.error failure) := by
  constructor
  · exact ⟨0, .nil path source 0⟩
  · constructor
    · rintro ⟨permission, htouched⟩
      cases htouched
    · rintro ⟨plan, publish, hresult, -⟩
      cases hresult
  · exact fun _ _ _ => rfl
  · rintro _ ⟨⟩
    exact ⟨kind, h, hkind⟩

/-- All that the plan of a conversion writes down can be written: the fields in their shape, the
paths that these come from, and its integers. -/
structure Writable (format : OutputFormat) (entity : Entity) (target : Target)
    (fields : Arrow.Schema) (time : Int) : Prop where
  shaped : ∃ shaped, format.shape fields = .ok shaped ∧ Arrow.HasPaths shaped
  numbers : ShortNumbers entity target time

/-- A fault from outside, since something cannot be written down: it is found before anything is
touched, or not before the directory is made. -/
structure FailsUnwritten (path source : String) (touched : List Exchange)
    (result : Except Failure ConversionPlan) : Prop where
  foreign : ∃ failure, result = .error failure ∧ failure.IsForeign
  touched_cases : touched = [] ∨ ∃ permission, touched = directoryMade path source permission

theorem FailsUnwritten.not_failsWith {path source : String} {touched : List Exchange}
    {result : Except Failure ConversionPlan} (h : FailsUnwritten path source touched result)
    (kind : FailureKind) : ¬ FailsWith result kind := by
  obtain ⟨failure, hresult, fault, rfl⟩ := h.foreign
  rw [hresult]
  intro hkind
  cases hkind

section

variable {target : Target} {format : OutputFormat} {entity : Entity} {fields : Arrow.Schema}
  {mark : RunMark} {result : Except Failure ConversionPlan} {failure : Failure}

theorem not_writable_of_prepare (h : prepare format entity fields mark = .error failure)
    (hforeign : failure.IsForeign) : ¬ Writable format entity target fields mark.time := by
  rintro ⟨⟨shaped, hshape, -⟩, hnumbers⟩
  obtain ⟨time, htime⟩ := hnumbers.planned
  obtain ⟨fault, rfl⟩ := hforeign
  rw [prepare, hshape] at h
  cases hcheck : checkEntity entity shaped with
  | ok columns =>
      rw [Except.mapError, Except.ok_bind, hcheck, Except.ok_bind, htime] at h
      cases h
  | error other =>
      rw [Except.mapError, Except.ok_bind, hcheck] at h
      cases h
      cases blames_checkEntity entity shaped _ hcheck

theorem not_writable_of_build {shaped : Arrow.Schema} {columns : List Hive.Column}
    {stagingTable : String} {destination : Destination}
    (hprepare : prepare format entity fields mark = .ok (shaped, columns))
    (hbuild : StagingPlan.build entity shaped target stagingTable destination = .error failure) :
    ¬ Writable format entity target fields mark.time := by
  obtain ⟨hshape, hcheck, -⟩ := prepare_eq_ok.mp hprepare
  obtain ⟨_, _, hspec, -, hcolumns⟩ := checkEntity_eq_ok hcheck
  rintro ⟨⟨other, hother, hpaths⟩, hnumbers⟩
  cases hshape.symm.trans hother
  obtain ⟨staging, hstaging⟩ := StagingPlan.exists_build hnumbers hpaths hspec hcolumns
  cases hstaging.symm.trans hbuild

theorem PlanningRun.preparesLast
    (h : PlanningRun services target format entity fields mark state trace result) :
    PreparesLast target.dataPath entity.table.dataLocation (fileExchanges trace) result ∨
      FailsUnwritten target.dataPath entity.table.dataLocation (fileExchanges trace) result ∧
        ¬ Writable format entity target fields mark.time := by
  cases h with
  | refused hprepare hrefuses =>
      rcases hrefuses with hkind | hforeign
      · exact .inl (.of_untouched hkind rfl _ _)
      · exact .inr ⟨⟨⟨_, rfl, hforeign⟩, .inl rfl⟩, not_writable_of_prepare hprepare hforeign⟩
  | unlocated hload =>
      rw [fileExchanges_loadDestination hload]
      exact .inl (.of_untouched (isKind_of_loadDestination hload) rfl _ _)
  | unprepared hload hprepared =>
      rw [fileExchanges_append, fileExchanges_loadDestination hload,
        fileExchanges_createDestinationDirectory hprepared, List.nil_append]
      have hrun := directoryRun_createDestinationDirectory hprepared
      have hkind := isKind_of_createDestinationDirectory hprepared
      left
      constructor
      · exact hrun.exists_begins
      · constructor
        · rintro ⟨permission, hmade⟩
          exact absurd hmade (hrun.ne_directoryMade permission)
        · rintro ⟨plan, publish, hresult, -⟩
          cases hresult
      · rintro _ ⟨⟩ hother
        exact absurd hkind hother
      · rintro _ ⟨⟩
        exact ⟨.filesystem, hkind, rfl⟩
  | unwritten hprepare hbuild hforeign hload hprepared =>
      rw [fileExchanges_append, fileExchanges_loadDestination hload,
        fileExchanges_createDestinationDirectory hprepared, List.nil_append]
      cases directoryRun_createDestinationDirectory hprepared
      exact .inr ⟨⟨⟨_, rfl, hforeign⟩, .inr ⟨_, rfl⟩⟩, not_writable_of_build hprepare hbuild⟩
  | planned basis hshape htable hload hprepared =>
      rw [fileExchanges_append, fileExchanges_loadDestination hload,
        fileExchanges_createDestinationDirectory hprepared, List.nil_append]
      have hrun := directoryRun_createDestinationDirectory hprepared
      left
      constructor
      · exact hrun.exists_begins
      · cases hrun
        exact ⟨fun _ => ⟨basis.plan, basis.publication.plan, rfl, rfl⟩, fun _ => ⟨_, rfl⟩⟩
      · intro failure hresult
        cases hresult
      · intro failure hresult
        cases hresult

end

/-- Whatever can be wrong is found before files are touched: planning prepares the directory of its
target last, and once that is there it ends with a plan. Only what cannot be written down may come
to light later than that. -/
theorem planning_prepares_directory_last (services : Services σ) (targets : Targets)
    (format : OutputFormat) (entity : Entity) (schema : Option Arrow.Schema) (mark : RunMark)
    (state : σ) :
    let planner := planConversion targets format entity schema (.ok mark)
    let result := (planner.run services state).result
    let touched := fileExchanges (planner.exchanges services state)
    (targets format = none → touched = [] ∧ result = .ok { entity }) ∧
    ∀ target, targets format = some target →
      PreparesLast target.dataPath entity.table.dataLocation touched result ∨
      FailsUnwritten target.dataPath entity.table.dataLocation touched result ∧
        ∃ fields, schema = some fields ∧ ¬ Writable format entity target fields mark.time := by
  intro planner result touched
  have hends : Ends services planner state (planner.exchanges services state) result _ :=
    ends services planner state
  have htouched : touched = fileExchanges (planner.exchanges services state) := rfl
  rcases planConversion_cases hends with ⟨hnone, htrace, hresult⟩ | ⟨target, htarget, hsettings⟩
  · constructor
    · rw [htouched, htrace]
      exact fun _ => ⟨rfl, hresult⟩
    · intro target htarget
      cases hnone.symm.trans htarget
  · constructor
    · intro hnone
      cases hnone.symm.trans htarget
    · intro other hother
      cases htarget.symm.trans hother
      rcases hsettings with ⟨htrace, hresult⟩ | ⟨fields, hfields, -, hrun⟩
      · have hkind : (Failure.emptySchema entity.completeName).IsKind .planning := rfl
        rw [htouched, htrace, hresult]
        exact .inl (.of_untouched hkind rfl _ _)
      · rcases hrun.preparesLast with hlast | ⟨hfails, hunwritten⟩
        · exact .inl hlast
        · exact .inr ⟨hfails, fields, hfields, hunwritten⟩

namespace Sample

/-- Directories that are made are not there afterwards. -/
def fruitless : Rehearsal where
  makesDirectories := false

/-- Visits of a day whose type is not said. -/
def untypedVisits : Entity :=
  { visits with partition := some { day with columnTypes := "" } }

end Sample

open Sample in
theorem planning_prepares_directory_last_fruitless :
    let targets : Targets := fun _ => some warehouse
    let planner := planConversion targets .nested visits (some numbers) (.ok ⟨0, 0⟩)
    let refused := planConversion targets .nested untypedVisits (some numbers) (.ok ⟨0, 0⟩)
    let touched := fileExchanges (planner.exchanges Rehearsal.services fruitless)
    touched.map Exchange.call = [.permission "/in", .makeDirectory "/d" 0o755] ∧
      FailsWith (planner.run Rehearsal.services fruitless).result .filesystem ∧
      (∃ permission, BeginsDirectory "/d" "/in" permission touched) ∧
      FailsWith (refused.run Rehearsal.services fruitless).result .configuration ∧
      fileExchanges (refused.exchanges Rehearsal.services fruitless) = [] := by
  intro targets planner refused touched
  obtain ⟨-, hplanner⟩ := planning_prepares_directory_last Rehearsal.services targets .nested
    visits (some numbers) ⟨0, 0⟩ fruitless
  obtain ⟨-, hrefused⟩ := planning_prepares_directory_last Rehearsal.services targets .nested
    untypedVisits (some numbers) ⟨0, 0⟩ fruitless
  have hfails : FailsWith (planner.run Rehearsal.services fruitless).result .filesystem := by
    decide +kernel
  have hrefuses : FailsWith (refused.run Rehearsal.services fruitless).result .configuration := by
    decide +kernel
  obtain ⟨failure, hfailure, hkind⟩ := hrefuses.exists_error
  refine ⟨rfl, hfails, ?_, hrefuses, ?_⟩
  · rcases hplanner warehouse rfl with hlast | ⟨hunwritten, -⟩
    · exact hlast.begins
    · exact absurd hfails (hunwritten.not_failsWith .filesystem)
  · rcases hrefused warehouse rfl with hlast | ⟨hunwritten, -⟩
    · apply hlast.untouched failure hfailure
      intro hother
      cases hkind.symm.trans hother
    · exact absurd hrefuses (hunwritten.not_failsWith .configuration)

namespace Sample

/-- Numbers of which it is not said in text where they come from. -/
def unreadable : Arrow.Schema :=
  [.mk "id" (.scalar .int64) true (.ofList [(Arrow.sourcePathKey, ⟨#[0xff]⟩)])]

end Sample

open Sample in
/-- The directory is made, and yet there is no plan. -/
theorem directory_made_without_plan :
    let planner := planConversion (fun _ => some warehouse) .nested visits (some unreadable)
      (.ok ⟨0, 0⟩)
    fileExchanges (planner.exchanges Rehearsal.services {}) = directoryMade "/d" "/in" 0o755 ∧
      (planner.run Rehearsal.services {}).result = .error (.foreign .undecodable) := by
  exact ⟨rfl, rfl⟩

end OrcConversion
