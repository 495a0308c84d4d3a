import OrcConversion.Proofs.Conversion.LocationAgreement

/-! Where the data of a partition is published. -/

namespace OrcConversion

open Text Workflow

/-! ## Paths below a location -/

/-- A path that goes on behind a location, by a slash and a name that is not empty. -/
def StrictlyBelow (location path : String) : Prop :=
  ∃ name, name ≠ "" ∧ path = location ++ "/" ++ name

theorem StrictlyBelow.ne {location path : String} (h : StrictlyBelow location path) :
    path ≠ location := by
  obtain ⟨name, -, rfl⟩ := h
  intro heq
  have hlength := congrArg String.length heq
  simp only [String.length_append] at hlength
  have hslash : "/".length = 1 := rfl
  omega

/-! ## Directories of partitions -/

theorem Partition.HasTokens.name_ne_empty {name : String} (h : HasTokens name) : name ≠ "" := by
  rintro rfl
  obtain ⟨c, hmem, -⟩ := h
  cases hmem

theorem Partition.directoryName_ne_empty {hints : List String} {partition : SourcePartition}
    (h : partition.name ≠ "") : directoryName hints (some partition) ≠ "" := by
  intro hempty
  exact h (String.append_eq_empty_iff.mp hempty).2

namespace PlanBasis

variable {entity : Entity} {schema : Arrow.Schema} {target : Target}
  (basis : PlanBasis entity schema target) {partition : SourcePartition}

theorem values_of_tokens (hpartition : entity.partition = some partition)
    (htokens : Partition.HasTokens partition.name) : basis.spec.values.isEmpty = false := by
  have hspec := basis.spec_eq
  rw [hpartition] at hspec
  exact htokens.values_of_readSpec hspec

theorem values_of_blank (hpartition : entity.partition = some partition)
    (hname : isBlankText partition.name = true)
    (htypes : isBlankText partition.columnTypes = true) : basis.spec.values.isEmpty = true := by
  have hspec := basis.spec_eq
  rw [hpartition] at hspec
  have hblank := Except.ok.inj ((Partition.readSpec_of_blank hname htypes).symm.trans hspec)
  rw [← hblank]
  rfl

end PlanBasis

section

variable {σ : Type} {services : Services σ} {state : σ} {targets : Targets}
  {format : OutputFormat} {entity : Entity} {schema : Option Arrow.Schema}
  {mark : Except Failure RunMark} {plan : ConversionPlan} {publish : PublishPlan}

theorem exists_basis_of_published
    (hplan : ((planConversion targets format entity schema mark).run services state).result =
      .ok plan)
    (hpublish : plan.publish = some publish) :
    ∃ target shaped, targets format = some target ∧
      ∃ basis : PlanBasis entity shaped target,
        plan.stagingTable = some basis.stagingTable ∧ publish = basis.publication.plan := by
  cases htarget : targets format with
  | none =>
      rw [planConversion, htarget] at hplan
      cases hplan
      cases hpublish
  | some target =>
      obtain ⟨found, rfl⟩ := exists_mark_of_target hplan htarget
      have hends := ends services (planConversion targets format entity schema (.ok found)) state
      rw [hplan] at hends
      obtain ⟨_, shaped, -, -, basis, -, -, rfl⟩ := exists_basis_of_target hends htarget
      cases hpublish
      exact ⟨target, shaped, rfl, basis, rfl, rfl⟩

/-- A partition whose name holds tokens is published strictly below the final location of its table,
never at the final location itself. A partition that says nothing of itself is published as the
whole table. -/
theorem partition_published_below {partition : SourcePartition}
    (hpartition : entity.partition = some partition)
    (hplan : ((planConversion targets format entity schema mark).run services state).result =
      .ok plan)
    (hpublish : plan.publish = some publish) :
    ∃ target stagingTable,
      targets format = some target ∧
      plan.stagingTable = some stagingTable ∧
      (Partition.HasTokens partition.name →
        publish.publishDirectories.entries ≠ [] ∧
        ∀ entry ∈ publish.publishDirectories.entries,
          StrictlyBelow target.finalLocation entry.2 ∧ entry.2 ≠ target.finalLocation) ∧
      (isBlankText partition.name = true → isBlankText partition.columnTypes = true →
        publish.publishDirectories.entries =
          [(target.stagingLocation stagingTable, target.finalLocation)]) := by
  obtain ⟨target, _, htarget, basis, htable, rfl⟩ := exists_basis_of_published hplan hpublish
  refine ⟨target, basis.stagingTable, htarget, htable, ?_, ?_⟩
  · intro htokens
    have hmoved := (basis.partitionAgreement (basis.values_of_tokens hpartition htokens)).moved
    rw [hmoved, List.forall_mem_singleton, hpartition]
    have hbelow : StrictlyBelow target.finalLocation (target.finalLocation ++ "/" ++
        Partition.directoryName target.pathHints (some partition)) :=
      ⟨_, Partition.directoryName_ne_empty htokens.name_ne_empty, rfl⟩
    exact ⟨List.cons_ne_nil _ _, hbelow, hbelow.ne⟩
  · intro hname htypes
    exact (basis.tableAgreement (basis.values_of_blank hpartition hname htypes)).moved

end

open Sample in
theorem partition_published_below_day :
    let result := ((planConversion (fun _ => some warehouse) .nested visits (some numbers)
      (.ok ⟨0, 0⟩)).run Rehearsal.services {}).result
    ∃ plan publish, result = .ok plan ∧ plan.publish = some publish ∧
      publish.publishDirectories.entries = [("/d/visits_00/ds=1", "/d/final/ds=1")] ∧
      StrictlyBelow "/d/final" "/d/final/ds=1" ∧ "/d/final/ds=1" ≠ "/d/final" := by
  intro result
  have hentries : (result.toOption.bind (·.publish)).map (·.publishDirectories.entries) =
      some [("/d/visits_00/ds=1", "/d/final/ds=1")] := by decide +kernel
  obtain ⟨plan, publish, hresult, hpublish, hentries⟩ := exists_published hentries
  obtain ⟨target, _, htarget, -, hbelow, -⟩ := partition_published_below rfl hresult hpublish
  cases htarget
  refine ⟨plan, publish, hresult, hpublish, hentries, ?_⟩
  obtain ⟨-, hall⟩ := hbelow ⟨'d', by decide, by decide, by decide, by decide⟩
  rw [hentries] at hall
  exact hall _ List.mem_cons_self

namespace Sample

/-- A partition that neither its name nor its types say anything of. -/
def unspecified : SourcePartition where
  name := " "
  values := []
  dataLocation := "/in/1"
  columnTypes := ""

def unspecifiedVisits : Entity :=
  { visits with partition := some unspecified }

end Sample

open Sample in
/-- Something that is a partition takes the place of the whole table. -/
theorem partition_published_below_unspecified :
    let result := ((planConversion (fun _ => some warehouse) .nested unspecifiedVisits
      (some numbers) (.ok ⟨0, 0⟩)).run Rehearsal.services {}).result
    unspecifiedVisits.isPartitioned = true ∧
    ∃ plan publish, result = .ok plan ∧ plan.publish = some publish ∧
      ∃ entry ∈ publish.publishDirectories.entries,
        entry.2 = warehouse.finalLocation ∧ ¬ StrictlyBelow warehouse.finalLocation entry.2 := by
  intro result
  have hentries : (result.toOption.bind (·.publish)).map (·.publishDirectories.entries) =
      some [("/d/visits_00", "/d/final")] := by decide +kernel
  obtain ⟨plan, publish, hresult, hpublish, hentries⟩ := exists_published hentries
  refine ⟨rfl, plan, publish, hresult, hpublish, ("/d/visits_00", "/d/final"), ?_, rfl, ?_⟩
  · rw [hentries]
    exact List.mem_cons_self
  · exact fun hbelow => hbelow.ne rfl

end OrcConversion
