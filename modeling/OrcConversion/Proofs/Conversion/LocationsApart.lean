import OrcConversion.Proofs.Conversion.DroppedPartitions
import OrcConversion.Proofs.Text.Listings

/-! Staged and published data never lie inside each other. -/

namespace OrcConversion

open Text Workflow

/-! ## Components -/

/-- Texts between the slashes of a location, empty ones among them. -/
def components (location : String) : List String :=
  splitAt '/' location

/-- A path that goes on where a location ends, or ends there. -/
def AtOrBelow (location path : String) : Prop :=
  components location <+: components path

instance (location path : String) : Decidable (AtOrBelow location path) :=
  inferInstanceAs (Decidable (components location <+: components path))

section

variable {location name other path : String}

theorem components_append (location path : String) :
    components (location ++ "/" ++ path) = components location ++ components path :=
  splitAt_append location path '/'

theorem components_of_free (h : '/' ∉ name.toList) : components name = [name] := by
  have hsplit : splitAt '/' ("/".intercalate [name]) = [name] :=
    splitAt_intercalate rfl (List.cons_ne_nil _ _) (List.forall_mem_singleton.mpr h)
  rwa [String.intercalate_singleton] at hsplit

theorem atOrBelow_append (location path : String) :
    AtOrBelow location (location ++ "/" ++ path) := by
  rw [AtOrBelow, components_append]
  exact List.prefix_append _ _

/-- Different names in one directory are not above each other. -/
theorem not_atOrBelow_of_ne (hname : '/' ∉ name.toList) (hother : '/' ∉ other.toList)
    (hne : name ≠ other) (location : String) :
    ¬ AtOrBelow (location ++ "/" ++ name) (location ++ "/" ++ other) := by
  rw [AtOrBelow, components_append, components_append, components_of_free hname,
    components_of_free hother, List.prefix_append_right_inj, List.cons_prefix_cons]
  exact fun h => hne h.1

end

/-! ## Names of staging tables -/

section

variable {stem : String}

theorem not_mem_stagingTableName (h : '/' ∉ stem.toList) (time : Int) (digit : Nat) :
    '/' ∉ (stagingTableName stem time digit).toList := by
  have htime := not_mem_toString_int (c := '/') rfl (by decide) time
  have hdigit := not_mem_toString_nat (c := '/') rfl digit
  simp only [stagingTableName, String.toList_append, List.mem_append, not_or]
  exact ⟨⟨⟨h, by decide⟩, htime⟩, hdigit⟩

theorem stagingTableName_ne_final (stem : String) (time : Int) (digit : Nat) :
    stagingTableName stem time digit ≠ "final" := by
  intro h
  have hmem : '_' ∈ (stagingTableName stem time digit).toList := by simp [stagingTableName]
  rw [h] at hmem
  revert hmem
  decide

end

/-! ## Plans -/

/-- Where a plan moves and deletes: from at or below the staging location to at or below the final
one, and in the end the staging location. Neither of them holds what is in the other. -/
structure LocationsApart (staging final : String) (plan : PublishPlan) : Prop where
  ne : components staging ≠ components final
  final_not_below : ¬ AtOrBelow staging final
  staging_not_below : ¬ AtOrBelow final staging
  moves : plan.publishDirectories.entries ≠ []
  sources : ∀ entry ∈ plan.publishDirectories.entries, AtOrBelow staging entry.1
  destinations : ∀ entry ∈ plan.publishDirectories.entries, AtOrBelow final entry.2
  cleaned : plan.cleanupDirectories = [staging]
  staged_kept : ∀ entry ∈ plan.publishDirectories.entries, ∀ path,
    AtOrBelow staging path → ¬ AtOrBelow entry.2 path
  published_kept : ∀ directory ∈ plan.cleanupDirectories, ∀ path,
    AtOrBelow final path → ¬ AtOrBelow directory path

section

variable {staging final path directory : String}

/-- What is below one of two locations that are not above each other is not below the other. -/
theorem not_atOrBelow_of_apart (hfinal : ¬ AtOrBelow staging final)
    (hstaging : ¬ AtOrBelow final staging) (hpath : AtOrBelow staging path)
    (hdirectory : AtOrBelow final directory) : ¬ AtOrBelow directory path := by
  intro h
  have hboth : AtOrBelow final path := List.IsPrefix.trans hdirectory h
  exact (List.prefix_or_prefix_of_prefix hpath hboth).elim hfinal hstaging

variable {entity : Entity} {schema : Arrow.Schema} {target : Target} {stagingTable : String}
  {destination : Destination} {evolution : List String}

theorem Replacement.atOrBelow_move (entity : Entity) (target : Target) (stagingTable : String)
    (spec : PartitionSpec) :
    AtOrBelow (target.stagingLocation stagingTable)
        (ofSpec entity target stagingTable spec).move.1 ∧
      AtOrBelow target.finalLocation (ofSpec entity target stagingTable spec).move.2 := by
  unfold ofSpec
  split
  · exact ⟨List.prefix_rfl, List.prefix_rfl⟩
  · exact ⟨atOrBelow_append _ _, atOrBelow_append _ _⟩

theorem Publication.locationsApart {publication : Publication}
    (hpublication : ofEntity entity schema target stagingTable destination evolution =
      .ok publication)
    (hstaging : '/' ∉ stagingTable.toList) (hne : stagingTable ≠ "final") :
    LocationsApart (target.stagingLocation stagingTable) target.finalLocation
      publication.plan := by
  obtain ⟨spec, creation, retired, -, -, -, rfl⟩ := ofEntity_eq_ok hpublication
  obtain ⟨hsource, hdestination⟩ :=
    Replacement.atOrBelow_move entity target stagingTable spec
  have hfinalBelow : ¬ AtOrBelow (target.stagingLocation stagingTable) target.finalLocation :=
    not_atOrBelow_of_ne hstaging (by decide) hne _
  have hstagingBelow : ¬ AtOrBelow target.finalLocation (target.stagingLocation stagingTable) :=
    not_atOrBelow_of_ne (by decide) hstaging hne.symm _
  constructor
  · intro heq
    rw [AtOrBelow, heq] at hfinalBelow
    exact hfinalBelow List.prefix_rfl
  · exact hfinalBelow
  · exact hstagingBelow
  · rw [directories_plan]
    exact List.cons_ne_nil _ _
  · rw [directories_plan, List.forall_mem_singleton]
    exact hsource
  · rw [directories_plan, List.forall_mem_singleton]
    exact hdestination
  · rfl
  · rw [directories_plan, List.forall_mem_singleton]
    exact fun path hpath => not_atOrBelow_of_apart hfinalBelow hstagingBelow hpath hdestination
  · intro directory hdirectory path hpath
    cases List.mem_singleton.mp hdirectory
    exact not_atOrBelow_of_apart hstagingBelow hfinalBelow hpath List.prefix_rfl

/-- If the prefix of staging tables has no slash, the staging location of a run and the final
location are different and not inside each other. All that a plan moves is at or below the one and
gets to or below the other, so that making room for it deletes no staged data; and cleaning up
deletes the staging location, and no published data. -/
theorem publication_locations_apart {σ : Type} {services : Services σ} {state : σ}
    {time : Int} {digit : Nat} {plan : PublishPlan} (hstem : '/' ∉ target.stagingName.toList)
    (hplan : ((PublishPlan.build entity schema target
      (stagingTableName target.stagingName time digit) destination evolution).run
        services state).result = .ok plan) :
    LocationsApart (target.stagingLocation (stagingTableName target.stagingName time digit))
      target.finalLocation plan := by
  obtain ⟨publication, hpublication, rfl⟩ := PublishPlan.build_eq_ok.mp hplan
  exact Publication.locationsApart hpublication (not_mem_stagingTableName hstem time digit)
    (stagingTableName_ne_final _ time digit)

end

/-- With a slash in its name a staging table can lie inside the final location. -/
example : AtOrBelow "/d/final" ("/d/" ++ stagingTableName "final/visits" 5 7) := by
  decide +kernel

open Sample in
theorem publication_locations_apart_hour :
    let result := ((PublishPlan.build hourlyVisits numbers warehouse
      (stagingTableName warehouse.stagingName 5 7) .absent []).run Rehearsal.services {}).result
    '/' ∉ warehouse.stagingName.toList ∧
    ∃ plan, result = .ok plan ∧
      plan.publishDirectories.entries =
        [("/d/visits_57/ds=1/hour=2", "/d/final/ds=1/hour=2")] ∧
      LocationsApart "/d/visits_57" "/d/final" plan := by
  intro result
  have hstem : '/' ∉ warehouse.stagingName.toList := by decide
  have hentries : result.toOption.map (·.publishDirectories.entries) =
      some [("/d/visits_57/ds=1/hour=2", "/d/final/ds=1/hour=2")] := by
    decide +kernel
  obtain ⟨plan, hplan, hmoved⟩ := Option.map_eq_some_iff.mp hentries
  have hresult : result = .ok plan := Except.toOption_eq_some.mp hplan
  exact ⟨hstem, plan, hresult, hmoved, publication_locations_apart hstem hresult⟩

end OrcConversion
