import OrcConversion.Proofs.Conversion.PartitionOrder
import OrcConversion.Proofs.Result
import OrcConversion.Proofs.Workflow.Interleaving

/-! Conversion of many items by several workers. -/

namespace OrcConversion

open Workflow

/-! ## Gathering -/

/-- The items at some positions, in the order in which these are listed. -/
def itemsAt {α : Type} (items : List α) (positions : List Nat) : List α :=
  positions.filterMap (items[·]?)

section

variable {α : Type} {outcomes : List (Except Failure α)} {values : List α} {finished : List Nat}
  {failure : Failure}

theorem itemsAt_range (items : List α) : itemsAt items (List.range items.length) = items := by
  induction items with
  | nil => rfl
  | cons item rest ih =>
      rw [itemsAt, List.length_cons, List.range_succ_eq_map, List.filterMap_cons,
        List.filterMap_map]
      exact congrArg (item :: ·) ih

theorem perm_itemsAt {items : List α} (h : finished.Perm (List.range items.length)) :
    (itemsAt items finished).Perm items := by
  have hperm := h.filterMap (items[·]?)
  rwa [← itemsAt, ← itemsAt, itemsAt_range] at hperm

/-- Outcomes are gathered as long as they are values. -/
theorem map_gather (outcomes : List (Except Failure α)) (finished : List Nat) :
    (gather outcomes finished).map (List.map (·.2)) = (itemsAt outcomes finished).mapM id := by
  induction finished with
  | nil => rfl
  | cons index rest ih =>
      rw [gather, itemsAt, List.filterMap_cons]
      cases outcomes[index]? with
      | none => exact ih
      | some outcome =>
          cases outcome with
          | error failure => rfl
          | ok value =>
              dsimp only
              rw [List.mapM_cons, ← itemsAt, ← ih]
              cases gather outcomes rest <;> rfl

/-- The failure with which a list of outcomes begins, values in front of it not counted. -/
def FirstFailure (outcomes : List (Except Failure α)) (failure : Failure) : Prop :=
  ∃ before after, outcomes = before ++ .error failure :: after ∧
    ∀ earlier ∈ before, ∃ value, earlier = .ok value

theorem gather_eq_error :
    gather outcomes finished = .error failure ↔
      FirstFailure (itemsAt outcomes finished) failure := by
  rw [← Except.map_eq_error, map_gather, Except.mapM_eq_error]
  constructor
  · rintro ⟨before, _, after, heq, hbefore, rfl⟩
    exact ⟨before, after, heq, hbefore⟩
  · rintro ⟨before, after, heq, hbefore⟩
    exact ⟨before, _, after, heq, hbefore, rfl⟩

theorem exists_values_of_gather {gathered : List (Nat × α)}
    (hfinished : finished.Perm (List.range outcomes.length))
    (h : gather outcomes finished = .ok gathered) :
    ∃ values : List α, outcomes = values.map .ok := by
  have hmap := map_gather outcomes finished
  rw [h] at hmap
  have hfound : ∀ outcome ∈ itemsAt outcomes finished, ∃ value, outcome = .ok value :=
    exists_forall₂_iff.mp ⟨_, Except.mapM_eq_ok.mp hmap.symm⟩
  have hall : ∀ outcome ∈ outcomes, ∃ value, outcome = .ok value := fun outcome hmem =>
    hfound outcome ((perm_itemsAt hfinished).mem_iff.mpr hmem)
  obtain ⟨values, hvalues⟩ := exists_forall₂_iff.mpr hall
  refine ⟨values, ?_⟩
  rw [← List.forall₂_eq_eq_eq, List.forall₂_map_right_iff]
  exact hvalues

/-! ## Values in the order of their items -/

/-- Values gathered from some positions, each with its position. -/
def gatheredFrom (values : List α) (finished : List Nat) : List (Nat × α) :=
  finished.filterMap fun index => values[index]?.map (index, ·)

theorem gather_values (values : List α) (finished : List Nat) :
    gather (values.map .ok) finished = .ok (gatheredFrom values finished) := by
  induction finished with
  | nil => rfl
  | cons index rest ih =>
      rw [gather, gatheredFrom, List.filterMap_cons, List.getElem?_map, ih]
      cases values[index]? <;> rfl

theorem find?_gatheredFrom {index : Nat} {value : α} (hmem : index ∈ finished)
    (hvalue : values[index]? = some value) :
    (gatheredFrom values finished).find? (·.1 == index) = some (index, value) := by
  induction finished with
  | nil => cases hmem
  | cons first rest ih =>
      by_cases hfirst : first = index
      · subst hfirst
        simp [gatheredFrom, hvalue]
      · have hrest := ih ((List.mem_cons.mp hmem).resolve_left (Ne.symm hfirst))
        cases hother : values[first]? with
        | none => simpa [gatheredFrom, hother] using hrest
        | some other => simpa [gatheredFrom, hother, hfirst] using hrest

theorem arrange_gatheredFrom (hfinished : finished.Perm (List.range values.length)) :
    arrange values.length (gatheredFrom values finished) = values := by
  calc arrange values.length (gatheredFrom values finished)
    _ = (List.range values.length).filterMap (values[·]?) := by
        apply List.filterMap_congr
        intro index hindex
        have hvalue := List.getElem?_eq_getElem (List.mem_range.mp hindex)
        rw [find?_gatheredFrom (hfinished.mem_iff.mpr hindex) hvalue, hvalue]
        rfl
    _ = values := itemsAt_range values

/-- What becomes of outcomes that are gathered in some order: the values of all of them in their own
order, or the first failure that is met. -/
structure Gathers (outcomes : List (Except Failure α)) (finished : List Nat)
    (result : Except Failure (List α)) : Prop where
  ok_iff : ∀ values, result = .ok values ↔ outcomes = values.map .ok
  error_iff : ∀ failure, result = .error failure ↔ FirstFailure (itemsAt outcomes finished) failure

theorem gathers_arrange (hfinished : finished.Perm (List.range outcomes.length)) :
    Gathers outcomes finished ((gather outcomes finished).map (arrange outcomes.length)) := by
  have hvalues : ∀ values : List α, outcomes = values.map .ok →
      (gather outcomes finished).map (arrange outcomes.length) = .ok values := by
    rintro values rfl
    rw [List.length_map] at hfinished ⊢
    rw [gather_values]
    exact congrArg Except.ok (arrange_gatheredFrom hfinished)
  constructor
  · intro values
    refine ⟨fun h => ?_, hvalues values⟩
    obtain ⟨gathered, hgathered, -⟩ := Except.map_eq_ok.mp h
    obtain ⟨others, hothers⟩ := exists_values_of_gather hfinished hgathered
    cases (hvalues others hothers).symm.trans h
    exact hothers
  · intro failure
    rw [Except.map_eq_error, gather_eq_error]

end

/-! ## Workers -/

section

variable {ι σ α : Type} {run : ι → Workflow α} {workers : Int} {items : List ι}
  {finished schedule : List Nat} {services : Services σ} {state after : σ} {trace : List Exchange}

theorem ends_convertMany {outcomes : List (Except Failure α)} (hitems : items ≠ [])
    (hworkers : 1 < workers)
    (h : Ends services (attemptTogether schedule (items.map run)) state trace (.ok outcomes)
      after) :
    Ends services (convertMany run workers items finished schedule) state trace
      ((gather outcomes finished).map (arrange items.length)) after := by
  rw [convertMany, if_neg (by simpa using hitems), if_neg (by omega), convertParallel]
  rw [← List.append_nil trace]
  apply h.bind
  cases gather outcomes finished with
  | error failure => exact .finish services (.error failure) after
  | ok gathered =>
      exact Ends.report (.finish services (.ok (arrange items.length gathered)) after) _

/-- Workflows for some items, one after another, each of which ends with a value. -/
inductive YieldsInTurn (services : Services σ) (run : ι → Workflow α) :
    List ι → σ → List α → Prop where
  | nil (state : σ) : YieldsInTurn services run [] state []
  | cons {item : ι} {items : List ι} {state middle : σ} {trace : List Exchange} {value : α}
      {values : List α} :
      Ends services (run item) state trace (.ok value) middle →
      YieldsInTurn services run items middle values →
      YieldsInTurn services run (item :: items) state (value :: values)

theorem convertInTurn_eq_ok {values : List α} :
    ((convertInTurn run items).run services state).result = .ok values ↔
      YieldsInTurn services run items state values := by
  induction items generalizing state values with
  | nil =>
      constructor
      · intro h
        cases h
        exact .nil state
      · intro h
        cases h
        rfl
  | cons item rest ih =>
      constructor
      · intro h
        have hends := ends services (convertInTurn run (item :: rest)) state
        rw [h] at hends
        rcases hends.bind_cases with ⟨value, middle, _, _, hfirst, hrest, -⟩ | ⟨_, _, hfailure⟩
        · rcases hrest.bind_cases with ⟨others, _, _, _, hothers, hend, -⟩ | ⟨_, _, hfailure⟩
          · cases hend.result_eq
            exact .cons hfirst (ih.mp hothers.result_eq)
          · cases hfailure
        · cases hfailure
      · intro h
        cases h with
        | @cons _ _ _ middle _ _ _ hfirst hrest =>
            have hothers := ends services (convertInTurn run rest) middle
            rw [ih.mpr hrest] at hothers
            exact (hfirst.bind (hothers.map _)).result_eq

end

/-- Several workers return the values of all items in the order of the items, as they are returned
one after another, or the failure that they meet first; and this is so in whatever order they take
their steps and in whatever order they finish. -/
theorem parallel_conversions_in_order {ι σ α : Type} (run : ι → Workflow α) {workers : Int}
    {items : List ι} {finished : List Nat} (hitems : items ≠ []) (hworkers : 1 < workers)
    (hfinished : finished.Perm (List.range items.length)) (services : Services σ) (state : σ) :
    (∀ schedule, ∃ trace outcomes after result,
      Interleaves services (items.map run) state trace outcomes after ∧
      Ends services (convertMany run workers items finished schedule) state trace result after ∧
      Gathers outcomes finished result) ∧
    (∀ trace outcomes after, Interleaves services (items.map run) state trace outcomes after →
      ∃ schedule result,
        Ends services (convertMany run workers items finished schedule) state trace result after ∧
        Gathers outcomes finished result) ∧
    ∀ (τ : Type) (others : Services τ) start alone values, alone ≤ 1 →
      (((convertMany run alone items finished).run others start).result = .ok values ↔
        YieldsInTurn others run items start values) := by
  have hgathers : ∀ {trace outcomes after},
      Interleaves services (items.map run) state trace outcomes after →
      Gathers outcomes finished ((gather outcomes finished).map (arrange items.length)) := by
    intro trace outcomes after h
    have hlength := h.length_eq
    rw [List.length_map] at hlength
    rw [← hlength] at hfinished ⊢
    exact gathers_arrange hfinished
  refine ⟨?_, ?_, ?_⟩
  · intro schedule
    obtain ⟨trace, outcomes, after, hends, hinterleaves⟩ :=
      interleaves_attemptTogether services schedule (items.map run) state
    exact ⟨trace, outcomes, after, _, hinterleaves, ends_convertMany hitems hworkers hends,
      hgathers hinterleaves⟩
  · intro trace outcomes after hinterleaves
    obtain ⟨schedule, hends⟩ := hinterleaves.exists_schedule
    exact ⟨schedule, _, ends_convertMany hitems hworkers hends, hgathers hinterleaves⟩
  · intro τ others start alone values halone
    rw [convertMany, if_neg (by simpa using hitems), if_pos halone]
    exact convertInTurn_eq_ok

namespace Sample

def laterVisits : Entity :=
  { visits with partition := some { day with name := "ds=2", values := ["2"] } }

/-- The visits of two days, each with the mark of its own run. -/
def marked : List (Entity × RunMark) := [(visits, ⟨0, 0⟩), (laterVisits, ⟨0, 1⟩)]

end Sample

open Sample in
/-- The second run is the first to finish. -/
theorem parallel_conversions_in_order_marked :
    let run := fun item : Entity × RunMark =>
      convert (fun _ => some warehouse) .nested (some numbers) (.ok item.2) item.1
    let many := convertMany run 2 marked [1, 0] [1, 0, 1, 1, 0, 1]
    ∃ trace plans after,
      Interleaves Rehearsal.services (marked.map run) {} trace (plans.map .ok) after ∧
      Ends Rehearsal.services many {} trace (.ok plans) after ∧
      plans.map (·.stagingTable) = [some "visits_00", some "visits_01"] := by
  intro run many
  have hstaged : ((many.run Rehearsal.services {}).result.map
      (List.map (·.stagingTable))).toOption = some [some "visits_00", some "visits_01"] := by
    decide +kernel
  have hitems : marked ≠ [] := List.cons_ne_nil _ _
  have hfinished : [1, 0].Perm (List.range marked.length) := List.Perm.swap 0 1 []
  obtain ⟨hparallel, -, -⟩ := parallel_conversions_in_order run hitems
    (by decide : (1 : Int) < 2) hfinished Rehearsal.services {}
  obtain ⟨trace, outcomes, after, result, hinterleaves, hends, hgathers⟩ :=
    hparallel [1, 0, 1, 1, 0, 1]
  obtain ⟨plans, hplans, htables⟩ := Except.map_eq_ok.mp (Except.toOption_eq_some.mp hstaged)
  rw [hends.result_eq] at hplans
  cases (hgathers.ok_iff plans).mp hplans
  rw [hplans] at hends
  exact ⟨trace, plans, after, hinterleaves, hends, htables⟩

end OrcConversion
