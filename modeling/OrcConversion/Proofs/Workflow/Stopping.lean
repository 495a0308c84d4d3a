import Mathlib.Data.List.Infix
import Mathlib.Data.List.TakeDrop
import OrcConversion.Proofs.Workflow.Exchanges

/-! Runs that make calls one after another and stop at the first that fails. -/

namespace OrcConversion

/-- Exchanges with the first of some calls, of which at most the last one failed. -/
structure Follows (trace : List Exchange) (calls : List Call) : Prop where
  begins : trace.map Exchange.call <+: calls
  succeeded : ∀ exchange ∈ trace.dropLast, exchange.succeeded

/-- Exchanges with some calls in order, up to and including the first that failed. -/
structure StopsAtFailure (trace : List Exchange) (calls : List Call) : Prop
    extends Follows trace calls where
  complete : (∀ exchange ∈ trace, exchange.succeeded) → trace.map Exchange.call = calls

/-- Calls of one sort are made only after another call has succeeded. -/
def OnlyAfter (trace : List Exchange) (guard : Call) (sort : Call → Prop) : Prop :=
  ∀ before exchange after, trace = before ++ exchange :: after → sort exchange.call →
    ∃ earlier ∈ before, earlier.call = guard ∧ earlier.succeeded

variable {trace later : List Exchange} {calls others : List Call}

theorem Follows.split (h : Follows trace calls) {before after : List Exchange}
    {exchange : Exchange} (heq : trace = before ++ exchange :: after) :
    (∃ rest, calls = before.map Exchange.call ++ exchange.call :: rest) ∧
      ∀ earlier ∈ before, earlier.succeeded := by
  subst heq
  constructor
  · obtain ⟨rest, hrest⟩ := h.begins
    refine ⟨after.map Exchange.call ++ rest, ?_⟩
    rw [← hrest]
    simp
  · intro earlier hmem
    apply h.succeeded
    rw [List.dropLast_append_cons]
    exact List.mem_append_left _ hmem

theorem Follows.drop (h : Follows trace calls) (count : Nat) :
    Follows (trace.drop count) (calls.drop count) := by
  constructor
  · rw [List.map_drop]
    exact List.IsPrefix.drop h.begins count
  · intro exchange hmem
    apply h.succeeded
    rw [List.dropLast_drop_eq_drop_dropLast] at hmem
    exact List.mem_of_mem_drop hmem

/-- A call is guarded by another one if only calls of other sorts come before that one. -/
theorem Follows.onlyAfter {front back : List Call} {guard : Call} {sort : Call → Prop}
    (h : Follows trace (front ++ guard :: back)) (hfront : ∀ call ∈ front, ¬ sort call)
    (hguard : ¬ sort guard) : OnlyAfter trace guard sort := by
  intro before exchange after heq hsort
  obtain ⟨⟨rest, hcalls⟩, hsucceeded⟩ := h.split heq
  have hguarded : guard ∈ before.map Exchange.call := by
    rcases List.append_eq_append_iff.mp hcalls with ⟨middle, hbefore, hback⟩ | ⟨middle, hfrontEq, _⟩
    · cases middle with
      | nil =>
          obtain ⟨rfl, -⟩ := List.cons.inj hback
          exact absurd hsort hguard
      | cons call middle =>
          obtain ⟨rfl, -⟩ := List.cons.inj hback
          rw [hbefore]
          simp
    · cases middle with
      | nil =>
          rename_i hback
          obtain ⟨rfl, -⟩ := List.cons.inj hback
          exact absurd hsort hguard
      | cons call middle =>
          rename_i hback
          obtain ⟨rfl, -⟩ := List.cons.inj hback
          exact absurd hsort (hfront _ (by simp [hfrontEq]))
  obtain ⟨earlier, hmem, rfl⟩ := List.mem_map.mp hguarded
  exact ⟨earlier, hmem, rfl, hsucceeded earlier hmem⟩

theorem Follows.take {front back : List Call} (h : Follows trace (front ++ back)) :
    (trace.take front.length).map Exchange.call <+: front := by
  have htake := List.IsPrefix.take h.begins front.length
  rwa [List.take_left, ← List.map_take] at htake

/-- Calls behind others are made only after all of those have succeeded. -/
theorem Follows.reached {front back : List Call} (h : Follows trace (front ++ back))
    (hreached : front.length < trace.length) :
    (trace.take front.length).map Exchange.call = front ∧
      ∀ exchange ∈ trace.take front.length, exchange.succeeded := by
  constructor
  · apply h.take.eq_of_length
    rw [List.length_map, List.length_take]
    omega
  · intro exchange hmem
    apply h.succeeded
    rw [List.dropLast_eq_take]
    exact (List.take_prefix_take_left (by omega)).subset hmem

theorem StopsAtFailure.nil : StopsAtFailure [] [] :=
  ⟨⟨List.nil_prefix, by simp⟩, fun _ => rfl⟩

theorem StopsAtFailure.singleton (exchange : Exchange) :
    StopsAtFailure [exchange] [exchange.call] :=
  ⟨⟨List.prefix_rfl, by simp⟩, fun _ => rfl⟩

theorem StopsAtFailure.of_failed (h : Follows trace calls)
    (hfailed : ¬ ∀ exchange ∈ trace, exchange.succeeded) (others : List Call) :
    StopsAtFailure trace (calls ++ others) :=
  ⟨⟨h.begins.trans (List.prefix_append calls others), h.succeeded⟩,
    fun hall => absurd hall hfailed⟩

theorem StopsAtFailure.append (hfirst : StopsAtFailure trace calls)
    (hall : ∀ exchange ∈ trace, exchange.succeeded) (hlater : StopsAtFailure later others) :
    StopsAtFailure (trace ++ later) (calls ++ others) := by
  constructor
  · constructor
    · rw [List.map_append, hfirst.complete hall]
      exact (List.prefix_append_right_inj calls).mpr hlater.begins
    · intro exchange hmem
      cases later with
      | nil =>
          rw [List.append_nil] at hmem
          exact hfirst.succeeded exchange hmem
      | cons next later =>
          rw [List.dropLast_append_of_ne_nil (by simp), List.mem_append] at hmem
          rcases hmem with hmem | hmem
          · exact hall exchange hmem
          · exact hlater.succeeded exchange hmem
  · intro hboth
    have hrest : ∀ exchange ∈ later, exchange.succeeded := fun exchange hmem =>
      hboth exchange (List.mem_append_right trace hmem)
    rw [List.map_append, hfirst.complete hall, hlater.complete hrest]

namespace Workflow

variable {σ α β : Type}

/-- A workflow that makes some calls in order, stops at the first that fails, and returns exactly if
none does. -/
structure Performs (services : Services σ) (workflow : Workflow α) (state : σ)
    (calls : List Call) : Prop where
  stops : StopsAtFailure (workflow.exchanges services state) calls
  isOk_iff : (workflow.run services state).result.isOk ↔
    ∀ exchange ∈ workflow.exchanges services state, exchange.succeeded

variable {services : Services σ} {workflow : Workflow α} {state : σ} {calls others : List Call}

theorem Performs.finish (services : Services σ) (value : α) (state : σ) :
    Performs services (finish (.ok value)) state [] :=
  ⟨.nil, fun _ _ hmem => (List.not_mem_nil hmem).elim, fun _ => rfl⟩

theorem Performs.note (services : Services σ) (severity : Journal.Severity)
    (component : Journal.Component) (message : String) (state : σ) :
    Performs services (note severity component message) state [] :=
  ⟨.nil, fun _ _ hmem => (List.not_mem_nil hmem).elim, fun _ => rfl⟩

theorem Performs.call (services : Services σ) (call : Call) (state : σ) :
    Performs services (Workflow.call call) state [call] := by
  have hends := Ends.call services call state
  constructor
  · rw [hends.exchanges_eq]
    exact .singleton _
  · rw [hends.exchanges_eq, hends.result_eq]
    simp [Exchange.succeeded]

theorem Performs.mapFailure (h : Performs services workflow state calls)
    (change : Failure → Failure) :
    Performs services (workflow.mapFailure change) state calls := by
  have hends := (ends services workflow state).mapFailure change
  constructor
  · rw [hends.exchanges_eq]
    exact h.stops
  · rw [hends.exchanges_eq, hends.result_eq, ← h.isOk_iff]
    cases (workflow.run services state).result <;> rfl

theorem Performs.bind {next : α → Workflow β} (hfirst : Performs services workflow state calls)
    (hnext : ∀ value, (workflow.run services state).result = .ok value →
      Performs services (next value) (workflow.run services state).state others) :
    Performs services (workflow >>= next) state (calls ++ others) := by
  have hends := ends services workflow state
  have hiff := hfirst.isOk_iff
  cases hresult : (workflow.run services state).result with
  | ok value =>
      rw [hresult] at hends hiff
      have hall := hiff.mp rfl
      have hlater := hnext value hresult
      have hboth := hends.bind (ends services (next value) _)
      constructor
      · rw [hboth.exchanges_eq]
        exact hfirst.stops.append hall hlater.stops
      · rw [hboth.exchanges_eq, hboth.result_eq, hlater.isOk_iff]
        simp only [List.mem_append]
        exact ⟨fun hrest exchange hmem => hmem.elim (hall exchange) (hrest exchange),
          fun hboth exchange hmem => hboth exchange (.inr hmem)⟩
  | error failure =>
      rw [hresult] at hends hiff
      have hfailed : ¬ ∀ exchange ∈ workflow.exchanges services state, exchange.succeeded :=
        fun hall => Bool.false_ne_true (hiff.mpr hall)
      have hboth := hends.bind_error next
      constructor
      · rw [hboth.exchanges_eq]
        exact .of_failed hfirst.stops.toFollows hfailed others
      · rw [hboth.exchanges_eq, hboth.result_eq]
        exact hiff

/-- What fails never gets to the calls that would come next, whichever they are. -/
theorem Performs.bind_error (hfirst : Performs services workflow state calls) {failure : Failure}
    (hfailure : (workflow.run services state).result = .error failure)
    (next : α → Workflow β) (others : List Call) :
    Performs services (workflow >>= next) state (calls ++ others) := by
  apply hfirst.bind
  intro value hvalue
  cases hvalue.symm.trans hfailure

end Workflow

end OrcConversion
