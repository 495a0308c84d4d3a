import OrcConversion.Conversion.Destination
import OrcConversion.Proofs.Result
import OrcConversion.Proofs.Workflow.Exchanges

/-! Workflows that end with a failure exactly when a call fails them, but for failures of their own.
-/

namespace OrcConversion

/-- A failure of one kind. -/
def Failure.IsKind (kind : FailureKind) (failure : Failure) : Prop :=
  failure.kind? = some kind

/-- A call that fails the workflow that made it. Not to find a table does not; a directory that is
not there after it was made does. -/
def Exchange.Fails : Exchange → Prop
  | ⟨.lookupTable _ _, .error failure⟩ => failure.kind? ≠ some .tableNotFound
  | ⟨.listPartitions _, .error failure⟩ => failure.kind? ≠ some .tableNotFound
  | ⟨.makeDirectory _ _, .ok made⟩ => made = false
  | ⟨_, reply⟩ => reply.isOk = false

instance : DecidablePred Exchange.Fails := fun exchange => by
  unfold Exchange.Fails
  split <;> infer_instance

/-- A run up to the first call that fails it. -/
structure StopsAt (trace done : List Exchange) (last : Exchange) : Prop where
  trace_eq : trace = done ++ [last]
  done_well : ∀ exchange ∈ done, ¬ exchange.Fails
  last_fails : last.Fails

theorem StopsAt.append {first trace done : List Exchange} {last : Exchange}
    (hfirst : ∀ exchange ∈ first, ¬ exchange.Fails) (h : StopsAt trace done last) :
    StopsAt (first ++ trace) (first ++ done) last := by
  constructor
  · rw [h.trace_eq, List.append_assoc]
  · intro exchange hmem
    exact (List.mem_append.mp hmem).elim (hfirst exchange) (h.done_well exchange)
  · exact h.last_fails

theorem StopsAt.last_mem {trace done : List Exchange} {last : Exchange}
    (h : StopsAt trace done last) : last ∈ trace := by
  simp [h.trace_eq]

theorem StopsAt.exists_fails_iff {trace done : List Exchange} {last : Exchange}
    (h : StopsAt trace done last) (p : Exchange → Prop) :
    (∃ exchange ∈ trace, p exchange ∧ exchange.Fails) ↔ p last := by
  constructor
  · rintro ⟨exchange, hmem, hp, hfails⟩
    rw [h.trace_eq, List.mem_append, List.mem_singleton] at hmem
    rcases hmem with hmem | rfl
    · exact absurd hfails (h.done_well exchange hmem)
    · exact hp
  · exact fun hp => ⟨last, h.last_mem, hp, h.last_fails⟩

namespace Workflow

variable {σ τ α β : Type} {own other : Failure → Prop} {allowed weaker : Call → Failure → Prop}

/-- Whatever is replied, the workflow ends with an allowed failure after a call that fails it, and
with no failure but its own otherwise. -/
def Halts (own : Failure → Prop) (allowed : Call → Failure → Prop) : Workflow α → Prop
  | finish (.ok _) => True
  | finish (.error failure) => own failure
  | report _ next => next.Halts own allowed
  | ask call resume => ∀ reply,
      (Exchange.Fails ⟨call, reply⟩ →
        ∃ failure, Settles (resume reply) (.error failure) ∧ allowed call failure) ∧
      (¬ Exchange.Fails ⟨call, reply⟩ → (resume reply).Halts own allowed)

/-- No failures at all. -/
abbrev noFailure : Failure → Prop := fun _ => False

theorem Halts.finish (value : α) : (Workflow.finish (.ok value)).Halts own allowed :=
  trivial

theorem Halts.note (severity : Journal.Severity) (component : Journal.Component)
    (message : String) : (Workflow.note severity component message).Halts own allowed :=
  trivial

theorem Halts.call {call : Call}
    (hfails : ∀ reply, Exchange.Fails ⟨call, reply⟩ ↔ reply.isOk = false)
    (hallowed : ∀ failure, allowed call failure) : (Workflow.call call).Halts own allowed := by
  intro reply
  rw [hfails]
  cases reply with
  | ok value => exact ⟨fun h => absurd h.symm Bool.false_ne_true, fun _ => trivial⟩
  | error failure =>
      constructor
      · exact fun _ => ⟨failure, .ofExcept (.error failure), hallowed failure⟩
      · exact fun h => absurd rfl h

theorem Halts.bind {workflow : Workflow α} {next : α → Workflow β}
    (hfirst : workflow.Halts own allowed) (hnext : ∀ value, (next value).Halts own allowed) :
    (workflow >>= next).Halts own allowed := by
  induction workflow with
  | finish result =>
      cases result with
      | ok value => exact hnext value
      | error failure => exact hfirst
  | report record rest ih => exact ih hfirst
  | ask call resume ih =>
      intro reply
      obtain ⟨hfails, hwell⟩ := hfirst reply
      constructor
      · intro h
        obtain ⟨failure, hsettles, hfailure⟩ := hfails h
        exact ⟨failure, hsettles.bind_error next, hfailure⟩
      · exact fun h => ih reply (hwell h)

theorem Halts.mapFailure {workflow : Workflow α} (h : workflow.Halts noFailure allowed)
    {change : Failure → Failure}
    (hchange : ∀ call failure, allowed call failure → weaker call (change failure)) :
    (workflow.mapFailure change).Halts own weaker := by
  induction workflow with
  | finish result =>
      cases result with
      | ok value => trivial
      | error failure => exact h.elim
  | report record rest ih => exact ih h
  | ask call resume ih =>
      intro reply
      obtain ⟨hfails, hwell⟩ := h reply
      constructor
      · intro hreply
        obtain ⟨failure, hsettles, hfailure⟩ := hfails hreply
        exact ⟨change failure, hsettles.mapFailure change, hchange call failure hfailure⟩
      · exact fun hreply => ih reply (hwell hreply)

theorem Halts.wrappedCall {call : Call} {change : Failure → Failure}
    (hfails : ∀ reply, Exchange.Fails ⟨call, reply⟩ ↔ reply.isOk = false)
    (hchange : ∀ failure, allowed call (change failure)) :
    ((Workflow.call call).mapFailure change).Halts own allowed := by
  have hcall : (Workflow.call call).Halts noFailure fun other _ => other = call :=
    .call hfails fun _ => rfl
  apply hcall.mapFailure
  rintro _ failure rfl
  exact hchange failure

theorem Halts.mono {workflow : Workflow α} (h : workflow.Halts own allowed)
    (hown : ∀ failure, own failure → other failure)
    (hweaker : ∀ call failure, allowed call failure → weaker call failure) :
    workflow.Halts other weaker := by
  induction workflow with
  | finish result =>
      cases result with
      | ok value => trivial
      | error failure => exact hown failure h
  | report record rest ih => exact ih h
  | ask call resume ih =>
      intro reply
      obtain ⟨hfails, hwell⟩ := h reply
      constructor
      · intro hreply
        obtain ⟨failure, hsettles, hfailure⟩ := hfails hreply
        exact ⟨failure, hsettles, hweaker call failure hfailure⟩
      · exact fun hreply => ih reply (hwell hreply)

theorem Halts.of_noFailure {workflow : Workflow α} (h : workflow.Halts noFailure allowed) :
    workflow.Halts own allowed :=
  h.mono (fun _ hnone => hnone.elim) fun _ _ hallowed => hallowed

/-- A workflow without calls halts if it ends with a value or with a failure of its own. -/
theorem Halts.of_settles {workflow : Workflow α} {result : Except Failure α}
    (h : Settles workflow result) (hown : Except.Blames own result) :
    workflow.Halts own allowed := by
  induction workflow with
  | finish settled =>
      cases settled with
      | ok value => trivial
      | error failure => exact hown failure h.eq_of_finish.symm
  | report record rest ih => exact ih h.of_report
  | ask call resume ih => exact h.not_ask.elim

/-! ## Runs -/

variable {services : Services σ} {workflow : Workflow α} {state after : σ}
  {trace : List Exchange} {result : Except Failure α}

/-- A run without failing calls, or one that stops at the first of them. -/
theorem Halts.cases (h : workflow.Halts own allowed)
    (hends : Ends services workflow state trace result after) :
    (Except.Blames own result ∧ ∀ exchange ∈ trace, ¬ exchange.Fails) ∨
    (∃ done last failure, StopsAt trace done last ∧ result = .error failure ∧
      allowed last.call failure) := by
  obtain ⟨rfl, rfl, -⟩ := hends
  induction workflow generalizing state with
  | finish result =>
      refine .inl ⟨?_, by simp [exchanges]⟩
      rintro failure hfailure
      cases result with
      | ok value => cases hfailure
      | error other =>
          cases hfailure
          exact h
  | report record rest ih => exact ih h
  | ask call resume ih =>
      simp only [exchanges, run]
      let first : Exchange := ⟨call, (services.answer call state).1⟩
      obtain ⟨hfails, hwell⟩ := h (services.answer call state).1
      by_cases hreply : Exchange.Fails ⟨call, (services.answer call state).1⟩
      · obtain ⟨failure, hsettles, hfailure⟩ := hfails hreply
        have hrest := hsettles.ends services (services.answer call state).2
        refine .inr ⟨[], _, failure, ⟨?_, by simp, hreply⟩, hrest.result_eq, hfailure⟩
        rw [hrest.exchanges_eq]
        rfl
      · have hfirst : ∀ exchange ∈ [first], ¬ exchange.Fails := by simpa using hreply
        rcases ih _ (hwell hreply) with ⟨hown, hall⟩ |
          ⟨done, last, failure, hstops, hfailure, hallowed⟩
        · refine .inl ⟨hown, ?_⟩
          intro exchange hmem
          rcases List.mem_cons.mp hmem with rfl | hmem
          · exact hreply
          · exact hall exchange hmem
        · exact .inr ⟨first :: done, last, failure, hstops.append hfirst, hfailure, hallowed⟩

theorem Halts.well_of_ok (h : workflow.Halts own allowed) {value : α}
    (hends : Ends services workflow state trace (.ok value) after) :
    ∀ exchange ∈ trace, ¬ exchange.Fails := by
  rcases h.cases hends with ⟨-, hwell⟩ | ⟨_, _, _, -, hfailure, -⟩
  · exact hwell
  · cases hfailure

theorem exists_answer_of_mem {exchange : Exchange}
    (h : exchange ∈ workflow.exchanges services state) :
    ∃ call state, exchange = ⟨call, (services.answer call state).1⟩ := by
  induction workflow generalizing state with
  | finish result => cases h
  | report record rest ih => exact ih h
  | ask call resume ih =>
      rcases List.mem_cons.mp h with rfl | h
      · exact ⟨call, state, rfl⟩
      · exact ih _ h

end Workflow

/-! ## Services that go on -/

/-- Services that reply the same, but well where a call would fail what made it. -/
def Services.forgiving {σ : Type} (services : Services σ) : Services σ where
  answer call state :=
    let (reply, state) := services.answer call state
    (if Exchange.Fails ⟨call, reply⟩ then .ok call.goodReply else reply, state)

variable {σ α : Type}

theorem Call.goodReply_not_fails (call : Call) : ¬ Exchange.Fails ⟨call, .ok call.goodReply⟩ := by
  cases call <;> simp [Exchange.Fails, Call.goodReply, Except.isOk, Except.toBool]

theorem Services.forgiving_not_fails (services : Services σ) (call : Call) (state : σ) :
    ¬ Exchange.Fails ⟨call, (services.forgiving.answer call state).1⟩ := by
  by_cases h : Exchange.Fails ⟨call, (services.answer call state).1⟩
  · simp [forgiving, h, call.goodReply_not_fails]
  · simp [forgiving, h]

namespace Workflow

variable {services : Services σ} {workflow : Workflow α} {state : σ} {done later : List Exchange}
  {own : Failure → Prop} {allowed : Call → Failure → Prop}

theorem replays_forgiving (h : workflow.exchanges services state = done ++ later)
    (hdone : ∀ exchange ∈ done, ¬ exchange.Fails) : services.forgiving.Replays done state := by
  induction workflow generalizing state done with
  | finish result =>
      rw [(List.append_eq_nil_iff.mp h.symm).1]
      trivial
  | report record rest ih => exact ih h hdone
  | ask call resume ih =>
      cases done with
      | nil => trivial
      | cons first done =>
          obtain ⟨rfl, hrest⟩ := List.cons.inj h
          have hfirst := hdone _ List.mem_cons_self
          constructor
          · exact if_neg hfirst
          · exact ih _ hrest fun exchange hmem => hdone exchange (List.mem_cons_of_mem _ hmem)

theorem Halts.blames_forgiving (h : workflow.Halts own allowed) (services : Services σ)
    (state : σ) : Except.Blames own (workflow.run services.forgiving state).result := by
  rcases h.cases (ends services.forgiving workflow state) with ⟨hown, -⟩ |
    ⟨done, last, failure, hstops, -, -⟩
  · exact hown
  · have hmem : last ∈ workflow.exchanges services.forgiving state := by simp [hstops.trace_eq]
    obtain ⟨call, before, rfl⟩ := exists_answer_of_mem hmem
    exact absurd hstops.last_fails (services.forgiving_not_fails call before)

/-- A run that is cut short: every run in which its calls get the same replies goes on to the call
that failed. -/
structure IsCut (services : Services σ) (workflow : Workflow α) (state : σ)
    (done : List Exchange) (last : Exchange) : Prop where
  stopsAt : StopsAt (workflow.exchanges services state) done last
  goes_on : ∀ {τ : Type} (others : Services τ) (start : τ), others.Replays done start →
    ∃ reply rest, workflow.exchanges others start = done ++ ⟨last.call, reply⟩ :: rest
  replays_done : services.forgiving.Replays done state

theorem Halts.isCut (h : workflow.Halts own allowed) {failure : Failure}
    (hfailure : (workflow.run services state).result = .error failure) :
    (own failure ∧ ∀ exchange ∈ workflow.exchanges services state, ¬ exchange.Fails) ∨
    ∃ done last, IsCut services workflow state done last := by
  rcases h.cases (ends services workflow state) with ⟨hown, hwell⟩ | ⟨done, last, _, hstops, -, -⟩
  · exact .inl ⟨hown failure hfailure, hwell⟩
  · refine .inr ⟨done, last, hstops, ?_, ?_⟩
    · intro τ others start hreplays
      exact exchanges_of_replays hreplays hstops.trace_eq
    · exact replays_forgiving hstops.trace_eq hstops.done_well

end Workflow

end OrcConversion
