import OrcConversion.Proofs.Workflow.Exchanges

/-! Calls that a workflow may make, whatever the services reply. -/

namespace OrcConversion

namespace Workflow

variable {σ α β : Type}

/-- Whatever is replied, every call of the workflow is an allowed one. -/
def AsksOnly (allowed : Call → Prop) : Workflow α → Prop
  | finish _ => True
  | report _ next => next.AsksOnly allowed
  | ask call resume => allowed call ∧ ∀ reply, (resume reply).AsksOnly allowed

section

variable {permitted : Call → Prop} {workflow : Workflow α}

theorem AsksOnly.allows (h : workflow.AsksOnly permitted) (services : Services σ) (state : σ) :
    ∀ exchange ∈ workflow.exchanges services state, permitted exchange.call := by
  induction workflow generalizing state with
  | finish result => simp [exchanges]
  | report record rest ih => exact ih h state
  | ask call resume ih =>
      intro exchange hmem
      rcases List.mem_cons.mp hmem with rfl | hmem
      · exact h.1
      · exact ih _ (h.2 _) _ exchange hmem

theorem AsksOnly.andThen {next : Except Failure α → Workflow β}
    (hfirst : workflow.AsksOnly permitted) (hnext : ∀ result, (next result).AsksOnly permitted) :
    (workflow.andThen next).AsksOnly permitted := by
  induction workflow with
  | finish result => exact hnext result
  | report record rest ih => exact ih hfirst
  | ask call resume ih => exact ⟨hfirst.1, fun reply => ih reply (hfirst.2 reply)⟩

theorem AsksOnly.bind {next : α → Workflow β} (hfirst : workflow.AsksOnly permitted)
    (hnext : ∀ value, (next value).AsksOnly permitted) :
    (workflow >>= next).AsksOnly permitted := by
  apply hfirst.andThen
  intro result
  cases result with
  | ok value => exact hnext value
  | error failure => trivial

theorem AsksOnly.mapFailure (h : workflow.AsksOnly permitted) (change : Failure → Failure) :
    (workflow.mapFailure change).AsksOnly permitted :=
  h.andThen fun _ => trivial

theorem AsksOnly.note (severity : Journal.Severity) (component : Journal.Component)
    (message : String) : (note severity component message).AsksOnly permitted :=
  trivial

theorem AsksOnly.call {call : Call} (h : permitted call) :
    (Workflow.call call).AsksOnly permitted :=
  ⟨h, fun _ => trivial⟩

theorem AsksOnly.of_settles {result : Except Failure α} (h : Settles workflow result) :
    workflow.AsksOnly permitted := by
  induction workflow with
  | finish => trivial
  | report record rest ih => exact ih h.of_report
  | ask call resume ih => exact h.not_ask.elim

theorem AsksOnly.mono {weaker : Call → Prop} (h : workflow.AsksOnly permitted)
    (hweaker : ∀ call, permitted call → weaker call) : workflow.AsksOnly weaker := by
  induction workflow with
  | finish => trivial
  | report record rest ih => exact ih h
  | ask call resume ih => exact ⟨hweaker call h.1, fun reply => ih reply (h.2 reply)⟩

theorem AsksOnly.of_ends {services : Services σ} {state after : σ} {trace : List Exchange}
    {result : Except Failure α} (h : workflow.AsksOnly permitted)
    (hends : Ends services workflow state trace result after) :
    ∀ exchange ∈ trace, permitted exchange.call := by
  rw [← hends.exchanges_eq]
  exact h.allows services state

end

end Workflow

end OrcConversion
