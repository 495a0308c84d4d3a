import OrcConversion.Workflow.Services

/-! Runs as exchanges: every call of a run with the reply that it got. -/

namespace OrcConversion

/-- A call with the reply that it got. -/
structure Exchange where
  call : Call
  reply : Except Failure call.Reply

namespace Exchange

def succeeded (exchange : Exchange) : Bool := exchange.reply.isOk

/-- Answer to the question whether a path is there. -/
def presence? : Exchange → Option Bool
  | ⟨.checkPath _, .ok present⟩ => some present
  | _ => none

end Exchange

/-- Answers to the questions whether paths are there, in order. -/
def presences (trace : List Exchange) : List Bool :=
  trace.filterMap Exchange.presence?

@[simp] theorem presences_append (first second : List Exchange) :
    presences (first ++ second) = presences first ++ presences second :=
  List.filterMap_append

/-- Services that reply to some calls, asked one after another, as they were replied to before. -/
def Services.Replays (services : Services σ) : List Exchange → σ → Prop
  | [], _ => True
  | exchange :: rest, state =>
      (services.answer exchange.call state).1 = exchange.reply ∧
        services.Replays rest (services.answer exchange.call state).2

/-- A reply with which nothing is wrong. -/
def Call.goodReply : (call : Call) → call.Reply
  | .execute _ => ()
  | .permission _ => 0
  | .makeDirectory _ _ => true
  | .setPermission _ _ => ()
  | .checkPath _ => false
  | .move _ _ => ()
  | .delete _ => ()
  | .lookupTable db table => { db, name := table }
  | .listPartitions _ => []

/-- Services that reply well to everything. -/
def Services.willing : Services Unit where
  answer call _ := (.ok call.goodReply, ())

namespace Workflow

variable {σ τ α β : Type}

/-- The exchanges of a run, in order. -/
def exchanges (services : Services σ) : Workflow α → σ → List Exchange
  | finish _, _ => []
  | report _ next, state => next.exchanges services state
  | ask call resume, state =>
      let (reply, state) := services.answer call state
      ⟨call, reply⟩ :: (resume reply).exchanges services state

theorem exchanges_andThen (services : Services σ) (workflow : Workflow α)
    (next : Except Failure α → Workflow β) (state : σ) :
    (workflow.andThen next).exchanges services state =
      let first := workflow.run services state
      workflow.exchanges services state ++
        (next first.result).exchanges services first.state := by
  induction workflow generalizing state with
  | finish result => simp [andThen, run, exchanges]
  | report record rest ih => simp [andThen, run, exchanges, ih]
  | ask call resume ih => simp [andThen, run, exchanges, ih]

/-! ## Endings -/

/-- A run with its exchanges, its outcome and the state that it leaves. -/
structure Ends (services : Services σ) (workflow : Workflow α) (state : σ)
    (trace : List Exchange) (result : Except Failure α) (after : σ) : Prop where
  exchanges_eq : workflow.exchanges services state = trace
  result_eq : (workflow.run services state).result = result
  state_eq : (workflow.run services state).state = after

theorem ends (services : Services σ) (workflow : Workflow α) (state : σ) :
    Ends services workflow state (workflow.exchanges services state)
      (workflow.run services state).result (workflow.run services state).state :=
  ⟨rfl, rfl, rfl⟩

variable {services : Services σ} {workflow : Workflow α} {state middle after : σ}
  {trace later : List Exchange}

theorem Ends.finish (services : Services σ) (result : Except Failure α) (state : σ) :
    Ends services (finish result) state [] result state :=
  ⟨rfl, rfl, rfl⟩

theorem Ends.call (services : Services σ) (call : Call) (state : σ) :
    Ends services (Workflow.call call) state [⟨call, (services.answer call state).1⟩]
      (services.answer call state).1 (services.answer call state).2 :=
  ⟨rfl, rfl, rfl⟩

theorem Ends.call_of_answer {call : Call} {reply : Except Failure call.Reply}
    (h : (services.answer call state).1 = reply) :
    Ends services (Workflow.call call) state [⟨call, reply⟩] reply
      (services.answer call state).2 := by
  rw [← h]
  exact Ends.call services call state

theorem Ends.note (services : Services σ) (severity : Journal.Severity)
    (component : Journal.Component) (message : String) (state : σ) :
    Ends services (Workflow.note severity component message) state [] (.ok ()) state :=
  ⟨rfl, rfl, rfl⟩

theorem Ends.report {result : Except Failure α}
    (h : Ends services workflow state trace result after) (record : Journal.Record) :
    Ends services (report record workflow) state trace result after :=
  ⟨h.exchanges_eq, h.result_eq, h.state_eq⟩

theorem Ends.ask {call : Call} {resume : Except Failure call.Reply → Workflow α}
    {result : Except Failure α}
    (h : Ends services (resume (services.answer call state).1) (services.answer call state).2 trace
      result after) :
    Ends services (ask call resume) state (⟨call, (services.answer call state).1⟩ :: trace) result
      after :=
  ⟨congrArg (List.cons _) h.exchanges_eq, h.result_eq, h.state_eq⟩

theorem Ends.andThen {next : Except Failure α → Workflow β} {first : Except Failure α}
    {result : Except Failure β}
    (hfirst : Ends services workflow state trace first middle)
    (hnext : Ends services (next first) middle later result after) :
    Ends services (workflow.andThen next) state (trace ++ later) result after := by
  obtain ⟨rfl, rfl, rfl⟩ := hfirst
  obtain ⟨rfl, rfl, rfl⟩ := hnext
  constructor
  · rw [exchanges_andThen]
  · rw [run_andThen]
  · rw [run_andThen]

theorem Ends.bind {next : α → Workflow β} {value : α} {result : Except Failure β}
    (hfirst : Ends services workflow state trace (.ok value) middle)
    (hnext : Ends services (next value) middle later result after) :
    Ends services (workflow >>= next) state (trace ++ later) result after :=
  hfirst.andThen hnext

theorem Ends.bind_error {failure : Failure}
    (hfirst : Ends services workflow state trace (.error failure) after)
    (next : α → Workflow β) :
    Ends services (workflow >>= next) state trace (.error failure) after := by
  have hboth : Ends services (workflow >>= next) state (trace ++ []) (.error failure) after :=
    hfirst.andThen (Ends.finish services (.error failure) after)
  rwa [List.append_nil] at hboth

theorem Ends.mapFailure {result : Except Failure α}
    (h : Ends services workflow state trace result after) (change : Failure → Failure) :
    Ends services (workflow.mapFailure change) state trace (result.mapError change) after := by
  have hmapped : Ends services (workflow.mapFailure change) state (trace ++ [])
      (result.mapError change) after :=
    h.andThen (Ends.finish services (result.mapError change) after)
  rwa [List.append_nil] at hmapped

theorem Ends.map {result : Except Failure α}
    (h : Ends services workflow state trace result after) (f : α → β) :
    Ends services (workflow >>= fun value => return f value) state trace (result.map f) after := by
  cases result with
  | ok value =>
      have hmapped : Ends services (workflow >>= fun value => return f value) state
          (trace ++ []) (.ok (f value)) after := h.bind (Ends.finish services (.ok (f value)) after)
      rwa [List.append_nil] at hmapped
  | error failure => exact h.bind_error _

theorem Ends.eq_of_call {call : Call} {result : Except Failure call.Reply}
    (h : Ends services (Workflow.call call) state trace result after) :
    trace = [⟨call, result⟩] := by
  rw [← h.exchanges_eq, ← h.result_eq]
  rfl

theorem Ends.of_mapFailure {change : Failure → Failure} {result : Except Failure α}
    (h : Ends services (workflow.mapFailure change) state trace result after) :
    ∃ inner, Ends services workflow state trace inner after ∧ result = inner.mapError change := by
  have hinner := ends services workflow state
  have hends := hinner.mapFailure change
  rw [hends.exchanges_eq.symm.trans h.exchanges_eq, hends.state_eq.symm.trans h.state_eq] at hinner
  exact ⟨_, hinner, h.result_eq.symm.trans hends.result_eq⟩

/-- What a sequence does follows from what its first part does. -/
theorem Ends.bind_cases {next : α → Workflow β} {result : Except Failure β}
    (h : Ends services (workflow >>= next) state trace result after) :
    (∃ value middle first later,
      Ends services workflow state first (.ok value) middle ∧
      Ends services (next value) middle later result after ∧ trace = first ++ later) ∨
    (∃ failure, Ends services workflow state trace (.error failure) after ∧
      result = .error failure) := by
  have hfirst := ends services workflow state
  cases hresult : (workflow.run services state).result with
  | ok value =>
      rw [hresult] at hfirst
      have hnext := ends services (next value) (workflow.run services state).state
      obtain ⟨rfl, rfl, rfl⟩ := h
      have hboth := hfirst.bind hnext
      refine .inl ⟨value, _, _, _, hfirst, ?_, hboth.exchanges_eq⟩
      rw [hboth.result_eq, hboth.state_eq]
      exact hnext
  | error failure =>
      rw [hresult] at hfirst
      have hboth := hfirst.bind_error next
      obtain ⟨rfl, rfl, rfl⟩ := h
      refine .inr ⟨failure, ?_, hboth.result_eq⟩
      rw [hboth.exchanges_eq, hboth.state_eq]
      exact hfirst

/-! ## Workflows without calls -/

/-- A workflow that asks for nothing, so that its outcome is the same with all services. -/
structure Settles (workflow : Workflow α) (result : Except Failure α) : Prop where
  ends : ∀ {σ : Type} (services : Services σ) (state : σ),
    Ends services workflow state [] result state

theorem Settles.ofExcept (result : Except Failure α) : Settles (ofExcept result) result :=
  ⟨fun services => Ends.finish services result⟩

theorem Settles.note (severity : Journal.Severity) (component : Journal.Component)
    (message : String) : Settles (note severity component message) (.ok ()) :=
  ⟨fun services => Ends.note services severity component message⟩

theorem Settles.bind {workflow : Workflow α} {next : α → Workflow β} {value : α}
    {result : Except Failure β} (hfirst : Settles workflow (.ok value))
    (hnext : Settles (next value) result) : Settles (workflow >>= next) result :=
  ⟨fun services state => (hfirst.ends services state).bind (hnext.ends services state)⟩

theorem Settles.bind_error {workflow : Workflow α} {failure : Failure}
    (hfirst : Settles workflow (.error failure)) (next : α → Workflow β) :
    Settles (workflow >>= next) (.error failure) :=
  ⟨fun services state => (hfirst.ends services state).bind_error next⟩

/-- A result that both go on from. -/
theorem Settles.ofExcept_bind {first : Except Failure α} {next : α → Workflow β}
    {rest : α → Except Failure β} (h : ∀ value, Settles (next value) (rest value)) :
    Settles (Workflow.ofExcept first >>= next) (first >>= rest) := by
  cases first with
  | ok value => exact (Settles.ofExcept _).bind (h value)
  | error failure => exact (Settles.ofExcept _).bind_error next

theorem Settles.mapFailure {workflow : Workflow α} {result : Except Failure α}
    (h : Settles workflow result) (change : Failure → Failure) :
    Settles (workflow.mapFailure change) (result.mapError change) :=
  ⟨fun services state => (h.ends services state).mapFailure change⟩

theorem Settles.eq_of_ends {settled result : Except Failure α} (h : Settles workflow settled)
    (hends : Ends services workflow state trace result after) : trace = [] ∧ result = settled := by
  have hsettled := h.ends services state
  exact ⟨hends.exchanges_eq.symm.trans hsettled.exchanges_eq,
    hends.result_eq.symm.trans hsettled.result_eq⟩

theorem Settles.eq_of_finish {first result : Except Failure α}
    (h : Settles (Workflow.finish first) result) : first = result :=
  (h.ends Services.willing ()).result_eq

theorem Settles.of_report {record : Journal.Record} {rest : Workflow α}
    {result : Except Failure α} (h : Settles (report record rest) result) :
    Settles rest result := by
  constructor
  intro σ services state
  have hends := h.ends services state
  exact ⟨hends.exchanges_eq, hends.result_eq, hends.state_eq⟩

theorem Settles.not_ask {call : Call} {resume : Except Failure call.Reply → Workflow α}
    {result : Except Failure α} (h : Settles (ask call resume) result) : False := by
  cases (h.ends Services.willing ()).exchanges_eq

/-! ## Replies decide -/

theorem exchanges_of_replays {others : Services τ} {start : τ} {workflow : Workflow α}
    {exchange : Exchange}
    (hreplays : others.Replays trace start)
    (htrace : workflow.exchanges services state = trace ++ exchange :: later) :
    ∃ reply rest,
      workflow.exchanges others start = trace ++ ⟨exchange.call, reply⟩ :: rest := by
  induction workflow generalizing trace state start with
  | finish result => simp [exchanges] at htrace
  | report record rest ih => exact ih hreplays htrace
  | ask call resume ih =>
      simp only [exchanges] at htrace ⊢
      cases trace with
      | nil =>
          obtain ⟨rfl, -⟩ := List.cons.inj htrace
          exact ⟨_, _, rfl⟩
      | cons first trace =>
          obtain ⟨rfl, htail⟩ := List.cons.inj htrace
          obtain ⟨hreply, hrest⟩ := hreplays
          obtain ⟨reply, rest, hothers⟩ := ih _ hrest htail
          refine ⟨reply, rest, ?_⟩
          simp only at hreply
          rw [hreply, hothers]
          rfl

end Workflow

end OrcConversion
