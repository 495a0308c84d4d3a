import Mathlib.Data.List.Infix
import OrcConversion.Proofs.Workflow.Exchanges
import OrcConversion.Workflow.Rehearsal

/-! Statements that are executed through cursors. -/

namespace OrcConversion

open Workflow

/-! ## Services seen as others -/

/-- Services that reply as others do to whatever is seen of their state. -/
structure Services.Simulates {σ τ : Type} (services : Services σ) (others : Services τ)
    (view : σ → τ) : Prop where
  reply_eq : ∀ call state,
    (services.answer call state).1 = (others.answer call (view state)).1
  state_eq : ∀ call state,
    view (services.answer call state).2 = (others.answer call (view state)).2

section

variable {σ τ α : Type} {services : Services σ} {others : Services τ} {view : σ → τ}

/-- A run is the same with the services that are seen. -/
theorem Services.Simulates.run_eq (h : services.Simulates others view) (workflow : Workflow α)
    (state : σ) :
    let outcome := workflow.run services state
    workflow.run others (view state) = ⟨outcome.result, view outcome.state, outcome.records⟩ := by
  induction workflow generalizing state with
  | finish result => rfl
  | report record next ih => simp only [run, ih]
  | ask call resume ih =>
      simp only [run]
      rw [← h.reply_eq, ← h.state_eq, ih]

theorem Services.Simulates.exchanges_eq (h : services.Simulates others view)
    (workflow : Workflow α) (state : σ) :
    workflow.exchanges services state = workflow.exchanges others (view state) := by
  induction workflow generalizing state with
  | finish result => rfl
  | report record next ih => exact ih state
  | ask call resume ih =>
      simp only [exchanges]
      rw [ih, ← h.reply_eq, ← h.state_eq]

end

/-! ## Cursors that are not seen -/

/-- A connection whose cursors execute statements as services do, and of whose cursors nothing is
seen. -/
structure Connection.Presents {κ σ τ : Type} (connection : Connection κ σ) (services : Services τ)
    (view : σ → τ) : Prop where
  opened : ∀ state, view (connection.openCursor state).2 = view state
  closed : ∀ cursor state, view (connection.closeCursor cursor state) = view state
  reply_eq : ∀ cursor statement state, (connection.execute cursor statement state).1 =
    (services.answer (.execute statement) (view state)).1
  state_eq : ∀ cursor statement state, view (connection.execute cursor statement state).2 =
    (services.answer (.execute statement) (view state)).2

section

variable {κ σ τ : Type} {connection : Connection κ σ} {services : Services σ}
  {others : Services τ} {view : σ → τ}

theorem Connection.Presents.simulates (h : connection.Presents others view)
    (hservices : services.Simulates others view) :
    (services.over connection).Simulates others view := by
  constructor
  · intro call state
    cases call with
    | execute statement =>
        change (connection.execute _ statement _).1 = _
        rw [h.reply_eq, h.opened]
    | _ => exact hservices.reply_eq _ state
  · intro call state
    cases call with
    | execute statement =>
        change view (connection.closeCursor _ _) = _
        rw [h.closed, h.state_eq, h.opened]
    | _ => exact hservices.state_eq _ state

end

/-! ## Journals -/

/-- What a connection does, and what its services answer without a cursor. -/
inductive CursorEvent (κ : Type) where
  | opened (cursor : κ)
  | answered (cursor : Option κ) (exchange : Exchange)
  | closed (cursor : κ)

namespace CursorEvent

variable {κ : Type}

def exchange? : CursorEvent κ → Option Exchange
  | answered _ exchange => some exchange
  | _ => none

def opened? : CursorEvent κ → Option κ
  | opened cursor => some cursor
  | _ => none

def closed? : CursorEvent κ → Option κ
  | closed cursor => some cursor
  | _ => none

end CursorEvent

variable {κ σ : Type}

/-- Services that write down what they answer. -/
def Services.journaled (services : Services σ) : Services (σ × List (CursorEvent κ)) where
  answer call := fun (state, events) =>
    let (reply, state) := services.answer call state
    (reply, state, events ++ [.answered none ⟨call, reply⟩])

/-- A connection that writes down what is done with its cursors. -/
def Connection.journaled (connection : Connection κ σ) :
    Connection κ (σ × List (CursorEvent κ)) where
  openCursor := fun (state, events) =>
    let (cursor, state) := connection.openCursor state
    (cursor, state, events ++ [.opened cursor])
  execute cursor statement := fun (state, events) =>
    let (reply, state) := connection.execute cursor statement state
    (reply, state, events ++ [.answered (some cursor) ⟨.execute statement, reply⟩])
  closeCursor cursor := fun (state, events) =>
    (connection.closeCursor cursor state, events ++ [.closed cursor])

/-- Writing down changes nothing else. -/
theorem simulates_journaled (services : Services σ) (connection : Connection κ σ) :
    (services.journaled.over connection.journaled).Simulates (services.over connection)
      Prod.fst := by
  constructor
  · intro call state
    cases call <;> rfl
  · intro call state
    cases call <;> rfl

/-! ## Blocks -/

/-- Events in which every statement has a cursor of its own: it is opened, executes that statement,
be it with a failure or not, and is closed. -/
inductive InBlocks : List (CursorEvent κ) → Prop where
  | nil : InBlocks []
  | other {exchange : Exchange} {events : List (CursorEvent κ)} :
      exchange.call.kind ≠ .execute → InBlocks events →
      InBlocks (.answered none exchange :: events)
  | block {cursor : κ} {statement : String} {reply : Except Failure Unit}
      {events : List (CursorEvent κ)} :
      InBlocks events →
      InBlocks (.opened cursor :: .answered (some cursor) ⟨.execute statement, reply⟩ ::
        .closed cursor :: events)

/-- Events after which every cursor is closed that was opened, with one of them open at most on the
way. -/
structure ClosesCursors (events : List (CursorEvent κ)) : Prop where
  one_open : ∀ earlier, earlier <+: events → ∃ current : Option κ,
    earlier.filterMap CursorEvent.opened? =
      earlier.filterMap CursorEvent.closed? ++ current.toList
  all_closed : events.filterMap CursorEvent.closed? = events.filterMap CursorEvent.opened?

section

variable {events later : List (CursorEvent κ)}

theorem InBlocks.append (hfirst : InBlocks events) (hlater : InBlocks later) :
    InBlocks (events ++ later) := by
  induction hfirst with
  | nil => exact hlater
  | other hcall _ ih => exact .other hcall ih
  | block _ ih => exact .block ih

theorem InBlocks.closesCursors (h : InBlocks events) : ClosesCursors events := by
  induction h with
  | nil =>
      refine ⟨fun earlier hearlier => ⟨none, ?_⟩, rfl⟩
      rw [List.prefix_nil.mp hearlier]
      rfl
  | other hcall _ ih =>
      refine ⟨fun earlier hearlier => ?_, ih.all_closed⟩
      rcases List.prefix_cons_iff.mp hearlier with rfl | ⟨rest, rfl, hrest⟩
      · exact ⟨none, rfl⟩
      · exact ih.one_open rest hrest
  | @block cursor statement reply events _ ih =>
      refine ⟨fun earlier hearlier => ?_, congrArg (cursor :: ·) ih.all_closed⟩
      rcases List.prefix_cons_iff.mp hearlier with rfl | ⟨rest, rfl, hopened⟩
      · exact ⟨none, rfl⟩
      rcases List.prefix_cons_iff.mp hopened with rfl | ⟨rest, rfl, hanswered⟩
      · exact ⟨some cursor, rfl⟩
      rcases List.prefix_cons_iff.mp hanswered with rfl | ⟨rest, rfl, hclosed⟩
      · exact ⟨some cursor, rfl⟩
      obtain ⟨current, hcurrent⟩ := ih.one_open rest hclosed
      exact ⟨current, congrArg (cursor :: ·) hcurrent⟩

end

/-! ## Journals of runs -/

/-- What is written down about one call. -/
theorem answer_journaled (services : Services σ) (connection : Connection κ σ) (call : Call)
    (state : σ) (events : List (CursorEvent κ)) :
    let answer := (services.over connection).answer call state
    ∃ added, (services.journaled.over connection.journaled).answer call (state, events) =
        (answer.1, answer.2, events ++ added) ∧
      InBlocks added ∧ added.filterMap CursorEvent.exchange? = [⟨call, answer.1⟩] := by
  intro answer
  cases call with
  | execute statement =>
      let cursor := (connection.openCursor state).1
      refine ⟨[.opened cursor, .answered (some cursor) ⟨.execute statement, answer.1⟩,
        .closed cursor], ?_, .block .nil, rfl⟩
      change (answer.1, answer.2, ((events ++ _) ++ _) ++ _) = _
      rw [List.append_assoc, List.append_assoc]
      rfl
  | _ => exact ⟨[.answered none ⟨_, answer.1⟩], rfl, .other (fun h => nomatch h) .nil, rfl⟩

/-- What is written down about a run. -/
theorem run_journaled {α : Type} (services : Services σ) (connection : Connection κ σ)
    (workflow : Workflow α) (state : σ) (events : List (CursorEvent κ)) :
    ∃ added, (workflow.run (services.journaled.over connection.journaled)
        (state, events)).state.2 = events ++ added ∧
      InBlocks added ∧ added.filterMap CursorEvent.exchange? =
        workflow.exchanges (services.over connection) state := by
  induction workflow generalizing state events with
  | finish result => exact ⟨[], (List.append_nil events).symm, .nil, rfl⟩
  | report record next ih => exact ih state events
  | ask call resume ih =>
      obtain ⟨first, hanswer, hfirst, hexchange⟩ :=
        answer_journaled services connection call state events
      obtain ⟨rest, hstate, hrest, hexchanges⟩ :=
        ih ((services.over connection).answer call state).1
          ((services.over connection).answer call state).2 (events ++ first)
      refine ⟨first ++ rest, ?_, hfirst.append hrest, ?_⟩
      · rw [run, hanswer, ← List.append_assoc]
        exact hstate
      · rw [List.filterMap_append, hexchange, hexchanges]
        rfl

end OrcConversion
