import OrcConversion.Workflow.Basic

/-! Services and what a workflow does when it is run with them. -/

namespace OrcConversion

open Journal

/-- Whatever executes statements, keeps directories and knows tables, with the state it keeps. -/
structure Services (σ : Type) where
  answer : (call : Call) → σ → Except Failure call.Reply × σ

structure Outcome (σ α : Type) where
  result : Except Failure α
  state : σ
  records : List Record

namespace Workflow

def run (services : Services σ) : Workflow α → σ → Outcome σ α
  | finish result, state => ⟨result, state, []⟩
  | report record next, state =>
      let outcome := next.run services state
      { outcome with records := record :: outcome.records }
  | ask call resume, state =>
      let (reply, state) := services.answer call state
      (resume reply).run services state

theorem run_andThen (services : Services σ) (workflow : Workflow α)
    (next : Except Failure α → Workflow β) (state : σ) :
    (workflow.andThen next).run services state =
      let first := workflow.run services state
      let second := (next first.result).run services first.state
      { second with records := first.records ++ second.records } := by
  induction workflow generalizing state with
  | finish result => simp [andThen, run]
  | report record rest ih => simp [andThen, run, ih]
  | ask call resume ih => simp [andThen, run, ih]

end Workflow

/-! ## Execution through cursors -/

/-- Hands out cursors, each of which executes statements until it is closed. -/
structure Connection (κ σ : Type) where
  openCursor : σ → κ × σ
  execute : (cursor : κ) → (statement : String) → σ → Except Failure Unit × σ
  closeCursor : (cursor : κ) → σ → σ

/-- Executes one statement with a cursor of its own, which is closed whatever happens. -/
def Connection.executeOnce (connection : Connection κ σ) (statement : String) (state : σ) :
    Except Failure Unit × σ :=
  let (cursor, state) := connection.openCursor state
  let (reply, state) := connection.execute cursor statement state
  (reply, connection.closeCursor cursor state)

def Services.over (services : Services σ) (connection : Connection κ σ) : Services σ where
  answer
    | .execute statement => connection.executeOnce statement
    | call => services.answer call

end OrcConversion
