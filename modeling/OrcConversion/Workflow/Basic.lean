import OrcConversion.Conversion.Destination
import OrcConversion.Failure
import OrcConversion.Journal.Record

/-! Workflows: conversions as programs over the services that they use. -/

namespace OrcConversion

open Journal

/-- What a workflow asks a service for. -/
inductive Call where
  | execute (statement : String)
  | permission (path : String)
  | makeDirectory (path : String) (permission : Int)
  | setPermission (path : String) (permission : Int)
  | checkPath (path : String)
  | move (source dest : String)
  | delete (path : String)
  | lookupTable (db table : String)
  | listPartitions (table : TableRecord)

abbrev Call.Reply : Call → Type
  | execute _ => Unit
  | permission _ => Int
  | makeDirectory _ _ => Bool
  | setPermission _ _ => Unit
  | checkPath _ => Bool
  | move _ _ => Unit
  | delete _ => Unit
  | lookupTable _ _ => TableRecord
  | listPartitions _ => List PartitionRecord

/-- A program that ends, reports a record, or asks for something. -/
inductive Workflow (α : Type) where
  | finish (result : Except Failure α)
  | report (record : Record) (next : Workflow α)
  | ask (call : Call) (resume : Except Failure call.Reply → Workflow α)

namespace Workflow

/-- Goes on with the outcome of a workflow, be it a result or a failure. -/
def andThen : Workflow α → (Except Failure α → Workflow β) → Workflow β
  | finish result, next => next result
  | report record rest, next => report record (rest.andThen next)
  | ask call resume, next => ask call fun reply => (resume reply).andThen next

def bind (workflow : Workflow α) (next : α → Workflow β) : Workflow β :=
  workflow.andThen fun
    | .ok value => next value
    | .error failure => finish (.error failure)

instance : Monad Workflow where
  pure value := finish (.ok value)
  bind := bind

def mapFailure (change : Failure → Failure) (workflow : Workflow α) : Workflow α :=
  workflow.andThen fun result => finish (result.mapError change)

def ofExcept (result : Except Failure α) : Workflow α := finish result

def fail (failure : Failure) : Workflow α := finish (.error failure)

/-- The outcome of a workflow as its result, so that nothing fails. -/
def attempt (workflow : Workflow α) : Workflow (Except Failure α) :=
  workflow.andThen fun result => finish (.ok result)

def call (call : Call) : Workflow call.Reply :=
  ask call finish

def note (severity : Severity) (component : Component) (message : String) : Workflow Unit :=
  report ⟨severity, component, message⟩ (finish (.ok ()))

def debug (component : Component) (message : String) : Workflow Unit :=
  note .debug component message

def info (component : Component) (message : String) : Workflow Unit :=
  note .info component message

/-! ## Laws -/

@[simp] theorem andThen_finish (workflow : Workflow α) : workflow.andThen finish = workflow := by
  induction workflow with
  | finish => rfl
  | report record rest ih => simp [andThen, ih]
  | ask call resume ih =>
      simp only [andThen]
      congr
      funext reply
      exact ih reply

theorem andThen_assoc (workflow : Workflow α) (first : Except Failure α → Workflow β)
    (second : Except Failure β → Workflow γ) :
    (workflow.andThen first).andThen second =
      workflow.andThen fun result => (first result).andThen second := by
  induction workflow with
  | finish => rfl
  | report record rest ih => simp [andThen, ih]
  | ask call resume ih =>
      simp only [andThen]
      congr
      funext reply
      exact ih reply

@[simp] theorem pure_eq (value : α) : (pure value : Workflow α) = finish (.ok value) := rfl

@[simp] theorem finish_ok_bind (value : α) (next : α → Workflow β) :
    (finish (.ok value) >>= next) = next value := rfl

@[simp] theorem finish_error_bind (failure : Failure) (next : α → Workflow β) :
    (finish (.error failure) >>= next) = finish (.error failure) := rfl

@[simp] theorem report_bind (record : Record) (rest : Workflow α) (next : α → Workflow β) :
    (report record rest >>= next) = report record (rest >>= next) := rfl

@[simp] theorem ask_bind (call : Call) (resume : Except Failure call.Reply → Workflow α)
    (next : α → Workflow β) :
    (ask call resume >>= next) = ask call fun reply => resume reply >>= next := rfl

instance : LawfulMonad Workflow :=
  LawfulMonad.mk' Workflow
    (fun workflow => by
      change workflow.andThen _ = workflow
      rw [← andThen_finish workflow, andThen_assoc]
      congr
      funext result
      cases result <;> rfl)
    (fun _ _ => rfl)
    (fun workflow first second => by
      change (workflow.andThen _).andThen _ = workflow.andThen _
      rw [andThen_assoc]
      congr
      funext result
      cases result <;> rfl)

end Workflow

end OrcConversion
