import OrcConversion.Catalog.Store
import OrcConversion.Text.Pieces
import OrcConversion.Workflow.Services

/-! Rehearsals: services that only remember what they are asked for. -/

namespace OrcConversion

open Text

inductive CallKind where
  | execute
  | permission
  | makeDirectory
  | setPermission
  | checkPath
  | move
  | delete
  | lookupTable
  | listPartitions
deriving DecidableEq, Repr

namespace Call

def kind : Call → CallKind
  | execute _ => .execute
  | permission _ => .permission
  | makeDirectory _ _ => .makeDirectory
  | setPermission _ _ => .setPermission
  | checkPath _ => .checkPath
  | move _ _ => .move
  | delete _ => .delete
  | lookupTable _ _ => .lookupTable
  | listPartitions _ => .listPartitions

def subject : Call → String
  | execute statement => statement
  | permission path => path
  | makeDirectory path _ => path
  | setPermission path _ => path
  | checkPath path => path
  | move source _ => source
  | delete path => path
  | lookupTable db table => db ++ "." ++ table
  | listPartitions table => table.db ++ "." ++ table.name

end Call

/-- Fails calls of a kind whose subject holds a text. -/
structure Mishap where
  kind : CallKind
  part : String
  failure : Failure
  /-- How many calls are still to fail; all of them, if nothing is said. -/
  remaining : Option Nat := none

namespace Mishap

def meets (mishap : Mishap) (call : Call) : Bool :=
  mishap.kind == call.kind && occursIn mishap.part.toList call.subject.toList &&
    mishap.remaining != some 0

def spend (mishap : Mishap) : Mishap :=
  { mishap with remaining := mishap.remaining.map (· - 1) }

def first? (call : Call) : List Mishap → Option (Failure × List Mishap)
  | [] => none
  | mishap :: rest =>
      if mishap.meets call then some (mishap.failure, mishap.spend :: rest)
      else (first? call rest).map fun (failure, rest) => (failure, mishap :: rest)

end Mishap

inductive Event where
  | cursorOpened
  | cursorClosed
  | called (call : Call)

structure Rehearsal where
  catalog : CatalogStore := .empty
  mishaps : List Mishap := []
  permission : Int := 0o755
  /-- Whether directories that are made are there afterwards. -/
  makesDirectories : Bool := true
  paths : List String := []
  events : List Event := []

namespace Rehearsal

def reply (rehearsal : Rehearsal) : (call : Call) → Except Failure call.Reply
  | .execute _ => .ok ()
  | .permission _ => .ok rehearsal.permission
  | .makeDirectory _ _ => .ok rehearsal.makesDirectories
  | .setPermission _ _ => .ok ()
  | .checkPath path => .ok (rehearsal.paths.contains path)
  | .move _ _ => .ok ()
  | .delete _ => .ok ()
  | .lookupTable db table => rehearsal.catalog.lookup db table
  | .listPartitions table => .ok (rehearsal.catalog.partitionsOf table)

def pathsAfter (rehearsal : Rehearsal) : Call → List String
  | .makeDirectory path _ =>
      if rehearsal.makesDirectories then path :: rehearsal.paths else rehearsal.paths
  | .move source dest => dest :: rehearsal.paths.filter (· != source)
  | .delete path => rehearsal.paths.filter (· != path)
  | _ => rehearsal.paths

def remember (rehearsal : Rehearsal) (event : Event) : Rehearsal :=
  { rehearsal with events := rehearsal.events ++ [event] }

def answer (call : Call) (rehearsal : Rehearsal) : Except Failure call.Reply × Rehearsal :=
  match Mishap.first? call rehearsal.mishaps with
  | some (failure, mishaps) => (.error failure, { rehearsal with mishaps })
  | none =>
      (rehearsal.reply call,
        { rehearsal with paths := rehearsal.pathsAfter call }.remember (.called call))

def services : Services Rehearsal := ⟨answer⟩

/-- The cursors of a rehearsal are all alike. -/
def connection : Connection Unit Rehearsal where
  openCursor rehearsal := ((), rehearsal.remember .cursorOpened)
  execute _ statement := answer (.execute statement)
  closeCursor _ rehearsal := rehearsal.remember .cursorClosed

theorem answer_of_mishap {call : Call} {rehearsal : Rehearsal} {failure : Failure}
    {mishaps : List Mishap} (h : Mishap.first? call rehearsal.mishaps = some (failure, mishaps)) :
    rehearsal.answer call = (.error failure, { rehearsal with mishaps }) := by
  simp [answer, h]

end Rehearsal

end OrcConversion
