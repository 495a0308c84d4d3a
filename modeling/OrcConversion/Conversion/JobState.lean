import OrcConversion.Json.Writer
import OrcConversion.Raw.Records

/-! Publish plans in the state of a job. -/

namespace OrcConversion.JobState

open Raw Text

def publishStatementsKey : String := "publish.queries"

def publishDirectoriesKey : String := "publish.directories"

def cleanupStatementsKey : String := "cleanup.queries"

def cleanupDirectoriesKey : String := "cleanup.directories"

def moveAfterKey : String := "publish.moveAfter"

def ofPlan (plan : PublishPlan CodeText) : List (String × String) :=
  [(publishStatementsKey, (Json.strings plan.publishStatements).render),
    (publishDirectoriesKey, (Json.stringMembers plan.publishDirectories.entries).render),
    (cleanupStatementsKey, (Json.strings plan.cleanupStatements).render),
    (cleanupDirectoriesKey, (Json.strings plan.cleanupDirectories).render),
    (moveAfterKey, (Json.integer plan.moveAfter).render)]

/-- A state as it is found: normally texts, but nothing is promised. -/
abbrev Found := OrderedMap Json

def readEntry (nesting : Json.Nesting) : Json → Except Failure Json
  | .string text => (Json.read nesting text).mapError .ofReadFault
  | _ => .error (.foreign .wrongType)

def readKey (nesting : Json.Nesting) (state : Found) (key : String) (absent : Json) :
    Except Failure Json :=
  match state.lookup? key with
  | some entry => readEntry nesting entry
  | none => .ok absent

def readList (nesting : Json.Nesting) (state : Found) (key : String) :
    Except Failure (List Json) := do
  elements (← readKey nesting state key (.array []))

/-- Point of the move that is kept, or else the number of publish statements. -/
def readMoveAfter (nesting : Json.Nesting) (state : Found) (count : Nat) : Except Failure Json :=
  match state.lookup? moveAfterKey with
  | none | some .null => .ok (.integer count)
  | some entry => readEntry nesting entry

def rawPlan (nesting : Json.Nesting) (state : Found) : Except Failure Json := do
  let publishStatements ← readList nesting state publishStatementsKey
  let publishDirectories ← readKey nesting state publishDirectoriesKey (.object [])
  let cleanupStatements ← readList nesting state cleanupStatementsKey
  let cleanupDirectories ← readList nesting state cleanupDirectoriesKey
  let moveAfter ← readMoveAfter nesting state publishStatements.length
  return .object [
    ("publish_statements", .array publishStatements),
    ("publish_directories", publishDirectories),
    ("cleanup_statements", .array cleanupStatements),
    ("cleanup_directories", .array cleanupDirectories),
    ("move_after", moveAfter)]

/-- Failure to read a state. What is too long or nested too deep is passed on as it is. -/
def wrapFailure : Failure → Failure
  | .foreign .wrongValue => .foreign .wrongValue
  | .foreign .tooDeep => .foreign .tooDeep
  | failure => .stateInvalid failure

def toPlan (nesting : Json.Nesting) (state : Found) : Except Failure (PublishPlan CodeText) :=
  (rawPlan nesting state >>= readPublishPlan).mapError wrapFailure

end OrcConversion.JobState
