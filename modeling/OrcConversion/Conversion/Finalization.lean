import OrcConversion.Conversion.Planning

/-! Running what was planned: the staging statements, the publish plan, whole conversions. -/

namespace OrcConversion

open Text Workflow

/-! ## Staging -/

def executeStatement (statement : String) : Workflow Unit :=
  (call (.execute statement)).mapFailure (·.unlessKind .execution (.stagingFailed statement))

def executeStatements : List String → Workflow Unit
  | [] => return
  | statement :: rest => do
      debug .execution ("Executing: " ++ statement)
      executeStatement statement
      executeStatements rest

/-- Executes the staging statements of an entity, or others in their stead. -/
def execute (entity : Entity) (instead : Option (List String) := none) : Workflow Unit := do
  executeStatements (instead.getD entity.statements)
  info .execution ("Executed staging statements for " ++ entity.completeName)

/-! ## Publishing and cleanup -/

def runStatements : List String → Workflow Unit
  | [] => return
  | statement :: rest => do
      debug .finalization ("Executing: " ++ statement)
      (call (.execute statement)).mapFailure (.publishingFailed statement)
      runStatements rest

/-- Makes way at a directory and moves another one there. -/
def moveInto (source dest : String) : Workflow Unit := do
  if ← call (.checkPath dest) then
    call (.delete dest)
    debug .finalization ("Deleted existing " ++ dest)
  call (.move source dest)

def replaceDirectory (source dest : String) : Workflow Unit := do
  (moveInto source dest).mapFailure (.moveFailed source dest)
  info .finalization ("Moved " ++ source ++ " -> " ++ dest)

def replaceDirectories : List (String × String) → Workflow Unit
  | [] => return
  | (source, dest) :: rest => do
      replaceDirectory source dest
      replaceDirectories rest

def deleteDirectories : List String → Workflow Unit
  | [] => return
  | path :: rest => do
      (call (.delete path)).mapFailure (.deleteFailed path)
      info .finalization ("Deleted " ++ path)
      deleteDirectories rest

def publish (plan : PublishPlan) : Workflow Unit := do
  runStatements plan.before
  replaceDirectories plan.publishDirectories.entries
  runStatements plan.after
  info .finalization
    ("Published " ++ toString plan.publishDirectories.entries.length ++ " directories")

def cleanUp (plan : PublishPlan) : Workflow Unit := do
  runStatements plan.cleanupStatements
  deleteDirectories plan.cleanupDirectories

/-- Publishes and, if that succeeds, cleans up. -/
def finalize (plan : PublishPlan) : Workflow Unit := do
  publish plan
  cleanUp plan

end OrcConversion
