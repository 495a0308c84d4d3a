import OrcConversion.Conversion.Finalization

/-! Whole conversions, of one entity or of many. -/

namespace OrcConversion

open Workflow

def convert (targets : Targets) (format : OutputFormat) (schema : Option Arrow.Schema)
    (mark : Except Failure RunMark) (entity : Entity) : Workflow ConversionPlan := do
  let plan ← planConversion targets format entity schema mark
  match plan.publish with
  | none => return plan
  | some publishPlan => do
      execute plan.entity
      finalize publishPlan
      return plan

/-- Carries workflows out one after another; one that fails does not stop those behind it. -/
def attemptAll : List (Workflow α) → Workflow (List (Except Failure α))
  | [] => return []
  | workflow :: rest => do
      let outcome ← attempt workflow
      let others ← attemptAll rest
      return outcome :: others

/-- Carries workflows out side by side. The schedule says whose turn it is to take the next step;
behind its end, what is left is carried out one after another. -/
def attemptTogether : List Nat → List (Workflow α) → Workflow (List (Except Failure α))
  | [], workflows => attemptAll workflows
  | turn :: schedule, workflows =>
      match workflows[turn]? with
      | some (report record next) =>
          report record (attemptTogether schedule (workflows.set turn next))
      | some (ask call resume) =>
          ask call fun reply => attemptTogether schedule (workflows.set turn (resume reply))
      | _ => attemptTogether schedule workflows

/-- Results by index, gathered in the order in which they finish; the first failure ends it. -/
def gather (outcomes : List (Except Failure α)) : List Nat → Except Failure (List (Nat × α))
  | [] => .ok []
  | index :: rest =>
      match outcomes[index]? with
      | none => gather outcomes rest
      | some (.error failure) => .error failure
      | some (.ok value) => (gather outcomes rest).map ((index, value) :: ·)

def arrange (count : Nat) (gathered : List (Nat × α)) : List α :=
  (List.range count).filterMap fun index => (gathered.find? (·.1 == index)).map (·.2)

/-- Runs a workflow for each item with several workers. `finished` lists the positions of the items
in the order in which they finish, `schedule` says which of them takes a step when. -/
def convertParallel (run : ι → Workflow α) (items : List ι) (finished schedule : List Nat) :
    Workflow (List α) := do
  let outcomes ← attemptTogether schedule (items.map run)
  let gathered ← ofExcept (gather outcomes finished)
  info .batch ("Converted " ++ toString gathered.length ++ " entities")
  return arrange items.length gathered

def convertInTurn (run : ι → Workflow α) : List ι → Workflow (List α)
  | [] => return []
  | item :: rest => do
      let value ← run item
      let others ← convertInTurn run rest
      return value :: others

/-- Converts many entities, or whatever else it is that is converted: an item may as well be an
entity with the mark of its own run. -/
def convertMany (run : ι → Workflow α) (workers : Int) (items : List ι) (finished : List Nat)
    (schedule : List Nat := []) : Workflow (List α) :=
  if items.isEmpty then return []
  else if workers ≤ 1 then convertInTurn run items
  else convertParallel run items finished schedule

end OrcConversion
