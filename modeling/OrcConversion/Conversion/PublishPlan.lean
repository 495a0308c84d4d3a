import OrcConversion.Failure

/-! The plan that publishes staged data and cleans up after it. -/

namespace OrcConversion

open Text

structure PublishPlan (τ : Type := String) where
  publishStatements : List τ := []
  /-- Staged directories and the final directories that they replace, in order. -/
  publishDirectories : OrderedMap τ τ := .empty
  cleanupStatements : List τ := []
  cleanupDirectories : List τ := []
  moveAfter : Nat := 0
  moveAfter_le : moveAfter ≤ publishStatements.length := by simp
deriving DecidableEq

namespace PublishPlan

def map [DecidableEq υ] (f : τ → υ) (plan : PublishPlan τ) : PublishPlan υ where
  publishStatements := plan.publishStatements.map f
  publishDirectories := plan.publishDirectories.mapTexts f
  cleanupStatements := plan.cleanupStatements.map f
  cleanupDirectories := plan.cleanupDirectories.map f
  moveAfter := plan.moveAfter
  moveAfter_le := by simpa using plan.moveAfter_le

/-- A plan with `moveAfter` brought into place, if it lies within the publish statements. -/
def moveAt (plan : PublishPlan τ) (moveAfter : Int) : Except Failure (PublishPlan τ) :=
  if h : 0 ≤ moveAfter ∧ moveAfter ≤ plan.publishStatements.length then
    .ok { plan with
      moveAfter := moveAfter.toNat
      moveAfter_le := by omega }
  else
    .error (.misconfigured (.moveAfterOutOfRange plan.publishStatements.length moveAfter))

def before (plan : PublishPlan τ) : List τ :=
  plan.publishStatements.take plan.moveAfter

def after (plan : PublishPlan τ) : List τ :=
  plan.publishStatements.drop plan.moveAfter

@[simp] theorem before_append_after (plan : PublishPlan τ) :
    plan.before ++ plan.after = plan.publishStatements :=
  List.take_append_drop _ _

theorem length_before (plan : PublishPlan τ) : plan.before.length = plan.moveAfter := by
  simp [before, Nat.min_eq_left plan.moveAfter_le]

def text (plan : PublishPlan) : String :=
  "publish_statements=" ++ quotedTuple plan.publishStatements ++
    " publish_directories=" ++ quotedPairs plan.publishDirectories.entries ++
    " cleanup_statements=" ++ quotedTuple plan.cleanupStatements ++
    " cleanup_directories=" ++ quotedTuple plan.cleanupDirectories ++
    " move_after=" ++ toString plan.moveAfter

end PublishPlan

end OrcConversion
