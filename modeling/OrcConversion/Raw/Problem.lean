import OrcConversion.Text.CodeText

/-! Problems found in raw records: where they are and which rule is broken. -/

namespace OrcConversion.Raw

inductive Step where
  | member (name : Text.CodeText)
  | item (index : Nat)
deriving DecidableEq, Repr

inductive Rule where
  | present
  | string
  | wellFormedString
  | integer
  | integerText
  | integerSize
  | wholeNumber
  | finiteNumber
  | flag
  | flagText
  | list
  | map
  | record
  | schema
deriving DecidableEq, Repr

structure Problem where
  path : List Step
  rule : Rule
deriving DecidableEq, Repr

def Problem.under (step : Step) (problem : Problem) : Problem :=
  { problem with path := step :: problem.path }

end OrcConversion.Raw
