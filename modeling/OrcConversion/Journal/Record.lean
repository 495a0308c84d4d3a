/-! Log records of a conversion. -/

namespace OrcConversion.Journal

inductive Severity where
  | debug
  | info
deriving DecidableEq, Repr

inductive Component where
  | catalog
  | evolution
  | execution
  | filesystem
  | finalization
  | planning
  | publishing
  | staging
  | batch
deriving DecidableEq, Repr

def Component.loggerName : Component → String
  | catalog => "orcbridge.catalog"
  | evolution => "orcbridge.evolution"
  | execution => "orcbridge.execute"
  | filesystem => "orcbridge.filesystem"
  | finalization => "orcbridge.finalize"
  | planning => "orcbridge.plan"
  | publishing => "orcbridge.publish"
  | staging => "orcbridge.staging"
  | batch => "orcbridge.api"

structure Record where
  severity : Severity
  component : Component
  message : String
deriving DecidableEq, Repr

end OrcConversion.Journal
