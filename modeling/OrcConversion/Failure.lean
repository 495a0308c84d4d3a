import OrcConversion.Arrow.Building
import OrcConversion.Json.Reader
import OrcConversion.Raw.Problem
import OrcConversion.Text.Lines
import OrcConversion.Text.Quoted

/-! Failures as causes, their kinds and their wording. -/

namespace OrcConversion

open Arrow Text

inductive Misconfiguration where
  | unsupportedType (type : DataType)
  | malformedToken (token : String)
  | replacedWithoutKeys (encoded : String)
  | incompleteGroup (segment : String) (keys : List String)
  | specOrTypesMissing
  | specAndTypesDiffer (spec types : String)
  | bucketCountMissing
  | bucketCountNotPositive (count : Int)
  | rowLimitNotPositive (limit : Int)
  | moveAfterOutOfRange (statements : Nat) (moveAfter : Int)
  | dataPathMissing (formatKey : String)
  | malformedEntry (key entry : String)
  | notAnInteger (key value : String)
  | notAFlag (key value : String)

inductive DiskFault where
  | notFound
  | alreadyExists
  | notADirectory
  | isADirectory
  | denied
  | linkLoop
  | nameTooLong
  | invalidName
  /-- What a path ends with is no name, but a step to a directory in use. -/
  | busy
  | notEmpty
  | intoItself
  /-- A move meets something of the same name, would end inside itself, or cannot take everything.
  -/
  | moveConflict
  | sameFile
  | tooDeep
  | permissionTooLarge
deriving DecidableEq, Repr

/-- A fault that comes from outside and is worded outside. -/
inductive ForeignFault where
  | wrongType
  | noMembers
  | wrongValue
  | undecodable
  | unencodable
  | tooDeep
  | tooLarge
  | disk (fault : DiskFault)
  /-- A collaborator reports a fault with a name and a text of its own. -/
  | reported (name text : String)
deriving DecidableEq, Repr

/-- The phase or the part of a conversion that failed. -/
inductive FailureKind where
  | general
  | planning
  | configuration
  | catalog
  | filesystem
  | tableNotFound
  | execution
  | publishing
deriving DecidableEq, Repr

def FailureKind.isPlanning : FailureKind → Bool
  | planning | configuration | catalog | filesystem => true
  | general | tableNotFound | execution | publishing => false

inductive Failure where
  | misconfigured (fault : Misconfiguration)
  | emptySchema (entity : String)
  | tableNotFound (db table : CodeText)
  | catalogUnreadable (path : CodeText) (cause : Failure)
  | catalogInvalid (path : CodeText) (cause : Failure)
  | lookupFailed (db table : String) (cause : Failure)
  | directoryRefused (path : String) (permission : Int)
  | directoryFailed (path : String) (cause : Failure)
  | stagingFailed (statement : String) (cause : Failure)
  | publishingFailed (statement : String) (cause : Failure)
  | moveFailed (source dest : String) (cause : Failure)
  | deleteFailed (path : String) (cause : Failure)
  | stateInvalid (cause : Failure)
  /-- A collaborator fails with one of the kinds above and a text of its own. -/
  | raised (kind : FailureKind) (text : String)
  | malformedJson (fault : Json.SyntaxFault) (offset line column : Nat)
  | invalidRecord (problems : List Raw.Problem)
  | foreign (fault : ForeignFault)

namespace Failure

/-- Kind of a failure; none for those that no phase of a conversion has claimed. -/
def kind? : Failure → Option FailureKind
  | misconfigured _ => some .configuration
  | emptySchema _ => some .planning
  | tableNotFound _ _ => some .tableNotFound
  | catalogUnreadable _ _ => some .catalog
  | catalogInvalid _ _ => some .catalog
  | lookupFailed _ _ _ => some .catalog
  | directoryRefused _ _ => some .filesystem
  | directoryFailed _ _ => some .filesystem
  | stagingFailed _ _ => some .execution
  | publishingFailed _ _ => some .publishing
  | moveFailed _ _ _ => some .publishing
  | deleteFailed _ _ => some .publishing
  | stateInvalid _ => some .publishing
  | raised kind _ => some kind
  | malformedJson _ _ _ _ => none
  | invalidRecord _ => none
  | foreign _ => none

def statement? : Failure → Option String
  | stagingFailed statement _ => some statement
  | _ => none

def problems? : Failure → Option (List Raw.Problem)
  | invalidRecord problems => some problems
  | catalogUnreadable _ cause => cause.problems?
  | catalogInvalid _ cause => cause.problems?
  | stateInvalid cause => cause.problems?
  | _ => none

def ofBuildFault : BuildFault → Failure
  | .unacceptable => foreign .wrongValue
  | .tooLarge => foreign .tooLarge

def ofReadFault : Json.ReadFault → Failure
  | .malformed fault offset line column => malformedJson fault offset line column
  | .integerTooLong => foreign .wrongValue
  | .nestedTooDeep => foreign .tooDeep

end Failure

/-! ## Wording -/

def octal (permission : Int) : String :=
  (if permission < 0 then "-0o" else "0o") ++
    String.ofList (Nat.toDigits 8 permission.natAbs)

def Misconfiguration.message : Misconfiguration → String
  | unsupportedType type => "Unsupported type for ORC conversion: " ++ type.text
  | malformedToken token =>
      "Partition details should be of the format partitionName=partitionValue. Received: " ++ token
  | replacedWithoutKeys encoded =>
      "Cannot decode replaced partitions without partition keys: " ++ encoded
  | incompleteGroup segment keys =>
      "Replaced partition " ++ quoted segment ++ " does not match partition keys " ++
        quotedList keys
  | specOrTypesMissing =>
      "Both partitions info and partitions types must be present, if one is specified"
  | specAndTypesDiffer spec types =>
      "Partitions info and partitions types lists should be of the same size: " ++ quoted spec ++
        " vs " ++ quoted types
  | bucketCountMissing => "num_buckets is required when cluster_by is set"
  | bucketCountNotPositive count => "num_buckets must be positive, got " ++ toString count
  | rowLimitNotPositive limit => "row_limit must be positive, got " ++ toString limit
  | moveAfterOutOfRange statements moveAfter =>
      "move_after must be within 0.." ++ toString statements ++ ", got " ++ toString moveAfter
  | dataPathMissing formatKey =>
      formatKey ++ ".destination.dataPath is required when " ++ formatKey ++
        ".destination.tableName is set"
  | malformedEntry key entry =>
      key ++ " entries should be of the format key=value. Received: " ++ entry
  | notAnInteger key value => key ++ " must be an integer, got " ++ quoted value
  | notAFlag key value => key ++ " must be a boolean, got " ++ quoted value

structure Wording where
  invalidRecord : List Raw.Problem → String
  foreign : ForeignFault → String

def Failure.message (wording : Wording) : Failure → String
  | misconfigured fault => fault.message
  | emptySchema entity => "Target schema must be a non-empty pyarrow schema for " ++ entity
  | tableNotFound db table => "Table not found: " ++ db.shown ++ "." ++ table.shown
  | catalogUnreadable path cause =>
      "Failed to load catalog: " ++ path.shown ++ ": " ++ cause.message wording
  | catalogInvalid path cause =>
      "Invalid catalog document: " ++ path.shown ++ ": " ++ cause.message wording
  | lookupFailed db table cause =>
      "Could not fetch destination table metadata: " ++ db ++ "." ++ table ++ ": " ++
        cause.message wording
  | directoryRefused path permission =>
      "Failed to create path " ++ path ++ " with permissions " ++ octal permission
  | directoryFailed path cause =>
      "Failed to create destination directory " ++ path ++ ": " ++ cause.message wording
  | stagingFailed statement cause =>
      "Failed: " ++ summary summaryWidth statement ++ ": " ++ cause.message wording
  | publishingFailed statement cause =>
      "Failed: " ++ summary summaryWidth statement ++ ": " ++ cause.message wording
  | moveFailed source dest cause =>
      "Failed to move " ++ source ++ " -> " ++ dest ++ ": " ++ cause.message wording
  | deleteFailed path cause => "Failed to delete " ++ path ++ ": " ++ cause.message wording
  | stateInvalid cause => "Invalid persisted publish plan: " ++ cause.message wording
  | raised _ text => text
  | malformedJson fault offset line column =>
      fault.message ++ ": line " ++ toString line ++ " column " ++ toString column ++ " (char " ++
        toString offset ++ ")"
  | invalidRecord problems => wording.invalidRecord problems
  | foreign fault => wording.foreign fault

end OrcConversion
