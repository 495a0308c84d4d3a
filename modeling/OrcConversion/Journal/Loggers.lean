import OrcConversion.Journal.Format

/-! The library's own logger: how it is set up and what it writes for a message. -/

namespace OrcConversion.Journal

def rootLogger : String := "orcbridge"

def loggerName (name : String) : String :=
  if name.startsWith rootLogger then name
  else if name = "__main__" then rootLogger
  else rootLogger ++ "." ++ name

def infoLevel : Level := 20

/-- Level of loggers that are given none, and of the last resort for records without a handler. -/
def warningLevel : Level := 30

/-- One above the highest level that has a name. -/
def silentLevel : Level := 51

/-! ## Loggers -/

structure Handler where
  level : Level
  format : String
deriving DecidableEq, Repr

structure Loggers where
  level : Level := 0
  handlers : List Handler := []
  propagates : Bool := true
deriving DecidableEq, Repr

namespace Loggers

/-- Sends records of a level and above to the error stream. Only a handler that has to be made needs
the format, which has to be valid then. -/
def setUp? (loggers : Loggers) (level : Level) (format : Option String) : Option Loggers :=
  let format := format.getD defaultFormat
  if !loggers.handlers.isEmpty then some { loggers with level, propagates := false }
  else if isValidFormat format then some ⟨level, [⟨level, format⟩], false⟩
  else none

def disable (loggers : Loggers) : Loggers :=
  { loggers with level := silentLevel }

def isOwn (logger : String) : Bool :=
  logger == rootLogger || logger.startsWith (rootLogger ++ ".")

def threshold (loggers : Loggers) (logger : String) : Level :=
  if isOwn logger && loggers.level ≠ 0 then loggers.level else warningLevel

def write (loggers : Loggers) (logger : String) (level : Level) (message : String) : String :=
  if level ≤ 0 || level < loggers.threshold logger then ""
  else if isOwn logger && !loggers.handlers.isEmpty then
    String.join ((loggers.handlers.filter (·.level ≤ level)).map fun handler =>
      formatLine handler.format level logger message)
  else if warningLevel ≤ level then message ++ "\n"
  else ""

end Loggers

end OrcConversion.Journal
