import OrcConversion.Text.Pieces

/-! Quoting of identifiers and literals. -/

namespace OrcConversion.Hive

def identifierMark : Char := '\x60'

def literalMark : Char := '\x27'

/-- Characters of an identifier with every mark doubled. -/
def escapeIdentifier (name : List Char) : List Char :=
  name.flatMap fun c => if c == identifierMark then [c, c] else [c]

/-- Characters of a literal with marks and backslashes escaped. -/
def escapeLiteral (value : List Char) : List Char :=
  value.flatMap fun c => if c == literalMark || c == '\\' then ['\\', c] else [c]

def quoteIdentifier (name : String) : String :=
  String.ofList (identifierMark :: escapeIdentifier name.toList ++ [identifierMark])

def quoteLiteral (value : String) : String :=
  String.ofList (literalMark :: escapeLiteral value.toList ++ [literalMark])

structure TableName where
  db : String
  table : String
deriving DecidableEq, Repr

def TableName.text (name : TableName) : String :=
  quoteIdentifier name.db ++ "." ++ quoteIdentifier name.table

def sourceExpression (path : String) : String :=
  ".".intercalate ((Text.splitAt '.' path).map quoteIdentifier)

end OrcConversion.Hive
