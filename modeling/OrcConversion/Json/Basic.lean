import OrcConversion.Number.Binary64
import OrcConversion.Text.CodeText

/-! JSON values. -/

namespace OrcConversion

open Number Text

/-- A JSON value, or one of the three numbers that are no JSON but are read all the same. -/
inductive Json where
  | null
  | bool (value : Bool)
  | integer (value : Int)
  | decimal (value : Decimal)
  | notANumber
  | infinity (negative : Bool)
  | string (value : CodeText)
  | array (items : List Json)
  | object (members : List (CodeText × Json))

namespace Json

instance : Inhabited Json := ⟨null⟩

def strings (values : List CodeText) : Json :=
  array (values.map string)

def stringMembers (entries : List (CodeText × CodeText)) : Json :=
  object (entries.map fun (key, value) => (key, string value))

end Json

end OrcConversion
