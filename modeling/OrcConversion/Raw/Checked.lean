import OrcConversion.Json.Basic
import OrcConversion.OrderedMap
import OrcConversion.Raw.Problem
import OrcConversion.Text.Numeral

/-! Reading raw records with all their problems. -/

namespace OrcConversion.Raw

open Number Text

inductive Checked (α : Type) where
  | valid (value : α)
  | broken (problems : List Problem)

namespace Checked

def map (f : α → β) : Checked α → Checked β
  | valid value => valid (f value)
  | broken problems => broken problems

/-- Problems of both sides, those of the left side first. -/
def seq (f : Checked (α → β)) (value : Checked α) : Checked β :=
  match f, value with
  | valid f, value => value.map f
  | broken problems, valid _ => broken problems
  | broken problems, broken more => broken (problems ++ more)

instance : Applicative Checked where
  pure := valid
  map := map
  seq f value := f.seq (value ())

def under (step : Step) : Checked α → Checked α
  | valid value => valid value
  | broken problems => broken (problems.map (·.under step))

def breaks (rule : Rule) : Checked α := broken [⟨[], rule⟩]

def toExcept : Checked α → Except (List Problem) α
  | valid value => .ok value
  | broken problems => .error problems

end Checked

abbrev Reader (α : Type) := Json → Checked α

/-! ## Scalars -/

def string : Reader CodeText
  | .string value => .valid value
  | _ => .breaks .string

/-- A text that is read as another value has to hold nothing but characters. -/
def wellFormed (text : CodeText) (read : String → Checked α) : Checked α :=
  match text.toString? with
  | some text => read text
  | none => .breaks .wellFormedString

def integerOfText (text : String) : Checked Int :=
  match looseInteger text with
  | .ok value => .valid value
  | .error .malformed => .breaks .integerText
  | .error .tooLong => .breaks .integerSize

/-- Integer equal to a binary64 number, which has to lie between the ends of a word. -/
def wholeNumber (number : Binary64) : Checked Int :=
  match number.truncate? with
  | none => .breaks .finiteNumber
  | some value =>
      if !number.isWhole then .breaks .wholeNumber
      else if fitsSigned 64 value && fitsSigned 64 (-value) then .valid value
      else .breaks .integerSize

def integer : Reader Int
  | .integer value => .valid value
  | .bool value => .valid (if value then 1 else 0)
  | .decimal number => wholeNumber (.ofDecimal number)
  | .notANumber => .breaks .finiteNumber
  | .infinity _ => .breaks .finiteNumber
  | .string text => wellFormed text integerOfText
  | .null => .breaks .integer
  | .array _ => .breaks .integer
  | .object _ => .breaks .integer

/-- Flag written as an integer; one that does not fit into a word is no flag at all. -/
def flagOfInteger (value : Int) : Checked Bool :=
  if value = 0 then .valid false
  else if value = 1 then .valid true
  else if fitsSigned 64 value then .breaks .flagText
  else .breaks .flag

/-- Words for a flag, capitals read as small letters. -/
def flagOfText (text : String) : Checked Bool :=
  let word := text.map Char.toLower
  if ["0", "off", "f", "false", "n", "no"].contains word then .valid false
  else if ["1", "on", "t", "true", "y", "yes"].contains word then .valid true
  else .breaks .flagText

def flag : Reader Bool
  | .bool value => .valid value
  | .integer value => flagOfInteger value
  | .decimal number =>
      match wholeNumber (.ofDecimal number) with
      | .valid value => flagOfInteger value
      | .broken _ => .breaks .flag
  | .string text => wellFormed text flagOfText
  | _ => .breaks .flag

/-! ## Collections -/

def optional (reader : Reader α) : Reader (Option α)
  | .null => .valid none
  | value => (reader value).map some

def items (reader : Reader α) (index : Nat) : List Json → Checked (List α)
  | [] => .valid []
  | value :: rest =>
      List.cons <$> (reader value).under (.item index) <*> items reader (index + 1) rest

def listOf (reader : Reader α) : Reader (List α)
  | .array values => items reader 0 values
  | _ => .breaks .list

def members (reader : Reader α) : List (CodeText × Json) → Checked (List (CodeText × α))
  | [] => .valid []
  | (name, value) :: rest =>
      List.cons <$> ((reader value).under (.member name)).map (name, ·) <*> members reader rest

def mapOf (reader : Reader α) : Reader (OrderedMap α CodeText)
  | .object entries => (members reader entries).map .ofList
  | _ => .breaks .map

/-! ## Records -/

def record (reader : List (CodeText × Json) → Checked α) : Reader α
  | .object entries => reader entries
  | _ => .breaks .record

def member? (name : CodeText) (entries : List (CodeText × Json)) : Option Json :=
  Entries.lookup? name entries

def required (name : CodeText) (reader : Reader α) (entries : List (CodeText × Json)) : Checked α :=
  (match member? name entries with
    | some value => reader value
    | none => .breaks .present).under (.member name)

def withDefault (name : CodeText) (reader : Reader α) (absent : α)
    (entries : List (CodeText × Json)) : Checked α :=
  match member? name entries with
  | some value => (reader value).under (.member name)
  | none => .valid absent

end OrcConversion.Raw
