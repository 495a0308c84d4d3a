import OrcConversion.Arrow.DataType
import OrcConversion.Text.Pieces

/-! Looking up fields by name and by dotted path. -/

namespace OrcConversion.Arrow

open Text

def field? (name : String) (fields : List Field) : Option Field :=
  match fields.filter (·.name == name) with
  | [field] => some field
  | _ => none

def DataType.fields? : DataType → Option (List Field)
  | .struct fields => some fields
  | _ => none

/-- Whether a path, step by step through structs, ends at a field. -/
def resolves (fields : List Field) : List String → Bool
  | [] => true
  | name :: path =>
      match field? name fields with
      | none => false
      | some field =>
          match path, field.type.fields? with
          | [], _ => true
          | _ :: _, some inner => resolves inner path
          | _ :: _, none => false

def pathSteps (path : String) : List String := splitAt '.' path

def Schema.hasPath (schema : Schema) (path : String) : Bool :=
  resolves schema (pathSteps path)

theorem mem_of_field? {name : String} {fields : List Field} {field : Field}
    (h : field? name fields = some field) : field ∈ fields ∧ field.name = name := by
  unfold field? at h
  split at h
  · rename_i only heq
    cases h
    have hmem : field ∈ fields.filter (·.name == name) := by simp [heq]
    simpa using hmem
  · simp at h

end OrcConversion.Arrow
