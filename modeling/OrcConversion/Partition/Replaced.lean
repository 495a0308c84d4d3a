import OrcConversion.Partition.Spec

/-! Replaced partitions: the partitions that a coarser one retires when it is published. -/

namespace OrcConversion.Partition

open Text

def replacedKey : String := "gobblin.replaced.partitions"

def encodeOne (values : OrderedMap String) : String :=
  ",".intercalate (values.entries.map fun (key, value) => key ++ "=" ++ value)

def encode (partitions : List (OrderedMap String)) : String :=
  "|".intercalate (partitions.map encodeOne)

/-- Groups of a size, the last one holding what is left. -/
def groupsOf (size : Nat) (values : List α) : List (List α) :=
  if size = 0 ∨ values = [] then []
  else values.take size :: groupsOf size (values.drop size)
termination_by values.length
decreasing_by
  rename_i h
  obtain ⟨hsize, hvalues⟩ := not_or.mp h
  have := List.length_pos_iff.mpr hvalues
  simp only [List.length_drop]
  omega

def segmentValues (segment : String) : Except Failure (List String) :=
  (commaItems segment).mapM fun token => (parseToken token).map (·.2)

/-- Partitions of a segment, except the current one. -/
def decodeSegment (keys current : List String) (segment : String) :
    Except Failure (List (OrderedMap String)) := do
  let values ← segmentValues segment
  if values.length % keys.length ≠ 0 then
    throw (.misconfigured (.incompleteGroup segment keys))
  else
    return ((groupsOf keys.length values).filter (· != current)).map fun group =>
      .ofList (keys.zip group)

def decode (encoded : Option String) (keys current : List String) :
    Except Failure (List (OrderedMap String)) :=
  match encoded.filter (!isBlankText ·) with
  | none => .ok []
  | some text =>
      if keys.isEmpty then .error (.misconfigured (.replacedWithoutKeys text))
      else do
        let segments ← (words (· == '|') text).mapM (decodeSegment keys current)
        return segments.flatten

/-- Partitions that a partition replaces. -/
def replacedBy : Option SourcePartition → Except Failure (List (OrderedMap String))
  | none => .ok []
  | some partition =>
      match (partition.parameters.lookup? replacedKey).filter (!isBlankText ·) with
      | none => .ok []
      | some text => do
          let tokens ← (nameTokens partition.name).mapM parseToken
          decode (some text) (tokens.map (·.1)) partition.values

end OrcConversion.Partition
