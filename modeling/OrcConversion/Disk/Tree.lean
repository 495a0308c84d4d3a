import OrcConversion.Disk.Entry

/-! Directory trees: a root, which is always there, and what is below it. -/

namespace OrcConversion.Disk

structure Tree where
  rootPermission : Nat := 0o755
  entries : List (String × Entry) := []

def Place.text (place : Place) : String :=
  "/" ++ "/".intercalate place

namespace Tree

def empty : Tree := {}

def root (tree : Tree) : Entry := .directory tree.rootPermission tree.entries

def entry? (tree : Tree) (place : Place) : Option Entry := tree.root.find? place

def holdsAt (tree : Tree) (place : Place) (property : Entry → Bool) : Bool :=
  (tree.entry? place).any property

/-- A tree with the entry at a place set, or without one. The root stays a directory. -/
def set (tree : Tree) (place : Place) (entry : Option Entry) : Tree :=
  match Entry.setAt entry place (some tree.root) with
  | some (.directory permission entries) => ⟨permission, entries⟩
  | _ => tree

def put (tree : Tree) (place : Place) (entry : Entry) : Tree := tree.set place (some entry)

def erase (tree : Tree) (place : Place) : Tree := tree.set place none

def below (tree : Tree) (place : Place) : List (Place × Entry) :=
  ((tree.entry? place).map (·.descendants place)).getD []

/-- Entries below a directory by their paths from there, in the order of these, as far as they can
be come across; none if they cannot all be looked into. -/
def listing? (tree : Tree) (top : Place) : Option (List (String × Entry)) :=
  match tree.entry? top with
  | some (.directory permission entries) =>
      ((Entry.directory permission entries).listing? []).map fun found =>
        (found.map fun (place, entry) => (place.text, entry)).mergeSort
          fun left right => left.1 ≤ right.1
  | _ => some []

end Tree

end OrcConversion.Disk
