import OrcConversion.Disk.Path
import OrcConversion.OrderedMap

/-! Entries of directories: directories with entries of their own, files and links, with
permissions. -/

namespace OrcConversion.Disk

/-- Names from a directory down to an entry. -/
abbrev Place := List String

inductive Entry where
  | directory (permission : Nat) (entries : List (String × Entry))
  | file (permission : Nat) (text : String)
  | link (target : Path)

def permissionBits : Nat := 0o7777

namespace Entry

def permission : Entry → Nat
  | directory permission _ => permission
  | file permission _ => permission
  | link _ => 0o777

def withPermission (permission : Nat) : Entry → Entry
  | directory _ entries => directory permission entries
  | file _ text => file permission text
  | link target => link target

def isDirectory : Entry → Bool
  | directory _ _ => true
  | _ => false

def allows (bits : Nat) (entry : Entry) : Bool :=
  entry.permission &&& bits == bits

def isReadable (entry : Entry) : Bool := entry.allows 0o400

def isWritable (entry : Entry) : Bool := entry.allows 0o200

def isSearchable (entry : Entry) : Bool := entry.allows 0o100

def isOpen (entry : Entry) : Bool := entry.allows 0o300

/-! ## Places -/

def find? : Place → Entry → Option Entry
  | [], entry => some entry
  | name :: rest, directory _ entries => (Entries.lookup? name entries).bind (find? rest)
  | _ :: _, _ => none

/-- Entries with an entry set for a name, or without one. -/
def setNamed (name : String) (entry : Option Entry) (entries : List (String × Entry)) :
    List (String × Entry) :=
  match entry with
  | some entry => Entries.insert name entry entries
  | none => entries.filter (·.1 != name)

/-- What there is with an entry set at a place below it, or without one there. Where there is no
directory for it, nothing is changed. -/
def setAt (entry : Option Entry) : Place → Option Entry → Option Entry
  | [], _ => entry
  | name :: rest, some (directory permission entries) =>
      some (directory permission
        (setNamed name (setAt entry rest (Entries.lookup? name entries)) entries))
  | _ :: _, old => old

@[simp] theorem find?_nil (entry : Entry) : entry.find? [] = some entry := by
  cases entry <;> rfl

@[simp] theorem find?_directory_cons (permission : Nat) (entries : List (String × Entry))
    (name : String) (rest : Place) :
    (directory permission entries).find? (name :: rest) =
      (Entries.lookup? name entries).bind (find? rest) := rfl

theorem lookup?_setNamed_self (name : String) (entry : Option Entry)
    (entries : List (String × Entry)) :
    Entries.lookup? name (setNamed name entry entries) = entry := by
  cases entry with
  | some entry => exact Entries.lookup?_insert_self name entry entries
  | none =>
      have h : (entries.filter (·.1 != name)).find? (·.1 == name) = none := by
        simp [List.find?_eq_none]
      simp [setNamed, Entries.lookup?, h]

theorem find?_setAt_self {entry : Option Entry} {above : Place} {name : String} {permission : Nat}
    {entries : List (String × Entry)} {top : Entry}
    (h : top.find? above = some (directory permission entries)) :
    (setAt entry (above ++ [name]) (some top)).bind (find? (above ++ [name])) = entry := by
  induction above generalizing top with
  | nil =>
      simp only [find?_nil, Option.some.injEq] at h
      subst h
      simp only [List.nil_append, setAt, Option.bind_some, find?_directory_cons,
        lookup?_setNamed_self]
      cases entry <;> simp
  | cons first rest ih =>
      cases top with
      | directory other inner =>
          simp only [find?_directory_cons, Option.bind_eq_some_iff] at h
          obtain ⟨next, hnext, hrest⟩ := h
          simp only [List.cons_append, setAt, Option.bind_some, find?_directory_cons,
            lookup?_setNamed_self, hnext]
          exact ih hrest
      | file => simp [find?] at h
      | link => simp [find?] at h

/-! ## What is below -/

mutual

def descendants (here : Place) : Entry → List (Place × Entry)
  | directory _ entries => allDescendants here entries
  | file _ _ => []
  | link _ => []

def allDescendants (here : Place) : List (String × Entry) → List (Place × Entry)
  | [] => []
  | (name, entry) :: rest =>
      (here ++ [name], entry) :: entry.descendants (here ++ [name]) ++ allDescendants here rest

end

mutual

/-- An entry with as much of what is below it as can be read; none if it cannot be read itself. -/
def legible? : Entry → Option Entry
  | directory permission entries =>
      let inner := if (directory permission []).isSearchable then allLegible entries else []
      if (directory permission []).isReadable then some (directory permission inner) else none
  | file permission text =>
      if (file permission text).isReadable then some (file permission text) else none
  | link target => some (link target)

def allLegible : List (String × Entry) → List (String × Entry)
  | [] => []
  | (name, entry) :: rest =>
      match entry.legible? with
      | some entry => (name, entry) :: allLegible rest
      | none => allLegible rest

end

mutual

/-- Everything below an entry that can be come across, with its place. What is in a directory that
cannot be read stays hidden; none if anything else is out of reach, or is a file that cannot be
read. -/
def listing? (here : Place) : Entry → Option (List (Place × Entry))
  | directory permission entries =>
      if !(directory permission []).isReadable then some []
      else if entries.isEmpty || (directory permission []).isSearchable then listAll? here entries
      else none
  | file permission text => if (file permission text).isReadable then some [] else none
  | link _ => some []

def listAll? (here : Place) : List (String × Entry) → Option (List (Place × Entry))
  | [] => some []
  | (name, entry) :: rest => do
      let inner ← entry.listing? (here ++ [name])
      return (here ++ [name], entry) :: inner ++ (← listAll? here rest)

end

end Entry

end OrcConversion.Disk
