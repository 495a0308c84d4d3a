import OrcConversion.Disk.Tree

/-! How paths are looked up in a tree. -/

namespace OrcConversion.Disk

def linkLimit : Nat := 40

def nameLimit : Nat := 255

inductive Purpose where
  | entry
  | target
  /-- For a file to be written, which is made if there is none: no slash may follow its name. -/
  | writing
deriving DecidableEq, Repr

namespace Tree

/-- Place that names lead to from another place, given what the path ends with. A path that ends
with a name may lead to a free place; a link there is followed unless the entry itself is asked for.
-/
def walk (tree : Tree) (purpose : Purpose) :
    Nat → Place → List String → Ending → Except DiskFault Place
  | _, here, [], ending =>
      if ending = .dot && !tree.holdsAt here Entry.isSearchable then .error .denied else .ok here
  | links, here, name :: rest, ending =>
      let next := here ++ [name]
      let ends := rest.isEmpty && ending = .name
      if !tree.holdsAt here Entry.isSearchable then .error .denied
      else if name = ".." then tree.walk purpose links here.dropLast rest ending
      else if purpose = .writing && rest.isEmpty && ending = .slash then .error .isADirectory
      else if nameLimit < name.utf8ByteSize then .error .nameTooLong
      else
        match tree.entry? next with
        | none => if ends then .ok next else .error .notFound
        | some (.directory _ _) => tree.walk purpose links next rest ending
        | some (.file _ _) => if ends then .ok next else .error .notADirectory
        | some (.link target) =>
            if ends && purpose = .entry then .ok next
            else
              match links with
              | 0 => .error .linkLoop
              | links + 1 =>
                  tree.walk purpose links [] (target.names ++ rest)
                    (if rest.isEmpty then target.ending.join ending else ending)
termination_by links _ names => (links, names.length)

def follow (tree : Tree) (path : Path) : Except DiskFault Place := do
  Path.check [path]
  tree.walk .target linkLimit [] path.names path.ending

def locate (tree : Tree) (path : Path) : Except DiskFault Place := do
  Path.check [path]
  tree.walk .entry linkLimit [] path.names path.ending

def locateFile (tree : Tree) (path : Path) : Except DiskFault Place := do
  Path.check [path]
  tree.walk .writing linkLimit [] path.names path.ending

/-- Place of the directory that the last step of a path starts from. -/
def locateAbove (tree : Tree) (path : Path) : Except DiskFault Place := do
  Path.check [path]
  tree.walk .target linkLimit [] path.above .dot

def occupied (tree : Tree) (place : Place) : Except DiskFault (Place × Entry) :=
  match tree.entry? place with
  | some entry => .ok (place, entry)
  | none => .error .notFound

def status (tree : Tree) (path : Path) : Except DiskFault (Place × Entry) := do
  tree.occupied (← tree.follow path)

def ownStatus (tree : Tree) (path : Path) : Except DiskFault (Place × Entry) := do
  tree.occupied (← tree.locate path)

/-! ## Questions without faults -/

def isDirectory (tree : Tree) (path : Path) : Bool :=
  match tree.status path with
  | .ok (_, entry) => entry.isDirectory
  | .error _ => false

def hasPath (tree : Tree) (path : Path) : Bool :=
  (tree.status path).isOk

def linkTarget? (tree : Tree) (path : Path) : Option Path :=
  match tree.ownStatus path with
  | .ok (_, .link target) => some target
  | _ => none

def samePlace (tree : Tree) (left right : Path) : Bool :=
  match tree.status left, tree.status right with
  | .ok (left, _), .ok (right, _) => left == right
  | _, _ => false

/-! ## Questions with faults -/

def saysAbsent : DiskFault → Bool
  | .notFound | .notADirectory | .linkLoop | .invalidName => true
  | _ => false

def holds (property : Entry → Bool) : Except DiskFault (Place × Entry) → Except DiskFault Bool
  | .ok (_, entry) => .ok (property entry)
  | .error fault => if saysAbsent fault then .ok false else .error fault

def findsPath (tree : Tree) (path : Path) : Except DiskFault Bool :=
  holds (fun _ => true) (tree.status path)

def findsDirectory (tree : Tree) (path : Path) : Except DiskFault Bool :=
  holds Entry.isDirectory (tree.status path)

def findsLink (tree : Tree) (path : Path) : Except DiskFault Bool :=
  holds (fun | .link _ => true | _ => false) (tree.ownStatus path)

end Tree

end OrcConversion.Disk
