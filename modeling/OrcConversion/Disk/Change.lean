import OrcConversion.Disk.Lookup

/-! Single changes of a tree. -/

namespace OrcConversion.Disk

def madeBits : Nat := 0o1755

def filePermission : Nat := 0o644

def groupBit : Nat := 0o2000

/-- Permission of a file whose text was written: it no longer takes on a user or a group. -/
def writtenPermission (permission : Nat) : Nat :=
  if permission &&& 0o010 = 0 then permission &&& 0o3777 else permission &&& 0o1777

namespace Tree

def setPermission (tree : Tree) (path : Path) (permission : Nat) : Except DiskFault Tree := do
  let (place, entry) ← tree.status path
  return tree.put place (entry.withPermission (permission &&& permissionBits))

/-- A free place at the end of a path, in a directory that is open. Only a directory may get a path
that ends with a slash. -/
def freePlace (tree : Tree) (path : Path) (forDirectory : Bool) : Except DiskFault Place := do
  let above ← tree.locateAbove path
  match path.lastStep with
  | .entry name =>
      let place := above ++ [name]
      if nameLimit < name.utf8ByteSize then throw .nameTooLong
      if (tree.entry? place).isSome then throw .alreadyExists
      if path.ending = .slash && !forDirectory then throw .notFound
      if !tree.holdsAt above Entry.isOpen then throw .denied
      return place
  | _ => throw .alreadyExists

def makeOne (tree : Tree) (path : Path) (permission : Nat) : Except DiskFault Tree := do
  let place ← tree.freePlace path true
  let above := ((tree.entry? place.dropLast).map (·.permission)).getD 0
  return tree.put place (.directory ((permission &&& madeBits) ||| (above &&& groupBit)) [])

def makeLink (tree : Tree) (path target : Path) : Except DiskFault Tree := do
  Path.check [target, path]
  return tree.put (← tree.freePlace path false) (.link target)

def removeDirectory (tree : Tree) (path : Path) : Except DiskFault Tree := do
  let above ← tree.locateAbove path
  match path.lastStep with
  | .entry name =>
      let (place, entry) ← tree.occupied (above ++ [name])
      if !tree.holdsAt above Entry.isOpen then throw .denied
      if !entry.isDirectory then throw .notADirectory
      if !(tree.below place).isEmpty then throw .notEmpty
      return tree.erase place
  | .stay => throw .intoItself
  | .back => throw .notEmpty
  | .top => return tree

def removeFile (tree : Tree) (path : Path) : Except DiskFault Tree := do
  let above ← tree.locateAbove path
  match path.lastStep with
  | .entry name =>
      let (place, entry) ← tree.occupied (above ++ [name])
      if path.ending = .slash then
        throw (if entry.isDirectory then .isADirectory else .notADirectory)
      if !tree.holdsAt above Entry.isOpen then throw .denied
      if entry.isDirectory then throw .isADirectory
      return tree.erase place
  | _ => throw .isADirectory

def writeFile (tree : Tree) (path : Path) (text : String) : Except DiskFault Tree := do
  let place ← tree.locateFile path
  match tree.entry? place with
  | some (.file permission old) =>
      if (Entry.file permission old).isWritable then
        return tree.put place (.file (writtenPermission permission) text)
      else throw .denied
  | some _ => throw .isADirectory
  | none =>
      if tree.holdsAt place.dropLast Entry.isOpen then
        return tree.put place (.file filePermission text)
      else throw .denied

/-! ## Renaming -/

/-- What keeps an entry from being put in the place of another: an empty directory makes way for a
directory, anything but a directory for anything else. -/
def displace (tree : Tree) (entry : Entry) (goal : Place) : Except DiskFault Unit :=
  match tree.entry? goal with
  | none => .ok ()
  | some other =>
      if entry.isDirectory && !other.isDirectory then .error .notADirectory
      else if other.isDirectory && !entry.isDirectory then .error .isADirectory
      else .ok ()

/-- Gives the entry at a place another place. A directory that gets another directory above it has
to be writable itself. -/
def relocate (tree : Tree) (entry : Entry) (origin goal : Place) : Except DiskFault Tree := do
  if origin.isPrefixOf goal.dropLast then throw .intoItself
  if goal.isPrefixOf origin.dropLast then throw .notEmpty
  if origin = goal then return tree
  if !tree.holdsAt origin.dropLast Entry.isOpen then throw .denied
  if !tree.holdsAt goal.dropLast Entry.isOpen then throw .denied
  tree.displace entry goal
  if entry.isDirectory && origin.dropLast != goal.dropLast && !entry.isWritable then throw .denied
  if !(tree.below goal).isEmpty then throw .notEmpty
  return (tree.erase origin).put goal entry

/-- Gives an entry another path. Only a directory has a path that ends with a slash. -/
def rename (tree : Tree) (source dest : Path) : Except DiskFault Tree := do
  Path.check [source, dest]
  let origin ← tree.locateAbove source
  let goal ← tree.locateAbove dest
  match source.lastStep, dest.lastStep with
  | .entry name, .entry other =>
      if nameLimit < name.utf8ByteSize then throw .nameTooLong
      let (place, entry) ← tree.occupied (origin ++ [name])
      if nameLimit < other.utf8ByteSize then throw .nameTooLong
      if !entry.isDirectory && (source.ending != .name || dest.ending != .name) then
        throw .notADirectory
      tree.relocate entry place (goal ++ [other])
  | _, _ => throw .busy

end Tree

end OrcConversion.Disk
