import OrcConversion.Disk.Change

/-! Actions: several changes of a tree, one after another. -/

namespace OrcConversion.Disk

/-- A step on a tree that may fail, and what it leaves of the tree. -/
abbrev Action := ExceptT DiskFault (StateM Tree)

namespace Action

def ask (question : Tree → Except DiskFault α) : Action α :=
  ExceptT.mk fun tree => (question tree, tree)

def change (edit : Tree → Except DiskFault Tree) : Action Unit :=
  ExceptT.mk fun tree =>
    match edit tree with
    | .ok changed => (.ok (), changed)
    | .error fault => (.error fault, tree)

def on (action : Action α) (tree : Tree) : Except DiskFault α × Tree :=
  action.run.run tree

@[simp] theorem on_pure (value : α) (tree : Tree) :
    (pure value : Action α).on tree = (.ok value, tree) := rfl

@[simp] theorem on_throw (fault : DiskFault) (tree : Tree) :
    (throw fault : Action α).on tree = (.error fault, tree) := rfl

@[simp] theorem on_get (tree : Tree) : (get : Action Tree).on tree = (.ok tree, tree) := rfl

@[simp] theorem on_set (tree other : Tree) : (set other : Action PUnit).on tree = (.ok ⟨⟩, other) :=
  rfl

@[simp] theorem on_ask (question : Tree → Except DiskFault α) (tree : Tree) :
    (ask question).on tree = (question tree, tree) := rfl

theorem on_change (edit : Tree → Except DiskFault Tree) (tree : Tree) :
    (change edit).on tree =
      match edit tree with
      | .ok changed => (.ok (), changed)
      | .error fault => (.error fault, tree) := rfl

/-- A failure ends an action, and the tree stays as it is then. -/
theorem on_bind (action : Action α) (next : α → Action β) (tree : Tree) :
    (action >>= next).on tree =
      match action.on tree with
      | (.ok value, left) => (next value).on left
      | (.error fault, left) => (.error fault, left) := by
  change (ExceptT.bindCont next (action.on tree).1).run (action.on tree).2 = _
  rcases action.on tree with ⟨_ | _, left⟩ <;> rfl

/-! ## Removing directories -/

/-- Order in which entries are removed: what is in a directory before the directory, and otherwise
by name. -/
def removedBefore : Place → Place → Bool
  | _, [] => true
  | [], _ :: _ => false
  | name :: rest, other :: others =>
      if name = other then removedBefore rest others else name < other

def mayRemove (tree : Tree) (found : Place × Entry) : Bool :=
  tree.holdsAt found.1.dropLast (·.allows 0o700) &&
    (!found.2.isDirectory || found.2.isReadable)

/-- Removes everything below a place, up to the first entry that has to stay. -/
def clear (top : Place) : Action Unit := do
  let tree ← get
  let order := (tree.below top).mergeSort fun left right => removedBefore left.1 right.1
  let gone := order.takeWhile (mayRemove tree)
  set (gone.foldl (fun tree found => tree.erase found.1) tree)
  if gone.length < order.length then throw .denied

def removeTree (path : Path) : Action Unit := do
  let (place, entry) ← ask (·.ownStatus path)
  if !entry.isDirectory then throw .notADirectory
  if !entry.isReadable then throw .denied
  clear place
  change (·.removeDirectory path)

/-! ## Copying -/

/-- Copies a directory to a free path, with what is in it as far as that can be read. What is in it
is listed before the copy is made, so that a copy right inside the directory is not copied again;
deeper inside there is no end of it. -/
def copyTree (source dest : Path) : Action Unit := do
  let (place, entry) ← ask (·.status source)
  let some copy := entry.legible? | throw .denied
  change (·.makeOne dest permissionBits)
  let goal ← ask (·.follow dest)
  if place.isPrefixOf goal && place.length + 1 < goal.length then throw .tooDeep
  change fun tree => .ok (tree.put goal copy)
  if (copy.descendants []).length < (entry.descendants []).length then throw .moveConflict

def copyFile (source dest : Path) : Action Unit := do
  let tree ← get
  if tree.samePlace source dest then throw .sameFile
  match ← ask (·.status source) with
  | (_, .file permission text) =>
      if !(Entry.file permission text).isReadable then throw .denied
      change (·.writeFile dest text)
      change (·.setPermission dest permission)
  | _ => throw .isADirectory

end Action

end OrcConversion.Disk
