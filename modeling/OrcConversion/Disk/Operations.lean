import OrcConversion.Disk.Action
import OrcConversion.Number.Word
import OrcConversion.Workflow.Services

/-! Operations on files and directories by path, and file services that perform them in a directory
of a tree. -/

namespace OrcConversion.Disk

open Number

namespace Action

/-! ## Permissions -/

def permission (path : Path) : Action Int := do
  return (← ask (·.status path)).2.permission

def bitsFor (path : Path) (permission : Int) : Action Nat :=
  if !path.isValid then throw .invalidName
  else if fitsSigned 32 permission then pure (permission % (permissionBits + 1)).toNat
  else throw .permissionTooLarge

def setPermission (path : Path) (permission : Int) : Action Unit := do
  let bits ← bitsFor path permission
  change (·.setPermission path bits)

/-! ## Making directories -/

def usualPermission : Nat := 0o755

def unlessDirectory (path : Path) (fault : DiskFault) : Action Unit := do
  if !(← ask (·.findsDirectory path)) then throw fault

/-- Makes a directory and those above it. The names of the path are given from its end. -/
def makeAll (permission : Nat) : List String → Action Unit
  | [] => return
  | name :: above => do
      let path : Path := ⟨(name :: above).reverse, .name, 0⟩
      match (← get).makeOne path permission with
      | .ok tree => set tree
      | .error .notFound =>
          makeAll usualPermission above
          match (← get).makeOne path permission with
          | .ok tree => set tree
          | .error .notFound => throw .notFound
          | .error fault => unlessDirectory path fault
      | .error fault => unlessDirectory path fault

def makeDirectory (path : Path) (permission : Int) : Action Bool := do
  makeAll (← bitsFor path permission) path.names.reverse
  ask (·.findsDirectory path)

def makeAbove (path : Path) : Action Unit :=
  makeAll usualPermission path.names.dropLast.reverse

/-! ## Moving -/

/-- Moves an entry by copying and removing it. `dest` is where the move was asked to go to, `goal`
the path that the entry gets. -/
def carry (source dest goal : Path) : Action Unit := do
  let tree ← get
  match tree.linkTarget? source with
  | some target =>
      change (·.makeLink goal target)
      change (·.removeFile source)
  | none =>
      if tree.isDirectory source then
        if source.straightNames.isPrefixOf dest.straightNames then throw .moveConflict
        copyTree source goal
        removeTree source
      else
        copyFile source goal
        change (·.removeFile source)

def transfer (source dest goal : Path) : Action Unit := do
  match (← get).rename source goal with
  | .ok tree => set tree
  | .error .invalidName => throw .invalidName
  | .error _ => carry source dest goal

def move (source dest : Path) : Action Unit := do
  makeAbove dest
  if !source.isValid then throw .invalidName
  let tree ← get
  if tree.isDirectory dest then
    if tree.samePlace source dest then change (·.rename source dest)
    else
      let goal := dest.step source.baseName
      if tree.hasPath goal then throw .moveConflict
      transfer source dest goal
  else transfer source dest dest

/-! ## Deleting and writing -/

/-- Removes an entry with everything in it; nothing happens where there is none. Of a link only the
link is removed. -/
def delete (path : Path) : Action Unit := do
  let isDirectory ← ask (·.findsDirectory path)
  let isLink ← ask (·.findsLink path)
  if isDirectory && !isLink then removeTree path
  else if isLink || (← ask (·.findsPath path)) then change (·.removeFile path)

/-- Makes a directory, after those above it that are not there; what there is in place of one of
these shows only then. The names of the path are given from its end, and how many bytes it has
besides. -/
def makeMissing (filling : Nat) : List String → Action Unit
  | [] => return
  | name :: above => do
      if !(← get).hasPath ⟨above.reverse, .name, filling⟩ then
        tryCatch (makeMissing filling above) fun fault =>
          if fault = .alreadyExists then pure () else throw fault
      let path : Path := ⟨(name :: above).reverse, .name, filling⟩
      match (← get).makeOne path usualPermission with
      | .ok tree => set tree
      | .error fault => if !(← get).isDirectory path then throw fault

def write (path : Path) (text : String) : Action Unit := do
  let above := if path.ending = .name then path.names.dropLast else path.names
  makeMissing path.filling above.reverse
  change (·.writeFile path text)

end Action

/-! ## File services -/

def Action.reply (action : Action α) (state : Tree × σ) : Except Failure α × (Tree × σ) :=
  let (result, tree) := action.on state.1
  (result.mapError fun fault => .foreign (.disk fault), tree, state.2)

/-- Services whose files are in a directory of a disk; everything else is answered by other
services. The source of a move is taken as it is written. -/
def services (base : Path) (others : Services σ) : Services (Tree × σ) where
  answer
    | .permission path, state => (Action.permission (base.below (.plain path))).reply state
    | .makeDirectory path permission, state =>
        (Action.makeDirectory (base.below (.plain path)) permission).reply state
    | .setPermission path permission, state =>
        (Action.setPermission (base.below (.plain path)) permission).reply state
    | .checkPath path, state =>
        (Action.ask (·.findsPath (base.below (.plain path)))).reply state
    | .move source dest, state =>
        (Action.move (base.below (.written source)) (base.below (.plain dest))).reply state
    | .delete path, state => (Action.delete (base.below (.plain path))).reply state
    | .execute statement, (tree, state) =>
        let (reply, state) := others.answer (.execute statement) state
        (reply, tree, state)
    | .lookupTable db table, (tree, state) =>
        let (reply, state) := others.answer (.lookupTable db table) state
        (reply, tree, state)
    | .listPartitions table, (tree, state) =>
        let (reply, state) := others.answer (.listPartitions table) state
        (reply, tree, state)

end OrcConversion.Disk
