import OrcConversion.Failure
import OrcConversion.Text.Pieces

/-! Paths: the steps from the root to an entry, and what a path ends with. -/

namespace OrcConversion.Disk

open Text

/-- What a path ends with: a name or a step back, a slash after it, or a step that stays. -/
inductive Ending where
  | name
  | slash
  | dot
deriving DecidableEq, Repr

/-- Of two endings the one that asks for more. -/
def Ending.join : Ending → Ending → Ending
  | dot, _ => dot
  | _, dot => dot
  | slash, _ => slash
  | name, ending => ending

structure Path where
  names : List String
  ending : Ending := .name
  filling : Nat := 0
deriving DecidableEq, Repr

def pathNames (path : String) : List String :=
  (splitAt '/' path).filter fun name => name != "" && name != "."

inductive LastStep where
  | entry (name : String)
  | stay
  | back
  | top
deriving DecidableEq, Repr

namespace Path

/-- Bytes of names, each with the slash before it. -/
def sizeOfNames (names : List String) : Nat :=
  names.foldl (fun size name => size + name.utf8ByteSize + 1) 0

def written (path : String) : Path where
  names := pathNames path
  ending :=
    if (splitAt '/' path).reverse.find? (· != "") == some "." then .dot
    else if path.endsWith "/" then .slash
    else .name
  filling := path.utf8ByteSize - sizeOfNames (pathNames path)

def plain (path : String) : Path where
  names := pathNames path

def lastStep (path : Path) : LastStep :=
  match path.ending, path.names.getLast? with
  | .dot, _ => .stay
  | _, none => .top
  | _, some ".." => .back
  | _, some name => .entry name

/-- Names of the directory that the last step starts from. -/
def above (path : Path) : List String :=
  match path.ending with
  | .dot => path.names
  | _ => path.names.dropLast

def baseName (path : Path) : String :=
  match path.ending with
  | .dot => "."
  | _ => path.names.getLast?.getD ""

def step (path : Path) : String → Path
  | "" => { path with ending := .slash }
  | "." => { path with ending := .dot }
  | name => { path with names := path.names ++ [name], ending := .name }

def below (base path : Path) : Path :=
  { path with names := base.names ++ path.names }

/-- Names with steps back taken as if there were no links. -/
def straightNames (path : Path) : List String :=
  path.names.foldl (fun names name => if name == ".." then names.dropLast else names ++ [name]) []

def size (path : Path) : Nat := sizeOfNames path.names + path.filling

def sizeLimit : Nat := 4095

def isValid (path : Path) : Bool := !path.names.any (·.contains '\x00')

def check (paths : List Path) : Except DiskFault Unit :=
  if !paths.all isValid then .error .invalidName
  else if paths.any fun path => sizeLimit < path.size then .error .nameTooLong
  else .ok ()

end Path

end OrcConversion.Disk
