import ModHost.Path

set_option autoImplicit false

/-!
# Files

The file system as scripts and their hosts see it: a tree below its root, given by its
nodes, with a working directory in it. Looking up a path walks its components, so a
missing directory, a file in the place of one, and a directory in the place of a file are
told apart.
-/

namespace ModHost

inductive FileError where
  | notFound
  | notDirectory
  | isDirectory
  | nameTooLong
  | nulInPath
  | invalidText
deriving DecidableEq, Repr, Inhabited

namespace FileError

def message : FileError → String
  | notFound => "No such file or directory (os error 2)"
  | notDirectory => "Not a directory (os error 20)"
  | isDirectory => "Is a directory (os error 21)"
  | nameTooLong => "File name too long (os error 36)"
  | nulInPath => "file name contained an unexpected NUL byte"
  | invalidText => "stream did not contain valid UTF-8"

end FileError

/-- A file with its content and modification time, or a directory with a count of the
changes to what it lists. -/
inductive FileNode where
  | file (content : ByteArray) (modified : Int)
  | dir (changes : Nat)

instance : Inhabited FileNode := ⟨.dir 0⟩

abbrev Place := List String

structure Files where
  nodes : List (Place × FileNode)
  rootChanges : Nat
  /-- The working directory, where relative paths start. -/
  working : Place
deriving Inhabited

namespace Files

def ofNodes (nodes : List (Place × FileNode)) : Files := ⟨nodes, 0, []⟩

def empty : Files := ofNodes []

def node? (f : Files) (place : Place) : Option FileNode :=
  match place with
  | [] => some (.dir f.rootChanges)
  | place => (f.nodes.find? (·.1 = place)).map (·.2)

/-- One step on a way. The root is its own parent. -/
def step (f : Files) (place : Place) (name : String) : Except FileError Place :=
  match f.node? place with
  | none => .error .notFound
  | some (.file _ _) => .error .notDirectory
  | some (.dir _) =>
    if name = ".." then .ok place.dropLast
    else if name.utf8ByteSize > 255 then .error .nameTooLong
    else .ok (place ++ [name])

def walk (f : Files) (place : Place) : List String → Except FileError Place
  | [] => .ok place
  | name :: rest =>
    match f.step place name with
    | .ok next => f.walk next rest
    | .error e => .error e

def start (f : Files) (p : Path) : Place := if Path.isAbsolute p then [] else f.working

/-- Where a path leads, and whether only a directory will do there. -/
def locate (f : Files) (p : Path) : Except FileError (Place × Bool) :=
  let pieces := Path.pieces p
  let names := pieces.filter fun c => c ≠ "" && c ≠ "."
  let wantsDir := match pieces.getLast? with
    | some c => c = "" || c = "."
    | none => false
  if p.toList.contains '\x00' then .error .nulInPath
  else if p = "" then .error .notFound
  else if p.utf8ByteSize > 4095 then .error .nameTooLong
  else (f.walk (f.start p) names).map fun place => (place, wantsDir)

def lookup (f : Files) (p : Path) : Except FileError FileNode := do
  let (place, wantsDir) ← f.locate p
  match f.node? place, wantsDir with
  | none, _ => throw .notFound
  | some (.file _ _), true => throw .notDirectory
  | some n, _ => pure n

def exists_ (f : Files) (p : Path) : Bool :=
  match f.lookup p with
  | .ok _ => true
  | .error _ => false

def readBytes (f : Files) (p : Path) : Except FileError ByteArray := do
  match ← f.lookup p with
  | .file content _ => pure content
  | .dir _ => throw .isDirectory

def readText (f : Files) (p : Path) : Except FileError String := do
  let bytes ← f.readBytes p
  match String.fromUTF8? bytes with
  | some s => pure s
  | none => throw .invalidText

/-- When a path last changed, if it exists: a file's time, or a mark of a directory's
changes. -/
inductive Stamp where
  | time (t : Int)
  | listing (changes : Nat)
deriving DecidableEq, Repr, Inhabited

def stamp? (f : Files) (p : Path) : Option Stamp :=
  match f.lookup p with
  | .ok (.file _ t) => some (.time t)
  | .ok (.dir n) => some (.listing n)
  | .error _ => none

def touchDir (f : Files) (place : Place) : Files :=
  match place with
  | [] => { f with rootChanges := f.rootChanges + 1 }
  | place =>
    { f with nodes := f.nodes.map fun (k, n) =>
        match n with
        | .dir c => if k = place then (k, .dir (c + 1)) else (k, n)
        | n => (k, n) }

def put (f : Files) (place : Place) (n : FileNode) : Files :=
  if f.nodes.any (·.1 = place) then
    { f with nodes := f.nodes.map fun (k, old) => if k = place then (k, n) else (k, old) }
  else
    let f := f.touchDir place.dropLast
    { f with nodes := f.nodes ++ [(place, n)] }

def write (f : Files) (p : Path) (content : ByteArray) (modified : Int) :
    Except FileError Files := do
  let (place, wantsDir) ← f.locate p
  match f.node? place with
  | some (.dir _) => throw .isDirectory
  | _ =>
    if wantsDir then throw .isDirectory
    else match f.node? place.dropLast with
      | some (.dir _) => pure (f.put place (.file content modified))
      | some (.file _ _) => throw .notDirectory
      | none => throw .notFound

end Files

end ModHost
