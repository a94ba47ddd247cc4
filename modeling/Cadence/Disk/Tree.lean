/-
Files and folders.

The tree lists what is known to exist, each place by its parts from the working
folder or, behind a slash as its first part, from the top; these two always
exist. Every operation first walks the path to a place, which needs each folder
on the way to be there, and then looks at the place or changes it.
-/
import Cadence.Disk.Path
import Cadence.Fault

set_option autoImplicit false

namespace Cadence

/-- What stands at a place. -/
inductive Entry
  | file (text : String)
  | folder
deriving DecidableEq, Repr, Inhabited

/-- The places that exist; each is listed once. -/
structure Tree where
  entries : List (List String × Entry) := []
deriving DecidableEq, Repr, Inhabited

namespace Tree

/-! ## Places -/

def top : List String := ["/"]

def find? (t : Tree) (place : List String) : Option Entry :=
  if place.isEmpty || place = top then some .folder else t.entries.lookup place

/-- The folder that a folder stands in; the top stands in itself. -/
def above (folder : List String) : List String := if folder = top then top else folder.dropLast

/-- Follows parts from a folder. Two dots lead back; the last part need not exist. -/
def walk (t : Tree) (folder : List String) : List String → Except SystemFault (List String)
  | [] => .ok folder
  | ".." :: rest => walk t (above folder) rest
  | part :: rest =>
    let place := folder ++ [part]
    if rest.isEmpty then .ok place
    else match t.find? place with
      | some .folder => walk t place rest
      | some (.file _) => .error .notADirectory
      | none => .error .notFound

/-- The place a path leads to. -/
def place (t : Tree) (p : Path) : Except SystemFault (List String) :=
  t.walk (if p.rooted then top else []) p.parts

/-- The path that leads to a place. -/
def pathTo (place : List String) : Path :=
  if place.head? = some "/" then ⟨true, place.tail⟩ else ⟨false, place⟩

/-- What stands where a path leads to. -/
def look (t : Tree) (p : Path) : Option Entry :=
  match t.place p with
  | .ok place => t.find? place
  | .error _ => none

def contains (t : Tree) (p : Path) : Bool := (t.look p).isSome

def isFolder (t : Tree) (p : Path) : Bool := t.look p == some .folder

def set (t : Tree) (place : List String) (e : Entry) : Tree :=
  let rec go : List (List String × Entry) → List (List String × Entry)
    | [] => [(place, e)]
    | (q, f) :: rest => if q = place then (q, e) :: rest else (q, f) :: go rest
  ⟨go t.entries⟩

def erase (t : Tree) (place : List String) : Tree :=
  ⟨t.entries.filter (fun e => e.1 != place)⟩

/-! ## Files -/

/-- A text with each line ending in a single newline. -/
def plainLines : List Char → List Char
  | '\r' :: '\n' :: r => '\n' :: plainLines r
  | '\r' :: r => '\n' :: plainLines r
  | c :: r => c :: plainLines r
  | [] => []

/-- The text of a file, line by line. -/
def read (t : Tree) (p : Path) : Except SystemFault String := do
  match t.find? (← t.place p) with
  | some (.file text) => pure (String.ofList (plainLines text.toList))
  | some .folder => .error .isADirectory
  | none => .error .notFound

/-- Writes a file, with what `change` makes of its former text. -/
def update (t : Tree) (p : Path) (change : String → String) : Except SystemFault Tree := do
  let place ← t.place p
  match t.find? place with
  | some (.file text) => pure (t.set place (.file (change text)))
  | some .folder => .error .isADirectory
  | none => pure (t.set place (.file (change "")))

def write (t : Tree) (p : Path) (text : String) : Except SystemFault Tree :=
  t.update p (fun _ => text)

def append (t : Tree) (p : Path) (text : String) : Except SystemFault Tree :=
  t.update p (· ++ text)

def remove (t : Tree) (p : Path) : Tree :=
  match t.place p with
  | .ok place => t.erase place
  | .error _ => t

def move (t : Tree) (source target : Path) : Except SystemFault Tree := do
  match t.look source with
  | some (.file text) => (t.remove source).write target text
  | _ => .error .notFound

/-! ## Folders -/

def makeFolder (t : Tree) (p : Path) : Except SystemFault Tree := do
  let place ← t.place p
  match t.find? place with
  | some _ => .error .fileExists
  | none => pure (t.set place .folder)

/-- Makes a folder, and before it, when it is missing, the folder it stands in. One
that exists is left alone. -/
def makeFolders (t : Tree) (p : Path) : Nat → Except SystemFault Tree
  | 0 => .error .notFound
  | depth + 1 =>
    let settle (t : Tree) (e : SystemFault) : Except SystemFault Tree :=
      if t.isFolder p then .ok t else .error e
    match t.makeFolder p with
    | .ok u => .ok u
    -- the folder above is missing: make it first
    | .error .notFound => do
      let u ← t.makeFolders p.parent depth
      match u.makeFolder p with
      | .ok v => .ok v
      | .error e => settle u e
    | .error e => settle t e

/-- Makes the folder of a path, with those it stands in. -/
def ensureFolder (t : Tree) (p : Path) : Except SystemFault Tree :=
  t.makeFolders p (p.parts.length + 1)

/-! ## Lists of files -/

/-- The tree with some files in it, and the folders they stand in. -/
def ofFiles (files : List (Path × String)) : Tree :=
  files.foldl (fun t (p, text) =>
    match t.ensureFolder p.parent with
    | .ok u => (u.write p text).toOption.getD u
    | .error _ => t) {}

/-- The files with their paths and texts. -/
def files (t : Tree) : List (String × String) :=
  t.entries.filterMap (fun (place, e) => match e with
    | .file text => some ((pathTo place).text, text)
    | .folder => none)

end Tree

end Cadence
